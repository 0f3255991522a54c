/-!
# Item stacks

What destroyed blocks leave behind. A stack has a limit of its own, and merging obeys the smaller of
that limit and a cap that the caller sets.
-/

namespace Crater

structure ItemId where
  index : Nat
  deriving DecidableEq, Hashable, Inhabited

/-- Items of one kind. Stacks with different tags never merge. -/
structure ItemStack where
  item : ItemId
  count : Nat
  maxStack : Nat := 64
  tag : Nat := 0
  deriving DecidableEq, Inhabited

namespace ItemStack

def defaultMaxStack : Nat := 64

def isEmpty (s : ItemStack) : Bool := s.count == 0

/-- Whether items of `other` may go onto `s`: same item and tag, both below their own limits, and
something to move. -/
def isMergeableWith (s other : ItemStack) : Bool :=
  s.item == other.item && s.tag == other.tag && s.count < s.maxStack &&
    other.count < other.maxStack && !other.isEmpty

/-- How many items go from `source` onto `s` under `cap`. -/
def room (s source : ItemStack) (cap : Nat) : Nat :=
  min (min s.maxStack cap - s.count) source.count

/-- Moves items from `source` onto `s` up to the smaller of the limit of `s` and `cap`. -/
def mergeFrom (s source : ItemStack) (cap : Nat) : ItemStack × ItemStack :=
  let moved := s.room source cap
  ({ s with count := s.count + moved }, { source with count := source.count - moved })

end ItemStack

end Crater
