import Crater.Geometry.Position
import Crater.Item
/-!
# Drop merging

The items of one detonation are gathered on as few stacks as the limits allow. A new stack is offered
to the stacks already there, from the first to the last, and what is left of it becomes a stack of its
own at the place where it fell.
-/

namespace Crater

/-- Stacks with the position at which each was started. -/
abbrev DropEntries := List (ItemStack × Position)

namespace DropEntries

/-- Offers `stack` to each entry in turn. Gives the entries and what is left of the stack. -/
def absorb (cap : Nat) (stack : ItemStack) : DropEntries → DropEntries × ItemStack
  | [] => ([], stack)
  | (existing, position) :: rest =>
    if stack.isEmpty then ((existing, position) :: rest, stack)
    else
      let (existing, stack) :=
        if existing.isMergeableWith stack then existing.mergeFrom stack cap else (existing, stack)
      let (rest, stack) := absorb cap stack rest
      ((existing, position) :: rest, stack)

end DropEntries

structure DropPile where
  cap : Nat
  entries : DropEntries := []

namespace DropPile

/-- Merges a stack that fell at `position`. -/
def add (pile : DropPile) (stack : ItemStack) (position : Position) : DropPile :=
  let (entries, rest) := pile.entries.absorb pile.cap stack
  { pile with entries := if rest.isEmpty then entries else entries ++ [(rest, position)] }

def addAll (pile : DropPile) (drops : List ItemStack) (position : Position) : DropPile :=
  drops.foldl (fun pile stack => pile.add stack position) pile

def total (pile : DropPile) : Nat := pile.entries.foldl (fun n (stack, _) => n + stack.count) 0

end DropPile

end Crater
