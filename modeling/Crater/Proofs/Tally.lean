import Mathlib
import Crater.Drops

/-!
# Tallies

Items are told apart by their number and their tag, and a selection picks some
of these kinds. Merging moves items between stacks of one kind only, so it
changes how many stacks there are and never how many items of a selection.
-/

namespace Crater

/-- Which kinds of items are counted, by number and tag. -/
abbrev Selection := ItemId → Nat → Bool

/-- How many items of the selected kinds lie on some stacks. -/
def tally (select : Selection) (xs : List ItemStack) : Nat :=
  (xs.map fun s => if select s.item s.tag then s.count else 0).sum

/-- Only the given item with the given tag. -/
def Selection.kind (item : ItemId) (tag : Nat) : Selection := fun i t => i == item && t == tag

/-- The given item, whatever its tag. -/
def Selection.item (item : ItemId) : Selection := fun i _ => i == item

def Selection.all : Selection := fun _ _ => true

section
variable (select : Selection)

@[simp] theorem tally_nil : tally select [] = 0 := rfl

theorem tally_cons (s : ItemStack) (xs : List ItemStack) :
    tally select (s :: xs) = tally select [s] + tally select xs := by
  simp [tally]

@[simp] theorem tally_append (a b : List ItemStack) :
    tally select (a ++ b) = tally select a + tally select b := by
  simp [tally]

theorem tally_of_isEmpty {s : ItemStack} (h : s.isEmpty = true) : tally select [s] = 0 := by
  have hcount : s.count = 0 := by simpa [ItemStack.isEmpty] using h
  simp [tally, hcount]

theorem tally_all (xs : List ItemStack) :
    tally .all xs = (xs.map ItemStack.count).sum := by
  simp [tally, Selection.all]

/-- What goes onto one stack is missing from the other. -/
theorem tally_mergeFrom {s source : ItemStack} (cap : Nat)
    (h : s.isMergeableWith source = true) :
    tally select [(s.mergeFrom source cap).1] + tally select [(s.mergeFrom source cap).2] =
      tally select [s] + tally select [source] := by
  simp only [ItemStack.isMergeableWith, Bool.and_eq_true, beq_iff_eq] at h
  obtain ⟨⟨⟨⟨hitem, htag⟩, -⟩, -⟩, -⟩ := h
  have hroom : s.room source cap ≤ source.count := Nat.min_le_right _ _
  simp only [tally, ItemStack.mergeFrom, List.map_cons, List.map_nil, List.sum_cons,
    List.sum_nil, Nat.add_zero, ← hitem, ← htag]
  split <;> omega

def DropEntries.contents (entries : DropEntries) : List ItemStack := entries.map Prod.fst

theorem tally_absorb (cap : Nat) : ∀ (entries : DropEntries) (stack : ItemStack),
    tally select (entries.absorb cap stack).1.contents +
        tally select [(entries.absorb cap stack).2] =
      tally select entries.contents + tally select [stack]
  | [], stack => rfl
  | (existing, position) :: rest, stack => by
      simp only [DropEntries.absorb]
      split
      · rfl
      · simp only [DropEntries.contents, List.map_cons]
        rw [tally_cons select existing, tally_cons]
        split
        · next hmerge =>
          have hmoved := tally_mergeFrom select cap hmerge
          have hrest := tally_absorb cap rest (existing.mergeFrom stack cap).2
          simp only [DropEntries.contents] at hrest
          omega
        · have hrest := tally_absorb cap rest stack
          simp only [DropEntries.contents] at hrest ⊢
          omega

namespace DropPile

def contents (pile : DropPile) : List ItemStack := DropEntries.contents pile.entries

theorem tally_add (pile : DropPile) (stack : ItemStack) (position : Position) :
    tally select (pile.add stack position).contents =
      tally select pile.contents + tally select [stack] := by
  have habsorb := tally_absorb select pile.cap pile.entries stack
  simp only [add, contents]
  split
  · next hrest =>
    rw [← habsorb, tally_of_isEmpty select hrest, Nat.add_zero]
  · rw [← habsorb]
    simp [DropEntries.contents]

theorem tally_addAll (position : Position) : ∀ (drops : List ItemStack) (pile : DropPile),
    tally select (pile.addAll drops position).contents =
      tally select pile.contents + tally select drops
  | [], _ => rfl
  | stack :: rest, pile => by
      have hrest := tally_addAll position rest (pile.add stack position)
      have hfirst := tally_add select pile stack position
      rw [tally_cons]
      simp only [addAll, List.foldl_cons] at hrest ⊢
      omega

end DropPile

end

end Crater
