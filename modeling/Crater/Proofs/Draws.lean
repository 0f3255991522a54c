import Crater.Random.Generator

/-!
# Draws

A draw is a function from a generator to a result and the generator after it,
so a run of several draws is opened step by step with `bind_apply`. A shuffle
rearranges: whatever words it draws, no element is lost and none appears twice.
-/

namespace Crater.Draw

variable {α β : Type}

theorem pure_apply (a : α) (g : Generator) : (pure a : Draw α) g = (a, g) := rfl

theorem bind_apply (x : Draw α) (f : α → Draw β) (g : Generator) :
    (x >>= f) g = f (x g).1 (x g).2 := rfl

theorem map_apply (f : α → β) (x : Draw α) (g : Generator) :
    (f <$> x) g = (f (x g).1, (x g).2) := rfl

theorem perm_swapIfInBounds (xs : Array α) (i j : Nat) : (xs.swapIfInBounds i j).Perm xs := by
  unfold Array.swapIfInBounds
  split
  · split
    · exact Array.swap_perm _ _
    · exact .refl _
  · exact .refl _

theorem perm_shuffleDown : ∀ (i : Nat) (xs : Array α) (g : Generator),
    (shuffleDown i xs g).1.Perm xs
  | 0, xs, _ => .refl xs
  | i + 1, xs, g => by
      rw [shuffleDown, bind_apply]
      exact (perm_shuffleDown i _ _).trans (perm_swapIfInBounds xs _ _)

/-- **A shuffle permutes.** -/
theorem perm_shuffle (xs : Array α) (g : Generator) : (shuffle xs g).1.Perm xs :=
  perm_shuffleDown _ xs g

theorem perm_of_shuffle {ps : List α} {xs : Array α} {g g' : Generator}
    (h : shuffle ps.toArray g = (xs, g')) : xs.toList.Perm ps := by
  have hxs := perm_shuffle ps.toArray g
  rw [h] at hxs
  exact Array.perm_iff_toList_perm.mp hxs

end Crater.Draw
