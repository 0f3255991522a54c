import Crater.Proofs.Clearing
import Crater.Proofs.PlainMap
import Crater.Proofs.Registrations

/-!
# Ignition

The fire pass writes into the world that it reads. A position is judged by what it holds
and by the block below, and either may be a position of the same pass. Still each is
decided on its own: where a fire was lit there was air before, and neither of them
carries a fire. So the pass is as if all lots were drawn first and all positions were
judged by the world before it.

A fire that is to be lit can be refused by a guard or by the end of the build height, and by
nothing else but the one layer that comes after the last with a number.
-/

namespace Crater

open CommitRules (canBurn light ignite convert reaction)

/-! ## Lots -/

/-- Neither a fire nor air carries a fire. -/
structure Registry.KeepsFiresApart (r : Registry) (fire : BlockId) : Prop where
  fire : (r.block fire).solidRender = false
  air : ∀ block ∈ r.blocks, block.isAir = true → block.solidRender = false

theorem Registry.KeepsFiresApart.block {r : Registry} {fire : BlockId}
    (h : r.KeepsFiresApart fire) {id : BlockId} (hair : (r.block id).isAir = true) :
    (r.block id).solidRender = false := by
  rw [Registry.block, Registry.get?] at hair ⊢
  cases hblock : r.blocks[id.index]? with
  | none =>
      rw [hblock] at hair
      cases hair
  | some block =>
      rw [hblock] at hair
      exact h.air block (Array.mem_of_getElem? hblock) hair

section
variable (fire : BlockId) (p : Position) (w : World) (s : CommitSummary)

end

/-- A log is the same whether or not fires are to follow. -/
theorem Converts.fireless {explosion : Explosion} {w w' : World} {g g' : Generator}
    {log : List Conversion} (h : Converts explosion w g log w' g') :
    Converts explosion.fireless w g log w' g' := by
  induction h with
  | nil w g => exact .nil w g
  | cons handled fulfilled later ih => exact .cons handled fulfilled ih

namespace Registry

end Registry

end Crater
