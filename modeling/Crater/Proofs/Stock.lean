import Mathlib.Data.Set.Card
import Crater.Proofs.Builtin
import Crater.Proofs.Calls

/-!
# Stock

The stock of an item in a world is what of it lies on the ground, and what stands
there as blocks that would leave it behind. A conversion turns the one into the
other: it removes one block and earns its item, or the write is refused and
nothing falls. Fires take the place of nothing. So no commit adds to the stock,
and only decay takes from it.
-/

namespace Crater

/-- How a count may go on from `before` to `after`: it never grows, and shrinks only if
something `decays`. -/
structure Dwindles (decays : Prop) (before after : Nat) : Prop where
  le : after ≤ before
  eq : ¬decays → after = before

namespace Dwindles

variable {decays : Prop} {a b c : Nat}

theorem of_eq (h : b = a) : Dwindles decays a b := ⟨h.le, fun _ => h⟩

theorem trans (hab : Dwindles decays a b) (hbc : Dwindles decays b c) : Dwindles decays a c :=
  ⟨hbc.le.trans hab.le, fun h => (hbc.eq h).trans (hab.eq h)⟩

theorem add_left (h : Dwindles decays a b) (n : Nat) : Dwindles decays (n + a) (n + b) :=
  ⟨Nat.add_le_add_left h.le n, fun hd => by rw [h.eq hd]⟩

theorem add_right (h : Dwindles decays a b) (n : Nat) : Dwindles decays (a + n) (b + n) :=
  ⟨Nat.add_le_add_right h.le n, fun hd => by rw [h.eq hd]⟩

theorem mono {decays' : Prop} (h : Dwindles decays a b) (hd : decays → decays') :
    Dwindles decays' a b :=
  ⟨h.le, fun hnot => h.eq fun hyes => hnot (hd hyes)⟩

end Dwindles

/-! ## Counting -/

namespace World

def standing (w : World) (item : ItemId) : Set Position := {p | (w.blockAt p).yield = some item}

/-- How much there is of an item, on the ground and in blocks. -/
noncomputable def stock (w : World) (item : ItemId) : Nat :=
  tally (.item item) (w.drops.toList.map Prod.fst) + (w.standing item).ncard

variable {w w' : World} {p : Position}

theorem mem_standing {item : ItemId} :
    p ∈ w.standing item ↔ (w.blockAt p).yield = some item := Iff.rfl

theorem finite_standing (w : World) (item : ItemId) : (w.standing item).Finite := by
  refine w.grid.finite_setOf_get_ne_air.subset ?_
  intro p hp hair
  have hblock : w.blockAt p = .air := by
    rw [blockAt, voxel, hair]
    exact w.registry.block_air
  rw [mem_standing, hblock] at hp
  cases hp

theorem blockAt_congr (hregistry : w'.registry = w.registry) (hvoxel : w'.voxel p = w.voxel p) :
    w'.blockAt p = w.blockAt p := by
  rw [blockAt, blockAt, hregistry, hvoxel]

theorem standing_congr (h : ∀ q, (w'.blockAt q).yield = (w.blockAt q).yield) :
    w'.standing = w.standing := by
  funext item
  ext q
  rw [mem_standing, mem_standing, h q]

/-- One position taken apart from the others. -/
theorem ncard_standing (w : World) (item : ItemId) (p : Position) :
    (w.standing item).ncard =
      (w.standing item \ {p}).ncard + if (w.blockAt p).yield = some item then 1 else 0 := by
  by_cases hp : p ∈ w.standing item
  · rw [if_pos (mem_standing.mp hp)]
    exact (Set.ncard_sdiff_singleton_add_one hp (w.finite_standing item)).symm
  · rw [if_neg fun h => hp (mem_standing.mpr h), Set.sdiff_singleton_eq_self hp]
    rfl

/-- Where a block is removed and no other changes, the count falls short by that
block. -/
theorem ncard_standing_removed (item : ItemId)
    (hothers : ∀ q, q ≠ p → (w'.blockAt q).yield = (w.blockAt q).yield)
    (hremoved : (w'.blockAt p).yield = none) :
    (w.standing item).ncard =
      (if (w.blockAt p).yield = some item then 1 else 0) + (w'.standing item).ncard := by
  have hsame : w'.standing item \ {p} = w.standing item \ {p} := by
    ext q
    by_cases hq : q = p
    · simp [hq]
    · simp [mem_standing, hq, hothers q hq]
  rw [w.ncard_standing item p, w'.ncard_standing item p, hsame, hremoved]
  simp only [reduceCtorEq, if_false]
  omega

theorem SameGround.stock (h : SameGround w w') : w'.stock = w.stock := by
  have hstanding := standing_congr fun q =>
    congrArg BlockType.yield (blockAt_congr h.registry (h.voxel q))
  funext item
  rw [World.stock, World.stock, h.drops, hstanding]

end World

/-! ## Conversions -/

/-- A removed block drops the item that it stands for, unless that decays. -/
theorem Handler.dwindles_removed {interaction : Interaction} {block : BlockType}
    {drops : List ItemStack}
    (own : drops = block.leavings ∨ interaction = .destroyWithDecay ∧ drops = []) (item : ItemId) :
    Dwindles (interaction = .destroyWithDecay) (if block.yield = some item then 1 else 0)
      (tally (.item item) drops) := by
  rcases own with rfl | ⟨hdecay, rfl⟩
  · exact .of_eq (block.tally_leavings item)
  · constructor
    · exact Nat.zero_le _
    · intro hnot
      exact absurd hdecay hnot

/-- What earns nothing and leaves all kinds of blocks as they were. -/
theorem World.dwindles_idle {decays : Prop} {w w₁ : World} {fallen : List ItemStack}
    (hnone : fallen = []) (hkind : ∀ q, (w₁.blockAt q).yield = (w.blockAt q).yield)
    (item : ItemId) :
    Dwindles decays (w.standing item).ncard
      (tally (.item item) fallen + (w₁.standing item).ncard) := by
  rw [hnone, standing_congr hkind, tally_nil, Nat.zero_add]
  exact .of_eq rfl

/-- **One conversion** earns what it removes. -/
theorem World.standing_fulfil {explosion : Explosion} {w w₁ : World} {g g₁ : Generator}
    {p : Position} {wanted : HitResult} {granted : Bool} (hbuiltin : w.registry.UsesBuiltin)
    (handled : CommitRules.reaction explosion w p g = (.ok wanted, g₁))
    (fulfilled : w.fulfil p wanted.replacement = (granted, w₁)) (item : ItemId) :
    Dwindles (explosion.interaction = .destroyWithDecay) (w.standing item).ncard
      (tally (.item item) (Conversion.earned ⟨p, wanted, granted⟩) +
        (w₁.standing item).ncard) := by
  have hregistry := (SameSetting.of_fulfil fulfilled).registry
  have hgranted := granted_of_fulfil fulfilled
  have hothers : ∀ q, q ≠ p → (w₁.blockAt q).yield = (w.blockAt q).yield := by
    intro q hq
    rw [blockAt_congr hregistry (voxel_of_fulfil_of_ne fulfilled hq)]
  have hrefused (hw : w.isWritable p = false) (q : Position) :
      (w₁.blockAt q).yield = (w.blockAt q).yield := by
    rw [blockAt_congr hregistry (voxel_of_fulfil_of_not_isWritable fulfilled hw q)]
  have husual := CommitRules.reaction_usual hbuiltin explosion p g
  rw [handled] at husual
  rcases husual with ⟨-, huntouched⟩ | ⟨-, husual⟩
  · obtain rfl := Except.ok.inj huntouched
    cases fulfilled
    exact dwindles_idle rfl (fun _ => rfl) item
  · cases husual with
    | @removed drops destructive own =>
        cases hw : w.isWritable p with
        | false =>
            rw [hw] at hgranted
            subst hgranted
            exact dwindles_idle rfl (hrefused hw) item
        | true =>
            rw [hw, Bool.or_true] at hgranted
            subst hgranted
            have hair : (w₁.blockAt p).yield = none := by
              rw [blockAt, voxel_of_fulfil_some fulfilled hw]
              exact congrArg BlockType.yield w₁.registry.block_air
            rw [ncard_standing_removed item hothers hair]
            exact (Handler.dwindles_removed own item).add_right _
    | untouched gentle =>
        cases fulfilled
        exact dwindles_idle rfl (fun _ => rfl) item
    | turned gentle metadata =>
        -- only the metadata changes, and no item stands for that
        refine dwindles_idle (by simp [Conversion.earned]) ?_ item
        intro q
        by_cases hq : q = p
        · cases hw : w.isWritable p with
          | false => exact hrefused hw q
          | true =>
              rw [hq, blockAt, voxel_of_fulfil_some fulfilled hw, hregistry]
              rfl
        · exact hothers q hq

/-- A log earns what it removes. -/
theorem Converts.standing {explosion : Explosion} {w w' : World} {g g' : Generator}
    {log : List Conversion} (h : Converts explosion w g log w' g')
    (hbuiltin : w.registry.UsesBuiltin) (item : ItemId) :
    Dwindles (explosion.interaction = .destroyWithDecay) (w.standing item).ncard
      (tally (.item item) (earnings log) + (w'.standing item).ncard) := by
  induction h with
  | nil w g => exact .of_eq (Nat.zero_add _)
  | @cons w w₁ w' g g₁ g' p wanted granted log handled fulfilled later ih =>
      have hfirst := World.standing_fulfil hbuiltin handled fulfilled item
      have hlater := ih ((World.SameSetting.of_fulfil fulfilled).registry ▸ hbuiltin)
      rw [earnings, List.flatMap_cons, tally_append, Nat.add_assoc]
      exact hfirst.trans (hlater.add_left _)

/-! ## Commits -/

/-- Fires take the place of nothing. -/
theorem Burnt.stock {fire? : Option BlockId} {ps : List Position}
    {before after : World × CommitSummary} (h : Burnt fire? ps before after)
    (hfire : ∀ fire, fire? = some fire → (before.1.registry.block fire).yield = none) :
    after.1.stock = before.1.stock := by
  have hkind : ∀ q, (after.1.blockAt q).yield = (before.1.blockAt q).yield := by
    intro q
    rcases h.lit q with hkept | ⟨⟨fire, hsome, hlit⟩, hempty⟩
    · rw [World.blockAt_congr h.setting.registry hkept]
    · have hair : (before.1.blockAt q).isAir = true := by
        simp only [Registry.isEmptyVoxel, Bool.and_eq_true] at hempty
        exact hempty.1
      rw [World.blockAt, hlit, h.setting.registry]
      rw [BlockType.yield.eq_1 (before.1.blockAt q), if_pos hair]
      exact hfire fire hsome
  funext item
  rw [World.stock, World.stock, h.drops, World.standing_congr hkind]

namespace CommitRules

/-- When the drops have fallen, what was earned lies on the ground. -/
theorem stock_settled (rules : CommitRules) {explosion : Explosion} {w w' : World}
    {g g' : Generator} {log : List Conversion} (h : Converts explosion w g log w' g')
    (hbuiltin : w.registry.UsesBuiltin) (item : ItemId) :
    Dwindles (explosion.interaction = .destroyWithDecay) (w.stock item)
      ((rules.settled w log w').1.stock item) := by
  obtain ⟨emitted, hearned, hdrops, -⟩ := rules.settled_eq w log w'
  have hkind : ∀ q, ((rules.settled w log w').1.blockAt q).yield = (w'.blockAt q).yield := by
    intro q
    rw [World.blockAt_congr (rules.sameSetting_settled w log w').registry
      (rules.voxel_settled w log w' q)]
  rw [World.stock, World.stock, hdrops, h.drops_eq, World.standing_congr hkind,
    Array.toList_appendList, List.map_append, tally_append, hearned, Nat.add_assoc]
  exact (h.standing hbuiltin item).add_left _

/-- **A commit** adds nothing to the stock, and only decay takes from it. -/
theorem stock_commit (rules : CommitRules) (explosion : Explosion) (affected : AffectedSet)
    (w : World) (g : Generator) (hbuiltin : w.registry.UsesBuiltin)
    (hfire : ∀ fire, w.registry.fireBlock? = some fire → (w.registry.block fire).yield = none)
    (item : ItemId) :
    Dwindles (explosion.interaction = .destroyWithDecay) (w.stock item)
      ((rules.commit explosion affected w g).1.world.stock item) := by
  refine rules.commit_induction affected w g (P := fun w' =>
    Dwindles (explosion.interaction = .destroyWithDecay) (w.stock item) (w'.stock item))
    (.of_eq rfl) ?_ ?_
  · intro log w' g₁ g₂ _ hconv
    exact rules.stock_settled hconv hbuiltin item
  · intro ps before after _ hsetting hburnt hstock
    have hsame : after.1.stock = before.1.stock := by
      apply hburnt.stock
      intro fire hsome
      simp only [Explosion.fireIn?, Option.ite_none_right_eq_some] at hsome
      rw [hsetting.registry]
      exact hfire fire hsome.2
    exact hstock.trans (.of_eq (congrFun hsame item))

end CommitRules

end Crater
