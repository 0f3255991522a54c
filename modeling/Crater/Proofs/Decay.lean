import Crater.Proofs.Builtin
import Crater.Proofs.Clearing
import Crater.Proofs.CommitRun
import Crater.Proofs.Radii

/-!
# Decay

The drops of a blast may decay. Whatever is drawn for them, such a blast does to the
voxels what it would do if nothing decayed: two runs over the same positions, one without
and one with decay, lead through the same worlds, though they draw different numbers of
words. `HitResult.Decays` relates what their handlers want, and with it what falls in the
end.

A radius of at most one spares all drops, because no fraction exceeds one over it.
-/

namespace Crater

open Numeral
open CommitRules (reaction)

def Explosion.inMode (explosion : Explosion) (mode : Interaction) : Explosion :=
  { explosion with interaction := mode }

theorem Explosion.inMode_ne_keep (explosion : Explosion) {mode : Interaction}
    (hmode : mode ≠ .keep) : (explosion.inMode mode).interaction ≠ .keep := hmode

def Hit.inMode (hit : Hit) (mode : Interaction) : Hit := { hit with interaction := mode }

/-! ## One drop -/

/-- **No fraction exceeds one over a radius** that is at most one. -/
theorem Draw.not_lt_fractionOf {radius : Float32} (hpos : radius > 0.0) (hle : radius ≤ 1.0)
    (w : UInt32) : ¬ fractionOf w > 1.0 / radius := by
  obtain ⟨⟨hnan, -⟩, hle⟩ := Numeral.le_iff.mp hle
  have hpos : 0 < real radius := Single.real_pos_of_gt hpos
  have hone : isFinite (1.0 : Float32) = true := rfl
  have hfinite : isFinite radius = true := isFinite_of_le hone hnan hpos.le hle
  have hquotient := isRounded_div hone hfinite hpos.ne'
  have hleast : real (1.0 : Float32) ≤ real (1.0 / radius) := by
    refine hquotient.le_real ?_
    rw [Single.real_one] at hle ⊢
    exact (one_le_div hpos).mpr hle
  intro hlarge
  have hlarge := (Numeral.lt_iff.mp hlarge).2
  exact absurd hlarge (not_lt.mpr ((real_fractionOf_le w).trans hleast))

def BlockTraits.ownStack (traits : BlockTraits) : Option ItemStack :=
  traits.dropItem.map (⟨·, 1, traits.dropMaxStack, 0⟩)

theorem Hit.ownDrop_of_radius_le_one (hit : Hit) (hle : hit.radius ≤ 1.0) (g : Generator) :
    (hit.ownDrop g).1 = hit.traits.ownStack := by
  unfold ownDrop BlockTraits.ownStack
  cases hit.traits.dropItem with
  | none => rfl
  | some item =>
      simp only [Bool.and_eq_true, decide_eq_true_eq]
      split
      · next hdecay =>
        rw [Draw.bind_apply]
        split
        · next hlost => exact absurd hlost (Draw.not_lt_fractionOf hdecay.2 hle _)
        · rfl
      · rfl

/-! ## One position -/

/-- What decay makes of the wishes of a handler: the replacement is the same, and the drops
are all there or gone. -/
structure HitResult.Decays (radius : Float32) (plain decayed : HitResult) : Prop where
  replacement : decayed.replacement = plain.replacement
  drops : decayed.drops = plain.drops ∨ decayed.drops = []
  spared : radius ≤ 1.0 → decayed.drops = plain.drops

theorem HitResult.Decays.refl (radius : Float32) (wanted : HitResult) :
    Decays radius wanted wanted :=
  ⟨rfl, .inl rfl, fun _ => rfl⟩

theorem Hit.decays_ownDrop (hit : Hit) (g g' : Generator) :
    HitResult.Decays hit.radius (.removed ((hit.inMode .destroy).ownDrop g).1.toList)
      (.removed ((hit.inMode .destroyWithDecay).ownDrop g').1.toList) := by
  have hplain : ((hit.inMode .destroy).ownDrop g).1 = hit.traits.ownStack := by
    rcases (hit.inMode .destroy).ownDrop_cases g with hall | ⟨hmode, -⟩
    · exact hall
    · cases hmode
  rw [hplain]
  refine ⟨rfl, ?_, fun hle => ?_⟩
  · rcases (hit.inMode .destroyWithDecay).ownDrop_cases g' with hall | ⟨-, hlost⟩
    · rw [hall]
      exact .inl rfl
    · rw [hlost]
      exact .inr rfl
  · rw [(hit.inMode .destroyWithDecay).ownDrop_of_radius_le_one hle g']
    rfl

/-- **A built-in handler** removes its block in either mode, whatever has been drawn. -/
theorem Handler.decays_react {handler : Handler} (hbuiltin : handler.isBuiltin = true) (hit : Hit)
    (g g' : Generator) : ∃ plain decayed,
      (handler.react (hit.inMode .destroy) g).1 = .ok plain ∧
      (handler.react (hit.inMode .destroyWithDecay) g').1 = .ok decayed ∧
      HitResult.Decays hit.radius plain decayed := by
  cases handler with
  | dropSelf => exact ⟨_, _, rfl, rfl, hit.decays_ownDrop g g'⟩
  | noDrops => exact ⟨_, _, rfl, rfl, .refl _ _⟩
  | trigger => exact ⟨_, _, rfl, rfl, hit.decays_ownDrop g g'⟩
  | custom react => cases hbuiltin

theorem CommitRules.decays_reaction {w : World} (hbuiltin : w.registry.UsesBuiltin)
    (explosion : Explosion) (p : Position) (g g' : Generator) : ∃ plain decayed,
      (reaction (explosion.inMode .destroy) w p g).1 = .ok plain ∧
      (reaction (explosion.inMode .destroyWithDecay) w p g').1 = .ok decayed ∧
      HitResult.Decays explosion.radius plain decayed := by
  cases hair : (w.blockAt p).isAir with
  | false =>
      rw [reaction_of_not_isAir _ hair, reaction_of_not_isAir _ hair]
      exact Handler.decays_react (hbuiltin.block _) (explosion.hitAt w p) g g'
  | true =>
      cases hwet : (w.voxel p).fluid.isEmpty with
      | false =>
          rw [reaction_of_isAir _ hair hwet, reaction_of_isAir _ hair hwet]
          exact ⟨_, _, rfl, rfl, .refl _ _⟩
      | true =>
          have hempty : w.registry.isEmptyVoxel (w.voxel p) = true := by
            rw [w.isEmptyVoxel_voxel, hair, hwet, Bool.and_true]
          rw [reaction_of_isEmptyVoxel _ hempty, reaction_of_isEmptyVoxel _ hempty]
          exact ⟨_, _, rfl, rfl, .refl _ _⟩

/-! ## A run -/

structure Conversion.Decays (radius : Float32) (plain decayed : Conversion) : Prop where
  position : decayed.position = plain.position
  granted : decayed.granted = plain.granted
  wanted : plain.wanted.Decays radius decayed.wanted

/-- **With and without decay** the same positions are converted, through the same worlds. -/
theorem exists_decays_converts (explosion : Explosion) : ∀ (ps : List Position) {w : World}
    (g g' : Generator), w.registry.UsesBuiltin → ∃ plain decayed w' g₁ g₁',
      Converts (explosion.inMode .destroy) w g plain w' g₁ ∧
      Converts (explosion.inMode .destroyWithDecay) w g' decayed w' g₁' ∧
      places plain = ps ∧ List.Forall₂ (Conversion.Decays explosion.radius) plain decayed
  | [], w, g, g', _ => ⟨[], [], w, g, g', .nil _ _, .nil _ _, rfl, .nil⟩
  | p :: rest, w, g, g', hbuiltin => by
      obtain ⟨wanted, wanted', hplain, hdecayed, hdecays⟩ :=
        CommitRules.decays_reaction hbuiltin explosion p g g'
      rcases hful : w.fulfil p wanted.replacement with ⟨granted, w₁⟩
      -- either run fulfils the same replacement, so both go on from `w₁`
      have hful' := hdecays.replacement ▸ hful
      have hbuiltin₁ : w₁.registry.UsesBuiltin :=
        (World.SameSetting.of_fulfil hful).registry ▸ hbuiltin
      obtain ⟨plain, decayed, w', g₁, g₁', hrun, hrun', rfl, hlogs⟩ :=
        exists_decays_converts explosion rest (reaction (explosion.inMode .destroy) w p g).2
          (reaction (explosion.inMode .destroyWithDecay) w p g').2 hbuiltin₁
      exact ⟨⟨p, wanted, granted⟩ :: plain, ⟨p, wanted', granted⟩ :: decayed, w', g₁, g₁',
        .cons (Prod.ext hplain rfl) hful hrun, .cons (Prod.ext hdecayed rfl) hful' hrun', rfl,
        .cons ⟨rfl, rfl, hdecays⟩ hlogs⟩

section
variable {radius : Float32} {plain decayed : List Conversion}
  (h : List.Forall₂ (Conversion.Decays radius) plain decayed)
include h

theorem places_of_decays : places decayed = places plain := by
  induction h with
  | nil => rfl
  | cons hfirst _ ih => simp only [places, List.map_cons, hfirst.position] at ih ⊢; rw [ih]

/-- Decay takes items away. -/
theorem tally_earnings_le_of_decays (select : Selection) :
    tally select (earnings decayed) ≤ tally select (earnings plain) := by
  induction h with
  | nil => exact Nat.le_refl _
  | @cons c c' plain decayed hfirst _ ih =>
      have hearned : tally select c'.earned ≤ tally select c.earned := by
        rw [Conversion.earned, Conversion.earned, hfirst.granted]
        split
        · rcases hfirst.wanted.drops with hall | hgone
          · rw [hall]
          · rw [hgone]
            exact Nat.zero_le _
        · exact Nat.le_refl _
      simp only [earnings, List.flatMap_cons, tally_append] at ih ⊢
      omega

/-- The replacements do not show what decayed. -/
theorem foldl_count_of_decays (s : CommitSummary) :
    decayed.foldl CommitSummary.count s = plain.foldl CommitSummary.count s := by
  induction h generalizing s with
  | nil => rfl
  | @cons c c' plain decayed hfirst _ ih =>
      have hcount : s.count c' = s.count c := by
        simp only [CommitSummary.count, hfirst.wanted.replacement, hfirst.granted]
      rw [List.foldl_cons, List.foldl_cons, hcount, ih]

theorem eq_of_decays_of_radius_le_one (hle : radius ≤ 1.0) : decayed = plain := by
  induction h with
  | nil => rfl
  | @cons c c' plain decayed hfirst _ ih =>
      obtain ⟨p, ⟨drops, replacement⟩, granted⟩ := c
      obtain ⟨p', ⟨drops', replacement'⟩, granted'⟩ := c'
      obtain ⟨rfl, rfl, rfl, -, hspared⟩ := hfirst
      cases hspared hle
      rw [ih]

end

/-! ## The whole commit -/

/-- What decay makes of a commit to the world `w`. -/
structure CommitDecay (radius : Float32) (w : World) (plain decayed : CommitOutcome) : Prop where
  succeeds : ∃ s s', plain.result = .ok s ∧ decayed.result = .ok s' ∧
    s'.changed = s.changed ∧ s'.rejected = s.rejected
  voxel : ∀ p, decayed.world.voxel p = plain.world.voxel p
  /-- Some of what would fall is gone, and none of it if the radius is at most one. -/
  fallen : ∃ full rest : List (ItemStack × Vec3),
    plain.world.drops.toList = w.drops.toList ++ full ∧
    decayed.world.drops.toList = w.drops.toList ++ rest ∧
    (∀ item, tally (.item item) (rest.map Prod.fst) ≤ tally (.item item) (full.map Prod.fst)) ∧
    (radius ≤ 1.0 → rest = full)

/-- **Decay only takes drops away.** -/
theorem CommitRules.decay_commit (rules : CommitRules) {explosion : Explosion}
    (affected : AffectedSet) {w : World} (g : Generator) (hbuiltin : w.registry.UsesBuiltin)
    (hfire : explosion.fire = false) :
    CommitDecay explosion.radius w
      (rules.commit (explosion.inMode .destroy) affected w g).1
      (rules.commit (explosion.inMode .destroyWithDecay) affected w g).1 := by
  rcases hshuffle : Draw.shuffle affected.toList.toArray g with ⟨xs, g₀⟩
  obtain ⟨plain, decayed, w', g₁, g₁', hrun, hrun', hplaces, hlogs⟩ :=
    exists_decays_converts explosion xs.toList g₀ g₀ hbuiltin
  have hplaces' := (places_of_decays hlogs).trans hplaces
  obtain ⟨full, hfull, hdrops, hsummary⟩ := rules.settled_eq w plain w'
  obtain ⟨rest, hrest, hdrops', hsummary'⟩ := rules.settled_eq w decayed w'
  rw [rules.commit_of_converts (explosion.inMode_ne_keep (by decide)) hshuffle hrun hplaces,
    rules.commit_of_converts (explosion.inMode_ne_keep (by decide)) hshuffle hrun' hplaces',
    rules.finish_of_fire_eq_false (show (explosion.inMode .destroy).fire = false from hfire),
    rules.finish_of_fire_eq_false
      (show (explosion.inMode .destroyWithDecay).fire = false from hfire)]
  exact {
    succeeds := by
      refine ⟨_, _, rfl, rfl, ?_, ?_⟩
      all_goals rw [hsummary, hsummary', foldl_count_of_decays hlogs]
    voxel := fun p => by rw [voxel_settled, voxel_settled]
    fallen := by
      refine ⟨full, rest, ?_, ?_, ?_, fun hle => ?_⟩
      · rw [hdrops, hrun.drops_eq, Array.toList_appendList]
      · rw [hdrops', hrun.drops_eq, Array.toList_appendList]
      · intro item
        rw [hfull, hrest]
        exact tally_earnings_le_of_decays hlogs _
      · rw [eq_of_decays_of_radius_le_one hlogs hle, hdrops] at hdrops'
        have hlists := congrArg Array.toList hdrops'
        rw [Array.toList_appendList, Array.toList_appendList] at hlists
        exact (List.append_cancel_left hlists).symm }

/-- A block of dirt under a blast that lights no fires. -/
theorem CommitRules.decay_commit_clod : World.clod.registry.UsesBuiltin ∧
    Explosion.pulse.fireless.fire = false ∧
    CommitDecay Explosion.pulse.fireless.radius .clod
      (CommitRules.commit ⟨16, 3⟩ (Explosion.pulse.fireless.inMode .destroy)
        (.ofList [⟨0, 0, 0⟩]) .clod (.ofSeed 1)).1
      (CommitRules.commit ⟨16, 3⟩ (Explosion.pulse.fireless.inMode .destroyWithDecay)
        (.ofList [⟨0, 0, 0⟩]) .clod (.ofSeed 1)).1 :=
  ⟨Registry.usesBuiltin_builtin, rfl,
    decay_commit ⟨16, 3⟩ (.ofList [⟨0, 0, 0⟩]) (.ofSeed 1) Registry.usesBuiltin_builtin rfl⟩

end Crater
