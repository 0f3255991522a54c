import Crater.Proofs.Builtin
import Crater.Proofs.Calls
import Crater.Proofs.CommitExact
import Crater.Proofs.Registrations
import Crater.Proofs.Tracing

/-!
# Destructive runs

Where only built-in handlers are in use, a destructive explosion removes exactly
the voxels that it set out to remove, but for those that are guarded. Tracing has
recorded voxels inside the build height that are not empty; so no conversion
fails or passes one over, and a write is refused only where it is guarded. The
fire pass comes later and finds air where the conversions wrote, and what was
there before where they were refused.
-/

namespace Crater

open CommitRules (reaction canBurn light ignite)

/-! ## Conversions that remove -/

namespace Converts

variable {explosion : Explosion} {w w' : World} {g g' : Generator} {log : List Conversion}

/-- A position whose replacement was granted holds the replacement. -/
theorem voxel_of_mem (h : Converts explosion w g log w' g') (hnodup : (places log).Nodup)
    {c : Conversion} (hc : c ∈ log) {state : BlockState}
    (hstate : c.wanted.replacement = some state) (hw : w.isWritable c.position = true) :
    w'.voxel c.position = .ofBlock state := by
  induction h with
  | nil w g => cases hc
  | @cons w w₁ w' g g₁ g' p wanted granted log handled fulfilled later ih =>
      simp only [places, List.map_cons, List.nodup_cons] at hnodup
      rcases List.mem_cons.mp hc with rfl | hc
      · rw [later.voxel_of_notMem hnodup.1]
        exact World.voxel_of_fulfil_some (hstate ▸ fulfilled) hw
      · refine ih hnodup.2 hc ?_
        rwa [(World.SameSetting.of_fulfil fulfilled).isWritable]

/-- A destructive blast removes whatever it finds, if handlers are built in. -/
theorem removes (h : Converts explosion w g log w' g') (hnodup : (places log).Nodup)
    (hbuiltin : w.registry.UsesBuiltin) (hmode : explosion.interaction.isDestructive = true)
    (hfull : ∀ p ∈ places log, w.registry.isEmptyVoxel (w.voxel p) = false) :
    ∀ c ∈ log, c.wanted.replacement = some .air ∧ c.granted = w.isWritable c.position := by
  intro c hc
  obtain ⟨⟨g₀, hwanted⟩, hgranted⟩ := h.asked hnodup c hc
  have hused := hfull c.position (List.mem_map_of_mem hc)
  obtain ⟨drops, hremoved⟩ := CommitRules.reaction_destructive hbuiltin hmode hused g₀
  rw [hremoved] at hwanted
  have hreplacement : c.wanted.replacement = some .air := by rw [← Except.ok.inj hwanted]; rfl
  rw [hreplacement] at hgranted
  exact ⟨hreplacement, hgranted⟩

end Converts

/-- A log that removes counts each of its positions as changed or as rejected. -/
theorem CommitSummary.foldl_count_removed {log : List Conversion} {free : Position → Bool}
    (hlog : ∀ c ∈ log, c.wanted.replacement = some .air ∧ c.granted = free c.position) :
    log.foldl count {} =
      { changed := (places log).countP free
        rejected := (places log).countP fun p => !free p } := by
  rw [foldl_count, places, List.countP_map, List.countP_map]
  simp only [Nat.zero_add, CommitSummary.mk.injEq, and_true]
  constructor
  · apply List.countP_congr
    intro c hc
    rw [(hlog c hc).1, (hlog c hc).2]
    rfl
  · apply List.countP_congr
    intro c hc
    rw [(hlog c hc).1, (hlog c hc).2]
    rfl

/-! ## The fire pass over cleared voxels -/

/-- What removing leaves at a position: air where writes are accepted, and what was
there elsewhere, which is not nothing. -/
def World.IsCleared (w : World) (p : Position) : Prop :=
  w.isWritable p = true ∧ w.voxel p = .air ∨
    w.isWritable p = false ∧ w.registry.isEmptyVoxel (w.voxel p) = false

/-- Whether a fire of this pass burns at a position: guarded positions may hold fires
from before. -/
def World.isLit (w : World) (fire : BlockId) (p : Position) : Bool :=
  w.isWritable p && w.voxel p == .fire fire

namespace World

variable {w w' : World} {fire : BlockId} {p : Position}

/-- What is not empty has a place in its chunk. -/
theorem isSome_slot?_of_not_isEmptyVoxel
    (hused : w.registry.isEmptyVoxel (w.voxel p) = false) :
    ((ChunkCoord.containing p).slot? w.grid.range p).isSome = true := by
  apply Grid.isSome_slot?_of_get_ne_air
  intro hair
  rw [voxel, hair, w.registry.isEmptyVoxel_air] at hused
  cases hused

theorem accepts_of_not_isEmptyVoxel (hinside : w.isOutside p = false)
    (hused : w.registry.isEmptyVoxel (w.voxel p) = false) : w.grid.range.accepts p = true := by
  rw [BuildRange.accepts, isSome_slot?_of_not_isEmptyVoxel hused, Bool.and_true]
  simpa [isOutside] using hinside

theorem isLit_congr (fire : BlockId) (hsetting : SameSetting w w')
    (hvoxel : w'.voxel p = w.voxel p) : w'.isLit fire p = w.isLit fire p := by
  rw [isLit, isLit, hsetting.isWritable, hvoxel]

theorem IsCleared.congr (h : w.IsCleared p) (hsetting : SameSetting w w')
    (hvoxel : w'.voxel p = w.voxel p) : w'.IsCleared p := by
  rwa [IsCleared, hsetting.isWritable, hsetting.registry, hvoxel]

theorem IsCleared.voxel_eq (h : w.IsCleared p) (hw : w.isWritable p = true) :
    w.voxel p = .air := by
  rcases h with ⟨-, hair⟩ | ⟨hrefused, -⟩
  · exact hair
  · rw [hw] at hrefused
    cases hrefused

theorem IsCleared.isLit_eq_false (h : w.IsCleared p) (hfire : fire ≠ .air) :
    w.isLit fire p = false := by
  rcases h with ⟨-, hair⟩ | ⟨hrefused, -⟩
  · have hne : Voxel.air ≠ .fire fire := by
      intro heq
      exact hfire (congrArg (fun v => v.block.block) heq).symm
    simp [isLit, hair, hne]
  · simp [isLit, hrefused]

end World

namespace CommitRules

/-- Lighting a cleared position counts the fire that it leaves. -/
theorem light_cleared {fire : BlockId} (hfire : fire ≠ .air) {w : World} {p : Position}
    (hcleared : w.IsCleared p) (s : CommitSummary) :
    (light fire p w s).2 =
      { s with fires := s.fires + if (light fire p w s).1.isLit fire p then 1 else 0 } := by
  rcases light_cases fire p w s with ⟨-, hl⟩ | ⟨hburn, hrefused, -⟩ | ⟨-, hw, hl⟩
  · rw [hl, hcleared.isLit_eq_false hfire]
    rfl
  · rcases hcleared with ⟨hw, -⟩ | ⟨-, hused⟩
    · rw [hrefused] at hw
      cases hw
    · rw [isEmptyVoxel_of_canBurn hburn] at hused
      cases hused
  · rw [hl]
    have hvoxel := World.voxel_setVoxel_self ⟨fire, 0⟩ .standard hw
    have hlit : (w.setVoxel p ⟨fire, 0⟩ .standard).2.isLit fire p = true := by
      rw [World.isLit, (w.setVoxel_sameSetting _ _ _).isWritable, hw, hvoxel]
      simp [Voxel.fire]
    rw [hlit]
    rfl

/-- **A fire pass over cleared positions** is refused nowhere and counts the fires
that it leaves. -/
theorem ignite_cleared (rules : CommitRules) {fire : BlockId} (hfire : fire ≠ .air) :
    ∀ (ps : List Position), ps.Nodup → ∀ (w : World) (s : CommitSummary) (g : Generator),
      (∀ p ∈ ps, w.IsCleared p) →
      (rules.ignite fire ps (w, s) g).1.2 =
        { s with
          fires := s.fires + ps.countP ((rules.ignite fire ps (w, s) g).1.1.isLit fire) }
  | [], _, w, s, g, _ => rfl
  | p :: rest, hnodup, w, s, g, hcleared => by
      rw [List.nodup_cons] at hnodup
      have hp := hcleared p List.mem_cons_self
      -- whether or not `p` is drawn, the rest of the pass starts with `p` counted and untouched
      obtain ⟨w₁, s₁, g₁, hrun, hburnt, hs₁⟩ : ∃ w₁ s₁ g₁,
          rules.ignite fire (p :: rest) (w, s) g = rules.ignite fire rest (w₁, s₁) g₁ ∧
          Burnt (some fire) [p] (w, s) (w₁, s₁) ∧
          s₁ = { s with fires := s.fires + if w₁.isLit fire p then 1 else 0 } := by
        rw [ignite, Draw.bind_apply]
        by_cases hdrawn : (Draw.below rules.ignitionChance g).1 = 0
        · rw [if_pos hdrawn]
          refine ⟨_, _, _, rfl, ?_, light_cleared hfire hp s⟩
          exact (Burnt.refl _ [p] (w, s)).light List.mem_cons_self
        · rw [if_neg hdrawn]
          refine ⟨w, s, _, rfl, .refl _ _ _, ?_⟩
          rw [hp.isLit_eq_false hfire]
          rfl
      have hrest : ∀ q ∈ rest, w₁.IsCleared q := by
        intro q hq
        have hqp : q ∉ [p] := by
          rw [List.mem_singleton]
          rintro rfl
          exact hnodup.1 hq
        exact (hcleared q (List.mem_cons_of_mem p hq)).congr hburnt.setting
          (hburnt.spared q (.inl hqp))
      have hlater := rules.burnt_ignite fire rest (w₁, s₁) g₁
      have hlit := World.isLit_congr fire hlater.setting (hlater.spared p (.inl hnodup.1))
      rw [hrun, ignite_cleared rules hfire rest hnodup.2 w₁ s₁ g₁ hrest, List.countP_cons, hlit,
        hs₁]
      simp only [CommitSummary.mk.injEq, true_and]
      omega

end CommitRules

/-! ## The whole run -/

/-- What a destructive explosion makes of the world `before` it, if it is to remove the
voxels of a set. -/
structure Sweep (explosion : Explosion) (affected : AffectedSet) (before after : World)
    (summary : CommitSummary) : Prop where
  /-- Unguarded voxels are removed, and nothing else is refused but guarded ones. -/
  changed : summary.changed = affected.toList.countP fun p => !before.isGuarded p
  rejected : summary.rejected = affected.toList.countP fun p => before.isGuarded p
  /-- A removed voxel is air, or a fire stands in its place. -/
  cleared : ∀ p, affected.contains p = true → before.isGuarded p = false →
    after.voxel p = .air ∨
      ∃ fire, explosion.fireIn? before.registry = some fire ∧ after.voxel p = .fire fire
  /-- The fires are those that stand where voxels were removed. -/
  fires : summary.fires = match explosion.fireIn? before.registry with
    | none => 0
    | some fire => affected.toList.countP fun p =>
        !before.isGuarded p && after.voxel p == .fire fire
  spared : ∀ p, affected.contains p = false ∨ before.isGuarded p = true →
    after.voxel p = before.voxel p

/-- A log that removes leaves its positions cleared. -/
theorem Converts.isCleared {explosion : Explosion} {w w' : World} {g g' : Generator}
    {log : List Conversion} (h : Converts explosion w g log w' g') (rules : CommitRules)
    (hnodup : (places log).Nodup)
    (hlog : ∀ c ∈ log, c.wanted.replacement = some .air ∧ c.granted = w.isWritable c.position)
    (hfull : ∀ p ∈ places log, w.registry.isEmptyVoxel (w.voxel p) = false) :
    ∀ p ∈ places log, (rules.settled w log w').1.IsCleared p := by
  intro p hp
  obtain ⟨c, hc, rfl⟩ := List.mem_map.mp hp
  have hsetting := h.sameSetting.trans (rules.sameSetting_settled w log w')
  rw [World.IsCleared, hsetting.isWritable, hsetting.registry, rules.voxel_settled]
  cases hw : w.isWritable c.position with
  | true => exact .inl ⟨rfl, h.voxel_of_mem hnodup hc (hlog c hc).1 hw⟩
  | false =>
      rw [h.voxel_of_not_isWritable hw]
      exact .inr ⟨rfl, hfull _ hp⟩

namespace CommitRules

/-- The fire pass of a commit over cleared positions counts the fires that it leaves. -/
theorem burn_cleared (rules : CommitRules) (explosion : Explosion) {ps : List Position}
    (hnodup : ps.Nodup) (state : World × CommitSummary) (g : Generator)
    (hcleared : ∀ p ∈ ps, state.1.IsCleared p) :
    (rules.burn explosion ps state g).1.2 =
      { state.2 with
        fires := state.2.fires + match explosion.fireIn? state.1.registry with
          | none => 0
          | some fire => ps.countP ((rules.burn explosion ps state g).1.1.isLit fire) } := by
  unfold burn
  cases hfire : explosion.fireIn? state.1.registry with
  | none => rfl
  | some fire =>
      have hne : fire ≠ .air := by
        simp only [Explosion.fireIn?, Option.ite_none_right_eq_some] at hfire
        exact Registry.fire_ne_air hfire.2
      exact rules.ignite_cleared hne ps hnodup state.1 state.2 g hcleared

/-- After a log that removes, the fire pass completes the sweep of its positions. -/
theorem sweep_burn (rules : CommitRules) {explosion : Explosion} {affected : AffectedSet}
    {w w' : World} {g₁ g₂ : Generator} {log : List Conversion}
    (hconv : Converts explosion w g₁ log w' g₂) (hperm : (places log).Perm affected.toList)
    (hlog : ∀ c ∈ log, c.wanted.replacement = some .air ∧ c.granted = w.isWritable c.position)
    (hready : ∀ p, affected.contains p = true →
      w.isOutside p = false ∧ w.registry.isEmptyVoxel (w.voxel p) = false) (g : Generator) :
    Sweep explosion affected w
      (rules.burn explosion (places log) (rules.settled w log w') g).1.1
      (rules.burn explosion (places log) (rules.settled w log w') g).1.2 := by
  have hnodup : (places log).Nodup := hperm.nodup_iff.mpr affected.nodup_toList
  have hplaces : ∀ p ∈ places log, affected.contains p = true := fun p hp =>
    AffectedSet.mem_toList.mp (hperm.mem_iff.mp hp)
  have hfree : ∀ p, affected.contains p = true → w.isWritable p = !w.isGuarded p := by
    intro p hp
    obtain ⟨hinside, hused⟩ := hready p hp
    rw [World.isWritable, World.accepts_of_not_isEmptyVoxel hinside hused, Bool.and_true]
  have hcleared := hconv.isCleared rules hnodup hlog fun p hp => (hready p (hplaces p hp)).2
  have hsetting := hconv.sameSetting.trans (rules.sameSetting_settled w log w')
  have hburnt := rules.burnt_burn explosion (places log) (rules.settled w log w') g
  have hframe := ((hconv.frame hplaces).settled rules log).burnt hburnt hplaces
  have hcounts := rules.burn_cleared explosion hnodup (rules.settled w log w') g hcleared
  obtain ⟨emitted, -, -, hsummary⟩ := rules.settled_eq w log w'
  rw [hsummary, CommitSummary.foldl_count_removed hlog, hsetting.registry] at hcounts
  -- every count over the log is one over the set, which has the same positions
  have hcount : ∀ (f f' : Position → Bool), (∀ p, affected.contains p = true → f p = f' p) →
      (places log).countP f = affected.toList.countP f' := by
    intro f f' hsame
    rw [← hperm.countP_eq]
    exact List.countP_congr fun p hp => by rw [hsame p (hplaces p hp)]
  exact {
    changed := by
      rw [hcounts]
      exact hcount _ _ hfree
    rejected := by
      rw [hcounts]
      exact hcount _ _ fun p hp => by rw [hfree p hp, Bool.not_not]
    cleared := by
      intro p hp hunguarded
      have hw : (rules.settled w log w').1.isWritable p = true := by
        rw [hsetting.isWritable, hfree p hp, hunguarded]
        rfl
      have hmem : p ∈ places log := hperm.mem_iff.mpr (AffectedSet.mem_toList.mpr hp)
      rw [hsetting.registry] at hburnt
      rcases hburnt.lit p with hkept | ⟨hlit, -⟩
      · exact .inl (hkept.trans ((hcleared p hmem).voxel_eq hw))
      · exact .inr hlit
    fires := by
      rw [hcounts]
      cases explosion.fireIn? w.registry with
      | none => rfl
      | some fire =>
          refine (Nat.zero_add _).trans (hcount _ _ ?_)
          intro p hp
          rw [World.isLit, (hsetting.trans hburnt.setting).isWritable, hfree p hp]
    spared := hframe.spared }

/-- A destructive commit sweeps a set of voxels that are not empty and inside the
build height. -/
theorem sweep_commit (rules : CommitRules) {explosion : Explosion} {affected : AffectedSet}
    {w : World} (g : Generator) (hbuiltin : w.registry.UsesBuiltin)
    (hmode : explosion.interaction.isDestructive = true)
    (hready : ∀ p, affected.contains p = true →
      w.isOutside p = false ∧ w.registry.isEmptyVoxel (w.voxel p) = false) :
    ∃ summary, (rules.commit explosion affected w g).1.result = .ok summary ∧
      Sweep explosion affected w (rules.commit explosion affected w g).1.world summary := by
  have hkeep : explosion.interaction ≠ .keep := by
    intro h
    rw [h] at hmode
    cases hmode
  obtain ⟨order, log, w', g₂, hperm, hconv, hend⟩ := rules.commit_cases affected w g hkeep
  have hnodup : order.Nodup := hperm.nodup_iff.mpr affected.nodup_toList
  have hused : ∀ p ∈ order, w.registry.isEmptyVoxel (w.voxel p) = false := fun p hp =>
    (hready p (AffectedSet.mem_toList.mp (hperm.mem_iff.mp hp))).2
  rcases hend with ⟨rfl, final, g₃, hburn, hcommit⟩ | ⟨p, later, cause, g₃, rfl, hfail, hcommit⟩
  · have hlog := hconv.removes hnodup hbuiltin hmode hused
    have hsweep := rules.sweep_burn hconv hperm hlog hready g₂
    rw [hburn] at hsweep
    rw [hcommit]
    exact ⟨final.2, rfl, hsweep⟩
  · -- the handler of `p` would have failed, but whatever is at `p` is removed
    exfalso
    have hp : p ∉ places log := fun hlog =>
      (List.nodup_append.mp hnodup).2.2 p hlog p List.mem_cons_self rfl
    obtain ⟨drops, hremoved⟩ := reaction_destructive hbuiltin hmode (hused p (by simp)) g₂
    rw [← reaction_congr explosion hconv.sameSetting (hconv.voxel_of_notMem hp), hfail] at hremoved
    cases hremoved

end CommitRules

/-- Where the voxels and guards are the same, so is what a sweep makes of them. -/
theorem Sweep.of_sameGround {explosion : Explosion} {affected : AffectedSet}
    {w before after : World} {summary : CommitSummary}
    (h : Sweep explosion affected before after summary) (hground : World.SameGround w before) :
    Sweep explosion affected w after summary := by
  have hguarded : before.isGuarded = w.isGuarded := funext hground.isGuarded
  obtain ⟨changed, rejected, cleared, fires, spared⟩ := h
  rw [hguarded] at changed rejected cleared fires spared
  rw [hground.registry] at cleared fires
  exact ⟨changed, rejected, cleared, fires,
    fun p hp => (spared p hp).trans (hground.voxel p)⟩

namespace Detonation

theorem exists_of_detonate_ok {d : Detonation} {w : World} {g : Generator}
    (h : (d.detonate w g).1.result = .ok ()) :
    ∃ affected, ((RayFan.ofConfig d.config).trace d.explosion w.terrain g).1 = some affected ∧
      (d.detonate w g).1 =
        ⟨d.struck affected w, deliver d.explosion.damageSource (d.impacts w) w, .ok ()⟩ := by
  unfold detonate at h ⊢
  by_cases hphase : d.phase = .created
  · rw [if_pos hphase] at h ⊢
    rcases d.blast_cases w g with ⟨-, hblast⟩ | hblast
    · rw [hblast] at h
      cases h
    · exact hblast
  · rw [if_neg hphase] at h
    cases h

theorem detonate_of_isSome_trace {d : Detonation} {w : World} {g : Generator}
    (hphase : d.phase = .created)
    (h : ((RayFan.ofConfig d.config).trace d.explosion w.terrain g).1.isSome = true) :
    (d.detonate w g).1.result = .ok () := by
  rw [detonate, if_pos hphase]
  rcases d.blast_cases w g with ⟨hnone, -⟩ | ⟨affected, -, hblast⟩
  · rw [hnone] at h
    cases h
  · rw [hblast]

/-- Finalizing a destructive explosion sweeps its set, if that is one of voxels that are not empty
and inside the build height. -/
theorem sweep_finalize {d : Detonation} (hphase : d.phase = .detonated) {before w : World}
    (hground : World.SameGround before w) (particles : Bool) (g : Generator)
    (hbuiltin : before.registry.UsesBuiltin)
    (hmode : d.explosion.interaction.isDestructive = true)
    (hready : ∀ p, d.affected.contains p = true →
      before.isOutside p = false ∧ before.registry.isEmptyVoxel (before.voxel p) = false) :
    ∃ summary, (d.finalize particles w g).1.result = .ok summary ∧
      Sweep d.explosion d.affected before (d.finalize particles w g).1.world summary := by
  obtain ⟨pitch, g₁, hfinalize⟩ := d.finalize_eq particles w g hphase
  rw [hfinalize]
  have hground := hground.trans (sameGround_present d particles pitch w)
  generalize d.present particles pitch w = w₁ at hground ⊢
  have hready₁ : ∀ p, d.affected.contains p = true →
      w₁.isOutside p = false ∧ w₁.registry.isEmptyVoxel (w₁.voxel p) = false := by
    intro p hp
    rw [World.isOutside, hground.grid, hground.registry, hground.voxel]
    exact hready p hp
  have hbuiltin₁ : w₁.registry.UsesBuiltin := hground.registry ▸ hbuiltin
  obtain ⟨summary, hresult, hsweep⟩ :=
    (CommitRules.ofConfig d.config).sweep_commit g₁ hbuiltin₁ hmode hready₁
  exact ⟨summary, congrArg (Except.mapError CommitFault.failure) hresult,
    hsweep.of_sameGround hground⟩

end Detonation

def World.clod : World := (World.place (.empty .builtin {}) ⟨0, 0, 0⟩ ⟨⟨2⟩, 0⟩).2

/-- A blast at the origin whose rays have no power left after one step. -/
def Detonation.brief : Detonation where
  explosion := { Explosion.pulse with interaction := .destroy }
  config := { rayGrid := 2, stepAttenuation := 100.0 }
  validate_config := by rfl

theorem World.voxel_clod : World.clod.voxel (Position.containing .zero) = .ofBlock ⟨⟨2⟩, 0⟩ := by
  rw [show Position.containing .zero = ⟨0, 0, 0⟩ by decide]
  exact World.voxel_place_self rfl _

theorem World.resistance_clod :
    (ResistanceStrategy.registry.rules World.clod.terrain).resistance (Position.containing .zero) =
      some 0.5 := by
  simp only [ResistanceStrategy.rules, World.terrain, World.voxel_clod]
  rfl

/-- Blasts around the block end if a step takes all the power that they start with. -/
theorem RayFan.isSome_trace_clod {explosion : Explosion} (hcenter : explosion.center = .zero)
    (hregistry : explosion.resistance = .registry)
    (hweak : ¬ (explosion.radius * (0.7 + 0.0 * 0.6) - (0.5 + 0.3) * Single.narrow 0.3 - 100.0 :
      Float32) > 0.0) :
    ((ofConfig Detonation.brief.config).trace explosion World.clod.terrain
      ⟨fun _ => 0, 0⟩).1.isSome = true := by
  unfold trace
  split
  · rfl
  · rw [hregistry]
    refine isSome_traceFrom ?_ _ _ 0
    intro direction
    rw [hcenter]
    exact March.isSome_run_of_weak (March.goesOn_after_eq_false World.resistance_clod hweak)

end Crater
