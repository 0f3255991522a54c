import Crater.Proofs.Rising
import Crater.Proofs.Sites
import Crater.Proofs.Weakening

/-!
# Indestructible voxels

A block that nobody registered resists without limit, and so do blocks and fluids that
are registered with an infinite resistance. What a ray pays for such a voxel is infinite
or no number at all: also with a bias on top, and also if the length of a step is zero or
infinite in single precision. Either way nothing is left of its power, however much that
was, because an infinity less an infinity is no number. So the ray ends there, no trace
contains the voxel, and no explosion that leaves resistances alone ever changes it.
-/

namespace Crater

open Numeral

/-! ## Infinite resistance -/

namespace Single

theorem isNaN_infinity : Numeral.isNaN infinity = false := by decide

theorem isFinite_infinity : Numeral.isFinite infinity = false := by decide

/-- Nothing exceeds an infinity, and a NaN does not count. -/
theorem max_infinity_left (x : Float32) : max infinity x = infinity := by
  unfold max
  rw [if_neg (by decide)]
  split
  · rfl
  · refine if_neg ?_
    intro hlt
    have hgt := (Numeral.lt_iff.mp hlt).2
    exact absurd (real_le_limit x) (not_le.mpr hgt)

theorem max_infinity_right (x : Float32) : max x infinity = infinity := by
  unfold max
  split
  · rfl
  · next hnan =>
    rw [if_neg (by decide)]
    split
    · rfl
    · next hge =>
      -- what is not below an infinity is one
      have hle : real infinity ≤ real x := by
        by_contra hlt
        exact hge (Numeral.lt_iff.mpr
          ⟨⟨Bool.eq_false_of_not_eq_true hnan, isNaN_infinity⟩, not_le.mp hlt⟩)
      have hpos : 0 < real infinity := Rounding.limit_pos _
      exact eq_of_real_eq (le_antisymm (real_le_limit x) hle) (hpos.trans_le hle).ne'

end Single

/-- The voxels that no ray gets through: those with a block that is not registered, and those with
a block or a fluid of infinite resistance. Air does not resist, whatever it is registered with, and
fluid zero is no fluid. -/
inductive Registry.Withstands (r : Registry) (v : Voxel) : Prop
  | unregistered (unknown : r.get? v.block.block = none)
  | block (b : BlockType) (registered : r.get? v.block.block = some b) (notAir : b.isAir = false)
      (infinite : b.resistance = Single.infinity)
  | fluid (f : FluidType) (registered : r.fluid? v.fluid.fluid = some f)
      (notEmpty : v.fluid.isEmpty = false) (infinite : f.resistance = Single.infinity)

def Terrain.Withstands (terrain : Terrain) (p : Position) : Prop :=
  terrain.registry.Withstands (terrain.voxel p)

/-- The strategies that leave resistances as they are registered. -/
inductive ResistanceStrategy.IsPlain : ResistanceStrategy → Prop
  | registry : IsPlain .registry
  | protectedBlocks (entity : EntityId) (blocks : List BlockId) :
      IsPlain (.entityDerived entity (.protectedBlocks blocks))

namespace Registry.Withstands

variable {r : Registry} {v : Voxel}

theorem isEmptyVoxel (h : r.Withstands v) : r.isEmptyVoxel v = false := by
  cases h with
  | unregistered unknown =>
      rw [Registry.isEmptyVoxel, Registry.block, unknown]
      rfl
  | block b registered notAir =>
      rw [Registry.isEmptyVoxel, Registry.block, registered, Option.getD_some, notAir,
        Bool.false_and]
  | fluid f registered notEmpty => rw [Registry.isEmptyVoxel, notEmpty, Bool.and_false]

theorem base_eq (h : r.Withstands v) : ResistanceStrategy.base r v = Single.infinity := by
  unfold ResistanceStrategy.base
  cases h with
  | unregistered unknown =>
      rw [Registry.block, unknown]
      exact Single.max_infinity_left _
  | block b registered notAir infinite =>
      simp only [Registry.block, registered, Option.getD_some, notAir, infinite]
      exact Single.max_infinity_left _
  | fluid f registered notEmpty infinite =>
      simp only [registered, notEmpty, Option.map_some, Option.getD_some, infinite]
      exact Single.max_infinity_right _

end Registry.Withstands

theorem Terrain.Withstands.resistance {terrain : Terrain} {p : Position}
    (h : terrain.Withstands p) {strategy : ResistanceStrategy} (hplain : strategy.IsPlain) :
    (strategy.rules terrain).resistance p = some Single.infinity := by
  have hbase := h.base_eq
  have hempty := h.isEmptyVoxel
  cases hplain with
  | registry =>
      simp only [ResistanceStrategy.rules, hempty, hbase]
      exact congrArg some (Single.max_infinity_left _)
  | protectedBlocks entity blocks =>
      simp only [ResistanceStrategy.rules, EntityRules.protectedBlocks, hempty, hbase]
      exact congrArg some (Single.max_infinity_left _)

/-! ## Rays that end -/

/-- Whether a ray that gets to a certain kind of position destroys nothing from there on, since it
ends. -/
def EndsAt (Q : Position → Prop) (steps : List RayStep) : Prop :=
  ∀ before s later, steps = before ++ s :: later → Q s.position →
    s.destroyed = false ∧ later = []

namespace March

variable {m : March} {ray : Ray} {Q : Position → Prop}

/-- Nothing is left of the power of a ray that pays for an infinite resistance. -/
theorem not_powerAfter_pos (hm : m.IsFair) (hgo : m.goesOn ray = true) {r : Float32}
    (hr : m.rules.resistance (Position.containing ray.point) = some r)
    (hinfinite : Numeral.isFinite r = false) : ¬ (m.step ray).powerAfter > 0.0 := by
  intro hpos
  obtain ⟨-, hpower⟩ := power_pos_of_goesOn hgo
  have hafter : (m.step ray).powerAfter = ray.power - (r + m.bias) * m.stride := by
    simp only [step, hr]
  obtain ⟨⟨-, hnan⟩, hleft⟩ := Numeral.lt_iff.mp hpos
  rw [Single.real_zero] at hleft
  rw [hafter] at hnan hleft
  -- so the cost would be finite, and the resistance with it
  have hcost : Numeral.isFinite ((r + m.bias) * m.stride) = true :=
    isFinite_of_sub hpower.le (hm.resistance _ r hr) hnan hleft.le
  rw [isFinite_mul_eq_false (isFinite_add_eq_false hinfinite)] at hcost
  cases hcost

/-- A step into an infinite resistance destroys nothing, and is the last one. -/
theorem step_of_infinite (hm : m.IsFair) (hgo : m.goesOn ray = true) {r : Float32}
    (hr : m.rules.resistance (Position.containing ray.point) = some r)
    (hinfinite : Numeral.isFinite r = false) :
    (m.step ray).destroyed = false ∧ m.goesOn (m.next ray) = false := by
  have hpower := not_powerAfter_pos hm hgo hr hinfinite
  constructor
  · apply Bool.eq_false_of_not_eq_true
    intro hdestroyed
    exact hpower (destroyed_step_iff.mp hdestroyed).1
  · apply Bool.eq_false_of_not_eq_true
    intro hnext
    exact hpower (precedes_step hm hnext).powerAfter

theorem endsAt_first (hm : m.IsFair)
    (hQ : ∀ p, Q p → ∃ r, m.rules.resistance p = some r ∧ Numeral.isFinite r = false) (n : ℕ) :
    EndsAt Q (m.first n ray) := by
  induction n generalizing ray with
  | zero =>
      intro before s later hsteps
      simp [first] at hsteps
  | succ n ih =>
      intro before s later hsteps hs
      cases hgo : m.goesOn ray with
      | false =>
          rw [first_of_not_goesOn hgo] at hsteps
          simp at hsteps
      | true =>
          rw [first_succ hgo] at hsteps
          cases before with
          | nil =>
              obtain ⟨rfl, rfl⟩ := List.cons.inj hsteps
              obtain ⟨r, hr, hinfinite⟩ := hQ _ hs
              obtain ⟨hdestroyed, hnext⟩ := step_of_infinite hm hgo hr hinfinite
              exact ⟨hdestroyed, first_of_not_goesOn hnext n⟩
          | cons t before =>
              obtain ⟨-, hrest⟩ := List.cons.inj hsteps
              exact ih before s later hrest hs

theorem Lists.eq_first {steps : List RayStep} (h : m.Lists ray steps) :
    steps = m.first steps.length ray := by
  rw [← h steps.length, List.take_length]

end March

namespace RayFan

variable {config : Config} {strategy : ResistanceStrategy} {terrain : Terrain}

theorem endsAt_march (hvalid : config.validate = .ok ()) (hplain : strategy.IsPlain)
    (direction : Vec3) (ray : Ray) (n : ℕ) :
    EndsAt terrain.Withstands
      (((ofConfig config).march terrain (strategy.rules terrain) direction).first n ray) := by
  refine March.endsAt_first (isFair_march (Config.isValid_of_validate hvalid) strategy direction)
    ?_ n
  intro p hp
  exact ⟨_, hp.resistance hplain, Single.isFinite_infinity⟩

theorem not_contains_trace (hvalid : config.validate = .ok ()) {explosion : Explosion}
    (hplain : explosion.resistance.IsPlain) {g : Generator} {affected : AffectedSet}
    (htrace : ((ofConfig config).trace explosion terrain g).1 = some affected) {p : Position}
    (hp : terrain.Withstands p) : affected.contains p = false := by
  apply Bool.eq_false_of_not_eq_true
  intro hmem
  refine forall_mem_trace (Q := fun p => ¬ terrain.Withstands p) htrace ?_ hmem hp
  intro direction ray m hgo hdestroyed hwithstands
  have hfair : m.IsFair := isFair_march (Config.isValid_of_validate hvalid) _ direction
  have hspared := (March.step_of_infinite hfair hgo (hwithstands.resistance hplain)
    Single.isFinite_infinity).1
  rw [hdestroyed] at hspared
  cases hspared

end RayFan

/-! ## Explosions that leave a voxel alone -/

namespace Detonation

/-- Whether a detonation is going to destroy a position, or may trace it in a world. -/
def Threatens (d : Detonation) (w : World) (p : Position) : Prop :=
  d.affected.contains p = true ∨
    ∃ g affected, ((RayFan.ofConfig d.config).trace d.explosion w.terrain g).1 = some affected ∧
      affected.contains p = true

variable (d : Detonation) (w : World) (g : Generator) {p : Position}

theorem threatens_of_detonate
    (hp : (d.perform w .detonate g).1.detonation.affected.contains p = true) :
    d.Threatens w p := by
  rw [perform, Draw.map_apply, detonate] at hp
  by_cases hphase : d.phase = .created
  · rw [if_pos hphase] at hp
    rcases d.blast_cases w g with ⟨-, hblast⟩ | ⟨affected, htrace, hblast⟩
    · rw [hblast] at hp
      exact .inl hp
    · rw [hblast] at hp
      exact .inr ⟨g, affected, htrace, hp⟩
  · rw [if_neg hphase] at hp
    exact .inl hp

/-- What a detonation is going to destroy after a call, it was going to destroy before, or it has
just traced it. -/
theorem threatens_of_perform (call : Call)
    (hp : (d.perform w call g).1.detonation.affected.contains p = true) :
    d.Threatens w p := by
  cases call with
  | detonate => exact d.threatens_of_detonate w g hp
  | detonateUnless veto =>
      cases hveto : veto d.explosion with
      | false =>
          rw [d.perform_detonateUnless w hveto] at hp
          exact d.threatens_of_detonate w g hp
      | true =>
          left
          rw [perform, Draw.map_apply, detonateUnless, hveto, if_pos rfl] at hp
          split at hp <;> exact hp
  | spareVoxels =>
      left
      rw [perform, spareVoxels] at hp
      by_cases hphase : d.phase = .detonated
      · rw [if_pos hphase] at hp
        exact absurd (hp.symm.trans (AffectedSet.not_contains_empty p)) (by decide)
      · rwa [if_neg hphase] at hp
  | finalize particles =>
      left
      rw [perform, Draw.map_apply] at hp
      by_cases hphase : d.phase = .detonated
      · rwa [d.finalize_eq_closed g hphase] at hp
      · rwa [finalize, if_neg hphase] at hp

/-- A call leaves alone what the detonation was not going to destroy. -/
theorem voxel_perform (call : Call) (hp : d.affected.contains p = false) :
    (d.perform w call g).1.world.registry = w.registry ∧
      (d.perform w call g).1.world.voxel p = w.voxel p := by
  rcases d.perform_ground w g call with hground | ⟨rules, w₁, g₁, hground, hcommit⟩
  · exact ⟨hground.registry, hground.voxel p⟩
  · have hframe := rules.frame_commit d.explosion d.affected w₁ g₁
    rw [← hcommit] at hframe
    exact ⟨hframe.setting.registry.trans hground.registry,
      (hframe.spared p (.inl hp)).trans (hground.voxel p)⟩

end Detonation

namespace Site

/-- What keeps a site from changing the voxel at a position: no ray gets through it, and no
explosion has traced it. -/
structure Keeps (site : Site) (p : Position) : Prop where
  withstands : site.world.terrain.Withstands p
  plain : ∀ d ∈ site.blasts, d.explosion.resistance.IsPlain
  untraced : ∀ d ∈ site.blasts, d.affected.contains p = false

variable {site : Site} {p : Position}

theorem Keeps.obey (h : site.Keeps p) (order : Order) :
    (site.obey order).Keeps p ∧ (site.obey order).world.voxel p = site.world.voxel p := by
  unfold Site.obey
  cases hd : site.blasts[order.blast]? with
  | none => exact ⟨h, rfl⟩
  | some d =>
      have hmem : d ∈ site.blasts := List.mem_of_getElem? hd
      obtain ⟨hregistry, hvoxel⟩ :=
        d.voxel_perform site.world order.generator order.call (h.untraced d hmem)
      refine ⟨⟨?_, ?_, ?_⟩, hvoxel⟩
      · have hwithstands := h.withstands
        simp only [Terrain.Withstands, World.terrain] at hwithstands ⊢
        rwa [hregistry, hvoxel]
      · intro e he
        rcases List.mem_or_eq_of_mem_set he with he | rfl
        · exact h.plain e he
        · rw [d.perform_explosion]
          exact h.plain d hmem
      · intro e he
        rcases List.mem_or_eq_of_mem_set he with he | rfl
        · exact h.untraced e he
        · apply Bool.eq_false_of_not_eq_true
          intro hp
          rcases d.threatens_of_perform site.world order.generator order.call hp with
            hold | ⟨g, affected, htrace, hnew⟩
          · rw [h.untraced d hmem] at hold
            cases hold
          · rw [RayFan.not_contains_trace d.validate_config (h.plain d hmem) htrace
              h.withstands] at hnew
            cases hnew

theorem Keeps.run (h : site.Keeps p) (orders : List Order) :
    (site.run orders).Keeps p ∧ (site.run orders).world.voxel p = site.world.voxel p := by
  induction orders generalizing site with
  | nil => exact ⟨h, rfl⟩
  | cons order rest ih =>
      obtain ⟨hkeeps, hfirst⟩ := h.obey order
      obtain ⟨hlater, hrest⟩ := ih hkeeps
      exact ⟨hlater, hrest.trans hfirst⟩

end Site

/-- **Unregistered blocks are indestructible**, and so are voxels of infinite resistance. With a
configuration that passes its checks and a strategy that leaves resistances alone, no trace has
them, every ray ends where it gets to one, and they stay as they are whatever calls an explosion
gets. -/
theorem RayFan.indestructible {config : Config} (hvalid : config.validate = .ok ())
    {explosion : Explosion} (hplain : explosion.resistance.IsPlain) :
    (∀ terrain g affected, ((ofConfig config).trace explosion terrain g).1 = some affected →
      ∀ p, terrain.Withstands p → affected.contains p = false) ∧
    (∀ terrain direction ray,
      let m := (ofConfig config).march terrain (explosion.resistance.rules terrain) direction
      (∀ n, EndsAt terrain.Withstands (m.first n ray)) ∧
      ∀ steps, m.steps? ray = some steps → EndsAt terrain.Withstands steps.toList) ∧
    ∀ d, Detonation.create explosion config = .ok d →
      ∀ (w : World) (p : Position), w.terrain.Withstands p → ∀ orders,
        (Site.run ⟨w, [d]⟩ orders).world.voxel p = w.voxel p := by
  refine ⟨?_, ?_, ?_⟩
  · intro terrain g affected htrace p hp
    exact not_contains_trace hvalid hplain htrace hp
  · intro terrain direction ray m
    refine ⟨endsAt_march hvalid hplain direction ray, ?_⟩
    intro steps hsteps
    rw [(March.lists_of_steps? hsteps).eq_first]
    exact endsAt_march hvalid hplain direction ray _
  · intro d hcreate w p hp orders
    have hexplosion := Detonation.explosion_of_create hcreate
    -- an explosion starts with nothing to destroy
    have haffected : d.affected = .empty := by
      rw [Detonation.create_eq explosion hvalid] at hcreate
      rw [← Except.ok.inj hcreate]
    have hkeeps : Site.Keeps ⟨w, [d]⟩ p := by
      refine ⟨hp, ?_, ?_⟩
      · intro e he
        rw [List.mem_singleton.mp he, hexplosion]
        exact hplain
      · intro e he
        rw [List.mem_singleton.mp he, haffected]
        exact AffectedSet.not_contains_empty p
    exact (hkeeps.run orders).2

/-- A world with a single block, of a kind that nobody registered. -/
def World.stray : World := ((World.empty .builtin {}).place ⟨0, 0, 0⟩ ⟨⟨99⟩, 0⟩).2

/-- A destructive blast in the middle of the stray block leaves it in its place. -/
theorem RayFan.indestructible_stray :
    Config.validate {} = .ok () ∧
    ∃ d, Detonation.create { Explosion.pulse with interaction := .destroy } {} = .ok d ∧
      World.stray.terrain.Withstands ⟨0, 0, 0⟩ ∧
      (Site.run ⟨.stray, [d]⟩
        [⟨0, .detonate, .ofSeed 1⟩, ⟨0, .finalize true, .ofSeed 2⟩]).world.voxel ⟨0, 0, 0⟩ =
          .ofBlock ⟨⟨99⟩, 0⟩ := by
  have hvalid : Config.validate {} = .ok () := rfl
  have hvoxel : World.stray.voxel ⟨0, 0, 0⟩ = .ofBlock ⟨⟨99⟩, 0⟩ :=
    World.voxel_place_self (w := .empty .builtin {}) (by decide) _
  have hstray : World.stray.terrain.Withstands ⟨0, 0, 0⟩ := by
    refine .unregistered ?_
    show Registry.builtin.get? (World.stray.voxel ⟨0, 0, 0⟩).block.block = none
    rw [hvoxel]
    rfl
  have hkept :=
    (@indestructible _ hvalid { Explosion.pulse with interaction := .destroy } .registry).2.2
  refine ⟨hvalid, _, rfl, hstray, ?_⟩
  exact (hkept _ rfl _ _ hstray _).trans hvoxel

end Crater
