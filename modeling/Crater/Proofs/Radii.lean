import Crater.Proofs.Clearing
import Crater.Proofs.Endings
import Crater.Proofs.Reach
import Crater.Proofs.Rising

/-!
# Radii

A larger blast spares nothing that a smaller one destroys. Both draw the same
share of their radius for a ray, so the ray of the larger blast starts with at
least as much power. From then on the two rays visit the same points and pay the
same costs, and as long as the weaker one has power left, the other has at least
as much.
-/

namespace Crater

open Rounding Numeral

/-! ## The steps of a march -/

namespace March

variable {m : March} {a b ray : Ray}

inductive Takes (m : March) : Ray → RayStep → Prop
  | now {ray : Ray} (goes : m.goesOn ray = true) : Takes m ray (m.step ray)
  | later {ray : Ray} {s : RayStep} (goes : m.goesOn ray = true) (rest : Takes m (m.next ray) s) :
      Takes m ray s

theorem Takes.goes {s : RayStep} (h : m.Takes ray s) : m.goesOn ray = true := by
  cases h with
  | now goes => exact goes
  | later goes rest => exact goes

theorem takes_iff (hgo : m.goesOn ray = true) {s : RayStep} :
    m.Takes ray s ↔ s = m.step ray ∨ m.Takes (m.next ray) s := by
  constructor
  · intro h
    cases h with
    | now goes => exact .inl rfl
    | later goes rest => exact .inr rest
  · rintro (rfl | h)
    · exact .now hgo
    · exact .later hgo h

/-- **A march lists the steps that its ray takes.** -/
theorem mem_run {progress : Progress} {steps : Array RayStep} (hrun : m.run progress = some steps)
    {s : RayStep} : s ∈ steps ↔ s ∈ progress.taken ∨ m.Takes progress.ray s := by
  fun_induction run m progress with
  | case1 progress ray hgo step next taken hcloser ih =>
      rw [ih hrun, takes_iff hgo, Array.mem_push, or_assoc]
      rfl
  | case2 progress ray hgo step next taken hcloser hweaker ih =>
      rw [ih hrun, takes_iff hgo, Array.mem_push, or_assoc]
      rfl
  | case3 => cases hrun
  | case4 progress ray hgo step next taken hcloser hweaker hends =>
      obtain rfl := Option.some.inj hrun
      have hlast : ¬ m.Takes (m.next ray) s := by
        intro h
        exact hends h.goes
      rw [takes_iff hgo, Array.mem_push, or_iff_left hlast]
  | case5 progress ray hgo =>
      obtain rfl := Option.some.inj hrun
      constructor
      · exact .inl
      · rintro (h | h)
        · exact h
        · exact absurd h.goes hgo

theorem mem_steps? {steps : Array RayStep} (hsteps : m.steps? ray = some steps) {s : RayStep} :
    s ∈ steps ↔ m.Takes ray s := by
  rw [mem_run hsteps]
  simp

/-! ## Two rays in one march -/

/-- The ray `b` is where `a` is, with no less power as long as `a` has any. -/
structure Outlasts (b a : Ray) : Prop where
  point : b.point = a.point
  power : 0 < real a.power → Rises a.power b.power

/-- Paying the same keeps order until the weaker one is spent. -/
theorem rises_sub_of_pos {x y cost : Float32} (hcost : 0 ≤ real cost)
    (h : 0 < real x → Rises x y) (hpos : 0 < real (x - cost)) : Rises (x - cost) (y - cost) := by
  have hnan := isNaN_of_real_ne_zero hpos.ne'
  have hx := hpos.trans_le (power_sub_le hcost hnan)
  exact (h hx).sub_right hcost hnan hpos.le

namespace Outlasts

theorem goesOn (h : Outlasts b a) (hgo : m.goesOn a = true) : m.goesOn b = true := by
  have hpos := (power_pos_of_goesOn hgo).2
  have hpower := h.power hpos
  unfold March.goesOn at hgo ⊢
  rw [Bool.and_eq_true, decide_eq_true_eq] at hgo ⊢
  rw [h.point]
  refine ⟨?_, hgo.2⟩
  show 0.0 < b.power
  rw [Numeral.lt_iff, Single.real_zero]
  exact ⟨⟨rfl, hpower.isNaN_right⟩, hpos.trans_le hpower.le⟩

/-- Both rays pay the same for the voxel that they are in. -/
theorem powerAfter (h : Outlasts b a) (hfair : m.IsFair)
    (hpos : 0 < real (m.step a).powerAfter) :
    Rises (m.step a).powerAfter (m.step b).powerAfter := by
  unfold step at hpos ⊢
  simp only [h.point] at hpos ⊢
  cases hresistance : m.rules.resistance (Position.containing a.point) with
  | none =>
      rw [hresistance] at hpos
      exact h.power hpos
  | some r =>
      rw [hresistance] at hpos
      exact rises_sub_of_pos (hfair.resistance _ r hresistance) h.power hpos

/-- **A step keeps the order of two rays.** -/
theorem next (h : Outlasts b a) (hfair : m.IsFair) : Outlasts (m.next b) (m.next a) := by
  constructor
  · show b.point + m.advance = a.point + m.advance
    rw [h.point]
  · intro hpos
    exact rises_sub_of_pos hfair.attenuation (h.powerAfter hfair) hpos

theorem position_step (h : Outlasts b a) : (m.step b).position = (m.step a).position :=
  congrArg Position.containing h.point

/-- What the weaker ray destroys, the other one destroys too, if the rules do not look at
how much power is left. -/
theorem destroyed_step (h : Outlasts b a) (hfair : m.IsFair)
    (hblind : ∀ p x y, m.rules.destroys x p = m.rules.destroys y p)
    (hs : (m.step a).destroyed = true) : (m.step b).destroyed = true := by
  rw [destroyed_step_iff] at hs ⊢
  obtain ⟨hpower, hrules⟩ := hs
  have hpos := Single.real_pos_of_gt hpower
  have hrises := h.powerAfter hfair hpos
  constructor
  · show 0.0 < (m.step b).powerAfter
    rw [Numeral.lt_iff, Single.real_zero]
    exact ⟨⟨rfl, hrises.isNaN_right⟩, hpos.trans_le hrises.le⟩
  · rw [h.position_step, hblind _ _ (m.step a).powerAfter]
    exact hrules

end Outlasts

/-- **A stronger ray destroys more.** -/
theorem Takes.exists_of_outlasts (hfair : m.IsFair)
    (hblind : ∀ p x y, m.rules.destroys x p = m.rules.destroys y p) {s : RayStep}
    (h : m.Takes a s) (hs : s.destroyed = true) (hab : Outlasts b a) :
    ∃ t, m.Takes b t ∧ t.destroyed = true ∧ t.position = s.position := by
  -- on the steps of the weaker ray, with the other one kept at its side
  induction h generalizing b with
  | @now a goes =>
      exact ⟨m.step b, .now (hab.goesOn goes), hab.destroyed_step hfair hblind hs,
        hab.position_step⟩
  | @later a s goes rest ih =>
      obtain ⟨t, ht, hdestroyed, hposition⟩ := ih hs (hab.next hfair)
      exact ⟨t, .later (hab.goesOn goes) ht, hdestroyed, hposition⟩

end March

/-! ## The power that rays start with -/

namespace Draw

theorem isRounded_toFloat32 (n : UInt32) : IsRounded n.toFloat32 (n.toNat : ℝ) := by
  have hround := normalize_spec (f := .binary32) n.toNat 0 .positive
  rw [zpow_zero, mul_one, Int.cast_natCast] at hround
  exact isRounded_of_unpack rfl hround

theorem isFinite_toFloat32 (n : UInt32) : isFinite n.toFloat32 = true := by
  have hgrid : IsOnGrid (format Float32) (2 ^ 32) := ⟨1, 32, by decide, by decide, by norm_num⟩
  have hlimit : (2 : ℝ) ^ 32 < limit (format Float32) :=
    pow_lt_pow_right₀ (by norm_num) (by decide)
  have hword : (n.toNat : ℝ) ≤ 2 ^ 32 := by exact_mod_cast n.toNat_lt.le
  have hround := isRounded_toFloat32 n
  rw [Numeral.isFinite_iff, abs_of_nonneg (hround.real_nonneg n.toNat.cast_nonneg)]
  refine ⟨hround.isNaN, (hround.ge_of_isOnGrid hgrid ?_ hword).trans_lt hlimit⟩
  rw [abs_of_pos (by positivity)]
  exact hlimit.le

theorem real_unit : real (Float32.ofBits 0x33800000) = 1 / 2 ^ 24 := by
  rw [real_of_unpack (u := .finite .positive (2 ^ 23) (-47) (by decide)) rfl]
  norm_num [value, Float.Model.UnpackedFloat.Sign.apply]

/-- A fraction is a number that is not negative. -/
theorem fractionOf_spec (w : UInt32) :
    isFinite (fractionOf w) = true ∧ 0 ≤ real (fractionOf w) := by
  have hword := isRounded_toFloat32 (w >>> 8)
  have hfinite := isFinite_toFloat32 (w >>> 8)
  have hnonneg := hword.real_nonneg (w >>> 8).toNat.cast_nonneg
  have hproduct := isRounded_mul hfinite (show isFinite (Float32.ofBits 0x33800000) = true by rfl)
  rw [real_unit] at hproduct
  have h0 : 0 ≤ real (fractionOf w) := hproduct.real_nonneg (by positivity)
  have hle : real (fractionOf w) ≤ real (w >>> 8).toFloat32 := by
    refine hproduct.real_le (mul_le_of_le_one_right hnonneg ?_)
    norm_num
  exact ⟨isFinite_of_le hfinite hproduct.isNaN h0 hle, h0⟩

theorem real_fractionOf_le (w : UInt32) : real (fractionOf w) ≤ real (1.0 : Float32) := by
  have hgrid : IsOnGrid (format Float32) (2 ^ 24) := ⟨1, 24, by decide, by decide, by norm_num⟩
  have hlimit : (2 : ℝ) ^ 24 ≤ limit (format Float32) :=
    pow_le_pow_right₀ (by norm_num) (by decide)
  have hbits : (w >>> 8).toNat ≤ 2 ^ 24 := by
    rw [UInt32.toNat_shiftRight, Nat.shiftRight_eq_div_pow]
    have := w.toNat_lt
    change w.toNat / 2 ^ 8 ≤ 2 ^ 24
    omega
  have hword : real (w >>> 8).toFloat32 ≤ 2 ^ 24 := by
    refine (isRounded_toFloat32 (w >>> 8)).ge_of_isOnGrid hgrid ?_ (by exact_mod_cast hbits)
    rwa [abs_of_pos (by positivity)]
  have hproduct := isRounded_mul (isFinite_toFloat32 (w >>> 8))
    (show isFinite (Float32.ofBits 0x33800000) = true by rfl)
  rw [real_unit] at hproduct
  refine hproduct.real_le ?_
  rw [Single.real_one]
  linarith

end Draw

/-- Whether the rules of an explosion let a voxel be destroyed whatever power is left. -/
def ResistanceStrategy.IgnoresPower : ResistanceStrategy → Prop
  | registry => True
  | entityDerived _ r => ∀ p voxel block x y,
    r.shouldDestroy p voxel block x = r.shouldDestroy p voxel block y

theorem ResistanceStrategy.IgnoresPower.destroys_eq {strategy : ResistanceStrategy}
    (h : strategy.IgnoresPower) (terrain : Terrain) (p : Position) (x y : Float32) :
    (strategy.rules terrain).destroys x p = (strategy.rules terrain).destroys y p := by
  unfold rules
  cases strategy with
  | registry => rfl
  | entityDerived entity r => simp only [h p _ _ x y]

namespace RayFan

variable {config : Config} {terrain : Terrain} {small large : Explosion} {g : Generator}

/-- The larger radius gives the same ray no less power. -/
theorem rises_startPower (hvalid : config.IsValid) {r r' : Float32} (h : Rises r r')
    (hr' : isFinite r' = true) (hpos : 0 < real r) (w : UInt32) :
    Rises ((ofConfig config).startPower r (Draw.fractionOf w))
      ((ofConfig config).startPower r' (Draw.fractionOf w)) := by
  obtain ⟨hfraction, hfraction0⟩ := Draw.fractionOf_spec w
  have hspan := isRounded_mul hfraction hvalid.powerJitterSpan.1
  have hspan0 := real_mul_nonneg hfraction0 (Single.real_nonneg_of_ge hvalid.powerJitterSpan.2)
  -- the share may be infinite, but it is a number and not negative
  have hmin : isFinite config.powerJitterMin = true := hvalid.powerJitterMin.1
  have hshare := isNaN_add hmin hspan.isNaN
  have hshare0 := real_add_nonneg (Single.real_nonneg_of_ge hvalid.powerJitterMin.2) hspan0
  exact h.mul_right hr' hpos hshare hshare0

/-- What one ray of the smaller blast destroys, the same ray of the larger one destroys. -/
theorem DestroysAlone.of_radius_le (hvalid : config.IsValid)
    (hcenter : large.center = small.center) (hblind : small.resistance.IgnoresPower)
    (hpos : small.radius > 0.0) (hle : small.radius ≤ large.radius) {directions : List Vec3}
    (hends : ∀ i direction, directions[i]? = some direction →
      (alone config large terrain (small.resistance.rules terrain) g i
        direction).isSome = true) {p : Position}
    (h : DestroysAlone config small terrain (small.resistance.rules terrain) g
      directions p) :
    DestroysAlone config large terrain (small.resistance.rules terrain) g
      directions p := by
  obtain ⟨i, direction, steps, hd, halone, s, hs, hdestroyed, rfl⟩ := h
  obtain ⟨steps', halone'⟩ := Option.isSome_iff_exists.mp (hends i direction hd)
  have hpos' := Single.real_pos_of_gt hpos
  obtain ⟨⟨hnan, hnan'⟩, hle'⟩ := Numeral.le_iff.mp hle
  have houtlasts : March.Outlasts ((ofConfig config).rayAt large g i)
      ((ofConfig config).rayAt small g i) := by
    constructor
    · exact hcenter
    · intro _
      exact rises_startPower hvalid ⟨hnan, hnan', hpos'.le, hle'⟩ large.isFinite_radius hpos' _
  obtain ⟨t, ht, htdestroyed, hposition⟩ :=
    ((March.mem_steps? halone).mp hs).exists_of_outlasts (isFair_march hvalid _ direction)
      (hblind.destroys_eq terrain) hdestroyed houtlasts
  exact ⟨i, direction, steps', hd, halone', t, (March.mem_steps? halone').mpr ht, htdestroyed,
    hposition⟩

/-- **A larger blast spares nothing that a smaller one destroys.** With the same centre, rules
and generator, and with rules that do not look at the power left, every position that the smaller
radius affects is affected by the larger one. -/
theorem contains_trace_of_radius_le (hvalid : config.validate = .ok ())
    (hcenter : large.center = small.center) (hstrategy : large.resistance = small.resistance)
    (hblind : small.resistance.IgnoresPower) (hle : small.radius ≤ large.radius)
    {few many : AffectedSet}
    (hfew : ((ofConfig config).trace small terrain g).1 = some few)
    (hmany : ((ofConfig config).trace large terrain g).1 = some many) :
    ∀ p, few.contains p = true → many.contains p = true := by
  have hvalid := Config.isValid_of_validate hvalid
  intro p hp
  unfold trace at hfew hmany
  by_cases hzero : small.radius ≤ 0.0
  · rw [if_pos hzero] at hfew
    obtain rfl := Option.some.inj hfew
    rw [AffectedSet.not_contains_empty] at hp
    cases hp
  · have hpos := (radius_pos_iff small.validRadius_radius).mpr hzero
    have hpos' : ¬ large.radius ≤ 0.0 := by
      intro hlarge
      rw [Numeral.le_iff] at hle hlarge hzero
      exact hzero ⟨⟨hle.1.1, rfl⟩, hle.2.trans hlarge.2⟩
    rw [if_neg hzero] at hfew
    rw [if_neg hpos', hstrategy] at hmany
    have hends := (isSome_traceFrom_iff _ _ _).mp (Option.isSome_of_eq_some hmany)
    rw [(contains_traceFrom _ hfew).2, AffectedSet.not_contains_empty] at hp
    rw [(contains_traceFrom _ hmany).2]
    rcases hp with hp | hp
    · cases hp
    · exact .inr (hp.of_radius_le hvalid hcenter hblind hpos hle hends)

end RayFan

def Explosion.surge : Explosion :=
  { Explosion.pulse with radius := 5.0, validRadius_radius := by decide }

/-- The first step of any ray has enough power for the block that it starts in. -/
theorem RayFan.destroyed_step_clod (direction : Vec3) :
    let march := (ofConfig Detonation.brief.config).march World.clod.terrain
      (Explosion.pulse.resistance.rules World.clod.terrain) direction
    let ray := (ofConfig Detonation.brief.config).rayAt .pulse ⟨fun _ => 0, 0⟩ 0
    march.goesOn ray = true ∧ (march.step ray).destroyed = true := by
  intro march ray
  have hray : ray = ⟨.zero, 4.0 * (0.7 + 0.0 * 0.6)⟩ := rfl
  have hafter : (march.step ray).powerAfter =
      4.0 * (0.7 + 0.0 * 0.6) - (0.5 + 0.3) * Single.narrow 0.3 := by
    have hresistance : march.rules.resistance (Position.containing .zero) = some 0.5 :=
      World.resistance_clod
    simp only [hray, March.step, hresistance]
    rfl
  constructor
  · have hinside : march.isOutside (Position.containing .zero) = false := by
      rw [show Position.containing .zero = ⟨0, 0, 0⟩ by decide]
      rfl
    rw [hray, March.goesOn, hinside]
    decide
  · rw [March.destroyed_step_iff, hafter]
    refine ⟨by decide, ?_⟩
    show (ResistanceStrategy.registry.rules World.clod.terrain).destroys _
      (Position.containing .zero) = true
    have hdirt : World.clod.terrain.registry.isEmptyVoxel (.ofBlock ⟨⟨2⟩, 0⟩) = false :=
      show Registry.builtin.isEmptyVoxel (.ofBlock ⟨⟨2⟩, 0⟩) = false by decide
    rw [ResistanceStrategy.destroys_rules_iff]
    refine ⟨?_, ?_⟩
    · rw [show World.clod.terrain.voxel (Position.containing .zero) = _ from World.voxel_clod]
      exact hdirt
    · intro entity r h
      cases h

/-- A block of dirt under both blasts, whose rays have no power left after one step. -/
theorem RayFan.contains_trace_clod :
    Detonation.brief.config.validate = .ok () ∧ Explosion.pulse.radius ≤ Explosion.surge.radius ∧
    ∃ few many,
      ((ofConfig Detonation.brief.config).trace .pulse World.clod.terrain ⟨fun _ => 0, 0⟩).1 =
        some few ∧
      ((ofConfig Detonation.brief.config).trace .surge World.clod.terrain ⟨fun _ => 0, 0⟩).1 =
        some many ∧
      few.contains ⟨0, 0, 0⟩ = true ∧ ∀ p, few.contains p = true → many.contains p = true := by
  have hvalid : Detonation.brief.config.validate = .ok () := rfl
  have hle : Explosion.pulse.radius ≤ Explosion.surge.radius := by decide
  have hcenter : Explosion.surge.center = Explosion.pulse.center := rfl
  have hregistry : Explosion.surge.resistance = Explosion.pulse.resistance := rfl
  have hblind : Explosion.pulse.resistance.IgnoresPower := trivial
  have hpulse : Explosion.pulse.center = .zero ∧ Explosion.pulse.resistance = .registry := ⟨rfl, rfl⟩
  obtain ⟨few, hfew⟩ := Option.isSome_iff_exists.mp
    (isSome_trace_clod hpulse.1 hpulse.2 (by decide))
  obtain ⟨many, hmany⟩ := Option.isSome_iff_exists.mp
    (isSome_trace_clod (hcenter.trans hpulse.1) (hregistry.trans hpulse.2) (by decide))
  refine ⟨hvalid, hle, few, many, hfew, hmany, ?_,
    contains_trace_of_radius_le hvalid hcenter hregistry hblind hle hfew hmany⟩
  have hzero : ¬ Explosion.pulse.radius ≤ 0.0 := by decide
  rw [trace, if_neg hzero] at hfew
  have hends := (isSome_traceFrom_iff _ _ _).mp (Option.isSome_of_eq_some hfew)
  rw [(contains_traceFrom _ hfew).2]
  have hfirst : (ofConfig Detonation.brief.config).directions[0]? =
      some (cellDirection 2 (0, 0, 0)) := rfl
  obtain ⟨steps, hsteps⟩ := Option.isSome_iff_exists.mp (hends 0 _ hfirst)
  obtain ⟨hgo, hdestroyed⟩ := destroyed_step_clod (cellDirection 2 (0, 0, 0))
  have horigin : Position.containing .zero = ⟨0, 0, 0⟩ := by decide
  exact .inr ⟨0, _, steps, hfirst, hsteps, _, (March.mem_steps? hsteps).mpr (.now hgo), hdestroyed,
    horigin⟩

end Crater
