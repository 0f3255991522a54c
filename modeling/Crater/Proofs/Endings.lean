import Crater.Proofs.CommitExact
import Crater.Proofs.FanUnion
import Crater.Proofs.Ranks
import Crater.Proofs.Settings

/-!
# Endings

A ray marches until its power is gone or it leaves the build height. Rays pay
costs that are not negative, so no step makes them stronger, and a step that
moves them moves them on along each axis. A ray that does not end therefore
freezes: from some step on it stays where it is and as strong as it is. It can
only freeze where the loss of a step is too small to show in its power, and this
is the only way in which a blast fails to finish.
-/

namespace Crater

open Rounding Numeral

namespace March

variable {m : March} {ray : Ray}

def next (m : March) (ray : Ray) : Ray := m.after ray (m.step ray)

/-- Whether a ray gets to a step that it does not take. -/
def Ends (m : March) (ray : Ray) : Prop := ∃ n, m.goesOn (m.next^[n] ray) = false

/-- Whether a ray goes on for ever without changing. -/
def IsFrozen (m : March) (ray : Ray) : Prop := m.goesOn ray = true ∧ m.next ray = ray

/-- What voxels and steps cost is not negative, whatever is marched through. -/
structure IsFair (m : March) : Prop where
  resistance : ∀ p r, m.rules.resistance p = some r → 0 ≤ real ((r + m.bias) * m.stride)
  attenuation : 0 ≤ real m.attenuation

theorem iterate_next_succ (n : ℕ) : m.next^[n + 1] ray = m.next^[n] (m.next ray) :=
  Function.iterate_succ_apply _ _ _

/-! ## What one step does -/

/-- A cost makes no power larger. -/
theorem power_sub_le {power cost : Float32} (hcost : 0 ≤ real cost)
    (hnan : Numeral.isNaN (power - cost) = false) : real (power - cost) ≤ real power := by
  rw [Numeral.sub_eq] at hnan ⊢
  refine real_add_le hnan ?_
  rw [real_neg]
  linarith

theorem isNaN_of_isNaN_sub {power cost : Float32} (hnan : Numeral.isNaN (power - cost) = false) :
    Numeral.isNaN power = false := by
  rw [Numeral.sub_eq] at hnan
  exact (isNaN_of_isNaN_add hnan).1

/-- Paying for a voxel makes no ray stronger. -/
theorem powerAfter_le (hm : m.IsFair) (ray : Ray)
    (hnan : Numeral.isNaN (m.step ray).powerAfter = false) :
    real (m.step ray).powerAfter ≤ real ray.power := by
  simp only [step] at hnan ⊢
  cases hresistance : m.rules.resistance (Position.containing ray.point) with
  | none => exact le_rfl
  | some r =>
      rw [hresistance] at hnan
      exact power_sub_le (hm.resistance _ r hresistance) hnan

theorem isNaN_of_isNaN_next (hnan : Numeral.isNaN (m.next ray).power = false) :
    Numeral.isNaN ray.power = false := by
  have hafter : Numeral.isNaN (m.step ray).powerAfter = false := isNaN_of_isNaN_sub hnan
  simp only [step] at hafter
  cases hresistance : m.rules.resistance (Position.containing ray.point) with
  | none => rwa [hresistance] at hafter
  | some r =>
      rw [hresistance] at hafter
      exact isNaN_of_isNaN_sub hafter

theorem power_next_le (hm : m.IsFair) (ray : Ray)
    (hnan : Numeral.isNaN (m.next ray).power = false) :
    real (m.next ray).power ≤ real ray.power :=
  (power_sub_le hm.attenuation hnan).trans (powerAfter_le hm ray (isNaN_of_isNaN_sub hnan))

theorem power_pos_of_goesOn (h : m.goesOn ray = true) :
    Numeral.isNaN ray.power = false ∧ 0 < real ray.power := by
  simp only [goesOn, Bool.and_eq_true, decide_eq_true_eq] at h
  have hpower : 0.0 < ray.power := h.1
  rw [Numeral.lt_iff, Single.real_zero] at hpower
  exact ⟨hpower.1.2, hpower.2⟩

theorem axisRoom_le (advance x : Float) :
    axisRoom advance (x + advance) ≤ axisRoom advance x := by
  rcases Double.axisRoom_add advance x with h | h
  · rw [h]
    exact UInt64.le_refl _
  · exact UInt64.le_of_lt h

/-- **A step moves a ray on** or leaves it where it is. -/
theorem isCloser_or_eq (m : March) (ray : Ray) :
    isCloser m.advance ray.point (m.next ray).point = true ∨ (m.next ray).point = ray.point := by
  have hx := axisRoom_le m.advance.x ray.point.x
  have hy := axisRoom_le m.advance.y ray.point.y
  have hz := axisRoom_le m.advance.z ray.point.z
  have hcloser : (axisRoom m.advance.x (ray.point.x + m.advance.x) < axisRoom m.advance.x ray.point.x ∨
      axisRoom m.advance.y (ray.point.y + m.advance.y) < axisRoom m.advance.y ray.point.y) ∨
      axisRoom m.advance.z (ray.point.z + m.advance.z) < axisRoom m.advance.z ray.point.z →
      isCloser m.advance ray.point (m.next ray).point = true := by
    intro h
    simp only [isCloser, Bool.and_eq_true, Bool.or_eq_true, decide_eq_true_eq]
    exact ⟨⟨⟨hx, hy⟩, hz⟩, h⟩
  rcases Double.axisRoom_add m.advance.x ray.point.x with hx' | hx'
  · rcases Double.axisRoom_add m.advance.y ray.point.y with hy' | hy'
    · rcases Double.axisRoom_add m.advance.z ray.point.z with hz' | hz'
      · refine .inr ?_
        show Vec3.mk (ray.point.x + m.advance.x) (ray.point.y + m.advance.y)
          (ray.point.z + m.advance.z) = ray.point
        rw [hx', hy', hz']
      · exact .inl (hcloser (.inr hz'))
    · exact .inl (hcloser (.inl (.inr hy')))
  · exact .inl (hcloser (.inl (.inl hx')))

/-! ## What a whole march does -/

theorem ends_of_not_goesOn (h : m.goesOn ray = false) : m.Ends ray := ⟨0, h⟩

theorem ends_next_iff (h : m.goesOn ray = true) : m.Ends (m.next ray) ↔ m.Ends ray := by
  constructor
  · rintro ⟨n, hn⟩
    exact ⟨n + 1, by rwa [iterate_next_succ]⟩
  · rintro ⟨n, hn⟩
    cases n with
    | zero =>
        rw [Function.iterate_zero, id, h] at hn
        cases hn
    | succ n =>
        rw [iterate_next_succ] at hn
        exact ⟨n, hn⟩

theorem IsFrozen.not_ends (h : m.IsFrozen ray) : ¬ m.Ends ray := by
  rintro ⟨n, hn⟩
  rw [Function.iterate_fixed h.2, h.1] at hn
  cases hn

/-- A ray in an empty voxel is frozen if a step is too short to move it and takes too little. -/
theorem isFrozen_of_free (hgo : m.goesOn ray = true)
    (hfree : m.rules.resistance (Position.containing ray.point) = none)
    (hpoint : ray.point + m.advance = ray.point)
    (hpower : ray.power - m.attenuation = ray.power) : m.IsFrozen ray := by
  refine ⟨hgo, ?_⟩
  calc m.next ray = ⟨ray.point + m.advance, ray.power - m.attenuation⟩ := by
        simp only [next, after, step, hfree]
    _ = ray := by rw [hpoint, hpower]

/-- A ray that is not moved and goes on, but is not weaker, is frozen. -/
theorem isFrozen_of_stuck (hm : m.IsFair) (hgo : m.goesOn ray = true)
    (hpoint : (m.next ray).point = ray.point)
    (hweaker : ¬ (m.next ray).power.toBits < ray.power.toBits)
    (hnext : m.goesOn (m.next ray) = true) : m.IsFrozen ray := by
  obtain ⟨hnan, hpos⟩ := power_pos_of_goesOn hnext
  have hle := power_next_le hm ray hnan
  -- powers that are not NaN and not zero are equal if their values are
  have heq : (m.next ray).power = ray.power := by
    refine eq_of_real_eq (hle.antisymm ?_) hpos.ne'
    by_contra hlt
    exact hweaker (Single.toBits_lt_toBits hpos (not_le.mp hlt))
  refine ⟨hgo, ?_⟩
  calc m.next ray = ⟨(m.next ray).point, (m.next ray).power⟩ := rfl
    _ = ⟨ray.point, ray.power⟩ := by rw [hpoint, heq]
    _ = ray := rfl

/-- How a march with a given result goes on: the ray ends, or it never ends and freezes. -/
def Outcome (m : March) (ray : Ray) (result : Option (Array RayStep)) : Prop :=
  (result.isSome = true ∧ m.Ends ray) ∨
    (result.isSome = false ∧ ¬ m.Ends ray ∧ ∃ n, m.IsFrozen (m.next^[n] ray))

theorem Outcome.of_next {result : Option (Array RayStep)} (hgo : m.goesOn ray = true)
    (h : m.Outcome (m.next ray) result) : m.Outcome ray result := by
  rcases h with ⟨hsome, hends⟩ | ⟨hnone, hends, n, hfrozen⟩
  · exact .inl ⟨hsome, (ends_next_iff hgo).mp hends⟩
  · exact .inr ⟨hnone, fun h => hends ((ends_next_iff hgo).mpr h), n + 1,
      by rwa [iterate_next_succ]⟩

/-- **A march has a result if the ray ends**, and otherwise the ray freezes. -/
theorem outcome_run (hm : m.IsFair) (progress : Progress) :
    m.Outcome progress.ray (m.run progress) := by
  -- the measure of `run` is the room left, and the bits of the power where the ray is not moved
  fun_induction run m progress with
  | case1 progress ray hgo step next taken hcloser ih => exact .of_next hgo ih
  | case2 progress ray hgo step next taken hcloser hweaker ih => exact .of_next hgo ih
  | case3 progress ray hgo step next hcloser hweaker hnext =>
      have hstays : (m.next ray).point = ray.point :=
        (m.isCloser_or_eq ray).resolve_left hcloser
      have hfrozen : m.IsFrozen ray :=
        isFrozen_of_stuck hm hgo hstays (fun h => hweaker ⟨hstays, h⟩) hnext
      exact .inr ⟨rfl, hfrozen.not_ends, 0, hfrozen⟩
  | case4 progress ray hgo step next taken hcloser hweaker hends =>
      exact .inl ⟨rfl, 1, Bool.eq_false_of_not_eq_true hends⟩
  | case5 progress ray hgo =>
      exact .inl ⟨rfl, ends_of_not_goesOn (Bool.eq_false_of_not_eq_true hgo)⟩

theorem isSome_steps?_iff (hm : m.IsFair) (ray : Ray) :
    (m.steps? ray).isSome = true ↔ m.Ends ray := by
  rcases outcome_run hm ⟨ray, #[]⟩ with ⟨hsome, hends⟩ | ⟨hnone, hends, -⟩
  · exact ⟨fun _ => hends, fun _ => hsome⟩
  · exact ⟨fun h => absurd (h.symm.trans hnone) (by decide), fun h => absurd h hends⟩

theorem ends_or_exists_isFrozen (hm : m.IsFair) (ray : Ray) :
    m.Ends ray ∨ ∃ n, m.IsFrozen (m.next^[n] ray) := by
  rcases outcome_run hm ⟨ray, #[]⟩ with ⟨-, hends⟩ | ⟨-, -, hfrozen⟩
  · exact .inl hends
  · exact .inr hfrozen

/-! ## Losses that show -/

/-- No ray ever has more power than it started with. -/
theorem power_iterate_le (hm : m.IsFair) (n : ℕ)
    (hnan : Numeral.isNaN (m.next^[n] ray).power = false) :
    real (m.next^[n] ray).power ≤ real ray.power := by
  induction n with
  | zero => exact le_rfl
  | succ n ih =>
      rw [Function.iterate_succ_apply'] at hnan ⊢
      exact (power_next_le hm _ hnan).trans (ih (isNaN_of_isNaN_next hnan))

/-- The loss of a step shows in powers that are not too large for it. -/
theorem power_next_lt (hm : m.IsFair) (hloss : Numeral.isFinite m.attenuation = true)
    (hpos : 0 < real m.attenuation) (hnan : Numeral.isNaN (m.next ray).power = false)
    (hnext : 0 < real (m.next ray).power) (hpower : Numeral.isFinite ray.power = true)
    (h : real ray.power < 2 ^ 24 * real m.attenuation) :
    real (m.next ray).power < real ray.power := by
  have hafter : Numeral.isNaN (m.step ray).powerAfter = false := isNaN_of_isNaN_sub hnan
  have hle := powerAfter_le hm ray hafter
  have hge : real (m.next ray).power ≤ real (m.step ray).powerAfter :=
    power_sub_le hm.attenuation hnan
  have hfinite : Numeral.isFinite (m.step ray).powerAfter = true :=
    isFinite_of_le hpower hafter (hnext.le.trans hge) hle
  calc real (m.next ray).power
      = rounded .binary32 (real (m.step ray).powerAfter - real m.attenuation) :=
        (isRounded_sub hfinite hloss).real_eq
    _ ≤ rounded .binary32 (real ray.power - real m.attenuation) := rounded_mono _ (by linarith)
    _ < real ray.power :=
        rounded_sub_lt (isOnGrid_real ray.power) (isOnGrid_real m.attenuation)
          (hnext.trans_le (hge.trans hle)) hpos h

/-- **A ray ends** if the loss of a step shows in the power that it starts with. -/
theorem ends_of_power_lt (hm : m.IsFair) (hloss : Numeral.isFinite m.attenuation = true)
    (hpos : 0 < real m.attenuation) (hpower : Numeral.isFinite ray.power = true)
    (h : real ray.power < 2 ^ 24 * real m.attenuation) : m.Ends ray := by
  rcases ends_or_exists_isFrozen hm ray with hends | ⟨n, hgo, hfixed⟩
  · exact hends
  · obtain ⟨hnan, hleft⟩ := power_pos_of_goesOn hgo
    have hle := power_iterate_le hm n hnan
    have hfinite := isFinite_of_le hpower hnan hleft.le hle
    -- the frozen ray is not stronger than at the start, so its next step would have to show
    have hlt := power_next_lt hm hloss hpos (by rwa [hfixed]) (by rwa [hfixed]) hfinite
      (hle.trans_lt h)
    rw [hfixed] at hlt
    exact absurd hlt (lt_irrefl _)

end March

/-! ## Blasts -/

/-- The larger of a number and zero is not negative; of a NaN and zero it is zero. -/
theorem Single.real_max_zero_nonneg (x : Float32) : 0 ≤ real (Single.max x 0.0) := by
  unfold Single.max
  split
  · exact Single.real_zero.ge
  · next hnan =>
    rw [if_neg (show ¬ (0.0 : Float32).isNaN = true by decide +kernel)]
    split
    · exact Single.real_zero.ge
    · next hge =>
      by_contra h
      refine hge (Numeral.lt_iff.mpr ⟨⟨Bool.eq_false_of_not_eq_true hnan, rfl⟩, ?_⟩)
      rw [Single.real_zero]
      exact not_le.mp h

namespace RayFan

variable {config : Config} {terrain : Terrain}

/-- The rays of a configuration that passes its checks pay costs that are not negative. -/
theorem isFair_march (hvalid : config.IsValid) (strategy : ResistanceStrategy)
    (direction : Vec3) :
    ((ofConfig config).march terrain (strategy.rules terrain) direction).IsFair where
  resistance p r hr := by
    have hr' : 0 ≤ real r := by
      simp only [march, ResistanceStrategy.rules] at hr
      split at hr
      · cases hr
      · obtain rfl := Option.some.inj hr
        exact Single.real_max_zero_nonneg _
    have hstride : 0 ≤ real (Single.narrow config.rayStep) :=
      (Single.isRounded_narrow hvalid.rayStep.1).real_nonneg
        (Double.real_pos_of_gt hvalid.rayStep.2).le
    exact real_mul_nonneg
      (real_add_nonneg hr' (Single.real_nonneg_of_ge hvalid.resistanceBias.2)) hstride
  attenuation := (Single.real_pos_of_gt hvalid.stepAttenuation.2).le

/-- The ray with number `i` of a blast, before its first step. -/
def rayAt (fan : RayFan) (explosion : Explosion) (g : Generator) (i : ℕ) : Ray :=
  ⟨explosion.center, fan.startPower explosion.radius (Draw.fraction (g.skip i)).1⟩

/-- **How blasts end.** With a configuration that passes its checks, the rays of a blast have a
result if each of them ends. A ray ends or freezes, that is, goes on for ever where it is with the
power that it has; and it ends in every world if it starts with less than `2 ^ 24` times the power
that a step takes. -/
theorem isSome_trace_iff_ends {config : Config} (hvalid : config.validate = .ok ())
    (explosion : Explosion) (terrain : Terrain) (g : Generator) :
    let fan := ofConfig config
    let march direction := fan.march terrain (explosion.resistance.rules terrain) direction
    ((fan.trace explosion terrain g).1.isSome = true ↔
      (explosion.radius > 0.0 → ∀ i direction, fan.directions[i]? = some direction →
        (march direction).Ends (fan.rayAt explosion g i))) ∧
    ∀ i direction,
      ((march direction).Ends (fan.rayAt explosion g i) ∨
        ∃ n, (march direction).IsFrozen ((march direction).next^[n] (fan.rayAt explosion g i))) ∧
      ((fan.rayAt explosion g i).power.isFinite = true →
        real (fan.rayAt explosion g i).power < 2 ^ 24 * real config.stepAttenuation →
        (march direction).Ends (fan.rayAt explosion g i)) := by
  intro fan march
  have hvalid := Config.isValid_of_validate hvalid
  have hfair : ∀ direction, (march direction).IsFair := fun direction =>
    isFair_march hvalid explosion.resistance direction
  refine ⟨?_, ?_⟩
  · have hpos := radius_pos_iff explosion.validRadius_radius
    rw [trace]
    by_cases hradius : explosion.radius ≤ 0.0
    · rw [if_pos hradius]
      exact ⟨fun _ h => absurd hradius (hpos.mp h), fun _ => rfl⟩
    · rw [if_neg hradius, isSome_traceFrom_iff]
      constructor
      · intro h _ i direction hd
        exact (March.isSome_steps?_iff (hfair direction) _).mp (h i direction hd)
      · intro h i direction hd
        exact (March.isSome_steps?_iff (hfair direction) _).mpr
          (h (hpos.mpr hradius) i direction hd)
  · intro i direction
    refine ⟨March.ends_or_exists_isFrozen (hfair direction) _, ?_⟩
    intro hfinite hpower
    exact March.ends_of_power_lt (hfair direction) hvalid.stepAttenuation.1
      (Single.real_pos_of_gt hvalid.stepAttenuation.2) hfinite hpower

/-- The default settings take enough power in each step for rays of a radius of 4. -/
theorem isSome_trace_default :
    Config.validate {} = .ok () ∧ Explosion.pulse.radius > 0.0 ∧
    ((ofConfig {}).trace .pulse World.buttonRow.terrain ⟨fun _ => 0, 0⟩).1.isSome = true := by
  have hvalid : Config.validate {} = .ok () := rfl
  obtain ⟨hiff, hends⟩ :=
    isSome_trace_iff_ends hvalid .pulse World.buttonRow.terrain ⟨fun _ => 0, 0⟩
  refine ⟨hvalid, by decide, hiff.mpr ?_⟩
  rintro - i direction -
  have hray : ((ofConfig {}).rayAt .pulse ⟨fun _ => 0, 0⟩ i).power =
      4.0 * (0.7 + Draw.fractionOf 0 * 0.6) := rfl
  refine (hends i direction).2 (by rw [hray]; decide) ?_
  have hpower : (4.0 * (0.7 + Draw.fractionOf 0 * 0.6) : Float32) < 4.0 := by decide
  have hloss : (0.125 : Float32) < Config.stepAttenuation {} := by decide
  have hfour : real (4.0 : Float32) = 4 := by
    rw [real_of_unpack (u := .finite .positive (2 ^ 23) (-21) (by decide)) rfl]
    norm_num [value, Float.Model.UnpackedFloat.Sign.apply]
  have heighth : real (0.125 : Float32) = 1 / 8 := by
    rw [real_of_unpack (u := .finite .positive (2 ^ 23) (-26) (by decide)) rfl]
    norm_num [value, Float.Model.UnpackedFloat.Sign.apply]
  calc real ((ofConfig {}).rayAt .pulse ⟨fun _ => 0, 0⟩ i).power
      < real (4.0 : Float32) := by rw [hray]; exact (Numeral.lt_iff.mp hpower).2
    _ < 2 ^ 24 * real (0.125 : Float32) := by rw [hfour, heighth]; norm_num
    _ < 2 ^ 24 * real (Config.stepAttenuation {}) := by
        have := (Numeral.lt_iff.mp hloss).2
        gcongr

end RayFan

/-- Settings with steps and losses that are too small to show in ordinary numbers. -/
def Config.crawl : Config := { rayStep := 1e-20, stepAttenuation := 1e-9 }

/-- Nothing in an empty world resists. -/
theorem World.resistance_empty {registry : Registry} (hair : registry.isEmptyVoxel .air = true)
    (range : BuildRange) (p : Position) :
    (ResistanceStrategy.registry.rules (World.empty registry range).terrain).resistance p =
      none := by
  have hvoxel : (World.empty registry range).voxel p = .air := by
    show ({ range } : Grid).get p = .air
    simp [Grid.get]
  show (if registry.isEmptyVoxel ((World.empty registry range).voxel p) then none else _) = none
  rw [hvoxel, if_pos hair]

/-- With settings that pass their checks, the first ray of a blast in an empty world stays in the
middle of its voxel for ever. -/
theorem RayFan.exists_not_ends_crawl :
    Config.crawl.validate = .ok () ∧
    ∃ explosion, ExplosionPlan.build { center := .splat 0.5, radius := 4.0 } = .ok explosion ∧
      ∃ direction, (ofConfig .crawl).directions[0]? = some direction ∧
        ¬ ((ofConfig .crawl).march (World.empty .builtin {}).terrain
          (explosion.resistance.rules (World.empty .builtin {}).terrain) direction).Ends
            ((ofConfig .crawl).rayAt explosion (.ofSeed 0) 0) := by
  refine ⟨rfl, _, rfl, cellDirection 16 (0, 0, 0), rfl, ?_⟩
  refine March.IsFrozen.not_ends (March.isFrozen_of_free ?_ ?_ ?_ ?_)
  · decide +kernel
  · exact World.resistance_empty (by decide) _ _
  · decide +kernel
  · decide +kernel

end Crater
