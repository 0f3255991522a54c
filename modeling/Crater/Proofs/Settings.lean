import Crater.Config

/-!
# Settings that pass their checks

The checks of a configuration run one after the other and stop at the first
fault. What all of them say together is `Config.IsValid`.
-/

namespace Crater

/-- A check that is passed leaves the rest of the checks. -/
theorem ConfigFault.of_check {c : Prop} [Decidable c] {fault : ConfigFault}
    {rest : Unit → Except ConfigFault Unit}
    (h : (if c then throw fault >>= rest else rest ()) = .ok ()) : ¬ c ∧ rest () = .ok () := by
  by_cases hc : c
  · rw [if_pos hc] at h
    cases h
  · rw [if_neg hc] at h
    exact ⟨hc, h⟩

namespace Config

/-- What the numbers of a configuration have to satisfy. -/
structure IsValid (c : Config) : Prop where
  rayGrid : 2 ≤ c.rayGrid
  rayStep : c.rayStep.isFinite = true ∧ c.rayStep > 0.0
  powerJitterMin : c.powerJitterMin.isFinite = true ∧ c.powerJitterMin ≥ 0.0
  powerJitterSpan : c.powerJitterSpan.isFinite = true ∧ c.powerJitterSpan ≥ 0.0
  resistanceBias : c.resistanceBias.isFinite = true ∧ c.resistanceBias ≥ 0.0
  stepAttenuation : c.stepAttenuation.isFinite = true ∧ c.stepAttenuation > 0.0
  mergeCap : c.mergeCap ≠ 0
  ignitionChance : c.ignitionChance ≠ 0
  damageScale : c.damageScale.isFinite = true ∧ c.damageScale ≥ 0.0
  entitySearchMargin : c.entitySearchMargin.isFinite = true ∧ c.entitySearchMargin ≥ 0.0

theorem isValid_of_validate {c : Config} (h : c.validate = .ok ()) : c.IsValid := by
  unfold validate at h
  obtain ⟨hgrid, h⟩ := ConfigFault.of_check h
  obtain ⟨hstep, h⟩ := ConfigFault.of_check h
  obtain ⟨hmin, h⟩ := ConfigFault.of_check h
  obtain ⟨hspan, h⟩ := ConfigFault.of_check h
  obtain ⟨hbias, h⟩ := ConfigFault.of_check h
  obtain ⟨hattenuation, h⟩ := ConfigFault.of_check h
  obtain ⟨hcap, h⟩ := ConfigFault.of_check h
  obtain ⟨hchance, h⟩ := ConfigFault.of_check h
  obtain ⟨hscale, h⟩ := ConfigFault.of_check h
  have hmargin : ¬ (!(c.entitySearchMargin.isFinite &&
      decide (c.entitySearchMargin ≥ 0.0))) = true := by
    intro hbad
    dsimp only at h
    rw [if_pos hbad] at h
    cases h
  simp only [Bool.not_eq_true', Bool.not_eq_false, Bool.and_eq_true, decide_eq_true_eq,
    beq_iff_eq] at *
  exact ⟨Nat.le_of_not_lt hgrid, hstep, hmin, hspan, hbias, hattenuation, hcap, hchance, hscale, hmargin⟩

end Config

end Crater
