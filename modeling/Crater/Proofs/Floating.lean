import Mathlib
import Crater.Proofs.Rounding

/-!
# Correct rounding

Core describes floating-point numbers as mantissas and exponents, and computes with them by shifting
mantissas and two residual bits. Such a number has a `value`, a real, and each operation is shown to
do what the standard asks: it rounds the exact result once. Operations are only described for finite
operands.
-/

namespace Crater.Rounding

open Float.Model (Format UnpackedFloat totalExponent)
open Float.Model.UnpackedFloat (Sign ExtendedMantissa Accuracy)
open Float.Model.UnpackedFloat

/-! ## Residual bits -/

namespace Represents

variable {em : ExtendedMantissa} {x : ℝ}

theorem exact (m : ℕ) : Represents (.ofMantissaAndAccuracy m .exact) m :=
  ⟨0, le_rfl, by norm_num, by simp [ExtendedMantissa.ofMantissaAndAccuracy],
    by norm_num [ExtendedMantissa.ofMantissaAndAccuracy],
    by simp [ExtendedMantissa.ofMantissaAndAccuracy]⟩

theorem floor_eq (h : Represents em x) : ⌊x⌋ = em.mantissa := by
  obtain ⟨r, hr, hr', rfl, -, -⟩ := h
  rw [Int.floor_eq_iff]
  push_cast
  exact ⟨by linarith, by linarith⟩

theorem fract_eq {r : ℝ} (hr : 0 ≤ r) (hr' : r < 1) (m : ℕ) : Int.fract ((m : ℝ) + r) = r := by
  rw [Int.fract_natCast_add, Int.fract_eq_self.mpr ⟨hr, hr'⟩]

/-- The residual bits are all that rounding needs. -/
theorem roundedMantissa_eq (h : Represents em x) : (em.roundedMantissa : ℤ) = nearest x := by
  have hfloor := h.floor_eq
  obtain ⟨r, hr, hr', rfl, hround, hsticky⟩ := h
  rw [nearest, hfloor, fract_eq hr hr']
  obtain ⟨m, round, sticky⟩ := em
  cases round <;> cases sticky <;>
    simp only [ExtendedMantissa.roundedMantissa, ExtendedMantissa.accuracy,
      Accuracy.roundToNearestEven, Bool.false_eq_true, false_iff, true_iff, not_le, not_and_or,
      not_not] at hround hsticky ⊢
  · rw [if_pos (.inl hround)]
  · rw [if_pos (.inl hround)]
  · have hr : r = 1 / 2 := hsticky.resolve_left (by linarith)
    rcases Nat.even_or_odd m with heven | hodd
    · rw [if_pos (.inr ⟨hr, (Int.even_coe_nat m).mpr heven⟩), Nat.even_iff.mp heven]
      rfl
    · have hodd' : ¬Even (m : ℤ) := by rwa [Int.even_coe_nat, Nat.not_even_iff_odd]
      rw [if_neg (by rintro (h | ⟨-, h⟩); exacts [by linarith, hodd' h]), Nat.odd_iff.mp hodd]
      rfl
  · rw [if_neg (by rintro (h | ⟨h, -⟩); exacts [by linarith, hsticky.2 h])]
    rfl

theorem shiftRightOne (h : Represents em x) : Represents em.shiftRightOne (x / 2) := by
  obtain ⟨r, hr, hr', rfl, hround, hsticky⟩ := h
  obtain ⟨m, round, sticky⟩ := em
  have hm : ((m / 2 : ℕ) : ℝ) * 2 + ((m % 2 : ℕ) : ℝ) = m := by
    exact_mod_cast Nat.div_add_mod' m 2
  simp only at hround hsticky
  refine ⟨(((m % 2 : ℕ) : ℝ) + r) / 2, ?_, ?_, ?_, ?_, ?_⟩
  · positivity
  · have : ((m % 2 : ℕ) : ℝ) ≤ 1 := by exact_mod_cast Nat.lt_succ_iff.mp (Nat.mod_lt m (by norm_num))
    linarith
  · simp only [ExtendedMantissa.shiftRightOne]
    linarith
  · rcases Nat.mod_two_eq_zero_or_one m with h | h <;>
      simp only [ExtendedMantissa.shiftRightOne, h]
    · simp
      linarith
    · simp
      linarith
  · rcases Nat.mod_two_eq_zero_or_one m with h | h <;>
      simp only [ExtendedMantissa.shiftRightOne, h, Bool.or_eq_true, hround, hsticky]
    · constructor
      · rintro (h | h)
        · constructor <;> norm_num <;> linarith
        · exact ⟨by simpa using h.1, by norm_num; linarith⟩
      · rintro ⟨h, -⟩
        by_cases hhalf : r = 1 / 2
        · exact .inl hhalf.ge
        · exact .inr ⟨by simpa using h, hhalf⟩
    · constructor
      · intro h
        have hr0 : r ≠ 0 := by
          rintro rfl
          rcases h with h | h
          · norm_num at h
          · exact h.1 rfl
        have hpos : 0 < r := lt_of_le_of_ne hr (Ne.symm hr0)
        constructor <;> norm_num <;> linarith
      · rintro ⟨-, h⟩
        by_cases hhalf : r = 1 / 2
        · exact .inl hhalf.ge
        · refine .inr ⟨?_, hhalf⟩
          rintro rfl
          norm_num at h

theorem shiftRight (h : Represents em x) (n : ℕ) : Represents (em >>> n) (x / 2 ^ n) := by
  change Represents (n.repeat ExtendedMantissa.shiftRightOne em) _
  induction n with
  | zero => simpa [Nat.repeat] using h
  | succ n ih =>
      rw [pow_succ, ← div_div]
      exact ih.shiftRightOne

end Represents

/-! ## Rounding a mantissa -/

variable {f : Format}

/-- Mantissa and exponent are the ones that the format has for the number, except that the exponent
may be out of range. -/
def IsCanonical (f : Format) : UnpackedFloat → Prop
  | .finite _ m e _ => m < 2 ^ f.mantissaBits ∧ f.minExponent ≤ e ∧
      (2 ^ f.mantissaBitsWithoutImplicit ≤ m ∨ e = f.minExponent)
  | _ => True

/-- What an operation with the exact result `x` gives: `x` rounded once, before its exponent is
checked. -/
structure IsRounding (f : Format) (u : UnpackedFloat) (x : ℝ) : Prop where
  isFinite : u.isFinite = true
  isCanonical : IsCanonical f u
  value_eq : value f u = roundTo f x

theorem mantissa_ofMantissaAndAccuracy (m : ℕ) (accuracy : Accuracy) :
    (ExtendedMantissa.ofMantissaAndAccuracy m accuracy).mantissa = m := by
  rcases accuracy with _ | (_ | _ | _) <;> rfl

/-- If the exponent is not too large, the place to which core rounds is the last place of the
number. -/
theorem targetExponent_eq_lastPlace {m : ℕ} {e : ℤ} {accuracy : Accuracy} {x : ℝ} (hx : 0 < x)
    (h : Denotes m e accuracy x) (he : e ≤ f.targetExponent (totalExponent m e)) :
    f.targetExponent (totalExponent m e) = lastPlace f x := by
  obtain ⟨r, hr, hr', hxr, -, -⟩ := h
  rw [mantissa_ofMantissaAndAccuracy, div_eq_iff (by positivity)] at hxr
  rcases Nat.eq_zero_or_pos m with rfl | hm
  · -- less than one unit: all of the number lies beyond the last place of all
    have hlog : Int.log 2 x < e := by
      rw [← Int.lt_zpow_iff_log_lt (by norm_num) hx, hxr]
      have : (0 : ℝ) < 2 ^ e := by positivity
      push_cast
      nlinarith
    have hm := f.hm
    simp only [lastPlace, abs_of_pos hx, Format.targetExponent, totalExponent, Nat.log2_zero,
      Format.mantissaBits] at he ⊢
    omega
  · have hlow : (2 : ℝ) ^ m.log2 ≤ m := by exact_mod_cast Nat.log2_self_le hm.ne'
    have hhigh : (m : ℝ) + 1 ≤ 2 ^ (m.log2 + 1) := by exact_mod_cast Nat.lt_log2_self
    have hlog : Int.log 2 x = m.log2 + e := by
      refine le_antisymm (Int.lt_add_one_iff.mp ?_) ?_
      · rw [← Int.lt_zpow_iff_log_lt (by norm_num) hx, hxr, add_right_comm,
          zpow_add₀ (by norm_num)]
        refine mul_lt_mul_of_pos_right ?_ (by positivity)
        exact_mod_cast (by linarith : (m : ℝ) + r < 2 ^ (m.log2 + 1))
      · rw [← Int.zpow_le_iff_le_log (by norm_num) hx, hxr, zpow_add₀ (by norm_num)]
        refine mul_le_mul_of_nonneg_right ?_ (by positivity)
        push_cast
        rw [zpow_natCast]
        linarith
    rw [lastPlace, abs_of_pos hx, hlog, totalExponent]
    congr 1
    ring

theorem shiftToTargetExponent_of_lt {r : ℕ} {place : ℤ} (hr : r < 2 ^ f.mantissaBits)
    (hmin : f.minExponent ≤ place) :
    shiftToTargetExponent f r place .exact = (⟨r, false, false⟩, place) := by
  have hlog : r.log2 < f.mantissaBits := by
    rcases Nat.eq_zero_or_pos r with rfl | hpos
    · simp [Format.mantissaBits]
    · exact (Nat.log2_lt hpos.ne').mpr hr
  have hshift : (f.targetExponent (totalExponent r place) - place).toNat = 0 := by
    simp only [Format.targetExponent, totalExponent]
    omega
  simp only [shiftToTargetExponent, shiftToExponent, hshift, Nat.cast_zero, add_zero]
  rfl

theorem shiftToTargetExponent_two_pow {place : ℤ} (hmin : f.minExponent ≤ place) :
    shiftToTargetExponent f (2 ^ f.mantissaBits) place .exact =
      (⟨2 ^ f.mantissaBitsWithoutImplicit, false, false⟩, place + 1) := by
  have hshift : (f.targetExponent (totalExponent (2 ^ f.mantissaBits) place) - place).toNat = 1 := by
    simp only [Format.targetExponent, totalExponent, Nat.log2_two_pow]
    omega
  have hhalf : 2 ^ f.mantissaBits / 2 = 2 ^ f.mantissaBitsWithoutImplicit := by
    rw [Format.mantissaBits, add_comm, pow_succ, Nat.mul_div_cancel _ (by norm_num)]
  have heven : 2 ^ f.mantissaBits % 2 = 0 := by
    rw [Format.mantissaBits, add_comm, pow_succ, Nat.mul_mod_left]
  simp only [shiftToTargetExponent, shiftToExponent, hshift, Nat.cast_one, Prod.mk.injEq,
    and_true]
  change ExtendedMantissa.shiftRightOne ⟨2 ^ f.mantissaBits, false, false⟩ = _
  simp [ExtendedMantissa.shiftRightOne, hhalf, heven]

/-- After rounding, a mantissa may have one digit too many. Shifting that one out is exact. -/
theorem roundWithAccuracy_cases (s : Sign) {m : ℕ} {e place : ℤ} {accuracy : Accuracy}
    {em : ExtendedMantissa} (hfirst : shiftToTargetExponent f m e accuracy = (em, place))
    (hmin : f.minExponent ≤ place) (hr : em.roundedMantissa ≤ 2 ^ f.mantissaBits) :
    (em.roundedMantissa = 0 ∧ roundWithAccuracy f s m e accuracy = .zero s) ∨
    (em.roundedMantissa < 2 ^ f.mantissaBits ∧
      ∃ h, roundWithAccuracy f s m e accuracy = .finite s em.roundedMantissa place h) ∨
    (em.roundedMantissa = 2 ^ f.mantissaBits ∧
      ∃ h, roundWithAccuracy f s m e accuracy =
        .finite s (2 ^ f.mantissaBitsWithoutImplicit) (place + 1) h) := by
  rw [roundWithAccuracy, hfirst]
  dsimp only
  rcases hr.lt_or_eq with hlt | heq
  · rw [shiftToTargetExponent_of_lt hlt hmin]
    by_cases hzero : em.roundedMantissa = 0
    · exact .inl ⟨hzero, dif_pos hzero⟩
    · exact .inr (.inl ⟨hlt, Nat.pos_of_ne_zero hzero, dif_neg hzero⟩)
  · rw [heq, shiftToTargetExponent_two_pow hmin]
    exact .inr (.inr ⟨rfl, by positivity, dif_neg (by positivity)⟩)

def withSign : Sign → ℝ → ℝ
  | .positive, x => x
  | .negative, x => -x

theorem withSign_apply (s : Sign) (m : ℕ) (y : ℝ) :
    ((s.apply m : ℤ) : ℝ) * y = withSign s (m * y) := by
  cases s <;> simp [Sign.apply, withSign]

theorem roundTo_withSign (s : Sign) (x : ℝ) : roundTo f (withSign s x) = withSign s (roundTo f x) := by
  cases s
  · exact roundTo_neg f x
  · rfl

theorem shiftToTargetExponent_eq {m : ℕ} {e : ℤ} (accuracy : Accuracy)
    (he : e ≤ f.targetExponent (totalExponent m e)) :
    shiftToTargetExponent f m e accuracy =
      (ExtendedMantissa.ofMantissaAndAccuracy m accuracy >>>
        (f.targetExponent (totalExponent m e) - e).toNat, f.targetExponent (totalExponent m e)) := by
  simp only [shiftToTargetExponent, shiftToExponent, Prod.mk.injEq, true_and]
  omega

/-- **Core rounds to nearest.** -/
theorem roundWithAccuracy_spec (s : Sign) {m : ℕ} {e : ℤ} {accuracy : Accuracy} {x : ℝ}
    (hx : 0 < x) (h : Denotes m e accuracy x) (he : e ≤ f.targetExponent (totalExponent m e)) :
    IsRounding f (roundWithAccuracy f s m e accuracy) (withSign s x) := by
  have hfirst := shiftToTargetExponent_eq accuracy he
  have hplace := targetExponent_eq_lastPlace hx h he
  set em := ExtendedMantissa.ofMantissaAndAccuracy m accuracy >>>
    (f.targetExponent (totalExponent m e) - e).toNat with hem
  have hrep : Represents em (x / 2 ^ lastPlace f x) := by
    have hshift := h.shiftRight (f.targetExponent (totalExponent m e) - e).toNat
    rwa [← hem, div_div, ← zpow_natCast, ← zpow_add₀ (by norm_num), Int.toNat_of_nonneg (by omega),
      add_sub_cancel, hplace] at hshift
  have hround := hrep.roundedMantissa_eq
  have hvalue : roundTo f x = em.roundedMantissa * 2 ^ lastPlace f x := by
    rw [roundTo, ← hround, Int.cast_natCast]
  rw [hplace] at hfirst
  have hle : em.roundedMantissa ≤ 2 ^ f.mantissaBits := by
    exact_mod_cast hround.trans_le (nearest_scaled_le f x)
  have hge : 2 ^ f.mantissaBitsWithoutImplicit ≤ em.roundedMantissa ∨
      lastPlace f x = f.minExponent := by
    refine or_iff_not_imp_right.mpr fun hplace => ?_
    exact_mod_cast (le_nearest_scaled hx hplace).trans_eq hround.symm
  have hmin := minExponent_le_lastPlace f x
  rcases roundWithAccuracy_cases s hfirst hmin hle with ⟨hr, h⟩ | ⟨hr, hpos, h⟩ | ⟨hr, hpos, h⟩
  · rw [h]
    refine ⟨rfl, trivial, ?_⟩
    rw [roundTo_withSign, hvalue, hr]
    cases s <;> simp [value, withSign]
  · rw [h]
    refine ⟨rfl, ⟨hr, hmin, hge⟩, ?_⟩
    rw [roundTo_withSign, hvalue]
    exact withSign_apply s _ _
  · rw [h]
    refine ⟨rfl, ⟨?_, by omega, .inl le_rfl⟩, ?_⟩
    · exact Nat.pow_lt_pow_right (by norm_num) (by simp [Format.mantissaBits])
    · rw [roundTo_withSign, hvalue, hr, value, withSign_apply, zpow_add₀ (by norm_num),
        Format.mantissaBits]
      congr 1
      push_cast
      ring

theorem targetExponent_totalExponent {m : ℕ} (hm : 0 < m) (e : ℤ) :
    f.targetExponent (totalExponent m e) = lastPlace f (m * 2 ^ e) := by
  have hlow : (2 : ℝ) ^ m.log2 ≤ m := by exact_mod_cast Nat.log2_self_le hm.ne'
  have hhigh : (m : ℝ) < 2 ^ (m.log2 + 1) := by exact_mod_cast Nat.lt_log2_self
  have hlog : Int.log 2 ((m : ℝ) * 2 ^ e) = m.log2 + e := by
    have hpos : (0 : ℝ) < m * 2 ^ e := by positivity
    refine le_antisymm (Int.lt_add_one_iff.mp ?_) ?_
    · rw [← Int.lt_zpow_iff_log_lt (by norm_num) hpos, add_right_comm, zpow_add₀ (by norm_num)]
      refine mul_lt_mul_of_pos_right ?_ (by positivity)
      exact_mod_cast hhigh
    · rw [← Int.zpow_le_iff_le_log (by norm_num) hpos, zpow_add₀ (by norm_num)]
      refine mul_le_mul_of_nonneg_right ?_ (by positivity)
      exact_mod_cast hlow
  rw [lastPlace, abs_of_nonneg (by positivity), hlog, totalExponent]
  congr 1
  ring

theorem denotes_exact (m : ℕ) (e : ℤ) : Denotes m e .exact (m * 2 ^ e) := by
  rw [Denotes, mul_div_cancel_right₀ _ (by positivity)]
  exact .exact m

theorem roundWithAccuracy_zero (s : Sign) (e : ℤ) : roundWithAccuracy f s 0 e .exact = .zero s := by
  have hshift : ∀ n : ℕ, (⟨0, false, false⟩ : ExtendedMantissa) >>> n = ⟨0, false, false⟩ := by
    intro n
    change n.repeat ExtendedMantissa.shiftRightOne _ = _
    induction n with
    | zero => rfl
    | succ n ih => rw [Nat.repeat, ih]; rfl
  simp [roundWithAccuracy, shiftToTargetExponent, shiftToExponent,
    ExtendedMantissa.ofMantissaAndAccuracy, hshift, ExtendedMantissa.roundedMantissa,
    ExtendedMantissa.accuracy, Accuracy.roundToNearestEven]

theorem decreaseExponent_eq (m : ℕ) (e target : ℤ) :
    (decreaseExponent m e target).2 = min e target ∧
      ((decreaseExponent m e target).1 : ℝ) * 2 ^ (decreaseExponent m e target).2 = m * 2 ^ e := by
  have hexponent : (decreaseExponent m e target).2 = min e target := by
    simp only [decreaseExponent]
    omega
  refine ⟨hexponent, ?_⟩
  simp only [decreaseExponent, Nat.shiftLeft_eq]
  push_cast
  rw [mul_assoc, ← zpow_natCast, ← zpow_add₀ (by norm_num)]
  congr 2
  ring

/-- **Rounding a mantissa with an exponent.** -/
theorem round_spec (s : Sign) (m : ℕ) (e : ℤ) :
    IsRounding f (UnpackedFloat.round f s m e) (withSign s (m * 2 ^ e)) := by
  obtain ⟨hexponent, hvalue⟩ := decreaseExponent_eq m e (f.targetExponent (totalExponent m e))
  rw [UnpackedFloat.round]
  generalize decreaseExponent m e (f.targetExponent (totalExponent m e)) = shifted
    at hexponent hvalue ⊢
  obtain ⟨n, place⟩ := shifted
  dsimp only at hexponent hvalue ⊢
  rcases Nat.eq_zero_or_pos m with rfl | hm
  · have hn : n = 0 := by
      rw [Nat.cast_zero, zero_mul, mul_eq_zero_iff_right (by positivity)] at hvalue
      exact_mod_cast hvalue
    rw [hn, roundWithAccuracy_zero]
    refine ⟨rfl, trivial, ?_⟩
    cases s <;> simp [value, withSign]
  · have hpos : (0 : ℝ) < n * 2 ^ place := by
      rw [hvalue]
      positivity
    have hn : 0 < n := by
      exact_mod_cast pos_of_mul_pos_left hpos (by positivity)
    have hplace : place ≤ f.targetExponent (totalExponent n place) := by
      rw [targetExponent_totalExponent hn, hvalue, ← targetExponent_totalExponent hm]
      omega
    rw [← hvalue]
    exact roundWithAccuracy_spec s hpos (denotes_exact n place) hplace

/-- **Rounding a signed mantissa with an exponent.** -/
theorem normalize_spec (k e : ℤ) (zeroSign : Sign) :
    IsRounding f (UnpackedFloat.normalize f k e zeroSign) (k * 2 ^ e) := by
  rw [UnpackedFloat.normalize]
  rcases lt_trichotomy k 0 with hk | rfl | hk
  · rw [compare_lt_iff_lt.mpr hk]
    have hcast : (((-k).toNat : ℕ) : ℝ) = -k := by
      exact_mod_cast Int.toNat_of_nonneg (by omega : 0 ≤ -k)
    have hround := round_spec (f := f) .negative (-k).toNat e
    rwa [withSign, hcast, neg_mul, neg_neg] at hround
  · exact ⟨rfl, trivial, by simp [value]⟩
  · rw [compare_gt_iff_gt.mpr hk]
    have hcast : ((k.toNat : ℕ) : ℝ) = k := by
      exact_mod_cast Int.toNat_of_nonneg hk.le
    have hround := round_spec (f := f) .positive k.toNat e
    rwa [withSign, hcast] at hround

/-! ## Arithmetic -/

theorem isOnGrid_value {u : UnpackedFloat} (h : IsCanonical f u) : IsOnGrid f (value f u) := by
  match u, h with
  | .infinity .positive, _ => exact isOnGrid_limit f
  | .infinity .negative, _ => exact (isOnGrid_limit f).neg
  | .notANumber, _ => exact isOnGrid_zero f
  | .zero _, _ => exact isOnGrid_zero f
  | .finite s m e _, h =>
      obtain ⟨hm, hmin, -⟩ := h
      refine ⟨s.apply m, e, ?_, hmin, rfl⟩
      cases s <;> simpa [Sign.apply] using mod_cast hm

theorem roundTo_value {u : UnpackedFloat} (h : IsCanonical f u) :
    roundTo f (value f u) = value f u :=
  roundTo_of_isOnGrid (isOnGrid_value h)

/-- A mantissa that fills the format, or an exponent that is small enough, needs no shift to the
left. -/
theorem le_targetExponent {m : ℕ} {e : ℤ}
    (h : e ≤ f.minExponent ∨ 2 ^ f.mantissaBitsWithoutImplicit ≤ m) :
    e ≤ f.targetExponent (totalExponent m e) := by
  simp only [Format.targetExponent, totalExponent, Format.mantissaBits]
  rcases h with h | h
  · omega
  · have hpos : m ≠ 0 := (Nat.lt_of_lt_of_le (by positivity) h).ne'
    have hlog := (Nat.le_log2 hpos).mpr h
    omega

theorem withSign_neg (s : Sign) (x : ℝ) : withSign (-s) x = -withSign s x := by
  cases s
  · exact (neg_neg x).symm
  · rfl

theorem withSign_mul (s t : Sign) (x y : ℝ) :
    withSign (s * t) (x * y) = withSign s x * withSign t y := by
  cases s <;> cases t
  · exact (neg_mul_neg x y).symm
  · exact (neg_mul x y).symm
  · exact (mul_neg x y).symm
  · rfl

theorem withSign_div (s t : Sign) (x y : ℝ) :
    withSign (s / t) (x / y) = withSign s x / withSign t y := by
  cases s <;> cases t
  · exact (neg_div_neg_eq x y).symm
  · exact (neg_div y x).symm
  · exact (div_neg x).symm
  · rfl

theorem value_finite (s : Sign) (m : ℕ) (e : ℤ) (hm : 0 < m) :
    value f (.finite s m e hm) = withSign s (m * 2 ^ e) :=
  withSign_apply s m _

theorem value_neg (u : UnpackedFloat) : value f u.neg = -value f u := by
  cases u with
  | infinity s =>
      cases s
      · exact (neg_neg (limit f)).symm
      · rfl
  | notANumber => exact neg_zero.symm
  | zero s => exact neg_zero.symm
  | finite s m e hm => rw [UnpackedFloat.neg, value_finite, value_finite, withSign_neg]

theorem IsCanonical.neg {u : UnpackedFloat} (h : IsCanonical f u) : IsCanonical f u.neg := by
  cases u <;> exact h

/-- **A sum is rounded once.** -/
theorem add_spec {u v : UnpackedFloat} (hu : IsCanonical f u) (hv : IsCanonical f v)
    (hu' : u.isFinite = true) (hv' : v.isFinite = true) :
    IsRounding f (u.add f v) (value f u + value f v) := by
  match u, v, hu', hv' with
  | .zero s, .zero t, _, _ =>
      rw [UnpackedFloat.add]
      split <;> exact ⟨rfl, trivial, by simp [value]⟩
  | .zero s, .finite t n e hn, _, _ =>
      refine ⟨rfl, hv, ?_⟩
      rw [show value f (.zero s) = 0 from rfl, zero_add, roundTo_value hv]
      rfl
  | .finite s m e hm, .zero t, _, _ =>
      refine ⟨rfl, hu, ?_⟩
      rw [show value f (.zero t) = 0 from rfl, add_zero, roundTo_value hu]
      rfl
  | .finite s m e hm, .finite t n e' hn, _, _ =>
      -- both mantissas are brought to the smaller exponent, and then added exactly
      obtain ⟨hexponent, hvalue⟩ := decreaseExponent_eq m e (min e e')
      obtain ⟨hexponent', hvalue'⟩ := decreaseExponent_eq n e' (min e e')
      rw [show min e (min e e') = min e e' by omega] at hexponent
      rw [show min e' (min e e') = min e e' by omega] at hexponent'
      rw [hexponent] at hvalue
      rw [hexponent'] at hvalue'
      have hsum : value f (.finite s m e hm) + value f (.finite t n e' hn) =
          ((s.apply (decreaseExponent m e (min e e')).1 +
            t.apply (decreaseExponent n e' (min e e')).1 : ℤ) : ℝ) * 2 ^ min e e' := by
        rw [value_finite, value_finite, ← hvalue, ← hvalue', Int.cast_add, add_mul, withSign_apply,
          withSign_apply]
      rw [hsum]
      exact normalize_spec _ _ .positive

theorem isFinite_neg (u : UnpackedFloat) : u.neg.isFinite = u.isFinite := by
  cases u <;> rfl

theorem apply_neg (s : Sign) (k : ℤ) : (-s).apply k = -s.apply k := by
  cases s
  · exact (neg_neg k).symm
  · rfl

/-- A difference is the sum with the negative. -/
theorem sub_eq (u v : UnpackedFloat) : u.sub f v = u.add f v.neg := by
  cases u <;> cases v <;> try rfl
  case finite.finite s m e hm t n e' hn =>
    simp only [UnpackedFloat.sub, UnpackedFloat.add, UnpackedFloat.neg, apply_neg, Int.sub_eq_add_neg]

/-- **A product is rounded once.** -/
theorem mul_spec {u v : UnpackedFloat} (hu : IsCanonical f u) (hv : IsCanonical f v)
    (hu' : u.isFinite = true) (hv' : v.isFinite = true) :
    IsRounding f (u.mul f v) (value f u * value f v) := by
  match u, v, hu', hv' with
  | .zero s, .zero t, _, _ => exact ⟨rfl, trivial, by simp [UnpackedFloat.mul, value]⟩
  | .zero s, .finite t n e hn, _, _ => exact ⟨rfl, trivial, by simp [UnpackedFloat.mul, value]⟩
  | .finite s m e hm, .zero t, _, _ => exact ⟨rfl, trivial, by simp [UnpackedFloat.mul, value]⟩
  | .finite s m e hm, .finite t n e' hn, _, _ =>
      obtain ⟨-, hmin, hfull⟩ := hu
      obtain ⟨-, hmin', hfull'⟩ := hv
      have hnonpos : f.minExponent ≤ 0 := by
        have hpow : (0 : ℤ) < 2 ^ (f.exponentBits - 1) := by positivity
        have hbits := f.hm
        simp only [Format.minExponent, Format.mantissaBits]
        omega
      have hplace : e + e' ≤ f.targetExponent (totalExponent (m * n) (e + e')) := by
        refine le_targetExponent ?_
        rcases hfull with hfull | hfull
        · exact .inr (hfull.trans (Nat.le_mul_of_pos_right m hn))
        · rcases hfull' with hfull' | hfull'
          · exact .inr (hfull'.trans (Nat.le_mul_of_pos_left n hm))
          · exact .inl (by omega)
      have hproduct : value f (.finite s m e hm) * value f (.finite t n e' hn) =
          withSign (s * t) ((m * n : ℕ) * 2 ^ (e + e')) := by
        rw [value_finite, value_finite, ← withSign_mul, zpow_add₀ (by norm_num)]
        push_cast
        congr 1
        ring
      rw [hproduct]
      exact roundWithAccuracy_spec (s * t) (by positivity) (denotes_exact _ _) hplace

/-- A fraction that is not zero, compared with one half. -/
theorem represents_inexact (m : ℕ) {r : ℝ} {o : Ordering} (hr : 0 < r) (hr' : r < 1)
    (ho : o.Compares r (1 / 2)) :
    Represents (.ofMantissaAndAccuracy m (.inexact o)) (m + r) := by
  refine ⟨r, hr.le, hr', by rw [mantissa_ofMantissaAndAccuracy], ?_, ?_⟩
  · cases o with
    | lt => simpa [ExtendedMantissa.ofMantissaAndAccuracy] using ho
    | eq => simpa [ExtendedMantissa.ofMantissaAndAccuracy] using ho.ge
    | gt => simpa [ExtendedMantissa.ofMantissaAndAccuracy] using le_of_lt ho
  · cases o with
    | lt => simpa [ExtendedMantissa.ofMantissaAndAccuracy, hr.ne'] using ne_of_lt ho
    | eq => simpa [ExtendedMantissa.ofMantissaAndAccuracy, hr.ne'] using ho
    | gt => simpa [ExtendedMantissa.ofMantissaAndAccuracy, hr.ne'] using ne_of_gt ho

theorem represents_div (n : ℕ) {d : ℕ} (hd : 0 < d) :
    Represents (.ofMantissaAndAccuracy (n / d) (accuracyOfFraction (n % d) d)) ((n : ℝ) / d) := by
  have hd' : (0 : ℝ) < d := by exact_mod_cast hd
  have hsplit : (n : ℝ) / d = (n / d : ℕ) + (n % d : ℕ) / d := by
    rw [div_eq_iff hd'.ne', add_mul, div_mul_cancel₀ _ hd'.ne', mul_comm]
    exact_mod_cast (Nat.div_add_mod n d).symm
  rw [hsplit, accuracyOfFraction]
  split
  · next hzero =>
    rw [hzero, Nat.cast_zero, zero_div, add_zero]
    exact .exact (n / d)
  · next hzero =>
    have hpos : (0 : ℝ) < (n % d : ℕ) := by exact_mod_cast Nat.pos_of_ne_zero hzero
    have hmod : ((n % d : ℕ) : ℝ) < d := by exact_mod_cast Nat.mod_lt n hd
    refine represents_inexact _ (by positivity) (by rwa [div_lt_one hd']) ?_
    have htwice : (2 : ℝ) * (n % d : ℕ) = (2 * (n % d) : ℕ) := by push_cast; rfl
    rcases lt_trichotomy (2 * (n % d)) d with h | h | h
    · rw [compare_lt_iff_lt.mpr h]
      show ((n % d : ℕ) : ℝ) / d < 1 / 2
      rw [div_lt_div_iff₀ hd' (by norm_num), one_mul, mul_comm, htwice]
      exact_mod_cast h
    · rw [compare_eq_iff_eq.mpr h]
      show ((n % d : ℕ) : ℝ) / d = 1 / 2
      rw [div_eq_div_iff hd'.ne' (by norm_num), one_mul, mul_comm, htwice, h]
    · rw [compare_gt_iff_gt.mpr h]
      show 1 / 2 < ((n % d : ℕ) : ℝ) / d
      rw [div_lt_div_iff₀ (by norm_num) hd', one_mul, mul_comm _ (2 : ℝ), htwice]
      exact_mod_cast h

/-- **A quotient is rounded once.** -/
theorem div_spec {u v : UnpackedFloat} (hu' : u.isFinite = true) (hv' : v.isFinite = true)
    (hv : value f v ≠ 0) :
    IsRounding f (u.div f v) (value f u / value f v) := by
  match u, v, hu', hv' with
  | _, .zero t, _, _ => exact absurd rfl hv
  | .zero s, .finite t n e hn, _, _ => exact ⟨rfl, trivial, by simp [UnpackedFloat.div, value]⟩
  | .finite s m e hm, .finite t n e' hn, _, _ =>
      rw [UnpackedFloat.div, divCore]
      dsimp only
      set place := min (e - e') (f.targetExponent (totalExponent m e - totalExponent n e'))
        with hplace
      set shifted := m <<< (e - e' - place).toNat with hshifted
      have hn' : (0 : ℝ) < n := by exact_mod_cast hn
      have hquotient : (m : ℝ) * 2 ^ e / (n * 2 ^ e') = shifted / n * 2 ^ place := by
        rw [hshifted, Nat.shiftLeft_eq]
        push_cast
        rw [← zpow_natCast, Int.toNat_of_nonneg (by omega), zpow_sub₀ (by norm_num),
          zpow_sub₀ (by norm_num)]
        field_simp
      have hdenotes : Denotes (shifted / n) place (accuracyOfFraction (shifted % n) n)
          (m * 2 ^ e / (n * 2 ^ e')) := by
        rw [Denotes, hquotient, mul_div_cancel_right₀ _ (by positivity)]
        exact represents_div shifted hn
      have hfull : place ≤ f.minExponent ∨ 2 ^ f.mantissaBitsWithoutImplicit ≤ shifted / n := by
        refine or_iff_not_imp_left.mpr fun hmin => (Nat.le_div_iff_mul_le hn).mpr ?_
        have hbits : f.mantissaBitsWithoutImplicit + (n.log2 + 1) ≤
            m.log2 + (e - e' - place).toNat := by
          simp only [Format.targetExponent, totalExponent, Format.mantissaBits] at hplace
          omega
        calc 2 ^ f.mantissaBitsWithoutImplicit * n
            ≤ 2 ^ f.mantissaBitsWithoutImplicit * 2 ^ (n.log2 + 1) := by
              gcongr
              exact Nat.lt_log2_self.le
          _ ≤ 2 ^ m.log2 * 2 ^ (e - e' - place).toNat := by
              rw [← pow_add, ← pow_add]
              exact Nat.pow_le_pow_right (by norm_num) hbits
          _ ≤ shifted := by
              rw [hshifted, Nat.shiftLeft_eq]
              gcongr
              exact Nat.log2_self_le hm.ne'
      rw [value_finite, value_finite, ← withSign_div]
      exact roundWithAccuracy_spec (s / t) (by positivity) hdenotes (le_targetExponent hfull)

/-- The root of a natural, with the accuracy that core gives its integral part. -/
theorem represents_sqrt (n : ℕ) :
    Represents (.ofMantissaAndAccuracy n.sqrt
      (if n - n.sqrt * n.sqrt = 0 then .exact
        else .inexact (if n - n.sqrt * n.sqrt ≤ n.sqrt then .lt else .gt))) √n := by
  have hlow : n.sqrt * n.sqrt ≤ n := Nat.sqrt_le n
  have hhigh : n < (n.sqrt + 1) * (n.sqrt + 1) := Nat.lt_succ_sqrt n
  split
  · next hzero =>
    have hsquare : (n : ℝ) = n.sqrt * n.sqrt := by exact_mod_cast (by omega : n = n.sqrt * n.sqrt)
    rw [hsquare, Real.sqrt_mul_self (by positivity)]
    exact .exact n.sqrt
  · next hzero =>
    have hbelow : (n.sqrt : ℝ) < √n := by
      rw [Real.lt_sqrt (by positivity), sq]
      exact_mod_cast (by omega : n.sqrt * n.sqrt < n)
    have habove : √n < n.sqrt + 1 := by
      rw [Real.sqrt_lt' (by positivity), sq]
      exact_mod_cast hhigh
    have hsplit : √(n : ℝ) = n.sqrt + (√n - n.sqrt) := by ring
    rw [hsplit]
    refine represents_inexact _ (by linarith) (by linarith) ?_
    -- the square of a root plus one half has one quarter left over, so there are no ties
    split
    · next hrem =>
      show √(n : ℝ) - n.sqrt < 1 / 2
      have hrem' : (n : ℝ) ≤ n.sqrt * n.sqrt + n.sqrt := by
        exact_mod_cast (by omega : n ≤ n.sqrt * n.sqrt + n.sqrt)
      have : √(n : ℝ) < n.sqrt + 1 / 2 := by
        rw [Real.sqrt_lt' (by positivity)]
        nlinarith
      linarith
    · next hrem =>
      show 1 / 2 < √(n : ℝ) - n.sqrt
      have hrem' : (n.sqrt : ℝ) * n.sqrt + n.sqrt + 1 ≤ n := by
        exact_mod_cast (by omega : n.sqrt * n.sqrt + n.sqrt + 1 ≤ n)
      have : (n.sqrt : ℝ) + 1 / 2 < √n := by
        rw [Real.lt_sqrt (by positivity)]
        nlinarith
      linarith

/-- **A root is rounded once.** -/
theorem sqrt_spec {u : UnpackedFloat} (hu' : u.isFinite = true) (hu : 0 ≤ value f u) :
    IsRounding f (u.sqrt f) √(value f u) := by
  match u, hu' with
  | .zero s, _ => exact ⟨rfl, trivial, by simp [UnpackedFloat.sqrt, value]⟩
  | .finite .negative m e hm, _ =>
      rw [value_finite] at hu
      have : (0 : ℝ) < m * 2 ^ e := by positivity
      exact absurd hu (by simp only [withSign]; linarith)
  | .finite .positive m e hm, _ =>
      rw [UnpackedFloat.sqrt, sqrtCore, show e.ediv 2 = e / 2 from rfl,
        show (totalExponent m e + 1).ediv 2 = (totalExponent m e + 1) / 2 from rfl]
      dsimp only
      set place := min (e / 2) (f.targetExponent ((totalExponent m e + 1) / 2)) with hplace
      set shifted := m <<< (e - 2 * place).toNat with hshifted
      have hsplit : (m : ℝ) * 2 ^ e = shifted * (2 ^ place) ^ 2 := by
        rw [hshifted, Nat.shiftLeft_eq]
        push_cast
        rw [← zpow_natCast, Int.toNat_of_nonneg (by omega), mul_assoc, ← zpow_natCast _ 2,
          ← zpow_mul, ← zpow_add₀ (by norm_num)]
        congr 2
        push_cast
        ring
      have hroot : √((m : ℝ) * 2 ^ e) = √shifted * 2 ^ place := by
        rw [hsplit, Real.sqrt_mul (by positivity), Real.sqrt_sq (by positivity)]
      have hdenotes : Denotes shifted.sqrt place
          (if shifted - shifted.sqrt * shifted.sqrt = 0 then .exact
            else .inexact (if shifted - shifted.sqrt * shifted.sqrt ≤ shifted.sqrt then .lt
              else .gt)) √((m : ℝ) * 2 ^ e) := by
        rw [Denotes, hroot, mul_div_cancel_right₀ _ (by positivity)]
        exact represents_sqrt shifted
      have hfull : place ≤ f.minExponent ∨
          2 ^ f.mantissaBitsWithoutImplicit ≤ shifted.sqrt := by
        refine or_iff_not_imp_left.mpr fun hmin => Nat.le_sqrt.mpr ?_
        have hbits : f.mantissaBitsWithoutImplicit + f.mantissaBitsWithoutImplicit ≤
            m.log2 + (e - 2 * place).toNat := by
          simp only [Format.targetExponent, totalExponent, Format.mantissaBits] at hplace
          omega
        calc 2 ^ f.mantissaBitsWithoutImplicit * 2 ^ f.mantissaBitsWithoutImplicit
            ≤ 2 ^ m.log2 * 2 ^ (e - 2 * place).toNat := by
              rw [← pow_add, ← pow_add]
              exact Nat.pow_le_pow_right (by norm_num) hbits
          _ ≤ shifted := by
              rw [hshifted, Nat.shiftLeft_eq]
              gcongr
              exact Nat.log2_self_le hm.ne'
      rw [value_finite]
      have hround := roundWithAccuracy_spec .positive (by positivity) hdenotes
        (le_targetExponent hfull)
      exact hround

/-! ## Conversion -/

/-- **A number is cut off at the point** on its way to an integer. -/
theorem toInt_spec {u : UnpackedFloat} (low high : ℤ) (hu' : u.isFinite = true)
    (hu : 0 ≤ value f u) : u.toInt low high = ⌊value f u⌋ := by
  match u, hu' with
  | .zero s, _ => simp [UnpackedFloat.toInt, value]
  | .finite .negative m e hm, _ =>
      rw [value_finite] at hu
      have : (0 : ℝ) < m * 2 ^ e := by positivity
      exact absurd hu (by simp only [withSign]; linarith)
  | .finite .positive m e hm, _ =>
      obtain ⟨hexponent, hvalue⟩ := decreaseExponent_eq m e 0
      rw [value_finite]
      simp only [UnpackedFloat.toInt, roundToInt, shiftToExponent]
      generalize decreaseExponent m e 0 = shifted at hexponent hvalue ⊢
      obtain ⟨n, place⟩ := shifted
      dsimp only at hexponent hvalue ⊢
      have hfloor := ((Represents.exact n).shiftRight (0 - place).toNat).floor_eq
      have hsplit : (n : ℝ) / 2 ^ (0 - place).toNat = n * 2 ^ place := by
        rw [← zpow_natCast, Int.toNat_of_nonneg (by omega), zero_sub, zpow_neg, div_inv_eq_mul]
      rw [hsplit, hvalue] at hfloor
      exact hfloor.symm

end Crater.Rounding
