import Crater.Proofs.Doubles

/-!
# Nearness

How far a computed double is from the real that it stands for. A sum, a product or a
quotient adds one rounding to the distances of its operands, and what one rounding adds
is known from a power of two that the result does not exceed.
-/

namespace Crater.Double

open Rounding Numeral

/-- A finite double at a distance of at most `ε` from a real. -/
structure Approximates (x : Float) (r ε : ℝ) : Prop where
  isFinite : isFinite x = true
  error_le : |real x - r| ≤ ε

variable {x y : Float} {r s ε δ : ℝ}

/-- **One rounding** of a number up to `2 ^ n` moves it by at most `2 ^ n / 2 ^ 53`. -/
theorem approximates_of_isRounded {n : ℕ} (hx : IsRounded x r) (hn : n < 1024)
    (hr : |r| ≤ 2 ^ n) : Approximates x r (2 ^ n / 2 ^ 53) := by
  refine ⟨isFinite_of_isRounded hx hn hr, ?_⟩
  have hbound := abs_real_le_two_pow hx hn hr
  have hlimit : (2 : ℝ) ^ n < limit .binary64 := two_pow_lt_limit hn
  -- what is rounded is in range, so that the range does not show
  have hround : real x = roundTo .binary64 r := by
    have hreal : real x = rounded .binary64 r := hx.real_eq
    have habs := abs_le.mp hbound
    rw [hreal, rounded] at habs ⊢
    rcases le_total (limit .binary64) (roundTo .binary64 r) with hover | hover
    · rw [min_eq_left hover] at habs
      have hlower := le_max_right (-limit .binary64) (limit .binary64)
      linarith [habs.2]
    · rw [min_eq_right hover] at habs ⊢
      refine max_eq_right ?_
      by_contra hunder
      rw [max_eq_left (not_le.mp hunder).le] at habs
      linarith [habs.1]
  rw [hround]
  rcases eq_or_ne r 0 with rfl | hzero
  · rw [roundTo_zero, sub_zero, abs_zero]
    positivity
  · have hplace : lastPlace .binary64 r ≤ (n : ℤ) + 1 - 53 := by
      apply lastPlace_le_of_abs_lt hzero
      · have hmin : Float.Model.Format.minExponent .binary64 = -1074 := by decide
        omega
      · refine hr.trans_lt ?_
        rw [← zpow_natCast]
        refine zpow_lt_zpow_right₀ (by norm_num) ?_
        have hbits : Float.Model.Format.mantissaBits .binary64 = 53 := by decide
        omega
    calc |roundTo .binary64 r - r| ≤ 2 ^ lastPlace .binary64 r / 2 := abs_roundTo_sub_le _ _
      _ ≤ 2 ^ ((n : ℤ) + 1 - 53) / 2 := by
          gcongr
          norm_num
      _ = 2 ^ n / 2 ^ 53 := by
          rw [zpow_sub₀ (by norm_num), zpow_add₀ (by norm_num), zpow_natCast, zpow_one]
          norm_num
          ring

namespace Approximates

theorem real_self (hx : Numeral.isFinite x = true) : Approximates x (real x) 0 :=
  ⟨hx, by simp⟩

theorem mono (h : Approximates x r ε) (hle : ε ≤ δ) : Approximates x r δ :=
  ⟨h.isFinite, h.error_le.trans hle⟩

theorem real_le (h : Approximates x r ε) : real x ≤ r + ε := by
  linarith [(abs_le.mp h.error_le).2]

theorem le_real (h : Approximates x r ε) : r - ε ≤ real x := by
  linarith [(abs_le.mp h.error_le).1]

/-- What approximates a number approximates a near one too. -/
theorem trans (h : Approximates x r ε) (hrs : |r - s| ≤ δ) : Approximates x s (ε + δ) := by
  refine ⟨h.isFinite, ?_⟩
  calc |real x - s| ≤ |real x - r| + |r - s| := abs_sub_le _ _ _
    _ ≤ ε + δ := add_le_add h.error_le hrs

/-- A rounded result approximates what its exact result is near to. -/
theorem of_isRounded {n : ℕ} (hx : IsRounded x r) (hn : n < 1024) (hrs : |r - s| ≤ δ)
    (hs : |s| + δ ≤ 2 ^ n) : Approximates x s (2 ^ n / 2 ^ 53 + δ) := by
  refine (approximates_of_isRounded hx hn ?_).trans hrs
  calc |r| = |s + (r - s)| := by rw [add_sub_cancel]
    _ ≤ |s| + |r - s| := abs_add_le _ _
    _ ≤ |s| + δ := by gcongr
    _ ≤ 2 ^ n := hs

theorem add (n : ℕ) (hn : n < 1024) (hx : Approximates x r ε) (hy : Approximates y s δ)
    (h : |r + s| + (ε + δ) ≤ 2 ^ n) :
    Approximates (x + y) (r + s) (2 ^ n / 2 ^ 53 + (ε + δ)) := by
  refine of_isRounded (isRounded_add hx.isFinite hy.isFinite) hn ?_ h
  calc |real x + real y - (r + s)| = |(real x - r) + (real y - s)| := by ring_nf
    _ ≤ |real x - r| + |real y - s| := abs_add_le _ _
    _ ≤ ε + δ := add_le_add hx.error_le hy.error_le

theorem sub (n : ℕ) (hn : n < 1024) (hx : Approximates x r ε) (hy : Approximates y s δ)
    (h : |r - s| + (ε + δ) ≤ 2 ^ n) :
    Approximates (x - y) (r - s) (2 ^ n / 2 ^ 53 + (ε + δ)) := by
  refine of_isRounded (isRounded_sub hx.isFinite hy.isFinite) hn ?_ h
  calc |real x - real y - (r - s)| = |(real x - r) - (real y - s)| := by ring_nf
    _ ≤ |real x - r| + |real y - s| := abs_sub _ _
    _ ≤ ε + δ := add_le_add hx.error_le hy.error_le

/-- The second factor is known up to `δ`. -/
theorem mul (n : ℕ) (hn : n < 1024) (hx : Numeral.isFinite x = true)
    (hy : Approximates y s δ) (h : |real x * s| + |real x| * δ ≤ 2 ^ n) :
    Approximates (x * y) (real x * s) (2 ^ n / 2 ^ 53 + |real x| * δ) := by
  refine of_isRounded (isRounded_mul hx hy.isFinite) hn ?_ h
  rw [← mul_sub, abs_mul]
  exact mul_le_mul_of_nonneg_left hy.error_le (abs_nonneg _)

theorem max (hx : Approximates x r ε) (hy : Approximates y s ε) :
    Approximates (Double.max x y) (Max.max r s) ε := by
  have hnan : x.isNaN = false := Numeral.isNaN_of_isFinite hx.isFinite
  have hnan' : y.isNaN = false := Numeral.isNaN_of_isFinite hy.isFinite
  have hmax : real (Double.max x y) = Max.max (real x) (real y) ∧
      Numeral.isFinite (Double.max x y) = true := by
    rw [Double.max, hnan, hnan', if_neg Bool.false_ne_true, if_neg Bool.false_ne_true]
    split
    · next hlt => exact ⟨(max_eq_right (Numeral.lt_iff.mp hlt).2.le).symm, hy.isFinite⟩
    · next hge =>
      rw [Numeral.lt_iff, and_iff_right ⟨hnan, hnan'⟩, not_lt] at hge
      exact ⟨(max_eq_left hge).symm, hx.isFinite⟩
  refine ⟨hmax.2, ?_⟩
  rw [hmax.1]
  exact (abs_max_sub_max_le_max _ _ _ _).trans (max_le hx.error_le hy.error_le)

/-- The order of approximations that are far enough apart. -/
theorem le (hx : Approximates x r ε) (hy : Approximates y s δ) (h : r + ε ≤ s - δ) : x ≤ y :=
  Numeral.le_iff.mpr ⟨⟨Numeral.isNaN_of_isFinite hx.isFinite,
    Numeral.isNaN_of_isFinite hy.isFinite⟩, hx.real_le.trans (h.trans hy.le_real)⟩

end Approximates

/-! ## Literals and quotients -/

theorem approximates_one : Approximates 1.0 1 0 :=
  ⟨rfl, by rw [real_one, sub_self, abs_zero]⟩

theorem approximates_two : Approximates 2.0 2 0 :=
  ⟨rfl, by rw [real_two, sub_self, abs_zero]⟩

theorem real_eq_mul (m : ℕ) (e : ℤ) (hm : 0 < m)
    (hx : unpack x = .finite .positive m e hm) : real x = m * 2 ^ e := by
  rw [real_of_unpack hx, value, Float.Model.UnpackedFloat.Sign.apply, Int.cast_natCast]

theorem isRounded_one_div (hx : Numeral.isFinite x = true) (h0 : real x ≠ 0) :
    IsRounded (1.0 / x) (1 / real x) := by
  have hquotient := isRounded_div approximates_one.isFinite hx h0
  rwa [real_one] at hquotient

theorem abs_one_div_sub_one_div_le (hr : 1 ≤ r) (hs : 1 ≤ s) :
    |1 / r - 1 / s| ≤ |r - s| := by
  have hr0 : 0 < r := by linarith
  have hs0 : 0 < s := by linarith
  have hsplit : 1 / r - 1 / s = (s - r) / (r * s) := by
    field_simp
  rw [hsplit, abs_div, abs_of_pos (mul_pos hr0 hs0), abs_sub_comm]
  exact div_le_self (abs_nonneg _) (by nlinarith)

theorem max_eq_or (x y : Float) : Double.max x y = x ∨ Double.max x y = y := by
  unfold Double.max
  split
  · exact .inr rfl
  · split
    · exact .inl rfl
    · split
      · exact .inr rfl
      · exact .inl rfl

/-- Dropping the fraction of a number in the range of words leaves its floor. -/
theorem toNat_truncate (hx : isFinite x = true) (h0 : 0 ≤ real x) (h : real x ≤ 2 ^ 30) :
    ((truncate x).toNat : ℤ) = ⌊real x⌋ := by
  have hword := toNat_toUInt64 hx h0 (h.trans_lt (by norm_num))
  have hfloor : ⌊real x⌋ ≤ 2 ^ 30 := by
    exact_mod_cast (Int.floor_le (real x)).trans h
  rw [truncate, if_neg ((lt_zero_iff hx).not.mpr (not_lt.mpr h0))]
  omega

end Crater.Double
