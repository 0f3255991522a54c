import Crater.Proofs.Doubles

/-!
# Rising numbers

Rounding keeps order. So two numbers that are not negative and in order are still
so after the same thing has been added to both, after both have been multiplied,
rounded down or narrowed, and a formula made of such steps rises with its
arguments. Sums, floors and narrowings may be infinite; nothing is above infinity,
so order is kept there as well. It is also kept when the same thing is taken from
both, as long as that leaves something of the smaller.
-/

namespace Crater

open Float.Model (UnpackedFloat)
open Rounding Numeral

namespace Numeral

variable {α : Type} [Add α] [Sub α] [Mul α] [Div α] [Neg α] [LT α] [LE α] [Numeral α]
  {x y u v : α}

theorem real_le_limit (x : α) : real x ≤ limit (format α) := (abs_le.mp (abs_real_le x)).2

theorem real_of_infinite (hnan : isNaN x = false) (hx : isFinite x = false) (h0 : 0 ≤ real x) :
    real x = limit (format α) := by
  rw [← abs_real_of_infinite hnan hx, abs_of_nonneg h0]

/-- A finite number does not count if an infinity comes before it. -/
theorem infinite_add (hnan : isNaN x = false) (hx : isFinite x = false) (hy : isFinite y = true) :
    x + y = x := by
  apply unpack_injective
  obtain ⟨s, hs⟩ := exists_unpack_eq_infinity hnan hx
  rw [unpack_add, hs]
  rw [isFinite] at hy
  cases h : unpack y with
  | infinity t => rw [h] at hy; cases hy
  | notANumber => rw [h] at hy; cases hy
  | zero t => exact repack_infinity _ s
  | finite t n e hn => exact repack_infinity _ s

/-- A positive number does not count if it multiplies infinity. -/
theorem infinite_mul (hx : isFinite x = true) (hpos : 0 < real x) (hnan : isNaN u = false)
    (hu : isFinite u = false) (h0 : 0 ≤ real u) : x * u = u := by
  apply unpack_injective
  obtain ⟨s, hs⟩ := exists_unpack_eq_infinity hnan hu
  rw [real, hs] at h0
  obtain rfl := positive_of_infinity_nonneg h0
  rw [unpack_mul, hs]
  rw [isFinite] at hx
  rw [real] at hpos
  cases h : unpack x with
  | infinity t => rw [h] at hx; cases hx
  | notANumber => rw [h] at hx; cases hx
  | zero t => rw [h] at hpos; exact absurd hpos (lt_irrefl 0)
  | finite t n e hn =>
      rw [h] at hpos
      obtain rfl := positive_of_value_nonneg hpos.le
      exact repack_infinity _ _

/-- What can be taken from a number without going below zero is finite. -/
theorem isFinite_of_sub (hx : 0 ≤ real x) (hu : 0 ≤ real u) (hnan : isNaN (x - u) = false)
    (h0 : 0 ≤ real (x - u)) : isFinite u = true := by
  rw [sub_eq] at hnan h0
  obtain ⟨hx', hu'⟩ := isNaN_of_isNaN_add hnan
  rw [isNaN_neg] at hu'
  by_contra hfinite
  obtain ⟨s, hs⟩ := exists_unpack_eq_infinity hu' (Bool.eq_false_of_not_eq_true hfinite)
  have hvalue := hu
  rw [real, hs] at hvalue
  obtain rfl := positive_of_infinity_nonneg hvalue
  have hneg : unpack (-u) = .infinity .negative := by
    rw [unpack_neg_eq, hs]
    rfl
  cases hxf : isFinite x with
  | true =>
      have hpos := limit_pos (format α)
      rw [add_eq_right hxf (by rwa [isNaN_neg]) (by rw [isFinite, hneg]; rfl), real, hneg] at h0
      simp only [value] at h0
      linarith
  | false =>
      -- infinity less infinity is no number
      obtain ⟨t, ht⟩ := exists_unpack_eq_infinity hx' hxf
      rw [real, ht] at hx
      obtain rfl := positive_of_infinity_nonneg hx
      rw [isNaN, unpack_add, ht, hneg] at hnan
      rw [show (UnpackedFloat.infinity .positive).add (format α) (.infinity .negative) =
        .notANumber from rfl, repack_notANumber] at hnan
      cases hnan

/-- Two numbers in order, neither of them negative. Infinity may be among them. -/
structure Rises (x y : α) : Prop where
  isNaN_left : isNaN x = false
  isNaN_right : isNaN y = false
  nonneg : 0 ≤ real x
  le : real x ≤ real y

namespace Rises

theorem refl (hnan : isNaN x = false) (h0 : 0 ≤ real x) : Rises x x := ⟨hnan, hnan, h0, le_rfl⟩

theorem right (h : Rises x y) : Rises y y := refl h.isNaN_right (h.nonneg.trans h.le)

theorem not_above (h : Rises x y) : x ≤ y := le_iff.mpr ⟨⟨h.isNaN_left, h.isNaN_right⟩, h.le⟩

theorem isFinite_left (h : Rises x y) (hy : isFinite y = true) : isFinite x = true :=
  isFinite_of_le hy h.isNaN_left h.nonneg h.le

theorem of_infinite (hx : isNaN x = false) (h0 : 0 ≤ real x) (hnan : isNaN y = false)
    (hy : isFinite y = false) (hy0 : 0 ≤ real y) : Rises x y :=
  ⟨hx, hnan, h0, (real_of_infinite hnan hy hy0) ▸ real_le_limit x⟩

theorem mul (h : Rises x y) (hy : isFinite y = true) (h' : Rises u v) (hv : isFinite v = true) :
    Rises (x * u) (y * v) := by
  have hleft := isRounded_mul (h.isFinite_left hy) (h'.isFinite_left hv)
  have hright := isRounded_mul hy hv
  refine ⟨hleft.isNaN, hright.isNaN, hleft.real_nonneg (mul_nonneg h.nonneg h'.nonneg), ?_⟩
  exact hleft.mono hright (mul_le_mul h.le h'.le h'.nonneg (h.nonneg.trans h.le))

theorem add (h : Rises x y) (hy : isFinite y = true) (h' : Rises u v) (hv : isFinite v = true) :
    Rises (x + u) (y + v) := by
  have hleft := isRounded_add (h.isFinite_left hy) (h'.isFinite_left hv)
  have hright := isRounded_add hy hv
  refine ⟨hleft.isNaN, hright.isNaN, hleft.real_nonneg (add_nonneg h.nonneg h'.nonneg), ?_⟩
  exact hleft.mono hright (add_le_add h.le h'.le)

theorem div_right (h : Rises x y) (hy : isFinite y = true) (hu : isFinite u = true)
    (hpos : 0 < real u) : Rises (x / u) (y / u) := by
  have hleft := isRounded_div (h.isFinite_left hy) hu hpos.ne'
  have hright := isRounded_div hy hu hpos.ne'
  refine ⟨hleft.isNaN, hright.isNaN, hleft.real_nonneg (div_nonneg h.nonneg hpos.le), ?_⟩
  exact hleft.mono hright (by gcongr; exact h.le)

/-- Adding a finite number keeps order even if a number is infinite. -/
theorem add_right (h : Rises x y) (hu : isFinite u = true) (h0 : 0 ≤ real u) :
    Rises (x + u) (y + u) := by
  cases hy : isFinite y with
  | true => exact h.add hy (refl (isNaN_of_isFinite hu) h0) hu
  | false =>
      rw [infinite_add h.isNaN_right hy hu]
      have hnonneg := real_add_nonneg h.nonneg h0
      cases hx : isFinite x with
      | true =>
          exact of_infinite (isRounded_add hx hu).isNaN hnonneg h.isNaN_right hy
            (h.nonneg.trans h.le)
      | false => rwa [infinite_add h.isNaN_left hx hu]

/-- Multiplying finite numbers keeps order even if the factor is infinite. -/
theorem mul_right (h : Rises x y) (hy : isFinite y = true) (hpos : 0 < real x)
    (hu : isNaN u = false) (h0 : 0 ≤ real u) : Rises (x * u) (y * u) := by
  have hself := refl hu h0
  cases hfinite : isFinite u with
  | true => exact h.mul hy hself hfinite
  | false =>
      rw [infinite_mul (h.isFinite_left hy) hpos hu hfinite h0,
        infinite_mul hy (hpos.trans_le h.le) hu hfinite h0]
      exact hself

/-- Taking the same away keeps order as long as there is something left. -/
theorem sub_right (h : Rises x y) (hu : 0 ≤ real u) (hnan : isNaN (x - u) = false)
    (h0 : 0 ≤ real (x - u)) : Rises (x - u) (y - u) := by
  have hfinite := isFinite_of_sub h.nonneg hu hnan h0
  cases hy : isFinite y with
  | true =>
      have hright := isRounded_sub hy hfinite
      refine ⟨hnan, hright.isNaN, h0, ?_⟩
      exact (isRounded_sub (h.isFinite_left hy) hfinite).mono hright (by linarith [h.le])
  | false =>
      have hneg : isFinite (-u) = true := by
        rw [isFinite, unpack_neg_eq, Rounding.isFinite_neg]
        exact hfinite
      rw [sub_eq y, infinite_add h.isNaN_right hy hneg]
      exact of_infinite hnan h0 h.isNaN_right hy (h.nonneg.trans h.le)

end Rises

end Numeral

/-! ## Rounding down and narrowing -/

namespace Double

variable {x y : Float}

theorem floor_of_infinite (hnan : isNaN x = false) (hx : isFinite x = false) : floor x = x := by
  unfold floor
  rw [if_neg]
  intro hsmall
  rw [Numeral.lt_iff, real_abs, real_integral] at hsmall
  have hpow : (2 : ℝ) ^ 52 < limit (format Float) := two_pow_lt_limit (by norm_num)
  rw [abs_real_of_infinite hnan hx] at hsmall
  exact absurd hsmall.2 (not_lt.mpr hpow.le)

theorem real_floor_nonneg (hnan : isNaN x = false) (h : 0 ≤ real x) : 0 ≤ real (floor x) := by
  cases hx : isFinite x with
  | true =>
      rw [real_floor hx]
      exact_mod_cast Int.floor_nonneg.mpr h
  | false => rwa [floor_of_infinite hnan hx]

theorem rises_floor (h : Rises x y) : Rises (floor x) (floor y) := by
  have hnan := isNaN_floor h.isNaN_left
  have hnonneg := real_floor_nonneg h.isNaN_left h.nonneg
  cases hy : isFinite y with
  | true =>
      refine ⟨hnan, isNaN_floor h.isNaN_right, hnonneg, ?_⟩
      rw [real_floor (h.isFinite_left hy), real_floor hy]
      exact_mod_cast Int.floor_le_floor h.le
  | false =>
      rw [floor_of_infinite h.isNaN_right hy]
      exact .of_infinite hnan hnonneg h.isNaN_right hy (h.nonneg.trans h.le)

end Double

namespace Single

variable {x y : Float}

end Single

end Crater
