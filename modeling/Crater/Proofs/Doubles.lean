import Crater.Proofs.Numbers

/-!
# Doubles and singles

What conversions, roots and the floor of finite numbers are worth. The floor of a double is the floor
of its value: no rounding shows, since integers up to `2 ^ 53` are doubles and doubles from `2 ^ 52`
on are integers.
-/

namespace Crater

open Float.Model (Format UnpackedFloat)
open Rounding Numeral

/-! ## Literals -/

theorem real_of_unpack {α : Type} [Add α] [Sub α] [Mul α] [Div α] [Neg α] [LT α] [LE α]
    [Numeral α] {x : α} {u : UnpackedFloat} (h : unpack x = u) : real x = value (format α) u := by
  rw [real, h]

namespace Double

theorem real_zero : real (0.0 : Float) = 0 :=
  real_of_unpack (u := .zero .positive) rfl

theorem real_one : real (1.0 : Float) = 1 := by
  rw [real_of_unpack (u := .finite .positive (2 ^ 52) (-52) (by decide)) rfl]
  norm_num [value, UnpackedFloat.Sign.apply]

theorem real_two : real (2.0 : Float) = 2 := by
  rw [real_of_unpack (u := .finite .positive (2 ^ 52) (-51) (by decide)) rfl]
  norm_num [value, UnpackedFloat.Sign.apply]

theorem real_integral : real integral = 2 ^ 52 := by
  rw [real_of_unpack (u := .finite .positive (2 ^ 52) 0 (by decide)) rfl]
  norm_num [value, UnpackedFloat.Sign.apply]

end Double

theorem Single.real_zero : real (0.0 : Float32) = 0 :=
  real_of_unpack (u := .zero .positive) rfl

theorem Single.real_one : real (1.0 : Float32) = 1 := by
  rw [real_of_unpack (u := .finite .positive (2 ^ 23) (-23) (by decide)) rfl]
  norm_num [value, Float.Model.UnpackedFloat.Sign.apply]

theorem Single.real_nonneg_of_ge {x : Float32} (h : x ≥ 0.0) : 0 ≤ real x := by
  have hle : 0.0 ≤ x := h
  rw [Numeral.le_iff, Single.real_zero] at hle
  exact hle.2

theorem Single.real_pos_of_gt {x : Float32} (h : x > 0.0) : 0 < real x := by
  have hlt : 0.0 < x := h
  rw [Numeral.lt_iff, Single.real_zero] at hlt
  exact hlt.2

theorem Double.real_pos_of_gt {x : Float} (h : x > 0.0) : 0 < real x := by
  have hlt : 0.0 < x := h
  rw [Numeral.lt_iff, Double.real_zero] at hlt
  exact hlt.2

theorem Double.real_nonneg_of_ge {x : Float} (h : x ≥ 0.0) : 0 ≤ real x := by
  have hle : 0.0 ≤ x := h
  rw [Numeral.le_iff, Double.real_zero] at hle
  exact hle.2

theorem Double.pos_iff {x : Float} (hx : isNaN x = false) : x > 0.0 ↔ 0 < real x := by
  show 0.0 < x ↔ _
  rw [Numeral.lt_iff, real_zero]
  exact and_iff_right ⟨rfl, hx⟩

/-! ## Ranges -/

theorem Single.exists_real_eq (x : Float32) :
    ∃ k e : ℤ, |k| < 2 ^ 24 ∧ -149 ≤ e ∧ real x = k * 2 ^ e :=
  isOnGrid_real x

theorem Double.isOnGrid_mul_two_zpow {k e : ℤ} (hk : |k| < 2 ^ 53) (he : -1074 ≤ e) :
    IsOnGrid (format Float) (k * 2 ^ e) :=
  ⟨k, e, hk, he, rfl⟩

theorem Double.two_pow_lt_limit {n : ℕ} (hn : n < 1024) : (2 : ℝ) ^ n < limit (format Float) :=
  pow_lt_pow_right₀ (by norm_num) hn

/-- The computed length of a side tells which of its ends is the higher one. -/
theorem Double.real_sub_pos_iff {low high : Float} (hlow : isFinite low = true) (hhigh : isFinite high = true) :
    0 < real (high - low) ↔ real low < real high := by
  have hsub := isRounded_sub hhigh hlow
  constructor
  · intro hpos
    by_contra hle
    have hnonpos : real (high - low) ≤ real (0.0 : Float) := by
      refine hsub.real_le ?_
      rw [real_zero]
      linarith
    rw [real_zero] at hnonpos
    exact absurd hpos (not_lt.mpr hnonpos)
  · intro hlt
    -- ends that differ do so by the least double at least
    obtain ⟨k, hk⟩ := (isOnGrid_real high).exists_multiple
    obtain ⟨l, hl⟩ := (isOnGrid_real low).exists_multiple
    have hmin : (format Float).minExponent = -1074 := by decide
    rw [hmin] at hk hl
    have hleast : (0 : ℝ) < 2 ^ (-1074 : ℤ) := by positivity
    have hkl : l + 1 ≤ k := by
      rw [hk, hl] at hlt
      exact_mod_cast lt_of_mul_lt_mul_right hlt hleast.le
    have hdiff : ((1 : ℤ) : ℝ) * 2 ^ (-1074 : ℤ) ≤ real high - real low := by
      have hkl' : (l : ℝ) + 1 ≤ k := by exact_mod_cast hkl
      rw [hk, hl]
      push_cast
      nlinarith
    have hlimit : |((1 : ℤ) : ℝ) * 2 ^ (-1074 : ℤ)| ≤ limit (format Float) := by
      refine le_trans ?_ (two_pow_lt_limit (n := 0) (by norm_num)).le
      rw [abs_of_pos (by positivity), Int.cast_one, one_mul, pow_zero]
      exact zpow_le_one_of_nonpos₀ (by norm_num) (by norm_num)
    have hgrid := isOnGrid_mul_two_zpow (k := 1) (e := -1074) (by norm_num) le_rfl
    exact lt_of_lt_of_le (by positivity) (hsub.le_of_isOnGrid hgrid hlimit hdiff)

/-! ## Conversions -/

theorem isRounding_roundTo {f g : Format} {u : UnpackedFloat} (hu : u.isFinite = true) :
    IsRounding f (Single.roundTo f u) (value g u) := by
  cases u with
  | infinity s => cases hu
  | notANumber => cases hu
  | zero s => exact ⟨rfl, trivial, (roundTo_zero f).symm⟩
  | finite s m e hm =>
      rw [value_finite]
      exact round_spec s m e

namespace Single

theorem isRounded_narrow {x : Float} (hx : isFinite x = true) :
    IsRounded (narrow x) (real x) :=
  isRounded_of_unpack rfl (isRounding_roundTo hx)

/-- Widening is exact. -/
theorem real_widen {x : Float32} (hx : isFinite x = true) : real (widen x) = real x := by
  have hwide : IsRounded (widen x) (real x) := isRounded_of_unpack rfl (isRounding_roundTo hx)
  obtain ⟨k, e, hk, he, hvalue⟩ := isOnGrid_real x
  refine hwide.real_eq_of_isOnGrid ⟨k, e, hk.trans (by decide), le_trans (by decide) he, hvalue⟩ ?_
  refine (abs_real_le x).trans ?_
  exact pow_le_pow_right₀ (by norm_num) (by decide)

theorem isFinite_widen {x : Float32} (hx : isFinite x = true) : isFinite (widen x) = true := by
  have hwide : IsRounded (widen x) (real x) := isRounded_of_unpack rfl (isRounding_roundTo hx)
  refine isFinite_iff.mpr ⟨hwide.isNaN, ?_⟩
  rw [real_widen hx]
  refine (abs_real_le x).trans_lt ?_
  exact pow_lt_pow_right₀ (by norm_num) (by decide)

end Single

namespace Double

variable {x y : Float}

theorem isRounded_sqrt (hx : isFinite x = true) (h : 0 ≤ real x) :
    IsRounded x.sqrt √(real x) :=
  isRounded_of_unpack rfl (sqrt_spec hx h)

theorem isNaN_of_isNaN_sqrt (hnan : isNaN x.sqrt = false) : isNaN x = false := by
  rw [← Bool.not_eq_true]
  intro hx
  have hroot : unpack x.sqrt = repack .binary64 ((unpack x).sqrt .binary64) := rfl
  rw [isNaN] at hx hnan
  rw [hroot] at hnan
  cases h : unpack x with
  | notANumber =>
      rw [h, UnpackedFloat.sqrt, repack_notANumber] at hnan
      cases hnan
  | infinity s => rw [h] at hx; cases hx
  | zero s => rw [h] at hx; cases hx
  | finite s m e hm => rw [h] at hx; cases hx

theorem le_real_sqrt (hnan : isNaN x.sqrt = false) (hy : 0 ≤ real y)
    (h : real y * real y ≤ real x) : real y ≤ real x.sqrt := by
  have hx0 : 0 ≤ real x := (mul_self_nonneg _).trans h
  cases hx : isFinite x with
  | true =>
      refine (isRounded_sqrt hx hx0).le_real ?_
      rw [← Real.sqrt_mul_self hy]
      exact Real.sqrt_le_sqrt h
  | false =>
      obtain ⟨s, hs⟩ := exists_unpack_eq_infinity (isNaN_of_isNaN_sqrt hnan) hx
      rw [real, hs] at hx0
      obtain rfl := positive_of_infinity_nonneg hx0
      have hroot : unpack x.sqrt = .infinity .positive := by
        show repack .binary64 ((unpack x).sqrt .binary64) = _
        rw [hs]
        exact repack_infinity _ _
      have hlimit : real x.sqrt = limit .binary64 := by
        rw [real, hroot]
        rfl
      rw [hlimit]
      exact (abs_le.mp (abs_real_le y)).2

/-- Integers of at most 53 binary digits are doubles. -/
theorem isOnGrid_intCast {k : ℤ} (hk : |k| < 2 ^ 53) : IsOnGrid .binary64 (k : ℝ) :=
  ⟨k, 0, hk, by decide, by simp⟩

theorem intCast_lt_limit {k : ℤ} (hk : |k| < 2 ^ 53) : |(k : ℝ)| < limit .binary64 := by
  have hpow : (2 : ℝ) ^ 53 ≤ limit .binary64 := pow_le_pow_right₀ (by norm_num) (by decide)
  have hcast : |(k : ℝ)| < 2 ^ 53 := by exact_mod_cast hk
  exact hcast.trans_le hpow

theorem intCast_le_real {r : ℝ} {k : ℤ} (hx : IsRounded x r) (hk : |k| < 2 ^ 53) (h : k ≤ r) :
    k ≤ real x :=
  hx.le_of_isOnGrid (isOnGrid_intCast hk) (intCast_lt_limit hk).le h

theorem real_le_intCast {r : ℝ} {k : ℤ} (hx : IsRounded x r) (hk : |k| < 2 ^ 53) (h : r ≤ k) :
    real x ≤ k :=
  hx.ge_of_isOnGrid (isOnGrid_intCast hk) (intCast_lt_limit hk).le h

theorem abs_real_le_two_pow {r : ℝ} {n : ℕ} (hx : IsRounded x r) (hn : n < 1024)
    (hr : |r| ≤ 2 ^ n) : |real x| ≤ 2 ^ n := by
  have hgrid : IsOnGrid (format Float) (2 ^ n) := by
    have hone := isOnGrid_mul_two_zpow (k := 1) (e := n) (by norm_num) (by omega)
    rwa [Int.cast_one, one_mul, zpow_natCast] at hone
  have hlimit : |(2 : ℝ) ^ n| ≤ limit (format Float) := by
    rw [abs_of_pos (by positivity)]
    exact (two_pow_lt_limit hn).le
  rw [abs_le] at hr ⊢
  exact ⟨hx.le_of_isOnGrid hgrid.neg (by rwa [abs_neg]) hr.1,
    hx.ge_of_isOnGrid hgrid hlimit hr.2⟩

theorem isFinite_of_isRounded {r : ℝ} {n : ℕ} (hx : IsRounded x r) (hn : n < 1024)
    (hr : |r| ≤ 2 ^ n) : isFinite x = true :=
  Numeral.isFinite_iff.mpr
    ⟨hx.isNaN, (abs_real_le_two_pow hx hn hr).trans_lt (two_pow_lt_limit hn)⟩

theorem isRounded_toFloat (n : UInt64) : IsRounded n.toFloat (n.toNat : ℝ) := by
  have hround := normalize_spec (f := .binary64) n.toNat 0 .positive
  rw [zpow_zero, mul_one, Int.cast_natCast] at hround
  exact isRounded_of_unpack rfl hround

theorem real_toFloat {n : UInt64} (hn : n.toNat < 2 ^ 53) : real n.toFloat = n.toNat := by
  have hn' : |(n.toNat : ℤ)| < 2 ^ 53 := by
    rw [Nat.abs_cast]
    exact_mod_cast hn
  have hgrid := isOnGrid_intCast hn'
  have hlimit := intCast_lt_limit hn'
  rw [Int.cast_natCast] at hgrid hlimit
  exact (isRounded_toFloat n).real_eq_of_isOnGrid hgrid hlimit.le

theorem unpack_abs (x : Float) : unpack x.abs = (unpack x).abs := by
  have hx := isNumber_unpack x
  show repack .binary64 (unpack x).abs = _
  rw [repack, unpack_pack]
  obtain ⟨hcanonical, hrange⟩ := hx
  constructor
  · revert hcanonical
    cases unpack x <;> exact id
  · revert hrange
    cases unpack x <;> exact id

theorem real_abs (x : Float) : real x.abs = |real x| := by
  rw [real, unpack_abs, real]
  cases unpack x with
  | infinity s => cases s <;> simp [UnpackedFloat.abs, value, abs_of_pos (limit_pos _)]
  | notANumber => exact abs_zero.symm
  | zero s => exact abs_zero.symm
  | finite s m e hm =>
      rw [UnpackedFloat.abs, value_finite, value_finite, abs_withSign s (by positivity)]
      rfl

theorem isFinite_abs (hx : isFinite x = true) : isFinite x.abs = true := by
  rw [isFinite, unpack_abs]
  revert hx
  rw [isFinite]
  cases unpack x <;> exact id

/-- Cutting off at the point is exact for integers that fit into a word. -/
theorem toNat_toUInt64 (hx : isFinite x = true) (h : 0 ≤ real x) (hlt : real x < 2 ^ 64) :
    (x.toUInt64.toNat : ℤ) = ⌊real x⌋ := by
  have hint := toInt_spec (f := .binary64) 0 (UInt64.size - 1) hx h
  have hfloor : 0 ≤ ⌊real x⌋ := Int.floor_nonneg.mpr h
  have hfloor' : ⌊real x⌋ < 2 ^ 64 := by
    rw [Int.floor_lt]
    exact_mod_cast hlt
  have hword : x.toUInt64 = UInt64.ofNatClamp ⌊real x⌋.toNat := congrArg _ (congrArg _ hint)
  rw [hword, UInt64.toNat_ofNatClamp_of_lt (by simp only [UInt64.size]; omega)]
  omega

/-! ## The floor -/

theorem lt_zero_iff (hx : isFinite x = true) : x < 0.0 ↔ real x < 0 := by
  rw [Numeral.lt_iff, real_zero, and_iff_right ⟨Numeral.isNaN_of_isFinite hx, rfl⟩]

theorem abs_lt_integral_iff (hx : isFinite x = true) : x.abs < integral ↔ |real x| < 2 ^ 52 := by
  rw [Numeral.lt_iff, real_integral, real_abs,
    and_iff_right ⟨Numeral.isNaN_of_isFinite (isFinite_abs hx), rfl⟩]

theorem isFinite_of_real_eq_intCast {k : ℤ} (hnan : isNaN x = false) (h : real x = k)
    (hk : |k| < 2 ^ 53) : isFinite x = true := by
  rw [Numeral.isFinite_iff, h]
  exact ⟨hnan, intCast_lt_limit hk⟩

/-- The double of the integral part of a magnitude below `2 ^ 52`. -/
theorem real_whole (hx : isFinite x = true) (h : |real x| < 2 ^ 52) :
    real x.abs.toUInt64.toFloat = ⌊|real x|⌋ := by
  have habs := real_abs x
  have hword := toNat_toUInt64 (isFinite_abs hx) (habs ▸ abs_nonneg _)
    (habs ▸ h.trans (by norm_num))
  have hfloor : ⌊|real x|⌋ < 2 ^ 52 := by
    rw [Int.floor_lt]
    exact_mod_cast h
  rw [habs] at hword
  rw [real_toFloat (by omega), ← hword, Int.cast_natCast]

theorem floor_neg_of_lt {a : ℝ} (h : ⌊a⌋ < a) : ⌊-a⌋ = -(⌊a⌋ + 1) := by
  have hlt := Int.lt_floor_add_one a
  rw [Int.floor_eq_iff]
  push_cast
  constructor <;> linarith

theorem floor_neg_of_le {a : ℝ} (h : a ≤ ⌊a⌋) : ⌊-a⌋ = -⌊a⌋ := by
  have hle := Int.floor_le a
  rw [Int.floor_eq_iff]
  push_cast
  constructor <;> linarith

theorem isRounded_whole_add_one (hx : isFinite x = true) (h : |real x| < 2 ^ 52) :
    IsRounded (x.abs.toUInt64.toFloat + 1.0) (⌊|real x|⌋ + 1 : ℤ) := by
  have hfloor : 0 ≤ ⌊|real x|⌋ := Int.floor_nonneg.mpr (abs_nonneg _)
  have hfloor' : ⌊|real x|⌋ < 2 ^ 52 := by
    rw [Int.floor_lt]
    exact_mod_cast h
  have hwhole := real_whole hx h
  have hfinite : isFinite x.abs.toUInt64.toFloat = true :=
    isFinite_of_real_eq_intCast (isRounded_toFloat _).isNaN hwhole (abs_lt.mpr ⟨by omega, by omega⟩)
  have hsum := isRounded_add hfinite (show isFinite (1.0 : Float) = true by rfl)
  rw [hwhole, real_one] at hsum
  rwa [Int.cast_add, Int.cast_one]

/-- The two ways to round a negative number down: by one more than its whole part, or exactly. -/
theorem real_floor_of_neg (hx : isFinite x = true) (h : |real x| < 2 ^ 52) (hneg : real x < 0) :
    real (if x.abs.toUInt64.toFloat < x.abs then -(x.abs.toUInt64.toFloat + 1.0)
      else -x.abs.toUInt64.toFloat) = ⌊real x⌋ := by
  have hwhole := real_whole hx h
  have hflip : real x = -|real x| := by rw [abs_of_neg hneg, neg_neg]
  have hcompare : x.abs.toUInt64.toFloat < x.abs ↔ (⌊|real x|⌋ : ℝ) < |real x| := by
    rw [Numeral.lt_iff, hwhole, real_abs,
      and_iff_right ⟨(isRounded_toFloat _).isNaN, Numeral.isNaN_of_isFinite (isFinite_abs hx)⟩]
  split
  · next hfraction =>
    have hfloor : 0 ≤ ⌊|real x|⌋ := Int.floor_nonneg.mpr (abs_nonneg _)
    have hfloor' : ⌊|real x|⌋ < 2 ^ 52 := by
      rw [Int.floor_lt]
      exact_mod_cast h
    have hsucc : |⌊|real x|⌋ + 1| < 2 ^ 53 := abs_lt.mpr ⟨by omega, by omega⟩
    rw [real_neg, (isRounded_whole_add_one hx h).real_eq_of_isOnGrid (isOnGrid_intCast hsucc)
      (intCast_lt_limit hsucc).le, hflip, abs_neg, abs_abs, floor_neg_of_lt (hcompare.mp hfraction),
      Int.cast_neg]
  · next hexact =>
    rw [real_neg, hwhole, hflip, abs_neg, abs_abs,
      floor_neg_of_le (not_lt.mp (hcompare.not.mp hexact)), Int.cast_neg]

theorem real_floor (hx : isFinite x = true) : real (floor x) = ⌊real x⌋ := by
  unfold floor
  split
  · next hsmall =>
    rw [abs_lt_integral_iff hx] at hsmall
    dsimp only
    split
    · next hneg => exact real_floor_of_neg hx hsmall ((lt_zero_iff hx).mp hneg)
    · next hnonneg =>
      rw [lt_zero_iff hx, not_lt] at hnonneg
      split
      · next hzero =>
        have hzero : real x = 0 := by
          have hbeq := (beq_iff (by decide) (isNumber_unpack x) (isNumber_unpack (0.0 : Float))).mp
            hzero
          exact hbeq.2.trans real_zero
        rw [hzero, Int.floor_zero, Int.cast_zero]
      · rw [real_whole hx hsmall, abs_of_nonneg hnonneg]
  · next hlarge =>
    rw [abs_lt_integral_iff hx, not_lt] at hlarge
    obtain ⟨k, hk⟩ := (isOnGrid_real x).exists_eq_intCast hlarge
    rw [hk, Int.floor_intCast]

/-- Infinities are their own floors, so the floor makes no NaN. -/
theorem isNaN_floor (hnan : isNaN x = false) : isNaN (floor x) = false := by
  unfold floor
  split
  · next hsmall =>
    have hvalue : |real x| < 2 ^ 52 := by
      rw [Numeral.lt_iff, real_abs, real_integral] at hsmall
      exact hsmall.2
    have hx : isFinite x = true := by
      have hpow : (2 : ℝ) ^ 52 ≤ limit .binary64 := pow_le_pow_right₀ (by norm_num) (by decide)
      exact Numeral.isFinite_iff.mpr ⟨hnan, hvalue.trans_le hpow⟩
    dsimp only
    split
    · split
      · rw [isNaN_neg]
        exact (isRounded_whole_add_one hx hvalue).isNaN
      · rw [isNaN_neg]
        exact (isRounded_toFloat _).isNaN
    · split
      · exact hnan
      · exact (isRounded_toFloat _).isNaN
  · exact hnan

end Double

end Crater
