import Crater.Number.Single
import Crater.Proofs.Packing

/-!
# Numbers

Doubles and singles as reals. Every number has a value, `real`; sums, differences, products,
quotients and roots of finite numbers have the exact value of the operation, rounded once; and
numbers are compared by their values.
-/

namespace Crater

open Float.Model (Format UnpackedFloat)
open Rounding

/-- The numbers of one format, with the operations that core has for them. -/
class Numeral (α : Type) [Add α] [Sub α] [Mul α] [Div α] [Neg α] [LT α] [LE α] where
  format : Format
  one_lt : 1 < format.exponentBits
  unpack : α → UnpackedFloat
  isNumber_unpack (x : α) : IsNumber format (unpack x)
  unpack_injective : Function.Injective unpack
  unpack_add (x y : α) : unpack (x + y) = repack format ((unpack x).add format (unpack y))
  unpack_sub (x y : α) : unpack (x - y) = repack format ((unpack x).sub format (unpack y))
  unpack_mul (x y : α) : unpack (x * y) = repack format ((unpack x).mul format (unpack y))
  unpack_div (x y : α) : unpack (x / y) = repack format ((unpack x).div format (unpack y))
  unpack_neg (x : α) : unpack (-x) = repack format (unpack x).neg
  lt_iff_unpack (x y : α) : x < y ↔ (unpack x).lt (unpack y) = true
  le_iff_unpack (x y : α) : x ≤ y ↔ (unpack x).le (unpack y) = true

instance : Numeral Float where
  format := .binary64
  one_lt := by decide
  unpack x := x.toModel.unpack
  isNumber_unpack x := Rounding.isNumber_unpack (f := .binary64) (by decide) _
  unpack_injective := by
    rintro ⟨⟨⟨x⟩, hx⟩⟩ ⟨⟨⟨y⟩, hy⟩⟩ h
    have hpack := congrArg (UnpackedFloat.pack .binary64) h
    simp only [Float.Model.unpack] at hpack
    rw [pack_unpack (by decide) hx, pack_unpack (by decide) hy] at hpack
    cases hpack
    rfl
  unpack_add x y := rfl
  unpack_sub x y := rfl
  unpack_mul x y := rfl
  unpack_div x y := rfl
  unpack_neg x := rfl
  lt_iff_unpack x y := by
    show decide (x.toModel < y.toModel) = true ↔ _
    rw [decide_eq_true_iff]
    rfl
  le_iff_unpack x y := by
    show decide (x.toModel ≤ y.toModel) = true ↔ _
    rw [decide_eq_true_iff]
    rfl

instance : Numeral Float32 where
  format := .binary32
  one_lt := by decide
  unpack x := x.toModel.unpack
  isNumber_unpack x := Rounding.isNumber_unpack (f := .binary32) (by decide) _
  unpack_injective := by
    rintro ⟨⟨⟨x⟩, hx⟩⟩ ⟨⟨⟨y⟩, hy⟩⟩ h
    have hpack := congrArg (UnpackedFloat.pack .binary32) h
    simp only [Float32.Model.unpack] at hpack
    rw [pack_unpack (by decide) hx, pack_unpack (by decide) hy] at hpack
    cases hpack
    rfl
  unpack_add x y := rfl
  unpack_sub x y := rfl
  unpack_mul x y := rfl
  unpack_div x y := rfl
  unpack_neg x := rfl
  lt_iff_unpack x y := by
    show decide (x.toModel < y.toModel) = true ↔ _
    rw [decide_eq_true_iff]
    rfl
  le_iff_unpack x y := by
    show decide (x.toModel ≤ y.toModel) = true ↔ _
    rw [decide_eq_true_iff]
    rfl

namespace Numeral

variable {α : Type} [Add α] [Sub α] [Mul α] [Div α] [Neg α] [LT α] [LE α] [Numeral α] {x y : α}

/-- The value of a number: `limit` with its sign for an infinity, and zero for a NaN. -/
noncomputable def real (x : α) : ℝ := value (format α) (unpack x)

def isNaN (x : α) : Bool := (unpack x).isNaN

def isFinite (x : α) : Bool := (unpack x).isFinite

theorem isFinite_iff : isFinite x = true ↔ isNaN x = false ∧ |real x| < limit (format α) :=
  Rounding.isFinite_iff one_lt (isNumber_unpack x)

theorem isNaN_of_isFinite (h : isFinite x = true) : isNaN x = false :=
  (isFinite_iff.mp h).1

theorem isFinite_of_le (hx : isFinite x = true) (hnan : isNaN y = false) (h0 : 0 ≤ real y)
    (h : real y ≤ real x) : isFinite y = true := by
  rw [isFinite_iff, abs_of_nonneg h0]
  exact ⟨hnan, h.trans_lt ((le_abs_self _).trans_lt (isFinite_iff.mp hx).2)⟩

theorem abs_real_le (x : α) : |real x| ≤ limit (format α) :=
  abs_value_le one_lt (isNumber_unpack x)

theorem isOnGrid_real (x : α) : IsOnGrid (format α) (real x) :=
  isOnGrid_value (isNumber_unpack x).canonical

theorem rounded_real (x : α) : rounded (format α) (real x) = real x :=
  rounded_of_isOnGrid (isOnGrid_real x) (abs_real_le x)

/-! ## Order -/

theorem lt_iff : x < y ↔ (isNaN x = false ∧ isNaN y = false) ∧ real x < real y := by
  rw [lt_iff_unpack]
  exact Rounding.lt_iff one_lt (isNumber_unpack x) (isNumber_unpack y)

theorem le_iff : x ≤ y ↔ (isNaN x = false ∧ isNaN y = false) ∧ real x ≤ real y := by
  rw [le_iff_unpack]
  exact Rounding.le_iff one_lt (isNumber_unpack x) (isNumber_unpack y)

theorem isNaN_of_real_ne_zero (h : real x ≠ 0) : isNaN x = false :=
  isNaN_of_value_ne_zero h

theorem eq_of_real_eq (h : real x = real y) (h0 : real x ≠ 0) : x = y :=
  unpack_injective (eq_of_value_eq one_lt (isNumber_unpack x) (isNumber_unpack y) h h0)

/-! ## Operations -/

structure IsRounded (z : α) (r : ℝ) : Prop where
  isNaN : isNaN z = false
  real_eq : real z = rounded (format α) r

theorem isRounded_of_unpack {z : α} {u : UnpackedFloat} {r : ℝ}
    (hz : unpack z = repack (format α) u) (hu : IsRounding (format α) u r) : IsRounded z r where
  isNaN := by
    rw [Numeral.isNaN, hz]
    exact hu.isNaN_repack
  real_eq := by
    rw [real, hz]
    exact hu.value_repack one_lt

theorem isRounded_add (hx : isFinite x = true) (hy : isFinite y = true) :
    IsRounded (x + y) (real x + real y) :=
  isRounded_of_unpack (unpack_add x y)
    (add_spec (isNumber_unpack x).canonical (isNumber_unpack y).canonical hx hy)

theorem isRounded_sub (hx : isFinite x = true) (hy : isFinite y = true) :
    IsRounded (x - y) (real x - real y) := by
  refine isRounded_of_unpack (unpack_sub x y) ?_
  rw [Rounding.sub_eq, real, real, sub_eq_add_neg, ← value_neg]
  exact add_spec (isNumber_unpack x).canonical (isNumber_unpack y).canonical.neg hx
    ((isFinite_neg _).trans hy)

theorem isRounded_mul (hx : isFinite x = true) (hy : isFinite y = true) :
    IsRounded (x * y) (real x * real y) :=
  isRounded_of_unpack (unpack_mul x y)
    (mul_spec (isNumber_unpack x).canonical (isNumber_unpack y).canonical hx hy)

theorem isRounded_div (hx : isFinite x = true) (hy : isFinite y = true) (h0 : real y ≠ 0) :
    IsRounded (x / y) (real x / real y) :=
  isRounded_of_unpack (unpack_div x y) (div_spec hx hy h0)

theorem unpack_neg_eq (x : α) : unpack (-x) = (unpack x).neg := by
  have hx := isNumber_unpack x
  rw [unpack_neg, repack, unpack_pack]
  refine ⟨hx.canonical.neg, ?_⟩
  have hrange := hx.inRange
  revert hrange
  cases unpack x <;> exact id

theorem real_neg (x : α) : real (-x) = -real x := by
  rw [real, unpack_neg_eq, value_neg, real]

/-! ## Infinite operands -/

theorem exists_unpack_eq_infinity (hnan : isNaN x = false) (hx : isFinite x = false) :
    ∃ s, unpack x = .infinity s := by
  rw [isNaN] at hnan
  rw [isFinite] at hx
  cases h : unpack x with
  | infinity s => exact ⟨s, rfl⟩
  | notANumber => rw [h] at hnan; cases hnan
  | zero s => rw [h] at hx; cases hx
  | finite s m e hm => rw [h] at hx; cases hx

theorem repack_infinity (f : Format) (s : UnpackedFloat.Sign) :
    repack f (.infinity s) = .infinity s :=
  unpack_pack ⟨trivial, trivial⟩

theorem repack_notANumber (f : Format) : repack f .notANumber = .notANumber :=
  unpack_pack ⟨trivial, trivial⟩

/-- An operation that makes a NaN of every NaN has other results for other operands only. -/
theorem isNaN_of_op {op : UnpackedFloat → UnpackedFloat → UnpackedFloat} {z : α}
    (hop : ∀ u v, u.isNaN = true ∨ v.isNaN = true → op u v = .notANumber)
    (hz : unpack z = repack (format α) (op (unpack x) (unpack y))) (hnan : isNaN z = false) :
    isNaN x = false ∧ isNaN y = false := by
  rw [← Bool.not_eq_true, ← Bool.not_eq_true, ← not_or]
  intro hxy
  rw [isNaN, hz, hop _ _ hxy, repack_notANumber] at hnan
  cases hnan

theorem isNaN_of_isNaN_add (hnan : isNaN (x + y) = false) : isNaN x = false ∧ isNaN y = false := by
  refine isNaN_of_op ?_ (unpack_add x y) hnan
  intro u v huv
  cases u <;> cases v <;> first | rfl | (rcases huv with h | h <;> cases h)

theorem isNaN_of_isNaN_mul (hnan : isNaN (x * y) = false) : isNaN x = false ∧ isNaN y = false := by
  refine isNaN_of_op ?_ (unpack_mul x y) hnan
  intro u v huv
  cases u <;> cases v <;> first | rfl | (rcases huv with h | h <;> cases h)

theorem isNaN_of_isNaN_div (hnan : isNaN (x / y) = false) : isNaN x = false ∧ isNaN y = false := by
  refine isNaN_of_op ?_ (unpack_div x y) hnan
  intro u v huv
  cases u <;> cases v <;> first | rfl | (rcases huv with h | h <;> cases h)

/-- What is added to an infinity does not count, unless it makes a NaN of it. -/
theorem add_eq_left (hx : isFinite x = false) (hsum : isNaN (x + y) = false) : x + y = x := by
  apply unpack_injective
  obtain ⟨s, hs⟩ := exists_unpack_eq_infinity (isNaN_of_isNaN_add hsum).1 hx
  rw [isNaN, unpack_add, hs] at hsum
  rw [unpack_add, hs]
  cases hy : unpack y with
  | notANumber =>
      rw [hy, show (UnpackedFloat.infinity s).add (format α) .notANumber = .notANumber from rfl,
        repack_notANumber] at hsum
      cases hsum
  | infinity t =>
      rw [hy] at hsum
      cases s <;> cases t
      · exact repack_infinity _ _
      · rw [show (UnpackedFloat.infinity .negative).add (format α) (.infinity .positive) =
          .notANumber from rfl, repack_notANumber] at hsum
        cases hsum
      · rw [show (UnpackedFloat.infinity .positive).add (format α) (.infinity .negative) =
          .notANumber from rfl, repack_notANumber] at hsum
        cases hsum
      · exact repack_infinity _ _
  | zero t => exact repack_infinity _ s
  | finite t n e hn => exact repack_infinity _ s

/-- A finite number does not count if it is added to an infinity. -/
theorem add_eq_right (hx : isFinite x = true) (hnan : isNaN y = false) (hy : isFinite y = false) :
    x + y = y := by
  apply unpack_injective
  obtain ⟨t, ht⟩ := exists_unpack_eq_infinity hnan hy
  rw [unpack_add, ht]
  rw [isFinite] at hx
  cases h : unpack x with
  | infinity s => rw [h] at hx; cases hx
  | notANumber => rw [h] at hx; cases hx
  | zero s => exact repack_infinity _ t
  | finite s m e hm => exact repack_infinity _ t

/-- No sum with an infinity or a NaN is finite. -/
theorem isFinite_add_eq_false (hx : isFinite x = false) : isFinite (x + y) = false := by
  cases hsum : isNaN (x + y) with
  | true =>
      by_contra hfinite
      rw [isNaN_of_isFinite (Bool.eq_true_of_not_eq_false hfinite)] at hsum
      cases hsum
  | false => rwa [add_eq_left hx hsum]

/-- Nor is a product. -/
theorem isFinite_mul_eq_false (hx : isFinite x = false) : isFinite (x * y) = false := by
  by_contra hfinite
  have hnan := isNaN_of_isFinite (Bool.eq_true_of_not_eq_false hfinite)
  obtain ⟨s, hs⟩ := exists_unpack_eq_infinity (isNaN_of_isNaN_mul hnan).1 hx
  rw [isFinite, unpack_mul, hs] at hfinite
  apply hfinite
  cases unpack y with
  | notANumber => exact congrArg UnpackedFloat.isFinite (repack_notANumber _)
  | zero t => exact congrArg UnpackedFloat.isFinite (repack_notANumber _)
  | infinity t => exact congrArg UnpackedFloat.isFinite (repack_infinity _ _)
  | finite t n e hn => exact congrArg UnpackedFloat.isFinite (repack_infinity _ _)

/-- A finite number over an infinity is zero. -/
theorem real_div_of_infinite (hx : isFinite x = true) (hnan : isNaN y = false)
    (hy : isFinite y = false) : real (x / y) = 0 := by
  obtain ⟨t, ht⟩ := exists_unpack_eq_infinity hnan hy
  have hzero : ∃ s, unpack (x / y) = repack (format α) (.zero s) := by
    rw [unpack_div, ht]
    rw [isFinite] at hx
    cases h : unpack x with
    | infinity s => rw [h] at hx; cases hx
    | notANumber => rw [h] at hx; cases hx
    | zero s => exact ⟨_, rfl⟩
    | finite s m e hm => exact ⟨_, rfl⟩
  obtain ⟨s, hs⟩ := hzero
  have hsame : repack (format α) (.zero s) = .zero s := unpack_pack ⟨trivial, trivial⟩
  rw [real, hs, hsame]
  rfl

theorem sub_eq (x y : α) : x - y = x + -y := by
  apply unpack_injective
  rw [unpack_sub, unpack_add, unpack_neg_eq, Rounding.sub_eq]

theorem isNaN_neg (x : α) : isNaN (-x) = isNaN x := by
  rw [isNaN, isNaN, unpack_neg_eq]
  cases unpack x <;> rfl

theorem abs_real_of_infinite (hnan : isNaN x = false) (hx : isFinite x = false) :
    |real x| = limit (format α) := by
  obtain ⟨s, hs⟩ := exists_unpack_eq_infinity hnan hx
  rw [real, hs]
  cases s
  · exact (abs_neg _).trans (abs_of_pos (limit_pos _))
  · exact abs_of_pos (limit_pos _)

namespace IsRounded

variable {z w : α} {r t : ℝ}

theorem mono (hz : IsRounded z r) (hw : IsRounded w t) (h : r ≤ t) : real z ≤ real w := by
  rw [hz.real_eq, hw.real_eq]
  exact rounded_mono _ h

/-- What is rounded stays on its side of every real that the format has. -/
theorem le_of_isOnGrid (hz : IsRounded z r) (ht : IsOnGrid (format α) t)
    (hlimit : |t| ≤ limit (format α)) (h : t ≤ r) : t ≤ real z := by
  rw [hz.real_eq, ← rounded_of_isOnGrid ht hlimit]
  exact rounded_mono _ h

theorem ge_of_isOnGrid (hz : IsRounded z r) (ht : IsOnGrid (format α) t)
    (hlimit : |t| ≤ limit (format α)) (h : r ≤ t) : real z ≤ t := by
  rw [hz.real_eq, ← rounded_of_isOnGrid ht hlimit]
  exact rounded_mono _ h

theorem real_eq_of_isOnGrid (hz : IsRounded z r) (hr : IsOnGrid (format α) r)
    (hlimit : |r| ≤ limit (format α)) : real z = r :=
  (hz.ge_of_isOnGrid hr hlimit le_rfl).antisymm (hz.le_of_isOnGrid hr hlimit le_rfl)

theorem le_real (hz : IsRounded z r) (h : real x ≤ r) : real x ≤ real z :=
  hz.le_of_isOnGrid (isOnGrid_real x) (abs_real_le x) h

theorem real_le (hz : IsRounded z r) (h : r ≤ real x) : real z ≤ real x :=
  hz.ge_of_isOnGrid (isOnGrid_real x) (abs_real_le x) h

theorem real_nonneg (hz : IsRounded z r) (h : 0 ≤ r) : 0 ≤ real z :=
  hz.le_of_isOnGrid (isOnGrid_zero _) (abs_zero.trans_le (limit_pos _).le) h

end IsRounded

/-! ## Monotonicity -/

/-- Adding what is not positive does not make a number larger. -/
theorem real_add_le (hsum : isNaN (x + y) = false) (hy : real y ≤ 0) : real (x + y) ≤ real x := by
  cases hx : isFinite x with
  | false => rw [add_eq_left hx hsum]
  | true =>
      cases hy' : isFinite y with
      | true => exact (isRounded_add hx hy').real_le (by linarith)
      | false =>
          have hnan : isNaN y = false := (isNaN_of_isNaN_add hsum).2
          have hlimit := abs_real_of_infinite hnan hy'
          rw [abs_of_nonpos hy] at hlimit
          have hbound := (abs_le.mp (abs_real_le x)).1
          rw [add_eq_right hx hnan hy']
          linarith

/-- Adding what is not negative does not make a number smaller. -/
theorem le_real_add (hsum : isNaN (x + y) = false) (hy : 0 ≤ real y) : real x ≤ real (x + y) := by
  cases hx : isFinite x with
  | false => rw [add_eq_left hx hsum]
  | true =>
      cases hy' : isFinite y with
      | true => exact (isRounded_add hx hy').le_real (by linarith)
      | false =>
          have hnan : isNaN y = false := (isNaN_of_isNaN_add hsum).2
          have hlimit := abs_real_of_infinite hnan hy'
          rw [abs_of_nonneg hy] at hlimit
          have hbound := (abs_le.mp (abs_real_le x)).2
          rw [add_eq_right hx hnan hy']
          linarith

theorem le_real_add_left (hsum : isNaN (x + y) = false) (hx : 0 ≤ real x) :
    real y ≤ real (x + y) := by
  obtain ⟨hnan, hnan'⟩ := isNaN_of_isNaN_add hsum
  cases hx' : isFinite x with
  | false =>
      have hlimit := abs_real_of_infinite hnan hx'
      rw [abs_of_nonneg hx] at hlimit
      rw [add_eq_left hx' hsum, hlimit]
      exact (abs_le.mp (abs_real_le y)).2
  | true =>
      cases hy : isFinite y with
      | true => exact (isRounded_add hx' hy).le_real (by linarith)
      | false => rw [add_eq_right hx' hnan' hy]

/-- Sums with a finite number are no NaNs. -/
theorem isNaN_add (hx : isFinite x = true) (hy : isNaN y = false) : isNaN (x + y) = false := by
  cases hy' : isFinite y with
  | true => exact (isRounded_add hx hy').isNaN
  | false => rwa [add_eq_right hx hy hy']

theorem real_of_isNaN (h : isNaN x = true) : real x = 0 := by
  by_contra h0
  rw [isNaN_of_real_ne_zero h0] at h
  cases h

theorem eq_of_isNaN (hx : isNaN x = true) (hy : isNaN y = true) : x = y := by
  have hshape : ∀ u : UnpackedFloat, u.isNaN = true → u = .notANumber := by
    intro u hu
    cases u <;> first | rfl | cases hu
  exact unpack_injective ((hshape _ hx).trans (hshape _ hy).symm)

theorem exists_unpack_eq_zero (hnan : isNaN x = false) (h0 : real x = 0) :
    ∃ s, unpack x = .zero s := by
  have hpos := limit_pos (format α)
  rw [isNaN] at hnan
  rw [real] at h0
  cases h : unpack x with
  | notANumber => rw [h] at hnan; cases hnan
  | infinity s =>
      rw [h] at h0
      cases s <;> simp only [value] at h0 <;> linarith
  | zero s => exact ⟨s, rfl⟩
  | finite s m e hm =>
      rw [h, value_finite] at h0
      have hmagnitude : (0 : ℝ) < m * 2 ^ e := by positivity
      cases s <;> simp only [withSign] at h0 <;> linarith

theorem real_zero_add (hx : isNaN x = false) (hx0 : real x = 0) (hy : isNaN y = false) :
    real (x + y) = real y := by
  have hfinite : isFinite x = true := by
    rw [isFinite_iff, hx0, abs_zero]
    exact ⟨hx, limit_pos _⟩
  cases hy' : isFinite y with
  | true => rw [(isRounded_add hfinite hy').real_eq, hx0, zero_add, rounded_real]
  | false => rw [add_eq_right hfinite hy hy']

theorem real_add_nonneg (hx : 0 ≤ real x) (hy : 0 ≤ real y) : 0 ≤ real (x + y) := by
  cases hsum : isNaN (x + y) with
  | true => exact (real_of_isNaN hsum).ge
  | false => exact hx.trans (le_real_add hsum hy)

theorem positive_of_value_nonneg {f : Format} {s : UnpackedFloat.Sign} {m : ℕ} {e : ℤ}
    {hm : 0 < m} (h : 0 ≤ value f (.finite s m e hm)) : s = .positive := by
  cases s with
  | positive => rfl
  | negative =>
      rw [value_finite] at h
      have : (0 : ℝ) < m * 2 ^ e := by positivity
      exact absurd h (by simp only [withSign]; linarith)

theorem positive_of_infinity_nonneg {f : Format} {s : UnpackedFloat.Sign}
    (h : 0 ≤ value f (.infinity s)) : s = .positive := by
  cases s with
  | positive => rfl
  | negative =>
      have := limit_pos f
      exact absurd h (by simp only [value]; linarith)

/-- An infinity times what is not negative is an infinity or a NaN. -/
theorem value_infinity_mul_nonneg {f : Format} {v : UnpackedFloat} (hv : 0 ≤ value f v) :
    0 ≤ value f (repack f ((UnpackedFloat.infinity .positive).mul f v)) := by
  cases v with
  | notANumber => exact (congrArg (value f) (repack_notANumber f)).ge
  | zero t => exact (congrArg (value f) (repack_notANumber f)).ge
  | infinity t =>
      obtain rfl := positive_of_infinity_nonneg hv
      exact (limit_pos f).le.trans_eq (congrArg (value f) (repack_infinity f .positive)).symm
  | finite t n e hn =>
      obtain rfl := positive_of_value_nonneg hv
      exact (limit_pos f).le.trans_eq (congrArg (value f) (repack_infinity f .positive)).symm

theorem value_mul_infinity_nonneg {f : Format} {u : UnpackedFloat} (hu : 0 ≤ value f u) :
    0 ≤ value f (repack f (u.mul f (.infinity .positive))) := by
  cases u with
  | notANumber => exact (congrArg (value f) (repack_notANumber f)).ge
  | zero t => exact (congrArg (value f) (repack_notANumber f)).ge
  | infinity t =>
      obtain rfl := positive_of_infinity_nonneg hu
      exact (limit_pos f).le.trans_eq (congrArg (value f) (repack_infinity f .positive)).symm
  | finite t n e hn =>
      obtain rfl := positive_of_value_nonneg hu
      exact (limit_pos f).le.trans_eq (congrArg (value f) (repack_infinity f .positive)).symm

theorem real_mul_nonneg (hx : 0 ≤ real x) (hy : 0 ≤ real y) : 0 ≤ real (x * y) := by
  cases hnan : isNaN (x * y) with
  | true => exact (real_of_isNaN hnan).ge
  | false =>
      obtain ⟨hnanx, hnany⟩ := isNaN_of_isNaN_mul hnan
      cases hx' : isFinite x with
      | false =>
          obtain ⟨s, hs⟩ := exists_unpack_eq_infinity hnanx hx'
          rw [real, hs] at hx
          obtain rfl := positive_of_infinity_nonneg hx
          rw [real, unpack_mul, hs]
          exact value_infinity_mul_nonneg hy
      | true =>
          cases hy' : isFinite y with
          | false =>
              obtain ⟨t, ht⟩ := exists_unpack_eq_infinity hnany hy'
              rw [real, ht] at hy
              obtain rfl := positive_of_infinity_nonneg hy
              rw [real, unpack_mul, ht]
              exact value_mul_infinity_nonneg hx
          | true => exact (isRounded_mul hx' hy').real_nonneg (mul_nonneg hx hy)

/-! ## Squares and quotients -/

/-- The square of an infinity is the positive one. -/
theorem real_mul_self_of_infinite (hnan : isNaN x = false) (hx : isFinite x = false) :
    real (x * x) = limit (format α) := by
  obtain ⟨s, hs⟩ := exists_unpack_eq_infinity hnan hx
  rw [real, unpack_mul, hs]
  cases s
  all_goals
    show value _ (repack _ (.infinity .positive)) = _
    rw [repack_infinity]
    rfl

theorem le_real_mul_self {z : α} (hnan : isNaN x = false) (h : real z ≤ real x * real x) :
    real z ≤ real (x * x) := by
  cases hx : isFinite x with
  | true => exact (isRounded_mul hx hx).le_real h
  | false =>
      rw [real_mul_self_of_infinite hnan hx]
      exact (abs_le.mp (abs_real_le z)).2

theorem real_mul_self_nonneg (x : α) : 0 ≤ real (x * x) := by
  cases hnan : isNaN (x * x) with
  | true => exact (real_of_isNaN hnan).ge
  | false =>
      cases hx : isFinite x with
      | true => exact (isRounded_mul hx hx).real_nonneg (mul_self_nonneg _)
      | false =>
          have hsquare := real_mul_self_of_infinite (isNaN_of_isNaN_mul hnan).1 hx
          exact (limit_pos _).le.trans_eq hsquare.symm

/-- A quotient is not below any number that the quotient of the values is not below. -/
theorem le_real_div {z : α} (hnan : isNaN (x / y) = false) (hy : isFinite y = true)
    (hpos : 0 < real y) (hx0 : 0 ≤ real x) (h : real z ≤ real x / real y) :
    real z ≤ real (x / y) := by
  cases hx : isFinite x with
  | true => exact (isRounded_div hx hy hpos.ne').le_real h
  | false =>
      obtain ⟨s, hs⟩ := exists_unpack_eq_infinity (isNaN_of_isNaN_div hnan).1 hx
      rw [real, hs] at hx0
      obtain rfl := positive_of_infinity_nonneg hx0
      have hquotient : unpack (x / y) = .infinity .positive := by
        rw [unpack_div, hs]
        rw [real] at hpos
        rw [isFinite] at hy
        cases huy : unpack y with
        | notANumber => rw [huy] at hy; cases hy
        | infinity t => rw [huy] at hy; cases hy
        | zero t => rw [huy] at hpos; exact absurd hpos (lt_irrefl 0)
        | finite t n e hn =>
            rw [huy] at hpos
            obtain rfl := positive_of_value_nonneg hpos.le
            exact repack_infinity _ _
      have hlimit : real (x / y) = limit (format α) := by
        rw [real, hquotient]
        rfl
      rw [hlimit]
      exact (abs_le.mp (abs_real_le z)).2

end Numeral

end Crater
