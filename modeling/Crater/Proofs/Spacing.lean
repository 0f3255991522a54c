import Crater.Proofs.Nearness
import Crater.Proofs.Sight

/-!
# Spacing

The samples of a side of length `s` are `1 / (2 * s + 1)` of the side apart, and as many
intervals are laid as fit. What is left over is a share of the side. Along `x` and `z` the
grid is moved by half of that share, taken as a length: on a side of one block this
centres the grid, on a longer one it moves it too little and on a shorter one too much.
If the side is shorter than half a block, the last sample leaves it.

Everything is computed in doubles. The reals that a sample is computed from are
followed through their roundings, which together move it by less than `2 ^ (-31)`.
-/

namespace Crater.Exposure

open Rounding Numeral
open Double (Approximates)

/-! ## The grid of a side -/

section
variable {size : Float} (h0 : 0 ≤ real size)
include h0

theorem one_le_divisor (hnan : isNaN (size * 2.0 + 1.0) = false) :
    1 ≤ real (size * 2.0 + 1.0) := by
  have hdouble : 0 ≤ real (size * 2.0) := by
    refine real_mul_nonneg h0 ?_
    rw [Double.real_two]
    norm_num
  have hle := le_real_add_left hnan hdouble
  rwa [Double.real_one] at hle

/-- The share of one length is at most the whole side. It is zero for sides so long that twice their
length is infinite. -/
theorem real_share_le_one : real (1.0 / (size * 2.0 + 1.0)) ≤ 1 := by
  cases hshare : isNaN (1.0 / (size * 2.0 + 1.0)) with
  | true =>
    rw [real_of_isNaN hshare]
    exact zero_le_one
  | false =>
    have hnan := (isNaN_of_isNaN_div hshare).2
    cases hfinite : isFinite (size * 2.0 + 1.0) with
    | false =>
      rw [real_div_of_infinite rfl hnan hfinite]
      exact zero_le_one
    | true =>
      have hone := one_le_divisor h0 hnan
      rw [← Double.real_one]
      refine (Double.isRounded_one_div hfinite (by linarith)).real_le ?_
      rw [Double.real_one, div_le_one (by linarith)]
      exact hone

theorem real_spacing_le_one : real (spacing size) ≤ 1 := by
  rcases Double.max_eq_or (1.0 / (size * 2.0 + 1.0)) (1.0 / maxIntervals) with hmax | hmax
  · rw [spacing, hmax]
    exact real_share_le_one h0
  · rw [spacing, hmax, real_least_spacing]
    norm_num

theorem isFinite_spacing : isFinite (spacing size) = true := by
  have hlow := le_real_spacing size
  have hnan : isNaN (spacing size) = false := isNaN_of_real_ne_zero (by linarith)
  refine isFinite_of_le (x := (1.0 : Float)) rfl hnan (by linarith) ?_
  rw [Double.real_one]
  exact real_spacing_le_one h0

end

structure IsLength (size : Float) : Prop where
  isFinite : isFinite size = true
  pos : 0 < real size
  le : real size ≤ 1000

section
variable {size : Float} (h : IsLength size)
include h

theorem approximates_divisor :
    Approximates (size * 2.0 + 1.0) (real size * 2 + 1) (2 ^ 12 / 2 ^ 53) := by
  have hpos := h.pos
  have hle := h.le
  have hdouble := Approximates.mul 11 (by norm_num) h.isFinite Double.approximates_two
    (by
      rw [abs_of_pos (by positivity)]
      linarith)
  refine (hdouble.add 11 (by norm_num) Double.approximates_one ?_).mono (by norm_num)
  rw [abs_of_pos (by positivity)]
  linarith

theorem one_le_real_divisor : 1 ≤ real (size * 2.0 + 1.0) :=
  one_le_divisor h.pos.le (Numeral.isNaN_of_isFinite (approximates_divisor h).isFinite)

theorem isRounded_share :
    IsRounded (1.0 / (size * 2.0 + 1.0)) (1 / real (size * 2.0 + 1.0)) :=
  Double.isRounded_one_div (approximates_divisor h).isFinite
    (by linarith [one_le_real_divisor h])

/-- **The spacing** is as documented, up to rounding. -/
theorem approximates_spacing :
    Approximates (spacing size) (max (1 / (real size * 2 + 1)) (1 / 32)) (2 ^ 13 / 2 ^ 53) := by
  have hpos := h.pos
  have hone : 1 ≤ real size * 2 + 1 := by linarith
  have hinverse : 1 / (real size * 2 + 1) ≤ 1 := by
    rw [div_le_one (by linarith)]
    exact hone
  have hshare := Approximates.of_isRounded (n := 1) (isRounded_share h) (by norm_num)
    ((Double.abs_one_div_sub_one_div_le (one_le_real_divisor h) hone).trans
      (approximates_divisor h).error_le)
    (by
      rw [abs_of_pos (by positivity)]
      linarith)
  have hleast : Approximates (1.0 / maxIntervals) (1 / 32) 0 := by
    have hexact := Approximates.real_self (show isFinite (1.0 / maxIntervals) = true by rfl)
    rwa [real_least_spacing] at hexact
  exact (hshare.mono (by norm_num)).max (hleast.mono (by norm_num))

end

/-- A spacing with the number of intervals that fit on a side. -/
structure IsGrid (step : Float) (n : ℕ) : Prop where
  isFinite : isFinite step = true
  pos : 0 < real step
  isFinite_intervals : Numeral.isFinite (intervals step) = true
  real_intervals : real (intervals step) = n
  count : (Double.truncate (intervals step)).toNat = n
  one_le : 1 ≤ n
  le : n ≤ 32
  /-- The intervals fit, up to rounding. -/
  fits : n * real step ≤ 1 + 2 ^ 5 / 2 ^ 53

section
variable {step : Float} (hstep : isFinite step = true) (hlow : 1 / 32 ≤ real step)
  (hhigh : real step ≤ 1)
include hstep hlow hhigh

/-- The quotient of which the floor is taken. -/
theorem approximates_quotient : Approximates (1.0 / step) (1 / real step) (2 ^ 5 / 2 ^ 53) ∧
    1 ≤ real (1.0 / step) ∧ real (1.0 / step) ≤ 32 := by
  have hpos : 0 < real step := by linarith
  have hquotient := Double.isRounded_one_div hstep hpos.ne'
  have hle : 1 / real step ≤ 32 := by
    rw [div_le_iff₀ hpos]
    linarith
  have hge : 1 ≤ 1 / real step := by
    rw [le_div_iff₀ hpos]
    linarith
  refine ⟨Double.approximates_of_isRounded hquotient (by norm_num) ?_, ?_, ?_⟩
  · rw [abs_of_pos (by positivity)]
    linarith
  · rw [← Double.real_one]
    exact hquotient.le_real (by rwa [Double.real_one])
  · rw [← real_maxIntervals] at hle ⊢
    exact hquotient.real_le hle

theorem exists_isGrid : ∃ n, IsGrid step n := by
  have hpos : 0 < real step := by linarith
  obtain ⟨hquotient, hone, hle⟩ := approximates_quotient hstep hlow hhigh
  have hfloor : real (intervals step) = ⌊real (1.0 / step)⌋ :=
    Double.real_floor hquotient.isFinite
  obtain ⟨n, hn⟩ := Int.eq_ofNat_of_zero_le
    (Int.floor_nonneg.mpr (by linarith) : 0 ≤ ⌊real (1.0 / step)⌋)
  have hbelow := Int.floor_le (real (1.0 / step))
  have habove := Int.lt_floor_add_one (real (1.0 / step))
  rw [hn, Int.cast_natCast] at hfloor hbelow habove
  have hle : n ≤ 32 := by exact_mod_cast hbelow.trans hle
  have hfinite : isFinite (intervals step) = true :=
    Double.isFinite_of_real_eq_intCast (k := n)
      (Double.isNaN_floor (Numeral.isNaN_of_isFinite hquotient.isFinite))
      (by rw [hfloor, Int.cast_natCast])
      (by
        rw [Nat.abs_cast]
        omega)
  have hcount := Double.toNat_truncate hfinite (by rw [hfloor]; positivity)
    (by
      rw [hfloor]
      linarith)
  rw [hfloor, Int.floor_natCast] at hcount
  refine ⟨n, hstep, hpos, hfinite, hfloor, by exact_mod_cast hcount, ?_, hle, ?_⟩
  · have hpositive : (0 : ℝ) < n := by linarith
    exact_mod_cast hpositive
  · calc n * real step ≤ (1 / real step + 2 ^ 5 / 2 ^ 53) * real step := by
          gcongr
          exact hbelow.trans hquotient.real_le
      _ = 1 + 2 ^ 5 / 2 ^ 53 * real step := by field_simp
      _ ≤ 1 + 2 ^ 5 / 2 ^ 53 := by nlinarith

end

/-- **Some intervals fit on every side**, at most 32 of them. -/
theorem exists_isGrid_spacing {size : Float} (h0 : 0 ≤ real size) :
    ∃ n, IsGrid (spacing size) n :=
  exists_isGrid (isFinite_spacing h0) (le_real_spacing size) (real_spacing_le_one h0)

/-! ## The samples of a side -/

structure IsSide (low high : Float) : Prop where
  isFinite_low : isFinite low = true
  abs_low : |real low| ≤ 1000000
  isFinite_high : isFinite high = true
  abs_high : |real high| ≤ 1000000
  length : IsLength (high - low)

/-- The sample of a side with number `i`, before the grid is moved. -/
def axisPoint (low high : Float) (i : ℕ) : Float :=
  low + (high - low) * (Double.ofNat i * spacing (high - low))

noncomputable def exactPoint (low high : Float) (i : ℕ) : ℝ :=
  real low + real (high - low) * (i * real (spacing (high - low)))

/-- The share of the side that `n` intervals leave over. -/
noncomputable def leftover (low high : Float) (n : ℕ) : ℝ := 1 - n * real (spacing (high - low))

section
variable {low high : Float} (h : IsSide low high)
include h

theorem real_length_bounds : real low + real (high - low) ≤ real high + 1 / 2 ^ 32 ∧
    real high - 1 / 2 ^ 32 ≤ real low + real (high - low) := by
  have hlow := abs_le.mp h.abs_low
  have hhigh := abs_le.mp h.abs_high
  have hlength : Approximates (high - low) (real high - real low) (1 / 2 ^ 32) := by
    refine (Double.approximates_of_isRounded (n := 21)
      (isRounded_sub h.isFinite_high h.isFinite_low) (by norm_num) ?_).mono (by norm_num)
    rw [abs_le]
    constructor <;> linarith
  exact ⟨by linarith [hlength.real_le], by linarith [hlength.le_real]⟩

end

section
variable {low high : Float} {n i : ℕ} (hgrid : IsGrid (spacing (high - low)) n)
include hgrid

theorem mem_axisPoints {x : Float} :
    x ∈ axisPoints low high (spacing (high - low)) ↔ ∃ i ≤ n, axisPoint low high i = x := by
  simp only [axisPoints, axisPoint, hgrid.count, List.mem_map, List.mem_range, Nat.lt_succ_iff]

theorem leftover_bounds : -(2 ^ 5 / 2 ^ 53) ≤ leftover low high n ∧ leftover low high n ≤ 1 := by
  have hfits := hgrid.fits
  have hpos := hgrid.pos
  have hnonneg : 0 ≤ n * real (spacing (high - low)) := by positivity
  unfold leftover
  constructor <;> linarith

theorem share_bounds (hi : i ≤ n) : 0 ≤ i * real (spacing (high - low)) ∧
    i * real (spacing (high - low)) ≤ n * real (spacing (high - low)) := by
  have hpos := hgrid.pos
  exact ⟨by positivity, by gcongr⟩

theorem approximates_centring :
    Approximates (centring (spacing (high - low))) (leftover low high n / 2) (2 ^ 3 / 2 ^ 53) := by
  obtain ⟨hlower, hupper⟩ := leftover_bounds hgrid
  obtain ⟨hnonneg, -⟩ := share_bounds hgrid (le_refl n)
  have hfits := hgrid.fits
  have hproduct := Approximates.mul 1 (by norm_num) hgrid.isFinite_intervals
    (.real_self hgrid.isFinite)
    (by
      rw [hgrid.real_intervals, abs_of_nonneg hnonneg]
      linarith)
  rw [hgrid.real_intervals, mul_zero, add_zero] at hproduct
  have habs : |1 - n * real (spacing (high - low))| ≤ 1 := abs_le.mpr ⟨by linarith, hupper⟩
  have hleft := Double.approximates_one.sub 1 (by norm_num) hproduct (by linarith)
  have hhalf := isRounded_div hleft.isFinite Double.approximates_two.isFinite
    (by
      rw [Double.real_two]
      norm_num)
  rw [Double.real_two] at hhalf
  refine (Approximates.of_isRounded (n := 1) (δ := 2 ^ 2 / 2 ^ 53) hhalf (by norm_num) ?_ ?_).mono
    (by norm_num)
  · have herror := hleft.error_le
    rw [leftover, ← sub_div, abs_div, abs_two]
    linarith
  · rw [leftover, abs_div, abs_two]
    linarith

variable (h : IsSide low high)
include h

theorem exactPoint_bounds (hi : i ≤ n) : real low ≤ exactPoint low high i ∧
    exactPoint low high i ≤ exactPoint low high n ∧
    exactPoint low high n ≤ real low + real (high - low) + 1 / 2 ^ 38 := by
  have hpos := h.length.pos
  have hle := h.length.le
  obtain ⟨hshare, hshare'⟩ := share_bounds hgrid hi
  unfold exactPoint
  refine ⟨?_, ?_, ?_⟩
  · have hpart : 0 ≤ real (high - low) * (i * real (spacing (high - low))) := by positivity
    linarith
  · gcongr
  · have hpart : real (high - low) * (n * real (spacing (high - low))) ≤
        real (high - low) * (1 + 2 ^ 5 / 2 ^ 53) := by
      gcongr
      exact hgrid.fits
    linarith

theorem abs_exactPoint_le (hi : i ≤ n) : |exactPoint low high i| ≤ 1001001 := by
  obtain ⟨hlower, hupper, hlast⟩ := exactPoint_bounds hgrid h hi
  have hlow := abs_le.mp h.abs_low
  have hle := h.length.le
  rw [abs_le]
  constructor <;> linarith

theorem approximates_axisPoint (hi : i ≤ n) :
    Approximates (axisPoint low high i) (exactPoint low high i)
      (2 ^ 20 / 2 ^ 53 + 2 ^ 12 / 2 ^ 53) := by
  have hpos := h.length.pos
  have hle := h.length.le
  have hword : i < 2 ^ 53 := by
    have hmost := hgrid.le
    omega
  obtain ⟨hshare, hshare'⟩ := share_bounds hgrid hi
  have hfits := hgrid.fits
  -- the multiple is below 2, the way from the low end below `2 ^ 11`, the point below `2 ^ 20`
  have hmultiple := Approximates.mul 1 (by norm_num) (Double.isFinite_ofNat hword)
    (.real_self hgrid.isFinite)
    (by
      rw [Double.real_ofNat hword, abs_of_nonneg hshare]
      linarith)
  rw [Double.real_ofNat hword, mul_zero, add_zero] at hmultiple
  have hpart : real (high - low) * (i * real (spacing (high - low))) ≤
      1000 * (1 + 2 ^ 5 / 2 ^ 53) := by
    gcongr
    exact hshare'.trans hfits
  have hway := Approximates.mul 11 (by norm_num) h.length.isFinite hmultiple
    (by
      rw [abs_of_nonneg (by positivity), abs_of_pos hpos]
      linarith)
  rw [abs_of_pos hpos] at hway
  have habs : |real low + real (high - low) * (i * real (spacing (high - low)))| ≤ 1001001 :=
    abs_exactPoint_le hgrid h hi
  exact ((Approximates.real_self h.isFinite_low).add 20 (by norm_num)
    (hway.mono (show _ ≤ (2 ^ 12 / 2 ^ 53 : ℝ) by linarith)) (by linarith)).mono (by linarith)

/-- **Where the samples lie**: at a multiple of the spacing, and moved by half of what is left over of
one, whatever the length of the side. -/
theorem approximates_sample (hi : i ≤ n) :
    Approximates (axisPoint low high i + centring (spacing (high - low)))
      (exactPoint low high i + leftover low high n / 2) (1 / 2 ^ 31) := by
  refine ((approximates_axisPoint hgrid h hi).add 20 (by norm_num) (approximates_centring hgrid)
    ?_).mono (by norm_num)
  obtain ⟨hlower, hupper⟩ := leftover_bounds hgrid
  have hpoint := abs_exactPoint_le hgrid h hi
  have hshift : |leftover low high n / 2| ≤ 1 := by
    rw [abs_le]
    constructor <;> linarith
  linarith [abs_add_le (exactPoint low high i) (leftover low high n / 2)]

end

/-! ## How far samples stick out -/

/-- How far the last sample of a side sticks out, if the side is shorter than half a block. -/
noncomputable def overhang (length : ℝ) : ℝ :=
  length * (1 - (length + length)) / (1 + (length + length))

theorem overhang_le {s : ℝ} (h : 0 ≤ s) : overhang s ≤ 0.0859 := by
  rw [overhang, div_le_iff₀ (by linarith)]
  nlinarith [sq_nonneg (s - 0.207)]

theorem overhang_nonpos {s : ℝ} (h : 1 / 2 ≤ s) : overhang s ≤ 0 := by
  refine div_nonpos_of_nonpos_of_nonneg ?_ (by linarith)
  exact mul_nonpos_of_nonneg_of_nonpos (by linarith) (by linarith)

theorem le_overhang {s : ℝ} (hlow : 1 / 2 ^ 17 ≤ s) (hhigh : s ≤ 0.49995) :
    1 / 2 ^ 18 ≤ overhang s := by
  rw [overhang, le_div_iff₀ (by linarith)]
  nlinarith

/-- Half of what one interval leaves over, less the share of it that belongs to the side. -/
theorem overhang_eq {s : ℝ} (h : 0 ≤ s) :
    overhang s = (1 - 1 / (s * 2 + 1)) * (1 / 2 - s) := by
  rw [overhang]
  field_simp
  ring

theorem lastSample_eq (low high : Float) (n : ℕ) :
    exactPoint low high n + leftover low high n / 2 =
      real low + real (high - low) + leftover low high n * (1 / 2 - real (high - low)) := by
  unfold exactPoint leftover
  ring

section
variable {low high : Float} (h : IsSide low high)
include h

theorem lastSample_le {n : ℕ} (hgrid : IsGrid (spacing (high - low)) n) :
    exactPoint low high n + leftover low high n / 2 ≤
      real low + real (high - low) + max 0 (overhang (real (high - low))) + 1 / 2 ^ 37 := by
  have hpos := h.length.pos
  have hle := h.length.le
  obtain ⟨hlower, -⟩ := leftover_bounds hgrid
  rw [lastSample_eq]
  rcases le_total (1 / 2) (real (high - low)) with hwide | hnarrow
  · have hover : leftover low high n * (1 / 2 - real (high - low)) ≤ 2 ^ 5 / 2 ^ 53 * 1000 := by
      nlinarith
    have hmax := le_max_left 0 (overhang (real (high - low)))
    linarith
  · -- at least one interval fits, so that no more than the rest of one is left over
    have hone := (share_bounds hgrid hgrid.one_le).2
    have hstep := (le_max_left _ _).trans
      (sub_le_iff_le_add.mp (approximates_spacing h.length).le_real)
    rw [Nat.cast_one, one_mul] at hone
    have hover : leftover low high n * (1 / 2 - real (high - low)) ≤
        (1 - 1 / (real (high - low) * 2 + 1) + 2 ^ 13 / 2 ^ 53) * (1 / 2 - real (high - low)) := by
      refine mul_le_mul_of_nonneg_right ?_ (by linarith)
      rw [leftover]
      linarith
    have hmax := le_max_right 0 (overhang (real (high - low)))
    rw [overhang_eq hpos.le] at hmax ⊢
    nlinarith

/-- Samples that are not moved lie on the side. -/
theorem real_mem_axisPoints {x : Float} (hx : x ∈ axisPoints low high (spacing (high - low))) :
    isFinite x = true ∧ real low - 1 / 2 ^ 30 ≤ real x ∧ real x ≤ real high + 1 / 2 ^ 30 := by
  obtain ⟨n, hgrid⟩ := exists_isGrid_spacing h.length.pos.le
  obtain ⟨i, hi, rfl⟩ := (mem_axisPoints hgrid).mp hx
  have hpoint := approximates_axisPoint hgrid h hi
  obtain ⟨hlower, hupper, hlast⟩ := exactPoint_bounds hgrid h hi
  have hends := (real_length_bounds h).1
  exact ⟨hpoint.isFinite, by linarith [hpoint.le_real], by linarith [hpoint.real_le]⟩

/-- Samples that are moved lie on the side but for an overhang. -/
theorem real_mem_centred {x : Float} (hx : x ∈ axisPoints low high (spacing (high - low))) :
    isFinite (x + centring (spacing (high - low))) = true ∧
      real low - 1 / 2 ^ 30 ≤ real (x + centring (spacing (high - low))) ∧
      real (x + centring (spacing (high - low))) ≤
        real high + max 0 (overhang (real (high - low))) + 1 / 2 ^ 30 := by
  obtain ⟨n, hgrid⟩ := exists_isGrid_spacing h.length.pos.le
  obtain ⟨i, hi, rfl⟩ := (mem_axisPoints hgrid).mp hx
  have hsample := approximates_sample hgrid h hi
  obtain ⟨hlower, hupper, -⟩ := exactPoint_bounds hgrid h hi
  have hshift := (leftover_bounds hgrid).1
  have hlast := lastSample_le h hgrid
  have hends := (real_length_bounds h).1
  exact ⟨hsample.isFinite, by linarith [hsample.le_real], by linarith [hsample.real_le]⟩

/-- On a side that is a little shorter than half a block, one sample sticks out. -/
theorem exists_real_centred (hnarrow : real (high - low) ≤ 0.49995) :
    ∃ x ∈ axisPoints low high (spacing (high - low)),
      real high + overhang (real (high - low)) - 1 / 2 ^ 30 ≤
        real (x + centring (spacing (high - low))) := by
  obtain ⟨n, hgrid⟩ := exists_isGrid_spacing h.length.pos.le
  have hpos := h.length.pos
  have hspacing := approximates_spacing h.length
  have hwide : 1 / 1.9999 ≤ 1 / (real (high - low) * 2 + 1) :=
    one_div_le_one_div_of_le (by linarith) (by linarith)
  rw [max_eq_left (le_trans (by norm_num) hwide)] at hspacing
  have hlower := hspacing.le_real
  have hupper := hspacing.real_le
  -- one interval is more than half of the side, so no other fits
  have hstep : 0.50001 ≤ real (spacing (high - low)) := by
    refine le_trans ?_ ((sub_le_sub_right hwide _).trans hlower)
    norm_num
  obtain rfl : n = 1 := by
    refine le_antisymm (not_lt.mp ?_) hgrid.one_le
    intro hmore
    have hmore : (2 : ℝ) ≤ n := by exact_mod_cast hmore
    have hfits := hgrid.fits
    nlinarith
  have hover : (1 - 1 / (real (high - low) * 2 + 1) - 2 ^ 13 / 2 ^ 53) *
      (1 / 2 - real (high - low)) ≤ leftover low high 1 * (1 / 2 - real (high - low)) := by
    refine mul_le_mul_of_nonneg_right ?_ (by linarith)
    rw [leftover, Nat.cast_one, one_mul]
    linarith
  have hsample := (approximates_sample hgrid h (le_refl 1)).le_real
  have hends := (real_length_bounds h).2
  refine ⟨_, (mem_axisPoints hgrid).mpr ⟨1, le_rfl, rfl⟩, ?_⟩
  rw [lastSample_eq] at hsample
  rw [overhang_eq hpos.le]
  nlinarith

end

end Crater.Exposure
