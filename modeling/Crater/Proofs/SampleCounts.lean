import Crater.Proofs.Samples

/-!
# Counting samples

Exactly the boxes with finite corners and positive sides are sampled, however short or long
the sides are. A side that is too short to show in the spacing gets the two samples at its
ends, and one that is longer than every double gets 33. So there is always a number to divide
by, and the share of the samples in sight is a number from zero to one.
-/

namespace Crater.Exposure

open Rounding Numeral

/-! ## Which boxes are sampled -/

structure IsSampleable (bounds : Box) : Prop where
  isFinite_min : bounds.min.isFinite = true
  isFinite_max : bounds.max.isFinite = true
  x : bounds.size.x > 0.0
  y : bounds.size.y > 0.0
  z : bounds.size.z > 0.0

theorem isSampleable_of_samplePoints {bounds : Box} {points : List Vec3}
    (h : samplePoints bounds = some points) : IsSampleable bounds := by
  obtain ⟨⟨hmin, hmax⟩, ⟨hx, hy, hz⟩, -⟩ := samplePoints_eq h
  obtain ⟨⟨hminx, hminy⟩, hminz⟩ := Vec3.isFinite_iff.mp hmin
  obtain ⟨⟨hmaxx, hmaxy⟩, hmaxz⟩ := Vec3.isFinite_iff.mp hmax
  have hpos : ∀ {low high : Float}, isFinite low = true → isFinite high = true →
      ¬ high - low ≤ 0.0 → high - low > 0.0 := by
    intro low high hlow hhigh hnot
    -- the length may be infinite, but it is a number
    have hnan := (isRounded_sub hhigh hlow).isNaN
    rw [Numeral.le_iff, Double.real_zero, and_iff_right ⟨hnan, rfl⟩, not_le] at hnot
    exact (Double.pos_iff hnan).mpr hnot
  exact ⟨hmin, hmax, hpos hminx hmaxx hx, hpos hminy hmaxy hy, hpos hminz hmaxz hz⟩

/-- Positive sides have spacings that can be used, however short or long they are. -/
theorem isFinite_and_pos_spacing {size : Float} (h : size > 0.0) :
    isFinite (spacing size) = true ∧ spacing size > 0.0 := by
  have hfinite := isFinite_spacing (Double.real_pos_of_gt h).le
  have hlow := le_real_spacing size
  exact ⟨hfinite, (Double.pos_iff (Numeral.isNaN_of_isFinite hfinite)).mpr (by linarith)⟩

theorem isSome_samplePoints {bounds : Box} (h : IsSampleable bounds) :
    (samplePoints bounds).isSome = true := by
  have hside : ∀ {size : Float}, size > 0.0 →
      ¬ size < 0.0 ∧ ¬ size ≤ 0.0 ∧ isFinite (spacing size) = true ∧ spacing size > 0.0 := by
    intro size hsize
    have hpos := Double.real_pos_of_gt hsize
    refine ⟨?_, ?_, isFinite_and_pos_spacing hsize⟩
    · intro hlt
      have hneg := (Numeral.lt_iff.mp hlt).2
      rw [Double.real_zero] at hneg
      linarith
    · intro hle
      have hneg := (Numeral.le_iff.mp hle).2
      rw [Double.real_zero] at hneg
      linarith
  obtain ⟨hx, hx', hstepx, hposx⟩ := hside h.x
  obtain ⟨hy, hy', hstepy, hposy⟩ := hside h.y
  obtain ⟨hz, hz', hstepz, hposz⟩ := hside h.z
  have hstep : Vec3.isFinite ⟨spacing bounds.size.x, spacing bounds.size.y,
      spacing bounds.size.z⟩ = true := Vec3.isFinite_iff.mpr ⟨⟨hstepx, hstepy⟩, hstepz⟩
  simp only [samplePoints, Box.isDegenerate, h.isFinite_min, h.isFinite_max, hx, hx', hy, hy', hz,
    hz', hstep, hposx, hposy, hposz, Bool.and_self, Bool.not_true, decide_false, decide_true,
    Bool.or_self, Bool.false_eq_true, if_false, if_true, Option.isSome_some]

theorem samplePoints_eq_none_iff (bounds : Box) :
    samplePoints bounds = none ↔ ¬ IsSampleable bounds := by
  constructor
  · intro hnone hbox
    have hsome := isSome_samplePoints hbox
    rw [hnone] at hsome
    cases hsome
  · intro hnot
    cases h : samplePoints bounds with
    | none => rfl
    | some points => exact absurd (isSampleable_of_samplePoints h) hnot

/-- A side is positive if its ends are in order, even if they are neighbours or their difference
is too large for a double. -/
theorem side_pos_iff {low high : Float} (hlow : isFinite low = true) (hhigh : isFinite high = true) :
    high - low > 0.0 ↔ low < high := by
  rw [Double.pos_iff (isRounded_sub hhigh hlow).isNaN, Double.real_sub_pos_iff hlow hhigh,
    Numeral.lt_iff (x := low), and_iff_right]
  exact ⟨Numeral.isNaN_of_isFinite hlow, Numeral.isNaN_of_isFinite hhigh⟩

/-! ## How many samples there are -/

theorem IsGrid.length_axisPoints {step : Float} {n : ℕ} (h : IsGrid step n) (low high : Float) :
    (axisPoints low high step).length = n + 1 := by
  rw [axisPoints, List.length_map, List.length_range, h.count]

/-- A box sampled on a grid with `nx`, `ny` and `nz` intervals along its sides. -/
structure IsCounted (bounds : Box) (points : List Vec3) (nx ny nz : ℕ) : Prop where
  x : IsGrid (spacing bounds.size.x) nx
  y : IsGrid (spacing bounds.size.y) ny
  z : IsGrid (spacing bounds.size.z) nz
  length : points.length = (nx + 1) * (ny + 1) * (nz + 1)

theorem exists_isCounted {bounds : Box} {points : List Vec3}
    (h : samplePoints bounds = some points) : ∃ nx ny nz, IsCounted bounds points nx ny nz := by
  have hbox := isSampleable_of_samplePoints h
  obtain ⟨nx, hx⟩ := exists_isGrid_spacing (Double.real_pos_of_gt hbox.x).le
  obtain ⟨ny, hy⟩ := exists_isGrid_spacing (Double.real_pos_of_gt hbox.y).le
  obtain ⟨nz, hz⟩ := exists_isGrid_spacing (Double.real_pos_of_gt hbox.z).le
  obtain ⟨-, -, rfl⟩ := samplePoints_eq h
  refine ⟨nx, ny, nz, hx, hy, hz, ?_⟩
  simp only [List.length_flatMap, List.length_map, List.map_const', List.sum_replicate,
    smul_eq_mul, hx.length_axisPoints, hy.length_axisPoints, hz.length_axisPoints, mul_assoc]

theorem IsCounted.length_bounds {bounds : Box} {points : List Vec3} {nx ny nz : ℕ}
    (h : IsCounted bounds points nx ny nz) : 8 ≤ points.length ∧ points.length ≤ 35937 := by
  have hx := h.x.one_le
  have hy := h.y.one_le
  have hz := h.z.one_le
  have hx' := h.x.le
  have hy' := h.y.le
  have hz' := h.z.le
  rw [h.length]
  constructor
  · calc 8 = (1 + 1) * (1 + 1) * (1 + 1) := rfl
      _ ≤ (nx + 1) * (ny + 1) * (nz + 1) := by gcongr
  · calc (nx + 1) * (ny + 1) * (nz + 1) ≤ (32 + 1) * (32 + 1) * (32 + 1) := by gcongr
      _ = 35937 := rfl

/-! ## The share in sight -/

/-- The share of samples in sight is the quotient of two exact counts, rounded once. -/
theorem fraction_of_samplePoints {bounds : Box} {points : List Vec3}
    (h : samplePoints bounds = some points) (hpos : 0 < points.length)
    (hword : points.length < 2 ^ 53) (blocked : SightBlock) (origin : Vec3) :
    fraction blocked origin bounds =
        Double.ofNat (points.countP fun p => !blocked origin p) / Double.ofNat points.length ∧
      IsRounded (fraction blocked origin bounds)
        ((points.countP fun p => !blocked origin p : ℕ) / (points.length : ℝ)) := by
  have hsome : points.isEmpty = false := by
    cases points with
    | nil => cases hpos
    | cons p rest => rfl
  have hquotient : fraction blocked origin bounds =
      Double.ofNat (points.countP fun p => !blocked origin p) / Double.ofNat points.length := by
    simp only [fraction, h, hsome, Bool.false_eq_true, if_false]
  have hcount : (points.countP fun p => !blocked origin p) < 2 ^ 53 :=
    List.countP_le_length.trans_lt hword
  have hne : real (Double.ofNat points.length) ≠ 0 := by
    rw [Double.real_ofNat hword]
    exact_mod_cast hpos.ne'
  have hrounded := isRounded_div (Double.isFinite_ofNat hcount) (Double.isFinite_ofNat hword) hne
  rw [Double.real_ofNat hcount, Double.real_ofNat hword, ← hquotient] at hrounded
  exact ⟨hquotient, hrounded⟩

/-- What sampling a box comes to, and what share of it can be seen. -/
structure IsMeasured (bounds : Box) : Prop where
  none_iff : samplePoints bounds = none ↔
    ¬ (bounds.min.isFinite = true ∧ bounds.max.isFinite = true) ∨
      ¬ (bounds.size.x > 0.0 ∧ bounds.size.y > 0.0 ∧ bounds.size.z > 0.0)
  side_iff : bounds.min.isFinite = true → bounds.max.isFinite = true →
    (bounds.size.x > 0.0 ↔ bounds.min.x < bounds.max.x) ∧
    (bounds.size.y > 0.0 ↔ bounds.min.y < bounds.max.y) ∧
    (bounds.size.z > 0.0 ↔ bounds.min.z < bounds.max.z)
  counted : ∀ points, samplePoints bounds = some points →
    ∃ nx ny nz, IsCounted bounds points nx ny nz ∧ 8 ≤ points.length ∧ points.length ≤ 35937
  /-- The share is a number from zero to one, whatever stands in the way. -/
  share : ∀ blocked origin,
    0.0 ≤ fraction blocked origin bounds ∧ fraction blocked origin bounds ≤ 1.0
  unseen : samplePoints bounds = none → ∀ blocked origin, fraction blocked origin bounds = 0.0
  seen : ∀ points, samplePoints bounds = some points → ∀ blocked origin,
    fraction blocked origin bounds =
        Double.ofNat (points.countP fun p => !blocked origin p) / Double.ofNat points.length ∧
      IsRounded (fraction blocked origin bounds)
        ((points.countP fun p => !blocked origin p : ℕ) / (points.length : ℝ))

/-- **Sampling is defined and bounded for every box**, and so is exposure. -/
theorem isMeasured (bounds : Box) : IsMeasured bounds where
  none_iff := by
    rw [samplePoints_eq_none_iff, ← not_and_or, not_iff_not]
    constructor
    · intro h
      exact ⟨⟨h.isFinite_min, h.isFinite_max⟩, h.x, h.y, h.z⟩
    · rintro ⟨⟨hmin, hmax⟩, hx, hy, hz⟩
      exact ⟨hmin, hmax, hx, hy, hz⟩
  side_iff := by
    intro hmin hmax
    obtain ⟨⟨hminx, hminy⟩, hminz⟩ := Vec3.isFinite_iff.mp hmin
    obtain ⟨⟨hmaxx, hmaxy⟩, hmaxz⟩ := Vec3.isFinite_iff.mp hmax
    exact ⟨side_pos_iff hminx hmaxx, side_pos_iff hminy hmaxy, side_pos_iff hminz hmaxz⟩
  counted := by
    intro points h
    obtain ⟨nx, ny, nz, hcounted⟩ := exists_isCounted h
    exact ⟨nx, ny, nz, hcounted, hcounted.length_bounds⟩
  share := by
    intro blocked origin
    have hrises : Rises (fraction blocked origin bounds) 1.0 := (rises_fraction bounds le_rfl).2
    refine ⟨Numeral.le_iff.mpr ⟨⟨rfl, hrises.isNaN_left⟩, ?_⟩, hrises.not_above⟩
    rw [Double.real_zero]
    exact hrises.nonneg
  unseen := by
    intro hnone blocked origin
    rw [fraction, hnone]
  seen := by
    intro points h blocked origin
    obtain ⟨nx, ny, nz, hcounted⟩ := exists_isCounted h
    obtain ⟨hleast, hmost⟩ := hcounted.length_bounds
    exact fraction_of_samplePoints h (by omega) (by omega) blocked origin

/-- The sides of this cube are as short as sides can be. -/
example : (samplePoints ⟨.zero, .splat 5e-324⟩).map List.length = some 8 := by decide +kernel

end Crater.Exposure
