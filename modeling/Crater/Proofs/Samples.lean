import Crater.Proofs.Spacing

/-!
# Samples

A box is sampled on the grids of its sides. Heights are taken from the grid as it is; along
`x` and `z` the grid is moved. So samples lie in the box, up to rounding, but for the last
ones along a horizontal side that is shorter than half a block.
-/

namespace Crater.Exposure

open Rounding Numeral
open Double (Approximates)

/-! ## The ends of a side -/

/-- What a box that is inflated and asked whether it contains a point compares on one axis. -/
def Within (amount low high x : Float) : Prop := low - amount ≤ x ∧ x ≤ high + amount

theorem contains_inflate_iff {bounds : Box} {amount : Float} {p : Vec3} :
    (bounds.inflate amount).contains p = true ↔
      Within amount bounds.min.x bounds.max.x p.x ∧ Within amount bounds.min.y bounds.max.y p.y ∧
        Within amount bounds.min.z bounds.max.z p.z := by
  simp only [Box.contains, Bool.and_eq_true, decide_eq_true_eq, Within, and_assoc]
  rfl

section
variable {low high amount x : Float} (h : IsSide low high)
  (hamount : isFinite amount = true) (h0 : 0 ≤ real amount) (h1 : real amount ≤ 1)
include h hamount h0 h1

theorem approximates_inflated :
    Approximates (low - amount) (real low - real amount) (1 / 2 ^ 32) ∧
      Approximates (high + amount) (real high + real amount) (1 / 2 ^ 32) := by
  have hlow := abs_le.mp h.abs_low
  have hhigh := abs_le.mp h.abs_high
  constructor
  · refine (Double.approximates_of_isRounded (n := 20) (isRounded_sub h.isFinite_low hamount)
      (by norm_num) ?_).mono (by norm_num)
    rw [abs_le]
    constructor <;> linarith
  · refine (Double.approximates_of_isRounded (n := 20) (isRounded_add h.isFinite_high hamount)
      (by norm_num) ?_).mono (by norm_num)
    rw [abs_le]
    constructor <;> linarith

theorem below_of_real (hx : isFinite x = true)
    (hlow : real low - real amount + 1 / 2 ^ 32 ≤ real x) : low - amount ≤ x :=
  (approximates_inflated h hamount h0 h1).1.le (.real_self hx) (by rwa [sub_zero])

theorem above_of_real (hx : isFinite x = true)
    (hhigh : real x ≤ real high + real amount - 1 / 2 ^ 32) : x ≤ high + amount :=
  (Approximates.real_self hx).le (approximates_inflated h hamount h0 h1).2 (by rwa [add_zero])

theorem not_within_of_real (hhigh : real high + real amount + 1 / 2 ^ 32 < real x) :
    ¬ Within amount low high x := by
  rintro ⟨-, habove⟩
  have hend := (approximates_inflated h hamount h0 h1).2
  have hle := (Numeral.le_iff.mp habove).2
  linarith [hend.real_le]

end

theorem real_millionth : 1 / 2 ^ 20 ≤ real (1e-6 : Float) ∧ real (1e-6 : Float) ≤ 1 / 2 ^ 19 := by
  rw [Double.real_eq_mul 4722366482869645 (-72) (by decide) rfl]
  norm_num

theorem real_nineHundredths : 0.0899 ≤ real (0.09 : Float) ∧ real (0.09 : Float) ≤ 1 := by
  rw [Double.real_eq_mul 6485183463413514 (-56) (by decide) rfl]
  norm_num

theorem real_half : real (0.5 : Float) = 1 / 2 := by
  rw [Double.real_eq_mul 4503599627370496 (-53) (by decide) rfl]
  norm_num

theorem real_thousand : real (1000.0 : Float) = 1000 := by
  rw [Double.real_eq_mul 8796093022208000 (-43) (by decide) rfl]
  norm_num

theorem real_million : real (1000000.0 : Float) = 1000000 := by
  rw [Double.real_eq_mul 8589934592000000 (-33) (by decide) rfl]
  norm_num

theorem le_real_sliver : 1 / 2 ^ 17 ≤ real (0.00001 : Float) := by
  rw [Double.real_eq_mul 5902958103587057 (-69) (by decide) rfl]
  norm_num

theorem real_almostHalf_le : real (0.4999 : Float) ≤ 0.49995 := by
  rw [Double.real_eq_mul 9005397814890044 (-54) (by decide) rfl]
  norm_num

/-! ## The sides of a box -/

theorem samplePoints_eq {bounds : Box} {points : List Vec3}
    (h : samplePoints bounds = some points) :
    (bounds.min.isFinite = true ∧ bounds.max.isFinite = true) ∧
    (¬ bounds.size.x ≤ 0.0 ∧ ¬ bounds.size.y ≤ 0.0 ∧ ¬ bounds.size.z ≤ 0.0) ∧
    points = (axisPoints bounds.min.x bounds.max.x (spacing bounds.size.x)).flatMap fun x =>
      (axisPoints bounds.min.y bounds.max.y (spacing bounds.size.y)).flatMap fun y =>
        ((axisPoints bounds.min.z bounds.max.z (spacing bounds.size.z)).map
          (· + centring (spacing bounds.size.z))).map fun z =>
            ⟨x + centring (spacing bounds.size.x), y, z⟩ := by
  rw [samplePoints] at h
  dsimp only at h
  split at h
  · cases h
  · next hdegenerate =>
    split at h
    · cases h
    · next hsides =>
      split at h
      · obtain rfl := Option.some.inj h
        simp only [Box.isDegenerate, Bool.or_eq_true, not_or, Bool.not_eq_true',
          Bool.not_eq_false, Bool.and_eq_true, decide_eq_true_eq] at hdegenerate hsides
        exact ⟨hdegenerate.1.1.1, ⟨hsides.1.1, hsides.1.2, hsides.2⟩, rfl⟩
      · cases h

/-- Ends of at most a million, at most a thousand apart. -/
structure IsModest (low high : Float) : Prop where
  abs_low : low.abs ≤ 1000000.0
  abs_high : high.abs ≤ 1000000.0
  length : high - low ≤ 1000.0

theorem IsModest.isSide {low high : Float} (h : IsModest low high) (hlow : isFinite low = true)
    (hhigh : isFinite high = true) (hpos : ¬ high - low ≤ 0.0) : IsSide low high := by
  have habs : |real low| ≤ 1000000 := by
    rw [← Double.real_abs, ← real_million]
    exact (Numeral.le_iff.mp h.abs_low).2
  have habs' : |real high| ≤ 1000000 := by
    rw [← Double.real_abs, ← real_million]
    exact (Numeral.le_iff.mp h.abs_high).2
  have hfinite : isFinite (high - low) = true := by
    have hlow' := abs_le.mp habs
    have hhigh' := abs_le.mp habs'
    refine Double.isFinite_of_isRounded (n := 21) (isRounded_sub hhigh hlow) (by norm_num) ?_
    rw [abs_le]
    constructor <;> norm_num <;> linarith
  refine ⟨hlow, habs, hhigh, habs', hfinite, ?_, ?_⟩
  · rw [Numeral.le_iff, Double.real_zero, and_iff_right ⟨Numeral.isNaN_of_isFinite hfinite, rfl⟩,
      not_le] at hpos
    exact hpos
  · rw [← real_thousand]
    exact (Numeral.le_iff.mp h.length).2

/-- Where a sample of a side lies that is moved to centre the grid. -/
structure IsCentred (low high x : Float) : Prop where
  below : low - 1e-6 ≤ x
  wide : 0.5 ≤ high - low → Within 1e-6 low high x
  near : Within 0.09 low high x

section
variable {low high x : Float} (h : IsSide low high)
  (hx : x ∈ axisPoints low high (spacing (high - low)))
include h hx

theorem within_of_mem {amount : Float} (hamount : isFinite amount = true)
    (hmore : 1 / 2 ^ 20 ≤ real amount) (hless : real amount ≤ 1) : Within amount low high x := by
  obtain ⟨hfinite, hlow, hhigh⟩ := real_mem_axisPoints h hx
  exact ⟨below_of_real h hamount (by linarith) hless hfinite (by linarith),
    above_of_real h hamount (by linarith) hless hfinite (by linarith)⟩

theorem isCentred_of_mem : IsCentred low high (x + centring (spacing (high - low))) := by
  obtain ⟨hmore, hless⟩ := real_millionth
  obtain ⟨hmore', hless'⟩ := real_nineHundredths
  obtain ⟨hfinite, hlow, hhigh⟩ := real_mem_centred h hx
  have hbelow : low - 1e-6 ≤ x + centring (spacing (high - low)) :=
    below_of_real h rfl (by linarith) (by linarith) hfinite (by linarith)
  refine ⟨hbelow, ?_, ?_⟩
  · intro hwide
    have hwide := (Numeral.le_iff.mp hwide).2
    rw [real_half] at hwide
    rw [max_eq_left (overhang_nonpos hwide)] at hhigh
    exact ⟨hbelow, above_of_real h rfl (by linarith) (by linarith) hfinite (by linarith)⟩
  · have hover : max 0 (overhang (real (high - low))) ≤ 0.0859 :=
      max_le (by norm_num) (overhang_le h.length.pos.le)
    exact ⟨below_of_real h rfl (by linarith) hless' hfinite (by linarith),
      above_of_real h rfl (by linarith) hless' hfinite (by linarith)⟩

end

/-- Whether a side is shorter than half a block, and neither by so little nor so short that a sample
would stick out by less than a millionth. -/
def IsNarrow (low high : Float) : Prop := 0.00001 ≤ high - low ∧ high - low ≤ 0.4999

theorem exists_not_within {low high : Float} (h : IsSide low high) (hnarrow : IsNarrow low high) :
    ∃ x ∈ axisPoints low high (spacing (high - low)),
      ¬ Within 1e-6 low high (x + centring (spacing (high - low))) := by
  obtain ⟨hmore, hless⟩ := real_millionth
  have hsliver := le_real_sliver.trans (Numeral.le_iff.mp hnarrow.1).2
  have hnarrow := (Numeral.le_iff.mp hnarrow.2).2.trans real_almostHalf_le
  obtain ⟨x, hx, hout⟩ := exists_real_centred h hnarrow
  have hover := le_overhang hsliver hnarrow
  exact ⟨x, hx, not_within_of_real h rfl (by linarith) (by linarith) (by linarith)⟩

/-! ## All samples of a box -/

section
variable {bounds : Box} {points : List Vec3} (h : samplePoints bounds = some points)
include h

theorem mem_samplePoints {p : Vec3} :
    p ∈ points ↔
      (∃ x ∈ axisPoints bounds.min.x bounds.max.x (spacing bounds.size.x),
        x + centring (spacing bounds.size.x) = p.x) ∧
      p.y ∈ axisPoints bounds.min.y bounds.max.y (spacing bounds.size.y) ∧
      ∃ z ∈ axisPoints bounds.min.z bounds.max.z (spacing bounds.size.z),
        z + centring (spacing bounds.size.z) = p.z := by
  obtain ⟨-, -, rfl⟩ := samplePoints_eq h
  simp only [List.mem_flatMap, List.mem_map]
  constructor
  · rintro ⟨x, hx, y, hy, _, ⟨z, hz, rfl⟩, rfl⟩
    exact ⟨⟨x, hx, rfl⟩, hy, z, hz, rfl⟩
  · rintro ⟨⟨x, hx, hpx⟩, hy, z, hz, hpz⟩
    refine ⟨x, hx, p.y, hy, _, ⟨z, hz, rfl⟩, ?_⟩
    rw [hpx, hpz]

/-- Every sample of a side is a coordinate of a sample of the box. -/
theorem exists_sample : ∃ p : Vec3,
    (∀ x ∈ axisPoints bounds.min.x bounds.max.x (spacing bounds.size.x),
      { p with x := x + centring (spacing bounds.size.x) } ∈ points) ∧
    ∀ z ∈ axisPoints bounds.min.z bounds.max.z (spacing bounds.size.z),
      { p with z := z + centring (spacing bounds.size.z) } ∈ points := by
  have hfirst : ∀ low high step : Float, ∃ x, x ∈ axisPoints low high step :=
    fun low high step => List.exists_mem_of_ne_nil _ (by simp [axisPoints])
  obtain ⟨x, hx⟩ := hfirst bounds.min.x bounds.max.x (spacing bounds.size.x)
  obtain ⟨y, hy⟩ := hfirst bounds.min.y bounds.max.y (spacing bounds.size.y)
  obtain ⟨z, hz⟩ := hfirst bounds.min.z bounds.max.z (spacing bounds.size.z)
  refine ⟨⟨x + centring (spacing bounds.size.x), y, z + centring (spacing bounds.size.z)⟩, ?_, ?_⟩
  · intro x hx
    exact (mem_samplePoints h).mpr ⟨⟨x, hx, rfl⟩, hy, z, hz, rfl⟩
  · intro z hz
    exact (mem_samplePoints h).mpr ⟨⟨x, hx, rfl⟩, hy, z, hz, rfl⟩

end

structure HasSides (bounds : Box) : Prop where
  x : IsSide bounds.min.x bounds.max.x
  y : IsSide bounds.min.y bounds.max.y
  z : IsSide bounds.min.z bounds.max.z

theorem hasSides_of_samplePoints {bounds : Box} {points : List Vec3}
    (h : samplePoints bounds = some points) (hx : IsModest bounds.min.x bounds.max.x)
    (hy : IsModest bounds.min.y bounds.max.y) (hz : IsModest bounds.min.z bounds.max.z) :
    HasSides bounds := by
  obtain ⟨⟨hmin, hmax⟩, ⟨hposx, hposy, hposz⟩, -⟩ := samplePoints_eq h
  obtain ⟨⟨hminx, hminy⟩, hminz⟩ := Vec3.isFinite_iff.mp hmin
  obtain ⟨⟨hmaxx, hmaxy⟩, hmaxz⟩ := Vec3.isFinite_iff.mp hmax
  constructor
  · exact hx.isSide hminx hmaxx hposx
  · exact hy.isSide hminy hmaxy hposy
  · exact hz.isSide hminz hmaxz hposz

section
variable {bounds : Box} {points : List Vec3} (h : samplePoints bounds = some points)
  (hsides : HasSides bounds)
include h hsides

theorem isCentred_x : ∀ p ∈ points, IsCentred bounds.min.x bounds.max.x p.x := by
  intro p hp
  obtain ⟨⟨x, hx, hpx⟩, -, -⟩ := (mem_samplePoints h).mp hp
  rw [← hpx]
  exact isCentred_of_mem hsides.x hx

theorem isCentred_z : ∀ p ∈ points, IsCentred bounds.min.z bounds.max.z p.z := by
  intro p hp
  obtain ⟨-, -, z, hz, hpz⟩ := (mem_samplePoints h).mp hp
  rw [← hpz]
  exact isCentred_of_mem hsides.z hz

theorem within_y {amount : Float} (hamount : isFinite amount = true)
    (hmore : 1 / 2 ^ 20 ≤ real amount) (hless : real amount ≤ 1) :
    ∀ p ∈ points, Within amount bounds.min.y bounds.max.y p.y := by
  intro p hp
  exact within_of_mem hsides.y ((mem_samplePoints h).mp hp).2.1 hamount hmore hless

theorem exists_not_contains
    (hnarrow : IsNarrow bounds.min.x bounds.max.x ∨ IsNarrow bounds.min.z bounds.max.z) :
    ∃ p ∈ points, (bounds.inflate 1e-6).contains p = false := by
  obtain ⟨p, hallx, hallz⟩ := exists_sample h
  rcases hnarrow with hnarrow | hnarrow
  · obtain ⟨x, hmem, hout⟩ := exists_not_within hsides.x hnarrow
    refine ⟨_, hallx x hmem, ?_⟩
    rw [← Bool.not_eq_true, contains_inflate_iff]
    intro hall
    exact hout hall.1
  · obtain ⟨z, hmem, hout⟩ := exists_not_within hsides.z hnarrow
    refine ⟨_, hallz z hmem, ?_⟩
    rw [← Bool.not_eq_true, contains_inflate_iff]
    intro hall
    exact hout hall.2.2

end

/-- Where the samples of a box lie. -/
structure IsSampled (bounds : Box) (points : List Vec3) : Prop where
  x : ∀ p ∈ points, IsCentred bounds.min.x bounds.max.x p.x
  y : ∀ p ∈ points, Within 1e-6 bounds.min.y bounds.max.y p.y
  z : ∀ p ∈ points, IsCentred bounds.min.z bounds.max.z p.z
  inside : 0.5 ≤ bounds.size.x → 0.5 ≤ bounds.size.z →
    ∀ p ∈ points, (bounds.inflate 1e-6).contains p = true
  near : ∀ p ∈ points, (bounds.inflate 0.09).contains p = true
  outside : IsNarrow bounds.min.x bounds.max.x ∨ IsNarrow bounds.min.z bounds.max.z →
    ∃ p ∈ points, (bounds.inflate 1e-6).contains p = false

/-- **Samples and the box that they sample.** Heights never leave the box. Along `x` and `z` no
sample leaves a side of at least half a block. From a shorter one a sample sticks out at the upper
end, by less than nine hundredths of a block. -/
theorem isSampled_samplePoints {bounds : Box} {points : List Vec3}
    (h : samplePoints bounds = some points) (hx : IsModest bounds.min.x bounds.max.x)
    (hy : IsModest bounds.min.y bounds.max.y) (hz : IsModest bounds.min.z bounds.max.z) :
    IsSampled bounds points := by
  have hsides := hasSides_of_samplePoints h hx hy hz
  have hcentredx := isCentred_x h hsides
  have hcentredz := isCentred_z h hsides
  obtain ⟨hmore, hless⟩ := real_millionth
  obtain ⟨hmore', hless'⟩ := real_nineHundredths
  have hwithin : ∀ p ∈ points, Within 1e-6 bounds.min.y bounds.max.y p.y :=
    within_y h hsides rfl hmore (by linarith)
  refine ⟨hcentredx, hwithin, hcentredz, ?_, ?_, exists_not_contains h hsides⟩
  · intro hwidex hwidez p hp
    exact contains_inflate_iff.mpr
      ⟨(hcentredx p hp).wide hwidex, hwithin p hp, (hcentredz p hp).wide hwidez⟩
  · intro p hp
    exact contains_inflate_iff.mpr
      ⟨(hcentredx p hp).near, within_y h hsides rfl (by linarith) hless' p hp,
        (hcentredz p hp).near⟩

def playerBox : Box := .ofFeet .zero 0.6 1.8

def quarterCube : Box := ⟨.zero, .splat 0.25⟩

theorem isSampled_playerBox : ∃ points, samplePoints playerBox = some points ∧
    (0.5 ≤ playerBox.size.x ∧ 0.5 ≤ playerBox.size.z) ∧
    IsModest playerBox.min.x playerBox.max.x ∧ IsModest playerBox.min.y playerBox.max.y ∧
    IsModest playerBox.min.z playerBox.max.z ∧ IsSampled playerBox points := by
  have hx : IsModest playerBox.min.x playerBox.max.x :=
    ⟨by decide +kernel, by decide +kernel, by decide +kernel⟩
  have hy : IsModest playerBox.min.y playerBox.max.y :=
    ⟨by decide +kernel, by decide +kernel, by decide +kernel⟩
  have hz : IsModest playerBox.min.z playerBox.max.z :=
    ⟨by decide +kernel, by decide +kernel, by decide +kernel⟩
  obtain ⟨points, hpoints⟩ := Option.isSome_iff_exists.mp
    (show (samplePoints playerBox).isSome = true by decide +kernel)
  exact ⟨points, hpoints, ⟨by decide +kernel, by decide +kernel⟩, hx, hy, hz,
    isSampled_samplePoints hpoints hx hy hz⟩

/-- Samples of a small cube lie outside of it. -/
theorem not_contains_quarterCube : ∃ points, samplePoints quarterCube = some points ∧
    IsModest quarterCube.min.x quarterCube.max.x ∧ IsModest quarterCube.min.y quarterCube.max.y ∧
    IsModest quarterCube.min.z quarterCube.max.z ∧
    ∃ p ∈ points, (quarterCube.inflate 1e-6).contains p = false := by
  have hside : IsModest 0.0 0.25 := ⟨by decide +kernel, by decide +kernel, by decide +kernel⟩
  obtain ⟨points, hpoints⟩ := Option.isSome_iff_exists.mp
    (show (samplePoints quarterCube).isSome = true by decide +kernel)
  have hout : ((samplePoints quarterCube).any fun points =>
      points.any fun p => !(quarterCube.inflate 1e-6).contains p) = true := by decide +kernel
  rw [hpoints, Option.any_some] at hout
  obtain ⟨p, hp, hcontains⟩ := List.any_eq_true.mp hout
  exact ⟨points, hpoints, hside, hside, hside, p, hp, by simpa using hcontains⟩

end Crater.Exposure
