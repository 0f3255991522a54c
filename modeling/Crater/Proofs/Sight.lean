import Crater.Proofs.Path
import Crater.Proofs.Reach
import Crater.Proofs.Rising

/-!
# Sight

The cubes on the line between two points do not depend on what stands in them:
`walk` lists them, and a search along the line finds the first of them that
blocks. So whatever blocks more positions blocks every line that was blocked
before.

The points at which a body is sampled depend on the body alone, and there are at
most 33 on a side. Counts of them are exact as doubles, and of two counts the
smaller gives the smaller share.
-/

namespace Crater

open Rounding Numeral

/-! ## Walks -/

namespace Cursor

variable {α : Type} [Scalar α]

/-- The cubes of a walk, from the one it is in to the end of the segment. -/
def walk (c : Cursor α) : List Position :=
  c.position ::
    match h : c.next? with
    | none => []
    | some d =>
      have := ahead_lt_of_next? h
      walk d
termination_by c.ahead

theorem walk_of_none {c : Cursor α} (h : c.next? = none) : c.walk = [c.position] := by
  rw [walk]
  split
  · rfl
  · next hnext => cases h.symm.trans hnext

theorem walk_of_some {c d : Cursor α} (h : c.next? = some d) : c.walk = c.position :: d.walk := by
  rw [walk]
  split
  · next hnext => cases h.symm.trans hnext
  · next hnext =>
    cases h.symm.trans hnext
    rfl

theorem walk_eq_map_hits (c : Cursor α) : c.walk = c.hits.map SegmentHit.position := by
  induction c using walk_induction with
  | ends c h =>
    rw [walk_of_none h, hits_of_none h]
    rfl
  | goes c d h ih =>
    rw [walk_of_some h, hits_of_some h, ih]
    rfl

/-- **A search finds the first cube on the walk that blocks.** -/
theorem search_eq_find (blocking : Position → Bool) (c : Cursor α) :
    (Id.run (c.searchM fun p => pure (blocking p))).map SegmentHit.position =
      c.walk.find? blocking := by
  rw [searchM_eq_findM, findM?_eq_find?, walk_eq_map_hits, List.find?_map]
  rfl

end Cursor

namespace Segment

/-- The cubes on the line between two points; none if a point is not finite. -/
def walk (start stop : Vec3) : List Position :=
  match cursor? start stop with
  | none => []
  | some c => c.walk

/-- A line is blocked if a cube on it blocks. -/
theorem isBlocked_iff {start stop : Vec3} {blocking : Position → Bool} :
    isBlocked start stop blocking = true ↔ ∃ p ∈ walk start stop, blocking p = true := by
  have hfind : (firstHit start stop blocking).map SegmentHit.position =
      (walk start stop).find? blocking := by
    rw [firstHit, firstHitM, walk]
    cases cursor? start stop with
    | none => rfl
    | some c => exact c.search_eq_find blocking
  rw [isBlocked, ← Option.isSome_map (f := SegmentHit.position), hfind, List.find?_isSome]

end Segment

/-- Whether every position that blocks in one world blocks in another. -/
def World.CoveredBy (w w' : World) : Prop :=
  ∀ p, (w.blockAt p).collision = true → (w'.blockAt p).collision = true

/-- **More cover blocks more lines.** -/
theorem World.CoveredBy.blocksSight {w w' : World} (h : w.CoveredBy w') {start stop : Vec3}
    (hblocked : w.blocksSight start stop = true) : w'.blocksSight start stop = true := by
  obtain ⟨p, hp, hsolid⟩ := Segment.isBlocked_iff.mp hblocked
  exact Segment.isBlocked_iff.mpr ⟨p, hp, h p hsolid⟩

/-! ## Samples -/

namespace Double

/-- Counts that are not astronomical are doubles. -/
theorem real_ofNat {n : ℕ} (hn : n < 2 ^ 53) : real (ofNat n) = n := by
  have hword : n.toUInt64.toNat = n := UInt64.toNat_ofNat_of_lt (hn.trans (by norm_num))
  rw [ofNat, real_toFloat (by rwa [hword]), hword]

theorem isFinite_ofNat {n : ℕ} (hn : n < 2 ^ 53) : isFinite (ofNat n) = true :=
  isFinite_of_real_eq_intCast (k := n) (isRounded_toFloat _).isNaN (real_ofNat hn)
    (by rw [Nat.abs_cast]; exact_mod_cast hn)

theorem rises_ofNat {m n : ℕ} (h : m ≤ n) (hn : n < 2 ^ 53) : Rises (ofNat m) (ofNat n) := by
  refine ⟨(isRounded_toFloat _).isNaN, (isRounded_toFloat _).isNaN, ?_, ?_⟩
  · rw [real_ofNat (h.trans_lt hn)]
    positivity
  · rw [real_ofNat (h.trans_lt hn), real_ofNat hn]
    exact_mod_cast h

theorem truncate_le {x : Float} {n : ℕ} (hx : isFinite x = true) (h0 : 0 ≤ real x)
    (h : real x ≤ n) (hn : n < 2 ^ 53) : (truncate x).toNat ≤ n := by
  have hn' : (n : ℝ) < 2 ^ 53 := by exact_mod_cast hn
  have hword := toNat_toUInt64 hx h0 (by linarith)
  have hfloor : ⌊real x⌋ ≤ n := by exact_mod_cast (Int.floor_le (real x)).trans h
  rw [truncate, if_neg ((lt_zero_iff hx).not.mpr (not_lt.mpr h0))]
  omega

end Double

namespace Exposure

theorem real_maxIntervals : real maxIntervals = 32 := by
  rw [real_of_unpack (u := .finite .positive (2 ^ 52) (-47) (by decide)) rfl]
  norm_num [value, Float.Model.UnpackedFloat.Sign.apply]

theorem real_least_spacing : real ((1.0 : Float) / maxIntervals) = 1 / 32 := by
  rw [real_of_unpack (u := .finite .positive (2 ^ 52) (-57) (by decide)) rfl]
  norm_num [value, Float.Model.UnpackedFloat.Sign.apply]

/-- The spacing of samples is at least one part in 32. -/
theorem le_real_spacing (size : Float) : 1 / 32 ≤ real (spacing size) := by
  rw [spacing, Double.max]
  split
  · exact real_least_spacing.ge
  · next hnumber =>
    rw [if_neg (by decide)]
    split
    · exact real_least_spacing.ge
    · next hnot =>
      rw [Numeral.lt_iff, real_least_spacing] at hnot
      have hnan : isNaN (1.0 / (size * 2.0 + 1.0)) = false := by
        rw [← Bool.not_eq_true]
        exact hnumber
      exact not_lt.mp fun hlt => hnot ⟨⟨hnan, rfl⟩, hlt⟩

/-- At most 32 intervals fit on a side. -/
theorem rises_intervals {step : Float} (hstep : isFinite step = true) (h : 1 / 32 ≤ real step) :
    Rises (intervals step) maxIntervals := by
  have hquotient := isRounded_div (show isFinite (1.0 : Float) = true by rfl) hstep (by linarith)
  rw [Double.real_one] at hquotient
  have hexact : 1 / real step ≤ real maxIntervals := by
    rw [real_maxIntervals, div_le_iff₀ (by linarith)]
    linarith
  have hrises : Rises (1.0 / step) maxIntervals :=
    ⟨hquotient.isNaN, rfl, hquotient.real_nonneg (by positivity), hquotient.real_le hexact⟩
  exact Double.rises_floor hrises

theorem length_axisPoints_le {step : Float} (hstep : isFinite step = true)
    (h : 1 / 32 ≤ real step) (low high : Float) : (axisPoints low high step).length ≤ 33 := by
  have hrises := rises_intervals hstep h
  have hle : real (intervals step) ≤ (32 : ℕ) := by
    rw [Nat.cast_ofNat, ← real_maxIntervals]
    exact hrises.le
  rw [axisPoints, List.length_map, List.length_range]
  exact Nat.succ_le_succ
    (Double.truncate_le (hrises.isFinite_left rfl) hrises.nonneg hle (by norm_num))

def points (bounds : Box) : List Vec3 := (samplePoints bounds).getD []

def inSight (blocked : SightBlock) (origin : Vec3) (bounds : Box) : Nat :=
  (points bounds).countP fun p => !blocked origin p

theorem length_points_le (bounds : Box) : (points bounds).length ≤ 33 * (33 * 33) := by
  rw [points, samplePoints]
  dsimp only
  split
  · exact Nat.zero_le _
  · split
    · exact Nat.zero_le _
    · split
      · next hstep =>
        simp only [Bool.and_eq_true] at hstep
        obtain ⟨⟨hx, hy⟩, hz⟩ := Vec3.isFinite_iff.mp hstep.1.1.1
        have hxs := length_axisPoints_le hx (le_real_spacing _) bounds.min.x bounds.max.x
        have hys := length_axisPoints_le hy (le_real_spacing _) bounds.min.y bounds.max.y
        have hzs := length_axisPoints_le hz (le_real_spacing _) bounds.min.z bounds.max.z
        simp only [Option.getD_some, List.length_flatMap, List.length_map, List.map_const',
          List.sum_replicate, smul_eq_mul]
        exact Nat.mul_le_mul hxs (Nat.mul_le_mul hys hzs)
      · exact Nat.zero_le _

theorem fraction_eq (blocked : SightBlock) (origin : Vec3) (bounds : Box) :
    fraction blocked origin bounds =
      if (points bounds).isEmpty then 0.0
      else Double.ofNat (inSight blocked origin bounds) / Double.ofNat (points bounds).length := by
  rw [fraction, inSight, points]
  cases samplePoints bounds with
  | none => rfl
  | some points => rfl

section
variable {blocked blocked' : SightBlock} {origin : Vec3} (bounds : Box)

theorem inSight_le_length : inSight blocked origin bounds ≤ (points bounds).length :=
  List.countP_le_length

/-- **The smaller count gives the smaller share.** -/
theorem rises_fraction
    (h : inSight blocked' origin bounds ≤ inSight blocked origin bounds) :
    Rises (fraction blocked' origin bounds) (fraction blocked origin bounds) ∧
      Rises (fraction blocked origin bounds) 1.0 := by
  rw [fraction_eq, fraction_eq]
  split
  · have hzero : Rises (0.0 : Float) 0.0 := .refl rfl Double.real_zero.ge
    have hone : real (0.0 : Float) ≤ real (1.0 : Float) := by
      rw [Double.real_zero, Double.real_one]
      exact zero_le_one
    exact ⟨hzero, rfl, rfl, hzero.nonneg, hone⟩
  · next hsome =>
    have hpoints : (points bounds).length < 2 ^ 53 :=
      (length_points_le bounds).trans_lt (by norm_num)
    have hcount : inSight blocked origin bounds ≤ (points bounds).length :=
      inSight_le_length bounds
    have hpos : (0 : ℝ) < (points bounds).length := by
      exact_mod_cast List.length_pos_iff.mpr fun hnil => hsome (by rw [hnil]; rfl)
    rw [← Double.real_ofNat hpoints] at hpos
    have hfinite := Double.isFinite_ofNat hpoints
    have hfinite' := Double.isFinite_ofNat (hcount.trans_lt hpoints)
    have hshare := isRounded_div hfinite' hfinite hpos.ne'
    have hrises := Double.rises_ofNat h (hcount.trans_lt hpoints)
    refine ⟨hrises.div_right hfinite' hfinite hpos, hshare.isNaN, rfl, ?_, ?_⟩
    · exact (hrises.div_right hfinite' hfinite hpos).right.nonneg
    · refine hshare.real_le ?_
      rw [Double.real_one, div_le_one hpos]
      exact (Double.rises_ofNat hcount hpoints).le

end

end Exposure

end Crater
