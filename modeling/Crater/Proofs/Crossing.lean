import Crater.Proofs.Path
import Mathlib.Algebra.Order.Field.Rat
import Mathlib.Algebra.Order.Floor.Ring
import Mathlib.Data.Rat.Floor
import Mathlib.Order.WithBot
import Mathlib.Tactic.FieldSimp
import Mathlib.Tactic.Linarith

/-!
# Crossings

The walk of a segment with exact arithmetic. At each moment, the cube that the
walk is in and the two ends tell when its next plane is reached: what the walk
adds up from plane to plane is what it would compute afresh. So the walk stays
with the segment. It enters each cube when the segment first meets it, and
leaves out none whose inside the segment passes through.
-/

namespace Crater

instance : Scalar ℚ where
  zero := 0
  one := 1
  below a b := a < b
  ofInt n := n

/-! ## One axis -/

/-- Whether a coordinate lies in the slab of the cubes with coordinate `n`, its faces included. -/
def InSlab (n : ℤ) (x : ℚ) : Prop := n ≤ x ∧ x ≤ n + 1

namespace Lane

/-- When the next plane is reached; never, if the segment does not move along the axis. -/
def crossing (lane : Lane ℚ) : WithTop ℚ := lane.next

theorem isBefore_iff {a b : Lane ℚ} : a.isBefore b = true ↔ a.crossing < b.crossing := by
  unfold isBefore crossing
  rcases a.next with _ | s <;> rcases b.next with _ | t
  · exact iff_of_false Bool.false_ne_true (lt_irrefl (⊤ : WithTop ℚ))
  · exact iff_of_false Bool.false_ne_true not_top_lt
  · exact iff_of_true rfl (WithTop.coe_lt_top s)
  · exact decide_eq_true_iff.trans WithTop.coe_lt_coe.symm

variable {n : ℤ} {o d s t : ℚ}

theorem crossing_eq {lane : Lane ℚ} (h : lane.next = some t) : lane.crossing = t := h

theorem start_of_pos (h : 0 < d) : start n o d =
    ⟨n, (Double.maxCoordinate - n).toNat, true, some (((n + 1 : ℤ) - o) / d), 1 / d⟩ :=
  if_pos (decide_eq_true h)

theorem start_of_neg (h : d < 0) : start n o d =
    ⟨n, (n - Double.minCoordinate).toNat, false, some ((n - o) / d), -1 / d⟩ :=
  (if_neg (by simpa [Scalar.below, Scalar.zero] using h.le)).trans (if_pos (decide_eq_true h))

theorem start_of_zero : start n o (0 : ℚ) = ⟨n, 0, true, none, 0⟩ := by
  simp [start, Scalar.below, Scalar.zero]

/-- A plane is crossed upward at the upper face of a cube and downward at its lower face. -/
theorem next_start_cases (h : (start n o d).next = some t) :
    (0 < d ∧ (start n o d).direction = 1 ∧ o + t * d = n + 1) ∨
      (d < 0 ∧ (start n o d).direction = -1 ∧ o + t * d = n) := by
  rcases lt_trichotomy d 0 with hd | rfl | hd
  · rw [start_of_neg hd] at h ⊢
    obtain rfl := Option.some.inj h
    refine .inr ⟨hd, rfl, ?_⟩
    rw [div_mul_cancel₀ _ hd.ne, add_sub_cancel]
  · rw [start_of_zero] at h
    cases h
  · rw [start_of_pos hd] at h ⊢
    obtain rfl := Option.some.inj h
    refine .inl ⟨hd, rfl, ?_⟩
    rw [div_mul_cancel₀ _ hd.ne', add_sub_cancel]
    push_cast
    rfl

/-- **What a walk adds up is exact**: behind a plane, it is what it would be if it had started
there. -/
theorem cross_start (h : (start n o d).next = some t) :
    (start n o d).cross t = start (n + (start n o d).direction) o d := by
  rcases next_start_cases h with ⟨hd, hdirection, hplane⟩ | ⟨hd, hdirection, hplane⟩
  · rw [hdirection, start_of_pos hd, start_of_pos hd, cross, mk.injEq]
    refine ⟨rfl, by simp only; omega, rfl, ?_, rfl⟩
    refine congrArg some ?_
    show t + 1 / d = (((n + 1 + 1 : ℤ) : ℚ) - o) / d
    rw [eq_div_iff hd.ne', add_mul, div_mul_cancel₀ _ hd.ne']
    push_cast
    linarith
  · rw [hdirection, start_of_neg hd, start_of_neg hd, cross, mk.injEq]
    refine ⟨rfl, by simp only; omega, rfl, ?_, rfl⟩
    refine congrArg some ?_
    show t + -1 / d = (((n + -1 : ℤ) : ℚ) - o) / d
    rw [eq_div_iff hd.ne, add_mul, div_mul_cancel₀ _ hd.ne]
    push_cast
    linarith

/-- From a moment in a slab on, a segment is in the slab until it reaches the next plane. -/
theorem le_crossing_start_iff (hst : s ≤ t) (hs : InSlab n (o + s * d)) :
    (t : WithTop ℚ) ≤ (start n o d).crossing ↔ InSlab n (o + t * d) := by
  obtain ⟨hlow, hhigh⟩ := hs
  rcases lt_trichotomy d 0 with hd | rfl | hd
  · have hback : t * d ≤ s * d := mul_le_mul_of_nonpos_right hst hd.le
    rw [start_of_neg hd, crossing_eq rfl, WithTop.coe_le_coe, le_div_iff_of_neg hd]
    constructor
    · intro h
      exact ⟨by linarith, by linarith⟩
    · rintro ⟨h, -⟩
      linarith
  · rw [mul_zero] at hlow hhigh
    rw [start_of_zero, mul_zero]
    exact iff_of_true le_top ⟨hlow, hhigh⟩
  · have hforth : s * d ≤ t * d := mul_le_mul_of_nonneg_right hst hd.le
    rw [start_of_pos hd, crossing_eq rfl, WithTop.coe_le_coe, le_div_iff₀ hd]
    push_cast
    constructor
    · intro h
      exact ⟨by linarith, by linarith⟩
    · rintro ⟨-, h⟩
      linarith

/-- The slab behind a plane is entered when the plane is reached, and not before. -/
theorem isLeast_crossing (h : (start n o d).next = some t) :
    IsLeast {s | InSlab (n + (start n o d).direction) (o + s * d)} t := by
  rcases next_start_cases h with ⟨hd, hdirection, hplane⟩ | ⟨hd, hdirection, hplane⟩
  · rw [hdirection]
    constructor
    · constructor <;> push_cast <;> linarith
    · rintro s ⟨hlow, -⟩
      push_cast at hlow
      exact le_of_mul_le_mul_right (by linarith) hd
  · rw [hdirection]
    constructor
    · constructor <;> push_cast <;> linarith
    · rintro s ⟨-, hhigh⟩
      push_cast at hhigh
      exact (mul_le_mul_right_of_neg hd).mp (by linarith)

/-- A plane is crossed before it leads out of the coordinate range. -/
theorem ahead_start_pos (h : (start n o d).next = some t) (ht : t < 1)
    (hlow : (Double.minCoordinate : ℚ) ≤ o + d) (hhigh : o + d < Double.maxCoordinate + 1) :
    0 < (start n o d).ahead := by
  rcases next_start_cases h with ⟨hd, -, hplane⟩ | ⟨hd, -, hplane⟩
  · have hbehind : t * d < d := mul_lt_of_lt_one_left hd ht
    have hcell : (n : ℚ) < Double.maxCoordinate := by linarith
    rw [start_of_pos hd]
    exact Int.pos_iff_toNat_pos.mp (sub_pos.mpr (by exact_mod_cast hcell))
  · have hbehind : d < t * d := lt_mul_of_lt_one_left hd ht
    have hcell : (Double.minCoordinate : ℚ) < n := by linarith
    rw [start_of_neg hd]
    exact Int.pos_iff_toNat_pos.mp (sub_pos.mpr (by exact_mod_cast hcell))

end Lane

/-! ## Segments and cubes -/

def Segment.pointAt (start stop : Axis → ℚ) (t : ℚ) : Axis → ℚ :=
  fun axis => start axis + t * (stop axis - start axis)

/-- Whether a point lies in a cube that has coordinates. -/
def Segment.InRange (point : Axis → ℚ) : Prop :=
  ∀ axis, (Double.minCoordinate : ℚ) ≤ point axis ∧ point axis < Double.maxCoordinate + 1

namespace Position

/-- The cube of a point, as `Position.containing` reads it: numbers beyond the coordinate range
stop at its ends. -/
def holding (point : Axis → ℚ) : Position :=
  let coordinate axis := max Double.minCoordinate (min Double.maxCoordinate ⌊point axis⌋)
  ⟨coordinate .x, coordinate .y, coordinate .z⟩

def cube (p : Position) : Set (Axis → ℚ) := {point | ∀ axis, InSlab (p.along axis) (point axis)}

/-- The points of a cube that lie on none of its faces. -/
def interior (p : Position) : Set (Axis → ℚ) :=
  {point | ∀ axis, (p.along axis : ℚ) < point axis ∧ point axis < p.along axis + 1}

theorem mem_cube_holding {point : Axis → ℚ} (h : Segment.InRange point) :
    point ∈ (holding point).cube := by
  intro axis
  have hlow : Double.minCoordinate ≤ ⌊point axis⌋ := Int.le_floor.mpr (h axis).1
  have hhigh : ⌊point axis⌋ ≤ Double.maxCoordinate :=
    Int.lt_add_one_iff.mp (Int.floor_lt.mpr (by exact_mod_cast (h axis).2))
  have hcell : (holding point).along axis = ⌊point axis⌋ := by
    have hclamp : max Double.minCoordinate (min Double.maxCoordinate ⌊point axis⌋) =
        ⌊point axis⌋ := by
      rw [min_eq_right hhigh, max_eq_right hlow]
    cases axis <;> exact hclamp
  rw [hcell]
  exact ⟨Int.floor_le _, (Int.lt_floor_add_one _).le⟩

/-- A point inside one cube lies in no other. -/
theorem eq_of_mem_interior {p q : Position} {point : Axis → ℚ} (hp : point ∈ p.interior)
    (hq : point ∈ q.cube) : p = q := by
  refine ext_along fun axis => ?_
  obtain ⟨hlow, hhigh⟩ := hp axis
  obtain ⟨hlow', hhigh'⟩ := hq axis
  have hle : (p.along axis : ℚ) < q.along axis + 1 := hlow.trans_le hhigh'
  have hge : (q.along axis : ℚ) < p.along axis + 1 := hlow'.trans_lt hhigh
  exact le_antisymm (Int.lt_add_one_iff.mp (by exact_mod_cast hle))
    (Int.lt_add_one_iff.mp (by exact_mod_cast hge))

end Position

/-! ## All axes -/

namespace Cursor

/-- The walk from `start` to `stop` with exact arithmetic, at its first cube. -/
def exact (start stop : Axis → ℚ) : Cursor ℚ :=
  .start (.holding start) start fun axis => stop axis - start axis

theorem crossing_nextAxis_le (c : Cursor ℚ) (axis : Axis) :
    (c.lane c.nextAxis).crossing ≤ (c.lane axis).crossing := by
  unfold nextAxis
  split
  · next hx =>
    rw [Bool.and_eq_true, Lane.isBefore_iff, Lane.isBefore_iff] at hx
    cases axis with
    | x => exact le_rfl
    | y => exact hx.1.le
    | z => exact hx.2.le
  · next hx =>
    rw [Bool.and_eq_true, Lane.isBefore_iff, Lane.isBefore_iff, not_and_or, not_lt, not_lt] at hx
    split
    · next hy =>
      rw [Lane.isBefore_iff] at hy
      cases axis with
      | x => exact hx.elim id hy.le.trans
      | y => exact le_rfl
      | z => exact hy.le
    · next hy =>
      rw [Lane.isBefore_iff, not_lt] at hy
      cases axis with
      | x => exact hx.elim hy.trans id
      | y => exact hy
      | z => exact le_rfl

/-- The fractions at which a segment is in a cube. -/
def meeting (start stop : Axis → ℚ) (p : Position) : Set ℚ :=
  {t | 0 ≤ t ∧ t ≤ 1 ∧ Segment.pointAt start stop t ∈ p.cube}

variable {start stop : Axis → ℚ}

/-- Where a walk is while it goes along a segment: it knows when the next planes are reached, and it
has entered the cube that it is in at the moment at which the segment first meets it. -/
structure OnLine (start stop : Axis → ℚ) (c : Cursor ℚ) : Prop where
  lane : ∀ axis, c.lane axis =
    .start (c.position.along axis) (start axis) (stop axis - start axis)
  before : c.t < 1
  first : IsLeast (meeting start stop c.position) c.t

theorem onLine_exact (h : Segment.InRange start) : OnLine start stop (exact start stop) := by
  have hposition : (exact start stop).position = .holding start := position_start _ _ _
  constructor
  · intro axis
    rw [hposition]
    exact lane_start _ _ _ _
  · exact zero_lt_one
  · rw [hposition]
    constructor
    · refine ⟨le_rfl, zero_le_one, ?_⟩
      have hpoint : Segment.pointAt start stop 0 = start := by
        funext axis
        rw [Segment.pointAt, zero_mul, add_zero]
      exact hpoint.symm ▸ Position.mem_cube_holding h
    · rintro t ⟨h0, -, -⟩
      exact h0

namespace OnLine

variable {c d : Cursor ℚ} {s t : ℚ}

/-- **The segment stays in a cube until the walk leaves it.** -/
theorem le_crossing_iff (h : OnLine start stop c) (hs : c.t ≤ s) :
    (s : WithTop ℚ) ≤ (c.lane c.nextAxis).crossing ↔
      Segment.pointAt start stop s ∈ c.position.cube := by
  obtain ⟨-, -, hentry⟩ := h.first.1
  have haxis : ∀ axis, (s : WithTop ℚ) ≤ (c.lane axis).crossing ↔
      InSlab (c.position.along axis) (Segment.pointAt start stop s axis) := by
    intro axis
    rw [h.lane axis]
    exact Lane.le_crossing_start_iff hs (hentry axis)
  constructor
  · intro hle axis
    exact (haxis axis).mp (hle.trans (c.crossing_nextAxis_le axis))
  · intro hcube
    exact (haxis c.nextAxis).mpr (hcube c.nextAxis)

/-- **A step enters the next cube when the segment does.** -/
theorem next? (h : OnLine start stop c) (hd : c.next? = some d) : OnLine start stop d := by
  obtain ⟨t, ht, hbefore, -, rfl⟩ := next?_eq_some_iff.mp hd
  have hlane := h.lane c.nextAxis
  have hnext : (Lane.start (c.position.along c.nextAxis) (start c.nextAxis)
    (stop c.nextAxis - start c.nextAxis)).next = some t := hlane ▸ ht
  have hct : c.t ≤ t := by
    have := (h.le_crossing_iff le_rfl).mpr h.first.1.2.2
    rw [Lane.crossing_eq ht] at this
    exact WithTop.coe_le_coe.mp this
  -- when the plane is reached, the segment is still in the cube that it is about to leave
  have hcube : Segment.pointAt start stop t ∈ c.position.cube :=
    (h.le_crossing_iff hct).mp (Lane.crossing_eq ht).ge
  constructor
  · intro axis
    rw [lane_cross, position_cross, Position.along_shift]
    split
    · next hsame =>
      rw [hsame, hlane, Lane.cross_start hnext]
    · exact h.lane axis
  · rw [t_cross]
    exact of_decide_eq_true hbefore
  · rw [t_cross, position_cross, hlane]
    obtain ⟨hentered, hfirst⟩ := Lane.isLeast_crossing hnext
    constructor
    · refine ⟨h.first.1.1.trans hct, (of_decide_eq_true hbefore : t < 1).le, ?_⟩
      intro axis
      rw [Position.along_shift]
      split
      · next hsame =>
        rw [hsame]
        exact hentered
      · exact hcube axis
    · -- before that it is on the near side of the plane
      rintro s ⟨-, -, hs⟩
      have haxis := hs c.nextAxis
      rw [Position.along_shift, if_pos rfl] at haxis
      exact hfirst haxis

/-- A walk ends where the segment does. -/
theorem one_le_crossing (h : OnLine start stop c) (hstop : Segment.InRange stop)
    (hnone : c.next? = none) : (1 : WithTop ℚ) ≤ (c.lane c.nextAxis).crossing := by
  by_contra hlt
  obtain ⟨t, ht⟩ := WithTop.ne_top_iff_exists.mp (not_le.mp hlt).ne_top
  have hnext : (c.lane c.nextAxis).next = some t := ht.symm
  have hbefore : t < 1 := by
    rw [← ht, not_le] at hlt
    exact_mod_cast hlt
  have hahead : 0 < (c.lane c.nextAxis).ahead := by
    rw [h.lane] at hnext ⊢
    obtain ⟨hlow, hhigh⟩ := hstop c.nextAxis
    exact Lane.ahead_start_pos hnext hbefore (by rwa [add_sub_cancel]) (by rwa [add_sub_cancel])
  have hsome := next?_eq_some_iff.mpr ⟨t, hnext, decide_eq_true hbefore, hahead, rfl⟩
  rw [hnone] at hsome
  cases hsome

/-- Each cube of the path of a walk is entered when the segment first meets it, before the end. -/
theorem of_mem_hits (h : OnLine start stop c) {hit : SegmentHit ℚ} (hhit : hit ∈ c.hits) :
    hit.t < 1 ∧ IsLeast (meeting start stop hit.position) hit.t := by
  induction c using walk_induction with
  | ends c hnone =>
    rw [hits_of_none hnone] at hhit
    obtain rfl := List.mem_singleton.mp hhit
    exact ⟨h.before, h.first⟩
  | goes c d hd ih =>
    rw [hits_of_some hd] at hhit
    rcases List.mem_cons.mp hhit with rfl | hhit
    · exact ⟨h.before, h.first⟩
    · exact ih (h.next? hd) hhit

/-- A walk comes to each cube whose inside the segment passes through from here on. -/
theorem mem_hits (h : OnLine start stop c) (hstop : Segment.InRange stop) {p : Position}
    (hs : c.t ≤ s) (hs1 : s ≤ 1) (hp : Segment.pointAt start stop s ∈ p.interior) :
    p ∈ c.hits.map SegmentHit.position := by
  induction c using walk_induction with
  | ends c hnone =>
    rw [hits_of_none hnone]
    have hle : (s : WithTop ℚ) ≤ (c.lane c.nextAxis).crossing :=
      (WithTop.coe_le_coe.mpr hs1).trans (h.one_le_crossing hstop hnone)
    have hcube := (h.le_crossing_iff hs).mp hle
    exact List.mem_singleton.mpr (Position.eq_of_mem_interior hp hcube)
  | goes c d hd ih =>
    rw [hits_of_some hd, List.map_cons, List.mem_cons]
    -- the point is in the cube that the walk is in, or comes after the walk has left it
    by_cases hle : (s : WithTop ℚ) ≤ (c.lane c.nextAxis).crossing
    · exact .inl (Position.eq_of_mem_interior hp ((h.le_crossing_iff hs).mp hle))
    · obtain ⟨t, ht, -, -, rfl⟩ := next?_eq_some_iff.mp hd
      rw [Lane.crossing_eq ht, WithTop.coe_le_coe, not_le] at hle
      refine .inr (ih (h.next? hd) ?_)
      rw [t_cross]
      exact hle.le

end OnLine

/-- Whether a walk comes to a cube in which the segment ends, with no plane left to cross. -/
inductive Arrives : Cursor ℚ → Prop
  | here {c : Cursor ℚ} (ends : ∀ axis, 1 ≤ (c.lane axis).crossing) : Arrives c
  | onward {c d : Cursor ℚ} (goes : c.next? = some d) (rest : Arrives d) : Arrives c

theorem OnLine.arrives {c : Cursor ℚ} (h : OnLine start stop c) (hstop : Segment.InRange stop) :
    c.Arrives := by
  induction c using walk_induction with
  | ends c hnone =>
    refine .here fun axis => ?_
    exact (h.one_le_crossing hstop hnone).trans (c.crossing_nextAxis_le axis)
  | goes c d hd ih => exact .onward hd (ih (h.next? hd))

end Cursor

namespace Segment

open Cursor (meeting)

def exactHit (start stop : Axis → ℚ) (blocking : Position → Bool) : Option (SegmentHit ℚ) :=
  Id.run ((Cursor.exact start stop).searchM fun p => pure (blocking p))

/-- What the exact walk of a segment does: it ends with the segment, all cubes that it visits and
no others are asked about, each of them when the segment first meets it, and it visits all cubes
whose inside the segment passes through. -/
structure IsComplete (start stop : Axis → ℚ) : Prop where
  arrives : (Cursor.exact start stop).Arrives
  asks : ∀ (m : Type → Type) [Monad m] (blocking : Position → m Bool),
    (Cursor.exact start stop).searchM blocking =
      (Cursor.exact start stop).hits.findM? fun hit => blocking hit.position
  visits : ∀ hit ∈ (Cursor.exact start stop).hits,
    hit.t < 1 ∧ IsLeast (meeting start stop hit.position) hit.t
  covers : ∀ p t, 0 ≤ t → t ≤ 1 → pointAt start stop t ∈ p.interior →
    p ∈ (Cursor.exact start stop).hits.map SegmentHit.position
  blocked : ∀ blocking p t, blocking p = true → 0 ≤ t → t ≤ 1 →
    pointAt start stop t ∈ p.interior → (exactHit start stop blocking).isSome = true
  reached : ∀ blocking hit, exactHit start stop blocking = some hit → blocking hit.position = true ∧
    0 ≤ hit.t ∧ hit.t < 1 ∧ IsLeast (meeting start stop hit.position) hit.t
  beyond : ∀ p, IsLeast (meeting start stop p) 1 →
    p ∉ (Cursor.exact start stop).hits.map SegmentHit.position

variable {start stop : Axis → ℚ}

theorem exactHit_eq_find? (blocking : Position → Bool) : exactHit start stop blocking =
    (Cursor.exact start stop).hits.find? fun hit => blocking hit.position := by
  rw [exactHit, Cursor.searchM_eq_findM, findM?_eq_find?]

/-- **With exact arithmetic, the walk of a segment is geometrically complete**, for all ends in
cubes that have coordinates. -/
theorem isComplete_of_inRange (hstart : InRange start) (hstop : InRange stop) :
    IsComplete start stop := by
  have honline : Cursor.OnLine start stop (Cursor.exact start stop) := Cursor.onLine_exact hstart
  have hcovers : ∀ p t, 0 ≤ t → t ≤ 1 → pointAt start stop t ∈ p.interior →
      p ∈ (Cursor.exact start stop).hits.map SegmentHit.position := by
    intro p t h0 h1 hp
    exact honline.mem_hits hstop h0 h1 hp
  constructor
  case arrives => exact honline.arrives hstop
  case asks =>
    intro m _ blocking
    exact Cursor.searchM_eq_findM blocking _
  case visits =>
    intro hit hhit
    exact honline.of_mem_hits hhit
  case covers => exact hcovers
  case blocked =>
    intro blocking p t hblocks h0 h1 hp
    obtain ⟨hit, hhit, rfl⟩ := List.mem_map.mp (hcovers p t h0 h1 hp)
    rw [exactHit_eq_find?, List.find?_isSome]
    exact ⟨hit, hhit, hblocks⟩
  case reached =>
    intro blocking hit hfound
    rw [exactHit_eq_find?] at hfound
    obtain ⟨hbefore, hfirst⟩ := honline.of_mem_hits (List.mem_of_find?_eq_some hfound)
    have hblocks := List.find?_some hfound
    exact ⟨hblocks, hfirst.1.1, hbefore, hfirst⟩
  case beyond =>
    intro p hlast hp
    obtain ⟨hit, hhit, rfl⟩ := List.mem_map.mp hp
    obtain ⟨hbefore, hfirst⟩ := honline.of_mem_hits hhit
    exact hbefore.ne (hfirst.unique hlast)

/-- A segment that crosses three planes. -/
theorem isComplete_diagonal :
    let start : Axis → ℚ := fun _ => 1 / 2
    let stop : Axis → ℚ
      | .x => 5 / 2
      | .y => 3 / 2
      | .z => 1 / 2
    InRange start ∧ InRange stop ∧ IsComplete start stop := by
  intro start stop
  have hstart : InRange start := by
    intro axis
    norm_num [start, Double.minCoordinate, Double.maxCoordinate]
  have hstop : InRange stop := by
    intro axis
    cases axis <;> norm_num [stop, Double.minCoordinate, Double.maxCoordinate]
  exact ⟨hstart, hstop, isComplete_of_inRange hstart hstop⟩

end Segment

end Crater
