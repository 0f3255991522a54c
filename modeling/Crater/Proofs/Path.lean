import Crater.Segment
import Mathlib.Data.List.Chain
import Mathlib.Tactic.LinearCombination

/-!
# Paths

A search along a line asks about the cubes of one path, in order and until one
of them blocks. The path is fixed by the two ends: what is asked decides how far
the search gets, not where it goes. It crosses one face at a time and never
turns back along an axis, so it meets no cube twice.
-/

namespace Crater

open Scalar (below)

def Vec3.along (v : Vec3) : Axis → Float
  | .x => v.x
  | .y => v.y
  | .z => v.z

namespace Position

def along (p : Position) : Axis → Int
  | .x => p.x
  | .y => p.y
  | .z => p.z

def shift (p : Position) : Axis → Int → Position
  | .x, n => ⟨p.x + n, p.y, p.z⟩
  | .y, n => ⟨p.x, p.y + n, p.z⟩
  | .z, n => ⟨p.x, p.y, p.z + n⟩

theorem ext_along {p q : Position} (h : ∀ axis, p.along axis = q.along axis) : p = q := by
  cases p
  cases q
  rw [mk.injEq]
  exact ⟨h .x, h .y, h .z⟩

theorem along_shift (p : Position) (axis other : Axis) (n : Int) :
    (p.shift axis n).along other = if other = axis then p.along other + n else p.along other := by
  cases axis <;> cases other <;> rfl

theorem shift_zero_eq_zero_iff {axis : Axis} {n : Int} :
    shift ⟨0, 0, 0⟩ axis n = ⟨0, 0, 0⟩ ↔ n = 0 := by
  cases axis <;> simp [shift]

end Position

variable {α : Type} [Scalar α]

/-- The direction of a movement along an axis: up, down or none. -/
def heading (delta : α) : Int :=
  if below Scalar.zero delta then 1 else if below delta Scalar.zero then -1 else 0

theorem heading_mul_self {delta : α} (h : heading delta ≠ 0) :
    heading delta * heading delta = 1 := by
  unfold heading at h ⊢
  split
  · rfl
  · split
    · rfl
    · next hup hdown =>
      rw [if_neg hup, if_neg hdown] at h
      exact absurd rfl h

/-! ## The two ends fix where a walk can go -/

namespace Lane

/-- A walk along an axis goes the way that the segment goes, if it goes at all. -/
def Follows (lane : Lane α) (delta : α) : Prop :=
  ∀ t, lane.next = some t → heading delta ≠ 0 ∧ lane.direction = heading delta

theorem follows_start (cell : Int) (origin delta : α) :
    (start cell origin delta).Follows delta := by
  intro t ht
  unfold start heading at *
  split
  · exact ⟨by decide, rfl⟩
  · next hup =>
    rw [if_neg hup] at ht
    split
    · exact ⟨by decide, rfl⟩
    · next hdown =>
      rw [if_neg hdown] at ht
      cases ht

theorem Follows.cross {lane : Lane α} {delta s : α} (h : lane.Follows delta)
    (hs : lane.next = some s) (t : α) : (lane.cross t).Follows delta := by
  rintro - -
  exact h s hs

end Lane

namespace Cursor

/-- The walk that starts at `origin` in a cube and moves by `delta` in all. -/
def start (cell : Position) (origin delta : Axis → α) : Cursor α where
  x := .start cell.x (origin .x) (delta .x)
  y := .start cell.y (origin .y) (delta .y)
  z := .start cell.z (origin .z) (delta .z)
  t := Scalar.zero
  normal := ⟨0, 0, 0⟩

theorem lane_start (cell : Position) (origin delta : Axis → α) (axis : Axis) :
    (start cell origin delta).lane axis =
      .start (cell.along axis) (origin axis) (delta axis) := by
  cases axis <;> rfl

theorem position_start (cell : Position) (origin delta : Axis → α) :
    (start cell origin delta).position = cell := by
  refine Position.ext_along fun axis => ?_
  have hcell : ∀ (n : Int) (o d : α), (Lane.start n o d).cell = n := by
    intro n o d
    unfold Lane.start
    split
    · rfl
    · split <;> rfl
  cases axis <;> exact hcell _ _ _

variable {c d : Cursor α} {t : α}

theorem lane_cross (c : Cursor α) (t : α) (axis other : Axis) :
    (c.cross t axis).lane other = if other = axis then (c.lane other).cross t else c.lane other := by
  cases axis <;> cases other <;> rfl

theorem position_cross (c : Cursor α) (t : α) (axis : Axis) :
    (c.cross t axis).position = c.position.shift axis (c.lane axis).direction := by
  cases axis <;> rfl

theorem normal_cross (c : Cursor α) (t : α) (axis : Axis) :
    (c.cross t axis).normal = Position.shift ⟨0, 0, 0⟩ axis (-(c.lane axis).direction) := by
  cases axis <;> simp [cross, Position.shift, lane]

theorem t_cross (c : Cursor α) (t : α) (axis : Axis) : (c.cross t axis).t = t := by
  cases axis <;> rfl

/-- A step crosses the plane that is reached first, if that is before the end of the segment and
the cube behind it has coordinates. -/
theorem next?_eq_some_iff : c.next? = some d ↔
    ∃ t, (c.lane c.nextAxis).next = some t ∧ below t Scalar.one = true ∧
      0 < (c.lane c.nextAxis).ahead ∧ d = c.cross t c.nextAxis := by
  dsimp only [next?]
  cases (c.lane c.nextAxis).next with
  | none => simp
  | some t => simp [and_assoc, @eq_comm _ d]

/-- Along each axis, a walk goes the way that the segment goes, if it goes at all. -/
def Follows (c : Cursor α) (delta : Axis → α) : Prop := ∀ axis, (c.lane axis).Follows (delta axis)

variable {delta : Axis → α}

theorem follows_start (cell : Position) (origin delta : Axis → α) :
    (start cell origin delta).Follows delta := by
  intro axis
  rw [lane_start]
  exact Lane.follows_start _ _ _

theorem Follows.next? (h : c.Follows delta) (hd : c.next? = some d) : d.Follows delta := by
  obtain ⟨t, ht, -, -, rfl⟩ := next?_eq_some_iff.mp hd
  intro axis
  rw [lane_cross]
  split
  · next hsame => exact (h axis).cross (hsame ▸ ht) t
  · exact h axis

/-! ## The path of a walk -/

/-- The cube that a walk is in and where it was entered, as a search reports them. -/
def hit (c : Cursor α) : SegmentHit α := ⟨c.position, c.normal, c.t⟩

/-- The cubes of a walk, from the one it is in to the end of the segment, with where they are
entered. -/
def hits (c : Cursor α) : List (SegmentHit α) :=
  c.hit ::
    match h : c.next? with
    | none => []
    | some d =>
      have := ahead_lt_of_next? h
      hits d
termination_by c.ahead

theorem hits_of_none (h : c.next? = none) : c.hits = [c.hit] := by
  rw [hits]
  split
  · rfl
  · next hnext => cases h.symm.trans hnext

theorem hits_of_some (h : c.next? = some d) : c.hits = c.hit :: d.hits := by
  rw [hits]
  split
  · next hnext => cases h.symm.trans hnext
  · next hnext =>
    cases h.symm.trans hnext
    rfl

theorem head?_hits (c : Cursor α) : c.hits.head? = some c.hit := by
  rw [hits]
  rfl

/-- Induction along a walk, from its end. -/
@[elab_as_elim]
theorem walk_induction {P : Cursor α → Prop} (ends : ∀ c, c.next? = none → P c)
    (goes : ∀ c d, c.next? = some d → P d → P c) (c : Cursor α) : P c := by
  cases h : c.next? with
  | none => exact ends c h
  | some d =>
      have := ahead_lt_of_next? h
      exact goes c d h (walk_induction ends goes d)
termination_by c.ahead

section
variable {m : Type → Type} [Monad m] (blocking : Position → m Bool)

theorem searchM_of_none (h : c.next? = none) : c.searchM blocking = (do
    if ← blocking c.position then return some c.hit else return none) := by
  rw [searchM]
  split
  · rfl
  · next hnext => cases h.symm.trans hnext

theorem searchM_of_some (h : c.next? = some d) : c.searchM blocking = (do
    if ← blocking c.position then return some c.hit else d.searchM blocking) := by
  rw [searchM]
  split
  · next hnext => cases h.symm.trans hnext
  · next hnext =>
    cases h.symm.trans hnext
    rfl

/-- **A search goes along the path** and asks about each of its cubes in turn until one blocks,
whatever else asking does. -/
theorem searchM_eq_findM (c : Cursor α) :
    c.searchM blocking = c.hits.findM? fun hit => blocking hit.position := by
  induction c using walk_induction with
  | ends c h =>
    rw [hits_of_none h, searchM_of_none blocking h, List.findM?]
    congr
    ext blocks
    cases blocks <;> rfl
  | goes c d h ih =>
    rw [hits_of_some h, searchM_of_some blocking h, ih, List.findM?]
    congr
    ext blocks
    cases blocks <;> rfl

end

end Cursor

/-! ## What a path looks like -/

namespace SegmentHit

/-- How a path goes on: it crosses one face, on an axis along which the segment moves and in its
direction, and the normal of the face points back. -/
def Follows (delta : Axis → α) (a b : SegmentHit α) : Prop :=
  ∃ axis, heading (delta axis) ≠ 0 ∧ b.position = a.position.shift axis (heading (delta axis)) ∧
    b.normal = Position.shift ⟨0, 0, 0⟩ axis (-heading (delta axis))

variable {delta : Axis → α} {a b : SegmentHit α}

theorem Follows.normal_ne_zero (h : Follows delta a b) : b.normal ≠ ⟨0, 0, 0⟩ := by
  obtain ⟨axis, hmoves, -, hnormal⟩ := h
  rw [hnormal, Ne, Position.shift_zero_eq_zero_iff, neg_eq_zero]
  exact hmoves

/-- On a path, only the first cube is not entered through a face. -/
theorem normal_ne_zero_of_isChain {first : SegmentHit α} {rest : List (SegmentHit α)}
    (h : (first :: rest).IsChain (Follows delta)) : ∀ hit ∈ rest, hit.normal ≠ ⟨0, 0, 0⟩ := by
  induction rest generalizing first with
  | nil => simp
  | cons second rest ih =>
    obtain ⟨hfollows, hrest⟩ := List.isChain_cons_cons.mp h
    intro hit hhit
    rcases List.mem_cons.mp hhit with rfl | hhit
    · exact hfollows.normal_ne_zero
    · exact ih hrest hit hhit

/-- How far a cube lies in the directions of a segment. -/
def progress (delta : Axis → α) (p : Position) : Int :=
  heading (delta .x) * p.x + heading (delta .y) * p.y + heading (delta .z) * p.z

theorem progress_shift {axis : Axis} (h : heading (delta axis) ≠ 0) (p : Position) :
    progress delta (p.shift axis (heading (delta axis))) = progress delta p + 1 := by
  have hunit := heading_mul_self h
  cases axis <;> simp only [progress, Position.shift] <;> linear_combination hunit

theorem Follows.progress_lt (h : Follows delta a b) :
    progress delta a.position < progress delta b.position := by
  obtain ⟨axis, hmoves, hposition, -⟩ := h
  rw [hposition, progress_shift hmoves]
  exact lt_add_one _

/-- A path gets on at each step, so no cube is on it twice. -/
theorem nodup_of_isChain {path : List (SegmentHit α)} (h : path.IsChain (Follows delta)) :
    (path.map position).Nodup := by
  have hlt : path.IsChain fun a b => progress delta a.position < progress delta b.position :=
    h.imp fun _ _ => Follows.progress_lt
  have : IsTrans (SegmentHit α) fun a b => progress delta a.position < progress delta b.position :=
    ⟨fun _ _ _ => lt_trans⟩
  rw [List.Nodup, List.pairwise_map]
  refine (List.isChain_iff_pairwise.mp hlt).imp ?_
  intro a b hab heq
  rw [heq] at hab
  exact lt_irrefl _ hab

end SegmentHit

namespace Cursor

variable {c : Cursor α} {delta : Axis → α}

/-- **Along a path**, each cube follows the one before it. -/
theorem Follows.isChain_hits (h : c.Follows delta) : c.hits.IsChain (SegmentHit.Follows delta) := by
  induction c using walk_induction with
  | ends c hnone =>
    rw [hits_of_none hnone]
    exact .singleton _
  | goes c d hd ih =>
    rw [hits_of_some hd, List.isChain_cons, head?_hits]
    refine ⟨?_, ih (h.next? hd)⟩
    rintro _ ⟨⟩
    obtain ⟨t, ht, -, -, rfl⟩ := next?_eq_some_iff.mp hd
    obtain ⟨hmoves, hdirection⟩ := h c.nextAxis t ht
    refine ⟨c.nextAxis, hmoves, ?_, ?_⟩
    · rw [← hdirection]
      exact position_cross c t c.nextAxis
    · rw [← hdirection]
      exact normal_cross c t c.nextAxis

end Cursor

/-! ## Questions -/

/-- The part of a list that is looked at to find the first entry with a property: the entries up to
it, or all of them if there is none. -/
def upTo {β : Type} (found : β → Bool) (entries : List β) : List β :=
  entries.take (entries.findIdx found + 1)

section
variable {β : Type} {found : β → Bool} {b : β} (rest : List β)

theorem upTo_cons_of_pos (h : found b = true) : upTo found (b :: rest) = [b] := by
  rw [upTo, List.findIdx_cons, h]
  rfl

theorem upTo_cons_of_neg (h : found b = false) : upTo found (b :: rest) = b :: upTo found rest := by
  rw [upTo, List.findIdx_cons, h]
  rfl

end

omit [Scalar α] in
theorem findM?_eq_find? (blocking : Position → Bool) (path : List (SegmentHit α)) :
    Id.run (path.findM? fun hit => pure (blocking hit.position)) =
      path.find? fun hit => blocking hit.position := by
  rw [List.findM?_pure]
  rfl

omit [Scalar α] in
/-- A search that notes what it asks about notes the cubes up to the first that blocks. -/
theorem run_findM?_noting (blocking : Position → Bool) (path : List (SegmentHit α))
    (seen : Array Position) :
    StateT.run (path.findM? fun hit => (modifyGet fun (seen : Array Position) =>
      (blocking hit.position, seen.push hit.position) : StateM (Array Position) Bool)) seen =
    (path.find? fun hit => blocking hit.position,
      seen ++ (upTo blocking (path.map SegmentHit.position)).toArray) := by
  induction path generalizing seen with
  | nil => exact congrArg (Prod.mk none) seen.append_empty.symm
  | cons hit rest ih =>
    rw [List.findM?, StateT.run_bind]
    show StateT.run (match blocking hit.position with
      | true => pure (some hit)
      | false => _) (seen.push hit.position) = _
    rw [List.find?_cons, List.map_cons]
    cases hblocks : blocking hit.position with
    | true =>
      rw [upTo_cons_of_pos _ hblocks]
      exact congrArg (Prod.mk (some hit)) Array.push_eq_append
    | false =>
      rw [upTo_cons_of_neg _ hblocks]
      refine (ih _).trans (congrArg (Prod.mk _) ?_)
      simp

namespace Segment

/-- The cubes on the line between two points and where they are entered; none if a point is not
finite. -/
def path (start stop : Vec3) : List (SegmentHit Float) :=
  match cursor? start stop with
  | none => []
  | some c => c.hits

theorem cursor?_eq (start stop : Vec3) : cursor? start stop =
    if start.isFinite && stop.isFinite then
      some (.start (.containing start) start.along (stop - start).along)
    else none := rfl

theorem path_eq (start stop : Vec3) : path start stop =
    if start.isFinite && stop.isFinite then
      (Cursor.start (.containing start) start.along (stop - start).along).hits
    else [] := by
  rw [path, cursor?_eq]
  cases start.isFinite && stop.isFinite <;> rfl

/-- What is fixed about a line before anything is asked: where its path begins, which cubes can
follow each other on it, and that it comes to no cube twice. -/
structure IsPath (start stop : Vec3) (path : List (SegmentHit Float)) : Prop where
  head : path.head? =
    if start.isFinite && stop.isFinite then some ⟨.containing start, ⟨0, 0, 0⟩, 0.0⟩ else none
  follows : path.IsChain (SegmentHit.Follows (stop - start).along)
  nodup : (path.map SegmentHit.position).Nodup
  normal : ∀ hit ∈ path, hit.normal = ⟨0, 0, 0⟩ ↔ hit.position = .containing start

theorem isPath_path (start stop : Vec3) : IsPath start stop (path start stop) := by
  rw [path_eq]
  cases hfinite : start.isFinite && stop.isFinite with
  | true =>
    have hfollows := Cursor.follows_start (.containing start) start.along (stop - start).along
    have hhead := Cursor.head?_hits
      (.start (.containing start) start.along (stop - start).along : Cursor Float)
    rw [Cursor.hit, Cursor.position_start] at hhead
    have hchain := hfollows.isChain_hits
    have hnodup := SegmentHit.nodup_of_isChain hchain
    refine ⟨?_, hchain, hnodup, ?_⟩
    · rw [hfinite]
      exact hhead
    · obtain ⟨rest, hpath⟩ := List.head?_eq_some_iff.mp hhead
      rw [if_pos rfl, hpath]
      rw [hpath] at hchain hnodup
      intro hit hhit
      rcases List.mem_cons.mp hhit with rfl | hrest
      · exact iff_of_true rfl rfl
      · refine iff_of_false (SegmentHit.normal_ne_zero_of_isChain hchain hit hrest) ?_
        -- otherwise the first cube would be on the path twice
        intro hsame
        exact (List.nodup_cons.mp hnodup).1 (List.mem_map.mpr ⟨hit, hrest, hsame⟩)
  | false =>
    exact ⟨by rw [hfinite]; rfl, .nil, .nil, fun _ h => nomatch h⟩

theorem firstHitM_eq_findM? {m : Type → Type} [Monad m] (start stop : Vec3)
    (blocking : Position → m Bool) :
    firstHitM start stop blocking =
      (path start stop).findM? fun hit => blocking hit.position := by
  unfold firstHitM path
  cases cursor? start stop with
  | none => rfl
  | some c => exact c.searchM_eq_findM blocking

theorem firstHit_eq_find? (start stop : Vec3) (blocking : Position → Bool) :
    firstHit start stop blocking =
      (path start stop).find? fun hit => blocking hit.position := by
  rw [firstHit, firstHitM_eq_findM?, findM?_eq_find?]

theorem asked_eq_upTo (start stop : Vec3) (blocking : Position → Bool) :
    asked start stop blocking =
      (upTo blocking ((path start stop).map SegmentHit.position)).toArray := by
  rw [asked, firstHitM_eq_findM?, run_findM?_noting, Array.empty_append]

/-- **A search along a line goes along one path.** The two ends alone fix the path. The first cube
that blocks is the first one on the path that does, whatever the question and whatever else it does,
and each cube up to it is asked about once, in the order of the path. So what blocks more positions
blocks more lines. -/
theorem exists_path (start stop : Vec3) :
    ∃ path, IsPath start stop path ∧
      (∀ (m : Type → Type) [Monad m] (blocking : Position → m Bool),
        firstHitM start stop blocking = path.findM? fun hit => blocking hit.position) ∧
      (∀ blocking,
        firstHit start stop blocking = path.find? (fun hit => blocking hit.position) ∧
        asked start stop blocking = (upTo blocking (path.map SegmentHit.position)).toArray) ∧
      ∀ blocking blocking', (∀ p, blocking p = true → blocking' p = true) →
        isBlocked start stop blocking = true → isBlocked start stop blocking' = true := by
  refine ⟨path start stop, isPath_path start stop, fun m _ => firstHitM_eq_findM? start stop, ?_, ?_⟩
  · intro blocking
    exact ⟨firstHit_eq_find? start stop blocking, asked_eq_upTo start stop blocking⟩
  · intro blocking blocking' h hblocked
    rw [isBlocked, firstHit_eq_find?, List.find?_isSome] at hblocked ⊢
    obtain ⟨hit, hhit, hblocks⟩ := hblocked
    exact ⟨hit, hhit, h _ hblocks⟩

end Segment

end Crater
