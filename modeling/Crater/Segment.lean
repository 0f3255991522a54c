import Crater.Geometry.Position
/-!
# Lines of sight

The walk of a segment through the grid. A cursor stands in one cube and knows, for each axis along
which the segment moves, at which fraction of the segment the next plane between cubes is reached. The
next cube lies across the plane that is reached first. A plane that is only reached at the end of the
segment is not crossed, so a point on the face of a cube sees past that cube.

The arithmetic is a parameter: `Float` is what runs, and any other field in which numbers can be
compared and rounded down can be read in its place.
-/

namespace Crater

/-- The arithmetic of a walk. -/
class Scalar (α : Type) extends Add α, Sub α, Neg α, Div α where
  zero : α
  one : α
  /-- Whether the first number is below the second. -/
  below : α → α → Bool
  ofInt : Int → α

instance : Scalar Float where
  zero := 0.0
  one := 1.0
  below a b := a < b
  ofInt := Double.ofInt

inductive Axis where
  | x
  | y
  | z
  deriving DecidableEq

/-- A walk along one axis. -/
structure Lane (α : Type) where
  /-- Coordinate of the cube that the walk is in. -/
  cell : Int
  /-- How many cubes lie ahead before the end of the coordinate range. -/
  ahead : Nat
  /-- Whether coordinates grow along the walk. -/
  upward : Bool
  /-- Fraction of the segment at which the next plane is reached; none if the segment does not move
  along this axis. -/
  next : Option α
  /-- Fraction of the segment from one plane to the next. -/
  pace : α

namespace Lane

variable {α : Type} [Scalar α]

open Scalar (below)

/-- The walk that starts at `origin` in cube `cell` and moves by `delta` in all. -/
def start (cell : Int) (origin delta : α) : Lane α :=
  if below Scalar.zero delta then
    { cell, ahead := (Double.maxCoordinate - cell).toNat, upward := true
      next := some ((Scalar.ofInt (cell + 1) - origin) / delta), pace := Scalar.one / delta }
  else if below delta Scalar.zero then
    { cell, ahead := (cell - Double.minCoordinate).toNat, upward := false
      next := some ((Scalar.ofInt cell - origin) / delta), pace := -Scalar.one / delta }
  else { cell, ahead := 0, upward := true, next := none, pace := Scalar.zero }

/-- The direction of a step, as a change of the coordinate. -/
def direction (lane : Lane α) : Int := if lane.upward then 1 else -1

def cross (lane : Lane α) (t : α) : Lane α :=
  { lane with
    cell := lane.cell + lane.direction
    ahead := lane.ahead - 1
    next := some (t + lane.pace) }

/-- Whether this walk reaches its next plane before the other one does. A walk that reaches none is
never first. -/
def isBefore (a b : Lane α) : Bool :=
  match a.next, b.next with
  | some s, some t => below s t
  | some _, none => true
  | none, _ => false

end Lane

/-- A place on the walk of a segment. -/
structure Cursor (α : Type) where
  x : Lane α
  y : Lane α
  z : Lane α
  /-- Fraction of the segment at which the cube was entered. -/
  t : α
  /-- The face through which the cube was entered, as the direction it points in; zero at the start
  of the segment. -/
  normal : Position

/-- The cube that stops a line of sight, and where. -/
structure SegmentHit (α : Type) where
  position : Position
  normal : Position
  t : α

namespace Cursor

variable {α : Type} [Scalar α]

def position (c : Cursor α) : Position := ⟨c.x.cell, c.y.cell, c.z.cell⟩

/-- How many cubes lie ahead on the three axes together. -/
def ahead (c : Cursor α) : Nat := c.x.ahead + c.y.ahead + c.z.ahead

/-- The axis whose plane is reached first. The walk prefers `z` to `y` and `y` to `x` if planes are
reached at once. -/
def nextAxis (c : Cursor α) : Axis :=
  if c.x.isBefore c.y && c.x.isBefore c.z then .x
  else if c.y.isBefore c.z then .y
  else .z

def lane (c : Cursor α) : Axis → Lane α
  | .x => c.x
  | .y => c.y
  | .z => c.z

def cross (c : Cursor α) (t : α) : Axis → Cursor α
  | .x => { c with x := c.x.cross t, t, normal := ⟨-c.x.direction, 0, 0⟩ }
  | .y => { c with y := c.y.cross t, t, normal := ⟨0, -c.y.direction, 0⟩ }
  | .z => { c with z := c.z.cross t, t, normal := ⟨0, 0, -c.z.direction⟩ }

/-- The walk in the next cube; none if the segment ends before it or the cube lies outside the
coordinate range. -/
def next? (c : Cursor α) : Option (Cursor α) :=
  let axis := c.nextAxis
  match (c.lane axis).next with
  | none => none
  | some t =>
    if Scalar.below t Scalar.one && 0 < (c.lane axis).ahead then some (c.cross t axis) else none

theorem ahead_lt_of_next? {c d : Cursor α} (h : c.next? = some d) : d.ahead < c.ahead := by
  dsimp only [next?] at h
  split at h
  · cases h
  · split at h
    · rename_i hc
      simp only [Bool.and_eq_true, decide_eq_true_eq] at hc
      cases h
      have hpos := hc.2
      cases hax : c.nextAxis <;> simp only [hax, lane] at hpos <;>
        simp only [cross, ahead, Lane.cross] <;> omega
    · cases h

/-- Asks about the cubes of a walk one after the other until one blocks it. The question may have
effects of its own. -/
@[specialize]
def searchM {m : Type → Type} [Monad m] (blocking : Position → m Bool) (c : Cursor α) :
    m (Option (SegmentHit α)) := do
  if ← blocking c.position then
    return some ⟨c.position, c.normal, c.t⟩
  else
    match h : c.next? with
    | none => return none
    | some d =>
      have := ahead_lt_of_next? h
      searchM blocking d
termination_by c.ahead

end Cursor

namespace Segment

/-- The walk from `start` to `stop` at its first cube; none if an end is not finite. -/
def cursor? (start stop : Vec3) : Option (Cursor Float) :=
  if start.isFinite && stop.isFinite then
    let cell := Position.containing start
    let delta := stop - start
    some {
      x := .start cell.x start.x delta.x
      y := .start cell.y start.y delta.y
      z := .start cell.z start.z delta.z
      t := 0.0
      normal := ⟨0, 0, 0⟩ }
  else none

/-- The first blocking cube between two points, with a question that may have effects. -/
@[specialize]
def firstHitM {m : Type → Type} [Monad m] (start stop : Vec3) (blocking : Position → m Bool) :
    m (Option (SegmentHit Float)) :=
  match cursor? start stop with
  | none => return none
  | some c => c.searchM blocking

def firstHit (start stop : Vec3) (blocking : Position → Bool) : Option (SegmentHit Float) :=
  Id.run (firstHitM start stop fun p => pure (blocking p))

def isBlocked (start stop : Vec3) (blocking : Position → Bool) : Bool :=
  (firstHit start stop blocking).isSome

/-- The cubes that are asked about, in order. -/
def asked (start stop : Vec3) (blocking : Position → Bool) : Array Position :=
  let question (p : Position) : StateM (Array Position) Bool :=
    modifyGet fun seen => (blocking p, seen.push p)
  ((firstHitM start stop question).run #[]).2

end Segment

end Crater
