import Crater.Geometry.Vec3
/-!
# Voxel positions

The world is a grid of unit cubes. A position names one cube by the integer coordinates of its
lowest corner. Positions are ordered by `x`, then `y`, then `z`, and this order is the one in which
sets of positions are listed everywhere.
-/

namespace Crater

/-- A cube of the grid. -/
structure Position where
  x : Int
  y : Int
  z : Int
  deriving DecidableEq, Hashable, Inhabited

namespace Position

def compare (p q : Position) : Ordering :=
  (Ord.compare p.x q.x).then ((Ord.compare p.y q.y).then (Ord.compare p.z q.z))

instance : Ord Position := ⟨compare⟩

/-- The cube that holds a point. Points beyond the coordinate range fall into the outermost cubes,
and a NaN component counts as zero. -/
def containing (point : Vec3) : Position :=
  ⟨Double.truncate (Double.floor point.x), Double.truncate (Double.floor point.y),
    Double.truncate (Double.floor point.z)⟩

def below (p : Position) : Position := ⟨p.x, p.y - 1, p.z⟩

def offset (p : Position) (dx dy dz : Int) : Position := ⟨p.x + dx, p.y + dy, p.z + dz⟩

/-- The lowest corner of the cube. -/
def corner (p : Position) : Vec3 := ⟨Double.ofInt p.x, Double.ofInt p.y, Double.ofInt p.z⟩

def center (p : Position) : Vec3 := p.corner + Vec3.splat 0.5

def text (p : Position) : String := s!"[{p.x}, {p.y}, {p.z}]"

/-- The integers from the smaller of `a` and `b` to the larger, both included. -/
def span (a b : Int) : List Int :=
  (List.range (b - a).natAbs.succ).map fun (i : Nat) => min a b + i

/-- All positions of the box with opposite corners `a` and `b`, layer by layer from below, each layer
row by row along `x`. -/
def box (a b : Position) : List Position :=
  (span a.y b.y).flatMap fun y =>
    (span a.z b.z).flatMap fun z =>
      (span a.x b.x).map fun x => ⟨x, y, z⟩

end Position

end Crater
