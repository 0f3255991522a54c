import Crater.Geometry.Position
/-!
# Boxes

Axis-aligned boxes, used for the bodies of entities and for the region a blast can reach.
-/

namespace Crater

structure Box where
  min : Vec3
  max : Vec3
  deriving BEq, DecidableEq, Inhabited

namespace Box

/-- The box of a body that stands on `feet`. -/
def ofFeet (feet : Vec3) (width height : Float) : Box :=
  let half := width / 2.0
  ⟨⟨feet.x - half, feet.y, feet.z - half⟩, ⟨feet.x + half, feet.y + height, feet.z + half⟩⟩

def ofPosition (p : Position) : Box := ⟨p.corner, p.corner + Vec3.splat 1.0⟩

def size (b : Box) : Vec3 := b.max - b.min

/-- Moves every face outward by `amount`. -/
def inflate (b : Box) (amount : Float) : Box := ⟨b.min - Vec3.splat amount, b.max + Vec3.splat amount⟩

def translate (b : Box) (delta : Vec3) : Box := ⟨b.min + delta, b.max + delta⟩

/-- Whether a point lies in the box; the faces belong to it. -/
def contains (b : Box) (p : Vec3) : Bool :=
  p.x ≥ b.min.x && p.x ≤ b.max.x && p.y ≥ b.min.y && p.y ≤ b.max.y && p.z ≥ b.min.z && p.z ≤ b.max.z

/-- Whether two boxes share more than their surfaces. -/
def intersects (a b : Box) : Bool :=
  a.min.x < b.max.x && a.max.x > b.min.x && a.min.y < b.max.y && a.max.y > b.min.y &&
    a.min.z < b.max.z && a.max.z > b.min.z

/-- Whether a corner is not finite or the corners are in the wrong order on some axis. -/
def isDegenerate (b : Box) : Bool :=
  !(b.min.isFinite && b.max.isFinite) || b.size.x < 0.0 || b.size.y < 0.0 || b.size.z < 0.0

end Box

end Crater
