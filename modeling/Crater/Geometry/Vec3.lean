import Crater.Number.Double
import Crater.Decimal.Layout
/-!
# Vectors

Points, directions and velocities in the world, in double precision. Each operation is written as
the sequence of roundings it performs, component by component.
-/

namespace Crater

/-- A point or a direction in space. Two vectors are `==` when their components are equal as
numbers, so NaN differs from itself and the two zeros agree. -/
structure Vec3 where
  x : Float
  y : Float
  z : Float
  deriving BEq, DecidableEq, Inhabited

namespace Vec3

def zero : Vec3 := ⟨0.0, 0.0, 0.0⟩

def up : Vec3 := ⟨0.0, 1.0, 0.0⟩

def splat (v : Float) : Vec3 := ⟨v, v, v⟩

instance : Add Vec3 := ⟨fun a b => ⟨a.x + b.x, a.y + b.y, a.z + b.z⟩⟩

instance : Sub Vec3 := ⟨fun a b => ⟨a.x - b.x, a.y - b.y, a.z - b.z⟩⟩

instance : Neg Vec3 := ⟨fun a => ⟨-a.x, -a.y, -a.z⟩⟩

instance : HMul Vec3 Float Vec3 := ⟨fun a t => ⟨a.x * t, a.y * t, a.z * t⟩⟩

/-- The scalar product, summed from the left. -/
def dot (a b : Vec3) : Float := a.x * b.x + a.y * b.y + a.z * b.z

def lengthSquared (a : Vec3) : Float := a.dot a

def length (a : Vec3) : Float := a.lengthSquared.sqrt

def distance (a b : Vec3) : Float := (a - b).length

def distanceSquared (a b : Vec3) : Float := (a - b).lengthSquared

/-- The vector scaled to length one; zero if its length is zero or not finite. -/
def normalizeOrZero (a : Vec3) : Vec3 :=
  let len := a.length
  if len > 0.0 && len.isFinite then a * (1.0 / len) else zero

def floor (a : Vec3) : Vec3 := ⟨Double.floor a.x, Double.floor a.y, Double.floor a.z⟩

def isFinite (a : Vec3) : Bool := a.x.isFinite && a.y.isFinite && a.z.isFinite

/-- The point that divides the way from `a` to `b` at fraction `t`. -/
def lerp (a b : Vec3) (t : Float) : Vec3 := a + (b - a) * t

/-- The components with three places each, in parentheses. -/
def text (a : Vec3) : String :=
  "(" ++ Decimal.fixed 3 a.x ++ ", " ++ Decimal.fixed 3 a.y ++ ", " ++ Decimal.fixed 3 a.z ++ ")"

end Vec3

end Crater
