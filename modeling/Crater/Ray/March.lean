import Crater.Resistance
import Crater.Config
/-!
# Marching rays

A ray starts at the centre of a blast with some power. In each step it pays for the voxel it is in,
moves on by a fixed distance and loses a fixed amount of power. It ends when it has no power left or
leaves the build height.

A ray that stays where it is without getting weaker would go on for ever; the march of such a ray has
no result. Every other step brings the ray closer to the end of the number line it moves along, or
leaves it where it is with less power, and this is the measure by which a march ends.
-/

namespace Crater

/-- A ray on its way. -/
structure Ray where
  point : Vec3
  power : Float32

structure RayStep where
  /-- The voxel the ray was in. -/
  position : Position
  powerBefore : Float32
  /-- Power after paying for the voxel, before the loss of the step. -/
  powerAfter : Float32
  /-- Whether the voxel is destroyed. -/
  destroyed : Bool

/-- How far `x` is from the end of the number line that `advance` moves it to, counted in doubles. NaN
is the end of both. -/
def axisRoom (advance x : Float) : UInt64 :=
  if x.isNaN then 0
  else if advance < 0.0 then Double.rank x
  else ~~~ Double.rank x

/-- How far a point is from the ends of the number lines that `advance` moves it along. -/
def room (advance point : Vec3) : Nat :=
  (axisRoom advance.x point.x).toNat + (axisRoom advance.y point.y).toNat +
    (axisRoom advance.z point.z).toNat

/-- Whether `q` is closer to those ends than `p` on some axis, and not farther on any. -/
def isCloser (advance p q : Vec3) : Bool :=
  let x := axisRoom advance.x p.x
  let y := axisRoom advance.y p.y
  let z := axisRoom advance.z p.z
  let x' := axisRoom advance.x q.x
  let y' := axisRoom advance.y q.y
  let z' := axisRoom advance.z q.z
  x' ≤ x && y' ≤ y && z' ≤ z && (x' < x || y' < y || z' < z)

theorem room_lt_of_isCloser {advance p q : Vec3} (h : isCloser advance p q = true) :
    room advance q < room advance p := by
  simp only [isCloser, Bool.and_eq_true, Bool.or_eq_true, decide_eq_true_eq,
    UInt64.le_iff_toNat_le, UInt64.lt_iff_toNat_lt] at h
  simp only [room]
  omega

/-- The rules by which rays pay, and the way they move in one step. -/
structure March where
  rules : RayRules
  isOutside : Position → Bool
  advance : Vec3
  /-- The distance of one step as rays pay for it. -/
  stride : Float32
  /-- Added to every resistance. -/
  bias : Float32
  /-- Power lost in each step. -/
  attenuation : Float32

namespace March

/-- Whether a ray takes another step: it has power left and is inside the build height. -/
def goesOn (m : March) (ray : Ray) : Bool :=
  ray.power > 0.0 && !m.isOutside (Position.containing ray.point)

def step (m : March) (ray : Ray) : RayStep :=
  let position := Position.containing ray.point
  let powerAfter :=
    match m.rules.resistance position with
    | none => ray.power
    | some resistance => ray.power - (resistance + m.bias) * m.stride
  { position, powerBefore := ray.power, powerAfter
    destroyed := powerAfter > 0.0 && m.rules.destroys powerAfter position }

def after (m : March) (ray : Ray) (step : RayStep) : Ray :=
  ⟨ray.point + m.advance, step.powerAfter - m.attenuation⟩

structure Progress where
  ray : Ray
  taken : Array RayStep

/-- Marches on until the ray ends. There is no result if the ray has no end. -/
def run (m : March) (progress : Progress) : Option (Array RayStep) :=
  let ray := progress.ray
  if m.goesOn ray then
    let step := m.step ray
    let next := m.after ray step
    let taken := progress.taken.push step
    if isCloser m.advance ray.point next.point then
      run m ⟨next, taken⟩
    else if next.point = ray.point ∧ next.power.toBits < ray.power.toBits then
      run m ⟨next, taken⟩
    else if m.goesOn next then none
    else some taken
  else some progress.taken
termination_by (room m.advance progress.ray.point, progress.ray.power.toBits.toNat)
decreasing_by
  · exact Prod.Lex.left _ _ (room_lt_of_isCloser (by assumption))
  · rename_i h
    have hstay : (m.after progress.ray (m.step progress.ray)).point = progress.ray.point := h.1
    rw [hstay]
    exact Prod.Lex.right _ (UInt32.lt_iff_toNat_lt.1 h.2)

def steps? (m : March) (ray : Ray) : Option (Array RayStep) := m.run ⟨ray, #[]⟩

end March

end Crater
