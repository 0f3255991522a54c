import Crater.Explosion
import Crater.Ray.Affected
import Crater.Ray.March
/-!
# The ray fan

A blast sends one ray through every cell on the shell of a cube of cells around its centre. Each ray
starts with a share of the radius that is drawn for it, and the voxels that any of the rays destroys
are affected. Rays only read the world: a voxel that one of them destroys still stands in the way of
the others.
-/

namespace Crater

/-- The indices of the cells along one axis that lie on the shell of a cube of `n` cells, given
whether the cell already lies on the shell along another axis. -/
def shellRow (n : Nat) (onShell : Bool) : List Nat :=
  if onShell then List.range n else [0, n - 1]

def isEdge (n i : Nat) : Bool := i == 0 || i == n - 1

/-- The cells on the shell of a cube of `n` cells, in lexicographic order; none for fewer than two. -/
def shellCells (n : Nat) : List (Nat × Nat × Nat) :=
  if n < 2 then []
  else
    (List.range n).flatMap fun x =>
      (List.range n).flatMap fun y =>
        (shellRow n (isEdge n x || isEdge n y)).map fun z => (x, y, z)

/-- A cell index as a coordinate from -1 to 1. -/
def cellCoordinate (n i : Nat) : Float :=
  Double.ofNat i / Double.ofNat (n - 1) * 2.0 - 1.0

/-- The unit vector from the centre of a cube of `n` cells to one of them. -/
def cellDirection (n : Nat) : Nat × Nat × Nat → Vec3
  | (x, y, z) =>
    Vec3.normalizeOrZero ⟨cellCoordinate n x, cellCoordinate n y, cellCoordinate n z⟩

/-- The rays of a configuration. -/
structure RayFan where
  directions : List Vec3
  step : Float
  jitterMin : Float32
  jitterSpan : Float32
  bias : Float32
  attenuation : Float32

namespace RayFan

def ofConfig (config : Config) : RayFan where
  directions := (shellCells config.rayGrid).map (cellDirection config.rayGrid)
  step := config.rayStep
  jitterMin := config.powerJitterMin
  jitterSpan := config.powerJitterSpan
  bias := config.resistanceBias
  attenuation := config.stepAttenuation

def march (fan : RayFan) (terrain : Terrain) (rules : RayRules) (direction : Vec3) : March where
  rules
  isOutside := terrain.isOutside
  advance := direction * fan.step
  stride := Single.narrow fan.step
  bias := fan.bias
  attenuation := fan.attenuation

/-- The power of a ray of a blast with the given radius, for which `drawn` was drawn. -/
def startPower (fan : RayFan) (radius drawn : Float32) : Float32 :=
  radius * (fan.jitterMin + drawn * fan.jitterSpan)

def record (affected : AffectedSet) (steps : Array RayStep) : AffectedSet :=
  steps.foldl (fun affected step => if step.destroyed then affected.insert step.position else affected)
    affected

/-- Sends rays in the given directions and adds what they destroy. There is no result if one of them
has no end. -/
def traceFrom (fan : RayFan) (explosion : Explosion) (terrain : Terrain) (rules : RayRules) :
    List Vec3 → AffectedSet → Draw (Option AffectedSet)
  | [], affected => pure (some affected)
  | direction :: rest, affected => do
    let power := fan.startPower explosion.radius (← Draw.fraction)
    match (fan.march terrain rules direction).steps? ⟨explosion.center, power⟩ with
    | none => pure none
    | some steps => traceFrom fan explosion terrain rules rest (record affected steps)

/-- The voxels that an explosion destroys. A radius of zero destroys nothing and draws nothing. -/
def trace (fan : RayFan) (explosion : Explosion) (terrain : Terrain) : Draw (Option AffectedSet) :=
  if explosion.radius ≤ 0.0 then pure (some AffectedSet.empty)
  else
    fan.traceFrom explosion terrain (explosion.resistance.rules terrain) fan.directions .empty

end RayFan

end Crater
