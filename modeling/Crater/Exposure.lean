import Crater.Geometry.Box
/-!
# Exposure

How much of a box can be seen from a point. The box is sampled on a regular grid with spacing
`1 / (2 * size + 1)` along each axis, but never finer than one part in 32; the samples along `x` and
`z` are centred. Every accepted box has at least two samples along each axis and at most 33.
-/

namespace Crater

/-- Whether something stops the line of sight between two points. -/
abbrev SightBlock := Vec3 → Vec3 → Bool

namespace Exposure

/-- The most intervals along one axis. -/
def maxIntervals : Float := 32.0

/-- The spacing of samples along a side, as a share of the side. -/
def spacing (size : Float) : Float := Double.max (1.0 / (size * 2.0 + 1.0)) (1.0 / maxIntervals)

/-- How many intervals of a spacing fit on a side. -/
def intervals (spacing : Float) : Float := Double.floor (1.0 / spacing)

/-- Half of what the intervals leave over. -/
def centring (spacing : Float) : Float := (1.0 - intervals spacing * spacing) / 2.0

/-- The points of a side at multiples of the spacing, from the low end on. -/
def axisPoints (low high spacing : Float) : List Float :=
  (List.range ((Double.truncate (intervals spacing)).toNat + 1)).map fun i =>
    low + (high - low) * (Double.ofNat i * spacing)

/-- The sample points of a box; none if the box is flat, inverted or not finite. -/
def samplePoints (bounds : Box) : Option (List Vec3) :=
  if bounds.isDegenerate then none
  else
    let size := bounds.size
    if size.x ≤ 0.0 || size.y ≤ 0.0 || size.z ≤ 0.0 then none
    else
      let step : Vec3 := ⟨spacing size.x, spacing size.y, spacing size.z⟩
      if step.isFinite && step.x > 0.0 && step.y > 0.0 && step.z > 0.0 then
        let ys := axisPoints bounds.min.y bounds.max.y step.y
        let zs := (axisPoints bounds.min.z bounds.max.z step.z).map (· + centring step.z)
        some <| (axisPoints bounds.min.x bounds.max.x step.x).flatMap fun x =>
          ys.flatMap fun y => zs.map fun z => ⟨x + centring step.x, y, z⟩
      else none

/-- The share of a box's sample points with a clear line to `origin`. -/
def fraction (blocked : SightBlock) (origin : Vec3) (bounds : Box) : Float :=
  match samplePoints bounds with
  | none => 0.0
  | some points =>
    if points.isEmpty then 0.0
    else
      Double.ofNat (points.countP fun p => !blocked origin p) / Double.ofNat points.length

end Exposure

end Crater
