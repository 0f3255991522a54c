/-!
# Double precision

Coordinates, distances and proximities are IEEE 754 binary64 numbers. Core's `Float` has the
arithmetic; this module adds what a voxel grid needs on top of it: the floor, the way from a number
to a grid coordinate and back, and the maximum that prefers a number to a NaN.

Every definition here is built from bit patterns, comparisons and the four operations, all of which
the kernel can evaluate.
-/

namespace Crater.Double

def infinity : Float := Float.ofBits 0x7FF0000000000000

/-- The least magnitude from which on every double is an integer: `2 ^ 52`. -/
def integral : Float := Float.ofBits 0x4330000000000000

/-- The greatest integer not above `x`. NaN, the infinities and both zeros are their own floor. -/
def floor (x : Float) : Float :=
  if x.abs < integral then
    let whole := x.abs.toUInt64.toFloat
    if x < 0.0 then
      if whole < x.abs then -(whole + 1.0) else -whole
    else if x == 0.0 then x
    else whole
  else x

/-- The larger of two numbers; of a number and a NaN, the number. -/
def max (a b : Float) : Float :=
  if a.isNaN then b else if b.isNaN then a else if a < b then b else a

def minCoordinate : Int := -2147483648

def maxCoordinate : Int := 2147483647

/-- Drops the fraction of `x`. Numbers beyond the coordinate range stop at its ends, and NaN goes
to zero. -/
def truncate (x : Float) : Int :=
  if x < 0.0 then
    -(Min.min 2147483648 (-x).toUInt64.toNat : Nat)
  else
    (Min.min 2147483647 x.toUInt64.toNat : Nat)

/-- A coordinate as a double. Exact, since a coordinate has far fewer than 53 bits. -/
def ofInt (n : Int) : Float :=
  if n < 0 then -n.natAbs.toUInt64.toFloat else n.natAbs.toUInt64.toFloat

/-- A natural number below `2 ^ 64` as the nearest double. -/
def ofNat (n : Nat) : Float := n.toUInt64.toFloat

/-- Position of `x` in the order of all doubles, from the negative numbers of large magnitude up to
positive infinity and then NaN. -/
def rank (x : Float) : UInt64 :=
  let bits := x.toBits
  if bits < 0x8000000000000000 then bits ||| 0x8000000000000000 else ~~~ bits

end Crater.Double
