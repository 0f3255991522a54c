import Crater.Number.Double
/-!
# Single precision

Ray power, radii, resistances, damage and health are IEEE 754 binary32 numbers. This module adds to
core's `Float32` the conversions from and to doubles and the number-preferring minimum and maximum.

Widening is exact and narrowing rounds once, to nearest with ties to even: both hand the exact value
of the argument to the rounding of the other format.
-/

namespace Crater.Single

open Float.Model (Format UnpackedFloat)

def infinity : Float32 := Float32.ofBits 0x7F800000

/-- Rounds the value of a number to `format`; zeros, infinities and NaN stay what they are. -/
def roundTo (format : Format) : UnpackedFloat → UnpackedFloat
  | .finite sign mantissa exponent _ => UnpackedFloat.round format sign mantissa exponent
  | other => other

/-- A single as the double of the same value. -/
def widen (x : Float32) : Float :=
  Float.ofModel (.pack (roundTo .binary64 x.toModel.unpack))

/-- A double as the nearest single; a magnitude out of range becomes an infinity. -/
def narrow (x : Float) : Float32 :=
  Float32.ofModel (.pack (roundTo .binary32 x.toModel.unpack))

def ofInt (n : Int) : Float32 :=
  Float32.ofModel (.pack (UnpackedFloat.ofInt .binary32 n))

/-- The larger of two numbers; of a number and a NaN, the number. -/
def max (a b : Float32) : Float32 :=
  if a.isNaN then b else if b.isNaN then a else if a < b then b else a

def min (a b : Float32) : Float32 :=
  if a.isNaN then b else if b.isNaN then a else if b < a then b else a

end Crater.Single
