import Crater.Decimal.Shortest
/-!
# Numbers as text

Two ways to write a float. The shortest digits are laid out by a `Layout` record, which says where
positional notation ends and how many places stand after the point at least. Fixed places round the
exact value, a half to the even neighbour.
-/

namespace Crater.Decimal

def digits (n : Nat) : List Char := Nat.toDigits 10 n

/-- Text of a number that has no digits, or of one that has: the sign and then the magnitude. -/
def Reading.text (magnitude : Binary → List Char) : Reading → String
  | .nan => "NaN"
  | .infinite negative => if negative then "-inf" else "inf"
  | .finite negative b => String.ofList (if negative then '-' :: magnitude b else magnitude b)

def dropTrailingZeros (ds : List Char) : List Char :=
  (ds.reverse.dropWhile (· == '0')).reverse

structure Layout where
  /-- The least number of places after the point. -/
  places : Nat
  /-- Exponents of the first digit that are written positionally; `none` for all. -/
  positional : Option (Int × Int)

namespace Layout

/-- All digits around a point, and no point if nothing follows it. -/
def positionally (layout : Layout) (d : Digits) : List Char :=
  let ds := digits d.significand
  let before := (ds.length + d.exponent).toNat
  let whole :=
    if before == 0 then ['0']
    else ds.take before ++ List.replicate d.exponent.toNat '0'
  let rest :=
    dropTrailingZeros (List.replicate (-(ds.length + d.exponent)).toNat '0' ++ ds.drop before)
  let fraction := rest ++ List.replicate (layout.places - rest.length) '0'
  if fraction.isEmpty then whole else whole ++ '.' :: fraction

/-- One digit before the point and a power of ten behind. -/
def scientifically (d : Digits) : List Char :=
  let ds := digits d.significand
  let power := ds.length - 1 + d.exponent
  let rest := dropTrailingZeros ds.tail
  let mantissa := if rest.isEmpty then ds.take 1 else ds.take 1 ++ '.' :: rest
  mantissa ++ 'e' :: (toString power).toList

def magnitude (layout : Layout) (b : Binary) : List Char :=
  let d := b.shortest
  let power := (digits d.significand).length - 1 + d.exponent
  match layout.positional with
  | none => layout.positionally d
  | some (least, most) =>
    if b.mantissa == 0 || (least ≤ power && power ≤ most) then layout.positionally d
    else scientifically d

/-- Numbers in messages: always positional, and an integer has no point. -/
def plain : Layout := ⟨0, none⟩

/-- Numbers in log fields: at least one place after the point, positional from `1e-4` up to but not
including `1e16`. -/
def field : Layout := ⟨1, some (-4, 15)⟩

end Layout

def plainSingle (x : Float32) : String := (Reading.ofSingle x).text Layout.plain.magnitude

def fieldDouble (x : Float) : String := (Reading.ofDouble x).text Layout.field.magnitude

/-- The integer nearest to `num / den`, of two equally near ones the even one. -/
def roundHalfEven (num den : Nat) : Nat :=
  let q := num / den
  let r := 2 * (num % den)
  if r < den then q else if den < r then q + 1 else q + q % 2

/-- A magnitude with exactly `places` digits after the point, for at least one place. -/
def fixedMagnitude (places : Nat) (b : Binary) : List Char :=
  let (num, den) := Binary.scaled b.mantissa b.exponent (-places)
  let ds := digits (roundHalfEven num den)
  let padded := List.replicate (places + 1 - ds.length) '0' ++ ds
  let before := padded.length - places
  padded.take before ++ '.' :: padded.drop before

def fixed (places : Nat) (x : Float) : String :=
  (Reading.ofDouble x).text (fixedMagnitude places)

end Crater.Decimal
