/-!
# Floating-point numbers as exact values

Printing works on the exact value of a float, a natural number times a power of two, and not on the
float itself. This module takes a bit pattern apart into that value.
-/

namespace Crater.Decimal

/-- The magnitude `mantissa * 2 ^ exponent` of a float. -/
structure Binary where
  mantissa : Nat
  exponent : Int
  /-- The next smaller float is only half as far away as the next larger one. -/
  closeBelow : Bool

/-- What a float stands for. -/
inductive Reading where
  | nan
  | infinite (negative : Bool)
  | finite (negative : Bool) (magnitude : Binary)

namespace Reading

/-- Reads an interchange format with `exponentBits` bits of exponent and `fractionBits` bits of
fraction. -/
def ofBits (exponentBits fractionBits bits : Nat) : Reading :=
  let hidden := 1 <<< fractionBits
  let fields := 1 <<< exponentBits
  let fraction := bits % hidden
  let field := bits / hidden % fields
  let negative := bits / (hidden * fields) % 2 == 1
  let least : Int := 2 - (fields / 2 : Nat) - fractionBits
  if field == fields - 1 then
    if fraction == 0 then infinite negative else nan
  else if field == 0 then
    finite negative ⟨fraction, least, false⟩
  else
    finite negative ⟨hidden + fraction, least + (field - 1), fraction == 0 && field != 1⟩

def ofDouble (x : Float) : Reading := ofBits 11 52 x.toBits.toNat

def ofSingle (x : Float32) : Reading := ofBits 8 23 x.toBits.toNat

end Reading

end Crater.Decimal
