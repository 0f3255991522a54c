import Crater.Decimal.Binary
/-!
# Shortest digits

The digits chosen for a float are the fewest that read back as the same float, and among those the
nearest to its value. A decimal reads back if it lies in the interval of reals that round to the
float; the ends of the interval belong to it when the mantissa is even.

For one digit, two digits and so on the value's two neighbours on the decimal grid of that length are
tried. If any point of a grid lies in the interval then so does one of these two, so the first grid
with a hit has the fewest digits.
-/

namespace Crater.Decimal

/-- A decimal `significand * 10 ^ exponent`. -/
structure Digits where
  significand : Nat
  exponent : Int
  deriving Repr, DecidableEq

namespace Binary

/-- `a * 2 ^ e / 10 ^ k` as a fraction of natural numbers. -/
def scaled (a : Nat) (e k : Int) : Nat × Nat :=
  (a * Nat.pow 2 e.toNat * Nat.pow 10 (-k).toNat, Nat.pow 2 (-e).toNat * Nat.pow 10 k.toNat)

/-- The exponent of the first decimal digit of the fraction `num / den`, which is not zero. -/
def leading (num den : Nat) : Int :=
  if den ≤ num then
    (Nat.toDigits 10 (num / den)).length - 1
  else
    -(Nat.toDigits 10 ((den - 1) / num)).length

/-- Whether `c * 10 ^ k` rounds to the float. Bounds are counted in quarters of the last place. -/
def readsBack (b : Binary) (c : Nat) (k : Int) : Bool :=
  let low := if b.closeBelow then 4 * b.mantissa - 1 else 4 * b.mantissa - 2
  let high := 4 * b.mantissa + 2
  let (lowNum, den) := scaled low (b.exponent - 2) k
  let (highNum, _) := scaled high (b.exponent - 2) k
  if b.mantissa % 2 == 0 then
    lowNum ≤ c * den && c * den ≤ highNum
  else
    lowNum < c * den && c * den < highNum

/-- The point of the grid of step `10 ^ k` that reads back and is nearest to the value. A value in
the middle of two such points takes the larger. -/
def onGrid? (b : Binary) (k : Int) : Option Nat :=
  let (num, den) := scaled b.mantissa b.exponent k
  let c := num / den
  let below := b.readsBack c k
  let above := b.readsBack (c + 1) k
  if below && above then
    if 2 * (num % den) < den then some c else some (c + 1)
  else if below then some c
  else if above then some (c + 1)
  else none

/-- Tries grids of `n`, `n + 1`, … digits, `tries` of them, below the first digit's place. -/
def shortestFrom (b : Binary) (place : Int) (n : Nat) : (tries : Nat) → Digits
  | 0 => ⟨b.mantissa, b.exponent⟩
  | tries + 1 =>
    let k := place - n + 1
    match b.onGrid? k with
    | some c => ⟨c, k⟩
    | none => shortestFrom b place (n + 1) tries

/-- The fewest digits that read back. Seventeen are enough for a double. -/
def shortest (b : Binary) : Digits :=
  if b.mantissa == 0 then ⟨0, 0⟩
  else
    let (num, den) := scaled b.mantissa b.exponent 0
    b.shortestFrom (leading num den) 1 17

end Binary

end Crater.Decimal
