/-!
# Numbers from text

A number is an optional sign, digits with an optional point among, before or after them, and an
optional power of ten; or one of the words for infinity and NaN in any case. The exact decimal is
rounded once to the float that is asked for.
-/

namespace Crater.Decimal

inductive NumberFault where
  | empty
  | invalid
  deriving DecidableEq, Repr

inductive NaturalFault where
  | empty
  | invalidDigit
  | tooLarge
  deriving DecidableEq, Repr

/-- A number as it is written. -/
inductive Literal where
  | nan
  | infinite (negative : Bool)
  /-- `significand * 10 ^ exponent` -/
  | decimal (negative : Bool) (significand : Nat) (exponent : Int)
  deriving DecidableEq, Repr

namespace Literal

def toDouble : Literal → Float
  | nan => 0.0 / 0.0
  | infinite negative => if negative then -1.0 / 0.0 else 1.0 / 0.0
  | decimal negative m e =>
    let x := Float.ofScientific m (e < 0) e.natAbs
    if negative then -x else x

def toSingle : Literal → Float32
  | nan => 0.0 / 0.0
  | infinite negative => if negative then -1.0 / 0.0 else 1.0 / 0.0
  | decimal negative m e =>
    let x := Float32.ofScientific m (e < 0) e.natAbs
    if negative then -x else x

end Literal

def digitsValue (ds : List Char) : Nat :=
  ds.foldl (fun n c => 10 * n + (c.toNat - '0'.toNat)) 0

/-- Splits off an optional sign; `true` for minus. -/
def splitSign : List Char → Bool × List Char
  | '-' :: cs => (true, cs)
  | '+' :: cs => (false, cs)
  | cs => (false, cs)

/-- The power of ten after the digits: nothing, or `e` with a signed integer. -/
def readPower : List Char → Option Int
  | [] => some 0
  | c :: cs =>
    if c == 'e' || c == 'E' then
      let (negative, ds) := splitSign cs
      if ds.isEmpty || !ds.all Char.isDigit then none
      else if negative then some (-(digitsValue ds)) else some (digitsValue ds)
    else none

/-- An unsigned decimal. At least one digit stands before or after the point. -/
def readUnsigned (cs : List Char) : Option (Nat × Int) :=
  let whole := cs.takeWhile Char.isDigit
  let rest := cs.dropWhile Char.isDigit
  let (fraction, tail) :=
    match rest with
    | '.' :: more => (more.takeWhile Char.isDigit, more.dropWhile Char.isDigit)
    | _ => ([], rest)
  if whole.isEmpty && fraction.isEmpty then none
  else (readPower tail).map fun power =>
    (digitsValue (whole ++ fraction), power - fraction.length)

def readNumber (text : String) : Except NumberFault Literal :=
  if text.isEmpty then .error .empty
  else
    let (negative, body) := splitSign text.toList
    let word := String.ofList (body.map Char.toLower)
    if word == "nan" then .ok .nan
    else if word == "inf" || word == "infinity" then .ok (.infinite negative)
    else
      match readUnsigned body with
      | some (m, e) => .ok (.decimal negative m e)
      | none => .error .invalid

/-- Reads digits from the left onto `n`, which stays below `limit`. The first digit that leaves the
range or is none decides. -/
def readDigits (limit : Nat) : Nat → List Char → Except NaturalFault Nat
  | n, [] => .ok n
  | n, c :: cs =>
    if !c.isDigit then .error .invalidDigit
    else
      let n := 10 * n + (c.toNat - '0'.toNat)
      if n < limit then readDigits limit n cs else .error .tooLarge

/-- Reads a natural number below `limit`; a plus sign may stand before the digits. -/
def readNatural (limit : Nat) (text : String) : Except NaturalFault Nat :=
  match text.toList with
  | [] => .error .empty
  | '+' :: c :: cs => readDigits limit 0 (c :: cs)
  | cs => readDigits limit 0 cs

end Crater.Decimal
