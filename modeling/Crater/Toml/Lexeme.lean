import Crater.Decimal.Read
import Crater.Number.Single
import Crater.Text.Character
import Crater.Toml.Value
/-!
# Words of a document

Readers of strings, numbers, keys and comments. A reader takes the characters ahead and gives what it
read and the characters behind it, or nothing if the text is not well formed.

Readers that loop take fuel. The number of characters ahead is always enough, since each round of a
loop passes over at least one.
-/

namespace Crater.Toml

def isBlank (c : Char) : Bool := c == ' ' || c == '\t'

/-- Characters that may not stand in comments and strings. -/
def isControl (c : Char) : Bool := (c.toNat < 0x20 && c != '\t') || c.toNat == 0x7F

def skipBlank (cs : List Char) : List Char := cs.dropWhile isBlank

def skipComment : List Char → Option (List Char)
  | '#' :: cs =>
    let rest := cs.dropWhile fun c => !isControl c
    match rest with
    | [] | '\n' :: _ | '\r' :: '\n' :: _ => some rest
    | _ => none
  | cs => some cs

def skipLines : (fuel : Nat) → List Char → Option (List Char)
  | 0, _ => none
  | fuel + 1, cs => do
    match ← skipComment (skipBlank cs) with
    | '\n' :: rest => skipLines fuel rest
    | '\r' :: '\n' :: rest => skipLines fuel rest
    | rest => some rest

/-! ## Strings -/

def hexValue (ds : List Char) : Option Nat :=
  ds.foldlM (fun n c => (Text.hexDigit c).map (16 * n + ·)) 0

def unicode (ds : List Char) : Option Char := do
  let n ← hexValue ds
  if n.isValidChar then some (Char.ofNat n) else none

/-- The character behind a backslash, and what follows it. -/
def readEscape : List Char → Option (Char × List Char)
  | 'b' :: cs => some ('\x08', cs)
  | 't' :: cs => some ('\t', cs)
  | 'n' :: cs => some ('\n', cs)
  | 'f' :: cs => some ('\x0c', cs)
  | 'r' :: cs => some ('\r', cs)
  | '"' :: cs => some ('"', cs)
  | '\\' :: cs => some ('\\', cs)
  | 'u' :: cs =>
    if (cs.take 4).length < 4 then none else (unicode (cs.take 4)).map fun c => (c, cs.drop 4)
  | 'U' :: cs =>
    if (cs.take 8).length < 8 then none else (unicode (cs.take 8)).map fun c => (c, cs.drop 8)
  | _ => none

/-- The rest of a string on one line, with escapes if `escapes`, up to the closing `quote`. -/
def readLineString (quote : Char) (escapes : Bool) :
    (fuel : Nat) → List Char → List Char → Option (String × List Char)
  | 0, _, _ => none
  | _, _, [] => none
  | fuel + 1, read, c :: cs =>
    if c == quote then some (String.ofList read.reverse, cs)
    else if escapes && c == '\\' then do
      let (c, cs) ← readEscape cs
      readLineString quote escapes fuel (c :: read) cs
    else if isControl c then none
    else readLineString quote escapes fuel (c :: read) cs

/-- Passes over blanks and line ends behind a backslash that ends a line. -/
def skipFold : (fuel : Nat) → List Char → List Char
  | 0, cs => cs
  | fuel + 1, cs =>
    match skipBlank cs with
    | '\n' :: rest => skipFold fuel rest
    | '\r' :: '\n' :: rest => skipFold fuel rest
    | rest => rest

def endsLine (cs : List Char) : Bool :=
  match skipBlank cs with
  | '\n' :: _ | '\r' :: '\n' :: _ => true
  | _ => false

/-- The rest of a string over several lines, up to three closing quotes. One or two quotes may stand
directly before them. -/
def readBlockString (quote : Char) (escapes : Bool) :
    (fuel : Nat) → List Char → List Char → Option (String × List Char)
  | 0, _, _ => none
  | _, _, [] => none
  | fuel + 1, read, c :: cs =>
    if c == quote then
      let more := (cs.takeWhile (· == quote)).length
      if more < 2 then readBlockString quote escapes fuel (c :: read) cs
      else
        let inside := min (more - 2) 2
        some (String.ofList (List.replicate inside quote ++ read).reverse, cs.drop (2 + inside))
    else if escapes && c == '\\' then
      if endsLine cs then readBlockString quote escapes fuel read (skipFold fuel cs)
      else do
        let (c, cs) ← readEscape cs
        readBlockString quote escapes fuel (c :: read) cs
    else if c == '\n' then readBlockString quote escapes fuel ('\n' :: read) cs
    else if c == '\r' then
      match cs with
      | '\n' :: cs => readBlockString quote escapes fuel ('\n' :: read) cs
      | _ => none
    else if isControl c then none
    else readBlockString quote escapes fuel (c :: read) cs

/-- Drops a line end directly behind opening quotes. -/
def dropFirstBreak : List Char → List Char
  | '\n' :: cs => cs
  | '\r' :: '\n' :: cs => cs
  | cs => cs

def readString (fuel : Nat) (cs : List Char) : Option (String × List Char) :=
  match cs with
  | '"' :: '"' :: '"' :: cs => readBlockString '"' true fuel [] (dropFirstBreak cs)
  | '\'' :: '\'' :: '\'' :: cs => readBlockString '\'' false fuel [] (dropFirstBreak cs)
  | '"' :: cs => readLineString '"' true fuel [] cs
  | '\'' :: cs => readLineString '\'' false fuel [] cs
  | _ => none

/-! ## Keys -/

def isBareKey (c : Char) : Bool := c.isAlphanum || c == '_' || c == '-'

def readKeyPart (fuel : Nat) (cs : List Char) : Option (String × List Char) :=
  match cs with
  | '"' :: cs => readLineString '"' true fuel [] cs
  | '\'' :: cs => readLineString '\'' false fuel [] cs
  | _ =>
    let bare := cs.takeWhile isBareKey
    if bare.isEmpty then none else some (String.ofList bare, cs.dropWhile isBareKey)

/-- The parts of a key of any length, with points between them. -/
def readKeyParts : (fuel : Nat) → List Char → Option (List String × List Char)
  | 0, _ => none
  | fuel + 1, cs => do
    let (part, cs) ← readKeyPart fuel (skipBlank cs)
    match skipBlank cs with
    | '.' :: cs =>
      let (parts, cs) ← readKeyParts fuel cs
      some (part :: parts, cs)
    | cs => some ([part], cs)

/-- How deep values are nested at most, and how many parts a key has at most. -/
def maxNesting : Nat := 79

def readKey (fuel : Nat) (cs : List Char) : Option (List String × List Char) := do
  let (parts, cs) ← readKeyParts fuel cs
  if parts.length ≤ maxNesting then some (parts, cs) else none

/-! ## Numbers -/

/-- Digits, with single underscores between them. -/
def digitRun (isDigit : Char → Bool) : List Char → List Char × List Char
  | '_' :: c :: cs =>
    if isDigit c then
      let (ds, rest) := digitRun isDigit cs
      (c :: ds, rest)
    else ([], '_' :: c :: cs)
  | c :: cs =>
    if isDigit c then
      let (ds, rest) := digitRun isDigit cs
      (c :: ds, rest)
    else ([], c :: cs)
  | [] => ([], [])

/-- At least one digit, the first of them not behind an underscore. -/
def readDigitRun (isDigit : Char → Bool) (cs : List Char) : Option (List Char × List Char) :=
  match cs with
  | c :: _ => if isDigit c then some (digitRun isDigit cs) else none
  | [] => none

/-- A decimal integer without sign: zero, or digits that do not start with one. -/
def readWhole : List Char → Option (List Char × List Char)
  | '0' :: cs => some (['0'], cs)
  | cs => readDigitRun Char.isDigit cs

/-- Integers are limited to 64 bits with sign. -/
def integerInRange (n : Int) : Option Value :=
  if Int64.minValue.toInt ≤ n && n ≤ Int64.maxValue.toInt then some (.integer n) else none

/-- The value of digits in the given base, if each is below it. -/
def baseValue (base : Nat) (ds : List Char) : Option Nat :=
  ds.foldlM (fun n c => (Text.hexDigit c).bind fun d => if d < base then some (base * n + d) else none) 0

/-- An integer in base sixteen, eight or two, behind its mark. -/
def readBased (base : Nat) (isDigit : Char → Bool) (cs : List Char) : Option (Value × List Char) := do
  let (ds, cs) ← readDigitRun isDigit cs
  let value ← integerInRange (← baseValue base ds)
  some (value, cs)

def readExponent (cs : List Char) : Option (Int × List Char) := do
  let (negative, cs) := Decimal.splitSign cs
  let (ds, cs) ← readDigitRun Char.isDigit cs
  let n : Int := Decimal.digitsValue ds
  some (if negative then -n else n, cs)

/-- A float is its decimal rounded to a double; a number too large for that is refused. -/
def floatOf (negative : Bool) (significand : Nat) (exponent : Int) : Option Value :=
  let x := (Decimal.Literal.decimal negative significand exponent).toDouble
  if x == Double.infinity then none else some (.float x)

/-- What follows the integer part of a number: a fraction, a power of ten, both or neither. -/
def readTail (negative : Bool) (whole : List Char) (cs : List Char) : Option (Value × List Char) :=
  let n := Decimal.digitsValue whole
  match cs with
  | '.' :: cs => do
    let (ds, cs) ← readDigitRun Char.isDigit cs
    let (power, cs) ←
      match cs with
      | 'e' :: cs | 'E' :: cs => readExponent cs
      | cs => some (0, cs)
    let value ← floatOf negative (Decimal.digitsValue (whole ++ ds)) (power - ds.length)
    some (value, cs)
  | 'e' :: cs | 'E' :: cs => do
    let (power, cs) ← readExponent cs
    let value ← floatOf negative n power
    some (value, cs)
  | cs => do
    let value ← integerInRange (if negative then -n else n)
    some (value, cs)

def readSigned (cs : List Char) : Option (Value × List Char) := do
  let (negative, cs) := Decimal.splitSign cs
  match cs with
  | 'i' :: 'n' :: 'f' :: cs =>
    some (.float (Decimal.Literal.infinite negative).toDouble, cs)
  | 'n' :: 'a' :: 'n' :: cs => some (.float Decimal.Literal.nan.toDouble, cs)
  | cs => do
    let (whole, cs) ← readWhole cs
    readTail negative whole cs

def readNumber (cs : List Char) : Option (Value × List Char) :=
  match cs with
  | '0' :: 'x' :: cs => readBased 16 (fun c => (Text.hexDigit c).isSome) cs
  | '0' :: 'o' :: cs => readBased 8 (fun c => '0' ≤ c && c ≤ '7') cs
  | '0' :: 'b' :: cs => readBased 2 (fun c => c == '0' || c == '1') cs
  | cs => readSigned cs

end Crater.Toml
