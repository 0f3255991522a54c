import Crater.Text.Character
/-!
# Single characters of a pattern

A field of a log directive may ask for a value, written as a regular expression. No span carries a
value here, so patterns are never matched. What matters is whether a text is a pattern at all, because
a faulty one spoils the filter.

Patterns may hold any character, but the tables of all scripts are not at hand. With them a pattern
could ignore case and speak of digits, blanks and words, so these are faults while it is about
characters of all scripts. With the switch `u` off it is about bytes, and then a part of a pattern
is a fault if it could match half a character.
-/

namespace Crater.Log.Pattern

/-- The switches that decide which parts a pattern may have. -/
structure Mode where
  ignoreCase : Bool := false
  /-- Whether the pattern is about characters of all scripts, and not bytes. -/
  allScripts : Bool := true
  /-- Whether blanks and comments may stand between the parts. -/
  spaced : Bool := false

/-- Passes over blanks and comments, which run to the end of their line. -/
def skipSpace (inComment : Bool) : List Char → List Char
  | [] => []
  | c :: cs =>
    if inComment then skipSpace (c != '\n') cs
    else if c == '#' then skipSpace true cs
    else if Text.isBlank c then skipSpace false cs
    else c :: cs

/-- Passes over what may stand between two parts. -/
def Mode.skip (mode : Mode) (cs : List Char) : List Char :=
  if mode.spaced then skipSpace false cs else cs

/-- A part of a pattern that stands for one character or for a place between two. -/
inductive Atom where
  /-- A character, as such or by its code; `asByte` if the code has two digits. -/
  | letter (c : Char) (asByte : Bool)
  /-- All digits, blanks or word characters, or all others. -/
  | kind (negated : Bool)
  /-- An end of the text, or an end of a word. -/
  | edge (ofWord : Bool)

/-- A character code of a given number of digits, read on from `code`. -/
def readCode (mode : Mode) : (digits code : Nat) → List Char → Option (Char × List Char)
  | 0, code, cs => if code.isValidChar then some (Char.ofNat code, cs) else none
  | _ + 1, _, [] => none
  | digits + 1, code, c :: cs => do
    let digit ← Text.hexDigit c
    readCode mode digits (16 * code + digit) (mode.skip cs)

/-- The part behind a backslash. Letters and digits without a meaning of their own may not stand
there, and neither may classes of characters by their properties, which need tables. -/
def readEscape (mode : Mode) : List Char → Option (Atom × List Char)
  | [] => none
  | c :: cs =>
    let letter (c : Char) : Option (Atom × List Char) := some (.letter c false, cs)
    match c with
    | 'x' => (readCode mode 2 0 (mode.skip cs)).map fun (c, cs) => (.letter c true, cs)
    | 'u' => (readCode mode 4 0 (mode.skip cs)).map fun (c, cs) => (.letter c false, cs)
    | 'U' => (readCode mode 8 0 (mode.skip cs)).map fun (c, cs) => (.letter c false, cs)
    | 'd' | 's' | 'w' => some (.kind false, cs)
    | 'D' | 'S' | 'W' => some (.kind true, cs)
    | 'a' => letter '\x07'
    | 'f' => letter '\x0c'
    | 't' => letter '\t'
    | 'n' => letter '\n'
    | 'r' => letter '\r'
    | 'v' => letter '\x0b'
    | 'A' | 'z' => some (.edge false, cs)
    | 'b' | 'B' | '<' | '>' => some (.edge true, cs)
    | c => if Text.isAscii c && !c.isAlphanum then letter c else none

namespace Atom

def isAllowed (mode : Mode) : Atom → Bool
  | letter c asByte => if mode.allScripts then !mode.ignoreCase else !asByte || Text.isAscii c
  | kind negated => !mode.allScripts && !negated
  | edge ofWord => !mode.allScripts || !ofWord

/-- Whether a set in this mode may have the part as a member. -/
def isMember (mode : Mode) : Atom → Bool
  | letter c _ => if mode.allScripts then !mode.ignoreCase else Text.isAscii c
  | kind negated => !mode.allScripts && !negated
  | edge _ => false

end Atom

/-- Parts in a row, as they stand in the tree of a pattern: several parts make a node of their own, a
single one does not. -/
structure Row where
  count : Nat := 0
  /-- The depth of the deepest part. -/
  deepest : Nat := 0

namespace Row

def add (r : Row) (depth : Nat) : Row := ⟨r.count + 1, max r.deepest depth⟩

def depth (r : Row) : Nat := if r.count ≤ 1 then r.deepest else r.deepest + 1

end Row

end Crater.Log.Pattern
