import Crater.Decimal.Read
import Crater.Log.Pattern.Reader
import Crater.Log.Record
/-!
# Log filters

Which records are shown. A filter is a list of directives with commas between them. A directive is a
verbosity, a target, or a target with a verbosity behind an equals sign, and a target without one is
shown in full. A directive for a target holds for all targets that start with it. Of the directives
that hold for a record the one with the longest target decides, and of several for one target the
last.

A directive may also name a span in brackets, and in the brackets a field in braces. There are no spans
here, so directives with the name of a span or the value of a field never hold; a directive with a field
holds for records that have it.
-/

namespace Crater.Log

/-- One rule of a filter. -/
structure Directive where
  /-- The start of the targets it holds for; all if there is none. -/
  target : Option String
  /-- The field that a record needs. -/
  field : Option String := none
  /-- Whether it asks for a span. -/
  inSpan : Bool := false
  verbosity : Nat

def fullVerbosity : Nat := Level.trace.verbosity

/-- The verbosity that a number from 0 to 5 or the name of a level in any case stands for. -/
def verbosityOfText? (text : String) : Option Nat :=
  match Decimal.readNatural (fullVerbosity + 1) text with
  | .ok n => some n
  | .error _ =>
    match String.ofList (text.toList.map Char.toLower) with
    | "off" => some 0
    | "error" => some Level.error.verbosity
    | "warn" => some Level.warn.verbosity
    | "info" => some Level.info.verbosity
    | "debug" => some Level.debug.verbosity
    | "trace" => some Level.trace.verbosity
    | _ => none

namespace Directive

/-- The verbosity behind an equals sign; everything if nothing stands there. -/
def verbosityAfter (text : List Char) : Option Nat :=
  if text.isEmpty then some fullVerbosity else verbosityOfText? (String.ofList text)

def isStart (c : Char) : Bool := ['[', '-', ':', '_'].contains c || Text.isLetterOrNumeral c

/-- Whether a text may stand for the value of a field: a number or a pattern. -/
def isValue (text : List Char) : Bool :=
  (Decimal.readNumber (String.ofList text)).isOk || Pattern.isPattern text

/-- Whether the value that a field asks for is well formed, if it asks for one. It ends at the second
equals sign. -/
def hasGoodValue (field : List Char) : Bool :=
  match field.dropWhile (· != '=') with
  | [] => true
  | _ :: value => isValue (value.takeWhile (· != '='))

/-- The part of a directive from the opening bracket on. Parts are found in `scanned` and cut from
`given`, both read from `place` on. -/
def ofBrackets? (target : Option String) (given scanned : List Char) (place : Nat) :
    Option Directive :=
  let span := (scanned.drop (place + 1)).takeWhile fun c => c != ']' && c != '\x7b'
  let afterSpan := place + 1 + span.length
  let finish (field : Option String) (inSpan : Bool) (place : Nat) : Option Directive :=
    match scanned.drop place with
    | [] => some { target, field, inSpan, verbosity := fullVerbosity }
    | '=' :: _ => do
      let verbosity ← verbosityAfter (given.drop (place + 1))
      return { target, field, inSpan, verbosity }
    | _ => none
  match scanned.drop afterSpan with
  | ']' :: _ => finish none true (afterSpan + 1)
  | '\x7b' :: inside =>
    let length := (inside.takeWhile (· != '\x7d')).length
    let field := (given.drop (afterSpan + 1)).take length
    let name := field.takeWhile (· != '=')
    if length == 0 || !hasGoodValue field then none
    else
      match inside.drop length with
      | '\x7d' :: ']' :: _ =>
        finish (some (String.ofList name)) (!span.isEmpty || name.length < field.length)
          (afterSpan + 1 + length + 2)
      | _ => none
  | _ => none

/-- Reads a directive. The places where its parts begin and end are counted without the blanks around
the directive, but the parts are cut from the text as it is given, so blanks in front shift every
part. -/
def ofText? (text : String) : Option Directive :=
  let given := text.toList
  let scanned := ((given.dropWhile Text.isBlank).reverse.dropWhile Text.isBlank).reverse
  if !(scanned.head?.any isStart) then none
  else
    let place := (scanned.takeWhile fun c => c != '=' && c != '[').length
    let target := String.ofList (given.take place)
    match scanned.drop place with
    | [] =>
      match verbosityOfText? text with
      | some verbosity => some { target := none, verbosity }
      | none => some { target := text, verbosity := fullVerbosity }
    | '=' :: _ => do
      let verbosity ← verbosityAfter (given.drop (place + 1))
      return { target, verbosity }
    | _ => ofBrackets? (if place == 0 then none else some target) given scanned place

def holdsFor (d : Directive) (r : Record) : Bool :=
  !d.inSpan && d.target.all (fun t => r.target.startsWith t) &&
    d.field.all fun f => f == "message" || r.fields.any (·.1 == f)

/-- Whether a directive is at least as specific as another that holds for the same record. -/
def isAsSpecificAs (d e : Directive) : Bool :=
  let target (d : Directive) : Nat := (d.target.map (·.length + 1)).getD 0
  let field (d : Directive) : Nat := if d.field.isSome then 1 else 0
  target e < target d || (target e == target d &&
    (field e < field d || (field e == field d && e.field.getD "" ≤ d.field.getD "")))

end Directive

/-- The directives that say which records are shown. -/
structure Filter where
  directives : List Directive

namespace Filter

def ofVerbosity (verbosity : Nat) : Filter := ⟨[{ target := none, verbosity }]⟩

/-- Reads a filter. Without any directive it shows nothing; one faulty directive spoils it. -/
def ofText? (text : String) : Option Filter := do
  let parts := (text.splitOn ",").filter (!·.isEmpty)
  return ⟨← parts.mapM Directive.ofText?⟩

def deciding? (f : Filter) (r : Record) : Option Directive :=
  f.directives.foldl
    (fun best d =>
      if d.holdsFor r && best.all d.isAsSpecificAs then some d else best)
    none

def shows (f : Filter) (r : Record) : Bool :=
  (f.deciding? r).any fun d => r.level.verbosity ≤ d.verbosity

end Filter

end Crater.Log
