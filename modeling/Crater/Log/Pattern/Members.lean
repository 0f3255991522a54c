import Crater.Log.Pattern.Atom
/-!
# Sets of a pattern

A set is written in brackets: characters, ranges, named classes and further sets, and operators
between unions of these.
-/

namespace Crater.Log.Pattern

/-- A set that has been read in part. -/
structure OpenSet where
  /-- The union that is being read. -/
  union : Row := {}
  /-- The depth of what stands before the last operator. -/
  left : Option Nat := none

namespace OpenSet

def add (s : OpenSet) (depth : Nat) : OpenSet := { s with union := s.union.add depth }

def depth (s : OpenSet) : Nat :=
  match s.left with
  | none => s.union.depth
  | some left => max left s.union.depth + 1

/-- The set behind an operator. -/
def operate (s : OpenSet) : OpenSet := { left := some s.depth }

end OpenSet

def classNames : List String :=
  ["alnum", "alpha", "ascii", "blank", "cntrl", "digit", "graph", "lower", "print", "punct", "space",
    "upper", "word", "xdigit"]

/-- The rest of a named class behind its bracket, and whether all others are meant. -/
def readNamed : List Char → Option (Bool × List Char)
  | ':' :: cs =>
    let (negated, cs) :=
      match cs with
      | '^' :: cs => (true, cs)
      | cs => (false, cs)
    match cs.dropWhile (· != ':') with
    | ':' :: ']' :: rest =>
      if classNames.contains (String.ofList (cs.takeWhile (· != ':'))) then some (negated, rest)
      else none
    | _ => none
  | _ => none

/-- Whether a set in this mode may have a named class as a member. -/
def Mode.allowsNamed (mode : Mode) (negated : Bool) : Bool :=
  if mode.allScripts then !mode.ignoreCase else !negated

/-- Passes over hyphens at the start of a set, which stand for themselves, and counts them. -/
def skipHyphens (mode : Mode) : (fuel count : Nat) → List Char → Nat × List Char
  | fuel + 1, count, '-' :: cs => skipHyphens mode fuel (count + 1) (mode.skip cs)
  | _, count, cs => (count, cs)

/-- The start of a set behind its bracket. A closing bracket stands for itself if it comes first. -/
def readOpening (mode : Mode) (cs : List Char) : Option (OpenSet × List Char) :=
  let (negated, cs) :=
    match mode.skip cs with
    | '^' :: cs => (true, mode.skip cs)
    | cs => (false, cs)
  let (hyphens, cs) := skipHyphens mode cs.length 0 cs
  let (members, cs) :=
    match hyphens, cs with
    | 0, ']' :: cs => (1, mode.skip cs)
    | _, cs => (hyphens, cs)
  if negated && !mode.allScripts then none
  else if members != 0 && !(Atom.letter '-' false).isMember mode then none
  else some ({ union := ⟨members, 0⟩ }, cs)

/-- A character of a set, as such or behind a backslash. -/
def readMemberAtom (mode : Mode) : List Char → Option (Atom × List Char)
  | [] => none
  | '\\' :: cs => readEscape mode cs
  | c :: cs => some (.letter c false, cs)

/-- The next character that counts behind a hyphen. A comment that stands there counts from its first
character on. -/
def Mode.peek (mode : Mode) (cs : List Char) : Option Char :=
  if mode.spaced then
    match cs.dropWhile Text.isBlank with
    | '#' :: cs => (cs.dropWhile Text.isBlank).head?
    | cs => cs.head?
  else cs.head?

def skipMember (mode : Mode) (cs : List Char) : Option (List Char) := do
  let (first, cs) ← readMemberAtom mode cs
  let alone (cs : List Char) : Option (List Char) := if first.isMember mode then some cs else none
  match mode.skip cs with
  | '-' :: cs =>
    match mode.peek cs with
    | some ']' | some '-' => alone ('-' :: cs)
    | _ =>
      match first, ← readMemberAtom mode (mode.skip cs) with
      | .letter a _, (.letter b asByte, cs) =>
        if a ≤ b && first.isMember mode && (Atom.letter b asByte).isMember mode then some cs else none
      | _, _ => none
  | cs => alone cs

/-- The rest of a set and of the sets around it. Gives the depth of the outermost one. -/
def readMembers (mode : Mode) : (fuel : Nat) → OpenSet → List OpenSet → List Char →
    Option (Nat × List Char)
  | 0, _, _, _ => none
  | fuel + 1, set, outer, cs =>
    match mode.skip cs with
    | '[' :: cs =>
      match readNamed cs with
      | some (negated, cs) =>
        if mode.allowsNamed negated then readMembers mode fuel (set.add 0) outer cs else none
      | none => do
        let (inner, cs) ← readOpening mode cs
        readMembers mode fuel inner (set :: outer) cs
    | ']' :: cs =>
      match outer with
      | [] => some (set.depth + 1, cs)
      | parent :: outer => readMembers mode fuel (parent.add (set.depth + 1)) outer cs
    | '&' :: '&' :: cs | '-' :: '-' :: cs | '~' :: '~' :: cs =>
      readMembers mode fuel set.operate outer cs
    | cs => do
      let cs ← skipMember mode cs
      readMembers mode fuel (set.add 0) outer cs

/-- The rest of a set behind its bracket, with the depth of the set. -/
def readSet (mode : Mode) (cs : List Char) : Option (Nat × List Char) := do
  let (set, cs) ← readOpening mode cs
  readMembers mode (cs.length + 1) set [] cs

end Crater.Log.Pattern
