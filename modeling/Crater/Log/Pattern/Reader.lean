import Crater.Log.Pattern.Members
/-!
# Patterns

A pattern is a row of parts, or several with bars between them. A part is a character, a set, or a
group in parentheses, and may be repeated. A pattern comes from between braces and holds no closing
one, so an opening brace, which would start the count of a repetition, is a fault.

The reader goes through the text once and keeps the groups that are open. Besides the parts it
measures the depth of the tree, which is limited.
-/

namespace Crater.Log.Pattern

/-- What matters about a part that has been read. -/
structure Part where
  depth : Nat := 0
  /-- Whether it may be repeated. -/
  repeatable : Bool := true

structure OpenGroup where
  /-- The branches before the last bar. -/
  branches : Row := {}
  /-- The parts of the last branch but the last part. -/
  parts : Row := {}
  last : Option Part := none

namespace OpenGroup

def branch (g : OpenGroup) : Row := (g.last.map fun p => g.parts.add p.depth).getD g.parts

def add (g : OpenGroup) (part : Part) : OpenGroup := { g with parts := g.branch, last := some part }

def allBranches (g : OpenGroup) : Row := g.branches.add g.branch.depth

/-- The group behind a bar. -/
def bar (g : OpenGroup) : OpenGroup := { branches := g.allBranches }

def repeatLast (g : OpenGroup) : Option OpenGroup := do
  let part ← g.last
  if part.repeatable then some { g with last := some { depth := part.depth + 1 } } else none

/-- The group as a part of the group around it. -/
def close (g : OpenGroup) : Part := { depth := g.allBranches.depth + 1 }

end OpenGroup

def switches : List Char := ['i', 'm', 's', 'U', 'u', 'R', 'x']

/-- Whether letters are switches, each at most once, with those to be turned off behind a minus. -/
def isSwitchList : List Char → Bool
  | [] => true
  | ['-'] => false
  | c :: cs => (c == '-' || switches.contains c) && !cs.contains c && isSwitchList cs

def Mode.turn (mode : Mode) (letters : List Char) : Mode :=
  let on := letters.takeWhile (· != '-')
  let turned (c : Char) (old : Bool) : Bool := if letters.contains c then on.contains c else old
  { ignoreCase := turned 'i' mode.ignoreCase
    allScripts := turned 'u' mode.allScripts
    spaced := turned 'x' mode.spaced }

def isGroupName : List Char → Bool
  | [] => false
  | c :: cs =>
    (c == '_' || Text.isLetter c) &&
      cs.all fun c => ['_', '.', '[', ']'].contains c || Text.isLetterOrNumeral c

/-- What an opening parenthesis turned out to be. -/
inductive Opening where
  /-- Switches that hold up to the end of the group around them. -/
  | turn (mode : Mode)
  /-- A group, which may have switches or a name of its own. -/
  | group (mode : Mode) (name : Option String)

/-- The rest of a name, up to its closing mark. -/
def readName (mode : Mode) (cs : List Char) : Option (Opening × List Char) :=
  let name := cs.takeWhile (· != '>')
  match cs.dropWhile (· != '>') with
  | '>' :: cs => if isGroupName name then some (.group mode (String.ofList name), cs) else none
  | _ => none

/-- What stands behind an opening parenthesis up to the first part of the group. Conditions on the
text around a place are not supported. -/
def readParenthesis (mode : Mode) (cs : List Char) : Option (Opening × List Char) :=
  match mode.skip cs with
  | '?' :: '=' :: _ | '?' :: '!' :: _ | '?' :: '<' :: '=' :: _ | '?' :: '<' :: '!' :: _ => none
  | '?' :: 'P' :: '<' :: cs | '?' :: '<' :: cs => readName mode cs
  | '?' :: cs =>
    let isEnd (c : Char) : Bool := c == ':' || c == ')'
    let letters := cs.takeWhile (!isEnd ·)
    if !isSwitchList letters then none
    else
      match cs.dropWhile (!isEnd ·) with
      | ':' :: cs => some (.group (mode.turn letters) none, cs)
      | ')' :: cs => if letters.isEmpty then none else some (.turn (mode.turn letters), cs)
      | _ => none
  | cs => some (.group mode none, cs)

/-- Drops the mark that makes a repetition reluctant. -/
def dropReluctance : List Char → List Char
  | '?' :: cs => cs
  | cs => cs

/-- The depth of a pattern. The open groups stand with the modes to return to behind them, and `names`
are the names that groups already have. -/
def readParts : (fuel : Nat) → Mode → (names : List String) → OpenGroup →
    (outer : List (Mode × OpenGroup)) → List Char → Option Nat
  | 0, _, _, _, _, _ => none
  | fuel + 1, mode, names, group, outer, cs =>
    let part (atom : Atom) (cs : List Char) : Option Nat :=
      if atom.isAllowed mode then readParts fuel mode names (group.add {}) outer cs else none
    match mode.skip cs with
    | [] => if outer.isEmpty then some group.allBranches.depth else none
    | '(' :: cs => do
      match ← readParenthesis mode cs with
      | (.turn turned, cs) =>
        readParts fuel turned names (group.add { repeatable := false }) outer cs
      | (.group inner none, cs) => readParts fuel inner names {} ((mode, group) :: outer) cs
      | (.group inner (some name), cs) =>
        if names.contains name then none
        else readParts fuel inner (name :: names) {} ((mode, group) :: outer) cs
    | ')' :: cs =>
      match outer with
      | [] => none
      | (mode, parent) :: outer => readParts fuel mode names (parent.add group.close) outer cs
    | '|' :: cs => readParts fuel mode names group.bar outer cs
    | '[' :: cs => do
      let (depth, cs) ← readSet mode cs
      readParts fuel mode names (group.add { depth }) outer cs
    | '?' :: cs | '*' :: cs | '+' :: cs => do
      readParts fuel mode names (← group.repeatLast) outer (dropReluctance cs)
    | '\x7b' :: _ => none
    | '\\' :: cs => do
      let (atom, cs) ← readEscape mode cs
      part atom cs
    | '.' :: cs =>
      if mode.allScripts then readParts fuel mode names (group.add {}) outer cs else none
    | '^' :: cs | '$' :: cs => part (.edge false) cs
    | c :: cs => part (.letter c false) cs

def maxDepth : Nat := 250

def isPattern (text : List Char) : Bool :=
  (readParts (text.length + 1) {} [] {} [] text).any (· ≤ maxDepth)

end Crater.Log.Pattern
