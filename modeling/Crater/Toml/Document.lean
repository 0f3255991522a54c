import Crater.Toml.Lexeme
/-!
# Documents

A document is a sequence of lines, each of which is empty, opens a table, or gives a key a value.
Keys belong to the table that was opened last.
-/

namespace Crater.Toml

mutual

/-- A value of any kind. Arrays and tables in it are at most `room` deep. -/
def readValue : (fuel room : Nat) → List Char → Option (Value × List Char)
  | 0, _, _ => none
  | fuel + 1, room, cs =>
    match cs with
    | '"' :: _ | '\'' :: _ => (readString fuel cs).map fun (s, cs) => (.string s, cs)
    | '[' :: cs =>
      if room == 0 then none
      else (readItems fuel (room - 1) [] cs).map fun (items, cs) => (.array items, cs)
    | '{' :: cs =>
      if room == 0 then none
      else
        match skipBlank cs with
        | '}' :: cs => some (.table .braces [], cs)
        | cs =>
          (readPairs fuel (room - 1) [] cs).map fun (entries, cs) => (.table .braces entries, cs)
    | 't' :: 'r' :: 'u' :: 'e' :: cs => some (.boolean true, cs)
    | 'f' :: 'a' :: 'l' :: 's' :: 'e' :: cs => some (.boolean false, cs)
    | cs =>
      match readMoment cs with
      | some (moment, cs) => some (.moment moment, cs)
      | none => readNumber cs

/-- The rest of an array. Items may stand on lines of their own and a comma may follow the last. -/
def readItems : (fuel room : Nat) → List Value → List Char → Option (List Value × List Char)
  | 0, _, _, _ => none
  | fuel + 1, room, read, cs => do
    match ← skipLines (fuel + 1) cs with
    | ']' :: cs => some (read.reverse, cs)
    | cs =>
      let (value, cs) ← readValue fuel room cs
      match ← skipLines (fuel + 1) cs with
      | ']' :: cs => some ((value :: read).reverse, cs)
      | ',' :: cs => readItems fuel room (value :: read) cs
      | _ => none

/-- The rest of a table in braces, which stands on one line. -/
def readPairs : (fuel room : Nat) → Entries → List Char → Option (Entries × List Char)
  | 0, _, _, _ => none
  | fuel + 1, room, entries, cs => do
    let (entries, cs) ← readPair fuel room entries cs
    match skipBlank cs with
    | '}' :: cs => some (entries, cs)
    | ',' :: cs => readPairs fuel room entries cs
    | _ => none

/-- A key, an equals sign and a value, added to a table. -/
def readPair : (fuel room : Nat) → Entries → List Char → Option (Entries × List Char)
  | 0, _, _, _ => none
  | fuel + 1, room, entries, cs => do
    match ← readKey (fuel + 1) cs with
    | (key, '=' :: cs) =>
      let (value, cs) ← readValue fuel room (skipBlank cs)
      some (← Entries.assign value key entries, cs)
    | _ => none

end

structure Progress where
  root : Entries := []
  /-- The table that keys belong to. -/
  current : List String := []

def Progress.openHeader (doc : Progress) (path : List String)
    (openLast : String → Entries → Option Entries) : Option Progress := do
  let last ← path.getLast?
  let root ← Entries.modify (openLast last) path.dropLast doc.root
  some ⟨root, path⟩

def readLine (fuel : Nat) (doc : Progress) (cs : List Char) : Option (Progress × List Char) :=
  match cs with
  | [] | '#' :: _ | '\n' :: _ | '\r' :: _ => some (doc, cs)
  | '[' :: '[' :: cs => do
    match ← readKey fuel cs with
    | (path, ']' :: ']' :: cs) => some (← doc.openHeader path Entries.openRow, cs)
    | _ => none
  | '[' :: cs => do
    match ← readKey fuel cs with
    | (path, ']' :: cs) => some (← doc.openHeader path Entries.openTable, cs)
    | _ => none
  | cs => do
    let (pair, cs) ← readKey fuel cs
    match cs with
    | '=' :: cs =>
      let (value, cs) ← readValue fuel maxNesting (skipBlank cs)
      let root ← Entries.modify (Entries.assign value pair) doc.current doc.root
      some ({ doc with root }, cs)
    | _ => none

def readLines : (fuel : Nat) → Progress → List Char → Option Entries
  | 0, _, _ => none
  | fuel + 1, doc, cs => do
    let (doc, cs) ← readLine (fuel + 1) doc (skipBlank cs)
    match ← skipComment (skipBlank cs) with
    | [] => some doc.root
    | '\n' :: cs => readLines fuel doc cs
    | '\r' :: '\n' :: cs => readLines fuel doc cs
    | _ => none

/-- The table of a whole document, which may start with a byte order mark. -/
def parse (text : String) : Option Entries :=
  let cs :=
    match text.toList with
    | '\ufeff' :: cs => cs
    | cs => cs
  readLines (cs.length + 1) {} cs

/-! ## Reading fields

A record is a table with known keys. It may also be written as the array of its fields in order, of
which the last ones may be missing.
-/

/-- The fields of a record with the given names; nothing if there are others. -/
def Value.fields? (names : List String) : Value → Option Entries
  | .table _ entries => if entries.all fun (k, _) => names.contains k then some entries else none
  | .array items => some (names.zip items)
  | .rows tables => some (names.zip (tables.reverse.map (.table .header)))
  | _ => none

/-- The items of an array, in whichever way it is written. -/
def Value.items? : Value → Option (List Value)
  | .array items => some items
  | .rows tables => some (tables.reverse.map (.table .header))
  | _ => none

def Value.string? : Value → Option String
  | .string s => some s
  | _ => none

def Value.boolean? : Value → Option Bool
  | .boolean b => some b
  | _ => none

/-- A natural number of at most 32 bits. -/
def Value.natural? : Value → Option Nat
  | .integer n => if 0 ≤ n && n < UInt32.size then some n.toNat else none
  | _ => none

/-- A double; an integer is rounded to one. -/
def Value.double? : Value → Option Float
  | .float x => some x
  | .integer n => some (Float.ofInt n)
  | _ => none

/-- A single; an integer is rounded to one at once, a double a second time. -/
def Value.single? : Value → Option Float32
  | .float x => some (Single.narrow x)
  | .integer n => some (Single.ofInt n)
  | _ => none

/-- One of several words, alone or as the only key of a table that holds nothing. -/
def Value.word? : Value → Option String
  | .string s => some s
  | .table _ [(s, .table _ [])] => some s
  | .table _ [(s, .array [])] => some s
  | _ => none

namespace Entries

def require {α : Type} (entries : Entries) (key : String) (read : Value → Option α) : Option α :=
  (entries.lookup key).bind read

def optional {α : Type} (entries : Entries) (key : String) (missing : α)
    (read : Value → Option α) : Option α :=
  match entries.lookup key with
  | none => some missing
  | some value => read value

end Entries

end Crater.Toml
