import Crater.Toml.Moment
/-!
# Configuration values

The values of a TOML document. Tables remember how they came about, because that decides who may add
to them: an inline table is closed, a table made by dotted keys is extended by dotted keys only, and a
table that a longer header implied may still get a header of its own.
-/

namespace Crater.Toml

/-- How a table came about. -/
inductive Origin where
  /-- Written in braces. -/
  | braces
  /-- Opened by its own header. -/
  | header
  /-- Passed through by the header of a table inside it. -/
  | implied
  /-- Made by a dotted key. -/
  | dotted
  deriving DecidableEq

inductive Value where
  | string (s : String)
  | integer (n : Int)
  | float (x : Float)
  | boolean (b : Bool)
  | moment (m : Moment)
  | array (items : List Value)
  /-- Tables opened by doubled headers, the latest first. -/
  | rows (tables : List (List (String × Value)))
  | table (origin : Origin) (entries : List (String × Value))

/-- The keys of a table with their values, in the order in which they were written. -/
abbrev Entries := List (String × Value)

namespace Entries

def replace (entries : Entries) (key : String) (value : Value) : Entries :=
  entries.map fun (k, v) => if k == key then (k, value) else (k, v)

/-- Adds a value under a dotted key. No key is given a value twice, and only tables that dotted keys
made are entered. -/
def assign (value : Value) : List String → Entries → Option Entries
  | [], _ => none
  | [key], entries =>
    if (entries.lookup key).isSome then none else some (entries ++ [(key, value)])
  | key :: path, entries =>
    match entries.lookup key with
    | none => (assign value path []).map fun inner => entries ++ [(key, .table .dotted inner)]
    | some (.table .dotted inner) =>
      (assign value path inner).map fun inner => entries.replace key (.table .dotted inner)
    | some _ => none

/-- Changes the table that a header names, going through the latest of doubled tables. -/
def modify (f : Entries → Option Entries) : List String → Entries → Option Entries
  | [], entries => f entries
  | key :: path, entries =>
    match entries.lookup key with
    | none => (modify f path []).map fun inner => entries ++ [(key, .table .implied inner)]
    | some (.table .braces _) => none
    | some (.table origin inner) =>
      (modify f path inner).map fun inner => entries.replace key (.table origin inner)
    | some (.rows (row :: older)) =>
      (modify f path row).map fun row => entries.replace key (.rows (row :: older))
    | some _ => none

/-- Opens the table `key`. A table is opened by a header at most once. -/
def openTable (key : String) (entries : Entries) : Option Entries :=
  match entries.lookup key with
  | none => some (entries ++ [(key, .table .header [])])
  | some (.table .implied inner) => some (entries.replace key (.table .header inner))
  | some _ => none

def openRow (key : String) (entries : Entries) : Option Entries :=
  match entries.lookup key with
  | none => some (entries ++ [(key, .rows [[]])])
  | some (.rows older) => some (entries.replace key (.rows ([] :: older)))
  | some _ => none

end Entries

end Crater.Toml
