/-!
# Log records

A record has a level, a target that says which part of the program it is about, a message and named
values. It is written on one line.
-/

namespace Crater.Log

inductive Level where
  | error
  | warn
  | info
  | debug
  | trace
  deriving DecidableEq

namespace Level

def word : Level → String
  | error => "ERROR"
  | warn => "WARN"
  | info => "INFO"
  | debug => "DEBUG"
  | trace => "TRACE"

/-- The least verbosity that shows records of this level; at verbosity zero nothing is shown. -/
def verbosity : Level → Nat
  | error => 1
  | warn => 2
  | info => 3
  | debug => 4
  | trace => 5

end Level

structure Record where
  level : Level
  target : String
  message : String
  fields : List (String × String) := []

/-- A code in hexadecimal digits, at least two of them. -/
def hexPair (code : Nat) : List Char :=
  let ds := Nat.toDigits 16 code
  List.replicate (2 - ds.length) '0' ++ ds

/-- A character of a message or value. Control characters that a terminal would act on are spelled
out. -/
def escaped (c : Char) : String :=
  let code := c.toNat
  if [0x07, 0x08, 0x0C, 0x1B, 0x7F].contains code then
    String.ofList ('\\' :: 'x' :: hexPair code)
  else if 0x80 ≤ code && code ≤ 0x9F then
    String.ofList ('\\' :: 'u' :: '\x7b' :: (hexPair code ++ ['\x7d']))
  else c.toString

def escapedText (text : String) : String := String.join (text.toList.map escaped)

def Record.line (r : Record) : String :=
  let fields := r.fields.map fun (name, value) => " " ++ name ++ "=" ++ escapedText value
  r.level.word ++ " " ++ r.target ++ ": " ++ escapedText r.message ++ String.join fields

end Crater.Log
