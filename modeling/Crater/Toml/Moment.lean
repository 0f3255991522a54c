import Crater.Decimal.Read
/-!
# Dates and times

A moment is a date, a time of day, or both, and behind both there may be the distance to universal
time. A reader takes the characters ahead and gives what it read and the characters behind it, or
nothing if no moment stands there.
-/

namespace Crater.Toml

structure Date where
  year : Nat
  month : Nat
  day : Nat

/-- A time of day. The second may be a leap second. -/
structure Time where
  hour : Nat
  minute : Nat
  second : Nat
  nanosecond : Nat := 0

/-- A point in time, as far as it is given. -/
inductive Moment where
  | date (d : Date)
  | time (t : Time)
  /-- A time on a day, with the minutes that it is ahead of universal time if they are known. -/
  | both (d : Date) (t : Time) (offset : Option Int)

def isLeapYear (year : Nat) : Bool := year % 4 == 0 && (year % 100 != 0 || year % 400 == 0)

def daysIn (year month : Nat) : Nat :=
  if month == 2 then if isLeapYear year then 29 else 28
  else if [4, 6, 9, 11].contains month then 30
  else 31

/-- A number of exactly `count` digits from `low` to `high`. -/
def readFixed (count low high : Nat) (cs : List Char) : Option (Nat × List Char) :=
  let ds := cs.take count
  let n := Decimal.digitsValue ds
  if ds.length == count && ds.all Char.isDigit && low ≤ n && n ≤ high then some (n, cs.drop count)
  else none

def skipMark (mark : Char) : List Char → Option (List Char)
  | c :: cs => if c == mark then some cs else none
  | [] => none

def readDate (cs : List Char) : Option (Date × List Char) := do
  let (year, cs) ← readFixed 4 0 9999 cs
  let (month, cs) ← readFixed 2 1 12 (← skipMark '-' cs)
  let (day, cs) ← readFixed 2 1 (daysIn year month) (← skipMark '-' cs)
  some ({ year, month, day }, cs)

/-- A part of a second, behind a point. Digits beyond the ninth are cut off. -/
def readFraction : List Char → Nat × List Char
  | '.' :: cs =>
    let ds := cs.takeWhile Char.isDigit
    if ds.isEmpty then (0, '.' :: cs)
    else
      let kept := ds.take 9
      (Decimal.digitsValue kept * Nat.pow 10 (9 - kept.length), cs.dropWhile Char.isDigit)
  | cs => (0, cs)

def readTime (cs : List Char) : Option (Time × List Char) := do
  let (hour, cs) ← readFixed 2 0 23 cs
  let (minute, cs) ← readFixed 2 0 59 (← skipMark ':' cs)
  let (second, cs) ← readFixed 2 0 60 (← skipMark ':' cs)
  let (nanosecond, cs) := readFraction cs
  some ({ hour, minute, second, nanosecond }, cs)

/-- The hours and minutes of an offset as minutes. -/
def readOffsetMinutes (cs : List Char) : Option (Nat × List Char) := do
  let (hours, cs) ← readFixed 2 0 23 cs
  let (minutes, cs) ← readFixed 2 0 59 (← skipMark ':' cs)
  some (60 * hours + minutes, cs)

/-- The offset of a time on a day, if one stands there. -/
def readOffset (cs : List Char) : Option (Option Int × List Char) :=
  match cs with
  | 'Z' :: cs | 'z' :: cs => some (some 0, cs)
  | '+' :: cs => (readOffsetMinutes cs).map fun (n, cs) => (some (n : Int), cs)
  | '-' :: cs => (readOffsetMinutes cs).map fun (n, cs) => (some (-(n : Int)), cs)
  | cs => some (none, cs)

def readTimeOfDate : List Char → Option (Time × List Char)
  | c :: cs => if c == 'T' || c == 't' || c == ' ' then readTime cs else none
  | [] => none

def readMoment (cs : List Char) : Option (Moment × List Char) :=
  match readDate cs with
  | some (date, cs) =>
    match readTimeOfDate cs with
    | some (time, cs) => (readOffset cs).map fun (offset, cs) => (.both date time offset, cs)
    | none => some (.date date, cs)
  | none => (readTime cs).map fun (time, cs) => (.time time, cs)

end Crater.Toml
