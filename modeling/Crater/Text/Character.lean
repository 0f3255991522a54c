import Crater.Text.Script
/-!
# Kinds of characters
-/

namespace Crater.Text

/-- White space of all scripts, line ends among it. -/
def isBlank (c : Char) : Bool :=
  let code := c.toNat
  (9 ≤ code && code ≤ 13) || code == 0x20 || code == 0x85 || code == 0xA0 || code == 0x1680 ||
    (0x2000 ≤ code && code ≤ 0x200A) || code == 0x2028 || code == 0x2029 || code == 0x202F ||
    code == 0x205F || code == 0x3000

def isLetter (c : Char) : Bool := letterRuns.holds c

def isLetterOrNumeral (c : Char) : Bool := letterRuns.holds c || numeralRuns.holds c

def isAscii (c : Char) : Bool := c.toNat < 0x80

def hexDigit (c : Char) : Option Nat :=
  if c.isDigit then some (c.toNat - '0'.toNat)
  else if 'a' ≤ c && c ≤ 'f' then some (c.toNat - 'a'.toNat + 10)
  else if 'A' ≤ c && c ≤ 'F' then some (c.toNat - 'A'.toNat + 10)
  else none

end Crater.Text
