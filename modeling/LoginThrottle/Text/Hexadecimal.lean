import LoginThrottle.Text.Decimal

/-!
Hexadecimal digits. Letters are written in lower case and read in either case.
-/

set_option autoImplicit false
set_option relaxedAutoImplicit false

namespace LoginThrottle.Text

/-- The character of a digit below sixteen. -/
def hexDigit (n : Nat) : Char :=
  Char.ofNat (if n < 10 then 48 + n else 87 + n)

def hexValue? (c : Char) : Option Nat :=
  if isDigit c then some (digitValue c)
  else if 'a' ≤ c && c ≤ 'f' then some (c.toNat - 87)
  else if 'A' ≤ c && c ≤ 'F' then some (c.toNat - 55)
  else none

/-- The digits of a number, without leading zeros. -/
def writeHex (n : Nat) : List Char :=
  if n < 16 then [hexDigit n] else writeHex (n / 16) ++ [hexDigit (n % 16)]

end LoginThrottle.Text
