import LoginThrottle.Text.Ascii

/-!
Decimal integers as text. Reading takes an optional single sign and one or more ASCII digits, with
leading zeros allowed and nothing else, no space included; writing gives the digits without
leading zeros, after a minus sign for a negative integer.

A number that need not be an integer may have a fraction and an exponent, or be one of the words
for what is infinite or no number.
-/

set_option autoImplicit false
set_option relaxedAutoImplicit false

namespace LoginThrottle.Text

def isDigit (c : Char) : Bool :=
  '0' ≤ c && c ≤ '9'

def digitValue (c : Char) : Nat :=
  c.toNat - 48

/-- The number that the digits denote when they follow the digits of `high`. -/
def natFrom (high : Nat) (digits : List Char) : Nat :=
  digits.foldl (fun n c ↦ 10 * n + digitValue c) high

/-- The number denoted by one or more digits. -/
def readNat? (text : List Char) : Option Nat :=
  if !text.isEmpty && text.all isDigit then some (natFrom 0 text) else none

/-- The number denoted by one or more digits behind an optional plus sign. -/
def readUnsigned? : List Char → Option Nat
  | '+' :: digits => readNat? digits
  | digits => readNat? digits

def readInt? : List Char → Option Int
  | '-' :: digits => (readNat? digits).map fun n ↦ -(n : Int)
  | '+' :: digits => (readNat? digits).map fun n ↦ (n : Int)
  | digits => (readNat? digits).map fun n ↦ (n : Int)

/-- The text without a sign that it may begin with. -/
def unsigned : List Char → List Char
  | '+' :: rest | '-' :: rest => rest
  | text => text

/-- Whether the text is nothing or an exponent. -/
def isExponent : List Char → Bool
  | [] => true
  | mark :: rest => (mark == 'e' || mark == 'E') && (readNat? (unsigned rest)).isSome

/-- Whether the text denotes a number. A digit has to stand before or behind a point. -/
def isReal (text : List Char) : Bool :=
  let magnitude := unsigned text
  let whole := magnitude.takeWhile isDigit
  let rest := magnitude.dropWhile isDigit
  ["inf", "infinity", "nan"].any (fun word ↦ asciiSame magnitude word.toList)
    || match rest with
      | '.' :: rest =>
        !(whole.isEmpty && (rest.takeWhile isDigit).isEmpty) && isExponent (rest.dropWhile isDigit)
      | rest => !whole.isEmpty && isExponent rest

/-- The character of a digit below ten. -/
def digitOf (n : Nat) : Char :=
  Char.ofNat (48 + n)

def writeNat (n : Nat) : List Char :=
  if n < 10 then [digitOf n] else writeNat (n / 10) ++ [digitOf (n % 10)]

def writeInt : Int → List Char
  | .ofNat n => writeNat n
  | .negSucc n => '-' :: writeNat (n + 1)

def ofNat (n : Nat) : String :=
  String.ofList (writeNat n)

def ofInt (i : Int) : String :=
  String.ofList (writeInt i)

end LoginThrottle.Text
