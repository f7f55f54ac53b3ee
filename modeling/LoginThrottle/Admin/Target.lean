import LoginThrottle.Text.Hexadecimal
import LoginThrottle.Text.Utf8

/-!
The path of a request target. A scheme and an authority in front of it are cut off, and so are the
query and the fragment behind it. Percent-encoded bytes are decoded: in the path all but those of
the percent sign, the slash and the plus sign, which stay encoded, and in a single segment of it
all that are left. A percent sign that no two hexadecimal digits follow stands for itself.
-/

set_option autoImplicit false
set_option relaxedAutoImplicit false

namespace LoginThrottle.Target

/-- The byte that two hexadecimal digits, given as bytes themselves, stand for. -/
def hexPair? (high low : UInt8) : Option UInt8 := do
  let high ← Text.hexValue? (Char.ofNat high.toNat)
  let low ← Text.hexValue? (Char.ofNat low.toNat)
  some (UInt8.ofNat (16 * high + low))

/-- The bytes with every percent-encoded byte decoded that is not to be kept. -/
def decode (kept : UInt8 → Bool) : List UInt8 → List UInt8
  | [] => []
  | 37 :: high :: low :: rest =>
    match hexPair? high low with
    | some byte =>
      if kept byte then 37 :: decode kept (high :: low :: rest) else byte :: decode kept rest
    | none => 37 :: decode kept (high :: low :: rest)
  | byte :: rest => byte :: decode kept rest

def decodeText (kept : UInt8 → Bool) (text : List Char) : List Char :=
  Text.Utf8.decode (decode kept (Text.Utf8.encode text))

/-- The percent sign, the plus sign and the slash. -/
def isReserved (byte : UInt8) : Bool :=
  byte == 37 || byte == 43 || byte == 47

def isSchemeChar (c : Char) : Bool :=
  c.isAlphanum || c == '+' || c == '-' || c == '.' || c == '~'

/-- The target without the scheme and the authority that it may begin with. -/
def relative (target : List Char) : List Char :=
  match target.dropWhile isSchemeChar with
  | ':' :: '/' :: '/' :: rest => rest.dropWhile fun c ↦ c != '/' && c != '?' && c != '#'
  | _ => target

def path (target : List Char) : List Char :=
  decodeText isReserved ((relative target).takeWhile fun c ↦ c != '?' && c != '#')

/-- What a segment of a path says. -/
def segment (text : List Char) : List Char :=
  decodeText (fun _ ↦ false) text

end LoginThrottle.Target
