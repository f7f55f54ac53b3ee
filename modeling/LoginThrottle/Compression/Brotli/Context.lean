import LoginThrottle.Compression.Brotli.Code

/-!
Contexts of the `br` format. Which code a literal is in depends on the two bytes before it, looked
at in one of four ways, and which code a distance is in on the length of its copy. A map tells for
each context which code is meant.
-/

set_option autoImplicit false
set_option relaxedAutoImplicit false

namespace LoginThrottle.Compression.Brotli

/-- How the bytes before a literal are looked at. -/
inductive ContextMode
  | lowBits
  | highBits
  | text
  | signed
  deriving DecidableEq, Repr, Inhabited

/-- The marks of ASCII that are in a class of their own as the last byte, with their classes. -/
def markClasses : List (Char × Nat) :=
  [('\t', 4), ('\n', 4), ('\r', 4), (' ', 8), ('!', 12), ('"', 16), ('%', 20), ('\'', 16),
    ('(', 24), (')', 28), (',', 32), ('.', 36), ('/', 12), (':', 32), (';', 32), ('<', 24),
    ('=', 40), ('>', 28), ('[', 24), (']', 28), ('\x7b', 24), ('\x7d', 28)]

def isVowel (c : Char) : Bool :=
  ['a', 'e', 'i', 'o', 'u'].contains c.toLower

/-- The class of the last byte. -/
def lastClass (byte : Nat) : Nat :=
  let c := Char.ofNat byte
  if 0xC0 ≤ byte then 2 + byte % 2
  else if 0x80 ≤ byte then byte % 2
  else
    match markClasses.lookup c with
    | some kind => kind
    | none =>
      if byte < 0x20 || byte == 0x7F then 0
      else if c.isDigit then 44
      else if c.isUpper then if isVowel c then 48 else 52
      else if c.isLower then if isVowel c then 56 else 60
      else 12

/-- The class of the byte before the last. -/
def earlierClass (byte : Nat) : Nat :=
  let c := Char.ofNat byte
  if 0xC0 ≤ byte then 2
  else if 0x7F ≤ byte || byte ≤ 0x20 then 0
  else if c.isLower then 3
  else if c.isUpper || c.isDigit then 2
  else 1

/-- The class of a byte as a signed number. -/
def magnitudeClass (byte : Nat) : Nat :=
  if byte = 0 then 0
  else if byte < 16 then 1
  else if byte < 64 then 2
  else if byte < 128 then 3
  else if byte < 192 then 4
  else if byte < 240 then 5
  else if byte < 255 then 6
  else 7

/-- The context of a literal, one of 64. -/
def ContextMode.context (mode : ContextMode) (last earlier : Nat) : Nat :=
  match mode with
  | lowBits => last % 64
  | highBits => last / 4
  | text => lastClass last ||| earlierClass earlier
  | signed => 8 * magnitudeClass last + magnitudeClass earlier

/-- The context of a distance, one of 4. -/
def distanceContext (copyLength : Nat) : Nat :=
  min (copyLength - 2) 3

def readModes : Nat → Expander (List ContextMode)
  | 0 => return []
  | count + 1 => do
    let mode := match ← Expander.number 2 with
      | 0 => .lowBits
      | 1 => .highBits
      | 2 => .text
      | _ => .signed
    return mode :: (← readModes count)

/-- The entries of a map, those before given from the last to the first. The symbols up to
`longest` stand for runs of zeros. -/
def readEntries (code : PrefixCode) (longest size : Nat) : Nat → List Nat → Expander (List Nat)
  | 0, _ => throw .corrupt
  | fuel + 1, entries => do
    if entries.length < size then
      let symbol ← code.read
      if symbol == 0 then readEntries code longest size fuel (0 :: entries)
      else if longest < symbol then
        readEntries code longest size fuel ((symbol - longest) :: entries)
      else
        let times := Nat.pow 2 symbol + (← Expander.number symbol)
        Expander.require (entries.length + times ≤ size)
        readEntries code longest size fuel (List.replicate times 0 ++ entries)
    else return entries.reverse

/-- The values at places in a list that keeps what was asked for last in front. -/
def moveToFront : List Nat → List Nat → List Nat
  | _, [] => []
  | recent, place :: places =>
    let value := recent.getD place 0
    value :: moveToFront (value :: recent.eraseIdx place) places

/-- The number of codes and the map to them. -/
def readMap (size : Nat) : Expander (Nat × List Nat) := do
  let count := 1 + (← readSmall)
  if count == 1 then return (count, List.replicate size 0)
  let longest ← if ← Expander.bit then (1 + ·) <$> Expander.number 4 else pure 0
  let code ← readCode (count + longest)
  let entries ← readEntries code longest size (size + 1) []
  if ← Expander.bit then return (count, moveToFront (List.range 256) entries)
  else return (count, entries)

end LoginThrottle.Compression.Brotli
