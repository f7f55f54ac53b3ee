import LoginThrottle.Compression.PrefixCode

/-!
How the `br` format writes prefix codes: with up to four symbols, which are listed, or with any
number of them, when the lengths of the words are given in a prefix code themselves.
-/

set_option autoImplicit false
set_option relaxedAutoImplicit false

namespace LoginThrottle.Compression.Brotli

/-- The number of bits that a number takes. -/
def bitLength (n : Nat) : Nat :=
  if n = 0 then 0 else n.log2 + 1

/-- The code in which the symbols have words of these lengths. -/
def codeOf (words : List (Nat × Nat)) (size : Nat) : PrefixCode :=
  .ofLengths ((List.range size).map fun symbol ↦ (words.lookup symbol).getD 0)

/-- So many symbols of an alphabet, each once. -/
def readListed (size : Nat) : Nat → List Nat → Expander (List Nat)
  | 0, symbols => do
    Expander.require (decide symbols.Nodup)
    return symbols.reverse
  | count + 1, symbols => do
    let symbol ← Expander.number (bitLength (size - 1))
    Expander.require (symbol < size)
    readListed size count (symbol :: symbols)

/-- A code whose symbols are listed. -/
def readSimple (size : Nat) : Expander PrefixCode := do
  let count := 1 + (← Expander.number 2)
  match ← readListed size count [] with
  | [a] => return .symbol a
  | [a, b] => return codeOf [(a, 1), (b, 1)] size
  | [a, b, c] => return codeOf [(a, 1), (b, 2), (c, 2)] size
  | [a, b, c, d] =>
    if ← Expander.bit then return codeOf [(a, 1), (b, 2), (c, 3), (d, 3)] size
    else return codeOf [(a, 2), (b, 2), (c, 2), (d, 2)] size
  | _ => throw .corrupt

/-- The symbols of the code for lengths of words, in the order in which the lengths of their own
words come. -/
def lengthSymbols : List Nat :=
  [1, 2, 3, 4, 0, 5, 17, 6, 16, 7, 8, 9, 10, 11, 12, 13, 14, 15]

/-- A length of a word of the code for lengths. -/
def readLengthLength : Expander Nat := do
  match ← Expander.number 2 with
  | 0 => return 0
  | 1 => return 4
  | 2 => return 3
  | _ => if ← Expander.bit then if ← Expander.bit then return 5 else return 1 else return 2

/-- The lengths of the words for these symbols, as far as there is room for words. -/
def readLengthLengths : List Nat → Int → List (Nat × Nat) → Expander (Int × List (Nat × Nat))
  | [], room, words => return (room, words)
  | symbol :: symbols, room, words => do
    let length ← readLengthLength
    if length == 0 then readLengthLengths symbols room words
    else
      let room := room - Nat.pow 2 (5 - length)
      let words := (symbol, length) :: words
      if room ≤ 0 then return (room, words) else readLengthLengths symbols room words

/-- How far the lengths of words have been read: those so far from the last to the first, the last
one that there was a word of, how often and what the symbols before have repeated, and the room
left for words. -/
structure LengthReading where
  lengths : List Nat
  last : Nat
  repeated : Nat
  repeatedLength : Nat
  room : Int

namespace LengthReading

def initial : LengthReading :=
  ⟨[], 8, 0, 0, Nat.pow 2 PrefixCode.lengthLimit⟩

def roomFor (length count : Nat) : Int :=
  if length = 0 then 0 else count * Nat.pow 2 (PrefixCode.lengthLimit - length)

def single (reading : LengthReading) (length : Nat) : LengthReading :=
  { reading with
    lengths := length :: reading.lengths
    last := if length = 0 then reading.last else length
    repeated := 0
    room := reading.room - roomFor length 1 }

/-- Repeats a length. Repeating the same once more adds digits to the number of times. -/
def again (reading : LengthReading) (length digits digit : Nat) : LengthReading :=
  let before := if reading.repeatedLength = length then reading.repeated else 0
  let after := (if before = 0 then 0 else (before - 2) * Nat.pow 2 digits) + digit + 3
  { reading with
    lengths := List.replicate (after - before) length ++ reading.lengths
    repeated := after
    repeatedLength := length
    room := reading.room - roomFor length (after - before) }

end LengthReading

/-- The lengths of the words for an alphabet, which have to leave no room. -/
def readLengths (code : PrefixCode) (size : Nat) : Nat → LengthReading → Expander (List Nat)
  | 0, _ => throw .corrupt
  | fuel + 1, reading => do
    if reading.lengths.length < size && reading.room != 0 then
      let symbol ← code.read
      if symbol < 16 then readLengths code size fuel (reading.single symbol)
      else if symbol == 16 then
        readLengths code size fuel (reading.again reading.last 2 (← Expander.number 2))
      else readLengths code size fuel (reading.again 0 3 (← Expander.number 3))
    else
      Expander.require (reading.room == 0 && reading.lengths.length ≤ size)
      return reading.lengths.reverse

/-- A code that is given by lengths of words, of which the first few may be left out. -/
def readComplex (size skipped : Nat) : Expander PrefixCode := do
  let (room, words) ← readLengthLengths (lengthSymbols.drop skipped) 32 []
  Expander.require (words.length == 1 || room == 0)
  let code :=
    match words with
    | [(symbol, _)] => .symbol symbol
    | _ => codeOf words lengthSymbols.length
  return .ofLengths (← readLengths code size (size + 1) .initial)

/-- A code for the symbols of an alphabet. -/
def readCode (size : Nat) : Expander PrefixCode := do
  match ← Expander.number 2 with
  | 1 => readSimple size
  | skipped => readComplex size skipped

def readCodes (size : Nat) : Nat → Expander (List PrefixCode)
  | 0 => return []
  | count + 1 => do
    return (← readCode size) :: (← readCodes size count)

/-- A number up to 255. -/
def readSmall : Expander Nat := do
  if ← Expander.bit then
    let digits ← Expander.number 3
    return Nat.pow 2 digits + (← Expander.number digits)
  else return 0

end LoginThrottle.Compression.Brotli
