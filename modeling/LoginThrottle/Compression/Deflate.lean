import LoginThrottle.Compression.PrefixCode

/-!
The `deflate` format: blocks that hold bytes as they are, or literal bytes and copies of what came
before in prefix codes that are fixed or come with the block. Around them stand a head of two bytes
and a checksum of the output. A copy may reach back to before the output, where there are zeros.
-/

set_option autoImplicit false
set_option relaxedAutoImplicit false

namespace LoginThrottle.Compression.Deflate

/-- The symbol that ends a block. -/
def endSymbol : Nat :=
  256

/-- The least length and the extra bits of each symbol behind the end symbol. -/
def lengthRanges : List (Nat × Nat) :=
  [(3, 0), (4, 0), (5, 0), (6, 0), (7, 0), (8, 0), (9, 0), (10, 0), (11, 1), (13, 1), (15, 1),
    (17, 1), (19, 2), (23, 2), (27, 2), (31, 2), (35, 3), (43, 3), (51, 3), (59, 3), (67, 4),
    (83, 4), (99, 4), (115, 4), (131, 5), (163, 5), (195, 5), (227, 5), (258, 0)]

/-- The least distance and the extra bits of a distance symbol. -/
def distanceRange? (symbol : Nat) : Option (Nat × Nat) :=
  if symbol < 4 then some (symbol + 1, 0)
  else if symbol < 30 then
    let extra := symbol / 2 - 1
    some ((2 + symbol % 2) * Nat.pow 2 extra + 1, extra)
  else none

/-- A number in a range. -/
def readIn (range? : Option (Nat × Nat)) : Expander Nat := do
  let some (least, extra) := range? | throw .corrupt
  return least + (← Expander.number extra)

/-- The contents of a block in prefix codes, of which one is for literals and lengths. -/
def readSymbols (literalCode distanceCode : PrefixCode) : Nat → Expander Unit
  | 0 => throw .corrupt
  | fuel + 1 => do
    let symbol ← literalCode.read
    if symbol < endSymbol then
      Expander.emit (UInt8.ofNat symbol)
      readSymbols literalCode distanceCode fuel
    else if symbol != endSymbol then
      let length ← readIn lengthRanges[symbol - endSymbol - 1]?
      let distance ← readIn (distanceRange? (← distanceCode.read))
      Expander.copy distance length
      readSymbols literalCode distanceCode fuel

def readCoded (literalCode distanceCode : PrefixCode) : Expander Unit := do
  readSymbols literalCode distanceCode ((← Expander.bitCount) + 1)

def fixedLiteralCode : PrefixCode :=
  .ofLengths (List.replicate 144 8 ++ List.replicate 112 9 ++ List.replicate 24 7
    ++ List.replicate 8 8)

def fixedDistanceCode : PrefixCode :=
  .ofLengths (List.replicate 32 5)

/-- Bytes as they are, behind their number and its complement. -/
def readStored : Expander Unit := do
  Expander.align
  let length ← Expander.bytes 2
  let complement ← Expander.bytes 2
  Expander.require (length + complement == 0xFFFF)
  Expander.transfer length

/-- The symbols of the code for lengths of words, in the order in which the lengths of their own
words come. -/
def lengthSymbols : List Nat :=
  [16, 17, 18, 0, 8, 7, 9, 6, 10, 5, 11, 4, 12, 3, 13, 2, 14, 1, 15]

def readLengthLengths : List Nat → Expander (List (Nat × Nat))
  | [] => return []
  | symbol :: symbols => do
    let length ← Expander.number 3
    return (symbol, length) :: (← readLengthLengths symbols)

/-- The lengths of so many words, those before given from the last to the first. A length may be
repeated, and so may a missing word. -/
def readLengths (code : PrefixCode) (count : Nat) : Nat → List Nat → Expander (List Nat)
  | 0, _ => throw .corrupt
  | fuel + 1, lengths => do
    if lengths.length < count then
      let symbol ← code.read
      if symbol < 16 then readLengths code count fuel (symbol :: lengths)
      else if symbol == 16 then
        let some last := lengths.head? | throw .corrupt
        let times := 3 + (← Expander.number 2)
        readLengths code count fuel (List.replicate times last ++ lengths)
      else
        let times ← if symbol == 17 then (3 + ·) <$> Expander.number 3
          else (11 + ·) <$> Expander.number 7
        readLengths code count fuel (List.replicate times 0 ++ lengths)
    else
      Expander.require (lengths.length == count)
      return lengths.reverse

/-- Whether words of these lengths make a code, which they also do if there is no more than one. -/
def isCode (lengths : List Nat) : Bool :=
  (lengths.filter (· != 0)).length ≤ 1 || PrefixCode.isComplete lengths

/-- A block that comes with its codes. -/
def readDynamic : Expander Unit := do
  let literals := 257 + (← Expander.number 5)
  let distances := 1 + (← Expander.number 5)
  let lengthCount := 4 + (← Expander.number 4)
  Expander.require (literals ≤ 286 && distances ≤ 30)
  let given ← readLengthLengths (lengthSymbols.take lengthCount)
  let lengthLengths := (List.range lengthSymbols.length).map fun symbol ↦
    (given.lookup symbol).getD 0
  Expander.require (PrefixCode.isComplete lengthLengths)
  let count := literals + distances
  let lengths ← readLengths (.ofLengths lengthLengths) count (count + 1) []
  let literalLengths := lengths.take literals
  let distanceLengths := lengths.drop literals
  Expander.require (isCode literalLengths && isCode distanceLengths)
  readCoded (.ofLengths literalLengths) (.ofLengths distanceLengths)

def readBlocks : Nat → Expander Unit
  | 0 => throw .corrupt
  | fuel + 1 => do
    let isLast ← Expander.bit
    match ← Expander.number 2 with
    | 0 => readStored
    | 1 => readCoded fixedLiteralCode fixedDistanceCode
    | 2 => readDynamic
    | _ => throw .corrupt
    if !isLast then readBlocks fuel

/-- Whether two bytes are a head: the format, a window that is not too large, no dictionary, and a
check of both. -/
def isHead (method flags : Nat) : Bool :=
  (256 * method + flags) % 31 == 0 && method % 16 == 8 && method / 16 ≤ 7
    && !flags.testBit 5

/-- The sums behind the checksum: of the bytes, and of the sums that there have been. -/
def checkStep (sums : Nat × Nat) (byte : UInt8) : Nat × Nat :=
  let sum := (sums.1 + byte.toNat) % 65521
  (sum, (sums.2 + sum) % 65521)

def checksum (output : Array UInt8) : Nat :=
  let (sum, total) := output.foldl checkStep (1, 0)
  65536 * total + sum

/-- A number of four bytes, the highest first. -/
def readChecksum : Nat → Nat → Expander Nat
  | 0, read => return read
  | count + 1, read => do
    readChecksum count (256 * read + (← Expander.bytes 1))

def expander : Expander Unit := do
  let method ← Expander.bytes 1
  let flags ← Expander.bytes 1
  Expander.require (isHead method flags)
  readBlocks ((← Expander.bitCount) + 1)
  Expander.align
  let sum ← readChecksum 4 0
  Expander.require (sum == checksum (← get).output)

end LoginThrottle.Compression.Deflate
