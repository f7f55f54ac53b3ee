import LoginThrottle.Compression.Brotli.Command
import LoginThrottle.Compression.Brotli.Context

/-!
The `br` format: blocks that hold bytes as they are, or nothing of the output, or commands in
prefix codes that come with the block. Literals, commands and distances each go through runs of
types, and for each type there are codes of its own.

A distance beyond the output means a word of a fixed dictionary. The dictionary is not kept, and
what refers to it does not expand. In a wide window, which is not among those that the format first
had, only blocks that are not in prefix codes expand.
-/

set_option autoImplicit false
set_option relaxedAutoImplicit false

namespace LoginThrottle.Compression.Brotli

/-- The types that symbols of one sort go through: how many types there are, the codes for types
and for the lengths of runs, the type now and the one before it, and how much is left of the run.
-/
structure Types where
  count : Nat
  typeCode : PrefixCode
  runCode : PrefixCode
  current : Nat
  previous : Nat
  left : Nat
  deriving DecidableEq, Repr

namespace Types

/-- A run that is longer than any block. -/
def endless : Nat :=
  Nat.pow 2 24

def begin : Expander Types := do
  let count := 1 + (← readSmall)
  if count == 1 then return ⟨count, .none, .none, 0, 1, endless⟩
  let typeCode ← readCode (count + 2)
  let runCode ← readCode runRanges.length
  let left ← readIn runRanges (← runCode.read)
  return ⟨count, typeCode, runCode, 0, 1, left⟩

/-- Begins the next run if none is left, and takes one from it. -/
def advance (types : Types) : Expander Types := do
  if types.left == 0 then
    let symbol ← types.typeCode.read
    let left ← readIn runRanges (← types.runCode.read)
    let next :=
      match symbol with
      | 0 => types.previous
      | 1 => types.current + 1
      | _ => symbol - 2
    return { types with
      current := if types.count ≤ next then next - types.count else next
      previous := types.current
      left := left - 1 }
  else return { types with left := types.left - 1 }

end Types

/-- The codes of a block: how the bytes before a literal are looked at, the maps from contexts to
codes, and the codes. -/
structure Codes where
  modes : Array ContextMode
  literalMap : Array Nat
  distanceMap : Array Nat
  literals : Array PrefixCode
  commands : Array PrefixCode
  distances : Array PrefixCode
  form : DistanceForm
  deriving DecidableEq, Repr

/-- Where a block is among the types of its symbols. -/
structure Progress where
  literals : Types
  commands : Types
  distances : Types
  deriving DecidableEq, Repr

namespace Codes

/-- The code for a literal of a type, by the two bytes before it. -/
def literalCode (codes : Codes) (type last earlier : Nat) : PrefixCode :=
  let context := (codes.modes.getD type default).context last earlier
  codes.literals.getD (codes.literalMap.getD (64 * type + context) 0) default

/-- The code for a distance of a type, by the length of the copy. -/
def distanceCode (codes : Codes) (type copied : Nat) : PrefixCode :=
  codes.distances.getD (codes.distanceMap.getD (4 * type + distanceContext copied) 0) default

end Codes

/-- The byte that is a number of bytes back in the output, or zero if there is none. -/
def byteBack (distance : Nat) : Expander Nat := do
  let stream ← get
  if distance ≤ stream.output.size then
    return (stream.output.getD (stream.output.size - distance) 0).toNat
  else return 0

/-- A number of literals. -/
def readLiterals (codes : Codes) : Nat → Types → Expander Types
  | 0, types => return types
  | count + 1, types => do
    let types ← types.advance
    let code := codes.literalCode types.current (← byteBack 1) (← byteBack 2)
    Expander.emit (UInt8.ofNat (← code.read))
    readLiterals codes count types

/-- Where a copy is from: the types of distances then, and the last distances with that of the copy
in front. A distance that is said to be the same as before does not count as one more. -/
def readSource (codes : Codes) (command : Command) (types : Types) (recent : List Nat) :
    Expander (Types × List Nat) := do
  if command.sameDistance then return (types, recent)
  else
    let types ← types.advance
    let symbol ← (codes.distanceCode types.current command.copied).read
    if symbol == 0 then return (types, recent)
    else return (types, (← readDistance codes.form recent symbol) :: recent.take 3)

/-- The commands of a block for so many bytes, which give the last distances anew. Distances reach
no farther than the window. -/
def readCommands (codes : Codes) (window : Nat) :
    Nat → Nat → Progress → List Nat → Expander (List Nat)
  | 0, _, _, _ => throw .corrupt
  | fuel + 1, left, progress, recent => do
    let commands ← progress.commands.advance
    let command ← readCommand (← (codes.commands.getD commands.current default).read)
    Expander.require (command.inserted ≤ left)
    let literals ← readLiterals codes command.inserted progress.literals
    let left := left - command.inserted
    if left == 0 && command.inserted != 0 then return recent
    let (distances, recent) ← readSource codes command progress.distances recent
    let distance := recent.headD 0
    Expander.require (distance ≤ min window (← get).output.size && command.copied ≤ left)
    Expander.copy distance command.copied
    let left := left - command.copied
    if left == 0 then return recent
    else readCommands codes window fuel left ⟨literals, commands, distances⟩ recent

/-- A block of so many bytes in prefix codes. -/
def readCompressed (window length : Nat) (recent : List Nat) : Expander (List Nat) := do
  let literals ← Types.begin
  let commands ← Types.begin
  let distances ← Types.begin
  let lowBits ← Expander.number 2
  let direct := (← Expander.number 4) * Nat.pow 2 lowBits
  let form : DistanceForm := ⟨direct, lowBits⟩
  let modes ← readModes literals.count
  let (literalCount, literalMap) ← readMap (64 * literals.count)
  let (distanceCount, distanceMap) ← readMap (4 * distances.count)
  let literalCodes ← readCodes 256 literalCount
  let commandCodes ← readCodes 704 commands.count
  let distanceCodes ← readCodes form.size distanceCount
  let codes : Codes :=
    ⟨modes.toArray, literalMap.toArray, distanceMap.toArray, literalCodes.toArray,
      commandCodes.toArray, distanceCodes.toArray, form⟩
  readCommands codes window (length + 1) length ⟨literals, commands, distances⟩ recent

/-- A length of so many digits of the given width. The last digit of one that need not have been so
long is not zero. -/
def readLength (width least : Nat) : Nat → Nat → Expander Nat
  | 0, _ => return 0
  | count + 1, read => do
    let digit ← Expander.number width
    Expander.require (count != 0 || read < least || digit != 0)
    return digit + Nat.pow 2 width * (← readLength width least count (read + 1))

/-- Passes over a number of bytes. -/
def skip : Nat → Expander Unit
  | 0 => return
  | count + 1 => do
    discard (Expander.bytes 1)
    skip count

/-- A block that adds nothing to the output. -/
def readMetadata : Expander Unit := do
  Expander.require !(← Expander.bit)
  let digits ← Expander.number 2
  let length ← if digits == 0 then pure 0 else (1 + ·) <$> readLength 8 1 digits 0
  Expander.alignBlank
  skip length

/-- How far back a distance may reach, and whether the window is a wide one. -/
structure Window where
  reach : Nat
  isWide : Bool
  deriving DecidableEq, Repr

/-- A block, which gives the last distances anew. The last block holds no bytes as they are. -/
def readBlock (window : Window) (isLast : Bool) (recent : List Nat) : Expander (List Nat) := do
  let digits := 4 + (← Expander.number 2)
  if digits == 7 then
    readMetadata
    return recent
  else
    let length := 1 + (← readLength 4 4 digits 0)
    let isStored ← if isLast then pure false else Expander.bit
    if isStored then
      Expander.alignBlank
      Expander.transfer length
      return recent
    else
      Expander.require !window.isWide
      readCompressed window.reach length recent

/-- The blocks, the last distances at each given from the last to the first. The last block may be
left out. -/
def readBlocks (window : Window) : Nat → List Nat → Expander Unit
  | 0, _ => throw .corrupt
  | fuel + 1, recent => do
    let isLast ← Expander.bit
    let isEmpty ← if isLast then Expander.bit else pure false
    if isEmpty then Expander.alignBlank
    else
      let recent ← readBlock window isLast recent
      if isLast then Expander.alignBlank else readBlocks window fuel recent

def Window.ofBits (bits : Nat) (isWide : Bool) : Window :=
  ⟨Nat.pow 2 bits - 16, isWide⟩

def readWideWindow : Expander Window := do
  Expander.require !(← Expander.bit)
  let bits ← Expander.number 6
  Expander.require (10 ≤ bits && bits ≤ 30)
  return .ofBits bits true

def readWindow : Expander Window := do
  if ← Expander.bit then
    match ← Expander.number 3 with
    | 0 =>
      match ← Expander.number 3 with
      | 0 => return .ofBits 17 false
      | 1 => readWideWindow
      | n => return .ofBits (8 + n) false
    | n => return .ofBits (17 + n) false
  else return .ofBits 16 false

def expander : Expander Unit := do
  let window ← readWindow
  readBlocks window ((← Expander.bitCount) + 1) [4, 11, 15, 16]

end LoginThrottle.Compression.Brotli
