import LoginThrottle.Compression.Stream

/-!
The `zstd` format, as far as a text can be in it. A frame begins with a number that says what it
is. That of a frame with data is not found in any text, so a text has skippable frames alone, which
give their length and expand to nothing.
-/

set_option autoImplicit false
set_option relaxedAutoImplicit false

namespace LoginThrottle.Compression.Zstandard

/-- Reads bytes that are known beforehand. -/
def readKnown : List Nat → Expander Unit
  | [] => return
  | byte :: bytes => do
    Expander.require ((← Expander.bytes 1) == byte)
    readKnown bytes

/-- Passes over a number of bytes. -/
def skip : Nat → Expander Unit
  | 0 => return
  | count + 1 => do
    discard (Expander.bytes 1)
    skip count

def readFrame : Expander Unit := do
  let first ← Expander.bytes 1
  if first == 0x28 then
    readKnown [0xB5, 0x2F, 0xFD]
    throw .corrupt
  else
    Expander.require (0x50 ≤ first && first ≤ 0x5F)
    readKnown [0x2A, 0x4D, 0x18]
    skip (← Expander.bytes 4)

def readFrames : Nat → Expander Unit
  | 0 => return
  | fuel + 1 => do
    if (← Expander.bitCount) != 0 then
      readFrame
      readFrames fuel

def expander : Expander Unit := do
  readFrames (← Expander.bitCount)

end LoginThrottle.Compression.Zstandard
