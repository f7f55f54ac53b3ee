/-!
Expanding what is compressed. The input is read as bits, those of a byte from the lowest to the
highest, and a byte is begun only when a bit of it is needed. The output is kept even when the
input turns out to end too soon.
-/

set_option autoImplicit false
set_option relaxedAutoImplicit false

namespace LoginThrottle.Compression

/-- Why an expansion stops before its end: because there is no more input, or because the input is
at fault. -/
inductive Stop
  | exhausted
  | corrupt
  deriving DecidableEq, Repr

/-- The bytes of the input not yet begun, the bits left of the byte that is, and the output. -/
structure Stream where
  input : List UInt8
  pending : List Bool
  output : Array UInt8
  deriving DecidableEq, Repr

abbrev Expander (α : Type) :=
  EStateM Stop Stream α

namespace Expander

def bitsOf (byte : UInt8) : List Bool :=
  (List.range 8).map byte.toNat.testBit

def bit : Expander Bool := do
  let stream ← get
  match stream.pending with
  | bit :: pending =>
    set { stream with pending }
    return bit
  | [] =>
    match stream.input with
    | byte :: input =>
      set { stream with input, pending := (bitsOf byte).tail }
      return byte.toNat.testBit 0
    | [] => throw .exhausted

/-- A number of so many bits, the lowest first. -/
def number : Nat → Expander Nat
  | 0 => return 0
  | count + 1 => do
    let low ← bit
    let high ← number count
    return low.toNat + 2 * high

/-- A number of so many whole bytes, the lowest first. -/
def bytes (count : Nat) : Expander Nat :=
  number (8 * count)

/-- Stops unless `condition` holds. -/
def require (condition : Bool) : Expander Unit :=
  if condition then return else throw .corrupt

/-- Passes over the bits left of a byte. -/
def align : Expander Unit :=
  modify ({ · with pending := [] })

/-- Passes over the bits left of a byte, none of which may be set. -/
def alignBlank : Expander Unit := do
  require ((← get).pending.all (!·))
  align

/-- The number of bits left to read. -/
def bitCount : Expander Nat :=
  return 8 * (← get).input.length + (← get).pending.length

def emit (byte : UInt8) : Expander Unit :=
  modify fun stream ↦ { stream with output := stream.output.push byte }

/-- Puts the byte into the output again that is a number of bytes back. Before the first byte there
are zeros. -/
def emitAgain (distance : Nat) (stream : Stream) : Stream :=
  let byte :=
    if distance ≤ stream.output.size then stream.output.getD (stream.output.size - distance) 0
    else 0
  { stream with output := stream.output.push byte }

/-- Repeats a number of bytes, the first of which is `distance` back. -/
def copy (distance : Nat) : Nat → Expander Unit
  | 0 => return
  | count + 1 => do
    modify (emitAgain distance)
    copy distance count

/-- Puts the next bytes of the input into the output as they are. -/
def transfer : Nat → Expander Unit
  | 0 => return
  | count + 1 => do
    emit (UInt8.ofNat (← number 8))
    transfer count

/-- What an input expands to. One that ends too soon expands to what it has given up to there, and
one that goes on behind its end does not expand. -/
def expand (expander : Expander Unit) (input : List UInt8) : Option (List UInt8) :=
  match expander.run ⟨input, [], #[]⟩ with
  | .ok _ stream => if stream.input.isEmpty then some stream.output.toList else none
  | .error .exhausted stream => some stream.output.toList
  | .error .corrupt _ => none

end Expander

end LoginThrottle.Compression
