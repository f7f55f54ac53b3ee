import LoginThrottle.Text.Hexadecimal

/-!
Network addresses. An address of four bytes is written with dots. An address of eight groups is
written in lower-case hexadecimal digits, with `::` for the first of the longest runs of two or
more zero groups; one that stands for an address of four bytes shows that at its end. A peer is
known by an address and a port, and the scope of a link-local address is not part of the address.
-/

set_option autoImplicit false
set_option relaxedAutoImplicit false

namespace LoginThrottle

inductive Address
  | bytes (parts : List Nat)
  | groups (parts : List Nat)
  deriving DecidableEq, Repr

namespace Address

/-! ### Writing -/

def writeBytes (parts : List Nat) : List Char :=
  ['.'].intercalate (parts.map Text.writeNat)

def writeGroups (parts : List Nat) : List Char :=
  [':'].intercalate (parts.map Text.writeHex)

/-- The length of the run of zero groups at the start. -/
def zeroRun (parts : List Nat) : Nat :=
  (parts.takeWhile (· == 0)).length

/-- Where the longest run of zero groups starts, and its length. -/
def longestRun (parts : List Nat) : Nat × Nat :=
  (List.range parts.length).foldl
    (fun best start ↦
      let length := zeroRun (parts.drop start)
      if best.2 < length then (start, length) else best)
    (0, 0)

/-- The four bytes that the last two groups hold. -/
def mapped? : List Nat → Option (List Nat)
  | [0, 0, 0, 0, 0, 0xFFFF, high, low] => some [high / 256, high % 256, low / 256, low % 256]
  | _ => none

def write : Address → String
  | .bytes parts => String.ofList (writeBytes parts)
  | .groups parts =>
    match mapped? parts with
    | some last => "::ffff:" ++ String.ofList (writeBytes last)
    | none =>
      let (start, length) := longestRun parts
      String.ofList <|
        if 2 ≤ length then
          writeGroups (parts.take start) ++ [':', ':'] ++ writeGroups (parts.drop (start + length))
        else writeGroups parts

/-! ### Reading -/

def readHex? (digits : List Char) : Option Nat :=
  if digits.isEmpty || 4 < digits.length then none
  else digits.foldlM (fun n c ↦ (Text.hexValue? c).map (16 * n + ·)) 0

def readByte? (digits : List Char) : Option Nat := do
  let n ← Text.readNat? digits
  if n < 256 && (digits.length = 1 || digits.head? != some '0') then some n else none

def readBytes? (text : List Char) : Option (List Nat) := do
  let parts ← (Text.splitAll '.' text).mapM readByte?
  if parts.length = 4 then some parts else none

/-- The groups between colons, the last of which may be written as four bytes. -/
def readGroups? (text : List Char) : Option (List Nat) :=
  if text.isEmpty then some []
  else
    let pieces := Text.splitAll ':' text
    let last := pieces.getLast?.getD []
    if last.contains '.' then do
      let front ← pieces.dropLast.mapM readHex?
      match ← readBytes? last with
      | [a, b, c, d] => some (front ++ [256 * a + b, 256 * c + d])
      | _ => none
    else pieces.mapM readHex?

/-- The text before the first `::` and the text after it. -/
def splitGap : List Char → Option (List Char × List Char)
  | ':' :: ':' :: rest => some ([], rest)
  | c :: rest => (splitGap rest).map fun (before, after) ↦ (c :: before, after)
  | [] => none

def readLong? (text : List Char) : Option Address := do
  match splitGap text with
  | none =>
    let parts ← readGroups? text
    if parts.length = 8 then some (.groups parts) else none
  | some (before, after) =>
    let front ← readGroups? before
    let back ← readGroups? after
    let gap := 8 - (front.length + back.length)
    if 0 < gap then some (.groups (front ++ List.replicate gap 0 ++ back)) else none

def isPort (text : List Char) : Bool :=
  (Text.readNat? text).any (· < UInt16.size)

/-- The address of a peer that is given with its port. -/
def ofPeer? : List Char → Option Address
  | '[' :: rest => do
    let (inside, after) ← Text.splitFirst ']' rest
    let text := ((Text.splitFirst '%' inside).map (·.1)).getD inside
    match after with
    | ':' :: port => if isPort port then readLong? text else none
    | _ => none
  | text => do
    let (address, port) ← Text.splitFirst ':' text
    if isPort port then (readBytes? address).map .bytes else none

end Address

end LoginThrottle
