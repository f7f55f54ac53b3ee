/-!
Bytes read as UTF-8. Where the bytes are not well formed, each longest piece that could have begun
a character, or else the single byte, is read as the replacement character `U+FFFD`, so that any
bytes give a text. `decode?` accepts well-formed bytes only.
-/

set_option autoImplicit false
set_option relaxedAutoImplicit false

namespace LoginThrottle.Text.Utf8

/-- A character that has begun: the code read so far, how many more bytes it needs, and the range
the next of them has to be in. -/
structure Pending where
  code : Nat
  needed : Nat
  low : Nat
  high : Nat
  deriving DecidableEq, Repr

/-- What a byte that begins something begins: a whole character, a longer one, or nothing. -/
inductive Opening
  | whole (c : Char)
  | longer (pending : Pending)
  | invalid
  deriving Repr

def opening (byte : Nat) : Opening :=
  if byte < 0x80 then .whole (Char.ofNat byte)
  else if 0xC2 ≤ byte && byte ≤ 0xDF then .longer ⟨byte - 0xC0, 1, 0x80, 0xBF⟩
  else if byte == 0xE0 then .longer ⟨0, 2, 0xA0, 0xBF⟩
  else if byte == 0xED then .longer ⟨0xD, 2, 0x80, 0x9F⟩
  else if 0xE1 ≤ byte && byte ≤ 0xEF then .longer ⟨byte - 0xE0, 2, 0x80, 0xBF⟩
  else if byte == 0xF0 then .longer ⟨0, 3, 0x90, 0xBF⟩
  else if 0xF1 ≤ byte && byte ≤ 0xF3 then .longer ⟨byte - 0xF0, 3, 0x80, 0xBF⟩
  else if byte == 0xF4 then .longer ⟨4, 3, 0x80, 0x8F⟩
  else .invalid

/-- The characters read so far from the last to the first, one of them `none` where the bytes were
not well formed. -/
structure Reading where
  read : List (Option Char)
  pending? : Option Pending
  deriving Repr

namespace Reading

def begin (read : List (Option Char)) (byte : Nat) : Reading :=
  match opening byte with
  | .whole c => ⟨some c :: read, none⟩
  | .longer pending => ⟨read, some pending⟩
  | .invalid => ⟨none :: read, none⟩

def step (reading : Reading) (byte : UInt8) : Reading :=
  let byte := byte.toNat
  match reading.pending? with
  | none => begin reading.read byte
  | some pending =>
    if pending.low ≤ byte && byte ≤ pending.high then
      let code := 64 * pending.code + (byte - 0x80)
      if pending.needed ≤ 1 then ⟨some (Char.ofNat code) :: reading.read, none⟩
      else ⟨reading.read, some ⟨code, pending.needed - 1, 0x80, 0xBF⟩⟩
    else begin (none :: reading.read) byte

/-- Everything that was read, in order. -/
def result (reading : Reading) : List (Option Char) :=
  let read :=
    match reading.pending? with
    | some _ => none :: reading.read
    | none => reading.read
  read.reverse

end Reading

def readings (bytes : List UInt8) : List (Option Char) :=
  (bytes.foldl Reading.step ⟨[], none⟩).result

/-- The text, with a replacement character for each piece that is not well formed. -/
def decode (bytes : List UInt8) : List Char :=
  (readings bytes).map (·.getD '\uFFFD')

/-- The text, if all of it is well formed. -/
def decode? (bytes : List UInt8) : Option (List Char) :=
  (readings bytes).mapM id

/-- The bytes of a text. -/
def encode (text : List Char) : List UInt8 :=
  text.flatMap String.utf8EncodeChar

/-- The text in two parts, the first of them of a number of bytes. -/
def split? : Nat → List Char → Option (List Char × List Char)
  | 0, text => some ([], text)
  | _ + 1, [] => none
  | n + 1, c :: rest =>
    if c.utf8Size ≤ n + 1 then
      (split? (n + 1 - c.utf8Size) rest).map fun (before, after) ↦ (c :: before, after)
    else none

/-- What the text holds between its first `start` bytes and its first `stop` bytes. -/
def cut? (text : List Char) (start stop : Nat) : Option (List Char) := do
  let (before, _) ← split? stop text
  let (_, part) ← split? start before
  return part

end LoginThrottle.Text.Utf8
