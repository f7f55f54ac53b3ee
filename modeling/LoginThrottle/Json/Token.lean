import LoginThrottle.Json.Value
import LoginThrottle.Text.Hexadecimal

/-!
The tokens of a JSON text, found one character at a time. White space may stand between any two
tokens: the space, the tab, the line feed and the carriage return. A number or a word ends where a
character follows that cannot be part of one.
-/

set_option autoImplicit false
set_option relaxedAutoImplicit false

namespace LoginThrottle.Json

inductive Token
  | openObject
  | closeObject
  | openArray
  | closeArray
  | comma
  | colon
  | null
  | bool (value : Bool)
  | number (value : Number)
  | text (content? : Option String)
  deriving DecidableEq, Repr

/-- A part of a string literal: a character, or a code unit given by its number. -/
inductive Piece
  | char (c : Char)
  | unit (code : Nat)
  deriving DecidableEq, Repr

namespace Piece

def isHigh (code : Nat) : Bool :=
  0xD800 ≤ code && code ≤ 0xDBFF

def isLow (code : Nat) : Bool :=
  0xDC00 ≤ code && code ≤ 0xDFFF

/-- The characters that the pieces spell in front of `rest`, unless half of a surrogate pair
stands alone. The pieces are given from the last to the first. -/
def spell (rest : List Char) : List Piece → Option (List Char)
  | [] => some rest
  | .char c :: earlier => spell (c :: rest) earlier
  | .unit low :: .unit high :: earlier =>
    if isLow low then
      if isHigh high then
        spell (Char.ofNat (0x10000 + (high - 0xD800) * 0x400 + (low - 0xDC00)) :: rest) earlier
      else none
    else if isHigh low then none
    else spell (Char.ofNat low :: rest) (.unit high :: earlier)
  | .unit code :: earlier =>
    if isLow code || isHigh code then none else spell (Char.ofNat code :: rest) earlier

end Piece

namespace Number

def digitRun (text : List Char) : List Char × List Char :=
  (text.takeWhile Text.isDigit, text.dropWhile Text.isDigit)

/-- Whether the text is nothing or an exponent with at least one digit. -/
def isExponent : List Char → Bool
  | [] => true
  | mark :: rest =>
    let digits :=
      match rest with
      | '+' :: digits | '-' :: digits => digits
      | digits => digits
    (mark == 'e' || mark == 'E') && !digits.isEmpty && digits.all Text.isDigit

/-- Whether the text after the integer digits is a fraction, an exponent or both. -/
def isTail : List Char → Bool
  | '.' :: rest => !(digitRun rest).1.isEmpty && isExponent (digitRun rest).2
  | rest => isExponent rest

/-- Integer digits have no needless zero in front. -/
def isWhole : List Char → Bool
  | [] => false
  | ['0'] => true
  | '0' :: _ => false
  | _ => true

def ofLexeme? (lexeme : List Char) : Option Number :=
  let (negative, unsigned) :=
    match lexeme with
    | '-' :: rest => (true, rest)
    | rest => (false, rest)
  let (digits, tail) := digitRun unsigned
  if isWhole digits && isTail tail then
    some (if tail.isEmpty then .integer negative (Text.natFrom 0 digits) else .real)
  else none

end Number

namespace Token

def ofWord? (word : List Char) : Option Token :=
  if word = "null".toList then some .null
  else if word = "true".toList then some (.bool true)
  else if word = "false".toList then some (.bool false)
  else none

def ofMark? : Char → Option Token
  | '\x7b' => some .openObject
  | '\x7d' => some .closeObject
  | '[' => some .openArray
  | ']' => some .closeArray
  | ',' => some .comma
  | ':' => some .colon
  | _ => none

/-- The character that a one-letter escape stands for. -/
def escaped? : Char → Option Char
  | '"' => some '"'
  | '\\' => some '\\'
  | '/' => some '/'
  | 'b' => some '\x08'
  | 'f' => some '\x0c'
  | 'n' => some '\n'
  | 'r' => some '\r'
  | 't' => some '\t'
  | _ => none

def isSpace (c : Char) : Bool :=
  c == ' ' || c == '\t' || c == '\n' || c == '\r'

def startsNumber (c : Char) : Bool :=
  c == '-' || Text.isDigit c

def continuesNumber (c : Char) : Bool :=
  startsNumber c || c == '+' || c == '.' || c == 'e' || c == 'E'

def isLetter (c : Char) : Bool :=
  'a' ≤ c && c ≤ 'z'

/-- Where in the text the scan is. What has been read of a token is kept from the last character
to the first. -/
inductive Mode
  | between
  | word (read : List Char)
  | number (read : List Char)
  | text (read : List Piece)
  | escape (read : List Piece)
  | unit (read : List Piece) (code digits : Nat)
  deriving Repr

/-- The tokens found so far, from the last to the first. -/
structure Scan where
  found : List Token
  mode : Mode
  deriving Repr

namespace Scan

def start : Scan :=
  ⟨[], .between⟩

def push (scan : Scan) (token : Token) : Scan :=
  ⟨token :: scan.found, .between⟩

/-- The scan with a number or a word, if it is in one, at its end. -/
def close (scan : Scan) : Option Scan :=
  match scan.mode with
  | .word read => (ofWord? read.reverse).map scan.push
  | .number read => (Number.ofLexeme? read.reverse).map fun number ↦ scan.push (.number number)
  | _ => some scan

/-- A character that no open token takes. -/
def begin (scan : Scan) (c : Char) : Option Scan :=
  if isSpace c then some scan
  else if c == '"' then some { scan with mode := .text [] }
  else if startsNumber c then some { scan with mode := .number [c] }
  else if isLetter c then some { scan with mode := .word [c] }
  else (ofMark? c).map scan.push

def step (scan : Scan) (c : Char) : Option Scan :=
  match scan.mode with
  | .between => scan.begin c
  | .word read =>
    if isLetter c then some { scan with mode := .word (c :: read) }
    else scan.close.bind (·.begin c)
  | .number read =>
    if continuesNumber c then some { scan with mode := .number (c :: read) }
    else scan.close.bind (·.begin c)
  | .text read =>
    if c == '"' then some (scan.push (.text ((Piece.spell [] read).map String.ofList)))
    else if c == '\\' then some { scan with mode := .escape read }
    else if c.toNat < 0x20 then none
    else some { scan with mode := .text (.char c :: read) }
  | .escape read =>
    if c == 'u' then some { scan with mode := .unit read 0 0 }
    else (escaped? c).map fun meant ↦ { scan with mode := .text (.char meant :: read) }
  | .unit read code digits =>
    (Text.hexValue? c).map fun digit ↦
      let code := 16 * code + digit
      if digits = 3 then { scan with mode := .text (.unit code :: read) }
      else { scan with mode := .unit read code (digits + 1) }

end Scan

/-- All tokens of a text, unless it holds something that is no token. -/
def scan (text : List Char) : Option (List Token) := do
  let last ← text.foldlM Scan.step Scan.start
  let last ← last.close
  match last.mode with
  | .between => some last.found.reverse
  | _ => none

end Token

end LoginThrottle.Json
