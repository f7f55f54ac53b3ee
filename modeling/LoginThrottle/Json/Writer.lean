import LoginThrottle.Json.Value
import LoginThrottle.Text.Hexadecimal

/-!
The text of a JSON value, without white space. In a string the quote, the backslash and the control
characters are escaped, those with a short escape by that. A number that is not an integer is
written as `null`, and a string that has no text as the replacement character.
-/

set_option autoImplicit false
set_option relaxedAutoImplicit false

namespace LoginThrottle.Json

def escape (c : Char) : List Char :=
  match c with
  | '"' => ['\\', '"']
  | '\\' => ['\\', '\\']
  | '\x08' => ['\\', 'b']
  | '\x0c' => ['\\', 'f']
  | '\n' => ['\\', 'n']
  | '\r' => ['\\', 'r']
  | '\t' => ['\\', 't']
  | c =>
    if c.toNat < 0x20 then
      ['\\', 'u', '0', '0', Text.hexDigit (c.toNat / 16), Text.hexDigit (c.toNat % 16)]
    else [c]

def quote (content? : Option String) : String :=
  "\"" ++ String.ofList ((content?.getD "\uFFFD").toList.flatMap escape) ++ "\""

def Number.write : Number → String
  | .integer negative magnitude => (if negative then "-" else "") ++ Text.ofNat magnitude
  | .real => "null"

mutual

def Value.write : Value → String
  | .null => "null"
  | .bool value => if value then "true" else "false"
  | .number value => value.write
  | .text content? => quote content?
  | .array items => "[" ++ ",".intercalate (writeItems items) ++ "]"
  | .object members => "\x7b" ++ ",".intercalate (writeMembers members) ++ "\x7d"

def writeItems : List Value → List String
  | [] => []
  | item :: rest => item.write :: writeItems rest

def writeMembers : List (Option String × Value) → List String
  | [] => []
  | (name?, value) :: rest => (quote name? ++ ":" ++ value.write) :: writeMembers rest

end

end LoginThrottle.Json
