import LoginThrottle.Admin.MediaType
import LoginThrottle.Admin.Reply
import LoginThrottle.Admin.Request
import LoginThrottle.Compression.Coding
import LoginThrottle.Json.Form
import LoginThrottle.Text.Utf8

/-!
The body of a request as JSON. Whether it claims to be JSON is asked first, then the length it
announces, then whether it is compressed as it claims to be, then the length it has when it is
expanded, and its text last.
-/

set_option autoImplicit false
set_option relaxedAutoImplicit false

namespace LoginThrottle.Request

/-- The number of bytes beyond which a body is not taken. -/
def bodyLimit : Nat :=
  2097152

def claimsJson (request : Request) : Bool :=
  (request.header? "Content-Type").any MediaType.isJson

/-- The way in which the body claims to be compressed. -/
def coding? (request : Request) : Option Compression.Coding :=
  (request.header? "Content-Encoding").bind Compression.Coding.ofName?

/-- The bytes of the body, expanded if it claims to be compressed. -/
def content? (request : Request) : Option (List UInt8) :=
  let bytes := Text.Utf8.encode request.body.toList
  match request.coding? with
  | some coding => coding.expand? bytes
  | none => some bytes

/-- What the body says, taken for what `decode` expects. -/
def readBody {α : Type} (decode : Json.Value → Option α) (request : Request) :
    Except Refusal α :=
  if !request.claimsJson then .error .contentType
  else if request.announcedLength?.any (bodyLimit < ·) then .error .overflow
  else
    match request.content? with
    | none => .error .payload
    | some bytes =>
      if bodyLimit < bytes.length then .error .overflow
      else
        match ((Text.Utf8.decode? bytes).bind Json.read).bind decode with
        | some content => .ok content
        | none => .error .deserialize

end LoginThrottle.Request
