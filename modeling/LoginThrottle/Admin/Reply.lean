import LoginThrottle.Json.Writer
import LoginThrottle.Record

/-!
What the administration server replies. A fault that lies in the request is explained to the
client and logged as a warning; any other is reported to it as an internal error, and logged as an
error. A body that cannot be taken for what is expected is refused before it is acted upon.
-/

set_option autoImplicit false
set_option relaxedAutoImplicit false

namespace LoginThrottle

/-- Why a body is not taken: it does not claim to be JSON, it is too long, it cannot be expanded,
or it is not the JSON that is expected. -/
inductive Refusal
  | contentType
  | overflow
  | payload
  | deserialize
  deriving DecidableEq, Repr

namespace Refusal

def name : Refusal → String
  | contentType => "ContentType"
  | overflow => "Overflow"
  | payload => "Payload"
  | deserialize => "Deserialize"

def status : Refusal → Nat
  | contentType | payload | deserialize => 400
  | overflow => 413

end Refusal

inductive Content
  | nothing
  | text (mediaType : String) (text : String)
  | json (value : Json.Value)
  | refused (refusal : Refusal)
  deriving Repr

structure Reply where
  status : Nat
  content : Content
  deriving Repr

namespace Reply

def plain : String :=
  "text/plain; charset=utf-8"

def json (value : Json.Value) : Reply :=
  ⟨200, .json value⟩

def notFound : Reply :=
  ⟨404, .nothing⟩

def methodNotAllowed : Reply :=
  ⟨405, .nothing⟩

def refuse (refusal : Refusal) : Reply :=
  ⟨refusal.status, .refused refusal⟩

def badRequest (text : String) : Reply :=
  ⟨400, .text plain text⟩

def unavailable (mediaType text : String) : Reply :=
  ⟨503, .text mediaType text⟩

def ofFault (fault : Fault) : Reply :=
  ⟨if fault.rejectsRequest then 400 else 500, .text plain fault.publicMessage⟩

/-- The media type of the body, if there is one. -/
def mediaType? (reply : Reply) : Option String :=
  match reply.content with
  | .nothing => none
  | .text mediaType _ => some mediaType
  | .json _ => some "application/json"
  | .refused _ => some plain

end Reply

/-- The record of a fault that has been reported to a client. -/
def Fault.reported (fault : Fault) : Record :=
  if fault.rejectsRequest then .requestRejected fault else .requestFailed fault

end LoginThrottle
