import LoginThrottle.Admin.Address
import LoginThrottle.Text.Ascii
import LoginThrottle.Text.Blank

/-!
A request to the administration server. The name of a header is found in any ASCII case, and only
the first header of a name counts; its value is a text only if it has nothing but visible ASCII
characters, spaces and tabs.

The address of the client is the first entry of `X-Forwarded-For`, or else of `X-Real-IP`, as it is
written there, and only when neither has one the address of the peer.
-/

set_option autoImplicit false
set_option relaxedAutoImplicit false

namespace LoginThrottle

structure Request where
  method : String
  target : String
  headers : List (String × String)
  body : String
  peer? : Option String
  deriving DecidableEq, Repr

namespace Request

def isVisible (c : Char) : Bool :=
  c == '\t' || (' ' ≤ c && c ≤ '~')

/-- The value of the first header of this name, if it is a text. -/
def header? (request : Request) (name : String) : Option (List Char) := do
  let (_, value) ← request.headers.find? fun (other, _) ↦
    Text.asciiSame other.toList name.toList
  let value := value.toList
  if value.all isVisible then some value else none

/-- The first item of a list that is separated by commas, if it is not blank. -/
def firstItem? (value : List Char) : Option (List Char) :=
  let entry := Text.trim (((Text.splitFirst ',' value).map (·.1)).getD value)
  if entry.isEmpty then none else some entry

def forwarded? (request : Request) (name : String) : Option String :=
  ((request.header? name).bind firstItem?).map String.ofList

def peerAddress? (request : Request) : Option String :=
  (request.peer?.bind fun peer ↦ Address.ofPeer? peer.toList).map Address.write

def clientAddress? (request : Request) : Option String :=
  ((request.forwarded? "X-Forwarded-For").or (request.forwarded? "X-Real-IP")).or
    request.peerAddress?

/-- The length that the request announces for its body. -/
def announcedLength? (request : Request) : Option Nat := do
  let length ← Text.readUnsigned? (Text.trim (← request.header? "Content-Length"))
  if length < UInt64.size then some length else none

end Request

end LoginThrottle
