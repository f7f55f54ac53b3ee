import LoginThrottle.Account.Context
import LoginThrottle.Text.Ascii

/-!
What the host reports about a connection. Only connecting and changing user carry the outcome of
an authentication; the other two kinds of event are never counted.
-/

set_option autoImplicit false
set_option relaxedAutoImplicit false

namespace LoginThrottle

inductive EventKind
  | connect
  | disconnect
  | changeUser
  | preAuthenticate
  deriving DecidableEq, Repr, Inhabited

inductive Outcome
  | success
  | failure
  deriving DecidableEq, Repr, Inhabited

/-- How a connection that was held back came free: its delay ran out, or it was killed. -/
inductive WaitEnd
  | elapsed
  | killed
  deriving DecidableEq, Repr, Inhabited

/-- An event, with the security context of its connection if the host can provide one. -/
structure ConnectionEvent where
  kind : EventKind
  outcome : Outcome
  context : Option SecurityContext
  deriving DecidableEq, Repr

namespace EventKind

def all : List EventKind :=
  [.connect, .disconnect, .changeUser, .preAuthenticate]

/-- The name used in requests and in stored records. -/
def name : EventKind → String
  | .connect => "connect"
  | .disconnect => "disconnect"
  | .changeUser => "change_user"
  | .preAuthenticate => "pre_authenticate"

/-- The name used in the log. -/
def title : EventKind → String
  | .connect => "Connect"
  | .disconnect => "Disconnect"
  | .changeUser => "ChangeUser"
  | .preAuthenticate => "PreAuthenticate"

def isAuthentication : EventKind → Bool
  | .connect | .changeUser => true
  | .disconnect | .preAuthenticate => false

def ofName? (name : String) : Option EventKind :=
  all.find? fun kind ↦ kind.name == name

/-- The kind named by a request, in any ASCII case, or the lowered name if there is none. -/
def read (name : String) : Except String EventKind :=
  let lowered := String.ofList (Text.asciiLower name.toList)
  match ofName? lowered with
  | some kind => .ok kind
  | none => .error lowered

/-- What is answered to a request that names no kind. -/
def unknownMessage (lowered : String) : String :=
  "unknown event subclass '" ++ lowered ++ "'"

end EventKind

namespace Outcome

def name : Outcome → String
  | .success => "success"
  | .failure => "failure"

def title : Outcome → String
  | .success => "Success"
  | .failure => "Failure"

def ofName? (name : String) : Option Outcome :=
  [success, failure].find? fun outcome ↦ outcome.name == name

def ofSuccess (success : Bool) : Outcome :=
  if success then .success else .failure

end Outcome

namespace WaitEnd

def name : WaitEnd → String
  | .elapsed => "elapsed"
  | .killed => "killed"

def title : WaitEnd → String
  | .elapsed => "Elapsed"
  | .killed => "Killed"

def ofName? (name : String) : Option WaitEnd :=
  [elapsed, killed].find? fun ended ↦ ended.name == name

end WaitEnd

/-- The event as it is shown to whoever inspects it; the connection is left out. -/
def ConnectionEvent.inspect (event : ConnectionEvent) : String :=
  "ConnectionEvent \x7b subclass: " ++ event.kind.title ++ ", outcome: " ++ event.outcome.title
    ++ ", .. \x7d"

end LoginThrottle
