import LoginThrottle.Component
import LoginThrottle.Host.Registry
import LoginThrottle.Startup.Environment
import LoginThrottle.Startup.LogFilter

/-!
The start of the program: it configures itself from the environment, loads the component into a
fresh host and makes to serve. It stops at once if the filter for its log would be cut inside a
character, then if the component cannot be loaded, and then if there is no listening at the
address it is given. Only the records that the filter shows are logged.
-/

set_option autoImplicit false
set_option relaxedAutoImplicit false

namespace LoginThrottle

/-- Why the program stops, once it has started. -/
inductive Failure
  | filter (text : String)
  | load (fault : Fault)
  | bind (address : String)
  deriving DecidableEq, Repr

namespace Failure

def message : Failure → String
  | filter text => "Cannot cut the filter '" ++ text ++ "' inside a character"
  | load fault => "Failed to load connection control: " ++ fault.message
  | bind address => "Cannot listen at '" ++ address ++ "'"

/-- The code that the program ends with. -/
def exitCode : Failure → Nat
  | filter _ => 101
  | load _ | bind _ => 1

end Failure

namespace Configuration

def load (configuration : Configuration) : Component.Loading Registry :=
  Component.load Registry.host configuration.settings .empty

/-- What is logged up to the point where the server would begin to listen. -/
def records (configuration : Configuration) : List Record :=
  let loading := configuration.load
  loading.host.journal ++ loading.records ++
    match loading.result with
    | .ok _ => [.serving configuration.bind]
    | .error _ => []

def directives? (configuration : Configuration) : Option (List LogFilter.Directive) :=
  LogFilter.read? configuration.logFilter.toList

def shownRecords (configuration : Configuration) : List Record :=
  match configuration.directives? with
  | some directives => configuration.records.filter (LogFilter.shows directives)
  | none => []

/-- Why a program stops that cannot listen at its address. -/
def failure (configuration : Configuration) : Failure :=
  match configuration.directives?, configuration.load.result with
  | none, _ => .filter configuration.logFilter
  | some _, .error fault => .load fault
  | some _, .ok _ => .bind configuration.bind

end Configuration

end LoginThrottle
