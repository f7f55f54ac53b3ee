import LoginThrottle.Event
import LoginThrottle.Fault
import LoginThrottle.Setting.Values

/-!
The records that the program writes to its log, by what they report, with the level, the target,
the message and the fields under which each is written. A record of an imposed delay is an audit
record: it goes to a target of its own.
-/

set_option autoImplicit false
set_option relaxedAutoImplicit false

namespace LoginThrottle

/-- What is kept about a delay: the failures counted before the event, the threshold then in
force, the delay in milliseconds and how the wait for it ended. -/
structure DelayAudit where
  account : String
  kind : EventKind
  outcome : Outcome
  failures : UInt64
  threshold : Int64
  delay : UInt64
  ended : WaitEnd
  deriving DecidableEq, Repr

/-- The registrations that the component makes with its host. -/
inductive Registration
  | table
  | settings
  | statusVariable
  deriving DecidableEq, Repr

def Registration.title : Registration → String
  | .table => "Table"
  | .settings => "Variables"
  | .statusVariable => "StatusVariable"

inductive Level
  | error
  | warn
  | info
  | debug
  | trace
  deriving DecidableEq, Repr

namespace Level

/-- The more a level lets through, the higher it is. -/
def verbosity : Level → Nat
  | .error => 1
  | .warn => 2
  | .info => 3
  | .debug => 4
  | .trace => 5

def title : Level → String
  | .error => "ERROR"
  | .warn => "WARN"
  | .info => "INFO"
  | .debug => "DEBUG"
  | .trace => "TRACE"

end Level

inductive FieldValue
  | text (value : String)
  | number (value : Int)
  | flag (value : Bool)
  deriving DecidableEq, Repr

inductive Record
  | nameRegistered (name : String)
  | nameUnregistered (name : String)
  | tableRegistered (name : String) (readOnly : Bool)
  | subscriberRegistered (subscriber : Nat) (claims : List StatusVariable)
  | loaded (settings : Settings)
  | loadFailed (fault : Fault)
  | rollBackFailed (step : Registration) (fault : Fault)
  | unregisterFailed (step : Registration) (fault : Fault)
  | serving (address : String)
  | eventFailed (subscriber : Nat) (fault : Fault)
  | changeFailed (subscriber : Nat) (setting : Setting) (value : Int64) (fault : Fault)
  | notCounted (fault : Fault)
  | countFailed (fault : Fault)
  | resetFailed (fault : Fault)
  | boundRefused (setting : Setting) (value : Int64) (fault : Fault)
  | requestRejected (fault : Fault)
  | requestFailed (fault : Fault)
  | delayed (audit : DelayAudit)
  deriving DecidableEq, Repr

namespace DelayAudit

/-- The record with its terms spelled by the given names. -/
def spelled (audit : DelayAudit) (kind outcome ended : String) : List (String × FieldValue) :=
  [("account", .text audit.account), ("subclass", .text kind), ("outcome", .text outcome),
    ("failed_attempts", .number audit.failures.toNat),
    ("threshold", .number audit.threshold.toInt), ("delay_ms", .number audit.delay.toNat),
    ("wait_outcome", .text ended)]

def logFields (audit : DelayAudit) : List (String × FieldValue) :=
  audit.spelled audit.kind.title audit.outcome.title audit.ended.title

def storedFields (audit : DelayAudit) : List (String × FieldValue) :=
  audit.spelled audit.kind.name audit.outcome.name audit.ended.name

end DelayAudit

namespace Record

def level : Record → Level
  | nameRegistered _ | nameUnregistered _ | subscriberRegistered .. => .debug
  | tableRegistered .. | loaded _ | serving _ | delayed _ => .info
  | eventFailed .. | changeFailed .. | notCounted _ | requestRejected _ => .warn
  | loadFailed _ | rollBackFailed .. | unregisterFailed .. | countFailed _ | resetFailed _
  | boundRefused .. | requestFailed _ => .error

def target : Record → String
  | nameRegistered _ | nameUnregistered _ | tableRegistered .. =>
    "connection_control::services::host"
  | loaded _ | loadFailed _ | rollBackFailed .. | unregisterFailed .. =>
    "connection_control::services::component"
  | subscriberRegistered .. | eventFailed .. | changeFailed .. =>
    "connection_control::services::coordinator"
  | notCounted _ | countFailed _ | resetFailed _ | boundRefused .. =>
    "connection_control::services::delay"
  | requestRejected _ | requestFailed _ => "connection_control::handlers::variables"
  | serving _ => "connection_control"
  | delayed _ => "connection_control_audit"

def message : Record → String
  | nameRegistered _ => "Registered with host"
  | nameUnregistered _ => "Unregistered from host"
  | tableRegistered .. => "Table registered"
  | subscriberRegistered .. => "Subscriber registered"
  | loaded _ => "Connection control initialized"
  | loadFailed _ => "Connection control failed to initialize"
  | rollBackFailed .. => "Failed to roll back registration"
  | unregisterFailed .. => "Failed to unregister during shutdown"
  | serving _ => "Connection control admin server starting"
  | eventFailed .. => "Subscriber failed to handle connection event"
  | changeFailed .. => "Subscriber failed to apply option change"
  | notCounted _ => "Connection not counted: no account identity available"
  | countFailed _ => "Failed to update delay generated counter"
  | resetFailed _ => "Failed to reset delay generated counter"
  | boundRefused .. => "Failed to set connection delay"
  | requestRejected _ => "Variable change rejected"
  | requestFailed _ => "Variable change failed"
  | delayed _ => "Connection delayed after repeated failed logins"

/-- A list of status variables as the log shows it. -/
def claimsText (claims : List StatusVariable) : String :=
  "[" ++ ", ".intercalate (claims.map fun
    | .delayGenerated => "DelayGenerated") ++ "]"

def fields : Record → List (String × FieldValue)
  | nameRegistered name | nameUnregistered name => [("name", .text name)]
  | tableRegistered name readOnly => [("table", .text name), ("read_only", .flag readOnly)]
  | subscriberRegistered subscriber claims =>
    [("subscriber", .number subscriber), ("produces", .text (claimsText claims))]
  | loaded settings =>
    [("threshold", .number settings.threshold.toInt),
      ("min_delay", .number settings.minDelay.toInt),
      ("max_delay", .number settings.maxDelay.toInt)]
  | serving address => [("bind", .text address)]
  | loadFailed fault | notCounted fault | countFailed fault | resetFailed fault
  | requestRejected fault | requestFailed fault => [("error", .text fault.message)]
  | rollBackFailed step fault | unregisterFailed step fault =>
    [("step", .text step.title), ("error", .text fault.message)]
  | eventFailed subscriber fault =>
    [("subscriber", .number subscriber), ("error", .text fault.message)]
  | changeFailed subscriber setting value fault =>
    [("subscriber", .number subscriber), ("option", .text setting.name),
      ("value", .number value.toInt), ("error", .text fault.message)]
  | boundRefused setting value fault =>
    [("option", .text setting.name), ("value", .number value.toInt),
      ("error", .text fault.message)]
  | delayed audit => audit.logFields

/-- The audit record of an imposed delay, if the record is one. -/
def audit? : Record → Option DelayAudit
  | delayed audit => some audit
  | _ => none

end Record

end LoginThrottle
