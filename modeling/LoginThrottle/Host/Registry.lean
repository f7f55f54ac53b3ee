import LoginThrottle.Host

/-!
A host that keeps the registered names itself. A name cannot be registered twice, nor at all once
it has been refused; a refusal does not touch a name that is registered already. A list of
variables is registered as a whole or not at all, but unregistered as far as possible, and then
the first failure is reported.
-/

set_option autoImplicit false
set_option relaxedAutoImplicit false

namespace LoginThrottle

/-- A table as it is announced to the host. -/
structure TableShare where
  name : String
  definition : String
  readOnly : Bool
  deriving DecidableEq, Repr

/-- The table of failed logins. -/
def TableShare.failures : TableShare :=
  { name := "connection_control_failed_login_attempts"
    definition := "USERHOST VARCHAR(6553) NOT NULL, FAILED_ATTEMPTS INT NOT NULL"
    readOnly := true }

/-- What a thing to be registered is called in messages. -/
def Registration.noun : Registration → String
  | .table => "table"
  | .settings => "system variables"
  | .statusVariable => "status variable"

/-- The names under which the component registers a thing. -/
def Registration.names : Registration → List String
  | .table => [TableShare.failures.name]
  | .settings => Setting.all.map Setting.name
  | .statusVariable => [StatusVariable.delayGenerated.name]

/-- The registered names in ascending order, the refused names, and what was logged. -/
structure Registry where
  registered : List String
  refused : List String
  journal : List Record
  deriving DecidableEq, Repr

namespace Registry

def empty : Registry :=
  ⟨[], [], []⟩

/-- The name put in its place among ascending names, unless it is there. -/
def insertName (name : String) : List String → List String
  | [] => [name]
  | other :: rest =>
    if name = other then other :: rest
    else if name < other then name :: other :: rest
    else other :: insertName name rest

def refuse (registry : Registry) (name : String) : Registry :=
  { registry with refused := name :: registry.refused }

def holds (registry : Registry) (name : String) : Bool :=
  registry.registered.contains name

def registerName (registry : Registry) (thing : Registration) (name : String) :
    Except Fault Registry :=
  let step := "register " ++ thing.noun
  if registry.refused.contains name then
    .error (.registration step ("host refused '" ++ name ++ "'"))
  else if registry.holds name then
    .error (.registration step ("'" ++ name ++ "' is already registered"))
  else
    .ok { registry with
      registered := insertName name registry.registered
      journal := registry.journal ++ [.nameRegistered name] }

def unregisterName (registry : Registry) (thing : Registration) (name : String) :
    Except Fault Registry :=
  if registry.holds name then
    .ok { registry with
      registered := registry.registered.filter (· ≠ name)
      journal := registry.journal ++ [.nameUnregistered name] }
  else
    .error (.registration ("unregister " ++ thing.noun) ("'" ++ name ++ "' is not registered"))

/-- All of the names registered in turn, or the first fault. -/
def registerNames (registry : Registry) (thing : Registration) (names : List String) :
    Except Fault Registry :=
  names.foldlM (fun reached name ↦ reached.registerName thing name) registry

/-- Unregisters the names in turn and reports the first that was not registered. -/
def unregisterNames (registry : Registry) (thing : Registration) :
    List String → Except Fault Unit × Registry
  | [] => (.ok (), registry)
  | name :: rest =>
    match registry.unregisterName thing name with
    | .ok next => next.unregisterNames thing rest
    | .error fault => (.error fault, (registry.unregisterNames thing rest).2)

/-- Registers the names in turn, up to the first that fails; gives those that were registered, in
order. -/
def registerEach (registry : Registry) (thing : Registration) :
    List String → (List String × Except Fault Unit) × Registry
  | [] => (([], .ok ()), registry)
  | name :: rest =>
    match registry.registerName thing name with
    | .ok next =>
      let ((done, result), last) := next.registerEach thing rest
      ((name :: done, result), last)
    | .error fault => (([], .error fault), registry)

/-- Registers the names as a group. If one fails, those before it are unregistered again, and what
comes of that is not reported. -/
def registerGroup (registry : Registry) (thing : Registration) (names : List String) :
    Except Fault Unit × Registry :=
  match registry.registerEach thing names with
  | ((_, .ok ()), next) => (.ok (), next)
  | ((done, .error fault), next) => (.error fault, (next.unregisterNames thing done).2)

def registerTable (registry : Registry) (name : String) (readOnly : Bool) :
    Except Fault Registry := do
  let next ← registry.registerName .table name
  return { next with journal := next.journal ++ [.tableRegistered name readOnly] }

/-- The registry after an attempt, and whether the attempt succeeded. -/
def attempt (registry : Registry) : Except Fault Registry → Except Fault Unit × Registry
  | .ok next => (.ok (), next)
  | .error fault => (.error fault, registry)

def host : Host Registry where
  answer
    | .register .table, registry =>
      registry.attempt
        (registry.registerTable TableShare.failures.name TableShare.failures.readOnly)
    | .register thing, registry => registry.registerGroup thing thing.names
    | .unregister thing, registry => registry.unregisterNames thing thing.names

end Registry

end LoginThrottle
