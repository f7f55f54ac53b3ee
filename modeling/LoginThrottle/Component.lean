import LoginThrottle.Coordinator.Delivery
import LoginThrottle.Host
import LoginThrottle.Ledger.Cursor
import LoginThrottle.Setting.Name

/-!
The component as the host loads it: the committed settings, and a coordinator whose one subscriber
is the delay policy, with limits that start out as the settings and follow them.

Loading judges the settings before the host is asked for anything, and takes back what the host
has already registered when a later registration fails. Unloading tries every step, whatever the
host answers.
-/

set_option autoImplicit false
set_option relaxedAutoImplicit false

namespace LoginThrottle

structure Component where
  settings : Settings
  coordinator : Coordinator
  deriving Repr

namespace Component

/-- The coordinator of a component that has just been loaded. -/
def wired (settings : Settings) : Coordinator :=
  Coordinator.empty.add ⟨.delay settings, .all⟩ [.delayGenerated]

def fresh (settings : Settings) : Component :=
  ⟨settings, (wired settings).withoutHistory⟩

section Hosted

variable {σ : Type}

/-- What has come of loading: the component or the fault, what was logged, and the host. -/
structure Loading (σ : Type) where
  result : Except Fault Component
  records : List Record
  host : σ

/-- The order in which things are registered. -/
def registrations : List Registration :=
  [.table, .settings, .statusVariable]

def load (host : Host σ) (settings : Settings) (state : σ) : Loading σ :=
  match settings.validate with
  | .error fault => ⟨.error fault, [], state⟩
  | .ok () =>
    match host.registerAll registrations state with
    | ((_, .ok ()), next) =>
      ⟨.ok (fresh settings), (wired settings).journal ++ [.loaded settings], next⟩
    | ((done, .error fault), next) =>
      let (refused, last) := host.unregisterAll done.reverse next
      ⟨.error fault,
        .loadFailed fault :: refused.map fun (step, fault) ↦ .rollBackFailed step fault, last⟩

/-- The component once it is no longer in use, what was logged, and the host. -/
def unload (component : Component) (host : Host σ) (state : σ) :
    Component × List Record × σ :=
  let (refused, last) := host.unregisterAll registrations.reverse state
  let disabled := component.coordinator.disable
  ({ component with coordinator := { disabled with ledger := .empty } },
    refused.map fun (step, fault) ↦ .unregisterFailed step fault, last)

end Hosted

/-- The limits of the delay policy. -/
def limits (component : Component) : Settings :=
  component.coordinator.delayLimits.headD component.settings

def generated (component : Component) : UInt64 :=
  component.coordinator.generated

def ledger (component : Component) : Ledger :=
  component.coordinator.ledger

/-- The failures counted for an account. -/
def failures (component : Component) (key : AccountKey) : UInt64 :=
  component.ledger.count key

/-- The delay that the next attempt with this many failures before it would get. -/
def waitTime (component : Component) (failures : UInt64) : UInt64 :=
  component.limits.waitTime failures

def withoutHistory (component : Component) : Component :=
  { component with coordinator := component.coordinator.withoutHistory }

/-- An event, with any wait ending as given. -/
def notify (component : Component) (event : ConnectionEvent) (ended : WaitEnd) : Component :=
  { component with coordinator := component.coordinator.notifyEvent event ended }

/-- An event up to its wait, if it has one. -/
def begin (component : Component) (event : ConnectionEvent) :
    Component × Option Coordinator.Held :=
  let (coordinator, held?) := component.coordinator.begin event
  ({ component with coordinator }, held?)

/-- The rest of an event that was held back. -/
def release (component : Component) (held : Coordinator.Held) (ended : WaitEnd) : Component :=
  { component with coordinator := component.coordinator.release held ended }

/-- The value committed for a setting and passed on to the delay policy. -/
def commit (component : Component) (setting : Setting) (value : Int64) : Component :=
  ⟨component.settings.set setting value, component.coordinator.notifyChange setting value⟩

/-- Whether a value would be accepted for the setting of this name. -/
def check (component : Component) (name : String) (value : Int64) : Except Fault Setting := do
  let setting ← Setting.read name
  component.settings.check setting value
  return setting

/-- Commits a value that has been checked before. -/
def update (component : Component) (name : String) (value : Int64) :
    Except Fault (Setting × Component) := do
  let setting ← Setting.read name
  return (setting, component.commit setting value)

/-- Checks and commits in one. -/
def set (component : Component) (name : String) (value : Int64) :
    Except Fault (Setting × Component) := do
  let setting ← component.check name value
  return (setting, component.commit setting value)

/-- A list of settings as the component shows it, each under the given name. -/
def inspectSettings (title threshold minDelay maxDelay : String) (settings : Settings) : String :=
  title ++ " \x7b " ++ threshold ++ ": " ++ Text.ofInt settings.threshold.toInt ++ ", "
    ++ minDelay ++ ": " ++ Text.ofInt settings.minDelay.toInt ++ ", "
    ++ maxDelay ++ ": " ++ Text.ofInt settings.maxDelay.toInt ++ " \x7d"

/-- The component as it is shown to whoever inspects it. -/
def inspect (component : Component) : String :=
  "ConnectionControl \x7b variables: "
    ++ inspectSettings "SystemVariables" Setting.threshold.shortName Setting.minDelay.shortName
      Setting.maxDelay.shortName component.settings
    ++ ", coordinator: " ++ component.coordinator.inspect ++ ", delay_action: "
    ++ inspectSettings "DelayLimits" "threshold" "min_delay" "max_delay" component.limits ++ " \x7d"

end Component

end LoginThrottle
