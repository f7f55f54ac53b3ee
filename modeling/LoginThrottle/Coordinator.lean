import LoginThrottle.Observer

/-!
The coordinator knows the subscribers, in the order of their registration and numbered by it from
zero. It alone writes the delay counter, for the one subscriber that has claimed it: the first
claim stands for good. A reset of the counter also forgets every recorded failure. What the
scripted observers saw and what was logged is kept in the order in which it happened.
-/

set_option autoImplicit false
set_option relaxedAutoImplicit false

namespace LoginThrottle

structure Coordinator where
  subscribers : List Subscriber
  owner? : Option Nat
  generated : UInt64
  ledger : Ledger
  sightings : List Sighting
  journal : List Record
  deriving Repr

namespace Coordinator

def empty : Coordinator :=
  { subscribers := [], owner? := none, generated := 0, ledger := .empty, sightings := []
    journal := [] }

instance : Inhabited Coordinator where
  default := empty

def log (coordinator : Coordinator) (record : Record) : Coordinator :=
  { coordinator with journal := coordinator.journal ++ [record] }

def note (coordinator : Coordinator) (sighting : Sighting) : Coordinator :=
  { coordinator with sightings := coordinator.sightings ++ [sighting] }

/-- The coordinator with nothing in its notes and its log. -/
def withoutHistory (coordinator : Coordinator) : Coordinator :=
  { coordinator with sightings := [], journal := [] }

/-- The coordinator with one more subscriber, which is given whatever it claims. -/
def add (coordinator : Coordinator) (subscriber : Subscriber) (claims : List StatusVariable) :
    Coordinator :=
  let number := coordinator.subscribers.length
  let added :=
    { coordinator with
      subscribers := coordinator.subscribers ++ [subscriber]
      owner? := if claims.isEmpty then coordinator.owner? else some number }
  added.log (.subscriberRegistered number claims)

/-- Adds a subscriber with the status variables it claims, however often it lists them, and gives
its number. A claim on a variable that has an owner is refused and then nothing changes. -/
def register (coordinator : Coordinator) (subscriber : Subscriber) (claims : List StatusVariable) :
    Except Fault (Nat × Coordinator) :=
  match claims, coordinator.owner? with
  | claim :: _, some _ => .error (.alreadyClaimed claim)
  | _, _ => .ok (coordinator.subscribers.length, coordinator.add subscriber claims)

/-- The action on the counter, whoever asks for it. The counter wraps round. -/
def act (coordinator : Coordinator) : CounterAction → Coordinator
  | .increment => { coordinator with generated := coordinator.generated + 1 }
  | .reset => { coordinator with generated := 0, ledger := .empty }

/-- The action as reported by a subscriber, which only the counter's owner may do. -/
def report (coordinator : Coordinator) (number : Nat) (action : CounterAction) :
    Except Fault Coordinator :=
  if coordinator.owner? = some number then .ok (coordinator.act action)
  else .error (.notOwned .delayGenerated)

/-- The actions in turn, up to the first that is refused. -/
def reportAll (coordinator : Coordinator) (number : Nat) :
    List CounterAction → Coordinator × Except Fault Unit
  | [] => (coordinator, .ok ())
  | action :: rest =>
    match coordinator.report number action with
    | .ok next => next.reportAll number rest
    | .error fault => (coordinator, .error fault)

def setObserver (coordinator : Coordinator) (number : Nat) (observer : Observer) : Coordinator :=
  { coordinator with
    subscribers :=
      coordinator.subscribers.modify number fun subscriber ↦ { subscriber with observer } }

/-- The limits of every delay policy among the subscribers. -/
def delayLimits (coordinator : Coordinator) : List Settings :=
  coordinator.subscribers.filterMap (·.observer.limits?)

/-- Switches off every delay policy among the subscribers. -/
def disable (coordinator : Coordinator) : Coordinator :=
  { coordinator with
    subscribers := coordinator.subscribers.map fun subscriber ↦
      { subscriber with observer := subscriber.observer.disabled } }

/-- The coordinator as it is shown to whoever inspects it. -/
def inspect (coordinator : Coordinator) : String :=
  let owner :=
    match coordinator.owner? with
    | some number => "Some(SubscriberId(" ++ Text.ofNat number ++ "))"
    | none => "None"
  "EventCoordinator \x7b subscribers: " ++ Text.ofNat coordinator.subscribers.length
    ++ ", stat_producers: [" ++ owner ++ "] \x7d"

end Coordinator

end LoginThrottle
