import LoginThrottle.Coordinator

/-!
How events and changed settings reach the subscribers: one after the other, in the order of their
registration. What a subscriber has done before it fails stays done, and its fault is logged and
goes no further.

A subscriber may have to hold an event back. Then the delivery stops with what has been decided
and who is still to be told, and goes on once the wait has ended.
-/

set_option autoImplicit false
set_option relaxedAutoImplicit false

namespace LoginThrottle

namespace Coordinator

/-- What a scripted observer does about anything it has just noted down. -/
def follow (coordinator : Coordinator) (number : Nat) (script : Script)
    (actions : List CounterAction) : Coordinator × Except Fault Unit :=
  match coordinator.reportAll number actions, script.failure? with
  | (next, .ok ()), some reason => (next, .error (.observerFailed reason))
  | result, _ => result

/-- The outcome of a counted event, with the record of its delay if it was held back. -/
def settle (coordinator : Coordinator) (decision : Decision) (ended : WaitEnd) : Coordinator :=
  let logged :=
    match decision.audit? ended with
    | some audit => coordinator.log (.delayed audit)
    | none => coordinator
  { logged with ledger := decision.apply logged.ledger }

/-- Counts a delay that is about to begin. -/
def countDelay (coordinator : Coordinator) (number : Nat) : Coordinator :=
  match coordinator.report number .increment with
  | .ok next => next
  | .error fault => coordinator.log (.countFailed fault)

/-- What the delay policy does about an event before any wait: the event is dealt with, unless a
decision is left that has to be settled after the wait. -/
def decide (coordinator : Coordinator) (number : Nat) (limits : Settings)
    (event : ConnectionEvent) : Coordinator × Option Decision :=
  match Verdict.judge limits coordinator.ledger event with
  | .ignored => (coordinator, none)
  | .unidentified => (coordinator.log (.notCounted .noContext), none)
  | .counted decision =>
    if decision.delay?.isSome then (coordinator.countDelay number, some decision)
    else (coordinator.settle decision .elapsed, none)

/-- What a subscriber does about an event before any wait. -/
def tell (coordinator : Coordinator) (number : Nat) (event : ConnectionEvent) :
    Coordinator × Option Decision :=
  match coordinator.subscribers[number]? with
  | none => (coordinator, none)
  | some ⟨.delay limits, _⟩ => coordinator.decide number limits event
  | some ⟨.scripted script, _⟩ =>
    let noted := coordinator.note (.event script.label event.kind event.outcome)
    match noted.follow number script script.onEvent with
    | (next, .ok ()) => (next, none)
    | (next, .error fault) => (next.log (.eventFailed number fault), none)

/-- The event delivered to one subscriber, with any wait ending as given. -/
def deliver (coordinator : Coordinator) (event : ConnectionEvent) (ended : WaitEnd)
    (number : Nat) : Coordinator :=
  match coordinator.tell number event with
  | (next, some decision) => next.settle decision ended
  | (next, none) => next

def deliverAll (coordinator : Coordinator) (event : ConnectionEvent) (ended : WaitEnd)
    (numbers : List Nat) : Coordinator :=
  numbers.foldl (fun reached number ↦ reached.deliver event ended number) coordinator

/-- The event delivered to everyone, with every wait ending as given. -/
def notifyEvent (coordinator : Coordinator) (event : ConnectionEvent) (ended : WaitEnd) :
    Coordinator :=
  coordinator.deliverAll event ended (List.range coordinator.subscribers.length)

/-- A delivery that has come to a wait: the decision that is pending, and the subscribers that
have not been told yet. -/
structure Held where
  event : ConnectionEvent
  decision : Decision
  remaining : List Nat
  deriving Repr

/-- The event delivered up to the first wait. -/
def advance (coordinator : Coordinator) (event : ConnectionEvent) :
    List Nat → Coordinator × Option Held
  | [] => (coordinator, none)
  | number :: rest =>
    match coordinator.tell number event with
    | (next, some decision) => (next, some ⟨event, decision, rest⟩)
    | (next, none) => next.advance event rest

def begin (coordinator : Coordinator) (event : ConnectionEvent) : Coordinator × Option Held :=
  coordinator.advance event (List.range coordinator.subscribers.length)

/-- The rest of a delivery, its wait and any later one ending as given. -/
def release (coordinator : Coordinator) (held : Held) (ended : WaitEnd) : Coordinator :=
  (coordinator.settle held.decision ended).deliverAll held.event ended held.remaining

/-- What the delay policy does about a changed setting. A new threshold below zero is taken for
zero, and starts the counter and every account afresh. A bound has to pass the policy's own check,
which it does not fail if the change was checked before. -/
def adjust (coordinator : Coordinator) (number : Nat) (limits : Settings) (setting : Setting)
    (value : Int64) : Coordinator × Except Fault Unit :=
  match setting with
  | .threshold =>
    let adjusted :=
      coordinator.setObserver number (.delay { limits with threshold := max value 0 })
    match adjusted.report number .reset with
    | .ok next => (next, .ok ())
    | .error fault => (adjusted.log (.resetFailed fault), .error fault)
  | .minDelay | .maxDelay =>
    match limits.setDelay setting value with
    | .ok adjusted => (coordinator.setObserver number (.delay adjusted), .ok ())
    | .error fault => (coordinator.log (.boundRefused setting value fault), .error fault)

/-- What a subscriber does about a changed setting. -/
def tellChange (coordinator : Coordinator) (setting : Setting) (value : Int64) (number : Nat) :
    Coordinator :=
  match coordinator.subscribers[number]? with
  | none => coordinator
  | some subscriber =>
    if subscriber.interests.contains setting then
      let (next, result) :=
        match subscriber.observer with
        | .delay limits => coordinator.adjust number limits setting value
        | .scripted script =>
          (coordinator.note (.change script.label setting value)).follow number script
            script.onChange
      match result with
      | .ok () => next
      | .error fault => next.log (.changeFailed number setting value fault)
    else coordinator

/-- The change delivered to everyone who is interested in the setting. -/
def notifyChange (coordinator : Coordinator) (setting : Setting) (value : Int64) : Coordinator :=
  (List.range coordinator.subscribers.length).foldl
    (fun reached number ↦ reached.tellChange setting value number) coordinator

end Coordinator

end LoginThrottle
