import LoginThrottle.Event

/-!
Kill switches and those who wait on them. A switch is tripped once and for all, by a kill or by
the loss of a guard that was set on it. Whoever waits on a switch is stopped until its deadline, or
without end if the deadline lies beyond what a clock can show; each time it is woken it looks at
the switch, and it goes on waiting if that is not tripped. A wait that times out still looks at the
switch first.

Switches, guards and waits are numbered from zero in the order in which they were made.
-/

set_option autoImplicit false
set_option relaxedAutoImplicit false

namespace LoginThrottle

/-- A wait on a switch. The deadline, if a clock can show it, is a time in milliseconds. -/
structure Waiter where
  switch : Nat
  deadline? : Option Nat
  ended? : Option WaitEnd
  deriving DecidableEq, Repr

namespace Waiter

def isBlocked (waiter : Waiter) : Bool :=
  waiter.ended?.isNone

/-- The waiter after a look at its switch. -/
def woken (waiter : Waiter) (tripped : Bool) : Waiter :=
  if waiter.isBlocked && tripped then { waiter with ended? := some .killed } else waiter

/-- The waiter after its time has run out, which it cannot do without a deadline. -/
def timedOut (waiter : Waiter) (tripped : Bool) : Waiter :=
  if waiter.isBlocked && waiter.deadline?.isSome then
    { waiter with ended? := some (if tripped then .killed else .elapsed) }
  else waiter

/-- Whether the waiter should have timed out by the given time. -/
def isDue (waiter : Waiter) (time : Nat) : Bool :=
  waiter.isBlocked && waiter.deadline?.any (· ≤ time)

end Waiter

/-- Whether each switch is tripped, the switch of each guard unless it is lost, and the waits. -/
structure Switchboard where
  tripped : List Bool
  guards : List (Option Nat)
  waiters : List Waiter
  deriving DecidableEq, Repr

namespace Switchboard

/-- What can happen next, in whatever order. -/
inductive Move
  | create
  | kill (switch : Nat)
  | guard (switch : Nat)
  | drop (guard : Nat)
  | start (switch : Nat) (deadline? : Option Nat)
  | wake (waiter : Nat)
  | timeOut (waiter : Nat)
  deriving DecidableEq, Repr

def empty : Switchboard :=
  ⟨[], [], []⟩

def isTripped (board : Switchboard) (switch : Nat) : Bool :=
  board.tripped[switch]?.getD false

def trip (board : Switchboard) (switch : Nat) : Switchboard :=
  { board with tripped := board.tripped.set switch true }

/-- The switch on which the guard is still set. -/
def guarded? (board : Switchboard) (guard : Nat) : Option Nat :=
  board.guards[guard]?.join

def step (board : Switchboard) : Move → Switchboard
  | .create => { board with tripped := board.tripped ++ [false] }
  | .kill switch => board.trip switch
  | .guard switch => { board with guards := board.guards ++ [some switch] }
  | .drop guard =>
    match board.guarded? guard with
    | some switch => { board.trip switch with guards := board.guards.set guard none }
    | none => board
  | .start switch deadline? =>
    let waiter : Waiter := ⟨switch, deadline?, none⟩
    { board with waiters := board.waiters ++ [waiter.woken (board.isTripped switch)] }
  | .wake waiter =>
    { board with
      waiters :=
        board.waiters.modify waiter fun found ↦ found.woken (board.isTripped found.switch) }
  | .timeOut waiter =>
    { board with
      waiters :=
        board.waiters.modify waiter fun found ↦ found.timedOut (board.isTripped found.switch) }

def run (board : Switchboard) (moves : List Move) : Switchboard :=
  moves.foldl step board

/-- How a wait ended, if it has. -/
def ended? (board : Switchboard) (waiter : Nat) : Option WaitEnd :=
  board.waiters[waiter]?.bind (·.ended?)

end Switchboard

end LoginThrottle
