import LoginThrottle.Wait.Switchboard

/-!
One order in which things happen on a switchboard: the waits of a tripped switch are woken at once,
and a wait times out exactly at its deadline. One switch at a time is the current one, on which
guards are set and waits are started; a new switch takes its place and leaves the guards and the
waits on the old one as they are.
-/

set_option autoImplicit false
set_option relaxedAutoImplicit false

namespace LoginThrottle

/-- `now` is the time in milliseconds, `kept` are the guards from the oldest on, and `started` are
the waits that have not been joined. -/
structure Timeline where
  board : Switchboard
  now : Nat
  current : Nat
  kept : List Nat
  started : List Nat
  deriving DecidableEq, Repr

namespace Timeline

def initial : Timeline :=
  ⟨Switchboard.empty.step .create, 0, 0, [], []⟩

def isTripped (line : Timeline) : Bool :=
  line.board.isTripped line.current

/-- The timeline after a move, with everyone woken who waits. -/
def move (line : Timeline) (next : Switchboard.Move) : Timeline :=
  let board := line.board.step next
  { line with board := board.run ((List.range board.waiters.length).map .wake) }

/-- The timeline at a later time, with every wait timed out that is due by then. -/
def passTo (line : Timeline) (time : Nat) : Timeline :=
  let due :=
    (List.range line.board.waiters.length).filter fun waiter ↦
      line.board.waiters[waiter]?.any (·.isDue time)
  { line with board := line.board.run (due.map .timeOut), now := max line.now time }

def replace (line : Timeline) : Timeline :=
  { line.move .create with current := line.board.tripped.length }

def kill (line : Timeline) : Timeline :=
  line.move (.kill line.current)

def guard (line : Timeline) : Timeline :=
  { line.move (.guard line.current) with kept := line.kept ++ [line.board.guards.length] }

/-- Drops the oldest guard. -/
def dropGuard (line : Timeline) : Timeline :=
  match line.kept with
  | [] => line
  | guard :: kept => { line.move (.drop guard) with kept }

/-- Starts a wait on the current switch; one without a duration has no deadline. -/
def start (line : Timeline) (duration? : Option Nat) : Timeline :=
  let deadline? := duration?.map (line.now + ·)
  { line.move (.start line.current deadline?) with
    started := line.started ++ [line.board.waiters.length] }

/-- The time by which every wait is over that has a deadline and is still going on. -/
def horizon (line : Timeline) : Nat :=
  let blocked := line.board.waiters.filter (·.isBlocked)
  (blocked.filterMap (·.deadline?)).foldl max line.now

/-- Lets time pass until the started waits are over, and tells how they ended, in the order in
which they were started. -/
def join (line : Timeline) : List (Option WaitEnd) × Timeline :=
  let later := line.passTo line.horizon
  (line.started.map later.board.ended?, { later with started := [] })

/-- Starts a wait and lets it end. -/
def wait (line : Timeline) (duration? : Option Nat) : Option WaitEnd × Timeline :=
  let waiter := line.board.waiters.length
  let waiting := line.start duration?
  let later :=
    match waiting.board.ended? waiter, duration? with
    | none, some duration => waiting.passTo (line.now + duration)
    | _, _ => waiting
  (later.board.ended? waiter, { later with started := line.started })

end Timeline

end LoginThrottle
