import LoginThrottle.Proofs.Coordinator.Announcement
import LoginThrottle.Proofs.Wait.Switchboard

/-!
One event at one delay policy, whatever the limits of the policy are and whether or not it owns the
counter of delays. An attempt that counts is put down in the ledger once, with the outcome that it
has, on every path: with a wait or without, whether the report of the delay is refused, and
whichever way the wait ends. `deliver_to_policy` says so, and what else the event leaves behind.
-/

set_option autoImplicit false
set_option relaxedAutoImplicit false

namespace LoginThrottle

/-! ### Waits on a kill switch -/

/-- A connection's wait on its kill switch: the switchboard on which it begins, and what happens
there afterwards. Not every delay has a deadline that a clock can show. -/
structure Attendance where
  board : Switchboard
  switch : Nat
  deadline? : UInt64 → Option Nat
  moves : List Switchboard.Move

namespace Attendance

/-- How a wait for this delay has ended in the course of the moves, if it has. -/
def ended? (attendance : Attendance) (delay : UInt64) : Option WaitEnd :=
  let waiting := attendance.board.step (.start attendance.switch (attendance.deadline? delay))
  (waiting.run attendance.moves).ended? attendance.board.waiters.length

/-- On a switch that is tripped beforehand a wait is over before anything else can happen. -/
theorem ended?_of_isTripped {attendance : Attendance}
    (h : attendance.board.isTripped attendance.switch = true) (delay : UInt64) :
    attendance.ended? delay = some .killed := by
  apply Switchboard.ended?_run_of_ended
  rw [Switchboard.ended?, Switchboard.waiters_step, if_pos rfl, Switchboard.begun?, h,
    Option.bind_some, Waiter.ended?_woken rfl, if_pos rfl]

end Attendance

namespace Coordinator

variable {coordinator : Coordinator} {number : Nat} {limits : Settings} {interests : Selection}
  {event : ConnectionEvent} {key : AccountKey}

/-- The event delivered to one subscriber by a connection that waits on its kill switch if it is
held back. There is no result as long as the wait goes on. -/
def deliverOn? (coordinator : Coordinator) (event : ConnectionEvent) (number : Nat)
    (attendance : Attendance) : Option Coordinator :=
  match coordinator.tell number event with
  | (next, none) => some next
  | (next, some decision) =>
    (decision.delay?.bind attendance.ended?).map fun ended ↦ next.settle decision ended

/-! ### What an event comes to -/

/-- What is logged about an attempt that is held back. The report of the delay is refused to
whoever does not own the counter, and the delay is recorded all the same. -/
def delayRecords (coordinator : Coordinator) (number : Nat) (audit : DelayAudit) : List Record :=
  (if coordinator.owner? = some number then [] else [.countFailed (.notOwned .delayGenerated)])
    ++ [.delayed audit]

/-- The coordinator after an attempt of the account that the policy with this number has counted.
What else the attempt leaves behind depends on whether it was held back; how the wait ended is
something that only the record of the delay tells. -/
def attempted (coordinator : Coordinator) (number : Nat) (limits : Settings)
    (event : ConnectionEvent) (key : AccountKey) (ended : WaitEnd) : Coordinator :=
  let failures := coordinator.ledger.count key
  { coordinator with
    generated :=
      if limits.threshold.toInt ≤ failures.toNat ∧ coordinator.owner? = some number then
        coordinator.generated + 1
      else coordinator.generated
    ledger := coordinator.ledger.attempted event.outcome key
    journal :=
      coordinator.journal ++
        if limits.threshold.toInt ≤ failures.toNat then
          coordinator.delayRecords number (.made limits event key failures ended)
        else [] }

/-- An event that nobody waits for: this is left of it. -/
structure Passes (coordinator : Coordinator) (event : ConnectionEvent) (number : Nat)
    (after : Coordinator) : Prop where
  pending : (coordinator.tell number event).2 = none
  delivered : ∀ ended, coordinator.deliver event ended number = after
  awaited : ∀ attendance, coordinator.deliverOn? event number attendance = some after

/-- An event that has to wait for this long: this is left of it, as soon as the wait is over. -/
structure Waits (coordinator : Coordinator) (event : ConnectionEvent) (number : Nat)
    (delay : UInt64) (after : WaitEnd → Coordinator) : Prop where
  pending : (coordinator.tell number event).2.map (·.delay?) = some (some delay)
  delivered : ∀ ended, coordinator.deliver event ended number = after ended
  awaited : ∀ attendance,
    coordinator.deliverOn? event number attendance = (attendance.ended? delay).map after
  killed : ∀ attendance, attendance.board.isTripped attendance.switch = true →
    coordinator.deliverOn? event number attendance = some (after .killed)

/-- What an attempt of the account comes to at the policy with this number and these limits. -/
structure Counts (coordinator : Coordinator) (event : ConnectionEvent) (number : Nat)
    (limits : Settings) (key : AccountKey) : Prop where
  waits : limits.threshold.toInt ≤ (coordinator.ledger.count key).toNat →
    coordinator.Waits event number (limits.waitTime (coordinator.ledger.count key))
      (coordinator.attempted number limits event key)
  passes : (coordinator.ledger.count key).toNat < limits.threshold.toInt → ∀ ended,
    coordinator.Passes event number (coordinator.attempted number limits event key ended)
  levels : ∀ audit, (coordinator.delayRecords number audit).map (·.level) =
    if coordinator.owner? = some number then [.info] else [.error, .info]
  own : ∀ ended, ((coordinator.deliver event ended number).ledger.count key).toNat =
    match event.outcome with
    | .failure => min ((coordinator.ledger.count key).toNat + 1) (2 ^ 64 - 1)
    | .success => 0
  others : ∀ ended other, (other == key) = false →
    (coordinator.deliver event ended number).ledger.count other = coordinator.ledger.count other
  rows : ∀ ended,
    (coordinator.deliver event ended number).ledger.otherRows key = coordinator.ledger.otherRows key

/-- What an event comes to at the policy with this number and these limits. -/
structure Handles (coordinator : Coordinator) (event : ConnectionEvent) (number : Nat)
    (limits : Settings) : Prop where
  undisturbed : ∀ ended, Undisturbed coordinator (coordinator.deliver event ended number)
  ignored : event.kind.isAuthentication = false ∨ limits.threshold.toInt ≤ 0 →
    coordinator.Passes event number coordinator
  unidentified : event.kind.isAuthentication = true → 0 < limits.threshold.toInt →
    event.context = none →
      (Record.notCounted .noContext).level = .warn
        ∧ coordinator.Passes event number (coordinator.log (.notCounted .noContext))
  counted : event.kind.isAuthentication = true → 0 < limits.threshold.toInt →
    ∀ context, event.context = some context →
      coordinator.Counts event number limits context.accountKey

/-! ### Up to the wait and after it -/

theorem passes_of_tell {after : Coordinator} (h : coordinator.tell number event = (after, none)) :
    coordinator.Passes event number after where
  pending := by rw [h]
  delivered ended := by rw [deliver, h]
  awaited attendance := by rw [deliverOn?, h]

theorem waits_of_tell {next : Coordinator} {decision : Decision} {delay : UInt64}
    {after : WaitEnd → Coordinator}
    (h : coordinator.tell number event = (next, some decision))
    (hdelay : decision.delay? = some delay)
    (hafter : ∀ ended, next.settle decision ended = after ended) :
    coordinator.Waits event number delay after := by
  have hawaited (attendance : Attendance) :
      coordinator.deliverOn? event number attendance = (attendance.ended? delay).map after := by
    rw [deliverOn?, h]
    simp only [hdelay, Option.bind_some, hafter]
  constructor
  · rw [h, Option.map_some, hdelay]
  · intro ended
    rw [deliver, h]
    exact hafter ended
  · exact hawaited
  · intro attendance htripped
    rw [hawaited, attendance.ended?_of_isTripped htripped, Option.map_some]

/-- The outcome of a counted attempt, with the record of its delay if it was held back. -/
theorem settle_made (hledger : coordinator.ledger.Proper) (hon : 0 < limits.threshold.toInt)
    (event : ConnectionEvent) (key : AccountKey) (ended : WaitEnd) :
    coordinator.settle (.made limits event key (coordinator.ledger.count key)) ended =
      { coordinator with
        ledger := coordinator.ledger.attempted event.outcome key
        journal :=
          coordinator.journal ++
            if limits.threshold.toInt ≤ (coordinator.ledger.count key).toNat then
              [.delayed (.made limits event key (coordinator.ledger.count key) ended)]
            else [] } := by
  have happly : (Decision.made limits event key (coordinator.ledger.count key)).apply
      coordinator.ledger = coordinator.ledger.attempted event.outcome key :=
    Decision.apply_eq_attempted hledger rfl
  rw [settle_eq, happly, Decision.audit?_made hon]
  by_cases hheld : limits.threshold.toInt ≤ (coordinator.ledger.count key).toNat
  · rw [if_pos hheld, if_pos hheld]
    rfl
  · rw [if_neg hheld, if_neg hheld]
    rfl

/-- An attempt below the threshold is settled at once. How a wait would have ended makes no
difference to it. -/
theorem settle_made_of_lt (hledger : coordinator.ledger.Proper) (hon : 0 < limits.threshold.toInt)
    (hbelow : (coordinator.ledger.count key).toNat < limits.threshold.toInt) (number : Nat)
    (one other : WaitEnd) :
    coordinator.settle (.made limits event key (coordinator.ledger.count key)) one =
      coordinator.attempted number limits event key other := by
  rw [settle_made hledger hon, attempted]
  simp only [Int.not_le.mpr hbelow, false_and, if_false]

/-- An attempt from the threshold on is settled after the report of its delay. -/
theorem settle_countDelay_made (hledger : coordinator.ledger.Proper)
    (hon : 0 < limits.threshold.toInt)
    (hheld : limits.threshold.toInt ≤ (coordinator.ledger.count key).toNat) (number : Nat)
    (ended : WaitEnd) :
    (coordinator.countDelay number).settle
        (.made limits event key (coordinator.ledger.count key)) ended =
      coordinator.attempted number limits event key ended := by
  have hreported :=
    settle_made ((coordinator.countDelay_ledger number).symm ▸ hledger) hon event key ended
  rw [countDelay_ledger] at hreported
  rw [hreported, countDelay_eq, attempted, delayRecords]
  simp only [hheld, true_and, if_true, List.append_assoc]

/-- A counted attempt is decided on with the failures of its account. -/
theorem decide_of_counted (hkey : limits.counted? event = some key) (number : Nat) :
    coordinator.decide number limits event =
      if limits.threshold.toInt ≤ (coordinator.ledger.count key).toNat then
        (coordinator.countDelay number,
          some (.made limits event key (coordinator.ledger.count key)))
      else
        (coordinator.settle (.made limits event key (coordinator.ledger.count key)) .elapsed,
          none) := by
  have hon := Settings.threshold_pos_of_counted hkey
  have hheld : limits.triggers (coordinator.ledger.count key) = true ↔
      limits.threshold.toInt ≤ (coordinator.ledger.count key).toNat := by
    rw [limits.triggers_iff]
    exact and_iff_right hon
  rw [decide, Verdict.judge_of_counted hkey]
  simp only [Decision.isSome_delay?_made, hheld]

/-! ### Every event -/

theorem counts_of_counted (hledger : coordinator.ledger.Proper)
    (hsubscriber : coordinator.subscribers[number]? = some ⟨.delay limits, interests⟩)
    (hkey : limits.counted? event = some key) : coordinator.Counts event number limits key := by
  have hon := Settings.threshold_pos_of_counted hkey
  have htell := (tell_policy hsubscriber event).trans (decide_of_counted hkey number)
  have hpasses : (coordinator.ledger.count key).toNat < limits.threshold.toInt → ∀ ended,
      coordinator.Passes event number (coordinator.attempted number limits event key ended) := by
    intro hbelow ended
    rw [if_neg (Int.not_le.mpr hbelow), settle_made_of_lt hledger hon hbelow number .elapsed ended]
      at htell
    exact passes_of_tell htell
  have hwaits : limits.threshold.toInt ≤ (coordinator.ledger.count key).toNat →
      coordinator.Waits event number (limits.waitTime (coordinator.ledger.count key))
        (coordinator.attempted number limits event key) := by
    intro hheld
    rw [if_pos hheld] at htell
    exact waits_of_tell htell (Decision.delay?_made hon hheld event key)
      (settle_countDelay_made hledger hon hheld number)
  have hdelivered (ended : WaitEnd) : coordinator.deliver event ended number =
      coordinator.attempted number limits event key ended := by
    by_cases hheld : limits.threshold.toInt ≤ (coordinator.ledger.count key).toNat
    · exact (hwaits hheld).delivered ended
    · exact (hpasses (Int.not_le.mp hheld) ended).delivered ended
  have hcount (ended : WaitEnd) (other : AccountKey) :
      (coordinator.deliver event ended number).ledger.count other =
        if other == key then event.outcome.tally (coordinator.ledger.count key)
        else coordinator.ledger.count other := by
    rw [hdelivered]
    exact Ledger.count_attempted hledger event.outcome key other
  constructor
  · exact hwaits
  · exact hpasses
  · intro audit
    rw [delayRecords]
    by_cases howner : coordinator.owner? = some number
    · rw [if_pos howner, if_pos howner]
      rfl
    · rw [if_neg howner, if_neg howner]
      rfl
  · intro ended
    rw [hcount, if_pos (BEq.refl key)]
    cases event.outcome with
    | failure => exact Word.toNat_saturatingSucc _
    | success => rfl
  · intro ended other hother
    rw [hcount, hother, if_neg Bool.false_ne_true]
  · intro ended
    rw [hdelivered]
    exact coordinator.ledger.otherRows_attempted event.outcome key

/-- A delay policy never fails, and it leaves its limits and all other subscribers alone. -/
theorem undisturbed_deliver_policy
    (hsubscriber : coordinator.subscribers[number]? = some ⟨.delay limits, interests⟩)
    (event : ConnectionEvent) (ended : WaitEnd) :
    Undisturbed coordinator (coordinator.deliver event ended number) := by
  have hdecided := undisturbed_decide coordinator number limits event
  rw [deliver, tell_policy hsubscriber]
  cases hpending : coordinator.decide number limits event with
  | mk next pending =>
    rw [hpending] at hdecided
    cases pending with
    | none => exact hdecided
    | some decision => exact hdecided.trans (undisturbed_settle next decision ended)

/-- Any event at any delay policy, with any ledger that can come about
(`Ledger.proper_iff_exists_run`). A limit may be anything that fits a word; nothing asks whether the
policy owns the counter but the report of a delay. -/
theorem deliver_to_policy (hledger : coordinator.ledger.Proper)
    (hsubscriber : coordinator.subscribers[number]? = some ⟨.delay limits, interests⟩)
    (event : ConnectionEvent) : coordinator.Handles event number limits := by
  have htell := tell_policy hsubscriber event
  constructor
  · exact undisturbed_deliver_policy hsubscriber event
  · intro hignored
    rw [decide, Verdict.judge_of_ignored hignored] at htell
    exact passes_of_tell htell
  · intro hkind hon hcontext
    rw [decide, Verdict.judge_of_unidentified hkind hon hcontext] at htell
    exact ⟨rfl, passes_of_tell htell⟩
  · intro hkind hon context hcontext
    have henabled : limits.isDisabled = false := limits.isDisabled_eq_false_iff.mpr hon
    exact counts_of_counted hledger hsubscriber
      (Settings.counted?_eq_some_iff.mpr ⟨hkind, henabled, context, hcontext, rfl⟩)

/-- The bounds are the wrong way round and the greatest delay is negative, nobody owns the counter,
and the connection is killed before it has to wait. Its failure is counted. -/
theorem deliver_to_policy_killed_beforehand :
    let limits : Settings := ⟨1, Int64.maxValue, -5⟩
    let context := SecurityContext.ofLogin "User" "host"
    let event : ConnectionEvent := ⟨.changeUser, .failure, some context⟩
    let coordinator : Coordinator :=
      { empty with
        subscribers := [⟨.delay limits, .all⟩], ledger := Ledger.empty.add context.accountKey }
    let attendance : Attendance := ⟨⟨[true], [], []⟩, 0, fun _ ↦ none, []⟩
    let after := coordinator.attempted 0 limits event context.accountKey .killed
    coordinator.ledger.Proper
      ∧ coordinator.subscribers[0]? = some ⟨.delay limits, .all⟩
      ∧ coordinator.deliverOn? event 0 attendance = some after
      ∧ (coordinator.deliver event .killed 0).ledger.count context.accountKey = 2
      ∧ after.generated = 0
      ∧ after.journal =
        [.countFailed (.notOwned .delayGenerated),
          .delayed ⟨"'User'@'host'", .changeUser, .failure, 1, 1, 0, .killed⟩] := by
  intro limits context event coordinator attendance after
  have hledger : coordinator.ledger.Proper := Ledger.proper_empty.add context.accountKey
  have hhandles : coordinator.Handles event 0 limits :=
    deliver_to_policy hledger rfl event
  have hcounts := hhandles.counted rfl (by decide) context rfl
  have hwaits := hcounts.waits (by decide +kernel)
  have hown := hcounts.own .killed
  refine ⟨hledger, rfl, hwaits.killed attendance rfl, ?_, ?_, ?_⟩
  · exact UInt64.toNat_inj.mp (hown.trans (by decide +kernel))
  · decide +kernel
  · decide +kernel

end Coordinator

end LoginThrottle
