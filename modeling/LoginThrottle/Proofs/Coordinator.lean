import LoginThrottle.Coordinator.Delivery
import LoginThrottle.Proofs.Delay

/-!
The coordinator of a loaded component, on which the delay policy is alone. There an event is one
decision, settled at once or after the wait, and a changed setting is one adjustment of the
limits: a new threshold always takes effect and starts everything afresh, a bound takes effect if
it passes the check of the policy.
-/

set_option autoImplicit false
set_option relaxedAutoImplicit false

namespace LoginThrottle

/-- The limits as the delay policy adjusts them to a changed setting. -/
def Settings.adjusted (limits : Settings) (setting : Setting) (value : Int64) : Settings :=
  match setting with
  | .threshold => { limits with threshold := max value 0 }
  | .minDelay | .maxDelay =>
    match limits.check setting value with
    | .ok () => limits.set setting value
    | .error _ => limits

theorem Settings.adjusted_of_accepted {limits : Settings} {setting : Setting}
    (hsetting : setting ≠ .threshold) {value : Int64}
    (hcheck : limits.check setting value = .ok ()) :
    limits.adjusted setting value = limits.set setting value := by
  cases setting with
  | threshold => exact absurd rfl hsetting
  | minDelay | maxDelay => simp only [adjusted, hcheck]

theorem Settings.adjusted_of_refused {limits : Settings} {setting : Setting}
    (hsetting : setting ≠ .threshold) {value : Int64} {fault : Fault}
    (hcheck : limits.check setting value = .error fault) :
    limits.adjusted setting value = limits := by
  cases setting with
  | threshold => exact absurd rfl hsetting
  | minDelay | maxDelay => simp only [adjusted, hcheck]

namespace Coordinator

/-- What the delay policy does about a changed delay bound, by the check of the settings. -/
theorem adjust_of_ne {setting : Setting} (hsetting : setting ≠ .threshold)
    (coordinator : Coordinator) (number : Nat) (limits : Settings) (value : Int64) :
    coordinator.adjust number limits setting value =
      match limits.check setting value with
      | .ok () => (coordinator.setObserver number (.delay (limits.set setting value)), .ok ())
      | .error fault => (coordinator.log (.boundRefused setting value fault), .error fault) := by
  have hdelay := Settings.setDelay_eq hsetting limits value
  cases setting with
  | threshold => exact absurd rfl hsetting
  | minDelay | maxDelay =>
    rw [adjust, hdelay]
    cases limits.check _ value <;> rfl

theorem tell_policy {coordinator : Coordinator} {number : Nat} {limits : Settings}
    {interests : Selection}
    (hsubscriber : coordinator.subscribers[number]? = some ⟨.delay limits, interests⟩)
    (event : ConnectionEvent) :
    coordinator.tell number event = coordinator.decide number limits event := by
  rw [tell, hsubscriber]

theorem settle_eq (coordinator : Coordinator) (decision : Decision) (ended : WaitEnd) :
    coordinator.settle decision ended =
      { coordinator with
        ledger := decision.apply coordinator.ledger
        journal := coordinator.journal ++ ((decision.audit? ended).map Record.delayed).toList } := by
  rw [settle]
  cases decision.audit? ended with
  | none => simp only [Option.map_none, Option.toList_none, List.append_nil]
  | some audit => rfl

@[simp] theorem settle_ledger (coordinator : Coordinator) (decision : Decision)
    (ended : WaitEnd) :
    (coordinator.settle decision ended).ledger = decision.apply coordinator.ledger := by
  rw [settle_eq]

@[simp] theorem settle_generated (coordinator : Coordinator) (decision : Decision)
    (ended : WaitEnd) : (coordinator.settle decision ended).generated = coordinator.generated := by
  rw [settle_eq]

@[simp] theorem settle_journal (coordinator : Coordinator) (decision : Decision)
    (ended : WaitEnd) :
    (coordinator.settle decision ended).journal =
      coordinator.journal ++ ((decision.audit? ended).map Record.delayed).toList := by
  rw [settle_eq]

theorem countDelay_eq (coordinator : Coordinator) (number : Nat) :
    coordinator.countDelay number =
      { coordinator with
        generated :=
          if coordinator.owner? = some number then coordinator.generated + 1
          else coordinator.generated
        journal :=
          coordinator.journal ++
            if coordinator.owner? = some number then []
            else [.countFailed (.notOwned .delayGenerated)] } := by
  rw [countDelay, report]
  by_cases howner : coordinator.owner? = some number
  · simp only [if_pos howner, List.append_nil]
    rfl
  · simp only [if_neg howner]
    rfl

@[simp] theorem countDelay_ledger (coordinator : Coordinator) (number : Nat) :
    (coordinator.countDelay number).ledger = coordinator.ledger := by
  rw [countDelay_eq]

/-- The delay policy, with these limits, is the only subscriber; it hears of every setting and
owns the counter. -/
structure RunsPolicy (coordinator : Coordinator) (limits : Settings) : Prop where
  subscribers : coordinator.subscribers = [⟨.delay limits, .all⟩]
  owner? : coordinator.owner? = some 0

namespace RunsPolicy

variable {coordinator next : Coordinator} {limits : Settings}

/-- What is counted, recorded and logged has no part in it. -/
theorem of_eq (h : coordinator.RunsPolicy limits)
    (hsubscribers : next.subscribers = coordinator.subscribers)
    (howner : next.owner? = coordinator.owner?) : next.RunsPolicy limits :=
  ⟨hsubscribers.trans h.subscribers, howner.trans h.owner?⟩

theorem report (h : coordinator.RunsPolicy limits) (action : CounterAction) :
    coordinator.report 0 action = .ok (coordinator.act action) := by
  rw [Coordinator.report, if_pos h.owner?]

theorem act (h : coordinator.RunsPolicy limits) (action : CounterAction) :
    (coordinator.act action).RunsPolicy limits := by
  cases action <;> exact h.of_eq rfl rfl

theorem countDelay (h : coordinator.RunsPolicy limits) :
    coordinator.countDelay 0 = coordinator.act .increment := by
  rw [Coordinator.countDelay, h.report]

theorem settle (h : coordinator.RunsPolicy limits) (decision : Decision) (ended : WaitEnd) :
    (coordinator.settle decision ended).RunsPolicy limits := by
  rw [Coordinator.settle]
  cases decision.audit? ended <;> exact h.of_eq rfl rfl

theorem setObserver (h : coordinator.RunsPolicy limits) (other : Settings) :
    (coordinator.setObserver 0 (.delay other)).RunsPolicy other :=
  ⟨by rw [Coordinator.setObserver, h.subscribers]; rfl, h.owner?⟩

theorem disable (h : coordinator.RunsPolicy limits) :
    coordinator.disable.RunsPolicy { limits with threshold := 0 } :=
  ⟨by rw [Coordinator.disable, h.subscribers]; rfl, h.owner?⟩

theorem delayLimits (h : coordinator.RunsPolicy limits) : coordinator.delayLimits = [limits] := by
  rw [Coordinator.delayLimits, h.subscribers]
  rfl

theorem head?_delayLimits (h : coordinator.RunsPolicy limits) :
    coordinator.delayLimits.head? = some limits := by
  rw [h.delayLimits]
  rfl

theorem limits_eq (h : coordinator.RunsPolicy limits) {other : Settings}
    (hother : coordinator.RunsPolicy other) : limits = other := by
  have heq := h.delayLimits.symm.trans hother.delayLimits
  exact (List.cons.inj heq).1

/-! ### Events -/

theorem tell (h : coordinator.RunsPolicy limits) (event : ConnectionEvent) :
    coordinator.tell 0 event = coordinator.decide 0 limits event :=
  tell_policy (by rw [h.subscribers]; rfl) event

/-- An event is told to the policy, and settled once the wait is over if it was held back. -/
theorem notifyEvent (h : coordinator.RunsPolicy limits) (event : ConnectionEvent)
    (ended : WaitEnd) :
    coordinator.notifyEvent event ended =
      match coordinator.decide 0 limits event with
      | (next, some decision) => next.settle decision ended
      | (next, none) => next := by
  rw [Coordinator.notifyEvent, h.subscribers]
  change coordinator.deliver event ended 0 = _
  rewrite [deliver, h.tell]
  obtain ⟨next, _ | decision⟩ := coordinator.decide 0 limits event <;> rfl

/-- A counted event counts its delay, if there is one, and is then settled. -/
theorem notifyEvent_of_counted (h : coordinator.RunsPolicy limits) {event : ConnectionEvent}
    {key : AccountKey} (hkey : limits.counted? event = some key) (ended : WaitEnd) :
    coordinator.notifyEvent event ended =
      (if limits.triggers (coordinator.ledger.count key) then coordinator.act .increment
        else coordinator).settle
        (.made limits event key (coordinator.ledger.count key)) ended := by
  rw [h.notifyEvent, decide, Verdict.judge_of_counted hkey]
  by_cases htriggers : limits.triggers (coordinator.ledger.count key) = true
  · simp only [Decision.isSome_delay?_made, if_pos htriggers, h.countDelay]
  · -- There is no wait, so it makes no difference how it would have ended.
    simp only [Decision.isSome_delay?_made, if_neg htriggers]
    simp only [Coordinator.settle, Decision.audit?, Decision.made, if_neg htriggers,
      Option.map_none]

theorem notifyEvent_of_not_counted (h : coordinator.RunsPolicy limits) {event : ConnectionEvent}
    (hkey : limits.counted? event = none) (ended : WaitEnd) :
    coordinator.notifyEvent event ended = coordinator
      ∨ coordinator.notifyEvent event ended = coordinator.log (.notCounted .noContext) := by
  rw [h.notifyEvent, decide]
  rcases Verdict.judge_of_not_counted hkey coordinator.ledger with hjudge | hjudge
  · rw [hjudge]
    exact Or.inl rfl
  · rw [hjudge]
    exact Or.inr rfl

/-- Nobody but the policy is told, so an event that is held back waits for nobody else. -/
theorem begin (h : coordinator.RunsPolicy limits) (event : ConnectionEvent) :
    coordinator.begin event =
      match coordinator.decide 0 limits event with
      | (next, some decision) => (next, some ⟨event, decision, []⟩)
      | (next, none) => (next, none) := by
  rw [Coordinator.begin, h.subscribers, ← h.tell]
  rfl

/-- An event is held back with a decision on its delay, which is counted, or it is dealt with at
once. -/
theorem begin_cases (h : coordinator.RunsPolicy limits) (event : ConnectionEvent)
    (ended : WaitEnd) :
    (∃ decision, Verdict.judge limits coordinator.ledger event = .counted decision
        ∧ coordinator.begin event = (coordinator.act .increment, some ⟨event, decision, []⟩))
      ∨ coordinator.begin event = (coordinator.notifyEvent event ended, none) := by
  rw [h.begin, h.notifyEvent, decide]
  cases Verdict.judge limits coordinator.ledger event with
  | ignored => exact Or.inr rfl
  | unidentified => exact Or.inr rfl
  | counted decision =>
    by_cases hdelayed : decision.delay?.isSome = true
    · simp only [if_pos hdelayed, h.countDelay]
      exact Or.inl ⟨decision, rfl, rfl⟩
    · simp only [if_neg hdelayed]
      exact Or.inr trivial

/-- An event is held back only if it counts for an account that has reached the threshold. -/
theorem begin_of_held (h : coordinator.RunsPolicy limits) {event : ConnectionEvent} {held : Held}
    (hheld : (coordinator.begin event).2 = some held) :
    ∃ key, limits.counted? event = some key
      ∧ limits.triggers (coordinator.ledger.count key) = true
      ∧ held = ⟨event, .made limits event key (coordinator.ledger.count key), []⟩
      ∧ coordinator.begin event = (coordinator.act .increment, some held) := by
  rw [h.begin, decide] at hheld ⊢
  cases hkey : limits.counted? event with
  | none =>
    rcases Verdict.judge_of_not_counted hkey coordinator.ledger with hjudge | hjudge
    · exact absurd hheld (by simp [hjudge])
    · exact absurd hheld (by simp [hjudge])
  | some key =>
    rw [Verdict.judge_of_counted hkey] at hheld ⊢
    by_cases htriggers : limits.triggers (coordinator.ledger.count key) = true
    · simp only [Decision.isSome_delay?_made, if_pos htriggers, h.countDelay,
        Option.some.injEq] at hheld ⊢
      subst hheld
      exact ⟨key, rfl, htriggers, rfl, rfl⟩
    · simp only [Decision.isSome_delay?_made, if_neg htriggers] at hheld
      exact absurd hheld (Option.some_ne_none held).symm

/-! ### Changed settings -/

theorem notifyChange (h : coordinator.RunsPolicy limits) (setting : Setting) (value : Int64) :
    coordinator.notifyChange setting value =
      match coordinator.adjust 0 limits setting value with
      | (next, .ok ()) => next
      | (next, .error fault) => next.log (.changeFailed 0 setting value fault) := by
  rw [Coordinator.notifyChange, h.subscribers]
  change coordinator.tellChange setting value 0 = _
  rw [tellChange, h.subscribers]
  simp only [List.getElem?_cons_zero, Selection.contains_all, if_true]
  obtain ⟨next, _ | _⟩ := coordinator.adjust 0 limits setting value <;> rfl

/-- A new threshold is taken over, and starts the counter and every account afresh. -/
theorem notifyChange_threshold (h : coordinator.RunsPolicy limits) (value : Int64) :
    coordinator.notifyChange .threshold value =
      (coordinator.setObserver 0 (.delay (limits.adjusted .threshold value))).act .reset := by
  rw [h.notifyChange, adjust, (h.setObserver _).report]
  rfl

/-- A bound that passes the check of the policy is taken over. -/
theorem notifyChange_of_accepted (h : coordinator.RunsPolicy limits) {setting : Setting}
    (hsetting : setting ≠ .threshold) {value : Int64}
    (hcheck : limits.check setting value = .ok ()) :
    coordinator.notifyChange setting value =
      coordinator.setObserver 0 (.delay (limits.adjusted setting value)) := by
  rw [h.notifyChange, Settings.adjusted_of_accepted hsetting hcheck, adjust_of_ne hsetting, hcheck]

/-- A bound that does not is logged twice over and changes nothing else. -/
theorem notifyChange_of_refused (h : coordinator.RunsPolicy limits) {setting : Setting}
    (hsetting : setting ≠ .threshold) {value : Int64} {fault : Fault}
    (hcheck : limits.check setting value = .error fault) :
    coordinator.notifyChange setting value =
      (coordinator.log (.boundRefused setting value fault)).log
        (.changeFailed 0 setting value fault) := by
  rw [h.notifyChange, adjust_of_ne hsetting, hcheck]

end RunsPolicy

end Coordinator

end LoginThrottle
