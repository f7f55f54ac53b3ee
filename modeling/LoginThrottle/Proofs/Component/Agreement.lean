import LoginThrottle.Proofs.Component.Run

/-!
The committed settings against the limits that the delay policy enforces. As long as every change
is checked before it is committed the two are the same, both valid, and the policy never refuses
what the check has let through, so that nothing is logged about a refused change.
-/

set_option autoImplicit false
set_option relaxedAutoImplicit false

namespace LoginThrottle

namespace Record

/-- What is logged when the delay policy, or any subscriber, refuses a change. -/
def refusals : List String :=
  ["Failed to set connection delay", "Subscriber failed to apply option change"]

theorem message_delayed (audit : DelayAudit) : (delayed audit).message ∉ refusals := by
  rw [message]
  decide

theorem message_notCounted (fault : Fault) : (notCounted fault).message ∉ refusals := by
  rw [message]
  decide

end Record

namespace Settings

/-- A value that passes the check of valid limits is taken over as it is. -/
theorem Valid.adjusted_of_check {limits : Settings} (h : limits.Valid) {setting : Setting}
    {value : Int64} (hcheck : limits.check setting value = .ok ()) :
    limits.adjusted setting value = limits.set setting value := by
  by_cases hsetting : setting = .threshold
  · subst hsetting
    have hnonneg := ((h.check_eq_ok_iff .threshold value).mp hcheck).threshold_nonneg
    have hmax : max value 0 = value := by
      rw [← Int64.toInt_inj, Word.toInt_max, Int64.toInt_zero]
      exact Int.max_eq_left hnonneg
    rw [adjusted, set, hmax]
  · exact adjusted_of_accepted hsetting hcheck

end Settings

namespace Component

variable {component : Component}

/-- The one delay policy enforces the settings, these are valid, and no change has been refused. -/
structure Agrees (component : Component) : Prop where
  enforced : component.coordinator.delayLimits = [component.settings]
  valid : component.settings.Valid
  accepted : ∀ record ∈ component.coordinator.journal, record.message ∉ Record.refusals

theorem Agrees.limits_eq (h : component.Agrees) : component.limits = component.settings := by
  rw [Component.limits, h.enforced]
  rfl

theorem InService.delayLimits_eq (h : component.InService)
    (hlimits : component.limits = component.settings) :
    component.coordinator.delayLimits = [component.settings] := by
  rw [h.policy.delayLimits, hlimits]

theorem agrees_fresh {settings : Settings} (h : settings.Valid) : (fresh settings).Agrees where
  enforced := rfl
  valid := h
  accepted _ hrecord := absurd hrecord List.not_mem_nil

/-- What an event can add to the log: an audit record, or that it was not counted. -/
theorem InService.journal_notify (h : component.InService) (event : ConnectionEvent)
    (ended : WaitEnd) :
    (component.notify event ended).coordinator.journal = component.coordinator.journal
      ∨ ∃ record, record.message ∉ Record.refusals
        ∧ (component.notify event ended).coordinator.journal =
          component.coordinator.journal ++ [record] := by
  rw [Component.notify]
  cases hkey : component.limits.counted? event with
  | none =>
    rcases h.policy.notifyEvent_of_not_counted hkey ended with heq | heq
    · exact Or.inl (congrArg Coordinator.journal heq)
    · exact Or.inr ⟨_, Record.message_notCounted _, congrArg Coordinator.journal heq⟩
  | some key =>
    have hsame (triggers : Bool) :
        (if triggers then component.coordinator.act .increment
          else component.coordinator).journal = component.coordinator.journal := by
      cases triggers <;> rfl
    simp only [h.policy.notifyEvent_of_counted hkey, Coordinator.settle_journal, hsame]
    cases (Decision.made component.limits event key
      (component.coordinator.ledger.count key)).audit? ended with
    | none => exact Or.inl (List.append_nil _)
    | some audit => exact Or.inr ⟨_, Record.message_delayed audit, rfl⟩

theorem Agrees.notify (h : component.Agrees) (hservice : component.InService)
    (event : ConnectionEvent) (ended : WaitEnd) : (component.notify event ended).Agrees where
  enforced := by
    obtain ⟨hnext, hlimits⟩ := hservice.notify event ended
    exact hnext.delayLimits_eq (hlimits.trans h.limits_eq)
  valid := h.valid
  accepted record hrecord := by
    rcases hservice.journal_notify event ended with heq | ⟨added, hadded, heq⟩
    · exact h.accepted record (heq ▸ hrecord)
    · rw [heq, List.mem_append, List.mem_singleton] at hrecord
      rcases hrecord with hearlier | rfl
      · exact h.accepted record hearlier
      · exact hadded

/-- A checked change is logged by nobody. -/
theorem InService.journal_commit (h : component.InService) {setting : Setting} {value : Int64}
    (hcheck : component.limits.check setting value = .ok ()) :
    (component.commit setting value).coordinator.journal = component.coordinator.journal := by
  rw [Component.commit]
  by_cases hsetting : setting = .threshold
  · subst hsetting
    rw [h.policy.notifyChange_threshold]
    rfl
  · rw [h.policy.notifyChange_of_accepted hsetting hcheck]
    rfl

theorem Agrees.commit (h : component.Agrees) (hservice : component.InService) {setting : Setting}
    {value : Int64} (hcheck : component.settings.check setting value = .ok ()) :
    (component.commit setting value).Agrees where
  enforced := by
    obtain ⟨hnext, hlimits⟩ := hservice.commit setting value
    rw [h.limits_eq, h.valid.adjusted_of_check hcheck] at hlimits
    exact hnext.delayLimits_eq hlimits
  valid := (h.valid.check_eq_ok_iff setting value).mp hcheck
  accepted := by
    rw [hservice.journal_commit (h.limits_eq ▸ hcheck)]
    exact h.accepted

/-- Only `update` commits a change that has not been checked. -/
theorem Call.check_of_change {call : Call} {settings : Settings} {setting : Setting}
    {value : Int64} (hchecked : ∀ name proposed, call ≠ .update name proposed)
    (h : call.change? settings = some (setting, value)) :
    settings.check setting value = .ok () := by
  cases call with
  | notify | check => exact absurd h (by simp [change?])
  | set name proposed =>
    rw [change?] at h
    cases hname : Setting.read name with
    | error fault => simp [hname] at h
    | ok named =>
      cases hcheck : settings.check named proposed with
      | error fault => simp [hname, hcheck] at h
      | ok accepted =>
        simp only [hname, hcheck, Option.some.injEq, Prod.mk.injEq] at h
        obtain ⟨rfl, rfl⟩ := h
        exact hcheck
  | update name proposed => exact absurd rfl (hchecked name proposed)

theorem Agrees.perform (h : component.Agrees) (hservice : component.InService) {call : Call}
    (hchecked : ∀ name value, call ≠ .update name value) : (component.perform call).Agrees := by
  rcases component.perform_cases call with ⟨event, ended, rfl⟩ |
    ⟨-, ⟨setting, value, hchange, heq, -⟩ | ⟨-, heq, -⟩⟩
  · exact h.notify hservice event ended
  · rw [heq]
    exact h.commit hservice (Call.check_of_change hchecked hchange)
  · rw [heq]
    exact h

theorem Agrees.run (h : component.Agrees) (hservice : component.InService) {calls : List Call}
    (hchecked : ∀ call ∈ calls, ∀ name value, call ≠ .update name value) :
    (component.run calls).Agrees := by
  induction calls generalizing component with
  | nil => exact h
  | cons call rest ih =>
    exact ih (h.perform hservice (hchecked call List.mem_cons_self)) (hservice.perform call)
      fun later hlater ↦ hchecked later (List.mem_cons_of_mem call hlater)

/-- After a load and any calls that change settings only with a check, the policy enforces what
the component shows, and has refused nothing. -/
theorem run_agrees {σ : Type} {host : Host σ} {start : Settings} {state : σ}
    (loaded : (load host start state).result = .ok component) {calls : List Call}
    (hchecked : ∀ call ∈ calls, ∀ name value, call ≠ .update name value) :
    (component.run calls).Agrees := by
  obtain ⟨hvalid, rfl⟩ := eq_fresh_of_load loaded
  exact (agrees_fresh hvalid).run (inService_fresh start) hchecked

/-- One refused value, one accepted bound, and one attempt. -/
theorem run_agrees_root :
    let start := Settings.standard
    let calls : List Call :=
      [.set Setting.minDelay.name 999, .set "MAX_connection_delay" 2000, .check "delay" 0,
        .notify ⟨.connect, .failure, some (.ofLogin "root" "localhost")⟩ .elapsed]
    (load Registry.host start .empty).result = .ok (fresh start)
      ∧ ((fresh start).run calls).Agrees
      ∧ ((fresh start).run calls).settings = ⟨3, 1000, 2000⟩ := by
  intro start calls
  have loaded : (load Registry.host start .empty).result = .ok (fresh start) :=
    load_registry (start.valid_iff.mpr (by decide))
  have hchecked : ∀ call ∈ calls, ∀ name value, call ≠ .update name value := by
    simp [calls]
  exact ⟨loaded, run_agrees loaded hchecked, by decide +kernel⟩

end Component

end LoginThrottle
