import LoginThrottle.Component
import LoginThrottle.Host.Registry
import LoginThrottle.Proofs.Coordinator
import LoginThrottle.Proofs.Setting

/-!
A component in service: loaded with valid settings, with the delay policy alone on its coordinator.
What an event and a changed setting come to is said once, for the limits of the policy, the count
of each account, the delay counter and the audit records.
-/

set_option autoImplicit false
set_option relaxedAutoImplicit false

namespace LoginThrottle.Component

/-! ### Loading -/

variable {σ : Type}

/-- A component is loaded only with settings that are valid, and as good as new. -/
theorem eq_fresh_of_load {host : Host σ} {settings : Settings} {state : σ} {component : Component}
    (h : (load host settings state).result = .ok component) :
    settings.Valid ∧ component = fresh settings := by
  rw [load] at h
  split at h
  · exact absurd h (by simp)
  · next hvalid =>
    split at h
    · exact ⟨settings.validate_eq_ok_iff.mp hvalid, (Except.ok.inj h).symm⟩
    · exact absurd h (by simp)

theorem accepts_registerAll_empty :
    Host.accepts (Registry.host.registerAll registrations .empty).1.2 = true := by
  decide +kernel

/-- Valid settings are loaded by a host that has nothing registered yet. -/
theorem load_registry {settings : Settings} (h : settings.Valid) :
    (load Registry.host settings .empty).result = .ok (fresh settings) := by
  have hdone := accepts_registerAll_empty
  rw [load, settings.validate_eq_ok_iff.mpr h]
  cases hregistered : Registry.host.registerAll registrations .empty with
  | mk outcome next =>
    obtain ⟨done, _ | _⟩ := outcome
    · rw [hregistered] at hdone
      exact absurd hdone Bool.false_ne_true
    · rfl

/-! ### A component in service -/

/-- The delay policy runs alone on the coordinator, with the limits that the component shows, and
the ledger is proper. -/
structure InService (component : Component) : Prop where
  policy : component.coordinator.RunsPolicy component.limits
  ledger : component.ledger.Proper

/-- The audit records of the delays imposed so far, in order. -/
def audits (component : Component) : List DelayAudit :=
  component.coordinator.journal.filterMap Record.audit?

/-- Of what a settled event adds to the log, the audit record is all. -/
theorem filterMap_audit?_delayed (audit? : Option DelayAudit) :
    (audit?.map Record.delayed).toList.filterMap Record.audit? = audit?.toList := by
  cases audit? <;> rfl

theorem limits_of_runsPolicy {component : Component} {limits : Settings}
    (h : component.coordinator.RunsPolicy limits) : component.limits = limits := by
  rw [Component.limits, h.delayLimits]
  rfl

theorem inService_of_runsPolicy {component : Component} {limits : Settings}
    (hpolicy : component.coordinator.RunsPolicy limits) (hledger : component.ledger.Proper) :
    component.InService :=
  ⟨(limits_of_runsPolicy hpolicy).symm ▸ hpolicy, hledger⟩

theorem runsPolicy_fresh (settings : Settings) :
    (fresh settings).coordinator.RunsPolicy settings :=
  ⟨rfl, rfl⟩

theorem inService_fresh (settings : Settings) : (fresh settings).InService :=
  inService_of_runsPolicy (runsPolicy_fresh settings) Ledger.proper_empty

@[simp] theorem limits_fresh (settings : Settings) : (fresh settings).limits = settings :=
  limits_of_runsPolicy (runsPolicy_fresh settings)

/-! ### One event -/

section Event

variable {component : Component} {event : ConnectionEvent}

theorem InService.notify (h : component.InService) (event : ConnectionEvent) (ended : WaitEnd) :
    (component.notify event ended).InService
      ∧ (component.notify event ended).limits = component.limits := by
  have hkept : (component.coordinator.notifyEvent event ended).RunsPolicy component.limits
      ∧ (component.coordinator.notifyEvent event ended).ledger.Proper := by
    cases hkey : component.limits.counted? event with
    | none =>
      rcases h.policy.notifyEvent_of_not_counted hkey ended with heq | heq
      · rw [heq]
        exact ⟨h.policy, h.ledger⟩
      · rw [heq]
        exact ⟨h.policy.of_eq rfl rfl, h.ledger⟩
    | some key =>
      rw [h.policy.notifyEvent_of_counted hkey, Coordinator.settle_ledger]
      by_cases htriggers : component.limits.triggers (component.coordinator.ledger.count key) = true
      · simp only [if_pos htriggers]
        exact ⟨(h.policy.act .increment).settle _ ended, Decision.proper_apply _ h.ledger⟩
      · simp only [if_neg htriggers]
        exact ⟨h.policy.settle _ ended, Decision.proper_apply _ h.ledger⟩
  exact ⟨inService_of_runsPolicy hkept.1 hkept.2, limits_of_runsPolicy hkept.1⟩

/-- An event that does not count leaves at most a record behind, and no audit record. -/
theorem InService.notify_of_not_counted (h : component.InService)
    (hkey : component.limits.counted? event = none) (ended : WaitEnd) :
    (component.notify event ended).ledger = component.ledger
      ∧ (component.notify event ended).generated = component.generated
      ∧ (component.notify event ended).audits = component.audits := by
  rw [Component.notify, audits]
  rcases h.policy.notifyEvent_of_not_counted hkey ended with heq | heq
  · rw [heq]
    exact ⟨rfl, rfl, rfl⟩
  · rw [heq]
    refine ⟨rfl, rfl, ?_⟩
    simp [Coordinator.log, audits, Record.audit?]

section Counted

variable {key : AccountKey}

theorem InService.failures_notify (h : component.InService)
    (hkey : component.limits.counted? event = some key) (ended : WaitEnd) (other : AccountKey) :
    (component.notify event ended).failures other =
      if other == key then event.outcome.tally (component.failures key)
      else component.failures other := by
  have hledger : (component.notify event ended).ledger =
      (Decision.made component.limits event key (component.failures key)).apply
        component.ledger := by
    rw [Component.ledger, Component.notify, h.policy.notifyEvent_of_counted hkey,
      Coordinator.settle_ledger]
    split <;> rfl
  rw [Component.failures, hledger, Decision.count_apply h.ledger rfl]
  rfl

theorem InService.generated_notify (h : component.InService)
    (hkey : component.limits.counted? event = some key) (ended : WaitEnd) :
    (component.notify event ended).generated =
      if component.limits.triggers (component.failures key) then component.generated + 1
      else component.generated := by
  rw [Component.generated, Component.notify, h.policy.notifyEvent_of_counted hkey,
    Coordinator.settle_generated, apply_ite Coordinator.generated]
  rfl

theorem InService.audits_notify (h : component.InService)
    (hkey : component.limits.counted? event = some key) (ended : WaitEnd) :
    (component.notify event ended).audits =
      component.audits ++ ((Decision.made component.limits event key
        (component.failures key)).audit? ended).toList := by
  rw [audits, Component.notify, h.policy.notifyEvent_of_counted hkey, Coordinator.settle_journal,
    List.filterMap_append, apply_ite Coordinator.journal]
  have hsame : (if component.limits.triggers (component.coordinator.ledger.count key) = true then
      (component.coordinator.act .increment).journal else component.coordinator.journal) =
      component.coordinator.journal := by
    split <;> rfl
  rw [hsame, filterMap_audit?_delayed]
  rfl

end Counted

/-- An event is held back with a decision on its delay, or it is dealt with at once. -/
theorem InService.begin_cases (h : component.InService) (event : ConnectionEvent)
    (ended : WaitEnd) :
    (∃ decision, Verdict.judge component.limits component.ledger event = .counted decision
        ∧ component.begin event =
          ({ component with coordinator := component.coordinator.act .increment },
            some ⟨event, decision, []⟩))
      ∨ component.begin event = (component.notify event ended, none) := by
  rw [Component.begin, Component.notify]
  rcases h.policy.begin_cases event ended with ⟨decision, hjudge, hbegin⟩ | hbegin
  · rw [hbegin]
    exact Or.inl ⟨decision, hjudge, rfl⟩
  · rw [hbegin]
    exact Or.inr rfl

theorem InService.act_increment (h : component.InService) :
    InService { component with coordinator := component.coordinator.act .increment } :=
  inService_of_runsPolicy (h.policy.act .increment) h.ledger

/-- The rest of an event that was held back settles it. -/
theorem release_eq {held : Coordinator.Held} (hlast : held.remaining = []) (component : Component)
    (ended : WaitEnd) :
    component.release held ended =
      { component with coordinator := component.coordinator.settle held.decision ended } := by
  rw [Component.release, Coordinator.release, hlast]
  rfl

theorem InService.release (h : component.InService) {held : Coordinator.Held}
    (hlast : held.remaining = []) (ended : WaitEnd) :
    (component.release held ended).InService
      ∧ (component.release held ended).limits = component.limits
      ∧ (component.release held ended).audits =
        component.audits ++ (held.decision.audit? ended).toList := by
  have hpolicy := h.policy.settle held.decision ended
  rw [release_eq hlast]
  refine ⟨inService_of_runsPolicy hpolicy ?_, limits_of_runsPolicy hpolicy, ?_⟩
  · rw [Component.ledger, Coordinator.settle_ledger]
    exact Decision.proper_apply held.decision h.ledger
  · rw [audits, Coordinator.settle_journal, List.filterMap_append, filterMap_audit?_delayed]
    rfl

end Event

/-! ### One changed setting -/

section Change

variable {component : Component}

theorem InService.commit (h : component.InService) (setting : Setting) (value : Int64) :
    (component.commit setting value).InService
      ∧ (component.commit setting value).limits = component.limits.adjusted setting value := by
  have hkept : (component.coordinator.notifyChange setting value).RunsPolicy
      (component.limits.adjusted setting value)
      ∧ (component.coordinator.notifyChange setting value).ledger.Proper := by
    by_cases hsetting : setting = .threshold
    · subst hsetting
      rw [h.policy.notifyChange_threshold]
      exact ⟨(h.policy.setObserver _).act .reset, Ledger.proper_empty⟩
    · cases hcheck : component.limits.check setting value with
      | ok accepted =>
        rw [h.policy.notifyChange_of_accepted hsetting hcheck]
        exact ⟨h.policy.setObserver _, h.ledger⟩
      | error fault =>
        rw [h.policy.notifyChange_of_refused hsetting hcheck,
          Settings.adjusted_of_refused hsetting hcheck]
        exact ⟨h.policy.of_eq rfl rfl, h.ledger⟩
  exact ⟨inService_of_runsPolicy hkept.1 hkept.2, limits_of_runsPolicy hkept.1⟩

/-- A new threshold empties the ledger and zeroes the counter; nothing else touches them. -/
theorem InService.ledger_commit (h : component.InService) (setting : Setting) (value : Int64) :
    (component.commit setting value).ledger =
        (if setting = .threshold then .empty else component.ledger)
      ∧ (component.commit setting value).generated =
        if setting = .threshold then 0 else component.generated := by
  rw [Component.ledger, Component.generated, Component.commit]
  by_cases hsetting : setting = .threshold
  · subst hsetting
    rw [h.policy.notifyChange_threshold]
    exact ⟨rfl, rfl⟩
  · rw [if_neg hsetting, if_neg hsetting]
    cases hcheck : component.limits.check setting value with
    | ok accepted =>
      rw [h.policy.notifyChange_of_accepted hsetting hcheck]
      exact ⟨rfl, rfl⟩
    | error fault =>
      rw [h.policy.notifyChange_of_refused hsetting hcheck]
      exact ⟨rfl, rfl⟩

theorem InService.audits_commit (h : component.InService) (setting : Setting) (value : Int64) :
    (component.commit setting value).audits = component.audits := by
  rw [audits, Component.commit]
  by_cases hsetting : setting = .threshold
  · subst hsetting
    rw [h.policy.notifyChange_threshold]
    rfl
  · cases hcheck : component.limits.check setting value with
    | ok accepted =>
      rw [h.policy.notifyChange_of_accepted hsetting hcheck]
      rfl
    | error fault =>
      rw [h.policy.notifyChange_of_refused hsetting hcheck]
      simp [Coordinator.log, audits, Record.audit?]

end Change

end LoginThrottle.Component
