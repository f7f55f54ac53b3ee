import LoginThrottle.Proofs.Component.Service

/-!
Runs of a loaded component: any calls of the host, one after another. A call is an event, a change
or nothing, and what it comes to is said for whatever the component shows.
-/

set_option autoImplicit false
set_option relaxedAutoImplicit false

namespace LoginThrottle.Component

/-! ### Calls -/

/-- A call of the host: an event, with the end of the wait if there is one, or a use of one of
the three ways to a setting. -/
inductive Call
  | notify (event : ConnectionEvent) (ended : WaitEnd)
  | check (name : String) (value : Int64)
  | set (name : String) (value : Int64)
  | update (name : String) (value : Int64)
  deriving DecidableEq, Repr

def perform (component : Component) : Call → Component
  | .notify event ended => component.notify event ended
  | .check _ _ => component
  | .set name value =>
    match component.set name value with
    | .ok (_, next) => next
    | .error _ => component
  | .update name value =>
    match component.update name value with
    | .ok (_, next) => next
    | .error _ => component

def run (component : Component) (calls : List Call) : Component :=
  calls.foldl perform component

/-- What a call means for the accounts: every account starts afresh, or one of them makes an
attempt that counts, or neither. -/
inductive Bearing
  | restart
  | attempt (key : AccountKey) (outcome : Outcome)
  | nothing
  deriving Repr

namespace Call

/-- The change that a call makes, if it makes one: checked against the settings, or unchecked. -/
def change? (settings : Settings) : Call → Option (Setting × Int64)
  | .notify _ _ | .check _ _ => none
  | .set name value =>
    match Setting.read name with
    | .ok setting =>
      match settings.check setting value with
      | .ok () => some (setting, value)
      | .error _ => none
    | .error _ => none
  | .update name value =>
    match Setting.read name with
    | .ok setting => some (setting, value)
    | .error _ => none

def bearing (settings limits : Settings) (call : Call) : Bearing :=
  match call with
  | .notify event _ =>
    match limits.counted? event with
    | some key => .attempt key event.outcome
    | none => .nothing
  | _ =>
    match call.change? settings with
    | some (.threshold, _) => .restart
    | _ => .nothing

/-- The audit record of the delay that a call comes with, given the failures of every account. -/
def audit? (limits : Settings) (failures : AccountKey → UInt64) : Call → Option DelayAudit
  | .notify event ended =>
    (limits.counted? event).bind fun key ↦
      (Decision.made limits event key (failures key)).audit? ended
  | _ => none

theorem bearing_eq_attempt {settings limits : Settings} {call : Call} {key : AccountKey}
    {outcome : Outcome} (h : call.bearing settings limits = .attempt key outcome) :
    ∃ event ended, call = .notify event ended ∧ limits.counted? event = some key
      ∧ event.outcome = outcome := by
  cases call with
  | notify event ended =>
    rw [bearing] at h
    split at h
    · next account hkey =>
      obtain ⟨rfl, rfl⟩ := Bearing.attempt.inj h
      exact ⟨event, ended, rfl, hkey, rfl⟩
    · exact absurd h (by simp)
  | check | set | update =>
    simp only [bearing] at h
    split at h <;> exact absurd h (by simp)

end Call

/-- A call that is not an event commits a change, or does nothing. -/
theorem perform_of_ne_notify (component : Component) {call : Call}
    (hevent : ∀ event ended, call ≠ .notify event ended) :
    component.perform call =
      match call.change? component.settings with
      | some (setting, value) => component.commit setting value
      | none => component := by
  cases call with
  | notify event ended => exact absurd rfl (hevent event ended)
  | check => rfl
  | set name value =>
    rw [Call.change?, perform, set, check]
    cases hname : Setting.read name with
    | error fault => rfl
    | ok setting =>
      cases hcheck : component.settings.check setting value with
      | error fault => simp only [bind, Except.bind, hcheck]
      | ok accepted => simp only [bind, Except.bind, pure, Except.pure, hcheck]
  | update name value =>
    rw [Call.change?, perform, update]
    cases hname : Setting.read name with
    | error fault => rfl
    | ok setting => rfl

/-- What a call can do: it is an event, or it commits a change, or it does nothing. -/
theorem perform_cases (component : Component) (call : Call) :
    (∃ event ended, call = .notify event ended)
      ∨ (∀ limits failures, call.audit? limits failures = none)
        ∧ ((∃ setting value, call.change? component.settings = some (setting, value)
            ∧ component.perform call = component.commit setting value
            ∧ ∀ limits, call.bearing component.settings limits =
              if setting = .threshold then .restart else .nothing)
          ∨ call.change? component.settings = none ∧ component.perform call = component
            ∧ ∀ limits, call.bearing component.settings limits = .nothing) := by
  by_cases hevent : ∃ event ended, call = .notify event ended
  · exact Or.inl hevent
  · have hquiet : (∀ limits failures, call.audit? limits failures = none)
        ∧ ∀ limits, call.bearing component.settings limits =
          match call.change? component.settings with
          | some (.threshold, _) => .restart
          | _ => .nothing := by
      cases call with
      | notify event ended => exact absurd ⟨event, ended, rfl⟩ hevent
      | check | set | update => exact ⟨fun _ _ ↦ rfl, fun _ ↦ rfl⟩
    have hperform := component.perform_of_ne_notify
      fun event ended heq ↦ hevent ⟨event, ended, heq⟩
    refine Or.inr ⟨hquiet.1, ?_⟩
    cases hchange : call.change? component.settings with
    | some change =>
      refine Or.inl ⟨change.1, change.2, rfl, ?_, fun limits ↦ ?_⟩
      · rw [hperform, hchange]
      · rw [hquiet.2, hchange]
        obtain ⟨_ | _ | _, value⟩ := change <;> rfl
    | none =>
      refine Or.inr ⟨rfl, ?_, fun limits ↦ ?_⟩
      · rw [hperform, hchange]
      · rw [hquiet.2, hchange]

/-! ### One call -/

section Perform

variable {component : Component}

theorem InService.perform (h : component.InService) (call : Call) :
    (component.perform call).InService := by
  rcases component.perform_cases call with ⟨event, ended, rfl⟩ | ⟨-, ⟨setting, value, -, heq, -⟩ |
    ⟨-, heq, -⟩⟩
  · exact (h.notify event ended).1
  · rw [heq]
    exact (h.commit setting value).1
  · rw [heq]
    exact h

theorem settings_perform (component : Component) (call : Call) :
    (component.perform call).settings =
      match call.change? component.settings with
      | some (setting, value) => component.settings.set setting value
      | none => component.settings := by
  rcases component.perform_cases call with ⟨event, ended, rfl⟩ |
    ⟨-, ⟨setting, value, hchange, heq, -⟩ | ⟨hchange, heq, -⟩⟩
  · rfl
  · rw [heq, hchange]
    rfl
  · rw [heq, hchange]

theorem InService.limits_perform (h : component.InService) (call : Call) :
    (component.perform call).limits =
      match call.change? component.settings with
      | some (setting, value) => component.limits.adjusted setting value
      | none => component.limits := by
  rcases component.perform_cases call with ⟨event, ended, rfl⟩ |
    ⟨-, ⟨setting, value, hchange, heq, -⟩ | ⟨hchange, heq, -⟩⟩
  · exact (h.notify event ended).2
  · rw [heq, hchange]
    exact (h.commit setting value).2
  · rw [heq, hchange]

/-- The count of an account, by what the call means. -/
theorem InService.failures_perform (h : component.InService) (call : Call) (key : AccountKey) :
    (component.perform call).failures key =
      match call.bearing component.settings component.limits with
      | .restart => 0
      | .attempt account outcome =>
        if key == account then outcome.tally (component.failures key)
        else component.failures key
      | .nothing => component.failures key := by
  rcases component.perform_cases call with ⟨event, ended, rfl⟩ |
    ⟨-, ⟨setting, value, -, heq, hbearing⟩ | ⟨-, heq, hbearing⟩⟩
  · rw [Call.bearing, Component.perform]
    cases hkey : component.limits.counted? event with
    | none =>
      rw [Component.failures, (h.notify_of_not_counted hkey ended).1]
      rfl
    | some account =>
      rw [h.failures_notify hkey]
      by_cases hsame : (key == account) = true
      · simp only [if_pos hsame, Component.failures, component.ledger.count_congr hsame]
      · simp only [if_neg hsame]
  · rw [heq, hbearing, Component.failures, (h.ledger_commit setting value).1]
    by_cases hsetting : setting = .threshold
    · simp only [if_pos hsetting, Ledger.count_empty]
    · simp only [if_neg hsetting]
      rfl
  · rw [heq, hbearing]

/-- The delay counter: an attempt at or above the threshold raises it, a restart zeroes it. -/
theorem InService.generated_perform (h : component.InService) (call : Call) :
    (component.perform call).generated =
      match call.bearing component.settings component.limits with
      | .restart => 0
      | .attempt account _ =>
        if component.limits.triggers (component.failures account) then component.generated + 1
        else component.generated
      | .nothing => component.generated := by
  rcases component.perform_cases call with ⟨event, ended, rfl⟩ |
    ⟨-, ⟨setting, value, -, heq, hbearing⟩ | ⟨-, heq, hbearing⟩⟩
  · rw [Call.bearing, Component.perform]
    cases hkey : component.limits.counted? event with
    | none => exact (h.notify_of_not_counted hkey ended).2.1
    | some account => exact h.generated_notify hkey ended
  · rw [heq, hbearing, (h.ledger_commit setting value).2]
    by_cases hsetting : setting = .threshold
    · simp only [if_pos hsetting]
    · simp only [if_neg hsetting]
  · rw [heq, hbearing]

theorem InService.audits_perform (h : component.InService) (call : Call) :
    (component.perform call).audits =
      component.audits ++ (call.audit? component.limits component.failures).toList := by
  rcases component.perform_cases call with ⟨event, ended, rfl⟩ |
    ⟨hquiet, ⟨setting, value, -, heq, -⟩ | ⟨-, heq, -⟩⟩
  · rw [Call.audit?, Component.perform]
    cases hkey : component.limits.counted? event with
    | none =>
      rw [(h.notify_of_not_counted hkey ended).2.2]
      exact (List.append_nil _).symm
    | some key => exact h.audits_notify hkey ended
  · rw [heq, hquiet, h.audits_commit]
    exact (List.append_nil _).symm
  · rw [heq, hquiet]
    exact (List.append_nil _).symm

end Perform

theorem InService.run {component : Component} (h : component.InService) (calls : List Call) :
    (component.run calls).InService := by
  induction calls generalizing component with
  | nil => exact h
  | cons call rest ih => exact ih (h.perform call)

end LoginThrottle.Component
