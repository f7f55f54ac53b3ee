import LoginThrottle.Proofs.Component.Run

/-!
What an account can notice of a run. The attempts of an account and the calls that try to change a
setting are its essentials; whatever else the host calls, and in whatever letters it spells the
account, a component shows the account the same failures, the same delays and a row or none.

The argument is a projection: what the account sees of a component moves with the essentials alone,
by a step that does not look at the component.
-/

set_option autoImplicit false
set_option relaxedAutoImplicit false

namespace LoginThrottle.Component

/-! ### Essentials -/

/-- What of a call an account can notice: an attempt of its own, whatever its spelling and the end
of its wait, or a use of one of the two ways to change a setting. -/
def Call.essence? (key : AccountKey) : Call → Option Call
  | .notify event _ =>
    if event.kind.isAuthentication && event.context.any (key == ·.accountKey) then
      some (.notify { event with context := none } .elapsed)
    else none
  | .check _ _ => none
  | .set name value => some (.set name value)
  | .update name value => some (.update name value)

def essentials (key : AccountKey) (calls : List Call) : List Call :=
  calls.filterMap (Call.essence? key)

/-! ### The view of an account -/

/-- The failures, the threshold and the delay of an audit record. -/
abbrev Imposed : Type :=
  UInt64 × Int64 × UInt64

/-- The delays that an account has had, in order. -/
def imposed (component : Component) (key : AccountKey) : List Imposed :=
  (component.audits.filter fun audit ↦ key == ⟨audit.account⟩).map fun audit ↦
    (audit.failures, audit.threshold, audit.delay)

/-- What an account sees of a component. -/
structure View where
  settings : Settings
  limits : Settings
  failures : UInt64
  imposed : List Imposed

def view (component : Component) (key : AccountKey) : View :=
  ⟨component.settings, component.limits, component.failures key, component.imposed key⟩

namespace View

/-- The view after an attempt of the account. -/
def attempt (view : View) (outcome : Outcome) : View :=
  if view.limits.isDisabled then view
  else
    { view with
      failures := outcome.tally view.failures
      imposed :=
        if view.limits.triggers view.failures then
          view.imposed
            ++ [(view.failures, view.limits.threshold, view.limits.waitTime view.failures)]
        else view.imposed }

/-- The view after a changed setting. -/
def change (view : View) (setting : Setting) (value : Int64) : View :=
  { view with
    settings := view.settings.set setting value
    limits := view.limits.adjusted setting value
    failures := if setting = .threshold then 0 else view.failures }

/-- The view after an essential call. -/
def perform (view : View) (call : Call) : View :=
  match call with
  | .notify event _ => view.attempt event.outcome
  | .check _ _ | .set _ _ | .update _ _ =>
    match call.change? view.settings with
    | some (setting, value) => view.change setting value
    | none => view

end View

/-! ### One call -/

section Step

variable {component : Component} {key : AccountKey}

theorem imposed_of_audits_eq {next : Component} (h : next.audits = component.audits) :
    next.imposed key = component.imposed key := by
  rw [imposed, h, imposed]

/-- The delays of an account after a counted event, be it of this account or of another. -/
theorem InService.imposed_notify (h : component.InService) {event : ConnectionEvent}
    {account : AccountKey} (haccount : component.limits.counted? event = some account)
    (ended : WaitEnd) (key : AccountKey) :
    (component.notify event ended).imposed key =
      component.imposed key ++
        if key == account && component.limits.triggers (component.failures account) then
          [(component.failures account, component.limits.threshold,
            component.limits.waitTime (component.failures account))]
        else [] := by
  rw [imposed, h.audits_notify haccount, List.filter_append, List.map_append, ← imposed,
    Decision.audit?, Decision.made]
  cases component.limits.triggers (component.failures account) with
  | false => simp
  | true => cases hsame : (key == account) <;> simp [List.filter, hsame]

/-- An event that is not counted for the account changes nothing that it sees. -/
theorem InService.view_notify_of_ne (h : component.InService) {event : ConnectionEvent}
    (hother : ∀ account, component.limits.counted? event = some account → (key == account) = false)
    (ended : WaitEnd) : (component.notify event ended).view key = component.view key := by
  have hlimits := (h.notify event ended).2
  cases haccount : component.limits.counted? event with
  | none =>
    obtain ⟨hledger, -, haudits⟩ := h.notify_of_not_counted haccount ended
    rw [view, hlimits, imposed_of_audits_eq haudits, failures, hledger]
    rfl
  | some account =>
    have hne := hother account haccount
    rw [view, hlimits, h.failures_notify haccount, h.imposed_notify haccount, hne]
    simp only [Bool.false_and, Bool.false_eq_true, if_false, List.append_nil]
    rfl

/-- An event that is counted for the account is an attempt of it. -/
theorem InService.view_notify_of_eq (h : component.InService) {event : ConnectionEvent}
    {account : AccountKey} (haccount : component.limits.counted? event = some account)
    (hsame : (key == account) = true) (ended : WaitEnd) :
    (component.notify event ended).view key = (component.view key).attempt event.outcome := by
  have hon : component.limits.isDisabled = false :=
    Bool.not_eq_true _ ▸ mt component.limits.isDisabled_iff.mp
      (Int.not_le.mpr (Settings.threshold_pos_of_counted haccount))
  have hfailures : component.failures account = component.failures key :=
    (component.ledger.count_congr hsame).symm
  unfold View.attempt
  rw [view, (h.notify event ended).2, h.failures_notify haccount, h.imposed_notify haccount,
    hfailures, hsame]
  by_cases htriggers : component.limits.triggers (component.failures key) = true <;>
    simp [view, Component.notify, hon, htriggers]

theorem InService.view_commit (h : component.InService) (setting : Setting) (value : Int64) :
    (component.commit setting value).view key = (component.view key).change setting value := by
  have hfailures : (component.commit setting value).failures key =
      if setting = .threshold then 0 else component.failures key := by
    rw [failures, (h.ledger_commit setting value).1]
    split
    · exact Ledger.count_empty key
    · rfl
  rw [view, (h.commit setting value).2, hfailures,
    imposed_of_audits_eq (h.audits_commit setting value)]
  rfl

theorem InService.view_notify (h : component.InService) (event : ConnectionEvent)
    (ended : WaitEnd) :
    (component.notify event ended).view key =
      match (Call.notify event ended).essence? key with
      | some essence => (component.view key).perform essence
      | none => component.view key := by
  rw [Call.essence?]
  by_cases hown : (event.kind.isAuthentication && event.context.any (key == ·.accountKey)) = true
  · rw [if_pos hown]
    rw [Bool.and_eq_true, Option.any_eq_true] at hown
    obtain ⟨hkind, context, hcontext, hsame⟩ := hown
    by_cases hoff : component.limits.isDisabled = true
    · have hignored : ∀ account, component.limits.counted? event ≠ some account := by
        intro account haccount
        obtain ⟨-, hon, -⟩ := Settings.counted?_eq_some_iff.mp haccount
        exact absurd hoff (hon ▸ Bool.false_ne_true)
      rw [h.view_notify_of_ne (fun account haccount ↦ absurd haccount (hignored account))]
      exact (if_pos hoff).symm
    · have haccount : component.limits.counted? event = some context.accountKey :=
        Settings.counted?_eq_some_iff.mpr
          ⟨hkind, Bool.not_eq_true _ ▸ hoff, context, hcontext, rfl⟩
      exact h.view_notify_of_eq haccount hsame ended
  · rw [if_neg hown]
    refine h.view_notify_of_ne (fun account haccount ↦ ?_) ended
    obtain ⟨hkind, -, context, hcontext, rfl⟩ := Settings.counted?_eq_some_iff.mp haccount
    rw [hkind, hcontext] at hown
    exact Bool.not_eq_true _ ▸ hown

/-- A call that is not an event is a change or nothing, for the view as for the component. -/
theorem InService.view_perform_of_change (h : component.InService) {call : Call}
    (hevent : ∀ event ended, call ≠ .notify event ended) :
    (component.perform call).view key =
      match call.change? component.settings with
      | some (setting, value) => (component.view key).change setting value
      | none => component.view key := by
  rw [component.perform_of_ne_notify hevent]
  cases call.change? component.settings with
  | none => rfl
  | some change => exact h.view_commit change.1 change.2

/-- The view of an account moves with what is essential to it, and with nothing else. -/
theorem InService.view_perform (h : component.InService) (call : Call) :
    (component.perform call).view key =
      match call.essence? key with
      | some essence => (component.view key).perform essence
      | none => component.view key := by
  cases call with
  | notify event ended => exact h.view_notify event ended
  | check name value => rfl
  | set name value => exact h.view_perform_of_change fun _ _ ↦ Call.noConfusion
  | update name value => exact h.view_perform_of_change fun _ _ ↦ Call.noConfusion

end Step

/-! ### Runs -/

theorem InService.view_run {component : Component} (h : component.InService) (key : AccountKey)
    (calls : List Call) :
    (component.run calls).view key = (essentials key calls).foldl View.perform
      (component.view key) := by
  induction calls generalizing component with
  | nil => rfl
  | cons call rest ih =>
    have hrest := ih (h.perform call)
    rw [h.view_perform call] at hrest
    rw [essentials, List.filterMap_cons]
    cases hessence : call.essence? key with
    | none =>
      rw [hessence] at hrest
      exact hrest
    | some essence =>
      rw [hessence] at hrest
      exact hrest

/-- Two runs from one load with the same essentials for an account leave it with the same failures
and the same delays behind it, and with a row in both tables or in neither. -/
theorem run_isolated {σ : Type} {host : Host σ} {start : Settings} {state : σ}
    {component : Component} (loaded : (load host start state).result = .ok component)
    {key : AccountKey} {one other : List Call} (hsame : essentials key one = essentials key other) :
    (component.run one).failures key = (component.run other).failures key
      ∧ (component.run one).imposed key = (component.run other).imposed key
      ∧ ((∃ row ∈ (component.run one).ledger.rows, (key == ⟨row.account⟩) = true) ↔
          ∃ row ∈ (component.run other).ledger.rows, (key == ⟨row.account⟩) = true) := by
  obtain ⟨-, rfl⟩ := eq_fresh_of_load loaded
  have hservice := inService_fresh start
  have hview : ((fresh start).run one).view key = ((fresh start).run other).view key := by
    rw [hservice.view_run, hservice.view_run, hsame]
  have hfailures : ((fresh start).run one).failures key = ((fresh start).run other).failures key :=
    congrArg View.failures hview
  refine ⟨hfailures, congrArg View.imposed hview, ?_⟩
  rw [(hservice.run one).ledger.has_row_iff, (hservice.run other).ledger.has_row_iff]
  exact not_congr (iff_of_eq (congrArg (· = 0) hfailures))

/-- A second account comes in between, and the spelling changes on the way. -/
theorem run_isolated_root :
    let start : Settings := ⟨1, 1000, 2147483647⟩
    let key : AccountKey := .ofParts "root" "localhost"
    let attempt (outcome : Outcome) (user : String) : Call :=
      .notify ⟨.connect, outcome, some (.ofLogin user "localhost")⟩ .elapsed
    let one := [attempt .failure "root", attempt .failure "root"]
    let other := [attempt .failure "ROOT", attempt .failure "guest", .check "delay" 0,
      attempt .failure "Root", attempt .success "guest"]
    (load Registry.host start .empty).result = .ok (fresh start)
      ∧ essentials key one = essentials key other
      ∧ ((fresh start).run one).imposed key = ((fresh start).run other).imposed key
      ∧ ((fresh start).run other).imposed key = [(1, 1, 1000)] := by
  intro start key attempt one other
  have loaded : (load Registry.host start .empty).result = .ok (fresh start) :=
    load_registry (start.valid_iff.mpr (by decide))
  have hsame : essentials key one = essentials key other := by decide +kernel
  exact ⟨loaded, hsame, (run_isolated loaded hsame).2.1, by decide +kernel⟩

end LoginThrottle.Component
