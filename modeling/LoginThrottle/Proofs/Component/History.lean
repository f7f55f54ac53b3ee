import LoginThrottle.Proofs.Component.Run

/-!
What a component shows, told from its history alone. An account has as many failures as counted
failures of it have been reported since its last counted success or the last restart, whichever is
later; the delay counter has one for each counted attempt since the last restart that found its
account at the threshold; and each such attempt since the load has left one audit record. A
restart is a threshold that was set or updated, be it to the same value.

`run_eq_history` says that this is what every run of a loaded component ends in.
-/

set_option autoImplicit false
set_option relaxedAutoImplicit false

namespace LoginThrottle.Component

/-- The calls since the load, the latest first. -/
abbrev History : Type :=
  List Call

namespace History

/-- Every moment of a history that a call was made at, the latest first: the call at the head, and
behind it what came before. -/
def moments : History → List History
  | [] => []
  | call :: earlier => (call :: earlier) :: moments earlier

/-- How many moments count, among those since the latest mark. -/
def since (marks counts : History → Bool) (history : History) : Nat :=
  (history.moments.takeWhile fun moment ↦ !marks moment).countP counts

section Reference

variable (start : Settings)

/-- The settings that have been committed. -/
def settings : History → Settings
  | [] => start
  | call :: earlier =>
    match call.change? (settings earlier) with
    | some (setting, value) => (settings earlier).set setting value
    | none => settings earlier

/-- The limits of the delay policy. -/
def limits : History → Settings
  | [] => start
  | call :: earlier =>
    match call.change? (settings start earlier) with
    | some (setting, value) => (limits earlier).adjusted setting value
    | none => limits earlier

/-- What the latest call meant for the accounts. -/
def bearing : History → Bearing
  | [] => .nothing
  | call :: earlier => call.bearing (settings start earlier) (limits start earlier)

def restarts (history : History) : Bool :=
  match history.bearing start with
  | .restart => true
  | _ => false

/-- Whether the latest call was an attempt of the account with this outcome. -/
def attempts (key : AccountKey) (outcome : Outcome) (history : History) : Bool :=
  match history.bearing start with
  | .attempt account actual => key == account && actual = outcome
  | _ => false

/-- The failures of an account: those since its last success or the last restart. -/
def failures (key : AccountKey) (history : History) : Nat :=
  min (history.since (fun moment ↦ moment.restarts start || moment.attempts start key .success)
    (attempts start key .failure)) (2 ^ 64 - 1)

/-- Whether the latest call was an attempt that found its account at the threshold. -/
def isDelayed : History → Bool
  | [] => false
  | call :: earlier =>
    match bearing start (call :: earlier) with
    | .attempt account _ => (limits start earlier).threshold.toInt ≤ failures start account earlier
    | _ => false

/-- The delayed attempts since the last restart. -/
def delays (history : History) : Nat :=
  history.since (restarts start) (isDelayed start)

/-- The audit record that the latest call has left, if it was a delayed attempt. -/
def audit? (history : History) : Option DelayAudit :=
  match history with
  | .notify event ended :: earlier =>
    if history.isDelayed start then
      ((limits start earlier).counted? event).map fun key ↦
        { account := key.spelling, kind := event.kind, outcome := event.outcome
          failures := .ofNat (failures start key earlier)
          threshold := (limits start earlier).threshold
          delay := .ofNat ((limits start earlier).integerDelay (failures start key earlier)).toNat
          ended }
    else none
  | _ => none

/-- The audit records since the load, the earliest first. -/
def audits (history : History) : List DelayAudit :=
  history.moments.reverse.filterMap (audit? start)

end Reference

/-! ### One more call -/

variable {start : Settings} {call : Call} {earlier : History}

theorem since_cons (marks counts : History → Bool) (call : Call) (earlier : History) :
    since marks counts (call :: earlier) =
      if marks (call :: earlier) then 0
      else since marks counts earlier + if counts (call :: earlier) then 1 else 0 := by
  rw [since, moments, List.takeWhile_cons]
  cases marks (call :: earlier) with
  | true => rfl
  | false => exact List.countP_cons

theorem failures_cons (key : AccountKey) (call : Call) (earlier : History) :
    failures start key (call :: earlier) =
      match bearing start (call :: earlier) with
      | .restart => 0
      | .attempt account outcome =>
        if key == account then
          match outcome with
          | .failure => min (failures start key earlier + 1) (2 ^ 64 - 1)
          | .success => 0
        else failures start key earlier
      | .nothing => failures start key earlier := by
  have hfailures : failures start key (call :: earlier) = min (since _ _ _) _ := rfl
  rw [hfailures, since_cons]
  cases hbearing : bearing start (call :: earlier) with
  | restart => simp [restarts, hbearing]
  | attempt account outcome =>
    cases hsame : (key == account) <;> cases outcome <;>
      simp [restarts, attempts, failures, hbearing, hsame]
    omega
  | nothing => simp [restarts, attempts, failures, hbearing]

theorem delays_cons (call : Call) (earlier : History) :
    delays start (call :: earlier) =
      match bearing start (call :: earlier) with
      | .restart => 0
      | .attempt account _ =>
        if (limits start earlier).threshold.toInt ≤ failures start account earlier then
          delays start earlier + 1
        else delays start earlier
      | .nothing => delays start earlier := by
  rw [delays, since_cons]
  cases hbearing : bearing start (call :: earlier) with
  | restart => simp [restarts, hbearing]
  | attempt account outcome =>
    simp only [restarts, isDelayed, hbearing, Bool.false_eq_true, if_false, decide_eq_true_eq]
    split <;> rfl
  | nothing => simp [restarts, isDelayed, delays, hbearing]

theorem audits_cons (call : Call) (earlier : History) :
    audits start (call :: earlier) =
      audits start earlier ++ (audit? start (call :: earlier)).toList := by
  rw [audits, moments, List.reverse_cons, List.filterMap_append]
  cases haudit : audit? start (call :: earlier) <;> simp [audits, haudit]

/-! ### The component behind the history -/

/-- The component is as the history tells it. -/
structure Tells (start : Settings) (history : History) (component : Component) : Prop where
  settings : component.settings = history.settings start
  limits : component.limits = history.limits start
  failures : ∀ key, (component.failures key).toNat = history.failures start key
  generated : component.generated.toNat = history.delays start % 2 ^ 64
  audits : component.audits = history.audits start

theorem tells_fresh (start : Settings) : Tells start [] (fresh start) :=
  ⟨rfl, limits_fresh start, fun _ ↦ rfl, rfl, rfl⟩

namespace Tells

variable {component : Component}

theorem bearing (h : Tells start earlier component) (call : Call) :
    call.bearing component.settings component.limits = History.bearing start (call :: earlier) := by
  rw [h.settings, h.limits]
  rfl

theorem failures_eq (h : Tells start earlier component) (key : AccountKey) :
    component.failures key = .ofNat (History.failures start key earlier) := by
  rw [← h.failures, UInt64.ofNat_toNat]

theorem triggers_iff (h : Tells start earlier component) {event : ConnectionEvent}
    {key : AccountKey} (hkey : component.limits.counted? event = some key) :
    component.limits.triggers (component.failures key) = true ↔
      (History.limits start earlier).threshold.toInt ≤ History.failures start key earlier := by
  rw [Settings.triggers_iff, h.failures, h.limits,
    and_iff_right (h.limits ▸ Settings.threshold_pos_of_counted hkey)]

/-- The audit record of a call is the one that the history gives it. -/
theorem audit? (h : Tells start earlier component) (call : Call) :
    call.audit? component.limits component.failures = History.audit? start (call :: earlier) := by
  cases call with
  | check | set | update => rfl
  | notify event ended =>
    rw [Call.audit?, History.audit?, isDelayed, ← h.bearing, Call.bearing]
    cases hkey : component.limits.counted? event with
    | none => rfl
    | some key =>
      by_cases htriggers : component.limits.triggers (component.failures key) = true
      · have hreached := (h.triggers_iff hkey).mp htriggers
        have hwait : component.limits.waitTime (component.failures key) =
            .ofNat ((History.limits start earlier).integerDelay
              (History.failures start key earlier)).toNat := by
          rw [← h.limits, ← h.failures, ← Settings.toNat_waitTime htriggers, UInt64.ofNat_toNat]
        have hcounted : (History.limits start earlier).counted? event = some key :=
          h.limits ▸ hkey
        simp only [Option.bind_some, Decision.audit?, Decision.made, htriggers, hreached, hcounted,
          hwait, if_true, decide_true, Option.map_some]
        rw [h.failures_eq, h.limits]
      · have hbelow := mt (h.triggers_iff hkey).mpr htriggers
        simp only [Option.bind_some, Decision.audit?, Decision.made, htriggers, hbelow, if_false,
          decide_false, Option.map_none, Bool.false_eq_true]

theorem perform (h : Tells start earlier component) (hservice : component.InService)
    (call : Call) : Tells start (call :: earlier) (component.perform call) where
  settings := by
    rw [settings_perform, h.settings]
    rfl
  limits := by
    rw [hservice.limits_perform, h.settings, h.limits]
    rfl
  failures key := by
    rw [hservice.failures_perform, h.bearing, failures_cons]
    cases hbearing : History.bearing start (call :: earlier) with
    | restart => rfl
    | attempt account outcome =>
      by_cases hsame : (key == account) = true
      · cases outcome with
        | failure => simp only [if_pos hsame, Outcome.tally, Word.toNat_saturatingSucc, h.failures]
        | success =>
          simp only [if_pos hsame]
          rfl
      · simp only [if_neg hsame, h.failures]
    | nothing => exact h.failures key
  generated := by
    rw [hservice.generated_perform, delays_cons]
    cases hbearing : call.bearing component.settings component.limits with
    | restart =>
      rw [← h.bearing, hbearing]
      rfl
    | attempt account outcome =>
      obtain ⟨event, ended, -, hkey, -⟩ := Call.bearing_eq_attempt hbearing
      rw [← h.bearing, hbearing]
      simp only [h.triggers_iff hkey]
      split
      · rw [UInt64.toNat_add, h.generated, UInt64.toNat_one, Nat.mod_add_mod]
      · exact h.generated
    | nothing =>
      rw [← h.bearing, hbearing]
      exact h.generated
  audits := by rw [hservice.audits_perform, audits_cons, h.audits, h.audit?]

theorem run (h : Tells start earlier component) (hservice : component.InService)
    (calls : List Call) : Tells start (calls.reverse ++ earlier) (component.run calls) := by
  induction calls generalizing component earlier with
  | nil => exact h
  | cons call rest ih =>
    rw [List.reverse_cons, List.append_assoc]
    exact ih (h.perform hservice call) (hservice.perform call)

end Tells

end History

/-! ### Runs of a loaded component -/

/-- Whatever the host calls after a load, the component is as the history of the calls tells it,
and its table has a row for exactly those accounts that have failures by that history. -/
theorem run_eq_history {σ : Type} {host : Host σ} {start : Settings} {state : σ}
    {component : Component} (loaded : (load host start state).result = .ok component)
    (calls : List Call) :
    History.Tells start calls.reverse (component.run calls)
      ∧ ∀ key failures,
        (∃ row ∈ (component.run calls).ledger.rows,
          (key == ⟨row.account⟩) = true ∧ row.failures = failures) ↔
            History.failures start key calls.reverse = failures.toNat ∧ failures ≠ 0 := by
  obtain ⟨-, rfl⟩ := eq_fresh_of_load loaded
  have htells := (History.tells_fresh start).run (inService_fresh start) calls
  rw [List.append_nil] at htells
  refine ⟨htells, fun key failures ↦ ?_⟩
  rw [((inService_fresh start).run calls).ledger.exists_row_iff, ← htells.failures,
    UInt64.toNat_inj]
  rfl

/-- Two failures of an account in two spellings, the threshold set to what it was, and one more. -/
theorem run_eq_history_root :
    let start : Settings := ⟨1, 1000, 2147483647⟩
    let failure (user : String) : Call :=
      .notify ⟨.connect, .failure, some (.ofLogin user "localhost")⟩ .elapsed
    let calls := [failure "root", failure "ROOT", .set Setting.threshold.name 1, failure "Root"]
    (load Registry.host start .empty).result = .ok (fresh start)
      ∧ History.Tells start calls.reverse ((fresh start).run calls)
      ∧ (History.audits start calls.reverse).map (·.account) = ["'ROOT'@'localhost'"] := by
  intro start failure calls
  have loaded : (load Registry.host start .empty).result = .ok (fresh start) :=
    load_registry (start.valid_iff.mpr (by decide))
  exact ⟨loaded, (run_eq_history loaded calls).1, by decide +kernel⟩

end LoginThrottle.Component
