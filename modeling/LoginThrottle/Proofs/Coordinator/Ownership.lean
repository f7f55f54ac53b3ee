import LoginThrottle.Coordinator
import LoginThrottle.Proofs.Ledger.History

/-!
Who the delay counter belongs to, told from the transcript of a coordinator's use alone: every
call with its answer. The first registration that claims the counter is given it for good, and
every later claim is refused. Reports are accepted from the owner and from nobody else; the counter
is at the number of increments accepted since the last accepted reset, and an accepted reset is
what forgets every failure.

`run_attested` says that this is what every use of an empty coordinator comes to.
-/

set_option autoImplicit false
set_option relaxedAutoImplicit false

namespace LoginThrottle.Coordinator

/-! ### Uses of a coordinator -/

/-- A subscriber asks to be registered, a subscriber reports an action on the delay counter, or
somebody makes use of the ledger. -/
inductive Call
  | register (subscriber : Subscriber) (claims : List StatusVariable)
  | report (number : Nat) (action : CounterAction)
  | ledger (call : Ledger.Call)
  deriving Repr

inductive Answer
  | registered (number : Nat)
  | accepted
  | done
  | refused (fault : Fault)
  deriving DecidableEq, Repr

def perform (coordinator : Coordinator) : Call → Coordinator × Answer
  | .register subscriber claims =>
    match coordinator.register subscriber claims with
    | .ok (number, next) => (next, .registered number)
    | .error fault => (coordinator, .refused fault)
  | .report number action =>
    match coordinator.report number action with
    | .ok next => (next, .accepted)
    | .error fault => (coordinator, .refused fault)
  | .ledger call => ({ coordinator with ledger := coordinator.ledger.perform call }, .done)

/-- The calls so far with their answers, the latest first. -/
abbrev Transcript : Type :=
  List (Call × Answer)

/-- A coordinator and its transcript after one more call. -/
def transcribe (reached : Coordinator × Transcript) (call : Call) : Coordinator × Transcript :=
  ((reached.1.perform call).1, (call, (reached.1.perform call).2) :: reached.2)

/-- An empty coordinator after these calls, and the transcript of them. -/
def run (calls : List Call) : Coordinator × Transcript :=
  calls.foldl transcribe (empty, [])

/-! ### What a transcript tells -/

namespace Transcript

/-- The subscriber that an entry has registered, with the number that it was given. -/
def registered? : Call × Answer → Option (Nat × Subscriber)
  | (.register subscriber _, .registered number) => some (number, subscriber)
  | _ => none

/-- The number under which an entry has registered a claim on the counter. -/
def claimed? : Call × Answer → Option Nat
  | (.register _ (_ :: _), .registered number) => some number
  | _ => none

/-- The action on the counter that an entry has accepted. -/
def accepted? : Call × Answer → Option CounterAction
  | (.report _ action, .accepted) => some action
  | _ => none

/-- What an entry does to the ledger: an accepted reset empties it. -/
def used? : Call × Answer → Option Ledger.Call
  | (.ledger call, _) => some call
  | (.report _ .reset, .accepted) => some .reset
  | _ => none

/-- The subscribers that have been registered, with their numbers, in order. -/
def registrations (transcript : Transcript) : List (Nat × Subscriber) :=
  transcript.reverse.filterMap registered?

/-- The number of the first claim that was registered. -/
def owner? (transcript : Transcript) : Option Nat :=
  transcript.reverse.findSome? claimed?

/-- The increments accepted since the last accepted reset. -/
def increments (transcript : Transcript) : Nat :=
  ((transcript.filterMap accepted?).takeWhile (· = .increment)).length

def ledger (transcript : Transcript) : Ledger :=
  Ledger.empty.run (transcript.reverse.filterMap used?)

/-- What the next call is to be answered. A claim is refused if there was one before, a report if
it is not the owner's. -/
def due (transcript : Transcript) : Call → Answer
  | .register _ claims =>
    if claims ≠ [] ∧ ∃ entry ∈ transcript, (claimed? entry).isSome then
      .refused (.alreadyClaimed .delayGenerated)
    else .registered transcript.registrations.length
  | .report number _ =>
    if transcript.owner? = some number then .accepted else .refused (.notOwned .delayGenerated)
  | .ledger _ => .done

/-! ### One more entry -/

theorem registrations_cons (entry : Call × Answer) (earlier : Transcript) :
    registrations (entry :: earlier) = registrations earlier ++ (registered? entry).toList := by
  rw [registrations, List.reverse_cons, List.filterMap_append]
  cases hentry : registered? entry <;> simp [registrations, hentry]

theorem owner?_cons (entry : Call × Answer) (earlier : Transcript) :
    owner? (entry :: earlier) = (owner? earlier).or (claimed? entry) := by
  rw [owner?, List.reverse_cons, List.findSome?_append, List.findSome?_singleton]
  rfl

theorem increments_cons (entry : Call × Answer) (earlier : Transcript) :
    increments (entry :: earlier) =
      match accepted? entry with
      | some .increment => increments earlier + 1
      | some .reset => 0
      | none => increments earlier := by
  rw [increments, List.filterMap_cons]
  cases accepted? entry with
  | none => rfl
  | some action => cases action <;> rfl

theorem ledger_cons (entry : Call × Answer) (earlier : Transcript) :
    ledger (entry :: earlier) =
      match used? entry with
      | some call => (ledger earlier).perform call
      | none => ledger earlier := by
  rw [ledger, List.reverse_cons, List.filterMap_append, Ledger.run, List.foldl_append]
  cases hentry : used? entry <;> simp [ledger, Ledger.run, hentry]

theorem isSome_owner?_iff (transcript : Transcript) :
    transcript.owner?.isSome = true ↔ ∃ entry ∈ transcript, (claimed? entry).isSome := by
  rw [owner?, List.findSome?_isSome_iff]
  simp only [List.mem_reverse]

end Transcript

/-! ### The coordinator behind the transcript -/

/-- The coordinator is as its transcript tells it. -/
structure Attested (transcript : Transcript) (coordinator : Coordinator) : Prop where
  subscribers : coordinator.subscribers = transcript.registrations.map (·.2)
  numbers : transcript.registrations.map (·.1) = List.range coordinator.subscribers.length
  owner? : coordinator.owner? = transcript.owner?
  generated : coordinator.generated.toNat = transcript.increments % 2 ^ 64
  ledger : coordinator.ledger = transcript.ledger

namespace Attested

variable {earlier : Transcript} {coordinator : Coordinator}

theorem length_subscribers (h : Attested earlier coordinator) :
    coordinator.subscribers.length = earlier.registrations.length := by
  rw [h.subscribers, List.length_map]

/-- A claim on a counter that is claimed is refused; any other registration comes to its number. -/
theorem perform_register (h : Attested earlier coordinator) (subscriber : Subscriber)
    (claims : List StatusVariable) :
    coordinator.perform (.register subscriber claims) =
      if claims ≠ [] ∧ earlier.owner?.isSome then
        (coordinator, .refused (.alreadyClaimed .delayGenerated))
      else (coordinator.add subscriber claims, .registered earlier.registrations.length) := by
  have hregister : coordinator.register subscriber claims =
      if claims ≠ [] ∧ earlier.owner?.isSome then .error (.alreadyClaimed .delayGenerated)
      else .ok (earlier.registrations.length, coordinator.add subscriber claims) := by
    unfold register
    rw [← h.length_subscribers, ← h.owner?]
    cases claims with
    | nil => rfl
    | cons claim rest => cases coordinator.owner? <;> rfl
  rw [Coordinator.perform, hregister]
  by_cases hclaimed : claims ≠ [] ∧ earlier.owner?.isSome
  · simp only [if_pos hclaimed]
  · simp only [if_neg hclaimed]

/-- A report of the owner is accepted; any other is refused. -/
theorem perform_report (h : Attested earlier coordinator) (number : Nat)
    (action : CounterAction) :
    coordinator.perform (.report number action) =
      if earlier.owner? = some number then (coordinator.act action, .accepted)
      else (coordinator, .refused (.notOwned .delayGenerated)) := by
  rw [Coordinator.perform, report, h.owner?]
  by_cases howner : earlier.owner? = some number
  · simp only [if_pos howner]
  · simp only [if_neg howner]

/-- Every call is answered as it is due. -/
theorem answer (h : Attested earlier coordinator) (call : Call) :
    (coordinator.perform call).2 = earlier.due call := by
  cases call with
  | register subscriber claims =>
    simp only [h.perform_register, Transcript.due, ← Transcript.isSome_owner?_iff]
    split <;> rfl
  | report number action =>
    rw [h.perform_report, Transcript.due]
    split <;> rfl
  | ledger call => rfl

/-- An entry that registers nobody is only to account for the counter and the ledger. -/
theorem cons (h : Attested earlier coordinator) {entry : Call × Answer} {next : Coordinator}
    (hregistered : Transcript.registered? entry = none)
    (hclaimed : Transcript.claimed? entry = none)
    (hsubscribers : next.subscribers = coordinator.subscribers)
    (howner : next.owner? = coordinator.owner?)
    (hgenerated : next.generated.toNat = Transcript.increments (entry :: earlier) % 2 ^ 64)
    (hledger : next.ledger = Transcript.ledger (entry :: earlier)) :
    Attested (entry :: earlier) next := by
  have hregistrations : Transcript.registrations (entry :: earlier) = earlier.registrations := by
    rw [Transcript.registrations_cons, hregistered, Option.toList_none, List.append_nil]
  constructor
  · rw [hregistrations, hsubscribers, h.subscribers]
  · rw [hregistrations, hsubscribers, h.numbers]
  · rw [Transcript.owner?_cons, hclaimed, Option.or_none, howner, h.owner?]
  · exact hgenerated
  · exact hledger

/-- A refusal leaves what the transcript tells as it is. -/
theorem refused (h : Attested earlier coordinator) (call : Call) (fault : Fault)
    (hcall : ∀ usage, call ≠ .ledger usage) :
    Attested ((call, .refused fault) :: earlier) coordinator := by
  have hquiet : Transcript.registered? (call, .refused fault) = none
      ∧ Transcript.claimed? (call, .refused fault) = none
      ∧ Transcript.accepted? (call, .refused fault) = none
      ∧ Transcript.used? (call, .refused fault) = none := by
    cases call with
    | register subscriber claims => cases claims <;> exact ⟨rfl, rfl, rfl, rfl⟩
    | report number action => cases action <;> exact ⟨rfl, rfl, rfl, rfl⟩
    | ledger usage => exact absurd rfl (hcall usage)
  obtain ⟨hregistered, hclaimed, haccepted, hused⟩ := hquiet
  refine h.cons hregistered hclaimed rfl rfl ?_ ?_
  · rw [Transcript.increments_cons, haccepted]
    exact h.generated
  · rw [Transcript.ledger_cons, hused]
    exact h.ledger

/-- A registration is the next in the list, and is given what it claims if nobody had it. -/
theorem add (h : Attested earlier coordinator) (subscriber : Subscriber)
    (claims : List StatusVariable) (hfree : ¬ (claims ≠ [] ∧ earlier.owner?.isSome)) :
    Attested ((.register subscriber claims, .registered earlier.registrations.length) :: earlier)
      (coordinator.add subscriber claims) := by
  constructor
  · rw [Transcript.registrations_cons, List.map_append, ← h.subscribers]
    rfl
  · rw [Transcript.registrations_cons, List.map_append, h.numbers, ← h.length_subscribers]
    have hlength : (coordinator.add subscriber claims).subscribers.length =
        coordinator.subscribers.length + 1 := List.length_append
    rw [hlength, List.range_succ]
    rfl
  · have howner : (coordinator.add subscriber claims).owner? =
        if claims.isEmpty then coordinator.owner? else some coordinator.subscribers.length := rfl
    rw [Transcript.owner?_cons, howner, h.owner?, h.length_subscribers]
    cases claims with
    | nil => exact (Option.or_none ..).symm
    | cons claim rest =>
      have hnone : earlier.owner? = none := by simpa using hfree
      rw [hnone]
      rfl
  · rw [Transcript.increments_cons]
    exact h.generated
  · rw [Transcript.ledger_cons]
    exact h.ledger

/-- An action that is accepted is taken on the counter, and a reset on the ledger as well. -/
theorem act (h : Attested earlier coordinator) (number : Nat) (action : CounterAction) :
    Attested ((.report number action, .accepted) :: earlier) (coordinator.act action) := by
  cases action with
  | increment =>
    refine h.cons rfl rfl rfl rfl ?_ ?_
    · have hnext : (coordinator.act .increment).generated = coordinator.generated + 1 := rfl
      rw [Transcript.increments_cons, hnext, UInt64.toNat_add, h.generated, UInt64.toNat_one,
        Nat.mod_add_mod]
      rfl
    · rw [Transcript.ledger_cons]
      exact h.ledger
  | reset =>
    refine h.cons rfl rfl rfl rfl ?_ ?_
    · rw [Transcript.increments_cons]
      rfl
    · rw [Transcript.ledger_cons]
      rfl

theorem useLedger (h : Attested earlier coordinator) (usage : Ledger.Call) :
    Attested ((.ledger usage, .done) :: earlier)
      { coordinator with ledger := coordinator.ledger.perform usage } := by
  refine h.cons rfl rfl rfl rfl ?_ ?_
  · rw [Transcript.increments_cons]
    exact h.generated
  · rw [Transcript.ledger_cons, h.ledger]
    rfl

theorem transcribe (h : Attested earlier coordinator) (call : Call) :
    Attested (Coordinator.transcribe (coordinator, earlier) call).2
      (Coordinator.transcribe (coordinator, earlier) call).1 := by
  rw [Coordinator.transcribe]
  cases call with
  | register subscriber claims =>
    rw [h.perform_register]
    by_cases hclaimed : claims ≠ [] ∧ earlier.owner?.isSome
    · rw [if_pos hclaimed]
      exact h.refused _ _ fun _ ↦ Call.noConfusion
    · rw [if_neg hclaimed]
      exact h.add subscriber claims hclaimed
  | report number action =>
    rw [h.perform_report]
    by_cases howner : earlier.owner? = some number
    · rw [if_pos howner]
      exact h.act number action
    · rw [if_neg howner]
      exact h.refused _ _ fun _ ↦ Call.noConfusion
  | ledger usage => exact h.useLedger usage

end Attested

theorem attested_empty : Attested [] empty :=
  ⟨rfl, rfl, rfl, rfl, rfl⟩

theorem Attested.foldl {reached : Coordinator × Transcript} (h : Attested reached.2 reached.1)
    (calls : List Call) :
    Attested (calls.foldl Coordinator.transcribe reached).2
      (calls.foldl Coordinator.transcribe reached).1 := by
  induction calls generalizing reached with
  | nil => exact h
  | cons call rest ih => exact ih (h.transcribe call)

/-! ### What no call undoes -/

/-- A refused call has changed nothing. -/
theorem perform_of_refused {coordinator : Coordinator} {call : Call} {fault : Fault}
    (h : (coordinator.perform call).2 = .refused fault) :
    (coordinator.perform call).1 = coordinator := by
  cases call with
  | register subscriber claims =>
    rw [perform] at h ⊢
    cases hregister : coordinator.register subscriber claims with
    | ok registered =>
      rw [hregister] at h
      exact absurd h (by simp)
    | error fault => rfl
  | report number action =>
    rw [perform] at h ⊢
    cases hreport : coordinator.report number action with
    | ok next =>
      rw [hreport] at h
      exact absurd h (by simp)
    | error fault => rfl
  | ledger usage => exact absurd h (by simp [perform])

/-- Whoever owns the counter keeps it. -/
theorem Attested.owner?_foldl {reached : Coordinator × Transcript}
    (h : Attested reached.2 reached.1) {number : Nat} (hnumber : reached.1.owner? = some number)
    (calls : List Call) : (calls.foldl Coordinator.transcribe reached).1.owner? = some number := by
  induction calls generalizing reached with
  | nil => exact hnumber
  | cons call rest ih =>
    have hnext := h.transcribe call
    have howner : (Coordinator.transcribe reached call).1.owner? = some number := by
      rw [hnext.owner?, Coordinator.transcribe, Transcript.owner?_cons, ← h.owner?, hnumber]
      rfl
    exact ih hnext howner

/-! ### Every use of a coordinator -/

/-- However an empty coordinator is used, it is as the transcript of its use tells it. Every
call is answered as it is due, a refused one changes nothing, and the counter never passes to
anybody else. -/
theorem run_attested (calls : List Call) :
    Attested (run calls).2 (run calls).1
      ∧ (∀ call, ((run calls).1.perform call).2 = (run calls).2.due call
          ∧ ∀ fault, ((run calls).1.perform call).2 = .refused fault →
              ((run calls).1.perform call).1 = (run calls).1)
      ∧ ∀ number, (run calls).1.owner? = some number →
          ∀ later, (run (calls ++ later)).1.owner? = some number := by
  have hattested : Attested (run calls).2 (run calls).1 := attested_empty.foldl calls
  refine ⟨hattested, fun call ↦ ⟨hattested.answer call, ?_⟩, ?_⟩
  · intro fault hfault
    exact perform_of_refused hfault
  · intro number hnumber later
    have hlater : run (calls ++ later) = later.foldl transcribe (run calls) := List.foldl_append
    rw [hlater]
    exact hattested.owner?_foldl hnumber later

/-- A second claim is refused, and so is a reset that is not the owner's. -/
theorem run_attested_second_claim :
    let observer (label : String) : Subscriber := ⟨.scripted ⟨label, [], [], none⟩, .empty⟩
    let calls : List Call :=
      [.register (observer "a") [], .register (observer "b") [.delayGenerated, .delayGenerated],
        .register (observer "c") [.delayGenerated], .ledger (.add ⟨"'root'@'h'"⟩),
        .report 1 .increment, .report 0 .reset]
    (run calls).2.reverse.map (·.2) =
        [.registered 0, .registered 1, .refused (.alreadyClaimed .delayGenerated), .done,
          .accepted, .refused (.notOwned .delayGenerated)]
      ∧ (run calls).1.generated.toNat = 1
      ∧ (run calls).1.ledger.rows = [⟨"'root'@'h'", 1⟩]
      ∧ ((run calls).1.perform (.report 1 .reset)).2 = .accepted
      ∧ ∀ later, (run (calls ++ later)).1.owner? = some 1 := by
  intro observer calls
  obtain ⟨hattested, hanswer, howner⟩ := run_attested calls
  refine ⟨by decide +kernel, hattested.generated.trans (by decide +kernel), ?_,
    (hanswer (.report 1 .reset)).1.trans (by decide +kernel), howner 1 (by decide +kernel)⟩
  rw [hattested.ledger]
  decide +kernel

end LoginThrottle.Coordinator
