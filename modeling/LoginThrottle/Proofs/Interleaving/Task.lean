import LoginThrottle.Proofs.Coordinator

/-!
Attempts and new thresholds as tasks that make one move after another, each with the lock on the
limits as it is held between its moves: an attempt shares the lock, though not while it waits, and
a new threshold has it alone. Left to itself a task does what the coordinator does in one go.
-/

set_option autoImplicit false
set_option relaxedAutoImplicit false

namespace LoginThrottle

inductive Operation
  | attempt (event : ConnectionEvent)
  | retune (threshold : Int64)
  deriving DecidableEq, Repr

/-- How far an attempt has come. At the end it has been counted or it has been dismissed. -/
inductive AttemptStage
  | waiting
  | entered
  | informed (limits : Settings)
  | decided (decision : Decision)
  | reported (decision : Decision)
  | asleep (decision : Decision)
  | ready (decision : Decision) (ended : WaitEnd)
  | leaving (counted : Bool)
  | finished (counted : Bool)
  deriving Repr

/-- How far a new threshold has come. -/
inductive RetuneStage
  | waiting
  | entered
  | stored
  | zeroed
  | cleared
  | finished
  deriving DecidableEq, Repr

inductive Task
  | attempt (event : ConnectionEvent) (stage : AttemptStage)
  | retune (threshold : Int64) (stage : RetuneStage)
  deriving Repr

/-- How a task holds the lock on the limits. -/
inductive Hold
  | free
  | shared
  | alone
  deriving DecidableEq, Repr

/-- Whether two tasks can hold the lock like this at the same time. -/
def Hold.allows : Hold → Hold → Bool
  | .free, _ | _, .free | .shared, .shared => true
  | _, _ => false

theorem Hold.allows_comm (a b : Hold) : a.allows b = b.allows a := by
  cases a <;> cases b <;> rfl

/-! ### Tasks -/

namespace AttemptStage

def hold : AttemptStage → Hold
  | .waiting | .asleep _ | .finished _ => .free
  | .entered | .informed _ | .decided _ | .reported _ | .ready .. | .leaving _ => .shared

/-- The decision whose outcome has not been applied yet. -/
def decision? : AttemptStage → Option Decision
  | .decided decision | .reported decision | .asleep decision | .ready decision _ => some decision
  | .waiting | .entered | .informed _ | .leaving _ | .finished _ => none

/-- What the next move makes of the ledger. -/
def edited (ledger : Ledger) : AttemptStage → Ledger
  | .ready decision _ => decision.apply ledger
  | _ => ledger

/-- The next move of an attempt. It looks up the count only after it has read the limits. -/
def advance (coordinator : Coordinator) (event : ConnectionEvent) (ended : WaitEnd) :
    AttemptStage → Option (Coordinator × AttemptStage)
  | .waiting => some (coordinator, .entered)
  | .entered => coordinator.delayLimits.head?.map fun limits ↦ (coordinator, .informed limits)
  | .informed limits =>
    match Verdict.judge limits coordinator.ledger event with
    | .ignored => some (coordinator, .leaving false)
    | .unidentified => some (coordinator.log (.notCounted .noContext), .leaving false)
    | .counted decision =>
      some (coordinator,
        if decision.delay?.isSome then .decided decision else .ready decision .elapsed)
  | .decided decision => some (coordinator.countDelay 0, .reported decision)
  | .reported decision => some (coordinator, .asleep decision)
  | .asleep decision => some (coordinator, .ready decision ended)
  | .ready decision ended => some (coordinator.settle decision ended, .leaving true)
  | .leaving counted => some (coordinator, .finished counted)
  | .finished _ => none

/-- What the next move makes of the coordinator. -/
def touched (coordinator : Coordinator) (event : ConnectionEvent) : AttemptStage → Coordinator
  | .informed limits =>
    match Verdict.judge limits coordinator.ledger event with
    | .unidentified => coordinator.log (.notCounted .noContext)
    | .ignored | .counted _ => coordinator
  | .decided _ => coordinator.countDelay 0
  | .ready decision ended => coordinator.settle decision ended
  | .waiting | .entered | .reported _ | .asleep _ | .leaving _ | .finished _ => coordinator

theorem eq_touched {coordinator next : Coordinator} {event : ConnectionEvent} {ended : WaitEnd}
    {stage later : AttemptStage}
    (h : stage.advance coordinator event ended = some (next, later)) :
    next = stage.touched coordinator event := by
  cases stage with
  | informed limits =>
    rw [advance] at h
    rw [touched]
    split at h <;> next hjudge =>
      cases h
      simp only [hjudge]
  | entered =>
    obtain ⟨found, -, heq⟩ := Option.map_eq_some_iff.mp h
    cases heq
    rfl
  | finished counted => exact absurd h (by simp [advance])
  | waiting | decided | reported | asleep | ready | leaving =>
    cases h
    rfl

/-- A decision that is to be applied has been so before, or has just been made. -/
theorem decision?_advance {coordinator next : Coordinator} {event : ConnectionEvent}
    {ended : WaitEnd} {stage later : AttemptStage} {decision : Decision}
    (h : stage.advance coordinator event ended = some (next, later))
    (hdecision : later.decision? = some decision) :
    stage.decision? = some decision
      ∨ ∃ limits, Verdict.judge limits coordinator.ledger event = .counted decision := by
  cases stage with
  | informed limits =>
    rw [advance] at h
    split at h
    · cases h
      exact absurd hdecision (by simp [decision?])
    · cases h
      exact absurd hdecision (by simp [decision?])
    · next made hjudge =>
      have hmade : later.decision? = some made := by
        cases h
        split <;> rfl
      obtain rfl := Option.some.inj (hmade.symm.trans hdecision)
      exact Or.inr ⟨limits, hjudge⟩
  | entered =>
    obtain ⟨found, -, heq⟩ := Option.map_eq_some_iff.mp h
    cases heq
    exact absurd hdecision (by simp [decision?])
  | finished counted => exact absurd h (by simp [advance])
  | waiting | ready | leaving =>
    cases h
    exact absurd hdecision (by simp [decision?])
  | decided | reported | asleep =>
    cases h
    exact Or.inl hdecision

end AttemptStage

namespace RetuneStage

def hold : RetuneStage → Hold
  | .waiting | .finished => .free
  | .entered | .stored | .zeroed | .cleared => .alone

/-- The next move of a new threshold. -/
def advance (coordinator : Coordinator) (threshold : Int64) :
    RetuneStage → Option (Coordinator × RetuneStage)
  | .waiting => some (coordinator, .entered)
  | .entered => coordinator.delayLimits.head?.map fun limits ↦
    (coordinator.setObserver 0 (.delay (limits.adjusted .threshold threshold)), .stored)
  | .stored => some ({ coordinator with generated := 0 }, .zeroed)
  | .zeroed => some ({ coordinator with ledger := .empty }, .cleared)
  | .cleared => some (coordinator, .finished)
  | .finished => none

end RetuneStage

namespace Task

def ofOperation : Operation → Task
  | .attempt event => .attempt event .waiting
  | .retune threshold => .retune threshold .waiting

def operation : Task → Operation
  | .attempt event _ => .attempt event
  | .retune threshold _ => .retune threshold

def hold : Task → Hold
  | .attempt _ stage => stage.hold
  | .retune _ stage => stage.hold

/-- The next move of a task; a wait that it comes out of has ended as given. -/
def advance (coordinator : Coordinator) (ended : WaitEnd) : Task → Option (Coordinator × Task)
  | .attempt event stage =>
    (stage.advance coordinator event ended).map fun (next, later) ↦ (next, .attempt event later)
  | .retune threshold stage =>
    (stage.advance coordinator threshold).map fun (next, later) ↦ (next, .retune threshold later)

/-- So many moves of a task that is left to itself. -/
def advanceBy (ended : WaitEnd) : Nat → Coordinator × Task → Option (Coordinator × Task)
  | 0, state => some state
  | moves + 1, (coordinator, task) => (task.advance coordinator ended).bind (advanceBy ended moves)

@[simp] theorem operation_ofOperation (operation : Operation) :
    (ofOperation operation).operation = operation := by
  cases operation <;> rfl

@[simp] theorem hold_ofOperation (operation : Operation) :
    (ofOperation operation).hold = .free := by
  cases operation <;> rfl

/-- The decisions that are still to be applied are those on the event of the attempt. -/
def Sound : Task → Prop
  | .attempt event stage => ∀ decision, stage.decision? = some decision →
    ∃ limits key failures, limits.counted? event = some key
      ∧ decision = .made limits event key failures
  | .retune _ _ => True

theorem sound_ofOperation (operation : Operation) : (ofOperation operation).Sound := by
  cases operation with
  | attempt event =>
    intro decision h
    exact absurd h (by simp [AttemptStage.decision?])
  | retune threshold => trivial

/-! ### A task left to itself -/

section Alone

variable {coordinator : Coordinator} {limits : Settings}

/-- An attempt that nothing comes in between of is the event told to everyone. -/
theorem advanceBy_attempt (h : coordinator.RunsPolicy limits) (event : ConnectionEvent)
    (ended : WaitEnd) :
    ∃ moves counted, advanceBy ended moves (coordinator, .attempt event .waiting) =
      some (coordinator.notifyEvent event ended, .attempt event (.finished counted)) := by
  have hlimits := h.head?_delayLimits
  rw [h.notifyEvent, Coordinator.decide]
  cases hjudge : Verdict.judge limits coordinator.ledger event with
  | ignored =>
    refine ⟨4, false, ?_⟩
    simp [advanceBy, advance, AttemptStage.advance, hlimits, hjudge]
  | unidentified =>
    refine ⟨4, false, ?_⟩
    simp [advanceBy, advance, AttemptStage.advance, hlimits, hjudge]
  | counted decision =>
    by_cases hdelay : decision.delay?.isSome = true
    · refine ⟨8, true, ?_⟩
      simp [advanceBy, advance, AttemptStage.advance, hlimits, hjudge, hdelay]
    · refine ⟨5, true, ?_⟩
      simp [advanceBy, advance, AttemptStage.advance, hlimits, hjudge, hdelay]

theorem advanceBy_retune (h : coordinator.RunsPolicy limits) (threshold : Int64)
    (ended : WaitEnd) :
    advanceBy ended 5 (coordinator, .retune threshold .waiting) =
      some (coordinator.notifyChange .threshold threshold, .retune threshold .finished) := by
  have hlimits := h.head?_delayLimits
  rw [h.notifyChange_threshold]
  simp [advanceBy, advance, RetuneStage.advance, hlimits, Coordinator.act]

end Alone

/-! ### What a move can do -/

section Advance

variable {coordinator next : Coordinator} {limits : Settings} {ended : WaitEnd}

/-- An attempt touches the ledger only when it applies its outcome. -/
theorem ledger_advance_attempt {event : ConnectionEvent} {stage later : AttemptStage}
    (h : stage.advance coordinator event ended = some (next, later)) :
    next.ledger = stage.edited coordinator.ledger := by
  rw [AttemptStage.eq_touched h]
  cases stage with
  | informed limits =>
    rw [AttemptStage.touched]
    split <;> rfl
  | decided decision => exact coordinator.countDelay_ledger 0
  | ready decision how => exact coordinator.settle_ledger decision how
  | waiting | entered | reported | asleep | leaving | finished => rfl

/-- An attempt counts its delay once it has been decided on, and touches the counter at no other
time. -/
theorem generated_advance_attempt {event : ConnectionEvent} {stage later : AttemptStage}
    (hstage : ∀ decision, stage ≠ .decided decision)
    (h : stage.advance coordinator event ended = some (next, later)) :
    next.generated = coordinator.generated := by
  rw [AttemptStage.eq_touched h]
  cases stage with
  | informed limits =>
    rw [AttemptStage.touched]
    split <;> rfl
  | decided decision => exact absurd rfl (hstage decision)
  | ready decision how => exact coordinator.settle_generated decision how
  | waiting | entered | reported | asleep | leaving | finished => rfl

/-- An attempt never touches the limits. -/
theorem runsPolicy_advance_attempt (hpolicy : coordinator.RunsPolicy limits)
    {event : ConnectionEvent} {stage later : AttemptStage}
    (h : stage.advance coordinator event ended = some (next, later)) : next.RunsPolicy limits := by
  rw [AttemptStage.eq_touched h]
  cases stage with
  | informed limits =>
    rw [AttemptStage.touched]
    split
    · exact hpolicy.of_eq rfl rfl
    · exact hpolicy
    · exact hpolicy
  | decided decision =>
    rw [AttemptStage.touched, hpolicy.countDelay]
    exact hpolicy.act .increment
  | ready decision how => exact hpolicy.settle decision how
  | waiting | entered | reported | asleep | leaving | finished => exact hpolicy

/-- A new threshold empties the ledger, and changes the limits, in one move each. -/
theorem ledger_advance_retune {threshold : Int64} {stage later : RetuneStage}
    (h : stage.advance coordinator threshold = some (next, later)) :
    next.ledger = if stage = .zeroed then .empty else coordinator.ledger := by
  cases stage with
  | entered =>
    obtain ⟨found, -, heq⟩ := Option.map_eq_some_iff.mp h
    cases heq
    rfl
  | finished => exact absurd h (by simp [RetuneStage.advance])
  | waiting | stored | zeroed | cleared =>
    cases h
    rfl

theorem generated_advance_retune {threshold : Int64} {stage later : RetuneStage}
    (h : stage.advance coordinator threshold = some (next, later)) :
    next.generated = if stage = .stored then 0 else coordinator.generated := by
  cases stage with
  | entered =>
    obtain ⟨found, -, heq⟩ := Option.map_eq_some_iff.mp h
    cases heq
    rfl
  | finished => exact absurd h (by simp [RetuneStage.advance])
  | waiting | stored | zeroed | cleared =>
    cases h
    rfl

theorem runsPolicy_advance_retune (hpolicy : coordinator.RunsPolicy limits) {threshold : Int64}
    {stage later : RetuneStage}
    (h : stage.advance coordinator threshold = some (next, later)) :
    next.RunsPolicy
      (if stage = .entered then limits.adjusted .threshold threshold else limits) := by
  cases stage with
  | entered =>
    have hlimits := hpolicy.head?_delayLimits
    rw [RetuneStage.advance, hlimits] at h
    cases h
    exact hpolicy.setObserver _
  | finished => exact absurd h (by simp [RetuneStage.advance])
  | waiting | stored | zeroed | cleared =>
    cases h
    exact hpolicy.of_eq rfl rfl

theorem advance_attempt {task later : Task} {event : ConnectionEvent} {stage : AttemptStage}
    (htask : task = .attempt event stage)
    (h : task.advance coordinator ended = some (next, later)) :
    ∃ reached, later = .attempt event reached
      ∧ stage.advance coordinator event ended = some (next, reached) := by
  subst htask
  obtain ⟨⟨_, reached⟩, hstage, heq⟩ := Option.map_eq_some_iff.mp h
  cases heq
  exact ⟨reached, rfl, hstage⟩

theorem advance_retune {task later : Task} {threshold : Int64} {stage : RetuneStage}
    (htask : task = .retune threshold stage)
    (h : task.advance coordinator ended = some (next, later)) :
    ∃ reached, later = .retune threshold reached
      ∧ stage.advance coordinator threshold = some (next, reached) := by
  subst htask
  obtain ⟨⟨_, reached⟩, hstage, heq⟩ := Option.map_eq_some_iff.mp h
  cases heq
  exact ⟨reached, rfl, hstage⟩

variable {task later : Task}

theorem operation_advance (h : task.advance coordinator ended = some (next, later)) :
    later.operation = task.operation := by
  cases htask : task with
  | attempt event stage =>
    obtain ⟨reached, rfl, -⟩ := advance_attempt htask h
    rfl
  | retune threshold stage =>
    obtain ⟨reached, rfl, -⟩ := advance_retune htask h
    rfl

theorem sound_advance (hsound : task.Sound)
    (h : task.advance coordinator ended = some (next, later)) : later.Sound := by
  cases htask : task with
  | retune threshold stage =>
    obtain ⟨reached, rfl, -⟩ := advance_retune htask h
    trivial
  | attempt event stage =>
    obtain ⟨reached, rfl, hstage⟩ := advance_attempt htask h
    subst htask
    intro decision hdecision
    rcases stage.decision?_advance hstage hdecision with hsame | ⟨limits, hjudge⟩
    · exact hsound decision hsame
    · obtain ⟨key, hkey, rfl⟩ := Verdict.of_judge_eq_counted hjudge
      exact ⟨limits, key, _, hkey, rfl⟩

theorem proper_advance (hproper : coordinator.ledger.Proper)
    (h : task.advance coordinator ended = some (next, later)) : next.ledger.Proper := by
  cases htask : task with
  | attempt event stage =>
    obtain ⟨reached, -, hstage⟩ := advance_attempt htask h
    rw [ledger_advance_attempt hstage]
    cases stage with
    | ready decision how => exact decision.proper_apply hproper
    | _ => exact hproper
  | retune threshold stage =>
    obtain ⟨reached, -, hstage⟩ := advance_retune htask h
    rw [ledger_advance_retune hstage]
    by_cases hzeroed : stage = .zeroed
    · rw [if_pos hzeroed]
      exact Ledger.proper_empty
    · rw [if_neg hzeroed]
      exact hproper

/-- Only a task that has the lock alone can change the limits. -/
theorem runsPolicy_advance (hpolicy : coordinator.RunsPolicy limits)
    (h : task.advance coordinator ended = some (next, later)) :
    ∃ reached, next.RunsPolicy reached ∧ (task.hold ≠ .alone → reached = limits) := by
  cases htask : task with
  | attempt event stage =>
    obtain ⟨reached, -, hstage⟩ := advance_attempt htask h
    exact ⟨limits, runsPolicy_advance_attempt hpolicy hstage, fun _ ↦ rfl⟩
  | retune threshold stage =>
    obtain ⟨reached, -, hstage⟩ := advance_retune htask h
    refine ⟨_, runsPolicy_advance_retune hpolicy hstage, fun halone ↦ if_neg ?_⟩
    rintro rfl
    exact halone rfl

/-- An attempt that has just read the limits has read those in force. -/
theorem runsPolicy_of_informed (hpolicy : coordinator.RunsPolicy limits) {event : ConnectionEvent}
    {found : Settings}
    (h : task.advance coordinator ended = some (next, .attempt event (.informed found))) :
    next.RunsPolicy found := by
  have hlimits := hpolicy.head?_delayLimits
  cases htask : task with
  | retune threshold stage =>
    obtain ⟨reached, heq, -⟩ := advance_retune htask h
    exact absurd heq (by simp)
  | attempt other stage =>
    obtain ⟨reached, heq, hstage⟩ := advance_attempt htask h
    obtain ⟨rfl, rfl⟩ := Task.attempt.inj heq
    cases stage with
    | entered =>
      rw [AttemptStage.advance, hlimits] at hstage
      cases hstage
      exact hpolicy
    | informed limits =>
      rw [AttemptStage.advance] at hstage
      split at hstage
      · cases hstage
      · cases hstage
      · simp only [Option.some.injEq, Prod.mk.injEq] at hstage
        obtain ⟨-, hstage⟩ := hstage
        split at hstage <;> cases hstage
    | waiting | decided | reported | asleep | ready | leaving | finished => cases hstage

end Advance

end Task

end LoginThrottle
