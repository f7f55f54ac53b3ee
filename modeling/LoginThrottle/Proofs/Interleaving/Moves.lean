import LoginThrottle.Proofs.Interleaving.Task

/-!
Attempts and new thresholds that are dealt with at the same time: the moves of the tasks come in
any order that the lock on the limits allows. A task can be overtaken between any two of its moves,
but while it shares the lock the limits stay what it has read.
-/

set_option autoImplicit false
set_option relaxedAutoImplicit false

namespace LoginThrottle

/-- The task that moves, and how a wait ends that it comes out of. -/
structure Move where
  task : Nat
  ended : WaitEnd
  deriving DecidableEq, Repr

structure Interleaving where
  coordinator : Coordinator
  tasks : List Task
  deriving Repr

namespace Interleaving

/-- One move, if there is one to make and the lock allows it. -/
def step (interleaving : Interleaving) (move : Move) : Option Interleaving :=
  match interleaving.tasks[move.task]? with
  | none => none
  | some task =>
    match task.advance interleaving.coordinator move.ended with
    | none => none
    | some (coordinator, later) =>
      if later.hold = task.hold || interleaving.tasks.all (·.hold.allows later.hold) then
        some ⟨coordinator, interleaving.tasks.set move.task later⟩
      else none

def run (interleaving : Interleaving) : List Move → Option Interleaving
  | [] => some interleaving
  | move :: rest => (interleaving.step move).bind fun next ↦ next.run rest

theorem step_cases {interleaving next : Interleaving} {move : Move}
    (h : interleaving.step move = some next) :
    ∃ task later, interleaving.tasks[move.task]? = some task
      ∧ task.advance interleaving.coordinator move.ended = some (next.coordinator, later)
      ∧ (later.hold = task.hold ∨ ∀ other ∈ interleaving.tasks, other.hold.allows later.hold = true)
      ∧ next.tasks = interleaving.tasks.set move.task later := by
  rw [step] at h
  split at h
  · exact absurd h (by simp)
  · next task htask =>
    split at h
    · exact absurd h (by simp)
    · next coordinator later hadvance =>
      split at h
      · next hpermitted =>
        cases h
        rw [Bool.or_eq_true, decide_eq_true_eq, List.all_eq_true] at hpermitted
        exact ⟨task, later, htask, hadvance, hpermitted, rfl⟩
      · exact absurd h (by simp)

/-- What a list of tasks holds after one of them has moved. -/
theorem getElem?_set_cases {tasks : List Task} {number : Nat} {later task : Task} {other : Nat}
    (h : (tasks.set number later)[other]? = some task) :
    (other = number ∧ task = later) ∨ (other ≠ number ∧ tasks[other]? = some task) := by
  by_cases hother : other = number
  · subst hother
    rw [List.getElem?_set_self'] at h
    obtain ⟨_, -, heq⟩ := Option.map_eq_some_iff.mp h
    exact Or.inl ⟨rfl, heq.symm⟩
  · rw [List.getElem?_set_ne (Ne.symm hother)] at h
    exact Or.inr ⟨hother, h⟩

theorem getElem?_set_mover {tasks : List Task} {number : Nat} {task : Task}
    (h : tasks[number]? = some task) (later : Task) :
    (tasks.set number later)[number]? = some later := by
  rw [List.getElem?_set_self', h]
  rfl

/-! ### What the lock guarantees -/

/-- The lock is held as it can be, and whoever has read the limits has read those in force. -/
structure Orderly (interleaving : Interleaving) : Prop where
  excluding : ∀ (one other : Nat) (a b : Task), one ≠ other → interleaving.tasks[one]? = some a →
    interleaving.tasks[other]? = some b → a.hold.allows b.hold = true
  ledger : interleaving.coordinator.ledger.Proper
  policy : ∃ limits, interleaving.coordinator.RunsPolicy limits
  informed : ∀ (number : Nat) (event : ConnectionEvent) (limits : Settings),
    interleaving.tasks[number]? = some (Task.attempt event (.informed limits)) →
      interleaving.coordinator.RunsPolicy limits
  sound : ∀ (number : Nat) (task : Task), interleaving.tasks[number]? = some task → task.Sound

/-- The operations, none of which has begun yet. -/
def start (coordinator : Coordinator) (operations : List Operation) : Interleaving :=
  ⟨coordinator, operations.map .ofOperation⟩

theorem getElem?_start {coordinator : Coordinator} {operations : List Operation} {number : Nat}
    {task : Task} (h : (start coordinator operations).tasks[number]? = some task) :
    ∃ operation, operations[number]? = some operation ∧ task = .ofOperation operation := by
  rw [start, List.getElem?_map] at h
  obtain ⟨operation, hoperation, rfl⟩ := Option.map_eq_some_iff.mp h
  exact ⟨operation, hoperation, rfl⟩

theorem orderly_start {coordinator : Coordinator} {limits : Settings}
    (hpolicy : coordinator.RunsPolicy limits) (hledger : coordinator.ledger.Proper)
    (operations : List Operation) : (start coordinator operations).Orderly where
  excluding one other a b _ hone _ := by
    obtain ⟨operation, -, rfl⟩ := getElem?_start hone
    rw [Task.hold_ofOperation]
    rfl
  ledger := hledger
  policy := ⟨limits, hpolicy⟩
  informed number event limits hnumber := by
    obtain ⟨operation, -, heq⟩ := getElem?_start hnumber
    cases operation <;> exact absurd heq (by simp [Task.ofOperation])
  sound number task hnumber := by
    obtain ⟨operation, -, rfl⟩ := getElem?_start hnumber
    exact Task.sound_ofOperation operation

theorem Orderly.step {interleaving next : Interleaving} (h : interleaving.Orderly) {move : Move}
    (hstep : interleaving.step move = some next) : next.Orderly := by
  obtain ⟨task, later, htask, hadvance, hpermitted, htasks⟩ := step_cases hstep
  obtain ⟨limits, hpolicy⟩ := h.policy
  obtain ⟨reached, hreached, hkept⟩ := Task.runsPolicy_advance hpolicy hadvance
  have hallowed : ∀ other b, other ≠ move.task → interleaving.tasks[other]? = some b →
      b.hold.allows later.hold = true := by
    intro other b hother hb
    rcases hpermitted with heq | hall
    · rw [heq]
      exact h.excluding other move.task b task hother hb htask
    · exact hall b (List.mem_of_getElem? hb)
  constructor
  · intro one other a b hne hone hother
    rw [htasks] at hone hother
    rcases getElem?_set_cases hone with ⟨rfl, rfl⟩ | ⟨hone', ha⟩
    · rcases getElem?_set_cases hother with ⟨heq, -⟩ | ⟨hother', hb⟩
      · exact absurd heq.symm hne
      · rw [Hold.allows_comm]
        exact hallowed other b hother' hb
    · rcases getElem?_set_cases hother with ⟨rfl, rfl⟩ | ⟨-, hb⟩
      · exact hallowed one a hone' ha
      · exact h.excluding one other a b hne ha hb
  · exact Task.proper_advance h.ledger hadvance
  · exact ⟨reached, hreached⟩
  · intro number event found hnumber
    rw [htasks] at hnumber
    rcases getElem?_set_cases hnumber with ⟨rfl, rfl⟩ | ⟨hnumber', hinformed⟩
    · exact Task.runsPolicy_of_informed hpolicy hadvance
    · -- The attempt shares the lock, so that the mover cannot have it alone.
      have hshared := h.excluding number move.task _ task hnumber' hinformed htask
      have hnotAlone : task.hold ≠ .alone := by
        intro halone
        rw [halone] at hshared
        exact absurd hshared (by simp [Task.hold, AttemptStage.hold, Hold.allows])
      rw [← hpolicy.limits_eq (h.informed number event found hinformed), ← hkept hnotAlone]
      exact hreached
  · intro number moved hnumber
    rw [htasks] at hnumber
    rcases getElem?_set_cases hnumber with ⟨rfl, rfl⟩ | ⟨-, hmoved⟩
    · exact Task.sound_advance (h.sound move.task task htask) hadvance
    · exact h.sound number moved hmoved

theorem Orderly.run {interleaving final : Interleaving} (h : interleaving.Orderly)
    {moves : List Move} (hrun : interleaving.run moves = some final) : final.Orderly := by
  induction moves generalizing interleaving with
  | nil =>
    cases hrun
    exact h
  | cons move rest ih =>
    obtain ⟨next, hstep, hrest⟩ := Option.bind_eq_some_iff.mp hrun
    exact ih (h.step hstep) hrest

end Interleaving

end LoginThrottle
