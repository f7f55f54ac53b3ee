import Mathlib.Data.List.Nodup
import LoginThrottle.Proofs.Component.Run
import LoginThrottle.Proofs.Interleaving.Moves

/-!
However attempts and new thresholds overtake one another, the ledger is at every moment as if they
had been dealt with one at a time. Each takes effect at one of its own moves: a new threshold when
it empties the ledger, a failure when it is added, and a success when it forgets its account. But a
success that found no failures has had its effect already when it looked, since there was nothing
to forget then, and it forgets nothing of what others add later.
-/

set_option autoImplicit false
set_option relaxedAutoImplicit false

namespace LoginThrottle

/-- The ledger after an operation, all at once. -/
def Operation.edit (ledger : Ledger) : Operation → Ledger
  | .attempt event =>
    match event.context, event.outcome with
    | some context, .failure => ledger.add context.accountKey
    | some context, .success => ledger.forget context.accountKey
    | none, _ => ledger
  | .retune _ => .empty

/-- The ledger after the operations of these numbers, one at a time. -/
def Operation.replay (operations : List Operation) (numbers : List Nat) (ledger : Ledger) :
    Ledger :=
  (numbers.filterMap fun number ↦ operations[number]?).foldl edit ledger

theorem Operation.replay_snoc {operations : List Operation} {number : Nat} {operation : Operation}
    (h : operations[number]? = some operation) (numbers : List Nat) (ledger : Ledger) :
    replay operations (numbers ++ [number]) ledger =
      operation.edit (replay operations numbers ledger) := by
  rw [replay, List.filterMap_append, List.foldl_append, List.filterMap_cons, h]
  rfl

/-- A success that has no failures to forget. -/
def Decision.isIdle (decision : Decision) : Bool :=
  decision.outcome = .success && decision.failures = 0

theorem Decision.isIdle_iff (decision : Decision) :
    decision.isIdle = true ↔ decision.outcome = .success ∧ decision.failures = 0 := by
  rw [isIdle, Bool.and_eq_true, decide_eq_true_eq, decide_eq_true_eq]

/-- An idle decision leaves every ledger alone. -/
theorem Decision.apply_of_isIdle {decision : Decision} (h : decision.isIdle = true)
    (ledger : Ledger) : decision.apply ledger = ledger := by
  obtain ⟨houtcome, hfailures⟩ := decision.isIdle_iff.mp h
  rw [apply, houtcome]
  exact if_pos hfailures

section Edit

variable {limits : Settings} {event : ConnectionEvent} {key : AccountKey}

/-- The edit of an attempt that counts. -/
theorem Operation.edit_of_counted (h : limits.counted? event = some key) (ledger : Ledger) :
    (attempt event).edit ledger =
      match event.outcome with
      | .failure => ledger.add key
      | .success => ledger.forget key := by
  obtain ⟨-, -, context, hcontext, rfl⟩ := Settings.counted?_eq_some_iff.mp h
  rw [edit, hcontext]
  cases event.outcome <;> rfl

/-- A decision that is not idle has the effect of its operation on every ledger, whatever has
become of the ledger since. -/
theorem Decision.apply_of_not_isIdle (h : limits.counted? event = some key) {failures : UInt64}
    (hidle : ¬(made limits event key failures).isIdle = true) (ledger : Ledger) :
    (made limits event key failures).apply ledger = (Operation.attempt event).edit ledger := by
  rw [Operation.edit_of_counted h, apply]
  cases houtcome : event.outcome with
  | failure => simp only [made, houtcome]
  | success =>
    have hfailures : failures ≠ 0 := by
      intro hzero
      exact hidle ((isIdle_iff _).mpr ⟨houtcome, hzero⟩)
    simp only [made, houtcome, if_neg hfailures]

/-- An idle decision is made where its operation has no effect. -/
theorem Operation.edit_of_isIdle (h : limits.counted? event = some key) {ledger : Ledger}
    (hproper : ledger.Proper)
    (hidle : (Decision.made limits event key (ledger.count key)).isIdle = true) :
    (attempt event).edit ledger = ledger := by
  obtain ⟨houtcome, hcount⟩ := (Decision.isIdle_iff _).mp hidle
  replace houtcome : event.outcome = .success := houtcome
  rw [edit_of_counted h, houtcome]
  exact hproper.forget_of_count_eq_zero hcount

end Edit

/-- Whether an attempt has taken effect by now. One that is dismissed never does. -/
def AttemptStage.tookEffect : AttemptStage → Bool
  | .waiting | .entered | .informed _ => false
  | .decided decision | .reported decision | .asleep decision | .ready decision _ =>
    decision.isIdle
  | .leaving counted | .finished counted => counted

/-- Whether a new threshold has taken effect by now. -/
def RetuneStage.tookEffect : RetuneStage → Bool
  | .waiting | .entered | .stored | .zeroed => false
  | .cleared | .finished => true

namespace Task

def tookEffect : Task → Bool
  | .attempt _ stage => stage.tookEffect
  | .retune _ stage => stage.tookEffect

/-- What a move does to the ledger: nothing, or what the operation does, which then has happened
for good. -/
theorem advance_cases {coordinator next : Coordinator} {ended : WaitEnd} {task later : Task}
    (hproper : coordinator.ledger.Proper) (hsound : task.Sound)
    (h : task.advance coordinator ended = some (next, later)) :
    (later.tookEffect = task.tookEffect ∧ next.ledger = coordinator.ledger)
      ∨ (task.tookEffect = false ∧ later.tookEffect = true
        ∧ next.ledger = task.operation.edit coordinator.ledger) := by
  cases htask : task with
  | attempt event stage =>
    obtain ⟨reached, rfl, hstage⟩ := advance_attempt htask h
    subst htask
    have hledger := ledger_advance_attempt hstage
    cases stage with
    | informed limits =>
      have hquiet : reached = .leaving false ∨ ∃ decision,
          Verdict.judge limits coordinator.ledger event = .counted decision
            ∧ (attempt event reached).tookEffect = decision.isIdle := by
        rw [AttemptStage.advance] at hstage
        split at hstage
        · cases hstage
          exact Or.inl rfl
        · cases hstage
          exact Or.inl rfl
        · next decision hjudge =>
          refine Or.inr ⟨decision, hjudge, ?_⟩
          cases hstage
          split <;> rfl
      rcases hquiet with rfl | ⟨decision, hjudge, htook⟩
      · exact Or.inl ⟨rfl, hledger⟩
      · obtain ⟨key, hkey, rfl⟩ := Verdict.of_judge_eq_counted hjudge
        rw [htook]
        by_cases hidle :
            (Decision.made limits event key (coordinator.ledger.count key)).isIdle = true
        · refine Or.inr ⟨rfl, hidle, hledger.trans ?_⟩
          exact (Operation.edit_of_isIdle hkey hproper hidle).symm
        · exact Or.inl ⟨Bool.not_eq_true _ ▸ hidle, hledger⟩
    | ready decision how =>
      obtain ⟨limits, key, failures, hkey, rfl⟩ := hsound decision rfl
      cases hstage
      by_cases hidle : (Decision.made limits event key failures).isIdle = true
      · exact Or.inl ⟨hidle.symm, hledger.trans (Decision.apply_of_isIdle hidle _)⟩
      · exact Or.inr ⟨Bool.not_eq_true _ ▸ hidle, rfl,
          hledger.trans (Decision.apply_of_not_isIdle hkey hidle _)⟩
    | entered =>
      obtain ⟨found, -, heq⟩ := Option.map_eq_some_iff.mp hstage
      cases heq
      exact Or.inl ⟨rfl, hledger⟩
    | finished counted => exact absurd hstage (by simp [AttemptStage.advance])
    | waiting | decided | reported | asleep | leaving =>
      cases hstage
      exact Or.inl ⟨rfl, hledger⟩
  | retune threshold stage =>
    obtain ⟨reached, rfl, hstage⟩ := advance_retune htask h
    have hledger := ledger_advance_retune hstage
    cases stage with
    | zeroed =>
      cases hstage
      exact Or.inr ⟨rfl, rfl, hledger⟩
    | entered =>
      obtain ⟨found, -, heq⟩ := Option.map_eq_some_iff.mp hstage
      cases heq
      exact Or.inl ⟨rfl, hledger⟩
    | finished => exact absurd hstage (by simp [RetuneStage.advance])
    | waiting | stored | cleared =>
      cases hstage
      exact Or.inl ⟨rfl, hledger⟩

end Task

namespace Interleaving

/-! ### The order of effects -/

def tookEffect (interleaving : Interleaving) (number : Nat) : Bool :=
  interleaving.tasks[number]?.any Task.tookEffect

/-- The tasks that take effect in the course of some moves, in the order in which they do. -/
def effects (interleaving : Interleaving) : List Move → List Nat
  | [] => []
  | move :: rest =>
    match interleaving.step move with
    | none => []
    | some next =>
      (if next.tookEffect move.task && !interleaving.tookEffect move.task then [move.task] else [])
        ++ next.effects rest

/-- One more move adds at most the task that makes it. -/
theorem effects_snoc (interleaving : Interleaving) (moves : List Move) (move : Move) :
    interleaving.effects (moves ++ [move]) = interleaving.effects moves
      ∨ interleaving.effects (moves ++ [move]) = interleaving.effects moves ++ [move.task] := by
  induction moves generalizing interleaving with
  | nil =>
    rw [List.nil_append, effects, effects]
    cases interleaving.step move with
    | none => exact Or.inl rfl
    | some next =>
      by_cases heffect : (next.tookEffect move.task && !interleaving.tookEffect move.task) = true
      · simp only [if_pos heffect]
        exact Or.inr rfl
      · simp only [if_neg heffect]
        exact Or.inl rfl
  | cons first rest ih =>
    rw [List.cons_append, effects, effects]
    cases interleaving.step first with
    | none => exact Or.inl rfl
    | some next =>
      rcases ih next with heq | heq
      · exact Or.inl (by simp only [heq])
      · exact Or.inr (by simp only [heq, List.append_assoc])

theorem run_append (interleaving : Interleaving) (earlier later : List Move) :
    interleaving.run (earlier ++ later) = (interleaving.run earlier).bind (·.run later) := by
  induction earlier generalizing interleaving with
  | nil => rfl
  | cons move rest ih =>
    rw [List.cons_append, run, run]
    cases interleaving.step move with
    | none => rfl
    | some next => exact ih next

/-! ### Linearization -/

/-- The ledger is what the operations that have taken effect make of a first one, in the order in
which they have; each has done so once. -/
structure Linearized (operations : List Operation) (base : Ledger) (effects : List Nat)
    (interleaving : Interleaving) : Prop where
  tasks : ∀ (number : Nat) (task : Task), interleaving.tasks[number]? = some task →
    operations[number]? = some task.operation
  ledger : interleaving.coordinator.ledger = Operation.replay operations effects base
  once : effects.Nodup
  taken : ∀ number, number ∈ effects ↔ interleaving.tookEffect number = true

theorem linearized_start (coordinator : Coordinator) (operations : List Operation) :
    Linearized operations coordinator.ledger [] (start coordinator operations) where
  tasks number task hnumber := by
    obtain ⟨operation, hoperation, rfl⟩ := getElem?_start hnumber
    rw [Task.operation_ofOperation]
    exact hoperation
  ledger := rfl
  once := List.nodup_nil
  taken number := by
    refine iff_of_false List.not_mem_nil ?_
    rw [tookEffect, Option.any_eq_true]
    rintro ⟨task, hnumber, htook⟩
    obtain ⟨operation, -, rfl⟩ := getElem?_start hnumber
    cases operation <;> exact absurd htook Bool.false_ne_true

section Step

variable {operations : List Operation} {base : Ledger} {effects : List Nat}
  {interleaving next : Interleaving} {move : Move}

theorem Linearized.step (h : Linearized operations base effects interleaving)
    (horderly : interleaving.Orderly) (hstep : interleaving.step move = some next) :
    Linearized operations base
      (effects ++
        if next.tookEffect move.task && !interleaving.tookEffect move.task then [move.task] else [])
      next := by
  obtain ⟨task, later, htask, hadvance, -, htasks⟩ := step_cases hstep
  have hbefore : interleaving.tookEffect move.task = task.tookEffect := by
    rw [tookEffect, htask]
    rfl
  have hafter : next.tookEffect move.task = later.tookEffect := by
    rw [tookEffect, htasks, getElem?_set_mover htask]
    rfl
  have hothers : ∀ number, number ≠ move.task →
      next.tookEffect number = interleaving.tookEffect number := by
    intro number hne
    rw [tookEffect, tookEffect, htasks, List.getElem?_set_ne (Ne.symm hne)]
  have hoperations : ∀ (number : Nat) (moved : Task), next.tasks[number]? = some moved →
      operations[number]? = some moved.operation := by
    intro number moved hnumber
    rw [htasks] at hnumber
    rcases getElem?_set_cases hnumber with ⟨rfl, rfl⟩ | ⟨-, hmoved⟩
    · rw [Task.operation_advance hadvance]
      exact h.tasks move.task task htask
    · exact h.tasks number moved hmoved
  rcases Task.advance_cases horderly.ledger (horderly.sound move.task task htask) hadvance with
    ⟨hsame, hledger⟩ | ⟨hnot, htook, hledger⟩
  · -- Nothing happens that shows.
    have hquiet : (next.tookEffect move.task && !interleaving.tookEffect move.task) = false := by
      rw [hafter, hbefore, hsame, Bool.and_not_self]
    rw [hquiet, if_neg Bool.false_ne_true, List.append_nil]
    refine ⟨hoperations, hledger.trans h.ledger, h.once, fun number ↦ ?_⟩
    rw [h.taken]
    by_cases hnumber : number = move.task
    · rw [hnumber, hafter, hbefore, hsame]
    · rw [hothers number hnumber]
  · -- The operation takes effect, which it has not done before.
    have heffect : (next.tookEffect move.task && !interleaving.tookEffect move.task) = true := by
      rw [hafter, hbefore, htook, hnot]
      rfl
    have hnew : move.task ∉ effects := by
      rw [h.taken, hbefore, hnot]
      exact Bool.false_ne_true
    rw [heffect, if_pos rfl]
    refine ⟨hoperations, ?_, ?_, fun number ↦ ?_⟩
    · rw [hledger, h.ledger, Operation.replay_snoc (h.tasks move.task task htask)]
    · exact List.concat_eq_append ▸ h.once.concat hnew
    · rw [List.mem_append, List.mem_singleton, h.taken]
      by_cases hnumber : number = move.task
      · rw [hnumber, hafter, htook]
        exact iff_of_true (Or.inr rfl) rfl
      · rw [hothers number hnumber]
        exact or_iff_left hnumber

end Step

theorem Linearized.run {operations : List Operation} {base : Ledger} {earlier : List Nat}
    {interleaving final : Interleaving} (h : Linearized operations base earlier interleaving)
    (horderly : interleaving.Orderly) {moves : List Move}
    (hrun : interleaving.run moves = some final) :
    Linearized operations base (earlier ++ interleaving.effects moves) final := by
  induction moves generalizing interleaving earlier with
  | nil =>
    cases hrun
    rw [Interleaving.effects, List.append_nil]
    exact h
  | cons move rest ih =>
    obtain ⟨next, hstep, hrest⟩ := Option.bind_eq_some_iff.mp hrun
    rw [Interleaving.effects, hstep]
    simp only [← List.append_assoc]
    exact ih (h.step horderly hstep) (horderly.step hstep) hrest

theorem Linearized.exists_effects {operations : List Operation} {base : Ledger}
    {initial final : Interleaving} (h : Linearized operations base [] initial)
    (horderly : initial.Orderly) {moves : List Move} (hrun : initial.run moves = some final) :
    ∃ effects : Nat → List Nat,
      effects 0 = []
        ∧ (∀ n, effects (n + 1) = effects n
          ∨ ∃ move, moves[n]? = some move ∧ effects (n + 1) = effects n ++ [move.task])
        ∧ ∀ n, ∃ reached, initial.run (moves.take n) = some reached
          ∧ Linearized operations base (effects n) reached := by
  refine ⟨fun n ↦ initial.effects (moves.take n), rfl, fun n ↦ ?_, fun n ↦ ?_⟩
  · simp only [List.take_add_one]
    cases hmove : moves[n]? with
    | none => exact Or.inl (by simp)
    | some move =>
      rcases initial.effects_snoc (moves.take n) move with heq | heq
      · exact Or.inl heq
      · exact Or.inr ⟨move, rfl, heq⟩
  · rw [← List.take_append_drop n moves, run_append] at hrun
    obtain ⟨reached, hreached, -⟩ := Option.bind_eq_some_iff.mp hrun
    exact ⟨reached, hreached, h.run horderly hreached⟩

/-- Attempts and new thresholds on a component that has been in use may come in any number and
overtake one another in any way that the lock allows. After any number of moves the ledger is what
the operations that have taken effect would have made of it one at a time; each of them has done so
once, by a move of its own. -/
theorem run_linearized {σ : Type} {host : Host σ} {settings : Settings} {state : σ}
    {component : Component} (loaded : (Component.load host settings state).result = .ok component)
    (calls : List Component.Call) (operations : List Operation) {moves : List Move}
    {final : Interleaving}
    (hrun : (start (component.run calls).coordinator operations).run moves = some final) :
    ∃ effects : Nat → List Nat,
      effects 0 = []
        ∧ (∀ n, effects (n + 1) = effects n
          ∨ ∃ move, moves[n]? = some move ∧ effects (n + 1) = effects n ++ [move.task])
        ∧ ∀ n, ∃ reached,
          (start (component.run calls).coordinator operations).run (moves.take n) = some reached
            ∧ Linearized operations (component.run calls).ledger (effects n) reached := by
  obtain ⟨-, rfl⟩ := Component.eq_fresh_of_load loaded
  have hservice := (Component.inService_fresh settings).run calls
  exact (linearized_start _ operations).exists_effects
    (orderly_start hservice.policy hservice.ledger operations) hrun

/-- A success that found no failures ends after a failure that began after its look at the count,
and the failure stays in the ledger. -/
theorem run_linearized_root :
    let settings := Settings.standard
    let attempt (outcome : Outcome) : Operation :=
      .attempt ⟨.connect, outcome, some (.ofLogin "root" "localhost")⟩
    let operations := [attempt .success, attempt .failure]
    let moves : List Move := ([0, 0, 0, 1, 1, 1, 1, 0, 0, 1] : List Nat).map (⟨·, .elapsed⟩)
    let initial := start (Component.fresh settings).coordinator operations
    (Component.load Registry.host settings .empty).result = .ok (Component.fresh settings)
      ∧ (initial.run moves).map (·.coordinator.ledger.rows) = some [⟨"'root'@'localhost'", 1⟩]
      ∧ ∃ final, initial.run moves = some final
        ∧ ∃ effects : Nat → List Nat, effects 0 = []
          ∧ ∀ n, ∃ reached, initial.run (moves.take n) = some reached
            ∧ Linearized operations (Component.fresh settings).ledger (effects n) reached := by
  intro settings attempt operations moves initial
  have loaded : (Component.load Registry.host settings .empty).result =
      .ok (Component.fresh settings) :=
    Component.load_registry (settings.valid_iff.mpr (by decide))
  have hrows : (initial.run moves).map (·.coordinator.ledger.rows) =
      some [⟨"'root'@'localhost'", 1⟩] := by decide +kernel
  obtain ⟨final, hrun, -⟩ := Option.map_eq_some_iff.mp hrows
  obtain ⟨effects, hnone, -, hlinearized⟩ := run_linearized loaded [] operations hrun
  exact ⟨loaded, hrows, final, hrun, effects, hnone, hlinearized⟩

end Interleaving

end LoginThrottle
