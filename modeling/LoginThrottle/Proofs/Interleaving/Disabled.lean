import LoginThrottle.Proofs.Component.Run
import LoginThrottle.Proofs.Interleaving.Linearization

/-!
What is recorded while the policy is switched off. An attempt that comes then is ignored, and a
threshold of zero starts everything afresh like any other. But an attempt that was being held back
at that moment has been decided on before, and its outcome is not lost: it is applied when the wait
ends. `run_recorded_while_disabled` is such a run, and `run_disabled` says that there is nothing
else: no delay is counted, and the ledger is what the attempts that were held back when the
threshold was last set have made of the empty one, one after another as their moves came
(`settlements`). The order matters, as `run_disabled_crossed` shows with a failure and a success of
one account.
-/

set_option autoImplicit false
set_option relaxedAutoImplicit false

namespace LoginThrottle

/-! ### Before anything is interleaved -/

theorem Settings.threshold_adjusted {setting : Setting} (h : setting ≠ .threshold)
    (limits : Settings) (value : Int64) :
    (limits.adjusted setting value).threshold = limits.threshold := by
  cases hcheck : limits.check setting value with
  | error fault => rw [adjusted_of_refused h hcheck]
  | ok accepted =>
    rw [adjusted_of_accepted h hcheck]
    cases setting with
    | threshold => exact absurd rfl h
    | minDelay | maxDelay => rfl

namespace Component

variable {component : Component}

/-- Nothing is recorded unless the policy is on. -/
def Blank (component : Component) : Prop :=
  component.limits.isDisabled = true → component.ledger = .empty ∧ component.generated = 0

theorem Blank.perform (h : component.Blank) (hservice : component.InService) (call : Call) :
    (component.perform call).Blank := by
  intro hdisabled
  rcases component.perform_cases call with ⟨event, ended, rfl⟩ |
    ⟨-, ⟨setting, value, -, heq, -⟩ | ⟨-, heq, -⟩⟩
  · obtain ⟨-, hlimits⟩ := hservice.notify event ended
    have hoff : component.limits.isDisabled = true := hlimits ▸ hdisabled
    have hkey : component.limits.counted? event = none := by
      rw [Settings.counted?, hoff]
      simp
    obtain ⟨hledger, hgenerated, -⟩ := hservice.notify_of_not_counted hkey ended
    obtain ⟨hempty, hzero⟩ := h hoff
    exact ⟨hledger.trans hempty, hgenerated.trans hzero⟩
  · obtain ⟨hledger, hgenerated⟩ := hservice.ledger_commit setting value
    rw [heq] at hdisabled ⊢
    rw [hledger, hgenerated]
    by_cases hsetting : setting = .threshold
    · rw [if_pos hsetting, if_pos hsetting]
      exact ⟨rfl, rfl⟩
    · rw [if_neg hsetting, if_neg hsetting]
      refine h ?_
      rw [Settings.isDisabled, (hservice.commit setting value).2,
        Settings.threshold_adjusted hsetting] at hdisabled
      exact hdisabled
  · rw [heq] at hdisabled ⊢
    exact h hdisabled

theorem Blank.run (h : component.Blank) (hservice : component.InService) (calls : List Call) :
    (component.run calls).Blank := by
  induction calls generalizing component with
  | nil => exact h
  | cons call rest ih => exact ih (h.perform hservice call) (hservice.perform call)

theorem blank_fresh (settings : Settings) : (fresh settings).Blank :=
  fun _ ↦ ⟨rfl, rfl⟩

end Component

/-! ### One move while the policy is off -/

namespace Task

/-- The decision of an attempt that is being held back. -/
def asleep? : Task → Option Decision
  | .attempt _ (.asleep decision) => some decision
  | _ => none

/-- The decision whose outcome has not been applied yet. -/
def decision? : Task → Option Decision
  | .attempt _ stage => stage.decision?
  | .retune _ _ => none

/-- An attempt that has to be held back and has not counted its delay yet. -/
def isUncounted : Task → Bool
  | .attempt _ (.decided _) => true
  | _ => false

/-- An attempt whose next move applies its outcome. -/
def isReady : Task → Bool
  | .attempt _ (.ready _ _) => true
  | _ => false

/-- A new threshold that has been stored and has not emptied the ledger yet. -/
def isRestarting : Task → Bool
  | .retune _ .stored | .retune _ .zeroed => true
  | _ => false

/-- While the policy is off all that is left to do is to apply what was decided before. -/
theorem advance_of_disabled {coordinator next : Coordinator} {limits : Settings} {ended : WaitEnd}
    {task later : Task} (hpolicy : coordinator.RunsPolicy limits)
    (hdisabled : limits.isDisabled = true)
    (hinformed : ∀ event found, task = .attempt event (.informed found) → found = limits)
    (hcounted : task.isUncounted = false) (hbefore : task.isRestarting = false)
    (hafter : later.isRestarting = false)
    (h : task.advance coordinator ended = some (next, later)) :
    next.RunsPolicy limits ∧ next.generated = coordinator.generated ∧ later.isUncounted = false
      ∧ (task.isReady = false ∧ next.ledger = coordinator.ledger
          ∧ later.decision? = task.decision?
        ∨ task.isReady = true ∧ ∃ decision, task.decision? = some decision
          ∧ later.decision? = none ∧ next.ledger = decision.apply coordinator.ledger) := by
  cases htask : task with
  | attempt event stage =>
    obtain ⟨reached, rfl, hstage⟩ := advance_attempt htask h
    subst htask
    have hundecided : ∀ decision, stage ≠ .decided decision := by
      rintro decision rfl
      exact Bool.false_ne_true hcounted.symm
    have hledger := ledger_advance_attempt hstage
    refine ⟨runsPolicy_advance_attempt hpolicy hstage, generated_advance_attempt hundecided hstage,
      ?_⟩
    cases stage with
    | informed found =>
      obtain rfl := hinformed event found rfl
      rw [AttemptStage.advance, Verdict.judge, hdisabled, Bool.or_true, if_pos rfl] at hstage
      cases hstage
      exact ⟨rfl, Or.inl ⟨rfl, rfl, rfl⟩⟩
    | ready decision how =>
      cases hstage
      exact ⟨rfl, Or.inr ⟨rfl, decision, rfl, rfl, hledger⟩⟩
    | entered =>
      obtain ⟨found, -, heq⟩ := Option.map_eq_some_iff.mp hstage
      cases heq
      exact ⟨rfl, Or.inl ⟨rfl, hledger, rfl⟩⟩
    | decided decision => exact absurd rfl (hundecided decision)
    | finished counted => exact absurd hstage (by simp [AttemptStage.advance])
    | waiting | reported | asleep | leaving =>
      cases hstage
      exact ⟨rfl, Or.inl ⟨rfl, hledger, rfl⟩⟩
  | retune threshold stage =>
    obtain ⟨reached, rfl, hstage⟩ := advance_retune htask h
    subst htask
    cases stage with
    | stored | zeroed => exact absurd hbefore.symm Bool.false_ne_true
    | entered =>
      obtain ⟨found, -, heq⟩ := Option.map_eq_some_iff.mp hstage
      cases heq
      exact absurd hafter.symm Bool.false_ne_true
    | finished => exact absurd hstage (by simp [RetuneStage.advance])
    | waiting | cleared =>
      cases hstage
      exact ⟨hpolicy, rfl, rfl, Or.inl ⟨rfl, rfl, rfl⟩⟩

/-- Whoever leaves the lock to another that has it alone does not touch the counter. -/
theorem generated_advance_of_free {coordinator next : Coordinator} {ended : WaitEnd}
    {task later : Task} (hfree : task.hold = .free)
    (h : task.advance coordinator ended = some (next, later)) :
    next.generated = coordinator.generated := by
  cases htask : task with
  | attempt event stage =>
    obtain ⟨reached, -, hstage⟩ := advance_attempt htask h
    subst htask
    refine generated_advance_attempt ?_ hstage
    rintro decision rfl
    cases hfree
  | retune threshold stage =>
    obtain ⟨reached, -, hstage⟩ := advance_retune htask h
    subst htask
    rw [generated_advance_retune hstage, if_neg]
    rintro rfl
    cases hfree

/-- A new threshold that is about to empty the ledger has just set the counter back. -/
theorem generated_of_zeroed {coordinator next : Coordinator} {ended : WaitEnd} {task : Task}
    {threshold : Int64}
    (h : task.advance coordinator ended = some (next, .retune threshold .zeroed)) :
    next.generated = 0 := by
  cases htask : task with
  | attempt event stage =>
    obtain ⟨reached, heq, -⟩ := advance_attempt htask h
    exact absurd heq (by simp)
  | retune value stage =>
    obtain ⟨reached, heq, hstage⟩ := advance_retune htask h
    obtain ⟨rfl, rfl⟩ := Task.retune.inj heq
    cases stage with
    | stored =>
      cases hstage
      rfl
    | entered =>
      obtain ⟨found, -, heq⟩ := Option.map_eq_some_iff.mp hstage
      cases heq
    | waiting | zeroed | cleared | finished => cases hstage

/-- A restart ends by emptying the ledger. -/
theorem zeroed_of_isRestarting {coordinator next : Coordinator} {ended : WaitEnd}
    {task later : Task} (hbefore : task.isRestarting = true) (hafter : later.isRestarting = false)
    (h : task.advance coordinator ended = some (next, later)) :
    ∃ threshold, task = .retune threshold .zeroed := by
  cases htask : task with
  | attempt event stage =>
    rw [htask] at hbefore
    cases hbefore
  | retune threshold stage =>
    obtain ⟨reached, rfl, hstage⟩ := advance_retune htask h
    cases stage with
    | zeroed => exact ⟨threshold, rfl⟩
    | stored =>
      cases hstage
      cases hafter
    | waiting | entered | cleared | finished =>
      rw [htask] at hbefore
      cases hbefore

/-- Whatever does not begin a restart leaves the limits alone. -/
theorem runsPolicy_of_not_isRestarting {coordinator next : Coordinator} {limits : Settings}
    {ended : WaitEnd} {task later : Task} (hpolicy : coordinator.RunsPolicy limits)
    (hafter : later.isRestarting = false)
    (h : task.advance coordinator ended = some (next, later)) : next.RunsPolicy limits := by
  cases htask : task with
  | attempt event stage =>
    obtain ⟨reached, -, hstage⟩ := advance_attempt htask h
    exact runsPolicy_advance_attempt hpolicy hstage
  | retune threshold stage =>
    obtain ⟨reached, rfl, hstage⟩ := advance_retune htask h
    have hstored : stage ≠ .entered := by
      rintro rfl
      obtain ⟨found, -, heq⟩ := Option.map_eq_some_iff.mp hstage
      cases heq
      cases hafter
    have hkept := runsPolicy_advance_retune hpolicy hstage
    rw [if_neg hstored] at hkept
    exact hkept

end Task

namespace Interleaving

/-! ### The counter starts from zero again -/

/-- While a new threshold is about to empty the ledger, the counter stands at zero. -/
def Zeroed (interleaving : Interleaving) : Prop :=
  ∀ (number : Nat) (threshold : Int64),
    interleaving.tasks[number]? = some (.retune threshold .zeroed) →
      interleaving.coordinator.generated = 0

theorem zeroed_start (coordinator : Coordinator) (operations : List Operation) :
    (start coordinator operations).Zeroed := by
  intro number threshold hnumber
  obtain ⟨operation, -, heq⟩ := getElem?_start hnumber
  cases operation <;> exact absurd heq (by simp [Task.ofOperation])

theorem Zeroed.step {interleaving next : Interleaving} (h : interleaving.Zeroed)
    (horderly : interleaving.Orderly) {move : Move} (hstep : interleaving.step move = some next) :
    next.Zeroed := by
  obtain ⟨task, later, htask, hadvance, -, htasks⟩ := step_cases hstep
  intro number threshold hnumber
  rw [htasks] at hnumber
  rcases getElem?_set_cases hnumber with ⟨-, rfl⟩ | ⟨hother, hzeroed⟩
  · exact Task.generated_of_zeroed hadvance
  · have hallowed := horderly.excluding number move.task _ task hother hzeroed htask
    have hfree : task.hold = .free := by
      cases hhold : task.hold with
      | free => rfl
      | shared | alone =>
        rw [hhold] at hallowed
        exact absurd hallowed (by simp [Task.hold, RetuneStage.hold, Hold.allows])
    exact (Task.generated_advance_of_free hfree hadvance).trans (h number threshold hzeroed)

/-! ### Attempts that were held back -/

def asleep? (interleaving : Interleaving) (number : Nat) : Option Decision :=
  interleaving.tasks[number]?.bind Task.asleep?

def decision? (interleaving : Interleaving) (number : Nat) : Option Decision :=
  interleaving.tasks[number]?.bind Task.decision?

theorem decision?_of_getElem? {interleaving : Interleaving} {number : Nat} {task : Task}
    (h : interleaving.tasks[number]? = some task) :
    interleaving.decision? number = task.decision? := by
  rw [decision?, h]
  rfl

/-- What the attempts of these numbers, which are held back here, make of the empty ledger when
their outcomes are applied one after another. -/
def outcomes (interleaving : Interleaving) (numbers : List Nat) : Ledger :=
  (numbers.filterMap interleaving.asleep?).foldl (fun ledger decision ↦ decision.apply ledger)
    .empty

theorem outcomes_snoc {interleaving : Interleaving} {number : Nat} {decision : Decision}
    (h : interleaving.asleep? number = some decision) (numbers : List Nat) :
    interleaving.outcomes (numbers ++ [number]) =
      decision.apply (interleaving.outcomes numbers) := by
  rw [outcomes, List.filterMap_append, List.foldl_append, List.filterMap_cons, h]
  rfl

def isOff (interleaving : Interleaving) : Bool :=
  interleaving.coordinator.delayLimits.any (·.isDisabled)

theorem isOff_iff {interleaving : Interleaving} {limits : Settings}
    (h : interleaving.coordinator.RunsPolicy limits) :
    interleaving.isOff = true ↔ limits.isDisabled = true := by
  rw [isOff, h.delayLimits, List.any_cons, List.any_nil, Bool.or_false]

/-- Whether the next move of this task applies an outcome. -/
def settles (interleaving : Interleaving) (number : Nat) : Bool :=
  interleaving.tasks[number]?.any Task.isReady

/-- The attempts that apply their outcomes in the course of some moves, in the order in which they
do. -/
def settlements (interleaving : Interleaving) : List Move → List Nat
  | [] => []
  | move :: rest =>
    match interleaving.step move with
    | none => []
    | some next =>
      (if interleaving.settles move.task then [move.task] else []) ++ next.settlements rest

theorem settlements_snoc {interleaving reached next : Interleaving} {moves : List Move}
    {move : Move} (hrun : interleaving.run moves = some reached)
    (hstep : reached.step move = some next) :
    interleaving.settlements (moves ++ [move]) =
      interleaving.settlements moves
        ++ if reached.settles move.task then [move.task] else [] := by
  induction moves generalizing interleaving with
  | nil =>
    cases hrun
    simp only [List.nil_append, settlements, hstep, List.append_nil]
  | cons first rest ih =>
    obtain ⟨middle, hmiddle, hrest⟩ := Option.bind_eq_some_iff.mp hrun
    rw [List.cons_append, settlements, settlements, hmiddle]
    simp only [ih hrest, List.append_assoc]

/-- The policy is off, and since `base` nothing has been recorded but the outcomes of attempts that
were held back there. Those that have not been applied yet are the only ones to come. -/
structure Dormant (base : Interleaving) (settled : List Nat) (interleaving : Interleaving) :
    Prop where
  disabled : interleaving.isOff = true
  generated : interleaving.coordinator.generated = 0
  counted : ∀ task ∈ interleaving.tasks, task.isUncounted = false
  ledger : interleaving.coordinator.ledger = base.outcomes settled
  once : settled.Nodup
  origin : ∀ number ∈ settled, (base.asleep? number).isSome = true
  pending : ∀ number, interleaving.decision? number =
    if number ∈ settled then none else base.asleep? number

/-- Where nothing has been recorded, and whoever has been decided on is held back, the policy can
begin to be dormant. -/
theorem dormant_self {base : Interleaving} (hdisabled : base.isOff = true)
    (hgenerated : base.coordinator.generated = 0) (hledger : base.coordinator.ledger = .empty)
    (hheld : ∀ (number : Nat) (task : Task), base.tasks[number]? = some task →
      task.decision? = task.asleep? ∧ task.isUncounted = false) : Dormant base [] base where
  disabled := hdisabled
  generated := hgenerated
  counted task htask := by
    obtain ⟨number, hnumber⟩ := List.mem_iff_getElem?.mp htask
    exact (hheld number task hnumber).2
  ledger := hledger
  once := List.nodup_nil
  origin number hnumber := absurd hnumber List.not_mem_nil
  pending number := by
    rw [if_neg List.not_mem_nil, decision?, asleep?]
    cases hnumber : base.tasks[number]? with
    | none => rfl
    | some task => exact (hheld number task hnumber).1

theorem Dormant.ledger_eq_empty {base interleaving : Interleaving} {settled : List Nat}
    (h : Dormant base settled interleaving) (hnone : ∀ number, base.asleep? number = none) :
    interleaving.coordinator.ledger = .empty := by
  have hsettled : settled = [] := by
    refine List.eq_nil_iff_forall_not_mem.mpr fun number hnumber ↦ ?_
    have hasleep := h.origin number hnumber
    rw [hnone number] at hasleep
    cases hasleep
  rw [h.ledger, hsettled]
  rfl

section Step

variable {base interleaving next : Interleaving} {settled : List Nat} {move : Move}

theorem Dormant.step (h : Dormant base settled interleaving) (horderly : interleaving.Orderly)
    (hbefore : ∀ task ∈ interleaving.tasks, task.isRestarting = false)
    (hafter : ∀ task ∈ next.tasks, task.isRestarting = false)
    (hstep : interleaving.step move = some next) :
    Dormant base (settled ++ if interleaving.settles move.task then [move.task] else []) next := by
  obtain ⟨task, later, htask, hadvance, -, htasks⟩ := step_cases hstep
  obtain ⟨limits, hpolicy⟩ := horderly.policy
  have hdisabled := (isOff_iff hpolicy).mp h.disabled
  have hmover : next.tasks[move.task]? = some later := by
    rw [htasks, getElem?_set_mover htask]
  have hinformed : ∀ event found, task = .attempt event (.informed found) → found = limits := by
    rintro event found rfl
    exact (horderly.informed move.task event found htask).limits_eq hpolicy
  obtain ⟨hkept, hgenerated, hlater, hledger⟩ := Task.advance_of_disabled hpolicy hdisabled
    hinformed (h.counted task (List.mem_of_getElem? htask))
    (hbefore task (List.mem_of_getElem? htask)) (hafter later (List.mem_of_getElem? hmover))
    hadvance
  have hcounted : ∀ moved ∈ next.tasks, moved.isUncounted = false := by
    intro moved hmoved
    rw [htasks] at hmoved
    rcases List.mem_or_eq_of_mem_set hmoved with hold | rfl
    · exact h.counted moved hold
    · exact hlater
  have hothers : ∀ number, number ≠ move.task →
      next.decision? number = interleaving.decision? number := by
    intro number hne
    rw [decision?, decision?, htasks, List.getElem?_set_ne (Ne.symm hne)]
  have hwas := decision?_of_getElem? htask
  have his := decision?_of_getElem? hmover
  have hsettles : interleaving.settles move.task = task.isReady := by
    rw [settles, htask]
    rfl
  have hoff := (isOff_iff hkept).mpr hdisabled
  rw [hsettles]
  rcases hledger with ⟨hready, hledger, hsame⟩ | ⟨hready, decision, hdecision, hnone, hledger⟩
  · rw [hready, if_neg Bool.false_ne_true, List.append_nil]
    refine ⟨hoff, hgenerated.trans h.generated, hcounted, hledger.trans h.ledger, h.once,
      h.origin, fun number ↦ ?_⟩
    rw [← h.pending number]
    by_cases hnumber : number = move.task
    · rw [hnumber, his, hsame, hwas]
    · exact hothers number hnumber
  · -- The mover was held back at the base, and its outcome has not been applied before.
    have hpending := h.pending move.task
    rw [hwas, hdecision] at hpending
    have hnew : move.task ∉ settled := by
      intro hmem
      rw [if_pos hmem] at hpending
      cases hpending
    rw [if_neg hnew] at hpending
    rw [hready, if_pos rfl]
    refine ⟨hoff, hgenerated.trans h.generated, hcounted, ?_, ?_, ?_, ?_⟩
    · rw [hledger, h.ledger, outcomes_snoc hpending.symm]
    · exact List.concat_eq_append ▸ h.once.concat hnew
    · intro number hnumber
      rcases List.mem_append.mp hnumber with hold | hnumber
      · exact h.origin number hold
      · rw [List.mem_singleton.mp hnumber, ← hpending]
        rfl
    · intro number
      by_cases hnumber : number = move.task
      · rw [hnumber, his, hnone, if_pos (List.mem_append_right _ (List.mem_singleton.mpr rfl))]
      · rw [hothers number hnumber, h.pending number]
        simp only [List.mem_append, List.mem_singleton, hnumber, or_false]

/-- While a task has the lock alone, whoever has been decided on is held back. -/
theorem Orderly.decision?_eq_asleep? (h : interleaving.Orderly) {alone : Nat} {task : Task}
    (htask : interleaving.tasks[alone]? = some task) (halone : task.hold = .alone) {other : Nat}
    {moved : Task} (hother : interleaving.tasks[other]? = some moved) (hne : other ≠ alone) :
    moved.decision? = moved.asleep? ∧ moved.isUncounted = false := by
  have hallowed := h.excluding alone other task moved (Ne.symm hne) htask hother
  rw [halone] at hallowed
  cases moved with
  | retune threshold stage => exact ⟨rfl, rfl⟩
  | attempt event stage =>
    cases stage with
    | decided | reported | ready =>
      exact absurd hallowed (by simp [Task.hold, AttemptStage.hold, Hold.allows])
    | waiting | entered | informed | asleep | leaving | finished => exact ⟨rfl, rfl⟩

/-- A new threshold that switches the policy off leaves only those who are held back. -/
theorem dormant_of_cleared (horderly : interleaving.Orderly) (hzeroed : interleaving.Zeroed)
    {threshold : Int64}
    (htask : interleaving.tasks[move.task]? = some (.retune threshold .zeroed))
    (hstep : interleaving.step move = some next)
    (hdisabled : next.isOff = true) :
    Dormant next [] next ∧ .retune threshold .cleared ∈ next.tasks := by
  obtain ⟨task, later, hfound, hadvance, -, htasks⟩ := step_cases hstep
  obtain rfl := Option.some.inj (htask.symm.trans hfound)
  obtain ⟨reached, rfl, hstage⟩ := Task.advance_retune rfl hadvance
  obtain ⟨hcoordinator, rfl⟩ := Prod.mk.inj (Option.some.inj hstage)
  have hmover : next.tasks[move.task]? = some (.retune threshold .cleared) := by
    rw [htasks, getElem?_set_mover htask]
  have hheld : ∀ (number : Nat) (moved : Task), next.tasks[number]? = some moved →
      moved.decision? = moved.asleep? ∧ moved.isUncounted = false := by
    intro number moved hnumber
    rw [htasks] at hnumber
    rcases getElem?_set_cases hnumber with ⟨-, rfl⟩ | ⟨hne, hmoved⟩
    · exact ⟨rfl, rfl⟩
    · exact horderly.decision?_eq_asleep? htask rfl hmoved hne
  have hgenerated : next.coordinator.generated = 0 := by
    rw [← hcoordinator]
    exact hzeroed move.task threshold htask
  have hledger : next.coordinator.ledger = .empty := by
    rw [← hcoordinator]
  exact ⟨dormant_self hdisabled hgenerated hledger hheld, List.mem_of_getElem? hmover⟩

/-- A restart that ends with this move ends by emptying the ledger. -/
theorem exists_zeroed (hbefore : ¬∀ task ∈ interleaving.tasks, task.isRestarting = false)
    (hafter : ∀ task ∈ next.tasks, task.isRestarting = false)
    (hstep : interleaving.step move = some next) :
    ∃ threshold, interleaving.tasks[move.task]? = some (.retune threshold .zeroed) := by
  obtain ⟨task, later, htask, hadvance, -, htasks⟩ := step_cases hstep
  have hmover : next.tasks[move.task]? = some later := by
    rw [htasks, getElem?_set_mover htask]
  rw [Classical.not_forall] at hbefore
  obtain ⟨restarting, hrestarting⟩ := hbefore
  rw [Classical.not_imp, Bool.not_eq_false] at hrestarting
  obtain ⟨number, hnumber⟩ := List.mem_iff_getElem?.mp hrestarting.1
  by_cases hother : number = move.task
  · rw [hother, htask] at hnumber
    obtain rfl := Option.some.inj hnumber
    obtain ⟨threshold, rfl⟩ := Task.zeroed_of_isRestarting hrestarting.2
      (hafter later (List.mem_of_getElem? hmover)) hadvance
    exact ⟨threshold, htask⟩
  · have hkept : next.tasks[number]? = some restarting := by
      rw [htasks, List.getElem?_set_ne (Ne.symm hother)]
      exact hnumber
    have hquiet := hafter restarting (List.mem_of_getElem? hkept)
    rw [hrestarting.2] at hquiet
    cases hquiet

/-- A move that is part of no restart is not the one that switches the policy off. -/
theorem isOff_of_step (horderly : interleaving.Orderly)
    (hafter : ∀ task ∈ next.tasks, task.isRestarting = false)
    (hstep : interleaving.step move = some next) (hdisabled : next.isOff = true) :
    interleaving.isOff = true := by
  obtain ⟨task, later, htask, hadvance, -, htasks⟩ := step_cases hstep
  obtain ⟨limits, hpolicy⟩ := horderly.policy
  have hmover : next.tasks[move.task]? = some later := by
    rw [htasks, getElem?_set_mover htask]
  have hkept := Task.runsPolicy_of_not_isRestarting hpolicy
    (hafter later (List.mem_of_getElem? hmover)) hadvance
  exact (isOff_iff hpolicy).mpr ((isOff_iff hkept).mp hdisabled)

end Step

/-! ### Since the policy went off -/

theorem run_snoc (interleaving : Interleaving) (moves : List Move) (move : Move) :
    interleaving.run (moves ++ [move]) = (interleaving.run moves).bind (·.step move) := by
  rw [run_append]
  congr 1
  funext reached
  rw [run]
  exact Option.bind_fun_some _

/-- The policy has been off, and no other threshold has taken effect, since `base`, where nothing
was recorded: that is the beginning, or a new threshold had just emptied the ledger there. What has
been recorded since are the outcomes that the later moves applied, in the order of these moves. -/
structure OffSince (initial : Interleaving) (earlier later : List Move)
    (base final : Interleaving) : Prop where
  reached : initial.run earlier = some base
  run : base.run later = some final
  cleared : earlier = [] ∨ ∃ threshold, .retune threshold .cleared ∈ base.tasks
  ledger : base.coordinator.ledger = .empty
  off : ∀ front, front <+: later → ∃ middle, base.run front = some middle ∧ middle.isOff = true
    ∧ ∀ task ∈ middle.tasks, task.isRestarting = false
  dormant : Dormant base (base.settlements later) final

section Since

variable {initial interleaving next : Interleaving}

theorem OffSince.step {earlier later : List Move} {base : Interleaving}
    (h : OffSince initial earlier later base interleaving) (horderly : interleaving.Orderly)
    (hbefore : ∀ task ∈ interleaving.tasks, task.isRestarting = false)
    (hafter : ∀ task ∈ next.tasks, task.isRestarting = false) {move : Move}
    (hstep : interleaving.step move = some next) :
    OffSince initial earlier (later ++ [move]) base next := by
  have hdormant : Dormant base (base.settlements (later ++ [move])) next := by
    rw [settlements_snoc h.run hstep]
    exact h.dormant.step horderly hbefore hafter hstep
  have hfinal : base.run (later ++ [move]) = some next := by
    rw [run_snoc, h.run]
    exact hstep
  refine ⟨h.reached, hfinal, h.cleared, h.ledger, fun front hfront ↦ ?_, hdormant⟩
  rcases List.prefix_concat_iff.mp hfront with rfl | hfront
  · exact ⟨next, hfinal, hdormant.disabled, hafter⟩
  · exact h.off front hfront

/-- Wherever the policy is off and no new threshold is halfway, it has been off since such a
moment. -/
def Explained (initial : Interleaving) (moves : List Move) (interleaving : Interleaving) : Prop :=
  (∀ task ∈ interleaving.tasks, task.isRestarting = false) → interleaving.isOff = true →
    ∃ earlier later base,
      moves = earlier ++ later ∧ OffSince initial earlier later base interleaving

theorem explained_start {coordinator : Coordinator} {limits : Settings}
    (hpolicy : coordinator.RunsPolicy limits)
    (hblank : limits.isDisabled = true → coordinator.ledger = .empty ∧ coordinator.generated = 0)
    (operations : List Operation) :
    Explained (start coordinator operations) [] (start coordinator operations) := by
  intro hquiet hdisabled
  obtain ⟨hledger, hgenerated⟩ := hblank ((isOff_iff hpolicy).mp hdisabled)
  have hfresh : ∀ (number : Nat) (task : Task),
      (start coordinator operations).tasks[number]? = some task →
        task.decision? = task.asleep? ∧ task.isUncounted = false := by
    intro number task hnumber
    obtain ⟨operation, -, rfl⟩ := getElem?_start hnumber
    cases operation <;> exact ⟨rfl, rfl⟩
  have hdormant := dormant_self hdisabled hgenerated hledger hfresh
  refine ⟨[], [], _, rfl, rfl, rfl, Or.inl rfl, hledger, fun front hfront ↦ ?_, hdormant⟩
  obtain rfl := List.prefix_nil.mp hfront
  exact ⟨_, rfl, hdisabled, hquiet⟩

theorem Explained.step {moves : List Move} (h : Explained initial moves interleaving)
    (hreached : initial.run moves = some interleaving) (horderly : interleaving.Orderly)
    (hzeroed : interleaving.Zeroed) {move : Move} (hstep : interleaving.step move = some next) :
    Explained initial (moves ++ [move]) next := by
  intro hafter hdisabled
  by_cases hbefore : ∀ task ∈ interleaving.tasks, task.isRestarting = false
  · have hoff := isOff_of_step horderly hafter hstep hdisabled
    obtain ⟨earlier, later, base, rfl, hsince⟩ := h hbefore hoff
    exact ⟨earlier, later ++ [move], base, List.append_assoc ..,
      hsince.step horderly hbefore hafter hstep⟩
  · -- The new threshold that was halfway is the mover, which has emptied the ledger.
    obtain ⟨threshold, htask⟩ := exists_zeroed hbefore hafter hstep
    obtain ⟨hdormant, hcleared⟩ := dormant_of_cleared horderly hzeroed htask hstep hdisabled
    have hrun : initial.run (moves ++ [move]) = some next := by
      rw [run_snoc, hreached]
      exact hstep
    refine ⟨moves ++ [move], [], next, (List.append_nil _).symm, hrun, rfl,
      Or.inr ⟨threshold, hcleared⟩, hdormant.ledger, fun front hfront ↦ ?_, hdormant⟩
    obtain rfl := List.prefix_nil.mp hfront
    exact ⟨next, rfl, hdisabled, hafter⟩

theorem Explained.run {earlier : List Move} (h : Explained initial earlier interleaving)
    (hreached : initial.run earlier = some interleaving) (horderly : interleaving.Orderly)
    (hzeroed : interleaving.Zeroed) {moves : List Move} {final : Interleaving}
    (hrun : interleaving.run moves = some final) : Explained initial (earlier ++ moves) final := by
  induction moves generalizing interleaving earlier with
  | nil =>
    cases hrun
    rw [List.append_nil]
    exact h
  | cons move rest ih =>
    obtain ⟨next, hstep, hrest⟩ := Option.bind_eq_some_iff.mp hrun
    have hnext : initial.run (earlier ++ [move]) = some next := by
      rw [run_snoc, hreached]
      exact hstep
    have hfinal := ih (h.step hreached horderly hzeroed hstep) hnext (horderly.step hstep)
      (hzeroed.step horderly hstep) hrest
    rw [List.append_assoc] at hfinal
    exact hfinal

end Since

/-- While the policy is off and no new threshold is halfway, no delay is counted, and the ledger
is what some of the attempts that were held back when the threshold was last set have made of the
empty one: those whose outcomes have been applied since, in the order of the moves that applied
them. Without any it is empty. -/
theorem run_disabled {σ : Type} {host : Host σ} {settings : Settings} {state : σ}
    {component : Component} (loaded : (Component.load host settings state).result = .ok component)
    (calls : List Component.Call) (operations : List Operation) {moves : List Move}
    {final : Interleaving}
    (hrun : (start (component.run calls).coordinator operations).run moves = some final)
    (hquiet : ∀ task ∈ final.tasks, task.isRestarting = false) (hdisabled : final.isOff = true) :
    final.coordinator.generated = 0
      ∧ ∃ earlier later base,
        moves = earlier ++ later
          ∧ OffSince (start (component.run calls).coordinator operations) earlier later base final
          ∧ ((∀ number, base.asleep? number = none) →
            final.coordinator.ledger = .empty ∧ final.coordinator.ledger.rows = []) := by
  obtain ⟨-, rfl⟩ := Component.eq_fresh_of_load loaded
  have hservice := (Component.inService_fresh settings).run calls
  have hblank := (Component.blank_fresh settings).run (Component.inService_fresh settings) calls
  have horderly := orderly_start hservice.policy hservice.ledger operations
  have hexplained := (explained_start hservice.policy hblank operations).run rfl horderly
    (zeroed_start _ operations) hrun
  obtain ⟨earlier, later, base, hmoves, hsince⟩ := hexplained hquiet hdisabled
  refine ⟨hsince.dormant.generated, earlier, later, base, hmoves, hsince, fun hnone ↦ ?_⟩
  have hempty := hsince.dormant.ledger_eq_empty hnone
  rw [hempty]
  exact ⟨rfl, rfl⟩

/-- Two failures, the second of which is held back when the threshold is set to zero. -/
def overtaken : Interleaving :=
  let attempt : Operation :=
    .attempt ⟨.connect, .failure, some (.ofLogin "root" "localhost")⟩
  start (Component.fresh ⟨1, 1000, 2147483647⟩).coordinator [attempt, attempt, .retune 0]

def overtaking : List Move :=
  ([0, 0, 0, 0, 0, 1, 1, 1, 1, 1, 2, 2, 2, 2, 2, 1, 1, 1] : List Nat).map (⟨·, .elapsed⟩)

/-- The failure that was held back is there for good, although the policy is off. -/
theorem run_recorded_while_disabled :
    (Component.load Registry.host ⟨1, 1000, 2147483647⟩ .empty).result =
        .ok (Component.fresh ⟨1, 1000, 2147483647⟩)
      ∧ (overtaken.run overtaking).map (fun final ↦
        (final.coordinator.delayLimits.map (·.threshold), final.tasks.map (·.hold),
          final.coordinator.ledger.rows)) =
        some ([0], [.free, .free, .free], [⟨"'root'@'localhost'", 1⟩]) := by
  have hvalid : (⟨1, 1000, 2147483647⟩ : Settings).Valid :=
    (Settings.valid_iff _).mpr (by decide)
  exact ⟨Component.load_registry hvalid, by decide +kernel⟩

/-- A failure that counts, and a failure and a success of the same account that are held back when
the threshold is set to zero. -/
def crossed : Interleaving :=
  let attempt (outcome : Outcome) : Operation :=
    .attempt ⟨.connect, outcome, some (.ofLogin "root" "localhost")⟩
  start (Component.fresh ⟨1, 1000, 2147483647⟩).coordinator
    [attempt .failure, attempt .failure, attempt .success, .retune 0]

/-- Both waits are over, the failure's first, before these two apply their outcomes in turn. -/
def crossing (one other : Nat) : List Move :=
  ([0, 0, 0, 0, 0, 1, 1, 1, 1, 1, 2, 2, 2, 2, 2, 3, 3, 3, 3, 3, 1, 2, one, other, 1, 2] :
    List Nat).map (⟨·, .elapsed⟩)

/-- The failure stays if it is applied after the success, and is forgotten if before it. -/
theorem run_disabled_crossed :
    (Component.load Registry.host ⟨1, 1000, 2147483647⟩ .empty).result =
        .ok (Component.fresh ⟨1, 1000, 2147483647⟩)
      ∧ (crossed.run (crossing 1 2)).map (·.coordinator.ledger.rows) = some []
      ∧ crossed.settlements (crossing 2 1) = [0, 2, 1]
      ∧ ∃ final, crossed.run (crossing 2 1) = some final
        ∧ (∀ task ∈ final.tasks, task.isRestarting = false) ∧ final.isOff = true
        ∧ final.coordinator.ledger.rows = [⟨"'root'@'localhost'", 1⟩]
        ∧ final.coordinator.generated = 0
        ∧ ∃ earlier later base, crossing 2 1 = earlier ++ later
          ∧ OffSince crossed earlier later base final
          ∧ ((∀ number, base.asleep? number = none) →
            final.coordinator.ledger = .empty ∧ final.coordinator.ledger.rows = []) := by
  have hvalid : (⟨1, 1000, 2147483647⟩ : Settings).Valid :=
    (Settings.valid_iff _).mpr (by decide)
  have loaded := Component.load_registry hvalid
  have hend : (crossed.run (crossing 2 1)).map (fun final ↦
      (final.tasks.all (!·.isRestarting), final.isOff, final.coordinator.ledger.rows)) =
      some (true, true, [⟨"'root'@'localhost'", 1⟩]) := by decide +kernel
  obtain ⟨final, hrun, hfinal⟩ := Option.map_eq_some_iff.mp hend
  obtain ⟨hall, hrest⟩ := Prod.mk.inj hfinal
  obtain ⟨hoff, hrows⟩ := Prod.mk.inj hrest
  have hquiet : ∀ task ∈ final.tasks, task.isRestarting = false := by
    intro task htask
    exact (Bool.not_eq_true' _).mp (List.all_eq_true.mp hall task htask)
  exact ⟨loaded, by decide +kernel, by decide +kernel, final, hrun, hquiet, hoff, hrows,
    run_disabled loaded [] _ hrun hquiet hoff⟩

end Interleaving

end LoginThrottle
