import LoginThrottle.Wait.Switchboard

/-!
One move on a switchboard: which switches it trips, what it makes of each wait, and that a switch
which it is not about stays as it is, with its guards and its waits.
-/

set_option autoImplicit false
set_option relaxedAutoImplicit false

namespace LoginThrottle

namespace Waiter

@[simp] theorem woken_switch (waiter : Waiter) (tripped : Bool) :
    (waiter.woken tripped).switch = waiter.switch := by
  rw [woken]
  split <;> rfl

@[simp] theorem woken_deadline? (waiter : Waiter) (tripped : Bool) :
    (waiter.woken tripped).deadline? = waiter.deadline? := by
  rw [woken]
  split <;> rfl

@[simp] theorem timedOut_switch (waiter : Waiter) (tripped : Bool) :
    (waiter.timedOut tripped).switch = waiter.switch := by
  rw [timedOut]
  split <;> rfl

@[simp] theorem timedOut_deadline? (waiter : Waiter) (tripped : Bool) :
    (waiter.timedOut tripped).deadline? = waiter.deadline? := by
  rw [timedOut]
  split <;> rfl

/-- A wait that is over cannot end again. -/
theorem woken_of_ended? {waiter : Waiter} {how : WaitEnd} (h : waiter.ended? = some how)
    (tripped : Bool) : waiter.woken tripped = waiter := by
  rw [woken, isBlocked, h]
  rfl

theorem timedOut_of_ended? {waiter : Waiter} {how : WaitEnd} (h : waiter.ended? = some how)
    (tripped : Bool) : waiter.timedOut tripped = waiter := by
  rw [timedOut, isBlocked, h]
  rfl

theorem ended?_woken {waiter : Waiter} (h : waiter.ended? = none) (tripped : Bool) :
    (waiter.woken tripped).ended? = if tripped then some .killed else none := by
  rw [woken, isBlocked, h]
  cases tripped with
  | false => exact h
  | true => rfl

theorem ended?_timedOut {waiter : Waiter} (h : waiter.ended? = none) (tripped : Bool) :
    (waiter.timedOut tripped).ended? =
      if waiter.deadline?.isSome then some (if tripped then .killed else .elapsed) else none := by
  rw [timedOut, isBlocked, h]
  cases waiter.deadline? with
  | none => exact h
  | some deadline => rfl

end Waiter

namespace Switchboard

variable {board : Switchboard} {move : Move} {switch : Nat}

theorem run_snoc (board : Switchboard) (moves : List Move) (move : Move) :
    board.run (moves ++ [move]) = (board.run moves).step move := by
  rw [run, List.foldl_append]
  rfl

/-! ### The switches -/

/-- The switch that a move would trip. -/
def target? (board : Switchboard) : Move → Option Nat
  | .kill switch => some switch
  | .drop guard => board.guarded? guard
  | _ => none

/-- A move trips a switch if there is one to trip. -/
def Trips (board : Switchboard) (move : Move) (switch : Nat) : Prop :=
  switch < board.tripped.length ∧ board.target? move = some switch

theorem isTripped_trip (board : Switchboard) (target switch : Nat) :
    (board.trip target).isTripped switch = true ↔
      board.isTripped switch = true ∨ switch < board.tripped.length ∧ target = switch := by
  rw [isTripped, isTripped, trip]
  by_cases htarget : target = switch
  · subst htarget
    by_cases hlength : target < board.tripped.length
    · rw [List.getElem?_set_self hlength]
      exact iff_of_true rfl (Or.inr ⟨hlength, rfl⟩)
    · rw [List.set_eq_of_length_le (Nat.not_lt.mp hlength)]
      simp only [hlength, false_and, or_false]
  · rw [List.getElem?_set_ne htarget]
    simp only [htarget, and_false, or_false]

/-- A switch that is tripped remains so, and only a kill or the loss of a guard trips one. -/
theorem isTripped_step (board : Switchboard) (move : Move) (switch : Nat) :
    (board.step move).isTripped switch = true ↔
      board.isTripped switch = true ∨ board.Trips move switch := by
  cases move with
  | kill target =>
    rw [step, isTripped_trip, Trips, target?, Option.some.injEq]
  | drop guard =>
    rw [step, Trips, target?]
    cases hguarded : board.guarded? guard with
    | none => simp only [reduceCtorEq, and_false, or_false]
    | some target =>
      rw [Option.some.injEq]
      exact isTripped_trip board target switch
  | create =>
    simp only [Trips, target?, reduceCtorEq, and_false, or_false]
    rw [isTripped, isTripped, step, List.getElem?_append]
    split
    · rfl
    · next hlength =>
      rw [List.getElem?_eq_none (Nat.not_lt.mp hlength)]
      cases switch - board.tripped.length <;> rfl
  | guard | start | wake | timeOut =>
    simp only [Trips, target?, reduceCtorEq, and_false, or_false]
    rfl

/-! ### The waits -/

/-- What a move makes of a wait. -/
def moved (board : Switchboard) (move : Move) (number : Nat) (waiter : Waiter) : Waiter :=
  if move = .wake number then waiter.woken (board.isTripped waiter.switch)
  else if move = .timeOut number then waiter.timedOut (board.isTripped waiter.switch)
  else waiter

theorem moved_wake (board : Switchboard) (number : Nat) (waiter : Waiter) :
    board.moved (.wake number) number waiter = waiter.woken (board.isTripped waiter.switch) :=
  if_pos rfl

theorem moved_timeOut (board : Switchboard) (number : Nat) (waiter : Waiter) :
    board.moved (.timeOut number) number waiter =
      waiter.timedOut (board.isTripped waiter.switch) := by
  rw [moved, if_neg (by simp), if_pos rfl]

theorem moved_switch (board : Switchboard) (move : Move) (number : Nat) (waiter : Waiter) :
    (board.moved move number waiter).switch = waiter.switch := by
  rw [moved]
  split
  · exact waiter.woken_switch _
  · split
    · exact waiter.timedOut_switch _
    · rfl

theorem moved_deadline? (board : Switchboard) (move : Move) (number : Nat) (waiter : Waiter) :
    (board.moved move number waiter).deadline? = waiter.deadline? := by
  rw [moved]
  split
  · exact waiter.woken_deadline? _
  · split
    · exact waiter.timedOut_deadline? _
    · rfl

theorem moved_of_ended? {waiter : Waiter} {how : WaitEnd} (h : waiter.ended? = some how)
    (number : Nat) : board.moved move number waiter = waiter := by
  rw [moved, waiter.woken_of_ended? h, waiter.timedOut_of_ended? h, ite_self, ite_self]

/-- The wait that a move begins. -/
def begun? (board : Switchboard) : Move → Option Waiter
  | .start switch deadline? =>
    some ((Waiter.mk switch deadline? none).woken (board.isTripped switch))
  | _ => none

theorem moved_of_ne {number : Nat} (hwake : move ≠ .wake number) (htimeOut : move ≠ .timeOut number)
    (waiter : Waiter) : board.moved move number waiter = waiter := by
  rw [moved, if_neg hwake, if_neg htimeOut]

theorem of_begun?_eq_some {waiter : Waiter} (h : board.begun? move = some waiter) :
    ∃ switch deadline?, move = .start switch deadline?
      ∧ waiter = (Waiter.mk switch deadline? none).woken (board.isTripped switch) := by
  cases move with
  | start switch deadline? => exact ⟨switch, deadline?, rfl, (Option.some.inj h).symm⟩
  | create | kill | guard | drop | wake | timeOut => cases h

/-- A move begins at most one wait, which gets the next number, and of the others only the one that
it is about can be any different. -/
theorem waiters_step (board : Switchboard) (move : Move) (number : Nat) :
    (board.step move).waiters[number]? =
      if number = board.waiters.length then board.begun? move
      else board.waiters[number]?.map (board.moved move number) := by
  have hexisting : board.begun? move = none →
      (if number = board.waiters.length then board.begun? move
        else board.waiters[number]?.map (board.moved move number)) =
          board.waiters[number]?.map (board.moved move number) := by
    intro hbegun
    split
    · next hnumber => rw [hbegun, hnumber, List.getElem?_eq_none (Nat.le_refl _), Option.map_none]
    · rfl
  have hkept : (∀ waiter, board.moved move number waiter = waiter) →
      board.waiters[number]?.map (board.moved move number) = board.waiters[number]? := by
    intro hmoved
    rw [funext hmoved, Option.map_id']
  cases move with
  | start switch deadline? =>
    rw [step, funext (moved_of_ne (by simp) (by simp)), Option.map_id', List.getElem?_append]
    by_cases hnumber : number = board.waiters.length
    · rw [if_pos hnumber, hnumber, if_neg (Nat.lt_irrefl _), Nat.sub_self]
      rfl
    · rw [if_neg hnumber]
      by_cases hlength : number < board.waiters.length
      · rw [if_pos hlength]
      · have hbeyond : board.waiters.length < number := by omega
        rw [if_neg hlength, List.getElem?_eq_none (Nat.le_of_lt hbeyond),
          List.getElem?_eq_none (by rw [List.length_singleton]; omega)]
  | wake target | timeOut target =>
    rw [hexisting rfl, step]
    by_cases htarget : target = number
    · subst htarget
      rw [List.getElem?_modify_eq]
      congr 1
      funext waiter
      simp only [moved_wake, moved_timeOut]
    · rw [List.getElem?_modify_ne _ _ htarget]
      exact (hkept (moved_of_ne (by simp [htarget]) (by simp [htarget]))).symm
  | drop guard =>
    rw [hexisting rfl, step, hkept (moved_of_ne (by simp) (by simp))]
    cases board.guarded? guard <;> rfl
  | create | kill | guard =>
    rw [hexisting rfl, hkept (moved_of_ne (by simp) (by simp))]
    rfl

theorem ended?_step_of_ended {number : Nat} {how : WaitEnd}
    (h : board.ended? number = some how) (move : Move) :
    (board.step move).ended? number = some how := by
  obtain ⟨waiter, hwaiter, hended⟩ := Option.bind_eq_some_iff.mp h
  have hlength := (List.getElem?_eq_some_iff.mp hwaiter).1
  rw [ended?, waiters_step, if_neg (Nat.ne_of_lt hlength), hwaiter, Option.map_some,
    moved_of_ended? hended]
  exact hended

theorem ended?_run_of_ended {number : Nat} {how : WaitEnd}
    (h : board.ended? number = some how) (moves : List Move) :
    (board.run moves).ended? number = some how := by
  induction moves generalizing board with
  | nil => exact h
  | cons move rest ih => exact ih (ended?_step_of_ended h move)

theorem modify_eq_modify {waiters : List Waiter} {number : Nat} {f g : Waiter → Waiter}
    (h : ∀ waiter, waiters[number]? = some waiter → f waiter = g waiter) :
    waiters.modify number f = waiters.modify number g := by
  refine List.ext_getElem? fun other ↦ ?_
  by_cases hother : number = other
  · subst hother
    rw [List.getElem?_modify_eq, List.getElem?_modify_eq]
    exact Option.map_congr h
  · rw [List.getElem?_modify_ne _ _ hother, List.getElem?_modify_ne _ _ hother]

/-- A look that changes anything finds a blocked wait on a tripped switch. -/
theorem of_step_wake_ne {number : Nat} (h : board.step (.wake number) ≠ board) :
    ∃ waiter, board.waiters[number]? = some waiter ∧ waiter.ended? = none
      ∧ board.isTripped waiter.switch = true := by
  refine Classical.byContradiction fun hnone ↦ h (congrArg (Switchboard.mk _ _) ?_)
  refine (modify_eq_modify fun waiter hwaiter ↦ ?_).trans (List.modify_id number board.waiters)
  rw [Waiter.woken, if_neg]
  · rfl
  · rw [Bool.and_eq_true, Waiter.isBlocked, Option.isNone_iff_eq_none]
    exact fun hboth ↦ hnone ⟨waiter, hwaiter, hboth⟩

/-- A time-out that changes anything finds a blocked wait with a deadline. -/
theorem of_step_timeOut_ne {number : Nat} (h : board.step (.timeOut number) ≠ board) :
    ∃ waiter, board.waiters[number]? = some waiter ∧ waiter.ended? = none
      ∧ waiter.deadline?.isSome = true := by
  refine Classical.byContradiction fun hnone ↦ h (congrArg (Switchboard.mk _ _) ?_)
  refine (modify_eq_modify fun waiter hwaiter ↦ ?_).trans (List.modify_id number board.waiters)
  rw [Waiter.timedOut, if_neg]
  · rfl
  · rw [Bool.and_eq_true, Waiter.isBlocked, Option.isNone_iff_eq_none]
    exact fun hboth ↦ hnone ⟨waiter, hwaiter, hboth⟩

/-- When the switch is tripped it makes no difference why a wait with a deadline looks. -/
theorem step_timeOut_eq_wake {number : Nat} {waiter : Waiter}
    (hwaiter : board.waiters[number]? = some waiter) (hdeadline : waiter.deadline?.isSome = true)
    (htripped : board.isTripped waiter.switch = true) :
    board.step (.timeOut number) = board.step (.wake number) := by
  refine congrArg (Switchboard.mk _ _) (modify_eq_modify fun found hfound ↦ ?_)
  obtain rfl := Option.some.inj (hwaiter.symm.trans hfound)
  rw [Waiter.timedOut, Waiter.woken, hdeadline, htripped]
  rfl

/-- Only who has a deadline comes to the end of its time. -/
def Timely (board : Switchboard) : Prop :=
  ∀ (number : Nat) (waiter : Waiter), board.waiters[number]? = some waiter →
    waiter.ended? = some .elapsed → waiter.deadline?.isSome = true

theorem Timely.step (h : board.Timely) (move : Move) : (board.step move).Timely := by
  intro number waiter hwaiter helapsed
  rw [waiters_step] at hwaiter
  split at hwaiter
  · obtain ⟨switch, deadline?, -, rfl⟩ := of_begun?_eq_some hwaiter
    rw [Waiter.ended?_woken rfl] at helapsed
    split at helapsed <;> cases helapsed
  · obtain ⟨former, hformer, rfl⟩ := Option.map_eq_some_iff.mp hwaiter
    rw [moved_deadline?]
    cases hended : former.ended? with
    | some how =>
      rw [moved_of_ended? hended] at helapsed
      exact h number former hformer helapsed
    | none =>
      rw [moved] at helapsed
      split at helapsed
      · rw [Waiter.ended?_woken hended] at helapsed
        split at helapsed <;> cases helapsed
      · split at helapsed
        · rw [Waiter.ended?_timedOut hended] at helapsed
          split at helapsed
          · next hdeadline => exact hdeadline
          · cases helapsed
        · exact h number former hformer helapsed

/-! ### One switch and another -/

/-- The switch that a move is about. A new switch is nobody's yet. -/
def switch? (board : Switchboard) : Move → Option Nat
  | .create => none
  | .kill switch | .guard switch | .start switch _ => some switch
  | .drop guard => board.guarded? guard
  | .wake number | .timeOut number => board.waiters[number]?.map (·.switch)

/-- The wait of this number, if it is on the switch. -/
def waitOn? (board : Switchboard) (switch number : Nat) : Option Waiter :=
  board.waiters[number]?.filter (·.switch == switch)

theorem waitOn?_eq_some_iff {number : Nat} {waiter : Waiter} :
    board.waitOn? switch number = some waiter ↔
      board.waiters[number]? = some waiter ∧ waiter.switch = switch := by
  rw [waitOn?, Option.filter_eq_some_iff, beq_iff_eq]

/-- Whether the switch is tripped, the guards set on it and the waits on it are the same. -/
structure Unaffected (switch : Nat) (board next : Switchboard) : Prop where
  tripped : next.isTripped switch = board.isTripped switch
  guards : ∀ guard, next.guarded? guard = some switch ↔ board.guarded? guard = some switch
  waits : ∀ number, next.waitOn? switch number = board.waitOn? switch number

theorem waitOn?_step (h : board.switch? move ≠ some switch) (number : Nat) :
    (board.step move).waitOn? switch number = board.waitOn? switch number := by
  rw [waitOn?, waitOn?, waiters_step]
  by_cases hnumber : number = board.waiters.length
  · rw [if_pos hnumber, hnumber, List.getElem?_eq_none (Nat.le_refl _)]
    cases move with
    | start target deadline? =>
      have hother : target ≠ switch := fun heq ↦ h (congrArg some heq)
      refine Option.filter_eq_none_iff.mpr fun waiter hwaiter ↦ ?_
      cases hwaiter
      rw [Waiter.woken_switch, beq_iff_eq]
      exact hother
    | create | kill | guard | drop | wake | timeOut => rfl
  · rw [if_neg hnumber]
    cases hwaiter : board.waiters[number]? with
    | none => rfl
    | some waiter =>
      rw [Option.map_some]
      by_cases hswitch : waiter.switch = switch
      · have habout : board.waiters[number]?.map (·.switch) = some switch := by
          rw [hwaiter, Option.map_some, hswitch]
        have hwake : move ≠ .wake number := by
          rintro rfl
          exact h habout
        have htimeOut : move ≠ .timeOut number := by
          rintro rfl
          exact h habout
        rw [moved_of_ne hwake htimeOut]
      · simp only [Option.filter_some, moved_switch, beq_iff_eq, hswitch, if_false]

theorem guarded?_step (h : board.switch? move ≠ some switch) (guard : Nat) :
    (board.step move).guarded? guard = some switch ↔ board.guarded? guard = some switch := by
  cases move with
  | guard target =>
    have hother : target ≠ switch := fun heq ↦ h (congrArg some heq)
    rw [step, guarded?, guarded?, List.getElem?_append]
    by_cases hlength : guard < board.guards.length
    · rw [if_pos hlength]
    · rw [if_neg hlength, List.getElem?_eq_none (Nat.not_lt.mp hlength)]
      cases guard - board.guards.length with
      | zero =>
        refine iff_of_false (fun heq ↦ hother ?_) (by simp)
        exact Option.some.inj heq
      | succ beyond => rfl
  | drop lost =>
    rw [step]
    cases hlost : board.guarded? lost with
    | none => rfl
    | some target =>
      rw [switch?, hlost] at h
      by_cases hguard : lost = guard
      · subst hguard
        rw [hlost]
        refine iff_of_false ?_ h
        rw [guarded?, List.getElem?_set_self']
        cases board.guards[lost]? <;> simp
      · rw [guarded?, guarded?, List.getElem?_set_ne hguard]
  | create | kill | start | wake | timeOut => rfl

theorem unaffected_step (h : board.switch? move ≠ some switch) :
    Unaffected switch board (board.step move) := by
  refine ⟨?_, guarded?_step h, waitOn?_step h⟩
  have hspared : ¬board.Trips move switch := by
    rintro ⟨-, htarget⟩
    cases move with
    | kill target => exact h htarget
    | drop guard => exact h htarget
    | create | guard | start | wake | timeOut => cases htarget
  rw [Bool.eq_iff_iff, isTripped_step]
  exact or_iff_left hspared

end Switchboard

end LoginThrottle
