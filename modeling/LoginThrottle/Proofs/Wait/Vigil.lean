import Mathlib.Data.List.Induction
import LoginThrottle.Proofs.Wait.Switchboard

/-!
Waits in which to be woken and to look at the switch are two turns, with anything in between.
Whoever is blocked is roused by a kill of its switch or for no reason at all, or its time runs out.
Only later does it look at the switch, and then its wait ends or it goes on waiting. `run_lawful`
says what holds after any turns; a kill before the look is never missed. What can become of a
switchboard in its own moves, where to be woken is to look, is the same (`exists_run_iff`).
-/

set_option autoImplicit false
set_option relaxedAutoImplicit false

namespace LoginThrottle

/-- What has come to someone who is blocked and has not looked at its switch since. -/
inductive Alert
  | roused
  | timedOut
  deriving DecidableEq, Repr

/-- The look that it leads to. -/
def Alert.move (number : Nat) : Alert → Switchboard.Move
  | .roused => .wake number
  | .timedOut => .timeOut number

/-- A switchboard, and what has come to those who wait there. -/
structure Vigil where
  board : Switchboard
  alert? : Nat → Option Alert

namespace Vigil

/-- What can happen next, in whatever order. To be roused is to be so for no reason: a kill does it
by itself. -/
inductive Turn
  | create
  | kill (switch : Nat)
  | guard (switch : Nat)
  | drop (guard : Nat)
  | start (switch : Nat) (deadline? : Option Nat)
  | rouse (number : Nat)
  | timeOut (number : Nat)
  | look (number : Nat)
  deriving DecidableEq, Repr

def empty : Vigil :=
  ⟨.empty, fun _ ↦ none⟩

/-- Whether the wait is blocked and nothing has come to it. -/
def isParked (vigil : Vigil) (number : Nat) : Bool :=
  vigil.alert? number = none && vigil.board.waiters[number]?.any (·.isBlocked)

/-- What a turn is on the switchboard, if it shows there at all. -/
def move? (vigil : Vigil) : Turn → Option Switchboard.Move
  | .create => some .create
  | .kill switch => some (.kill switch)
  | .guard switch => some (.guard switch)
  | .drop guard => some (.drop guard)
  | .start switch deadline? => some (.start switch deadline?)
  | .rouse _ | .timeOut _ => none
  | .look number => (vigil.alert? number).map (·.move number)

/-- What a turn brings to someone who is parked. A time runs out only if there is a deadline. -/
def brings? (vigil : Vigil) (number : Nat) : Turn → Option Alert
  | .kill switch => (vigil.board.waitOn? switch number).map fun _ ↦ .roused
  | .drop guard =>
    ((vigil.board.guarded? guard).bind fun switch ↦ vigil.board.waitOn? switch number).map
      fun _ ↦ .roused
  | .rouse target => if target = number then some .roused else none
  | .timeOut target =>
    if target = number then
      (vigil.board.waiters[number]?.bind (·.deadline?)).map fun _ ↦ .timedOut
    else none
  | .create | .guard _ | .start .. | .look _ => none

def step (vigil : Vigil) (turn : Turn) : Vigil where
  board := ((vigil.move? turn).map vigil.board.step).getD vigil.board
  alert? number :=
    if turn = .look number then none
    else if vigil.isParked number then vigil.brings? number turn
    else vigil.alert? number

def run (turns : List Turn) : Vigil :=
  turns.foldl step empty

theorem run_snoc (turns : List Turn) (turn : Turn) :
    run (turns ++ [turn]) = (run turns).step turn := by
  rw [run, List.foldl_append]
  rfl

/-! ### One turn -/

variable {vigil : Vigil} {turn : Turn} {number : Nat} {waiter : Waiter}

theorem board_step (vigil : Vigil) (turn : Turn) :
    (vigil.step turn).board = ((vigil.move? turn).map vigil.board.step).getD vigil.board :=
  rfl

theorem board_look {alert : Alert} (h : vigil.alert? number = some alert) :
    (vigil.step (.look number)).board = vigil.board.step (alert.move number) := by
  rw [board_step, move?, h]
  rfl

/-- Whoever does not look goes on waiting. -/
theorem move?_ne_of_ne_look (h : turn ≠ .look number) {move : Switchboard.Move}
    (hmove : vigil.move? turn = some move) : move ≠ .wake number ∧ move ≠ .timeOut number := by
  cases turn with
  | look target =>
    have htarget : target ≠ number := fun heq ↦ h (congrArg Turn.look heq)
    obtain ⟨alert, -, rfl⟩ := Option.map_eq_some_iff.mp hmove
    cases alert <;> simp [Alert.move, htarget]
  | rouse | timeOut => cases hmove
  | create | kill | guard | drop | start =>
    cases hmove
    simp

theorem waiter_step (hwaiter : vigil.board.waiters[number]? = some waiter)
    (h : turn ≠ .look number) : (vigil.step turn).board.waiters[number]? = some waiter := by
  rw [board_step]
  cases hmove : vigil.move? turn with
  | none => exact hwaiter
  | some move =>
    obtain ⟨hwake, htimeOut⟩ := move?_ne_of_ne_look h hmove
    have hlength := (List.getElem?_eq_some_iff.mp hwaiter).1
    rw [Option.map_some, Option.getD_some, Switchboard.waiters_step,
      if_neg (Nat.ne_of_lt hlength), hwaiter, Option.map_some,
      Switchboard.moved_of_ne hwake htimeOut]

theorem isParked_iff :
    vigil.isParked number = true ↔ vigil.alert? number = none
      ∧ ∃ waiter, vigil.board.waiters[number]? = some waiter ∧ waiter.ended? = none := by
  simp only [isParked, Bool.and_eq_true, decide_eq_true_eq, Option.any_eq_true, Waiter.isBlocked,
    Option.isNone_iff_eq_none]

theorem not_isParked_of_alert {alert : Alert} (h : vigil.alert? number = some alert) :
    vigil.isParked number = false := by
  rw [isParked, h]
  rfl

theorem alert?_step (h : turn ≠ .look number) :
    (vigil.step turn).alert? number =
      if vigil.isParked number then vigil.brings? number turn else vigil.alert? number :=
  if_neg h

theorem alert?_look (vigil : Vigil) (number : Nat) :
    (vigil.step (.look number)).alert? number = none :=
  if_pos rfl

/-- Whoever has been alerted stays so until it looks. -/
theorem alert?_step_of_alert {alert : Alert} (h : vigil.alert? number = some alert)
    (hturn : turn ≠ .look number) : (vigil.step turn).alert? number = some alert := by
  rw [alert?_step hturn, not_isParked_of_alert h, if_neg Bool.false_ne_true]
  exact h

/-- That its time has run out comes only to those who have a deadline. -/
theorem of_brings?_eq_timedOut (h : vigil.brings? number turn = some .timedOut) :
    turn = .timeOut number
      ∧ ∃ waiter, vigil.board.waiters[number]? = some waiter ∧ waiter.deadline?.isSome = true := by
  cases turn with
  | timeOut target =>
    rw [brings?] at h
    split at h
    · next htarget =>
      obtain ⟨deadline, hdeadline, -⟩ := Option.map_eq_some_iff.mp h
      obtain ⟨waiter, hwaiter, hsome⟩ := Option.bind_eq_some_iff.mp hdeadline
      exact ⟨congrArg Turn.timeOut htarget, waiter, hwaiter, by rw [hsome]; rfl⟩
    · cases h
  | kill switch =>
    obtain ⟨_, -, heq⟩ := Option.map_eq_some_iff.mp h
    cases heq
  | drop guard =>
    obtain ⟨_, -, heq⟩ := Option.map_eq_some_iff.mp h
    cases heq
  | rouse target =>
    rw [brings?] at h
    split at h <;> cases h
  | create | guard | start | look => cases h

/-- A kill, or the loss of a guard, of a switch that there is. -/
def Trips (vigil : Vigil) (turn : Turn) (switch : Nat) : Prop :=
  switch < vigil.board.tripped.length
    ∧ (turn = .kill switch ∨ ∃ guard, turn = .drop guard ∧ vigil.board.guarded? guard = some switch)

theorem trips_iff {switch : Nat} :
    vigil.Trips turn switch ↔
      ∃ move, vigil.move? turn = some move ∧ vigil.board.Trips move switch := by
  rw [Trips]
  cases turn with
  | kill target => simp [move?, Switchboard.Trips, Switchboard.target?]
  | drop guard => simp [move?, Switchboard.Trips, Switchboard.target?]
  | look target =>
    refine iff_of_false (by simp) ?_
    rintro ⟨move, hmove, -, htarget⟩
    obtain ⟨alert, -, rfl⟩ := Option.map_eq_some_iff.mp hmove
    cases alert <;> cases htarget
  | create | guard | start | rouse | timeOut =>
    simp [move?, Switchboard.Trips, Switchboard.target?]

theorem isTripped_step (vigil : Vigil) (turn : Turn) (switch : Nat) :
    (vigil.step turn).board.isTripped switch = true ↔
      vigil.board.isTripped switch = true ∨ vigil.Trips turn switch := by
  rw [board_step, trips_iff]
  cases vigil.move? turn with
  | none => simp
  | some move =>
    rw [Option.map_some, Option.getD_some, Switchboard.isTripped_step]
    simp only [Option.some.injEq, exists_eq_left']

theorem isTripped_step_eq (hkill : ∀ switch, turn ≠ .kill switch)
    (hdrop : ∀ guard, turn ≠ .drop guard) (switch : Nat) :
    (vigil.step turn).board.isTripped switch = vigil.board.isTripped switch := by
  rw [Bool.eq_iff_iff, isTripped_step]
  refine or_iff_left ?_
  rintro ⟨-, heq | ⟨guard, heq, -⟩⟩
  · exact hkill switch heq
  · exact hdrop guard heq

/-- Whoever is parked on a switch when it is tripped is roused. -/
theorem brings?_of_trips (hwaiter : vigil.board.waiters[number]? = some waiter)
    (h : vigil.Trips turn waiter.switch) : vigil.brings? number turn = some .roused := by
  have hwait : vigil.board.waitOn? waiter.switch number = some waiter :=
    Switchboard.waitOn?_eq_some_iff.mpr ⟨hwaiter, rfl⟩
  obtain ⟨-, rfl | ⟨guard, rfl, hguarded⟩⟩ := h
  · rw [brings?, hwait]
    rfl
  · rw [brings?, hguarded, Option.bind_some, hwait]
    rfl

/-! ### Who has been alerted -/

/-- Only those who are blocked have been alerted, and everyone has who is blocked on a tripped
switch. -/
structure Alerted (vigil : Vigil) : Prop where
  blocked : ∀ (number : Nat) (alert : Alert), vigil.alert? number = some alert →
    ∃ waiter, vigil.board.waiters[number]? = some waiter ∧ waiter.ended? = none
      ∧ (alert = .timedOut → waiter.deadline?.isSome = true)
  woken : ∀ (number : Nat) (waiter : Waiter), vigil.board.waiters[number]? = some waiter →
    waiter.ended? = none → vigil.board.isTripped waiter.switch = true →
      (vigil.alert? number).isSome = true

theorem alerted_empty : empty.Alerted where
  blocked number alert h := absurd h (by simp [empty])
  woken number waiter h := absurd h (by simp [empty, Switchboard.empty])

/-- A look ends a wait if the switch is tripped or the time has run out. -/
theorem ended?_look (h : vigil.Alerted) (hwaiter : vigil.board.waiters[number]? = some waiter)
    (hblocked : waiter.ended? = none) :
    (vigil.step (.look number)).board.ended? number =
      match vigil.alert? number with
      | none => none
      | some .roused => if vigil.board.isTripped waiter.switch then some .killed else none
      | some .timedOut =>
        some (if vigil.board.isTripped waiter.switch then .killed else .elapsed) := by
  cases halert : vigil.alert? number with
  | none =>
    rw [Switchboard.ended?, board_step, move?, halert, Option.map_none, Option.map_none,
      Option.getD_none, hwaiter]
    exact hblocked
  | some alert =>
    rw [Switchboard.ended?, board_look halert, Switchboard.waiters_step,
      if_neg (Nat.ne_of_lt (List.getElem?_eq_some_iff.mp hwaiter).1), hwaiter, Option.map_some,
      Option.bind_some]
    cases alert with
    | roused => rw [Alert.move, Switchboard.moved_wake, Waiter.ended?_woken hblocked]
    | timedOut =>
      obtain ⟨found, hfound, -, hdeadline⟩ := h.blocked number .timedOut halert
      obtain rfl := Option.some.inj (hwaiter.symm.trans hfound)
      rw [Alert.move, Switchboard.moved_timeOut, Waiter.ended?_timedOut hblocked,
        if_pos (hdeadline rfl)]

/-- Who is blocked after a turn was so before, or has just begun to wait on a switch that is not
tripped. -/
theorem waiter_step_cases (hwaiter : (vigil.step turn).board.waiters[number]? = some waiter)
    (hblocked : waiter.ended? = none) :
    (∃ switch deadline?, turn = .start switch deadline? ∧ waiter.switch = switch
        ∧ vigil.board.isTripped switch = false)
      ∨ ∃ former, vigil.board.waiters[number]? = some former ∧ former.ended? = none
        ∧ former.switch = waiter.switch := by
  rw [board_step] at hwaiter
  cases hmove : vigil.move? turn with
  | none =>
    rw [hmove] at hwaiter
    exact Or.inr ⟨waiter, hwaiter, hblocked, rfl⟩
  | some move =>
    rw [hmove, Option.map_some, Option.getD_some, Switchboard.waiters_step] at hwaiter
    split at hwaiter
    · obtain ⟨switch, deadline?, rfl, rfl⟩ := Switchboard.of_begun?_eq_some hwaiter
      have hturn : turn = .start switch deadline? := by
        cases turn with
        | start =>
          cases hmove
          rfl
        | look target =>
          obtain ⟨alert, -, heq⟩ := Option.map_eq_some_iff.mp hmove
          cases alert <;> cases heq
        | create | kill | guard | drop | rouse | timeOut => cases hmove
      rw [Waiter.ended?_woken rfl] at hblocked
      refine Or.inl ⟨switch, deadline?, hturn, Waiter.woken_switch _ _, ?_⟩
      cases hopen : vigil.board.isTripped switch with
      | false => rfl
      | true =>
        rw [hopen] at hblocked
        cases hblocked
    · obtain ⟨former, hformer, rfl⟩ := Option.map_eq_some_iff.mp hwaiter
      refine Or.inr ⟨former, hformer, ?_, (vigil.board.moved_switch move number former).symm⟩
      cases hended : former.ended? with
      | none => rfl
      | some how =>
        rw [Switchboard.moved_of_ended? hended, hended] at hblocked
        cases hblocked

theorem Alerted.step (h : vigil.Alerted) (turn : Turn) : (vigil.step turn).Alerted := by
  constructor
  · intro number alert halert
    have hturn : turn ≠ .look number := by
      rintro rfl
      rw [alert?_look] at halert
      cases halert
    rw [alert?_step hturn] at halert
    split at halert
    · next hparked =>
      obtain ⟨-, waiter, hwaiter, hblocked⟩ := isParked_iff.mp hparked
      refine ⟨waiter, waiter_step hwaiter hturn, hblocked, ?_⟩
      rintro rfl
      obtain ⟨-, found, hfound, hdeadline⟩ := of_brings?_eq_timedOut halert
      obtain rfl := Option.some.inj (hwaiter.symm.trans hfound)
      exact hdeadline
    · obtain ⟨waiter, hwaiter, hblocked, hdeadline⟩ := h.blocked number alert halert
      exact ⟨waiter, waiter_step hwaiter hturn, hblocked, hdeadline⟩
  · intro number waiter hwaiter hblocked htripped
    rcases waiter_step_cases hwaiter hblocked with
      ⟨switch, deadline?, rfl, rfl, hopen⟩ | ⟨former, hformer, hwas, hswitch⟩
    · rw [isTripped_step_eq (by simp) (by simp), hopen] at htripped
      cases htripped
    · rw [← hswitch] at htripped
      by_cases hturn : turn = .look number
      · -- A look at a tripped switch would have ended the wait.
        subst hturn
        rw [isTripped_step_eq (by simp) (by simp)] at htripped
        obtain ⟨alert, halert⟩ :=
          Option.isSome_iff_exists.mp (h.woken number former hformer hwas htripped)
        have hlook := ended?_look h hformer hwas
        rw [Switchboard.ended?, hwaiter, Option.bind_some, hblocked, halert, htripped] at hlook
        cases alert <;> cases hlook
      · rcases (isTripped_step vigil turn former.switch).mp htripped with htripped | htrips
        · obtain ⟨alert, halert⟩ :=
            Option.isSome_iff_exists.mp (h.woken number former hformer hwas htripped)
          rw [alert?_step_of_alert halert hturn]
          rfl
        · rw [alert?_step hturn, brings?_of_trips hformer htrips]
          split
          · rfl
          · next hnot =>
            rw [isParked_iff] at hnot
            exact Option.isSome_iff_ne_none.mpr fun hnone ↦ hnot ⟨hnone, former, hformer, hwas⟩

/-- A blocked wait ends only when it looks: by a tripped switch, and else by the end of its time. -/
theorem Alerted.ended?_step_iff (h : vigil.Alerted)
    (hwaiter : vigil.board.waiters[number]? = some waiter) (hblocked : waiter.ended? = none)
    (turn : Turn) (how : WaitEnd) :
    (vigil.step turn).board.ended? number = some how ↔
      turn = .look number
        ∧ (vigil.board.isTripped waiter.switch = true ∧ how = .killed
          ∨ vigil.board.isTripped waiter.switch = false ∧ vigil.alert? number = some .timedOut
            ∧ how = .elapsed) := by
  by_cases hturn : turn = .look number
  · subst hturn
    rw [ended?_look h hwaiter hblocked]
    have hwoken := h.woken number waiter hwaiter hblocked
    cases htripped : vigil.board.isTripped waiter.switch with
    | true =>
      obtain ⟨alert, halert⟩ := Option.isSome_iff_exists.mp (hwoken htripped)
      rw [halert]
      cases alert <;> simp [eq_comm]
    | false =>
      cases vigil.alert? number with
      | none => simp
      | some alert => cases alert <;> simp [eq_comm]
  · rw [Switchboard.ended?, waiter_step hwaiter hturn, Option.bind_some, hblocked]
    exact iff_of_false (by simp) fun hlook ↦ hturn hlook.1

/-! ### One switch and another -/

/-- The switch that a turn is about. A new switch is nobody's yet. -/
def switch? (vigil : Vigil) : Turn → Option Nat
  | .create => none
  | .kill switch | .guard switch | .start switch _ => some switch
  | .drop guard => vigil.board.guarded? guard
  | .rouse number | .timeOut number | .look number => vigil.board.waiters[number]?.map (·.switch)

/-- The switch is the same, with its guards and its waits and what has come to them. -/
structure Unaffected (switch : Nat) (vigil next : Vigil) : Prop where
  board : Switchboard.Unaffected switch vigil.board next.board
  alerts : ∀ number, (vigil.board.waitOn? switch number).isSome = true →
    next.alert? number = vigil.alert? number

theorem switch?_of_move? {move : Switchboard.Move} (h : vigil.move? turn = some move) :
    vigil.board.switch? move = vigil.switch? turn := by
  cases turn with
  | look number =>
    obtain ⟨alert, -, rfl⟩ := Option.map_eq_some_iff.mp h
    cases alert <;> rfl
  | rouse | timeOut => cases h
  | create | kill | guard | drop | start =>
    cases h
    rfl

/-- A turn brings nothing to those who wait on another switch. -/
theorem brings?_of_switch?_ne {switch : Nat} (h : vigil.switch? turn ≠ some switch)
    (hwait : vigil.board.waitOn? switch number = some waiter) :
    vigil.brings? number turn = none := by
  obtain ⟨hwaiter, rfl⟩ := Switchboard.waitOn?_eq_some_iff.mp hwait
  have hother : ∀ target, target ≠ waiter.switch → vigil.board.waitOn? target number = none := by
    intro target hne
    rw [Switchboard.waitOn?, hwaiter, Option.filter_some, if_neg]
    rw [beq_iff_eq]
    exact Ne.symm hne
  have habout : ∀ target, vigil.board.waiters[target]?.map (·.switch) ≠ some waiter.switch →
      target ≠ number := by
    rintro target hne rfl
    rw [hwaiter] at hne
    exact hne rfl
  cases turn with
  | kill target =>
    rw [brings?, hother target fun heq ↦ h (congrArg some heq)]
    rfl
  | drop guard =>
    rw [brings?]
    cases hguarded : vigil.board.guarded? guard with
    | none => rfl
    | some target =>
      rw [switch?, hguarded] at h
      rw [Option.bind_some, hother target fun heq ↦ h (congrArg some heq)]
      rfl
  | rouse target | timeOut target => exact if_neg (habout target h)
  | create | guard | start | look => rfl

theorem unaffected_step {switch : Nat} (h : vigil.switch? turn ≠ some switch) :
    Unaffected switch vigil (vigil.step turn) := by
  constructor
  · rw [board_step]
    cases hmove : vigil.move? turn with
    | none => exact ⟨rfl, fun _ ↦ Iff.rfl, fun _ ↦ rfl⟩
    | some move =>
      rw [← switch?_of_move? hmove] at h
      exact Switchboard.unaffected_step h
  · intro number hsome
    obtain ⟨waiter, hwait⟩ := Option.isSome_iff_exists.mp hsome
    have hlook : turn ≠ .look number := by
      rintro rfl
      obtain ⟨hwaiter, rfl⟩ := Switchboard.waitOn?_eq_some_iff.mp hwait
      rw [switch?, hwaiter] at h
      exact h rfl
    rw [alert?_step hlook, brings?_of_switch?_ne h hwait]
    split
    · next hparked => exact (isParked_iff.mp hparked).1.symm
    · rfl

theorem Unaffected.trans {switch : Nat} {next last : Vigil} (h : Unaffected switch vigil next)
    (hnext : Unaffected switch next last) : Unaffected switch vigil last where
  board :=
    { tripped := hnext.board.tripped.trans h.board.tripped
      guards := fun guard ↦ (hnext.board.guards guard).trans (h.board.guards guard)
      waits := fun number ↦ (hnext.board.waits number).trans (h.board.waits number) }
  alerts number hwait := by
    have hstill := hnext.alerts number (h.board.waits number ▸ hwait)
    exact hstill.trans (h.alerts number hwait)

/-- None of the turns, as they come, is about the switch. -/
def Avoids (vigil : Vigil) (switch : Nat) : List Turn → Prop
  | [] => True
  | turn :: rest => vigil.switch? turn ≠ some switch ∧ (vigil.step turn).Avoids switch rest

theorem unaffected_foldl {switch : Nat} {turns : List Turn} (h : vigil.Avoids switch turns) :
    Unaffected switch vigil (turns.foldl step vigil) := by
  induction turns generalizing vigil with
  | nil => exact ⟨⟨rfl, fun _ ↦ Iff.rfl, fun _ ↦ rfl⟩, fun _ _ ↦ rfl⟩
  | cons turn rest ih => exact (unaffected_step h.1).trans (ih h.2)

/-! ### Any turns -/

theorem run_alerted (turns : List Turn) : (run turns).Alerted := by
  induction turns using List.reverseRecOn with
  | nil => exact alerted_empty
  | append_singleton turns turn ih =>
    rw [run_snoc]
    exact ih.step turn

theorem run_timely (turns : List Turn) : (run turns).board.Timely := by
  induction turns using List.reverseRecOn with
  | nil =>
    intro number waiter hwaiter
    exact absurd hwaiter (by simp [run, empty, Switchboard.empty])
  | append_singleton turns turn ih =>
    rw [run_snoc, board_step]
    cases (run turns).move? turn with
    | none => exact ih
    | some move => exact ih.step move

/-- What has been so at a turn was so at an earlier one, or it is so at the last. -/
theorem exists_turn_snoc (P : List Turn → Turn → Prop) (turns : List Turn) (turn : Turn) :
    (∃ earlier now later, turns ++ [turn] = earlier ++ now :: later ∧ P earlier now) ↔
      (∃ earlier now later, turns = earlier ++ now :: later ∧ P earlier now) ∨ P turns turn := by
  constructor
  · rintro ⟨earlier, now, later, heq, h⟩
    rcases List.eq_nil_or_concat later with rfl | ⟨later, last, rfl⟩
    · obtain ⟨rfl, hnow⟩ := List.append_inj' heq rfl
      obtain rfl := (List.cons.inj hnow).1
      exact Or.inr h
    · rw [List.concat_eq_append, ← List.cons_append, ← List.append_assoc] at heq
      exact Or.inl ⟨earlier, now, later, (List.append_inj' heq rfl).1, h⟩
  · rintro (⟨earlier, now, later, rfl, h⟩ | h)
    · exact ⟨earlier, now, later ++ [turn], by simp, h⟩
    · exact ⟨turns, turn, [], rfl, h⟩

theorem isTripped_run (turns : List Turn) (switch : Nat) :
    (run turns).board.isTripped switch = true ↔
      ∃ earlier turn later, turns = earlier ++ turn :: later ∧ (run earlier).Trips turn switch := by
  induction turns using List.reverseRecOn with
  | nil => simp [run, empty, Switchboard.empty, Switchboard.isTripped]
  | append_singleton turns turn ih =>
    rw [run_snoc, isTripped_step, ih]
    exact (exists_turn_snoc (fun earlier now ↦ (run earlier).Trips now switch) turns turn).symm

/-- Whose time has run out has not looked at its switch since. -/
theorem exists_timeOut {turns : List Turn} (h : (run turns).alert? number = some .timedOut) :
    ∃ earlier later, turns = earlier ++ .timeOut number :: later ∧ .look number ∉ later := by
  induction turns using List.reverseRecOn with
  | nil => cases h
  | append_singleton turns turn ih =>
    have hlook : turn ≠ .look number := by
      rintro rfl
      rw [run_snoc, alert?_look] at h
      cases h
    rw [run_snoc, alert?_step hlook] at h
    split at h
    · exact ⟨turns, [], by rw [(of_brings?_eq_timedOut h).1], List.not_mem_nil⟩
    · obtain ⟨earlier, later, rfl, hlater⟩ := ih h
      refine ⟨earlier, later ++ [turn], by simp, ?_⟩
      rw [List.mem_append, List.mem_singleton]
      rintro (hmem | rfl)
      · exact hlater hmem
      · exact hlook rfl

/-- What holds after the turns, whatever comes then. -/
structure Lawful (turns : List Turn) : Prop where
  /-- A switch is not tripped before it has been killed or has lost a guard, and is so for good from
  then on. -/
  tripped_iff : ∀ switch, (run turns).board.isTripped switch = true ↔
    ∃ earlier turn later, turns = earlier ++ turn :: later ∧ (run earlier).Trips turn switch
  /-- Whoever begins to wait is blocked unless the switch is tripped. -/
  started : ∀ switch deadline?,
    ((run turns).step (.start switch deadline?)).board.waiters[(run turns).board.waiters.length]? =
      some ⟨switch, deadline?,
        if (run turns).board.isTripped switch then some .killed else none⟩
  /-- Whoever is blocked comes free only when it looks, and then by the switch or else by the time,
  which ends no wait whose switch is tripped by then. -/
  ended_iff : ∀ (number : Nat) (waiter : Waiter), (run turns).board.waiters[number]? = some waiter →
    waiter.ended? = none → ∀ turn how,
      (((run turns).step turn).board.ended? number = some how ↔
        turn = .look number
          ∧ ((run turns).board.isTripped waiter.switch = true ∧ how = .killed
            ∨ (run turns).board.isTripped waiter.switch = false
              ∧ (run turns).alert? number = some .timedOut ∧ how = .elapsed))
  /-- A wait that is over remains as it has ended. -/
  ended : ∀ number how turn, (run turns).board.ended? number = some how →
    ((run turns).step turn).board.ended? number = some how
  /-- To look because of the time is to have been told so since the last look. -/
  timedOut : ∀ number, (run turns).alert? number = some .timedOut →
    ∃ earlier later, turns = earlier ++ .timeOut number :: later ∧ .look number ∉ later
  /-- A wait without a deadline ends by the switch only. -/
  unlimited : ∀ (number : Nat) (waiter : Waiter), (run turns).board.waiters[number]? = some waiter →
    waiter.deadline? = none → waiter.ended? ≠ some .elapsed
  /-- Nobody sleeps on when the switch is tripped. -/
  woken : ∀ (number : Nat) (waiter : Waiter), (run turns).board.waiters[number]? = some waiter →
    waiter.ended? = none → (run turns).board.isTripped waiter.switch = true →
      ((run turns).alert? number).isSome = true
  /-- Whatever happens on other switches makes no difference to a switch. -/
  apart : ∀ switch later, (run turns).Avoids switch later →
    Unaffected switch (run turns) (run (turns ++ later))

/-- Switches and waits keep to their laws however kills, lost guards, time-outs and looks come one
after another, and whoever is roused for no reason. -/
theorem run_lawful (turns : List Turn) : Lawful turns where
  tripped_iff := isTripped_run turns
  started switch deadline? := by
    rw [board_step, move?, Option.map_some, Option.getD_some, Switchboard.waiters_step, if_pos rfl]
    rw [Switchboard.begun?, Waiter.woken, Waiter.isBlocked]
    cases (run turns).board.isTripped switch <;> rfl
  ended_iff number waiter hwaiter hblocked := (run_alerted turns).ended?_step_iff hwaiter hblocked
  ended number how turn hended := by
    rw [board_step]
    cases (run turns).move? turn with
    | none => exact hended
    | some move => exact Switchboard.ended?_step_of_ended hended move
  timedOut number htimedOut := exists_timeOut htimedOut
  unlimited number waiter hwaiter hdeadline helapsed := by
    have hsome := run_timely turns number waiter hwaiter helapsed
    rw [hdeadline] at hsome
    cases hsome
  woken := (run_alerted turns).woken
  apart switch later havoids := by
    rw [run, run, List.foldl_append]
    exact unaffected_foldl havoids

/-- The time of the wait runs out, but it has not looked yet when the switch is killed. -/
example : (run [.create, .start 0 (some 5), .timeOut 0, .kill 0, .look 0]).board.ended? 0 =
    some .killed := by
  decide

/-! ### The same in moves -/

/-- Someone who is parked and has a deadline is timed out in two turns. -/
theorem board_timeOut_look (hparked : vigil.isParked number = true)
    (hwaiter : vigil.board.waiters[number]? = some waiter)
    (hdeadline : waiter.deadline?.isSome = true) :
    ((vigil.step (.timeOut number)).step (.look number)).board =
      vigil.board.step (.timeOut number) := by
  have halert : (vigil.step (.timeOut number)).alert? number = some .timedOut := by
    obtain ⟨deadline, hsome⟩ := Option.isSome_iff_exists.mp hdeadline
    rw [alert?_step (by simp), if_pos hparked, brings?, if_pos rfl, hwaiter, Option.bind_some,
      hsome]
    rfl
  exact board_look halert

/-- Every move on the switchboard can be made in turns, whoever has been alerted before. -/
theorem Alerted.exists_turns (h : vigil.Alerted) (move : Switchboard.Move) :
    ∃ turns : List Turn, (turns.foldl Vigil.step vigil).board = vigil.board.step move := by
  cases move with
  | create => exact ⟨[.create], rfl⟩
  | kill switch => exact ⟨[.kill switch], rfl⟩
  | guard switch => exact ⟨[.guard switch], rfl⟩
  | drop guard => exact ⟨[.drop guard], rfl⟩
  | start switch deadline? => exact ⟨[.start switch deadline?], rfl⟩
  | wake number =>
    by_cases heffect : vigil.board.step (.wake number) = vigil.board
    · exact ⟨[], heffect.symm⟩
    · obtain ⟨waiter, hwaiter, hblocked, htripped⟩ := Switchboard.of_step_wake_ne heffect
      obtain ⟨alert, halert⟩ :=
        Option.isSome_iff_exists.mp (h.woken number waiter hwaiter hblocked htripped)
      refine ⟨[.look number], (board_look halert).trans ?_⟩
      cases alert with
      | roused => rfl
      | timedOut =>
        obtain ⟨found, hfound, -, hdeadline⟩ := h.blocked number .timedOut halert
        obtain rfl := Option.some.inj (hwaiter.symm.trans hfound)
        exact Switchboard.step_timeOut_eq_wake hwaiter (hdeadline rfl) htripped
  | timeOut number =>
    by_cases heffect : vigil.board.step (.timeOut number) = vigil.board
    · exact ⟨[], heffect.symm⟩
    · obtain ⟨waiter, hwaiter, hblocked, hdeadline⟩ := Switchboard.of_step_timeOut_ne heffect
      cases halert : vigil.alert? number with
      | none =>
        have hparked := isParked_iff.mpr ⟨halert, waiter, hwaiter, hblocked⟩
        exact ⟨[.timeOut number, .look number], board_timeOut_look hparked hwaiter hdeadline⟩
      | some alert =>
        cases alert with
        | timedOut => exact ⟨[.look number], board_look halert⟩
        | roused =>
          by_cases hwoken : vigil.board.step (.wake number) = vigil.board
          · -- It was roused for no reason, so that it looks in vain before its time runs out.
            have hsame : (vigil.step (.look number)).board = vigil.board :=
              (board_look halert).trans hwoken
            have hparked : (vigil.step (.look number)).isParked number = true :=
              isParked_iff.mpr ⟨alert?_look vigil number, waiter, hsame ▸ hwaiter, hblocked⟩
            refine ⟨[.look number, .timeOut number, .look number],
              (board_timeOut_look hparked (hsame ▸ hwaiter) hdeadline).trans ?_⟩
            rw [hsame]
          · obtain ⟨found, hfound, -, htripped⟩ := Switchboard.of_step_wake_ne hwoken
            obtain rfl := Option.some.inj (hwaiter.symm.trans hfound)
            refine ⟨[.look number], (board_look halert).trans ?_⟩
            exact (Switchboard.step_timeOut_eq_wake hwaiter hdeadline htripped).symm

/-- The boards that come about in turns are those that come about in moves. -/
theorem exists_run_iff (board : Switchboard) :
    (∃ turns, (run turns).board = board) ↔ ∃ moves, Switchboard.empty.run moves = board := by
  constructor
  · rintro ⟨turns, rfl⟩
    induction turns using List.reverseRecOn with
    | nil => exact ⟨[], rfl⟩
    | append_singleton turns turn ih =>
      obtain ⟨moves, hmoves⟩ := ih
      rw [run_snoc, board_step]
      cases (run turns).move? turn with
      | none => exact ⟨moves, hmoves⟩
      | some move =>
        refine ⟨moves ++ [move], ?_⟩
        rw [Switchboard.run_snoc, hmoves]
        rfl
  · rintro ⟨moves, rfl⟩
    induction moves using List.reverseRecOn with
    | nil => exact ⟨[], rfl⟩
    | append_singleton moves move ih =>
      obtain ⟨turns, hturns⟩ := ih
      obtain ⟨further, hfurther⟩ := (run_alerted turns).exists_turns move
      refine ⟨turns ++ further, ?_⟩
      rw [run, List.foldl_append, ← run, hfurther, hturns, Switchboard.run_snoc]

end Vigil

end LoginThrottle
