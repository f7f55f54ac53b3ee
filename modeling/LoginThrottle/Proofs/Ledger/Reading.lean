import LoginThrottle.Ledger.Cursor
import LoginThrottle.Proofs.Ledger.History

/-!
Reading a ledger through a cursor while the ledger goes on being used. The cursor shows the rows
there were when it was opened: the n-th advance since then, or since the last rewind, comes to the
n-th row, and to none once the rows are used up. `answer_run_eq` says so for every sequence of uses,
and that reading a ledger to the end gives exactly its rows.
-/

set_option autoImplicit false
set_option relaxedAutoImplicit false

namespace LoginThrottle

/-! ### Cursors by the number of advances -/

namespace Cursor

/-- The cursor on these rows after so many advances. -/
def after (rows : List Row) : Nat → Cursor
  | 0 => ⟨rows, 0, true⟩
  | passed + 1 => ⟨rows, min passed rows.length, false⟩

variable (rows : List Row) (advances : Nat)

theorem start_eq_after (ledger : Ledger) : start ledger = after ledger.rows 0 :=
  rfl

theorem rows_after : (after rows advances).rows = rows := by
  cases advances <;> rfl

theorem rewind_after : (after rows advances).rewind = after rows 0 := by
  cases advances <;> rfl

theorem advance_after : (after rows advances).advance = after rows (advances + 1) := by
  have hmoved (position : Nat) : advance ⟨rows, position, false⟩ =
      ⟨rows, if position < rows.length then position + 1 else position, false⟩ := by
    unfold advance
    by_cases hroom : position < rows.length <;> simp [hroom]
  cases advances with
  | zero =>
    have hfirst : min 0 rows.length = 0 := by omega
    rw [after, after, advance, hfirst]
    rfl
  | succ passed =>
    have hposition : (if min passed rows.length < rows.length then min passed rows.length + 1
        else min passed rows.length) = min (passed + 1) rows.length := by
      split <;> omega
    rw [after, after, hmoved, hposition]

/-- The n-th advance comes to the n-th row, if there is one. -/
theorem current?_after_succ : (after rows (advances + 1)).current? = rows[advances]? := by
  have hstands : (after rows (advances + 1)).current? = rows[min advances rows.length]? := rfl
  rw [hstands]
  by_cases hroom : advances < rows.length
  · rw [Nat.min_eq_left (by omega)]
  · rw [Nat.min_eq_right (by omega), List.getElem?_eq_none (by omega),
      List.getElem?_eq_none (by omega)]

variable {rows advances}

/-- A cursor that stands on a row has the rows behind that one left to read. -/
theorem drainFrom_eq {cursor : Cursor} (hcursor : cursor = after rows (advances + 1))
    (h : cursor.current?.isSome) : drain.drainFrom cursor h = rows.drop (advances + 1) := by
  induction hleft : rows.length - advances generalizing cursor advances with
  | zero =>
    rw [hcursor, current?_after_succ, List.getElem?_eq_none (by omega)] at h
    exact absurd h (by simp)
  | succ left ih =>
    have hadvance : cursor.advance = after rows (advances + 1 + 1) := by
      rw [hcursor, advance_after]
    have hnext : cursor.advance.current? = rows[advances + 1]? := by
      rw [hadvance, current?_after_succ]
    rw [drain.drainFrom]
    split
    · next hnone =>
      rw [hnext, List.getElem?_eq_none_iff] at hnone
      exact (List.drop_eq_nil_of_le hnone).symm
    · next row hrow =>
      rw [ih hadvance _ (by omega)]
      rw [hnext, List.getElem?_eq_some_iff] at hrow
      obtain ⟨hroom, rfl⟩ := hrow
      exact (List.drop_eq_getElem_cons hroom).symm

/-- Reading from the beginning gives every row. -/
theorem drain_eq {cursor : Cursor} (hcursor : cursor = after rows 0) : cursor.drain = rows := by
  have hadvance : cursor.advance = after rows (0 + 1) := by rw [hcursor, advance_after]
  have hfirst : cursor.advance.current? = rows[0]? := by rw [hadvance, current?_after_succ]
  rw [drain]
  split
  · next hnone =>
    rw [hfirst, List.getElem?_eq_none_iff] at hnone
    exact (List.length_eq_zero_iff.mp (Nat.le_zero.mp hnone)).symm
  · next row hrow =>
    rw [drainFrom_eq hadvance]
    rw [hfirst, List.getElem?_eq_some_iff] at hrow
    obtain ⟨hroom, rfl⟩ := hrow
    exact (List.drop_eq_getElem_cons hroom).symm

end Cursor

/-! ### A ledger and a cursor on it -/

/-- A ledger in use, and the cursor that was opened on it, until that is closed. -/
structure Reading where
  ledger : Ledger
  cursor? : Option Cursor

namespace Reading

/-- A use of the cursor or of the ledger. Rewinding says whether there are any rows, resetting says
nothing; and to ask for the next row and to ask for one by its place is the same. -/
inductive Call
  | rewind
  | reset
  | next
  | place
  | column (index : Nat)
  | length
  | close
  | ledger (call : Ledger.Call)
  deriving Repr

inductive Answer
  | empty (isEmpty : Bool)
  | row (row? : Option Row)
  | column (value? : Option ColumnValue)
  | length (length : Nat)
  | rows (rows : List Row)
  deriving DecidableEq, Repr

def start (ledger : Ledger) : Reading :=
  ⟨ledger, some (.start ledger)⟩

/-- What a call makes of an open cursor, and the answer to it if it has one. -/
def Call.act (cursor : Cursor) : Call → Option Cursor × Option Answer
  | .rewind => (some cursor.rewind, some (.empty cursor.rewind.isEmpty))
  | .reset => (some cursor.rewind, none)
  | .next | .place => (some cursor.advance, some (.row cursor.advance.current?))
  | .column index => (some cursor, some (.column (cursor.column? index)))
  | .length => (some cursor, some (.length cursor.rows.length))
  | .close => (none, some (.rows cursor.rows))
  | .ledger _ => (some cursor, none)

def Call.change (ledger : Ledger) : Call → Ledger
  | .ledger call => ledger.perform call
  | _ => ledger

def perform (reading : Reading) (call : Call) : Reading × Option Answer :=
  match reading.cursor? with
  | some cursor => (⟨call.change reading.ledger, (call.act cursor).1⟩, (call.act cursor).2)
  | none => (⟨call.change reading.ledger, none⟩, none)

def run (reading : Reading) (calls : List Call) : Reading :=
  calls.foldl (fun reached call ↦ (reached.perform call).1) reading

/-! ### Answers by history -/

namespace Call

def isRewind : Call → Bool
  | .rewind | .reset => true
  | _ => false

def isAdvance : Call → Bool
  | .next | .place => true
  | _ => false

def isClose : Call → Bool
  | .close => true
  | _ => false

end Call

/-- The calls since the cursor was opened, the latest first. -/
abbrev History : Type :=
  List Call

namespace History

/-- The advances since the cursor was opened or last rewound. -/
def advances (history : History) : Nat :=
  (history.takeWhile fun call ↦ !call.isRewind).countP Call.isAdvance

def isClosed (history : History) : Bool :=
  history.any Call.isClose

/-- The row that the last advance came to. -/
def row? (rows : List Row) (history : History) : Option Row :=
  match history.advances with
  | 0 => none
  | passed + 1 => rows[passed]?

/-- The answer that a call is due by the rows there were when the cursor was opened. -/
def due (rows : List Row) (history : History) (call : Call) : Option Answer :=
  if history.isClosed then none
  else
    match call with
    | .rewind => some (.empty rows.isEmpty)
    | .next | .place => some (.row rows[history.advances]?)
    | .column index =>
      some (.column ((history.row? rows).bind fun row ↦
        [ColumnValue.text row.account, ColumnValue.count row.failures][index]?))
    | .length => some (.length rows.length)
    | .close => some (.rows rows)
    | .reset | .ledger _ => none

theorem advances_cons (call : Call) (earlier : History) :
    advances (call :: earlier) =
      if call.isRewind then 0 else advances earlier + if call.isAdvance then 1 else 0 := by
  rw [advances, List.takeWhile_cons]
  cases call.isRewind with
  | true => rfl
  | false => exact List.countP_cons

end History

/-! ### The cursor behind the history -/

theorem column?_eq (row : Row) (index : Nat) :
    row.column? index = [ColumnValue.text row.account, ColumnValue.count row.failures][index]? := by
  match index with
  | 0 => rfl
  | 1 => rfl
  | _ + 2 => rfl

/-- The cursor is where the history has left it. -/
def Follows (rows : List Row) (history : History) (reading : Reading) : Prop :=
  reading.cursor? = if history.isClosed then none else some (.after rows history.advances)

namespace Follows

variable {rows : List Row} {earlier : History} {reading : Reading}

theorem answer (h : Follows rows earlier reading) (call : Call) :
    (reading.perform call).2 = earlier.due rows call := by
  unfold Reading.perform History.due
  rw [h]
  cases earlier.isClosed with
  | true => rfl
  | false =>
    have hadvanced : (Cursor.after rows earlier.advances).advance.current? =
        rows[earlier.advances]? := by
      rw [Cursor.advance_after, Cursor.current?_after_succ]
    have hstands : (Cursor.after rows earlier.advances).current? = earlier.row? rows := by
      unfold History.row?
      cases earlier.advances with
      | zero => rfl
      | succ passed => exact Cursor.current?_after_succ rows passed
    cases call with
    | rewind => exact congrArg (some ∘ Answer.empty ∘ Cursor.isEmpty) (Cursor.rewind_after rows _)
    | reset => rfl
    | next => exact congrArg (some ∘ Answer.row) hadvanced
    | place => exact congrArg (some ∘ Answer.row) hadvanced
    | column index =>
      have hcolumn : (Cursor.after rows earlier.advances).column? index =
          (earlier.row? rows).bind fun row ↦
            [ColumnValue.text row.account, ColumnValue.count row.failures][index]? := by
        rw [Cursor.column?, hstands]
        exact congrArg (Option.bind _) (funext fun row ↦ column?_eq row index)
      exact congrArg (some ∘ Answer.column) hcolumn
    | length => exact congrArg (some ∘ Answer.length ∘ List.length) (Cursor.rows_after rows _)
    | close => exact congrArg (some ∘ Answer.rows) (Cursor.rows_after rows _)
    | ledger usage => rfl

theorem perform (h : Follows rows earlier reading) (call : Call) :
    Follows rows (call :: earlier) (reading.perform call).1 := by
  have hclosed : History.isClosed (call :: earlier) = (call.isClose || earlier.isClosed) :=
    List.any_cons
  unfold Follows Reading.perform
  rw [h, hclosed, History.advances_cons]
  cases earlier.isClosed with
  | true =>
    rw [Bool.or_true]
    rfl
  | false =>
    rw [Bool.or_false]
    cases call with
    | rewind => exact congrArg some (Cursor.rewind_after _ _)
    | reset => exact congrArg some (Cursor.rewind_after _ _)
    | next => exact congrArg some (Cursor.advance_after _ _)
    | place => exact congrArg some (Cursor.advance_after _ _)
    | column index => rfl
    | length => rfl
    | close => rfl
    | ledger usage => rfl

theorem run (h : Follows rows earlier reading) (calls : List Call) :
    Follows rows (calls.reverse ++ earlier) (reading.run calls) := by
  induction calls generalizing reading earlier with
  | nil => exact h
  | cons call rest ih =>
    rw [List.reverse_cons, List.append_assoc]
    exact ih (h.perform call)

end Follows

/-! ### Every reading -/

/-- A cursor opened on a ledger, however that came about and whatever happens to either afterwards,
answers by the rows there were. Read to the end it gives all of them, by account. -/
theorem answer_run_eq (uses : List Ledger.Call) (calls : List Call) (call : Call) :
    let ledger := Ledger.empty.run uses
    (((start ledger).run calls).perform call).2 = History.due ledger.rows calls.reverse call
      ∧ ledger.listing = ledger.rows
      ∧ ledger.rows.Pairwise fun a b ↦ compare (AccountKey.mk a.account) ⟨b.account⟩ = .lt := by
  intro ledger
  have hfollows : Follows ledger.rows calls.reverse ((start ledger).run calls) := by
    have hstart : Follows ledger.rows [] (start ledger) := rfl
    rw [← List.append_nil calls.reverse]
    exact hstart.run calls
  have hproper : ledger.Proper := by
    have hempty : Ledger.Remembers [] .empty :=
      ⟨Ledger.proper_empty, fun _ ↦ rfl, fun _ hentry ↦ absurd hentry List.not_mem_nil⟩
    exact (hempty.run uses).proper
  have hlisting : ledger.listing = ledger.rows := by
    rw [Ledger.listing, Cursor.start_eq_after]
    exact Cursor.drain_eq (Cursor.rewind_after ledger.rows 0)
  exact ⟨hfollows.answer call, hlisting, List.pairwise_map.mpr hproper.ascending⟩

end Reading

end LoginThrottle
