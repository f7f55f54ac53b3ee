import LoginThrottle.Ledger

/-!
A cursor over the table as it was when the cursor was opened; whatever happens to the ledger
afterwards does not show. Reading starts before the first row, each advance moves one row on, and
past the last row there is nothing however often it is asked for.
-/

set_option autoImplicit false
set_option relaxedAutoImplicit false

namespace LoginThrottle

structure Cursor where
  rows : List Row
  position : Nat
  beforeFirst : Bool
  deriving DecidableEq, Repr

namespace Cursor

def start (ledger : Ledger) : Cursor :=
  ⟨ledger.rows, 0, true⟩

def rewind (cursor : Cursor) : Cursor :=
  { cursor with position := 0, beforeFirst := true }

/-- The cursor moved one row on. -/
def advance (cursor : Cursor) : Cursor :=
  if cursor.beforeFirst then { cursor with beforeFirst := false }
  else if cursor.position < cursor.rows.length then
    { cursor with position := cursor.position + 1 }
  else cursor

/-- The row the cursor stands on. -/
def current? (cursor : Cursor) : Option Row :=
  if cursor.beforeFirst then none else cursor.rows[cursor.position]?

def column? (cursor : Cursor) (index : Nat) : Option ColumnValue :=
  cursor.current?.bind (·.column? index)

def isEmpty (cursor : Cursor) : Bool :=
  cursor.rows.isEmpty

/-- How many more advances can change the cursor. -/
def remaining (cursor : Cursor) : Nat :=
  cursor.rows.length - cursor.position + if cursor.beforeFirst then 1 else 0

/-- The rows that advancing until there is none passes. -/
def drain (cursor : Cursor) : List Row :=
  match h : cursor.advance.current? with
  | none => []
  | some row => row :: drainFrom cursor.advance (by simp [h])
where
  /-- The rows behind one that the cursor stands on. -/
  drainFrom (cursor : Cursor) (h : cursor.current?.isSome) : List Row :=
    match hn : cursor.advance.current? with
    | none => []
    | some row => row :: drainFrom cursor.advance (by simp [hn])
  termination_by cursor.remaining
  decreasing_by
    have hb : cursor.beforeFirst = false := by
      cases hb : cursor.beforeFirst
      · rfl
      · simp [current?, hb] at h
    have hp : cursor.position < cursor.rows.length := by
      obtain ⟨row', hrow⟩ := Option.isSome_iff_exists.1 h
      simp only [current?, hb] at hrow
      exact (List.getElem?_eq_some_iff.1 hrow).1
    simp only [advance, hb, hp, remaining]
    simp only [Bool.false_eq_true, ↓reduceIte]
    omega

end Cursor

/-- Every row of the ledger, read through a cursor. -/
def Ledger.listing (ledger : Ledger) : List Row :=
  (Cursor.start ledger).rewind.drain

end LoginThrottle
