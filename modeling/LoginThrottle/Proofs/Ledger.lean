import LoginThrottle.Ledger
import LoginThrottle.Proofs.Ordered
import LoginThrottle.Proofs.Word

/-!
The ledger through its counts. A proper ledger, which is any that recording and forgetting lead to
from the empty one, has its entries in ascending order and none of them at zero. On it one more
failure raises the count of that account alone, forgetting an account zeroes that count alone, and
the table has a row for an account exactly when its count is not zero.
-/

set_option autoImplicit false
set_option relaxedAutoImplicit false

namespace LoginThrottle.Ledger

open Std

/-- The entries ascend, and none of them is at zero. -/
structure Proper (ledger : Ledger) : Prop where
  ascending : Ordered.Ascending ledger.entries
  nonzero : ∀ entry ∈ ledger.entries, entry.2 ≠ 0

theorem proper_empty : empty.Proper :=
  ⟨List.Pairwise.nil, fun _ h ↦ absurd h List.not_mem_nil⟩

theorem Proper.add {ledger : Ledger} (h : ledger.Proper) (key : AccountKey) :
    (ledger.add key).Proper := by
  refine ⟨h.ascending.upsert key _, fun entry hentry ↦ ?_⟩
  rcases Ordered.mem_upsert hentry with hold | hnew | ⟨value, -, -, hvalue⟩
  · exact h.nonzero entry hold
  · rw [hnew]
    exact Word.saturatingSucc_ne_zero ((none : Option UInt64).getD 0)
  · rw [hvalue]
    exact Word.saturatingSucc_ne_zero _

theorem Proper.forget {ledger : Ledger} (h : ledger.Proper) (key : AccountKey) :
    (ledger.forget key).Proper :=
  ⟨h.ascending.erase key,
    fun entry hentry ↦ h.nonzero entry ((Ordered.erase_sublist key _).subset hentry)⟩

/-! ### Counts -/

@[simp] theorem count_empty (key : AccountKey) : empty.count key = 0 :=
  rfl

/-- The count is that of the account, however its key is spelled. -/
theorem count_congr (ledger : Ledger) {a b : AccountKey} (h : (a == b) = true) :
    ledger.count a = ledger.count b := by
  rw [count, count, Ordered.find?_congr (LawfulBEqOrd.compare_eq_iff_beq.mpr h)]

theorem count_add {ledger : Ledger} (h : ledger.Proper) (key other : AccountKey) :
    (ledger.add key).count other =
      if other == key then Word.saturatingSucc (ledger.count key) else ledger.count other := by
  by_cases hsame : (other == key) = true
  · rw [if_pos hsame, count, add, Ordered.find?_upsert_of_eq h.ascending
      (LawfulBEqOrd.compare_eq_iff_beq.mpr hsame)]
    rfl
  · rw [if_neg hsame, count, add, Ordered.find?_upsert_of_ne
      fun heq ↦ hsame (LawfulBEqOrd.compare_eq_iff_beq.mp heq)]
    rfl

theorem count_forget {ledger : Ledger} (h : ledger.Proper) (key other : AccountKey) :
    (ledger.forget key).count other = if other == key then 0 else ledger.count other := by
  by_cases hsame : (other == key) = true
  · rw [if_pos hsame, count, forget, Ordered.find?_erase_of_eq h.ascending
      (LawfulBEqOrd.compare_eq_iff_beq.mpr hsame)]
    rfl
  · rw [if_neg hsame, count, forget, Ordered.find?_erase_of_ne
      fun heq ↦ hsame (LawfulBEqOrd.compare_eq_iff_beq.mp heq)]
    rfl

/-! ### Entries and rows -/

theorem Proper.find?_ne_some_zero {ledger : Ledger} (h : ledger.Proper) (key : AccountKey) :
    Ordered.find? key ledger.entries ≠ some 0 := by
  intro hfind
  obtain ⟨k, hmem, -⟩ := (Ordered.find?_eq_some_iff h.ascending).mp hfind
  exact h.nonzero _ hmem rfl

/-- An account is at zero exactly when it has no entry. -/
theorem Proper.count_eq_zero_iff {ledger : Ledger} (h : ledger.Proper) (key : AccountKey) :
    ledger.count key = 0 ↔ Ordered.find? key ledger.entries = none := by
  have hzero := h.find?_ne_some_zero key
  rw [count]
  cases hfind : Ordered.find? key ledger.entries with
  | none => simp
  | some value =>
    rw [hfind] at hzero
    simpa using hzero

/-- Forgetting an account that is at zero changes nothing. -/
theorem Proper.forget_of_count_eq_zero {ledger : Ledger} (h : ledger.Proper) {key : AccountKey}
    (hcount : ledger.count key = 0) : ledger.forget key = ledger := by
  rw [Ledger.forget, Ordered.erase_of_find?_eq_none ((h.count_eq_zero_iff key).mp hcount)]

/-- The table has one row for each account that is not at zero, and it shows the count. -/
theorem Proper.exists_row_iff {ledger : Ledger} (h : ledger.Proper) (key : AccountKey)
    (failures : UInt64) :
    (∃ row ∈ ledger.rows, (key == ⟨row.account⟩) = true ∧ row.failures = failures) ↔
      ledger.count key = failures ∧ failures ≠ 0 := by
  have hfind : (∃ row ∈ ledger.rows, (key == ⟨row.account⟩) = true ∧ row.failures = failures) ↔
      Ordered.find? key ledger.entries = some failures := by
    rw [Ordered.find?_eq_some_iff h.ascending]
    constructor
    · rintro ⟨row, hrow, hkey, rfl⟩
      obtain ⟨⟨k, v⟩, hmem, rfl⟩ := List.mem_map.mp hrow
      exact ⟨k, hmem, LawfulBEqOrd.compare_eq_iff_beq.mpr hkey⟩
    · rintro ⟨k, hmem, hk⟩
      exact ⟨⟨k.spelling, failures⟩, List.mem_map.mpr ⟨(k, failures), hmem, rfl⟩,
        LawfulBEqOrd.compare_eq_iff_beq.mp hk, rfl⟩
  have hzero := h.find?_ne_some_zero key
  rw [hfind, count]
  cases hentry : Ordered.find? key ledger.entries with
  | none => grind
  | some value =>
    rw [hentry] at hzero
    grind

theorem Proper.has_row_iff {ledger : Ledger} (h : ledger.Proper) (key : AccountKey) :
    (∃ row ∈ ledger.rows, (key == ⟨row.account⟩) = true) ↔ ledger.count key ≠ 0 := by
  constructor
  · rintro ⟨row, hrow, hkey⟩
    obtain ⟨hcount, hne⟩ := (h.exists_row_iff key row.failures).mp ⟨row, hrow, hkey, rfl⟩
    exact hcount ▸ hne
  · intro hne
    obtain ⟨row, hrow, hkey, -⟩ := (h.exists_row_iff key (ledger.count key)).mpr ⟨rfl, hne⟩
    exact ⟨row, hrow, hkey⟩

/-! ### Other accounts -/

/-- The rows of every account but this one, in order. -/
def otherRows (ledger : Ledger) (key : AccountKey) : List Row :=
  ledger.rows.filter fun row ↦ !(key == ⟨row.account⟩)

theorem otherRows_eq (ledger : Ledger) (key : AccountKey) :
    ledger.otherRows key =
      (ledger.entries.filter fun entry ↦ !(key == entry.1)).map
        fun (key, failures) ↦ ⟨key.spelling, failures⟩ := by
  rw [otherRows, rows, List.filter_map]
  rfl

theorem not_beq_of_compare_eq {key other : AccountKey} (h : compare key other = .eq) :
    (!(key == other)) = false := by
  rw [LawfulBEqOrd.compare_eq_iff_beq.mp h, Bool.not_true]

/-- A failure of one account leaves the rows of all others as they are. -/
theorem otherRows_add (ledger : Ledger) (key : AccountKey) :
    (ledger.add key).otherRows key = ledger.otherRows key := by
  rw [otherRows_eq, otherRows_eq]
  exact congrArg (List.map _)
    (Ordered.filter_upsert (fun _ ↦ not_beq_of_compare_eq) _ ledger.entries)

theorem otherRows_forget (ledger : Ledger) (key : AccountKey) :
    (ledger.forget key).otherRows key = ledger.otherRows key := by
  rw [otherRows_eq, otherRows_eq]
  exact congrArg (List.map _) (Ordered.filter_erase (fun _ ↦ not_beq_of_compare_eq) ledger.entries)

end LoginThrottle.Ledger
