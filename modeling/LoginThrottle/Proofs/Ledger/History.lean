import LoginThrottle.Proofs.Ledger

/-!
What a ledger shows, told from its history alone. The failures of an account that count are those
added since it was last forgotten or everything was reset, whichever is later, and the table shows
the account under the spelling of the first of them.

`run_shows_history` says that this is what every use of an empty ledger ends in, and
`proper_iff_exists_run` that any proper ledger is the end of one.
-/

set_option autoImplicit false
set_option relaxedAutoImplicit false

namespace LoginThrottle.Ledger

open Std

/-! ### Uses of a ledger -/

inductive Call
  | add (key : AccountKey)
  | forget (key : AccountKey)
  | reset
  deriving Repr

def perform (ledger : Ledger) : Call → Ledger
  | .add key => ledger.add key
  | .forget key => ledger.forget key
  | .reset => .empty

def run (ledger : Ledger) (calls : List Call) : Ledger :=
  calls.foldl perform ledger

namespace Call

/-- Whether the account has no failures after the call, whatever it had before. -/
def clears (key : AccountKey) : Call → Bool
  | .add _ => false
  | .forget other => key == other
  | .reset => true

/-- The spelling of the account in a call that adds a failure of it. -/
def added? (key : AccountKey) : Call → Option AccountKey
  | .add other => if key == other then some other else none
  | .forget _ | .reset => none

end Call

/-! ### The table by history -/

/-- The uses so far, the latest first. -/
abbrev History : Type :=
  List Call

namespace History

/-- The spellings of the failures of an account that count, the latest first. -/
def spellings (key : AccountKey) (history : History) : List AccountKey :=
  (history.takeWhile fun call ↦ !call.clears key).filterMap (Call.added? key)

def failures (key : AccountKey) (history : History) : Nat :=
  min (history.spellings key).length (2 ^ 64 - 1)

/-- The spelling of the first failure that counts. -/
def spelling? (key : AccountKey) (history : History) : Option AccountKey :=
  (history.spellings key).getLast?

variable {key other : AccountKey} {earlier : History}

theorem spellings_cons (key : AccountKey) (call : Call) (earlier : History) :
    spellings key (call :: earlier) =
      match call with
      | .add other => if key == other then other :: spellings key earlier else spellings key earlier
      | .forget other => if key == other then [] else spellings key earlier
      | .reset => [] := by
  rw [spellings, List.takeWhile_cons]
  cases call with
  | add other =>
    simp only [Call.clears, Bool.not_false, if_true, List.filterMap_cons, Call.added?]
    cases key == other <;> rfl
  | forget other =>
    change List.filterMap _ (if !(key == other) then _ else _) = if key == other then _ else _
    cases key == other <;> rfl
  | reset => rfl

/-- The history of an account does not depend on its spelling. -/
theorem spellings_congr (h : (key == other) = true) (history : History) :
    history.spellings key = history.spellings other := by
  have hsame (account : AccountKey) : (key == account) = (other == account) := by
    rw [Bool.eq_iff_iff, AccountKey.beq_iff, AccountKey.beq_iff, (AccountKey.beq_iff _ _).mp h]
  induction history with
  | nil => rfl
  | cons call earlier ih => simp only [spellings_cons, hsame, ih]

theorem failures_eq_zero_iff (key : AccountKey) (history : History) :
    history.failures key = 0 ↔ history.spellings key = [] := by
  rw [failures, ← List.length_eq_zero_iff]
  omega

/-- Later failures do not change the spelling. -/
theorem spelling?_add {first : AccountKey} (h : earlier.spelling? key = some first)
    (added : AccountKey) : spelling? key (.add added :: earlier) = some first := by
  rw [spelling?, spellings_cons]
  simp only
  split
  · rw [List.getLast?_cons, ← spelling?, h]
    rfl
  · exact h

end History

/-! ### The ledger behind the history -/

/-- The ledger is as the history tells it: the counts, and the spellings. -/
structure Remembers (history : History) (ledger : Ledger) : Prop where
  proper : ledger.Proper
  count : ∀ key, (ledger.count key).toNat = history.failures key
  spelled : ∀ entry ∈ ledger.entries, history.spelling? entry.1 = some entry.1

namespace Remembers

variable {earlier : History} {ledger : Ledger}

theorem count_eq_zero_iff (h : Remembers earlier ledger) (key : AccountKey) :
    ledger.count key = 0 ↔ earlier.spellings key = [] := by
  rw [← History.failures_eq_zero_iff, ← h.count, ← UInt64.toNat_inj, UInt64.toNat_zero]

theorem count_add (h : Remembers earlier ledger) (added key : AccountKey) :
    ((ledger.add added).count key).toNat = History.failures key (.add added :: earlier) := by
  rw [Ledger.count_add h.proper, History.failures, History.spellings_cons]
  by_cases hsame : (key == added) = true
  · simp only [if_pos hsame, List.length_cons]
    rw [Word.toNat_saturatingSucc, h.count, History.failures, ← History.spellings_congr hsame]
    omega
  · simp only [if_neg hsame]
    exact h.count key

/-- A failure opens an entry under its own spelling, or is added to the one that is there. -/
theorem spelled_add (h : Remembers earlier ledger) (added : AccountKey)
    {entry : AccountKey × UInt64} (hentry : entry ∈ (ledger.add added).entries) :
    History.spelling? entry.1 (.add added :: earlier) = some entry.1 := by
  by_cases hfind : Ordered.find? added ledger.entries = none
  · rcases Ordered.mem_upsert hentry with hold | rfl | ⟨value, hold, -, -⟩
    · exact History.spelling?_add (h.spelled entry hold) added
    · have hnone : earlier.spellings added = [] :=
        (h.count_eq_zero_iff added).mp ((h.proper.count_eq_zero_iff added).mpr hfind)
      rw [History.spelling?, History.spellings_cons]
      simp only [BEq.rfl, if_true, hnone, List.getLast?_singleton]
    · exact History.spelling?_add (h.spelled _ hold) added
  · obtain ⟨value, hold⟩ := Ordered.exists_mem_of_mem_upsert h.proper.ascending hfind hentry
    exact History.spelling?_add (h.spelled _ hold) added

theorem count_forget (h : Remembers earlier ledger) (forgotten key : AccountKey) :
    ((ledger.forget forgotten).count key).toNat =
      History.failures key (.forget forgotten :: earlier) := by
  rw [Ledger.count_forget h.proper, History.failures, History.spellings_cons]
  by_cases hsame : (key == forgotten) = true
  · simp only [if_pos hsame]
    rfl
  · simp only [if_neg hsame]
    exact h.count key

theorem spelled_forget (h : Remembers earlier ledger) (forgotten : AccountKey)
    {entry : AccountKey × UInt64} (hentry : entry ∈ (ledger.forget forgotten).entries) :
    History.spelling? entry.1 (.forget forgotten :: earlier) = some entry.1 := by
  have hother : ¬ (entry.1 == forgotten) = true := by
    intro hsame
    have hnone : Ordered.find? entry.1 (ledger.forget forgotten).entries = none :=
      Ordered.find?_erase_of_eq h.proper.ascending (LawfulBEqOrd.compare_eq_iff_beq.mpr hsame)
    have hsome : Ordered.find? entry.1 (ledger.forget forgotten).entries = some entry.2 :=
      (Ordered.find?_eq_some_iff (h.proper.forget forgotten).ascending).mpr
        ⟨entry.1, hentry, ReflOrd.compare_self⟩
    exact absurd (hnone.symm.trans hsome) (by simp)
  rw [History.spelling?, History.spellings_cons]
  simp only [if_neg hother]
  exact h.spelled entry ((Ordered.erase_sublist forgotten _).subset hentry)

theorem perform (h : Remembers earlier ledger) (call : Call) :
    Remembers (call :: earlier) (ledger.perform call) := by
  cases call with
  | add key => exact ⟨h.proper.add key, h.count_add key, fun _ ↦ h.spelled_add key⟩
  | forget key => exact ⟨h.proper.forget key, h.count_forget key, fun _ ↦ h.spelled_forget key⟩
  | reset => exact ⟨proper_empty, fun _ ↦ rfl, fun _ hentry ↦ absurd hentry List.not_mem_nil⟩

theorem run (h : Remembers earlier ledger) (calls : List Call) :
    Remembers (calls.reverse ++ earlier) (ledger.run calls) := by
  induction calls generalizing ledger earlier with
  | nil => exact h
  | cons call rest ih =>
    rw [List.reverse_cons, List.append_assoc]
    exact ih (h.perform call)

/-- The table has exactly the rows that the history tells. -/
theorem mem_rows_iff (h : Remembers earlier ledger) (row : Row) :
    row ∈ ledger.rows ↔
      earlier.spelling? ⟨row.account⟩ = some ⟨row.account⟩
        ∧ row.failures.toNat = earlier.failures ⟨row.account⟩ := by
  have hshown : ∀ row ∈ ledger.rows, earlier.spelling? ⟨row.account⟩ = some ⟨row.account⟩
      ∧ row.failures.toNat = earlier.failures ⟨row.account⟩ := by
    intro row hrow
    have hcount := (h.proper.exists_row_iff ⟨row.account⟩ row.failures).mp ⟨row, hrow, BEq.rfl, rfl⟩
    obtain ⟨entry, hentry, rfl⟩ := List.mem_map.mp hrow
    exact ⟨h.spelled entry hentry, by rw [← h.count, hcount.1]⟩
  refine ⟨hshown row, fun ⟨hspelling, hfailures⟩ ↦ ?_⟩
  -- The account has a row; that row has the same spelling, so it is this one.
  have hne : ledger.count ⟨row.account⟩ ≠ 0 := by
    intro hzero
    rw [History.spelling?, (h.count_eq_zero_iff _).mp hzero] at hspelling
    exact absurd hspelling (by simp)
  obtain ⟨found, hfound, hsame, hcount⟩ :=
    (h.proper.exists_row_iff ⟨row.account⟩ (ledger.count ⟨row.account⟩)).mpr ⟨rfl, hne⟩
  have hspelled := (hshown found hfound).1
  rw [History.spelling?, ← History.spellings_congr hsame, ← History.spelling?, hspelling]
    at hspelled
  have haccount : row.account = found.account :=
    congrArg AccountKey.spelling (Option.some.inj hspelled)
  have hfailures : row.failures = found.failures := by
    rw [← UInt64.toNat_inj, hfailures, ← h.count, hcount]
  have hrow : row = found := by
    cases row
    cases found
    exact congr (congrArg Row.mk haccount) hfailures
  exact hrow ▸ hfound

end Remembers

/-! ### The ledgers that can be reached -/

theorem run_append (ledger : Ledger) (earlier later : List Call) :
    ledger.run (earlier ++ later) = (ledger.run earlier).run later :=
  List.foldl_append

theorem Proper.run {ledger : Ledger} (h : ledger.Proper) (calls : List Call) :
    (ledger.run calls).Proper := by
  induction calls generalizing ledger with
  | nil => exact h
  | cons call rest ih =>
    cases call with
    | add key => exact ih (h.add key)
    | forget key => exact ih (h.forget key)
    | reset => exact ih proper_empty

/-- The first failure of an account that is before all others. -/
theorem add_of_ascending {key : AccountKey} {failures : UInt64}
    {entries : List (AccountKey × UInt64)}
    (h : Ordered.Ascending ((key, failures) :: entries)) :
    Ledger.add ⟨entries⟩ key = ⟨(key, 1) :: entries⟩ := by
  have hone : Word.saturatingSucc 0 = 1 := by decide
  cases entries with
  | nil => simp only [add, Ordered.upsert, Option.getD_none, hone]
  | cons first rest =>
    have hlt : compare key first.1 = .lt := h.lt_of_mem List.mem_cons_self
    simp only [add, Ordered.upsert, hlt, Option.getD_none, hone]

/-- Any further one. -/
theorem add_cons_self (key : AccountKey) (failures : UInt64)
    (entries : List (AccountKey × UInt64)) :
    Ledger.add ⟨(key, failures) :: entries⟩ key =
      ⟨(key, Word.saturatingSucc failures) :: entries⟩ := by
  have hself : compare key key = .eq := ReflOrd.compare_self
  simp only [add, Ordered.upsert, hself, Option.getD_some]

theorem run_replicate_add {key : AccountKey} {failures : UInt64}
    {entries : List (AccountKey × UInt64)} (h : Ordered.Ascending ((key, failures) :: entries))
    (n : Nat) (hn : n + 1 < UInt64.size) :
    Ledger.run ⟨entries⟩ (List.replicate (n + 1) (.add key)) =
      ⟨(key, UInt64.ofNat (n + 1)) :: entries⟩ := by
  induction n with
  | zero => exact add_of_ascending h
  | succ n ih =>
    have hnext : Word.saturatingSucc (UInt64.ofNat (n + 1)) = UInt64.ofNat (n + 1 + 1) := by
      rw [← UInt64.toNat_inj, Word.toNat_saturatingSucc, UInt64.toNat_ofNat_of_lt' (by omega),
        UInt64.toNat_ofNat_of_lt' hn]
      exact Nat.min_eq_left (Nat.le_pred_of_lt hn)
    rw [List.replicate_succ', run_append, ih (by omega), ← hnext]
    exact add_cons_self key _ entries

/-- The proper ledgers are those that can be reached from the empty one. -/
theorem proper_iff_exists_run {ledger : Ledger} :
    ledger.Proper ↔ ∃ calls, empty.run calls = ledger := by
  constructor
  · intro h
    obtain ⟨entries⟩ := ledger
    induction entries with
    | nil => exact ⟨[], rfl⟩
    | cons entry rest ih =>
      obtain ⟨key, failures⟩ := entry
      have hrest : Proper ⟨rest⟩ :=
        ⟨(List.pairwise_cons.mp h.ascending).2,
          fun other hother ↦ h.nonzero other (List.mem_cons_of_mem _ hother)⟩
      obtain ⟨calls, hcalls⟩ := ih hrest
      have hpos : failures.toNat - 1 + 1 = failures.toNat := by
        refine Nat.sub_add_cancel (Nat.pos_of_ne_zero fun hzero ↦ ?_)
        exact h.nonzero _ List.mem_cons_self (UInt64.toNat_inj.mp hzero)
      have hadded :=
        run_replicate_add h.ascending (failures.toNat - 1) (hpos.symm ▸ failures.toNat_lt)
      rw [hpos, UInt64.ofNat_toNat] at hadded
      refine ⟨calls ++ List.replicate failures.toNat (.add key), ?_⟩
      rw [run_append, hcalls, hadded]
  · rintro ⟨calls, rfl⟩
    exact proper_empty.run calls

/-! ### Every use of a ledger -/

/-- The counts, what is said on forgetting, and the table of a ledger with this history. -/
structure Shows (history : History) (ledger : Ledger) : Prop where
  count : ∀ key, (ledger.count key).toNat = history.failures key
  lacks : ∀ key, ledger.lacks key = true ↔ ledger.count key = 0
  nonzero : ∀ entry ∈ ledger.entries, entry.2 ≠ 0
  size : ledger.size = ledger.rows.length
  ascending : ledger.rows.Pairwise fun a b ↦ compare (AccountKey.mk a.account) ⟨b.account⟩ = .lt
  has_row : ∀ key failures,
    (∃ row ∈ ledger.rows, (key == ⟨row.account⟩) = true ∧ row.failures = failures) ↔
      ledger.count key = failures ∧ failures ≠ 0
  mem_rows : ∀ row, row ∈ ledger.rows ↔
    history.spelling? ⟨row.account⟩ = some ⟨row.account⟩
      ∧ row.failures.toNat = history.failures ⟨row.account⟩

/-- However an empty ledger is used, it shows what the history of its use tells. -/
theorem run_shows_history (calls : List Call) : Shows calls.reverse (empty.run calls) := by
  have hstart : Remembers [] empty :=
    ⟨proper_empty, fun _ ↦ rfl, fun _ hentry ↦ absurd hentry List.not_mem_nil⟩
  have hend : Remembers calls.reverse (empty.run calls) := by
    rw [← List.append_nil calls.reverse]
    exact hstart.run calls
  exact
    { count := hend.count
      lacks := fun key ↦ by rw [lacks, Option.isNone_iff_eq_none, hend.proper.count_eq_zero_iff]
      nonzero := hend.proper.nonzero
      size := (length_rows _).symm
      ascending := List.pairwise_map.mpr hend.proper.ascending
      has_row := hend.proper.exists_row_iff
      mem_rows := hend.mem_rows_iff }

example :
    (empty.run [.add ⟨"'root'@'h'"⟩, .forget ⟨"'ROOT'@'h'"⟩, .add ⟨"'Root'@'h'"⟩,
      .add ⟨"'root'@'H'"⟩]).rows = [⟨"'Root'@'h'", 2⟩] := by
  decide +kernel

end LoginThrottle.Ledger
