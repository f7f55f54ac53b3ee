import LoginThrottle.Account.Key
import LoginThrottle.Ordered
import LoginThrottle.Word

/-!
The failed logins of each account since its last success. An account without an entry has none;
an entry shows the spelling under which its first failure was recorded.
-/

set_option autoImplicit false
set_option relaxedAutoImplicit false

namespace LoginThrottle

/-- A line of the published table. -/
structure Row where
  account : String
  failures : UInt64
  deriving DecidableEq, Repr, Inhabited

inductive ColumnValue
  | text (value : String)
  | count (value : UInt64)
  deriving DecidableEq, Repr

/-- Column 0 is the account and column 1 its failures; there are no others. -/
def Row.column? (row : Row) : Nat → Option ColumnValue
  | 0 => some (.text row.account)
  | 1 => some (.count row.failures)
  | _ => none

structure Ledger where
  entries : List (AccountKey × UInt64)
  deriving Repr, Inhabited

namespace Ledger

def empty : Ledger :=
  ⟨[]⟩

def count (ledger : Ledger) (key : AccountKey) : UInt64 :=
  (Ordered.find? key ledger.entries).getD 0

/-- One more failure. The count stops at the largest word. -/
def add (ledger : Ledger) (key : AccountKey) : Ledger :=
  ⟨Ordered.upsert key (fun count? ↦ Word.saturatingSucc (count?.getD 0)) ledger.entries⟩

def forget (ledger : Ledger) (key : AccountKey) : Ledger :=
  ⟨Ordered.erase key ledger.entries⟩

/-- Whether there is no entry for the key, so that forgetting it would change nothing. -/
def lacks (ledger : Ledger) (key : AccountKey) : Bool :=
  (Ordered.find? key ledger.entries).isNone

def size (ledger : Ledger) : Nat :=
  ledger.entries.length

/-- The table: an entry a row, in the order of the keys. -/
def rows (ledger : Ledger) : List Row :=
  ledger.entries.map fun (key, failures) ↦ ⟨key.spelling, failures⟩

theorem length_rows (ledger : Ledger) : ledger.rows.length = ledger.size :=
  List.length_map _

end Ledger

end LoginThrottle
