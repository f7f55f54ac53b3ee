import LoginThrottle.Setting

/-!
A selection of settings: those whose changes a subscriber wants to hear of.
-/

set_option autoImplicit false
set_option relaxedAutoImplicit false

namespace LoginThrottle

structure Selection where
  threshold : Bool
  minDelay : Bool
  maxDelay : Bool
  deriving DecidableEq, Repr

namespace Selection

def empty : Selection :=
  ⟨false, false, false⟩

def insert (selection : Selection) : Setting → Selection
  | .threshold => { selection with threshold := true }
  | .minDelay => { selection with minDelay := true }
  | .maxDelay => { selection with maxDelay := true }

def contains (selection : Selection) : Setting → Bool
  | .threshold => selection.threshold
  | .minDelay => selection.minDelay
  | .maxDelay => selection.maxDelay

def ofList (settings : List Setting) : Selection :=
  settings.foldl insert empty

def all : Selection :=
  ofList Setting.all

def isEmpty (selection : Selection) : Bool :=
  selection == empty

theorem contains_insert (selection : Selection) (a b : Setting) :
    (selection.insert a).contains b = true ↔ a = b ∨ selection.contains b = true := by
  cases a <;> cases b <;> simp [insert, contains]

theorem contains_all (setting : Setting) : all.contains setting = true := by
  cases setting <;> rfl

theorem contains_ofList (settings : List Setting) (setting : Setting) :
    (ofList settings).contains setting = true ↔ setting ∈ settings := by
  have fold (start : Selection) :
      (settings.foldl insert start).contains setting = true
        ↔ start.contains setting = true ∨ setting ∈ settings := by
    induction settings generalizing start with
    | nil => simp
    | cons a rest ih =>
      rw [List.foldl_cons, ih, contains_insert, List.mem_cons, eq_comm (a := setting)]
      exact ⟨fun h ↦ by grind, fun h ↦ by grind⟩
  rw [ofList, fold]
  cases setting <;> simp [empty, contains]

end Selection

end LoginThrottle
