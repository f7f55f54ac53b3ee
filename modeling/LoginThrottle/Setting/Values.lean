import LoginThrottle.Fault

/-!
A value for each setting. `validate` judges all three together, as at start-up; `check` judges one
proposed value against values that are already in place. Both ask for the range first, and then
for the least delay not to exceed the greatest.
-/

set_option autoImplicit false
set_option relaxedAutoImplicit false

namespace LoginThrottle

structure Settings where
  threshold : Int64
  minDelay : Int64
  maxDelay : Int64
  deriving DecidableEq, Repr

namespace Settings

def standard : Settings :=
  ⟨Setting.threshold.bounds.default, Setting.minDelay.bounds.default,
    Setting.maxDelay.bounds.default⟩

instance : Inhabited Settings where
  default := standard

def get (settings : Settings) : Setting → Int64
  | .threshold => settings.threshold
  | .minDelay => settings.minDelay
  | .maxDelay => settings.maxDelay

def set (settings : Settings) (setting : Setting) (value : Int64) : Settings :=
  match setting with
  | .threshold => { settings with threshold := value }
  | .minDelay => { settings with minDelay := value }
  | .maxDelay => { settings with maxDelay := value }

/-- The first setting whose value is out of its range. -/
def outlier? (settings : Settings) : Option Setting :=
  Setting.all.find? fun setting ↦ !setting.bounds.contains (settings.get setting)

def validate (settings : Settings) : Except Fault Unit :=
  match settings.outlier? with
  | some setting => .error (.outOfRange setting (settings.get setting))
  | none =>
    if settings.maxDelay < settings.minDelay then
      .error (.inconsistent .minDelay settings.minDelay .maxDelay settings.maxDelay)
    else .ok ()

/-- The delay bound that a proposed value would be on the wrong side of. -/
def conflict? (settings : Settings) (setting : Setting) (value : Int64) : Option Setting :=
  match setting with
  | .threshold => none
  | .minDelay => if settings.maxDelay < value then some .maxDelay else none
  | .maxDelay => if value < settings.minDelay then some .minDelay else none

def check (settings : Settings) (setting : Setting) (value : Int64) : Except Fault Unit :=
  if !setting.bounds.contains value then .error (.outOfRange setting value)
  else
    match settings.conflict? setting value with
    | some counterpart =>
      .error (.inconsistent setting value counterpart (settings.get counterpart))
    | none => .ok ()

@[simp] theorem get_set_self (settings : Settings) (setting : Setting) (value : Int64) :
    (settings.set setting value).get setting = value := by
  cases setting <;> rfl

theorem get_set_of_ne (settings : Settings) (value : Int64) {a b : Setting} (h : a ≠ b) :
    (settings.set a value).get b = settings.get b := by
  cases a <;> cases b <;> first | rfl | exact absurd rfl h

end Settings

end LoginThrottle
