import LoginThrottle.Proofs.Component.Service
import LoginThrottle.Proofs.Text.Decimal
import LoginThrottle.Proofs.Text.Utf8
import LoginThrottle.Proofs.Word
import LoginThrottle.Startup.Launch

/-!
The settings that an environment gives, and what becomes of them when the component is loaded. A
variable gives a value if it is set to the bytes of a text that denotes an integer which fits a
word. Any other variable is passed over, and its setting starts with its default, so that only a
value that is given can be out of range. A value that is given is never passed over: if it is out
of its range, or the delay bounds are then the wrong way round, nothing is loaded.
`environment_decides` is the summary.
-/

set_option autoImplicit false
set_option relaxedAutoImplicit false

namespace LoginThrottle

/-! ### The first setting out of its range -/

theorem Setting.contains_default (setting : Setting) :
    setting.bounds.contains setting.bounds.default = true := by
  cases setting <;> decide

namespace Settings

variable {settings : Settings} {setting : Setting}

/-- The value of the setting is out of its range, and those of the settings before it are not. -/
def IsFirstOutlier (settings : Settings) (setting : Setting) : Prop :=
  setting.bounds.contains (settings.get setting) = false
    ∧ ∃ before after, Setting.all = before ++ setting :: after
      ∧ ∀ earlier ∈ before, earlier.bounds.contains (settings.get earlier) = true

theorem outlier?_eq_some_iff :
    settings.outlier? = some setting ↔ settings.IsFirstOutlier setting := by
  rw [outlier?, List.find?_eq_some_iff_append, IsFirstOutlier]
  simp

theorem validate_of_isFirstOutlier (h : settings.IsFirstOutlier setting) :
    settings.validate = .error (.outOfRange setting (settings.get setting)) := by
  rw [validate, outlier?_eq_some_iff.mpr h]

theorem exists_isFirstOutlier (h : setting.bounds.contains (settings.get setting) = false) :
    ∃ first, settings.IsFirstOutlier first := by
  cases houtlier : settings.outlier? with
  | none =>
    have hcontains := (outlier?_eq_none_iff settings).mp houtlier setting
    exact absurd hcontains (by simp [h])
  | some first => exact ⟨first, outlier?_eq_some_iff.mp houtlier⟩

theorem validate_of_crossed
    (h : ∀ setting : Setting, setting.bounds.contains (settings.get setting) = true)
    (hcrossed : settings.maxDelay < settings.minDelay) :
    settings.validate =
      .error (.inconsistent .minDelay settings.minDelay .maxDelay settings.maxDelay) := by
  rw [validate, (outlier?_eq_none_iff settings).mpr h]
  exact if_pos hcrossed

theorem valid_of_not_crossed
    (h : ∀ setting : Setting, setting.bounds.contains (settings.get setting) = true)
    (hordered : ¬settings.maxDelay < settings.minDelay) : settings.Valid := by
  rw [← validate_eq_ok_iff, validate, (outlier?_eq_none_iff settings).mpr h]
  exact if_neg hordered

end Settings

namespace Component

theorem load_of_not_validated {σ : Type} {host : Host σ} {settings : Settings} {fault : Fault}
    (h : settings.validate = .error fault) (state : σ) :
    (load host settings state).result = .error fault := by
  rw [load, h]

end Component

namespace Environment

variable {environment : Environment} {setting : Setting}

/-! ### What a variable gives -/

/-- The variable of the setting is set to a text that denotes the value. -/
def Gives (environment : Environment) (setting : Setting) (value : Int64) : Prop :=
  ∃ text, environment.entries.lookup setting.variableName = some (Text.Utf8.encode text)
    ∧ Text.Numeral text value.toInt

theorem text?_eq_some_iff {name : String} {text : List Char} :
    environment.text? name = some text ↔
      environment.entries.lookup name = some (Text.Utf8.encode text) := by
  rw [text?, Option.bind_eq_some_iff]
  constructor
  · rintro ⟨bytes, hbytes, htext⟩
    rw [hbytes, Text.Utf8.decode?_eq_some_iff.mp htext]
  · intro hbytes
    exact ⟨_, hbytes, Text.Utf8.decode?_encode text⟩

theorem gives_iff {value : Int64} :
    environment.Gives setting value ↔
      ((environment.text? setting.variableName).bind Text.readInt?).bind Word.narrow? =
        some value := by
  simp only [Gives, Option.bind_eq_some_iff, text?_eq_some_iff, Text.readInt?_eq_some_iff,
    Word.narrow?_eq_some_iff]
  constructor
  · rintro ⟨text, hbytes, hnumeral⟩
    exact ⟨value.toInt, ⟨text, hbytes, hnumeral⟩, rfl⟩
  · rintro ⟨i, ⟨text, hbytes, hnumeral⟩, rfl⟩
    exact ⟨text, hbytes, hnumeral⟩

theorem get_settings (environment : Environment) (setting : Setting) :
    environment.settings.get setting = environment.value setting := by
  cases setting <;> rfl

theorem get_settings_of_gives {value : Int64} (h : environment.Gives setting value) :
    environment.settings.get setting = value := by
  rw [get_settings, Environment.value, gives_iff.mp h]

theorem get_settings_of_not_gives (h : ¬∃ value, environment.Gives setting value) :
    environment.settings.get setting = setting.bounds.default := by
  rw [get_settings, Environment.value]
  cases hread : ((environment.text? setting.variableName).bind Text.readInt?).bind Word.narrow? with
  | none => rfl
  | some value => exact absurd ⟨value, gives_iff.mpr hread⟩ h

/-- A value out of its range has been given. -/
theorem gives_of_not_contains
    (h : setting.bounds.contains (environment.settings.get setting) = false) :
    environment.Gives setting (environment.settings.get setting) := by
  by_cases hgiven : ∃ value, environment.Gives setting value
  · obtain ⟨value, hvalue⟩ := hgiven
    rw [get_settings_of_gives hvalue]
    exact hvalue
  · rw [get_settings_of_not_gives hgiven, setting.contains_default] at h
    exact absurd h (by simp)

/-! ### What is loaded -/

/-- The variable of the setting gives a value that is out of the range of the setting. -/
def Misses (environment : Environment) (setting : Setting) (value : Int64) : Prop :=
  environment.Gives setting value ∧ setting.bounds.contains value = false

theorem misses_iff {value : Int64} :
    environment.Misses setting value ↔
      environment.settings.get setting = value
        ∧ setting.bounds.contains (environment.settings.get setting) = false := by
  constructor
  · rintro ⟨hgives, hcontains⟩
    have hvalue := get_settings_of_gives hgives
    exact ⟨hvalue, by rw [hvalue]; exact hcontains⟩
  · rintro ⟨rfl, hcontains⟩
    exact ⟨gives_of_not_contains hcontains, hcontains⟩

/-- The first setting, in their order, whose variable gives a value out of its range. -/
def MissesFirst (environment : Environment) (setting : Setting) (value : Int64) : Prop :=
  environment.Misses setting value
    ∧ ∃ before after, Setting.all = before ++ setting :: after
      ∧ ∀ earlier ∈ before, ¬∃ other, environment.Misses earlier other

theorem forall_contains_iff :
    (∀ setting : Setting, setting.bounds.contains (environment.settings.get setting) = true) ↔
      ¬∃ setting value, environment.Misses setting value := by
  simp only [misses_iff, exists_and_right, exists_eq', true_and, not_exists, Bool.not_eq_false]

theorem missesFirst_of_isFirstOutlier (h : environment.settings.IsFirstOutlier setting) :
    environment.MissesFirst setting (environment.settings.get setting) := by
  obtain ⟨hcontains, before, after, hall, hbefore⟩ := h
  refine ⟨misses_iff.mpr ⟨rfl, hcontains⟩, before, after, hall, ?_⟩
  rintro earlier hearlier ⟨other, hmisses⟩
  have hout := (misses_iff.mp hmisses).2
  rw [hbefore earlier hearlier] at hout
  exact absurd hout (by simp)

/-- What an environment says about the settings, and whether the component is loaded with them into
a host that has nothing registered. -/
structure Decides (environment : Environment) : Prop where
  given : ∀ setting value, environment.Gives setting value →
    environment.settings.get setting = value
  passedOver : ∀ setting, (¬∃ value, environment.Gives setting value) →
    environment.settings.get setting = setting.bounds.default
  apart : ∀ (other : Environment) (setting : Setting),
    other.entries.lookup setting.variableName = environment.entries.lookup setting.variableName →
      other.settings.get setting = environment.settings.get setting
  written : ∀ settings : Settings,
    (∀ setting : Setting, environment.entries.lookup setting.variableName =
      some (Text.Utf8.encode (Text.writeInt (settings.get setting).toInt))) →
        environment.settings = settings
  failing_iff : (∃ fault, environment.configuration.load.result = .error fault) ↔
    (∃ setting value, environment.Misses setting value)
      ∨ (¬∃ setting value, environment.Misses setting value)
        ∧ environment.settings.maxDelay < environment.settings.minDelay
  outOfRange : (∃ setting value, environment.Misses setting value) →
    ∃ setting value, environment.MissesFirst setting value
      ∧ environment.configuration.load.result = .error (.outOfRange setting value)
  crossed : (¬∃ setting value, environment.Misses setting value) →
    environment.settings.maxDelay < environment.settings.minDelay →
      environment.configuration.load.result =
        .error (.inconsistent .minDelay environment.settings.minDelay
          .maxDelay environment.settings.maxDelay)
  loaded : (¬∃ setting value, environment.Misses setting value) →
    ¬environment.settings.maxDelay < environment.settings.minDelay →
      environment.configuration.load.result = .ok (Component.fresh environment.settings)

theorem load_configuration (environment : Environment) :
    environment.configuration.load =
      Component.load Registry.host environment.settings Registry.empty :=
  rfl

theorem exists_missesFirst (h : ∃ setting value, environment.Misses setting value) :
    ∃ setting value, environment.MissesFirst setting value
      ∧ environment.configuration.load.result = .error (.outOfRange setting value) := by
  obtain ⟨setting, value, hmisses⟩ := h
  obtain ⟨first, hfirst⟩ := Settings.exists_isFirstOutlier (misses_iff.mp hmisses).2
  refine ⟨first, _, missesFirst_of_isFirstOutlier hfirst, ?_⟩
  rw [load_configuration]
  exact Component.load_of_not_validated (Settings.validate_of_isFirstOutlier hfirst) _

theorem load_of_crossed (h : ¬∃ setting value, environment.Misses setting value)
    (hcrossed : environment.settings.maxDelay < environment.settings.minDelay) :
    environment.configuration.load.result =
      .error (.inconsistent .minDelay environment.settings.minDelay
        .maxDelay environment.settings.maxDelay) := by
  have hvalidate := Settings.validate_of_crossed (forall_contains_iff.mpr h) hcrossed
  rw [load_configuration]
  exact Component.load_of_not_validated hvalidate _

theorem load_of_not_crossed (h : ¬∃ setting value, environment.Misses setting value)
    (hordered : ¬environment.settings.maxDelay < environment.settings.minDelay) :
    environment.configuration.load.result = .ok (Component.fresh environment.settings) := by
  rw [load_configuration]
  exact Component.load_registry
    (Settings.valid_of_not_crossed (forall_contains_iff.mpr h) hordered)

theorem settings_of_written {settings : Settings}
    (h : ∀ setting : Setting, environment.entries.lookup setting.variableName =
      some (Text.Utf8.encode (Text.writeInt (settings.get setting).toInt))) :
    environment.settings = settings :=
  Settings.eq_of_get fun setting ↦
    get_settings_of_gives ⟨_, h setting, Text.numeral_writeInt _⟩

/-- A value that does not fit a word and bytes that are no text leave their settings alone. -/
example :
    (Environment.mk
      [(Setting.threshold.variableName, "9223372036854775808".toUTF8.toList),
        (Setting.minDelay.variableName, "+01500".toUTF8.toList),
        (Setting.maxDelay.variableName, [0x31, 0xFF])]).settings = ⟨3, 1500, 2147483647⟩ := by
  decide +kernel

end Environment

end LoginThrottle
