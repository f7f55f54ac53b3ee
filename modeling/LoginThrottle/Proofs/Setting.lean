import LoginThrottle.Setting.Values

/-!
What the two judgements on settings come to in plain integers. Settings are validated exactly when
the threshold is in its range and the two delay bounds are in theirs and the right way round, and
against such settings a proposed value passes exactly when it leaves them so.
-/

set_option autoImplicit false
set_option relaxedAutoImplicit false

namespace LoginThrottle

theorem Bounds.contains_iff (bounds : Bounds) (value : Int64) :
    bounds.contains value = true ↔
      bounds.low.toInt ≤ value.toInt ∧ value.toInt ≤ bounds.high.toInt := by
  rw [contains, Bool.and_eq_true, decide_eq_true_eq, decide_eq_true_eq, Int64.le_iff_toInt_le,
    Int64.le_iff_toInt_le]

theorem Setting.toInt_bounds (setting : Setting) :
    setting.bounds.low.toInt = (if setting = .threshold then 0 else 1000)
      ∧ setting.bounds.high.toInt = 2147483647 := by
  cases setting <;> decide

namespace Settings

theorem eq_of_get {a b : Settings} (h : ∀ setting, a.get setting = b.get setting) : a = b := by
  have hthreshold : a.threshold = b.threshold := h .threshold
  have hmin : a.minDelay = b.minDelay := h .minDelay
  have hmax : a.maxDelay = b.maxDelay := h .maxDelay
  cases a
  cases b
  simp_all

structure Valid (settings : Settings) : Prop where
  threshold_nonneg : 0 ≤ settings.threshold.toInt
  threshold_le : settings.threshold.toInt ≤ 2147483647
  le_minDelay : 1000 ≤ settings.minDelay.toInt
  minDelay_le : settings.minDelay.toInt ≤ settings.maxDelay.toInt
  maxDelay_le : settings.maxDelay.toInt ≤ 2147483647

theorem valid_iff (settings : Settings) :
    settings.Valid ↔
      (0 ≤ settings.threshold.toInt ∧ settings.threshold.toInt ≤ 2147483647)
        ∧ 1000 ≤ settings.minDelay.toInt ∧ settings.minDelay.toInt ≤ settings.maxDelay.toInt
        ∧ settings.maxDelay.toInt ≤ 2147483647 :=
  ⟨fun ⟨hnonneg, hle, hmin, hordered, hmax⟩ ↦ ⟨⟨hnonneg, hle⟩, hmin, hordered, hmax⟩,
    fun ⟨⟨hnonneg, hle⟩, hmin, hordered, hmax⟩ ↦ ⟨hnonneg, hle, hmin, hordered, hmax⟩⟩

theorem outlier?_eq_none_iff (settings : Settings) :
    settings.outlier? = none ↔
      ∀ setting : Setting, setting.bounds.contains (settings.get setting) = true := by
  rw [outlier?, List.find?_eq_none]
  constructor
  · intro h setting
    have hsetting := h setting setting.mem_all
    simpa using hsetting
  · intro h setting _
    simp [h setting]

/-- All three are judged together. -/
theorem validate_eq_ok_iff (settings : Settings) : settings.validate = .ok () ↔ settings.Valid := by
  have hranges : settings.outlier? = none ↔
      (0 ≤ settings.threshold.toInt ∧ settings.threshold.toInt ≤ 2147483647)
        ∧ (1000 ≤ settings.minDelay.toInt ∧ settings.minDelay.toInt ≤ 2147483647)
        ∧ 1000 ≤ settings.maxDelay.toInt ∧ settings.maxDelay.toInt ≤ 2147483647 := by
    rw [outlier?_eq_none_iff]
    simp only [Bounds.contains_iff, (Setting.toInt_bounds _).1, (Setting.toInt_bounds _).2]
    constructor
    · intro h
      exact ⟨h .threshold, h .minDelay, h .maxDelay⟩
    · rintro ⟨hthreshold, hmin, hmax⟩ (_ | _ | _)
      · exact hthreshold
      · exact hmin
      · exact hmax
  rw [validate, valid_iff]
  cases houtlier : settings.outlier? with
  | some setting =>
    have hout := mt hranges.mpr (by rw [houtlier]; simp)
    exact iff_of_false (by simp) (by omega)
  | none =>
    have hin := hranges.mp houtlier
    simp only [Int64.lt_iff_toInt_lt]
    split
    · exact iff_of_false (by simp) (by omega)
    · exact iff_of_true rfl (by omega)

/-- A value passes if it is in its range and on the right side of the other delay bound. -/
theorem check_eq_ok_iff_contains (settings : Settings) (setting : Setting) (value : Int64) :
    settings.check setting value = .ok () ↔
      setting.bounds.contains value = true ∧ settings.conflict? setting value = none := by
  rw [check]
  cases setting.bounds.contains value <;> cases settings.conflict? setting value <;> simp

/-- A proposed value is judged by what the settings would then be. -/
theorem Valid.check_eq_ok_iff {settings : Settings} (h : settings.Valid) (setting : Setting)
    (value : Int64) :
    settings.check setting value = .ok () ↔ (settings.set setting value).Valid := by
  have hsettings := settings.valid_iff.mp h
  have hcontains : setting.bounds.contains value = true ↔
      (if setting = .threshold then 0 else 1000) ≤ value.toInt ∧ value.toInt ≤ 2147483647 := by
    rw [Bounds.contains_iff, setting.toInt_bounds.1, setting.toInt_bounds.2]
  have hconflict : settings.conflict? setting value = none ↔
      match setting with
      | .threshold => True
      | .minDelay => value.toInt ≤ settings.maxDelay.toInt
      | .maxDelay => settings.minDelay.toInt ≤ value.toInt := by
    cases setting <;> simp [conflict?, Int64.lt_iff_toInt_lt]
  rw [check_eq_ok_iff_contains, hcontains, hconflict, valid_iff]
  cases setting <;> simp [set] <;> omega

end Settings

end LoginThrottle
