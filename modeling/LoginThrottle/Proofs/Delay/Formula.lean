import LoginThrottle.Proofs.Delay
import LoginThrottle.Proofs.Setting

/-!
The delay as one formula over integers that have no largest: the failures beyond the threshold in
seconds, put between the two bounds. The words that the delay is computed on hold every step of it
exactly or not at all, and where a step has no word the greatest delay stands in. Under valid limits
the formula comes to the greatest delay there as well, so that what is imposed is always the
formula: `waitTime_eq_formula`. Under other limits the computation still ends, in a delay that is
never above the greatest.
-/

set_option autoImplicit false
set_option relaxedAutoImplicit false

namespace LoginThrottle.Settings

/-- The excess between the two bounds; the greatest delay wins where they are the wrong way
round. -/
def formula (limits : Settings) (failures : Nat) : Int :=
  min (max (limits.excess failures) limits.minDelay.toInt) limits.maxDelay.toInt

/-- More failures are not answered with a shorter delay. -/
theorem formula_mono (limits : Settings) {fewer more : Nat} (h : fewer ≤ more) :
    limits.formula fewer ≤ limits.formula more := by
  have hexcess : limits.excess fewer ≤ limits.excess more := by
    rw [excess, excess]
    omega
  rw [formula, formula]
  omega

/-- A higher threshold is not answered with a longer one. -/
theorem formula_anti (limits : Settings) {threshold : Int64}
    (h : threshold.toInt ≤ limits.threshold.toInt) (failures : Nat) :
    limits.formula failures ≤ formula { limits with threshold } failures := by
  have hexcess : limits.excess failures ≤ excess { limits with threshold } failures := by
    simp only [excess]
    omega
  simp only [formula]
  omega

/-- No delay is above the greatest, whatever the limits are. -/
theorem toNat_waitTime_le (limits : Settings) (failures : UInt64) :
    ((limits.waitTime failures).toNat : Int) ≤ max 0 limits.maxDelay.toInt := by
  rw [toNat_waitTime_eq]
  split <;> omega

/-! ### Valid limits -/

namespace Valid

variable {limits : Settings}

/-- Where a step of the computation has no word, the excess is above every valid bound. -/
theorem toNat_waitTime (h : limits.Valid) {failures : UInt64}
    (hreached : limits.threshold.toInt ≤ failures.toNat) :
    ((limits.waitTime failures).toNat : Int) = limits.formula failures.toNat := by
  have hthreshold := h.threshold_le
  have hlow := h.le_minDelay
  have hordered := h.minDelay_le
  have hhigh := h.maxDelay_le
  have hexcess : limits.excess failures.toNat =
      (failures.toNat + 1 - limits.threshold.toInt) * 1000 := rfl
  rw [toNat_waitTime_eq, formula]
  split <;> omega

theorem waitTime_mono (h : limits.Valid) {fewer more : UInt64}
    (hreached : limits.threshold.toInt ≤ fewer.toNat) (hle : fewer ≤ more) :
    limits.waitTime fewer ≤ limits.waitTime more := by
  have hcounts : fewer.toNat ≤ more.toNat := UInt64.le_iff_toNat_le.mp hle
  have hfewer := h.toNat_waitTime hreached
  have hmore : ((limits.waitTime more).toNat : Int) = limits.formula more.toNat :=
    h.toNat_waitTime (by omega)
  have hformula := limits.formula_mono hcounts
  rw [UInt64.le_iff_toNat_le]
  omega

theorem lower_threshold (h : limits.Valid) {threshold : Int64} (hnonneg : 0 ≤ threshold.toInt)
    (hle : threshold.toInt ≤ limits.threshold.toInt) : Valid { limits with threshold } where
  threshold_nonneg := hnonneg
  threshold_le := Int.le_trans hle h.threshold_le
  le_minDelay := h.le_minDelay
  minDelay_le := h.minDelay_le
  maxDelay_le := h.maxDelay_le

theorem waitTime_anti (h : limits.Valid) {threshold : Int64} (hnonneg : 0 ≤ threshold.toInt)
    (hle : threshold.toInt ≤ limits.threshold.toInt) {failures : UInt64}
    (hreached : limits.threshold.toInt ≤ failures.toNat) :
    limits.waitTime failures ≤ waitTime { limits with threshold } failures := by
  have hhigher := h.toNat_waitTime hreached
  have hlower : ((waitTime { limits with threshold } failures).toNat : Int) =
      formula { limits with threshold } failures.toNat :=
    (h.lower_threshold hnonneg hle).toNat_waitTime (Int.le_trans hle hreached)
  have hformula := limits.formula_anti hle failures.toNat
  rw [UInt64.le_iff_toNat_le]
  omega

end Valid

/-! ### Every count -/

/-- Under limits that are valid and switched on, exactly the accounts at the threshold are held
back, and for as long as the formula says: with more failures for no shorter, under a higher
threshold for no longer. Under any limits at all the computation takes the greatest delay just
where a step of it has no word or is negative, and gives nothing above that. -/
theorem waitTime_eq_formula :
    (∀ limits : Settings, limits.validate = .ok () → 1 ≤ limits.threshold.toInt →
      ∀ failures : UInt64,
        (limits.triggers failures = true ↔ limits.threshold.toInt ≤ failures.toNat)
          ∧ (limits.triggers failures = true →
            ((limits.waitTime failures).toNat : Int) =
                min (max ((failures.toNat + 1 - limits.threshold.toInt) * 1000)
                  limits.minDelay.toInt) limits.maxDelay.toInt
              ∧ (∀ more : UInt64, failures ≤ more →
                limits.waitTime failures ≤ limits.waitTime more)
              ∧ ∀ threshold : Int64, 1 ≤ threshold.toInt → threshold ≤ limits.threshold →
                limits.waitTime failures ≤ waitTime { limits with threshold } failures))
      ∧ ∀ (limits : Settings) (failures : UInt64),
        (∀ delay : Int64, limits.proposal? failures = some delay ↔
          failures.toNat + 1 < 2 ^ 63 ∧ delay.toInt = limits.excess failures.toNat)
        ∧ (limits.waitTime failures).toNat =
          (if failures.toNat + 1 < 2 ^ 63 ∧ 0 ≤ limits.excess failures.toNat
              ∧ limits.excess failures.toNat < 2 ^ 63 then
            limits.formula failures.toNat else limits.maxDelay.toInt).toNat
        ∧ ((limits.waitTime failures).toNat : Int) ≤ max 0 limits.maxDelay.toInt := by
  constructor
  · intro limits validated hon failures
    have hvalid := limits.validate_eq_ok_iff.mp validated
    have htriggers : limits.triggers failures = true ↔
        limits.threshold.toInt ≤ failures.toNat := by
      rw [triggers_iff]
      omega
    refine ⟨htriggers, fun htriggered ↦ ?_⟩
    have hreached := htriggers.mp htriggered
    refine ⟨hvalid.toNat_waitTime hreached, ?_, ?_⟩
    · intro more hmore
      exact hvalid.waitTime_mono hreached hmore
    · intro threshold hpositive hle
      exact hvalid.waitTime_anti (by omega) (Int64.le_iff_toInt_le.mp hle) hreached
  · intro limits failures
    exact ⟨limits.proposal?_eq_some_iff failures, limits.toNat_waitTime_eq failures,
      limits.toNat_waitTime_le failures⟩

/-- The largest count there is, under a threshold of one. -/
theorem waitTime_eq_formula_largest :
    let limits : Settings := ⟨1, 1000, 7000⟩
    limits.validate = .ok () ∧ 1 ≤ limits.threshold.toInt
      ∧ limits.triggers Word.largest = true
      ∧ ((limits.waitTime Word.largest).toNat : Int) = 7000 := by
  intro limits
  have validated : limits.validate = .ok () :=
    limits.validate_eq_ok_iff.mpr (limits.valid_iff.mpr (by decide))
  have hon : 1 ≤ limits.threshold.toInt := by decide
  obtain ⟨htriggers, hdelay⟩ := waitTime_eq_formula.1 limits validated hon Word.largest
  have htriggered := htriggers.mpr (by decide)
  exact ⟨validated, hon, htriggered, (hdelay htriggered).1.trans (by decide)⟩

end LoginThrottle.Settings
