import LoginThrottle.Delay
import LoginThrottle.Proofs.Ledger

/-!
The delay policy in plain integers. It holds an account back from the threshold on, and the delay
is the number of failures beyond the threshold in seconds, put between the two bounds; no step of
the arithmetic on words shows in the result, except that a count that leaves no room for one more
is given the greatest delay. An event is counted for the account of its connection or not at all.
-/

set_option autoImplicit false
set_option relaxedAutoImplicit false

namespace LoginThrottle

namespace Settings

theorem isDisabled_iff (limits : Settings) :
    limits.isDisabled = true ↔ limits.threshold.toInt ≤ 0 := by
  rw [isDisabled, decide_eq_true_eq, Int64.le_iff_toInt_le, Int64.toInt_zero]

theorem isDisabled_eq_false_iff (limits : Settings) :
    limits.isDisabled = false ↔ 0 < limits.threshold.toInt := by
  rw [← Bool.not_eq_true, isDisabled_iff, Int.not_le]

theorem signedCount?_eq_some_iff {failures : UInt64} {count : Int64} :
    signedCount? failures = some count ↔ count.toInt = failures.toNat :=
  Word.narrow?_eq_some_iff

/-- An account is held back exactly when the policy is on and the threshold has been reached. -/
theorem triggers_iff (limits : Settings) (failures : UInt64) :
    limits.triggers failures = true ↔
      0 < limits.threshold.toInt ∧ limits.threshold.toInt ≤ failures.toNat := by
  rw [triggers, Bool.and_eq_true, Bool.not_eq_true', isDisabled_eq_false_iff, and_congr_right_iff]
  intro _
  cases hcount : signedCount? failures with
  | none =>
    have hlarge := Word.narrow?_eq_none.mp hcount
    have hlt := limits.threshold.toInt_lt
    simp only [Int64.toInt_minValue, Int64.toInt_maxValue] at hlarge
    simp only [Option.all_none, true_iff]
    omega
  | some count =>
    rw [Option.all_some, decide_eq_true_eq, Int64.le_iff_toInt_le,
      signedCount?_eq_some_iff.mp hcount]

/-- The policy judges a delay bound as the check of the settings does, and takes over what passes
it. -/
theorem setDelay_eq {setting : Setting} (hsetting : setting ≠ .threshold) (limits : Settings)
    (value : Int64) :
    limits.setDelay setting value =
      (limits.check setting value).map fun _ ↦ limits.set setting value := by
  have hrange : setting.bounds.contains value =
      decide (Setting.shortestDelay ≤ value ∧ value ≤ Setting.longestDelay) := by
    rw [Bool.decide_and]
    cases setting with
    | threshold => exact absurd rfl hsetting
    | minDelay | maxDelay => rfl
  rw [check, hrange]
  by_cases hin : Setting.shortestDelay ≤ value ∧ value ≤ Setting.longestDelay
  · simp only [setDelay, hin]
    cases setting with
    | threshold => exact absurd rfl hsetting
    | minDelay =>
      by_cases hordered : limits.maxDelay < value <;> simp only [conflict?, hordered] <;> rfl
    | maxDelay =>
      by_cases hordered : value < limits.minDelay <;> simp only [conflict?, hordered] <;> rfl
  · simp only [setDelay, hin]
    rfl

/-- The delay in milliseconds, computed on integers. Only a count that cannot be raised by one
within a signed word is treated apart. -/
def integerDelay (limits : Settings) (failures : Nat) : Int :=
  if failures + 1 < 2 ^ 63 then
    min (max ((failures + 1 - limits.threshold.toInt) * 1000) limits.minDelay.toInt)
      limits.maxDelay.toInt
  else limits.maxDelay.toInt

/-- The failures beyond the threshold, the coming one among them, in milliseconds at a second
each. -/
def excess (limits : Settings) (failures : Nat) : Int :=
  (failures + 1 - limits.threshold.toInt) * 1000

/-- The proposal is the excess, as long as one more failure and the excess itself have a word. -/
theorem proposal?_eq_some_iff (limits : Settings) (failures : UInt64) (delay : Int64) :
    limits.proposal? failures = some delay ↔
      failures.toNat + 1 < 2 ^ 63 ∧ delay.toInt = limits.excess failures.toNat := by
  have hthousand : Int64.toInt 1000 = 1000 := by decide
  have hone : Int64.toInt 1 = 1 := by decide
  simp only [proposal?, Option.bind_eq_bind, Option.bind_eq_some_iff, signedCount?_eq_some_iff,
    Word.add?, Word.sub?, Word.mul?, Word.narrow?_eq_some_iff, hthousand, hone]
  constructor
  · rintro ⟨count, hcount, next, hnext, beyond, hbeyond, hdelay⟩
    have hlt := next.toInt_lt
    refine ⟨by omega, ?_⟩
    rw [hdelay, hbeyond, hnext, hcount, excess]
  · rintro ⟨hroom, hdelay⟩
    have hlow := delay.le_toInt
    have hhigh := delay.toInt_lt
    rw [excess] at hdelay
    have hcount : (Int64.ofInt failures.toNat).toInt = failures.toNat :=
      Int64.toInt_ofInt_of_le (by omega) (by omega)
    have hnext : (Int64.ofInt (failures.toNat + 1)).toInt = failures.toNat + 1 :=
      Int64.toInt_ofInt_of_le (by omega) (by omega)
    have hbeyond : (Int64.ofInt (failures.toNat + 1 - limits.threshold.toInt)).toInt =
        failures.toNat + 1 - limits.threshold.toInt :=
      Int64.toInt_ofInt_of_le (by omega) (by omega)
    exact ⟨_, hcount, _, by rw [hnext, hcount], _, by rw [hbeyond, hnext], by rw [hdelay, hbeyond]⟩

/-- There is no proposal exactly where one more failure or the excess has no word. -/
theorem proposal?_eq_none_iff (limits : Settings) (failures : UInt64) :
    limits.proposal? failures = none ↔
      2 ^ 63 ≤ failures.toNat + 1 ∨ limits.excess failures.toNat < -2 ^ 63
        ∨ 2 ^ 63 ≤ limits.excess failures.toNat := by
  constructor
  · intro hnone
    refine Decidable.byContradiction fun hfits ↦ ?_
    have hword :
        (Int64.ofInt (limits.excess failures.toNat)).toInt = limits.excess failures.toNat :=
      Int64.toInt_ofInt_of_le (by omega) (by omega)
    have hsome := (limits.proposal?_eq_some_iff failures _).mpr ⟨by omega, hword⟩
    exact absurd (hnone.symm.trans hsome) (by simp)
  · intro hlarge
    cases hproposal : limits.proposal? failures with
    | none => rfl
    | some delay =>
      obtain ⟨hroom, hdelay⟩ := (limits.proposal?_eq_some_iff failures delay).mp hproposal
      have hlow := delay.le_toInt
      have hhigh := delay.toInt_lt
      omega

/-- What comes out, for any limits and any count: the excess between the bounds, if it has a word
and is not negative, and the greatest delay otherwise. -/
theorem toNat_waitTime_eq (limits : Settings) (failures : UInt64) :
    (limits.waitTime failures).toNat =
      (if failures.toNat + 1 < 2 ^ 63 ∧ 0 ≤ limits.excess failures.toNat
          ∧ limits.excess failures.toNat < 2 ^ 63 then
        min (max (limits.excess failures.toNat) limits.minDelay.toInt) limits.maxDelay.toInt
      else limits.maxDelay.toInt).toNat := by
  rw [waitTime, Word.toNat_toUnsigned]
  cases hproposal : limits.proposal? failures with
  | none =>
    have hlarge := (limits.proposal?_eq_none_iff failures).mp hproposal
    rw [if_neg (by omega)]
  | some delay =>
    obtain ⟨hroom, hdelay⟩ := (limits.proposal?_eq_some_iff failures delay).mp hproposal
    have hhigh := delay.toInt_lt
    have hsign : 0 ≤ delay ↔ 0 ≤ limits.excess failures.toNat := by
      rw [Int64.le_iff_toInt_le, Int64.toInt_zero, hdelay]
    by_cases hnonneg : 0 ≤ limits.excess failures.toNat
    · simp only [if_pos (hsign.mpr hnonneg)]
      rw [if_pos ⟨hroom, hnonneg, by omega⟩, Word.toInt_min, Word.toInt_max, hdelay]
    · simp only [if_neg (mt hsign.mp hnonneg)]
      rw [if_neg fun h ↦ hnonneg h.2.1]

/-- A delay that is imposed is the integer delay. -/
theorem toNat_waitTime {limits : Settings} {failures : UInt64}
    (h : limits.triggers failures = true) :
    (limits.waitTime failures).toNat = (limits.integerDelay failures.toNat).toNat := by
  obtain ⟨-, hreached⟩ := (limits.triggers_iff failures).mp h
  have hmax := limits.maxDelay.toInt_lt
  rw [toNat_waitTime_eq, integerDelay, excess]
  split <;> omega

/-- The account that an event is counted for, if the policy is on, the event tells of an
authentication and the host can say who is connecting. -/
def counted? (limits : Settings) (event : ConnectionEvent) : Option AccountKey :=
  if event.kind.isAuthentication && !limits.isDisabled then
    event.context.map (·.accountKey)
  else none

theorem counted?_eq_some_iff {limits : Settings} {event : ConnectionEvent} {key : AccountKey} :
    limits.counted? event = some key ↔
      event.kind.isAuthentication = true ∧ limits.isDisabled = false
        ∧ ∃ context, event.context = some context ∧ context.accountKey = key := by
  rw [counted?, ← Option.map_eq_some_iff]
  cases event.kind.isAuthentication <;> cases limits.isDisabled <;> simp

/-- Events are only counted while the policy is on. -/
theorem threshold_pos_of_counted {limits : Settings} {event : ConnectionEvent} {key : AccountKey}
    (h : limits.counted? event = some key) : 0 < limits.threshold.toInt := by
  obtain ⟨-, hon, -⟩ := counted?_eq_some_iff.mp h
  exact limits.isDisabled_eq_false_iff.mp hon

end Settings

/-- The failures of an account after an attempt, given those before it. -/
def Outcome.tally : Outcome → UInt64 → UInt64
  | .failure, failures => Word.saturatingSucc failures
  | .success, _ => 0

/-- The ledger after an attempt of the account with this outcome. -/
def Ledger.attempted (ledger : Ledger) (outcome : Outcome) (key : AccountKey) : Ledger :=
  match outcome with
  | .failure => ledger.add key
  | .success => ledger.forget key

namespace Ledger

theorem count_attempted {ledger : Ledger} (h : ledger.Proper) (outcome : Outcome)
    (key other : AccountKey) :
    (ledger.attempted outcome key).count other =
      if other == key then outcome.tally (ledger.count key) else ledger.count other := by
  cases outcome with
  | failure => exact count_add h key other
  | success => exact count_forget h key other

theorem otherRows_attempted (ledger : Ledger) (outcome : Outcome) (key : AccountKey) :
    (ledger.attempted outcome key).otherRows key = ledger.otherRows key := by
  cases outcome with
  | failure => exact ledger.otherRows_add key
  | success => exact ledger.otherRows_forget key

end Ledger

/-- The record of the delay of an account with these failures before the event. -/
def DelayAudit.made (limits : Settings) (event : ConnectionEvent) (key : AccountKey)
    (failures : UInt64) (ended : WaitEnd) : DelayAudit :=
  { account := key.spelling, kind := event.kind, outcome := event.outcome, failures
    threshold := limits.threshold, delay := limits.waitTime failures, ended }

namespace Decision

/-- The decision on an event of the account, with these failures before it. -/
def made (limits : Settings) (event : ConnectionEvent) (key : AccountKey) (failures : UInt64) :
    Decision :=
  { key, kind := event.kind, outcome := event.outcome, failures
    threshold := limits.threshold
    delay? := if limits.triggers failures then some (limits.waitTime failures) else none }

theorem isSome_delay?_made (limits : Settings) (event : ConnectionEvent) (key : AccountKey)
    (failures : UInt64) :
    (made limits event key failures).delay?.isSome = limits.triggers failures := by
  rw [made]
  cases limits.triggers failures <;> rfl

theorem delay?_made {limits : Settings} (hon : 0 < limits.threshold.toInt) {failures : UInt64}
    (hheld : limits.threshold.toInt ≤ failures.toNat) (event : ConnectionEvent) (key : AccountKey) :
    (made limits event key failures).delay? = some (limits.waitTime failures) := by
  rw [made, if_pos ((limits.triggers_iff failures).mpr ⟨hon, hheld⟩)]

theorem audit?_made {limits : Settings} (hon : 0 < limits.threshold.toInt) (event : ConnectionEvent)
    (key : AccountKey) (failures : UInt64) (ended : WaitEnd) :
    (made limits event key failures).audit? ended =
      if limits.threshold.toInt ≤ failures.toNat then
        some (.made limits event key failures ended)
      else none := by
  rw [audit?, made]
  by_cases hheld : limits.threshold.toInt ≤ failures.toNat
  · rw [if_pos ((limits.triggers_iff failures).mpr ⟨hon, hheld⟩), if_pos hheld]
    rfl
  · rw [if_neg fun htriggers ↦ hheld ((limits.triggers_iff failures).mp htriggers).2, if_neg hheld]
    rfl

/-- Settling an attempt whose count is still what it was at the decision. A success that had no
failures before it has nothing to forget. -/
theorem apply_eq_attempted {decision : Decision} {ledger : Ledger} (h : ledger.Proper)
    (hcount : decision.failures = ledger.count decision.key) :
    decision.apply ledger = ledger.attempted decision.outcome decision.key := by
  unfold apply Ledger.attempted
  cases decision.outcome with
  | failure => rfl
  | success =>
    by_cases hzero : decision.failures = 0
    · simp only [if_pos hzero]
      exact (h.forget_of_count_eq_zero (hcount.symm.trans hzero)).symm
    · simp only [if_neg hzero]

theorem count_apply {decision : Decision} {ledger : Ledger} (h : ledger.Proper)
    (hcount : decision.failures = ledger.count decision.key) (other : AccountKey) :
    (decision.apply ledger).count other =
      if other == decision.key then decision.outcome.tally decision.failures
      else ledger.count other := by
  rw [apply_eq_attempted h hcount, Ledger.count_attempted h, hcount]

theorem proper_apply (decision : Decision) {ledger : Ledger} (h : ledger.Proper) :
    (decision.apply ledger).Proper := by
  rw [apply]
  cases decision.outcome with
  | failure => exact h.add decision.key
  | success =>
    by_cases hzero : decision.failures = 0
    · simpa only [if_pos hzero] using h
    · simpa only [if_neg hzero] using h.forget decision.key

end Decision

namespace Verdict

theorem judge_of_ignored {limits : Settings} {event : ConnectionEvent}
    (h : event.kind.isAuthentication = false ∨ limits.threshold.toInt ≤ 0) (ledger : Ledger) :
    judge limits ledger event = .ignored := by
  rw [judge, if_pos]
  rw [Bool.or_eq_true, Bool.not_eq_true', limits.isDisabled_iff]
  exact h

theorem judge_of_unidentified {limits : Settings} {event : ConnectionEvent}
    (hkind : event.kind.isAuthentication = true) (hon : 0 < limits.threshold.toInt)
    (hcontext : event.context = none) (ledger : Ledger) :
    judge limits ledger event = .unidentified := by
  rw [judge, hkind, limits.isDisabled_eq_false_iff.mpr hon, hcontext]
  rfl

theorem judge_of_counted {limits : Settings} {event : ConnectionEvent} {key : AccountKey}
    (h : limits.counted? event = some key) (ledger : Ledger) :
    judge limits ledger event = .counted (.made limits event key (ledger.count key)) := by
  obtain ⟨hkind, hon, context, hcontext, rfl⟩ := Settings.counted?_eq_some_iff.mp h
  rw [judge, hkind, hon, hcontext]
  rfl

theorem judge_of_not_counted {limits : Settings} {event : ConnectionEvent}
    (h : limits.counted? event = none) (ledger : Ledger) :
    judge limits ledger event = .ignored ∨ judge limits ledger event = .unidentified := by
  rw [Settings.counted?] at h
  split at h
  · next hjudged =>
    rw [Option.map_eq_none_iff] at h
    rw [Bool.and_eq_true, Bool.not_eq_true'] at hjudged
    rw [judge, hjudged.1, hjudged.2, h]
    exact Or.inr rfl
  · next hignored =>
    rw [judge, if_pos (by grind)]
    exact Or.inl rfl

/-- Whatever is judged to count has been decided on with the count of its account. -/
theorem of_judge_eq_counted {limits : Settings} {ledger : Ledger} {event : ConnectionEvent}
    {decision : Decision} (h : judge limits ledger event = .counted decision) :
    ∃ key, limits.counted? event = some key
      ∧ decision = .made limits event key (ledger.count key) := by
  cases hkey : limits.counted? event with
  | none =>
    rcases judge_of_not_counted hkey ledger with hjudge | hjudge
    · exact absurd (hjudge.symm.trans h) (by simp)
    · exact absurd (hjudge.symm.trans h) (by simp)
  | some key =>
    rw [judge_of_counted hkey] at h
    exact ⟨key, rfl, (Verdict.counted.inj h).symm⟩

end Verdict

end LoginThrottle
