import LoginThrottle.Proofs.Component.Session

/-!
The limits that the delay policy enforces, when changes may be committed without a check. The
settings can then be anything, but the policy takes over only what keeps its two bounds in their
range and the right way round. So every delay that it imposes is between the bounds that were in
force when it was decided on, and between a second and the largest setting value.
-/

set_option autoImplicit false
set_option relaxedAutoImplicit false

namespace LoginThrottle

namespace Settings

/-- What the delay policy ensures of its limits. The threshold may be as large as a word can be. -/
structure Enforceable (limits : Settings) : Prop where
  threshold_nonneg : 0 ≤ limits.threshold.toInt
  le_minDelay : 1000 ≤ limits.minDelay.toInt
  minDelay_le : limits.minDelay.toInt ≤ limits.maxDelay.toInt
  maxDelay_le : limits.maxDelay.toInt ≤ 2147483647

/-- The check of a bound does not look at the threshold. -/
theorem check_with_threshold (limits : Settings) (threshold : Int64) {setting : Setting}
    (hsetting : setting ≠ .threshold) (value : Int64) :
    check { limits with threshold } setting value = limits.check setting value := by
  cases setting with
  | threshold => exact absurd rfl hsetting
  | minDelay =>
    by_cases hconflict : limits.maxDelay < value <;> simp [check, conflict?, get, hconflict]
  | maxDelay =>
    by_cases hconflict : value < limits.minDelay <;> simp [check, conflict?, get, hconflict]

theorem Valid.enforceable {limits : Settings} (h : limits.Valid) : limits.Enforceable :=
  ⟨h.threshold_nonneg, h.le_minDelay, h.minDelay_le, h.maxDelay_le⟩

namespace Enforceable

variable {limits : Settings}

/-- Only the threshold can keep the limits from being valid settings. -/
theorem valid (h : limits.Enforceable) : Settings.Valid { limits with threshold := 0 } where
  threshold_nonneg := Int.le_of_eq Int64.toInt_zero.symm
  threshold_le := by
    rw [Int64.toInt_zero]
    decide
  le_minDelay := h.le_minDelay
  minDelay_le := h.minDelay_le
  maxDelay_le := h.maxDelay_le

/-- No change, checked or not, spoils the limits. -/
theorem adjusted (h : limits.Enforceable) (setting : Setting) (value : Int64) :
    (limits.adjusted setting value).Enforceable := by
  have hnonneg : 0 ≤ (max value 0).toInt := by
    rw [Word.toInt_max, Int64.toInt_zero]
    exact Int.le_max_right ..
  by_cases hsetting : setting = .threshold
  · subst hsetting
    exact ⟨hnonneg, h.le_minDelay, h.minDelay_le, h.maxDelay_le⟩
  · cases hcheck : limits.check setting value with
    | error fault =>
      rw [adjusted_of_refused hsetting hcheck]
      exact h
    | ok accepted =>
      rw [adjusted_of_accepted hsetting hcheck]
      have hvalid := (h.valid.check_eq_ok_iff setting value).mp
        ((limits.check_with_threshold 0 hsetting value).trans hcheck)
      cases setting with
      | threshold => exact absurd rfl hsetting
      | minDelay | maxDelay =>
        exact ⟨h.threshold_nonneg, hvalid.le_minDelay, hvalid.minDelay_le, hvalid.maxDelay_le⟩

theorem integerDelay_bounds (h : limits.Enforceable) (failures : Nat) :
    limits.minDelay.toInt ≤ limits.integerDelay failures
      ∧ limits.integerDelay failures ≤ limits.maxDelay.toInt := by
  have hordered := h.minDelay_le
  rw [integerDelay]
  split <;> omega

end Enforceable

end Settings

/-- The delay is one that these limits ask for: the threshold has been reached, and the delay is
between the bounds. -/
structure DelayAudit.Within (audit : DelayAudit) (limits : Settings) : Prop where
  threshold : audit.threshold = limits.threshold
  threshold_pos : 1 ≤ audit.threshold.toInt
  reached : audit.threshold.toInt ≤ audit.failures.toNat
  minDelay_le : limits.minDelay.toInt ≤ audit.delay.toNat
  le_maxDelay : audit.delay.toNat ≤ limits.maxDelay.toInt

/-- Whatever is decided under such limits is within them. -/
theorem Decision.within_of_made {limits : Settings} (h : limits.Enforceable)
    {event : ConnectionEvent} {key : AccountKey} {failures : UInt64} {ended : WaitEnd}
    {audit : DelayAudit} (haudit : (made limits event key failures).audit? ended = some audit) :
    audit.Within limits := by
  have htriggers : limits.triggers failures = true := by
    rw [← isSome_delay?_made limits event key failures, Option.isSome_iff_exists]
    obtain ⟨delay, hdelay, -⟩ := Option.map_eq_some_iff.mp haudit
    exact ⟨delay, hdelay⟩
  rw [audit?, made, if_pos htriggers, Option.map_some] at haudit
  obtain rfl := Option.some.inj haudit
  obtain ⟨hpos, hreached⟩ := (limits.triggers_iff failures).mp htriggers
  obtain ⟨hmin, hmax⟩ := h.integerDelay_bounds failures.toNat
  have hlow := h.le_minDelay
  have hdelay : ((limits.waitTime failures).toNat : Int) = limits.integerDelay failures.toNat := by
    rw [Settings.toNat_waitTime htriggers]
    omega
  exact ⟨rfl, hpos, hreached, by rw [hdelay]; exact hmin, by rw [hdelay]; exact hmax⟩

namespace Component

namespace Session

variable {session : Session}

theorem Decides.within (hlimits : session.component.limits.Enforceable) {step : Step}
    {audit : DelayAudit} (h : session.Decides step audit) :
    audit.Within session.component.limits := by
  obtain ⟨event, decision, ended, -, hjudge, haudit⟩ := h
  obtain ⟨key, -, rfl⟩ := Verdict.of_judge_eq_counted hjudge
  exact Decision.within_of_made hlimits haudit

theorem Accounted.enforceable_perform {origin : DelayAudit → Prop} (h : Accounted origin session)
    (hlimits : session.component.limits.Enforceable) (step : Step) :
    (session.perform step).component.limits.Enforceable := by
  cases step with
  | call call =>
    rw [Session.perform, h.service.limits_perform]
    cases call.change? session.component.settings with
    | none => exact hlimits
    | some change => exact hlimits.adjusted change.1 change.2
  | begin event =>
    rcases h.service.begin_cases event .elapsed with ⟨decision, -, hbegin⟩ | hbegin
    · simp only [Session.perform, hbegin]
      rw [limits_of_runsPolicy (h.service.policy.act .increment)]
      exact hlimits
    · simp only [Session.perform, hbegin]
      rw [(h.service.notify event .elapsed).2]
      exact hlimits
  | release place ended =>
    rw [Session.perform]
    cases hheld : session.held[place]? with
    | none => exact hlimits
    | some held =>
      obtain ⟨hlast, -⟩ := h.pending held (List.mem_of_getElem? hheld)
      rw [(h.service.release hlast ended).2.1]
      exact hlimits

theorem Accounted.enforceable_run {origin : DelayAudit → Prop} (h : Accounted origin session)
    (hlimits : session.component.limits.Enforceable) (steps : List Step) :
    (session.run steps).component.limits.Enforceable := by
  induction steps generalizing session origin with
  | nil => exact hlimits
  | cons step rest ih => exact ih (h.perform step) (h.enforceable_perform hlimits step)

end Session

/-- After a load and any steps, unchecked changes among them, the limits of the policy are in
order, and every delay that was imposed is within the limits of the moment when it was decided on.
So none is shorter than a second or longer than the largest setting value. -/
theorem run_within_limits {σ : Type} {host : Host σ} {start : Settings} {state : σ}
    {component : Component} (loaded : (load host start state).result = .ok component)
    (steps : List Step) :
    ((Session.start component).run steps).component.limits.Enforceable
      ∧ ∀ audit ∈ ((Session.start component).run steps).component.audits,
        (∃ before step after, steps = before ++ step :: after
            ∧ ((Session.start component).run before).Decides step audit
            ∧ audit.Within ((Session.start component).run before).component.limits)
          ∧ 1000 ≤ audit.delay.toNat ∧ audit.delay.toNat ≤ 2147483647 := by
  obtain ⟨hvalid, rfl⟩ := eq_fresh_of_load loaded
  have hstart := Session.accounted_start (inService_fresh start) rfl
  have hlimits (before : List Step) :
      ((Session.start (fresh start)).run before).component.limits.Enforceable :=
    hstart.enforceable_run ((limits_fresh start).symm ▸ hvalid.enforceable) before
  refine ⟨hlimits steps, fun audit haudit ↦ ?_⟩
  rcases (hstart.run steps).recorded audit haudit with
    hnone | ⟨before, step, after, hsteps, hdecides⟩
  · exact hnone.elim
  · have hwithin := hdecides.within (hlimits before)
    have hlow := (hlimits before).le_minDelay
    have hhigh := (hlimits before).maxDelay_le
    have hmin := hwithin.minDelay_le
    have hmax := hwithin.le_maxDelay
    exact ⟨⟨before, step, after, hsteps, hdecides, hwithin⟩, by omega, by omega⟩

/-- While an attempt is held back for a second, the least delay is raised above that, and the
greatest is committed as a negative value, which the policy refuses. -/
theorem run_within_limits_root :
    let start : Settings := ⟨1, 1000, 2147483647⟩
    let failure : ConnectionEvent := ⟨.connect, .failure, some (.ofLogin "root" "localhost")⟩
    let steps : List Step :=
      [.call (.notify failure .elapsed), .begin failure, .call (.update Setting.minDelay.name 5000),
        .call (.update Setting.maxDelay.name (-1)), .release 0 .elapsed]
    let component := ((Session.start (fresh start)).run steps).component
    (load Registry.host start .empty).result = .ok (fresh start)
      ∧ component.settings = ⟨1, 5000, -1⟩ ∧ component.limits = ⟨1, 5000, 2147483647⟩
      ∧ component.limits.Enforceable
      ∧ ∃ audit, component.audits = [audit] ∧ audit.delay = 1000 ∧ 1000 ≤ audit.delay.toNat := by
  intro start failure steps component
  have loaded : (load Registry.host start .empty).result = .ok (fresh start) :=
    load_registry (start.valid_iff.mpr (by decide))
  obtain ⟨hlimits, hdelays⟩ := run_within_limits loaded steps
  have hshown : (component.settings, component.limits, component.audits.map (·.delay)) =
      (⟨1, 5000, -1⟩, ⟨1, 5000, 2147483647⟩, [1000]) := by
    decide +kernel
  obtain ⟨hsettings, hrest⟩ := Prod.mk.inj hshown
  obtain ⟨hbounds, hdelay⟩ := Prod.mk.inj hrest
  obtain ⟨audit, haudit, hthousand⟩ := List.map_eq_singleton_iff.mp hdelay
  exact ⟨loaded, hsettings, hbounds, hlimits, audit, haudit, hthousand,
    (hdelays audit (haudit ▸ List.mem_singleton_self audit)).2.1⟩

end Component

end LoginThrottle
