import LoginThrottle.Proofs.Component.Agreement
import LoginThrottle.Proofs.Component.Session

/-!
A proposed value, from the answer to what it changes. As long as nothing is committed without a
check, whatever events come and however long they are held back, a value is accepted exactly if with
it the settings as a whole would be valid, and then it reaches the committed settings and the delay
policy alike; a value that is refused changes nothing, and the answer says what is wrong with it.
Asking first and committing afterwards comes to the same. `answers_proposal` is the summary.
-/

set_option autoImplicit false
set_option relaxedAutoImplicit false

namespace LoginThrottle

/-! ### What is wrong with a value -/

namespace Setting

/-- The other delay bound. -/
def counterpart? : Setting → Option Setting
  | .threshold => none
  | .minDelay => some .maxDelay
  | .maxDelay => some .minDelay

theorem fault_of_read {name : String} {fault : Fault} (h : read name = .error fault) :
    fault = .unknownSetting name := by
  rw [read] at h
  split at h
  · exact absurd h (by simp)
  · exact (Except.error.inj h).symm

end Setting

namespace Settings

variable {settings : Settings} {setting : Setting} {value : Int64}

theorem check_of_not_contains (h : setting.bounds.contains value = false) :
    settings.check setting value = .error (.outOfRange setting value) := by
  rw [check, h]
  rfl

/-- Only the other delay bound can be in conflict. -/
theorem counterpart?_of_conflict? {other : Setting}
    (h : settings.conflict? setting value = some other) : setting.counterpart? = some other := by
  cases setting with
  | threshold => exact absurd h (by simp [conflict?])
  | minDelay | maxDelay =>
    rw [conflict?] at h
    split at h
    · exact h
    · exact absurd h (by simp)

/-- A value in its range that is refused is on the wrong side of the other delay bound. -/
theorem check_of_contains (hcontains : setting.bounds.contains value = true)
    (hrefused : settings.check setting value ≠ .ok ()) :
    ∃ other, setting.counterpart? = some other
      ∧ settings.check setting value =
        .error (.inconsistent setting value other (settings.get other)) := by
  cases hconflict : settings.conflict? setting value with
  | none => exact absurd ((check_eq_ok_iff_contains _ _ _).mpr ⟨hcontains, hconflict⟩) hrefused
  | some other =>
    refine ⟨other, counterpart?_of_conflict? hconflict, ?_⟩
    rw [check, hcontains, hconflict]
    rfl

end Settings

namespace Component

variable {component : Component}

/-! ### Connections held back in between -/

/-- The step commits nothing that has not been checked. -/
def Step.Checked (step : Step) : Prop :=
  ∀ name value, step ≠ .call (.update name value)

theorem Agrees.act_increment (h : component.Agrees) :
    Agrees { component with coordinator := component.coordinator.act .increment } where
  enforced := h.enforced
  valid := h.valid
  accepted := h.accepted

/-- The end of a wait leaves an audit record at most. -/
theorem Agrees.release (h : component.Agrees) (hservice : component.InService)
    {held : Coordinator.Held} (hlast : held.remaining = []) (ended : WaitEnd) :
    (component.release held ended).Agrees := by
  obtain ⟨hnext, hlimits, -⟩ := hservice.release hlast ended
  refine ⟨hnext.delayLimits_eq (hlimits.trans h.limits_eq), h.valid, fun record hrecord ↦ ?_⟩
  rw [release_eq hlast, Coordinator.settle_journal, List.mem_append, Option.mem_toList] at hrecord
  rcases hrecord with hearlier | hnew
  · exact h.accepted record hearlier
  · obtain ⟨audit, -, rfl⟩ := Option.map_eq_some_iff.mp hnew
    exact Record.message_delayed audit

namespace Session

variable {origin : DelayAudit → Prop} {session : Session}

theorem Accounted.agrees_perform (h : Accounted origin session)
    (hagrees : session.component.Agrees) {step : Step} (hchecked : step.Checked) :
    (session.perform step).component.Agrees := by
  cases step with
  | call call =>
    refine hagrees.perform h.service fun name value heq ↦ ?_
    exact hchecked name value (congrArg Step.call heq)
  | begin event =>
    rcases h.service.begin_cases event .elapsed with ⟨decision, -, hbegin⟩ | hbegin
    · simp only [Session.perform, hbegin]
      exact hagrees.act_increment
    · simp only [Session.perform, hbegin]
      exact hagrees.notify h.service event .elapsed
  | release place ended =>
    rw [Session.perform]
    cases hheld : session.held[place]? with
    | none => exact hagrees
    | some held =>
      obtain ⟨hlast, -⟩ := h.pending held (List.mem_of_getElem? hheld)
      exact hagrees.release h.service hlast ended

theorem Accounted.agrees_run (h : Accounted origin session) (hagrees : session.component.Agrees)
    {steps : List Step} (hchecked : ∀ step ∈ steps, step.Checked) :
    (session.run steps).component.Agrees := by
  induction steps generalizing session origin with
  | nil => exact hagrees
  | cons step rest ih =>
    have hfirst : step.Checked := hchecked step List.mem_cons_self
    exact ih (h.perform step) (h.agrees_perform hagrees hfirst)
      fun later hlater ↦ hchecked later (List.mem_cons_of_mem step hlater)

end Session

/-! ### One proposed value -/

/-- How a component answers when a value is proposed, and what it does about it. -/
structure Answers (component : Component) (name : String) (value : Int64) : Prop where
  unknown : ∀ fault, Setting.read name = .error fault →
    component.set name value = .error (.unknownSetting name)
  accepted_iff : ∀ setting, Setting.read name = .ok setting →
    ((∃ next, component.set name value = .ok (setting, next)) ↔
      (component.settings.set setting value).validate = .ok ())
  outOfRange : ∀ setting, Setting.read name = .ok setting →
    setting.bounds.contains value = false →
      component.set name value = .error (.outOfRange setting value)
  inconsistent : ∀ setting, Setting.read name = .ok setting →
    setting.bounds.contains value = true →
      (component.settings.set setting value).validate ≠ .ok () →
        ∃ other, setting.counterpart? = some other
          ∧ component.set name value =
            .error (.inconsistent setting value other (component.settings.get other))
  committed : ∀ setting next, component.set name value = .ok (setting, next) →
    Setting.read name = .ok setting
      ∧ next.settings = component.settings.set setting value
      ∧ next.coordinator.delayLimits = [component.settings.set setting value]
      ∧ next.ledger = (if setting = .threshold then .empty else component.ledger)
      ∧ next.generated = (if setting = .threshold then 0 else component.generated)
      ∧ component.perform (.set name value) = next
  refused : ∀ fault, component.set name value = .error fault →
    component.perform (.set name value) = component
  asked : component.check name value = (component.set name value).map Prod.fst
    ∧ component.perform (.check name value) = component
  askedFirst : (do
      let _ ← component.check name value
      component.update name value) = component.set name value

/-- The change that a known name and a value ask for, if the settings let it through. -/
theorem set_of_read {name : String} {setting : Setting} (hname : Setting.read name = .ok setting)
    (component : Component) (value : Int64) :
    component.set name value =
      (component.settings.check setting value).map
        fun _ ↦ (setting, component.commit setting value) := by
  rw [set, check, hname]
  cases hcheck : component.settings.check setting value with
  | ok accepted => simp [bind, Except.bind, pure, Except.pure, Except.map, hcheck]
  | error fault => simp [bind, Except.bind, Except.map, hcheck]

theorem set_of_not_read {name : String} {fault : Fault} (hname : Setting.read name = .error fault)
    (component : Component) (value : Int64) :
    component.set name value = .error (.unknownSetting name) := by
  rw [set, check, hname, Setting.fault_of_read hname]
  rfl

theorem check_eq_map_set (component : Component) (name : String) (value : Int64) :
    component.check name value = (component.set name value).map Prod.fst := by
  rw [set]
  cases component.check name value <;> rfl

/-- What has been let through is committed as it would have been at once. -/
theorem check_bind_update (component : Component) (name : String) (value : Int64) :
    (do
      let _ ← component.check name value
      component.update name value) = component.set name value := by
  rw [set, check, update]
  cases hname : Setting.read name with
  | error fault => rfl
  | ok setting =>
    cases hcheck : component.settings.check setting value with
    | ok accepted => simp [bind, Except.bind, pure, Except.pure, hcheck]
    | error fault => simp [bind, Except.bind, hcheck]

/-- A component whose policy enforces its settings judges a value by the settings as a whole. -/
theorem Agrees.answers (h : component.Agrees) (hservice : component.InService) (name : String)
    (value : Int64) : component.Answers name value := by
  have hvalidate (setting : Setting) : component.settings.check setting value = .ok () ↔
      (component.settings.set setting value).validate = .ok () := by
    rw [h.valid.check_eq_ok_iff, Settings.validate_eq_ok_iff]
  constructor
  · intro fault hname
    exact set_of_not_read hname component value
  · intro setting hname
    rw [set_of_read hname, ← hvalidate]
    cases component.settings.check setting value <;> simp [Except.map]
  · intro setting hname hcontains
    rw [set_of_read hname, Settings.check_of_not_contains hcontains]
    rfl
  · intro setting hname hcontains hinvalid
    obtain ⟨other, hother, hcheck⟩ :=
      Settings.check_of_contains hcontains (mt (hvalidate setting).mp hinvalid)
    refine ⟨other, hother, ?_⟩
    rw [set_of_read hname, hcheck]
    rfl
  · intro setting next hset
    cases hname : Setting.read name with
    | error fault =>
      have hrefused := set_of_not_read hname component value
      exact absurd (hrefused.symm.trans hset) (by simp)
    | ok named =>
      cases hcheck : component.settings.check named value with
      | error fault =>
        rw [set_of_read hname, hcheck] at hset
        exact absurd hset (by simp [Except.map])
      | ok accepted =>
        have hperform : component.perform (.set name value) = next := by
          rw [Component.perform, hset]
        rw [set_of_read hname, hcheck] at hset
        obtain ⟨rfl, rfl⟩ := Prod.mk.inj (Except.ok.inj hset)
        obtain ⟨hledger, hgenerated⟩ := hservice.ledger_commit named value
        exact ⟨rfl, rfl, (h.commit hservice hcheck).enforced, hledger, hgenerated, hperform⟩
  · intro fault hset
    rw [Component.perform, hset]
  · exact ⟨component.check_eq_map_set name value, rfl⟩
  · exact component.check_bind_update name value

/-- However a component that has been loaded got where it is, as long as nothing was committed
without a check it answers any proposed value by what the settings would be with it. -/
theorem answers_proposal {σ : Type} {host : Host σ} {start : Settings} {state : σ}
    (loaded : (load host start state).result = .ok component) {steps : List Step}
    (hchecked : ∀ step ∈ steps, step.Checked) (name : String) (value : Int64) :
    ((Session.start component).run steps).component.Answers name value := by
  obtain ⟨hvalid, rfl⟩ := eq_fresh_of_load loaded
  have hstart := Session.accounted_start (inService_fresh start) rfl
  have hagrees := hstart.agrees_run (agrees_fresh hvalid) hchecked
  exact hagrees.answers (hstart.run steps).service name value

/-- While a connection is held back the greatest delay is lowered, and then a least delay above it
is proposed. -/
theorem answers_proposal_held :
    let start : Settings := ⟨1, 1000, 9000⟩
    let failure : ConnectionEvent := ⟨.connect, .failure, some (.ofLogin "root" "localhost")⟩
    let steps : List Step :=
      [.call (.notify failure .elapsed), .begin failure, .call (.set "MAX_connection_delay" 2000)]
    let reached := (Session.start (fresh start)).run steps
    (load Registry.host start .empty).result = .ok (fresh start)
      ∧ (∀ step ∈ steps, step.Checked)
      ∧ reached.held.length = 1
      ∧ reached.component.Answers Setting.minDelay.name 5000
      ∧ reached.component.set Setting.minDelay.name 5000 =
        .error (.inconsistent .minDelay 5000 .maxDelay 2000) := by
  intro start failure steps reached
  have loaded : (load Registry.host start .empty).result = .ok (fresh start) :=
    load_registry (start.valid_iff.mpr (by decide))
  have hchecked : ∀ step ∈ steps, step.Checked := by
    simp [steps, Step.Checked]
  have hanswers : reached.component.Answers Setting.minDelay.name 5000 :=
    answers_proposal loaded hchecked _ _
  have hname : Setting.read Setting.minDelay.name = .ok .minDelay := by rfl
  have hsettings : reached.component.settings = ⟨1, 1000, 2000⟩ := by decide +kernel
  have hinvalid : (reached.component.settings.set .minDelay 5000).validate ≠ .ok () := by
    rw [hsettings, Ne, Settings.validate_eq_ok_iff, Settings.valid_iff]
    decide
  obtain ⟨other, hother, hset⟩ := hanswers.inconsistent .minDelay hname (by decide) hinvalid
  obtain rfl := Option.some.inj hother
  rw [hsettings] at hset
  exact ⟨loaded, hchecked, by decide +kernel, hanswers, hset⟩

end Component

end LoginThrottle
