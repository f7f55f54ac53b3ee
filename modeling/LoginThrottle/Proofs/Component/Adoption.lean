import LoginThrottle.Proofs.Component.Change
import Mathlib.Control.Monad.Basic

/-!
From the settings in place to any others that are valid, by changes each of which is checked against
what is in place when it comes. The settings in between are partly old and partly new, and such a
mixture is valid unless one delay bound has been taken over without the other and has come to stand
on the wrong side of it. So with the least delay first all is accepted exactly if the new least
delay does not exceed the old greatest one, and with the greatest delay first exactly if the new
greatest one does not fall below the old least one. One of the two always holds, and the threshold
can be set at any moment. `adoption_settled` is the summary.
-/

set_option autoImplicit false
set_option relaxedAutoImplicit false

namespace LoginThrottle

/-! ### Orders of change -/

namespace Setting

variable {order : List Setting} {first second : Setting}

/-- The settings other than the threshold, in their order. -/
def delays (order : List Setting) : List Setting :=
  order.filter (· ≠ .threshold)

theorem mem_delays_iff {setting : Setting} :
    setting ∈ delays order ↔ setting ∈ order ∧ setting ≠ .threshold := by
  rw [delays, List.mem_filter, decide_eq_true_eq]

theorem ne_threshold_of_delays (h : delays order = [first, second]) : second ≠ .threshold := by
  have hmem : second ∈ delays order := by simp [h]
  exact (mem_delays_iff.mp hmem).2

/-- Of two delay bounds the second is not reached before the first. -/
theorem first_mem_of_second_mem (h : delays order = [first, second]) {done : List Setting}
    (hdone : done <+: order) (hsecond : second ∈ done) : first ∈ done := by
  have hshort : delays done <+: [first, second] := by
    rw [← h]
    exact hdone.filter _
  obtain ⟨rest, hrest⟩ := hshort
  have hmem : second ∈ delays done := mem_delays_iff.mpr ⟨hsecond, ne_threshold_of_delays h⟩
  cases hdelays : delays done with
  | nil => exact absurd hmem (by simp [hdelays])
  | cons head tail =>
    rw [hdelays, List.cons_append] at hrest
    have hfirst : first ∈ delays done := by
      rw [hdelays, (List.cons.inj hrest).1]
      exact List.mem_cons_self
    exact (mem_delays_iff.mp hfirst).1

/-- At some moment the first of two delay bounds is reached and the second is not. -/
theorem exists_between (h : delays order = [first, second]) (hne : first ≠ second) :
    ∃ done, done <+: order ∧ first ∈ done ∧ second ∉ done := by
  have hbound : second ≠ .threshold := ne_threshold_of_delays h
  obtain ⟨before, after, rfl, hbefore, -, -⟩ := List.filter_eq_cons_iff.mp h
  refine ⟨before ++ [first], ⟨after, by simp⟩, by simp, fun hmem ↦ ?_⟩
  rcases List.mem_append.mp hmem with hearlier | hlast
  · exact hbefore second hearlier (decide_eq_true hbound)
  · exact hne (List.mem_singleton.mp hlast).symm

end Setting

/-! ### Mixtures of two settings -/

namespace Settings

variable {settings target : Settings}

/-- The settings after some of them have been taken over from a target. -/
def towards (settings target : Settings) (done : List Setting) : Settings :=
  done.foldl (fun reached setting ↦ reached.set setting (target.get setting)) settings

theorem get_towards (settings target : Settings) (done : List Setting) (setting : Setting) :
    (settings.towards target done).get setting =
      if setting ∈ done then target.get setting else settings.get setting := by
  induction done generalizing settings with
  | nil => simp [towards]
  | cons next rest ih =>
    have hfirst : settings.towards target (next :: rest) =
        (settings.set next (target.get next)).towards target rest := rfl
    rw [hfirst, ih]
    by_cases hrest : setting ∈ rest
    · simp [hrest]
    · by_cases hnext : setting = next
      · simp [hnext]
      · simp [hrest, hnext, get_set_of_ne settings _ (Ne.symm hnext)]

theorem towards_of_forall_mem {order : List Setting} (h : ∀ setting, setting ∈ order) :
    settings.towards target order = target :=
  eq_of_get fun setting ↦ by rw [get_towards, if_pos (h setting)]

/-- A mixture of valid settings is valid unless the delay bounds cross in it. -/
theorem Valid.valid_towards_iff (h : settings.Valid) (htarget : target.Valid)
    (done : List Setting) :
    (settings.towards target done).Valid ↔
      (.minDelay ∈ done → .maxDelay ∉ done → target.minDelay ≤ settings.maxDelay)
        ∧ (.maxDelay ∈ done → .minDelay ∉ done → settings.minDelay ≤ target.maxDelay) := by
  obtain ⟨hthreshold, hdelays⟩ := settings.valid_iff.mp h
  obtain ⟨hthreshold', hdelays'⟩ := target.valid_iff.mp htarget
  have hget := settings.get_towards target done
  have hreached : (settings.towards target done).threshold = _
      ∧ (settings.towards target done).minDelay = _ ∧ (settings.towards target done).maxDelay = _ :=
    ⟨hget .threshold, hget .minDelay, hget .maxDelay⟩
  have hreachedThreshold : 0 ≤ (settings.towards target done).threshold.toInt
      ∧ (settings.towards target done).threshold.toInt ≤ 2147483647 := by
    rw [hreached.1]
    split
    · exact hthreshold'
    · exact hthreshold
  rw [valid_iff, and_iff_right hreachedThreshold, hreached.2.1, hreached.2.2,
    Int64.le_iff_toInt_le, Int64.le_iff_toInt_le]
  by_cases hmin : Setting.minDelay ∈ done <;> by_cases hmax : Setting.maxDelay ∈ done
  all_goals
    simp only [hmin, hmax, if_true, if_false, get, not_true_eq_false, not_false_eq_true,
      true_implies, false_implies, and_true, true_and, iff_true]
    omega

end Settings

namespace Component

variable {component : Component} {spelling : Setting → String} {target : Settings}

/-! ### One change after another -/

/-- Takes the settings over from a target in turn, under the names that are given for them, until a
value is refused. -/
def adopt (component : Component) (spelling : Setting → String) (target : Settings)
    (order : List Setting) : Except Fault Component :=
  order.foldlM
    (fun reached setting ↦ (reached.set (spelling setting) (target.get setting)).map Prod.snd)
    component

theorem adopt_cons (setting : Setting) (rest : List Setting) :
    component.adopt spelling target (setting :: rest) =
      ((component.set (spelling setting) (target.get setting)).map Prod.snd).bind
        (adopt · spelling target rest) :=
  rfl

/-- What the settings let through is committed, and the policy follows. -/
theorem Agrees.set_of_valid (h : component.Agrees) (hservice : component.InService) {name : String}
    {setting : Setting} (hname : Setting.read name = .ok setting) {value : Int64}
    (hvalid : (component.settings.set setting value).Valid) :
    component.set name value = .ok (setting, component.commit setting value)
      ∧ (component.commit setting value).Agrees
      ∧ (component.commit setting value).InService := by
  have hcheck : component.settings.check setting value = .ok () :=
    (h.valid.check_eq_ok_iff setting value).mpr hvalid
  refine ⟨?_, h.commit hservice hcheck, (hservice.commit setting value).1⟩
  rw [set_of_read hname, hcheck]
  rfl

theorem Agrees.set_of_not_valid (h : component.Agrees) {name : String} {setting : Setting}
    (hname : Setting.read name = .ok setting) {value : Int64}
    (hinvalid : ¬(component.settings.set setting value).Valid) :
    ∃ fault, component.set name value = .error fault := by
  rw [set_of_read hname]
  cases hcheck : component.settings.check setting value with
  | ok accepted => exact absurd ((h.valid.check_eq_ok_iff setting value).mp hcheck) hinvalid
  | error fault => exact ⟨fault, rfl⟩

/-- All is accepted exactly if the settings are valid at every moment in between. -/
theorem Agrees.exists_adopt_iff (h : component.Agrees) (hservice : component.InService)
    (named : ∀ setting, Setting.read (spelling setting) = .ok setting) (order : List Setting) :
    (∃ last, component.adopt spelling target order = .ok last) ↔
      ∀ done, done <+: order → (component.settings.towards target done).Valid := by
  induction order generalizing component with
  | nil =>
    refine iff_of_true ⟨component, rfl⟩ fun done hdone ↦ ?_
    rw [List.prefix_nil.mp hdone]
    exact h.valid
  | cons setting rest ih =>
    by_cases hvalid : (component.settings.set setting (target.get setting)).Valid
    · obtain ⟨hset, hnext, hnextService⟩ := h.set_of_valid hservice (named setting) hvalid
      have hrest := ih hnext hnextService
      rw [adopt_cons, hset]
      refine hrest.trans ⟨fun hall done hdone ↦ ?_, fun hall done hdone ↦ ?_⟩
      · rcases List.prefix_cons_iff.mp hdone with rfl | ⟨later, rfl, hlater⟩
        · exact h.valid
        · exact hall later hlater
      · exact hall (setting :: done) (List.prefix_cons_iff.mpr (Or.inr ⟨done, rfl, hdone⟩))
    · obtain ⟨fault, hset⟩ := h.set_of_not_valid (named setting) hvalid
      rw [adopt_cons, hset]
      refine iff_of_false (fun ⟨last, hlast⟩ ↦ ?_) fun hall ↦ hvalid ?_
      · exact absurd hlast (by simp [Except.map, Except.bind])
      · exact hall [setting] ⟨rest, rfl⟩

/-- Where the changes lead, as far as they are accepted. -/
theorem Agrees.adopted (h : component.Agrees) (hservice : component.InService)
    (named : ∀ setting, Setting.read (spelling setting) = .ok setting) {order : List Setting}
    {last : Component} (hlast : component.adopt spelling target order = .ok last) :
    last.Agrees ∧ last.InService ∧ last.settings = component.settings.towards target order := by
  induction order generalizing component with
  | nil =>
    rw [← Except.ok.inj hlast]
    exact ⟨h, hservice, rfl⟩
  | cons setting rest ih =>
    by_cases hvalid : (component.settings.set setting (target.get setting)).Valid
    · obtain ⟨hset, hnext, hnextService⟩ := h.set_of_valid hservice (named setting) hvalid
      rw [adopt_cons, hset] at hlast
      exact ih hnext hnextService hlast
    · obtain ⟨fault, hset⟩ := h.set_of_not_valid (named setting) hvalid
      rw [adopt_cons, hset] at hlast
      exact absurd hlast (by simp [Except.map, Except.bind])

/-! ### Both orders of the delay bounds -/

theorem Agrees.exists_adopt_minFirst_iff (h : component.Agrees) (hservice : component.InService)
    (named : ∀ setting, Setting.read (spelling setting) = .ok setting) (htarget : target.Valid)
    {order : List Setting} (horder : Setting.delays order = [.minDelay, .maxDelay]) :
    (∃ last, component.adopt spelling target order = .ok last) ↔
      target.minDelay ≤ component.settings.maxDelay := by
  have hne : Setting.minDelay ≠ .maxDelay := by simp
  rw [h.exists_adopt_iff hservice named]
  constructor
  · intro hall
    obtain ⟨done, hdone, hfirst, hsecond⟩ := Setting.exists_between horder hne
    exact ((h.valid.valid_towards_iff htarget done).mp (hall done hdone)).1 hfirst hsecond
  · intro hle done hdone
    refine (h.valid.valid_towards_iff htarget done).mpr ⟨fun _ _ ↦ hle, fun hsecond hfirst ↦ ?_⟩
    exact absurd (Setting.first_mem_of_second_mem horder hdone hsecond) hfirst

theorem Agrees.exists_adopt_maxFirst_iff (h : component.Agrees) (hservice : component.InService)
    (named : ∀ setting, Setting.read (spelling setting) = .ok setting) (htarget : target.Valid)
    {order : List Setting} (horder : Setting.delays order = [.maxDelay, .minDelay]) :
    (∃ last, component.adopt spelling target order = .ok last) ↔
      component.settings.minDelay ≤ target.maxDelay := by
  have hne : Setting.maxDelay ≠ .minDelay := by simp
  rw [h.exists_adopt_iff hservice named]
  constructor
  · intro hall
    obtain ⟨done, hdone, hfirst, hsecond⟩ := Setting.exists_between horder hne
    exact ((h.valid.valid_towards_iff htarget done).mp (hall done hdone)).2 hfirst hsecond
  · intro hle done hdone
    refine (h.valid.valid_towards_iff htarget done).mpr ⟨fun hsecond hfirst ↦ ?_, fun _ _ ↦ hle⟩
    exact absurd (Setting.first_mem_of_second_mem horder hdone hsecond) hfirst

/-- What it takes to bring a component to the settings of a target, and where that ends. -/
structure Adopts (component : Component) (spelling : Setting → String) (target : Settings) :
    Prop where
  threshold : ∀ order reached, component.adopt spelling target order = .ok reached →
    ∃ next, reached.set (spelling .threshold) target.threshold = .ok (.threshold, next)
  minFirst : ∀ order, Setting.delays order = [.minDelay, .maxDelay] →
    ((∃ last, component.adopt spelling target order = .ok last) ↔
      target.minDelay ≤ component.settings.maxDelay)
  maxFirst : ∀ order, Setting.delays order = [.maxDelay, .minDelay] →
    ((∃ last, component.adopt spelling target order = .ok last) ↔
      component.settings.minDelay ≤ target.maxDelay)
  oneAccepted :
    (∀ order, Setting.delays order = [.minDelay, .maxDelay] →
        ∃ last, component.adopt spelling target order = .ok last)
      ∨ ∀ order, Setting.delays order = [.maxDelay, .minDelay] →
        ∃ last, component.adopt spelling target order = .ok last
  reached : ∀ order last, (∀ setting, setting ∈ order) →
    component.adopt spelling target order = .ok last →
      last.settings = target ∧ last.coordinator.delayLimits = [target] ∧ last.limits = target

/-- The threshold is in no conflict with anything. -/
theorem Agrees.exists_set_threshold (h : component.Agrees) (hservice : component.InService)
    {name : String} (hname : Setting.read name = .ok .threshold) (htarget : target.Valid) :
    ∃ next, component.set name target.threshold = .ok (.threshold, next) := by
  have hvalid : (component.settings.set .threshold target.threshold).Valid :=
    (h.valid.valid_towards_iff htarget [.threshold]).mpr (by simp)
  exact ⟨_, (h.set_of_valid hservice hname hvalid).1⟩

/-- If the new delay bounds lie above the old ones the greatest can go first, and else the least. -/
theorem Agrees.adopts (h : component.Agrees) (hservice : component.InService)
    (named : ∀ setting, Setting.read (spelling setting) = .ok setting) (htarget : target.Valid) :
    component.Adopts spelling target := by
  have hmin (order : List Setting) (horder : Setting.delays order = [.minDelay, .maxDelay]) :=
    h.exists_adopt_minFirst_iff hservice named htarget horder
  have hmax (order : List Setting) (horder : Setting.delays order = [.maxDelay, .minDelay]) :=
    h.exists_adopt_maxFirst_iff hservice named htarget horder
  constructor
  · intro order reached hreached
    obtain ⟨hagrees, hreachedService, -⟩ := h.adopted hservice named hreached
    exact hagrees.exists_set_threshold hreachedService (named .threshold) htarget
  · exact hmin
  · exact hmax
  · by_cases hle : target.minDelay ≤ component.settings.maxDelay
    · exact Or.inl fun order horder ↦ (hmin order horder).mpr hle
    · refine Or.inr fun order horder ↦ (hmax order horder).mpr ?_
      have hold := h.valid.minDelay_le
      have hnew := htarget.minDelay_le
      rw [Int64.le_iff_toInt_le] at hle ⊢
      omega
  · intro order last hall hlast
    obtain ⟨hagrees, -, hsettings⟩ := h.adopted hservice named hlast
    have hreached : last.settings = target := hsettings.trans (Settings.towards_of_forall_mem hall)
    have henforced := hagrees.enforced
    have hlimits := hagrees.limits_eq
    rw [hreached] at henforced hlimits
    exact ⟨hreached, henforced, hlimits⟩

/-- However a component that has been loaded got where it is, as long as nothing was committed
without a check it can be brought to any valid settings, and in one order of the delay bounds at
least every change on the way is accepted. -/
theorem adoption_settled {σ : Type} {host : Host σ} {start : Settings} {state : σ}
    (loaded : (load host start state).result = .ok component) {steps : List Step}
    (hchecked : ∀ step ∈ steps, step.Checked)
    (named : ∀ setting, Setting.read (spelling setting) = .ok setting)
    (passes : target.validate = .ok ()) :
    ((Session.start component).run steps).component.Adopts spelling target := by
  obtain ⟨hvalid, rfl⟩ := eq_fresh_of_load loaded
  have hstart := Session.accounted_start (inService_fresh start) rfl
  have hagrees := hstart.agrees_run (agrees_fresh hvalid) hchecked
  exact hagrees.adopts (hstart.run steps).service named (target.validate_eq_ok_iff.mp passes)

/-- A connection is held back and both delay bounds have been raised. To lower them again the least
has to go first. -/
theorem adoption_settled_downwards :
    let start : Settings := ⟨1, 1000, 9000⟩
    let target : Settings := ⟨0, 1500, 2000⟩
    let spelling : Setting → String :=
      fun | .threshold => "FAILED_connections_threshold" | setting => setting.name
    let failure : ConnectionEvent := ⟨.connect, .failure, some (.ofLogin "root" "localhost")⟩
    let steps : List Step :=
      [.call (.notify failure .elapsed), .begin failure, .call (.set "max_connection_delay" 90000),
        .call (.set "min_connection_delay" 5000)]
    let reached := (Session.start (fresh start)).run steps
    (load Registry.host start .empty).result = .ok (fresh start)
      ∧ (∀ step ∈ steps, step.Checked)
      ∧ (∀ setting, Setting.read (spelling setting) = .ok setting)
      ∧ target.validate = .ok ()
      ∧ reached.held.length = 1
      ∧ reached.component.Adopts spelling target
      ∧ (∃ last, reached.component.adopt spelling target
          [.minDelay, .threshold, .maxDelay] = .ok last ∧ last.settings = target)
      ∧ ¬∃ last, reached.component.adopt spelling target
          [.maxDelay, .threshold, .minDelay] = .ok last := by
  intro start target spelling failure steps reached
  have loaded : (load Registry.host start .empty).result = .ok (fresh start) :=
    load_registry (start.valid_iff.mpr (by decide))
  have hchecked : ∀ step ∈ steps, step.Checked := by
    simp [steps, Step.Checked]
  have named : ∀ setting, Setting.read (spelling setting) = .ok setting := by
    rintro (_ | _ | _) <;> decide +kernel
  have passes : target.validate = .ok () :=
    target.validate_eq_ok_iff.mpr (target.valid_iff.mpr (by decide))
  have hadopts : reached.component.Adopts spelling target :=
    adoption_settled loaded hchecked named passes
  have hsettings : reached.component.settings = ⟨1, 5000, 90000⟩ := by decide +kernel
  refine ⟨loaded, hchecked, named, passes, by decide +kernel, hadopts, ?_, ?_⟩
  · obtain ⟨last, hlast⟩ := (hadopts.minFirst [.minDelay, .threshold, .maxDelay] rfl).mpr
      (by rw [hsettings]; decide)
    exact ⟨last, hlast, (hadopts.reached _ last (by rintro (_ | _ | _) <;> decide) hlast).1⟩
  · rw [hadopts.maxFirst [.maxDelay, .threshold, .minDelay] rfl, hsettings]
    decide

end Component

end LoginThrottle
