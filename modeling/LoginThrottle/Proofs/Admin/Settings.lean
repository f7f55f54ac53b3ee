import Mathlib.Control.Monad.Basic
import LoginThrottle.Proofs.Admin.Serving
import LoginThrottle.Proofs.Component.Change

/-!
Settings as an administrator sees and changes them over the network. A change that the component
accepts is acknowledged with the value that was asked for, and shows; one that it refuses is always
put down to the request, whatever the name and the value, and leaves nothing behind but one warning.
-/

set_option autoImplicit false
set_option relaxedAutoImplicit false

namespace LoginThrottle

/-- A value is refused only for itself, or for the name that it comes with. -/
theorem Component.rejectsRequest_of_set {component : Component} {name : String} {value : Int64}
    {fault : Fault} (h : component.set name value = .error fault) :
    fault.rejectsRequest = true := by
  cases hname : Setting.read name with
  | error unknown =>
    rw [Component.set_of_not_read hname] at h
    exact Except.error.inj h ▸ rfl
  | ok setting =>
    rw [Component.set_of_read hname, Settings.check] at h
    split at h
    · exact Except.error.inj h ▸ rfl
    · split at h
      · exact Except.error.inj h ▸ rfl
      · exact absurd h (by simp [Except.map])

/-- A value that is accepted is the one that is then committed for the setting, and no other
setting is touched. -/
theorem Component.get_settings_of_set {component next : Component} {name : String} {value : Int64}
    {setting : Setting} (h : component.set name value = .ok (setting, next)) (other : Setting) :
    next.settings.get other = if other = setting then value else component.settings.get other := by
  have hnext : next.settings = component.settings.set setting value := by
    rw [set] at h
    cases hcheck : component.check name value with
    | error fault =>
      rw [hcheck] at h
      exact absurd h (by simp [bind, Except.bind])
    | ok named =>
      rw [hcheck] at h
      obtain ⟨rfl, rfl⟩ := Prod.mk.inj (Except.ok.inj h)
      rfl
  rw [hnext]
  by_cases hother : other = setting
  · rw [if_pos hother, hother, Settings.get_set_self]
  · rw [if_neg hother, Settings.get_set_of_ne _ _ (Ne.symm hother)]

namespace Server

variable {server : Server} {component : Component} {request : Request}

/-- The reply to a client that asks for the settings, when these are their values. -/
def shown (values : Setting → Int64) : Exchange :=
  .replied (.json (.ofFields (Setting.all.map fun setting ↦
    (setting.name, .ofInt (values setting).toInt))))

theorem Administers.handle_settings (h : server.Administers component)
    (hasks : request.Asks .settings) (timing : Timing) :
    (server.handle request timing).2 = shown component.settings.get := by
  obtain ⟨hnext, hreply⟩ := h.withComponent fun component ↦ (component, settingsReply component)
  rw [(h.handle_of_asks hasks timing hnext).2]
  exact congrArg Exchange.replied hreply

/-- A request with a value for a setting does what `setSetting` does. -/
theorem Administers.handle_setting (h : server.Administers component)
    (hasks : request.Asks .setting) {value : Int64}
    (hbody : request.readBody Setting.requestedValue? = .ok value) (timing : Timing) :
    (server.handle request timing).1.Administers
        (setSetting component (settingName request) value).1
      ∧ (server.handle request timing).2 =
        .replied (setSetting component (settingName request) value).2 := by
  have hput : putSetting component (settingName request) request =
      setSetting component (settingName request) value := by
    rw [putSetting, hbody]
  obtain ⟨hnext, hreply⟩ :=
    h.withComponent fun component ↦ putSetting component (settingName request) request
  rw [hput] at hnext hreply
  obtain ⟨hhandle, hexchange⟩ := h.handle_of_asks hasks timing hnext
  exact ⟨hhandle, hexchange.trans (congrArg Exchange.replied hreply)⟩

/-- The change is acknowledged, made, and shown from then on. -/
structure Acknowledged (component next : Component) (setting : Setting) (value : Int64)
    (met : Server × Exchange) : Prop where
  reply : met.2 =
    .replied ⟨200, .json (.ofFields
      [("name", .ofString setting.name), ("value", .ofInt value.toInt)])⟩
  administers : met.1.Administers next
  shown : ∀ (request : Request) (timing : Timing), request.Asks .settings →
    (met.1.handle request timing).2 =
      shown fun other ↦ if other = setting then value else component.settings.get other

/-- The fault is explained to the client and logged as a warning, and that is all. -/
structure Rejected (component refused : Component) (fault : Fault) (met : Server × Exchange) :
    Prop where
  reply : met.2 = .replied ⟨400, .text Reply.plain fault.publicMessage⟩
  administers : met.1.Administers refused
  logged : ∃ record, refused.coordinator.journal = component.coordinator.journal ++ [record]
    ∧ record.level = .warn ∧ record.message = "Variable change rejected"
    ∧ record.fields = [("error", .text fault.message)]
  settings : refused.settings = component.settings
  delayLimits : refused.coordinator.delayLimits = component.coordinator.delayLimits
  ledger : refused.ledger = component.ledger
  generated : refused.generated = component.generated

theorem setSetting_of_ok {setting : Setting} {next : Component} {name : String} {value : Int64}
    (h : component.set name value = .ok (setting, next)) :
    setSetting component name value =
      (next, ⟨200, .json (.ofFields
        [("name", .ofString setting.name), ("value", .ofInt value.toInt)])⟩) := by
  have hvalue : next.settings.get setting = value := by
    rw [Component.get_settings_of_set h, if_pos rfl]
  rw [setSetting, h]
  simp only [hvalue]
  rfl

theorem setSetting_of_error {fault : Fault} {name : String} {value : Int64}
    (h : component.set name value = .error fault) :
    setSetting component name value =
      ({ component with coordinator := component.coordinator.log (.requestRejected fault) },
        ⟨400, .text Reply.plain fault.publicMessage⟩) := by
  have hrejects := Component.rejectsRequest_of_set h
  rw [setSetting, h]
  simp only [Fault.reported, Reply.ofFault, if_pos hrejects]

end Server

end LoginThrottle
