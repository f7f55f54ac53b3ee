import LoginThrottle.Proofs.Component.Loading
import LoginThrottle.Proofs.Host.Registry

/-!
Loading the component into a host that keeps the names itself, whatever is registered there and
whatever it refuses. A load succeeds exactly when the settings are valid and all of the component's
names are free, and then they are what is new; otherwise the registered names are the same as
before. Unloading takes out these names and no others. The names are those five that the host's
administrators know, asked for one after another as `names_eq` has them.
-/

set_option autoImplicit false
set_option relaxedAutoImplicit false

namespace LoginThrottle.Component

/-- The names that the component registers: the table, the settings and the status variable. -/
def names : List String :=
  registrations.flatMap Registration.names

theorem names_eq :
    names = ["connection_control_failed_login_attempts",
      "component_connection_control.failed_connections_threshold",
      "component_connection_control.min_connection_delay",
      "component_connection_control.max_connection_delay",
      "Component_connection_control_delay_generated"] := by
  decide +kernel

/-- Each name belongs to the table, to a setting or to the status variable. -/
theorem announced_registrations :
    Registry.announced registrations =
      [.table, .settings, .settings, .settings, .statusVariable].zip names :=
  rfl

theorem nodup_names : names.Nodup := by
  rw [names_eq]
  decide

theorem forall_free_iff (registry : Registry) :
    (∀ entry ∈ Registry.announced registrations, registry.Free entry.2) ↔
      ∀ name ∈ names, registry.Free name := by
  rw [names, ← Registry.map_snd_announced, List.forall_mem_map]

theorem registered_unload (component : Component) (registry : Registry) :
    (component.unload Registry.host registry).2.2.registered =
      registry.registered.filter (· ∉ names) := by
  have hunload : (component.unload Registry.host registry).2.2 =
      (Registry.host.unregisterAll registrations.reverse registry).2 := rfl
  rw [hunload, Registry.registered_unregisterAll]
  exact List.filter_congr fun name _ ↦ by simp [names]

/-- A load adds its names, all of which were free, or it leaves the names as they were. -/
theorem load_registry_cases (registry : Registry) (settings : Settings) :
    ((load Registry.host settings registry).result = .ok (fresh settings)
        ∧ settings.validate = .ok () ∧ (∀ name ∈ names, registry.Free name)
        ∧ registry.Extends (load Registry.host settings registry).host names)
      ∨ ∃ fault, (load Registry.host settings registry).result = .error fault
        ∧ (load Registry.host settings registry).host.registered = registry.registered
        ∧ (settings.validate = .error fault ∨ settings.validate = .ok ()
          ∧ registry.FailsAtFirst (Registry.announced registrations) fault) := by
  rw [load]
  cases settings.validate with
  | error fault => exact Or.inr ⟨fault, rfl, rfl, Or.inl rfl⟩
  | ok valid =>
    rcases Registry.registerAll_cases nodup_names registry with
      ⟨next, hdone, hextends, hfree⟩ | ⟨done, fault, next, hfailed, hextends, hfails⟩
    · rw [hdone]
      exact Or.inl ⟨rfl, rfl, (forall_free_iff registry).mp hfree, hextends⟩
    · rw [hfailed]
      have hback : (Registry.host.unregisterAll done.reverse next).2.registered =
          next.registered.filter (· ∉ done.flatMap Registration.names) := by
        rw [Registry.registered_unregisterAll]
        exact List.filter_congr fun name _ ↦ by simp
      exact Or.inr ⟨fault, rfl, hback.trans hextends.restored, Or.inr ⟨rfl, hfails⟩⟩

theorem load_registry_iff (registry : Registry) (settings : Settings) :
    (∃ component, (load Registry.host settings registry).result = .ok component) ↔
      settings.validate = .ok () ∧ ∀ name ∈ names, registry.Free name := by
  rcases load_registry_cases registry settings with
    ⟨hloaded, hvalid, hfree, -⟩ | ⟨fault, hfailed, -, hcause⟩
  · exact iff_of_true ⟨_, hloaded⟩ ⟨hvalid, hfree⟩
  · refine iff_of_false (fun ⟨component, hloaded⟩ ↦ ?_) fun ⟨hvalid, hfree⟩ ↦ ?_
    · exact absurd (hloaded.symm.trans hfailed) (by simp)
    · rcases hcause with hinvalid | ⟨-, hfails⟩
      · exact absurd (hvalid.symm.trans hinvalid) (by simp)
      · obtain ⟨entry, hentry, htaken⟩ := hfails.exists_not_free
        exact htaken ((forall_free_iff registry).mpr hfree entry hentry)

/-- The component has five names. A load succeeds exactly when it can, and adds these names or
nothing; its fault is that of the settings or that of the first name that is not free. Unloading
takes the names out again, and only them, from whatever is registered by then. -/
theorem load_unload_registry (registry : Registry) (settings : Settings) :
    let loading := load Registry.host settings registry
    names = ["connection_control_failed_login_attempts",
        "component_connection_control.failed_connections_threshold",
        "component_connection_control.min_connection_delay",
        "component_connection_control.max_connection_delay",
        "Component_connection_control_delay_generated"]
      ∧ Registry.announced registrations =
        [.table, .settings, .settings, .settings, .statusVariable].zip names
      ∧ ((∃ component, loading.result = .ok component) ↔
        settings.validate = .ok () ∧ ∀ name ∈ names, registry.Free name)
      ∧ (∀ component, loading.result = .ok component →
        (∀ name, name ∈ loading.host.registered ↔ name ∈ registry.registered ∨ name ∈ names)
          ∧ ∀ calls, ((component.run calls).unload Registry.host loading.host).2.2.registered =
            registry.registered)
      ∧ (∀ fault, loading.result = .error fault → loading.host.registered = registry.registered
        ∧ (settings.validate = .error fault ∨ settings.validate = .ok ()
          ∧ registry.FailsAtFirst (Registry.announced registrations) fault))
      ∧ ∀ (component : Component) (later : Registry) (name : String),
        name ∈ (component.unload Registry.host later).2.2.registered ↔
          name ∈ later.registered ∧ name ∉ names := by
  intro loading
  refine ⟨names_eq, announced_registrations, load_registry_iff registry settings,
    fun component hcomponent ↦ ?_, fun fault hfault ↦ ?_, fun component later name ↦ ?_⟩
  · rcases load_registry_cases registry settings with ⟨-, -, -, hextends⟩ | ⟨fault, hfailed, -, -⟩
    · exact ⟨hextends.mem_iff, fun calls ↦ (registered_unload _ _).trans hextends.restored⟩
    · exact absurd (hcomponent.symm.trans hfailed) (by simp)
  · rcases load_registry_cases registry settings with ⟨hloaded, -⟩ | ⟨first, hfailed, hkept, hcause⟩
    · exact absurd (hloaded.symm.trans hfault) (by simp)
    · obtain rfl := Except.error.inj (hfailed.symm.trans hfault)
      exact ⟨hkept, hcause⟩
  · rw [registered_unload]
    simp

/-- A component is loaded, a second one cannot be, and the first is unloaded. -/
theorem load_unload_registry_twice :
    let start : Registry := { Registry.empty with registered := ["another"] }
    let first := load Registry.host .standard start
    let second := load Registry.host .standard first.host
    let component := (fresh .standard).run [.set Setting.threshold.name 0]
    first.result = .ok (fresh .standard)
      ∧ (∀ name, name ∈ first.host.registered ↔ name ∈ ["another"]
        ∨ name ∈ ["connection_control_failed_login_attempts",
          "component_connection_control.failed_connections_threshold",
          "component_connection_control.min_connection_delay",
          "component_connection_control.max_connection_delay",
          "Component_connection_control_delay_generated"])
      ∧ (∃ fault, second.result = .error fault ∧ second.host.registered = first.host.registered)
      ∧ (component.unload Registry.host first.host).2.2.registered = start.registered := by
  intro start first second component
  have hfirst : load Registry.host .standard start = first := rfl
  have hsecond : load Registry.host .standard first.host = second := rfl
  clear_value first second
  have hvalid : Settings.standard.validate = .ok () := rfl
  have hfree : ∀ name ∈ names, start.Free name := by
    have hnames : ∀ name ∈ names, name ∉ start.registered ∧ name ∉ start.refused := by
      decide +kernel
    exact fun name hname ↦ ⟨(hnames name hname).1, (hnames name hname).2⟩
  obtain ⟨hnames, -, hloads, hadds, -, -⟩ := load_unload_registry start .standard
  obtain ⟨-, -, hagain, -, hkept, -⟩ := load_unload_registry first.host .standard
  rw [hfirst] at hloads hadds
  rw [hsecond] at hagain hkept
  obtain ⟨loading, hloading⟩ := hloads.mpr ⟨hvalid, hfree⟩
  obtain ⟨-, rfl⟩ := eq_fresh_of_load (hfirst ▸ hloading)
  obtain ⟨hregistered, hrestored⟩ := hadds _ hloading
  refine ⟨hloading, hnames ▸ hregistered, ?_, hrestored _⟩
  cases hresult : second.result with
  | error fault => exact ⟨fault, rfl, (hkept fault hresult).1⟩
  | ok other =>
    have htable : TableShare.failures.name ∈ names := by decide +kernel
    have hfreeAgain := (hagain.mp ⟨other, hresult⟩).2 _ htable
    exact absurd ((hregistered _).mpr (Or.inr htable)) hfreeAgain.unregistered

end LoginThrottle.Component
