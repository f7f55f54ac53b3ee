import LoginThrottle.Proofs.Component.Run
import LoginThrottle.Proofs.Host.Transcript

/-!
What the component asks of its host, which may answer as it likes. A load registers three things in
order, and where one is refused it asks for those before it to be taken back, the latest first.
Unloading asks for all three to be unregistered. No refusal on the way back stops either of them
or takes the place of the fault that is reported; each is logged.
-/

set_option autoImplicit false
set_option relaxedAutoImplicit false

namespace LoginThrottle.Component

open Host.Transcript

variable {σ : Type}

/-- What a load comes to on a host that keeps a transcript. Settings that are not valid ask for
nothing. With valid ones either everything is registered, or there is a first refusal: then that
is the fault of the load, what was registered before it is unregistered in reverse, and the refusals
of that are logged. -/
def RegistersInOrder (settings : Settings) (loading : Loading (σ × Host.Transcript)) : Prop :=
  match settings.validate with
  | .error fault => loading.result = .error fault ∧ loading.host.2 = []
  | .ok () =>
    loading.result = .ok (fresh settings) ∧ loading.host.2 = granted registrations
      ∨ ∃ done failed rest fault undone, registrations = done ++ failed :: rest
        ∧ loading.result = .error fault
        ∧ loading.host.2 = granted done ++ (.register failed, .error fault) :: undone
        ∧ calls undone = done.reverse.map .unregister
        ∧ loading.records = .loadFailed fault ::
          (leftovers undone).map fun (step, fault) ↦ .rollBackFailed step fault

/-- Keeping the transcript makes no difference to a load. -/
theorem load_transcribed (host : Host σ) (settings : Settings) (state : σ) :
    let loading := load host.transcribed settings (state, [])
    RegistersInOrder settings loading
      ∧ load host settings state = ⟨loading.result, loading.records, loading.host.1⟩ := by
  intro loading
  have hloading : loading = load host.transcribed settings (state, []) := rfl
  rw [RegistersInOrder, hloading, load, load]
  cases settings.validate with
  | error fault => exact ⟨⟨rfl, rfl⟩, rfl⟩
  | ok valid =>
    rcases host.registerAll_transcribed registrations state [] with
      ⟨next, hplain, hkept⟩ | ⟨done, failed, rest, fault, next, hsplit, hplain, hkept⟩
    · rw [hplain, hkept]
      exact ⟨Or.inl ⟨rfl, rfl⟩, rfl⟩
    · obtain ⟨undone, last, hcalls, hback, hbackKept⟩ := host.unregisterAll_transcribed done.reverse
        next (granted done ++ [(.register failed, .error fault)])
      rw [List.nil_append] at hkept
      rw [hplain, hkept]
      simp only [hback, hbackKept]
      refine ⟨Or.inr ⟨done, failed, rest, fault, undone, hsplit, rfl, ?_, hcalls, rfl⟩, trivial⟩
      rw [List.append_assoc, List.singleton_append]

/-- An unloaded component delays nobody and remembers nothing. -/
theorem InService.limits_unload {component : Component} (h : component.InService) (host : Host σ)
    (state : σ) :
    (component.unload host state).1.limits = { component.limits with threshold := 0 } := by
  have hcoordinator : (component.unload host state).1.coordinator =
      { component.coordinator.disable with ledger := .empty } := rfl
  refine limits_of_runsPolicy ?_
  rw [hcoordinator]
  exact h.policy.disable.of_eq rfl rfl

/-- However the host answers, a load registers in order up to the first refusal and takes back
what it had registered, and unloading a component asks for everything to be unregistered, logs
the refusals, and leaves no failures and no threshold behind. -/
theorem load_unload_transcribed (host : Host σ) (settings : Settings) (state : σ) :
    let loading := load host.transcribed settings (state, [])
    RegistersInOrder settings loading
      ∧ load host settings state = ⟨loading.result, loading.records, loading.host.1⟩
      ∧ ∀ component, loading.result = .ok component → ∀ (made : List Call) (later : σ),
        ∃ unloaded records left asked,
          (component.run made).unload host.transcribed (later, []) = (unloaded, records, left, asked)
            ∧ calls asked = [.unregister .statusVariable, .unregister .settings, .unregister .table]
            ∧ records = (leftovers asked).map (fun (step, fault) ↦ .unregisterFailed step fault)
            ∧ unloaded.ledger = .empty ∧ unloaded.limits.threshold = 0 := by
  intro loading
  obtain ⟨hloads, hplain⟩ := load_transcribed host settings state
  refine ⟨hloads, hplain, fun component loaded made later ↦ ?_⟩
  obtain ⟨-, rfl⟩ := eq_fresh_of_load loaded
  have hservice := (inService_fresh settings).run made
  obtain ⟨asked, left, hcalls, -, hkept⟩ :=
    host.unregisterAll_transcribed registrations.reverse later []
  have hlimits := hservice.limits_unload host.transcribed (later, [])
  exact ⟨_, _, left, asked, by rw [unload, hkept]; rfl, hcalls, rfl, rfl,
    congrArg Settings.threshold hlimits⟩

example :
    let fault (step : String) : Fault := .registration step "no"
    let host : Host Unit :=
      ⟨fun call _ ↦
        (match call with
          | .register .statusVariable => .error (fault "register")
          | .unregister .settings => .error (fault "unregister")
          | _ => .ok (), ())⟩
    let loading := load host.transcribed .standard ((), [])
    loading.result = .error (fault "register")
      ∧ calls loading.host.2 =
        [.register .table, .register .settings, .register .statusVariable, .unregister .settings,
          .unregister .table]
      ∧ loading.records =
        [.loadFailed (fault "register"), .rollBackFailed .settings (fault "unregister")] :=
  ⟨rfl, rfl, rfl⟩

/-- A host that registers everything and unregisters nothing. -/
theorem load_unload_transcribed_refused :
    let fault : Fault := .registration "unregister" "no"
    let host : Host Unit :=
      ⟨fun call _ ↦ (match call with | .register _ => .ok () | .unregister _ => .error fault, ())⟩
    ∃ component, (load host.transcribed .standard ((), [])).result = .ok component
      ∧ ∃ unloaded records left asked,
        component.unload host.transcribed ((), []) = (unloaded, records, left, asked)
          ∧ records = [.unregisterFailed .statusVariable fault, .unregisterFailed .settings fault,
            .unregisterFailed .table fault]
          ∧ unloaded.ledger = .empty ∧ unloaded.limits.threshold = 0 := by
  intro fault host
  have loaded : (load host.transcribed .standard ((), [])).result = .ok (fresh .standard) := rfl
  obtain ⟨unloaded, records, left, asked, hunload, -, -, hledger, hthreshold⟩ :=
    (load_unload_transcribed host .standard ()).2.2 _ loaded [] ()
  have hrecords : ((fresh .standard).unload host.transcribed ((), [])).2.1 = records :=
    congrArg (·.2.1) hunload
  exact ⟨_, loaded, unloaded, records, left, asked, hunload, hrecords.symm, hledger, hthreshold⟩

end LoginThrottle.Component
