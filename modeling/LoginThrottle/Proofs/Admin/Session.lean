import LoginThrottle.Proofs.Admin.Serving
import LoginThrottle.Proofs.Component.Session

/-!
Runs of a server whose component is used by clients and by its host at the same time. A request may
have to wait for the delay of the event that it reports, and is then replied to later or given up.
Whatever the moves, the component stays in service, and every event that is held back has nobody
left to be told of it.
-/

set_option autoImplicit false
set_option relaxedAutoImplicit false

namespace LoginThrottle

namespace Component

variable {component : Component}

/-- The beginning of an event keeps a component in service, and an event that is held back waits for
nothing but its delay. -/
theorem InService.begin (h : component.InService) (event : ConnectionEvent) :
    (component.begin event).1.InService
      ∧ ∀ held, (component.begin event).2 = some held → held.remaining = [] := by
  rcases h.begin_cases event .elapsed with ⟨decision, -, hbegin⟩ | hbegin
  · rw [hbegin]
    refine ⟨h.act_increment, fun held hheld ↦ ?_⟩
    rw [← Option.some.inj hheld]
  · rw [hbegin]
    exact ⟨(h.notify event .elapsed).1,
      fun held hheld ↦ absurd hheld (Option.some_ne_none held).symm⟩

theorem InService.log (h : component.InService) (record : Record) :
    InService { component with coordinator := component.coordinator.log record } :=
  inService_of_runsPolicy (h.policy.of_eq rfl rfl) h.ledger

end Component

namespace Server

/-- A server, the requests that wait for their reply, and the connections that the component holds
back for its host, each in the order of their arrival. -/
structure Session where
  server : Server
  waiting : List Pending
  held : List Coordinator.Held

/-- A request arrives, or one that waits is replied to, or given up by its client; or the host has
something for the component. -/
inductive Move
  | request (request : Request) (timing : Timing)
  | resume (place : Nat) (timing : Timing)
  | abandon (place : Nat)
  | step (step : Component.Step)

namespace Session

/-- A server with everything in place, before anything has happened. -/
def start (component : Component) (metricsOn : Bool) : Session :=
  ⟨full component metricsOn, [], []⟩

def perform (session : Session) : Move → Session
  | .request request timing =>
    let (server, exchange) := session.server.handle request timing
    match exchange with
    | .replied _ => { session with server }
    | .pending pending => { session with server, waiting := session.waiting ++ [pending] }
  | .resume place timing =>
    match session.waiting[place]? with
    | some pending =>
      { session with
        server := (session.server.resume pending timing).1
        waiting := session.waiting.eraseIdx place }
    | none => session
  | .abandon place =>
    match session.waiting[place]? with
    | some pending =>
      { session with
        server := session.server.abandon pending
        waiting := session.waiting.eraseIdx place }
    | none => session
  | .step step =>
    match session.server.component? with
    | some component =>
      let reached := Component.Session.perform ⟨component, session.held⟩ step
      { session with
        server := { session.server with component? := some reached.component }
        held := reached.held }
    | none => session

def run (session : Session) (moves : List Move) : Session :=
  moves.foldl perform session

@[simp] theorem run_nil (session : Session) : session.run [] = session :=
  rfl

theorem server_perform_request (session : Session) (request : Request) (timing : Timing) :
    (session.perform (.request request timing)).server =
      (session.server.handle request timing).1 := by
  rw [perform]
  generalize session.server.handle request timing = handled
  obtain ⟨server, _ | _⟩ := handled <;> rfl

/-- The server is in place with this component, which is in service, and whatever is held back waits
for nothing but its delay. -/
structure Sound (session : Session) (component : Component) : Prop where
  administers : session.server.Administers component
  service : component.InService
  waiting : ∀ pending ∈ session.waiting, pending.held.remaining = []
  held : ∀ held ∈ session.held, held.remaining = []

variable {session : Session} {component : Component}

theorem sound_start (h : component.InService) (metricsOn : Bool) :
    (start component metricsOn).Sound component where
  administers := administers_full component metricsOn
  service := h
  waiting _ hpending := absurd hpending List.not_mem_nil
  held _ hheld := absurd hheld List.not_mem_nil

end Session

variable {component : Component}

theorem inService_setSetting (h : component.InService) (name : String) (value : Int64) :
    (setSetting component name value).1.InService := by
  rw [setSetting]
  cases hset : component.set name value with
  | ok changed =>
    have hnext := h.perform (.set name value)
    rw [Component.perform, hset] at hnext
    exact hnext
  | error fault => exact h.log _

/-- Whatever a request does, it leaves the component in service. -/
theorem Does.inService {reached : Component} {exchange : Exchange}
    (hdoes : Does component reached exchange) (h : component.InService) : reached.InService := by
  cases hdoes with
  | nothing reply => exact h
  | change name value => exact inService_setSetting h name value
  | event event reply dealt => exact (h.begin event).1
  | delayed event pending held => exact (h.begin event).1

variable {server : Server}

theorem Administers.resume (h : server.Administers component) (pending : Pending)
    (timing : Timing) :
    (server.resume pending timing).1.Administers (component.release pending.held .elapsed)
      ∧ (server.resume pending timing).2 =
        eventReply (component.release pending.held .elapsed) pending.key timing.duration := by
  rw [Server.resume, h.component?]
  exact ⟨⟨h.offered, rfl⟩, rfl⟩

theorem Administers.abandon (h : server.Administers component) (pending : Pending) :
    (server.abandon pending).Administers (component.release pending.held .killed) := by
  refine ⟨h.offered, ?_⟩
  rw [Server.abandon, h.component?]
  rfl

namespace Session.Sound

variable {session : Session}

theorem perform_request (h : session.Sound component) (request : Request) (timing : Timing) :
    ∃ reached, (session.perform (.request request timing)).Sound reached := by
  obtain ⟨reached, hserver, hdoes⟩ := h.administers.handle request timing
  refine ⟨reached, ?_⟩
  have hservice := hdoes.inService h.service
  rw [Session.perform]
  generalize session.server.handle request timing = handled at hserver hdoes
  obtain ⟨server, exchange⟩ := handled
  cases hdoes with
  | nothing | change | event => exact ⟨hserver, hservice, h.waiting, h.held⟩
  | delayed event pending held =>
    refine ⟨hserver, hservice, fun other hother ↦ ?_, h.held⟩
    rcases List.mem_append.mp hother with hearlier | hnew
    · exact h.waiting other hearlier
    · rw [List.mem_singleton.mp hnew]
      exact (h.service.begin event).2 _ held

theorem perform_resume (h : session.Sound component) (place : Nat) (timing : Timing) :
    ∃ reached, (session.perform (.resume place timing)).Sound reached := by
  rw [Session.perform]
  cases hpending : session.waiting[place]? with
  | none => exact ⟨component, h⟩
  | some pending =>
    have hlast := h.waiting pending (List.mem_of_getElem? hpending)
    exact ⟨_, (h.administers.resume pending timing).1, (h.service.release hlast .elapsed).1,
      fun other hother ↦ h.waiting other ((List.eraseIdx_sublist _ _).subset hother), h.held⟩

theorem perform_abandon (h : session.Sound component) (place : Nat) :
    ∃ reached, (session.perform (.abandon place)).Sound reached := by
  rw [Session.perform]
  cases hpending : session.waiting[place]? with
  | none => exact ⟨component, h⟩
  | some pending =>
    have hlast := h.waiting pending (List.mem_of_getElem? hpending)
    exact ⟨_, h.administers.abandon pending, (h.service.release hlast .killed).1,
      fun other hother ↦ h.waiting other ((List.eraseIdx_sublist _ _).subset hother), h.held⟩

theorem perform_step (h : session.Sound component) (step : Component.Step) :
    ∃ reached, (session.perform (.step step)).Sound reached := by
  -- Where the delays come from is of no interest here.
  have haccounted : Component.Session.Accounted (fun _ ↦ True) ⟨component, session.held⟩ :=
    ⟨h.service, fun _ _ ↦ trivial, fun held hheld ↦ ⟨h.held held hheld, fun _ _ _ ↦ trivial⟩⟩
  have hnext := haccounted.perform step
  rw [Session.perform, h.administers.component?]
  exact ⟨_, ⟨h.administers.offered, rfl⟩, hnext.service, h.waiting,
    fun held hheld ↦ (hnext.pending held hheld).1⟩

theorem perform (h : session.Sound component) (move : Move) :
    ∃ reached, (session.perform move).Sound reached := by
  cases move with
  | request request timing => exact h.perform_request request timing
  | resume place timing => exact h.perform_resume place timing
  | abandon place => exact h.perform_abandon place
  | step step => exact h.perform_step step

theorem run (h : session.Sound component) (moves : List Move) :
    ∃ reached, (session.run moves).Sound reached := by
  induction moves generalizing session component with
  | nil => exact ⟨component, h⟩
  | cons move rest ih =>
    obtain ⟨next, hnext⟩ := h.perform move
    exact ih hnext

end Session.Sound

end Server

end LoginThrottle
