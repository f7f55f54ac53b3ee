import LoginThrottle.Admin.Server

/-!
A server with everything in place. No path leads to two endpoints, so what a request asks for is
settled by its path and its method. What a request does to the component is what its endpoint does:
only a setting that is to be changed and an event that is reported do anything, and what is recorded
for the metrics is kept apart. `Administers.handle` is the summary.
-/

set_option autoImplicit false
set_option relaxedAutoImplicit false

namespace LoginThrottle

/-! ### The way from a path to an endpoint -/

namespace Endpoint

variable {path : List Char} {endpoint : Endpoint}

theorem settingName?_pattern (h : endpoint ≠ .setting) :
    settingName? endpoint.pattern.toList = none := by
  cases endpoint with
  | setting => exact absurd rfl h
  | health | metrics | status | settings | failures | events | specification => decide

theorem accepts_iff_of_ne (h : endpoint ≠ .setting) :
    endpoint.accepts path = true ↔ path = endpoint.pattern.toList := by
  cases endpoint with
  | setting => exact absurd rfl h
  | health | metrics | status | settings | failures | events | specification =>
    exact beq_iff_eq

/-- A path that names a setting leads nowhere else. -/
theorem not_accepts_of_settingName? (hname : (settingName? path).isSome = true)
    (h : endpoint ≠ .setting) : endpoint.accepts path = false := by
  rw [← Bool.not_eq_true, accepts_iff_of_ne h]
  rintro rfl
  rw [settingName?_pattern h] at hname
  exact absurd hname Bool.false_ne_true

theorem find?_all_iff : find? all path = some endpoint ↔ endpoint.accepts path = true := by
  refine ⟨List.find?_some, fun h ↦ ?_⟩
  cases endpoint with
  | setting =>
    have hothers {other : Endpoint} (hother : other ≠ .setting) : (!other.accepts path) = true := by
      rw [not_accepts_of_settingName? h hother, Bool.not_false]
    refine List.find?_eq_some_iff_append.mpr
      ⟨h, [health, metrics, status, settings], [failures, events, specification], rfl, ?_⟩
    simp only [List.mem_cons, List.not_mem_nil, or_false]
    rintro other (rfl | rfl | rfl | rfl) <;> exact hothers (by decide)
  | health | metrics | status | settings | failures | events | specification =>
    rw [(accepts_iff_of_ne (by decide)).mp h]
    decide

end Endpoint

/-- The request asks for what this endpoint is there for. -/
structure Request.Asks (request : Request) (endpoint : Endpoint) : Prop where
  path : endpoint.accepts (Server.pathOf request) = true
  method : request.method = endpoint.method

/-- The event that is reported, if it is of this kind. -/
def EventReport.event (report : EventReport) (kind : EventKind) (client? : Option String) :
    ConnectionEvent :=
  ⟨kind, .ofSuccess report.success, some (report.context client?)⟩

/-! ### What a request does -/

namespace Server

/-- Every endpoint is on offer, and this is the component that they serve. -/
structure Administers (server : Server) (component : Component) : Prop where
  offered : server.offered = Endpoint.all
  component? : server.component? = some component

theorem administers_full (component : Component) (metricsOn : Bool) :
    (full component metricsOn).Administers component :=
  ⟨rfl, rfl⟩

variable {server : Server} {component : Component}

/-- The metrics have no part in it. -/
theorem Administers.of_eq {next : Server} (h : server.Administers component)
    (hoffered : next.offered = server.offered) (hcomponent : next.component? = server.component?) :
    next.Administers component :=
  ⟨hoffered.trans h.offered, hcomponent.trans h.component?⟩

theorem Administers.record (h : server.Administers component) (method route : String)
    (reply : Reply) (duration : Duration) :
    (server.record method route reply duration).Administers component :=
  h.of_eq rfl rfl

theorem Administers.withComponent (h : server.Administers component)
    (act : Component → Component × Reply) :
    (server.withComponent act).1.Administers (act component).1
      ∧ (server.withComponent act).2 = (act component).2 := by
  rw [Server.withComponent, h.component?]
  exact ⟨⟨h.offered, rfl⟩, rfl⟩

theorem Administers.serveMetrics (h : server.Administers component) (uptime : Float) :
    (server.serveMetrics uptime).1.Administers component := by
  rw [Server.serveMetrics]
  split
  · exact h
  · split
    · exact h
    · exact h.of_eq rfl rfl

/-- A request is recorded after it has been served, which changes nothing else. -/
theorem Administers.handle_of_serve (request : Request) (timing : Timing)
    {reached : Component} (h : (server.serve request timing).1.Administers reached) :
    (server.handle request timing).1.Administers reached
      ∧ (server.handle request timing).2 = (server.serve request timing).2 := by
  rw [Server.handle]
  split
  · next served reply heq =>
    rw [heq] at h ⊢
    exact ⟨h.record _ _ _ _, rfl⟩
  · next served pending heq =>
    rw [heq] at h ⊢
    exact ⟨h, rfl⟩

theorem Administers.handle_of_asks (h : server.Administers component) {request : Request}
    {endpoint : Endpoint} (hasks : request.Asks endpoint) (timing : Timing) {reached : Component}
    (hreached : (server.serveAt endpoint request timing).1.Administers reached) :
    (server.handle request timing).1.Administers reached
      ∧ (server.handle request timing).2 = (server.serveAt endpoint request timing).2 := by
  have hserve : server.serve request timing = server.serveAt endpoint request timing := by
    rw [serve, endpoint?, h.offered, Endpoint.find?_all_iff.mpr hasks.path]
    exact if_pos hasks.method
  rw [← hserve] at hreached ⊢
  exact handle_of_serve request timing hreached

/-- All that a request can do: nothing, or it asks for a setting to be changed, or it reports an
event, which is dealt with at once or held back. -/
inductive Does (component : Component) : Component → Exchange → Prop
  | nothing (reply : Reply) : Does component component (.replied reply)
  | change (name : String) (value : Int64) :
    Does component (setSetting component name value).1
      (.replied (setSetting component name value).2)
  | event (event : ConnectionEvent) (reply : Reply)
    (dealt : (component.begin event).2 = none) :
    Does component (component.begin event).1 (.replied reply)
  | delayed (event : ConnectionEvent) (pending : Pending)
    (held : (component.begin event).2 = some pending.held) :
    Does component (component.begin event).1 (.pending pending)

theorem does_putSetting (component : Component) (name : String) (request : Request) :
    Does component (putSetting component name request).1
      (.replied (putSetting component name request).2) := by
  rw [putSetting]
  split
  · exact .change name _
  · exact .nothing _

theorem reportEvent_of_read {report : EventReport} {kind : EventKind}
    (hkind : EventKind.read report.kind = .ok kind) (component : Component)
    (client? : Option String) :
    reportEvent component report client? =
      .ok ((report.context client?).accountKey, component.begin (report.event kind client?)) := by
  rw [reportEvent, hkind]
  rfl

/-- An event of a known kind begins; it is replied to at once unless it is held back. -/
theorem Administers.serveEvent_of_known (h : server.Administers component) {request : Request}
    {report : EventReport} (hbody : request.readBody EventReport.ofJson? = .ok report)
    {kind : EventKind} (hkind : EventKind.read report.kind = .ok kind) (duration : Duration) :
    (server.serveEvent request duration).1.Administers
        (component.begin (report.event kind request.clientAddress?)).1
      ∧ (server.serveEvent request duration).2 =
        match (component.begin (report.event kind request.clientAddress?)).2 with
        | some held =>
          .pending ⟨held, (report.context request.clientAddress?).accountKey, request.method,
            Endpoint.events.pattern⟩
        | none =>
          .replied (eventReply (component.begin (report.event kind request.clientAddress?)).1
            (report.context request.clientAddress?).accountKey duration) := by
  rw [serveEvent, h.component?, hbody]
  dsimp only
  rw [reportEvent_of_read hkind]
  exact ⟨⟨h.offered, rfl⟩, rfl⟩

theorem Administers.serveEvent (h : server.Administers component) (request : Request)
    (duration : Duration) :
    ∃ reached, (server.serveEvent request duration).1.Administers reached
      ∧ Does component reached (server.serveEvent request duration).2 := by
  cases hbody : request.readBody EventReport.ofJson? with
  | error refusal =>
    rw [Server.serveEvent, h.component?, hbody]
    exact ⟨component, h, .nothing _⟩
  | ok report =>
    cases hkind : EventKind.read report.kind with
    | error lowered =>
      rw [Server.serveEvent, h.component?, hbody]
      simp only [reportEvent, hkind]
      exact ⟨component, h, .nothing _⟩
    | ok kind =>
      obtain ⟨hnext, hexchange⟩ := h.serveEvent_of_known hbody hkind duration
      refine ⟨_, hnext, ?_⟩
      rw [hexchange]
      cases hheld : (component.begin (report.event kind request.clientAddress?)).2 with
      | none => exact .event _ _ hheld
      | some held => exact .delayed _ _ hheld

theorem Administers.serveAt (h : server.Administers component) (endpoint : Endpoint)
    (request : Request) (timing : Timing) :
    ∃ reached, (server.serveAt endpoint request timing).1.Administers reached
      ∧ Does component reached (server.serveAt endpoint request timing).2 := by
  cases endpoint with
  | health | specification => exact ⟨component, h, .nothing _⟩
  | metrics => exact ⟨component, h.serveMetrics timing.uptime, .nothing _⟩
  | status | settings | failures =>
    exact ⟨component, (h.withComponent _).1, .nothing _⟩
  | setting =>
    obtain ⟨hnext, hreply⟩ :=
      h.withComponent fun component ↦ putSetting component (settingName request) request
    refine ⟨_, hnext, ?_⟩
    simp only [Server.serveAt, hreply]
    exact does_putSetting component (settingName request) request
  | events => exact h.serveEvent request timing.duration

theorem Administers.handle (h : server.Administers component) (request : Request)
    (timing : Timing) :
    ∃ reached, (server.handle request timing).1.Administers reached
      ∧ Does component reached (server.handle request timing).2 := by
  have hserve : ∃ reached, (server.serve request timing).1.Administers reached
      ∧ Does component reached (server.serve request timing).2 := by
    rw [serve]
    split
    · exact ⟨component, h, .nothing _⟩
    · split
      · exact h.serveAt _ request timing
      · exact ⟨component, h, .nothing _⟩
  obtain ⟨reached, hreached, hdoes⟩ := hserve
  obtain ⟨hnext, hsame⟩ := hreached.handle_of_serve request timing
  exact ⟨reached, hnext, hsame ▸ hdoes⟩

end Server

end LoginThrottle
