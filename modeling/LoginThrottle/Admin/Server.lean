import LoginThrottle.Admin.Body
import LoginThrottle.Admin.Specification
import LoginThrottle.Metrics

/-!
The administration server: the component it administers, the metrics it keeps, and what it does
with a request. A reported event may be held back by the delay policy. The request then stays
pending until the delay is over, unless the client gives up before that: then the connection is
killed, the outcome of the event is applied all the same, and the request is not counted in the
metrics, for there was no reply.
-/

set_option autoImplicit false
set_option relaxedAutoImplicit false

namespace LoginThrottle

/-- The endpoints on offer, and what is there to serve them with. Metrics are given out unless they
are switched off. -/
structure Server where
  offered : List Endpoint
  component? : Option Component
  metrics? : Option Metrics
  metricsOn? : Option Bool
  deriving Repr

/-- The times that belong to a request: how long it took, and how long the server had then been
running in seconds. -/
structure Timing where
  duration : Duration
  uptime : Float
  deriving Repr

/-- A request whose reply has to wait, with the account it is about and the method and the route
that it is recorded under. -/
structure Pending where
  held : Coordinator.Held
  key : AccountKey
  method : String
  route : String
  deriving Repr

inductive Exchange
  | replied (reply : Reply)
  | pending (pending : Pending)
  deriving Repr

namespace Server

/-- A server with everything in place. -/
def full (component : Component) (metricsOn : Bool) : Server :=
  ⟨Endpoint.all, some component, some .empty, some metricsOn⟩

/-- What has been logged since the history was last cleared. -/
def records (server : Server) : List Record :=
  server.component?.elim [] (·.coordinator.journal)

def withoutHistory (server : Server) : Server :=
  { server with component? := server.component?.map (·.withoutHistory) }

def healthReply : Reply :=
  .json (.ofFields [("status", .ofString "healthy")])

def statusReply (component : Component) : Reply :=
  .json (.ofFields [(StatusVariable.delayGenerated.name, .ofNat component.generated.toNat)])

def settingsReply (component : Component) : Reply :=
  .json (.ofFields (Setting.all.map fun setting ↦
    (setting.name, .ofInt (component.settings.get setting).toInt)))

def failuresReply (component : Component) : Reply :=
  .json (.array (component.ledger.listing.map Row.toJson))

/-- The reply to an event once it has been dealt with. -/
def eventReply (component : Component) (key : AccountKey) (duration : Duration) : Reply :=
  .json (.ofFields
    [("account", .ofString key.spelling), ("delayed_ms", .ofNat duration.milliseconds),
      ("failed_attempts", .ofNat (component.failures key).toNat)])

/-- The reply of an endpoint that finds nothing to serve. -/
def misconfiguredReply : Reply :=
  ⟨500, .text Reply.plain
    ("Requested application data is not configured correctly. "
      ++ "View/enable debug logs for more details.")⟩

/-- Changes a setting, if the name and the value are accepted. -/
def setSetting (component : Component) (name : String) (value : Int64) : Component × Reply :=
  match component.set name value with
  | .ok (setting, changed) =>
    (changed,
      .json (.ofFields
        [("name", .ofString setting.name),
          ("value", .ofInt (changed.settings.get setting).toInt)]))
  | .error fault =>
    ({ component with coordinator := component.coordinator.log fault.reported }, .ofFault fault)

def putSetting (component : Component) (name : String) (request : Request) : Component × Reply :=
  match request.readBody Setting.requestedValue? with
  | .ok value => setSetting component name value
  | .error refusal => (component, .refuse refusal)

/-- Hands a reported event to the component, unless it is of no known kind. -/
def reportEvent (component : Component) (report : EventReport) (client? : Option String) :
    Except Reply (AccountKey × Component × Option Coordinator.Held) :=
  match EventKind.read report.kind with
  | .error lowered => .error (.badRequest (EventKind.unknownMessage lowered))
  | .ok kind =>
    let context := report.context client?
    let event : ConnectionEvent := ⟨kind, .ofSuccess report.success, some context⟩
    .ok (context.accountKey, component.begin event)

def refreshed (server : Server) (metrics : Metrics) (uptime : Float) : Metrics :=
  server.component?.elim metrics (metrics.refresh · uptime)

/-- The metrics, with the gauges refreshed if there is a component to read them from. -/
def serveMetrics (server : Server) (uptime : Float) : Server × Reply :=
  if server.metricsOn? = some false then
    (server, .unavailable "text/plain" "Metrics collection is disabled")
  else
    match server.metrics? with
    | none => (server, .unavailable Reply.plain "Metrics not available")
    | some metrics =>
      let metrics := server.refreshed metrics uptime
      ({ server with metrics? := some metrics },
        ⟨200, .text "text/plain; version=0.0.4; charset=utf-8"
          (String.join (metrics.lines.map (· ++ "\n")))⟩)

/-- The path of a request, decoded. -/
def pathOf (request : Request) : List Char :=
  Target.path request.target.toList

def endpoint? (server : Server) (request : Request) : Option Endpoint :=
  Endpoint.find? server.offered (pathOf request)

/-- The route that a request is recorded under. -/
def routeOf (server : Server) (request : Request) : String :=
  (server.endpoint? request).elim Endpoint.unknownPattern Endpoint.pattern

/-- The name in the path of a setting. -/
def settingName (request : Request) : String :=
  String.ofList (Target.segment ((Endpoint.settingName? (pathOf request)).getD []))

/-- A reply for which the component, which has to be there, may change. -/
def withComponent (server : Server) (act : Component → Component × Reply) : Server × Reply :=
  match server.component? with
  | none => (server, misconfiguredReply)
  | some component =>
    let (reached, reply) := act component
    ({ server with component? := some reached }, reply)

/-- A reply that only looks at the component. -/
def inspecting (server : Server) (reply : Component → Reply) : Server × Reply :=
  server.withComponent fun component ↦ (component, reply component)

/-- What is done with a reported event: the reply to it, unless it is held back. -/
def serveEvent (server : Server) (request : Request) (duration : Duration) : Server × Exchange :=
  match server.component?, request.readBody EventReport.ofJson? with
  | none, _ => (server, .replied misconfiguredReply)
  | _, .error refusal => (server, .replied (.refuse refusal))
  | some component, .ok report =>
    match reportEvent component report request.clientAddress? with
    | .error reply => (server, .replied reply)
    | .ok (key, reached, held?) =>
      ({ server with component? := some reached },
        match held? with
        | some held => .pending ⟨held, key, request.method, Endpoint.events.pattern⟩
        | none => .replied (eventReply reached key duration))

/-- What an endpoint does with a request of the right method. -/
def serveAt (server : Server) (endpoint : Endpoint) (request : Request) (timing : Timing) :
    Server × Exchange :=
  let replied (result : Server × Reply) : Server × Exchange := (result.1, .replied result.2)
  match endpoint with
  | .health => (server, .replied healthReply)
  | .specification => (server, .replied (.json Specification.toJson))
  | .metrics => replied (server.serveMetrics timing.uptime)
  | .status => replied (server.inspecting statusReply)
  | .settings => replied (server.inspecting settingsReply)
  | .failures => replied (server.inspecting failuresReply)
  | .setting =>
    replied (server.withComponent fun component ↦
      putSetting component (settingName request) request)
  | .events => server.serveEvent request timing.duration

/-- What is done with a request before anything is recorded about it. -/
def serve (server : Server) (request : Request) (timing : Timing) : Server × Exchange :=
  match server.endpoint? request with
  | none => (server, .replied .notFound)
  | some endpoint =>
    if request.method = endpoint.method then server.serveAt endpoint request timing
    else (server, .replied .methodNotAllowed)

/-- Records a request that has been replied to. -/
def record (server : Server) (method route : String) (reply : Reply) (duration : Duration) :
    Server :=
  { server with metrics? := server.metrics?.map (·.record ⟨method, route, reply.status, duration⟩) }

/-- A request from its arrival to its reply, or to the point where it has to wait. -/
def handle (server : Server) (request : Request) (timing : Timing) : Server × Exchange :=
  match server.serve request timing with
  | (served, .replied reply) =>
    (served.record request.method (server.routeOf request) reply timing.duration, .replied reply)
  | (served, .pending pending) => (served, .pending pending)

/-- The reply to a request whose delay is over. -/
def resume (server : Server) (pending : Pending) (timing : Timing) : Server × Reply :=
  match server.component? with
  | none => (server, misconfiguredReply)
  | some component =>
    let reached := component.release pending.held .elapsed
    let reply := eventReply reached pending.key timing.duration
    ({ server with component? := some reached }.record pending.method pending.route reply
      timing.duration, reply)

/-- The end of a request whose client has gone before the delay was over. -/
def abandon (server : Server) (pending : Pending) : Server :=
  { server with component? := server.component?.map (·.release pending.held .killed) }

end Server

end LoginThrottle
