import Mathlib.Control.Monad.Basic
import LoginThrottle.Proofs.Admin.Session

/-!
Events that clients report over the network, against those that the host hands over itself. A
report of no known kind is turned down. Any other does what the event does when it comes with a
connection that nobody kills, and its reply names the account that the event is counted for, with
the count that the account is left with. `report_as_event` is the summary.
-/

set_option autoImplicit false
set_option relaxedAutoImplicit false

namespace LoginThrottle

/-! ### What a report says -/

namespace EventKind

variable {name : String} {kind : EventKind}

theorem ofName?_eq_some_iff : ofName? name = some kind ↔ kind.name = name := by
  constructor
  · intro h
    have hname := List.find?_some h
    exact beq_iff_eq.mp hname
  · rintro rfl
    cases kind <;> rfl

/-- A kind is given by its name, in any ASCII case. -/
theorem read_eq_ok_iff :
    read name = .ok kind ↔ Text.asciiLower name.toList = kind.name.toList := by
  have hlowered : Text.asciiLower name.toList = kind.name.toList ↔
      ofName? (String.ofList (Text.asciiLower name.toList)) = some kind := by
    rw [ofName?_eq_some_iff, ← String.toList_inj, String.toList_ofList, eq_comm]
  rw [hlowered, read]
  cases ofName? (String.ofList (Text.asciiLower name.toList)) <;> simp

theorem read_eq_error (h : ∀ kind : EventKind, Text.asciiLower name.toList ≠ kind.name.toList) :
    read name = .error (String.ofList (Text.asciiLower name.toList)) := by
  have hunknown : ofName? (String.ofList (Text.asciiLower name.toList)) = none := by
    rw [Option.eq_none_iff_forall_ne_some]
    intro kind hkind
    refine h kind ?_
    rw [ofName?_eq_some_iff.mp hkind, String.toList_ofList]
  rw [read, hunknown]

end EventKind

theorem exists_mem_of_mapM_eq_some {α β : Type} {f : α → Option β} {items : List α}
    {results : List β} (h : items.mapM f = some results) :
    ∀ result ∈ results, ∃ item ∈ items, f item = some result := by
  induction items generalizing results with
  | nil =>
    obtain rfl : [] = results := Option.some.inj h
    exact fun result hresult ↦ absurd hresult List.not_mem_nil
  | cons item rest ih =>
    rw [List.mapM_cons] at h
    obtain ⟨first, hfirst, hthen⟩ := Option.bind_eq_some_iff.mp h
    obtain ⟨others, hothers, hcons⟩ := Option.bind_eq_some_iff.mp hthen
    obtain rfl : first :: others = results := Option.some.inj hcons
    intro result hresult
    rcases List.mem_cons.mp hresult with rfl | hlater
    · exact ⟨item, List.mem_cons_self, hfirst⟩
    · obtain ⟨other, hother, heq⟩ := ih hothers result hlater
      exact ⟨other, List.mem_cons_of_mem item hother, heq⟩

/-- What a body says does not depend on what it is taken for. -/
theorem Request.readBody_eq_ok_iff {α : Type} {decode : Json.Value → Option α} {request : Request}
    {content : α} :
    request.readBody decode = .ok content ↔
      ∃ json, request.readBody some = .ok json ∧ decode json = some content := by
  simp only [readBody]
  cases request.claimsJson with
  | false => simp
  | true =>
    by_cases hannounced : request.announcedLength?.any (bodyLimit < ·) = true
    · simp [hannounced]
    · cases request.content? with
      | none => simp [hannounced]
      | some bytes =>
        by_cases hlong : bodyLimit < bytes.length
        · simp [hannounced, hlong]
        · cases hjson : (Text.Utf8.decode? bytes).bind Json.read with
          | none => simp [hannounced, hlong, hjson]
          | some json =>
            cases hcontent : decode json <;> simp [hannounced, hlong, hjson, hcontent]

/-- A report that does not say what kind of event it is about is about a connection. -/
theorem EventReport.kind_of_missing {members : List (Option String × Json.Value)}
    {report : EventReport} (hread : ofJson? (.object members) = some report)
    (hmissing : ∀ member ∈ members, member.1 ≠ some "subclass") :
    report.kind = EventKind.connect.name := by
  obtain ⟨fields, hfields, hreport⟩ := Option.bind_eq_some_iff.mp hread
  obtain ⟨named, hnamed, hmembers⟩ := Option.bind_eq_some_iff.mp hfields
  have hnone : Json.Value.member? named "subclass" = some none := by
    have hfilter : named.filter (·.1 == "subclass") = [] := by
      rw [List.filter_eq_nil_iff]
      intro field hfield hname
      obtain ⟨member, hmember, heq⟩ := exists_mem_of_mapM_eq_some hnamed field hfield
      obtain ⟨name, hsome, rfl⟩ := Option.map_eq_some_iff.mp heq
      exact hmissing member hmember (hsome.trans (congrArg some (beq_iff_eq.mp hname)))
    rw [Json.Value.member?, hfilter]
  rw [List.mapM_cons] at hmembers
  obtain ⟨first, hfirst, hthen⟩ := Option.bind_eq_some_iff.mp hmembers
  obtain ⟨others, -, hcons⟩ := Option.bind_eq_some_iff.mp hthen
  obtain rfl : first :: others = fields := Option.some.inj hcons
  obtain rfl : none = first := Option.some.inj (hnone.symm.trans hfirst)
  split at hreport
  · next heq =>
    obtain ⟨rfl, -⟩ := List.cons.inj heq
    simp only [Option.bind_eq_bind, Option.bind_eq_some_iff, Option.some.injEq] at hreport
    obtain ⟨kind, hkind, _, -, _, -, _, -, _, -, _, -, _, -, _, -, rfl⟩ := hreport
    exact (Option.some.inj hkind).symm
  · exact absurd hreport (Option.some_ne_none report).symm

/-! ### What an event leaves of the counts -/

/-- The count of an account after an event for it, by the count before: only the outcome of an
authentication counts, and only while the policy is on. -/
def ConnectionEvent.countAfter (event : ConnectionEvent) (limits : Settings) (before : Nat) : Nat :=
  if (event.kind = .connect ∨ event.kind = .changeUser) ∧ 0 < limits.threshold.toInt then
    match event.outcome with
    | .success => 0
    | .failure => min (before + 1) (2 ^ 64 - 1)
  else before

theorem ConnectionEvent.counted?_of_context {event : ConnectionEvent} {context : SecurityContext}
    (hcontext : event.context = some context) (limits : Settings) :
    limits.counted? event =
      if (event.kind = .connect ∨ event.kind = .changeUser) ∧ 0 < limits.threshold.toInt then
        some context.accountKey
      else none := by
  have hkind : event.kind.isAuthentication = true ↔
      event.kind = .connect ∨ event.kind = .changeUser := by
    cases event.kind <;> decide
  simp only [Settings.counted?, hcontext, Bool.and_eq_true, Bool.not_eq_true', hkind,
    limits.isDisabled_eq_false_iff, Option.map_some]

/-- A count in a machine word stops at the largest. -/
theorem Outcome.toNat_tally (outcome : Outcome) (failures : UInt64) :
    (outcome.tally failures).toNat =
      match outcome with
      | .success => 0
      | .failure => min (failures.toNat + 1) (2 ^ 64 - 1) := by
  cases outcome with
  | success => rfl
  | failure => exact Word.toNat_saturatingSucc failures

/-- A decision on failures that were counted is applied whatever has happened to them since. -/
theorem Decision.apply_of_ne_zero {decision : Decision} (h : decision.failures ≠ 0)
    (ledger : Ledger) :
    decision.apply ledger = ledger.attempted decision.outcome decision.key := by
  unfold apply Ledger.attempted
  cases decision.outcome with
  | failure => rfl
  | success => simp only [if_neg h]

namespace Component

/-- An event for the account has been dealt with: its count is what the outcome makes of it, and no
other account is touched. -/
structure Settled (before after : Component) (limits : Settings) (event : ConnectionEvent)
    (key : AccountKey) : Prop where
  account : (after.failures key).toNat = event.countAfter limits (before.failures key).toNat
  others : ∀ other, (other == key) = false → after.failures other = before.failures other

variable {component before after : Component} {event : ConnectionEvent}
  {context : SecurityContext}

theorem settled_of_counted (hcontext : event.context = some context) {limits : Settings}
    {key : AccountKey} (hkey : limits.counted? event = some key)
    (hafter : ∀ other, after.failures other =
      if other == key then event.outcome.tally (before.failures key) else before.failures other) :
    Settled before after limits event context.accountKey := by
  rw [ConnectionEvent.counted?_of_context hcontext] at hkey
  split at hkey
  · next hcounts =>
    obtain rfl := Option.some.inj hkey
    constructor
    · rw [hafter, if_pos BEq.rfl, Outcome.toNat_tally, ConnectionEvent.countAfter, if_pos hcounts]
    · intro other hother
      rw [hafter, hother]
      rfl
  · exact absurd hkey (Option.some_ne_none key).symm

theorem InService.settled_notify (h : component.InService)
    (hcontext : event.context = some context) (ended : WaitEnd) :
    Settled component (component.notify event ended) component.limits event
      context.accountKey := by
  cases hkey : component.limits.counted? event with
  | some key => exact settled_of_counted hcontext hkey (h.failures_notify hkey ended)
  | none =>
    have hsame (key : AccountKey) :
        (component.notify event ended).failures key = component.failures key := by
      rw [Component.failures, (h.notify_of_not_counted hkey ended).1]
      rfl
    rw [ConnectionEvent.counted?_of_context hcontext] at hkey
    refine ⟨?_, fun other _ ↦ hsame other⟩
    split at hkey
    · exact absurd hkey (Option.some_ne_none _)
    · next hignored => rw [hsame, ConnectionEvent.countAfter, if_neg hignored]

/-- An event that is not held back is dealt with at once. -/
theorem InService.begin_of_none (h : component.InService)
    (hnone : (component.begin event).2 = none) :
    (component.begin event).1 = component.notify event .elapsed := by
  rcases h.begin_cases event .elapsed with ⟨decision, -, hbegin⟩ | hbegin
  · rw [hbegin] at hnone
    exact absurd hnone (Option.some_ne_none _)
  · rw [hbegin]

section Held

variable {held : Coordinator.Held}

/-- If nothing happens during the wait, it is as if the event had come as a whole. -/
theorem InService.release_begin (h : component.InService)
    (hheld : (component.begin event).2 = some held) (ended : WaitEnd) :
    (component.begin event).1.release held ended = component.notify event ended := by
  obtain ⟨key, hkey, htriggers, rfl, hbegin⟩ := h.policy.begin_of_held hheld
  rw [release_eq rfl, Component.begin, hbegin, Component.notify,
    h.policy.notifyEvent_of_counted hkey, if_pos htriggers]

/-- Whatever happens during the wait, the outcome is applied to the count that it has led to. -/
theorem InService.settled_release (h : component.InService)
    (hcontext : event.context = some context) (hheld : (component.begin event).2 = some held)
    {waited : Component} (hwaited : waited.InService) (ended : WaitEnd) :
    Settled waited (waited.release held ended) component.limits event context.accountKey := by
  obtain ⟨key, hkey, htriggers, rfl, -⟩ := h.policy.begin_of_held hheld
  refine settled_of_counted hcontext hkey fun other ↦ ?_
  have hfailed : component.coordinator.ledger.count key ≠ 0 := by
    obtain ⟨hon, hreached⟩ := (component.limits.triggers_iff _).mp htriggers
    intro hzero
    rw [hzero, UInt64.toNat_zero] at hreached
    omega
  rw [release_eq rfl, Component.failures, Component.ledger, Coordinator.settle_ledger,
    Decision.apply_of_ne_zero hfailed]
  exact Ledger.count_attempted hwaited.ledger event.outcome key other

end Held

end Component

/-! ### What the client is told -/

namespace Server

/-- The reply to a report: the account, how long it took in milliseconds, and the count. -/
def dealtReply (key : AccountKey) (failures : Nat) (duration : Duration) : Reply :=
  ⟨200, .json (.ofFields
    [("account", .ofString key.spelling),
      ("delayed_ms", .ofNat (min (duration.nanoseconds / 1000000) 18446744073709551615)),
      ("failed_attempts", .ofNat failures)])⟩

/-- The event has been dealt with, and the reply names the account and the count it has led to. -/
structure Dealt (before after : Component) (limits : Settings) (event : ConnectionEvent)
    (key : AccountKey) (server : Server) (reply : Reply) (duration : Duration) : Prop where
  administers : server.Administers after
  settled : before.Settled after limits event key
  reply : reply = dealtReply key (event.countAfter limits (before.failures key).toNat) duration

theorem dealt_of_eventReply {before after : Component} {limits : Settings}
    {event : ConnectionEvent} {key : AccountKey} {server : Server}
    (hserver : server.Administers after) (hsettled : before.Settled after limits event key)
    (duration : Duration) :
    Dealt before after limits event key server (eventReply after key duration) duration := by
  refine ⟨hserver, hsettled, ?_⟩
  rw [← hsettled.account]
  rfl

/-- A request does what the event does, which is counted for this account if it is counted at all:
at once, or else before and after a wait during which anything may happen. -/
structure Feeds (session : Session) (component : Component) (request : Request) (timing : Timing)
    (event : ConnectionEvent) (key : AccountKey) : Prop where
  counted : ∀ account, component.limits.counted? event = some account → account = key
  atOnce : (component.begin event).2 = none →
    ∃ reply, (session.server.handle request timing).2 = .replied reply
      ∧ Dealt component (component.notify event .elapsed) component.limits event key
        (session.server.handle request timing).1 reply timing.duration
  heldBack : ∀ held, (component.begin event).2 = some held →
    (session.server.handle request timing).1.Administers (component.begin event).1
      ∧ (component.begin event).1.release held .elapsed = component.notify event .elapsed
      ∧ ∃ pending : Pending, (session.server.handle request timing).2 = .pending pending
        ∧ pending.held = held
        ∧ ∀ moves : List Move,
          let later := (session.perform (.request request timing)).run moves
          ∃ waited, later.Sound waited ∧ ∀ timing : Timing,
            Dealt waited (waited.release held .elapsed) component.limits event key
              (later.server.resume pending timing).1 (later.server.resume pending timing).2
              timing.duration

variable {component : Component} {request : Request} {report : EventReport}

theorem Session.Sound.feeds {session : Session} (h : session.Sound component)
    (hasks : request.Asks .events) (hbody : request.readBody EventReport.ofJson? = .ok report)
    {kind : EventKind} (hkind : EventKind.read report.kind = .ok kind) (timing : Timing) :
    Feeds session component request timing (report.event kind request.clientAddress?)
      (report.context request.clientAddress?).accountKey := by
  obtain ⟨hnext, hserved⟩ := h.administers.serveEvent_of_known hbody hkind timing.duration
  obtain ⟨hhandle, hsame⟩ := h.administers.handle_of_asks hasks timing hnext
  refine ⟨?counted, ?atOnce, ?heldBack⟩
  case counted =>
    intro account haccount
    rw [ConnectionEvent.counted?_of_context rfl] at haccount
    exact (Option.some.inj (Option.ite_none_right_eq_some.mp haccount).2).symm
  case atOnce =>
    intro hnone
    have hbegin := h.service.begin_of_none hnone
    rw [hnone, hbegin] at hserved
    rw [hbegin] at hhandle
    exact ⟨_, hsame.trans hserved,
      dealt_of_eventReply hhandle (h.service.settled_notify rfl .elapsed) timing.duration⟩
  case heldBack =>
    intro held hheld
    rw [hheld] at hserved
    refine ⟨hhandle, h.service.release_begin hheld .elapsed, _, hsame.trans hserved, rfl, ?_⟩
    intro moves later
    obtain ⟨arrived, harrived⟩ := h.perform (.request request timing)
    obtain ⟨waited, hwaited⟩ := harrived.run moves
    refine ⟨waited, hwaited, fun timing ↦ ?_⟩
    obtain ⟨hserver, hreply⟩ := hwaited.administers.resume
      ⟨held, (report.context request.clientAddress?).accountKey, request.method,
        Endpoint.events.pattern⟩ timing
    rw [hreply]
    exact dealt_of_eventReply hserver
      (h.service.settled_release rfl hheld hwaited.service .elapsed) timing.duration

end Server

end LoginThrottle
