import Mathlib.Logic.ExistsUnique
import LoginThrottle.Proofs.Account.Parts
import LoginThrottle.Proofs.Admin.Address
import LoginThrottle.Proofs.Admin.Serving
import LoginThrottle.Proofs.Text.Blank

/-!
What the address of the client has to do with the account that a report is counted for. The address
comes from headers that any client can write, so it is used only where the report leaves room for
it: it names no proxy user and no account that the session runs as, gives no host, and says nothing
at all about the address. `countedKey_by_address` is the summary. Everywhere else the report alone
makes the key, and for every member but the address it makes no difference whether it is missing or
empty.
-/

set_option autoImplicit false
set_option relaxedAutoImplicit false

namespace LoginThrottle

/-! ### The address of the client -/

namespace Request

/-- The first header of this name, in any ASCII case, has this value, and the value is visible. -/
structure Says (request : Request) (name value : String) : Prop where
  first : ∃ before key after, request.headers = before ++ (key, value) :: after
    ∧ Text.asciiLower key.toList = Text.asciiLower name.toList
    ∧ ∀ header ∈ before, Text.asciiLower header.1.toList ≠ Text.asciiLower name.toList
  visible : ∀ c ∈ value.toList, c = '\t' ∨ ' ' ≤ c ∧ c ≤ '~'

/-- The first entry of the list in this header, without the white space around it, is this one, and
there is something to it. -/
def Lists (request : Request) (name entry : String) : Prop :=
  ∃ value, request.Says name value
    ∧ Text.Trims (value.toList.takeWhile (· ≠ ',')) entry.toList ∧ entry ≠ ""

/-- The address of the client, by where it is found; the empty text if it is not. -/
inductive ClientIs (request : Request) : String → Prop
  | forwarded {entry : String} (listed : request.Lists "X-Forwarded-For" entry) :
    ClientIs request entry
  | real {entry : String} (unlisted : ∀ other, ¬ request.Lists "X-Forwarded-For" other)
    (listed : request.Lists "X-Real-IP" entry) : ClientIs request entry
  | peer {text : String} {address : Address}
    (unlisted : ∀ other, ¬ request.Lists "X-Forwarded-For" other)
    (unlisted' : ∀ other, ¬ request.Lists "X-Real-IP" other)
    (connected : request.peer? = some text)
    (known : Address.ofPeer? text.toList = some address) : ClientIs request address.write
  | unknown (unlisted : ∀ other, ¬ request.Lists "X-Forwarded-For" other)
    (unlisted' : ∀ other, ¬ request.Lists "X-Real-IP" other)
    (unconnected : ∀ text, request.peer? = some text → Address.ofPeer? text.toList = none) :
    ClientIs request ""

variable {request : Request} {name entry : String}

theorem isVisible_iff (c : Char) : isVisible c = true ↔ c = '\t' ∨ ' ' ≤ c ∧ c ≤ '~' := by
  rw [isVisible, Bool.or_eq_true, Bool.and_eq_true, beq_iff_eq, decide_eq_true_eq,
    decide_eq_true_eq]

theorem header?_eq_some_iff {value : List Char} :
    request.header? name = some value ↔ request.Says name (String.ofList value) := by
  have hother (header : String × String) :
      (!Text.asciiSame header.1.toList name.toList) = true ↔
        Text.asciiLower header.1.toList ≠ Text.asciiLower name.toList := by
    rw [Bool.not_eq_true', ← Bool.not_eq_true, Text.asciiSame_iff]
  rw [header?, Option.bind_eq_bind, Option.bind_eq_some_iff]
  simp only [Option.ite_none_right_eq_some, Option.some.injEq, List.find?_eq_some_iff_append,
    Text.asciiSame_iff, hother, List.all_eq_true, isVisible_iff]
  constructor
  · rintro ⟨⟨key, text⟩, ⟨hname, before, after, hheaders, hbefore⟩, hvisible, rfl⟩
    rw [String.ofList_toList]
    exact ⟨⟨before, key, after, hheaders, hname, hbefore⟩, hvisible⟩
  · rintro ⟨⟨before, key, after, hheaders, hname, hbefore⟩, hvisible⟩
    rw [String.toList_ofList] at hvisible
    exact ⟨(key, String.ofList value), ⟨hname, before, after, hheaders, hbefore⟩,
      by rwa [String.toList_ofList], String.toList_ofList⟩

theorem firstItem?_eq_some_iff {value text : List Char} :
    firstItem? value = some text ↔ Text.Trims (value.takeWhile (· ≠ ',')) text ∧ text ≠ [] := by
  rw [firstItem?, Text.getD_splitFirst, Text.trims_iff]
  by_cases hempty : Text.trim (value.takeWhile (· ≠ ',')) = []
  · rw [hempty]
    exact iff_of_false (by simp) fun ⟨heq, hne⟩ ↦ hne heq.symm
  · simp only [List.isEmpty_iff, if_neg hempty, Option.some.injEq]
    exact ⟨fun heq ↦ ⟨heq, heq ▸ hempty⟩, And.left⟩

theorem forwarded?_eq_some_iff :
    request.forwarded? name = some entry ↔ request.Lists name entry := by
  rw [forwarded?, Option.map_eq_some_iff]
  simp only [Option.bind_eq_some_iff, header?_eq_some_iff, firstItem?_eq_some_iff]
  constructor
  · rintro ⟨text, ⟨value, hsaid, htrims, hne⟩, rfl⟩
    refine ⟨String.ofList value, hsaid, ?_, ?_⟩
    · rwa [String.toList_ofList, String.toList_ofList]
    · rwa [ne_eq, ← String.toList_eq_nil_iff, String.toList_ofList]
  · rintro ⟨value, hsaid, htrims, hne⟩
    refine ⟨entry.toList, ⟨value.toList, ?_, htrims, ?_⟩, String.ofList_toList⟩
    · rwa [String.ofList_toList]
    · rwa [ne_eq, String.toList_eq_nil_iff]

theorem forwarded?_eq_none_iff :
    request.forwarded? name = none ↔ ∀ other, ¬ request.Lists name other := by
  rw [Option.eq_none_iff_forall_ne_some]
  simp only [ne_eq, forwarded?_eq_some_iff]

theorem peerAddress?_eq_none_iff : request.peerAddress? = none ↔
    ∀ text, request.peer? = some text → Address.ofPeer? text.toList = none := by
  rw [peerAddress?, Option.map_eq_none_iff, Option.bind_eq_none_iff]

theorem clientIs_clientAddress? (request : Request) :
    request.ClientIs (request.clientAddress?.getD "") := by
  rw [clientAddress?]
  cases hforwarded : request.forwarded? "X-Forwarded-For" with
  | some entry => exact .forwarded (forwarded?_eq_some_iff.mp hforwarded)
  | none =>
    have hunlisted := forwarded?_eq_none_iff.mp hforwarded
    cases hreal : request.forwarded? "X-Real-IP" with
    | some entry => exact .real hunlisted (forwarded?_eq_some_iff.mp hreal)
    | none =>
      have hunlisted' := forwarded?_eq_none_iff.mp hreal
      cases hpeer : request.peerAddress? with
      | none => exact .unknown hunlisted hunlisted' (peerAddress?_eq_none_iff.mp hpeer)
      | some entry =>
        obtain ⟨address, haddress, rfl⟩ := Option.map_eq_some_iff.mp hpeer
        obtain ⟨text, htext, hread⟩ := Option.bind_eq_some_iff.mp haddress
        exact .peer hunlisted hunlisted' htext hread

/-- There is one address, which is the one that the server goes by. -/
theorem ClientIs.eq {address : String} (h : request.ClientIs address) :
    address = request.clientAddress?.getD "" := by
  rw [clientAddress?]
  cases h with
  | forwarded listed =>
    rw [forwarded?_eq_some_iff.mpr listed]
    rfl
  | real unlisted listed =>
    rw [forwarded?_eq_none_iff.mpr unlisted, forwarded?_eq_some_iff.mpr listed]
    rfl
  | peer unlisted unlisted' connected known =>
    rw [forwarded?_eq_none_iff.mpr unlisted, forwarded?_eq_none_iff.mpr unlisted', peerAddress?,
      connected, Option.bind_some, known]
    rfl
  | unknown unlisted unlisted' unconnected =>
    rw [forwarded?_eq_none_iff.mpr unlisted, forwarded?_eq_none_iff.mpr unlisted',
      peerAddress?_eq_none_iff.mpr unconnected]
    rfl

end Request

/-! ### The account of a report -/

namespace EventReport

open SecurityContext (written)

/-- The account that the report is counted for if it comes with this request. -/
def countedKey (report : EventReport) (request : Request) : AccountKey :=
  (report.context request.clientAddress?).accountKey

/-- The report leaves the host of the account to the address of the client. -/
structure LeavesHost (report : EventReport) : Prop where
  ip : report.ip = none
  host : written report.host = ""
  proxyUser : written report.proxyUser = ""
  privUser : written report.privUser = ""
  privHost : written report.privHost = ""

/-- The reports say the same, if a member other than the address that is missing counts as empty. -/
structure SaysAs (one other : EventReport) : Prop where
  ip : one.ip = other.ip
  user : written one.user = written other.user
  host : written one.host = written other.host
  proxyUser : written one.proxyUser = written other.proxyUser
  privUser : written one.privUser = written other.privUser
  privHost : written one.privHost = written other.privHost

variable {report : EventReport}

theorem accountKey_context (report : EventReport) (client? : Option String) :
    (report.context client?).accountKey =
      if written report.proxyUser ≠ "" then ⟨written report.proxyUser⟩
      else if written report.privUser ≠ "" ∨ written report.privHost ≠ "" then
        .ofParts (written report.privUser) (written report.privHost)
      else
        .ofParts (written report.user)
          (if written report.host ≠ "" then written report.host
          else written (report.ip.or client?)) := by
  have hkey (context : SecurityContext) : context.accountKey =
      if written context.proxyUser ≠ "" then ⟨written context.proxyUser⟩
      else if written context.privUser ≠ "" ∨ written context.privHost ≠ "" then
        .ofParts (written context.privUser) (written context.privHost)
      else
        .ofParts (written context.user)
          (if written context.host ≠ "" then written context.host else written context.ip) := by
    rw [SecurityContext.accountKey_eq, SecurityContext.effectiveParts]
    by_cases hpriv : written context.privUser ≠ "" ∨ written context.privHost ≠ ""
    · rw [if_pos hpriv, if_pos hpriv]
    · rw [if_neg hpriv, if_neg hpriv]
  exact hkey _

/-- Where the report leaves the host open, it is the address of the client. -/
theorem LeavesHost.accountKey_context (h : report.LeavesHost) (client? : Option String) :
    (report.context client?).accountKey = .ofParts (written report.user) (client?.getD "") := by
  rw [EventReport.accountKey_context, h.proxyUser, h.privUser, h.privHost, h.host, h.ip]
  rfl

/-- Where it does not, the address of the client makes no difference. -/
theorem accountKey_context_congr (h : ¬ report.LeavesHost) (client? client?' : Option String) :
    (report.context client?).accountKey = (report.context client?').accountKey := by
  rw [EventReport.accountKey_context, EventReport.accountKey_context]
  by_cases hproxy : written report.proxyUser ≠ ""
  · rw [if_pos hproxy, if_pos hproxy]
  · by_cases hpriv : written report.privUser ≠ "" ∨ written report.privHost ≠ ""
    · rw [if_pos hpriv, if_pos hpriv]
    · by_cases hhost : written report.host ≠ ""
      · rw [if_pos hhost, if_pos hhost]
      · have hopen : written report.privUser = "" ∧ written report.privHost = "" := by
          simpa [not_or] using hpriv
        have hip : report.ip ≠ none := fun hip ↦
          h ⟨hip, not_not.mp hhost, not_not.mp hproxy, hopen.1, hopen.2⟩
        obtain ⟨ip, hip⟩ := Option.ne_none_iff_exists'.mp hip
        rw [hip, Option.some_or, Option.some_or]

theorem SaysAs.accountKey_context {other : EventReport} (h : report.SaysAs other)
    (client? : Option String) :
    (report.context client?).accountKey = (other.context client?).accountKey := by
  rw [EventReport.accountKey_context, EventReport.accountKey_context, h.proxyUser, h.privUser,
    h.privHost, h.user, h.host, h.ip]

theorem spelling_ofParts (user host : String) :
    (AccountKey.ofParts user host).spelling = "'" ++ user ++ "'@'" ++ host ++ "'" := by
  apply String.toList_injective
  simp [AccountKey.ofParts]

/-- What the address of the client can do, for a report and any two requests that carry it. The keys
differ only if the report leaves the host to the address, and then the key is made of the user of
the report and of the address, which headers give before the peer does, and a peer without its
port. Any other member may be missing or empty, and the account that is counted is the one that is
named in the reply. -/
theorem countedKey_by_address (report : EventReport) (one other : Request) :
    (report.countedKey one ≠ report.countedKey other → report.LeavesHost)
      ∧ (report.LeavesHost → ∀ address, one.ClientIs address →
        (report.countedKey one).spelling = "'" ++ written report.user ++ "'@'" ++ address ++ "'")
      ∧ (∃! address, one.ClientIs address)
      ∧ (∀ peer : Peer, one.peer? = some (String.ofList peer.text) →
        (∀ entry, ¬ one.Lists "X-Forwarded-For" entry) → (∀ entry, ¬ one.Lists "X-Real-IP" entry) →
          one.ClientIs peer.address.write)
      ∧ (∀ report' : EventReport, report.SaysAs report' →
        report'.countedKey one = report.countedKey one)
      ∧ ∀ component kind, EventKind.read report.kind = .ok kind →
        Server.reportEvent component report one.clientAddress? =
            .ok (report.countedKey one, component.begin (report.event kind one.clientAddress?))
          ∧ (report.event kind one.clientAddress?).context.map SecurityContext.accountKey =
            some (report.countedKey one) := by
  refine ⟨?differ, ?address, ⟨one.clientAddress?.getD "", one.clientIs_clientAddress?, ?unique⟩,
    ?peer, ?missing, ?counted⟩
  case differ =>
    intro hne
    by_contra hleaves
    exact hne (accountKey_context_congr hleaves _ _)
  case address =>
    intro hleaves address haddress
    rw [countedKey, hleaves.accountKey_context, spelling_ofParts, haddress.eq]
  case unique => exact fun address haddress ↦ haddress.eq
  case peer =>
    intro peer hpeer hforwarded hreal
    refine .peer hforwarded hreal hpeer ?_
    rw [String.toList_ofList, peer.ofPeer?_text]
  case missing => exact fun report' hsaid ↦ (hsaid.accountKey_context _).symm
  case counted =>
    exact fun component kind hkind ↦ ⟨Server.reportEvent_of_read hkind component _, rfl⟩

/-- The same report from the same peer: a header that lists two addresses makes another account of
it than one that is not visible and a header with a blank entry, which leave it to the peer. -/
theorem countedKey_by_address_spoofed :
    let report : EventReport := ⟨"connect", false, some "ann", none, none, some "", none, none⟩
    let one : Request := ⟨"POST", "/api/connection-events",
      [("x-forwarded-for", " 203.0.113.9 , 10.0.0.1")], "", some "[fe80::1%2]:4711"⟩
    let other : Request := ⟨"POST", "/api/connection-events",
      [("X-Forwarded-For", "203.0.113.9\u00e9"), ("X-Real-IP", " ,10.0.0.1")], "",
        some "[fe80::1%2]:4711"⟩
    report.countedKey one ≠ report.countedKey other ∧ report.LeavesHost
      ∧ (report.countedKey one).spelling = "'ann'@'203.0.113.9'"
      ∧ (report.countedKey other).spelling = "'ann'@'fe80::1'" := by
  intro report one other
  have hspelling : (report.countedKey one).spelling ≠ (report.countedKey other).spelling := by
    decide +kernel
  have hne : report.countedKey one ≠ report.countedKey other :=
    fun heq ↦ hspelling (congrArg AccountKey.spelling heq)
  have hlisted : one.ClientIs "203.0.113.9" := by
    have hfirst : " 203.0.113.9 , 10.0.0.1".toList.takeWhile (· ≠ ',') =
        " 203.0.113.9 ".toList := by decide +kernel
    refine .forwarded ⟨" 203.0.113.9 , 10.0.0.1",
      ⟨⟨[], "x-forwarded-for", [], rfl, by decide +kernel, ?_⟩, ?_⟩, ?_, ?_⟩
    · exact fun header hheader ↦ absurd hheader List.not_mem_nil
    · have hvisible : " 203.0.113.9 , 10.0.0.1".toList.all Request.isVisible = true := by
        decide +kernel
      exact fun c hc ↦ (Request.isVisible_iff c).mp (List.all_eq_true.mp hvisible c hc)
    · rw [hfirst]
      exact Text.trims_iff.mpr (by decide +kernel)
    · decide +kernel
  have hleaves := (countedKey_by_address report one other).1 hne
  exact ⟨hne, hleaves, (countedKey_by_address report one other).2.1 hleaves _ hlisted,
    by decide +kernel⟩

end EventReport

end LoginThrottle
