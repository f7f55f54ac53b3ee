import LoginThrottle.Event
import LoginThrottle.Json.Decode
import LoginThrottle.Ledger

/-!
The records of the program as they are written in JSON: what a client sends to change a setting or
to report an event, a security context, and a line of the table.
-/

set_option autoImplicit false
set_option relaxedAutoImplicit false

namespace LoginThrottle

/-- An event as a client reports it. The kind is still a text; what is missing or `null` is
unknown. -/
structure EventReport where
  kind : String
  success : Bool
  user : Option String
  host : Option String
  ip : Option String
  proxyUser : Option String
  privUser : Option String
  privHost : Option String
  deriving DecidableEq, Repr

namespace EventReport

def ofJson? (json : Json.Value) : Option EventReport := do
  let names :=
    ["subclass", "success", "user", "host", "ip", "proxy_user", "priv_user", "priv_host"]
  match ← json.fields? names with
  | [kind, success, user, host, ip, proxyUser, privUser, privHost] =>
    some
      { kind := ← kind.elim (some EventKind.connect.name) Json.Value.toText?
        success := ← success.bind Json.Value.toBool?
        user := ← Json.Value.optionalText? user
        host := ← Json.Value.optionalText? host
        ip := ← Json.Value.optionalText? ip
        proxyUser := ← Json.Value.optionalText? proxyUser
        privUser := ← Json.Value.optionalText? privUser
        privHost := ← Json.Value.optionalText? privHost }
  | _ => none

/-- The security context of the reported connection; the address of the client stands in for one
that the report does not give. -/
def context (report : EventReport) (client? : Option String) : SecurityContext :=
  { proxyUser := report.proxyUser, privUser := report.privUser, privHost := report.privHost
    user := report.user, host := report.host, ip := report.ip.or client? }

end EventReport

namespace SecurityContext

def ofJson? (json : Json.Value) : Option SecurityContext := do
  let names := ["proxy_user", "priv_user", "priv_host", "user", "host", "ip"]
  match ← (← json.fields? names).mapM Json.Value.optionalText? with
  | [proxyUser, privUser, privHost, user, host, ip] =>
    some { proxyUser, privUser, privHost, user, host, ip }
  | _ => none

end SecurityContext

namespace Row

def ofJson? (json : Json.Value) : Option Row := do
  match ← json.fields? ["USERHOST", "FAILED_ATTEMPTS"] with
  | [account, failures] =>
    some
      { account := ← account.bind Json.Value.toText?
        failures := ← failures.bind Json.Value.toUInt64? }
  | _ => none

def toJson (row : Row) : Json.Value :=
  .ofFields
    [("USERHOST", .ofString row.account), ("FAILED_ATTEMPTS", .ofNat row.failures.toNat)]

end Row

/-- The value that a client asks for, where the setting is known from elsewhere. -/
def Setting.requestedValue? (json : Json.Value) : Option Int64 := do
  match ← json.fields? ["value"] with
  | [value] => value.bind Json.Value.toInt64?
  | _ => none

end LoginThrottle
