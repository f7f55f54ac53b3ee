import LoginThrottle.Admin.Target

/-!
The endpoints of the administration server, each with the path it is found under and the one method
it answers. The last segment of the path of a setting is the name of the setting, in which nothing
is missing but a slash.
-/

set_option autoImplicit false
set_option relaxedAutoImplicit false

namespace LoginThrottle

inductive Endpoint
  | health
  | metrics
  | status
  | settings
  | setting
  | failures
  | events
  | specification
  deriving DecidableEq, Repr

namespace Endpoint

/-- Every endpoint. -/
def all : List Endpoint :=
  [health, metrics, status, settings, setting, failures, events, specification]

/-- The path; in place of a name that is part of it stands the word for it in braces. -/
def pattern : Endpoint → String
  | health => "/api/health"
  | metrics => "/api/metrics"
  | status => "/api/status"
  | settings => "/api/variables"
  | setting => "/api/variables/\x7bname\x7d"
  | failures => "/api/failed-login-attempts"
  | events => "/api/connection-events"
  | specification => "/api/spec/v2"

def method : Endpoint → String
  | setting => "PUT"
  | events => "POST"
  | _ => "GET"

/-- The route of requests for which there is no endpoint. -/
def unknownPattern : String :=
  "/unknown"

/-- What stands before the name of a setting in its path. -/
def settingStem : List Char :=
  (settings.pattern ++ "/").toList

/-- The name of the setting that a path leads to. -/
def settingName? (path : List Char) : Option (List Char) :=
  if settingStem.isPrefixOf path then
    let name := path.drop settingStem.length
    if name.isEmpty || name.contains '/' then none else some name
  else none

def accepts (path : List Char) : Endpoint → Bool
  | setting => (settingName? path).isSome
  | endpoint => path == endpoint.pattern.toList

/-- The endpoint among those on offer that a path leads to. -/
def find? (offered : List Endpoint) (path : List Char) : Option Endpoint :=
  offered.find? (accepts path)

end Endpoint

end LoginThrottle
