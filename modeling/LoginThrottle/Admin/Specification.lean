import LoginThrottle.Admin.Endpoint
import LoginThrottle.Json.Value
import LoginThrottle.Text.Ascii

/-!
The description of the administration interface that it gives of itself: a title, a version, a text
and the method of each endpoint but the one for the description.
-/

set_option autoImplicit false
set_option relaxedAutoImplicit false

namespace LoginThrottle.Specification

def title : String :=
  "Connection Control Admin API"

def version : String :=
  "0.1.0"

def description : String :=
  "\n".intercalate
    ["Administrative interface of the connection control component.",
      "",
      "## Delay policy",
      "Once an account reaches `component_connection_control.failed_connections_threshold` "
        ++ "consecutive failed logins, every further connection attempt for it is held back for "
        ++ "`(failures + 1 - threshold)` seconds, clamped to "
        ++ "`component_connection_control.min_connection_delay` and "
        ++ "`component_connection_control.max_connection_delay` (milliseconds). "
        ++ "A successful login clears the account's counter. A threshold of 0 disables the policy.",
      "",
      "## Endpoints",
      "- `GET /api/variables`, `PUT /api/variables/\x7bname\x7d`: read and change the system "
        ++ "variables",
      "- `GET /api/status`: `Component_connection_control_delay_generated`",
      "- `GET /api/failed-login-attempts`: rows of `connection_control_failed_login_attempts`",
      "- `POST /api/connection-events`: report an authentication outcome",
      "",
      "Changing the threshold resets the delay counter and forgets every recorded failure."]

/-- The endpoints that are described. -/
def endpoints : List Endpoint :=
  Endpoint.all.filter (· ≠ .specification)

def toJson : Json.Value :=
  .ofFields
    [("title", .ofString title), ("version", .ofString version),
      ("paths", .ofFields (endpoints.map fun endpoint ↦
        (endpoint.pattern,
          .array [.ofString (String.ofList (Text.asciiLower endpoint.method.toList))])))]

end LoginThrottle.Specification
