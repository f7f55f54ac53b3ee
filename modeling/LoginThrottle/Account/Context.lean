import LoginThrottle.Account.Key

/-!
What the host knows about who is connecting, and the account that a connection is counted under. A
proxy user is taken as it is written. Failing that, the account the session runs as is used if
either of its parts is known, and otherwise the login account, whose address stands in for a
missing host. A part that is unknown and a part that is empty mean the same.
-/

set_option autoImplicit false
set_option relaxedAutoImplicit false

namespace LoginThrottle

structure SecurityContext where
  proxyUser : Option String
  privUser : Option String
  privHost : Option String
  user : Option String
  host : Option String
  ip : Option String
  deriving DecidableEq, Repr, Inhabited

namespace SecurityContext

/-- The part, if it is known and not empty. -/
def known (part : Option String) : Option String :=
  part.filter fun text ↦ !text.isEmpty

def ofLogin (user host : String) : SecurityContext :=
  ⟨none, none, none, some user, some host, none⟩

/-- The user and the host that are counted when there is no proxy user. -/
def parts (context : SecurityContext) : String × String :=
  if (known context.privUser).isSome || (known context.privHost).isSome then
    ((known context.privUser).getD "", (known context.privHost).getD "")
  else
    ((known context.user).getD "", ((known context.host).or (known context.ip)).getD "")

def accountKey (context : SecurityContext) : AccountKey :=
  match known context.proxyUser with
  | some proxy => ⟨proxy⟩
  | none => .ofParts context.parts.1 context.parts.2

end SecurityContext

end LoginThrottle
