import LoginThrottle.Json.Reader
import LoginThrottle.Word

/-!
Taking JSON values for what a program expects. A record is written as an object, in which other
members than the expected ones are passed over, or as an array of all its members in their order.
In an object every name has to have a text, and no expected member may occur twice. An integer has
no fraction and no exponent; a minus sign in front of zero does not make one.
-/

set_option autoImplicit false
set_option relaxedAutoImplicit false

namespace LoginThrottle.Json.Value

def toBool? : Value → Option Bool
  | bool value => some value
  | _ => none

def toText? : Value → Option String
  | text content? => content?
  | _ => none

/-- A text or, in its place, `null`. -/
def toOptionalText? : Value → Option (Option String)
  | null => some none
  | text (some content) => some (some content)
  | _ => none

def toInt? : Value → Option Int
  | number (.integer false magnitude) => some magnitude
  | number (.integer true magnitude) => if magnitude = 0 then none else some (-magnitude)
  | _ => none

def toInt64? (value : Value) : Option Int64 :=
  value.toInt?.bind Word.narrow?

def toUInt64? (value : Value) : Option UInt64 :=
  match value.toInt? with
  | some (.ofNat n) => if n < UInt64.size then some (UInt64.ofNat n) else none
  | _ => none

/-- The value of the member of this name, where at most one has it. -/
def member? (members : List (String × Value)) (name : String) : Option (Option Value) :=
  match members.filter (·.1 == name) with
  | [] => some none
  | [(_, value)] => some (some value)
  | _ => none

/-- The values of a record's members, in the order of the names; in an object, members may be
missing. -/
def fields? (names : List String) : Value → Option (List (Option Value))
  | array items => if items.length = names.length then some (items.map some) else none
  | object members => do
    let named ← members.mapM fun (name?, value) ↦ name?.map fun name ↦ (name, value)
    names.mapM (member? named)
  | _ => none

/-- A member that may be missing. -/
def optionalText? (field : Option Value) : Option (Option String) :=
  match field with
  | some value => value.toOptionalText?
  | none => some none

end LoginThrottle.Json.Value
