import LoginThrottle.Text.Decimal

/-!
JSON values. A string literal may name half of a surrogate pair without the other half; it is then
a string without a text, both as a value and as the name of a member. Members keep their order and
may repeat a name. Of a number that is not written as an integer only that much is kept.
-/

set_option autoImplicit false
set_option relaxedAutoImplicit false

namespace LoginThrottle.Json

inductive Number
  | integer (negative : Bool) (magnitude : Nat)
  | real
  deriving DecidableEq, Repr

inductive Value
  | null
  | bool (value : Bool)
  | number (value : Number)
  | text (content? : Option String)
  | array (items : List Value)
  | object (members : List (Option String × Value))
  deriving Repr, Inhabited

namespace Value

def ofInt (i : Int) : Value :=
  .number (.integer (i < 0) i.natAbs)

def ofNat (n : Nat) : Value :=
  .number (.integer false n)

def ofString (text : String) : Value :=
  .text (some text)

def ofFields (fields : List (String × Value)) : Value :=
  .object (fields.map fun (name, value) ↦ (some name, value))

end Value

end LoginThrottle.Json
