import LoginThrottle.Json.Writer
import LoginThrottle.Record

/-!
A record as a line of the log: as a JSON object, or as the level, the target, the message and the
fields in a row.
-/

set_option autoImplicit false
set_option relaxedAutoImplicit false

namespace LoginThrottle

namespace FieldValue

def toJson : FieldValue → Json.Value
  | text value => .ofString value
  | number value => .ofInt value
  | flag value => .bool value

def write : FieldValue → String
  | text value => value
  | number value => Text.ofInt value
  | flag value => if value then "true" else "false"

end FieldValue

namespace Record

/-- All fields, the message among them. -/
def allFields (record : Record) : List (String × FieldValue) :=
  ("message", .text record.message) :: record.fields

def jsonLine (record : Record) : String :=
  (Json.Value.ofFields
    [("level", .ofString record.level.title),
      ("fields", .ofFields (record.allFields.map fun (name, value) ↦ (name, value.toJson))),
      ("target", .ofString record.target)]).write

def plainLine (record : Record) : String :=
  record.level.title ++ " " ++ record.target ++ ": " ++ record.message
    ++ String.join (record.fields.map fun (name, value) ↦ " " ++ name ++ "=" ++ value.write)

end Record

end LoginThrottle
