import LoginThrottle.Fault
import LoginThrottle.Text.Blank

/-!
Reading the name of a setting. White space around the name is dropped; what is before the first
dot, if there is one, has to be the name of the group; the rest has to be a short name. ASCII case
makes no difference. Anything else is an unknown setting, reported as it was written.
-/

set_option autoImplicit false
set_option relaxedAutoImplicit false

namespace LoginThrottle.Setting

/-- The part of a trimmed name that should be a short name. -/
def unqualified? (name : List Char) : Option (List Char) :=
  match Text.splitFirst '.' name with
  | some (qualifier, rest) => if Text.asciiSame qualifier group.toList then some rest else none
  | none => some name

def ofShortName? (name : List Char) : Option Setting :=
  all.find? fun setting ↦ Text.asciiSame setting.shortName.toList name

def read (name : String) : Except Fault Setting :=
  match (unqualified? (Text.trim name.toList)).bind ofShortName? with
  | some setting => .ok setting
  | none => .error (.unknownSetting name)

end LoginThrottle.Setting
