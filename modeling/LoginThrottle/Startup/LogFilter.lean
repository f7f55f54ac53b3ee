import LoginThrottle.Record
import LoginThrottle.Text.Alphanumeric
import LoginThrottle.Text.Blank
import LoginThrottle.Text.Pattern
import LoginThrottle.Text.Utf8

/-!
Which records are shown. A filter is a list of directives separated by commas. A directive is a
level, a target, or a target with a level behind an equals sign; between the target and the equals
sign may stand, in brackets, a span and a field in braces. A target alone lets everything through.

The blanks around a directive do not count when its parts are told apart, but they do when the
parts are taken: these are cut from the whole directive, at the places that they would have
without the blanks. So a blank in front moves every part one place to the left, and a blank at the
end belongs to the part that ends there. A cut inside a character stops the program.

A record answers to a target that its own begins with and to a field that it has. No record
belongs to a span or is held against the value of a field, so directives with either decide
nothing. Of the others that a record answers to, the one with the longest target decides, of those
one with a field, and of those the one whose field comes last in the order of names; a later
directive takes the place of an earlier one for the same.

A filter without directives shows errors alone, and one that cannot be read is taken for `info`.
-/

set_option autoImplicit false
set_option relaxedAutoImplicit false

namespace LoginThrottle.LogFilter

structure Field where
  name : List Char
  hasValue : Bool
  deriving DecidableEq, Repr

/-- A directive by its target, its span, the field it asks for and how verbose records may be. -/
structure Directive where
  target? : Option (List Char)
  hasSpan : Bool
  field? : Option Field
  verbosity : Nat
  deriving DecidableEq, Repr

/-- Why a directive cannot be read: because it is none, or because a part of it would begin or end
inside a character. -/
inductive Defect
  | malformed
  | cutCharacter
  deriving DecidableEq, Repr

/-- The verbosity that lets everything through. -/
def allVerbosity : Nat :=
  Level.trace.verbosity

/-- The verbosity of a level that is given by its name or by its number. -/
def readLevel? (text : List Char) : Option Nat :=
  match Text.readUnsigned? text with
  | some n => if n ≤ allVerbosity then some n else none
  | none =>
    ["off", "error", "warn", "info", "debug", "trace"].findIdx? fun name ↦
      Text.asciiSame text name.toList

/-- Where in a directive the reading is, with the place at which the part began. -/
inductive Place
  | opening
  | levelOrTarget
  | span (start : Nat)
  | field (start : Nat)
  | fieldEnd
  | target
  | level (start : Nat)
  deriving DecidableEq, Repr

/-- How far a directive has been read. Places are counted in bytes. -/
structure Reading where
  directive : Directive
  place : Place
  offset : Nat
  deriving DecidableEq, Repr

/-- Whether a directive may begin with a character, other than with a bracket. -/
def isOpening (c : Char) : Bool :=
  c == '-' || c == ':' || c == '_' || Text.isAlphanumeric c

def cut (text : List Char) (start stop : Nat) : Except Defect (List Char) :=
  match Text.Utf8.cut? text start stop with
  | some part => .ok part
  | none => .error .cutCharacter

/-- The part that runs to the end. -/
def cutRest (text : List Char) (start : Nat) : Except Defect (List Char) :=
  cut text start (Text.Utf8.encode text).length

/-- Whether the value of a field can be asked for: a number, or a pattern for its text. -/
def isValue (text : List Char) : Bool :=
  Text.isReal text || Text.Pattern.isValid text

/-- A field is a name, or a name and a value between equals signs. -/
def readField (text : List Char) : Except Defect Field :=
  if text.isEmpty then .error .malformed
  else
    match Text.splitAll '=' text with
    | name :: value :: _ => if isValue value then .ok ⟨name, true⟩ else .error .malformed
    | _ => .ok ⟨text, false⟩

/-- What the next character does to a reading, the parts being cut from `text`. -/
def step (text : List Char) (reading : Reading) (c : Char) : Except Defect Reading := do
  let here := reading.offset
  let next := here + c.utf8Size
  let directive := reading.directive
  match reading.place with
  | .opening =>
    if c == '[' then return ⟨directive, .span next, next⟩
    else if isOpening c then return ⟨directive, .levelOrTarget, next⟩
    else throw .malformed
  | .levelOrTarget =>
    if c == '=' then
      let target ← cut text 0 here
      return ⟨{ directive with target? := some target }, .level next, next⟩
    else if c == '[' then
      let target ← cut text 0 here
      return ⟨{ directive with target? := some target }, .span next, next⟩
    else return ⟨directive, .levelOrTarget, next⟩
  | .span start =>
    if c == ']' then
      let _ ← cut text start here
      return ⟨{ directive with hasSpan := true }, .target, next⟩
    else if c == '\x7b' then
      let span ← cut text start here
      return ⟨{ directive with hasSpan := !span.isEmpty }, .field next, next⟩
    else return ⟨directive, .span start, next⟩
  | .field start =>
    if c == '\x7d' then
      let field ← readField (← cut text start here)
      return ⟨{ directive with field? := some field }, .fieldEnd, next⟩
    else return ⟨directive, .field start, next⟩
  | .fieldEnd => if c == ']' then return ⟨directive, .target, next⟩ else throw .malformed
  | .target => if c == '=' then return ⟨directive, .level next, next⟩ else throw .malformed
  | .level start => return ⟨directive, .level start, next⟩

/-- The directive, once all of its characters have been read. -/
def finish (text : List Char) (reading : Reading) : Except Defect Directive := do
  let directive := reading.directive
  match reading.place with
  | .levelOrTarget =>
    let part ← cutRest text 0
    match readLevel? part with
    | some verbosity => return { directive with verbosity }
    | none => return { directive with target? := some part }
  | .level start =>
    let part ← cutRest text start
    if part.isEmpty then return directive
    match readLevel? part with
    | some verbosity => return { directive with verbosity }
    | none => throw .malformed
  | .target => return directive
  | .opening | .span _ | .field _ | .fieldEnd => throw .malformed

def readDirective (text : List Char) : Except Defect Directive := do
  let reading ← (Text.trim text).foldlM (step text) ⟨⟨none, false, none, allVerbosity⟩, .opening, 0⟩
  finish text reading

def errorsOnly : Directive :=
  ⟨none, false, none, Level.error.verbosity⟩

def infoOnly : Directive :=
  ⟨none, false, none, Level.info.verbosity⟩

/-- The directives of a filter, unless reading it stops the program. -/
def read? (text : List Char) : Option (List Directive) :=
  match ((Text.splitAll ',' text).filter (!·.isEmpty)).mapM readDirective with
  | .ok [] => some [errorsOnly]
  | .ok directives => some directives
  | .error .malformed => some [infoOnly]
  | .error .cutCharacter => none

/-- Whether the directive can decide about records. -/
def Directive.isStatic (directive : Directive) : Bool :=
  !directive.hasSpan && directive.field?.all (!·.hasValue)

def fieldNames (record : Record) : List (List Char) :=
  "message".toList :: record.fields.map (·.1.toList)

def Directive.isAnswered (directive : Directive) (record : Record) : Bool :=
  directive.isStatic && directive.target?.all (·.isPrefixOf record.target.toList)
    && directive.field?.all fun field ↦ (fieldNames record).contains field.name

/-- The order of directives by what they ask for. Nothing comes before everything else. -/
def Directive.order (a b : Directive) : Ordering :=
  (compare (a.target?.map (·.length)) (b.target?.map (·.length))).then
    (compare (a.field?.map (·.name)) (b.field?.map (·.name)))

/-- The directive that decides about a record. -/
def deciding? (directives : List Directive) (record : Record) : Option Directive :=
  (directives.filter (·.isAnswered record)).foldl
    (fun best? directive ↦
      match best? with
      | some best => if (directive.order best).isLT then some best else some directive
      | none => some directive)
    none

/-- Whether a filter shows a record. -/
def shows (directives : List Directive) (record : Record) : Bool :=
  (deciding? directives record).any (record.level.verbosity ≤ ·.verbosity)

end LoginThrottle.LogFilter
