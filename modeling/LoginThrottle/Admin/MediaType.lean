import LoginThrottle.Text.Ascii
import LoginThrottle.Text.Decimal

/-!
Media types as a header names them: a type and a subtype, and then parameters, each behind a
semicolon, with a value that may be quoted. The part of the subtype behind its last plus sign is
its suffix. A media type is JSON if its subtype is `json` or its suffix is.
-/

set_option autoImplicit false
set_option relaxedAutoImplicit false

namespace LoginThrottle.MediaType

/-- Whether a character may stand in a token. -/
def isToken (c : Char) : Bool :=
  c.isAlphanum || "!#$%&'*+-.^_\x60|~".toList.contains c

/-- Whether a character may stand in a quoted value. -/
def isQuotable (c : Char) : Bool :=
  ' ' ≤ c && c != '\x7f'

/-- Where in the parameters the reading is. Blanks may stand before a name and after a quoted
value. A quoted value has at least one character, which may be a quote. -/
inductive Place
  | beforeName
  | name
  | beforeValue
  | value
  | quoteOpened
  | quoted
  | afterQuoted
  deriving DecidableEq, Repr

namespace Place

def step (place : Place) (c : Char) : Option Place :=
  match place with
  | .beforeName => if c == ' ' then some .beforeName else if isToken c then some .name else none
  | .name => if c == '=' then some .beforeValue else if isToken c then some .name else none
  | .beforeValue =>
    if c == '"' then some .quoteOpened else if isToken c then some .value else none
  | .value => if c == ';' then some .beforeName else if isToken c then some .value else none
  | .quoteOpened => if isQuotable c then some .quoted else none
  | .quoted =>
    if c == '"' then some .afterQuoted else if isQuotable c then some .quoted else none
  | .afterQuoted =>
    if c == ';' then some .beforeName else if c == ' ' then some .afterQuoted else none

/-- Whether the parameters may end here. -/
def isFinal : Place → Bool
  | .beforeName | .beforeValue | .value | .afterQuoted => true
  | .name | .quoteOpened | .quoted => false

end Place

def areParameters (text : List Char) : Bool :=
  (text.foldlM Place.step Place.beforeName).any Place.isFinal

/-- The type and the subtype, if the text is a media type. -/
def parse? (text : List Char) : Option (List Char × List Char) := do
  let (kind, rest) ← Text.splitFirst '/' text
  let (subtype, parameters) := (Text.splitFirst ';' rest).getD (rest, [])
  if !kind.isEmpty && kind.all isToken && subtype.all isToken && areParameters parameters then
    some (kind, subtype)
  else none

/-- The subtype without its suffix, and the suffix. A plus sign at the start begins none. -/
def splitSuffix (subtype : List Char) : List Char × Option (List Char) :=
  match Text.splitFirst '+' subtype.reverse with
  | some (suffix, front) =>
    if front.isEmpty then (subtype, none) else (front.reverse, some suffix.reverse)
  | none => (subtype, none)

def isJson (text : List Char) : Bool :=
  let json := "json".toList
  match parse? text with
  | some (_, subtype) =>
    let (front, suffix?) := splitSuffix subtype
    Text.asciiSame front json || suffix?.any (Text.asciiSame json)
  | none => false

end LoginThrottle.MediaType
