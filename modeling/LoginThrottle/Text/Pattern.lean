import LoginThrottle.Text.Alphanumeric
import LoginThrottle.Text.Pattern.Bracket

/-!
Patterns for text, as far as to tell whether one is well formed. A pattern is a sequence of
characters, escapes, classes, assertions and groups, any of which may be repeated, with bars
between alternatives. A group may have a name of its own, which no other has, or set flags, which
hold to the end of the group. Looking ahead or behind and counted repetition are not to be had, and
nesting is limited.
-/

set_option autoImplicit false
set_option relaxedAutoImplicit false

namespace LoginThrottle.Text.Pattern

/-- A part of a sequence: flags, which cannot be repeated, or something with the depth to which it
is nested. -/
inductive Part
  | flags
  | expression (depth : Nat)
  deriving DecidableEq, Repr

def Part.depth : Part → Nat
  | flags => 0
  | expression depth => depth

/-- What a group begins with: flags that are all of it, or its contents, and how the pattern is
read from there. -/
inductive Opening
  | flags (mode : Mode)
  | group (mode : Mode)
  deriving DecidableEq, Repr

def isNameStart (c : Char) : Bool :=
  c == '_' || isAlphabetic c

def isNamePart (c : Char) : Bool :=
  c == '_' || c == '.' || c == '[' || c == ']' || isAlphanumeric c

/-- Reads the name of a group and the angle bracket behind it. -/
def readName : Reader Unit := do
  let some (name, rest) := splitFirst '>' (← Reader.rest) | failure
  let some first := name.head? | failure
  let names := (← get).names
  guard (isNameStart first && name.tail.all isNamePart && !names.contains name)
  Reader.setRest rest
  modify ({ · with names := name :: names })

/-- Whether the flags are known, come once each, and a minus is followed by some. -/
def areFlags (text : List Char) : Bool :=
  text.all ['-', 'i', 'm', 's', 'U', 'u', 'R', 'x'].contains && decide text.Nodup
    && text.getLast? != some '-'

/-- What the flags set a flag to, if they do. Those behind a minus are taken away. -/
def flag? (text : List Char) (flag : Char) : Option Bool :=
  if text.contains flag then some !((text.takeWhile (· != flag)).contains '-') else none

def Mode.withFlags (mode : Mode) (text : List Char) : Mode :=
  ⟨(flag? text 'u').getD mode.unicode, (flag? text 'x').getD mode.verbose⟩

/-- The beginning of a group. The cursor is on its parenthesis. -/
def readGroup : Reader Opening := do
  Reader.advanceOver
  let mode ← Reader.mode
  if ← Reader.takeAny ["?=", "?!", "?<=", "?<!"] then failure
  else if ← Reader.takeAny ["?P<", "?<"] then
    readName
    return .group mode
  else if ← Reader.takeAny ["?"] then
    let text ← Reader.rest
    let flags := text.takeWhile fun c ↦ c != ':' && c != ')'
    guard (areFlags flags)
    Reader.setRest (text.drop flags.length)
    let last ← Reader.current
    Reader.advance
    if last == ':' then return .group (mode.withFlags flags)
    else
      guard !flags.isEmpty
      return .flags (mode.withFlags flags)
  else return .group mode

/-- A character, an escape or an assertion. -/
def readAtom : Reader Unit := do
  match ← Reader.current with
  | '\\' => discard readEscape
  | '.' =>
    Reader.unicodeOr false
    Reader.advance
  | _ => Reader.advance

/-- How deep the contents of a group are nested, the depths of the alternatives before and the
parts of this one given from the last to the first. The cursor ends up at the closing parenthesis
or the end. -/
def readContents : Nat → List Nat → List Part → Reader Nat
  | 0, _, _ => failure
  | fuel + 1, alternatives, parts => do
    Reader.skipBlanks
    let alternative := joinedDepth (parts.map (·.depth))
    match ← Reader.rest with
    | [] | ')' :: _ => return joinedDepth (alternative :: alternatives)
    | '|' :: _ =>
      Reader.advance
      readContents fuel (alternative :: alternatives) []
    | '(' :: _ =>
      match ← readGroup with
      | .flags mode =>
        Reader.setMode mode
        readContents fuel alternatives (.flags :: parts)
      | .group mode =>
        let outer ← Reader.mode
        Reader.setMode mode
        let depth ← readContents fuel [] []
        discard Reader.current
        Reader.advance
        Reader.setMode outer
        readContents fuel alternatives (.expression (depth + 1) :: parts)
    | '[' :: _ =>
      let depth ← readBracket
      readContents fuel alternatives (.expression depth :: parts)
    | '*' :: _ | '+' :: _ | '?' :: _ =>
      let .expression depth :: others := parts | failure
      Reader.advance
      let _ ← Reader.takeAny ["?"]
      readContents fuel alternatives (.expression (depth + 1) :: others)
    | '\x7b' :: _ => failure
    | _ =>
      readAtom
      readContents fuel alternatives (.expression 0 :: parts)

/-- How deep a pattern may be nested. -/
def depthLimit : Nat :=
  250

/-- Whether the text is a pattern. -/
def isValid (text : List Char) : Bool :=
  ((readContents (text.length + 1) [] []).run ⟨text, ⟨true, false⟩, []⟩).any
    fun (depth, cursor) ↦ cursor.rest.isEmpty && depth ≤ depthLimit

end LoginThrottle.Text.Pattern
