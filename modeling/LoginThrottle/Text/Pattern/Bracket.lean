import LoginThrottle.Text.Ascii
import LoginThrottle.Text.Pattern.Escape

/-!
Classes of characters in brackets. The members of a class are characters, ranges, escaped classes,
named classes and further classes in brackets; `&&`, `--` and `~~` stand between sets of members. A
closing bracket that comes first is a member, and so is a minus that comes first or last.
-/

set_option autoImplicit false
set_option relaxedAutoImplicit false

namespace LoginThrottle.Text.Pattern

/-- How deep parts that stand side by side are nested. One that stands alone is not nested. -/
def joinedDepth : List Nat → Nat
  | [] => 0
  | [depth] => depth
  | depths => depths.foldl max 0 + 1

/-- How deep the operands of an operator are nested, if there is one. -/
def operatorDepth (left? : Option Nat) (right : Nat) : Nat :=
  left?.elim right fun left ↦ max left right + 1

def classNames : List String :=
  ["alnum", "alpha", "ascii", "blank", "cntrl", "digit", "graph", "lower", "print", "punct",
    "space", "upper", "word", "xdigit"]

/-- Whether a named class that the text begins with is negated, and the text behind it. -/
def namedClass? : List Char → Option (Bool × List Char)
  | '[' :: ':' :: text =>
    let (negated, text) :=
      match text with
      | '^' :: text => (true, text)
      | text => (false, text)
    match splitFirst ':' text with
    | some (name, ']' :: rest) =>
      if classNames.any (·.toList == name) then some (negated, rest) else none
    | _ => none
  | _ => none

/-- The minus signs that are members because they come first. -/
def readMinuses : Nat → List Nat → Reader (List Nat)
  | 0, _ => failure
  | fuel + 1, members => do
    if (← Reader.current) == '-' then
      Reader.advanceOver
      readMinuses fuel (0 :: members)
    else return members

/-- The members that a class begins with whatever follows. The cursor is on its opening bracket. -/
def readOpening : Reader (List Nat) := do
  Reader.advanceOver
  if (← Reader.current) == '^' then
    Reader.unicodeOr false
    Reader.advanceOver
  let members ← readMinuses (← Reader.rest).length []
  if members.isEmpty && (← Reader.current) == ']' then
    Reader.advanceOver
    discard Reader.current
    return [0]
  else return members

/-- One member, or one end of a range. -/
def readEnd : Reader Atom := do
  let atom ←
    if (← Reader.current) == '\\' then readEscape
    else
      let c ← Reader.current
      Reader.advance
      pure (.literal c)
  match atom with
  | .literal c => Reader.unicodeOr (c.toNat < 0x80)
  | .characterClass => return atom
  | .assertion => failure
  return atom

/-- A member that is a character, an escaped class or a range. -/
def readRange : Reader Unit := do
  let first ← readEnd
  Reader.skipBlanks
  let isRange := (← Reader.current) == '-'
    && !([some ']', some '-'].contains (← Reader.behindCurrent?))
  if isRange then
    Reader.advanceOver
    discard Reader.current
    match first, ← readEnd with
    | .literal low, .literal high => guard (low ≤ high)
    | _, _ => failure

/-- How deep the members of a class are nested, the depths of those before the cursor given from
the last to the first, with that of what is before the last operator. The cursor ends up behind the
closing bracket. -/
def readMembers : Nat → List Nat → Option Nat → Reader Nat
  | 0, _, _ => failure
  | fuel + 1, members, left? => do
    Reader.skipBlanks
    let text ← Reader.rest
    match text with
    | [] => failure
    | ']' :: rest =>
      Reader.setRest rest
      return operatorDepth left? (joinedDepth members)
    | '&' :: '&' :: rest | '-' :: '-' :: rest | '~' :: '~' :: rest =>
      Reader.setRest rest
      readMembers fuel [] (some (operatorDepth left? (joinedDepth members)))
    | '[' :: _ =>
      match namedClass? text with
      | some (negated, rest) =>
        Reader.unicodeOr !negated
        Reader.setRest rest
        readMembers fuel (0 :: members) left?
      | none =>
        let depth ← readMembers fuel (← readOpening) none
        readMembers fuel ((depth + 1) :: members) left?
    | _ =>
      readRange
      readMembers fuel (0 :: members) left?

/-- How deep a class is nested. The cursor is on its opening bracket and ends up behind the closing
one. -/
def readBracket : Reader Nat := do
  let members ← readOpening
  let depth ← readMembers ((← Reader.rest).length + 1) members none
  return depth + 1

end LoginThrottle.Text.Pattern
