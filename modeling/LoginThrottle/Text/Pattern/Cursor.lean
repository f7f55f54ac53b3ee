import LoginThrottle.Text.Blank

/-!
A place in a pattern that is being read, and how the pattern is read from there on. In verbose
mode blanks stand for nothing, and neither do comments, which run from a hash sign to the end of
the line. A reader fails where a pattern goes wrong.
-/

set_option autoImplicit false
set_option relaxedAutoImplicit false

namespace LoginThrottle.Text.Pattern

/-- Whether a pattern is about characters, rather than bytes, and whether it is read verbosely. -/
structure Mode where
  unicode : Bool
  verbose : Bool
  deriving DecidableEq, Repr

/-- What is left to read of a pattern, how it is read, and the names given to groups so far. -/
structure Cursor where
  rest : List Char
  mode : Mode
  names : List (List Char)
  deriving DecidableEq, Repr

abbrev Reader (α : Type) :=
  StateT Cursor Option α

/-- The text behind the blanks and comments that it begins with. -/
def dropBlanks (inComment : Bool) : List Char → List Char
  | [] => []
  | c :: rest =>
    if inComment then dropBlanks (c != '\n') rest
    else if isBlank c then dropBlanks false rest
    else if c == '#' then dropBlanks true rest
    else c :: rest

namespace Reader

def mode : Reader Mode :=
  return (← get).mode

def setMode (mode : Mode) : Reader Unit :=
  modify ({ · with mode })

def rest : Reader (List Char) :=
  return (← get).rest

def setRest (rest : List Char) : Reader Unit :=
  modify ({ · with rest })

/-- Fails unless the pattern is about characters or `condition` holds. -/
def unicodeOr (condition : Bool) : Reader Unit := do
  guard ((← mode).unicode || condition)

/-- The next character, which there has to be. -/
def current : Reader Char := do
  (← rest).head?

def advance : Reader Unit := do
  setRest (← rest).tail

/-- Passes over what stands for nothing here. -/
def skipBlanks : Reader Unit := do
  if (← mode).verbose then setRest (dropBlanks false (← rest))

/-- Passes over a character and what stands for nothing behind it. -/
def advanceOver : Reader Unit := do
  advance
  skipBlanks

/-- Passes over the first of the words that is next, if any is. -/
def takeAny (words : List String) : Reader Bool := do
  let text ← rest
  match words.find? (·.toList.isPrefixOf text) with
  | some word =>
    setRest (text.drop word.length)
    return true
  | none => return false

/-- The character behind the next one and behind the blanks there. Of a comment only the mark is
passed over. -/
def behindCurrent? : Reader (Option Char) := do
  let behind := (← rest).tail
  if (← mode).verbose then
    match behind.dropWhile isBlank with
    | '#' :: comment => return (comment.dropWhile isBlank).head?
    | text => return text.head?
  else return behind.head?

end Reader

end LoginThrottle.Text.Pattern
