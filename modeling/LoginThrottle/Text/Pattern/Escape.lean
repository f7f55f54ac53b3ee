import LoginThrottle.Text.Hexadecimal
import LoginThrottle.Text.Pattern.Cursor

/-!
What stands behind a backslash in a pattern: a character by its code, a class of characters, an
assertion about the place, or a character that would otherwise have a meaning of its own. There is
no referring back to a group.

A pattern finds whole characters only, so one about bytes must not ask for a byte, or for the
opposite of a class, that goes beyond ASCII. The assertions about words are understood of ASCII
alone.
-/

set_option autoImplicit false
set_option relaxedAutoImplicit false

namespace LoginThrottle.Text.Pattern

inductive Atom
  | literal (c : Char)
  | characterClass
  | assertion
  deriving DecidableEq, Repr

/-- The number that the next `count` hexadecimal digits add to `code`. The cursor is before them,
on the character in front. -/
def readDigits : Nat → Nat → Reader Nat
  | 0, code => return code
  | count + 1, code => do
    Reader.advanceOver
    let digit ← hexValue? (← Reader.current)
    readDigits count (16 * code + digit)

/-- A character given by a number of digits. -/
def readCode (count : Nat) : Reader Atom := do
  let code ← readDigits count 0
  Reader.advanceOver
  guard code.isValidChar
  Reader.unicodeOr (count != 2 || code < 0x80)
  return .literal (Char.ofNat code)

/-- The general categories with a name of one letter. -/
def categoryLetters : List Char :=
  ['c', 'l', 'm', 'n', 'p', 's', 'z']

/-- A class given by a general category. -/
def readCategory : Reader Atom := do
  Reader.advanceOver
  guard (categoryLetters.contains (← Reader.current).toLower)
  Reader.unicodeOr false
  Reader.advanceOver
  return .characterClass

/-- Reads on behind a letter that says all. -/
def settled (atom : Atom) : Reader Atom := do
  Reader.advance
  return atom

/-- What an escape stands for. The cursor is on its backslash. -/
def readEscape : Reader Atom := do
  Reader.advance
  match ← Reader.current with
  | 'x' => readCode 2
  | 'u' => readCode 4
  | 'U' => readCode 8
  | 'p' | 'P' => readCategory
  | 'd' | 's' | 'w' => settled .characterClass
  | 'D' | 'S' | 'W' =>
    Reader.unicodeOr false
    settled .characterClass
  | 'a' => settled (.literal '\x07')
  | 't' => settled (.literal '\t')
  | 'n' => settled (.literal '\n')
  | 'v' => settled (.literal '\x0b')
  | 'f' => settled (.literal '\x0c')
  | 'r' => settled (.literal '\r')
  | 'A' | 'z' => settled .assertion
  | 'b' | 'B' | '<' | '>' =>
    guard !(← Reader.mode).unicode
    settled .assertion
  | c =>
    guard (c.toNat < 0x80 && !c.isAlphanum)
    settled (.literal c)

end LoginThrottle.Text.Pattern
