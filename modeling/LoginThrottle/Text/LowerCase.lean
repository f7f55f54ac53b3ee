import LoginThrottle.Text.CaseTable

/-!
Lower-casing one character at a time, without regard to its neighbours: a final sigma is lowered
like any other sigma, and `U+0130` becomes an `i` with a dot above, two characters. `folded` is
the sequence by which account keys are compared.
-/

set_option autoImplicit false
set_option relaxedAutoImplicit false

namespace LoginThrottle.Text

/-- The lower case of one character: itself if it has none, otherwise one character, or two for
`U+0130`. -/
def lowerCase (c : Char) : List Char :=
  if c.toNat < 0x80 then [c.toLower]
  else if c.toNat = 0x130 then ['i', Char.ofNat 0x307]
  else
    match caseRuns.find? (·.covers c.toNat) with
    | some run => [Char.ofNat (c.toNat + run.offset).toNat]
    | none => [c]

def folded (text : List Char) : List Char :=
  text.flatMap lowerCase

theorem folded_append (a b : List Char) : folded (a ++ b) = folded a ++ folded b :=
  List.flatMap_append

end LoginThrottle.Text
