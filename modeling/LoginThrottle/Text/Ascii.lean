/-!
Text as ASCII readers compare it: the letters `A` to `Z` stand for `a` to `z`, and every other
character, of whatever script, stands for itself alone.
-/

set_option autoImplicit false
set_option relaxedAutoImplicit false

namespace LoginThrottle.Text

/-- The text with `A` to `Z` lowered and nothing else changed. -/
def asciiLower (text : List Char) : List Char :=
  text.map Char.toLower

def asciiSame (a b : List Char) : Bool :=
  asciiLower a == asciiLower b

theorem asciiSame_iff (a b : List Char) : asciiSame a b = true ↔ asciiLower a = asciiLower b := by
  simp [asciiSame]

theorem asciiLower_append (a b : List Char) :
    asciiLower (a ++ b) = asciiLower a ++ asciiLower b :=
  List.map_append

/-- The text before the first `mark` and the text after it, or nothing if no `mark` occurs. -/
def splitFirst (mark : Char) : List Char → Option (List Char × List Char)
  | [] => none
  | c :: rest =>
    if c = mark then some ([], rest)
    else (splitFirst mark rest).map fun (before, after) ↦ (c :: before, after)

/-- The pieces of the text between the occurrences of `mark`; there is always at least one. -/
def splitAll (mark : Char) : List Char → List (List Char)
  | [] => [[]]
  | c :: rest =>
    if c = mark then [] :: splitAll mark rest
    else
      match splitAll mark rest with
      | [] => [[c]]
      | piece :: pieces => (c :: piece) :: pieces

theorem splitFirst_eq_some {mark : Char} {text before after : List Char}
    (h : splitFirst mark text = some (before, after)) :
    text = before ++ mark :: after ∧ mark ∉ before := by
  induction text generalizing before with
  | nil => simp [splitFirst] at h
  | cons c rest ih =>
    rw [splitFirst] at h
    split at h
    · next hc =>
      obtain ⟨rfl, rfl⟩ := Prod.mk.inj (Option.some.inj h)
      simp [hc]
    · next hc =>
      obtain ⟨⟨before', after'⟩, hsplit, heq⟩ := Option.map_eq_some_iff.1 h
      obtain ⟨rfl, rfl⟩ := Prod.mk.inj heq
      obtain ⟨hrest, hmark⟩ := ih hsplit
      refine ⟨by rw [hrest]; rfl, ?_⟩
      simp only [List.mem_cons, not_or]
      exact ⟨fun heq ↦ hc heq.symm, hmark⟩

theorem splitFirst_eq_none {mark : Char} {text : List Char} :
    splitFirst mark text = none ↔ mark ∉ text := by
  induction text with
  | nil => simp [splitFirst]
  | cons c rest ih =>
    rw [splitFirst]
    split
    · next hc => simp [hc]
    · next hc =>
      rw [Option.map_eq_none_iff, ih, List.mem_cons, not_or]
      exact ⟨fun h ↦ ⟨fun heq ↦ hc heq.symm, h⟩, fun h ↦ h.2⟩

end LoginThrottle.Text
