import LoginThrottle.Proofs.Text.LowerCase
import LoginThrottle.Text.Blank
import Mathlib.Data.List.DropRight

/-!
What trimming leaves of a text: the one part of it that has nothing but white space around it and
neither begins nor ends with any.
-/

set_option autoImplicit false
set_option relaxedAutoImplicit false

namespace LoginThrottle.Text

/-- The core is the text without the white space around it. -/
structure Trims (text core : List Char) : Prop where
  padded : ∃ before after, text = before ++ core ++ after
    ∧ (∀ c ∈ before, isBlank c = true) ∧ ∀ c ∈ after, isBlank c = true
  first : ∀ c ∈ core.head?, isBlank c = false
  last : ∀ c ∈ core.getLast?, isBlank c = false

theorem trim_eq_rdropWhile (text : List Char) :
    trim text = (text.dropWhile isBlank).rdropWhile isBlank :=
  rfl

theorem trims_trim (text : List Char) : Trims text (trim text) := by
  rw [trim_eq_rdropWhile]
  constructor
  · refine ⟨text.takeWhile isBlank, (text.dropWhile isBlank).rtakeWhile isBlank, ?_, ?_, ?_⟩
    · rw [List.append_assoc, List.rdropWhile_append_rtakeWhile, List.takeWhile_append_dropWhile]
    · exact fun c hc ↦ List.mem_takeWhile_imp hc
    · exact fun c hc ↦ List.mem_rtakeWhile_imp hc
  · intro c hc
    -- What is left after the white space at the end has gone begins as before.
    obtain ⟨rest, hrest⟩ := List.rdropWhile_prefix isBlank (l := text.dropWhile isBlank)
    have hfirst := List.head?_dropWhile_not isBlank text
    rw [← hrest, List.head?_append, Option.mem_def.mp hc] at hfirst
    exact hfirst
  · intro c hc
    obtain ⟨hne, hlast⟩ := List.mem_getLast?_eq_getLast hc
    have hstop := List.rdropWhile_last_not isBlank (text.dropWhile isBlank) hne
    rw [← hlast] at hstop
    exact Bool.eq_false_iff.mpr hstop

/-- White space is dropped up to the first character that is none. -/
theorem dropWhile_blanks_append {blanks rest : List Char} (hblanks : ∀ c ∈ blanks, isBlank c = true)
    (hrest : ∀ c ∈ rest.head?, isBlank c = false) : (blanks ++ rest).dropWhile isBlank = rest := by
  rw [List.dropWhile_append_of_pos hblanks]
  cases rest with
  | nil => rfl
  | cons c rest => rw [List.dropWhile_cons_of_neg (by simp [hrest c rfl])]

theorem Trims.trim_eq {text core : List Char} (h : Trims text core) : trim text = core := by
  obtain ⟨before, after, rfl, hbefore, hafter⟩ := h.padded
  have hback : (after.reverse ++ core.reverse).dropWhile isBlank = core.reverse := by
    refine dropWhile_blanks_append (fun c hc ↦ hafter c (List.mem_reverse.mp hc)) ?_
    rw [List.head?_reverse]
    exact h.last
  rw [trim, List.append_assoc]
  cases core with
  | nil =>
    have hall : ∀ c ∈ before ++ ([] ++ after), isBlank c = true := by
      intro c hc
      rcases List.mem_append.mp hc with hc | hc
      · exact hbefore c hc
      · exact hafter c hc
    rw [List.dropWhile_eq_nil_iff.mpr hall]
    rfl
  | cons c rest =>
    rw [dropWhile_blanks_append hbefore (by simpa using h.first), List.reverse_append, hback,
      List.reverse_reverse]

/-- Lowering ASCII letters makes no white space and takes none away. -/
theorem isBlank_toLower (c : Char) : isBlank c.toLower = isBlank c := by
  rcases toLower_cases c with heq | ⟨hlow, hhigh, hlower⟩
  · rw [heq]
  · simp only [isBlank, hlower]
    grind

theorem trims_iff {text core : List Char} : Trims text core ↔ trim text = core :=
  ⟨Trims.trim_eq, fun h ↦ h ▸ trims_trim text⟩

end LoginThrottle.Text
