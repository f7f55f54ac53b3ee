import LoginThrottle.Text.Ascii
import Mathlib.Data.List.Basic

/-!
Where a separator stands in a text. The first one, and the last one, show where the rest begins, so
a text falls into the part before it and the part after it in one way only. The part before the
first separator is all of the text where there is none. Pieces without a separator that are joined
by separators are found again by splitting at all of them.
-/

set_option autoImplicit false
set_option relaxedAutoImplicit false

namespace LoginThrottle.Text

variable {separator : Char} {before after before' after' : List Char}

/-- The first separator shows where the rest begins. -/
theorem append_cons_inj_of_first (hbefore : separator ∉ before) (hbefore' : separator ∉ before')
    (h : before ++ separator :: after = before' ++ separator :: after') :
    before = before' ∧ after = after' := by
  induction before generalizing before' with
  | nil =>
    cases before' with
    | nil => exact ⟨rfl, (List.cons.inj h).2⟩
    | cons c rest =>
      obtain ⟨rfl, -⟩ := List.cons.inj h
      exact absurd List.mem_cons_self hbefore'
  | cons c rest ih =>
    cases before' with
    | nil =>
      obtain ⟨rfl, -⟩ := List.cons.inj h
      exact absurd List.mem_cons_self hbefore
    | cons c' rest' =>
      obtain ⟨rfl, hrest⟩ := List.cons.inj h
      obtain ⟨rfl, rfl⟩ := ih (fun hmem ↦ hbefore (List.mem_cons_of_mem _ hmem))
        (fun hmem ↦ hbefore' (List.mem_cons_of_mem _ hmem)) hrest
      exact ⟨rfl, rfl⟩

/-- The last separator shows where the rest begins. -/
theorem append_cons_inj_of_last (hafter : separator ∉ after) (hafter' : separator ∉ after')
    (h : before ++ separator :: after = before' ++ separator :: after') :
    before = before' ∧ after = after' := by
  have hreversed : after.reverse ++ separator :: before.reverse =
      after'.reverse ++ separator :: before'.reverse := by
    simpa using congrArg List.reverse h
  obtain ⟨hsame, hsame'⟩ := append_cons_inj_of_first (mt List.mem_reverse.mp hafter)
    (mt List.mem_reverse.mp hafter') hreversed
  exact ⟨List.reverse_injective hsame', List.reverse_injective hsame⟩

/-- A text is split at its first separator, and in no other way. -/
theorem splitFirst_eq_some_iff {text : List Char} :
    splitFirst separator text = some (before, after) ↔
      text = before ++ separator :: after ∧ separator ∉ before := by
  refine ⟨splitFirst_eq_some, fun ⟨htext, hbefore⟩ ↦ ?_⟩
  cases hsplit : splitFirst separator text with
  | none =>
    have hmem : separator ∈ text := by simp [htext]
    exact absurd hmem (splitFirst_eq_none.mp hsplit)
  | some parts =>
    obtain ⟨htext', hbefore'⟩ := splitFirst_eq_some hsplit
    obtain ⟨hfront, hback⟩ := append_cons_inj_of_first hbefore' hbefore (htext'.symm.trans htext)
    rw [← hfront, ← hback]

/-- What stands before the first separator, or the whole text if there is none. -/
theorem getD_splitFirst (separator : Char) (text : List Char) :
    ((splitFirst separator text).map Prod.fst).getD text = text.takeWhile (· ≠ separator) := by
  induction text with
  | nil => rfl
  | cons c rest ih =>
    rw [splitFirst]
    by_cases hc : c = separator
    · rw [if_pos hc, List.takeWhile_cons_of_neg (by simp [hc])]
      rfl
    · rw [if_neg hc, List.takeWhile_cons_of_pos (by simp [hc]), ← ih]
      cases splitFirst separator rest <;> rfl

theorem splitAll_eq_splitOn (separator : Char) (text : List Char) :
    splitAll separator text = text.splitOn separator := by
  rw [List.splitOn_eq_splitOnP]
  induction text with
  | nil => rw [List.splitOnP_nil, splitAll]
  | cons c rest ih =>
    rw [List.splitOnP_cons_eq_if_modifyHead, splitAll, ih]
    simp only [beq_iff_eq]
    by_cases hc : c = separator
    · rw [if_pos hc, if_pos hc]
    · rw [if_neg hc, if_neg hc]
      cases hpieces : rest.splitOnP (· == separator) with
      | nil => exact absurd hpieces (List.splitOnP_ne_nil _ _)
      | cons piece pieces => rfl

/-- Pieces without a separator are found again between the separators. -/
theorem splitAll_intercalate {pieces : List (List Char)} (hne : pieces ≠ [])
    (h : ∀ piece ∈ pieces, separator ∉ piece) :
    splitAll separator ([separator].intercalate pieces) = pieces := by
  rw [splitAll_eq_splitOn, List.splitOn_intercalate separator h hne]

end LoginThrottle.Text
