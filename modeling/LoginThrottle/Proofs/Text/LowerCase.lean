import LoginThrottle.Text.Ascii
import LoginThrottle.Text.LowerCase
import Mathlib.Data.List.Basic

/-!
Which characters lower-casing can bring about. Every character is lowered to at least one, and a
mark, which is an ASCII character before the letters, to nothing but itself; no other character,
of whatever script, is lowered to anything with a mark in it. So a text has the marks of its folded
form, and it is empty only if that is.
-/

set_option autoImplicit false
set_option relaxedAutoImplicit false

namespace LoginThrottle.Text

theorem lowerCase_ne_nil (c : Char) : lowerCase c ≠ [] := by
  unfold lowerCase
  split
  · simp
  · split
    · simp
    · split <;> simp

theorem folded_eq_nil_iff {text : List Char} : folded text = [] ↔ text = [] := by
  constructor
  · intro h
    have hnone : ∀ c ∈ text, lowerCase c = [] := List.flatMap_eq_nil_iff.mp h
    exact List.eq_nil_iff_forall_not_mem.mpr fun c hc ↦ lowerCase_ne_nil c (hnone c hc)
  · rintro rfl
    rfl

/-! ### Marks -/

/-- The ASCII characters before the letters. The character with number zero is not one of them,
since it stands in for numbers that are no character's. -/
def IsMark (c : Char) : Prop :=
  0 < c.toNat ∧ c.toNat < 'A'.toNat

/-- A run leads to letters. -/
theorem le_of_covers {run : CaseRun} (hrun : run ∈ caseRuns) {code : Nat}
    (hcode : run.covers code = true) : ('A'.toNat : Int) ≤ code + run.offset := by
  have hruns : ∀ run ∈ caseRuns, ('A'.toNat : Int) ≤ run.first + run.offset := by
    decide +kernel
  have hfirst : run.first ≤ code := by
    rw [CaseRun.covers, Bool.and_eq_true, Bool.and_eq_true, decide_eq_true_eq] at hcode
    exact hcode.1.1
  have hletter := hruns run hrun
  omega

/-- A number is that of its character, or of none. -/
theorem toNat_ofNat_cases (code : Nat) :
    (Char.ofNat code).toNat = code ∨ (Char.ofNat code).toNat = 0 := by
  by_cases hvalid : code.isValidChar
  · rw [Char.ofNat, dif_pos hvalid]
    exact Or.inl rfl
  · rw [Char.ofNat, dif_neg hvalid]
    exact Or.inr rfl

theorem not_isMark_ofNat {code : Nat} (h : 'A'.toNat ≤ code) : ¬ IsMark (Char.ofNat code) := by
  rintro ⟨hpos, hlt⟩
  rcases toNat_ofNat_cases code with hcode | hcode
  · omega
  · omega

/-- A letter from `A` to `Z` is lowered, and nothing else changes. -/
theorem toLower_cases (c : Char) :
    c.toLower = c ∨ 65 ≤ c.toNat ∧ c.toNat ≤ 90 ∧ c.toLower.toNat = c.toNat + 32 := by
  unfold Char.toLower
  split
  · next hletter =>
    have hlow : 65 ≤ c.toNat := hletter.1
    have hhigh : c.toNat ≤ 90 := hletter.2
    have hlower : (c.val + 32).toNat = c.toNat + 32 := by
      rw [UInt32.toNat_add]
      exact Nat.mod_eq_of_lt (show c.toNat + 32 < 2 ^ 32 by omega)
    exact Or.inr ⟨hlow, hhigh, hlower⟩
  · exact Or.inl rfl

theorem toLower_eq_iff {c mark : Char} (hmark : IsMark mark) : c.toLower = mark ↔ c = mark := by
  rcases toLower_cases c with heq | ⟨hlow, -, hlower⟩
  · rw [heq]
  · have hsmall : mark.toNat < 65 := hmark.2
    refine iff_of_false ?_ ?_
    · rintro rfl
      omega
    · rintro rfl
      omega

theorem mem_asciiLower_iff {text : List Char} {mark : Char} (hmark : IsMark mark) :
    mark ∈ asciiLower text ↔ mark ∈ text := by
  rw [asciiLower, List.mem_map]
  constructor
  · rintro ⟨c, hc, hlower⟩
    exact (toLower_eq_iff hmark).mp hlower ▸ hc
  · intro hmem
    exact ⟨mark, hmem, (toLower_eq_iff hmark).mpr rfl⟩

/-- Only the mark itself is lowered to something with the mark in it. -/
theorem mem_lowerCase_iff {c mark : Char} (hmark : IsMark mark) :
    mark ∈ lowerCase c ↔ c = mark := by
  have hascii : mark.toNat < 0x80 := Nat.lt_trans hmark.2 (by decide)
  unfold lowerCase
  split
  · rw [List.mem_singleton, eq_comm, toLower_eq_iff hmark]
  · next hlarge =>
    -- The character is not in ASCII, so it is not the mark.
    have hne : c ≠ mark := by
      rintro rfl
      exact hlarge hascii
    refine iff_of_false ?_ hne
    split
    · intro hmem
      rcases List.mem_pair.mp hmem with rfl | rfl
      · exact absurd hmark.2 (by decide)
      · exact absurd hmark.2 (by decide)
    · split
      · next run hfound =>
        rw [List.mem_singleton]
        rintro rfl
        have hcovers := List.find?_some hfound
        have hletter := le_of_covers (List.mem_of_find?_eq_some hfound) hcovers
        exact not_isMark_ofNat (by omega) hmark
      · rw [List.mem_singleton]
        exact hne.symm

theorem mem_folded_iff {text : List Char} {mark : Char} (hmark : IsMark mark) :
    mark ∈ folded text ↔ mark ∈ text := by
  rw [folded, List.mem_flatMap]
  constructor
  · rintro ⟨c, hc, hmem⟩
    exact (mem_lowerCase_iff hmark).mp hmem ▸ hc
  · intro hmem
    exact ⟨mark, hmem, (mem_lowerCase_iff hmark).mpr rfl⟩

end LoginThrottle.Text
