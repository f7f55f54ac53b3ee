import LoginThrottle.Proofs.Account.Parts

/-!
The order of the account keys, which is that of a dictionary of their folded spellings: the first
character in which two of them differ decides, and a beginning comes before what it begins. So keys
with the same folded spelling are the same key to every comparison, and of any two others one comes
before the other. A key that is made from a connection depends on its parts up to case only.
-/

set_option autoImplicit false
set_option relaxedAutoImplicit false

namespace LoginThrottle

open Std

/-! ### The dictionary -/

namespace Text

/-- The order of words in a dictionary, by the numbers of the characters. -/
def Precedes : List Char → List Char → Prop :=
  List.Lex fun c d ↦ c.toNat < d.toNat

theorem compare_char_eq_lt_iff (c d : Char) : compare c d = .lt ↔ c.toNat < d.toNat := by
  show compareOfLessAndEq c d = .lt ↔ c.toNat < d.toNat
  rw [compareOfLessAndEq_eq_lt]
  exact UInt32.lt_iff_toNat_lt

theorem compare_eq_lt_iff (one other : List Char) :
    compare one other = .lt ↔ Precedes one other := by
  induction one generalizing other with
  | nil =>
    cases other with
    | nil => simp [Precedes]
    | cons d rest' => exact iff_of_true List.compare_nil_cons List.Lex.nil
  | cons c rest ih =>
    cases other with
    | nil => simp [Precedes, List.compare_cons_nil]
    | cons d rest' =>
      rw [List.compare_cons_cons, Ordering.then_eq_lt, ih, compare_char_eq_lt_iff,
        LawfulEqOrd.compare_eq_iff_eq, Precedes, List.cons_lex_cons_iff]

end Text

/-! ### Connections up to case -/

/-- The connections have the same parts up to case; an unknown part is the same as an empty one. -/
structure SecurityContext.SameUpToCase (one other : SecurityContext) : Prop where
  proxyUser :
    Text.folded (written one.proxyUser).toList = Text.folded (written other.proxyUser).toList
  privUser : Text.folded (written one.privUser).toList = Text.folded (written other.privUser).toList
  privHost : Text.folded (written one.privHost).toList = Text.folded (written other.privHost).toList
  user : Text.folded (written one.user).toList = Text.folded (written other.user).toList
  host : Text.folded (written one.host).toList = Text.folded (written other.host).toList
  ip : Text.folded (written one.ip).toList = Text.folded (written other.ip).toList

namespace SecurityContext.SameUpToCase

variable {one other : SecurityContext}

/-- Which parts are counted depends on whether they are empty, and that does not depend on case. -/
theorem effectiveParts (h : SameUpToCase one other) :
    SameParts one.effectiveParts other.effectiveParts := by
  have hpriv : (written one.privUser ≠ "" ∨ written one.privHost ≠ "") ↔
      (written other.privUser ≠ "" ∨ written other.privHost ≠ "") := by
    rw [Ne, Ne, Text.eq_empty_iff_of_folded_eq h.privUser,
      Text.eq_empty_iff_of_folded_eq h.privHost]
  have hempty : written one.host ≠ "" ↔ written other.host ≠ "" :=
    not_congr (Text.eq_empty_iff_of_folded_eq h.host)
  unfold SecurityContext.effectiveParts
  by_cases hone : written one.privUser ≠ "" ∨ written one.privHost ≠ ""
  · rw [if_pos hone, if_pos (hpriv.mp hone)]
    exact ⟨h.privUser, h.privHost⟩
  · rw [if_neg hone, if_neg (mt hpriv.mpr hone)]
    refine ⟨h.user, ?_⟩
    by_cases hhost : written one.host ≠ ""
    · rw [if_pos hhost, if_pos (hempty.mp hhost)]
      exact h.host
    · rw [if_neg hhost, if_neg (mt hempty.mpr hhost)]
      exact h.ip

theorem accountKey_beq (h : SameUpToCase one other) :
    (one.accountKey == other.accountKey) = true := by
  have hempty : written one.proxyUser ≠ "" ↔ written other.proxyUser ≠ "" :=
    not_congr (Text.eq_empty_iff_of_folded_eq h.proxyUser)
  rw [accountKey_eq, accountKey_eq]
  by_cases hproxy : written one.proxyUser ≠ ""
  · rw [if_pos hproxy, if_pos (hempty.mp hproxy), AccountKey.beq_iff]
    exact h.proxyUser
  · rw [if_neg hproxy, if_neg (mt hempty.mpr hproxy)]
    exact AccountKey.ofParts_beq_of_sameParts h.effectiveParts

end SecurityContext.SameUpToCase

/-! ### The order -/

namespace AccountKey

theorem compare_eq_lt_iff (a b : AccountKey) :
    compare a b = .lt ↔ Text.Precedes a.folded b.folded := by
  rw [compare_def, Text.compare_eq_lt_iff]

/-- A comparison sees nothing of a key but its folded spelling. -/
theorem compare_congr {a b : AccountKey} (h : a.folded = b.folded) (c : AccountKey) :
    compare a c = compare b c ∧ compare c a = compare c b := by
  have hsame : compare a b = .eq := (compare_eq_iff a b).mpr h
  exact ⟨TransCmp.congr_left hsame, TransCmp.congr_right hsame⟩

/-- Keys are compared by their spellings, lowered character by character, in the order of a
dictionary. This is a total order in which the keys with the same lowered spelling are one, and
keys that are made of parts which are the same up to case are one. -/
theorem compare_by_folded (a b c : AccountKey) :
    compare a a = .eq
      ∧ compare b a = (compare a b).swap
      ∧ ((compare a b).isLE → (compare b a).isLE → (a == b) = true)
      ∧ ((compare a b).isLE → (compare b c).isLE → (compare a c).isLE)
      ∧ ((compare a b).isLE ∨ (compare b a).isLE)
      ∧ ((a == b) = true ↔ compare a b = .eq)
      ∧ (compare a b = .eq ↔
        a.spelling.toList.flatMap Text.lowerCase = b.spelling.toList.flatMap Text.lowerCase)
      ∧ (compare a b = .lt ↔ Text.Precedes (a.spelling.toList.flatMap Text.lowerCase)
        (b.spelling.toList.flatMap Text.lowerCase))
      ∧ (a.folded = b.folded → compare a c = compare b c ∧ compare c a = compare c b)
      ∧ (∀ one other : String × String, SameParts one other →
        (ofParts one.1 one.2 == ofParts other.1 other.2) = true)
      ∧ ∀ one other : SecurityContext, one.SameUpToCase other →
        (one.accountKey == other.accountKey) = true := by
  have hbeq : (a == b) = true ↔ compare a b = .eq := by rw [beq_iff, compare_eq_iff]
  refine ⟨ReflCmp.compare_self, OrientedCmp.eq_swap, ?_, TransCmp.isLE_trans, ?_, hbeq,
    compare_eq_iff a b, compare_eq_lt_iff a b, fun h ↦ compare_congr h c,
    fun one other h ↦ ofParts_beq_of_sameParts h, fun one other h ↦ h.accountKey_beq⟩
  · intro hab hba
    exact hbeq.mpr (OrientedCmp.isLE_antisymm hab hba)
  · by_cases hab : (compare a b).isLE = true
    · exact Or.inl hab
    · right
      rw [OrientedCmp.lt_of_not_isLE hab]
      rfl

/-- Two spellings of one key, of which one has a letter that is lowered to two characters, and a key
that comes after both. -/
theorem compare_by_folded_two_spellings :
    let a : AccountKey := ⟨"'\u0130nes'@'H'"⟩
    let b : AccountKey := ⟨"'i\u0307NES'@'h'"⟩
    let c : AccountKey := ⟨"'i\u0307nez'@'h'"⟩
    let pair : String × String := ("\u0130nes", "H")
    let pair' : String × String := ("i\u0307NES", "h")
    let one : SecurityContext := ⟨some "", none, none, some "\u0130nes", none, some "H"⟩
    let other : SecurityContext := ⟨none, some "", none, some "i\u0307NES", some "", some "h"⟩
    ((compare a b).isLE ∧ (compare b a).isLE ∧ (a == b) = true)
      ∧ ((compare b c).isLE ∧ (compare a c).isLE)
      ∧ (a.folded = b.folded ∧ compare a c = compare b c ∧ compare c a = compare c b)
      ∧ (SameParts pair pair' ∧ (ofParts pair.1 pair.2 == ofParts pair'.1 pair'.2) = true)
      ∧ one.SameUpToCase other ∧ (one.accountKey == other.accountKey) = true := by
  intro a b c pair pair' one other
  have hfolded : a.folded = b.folded := by decide +kernel
  have hparts : SameParts pair pair' := by
    constructor <;> decide +kernel
  have hcontexts : one.SameUpToCase other := by
    constructor <;> decide +kernel
  have hbc : (compare b c).isLE := by decide +kernel
  clear_value a b c pair pair' one other
  obtain ⟨-, hswap, hantisymm, htrans, -, -, heq, -, hcongr, hmade, hcounted⟩ :=
    compare_by_folded a b c
  have hsame : compare a b = .eq := heq.mpr hfolded
  have hab : (compare a b).isLE := by rw [hsame]; rfl
  have hba : (compare b a).isLE := by rw [hswap, hsame]; rfl
  exact ⟨⟨hab, hba, hantisymm hab hba⟩, ⟨hbc, htrans hab hbc⟩, ⟨hfolded, hcongr hfolded⟩,
    ⟨hparts, hmade pair pair' hparts⟩, hcontexts, hcounted one other hcontexts⟩

end AccountKey

end LoginThrottle
