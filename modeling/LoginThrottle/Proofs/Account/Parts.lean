import LoginThrottle.Account.Context
import LoginThrottle.Proofs.Text.LowerCase
import LoginThrottle.Proofs.Text.Separator

/-!
Which user and which host an account key is made of, and when two keys made of parts are the same.
The parts are written side by side without an escape, so quotes inside them could move the
separator; they cannot if neither host has one, or neither user. Then the separator is found again
in the folded key, by its last quote or by its first, because folding brings no quote about that
was not there before. So two such keys are the same only if the users and the hosts are, up to
case.
-/

set_option autoImplicit false
set_option relaxedAutoImplicit false

namespace LoginThrottle

/-! ### Quotes and empty parts -/

namespace Text

theorem quote_mem_folded_iff (text : String) :
    '\'' ∈ folded text.toList ↔ '\'' ∈ text.toList :=
  mem_folded_iff (by constructor <;> decide)

theorem eq_empty_iff_of_folded_eq {one other : String}
    (h : folded one.toList = folded other.toList) : one = "" ↔ other = "" := by
  rw [← String.toList_eq_nil_iff, ← String.toList_eq_nil_iff, ← folded_eq_nil_iff, h,
    folded_eq_nil_iff]

end Text

/-! ### Keys made of parts -/

/-- The users are the same up to case, and so are the hosts. -/
structure SameParts (one other : String × String) : Prop where
  user : Text.folded one.1.toList = Text.folded other.1.toList
  host : Text.folded one.2.toList = Text.folded other.2.toList

/-- Neither of the hosts has a quote in it, or neither of the users. -/
def Delimited (one other : String × String) : Prop :=
  ('\'' ∉ one.2.toList ∧ '\'' ∉ other.2.toList) ∨ ('\'' ∉ one.1.toList ∧ '\'' ∉ other.1.toList)

namespace AccountKey

/-- Folding leaves the quotes and the separator where they are. -/
theorem folded_ofParts (user host : String) :
    (ofParts user host).folded =
      ['\''] ++ Text.folded user.toList ++ ['\'', '@', '\''] ++ Text.folded host.toList
        ++ ['\''] := by
  have hquote : Text.folded ['\''] = ['\''] := by decide
  have hbetween : Text.folded ['\'', '@', '\''] = ['\'', '@', '\''] := by decide
  rw [folded, ofParts, String.toList_ofList]
  simp only [Text.folded_append, hquote, hbetween]

theorem ofParts_beq_of_sameParts {one other : String × String} (h : SameParts one other) :
    (ofParts one.1 one.2 == ofParts other.1 other.2) = true := by
  rw [beq_iff, folded_ofParts, folded_ofParts, h.user, h.host]

/-- As long as the separator can be told from the quotes inside, keys made of parts are the same
only if the parts are. -/
theorem ofParts_beq_iff {one other : String × String} (h : Delimited one other) :
    (ofParts one.1 one.2 == ofParts other.1 other.2) = true ↔ SameParts one other := by
  refine ⟨fun hsame ↦ ?_, ofParts_beq_of_sameParts⟩
  rw [beq_iff, folded_ofParts, folded_ofParts] at hsame
  have hkey := List.append_cancel_right hsame
  rcases h with ⟨hone, hother⟩ | ⟨hone, hother⟩
  · have hlast : (Text.folded one.1.toList ++ ['\'', '@']) ++ '\'' :: Text.folded one.2.toList =
        (Text.folded other.1.toList ++ ['\'', '@']) ++ '\'' :: Text.folded other.2.toList := by
      simpa using hkey
    obtain ⟨huser, hhost⟩ := Text.append_cons_inj_of_last
      (mt (Text.quote_mem_folded_iff _).mp hone) (mt (Text.quote_mem_folded_iff _).mp hother) hlast
    exact ⟨List.append_cancel_right huser, hhost⟩
  · have hfirst : Text.folded one.1.toList ++ '\'' :: (['@', '\''] ++ Text.folded one.2.toList) =
        Text.folded other.1.toList ++ '\'' :: (['@', '\''] ++ Text.folded other.2.toList) := by
      simpa using hkey
    obtain ⟨huser, hhost⟩ := Text.append_cons_inj_of_first
      (mt (Text.quote_mem_folded_iff _).mp hone) (mt (Text.quote_mem_folded_iff _).mp hother) hfirst
    exact ⟨huser, List.append_cancel_left hhost⟩

end AccountKey

/-! ### The parts of a security context -/

namespace SecurityContext

/-- The part as it is written, an unknown one as the empty text. -/
def written (part : Option String) : String :=
  part.getD ""

/-- The user and the host that the session runs as, or those of the login if both are empty; the
address of the login stands in for an empty host. -/
def effectiveParts (context : SecurityContext) : String × String :=
  if written context.privUser ≠ "" ∨ written context.privHost ≠ "" then
    (written context.privUser, written context.privHost)
  else
    (written context.user,
      if written context.host ≠ "" then written context.host else written context.ip)

theorem known_eq (part : Option String) :
    known part = if written part ≠ "" then some (written part) else none := by
  cases part with
  | none => rfl
  | some text =>
    rw [known, Option.filter_some, written, Option.getD_some]
    by_cases htext : text = ""
    · simp [htext]
    · simp [htext]

theorem getD_known (part : Option String) : (known part).getD "" = written part := by
  rw [known_eq]
  split
  · rfl
  · next hempty => exact (not_not.mp hempty).symm

theorem isSome_known (part : Option String) : (known part).isSome = true ↔ written part ≠ "" := by
  rw [known_eq]
  split
  · next hwritten => exact iff_of_true rfl hwritten
  · next hempty => exact iff_of_false Bool.false_ne_true hempty

theorem parts_eq_effectiveParts (context : SecurityContext) :
    context.parts = context.effectiveParts := by
  have hhost : ((known context.host).or (known context.ip)).getD "" =
      if written context.host ≠ "" then written context.host else written context.ip := by
    rw [known_eq context.host]
    split
    · rfl
    · exact getD_known context.ip
  unfold parts effectiveParts
  simp only [Bool.or_eq_true, isSome_known, getD_known, hhost]

/-- A proxy user that is not empty is the key as it is; otherwise the key is made of parts. -/
theorem accountKey_eq (context : SecurityContext) :
    context.accountKey =
      if written context.proxyUser ≠ "" then ⟨written context.proxyUser⟩
      else .ofParts context.effectiveParts.1 context.effectiveParts.2 := by
  rw [accountKey, parts_eq_effectiveParts]
  by_cases hproxy : written context.proxyUser = ""
  · rw [known_eq, if_neg (not_not.mpr hproxy), if_neg (not_not.mpr hproxy)]
  · rw [known_eq, if_pos hproxy, if_pos hproxy]

/-- Connections without a proxy user are counted under the same key if their parts are the same. -/
theorem accountKey_beq_iff {one other : SecurityContext} (hone : written one.proxyUser = "")
    (hother : written other.proxyUser = "")
    (h : Delimited one.effectiveParts other.effectiveParts) :
    (one.accountKey == other.accountKey) = true ↔
      SameParts one.effectiveParts other.effectiveParts := by
  rw [accountKey_eq, accountKey_eq, if_neg (not_not.mpr hone), if_neg (not_not.mpr hother)]
  exact AccountKey.ofParts_beq_iff h

/-- As long as no quote in a host can be taken for one in a user, two keys made of parts, and the
keys of two connections without a proxy user, are the same exactly if the user and the host are
the same up to case. -/
theorem same_key_iff_sameParts (pair pair' : String × String) (one other : SecurityContext) :
    (Delimited pair pair' →
        ((AccountKey.ofParts pair.1 pair.2 == AccountKey.ofParts pair'.1 pair'.2) = true ↔
          SameParts pair pair'))
      ∧ (written one.proxyUser = "" → written other.proxyUser = "" →
        Delimited one.effectiveParts other.effectiveParts →
          ((one.accountKey == other.accountKey) = true ↔
            SameParts one.effectiveParts other.effectiveParts)) := by
  constructor
  · intro hdelimited
    exact AccountKey.ofParts_beq_iff hdelimited
  · intro hone hother hdelimited
    exact accountKey_beq_iff hone hother hdelimited

/-- Users with quotes in them, one with a letter that is lowered to two characters, and hosts
without: an address that stands in for a host is the same as the host of a session. -/
theorem same_key_iff_sameParts_quoted :
    let pair : String × String := ("O'Brien'@'\u0130", "DB1")
    let pair' : String × String := ("o'BRIEN'@'i\u0307", "db1")
    let one : SecurityContext := ⟨some "", none, some "", some "O'Brien", some "", some "Db1"⟩
    let other : SecurityContext := ⟨none, some "o'brien", some "dB1", some "app", none, none⟩
    Delimited pair pair' ∧ Delimited one.effectiveParts other.effectiveParts
      ∧ (AccountKey.ofParts pair.1 pair.2 == AccountKey.ofParts pair'.1 pair'.2) = true
      ∧ (one.accountKey == other.accountKey) = true
      ∧ (one.accountKey == AccountKey.ofParts pair.1 pair.2) = false := by
  intro pair pair' one other
  have hpairs : Delimited pair pair' := Or.inl (by decide +kernel)
  have hparts : Delimited one.effectiveParts other.effectiveParts := Or.inl (by decide +kernel)
  obtain ⟨hpair, hcontexts⟩ := same_key_iff_sameParts pair pair' one other
  refine ⟨hpairs, hparts, (hpair hpairs).mpr ⟨by decide +kernel, by decide +kernel⟩,
    (hcontexts rfl rfl hparts).mpr ⟨by decide +kernel, by decide +kernel⟩, ?_⟩
  -- The key of the connection is made of its parts, and the users differ.
  have hmixed : Delimited one.effectiveParts pair := Or.inl (by decide +kernel)
  have hkey : one.accountKey = .ofParts one.effectiveParts.1 one.effectiveParts.2 := rfl
  rw [hkey, ← Bool.not_eq_true,
    (same_key_iff_sameParts one.effectiveParts pair one other).1 hmixed]
  intro hsame
  exact absurd hsame.user (by decide +kernel)

/-- Where one user and the other host have quotes, the separator can be taken for one of them. -/
example : (AccountKey.ofParts "a'@'b" "c" == AccountKey.ofParts "a" "b'@'c") = true := by
  decide +kernel

end SecurityContext

end LoginThrottle
