import LoginThrottle.Proofs.Text.Blank
import LoginThrottle.Proofs.Text.Separator
import LoginThrottle.Setting.Name

/-!
Which texts are names of a setting. Read step by step, a name is trimmed, cut at its first dot,
compared with the group and looked up among the short names; what all that comes to is a grammar
of two words a setting, its short name and its full name, each in any ASCII case and with any white
space around it. `read_exactly_names` is the summary: nothing else is read, and what is not read is
given back as it was written.
-/

set_option autoImplicit false
set_option relaxedAutoImplicit false

namespace LoginThrottle.Setting

/-- Without the white space around it and with its ASCII letters lowered, the text is the short name
of the setting or the group, a dot and the short name. -/
def Names (text : List Char) (setting : Setting) : Prop :=
  ∃ core, Text.Trims text core
    ∧ (Text.asciiLower core = setting.shortName.toList
      ∨ Text.asciiLower core = group.toList ++ '.' :: setting.shortName.toList)

/-! ### The words of the grammar -/

/-- The text has no capital letter of ASCII, no dot and no white space. -/
def IsPlain (text : List Char) : Prop :=
  ∀ c ∈ text, c.toLower = c ∧ c ≠ '.' ∧ Text.isBlank c = false

theorem isPlain_of_all {text : List Char}
    (h : (text.all fun c ↦ c.toLower == c && c != '.' && !Text.isBlank c) = true) :
    IsPlain text := by
  intro c hc
  have hplain := List.all_eq_true.mp h c hc
  simpa [and_assoc] using hplain

theorem isPlain_group : IsPlain group.toList :=
  isPlain_of_all (by decide +kernel)

theorem isPlain_shortName (setting : Setting) : IsPlain setting.shortName.toList :=
  isPlain_of_all (by cases setting <;> decide +kernel)

theorem IsPlain.asciiLower_eq {text : List Char} (h : IsPlain text) : Text.asciiLower text = text :=
  (List.map_congr_left fun c hc ↦ (h c hc).1).trans (List.map_id text)

theorem IsPlain.dot_notMem {text : List Char} (h : IsPlain text) : '.' ∉ text :=
  fun hdot ↦ (h '.' hdot).2.1 rfl

theorem shortName_injective {one other : Setting}
    (h : one.shortName.toList = other.shortName.toList) : one = other := by
  have hname : one.shortName = other.shortName := String.toList_injective h
  revert hname
  cases one <;> cases other <;> simp [shortName]

theorem toList_name (setting : Setting) :
    setting.name.toList = group.toList ++ '.' :: setting.shortName.toList := by
  have hdot : ".".toList = ['.'] := rfl
  rw [name, String.toList_append, String.toList_append, hdot, List.append_assoc]
  rfl

theorem dot_mem_asciiLower_iff (text : List Char) : '.' ∈ Text.asciiLower text ↔ '.' ∈ text :=
  Text.mem_asciiLower_iff (by constructor <;> decide)

/-! ### Reading -/

theorem ofShortName?_eq_some_iff {name : List Char} {setting : Setting} :
    ofShortName? name = some setting ↔ Text.asciiLower name = setting.shortName.toList := by
  have hsame (other : Setting) : Text.asciiSame other.shortName.toList name = true ↔
      Text.asciiLower name = other.shortName.toList := by
    rw [Text.asciiSame_iff, other.isPlain_shortName.asciiLower_eq, eq_comm]
  rw [ofShortName?]
  constructor
  · intro hfound
    have hshort := List.find?_some hfound
    exact (hsame setting).mp hshort
  · intro hname
    cases hfound : all.find? fun other ↦ Text.asciiSame other.shortName.toList name with
    | none =>
      have hnone := List.find?_eq_none.mp hfound setting setting.mem_all
      exact absurd ((hsame setting).mpr hname) hnone
    | some other =>
      have hshort := List.find?_some hfound
      rw [shortName_injective (((hsame other).mp hshort).symm.trans hname)]

/-- What is before the first dot has to be the group; without a dot the name is short. -/
theorem unqualified?_eq_some_iff {name rest : List Char} :
    unqualified? name = some rest ↔
      '.' ∉ name ∧ rest = name
        ∨ ∃ qualifier, name = qualifier ++ '.' :: rest ∧ '.' ∉ qualifier
          ∧ Text.asciiLower qualifier = group.toList := by
  rw [unqualified?]
  cases hsplit : Text.splitFirst '.' name with
  | none =>
    have hnone : '.' ∉ name := Text.splitFirst_eq_none.mp hsplit
    constructor
    · intro hrest
      exact Or.inl ⟨hnone, (Option.some.inj hrest).symm⟩
    · rintro (⟨-, rfl⟩ | ⟨qualifier, rfl, -, -⟩)
      · rfl
      · exact absurd (by simp) hnone
  | some parts =>
    obtain ⟨qualifier, after⟩ := parts
    obtain ⟨hname, hqualifier⟩ := Text.splitFirst_eq_some hsplit
    have hsame : Text.asciiSame qualifier group.toList = true ↔
        Text.asciiLower qualifier = group.toList := by
      rw [Text.asciiSame_iff, isPlain_group.asciiLower_eq]
    constructor
    · intro hrest
      simp only [Option.ite_none_right_eq_some, Option.some.injEq] at hrest
      obtain ⟨hgroup, rfl⟩ := hrest
      exact Or.inr ⟨qualifier, hname, hqualifier, hsame.mp hgroup⟩
    · rintro (⟨hnone, -⟩ | ⟨other, hother, hfirst, hgroup⟩)
      · exact absurd (by simp [hname]) hnone
      · obtain ⟨rfl, rfl⟩ :=
          Text.append_cons_inj_of_first hfirst hqualifier (hother.symm.trans hname)
        simp only [if_pos (hsame.mpr hgroup)]

/-- The two steps behind the trimming accept the two words. -/
theorem unqualified?_bind_ofShortName? {core : List Char} {setting : Setting} :
    (unqualified? core).bind ofShortName? = some setting ↔
      Text.asciiLower core = setting.shortName.toList
        ∨ Text.asciiLower core = group.toList ++ '.' :: setting.shortName.toList := by
  simp only [Option.bind_eq_some_iff, unqualified?_eq_some_iff, ofShortName?_eq_some_iff]
  constructor
  · rintro ⟨rest, ⟨-, rfl⟩ | ⟨qualifier, rfl, -, hgroup⟩, hshort⟩
    · exact Or.inl hshort
    · right
      rw [Text.asciiLower_append, hgroup, ← hshort]
      rfl
  · rintro (hshort | hfull)
    · have hdot : '.' ∉ core := by
        rw [← dot_mem_asciiLower_iff, hshort]
        exact setting.isPlain_shortName.dot_notMem
      exact ⟨core, Or.inl ⟨hdot, rfl⟩, hshort⟩
    · -- The first dot of the core is where the group ends, since the group has none.
      have hdot : '.' ∈ core := by
        rw [← dot_mem_asciiLower_iff, hfull]
        simp
      cases hsplit : Text.splitFirst '.' core with
      | none => exact absurd hdot (Text.splitFirst_eq_none.mp hsplit)
      | some parts =>
        obtain ⟨qualifier, rest⟩ := parts
        obtain ⟨rfl, hqualifier⟩ := Text.splitFirst_eq_some hsplit
        have hlowered : Text.asciiLower qualifier ++ '.' :: Text.asciiLower rest =
            group.toList ++ '.' :: setting.shortName.toList := by
          rw [← hfull, Text.asciiLower_append]
          rfl
        obtain ⟨hgroup, hshort⟩ := Text.append_cons_inj_of_first
          (mt (dot_mem_asciiLower_iff qualifier).mp hqualifier) isPlain_group.dot_notMem hlowered
        exact ⟨rest, Or.inr ⟨qualifier, rfl, hqualifier, hgroup⟩, hshort⟩

theorem read_eq_ok_iff {text : String} {setting : Setting} :
    read text = .ok setting ↔ Names text.toList setting := by
  have hread : read text = .ok setting ↔
      (unqualified? (Text.trim text.toList)).bind ofShortName? = some setting := by
    rw [read]
    cases (unqualified? (Text.trim text.toList)).bind ofShortName? <;> simp
  rw [hread, unqualified?_bind_ofShortName?]
  constructor
  · intro hcore
    exact ⟨_, Text.trims_trim _, hcore⟩
  · rintro ⟨core, htrims, hcore⟩
    rwa [htrims.trim_eq]

/-- What names no setting is given back as it was written. -/
theorem read_eq_error {text : String} (h : ∀ setting, ¬ Names text.toList setting) :
    read text = .error (.unknownSetting text) := by
  cases hread : read text with
  | ok setting => exact absurd (read_eq_ok_iff.mp hread) (h setting)
  | error fault =>
    rw [read] at hread
    split at hread
    · exact absurd hread (by simp)
    · exact hread.symm

theorem isBlank_of_mem_name (setting : Setting) {c : Char} (hc : c ∈ setting.name.toList) :
    Text.isBlank c = false := by
  rw [toList_name, List.mem_append, List.mem_cons] at hc
  rcases hc with hgroup | rfl | hshort
  · exact (isPlain_group c hgroup).2.2
  · decide
  · exact (setting.isPlain_shortName c hshort).2.2

/-- The full name in any ASCII case, and with any white space around it. -/
theorem names_of_asciiLower_eq {before core after : List Char} {setting : Setting}
    (hbefore : ∀ c ∈ before, Text.isBlank c = true) (hafter : ∀ c ∈ after, Text.isBlank c = true)
    (hcore : Text.asciiLower core = setting.name.toList) :
    Names (before ++ core ++ after) setting := by
  have hplain : ∀ c ∈ core, Text.isBlank c = false := by
    intro c hc
    rw [← Text.isBlank_toLower]
    refine setting.isBlank_of_mem_name ?_
    rw [← hcore]
    exact List.mem_map_of_mem hc
  refine ⟨core, ⟨⟨before, after, rfl, hbefore, hafter⟩, ?_, ?_⟩,
    Or.inr (hcore.trans setting.toList_name)⟩
  · exact fun c hc ↦ hplain c (List.mem_of_mem_head? hc)
  · exact fun c hc ↦ hplain c (List.mem_of_mem_getLast? hc)

theorem eq_of_names {text : List Char} {one other : Setting} (hone : Names text one)
    (hother : Names text other) : one = other := by
  have hread : read (String.ofList text) = .ok one :=
    read_eq_ok_iff.mpr (by rwa [String.toList_ofList])
  have hread' : read (String.ofList text) = .ok other :=
    read_eq_ok_iff.mpr (by rwa [String.toList_ofList])
  exact Except.ok.inj (hread.symm.trans hread')

/-- A text is read as a setting exactly if it is a name of it, and is unknown as it was written if
it is a name of none. So no text names two settings, and the name that output uses is read back in
any ASCII case and with any white space around it. -/
theorem read_exactly_names (text : String) (setting : Setting) :
    (read text = .ok setting ↔ Names text.toList setting)
      ∧ ((∀ other, ¬ Names text.toList other) → read text = .error (.unknownSetting text))
      ∧ (∀ other, Names text.toList setting → Names text.toList other → setting = other)
      ∧ ∀ before core after : List Char, (∀ c ∈ before, Text.isBlank c = true) →
        (∀ c ∈ after, Text.isBlank c = true) → Text.asciiLower core = setting.name.toList →
          read (String.ofList (before ++ core ++ after)) = .ok setting := by
  refine ⟨read_eq_ok_iff, read_eq_error, fun other hone hother ↦ eq_of_names hone hother, ?_⟩
  intro before core after hbefore hafter hcore
  rw [read_eq_ok_iff, String.toList_ofList]
  exact names_of_asciiLower_eq hbefore hafter hcore

/-- White space of several kinds around a name is no part of it; a space next to the dot is. -/
theorem read_exactly_names_padded :
    let before := ['\u3000', '\t']
    let core := "Component_Connection_CONTROL.MAX_connection_delay".toList
    let after := ['\u00a0']
    let parted := "component_connection_control. max_connection_delay"
    (∀ c ∈ before, Text.isBlank c = true) ∧ (∀ c ∈ after, Text.isBlank c = true)
      ∧ Text.asciiLower core = Setting.maxDelay.name.toList
      ∧ read (String.ofList (before ++ core ++ after)) = .ok .maxDelay
      ∧ (∀ other, ¬ Names parted.toList other)
      ∧ read parted = .error (.unknownSetting parted) := by
  intro before core after parted
  have hbefore : ∀ c ∈ before, Text.isBlank c = true := List.all_eq_true.mp (by decide)
  have hafter : ∀ c ∈ after, Text.isBlank c = true := List.all_eq_true.mp (by decide)
  have hcore : Text.asciiLower core = Setting.maxDelay.name.toList := by decide +kernel
  have hparted : ∀ other, ¬ Names parted.toList other := by
    intro other hnames
    have hread : read parted = .ok other := (read_exactly_names parted other).1.mpr hnames
    have hunread : read parted = .error (.unknownSetting parted) := by decide +kernel
    exact absurd (hunread.symm.trans hread) (by simp)
  have hpadded := (read_exactly_names parted .maxDelay).2.2.2 before core after hbefore hafter hcore
  exact ⟨hbefore, hafter, hcore, hpadded, hparted,
    (read_exactly_names parted .maxDelay).2.1 hparted⟩

/-- A zero width space is no white space, and the long s no ASCII letter. -/
example : read "max_connection_delay\u200b" ≠ .ok .maxDelay
    ∧ read "failed_connection\u017f_threshold" ≠ .ok .threshold := by
  decide +kernel

end LoginThrottle.Setting
