import LoginThrottle.Ordered

/-!
What looking a key up gives after an insertion or a removal. Keys are the same when they compare
equal, so a lookup depends on a key up to that only. Ascending entries stay ascending, and among
them a lookup finds exactly the entry whose key is the same.
-/

set_option autoImplicit false
set_option relaxedAutoImplicit false

namespace LoginThrottle.Ordered

open Std

variable {κ ν : Type} [Ord κ]

/-! ### Entries -/

@[simp] theorem find?_nil (key : κ) : find? key ([] : List (κ × ν)) = none :=
  rfl

theorem find?_singleton (key k : κ) (value : ν) :
    find? key [(k, value)] = if compare key k = .eq then some value else none :=
  rfl

/-- The first key of ascending entries is before every other. -/
theorem Ascending.lt_of_mem {key : κ} {value : ν} {rest : List (κ × ν)}
    (h : Ascending ((key, value) :: rest)) {entry : κ × ν} (hentry : entry ∈ rest) :
    compare key entry.1 = .lt :=
  (List.pairwise_cons.mp h).1 entry hentry

theorem find?_eq_none {key : κ} {entries : List (κ × ν)}
    (h : ∀ entry ∈ entries, compare key entry.1 ≠ .eq) : find? key entries = none := by
  induction entries with
  | nil => rfl
  | cons entry rest ih =>
    obtain ⟨k, v⟩ := entry
    rw [find?, if_neg (h (k, v) List.mem_cons_self)]
    exact ih fun other hother ↦ h other (List.mem_cons_of_mem _ hother)

/-- An entry is there after an insertion because it was there before, or it is the new one, under
the spelling that the key had before if it had one. -/
theorem mem_upsert {key : κ} {change : Option ν → ν} {entries : List (κ × ν)} {entry : κ × ν}
    (h : entry ∈ upsert key change entries) :
    entry ∈ entries ∨ entry = (key, change none)
      ∨ ∃ value, (entry.1, value) ∈ entries ∧ compare key entry.1 = .eq
          ∧ entry.2 = change (some value) := by
  induction entries with
  | nil => exact Or.inr (Or.inl (List.mem_singleton.mp h))
  | cons first rest ih =>
    obtain ⟨k, v⟩ := first
    rw [upsert] at h
    cases hk : compare key k with
    | lt =>
      simp only [hk] at h
      rcases List.mem_cons.mp h with hnew | hold
      · exact Or.inr (Or.inl hnew)
      · exact Or.inl hold
    | eq =>
      simp only [hk] at h
      rcases List.mem_cons.mp h with hnew | hold
      · rw [hnew]
        exact Or.inr (Or.inr ⟨v, List.mem_cons_self, hk, rfl⟩)
      · exact Or.inl (List.mem_cons_of_mem _ hold)
    | gt =>
      simp only [hk] at h
      rcases List.mem_cons.mp h with hfirst | hrest
      · rw [hfirst]
        exact Or.inl List.mem_cons_self
      · rcases ih hrest with hold | hnew | ⟨value, hmem, heq, hvalue⟩
        · exact Or.inl (List.mem_cons_of_mem _ hold)
        · exact Or.inr (Or.inl hnew)
        · exact Or.inr (Or.inr ⟨value, List.mem_cons_of_mem _ hmem, heq, hvalue⟩)

theorem erase_sublist (key : κ) (entries : List (κ × ν)) : (erase key entries).Sublist entries := by
  induction entries with
  | nil => exact List.Sublist.slnil
  | cons entry rest ih =>
    obtain ⟨k, v⟩ := entry
    by_cases hk : compare key k = .eq
    · rw [erase, if_pos hk]
      exact List.sublist_cons_self _ _
    · rw [erase, if_neg hk]
      exact ih.cons_cons _

/-- Removing a key that is not there changes nothing. -/
theorem erase_of_find?_eq_none {key : κ} {entries : List (κ × ν)} (h : find? key entries = none) :
    erase key entries = entries := by
  induction entries with
  | nil => rfl
  | cons entry rest ih =>
    obtain ⟨k, v⟩ := entry
    by_cases hk : compare key k = .eq
    · rw [find?, if_pos hk] at h
      exact absurd h (by simp)
    · rw [find?, if_neg hk] at h
      rw [erase, if_neg hk, ih h]

theorem Ascending.erase {entries : List (κ × ν)} (h : Ascending entries) (key : κ) :
    Ascending (Ordered.erase key entries) :=
  h.sublist (erase_sublist key entries)

/-- Entries under other keys are not touched by a removal. -/
theorem filter_erase {key : κ} {keeps : κ → Bool}
    (h : ∀ k, compare key k = .eq → keeps k = false) (entries : List (κ × ν)) :
    (Ordered.erase key entries).filter (keeps ·.1) = entries.filter (keeps ·.1) := by
  induction entries with
  | nil => rfl
  | cons entry rest ih =>
    obtain ⟨k, v⟩ := entry
    rw [Ordered.erase]
    by_cases hk : compare key k = .eq
    · rw [if_pos hk, List.filter_cons_of_neg (by simp [h k hk])]
    · rw [if_neg hk, List.filter_cons, List.filter_cons, ih]

/-- Nor by an insertion. -/
theorem filter_upsert [ReflOrd κ] {key : κ} {keeps : κ → Bool}
    (h : ∀ k, compare key k = .eq → keeps k = false) (change : Option ν → ν)
    (entries : List (κ × ν)) :
    (upsert key change entries).filter (keeps ·.1) = entries.filter (keeps ·.1) := by
  have hself : keeps key = false := h key ReflCmp.compare_self
  induction entries with
  | nil => rw [upsert, List.filter_cons_of_neg (by simp [hself])]
  | cons entry rest ih =>
    obtain ⟨k, v⟩ := entry
    rw [upsert]
    cases hk : compare key k with
    | lt => exact List.filter_cons_of_neg (by simp [hself])
    | eq =>
      have hkey : keeps k = false := h k hk
      rw [List.filter_cons_of_neg (by simp [hkey]), List.filter_cons_of_neg (by simp [hkey])]
    | gt => simp only [List.filter_cons, ih]

section Transitive

variable [TransOrd κ]

/-! ### Lookup -/

theorem find?_congr {a b : κ} (h : compare a b = .eq) (entries : List (κ × ν)) :
    find? a entries = find? b entries := by
  induction entries with
  | nil => rfl
  | cons entry rest ih =>
    obtain ⟨k, v⟩ := entry
    simp only [find?, TransCmp.congr_left h, ih]

/-- A key that is not after the first of ascending entries is not among the others. -/
theorem Ascending.find?_rest_eq_none {key first : κ} {value : ν} {rest : List (κ × ν)}
    (h : Ascending ((first, value) :: rest)) (hkey : (compare key first).isLE) :
    find? key rest = none := by
  refine find?_eq_none fun entry hentry heq ↦ ?_
  have hlt : compare key entry.1 = .lt := TransCmp.lt_of_isLE_of_lt hkey (h.lt_of_mem hentry)
  rw [heq] at hlt
  exact absurd hlt (by decide)

/-- Nor is a key that is before the first among any of them. -/
theorem Ascending.find?_eq_none_of_lt {key first : κ} {value : ν} {rest : List (κ × ν)}
    (h : Ascending ((first, value) :: rest)) (hkey : compare key first = .lt) :
    find? key ((first, value) :: rest) = none := by
  rw [find?, if_neg (by rw [hkey]; decide)]
  exact h.find?_rest_eq_none (by rw [hkey]; rfl)

/-- Among ascending entries a lookup gives the value of the entry with the same key. -/
theorem find?_eq_some_iff {entries : List (κ × ν)} (h : Ascending entries) {key : κ} {value : ν} :
    find? key entries = some value ↔ ∃ k, (k, value) ∈ entries ∧ compare key k = .eq := by
  induction entries with
  | nil => simp
  | cons entry rest ih =>
    obtain ⟨k, v⟩ := entry
    by_cases hk : compare key k = .eq
    · rw [find?, if_pos hk]
      constructor
      · rintro ⟨rfl⟩
        exact ⟨k, List.mem_cons_self, hk⟩
      · rintro ⟨other, hmem, hother⟩
        rcases List.mem_cons.mp hmem with heq | hrest
        · rw [(Prod.mk.inj heq).2]
        · have hlt : compare k other = .lt := h.lt_of_mem hrest
          rw [TransCmp.eq_trans (OrientedCmp.eq_symm hk) hother] at hlt
          exact absurd hlt (by decide)
    · rw [find?, if_neg hk, ih (List.pairwise_cons.mp h).2]
      constructor
      · rintro ⟨other, hmem, hother⟩
        exact ⟨other, List.mem_cons_of_mem _ hmem, hother⟩
      · rintro ⟨other, hmem, hother⟩
        rcases List.mem_cons.mp hmem with heq | hrest
        · rw [(Prod.mk.inj heq).1] at hother
          exact absurd hother hk
        · exact ⟨other, hrest, hother⟩

/-! ### Insertion -/

theorem find?_upsert_of_eq {entries : List (κ × ν)} (h : Ascending entries) {other key : κ}
    (hother : compare other key = .eq) (change : Option ν → ν) :
    find? other (upsert key change entries) = some (change (find? key entries)) := by
  induction entries with
  | nil => rw [upsert, find?_singleton, if_pos hother, find?_nil]
  | cons entry rest ih =>
    obtain ⟨k, v⟩ := entry
    rw [upsert]
    cases hk : compare key k with
    | lt =>
      have hnone := h.find?_eq_none_of_lt hk
      simp only [find?, if_pos hother] at hnone ⊢
      rw [hnone]
    | eq => simp only [find?, if_pos (TransCmp.eq_trans hother hk), if_pos hk]
    | gt =>
      have hne : compare other k ≠ .eq := by
        rw [TransCmp.congr_left hother, hk]
        decide
      simp only [find?, if_neg hne, if_neg (show compare key k ≠ .eq by rw [hk]; decide)]
      exact ih (List.pairwise_cons.mp h).2

theorem find?_upsert_of_ne {other key : κ} (hother : compare other key ≠ .eq)
    (change : Option ν → ν) (entries : List (κ × ν)) :
    find? other (upsert key change entries) = find? other entries := by
  induction entries with
  | nil => rw [upsert, find?_singleton, if_neg hother, find?_nil]
  | cons entry rest ih =>
    obtain ⟨k, v⟩ := entry
    rw [upsert]
    cases hk : compare key k with
    | lt => simp only [find?, if_neg hother]
    | eq =>
      have hne : compare other k ≠ .eq := fun heq ↦
        hother (TransCmp.eq_trans heq (OrientedCmp.eq_symm hk))
      simp only [find?, if_neg hne]
    | gt => simp only [find?, ih]

/-- A key that is there keeps its spelling, and no key is new. -/
theorem exists_mem_of_mem_upsert {entries : List (κ × ν)} (h : Ascending entries) {key : κ}
    (hfind : find? key entries ≠ none) {change : Option ν → ν} {entry : κ × ν}
    (hentry : entry ∈ Ordered.upsert key change entries) :
    ∃ value, (entry.1, value) ∈ entries := by
  induction entries with
  | nil => exact absurd rfl hfind
  | cons first rest ih =>
    obtain ⟨k, v⟩ := first
    rw [Ordered.upsert] at hentry
    cases hk : compare key k with
    | lt => exact absurd (h.find?_eq_none_of_lt hk) hfind
    | eq =>
      simp only [hk] at hentry
      rcases List.mem_cons.mp hentry with rfl | hrest
      · exact ⟨v, List.mem_cons_self⟩
      · exact ⟨entry.2, List.mem_cons_of_mem _ hrest⟩
    | gt =>
      simp only [hk] at hentry
      rw [find?, if_neg (by rw [hk]; decide)] at hfind
      rcases List.mem_cons.mp hentry with rfl | hrest
      · exact ⟨v, List.mem_cons_self⟩
      · obtain ⟨value, hmem⟩ := ih (List.pairwise_cons.mp h).2 hfind hrest
        exact ⟨value, List.mem_cons_of_mem _ hmem⟩

theorem Ascending.upsert {entries : List (κ × ν)} (h : Ascending entries) (key : κ)
    (change : Option ν → ν) : Ascending (Ordered.upsert key change entries) := by
  induction entries with
  | nil => exact List.pairwise_singleton _ _
  | cons entry rest ih =>
    obtain ⟨k, v⟩ := entry
    have hrest : Ascending rest := (List.pairwise_cons.mp h).2
    rw [Ordered.upsert]
    cases hk : compare key k with
    | lt =>
      refine List.pairwise_cons.mpr ⟨fun other hother ↦ ?_, h⟩
      rcases List.mem_cons.mp hother with heq | hmem
      · rw [heq]
        exact hk
      · exact TransCmp.lt_trans hk (h.lt_of_mem hmem)
    | eq => exact List.pairwise_cons.mpr ⟨fun other hother ↦ h.lt_of_mem hother, hrest⟩
    | gt =>
      refine List.pairwise_cons.mpr ⟨fun other hother ↦ ?_, ih hrest⟩
      rcases mem_upsert hother with hold | hnew | ⟨value, hmem, -, -⟩
      · exact h.lt_of_mem hold
      · rw [hnew]
        exact OrientedCmp.gt_iff_lt.mp hk
      · have hlt : compare k (other.1, value).1 = .lt := h.lt_of_mem hmem
        exact hlt

/-! ### Removal -/

theorem find?_erase_of_eq {entries : List (κ × ν)} (h : Ascending entries) {other key : κ}
    (hother : compare other key = .eq) : find? other (erase key entries) = none := by
  induction entries with
  | nil => rfl
  | cons entry rest ih =>
    obtain ⟨k, v⟩ := entry
    by_cases hk : compare key k = .eq
    · rw [erase, if_pos hk]
      exact h.find?_rest_eq_none (by rw [TransCmp.eq_trans hother hk]; rfl)
    · rw [erase, if_neg hk, find?, if_neg (by rwa [TransCmp.congr_left hother])]
      exact ih (List.pairwise_cons.mp h).2

theorem find?_erase_of_ne {other key : κ} (hother : compare other key ≠ .eq)
    (entries : List (κ × ν)) : find? other (erase key entries) = find? other entries := by
  induction entries with
  | nil => rfl
  | cons entry rest ih =>
    obtain ⟨k, v⟩ := entry
    by_cases hk : compare key k = .eq
    · have hne : compare other k ≠ .eq := fun heq ↦
        hother (TransCmp.eq_trans heq (OrientedCmp.eq_symm hk))
      rw [erase, if_pos hk, find?, if_neg hne]
    · simp only [erase, if_neg hk, find?, ih]

end Transitive

end LoginThrottle.Ordered
