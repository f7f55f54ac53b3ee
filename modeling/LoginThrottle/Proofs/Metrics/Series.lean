import LoginThrottle.Metrics.Series
import Mathlib.Data.List.Induction

/-!
What the series of a metric show after any calls. A collector says by which fingerprint the series
of a call is found, which labels it shows, and what the call makes of its value. As long as the
fingerprints keep apart just the calls that the labels keep apart, every series shows the labels of
a call and what all calls with these labels have made of its value, and every call has a series.

`Gathered.note` carries this over one call, and `gathered_foldl_note` over all of them.
-/

set_option autoImplicit false
set_option relaxedAutoImplicit false

namespace LoginThrottle

namespace Series

variable {κ ν : Type}

theorem mem_insert_iff {new one : Series κ ν} {series : List (Series κ ν)} :
    one ∈ insert new series ↔ one = new ∨ one ∈ series := by
  induction series with
  | nil => simp [insert]
  | cons other rest ih =>
    rw [insert]
    split
    · simp
    · simp only [List.mem_cons, ih]
      exact or_left_comm

/-- All that an update makes of the series: those with another fingerprint stay, those with this one
change their value, and if there are none of them a new one is added. -/
theorem mem_update_iff [DecidableEq κ] {fingerprint : κ} {labels : List String}
    {change : Option ν → ν} {series : List (Series κ ν)} {one : Series κ ν} :
    one ∈ update fingerprint labels change series ↔
      (one ∈ series ∧ one.fingerprint ≠ fingerprint) ∨
        (∃ old ∈ series, old.fingerprint = fingerprint ∧
          one = { old with value := change (some old.value) }) ∨
        ((∀ old ∈ series, old.fingerprint ≠ fingerprint) ∧
          one = ⟨fingerprint, labels, change none⟩) := by
  rw [update]
  split
  next hany =>
    obtain ⟨hit, hhit, hprint⟩ : ∃ hit ∈ series, hit.fingerprint = fingerprint := by
      simpa using hany
    have hsome : ¬∀ old ∈ series, old.fingerprint ≠ fingerprint := fun h ↦ h hit hhit hprint
    simp only [List.mem_map, beq_iff_eq, hsome, false_and, or_false]
    constructor
    · rintro ⟨old, hold, rfl⟩
      by_cases hsame : old.fingerprint = fingerprint
      · exact .inr ⟨old, hold, hsame, if_pos hsame⟩
      · exact .inl (by simpa [hsame] using hold)
    · rintro (⟨hone, hother⟩ | ⟨old, hold, hsame, rfl⟩)
      · exact ⟨one, hone, if_neg hother⟩
      · exact ⟨old, hold, if_pos hsame⟩
  next hany =>
    have hnone : ∀ old ∈ series, old.fingerprint ≠ fingerprint := by simpa using hany
    rw [mem_insert_iff]
    constructor
    · rintro (rfl | hone)
      · exact .inr (.inr ⟨hnone, rfl⟩)
      · exact .inl ⟨hone, hnone one hone⟩
    · rintro (⟨hone, -⟩ | ⟨old, hold, hsame, -⟩ | ⟨-, rfl⟩)
      · exact .inr hone
      · exact absurd hsame (hnone old hold)
      · exact .inl rfl

end Series

/-- What the series of a metric make of a call: the fingerprint they are found by, the labels they
show, the value they start with, and how the call changes it. -/
structure Collector (α κ ν : Type) where
  print : α → κ
  labels : α → List String
  start : ν
  grow : ν → α → ν

namespace Collector

variable {α κ ν : Type}

/-- The fingerprints keep apart the calls that the labels keep apart, and no others. -/
def Apart (collector : Collector α κ ν) (calls : List α) : Prop :=
  ∀ first ∈ calls, ∀ second ∈ calls,
    collector.print first = collector.print second
      ↔ collector.labels first = collector.labels second

/-- What the calls with these labels make of the value, one after the other. -/
def grown (collector : Collector α κ ν) (labels : List String) (calls : List α) : ν :=
  (calls.filter fun call ↦ collector.labels call = labels).foldl collector.grow collector.start

theorem grown_snoc_self (collector : Collector α κ ν) (calls : List α) (call : α) :
    collector.grown (collector.labels call) (calls ++ [call])
      = collector.grow (collector.grown (collector.labels call) calls) call := by
  simp [grown]

theorem grown_snoc_of_ne (collector : Collector α κ ν) {labels : List String} (calls : List α)
    {call : α} (h : collector.labels call ≠ labels) :
    collector.grown labels (calls ++ [call]) = collector.grown labels calls := by
  simp [grown, h]

theorem grown_of_not_mem (collector : Collector α κ ν) {labels : List String} {calls : List α}
    (h : ∀ call ∈ calls, collector.labels call ≠ labels) :
    collector.grown labels calls = collector.start := by
  have hnone : (calls.filter fun call ↦ collector.labels call = labels) = [] := by simpa using h
  rw [grown, hnone, List.foldl_nil]

/-- The series stand for the calls. -/
structure Gathered (collector : Collector α κ ν) (calls : List α) (series : List (Series κ ν)) :
    Prop where
  origin : ∀ one ∈ series, ∃ call ∈ calls,
    one.fingerprint = collector.print call ∧ one.labels = collector.labels call
  value : ∀ one ∈ series, one.value = collector.grown one.labels calls
  present : ∀ call ∈ calls, ∃ one ∈ series, one.labels = collector.labels call

/-- A series is found for a call exactly if it shows the labels of the call. -/
theorem Gathered.fingerprint_eq_iff {collector : Collector α κ ν} {calls : List α}
    {series : List (Series κ ν)} {call : α} (h : collector.Gathered calls series)
    (apart : collector.Apart (calls ++ [call])) {one : Series κ ν} (hone : one ∈ series) :
    one.fingerprint = collector.print call ↔ one.labels = collector.labels call := by
  obtain ⟨earlier, hearlier, hprint, hlabels⟩ := h.origin one hone
  rw [hprint, hlabels]
  exact apart earlier (List.mem_append_left _ hearlier) call (by simp)

theorem gathered_nil (collector : Collector α κ ν) : collector.Gathered [] [] where
  origin := by simp
  value := by simp
  present := by simp

variable [DecidableEq κ]

/-- One more call. -/
def note (collector : Collector α κ ν) (series : List (Series κ ν)) (call : α) :
    List (Series κ ν) :=
  Series.update (collector.print call) (collector.labels call)
    (fun value? ↦ collector.grow (value?.getD collector.start) call) series

theorem Gathered.note {collector : Collector α κ ν} {calls : List α} {series : List (Series κ ν)}
    {call : α} (h : collector.Gathered calls series) (apart : collector.Apart (calls ++ [call])) :
    collector.Gathered (calls ++ [call]) (collector.note series call) := by
  have hlast : call ∈ calls ++ [call] := by simp
  have hfound (one : Series κ ν) (hone : one ∈ series) := h.fingerprint_eq_iff apart hone
  have horigin : ∀ one ∈ series, ∃ other ∈ calls ++ [call],
      one.fingerprint = collector.print other ∧ one.labels = collector.labels other := by
    intro one hone
    obtain ⟨earlier, hearlier, hshown⟩ := h.origin one hone
    exact ⟨earlier, List.mem_append_left _ hearlier, hshown⟩
  -- Each part by what an update can do with a series: leave it, change it or add it.
  constructor
  · intro one hone
    rcases Series.mem_update_iff.mp hone with ⟨hold, -⟩ | ⟨old, hold, -, rfl⟩ | ⟨-, rfl⟩
    · exact horigin one hold
    · exact horigin old hold
    · exact ⟨call, hlast, rfl, rfl⟩
  · intro one hone
    rcases Series.mem_update_iff.mp hone with
      ⟨hold, hother⟩ | ⟨old, hold, hsame, rfl⟩ | ⟨hnone, rfl⟩
    · have hlabels : collector.labels call ≠ one.labels :=
        fun hlabels ↦ hother ((hfound one hold).mpr hlabels.symm)
      rw [grown_snoc_of_ne _ _ hlabels, h.value one hold]
    · have hlabels : old.labels = collector.labels call := (hfound old hold).mp hsame
      have hvalue : old.value = collector.grown (collector.labels call) calls :=
        hlabels ▸ h.value old hold
      rw [hlabels, grown_snoc_self, hvalue, Option.getD_some]
    · have hfirst : ∀ earlier ∈ calls, collector.labels earlier ≠ collector.labels call := by
        intro earlier hearlier hlabels
        obtain ⟨one, hone, hshown⟩ := h.present earlier hearlier
        exact hnone one hone ((hfound one hone).mpr (hshown.trans hlabels))
      rw [grown_snoc_self, grown_of_not_mem _ hfirst, Option.getD_none]
  · intro other hother
    by_cases hshown : ∃ one ∈ series, one.labels = collector.labels other
    · obtain ⟨one, hone, hlabels⟩ := hshown
      by_cases hsame : one.fingerprint = collector.print call
      · exact ⟨_, Series.mem_update_iff.mpr (.inr (.inl ⟨one, hone, hsame, rfl⟩)), hlabels⟩
      · exact ⟨one, Series.mem_update_iff.mpr (.inl ⟨hone, hsame⟩), hlabels⟩
    · have hnow : other = call := by
        rcases List.mem_append.mp hother with hearlier | hnow
        · exact absurd (h.present other hearlier) hshown
        · exact List.mem_singleton.mp hnow
      have hnone : ∀ old ∈ series, old.fingerprint ≠ collector.print call :=
        fun old hold hsame ↦ hshown ⟨old, hold, hnow ▸ (hfound old hold).mp hsame⟩
      exact ⟨_, Series.mem_update_iff.mpr (.inr (.inr ⟨hnone, rfl⟩)), hnow ▸ rfl⟩

theorem gathered_foldl_note (collector : Collector α κ ν) {calls : List α}
    (apart : collector.Apart calls) : collector.Gathered calls (calls.foldl collector.note []) := by
  induction calls using List.reverseRecOn with
  | nil => exact gathered_nil collector
  | append_singleton calls call ih =>
    have hbefore : collector.Apart calls := fun first hfirst second hsecond ↦
      apart first (List.mem_append_left _ hfirst) second (List.mem_append_left _ hsecond)
    rw [List.foldl_append, List.foldl_cons, List.foldl_nil]
    exact (ih hbefore).note apart

end Collector

end LoginThrottle
