import LoginThrottle.Metrics
import LoginThrottle.Proofs.Metrics.Durations
import LoginThrottle.Proofs.Metrics.Series
import LoginThrottle.Proofs.Text.Decimal

/-!
The samples that the two families about served requests show, and the numbers found in them by name
and labels. One family is collected by method, route and status, the other by method and route, and
the samples are stated for any series that stand for some requests: `requestNumber_eq` for the count
of requests, `sampleCount_eq`, `bucketCount_whole_eq` and `bucketCount_bound_eq` for the histograms.
-/

set_option autoImplicit false
set_option relaxedAutoImplicit false

namespace LoginThrottle

/-! ### A number in a family -/

namespace Exposition.Family

/-- The number in the sample with this name and these labels, 0 if there is no such sample. -/
def number (family : Family) (name : String) (labels : List (String × String)) : Nat :=
  ((family.samples.find? fun sample ↦ sample.name = name ∧ sample.labels = labels).bind
    fun sample ↦ Text.readNat? sample.value.toList).getD 0

theorem number_eq {family : Family} {name : String} {labels : List (String × String)} {n : Nat}
    (hvalue : ∀ sample ∈ family.samples, sample.name = name → sample.labels = labels →
      sample.value = Text.ofNat n)
    (hshown : n ≠ 0 → ∃ sample ∈ family.samples, sample.name = name ∧ sample.labels = labels) :
    family.number name labels = n := by
  rw [number]
  cases hfind : family.samples.find? fun sample ↦ sample.name = name ∧ sample.labels = labels with
  | none =>
    by_contra hn
    obtain ⟨sample, hmem, hname, hlabels⟩ := hshown fun h ↦ hn h.symm
    exact List.find?_eq_none.mp hfind sample hmem (decide_eq_true ⟨hname, hlabels⟩)
  | some sample =>
    obtain ⟨hname, hlabels⟩ : sample.name = name ∧ sample.labels = labels := by
      simpa using List.find?_some hfind
    rw [Option.bind_some, hvalue sample (List.mem_of_find?_eq_some hfind) hname hlabels,
      Text.readNat?_ofNat, Option.getD_some]

end Exposition.Family

namespace Traffic

open Exposition Metrics

variable {κ : Type}

/-- The count of requests by its labels. -/
def requestNumber (traffic : Traffic κ) (method : String) (status : Nat) (route : String) : Nat :=
  (requestFamily traffic).number "http_requests_total"
    [("method", method), ("route", route), ("status", Text.ofNat status)]

/-- The count of samples of a histogram. -/
def sampleCount (traffic : Traffic κ) (method route : String) : Nat :=
  (durationFamily traffic).number (durationName ++ "_count") [("method", method), ("route", route)]

/-- The cumulative count of a bucket of a histogram, found by the text of its bound. -/
def bucketCount (traffic : Traffic κ) (method route bound : String) : Nat :=
  (durationFamily traffic).number (durationName ++ "_bucket")
    [("method", method), ("route", route), ("le", bound)]

/-! ### What is collected -/

def requestCollector (print : List String → κ) : Collector Served κ Nat where
  print call := print call.requestValues
  labels := Served.requestLabels
  start := 0
  grow count _ := count + 1

def durationCollector (print : List String → κ) : Collector Served κ Durations where
  print call := print call.durationLabels
  labels := Served.durationLabels
  start := .empty
  grow durations call := durations.observe call.duration

/-- The lengths of the requests with these labels. -/
def lengths (labels : List String) (calls : List Served) : List Duration :=
  (calls.filter fun call ↦ call.durationLabels = labels).map (·.duration)

theorem countP_lengths (method route : String) (calls : List Served) (limit : Duration) :
    (lengths [method, route] calls).countP (fun duration ↦ duration ≤ limit)
      = calls.countP fun call ↦
          call.method = method ∧ call.route = route ∧ call.duration ≤ limit := by
  rw [lengths, List.countP_map, List.countP_filter]
  exact List.countP_congr fun call _ ↦ by
    simp [Served.durationLabels, and_comm, and_assoc]

theorem length_lengths (method route : String) (calls : List Served) :
    (lengths [method, route] calls).length
      = calls.countP fun call ↦ call.method = method ∧ call.route = route := by
  rw [lengths, List.length_map, ← List.countP_eq_length_filter]
  simp [Served.durationLabels]

theorem grown_requestCollector (print : List String → κ) (labels : List String)
    (calls : List Served) :
    (requestCollector print).grown labels calls
      = calls.countP fun call ↦ call.requestLabels = labels := by
  induction calls using List.reverseRecOn with
  | nil => rfl
  | append_singleton calls call ih =>
    rw [List.countP_append, List.countP_singleton, ← ih]
    by_cases hlabels : call.requestLabels = labels
    · subst hlabels
      simp only [decide_true, if_true]
      exact (requestCollector print).grown_snoc_self calls call
    · simp only [hlabels, decide_false]
      exact (requestCollector print).grown_snoc_of_ne calls hlabels

theorem grown_durationCollector (print : List String → κ) (labels : List String)
    (calls : List Served) :
    (durationCollector print).grown labels calls = .ofList (lengths labels calls) := by
  rw [Collector.grown, lengths, Durations.ofList, List.foldl_map]
  rfl

/-! ### The samples of both families -/

theorem mem_requestFamily {print : List String → κ} {calls : List Served} {traffic : Traffic κ}
    (h : (requestCollector print).Gathered calls traffic.requests) {sample : Sample} :
    sample ∈ (requestFamily traffic).samples ↔
      ∃ call ∈ calls, sample = ⟨"http_requests_total",
        [("method", call.method), ("route", call.route), ("status", Text.ofNat call.status)],
        Text.ofNat (calls.countP fun other ↦ other.requestLabels = call.requestLabels)⟩ := by
  have hvalue : ∀ one ∈ traffic.requests,
      one.value = calls.countP fun other ↦ other.requestLabels = one.labels := by
    intro one hone
    rw [h.value one hone, grown_requestCollector]
  constructor
  · intro hsample
    obtain ⟨one, hone, rfl⟩ := List.mem_map.mp hsample
    obtain ⟨call, hcall, -, hlabels⟩ := h.origin one hone
    refine ⟨call, hcall, ?_⟩
    rw [hvalue one hone, hlabels]
    rfl
  · rintro ⟨call, hcall, rfl⟩
    obtain ⟨one, hone, hlabels⟩ := h.present call hcall
    refine List.mem_map.mpr ⟨one, hone, ?_⟩
    rw [hvalue one hone, hlabels]
    rfl

theorem mem_durationFamily {print : List String → κ} {calls : List Served} {traffic : Traffic κ}
    (h : (durationCollector print).Gathered calls traffic.durations) {sample : Sample} :
    sample ∈ (durationFamily traffic).samples ↔
      ∃ call ∈ calls, sample ∈ durationSamples [("method", call.method), ("route", call.route)]
        (.ofList (lengths call.durationLabels calls)) := by
  have hvalue : ∀ one ∈ traffic.durations, one.value = .ofList (lengths one.labels calls) := by
    intro one hone
    rw [h.value one hone, grown_durationCollector]
  constructor
  · intro hsample
    obtain ⟨one, hone, hshown⟩ := List.mem_flatMap.mp hsample
    obtain ⟨call, hcall, -, hlabels⟩ := h.origin one hone
    rw [hvalue one hone, hlabels] at hshown
    exact ⟨call, hcall, hshown⟩
  · rintro ⟨call, hcall, hshown⟩
    obtain ⟨one, hone, hlabels⟩ := h.present call hcall
    refine List.mem_flatMap.mpr ⟨one, hone, ?_⟩
    rw [hvalue one hone, hlabels]
    exact hshown

/-- The samples of one histogram. -/
theorem mem_durationSamples {labels : List (String × String)} {durations : List Duration}
    {sample : Sample} :
    sample ∈ durationSamples labels (.ofList durations) ↔
      (∃ bound ∈ Durations.bounds, sample = ⟨durationName ++ "_bucket", labels ++ [("le", bound.2)],
        Text.ofNat (durations.countP fun duration ↦ duration ≤ bound.1)⟩) ∨
      sample = ⟨durationName ++ "_bucket", labels ++ [("le", "+Inf")],
        Text.ofNat durations.length⟩ ∨
      sample = ⟨durationName ++ "_sum", labels, Text.ofFloat (Durations.ofList durations).sum⟩ ∨
      sample = ⟨durationName ++ "_count", labels, Text.ofNat durations.length⟩ := by
  rw [durationSamples, Durations.cumulative_ofList, Durations.count_ofList, List.zipWith_map,
    List.zipWith_self, List.mem_append, List.mem_map]
  simp only [List.mem_cons, List.not_mem_nil, or_false, eq_comm]

theorem exists_labels_of_mem_durationSamples {labels : List (String × String)}
    {durations : List Duration} {sample : Sample}
    (h : sample ∈ durationSamples labels (.ofList durations)) :
    ∃ extra, sample.labels = labels ++ extra ∧ ∀ label ∈ extra, label.1 = "le" := by
  rcases mem_durationSamples.mp h with ⟨bound, -, rfl⟩ | rfl | rfl | rfl
  · exact ⟨[("le", bound.2)], rfl, by simp⟩
  · exact ⟨[("le", "+Inf")], rfl, by simp⟩
  · exact ⟨[], (List.append_nil _).symm, by simp⟩
  · exact ⟨[], (List.append_nil _).symm, by simp⟩

theorem route_of_mem_requestFamily {print : List String → κ} {calls : List Served}
    {traffic : Traffic κ} (h : (requestCollector print).Gathered calls traffic.requests)
    {sample : Sample} {route : String} (hsample : sample ∈ (requestFamily traffic).samples)
    (hroute : ("route", route) ∈ sample.labels) : ∃ call ∈ calls, call.route = route := by
  obtain ⟨call, hcall, rfl⟩ := (mem_requestFamily h).mp hsample
  exact ⟨call, hcall, by simpa [eq_comm] using hroute⟩

theorem route_of_mem_durationFamily {print : List String → κ} {calls : List Served}
    {traffic : Traffic κ} (h : (durationCollector print).Gathered calls traffic.durations)
    {sample : Sample} {route : String} (hsample : sample ∈ (durationFamily traffic).samples)
    (hroute : ("route", route) ∈ sample.labels) : ∃ call ∈ calls, call.route = route := by
  obtain ⟨call, hcall, hmem⟩ := (mem_durationFamily h).mp hsample
  obtain ⟨extra, hlabels, hextra⟩ := exists_labels_of_mem_durationSamples hmem
  rw [hlabels, List.mem_append] at hroute
  rcases hroute with hbase | hmore
  · exact ⟨call, hcall, by simpa [eq_comm] using hbase⟩
  · exact absurd (hextra _ hmore) (by decide : "route" ≠ "le")

/-! ### The numbers in them -/

theorem requestNumber_eq {print : List String → κ} {calls : List Served} {traffic : Traffic κ}
    (h : (requestCollector print).Gathered calls traffic.requests)
    (method : String) (status : Nat) (route : String) :
    traffic.requestNumber method status route
      = calls.countP fun call ↦
          call.method = method ∧ call.status = status ∧ call.route = route := by
  have hlabels : ∀ call : Served,
      [("method", call.method), ("route", call.route), ("status", Text.ofNat call.status)]
          = [("method", method), ("route", route), ("status", Text.ofNat status)]
        ↔ call.method = method ∧ call.status = status ∧ call.route = route := by
    intro call
    simp [Text.ofNat_injective.eq_iff, and_comm (a := call.route = route)]
  have hsame : ∀ call other : Served, other.requestLabels = call.requestLabels
      ↔ other.method = call.method ∧ other.status = call.status ∧ other.route = call.route := by
    intro call other
    simp [Served.requestLabels, Text.ofNat_injective.eq_iff, and_comm (a := other.route = call.route)]
  refine Family.number_eq ?_ ?_
  · intro sample hsample _ hshown
    obtain ⟨call, -, rfl⟩ := (mem_requestFamily h).mp hsample
    obtain ⟨rfl, rfl, rfl⟩ := (hlabels call).mp hshown
    simp only [hsame]
  · intro hpos
    obtain ⟨call, hcall, hhit⟩ := List.countP_pos_iff.mp (Nat.pos_of_ne_zero hpos)
    exact ⟨_, (mem_requestFamily h).mpr ⟨call, hcall, rfl⟩, rfl,
      (hlabels call).mpr (of_decide_eq_true hhit)⟩

theorem exists_call_of_lengths_ne_nil {labels : List String} {calls : List Served}
    (h : lengths labels calls ≠ []) : ∃ call ∈ calls, call.durationLabels = labels := by
  rw [lengths, ne_eq, List.map_eq_nil_iff] at h
  obtain ⟨call, hcall⟩ := List.exists_mem_of_ne_nil _ h
  have hfound := List.mem_filter.mp hcall
  exact ⟨call, hfound.1, of_decide_eq_true hfound.2⟩

section Histogram

variable {print : List String → κ} {calls : List Served} {traffic : Traffic κ}
  (h : (durationCollector print).Gathered calls traffic.durations) (method route : String)
include h

/-- A number that any histogram shows in a sample of its own is found by the labels of the
histogram. -/
theorem number_durationFamily_eq (extra : List (String × String)) {name : String}
    {n : List Duration → Nat} (hnone : n [] = 0)
    (hvalue : ∀ labels durations, ∀ sample ∈ durationSamples labels (.ofList durations),
      sample.name = name → sample.labels = labels ++ extra →
        sample.value = Text.ofNat (n durations))
    (hshown : ∀ labels durations, ∃ sample ∈ durationSamples labels (.ofList durations),
      sample.name = name ∧ sample.labels = labels ++ extra) :
    (durationFamily traffic).number name ([("method", method), ("route", route)] ++ extra)
      = n (lengths [method, route] calls) := by
  refine Family.number_eq ?_ ?_
  · intro sample hsample hname hlabels
    obtain ⟨call, -, hmem⟩ := (mem_durationFamily h).mp hsample
    obtain ⟨rest, hrest, -⟩ := exists_labels_of_mem_durationSamples hmem
    obtain ⟨rfl, rfl⟩ : call.method = method ∧ call.route = route := by
      simpa using (List.append_inj (hrest.symm.trans hlabels) rfl).1
    exact hvalue _ _ sample hmem hname hlabels
  · intro hpos
    have hne : lengths [method, route] calls ≠ [] := fun hnil ↦ hpos (hnil ▸ hnone)
    obtain ⟨call, hcall, hlabels⟩ := exists_call_of_lengths_ne_nil hne
    obtain ⟨rfl, rfl⟩ : call.method = method ∧ call.route = route := by
      simpa [Served.durationLabels] using hlabels
    obtain ⟨sample, hmem, hfound⟩ := hshown
      [("method", call.method), ("route", call.route)] (lengths call.durationLabels calls)
    exact ⟨sample, (mem_durationFamily h).mpr ⟨call, hcall, hmem⟩, hfound⟩

theorem sampleCount_eq :
    traffic.sampleCount method route = (lengths [method, route] calls).length := by
  refine number_durationFamily_eq h method route [] List.length_nil ?_ ?_
  · intro labels durations sample hmem hname _
    rcases mem_durationSamples.mp hmem with ⟨bound, -, rfl⟩ | rfl | rfl | rfl
    · simp [durationName] at hname
    · simp [durationName] at hname
    · simp [durationName] at hname
    · rfl
  · intro labels durations
    exact ⟨_, mem_durationSamples.mpr (.inr (.inr (.inr rfl))), rfl, (List.append_nil _).symm⟩

theorem bucketCount_whole_eq :
    traffic.bucketCount method route "+Inf" = (lengths [method, route] calls).length := by
  refine number_durationFamily_eq h method route [("le", "+Inf")] List.length_nil ?_ ?_
  · intro labels durations sample hmem hname hlabels
    rcases mem_durationSamples.mp hmem with ⟨bound, hbound, rfl⟩ | rfl | rfl | rfl
    · have htext : bound.2 = "+Inf" := by simpa using hlabels
      exact absurd htext (Durations.ne_inf_of_mem_bounds bound hbound)
    · rfl
    · simp [durationName] at hname
    · simp [durationName] at hname
  · intro labels durations
    exact ⟨_, mem_durationSamples.mpr (.inr (.inl rfl)), rfl, rfl⟩

theorem bucketCount_bound_eq {bound : Duration × String} (hbound : bound ∈ Durations.bounds) :
    traffic.bucketCount method route bound.2
      = (lengths [method, route] calls).countP fun duration ↦ duration ≤ bound.1 := by
  have hnone : [].countP (fun duration ↦ decide (duration ≤ bound.1)) = 0 := List.countP_nil
  refine number_durationFamily_eq h method route [("le", bound.2)] hnone ?_ ?_
  · intro labels durations sample hmem hname hlabels
    rcases mem_durationSamples.mp hmem with ⟨other, hother, rfl⟩ | rfl | rfl | rfl
    · have htext : other.2 = bound.2 := by simpa using hlabels
      rw [Durations.bounds_injective other hother bound hbound htext]
    · have htext : bound.2 = "+Inf" := by simpa [eq_comm] using hlabels
      exact absurd htext (Durations.ne_inf_of_mem_bounds bound hbound)
    · simp [durationName] at hname
    · simp [durationName] at hname
  · intro labels durations
    exact ⟨_, mem_durationSamples.mpr (.inl ⟨bound, hbound, rfl⟩), rfl, rfl⟩

end Histogram

end Traffic

end LoginThrottle
