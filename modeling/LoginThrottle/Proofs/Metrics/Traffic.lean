import LoginThrottle.Proofs.Metrics.Samples
import Mathlib.Algebra.BigOperators.Group.Finset.Piecewise

/-!
What the metrics tell of the requests that were served, in numbers. Both families are collected from
the same requests, all but those for the metrics themselves. `run_tallies` says that the count of
requests with any labels is right, that the sample count of a histogram is the sum of these counts
over all statuses, that its buckets are cumulative, and that the order of the requests does not
show.

Series are found by a fingerprint of the values of their labels. The numbers are right as long as
requests with different values differ in the fingerprint too (`KeptApart`); two of them that do not
are counted as one.
-/

set_option autoImplicit false
set_option relaxedAutoImplicit false

namespace LoginThrottle.Traffic

open Exposition Metrics

variable {κ : Type}

/-! ### What the numbers tell -/

/-- The numbers are right about the requests. -/
structure Tallies (traffic : Traffic κ) (calls : List Served) : Prop where
  requests : ∀ method status route, route ≠ ownRoute →
    traffic.requestNumber method status route = calls.countP fun call ↦
      call.method = method ∧ call.status = status ∧ call.route = route
  samples : ∀ method route limit, (∀ call ∈ calls, call.status < limit) →
    traffic.sampleCount method route
      = ∑ status ∈ Finset.range limit, traffic.requestNumber method status route
  within : ∀ method route, route ≠ ownRoute → ∀ bound ∈ Durations.bounds,
    traffic.bucketCount method route bound.2 = calls.countP fun call ↦
      call.method = method ∧ call.route = route ∧ call.duration ≤ bound.1
  ascending : ∀ method route, ∀ lower ∈ Durations.bounds, ∀ upper ∈ Durations.bounds,
    lower.1 ≤ upper.1 →
      traffic.bucketCount method route lower.2 ≤ traffic.bucketCount method route upper.2 ∧
      traffic.bucketCount method route upper.2 ≤ traffic.bucketCount method route "+Inf"
  whole : ∀ method route,
    traffic.bucketCount method route "+Inf" = traffic.sampleCount method route
  unseen : ∀ sample ∈ (requestFamily traffic).samples ++ (durationFamily traffic).samples,
    ("route", ownRoute) ∉ sample.labels

/-- Both show the same counts. -/
structure SameNumbers (traffic other : Traffic κ) : Prop where
  requests : ∀ method status route,
    traffic.requestNumber method status route = other.requestNumber method status route
  samples : ∀ method route, traffic.sampleCount method route = other.sampleCount method route
  within : ∀ method route, ∀ bound ∈ Durations.bounds,
    traffic.bucketCount method route bound.2 = other.bucketCount method route bound.2
  whole : ∀ method route,
    traffic.bucketCount method route "+Inf" = other.bucketCount method route "+Inf"

/-! ### The requests that are recorded -/

def recorded (calls : List Served) : List Served :=
  calls.filter fun call ↦ call.route ≠ ownRoute

theorem mem_recorded_iff {calls : List Served} {call : Served} :
    call ∈ recorded calls ↔ call ∈ calls ∧ call.route ≠ ownRoute := by
  simp [recorded]

/-- A count over all requests is the sum of the counts by status. -/
theorem countP_eq_sum_status {calls : List Served} {limit : Nat}
    (hlimit : ∀ call ∈ calls, call.status < limit) (method route : String) :
    calls.countP (fun call ↦ call.method = method ∧ call.route = route)
      = ∑ status ∈ Finset.range limit, calls.countP fun call ↦
          call.method = method ∧ call.status = status ∧ call.route = route := by
  induction calls with
  | nil => simp
  | cons call calls ih =>
    have hrest := ih fun other hother ↦ hlimit other (List.mem_cons_of_mem _ hother)
    have hone : (∑ status ∈ Finset.range limit,
        if call.method = method ∧ call.status = status ∧ call.route = route then 1 else 0)
          = if call.method = method ∧ call.route = route then 1 else 0 := by
      have hcall := hlimit call List.mem_cons_self
      by_cases hlabels : call.method = method ∧ call.route = route
      · simp [hlabels, Finset.sum_ite_eq, hcall]
      · have hnone : ∀ status,
            ¬(call.method = method ∧ call.status = status ∧ call.route = route) :=
          fun status h ↦ hlabels ⟨h.1, h.2.2⟩
        simp [hlabels, hnone]
    simp only [List.countP_cons, decide_eq_true_eq, Finset.sum_add_distrib, hrest, hone]

/-- What is counted of requests for anything but the metrics is counted of all requests. -/
theorem countP_recorded {calls : List Served} {counted : Served → Prop} [DecidablePred counted]
    (h : ∀ call, counted call → call.route ≠ ownRoute) :
    (recorded calls).countP (fun call ↦ counted call) = calls.countP fun call ↦ counted call := by
  rw [recorded, List.countP_filter]
  exact List.countP_congr fun call _ ↦ by simpa using h call

theorem tallies_of_gathered {print : List String → κ} {calls : List Served} {traffic : Traffic κ}
    (hrequests : (requestCollector print).Gathered (recorded calls) traffic.requests)
    (hdurations : (durationCollector print).Gathered (recorded calls) traffic.durations) :
    traffic.Tallies calls := by
  constructor
  · intro method status route hroute
    rw [requestNumber_eq hrequests]
    exact countP_recorded fun call hlabels ↦ hlabels.2.2.symm ▸ hroute
  · intro method route limit hlimit
    have hstatus : ∀ call ∈ recorded calls, call.status < limit :=
      fun call hcall ↦ hlimit call (mem_recorded_iff.mp hcall).1
    rw [sampleCount_eq hdurations, length_lengths, countP_eq_sum_status hstatus]
    exact Finset.sum_congr rfl fun status _ ↦ (requestNumber_eq hrequests method status route).symm
  · intro method route hroute bound hbound
    rw [bucketCount_bound_eq hdurations method route hbound, countP_lengths]
    exact countP_recorded fun call hlabels ↦ hlabels.2.1.symm ▸ hroute
  · intro method route lower hlower upper hupper hle
    rw [bucketCount_bound_eq hdurations method route hlower,
      bucketCount_bound_eq hdurations method route hupper, bucketCount_whole_eq hdurations]
    refine ⟨List.countP_mono_left fun duration _ hwithin ↦ ?_, List.countP_le_length⟩
    exact decide_eq_true (Nat.le_trans (of_decide_eq_true hwithin) hle)
  · intro method route
    rw [bucketCount_whole_eq hdurations, sampleCount_eq hdurations]
  · intro sample hsample hown
    obtain ⟨call, hcall, hroute⟩ : ∃ call ∈ recorded calls, call.route = ownRoute := by
      rcases List.mem_append.mp hsample with hcount | hlength
      · exact route_of_mem_requestFamily hrequests hcount hown
      · exact route_of_mem_durationFamily hdurations hlength hown
    exact (mem_recorded_iff.mp hcall).2 hroute

theorem sameNumbers_of_gathered {print : List String → κ} {calls others : List Served}
    {traffic other : Traffic κ} (hperm : calls.Perm others)
    (hrequests : (requestCollector print).Gathered calls traffic.requests)
    (hrequests' : (requestCollector print).Gathered others other.requests)
    (hdurations : (durationCollector print).Gathered calls traffic.durations)
    (hdurations' : (durationCollector print).Gathered others other.durations) :
    traffic.SameNumbers other := by
  have hlengths : ∀ labels, (lengths labels calls).Perm (lengths labels others) :=
    fun labels ↦ (hperm.filter _).map _
  constructor
  · intro method status route
    rw [requestNumber_eq hrequests, requestNumber_eq hrequests', hperm.countP_eq]
  · intro method route
    rw [sampleCount_eq hdurations, sampleCount_eq hdurations', (hlengths _).length_eq]
  · intro method route bound hbound
    rw [bucketCount_bound_eq hdurations method route hbound,
      bucketCount_bound_eq hdurations' method route hbound, (hlengths _).countP_eq]
  · intro method route
    rw [bucketCount_whole_eq hdurations, bucketCount_whole_eq hdurations', (hlengths _).length_eq]

/-! ### Any requests -/

/-- Requests that are recorded under different values have different fingerprints. -/
structure KeptApart (print : List String → κ) (calls : List Served) : Prop where
  requests : ∀ first ∈ recorded calls, ∀ second ∈ recorded calls,
    print first.requestValues = print second.requestValues →
      first.requestValues = second.requestValues
  durations : ∀ first ∈ recorded calls, ∀ second ∈ recorded calls,
    print first.durationLabels = print second.durationLabels →
      first.durationLabels = second.durationLabels

theorem keptApart_of_injective {print : List String → κ} (h : Function.Injective print)
    (calls : List Served) : KeptApart print calls where
  requests _ _ _ _ hprint := h hprint
  durations _ _ _ _ hprint := h hprint

theorem KeptApart.perm {print : List String → κ} {calls shuffled : List Served}
    (apart : KeptApart print calls) (h : calls.Perm shuffled) : KeptApart print shuffled := by
  have hmem : ∀ call ∈ recorded shuffled, call ∈ recorded calls :=
    fun call hcall ↦ (h.filter _).mem_iff.mpr hcall
  exact ⟨fun first hfirst second hsecond ↦
      apart.requests first (hmem first hfirst) second (hmem second hsecond),
    fun first hfirst second hsecond ↦
      apart.durations first (hmem first hfirst) second (hmem second hsecond)⟩

variable [DecidableEq κ]

/-- The traffic after these requests, when there was none before. -/
def run (print : List String → κ) (calls : List Served) : Traffic κ :=
  calls.foldl (recordBy print) empty

theorem run_eq (print : List String → κ) (calls : List Served) :
    run print calls
      = ⟨(recorded calls).foldl (requestCollector print).note [],
          (recorded calls).foldl (durationCollector print).note []⟩ := by
  induction calls using List.reverseRecOn with
  | nil => rfl
  | append_singleton calls call ih =>
    rw [run] at ih
    rw [run, List.foldl_append, ih, List.foldl_cons, List.foldl_nil, recordBy]
    by_cases hown : call.route = ownRoute
    · have hsame : recorded (calls ++ [call]) = recorded calls := by simp [recorded, hown]
      rw [if_pos hown, hsame]
    · have hmore : recorded (calls ++ [call]) = recorded calls ++ [call] := by
        simp [recorded, hown]
      rw [if_neg hown, hmore, List.foldl_append, List.foldl_append]
      rfl

theorem gathered_requests {print : List String → κ} {calls : List Served}
    (apart : KeptApart print calls) :
    (requestCollector print).Gathered (recorded calls) (run print calls).requests := by
  rw [run_eq]
  refine (requestCollector print).gathered_foldl_note fun first hfirst second hsecond ↦ ?_
  -- Both lists hold the same three values, only in different orders.
  have hvalues : first.requestLabels = second.requestLabels
      ↔ first.requestValues = second.requestValues := by
    simp [Served.requestLabels, Served.requestValues, and_comm (a := first.route = second.route)]
  rw [show (requestCollector print).labels = Served.requestLabels from rfl, hvalues]
  exact ⟨apart.requests first hfirst second hsecond, congrArg print⟩

theorem gathered_durations {print : List String → κ} {calls : List Served}
    (apart : KeptApart print calls) :
    (durationCollector print).Gathered (recorded calls) (run print calls).durations := by
  rw [run_eq]
  exact (durationCollector print).gathered_foldl_note fun first hfirst second hsecond ↦
    ⟨apart.durations first hfirst second hsecond, congrArg print⟩

/-- Whatever was served: the counts by labels are right, a histogram counts what the requests of all
statuses count, and the order does not show. -/
theorem run_tallies (print : List String → κ) (calls : List Served)
    (apart : KeptApart print calls) :
    (run print calls).Tallies calls ∧
      ∀ shuffled, calls.Perm shuffled → (run print shuffled).SameNumbers (run print calls) := by
  have hrequests := gathered_requests apart
  have hdurations := gathered_durations apart
  refine ⟨tallies_of_gathered hrequests hdurations, fun shuffled hshuffled ↦ ?_⟩
  have hother := apart.perm hshuffled
  exact sameNumbers_of_gathered (hshuffled.filter _).symm (gathered_requests hother) hrequests
    (gathered_durations hother) hdurations

/-- Five requests, among them one for the metrics. One takes as long as the first bound allows, and
another a few nanoseconds more. -/
theorem run_tallies_five :
    let calls : List Served :=
      [⟨"GET", "/api/status", 200, 1000⟩, ⟨"GET", "/api/metrics", 200, 800⟩,
        ⟨"GET", "/api/status", 500, ⟨5000300⟩⟩, ⟨"PUT", "/api/variables", 200, 61000000⟩,
        ⟨"GET", "/api/status", 200, ⟨5000000⟩⟩]
    let traffic := calls.foldl record empty
    KeptApart Series.fingerprintOf calls
      ∧ traffic.Tallies calls
      ∧ (∀ shuffled, calls.Perm shuffled → (shuffled.foldl record empty).SameNumbers traffic)
      ∧ traffic.requestNumber "GET" 200 "/api/status" = 2
      ∧ traffic.bucketCount "GET" "/api/status" "0.005" = 2
      ∧ traffic.bucketCount "GET" "/api/status" "0.05" = 3
      ∧ ∀ sample ∈ (requestFamily traffic).samples ++ (durationFamily traffic).samples,
        ("route", "/api/metrics") ∉ sample.labels := by
  intro calls traffic
  have apart : KeptApart Series.fingerprintOf calls :=
    ⟨by decide +kernel, by decide +kernel⟩
  obtain ⟨tallies, shuffles⟩ := run_tallies Series.fingerprintOf calls apart
  refine ⟨apart, tallies, shuffles, ?_, ?_, ?_, tallies.unseen⟩
  · exact tallies.requests "GET" 200 "/api/status" (by decide)
  · exact tallies.within "GET" "/api/status" (by decide) (⟨5000000⟩, "0.005") (by decide)
  · exact tallies.within "GET" "/api/status" (by decide) (⟨50000000⟩, "0.05") (by decide)

end LoginThrottle.Traffic
