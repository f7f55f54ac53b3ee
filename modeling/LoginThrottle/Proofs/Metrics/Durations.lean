import LoginThrottle.Metrics.Traffic
import Mathlib.Algebra.Ring.Nat
import Mathlib.Data.List.Induction

/-!
The buckets of a histogram after any durations. A duration is put in the first bucket whose bound it
does not exceed, so that the buckets up to a bound gain one in all if the duration does not exceed
some bound among theirs, which is to say the last of them, since the bounds ascend. Hence
`cumulative_ofList`: the cumulative count of a bound is the number of durations within it.
-/

set_option autoImplicit false
set_option relaxedAutoImplicit false

namespace LoginThrottle.Durations

/-! ### One duration -/

theorem length_fill (duration : Duration) (bounds : List (Duration × String)) (counts : List Nat) :
    (fill duration bounds counts).length = counts.length := by
  fun_induction fill duration bounds counts with
  | case1 => rfl
  | case2 bound text bounds count counts hexceeds ih => simp [ih]
  | case3 => rfl

theorem sum_take_fill (duration : Duration) {bounds : List (Duration × String)} {counts : List Nat}
    (hlength : counts.length = bounds.length) (k : Nat) :
    ((fill duration bounds counts).take k).sum
      = (counts.take k).sum + if (bounds.take k).any (duration ≤ ·.1) then 1 else 0 := by
  induction bounds generalizing counts k with
  | nil => simp [List.length_eq_zero_iff.mp hlength, fill]
  | cons bound bounds ih =>
    obtain ⟨count, counts, rfl⟩ := List.exists_cons_of_length_eq_add_one hlength
    cases k with
    | zero => simp
    | succ k =>
      by_cases hwithin : duration ≤ bound.1
      · rw [fill, if_pos hwithin, List.take_succ_cons, List.sum_cons, List.take_succ_cons,
          List.sum_cons, List.take_succ_cons, List.any_cons, decide_eq_true hwithin, Bool.true_or,
          if_pos rfl, Nat.add_right_comm]
      · have hrest := ih (by simpa using hlength) k
        rw [fill, if_neg hwithin, List.take_succ_cons, List.sum_cons, hrest, List.take_succ_cons,
          List.sum_cons, List.take_succ_cons, List.any_cons, decide_eq_false hwithin, Bool.false_or,
          Nat.add_assoc]

theorem bounds_ascend : bounds.Pairwise fun lower upper ↦ lower.1 ≤ upper.1 := by
  decide

theorem bounds_injective :
    ∀ bound ∈ bounds, ∀ other ∈ bounds, bound.2 = other.2 → bound = other := by
  decide

theorem ne_inf_of_mem_bounds : ∀ bound ∈ bounds, bound.2 ≠ "+Inf" := by
  decide

/-- A duration does not exceed some of the bounds up to one exactly if it does not exceed that. -/
theorem any_take_bounds {i : Nat} (hi : i < bounds.length) (duration : Duration) :
    (bounds.take (i + 1)).any (duration ≤ ·.1) = decide (duration ≤ bounds[i].1) := by
  rw [Bool.eq_iff_iff, List.any_eq_true, decide_eq_true_iff]
  constructor
  · rintro ⟨bound, hbound, hwithin⟩
    obtain ⟨j, hj, rfl⟩ := List.mem_take_iff_getElem.mp hbound
    have hascend : bounds[j].1 ≤ bounds[i].1 := by
      rcases Nat.eq_or_lt_of_le (show j ≤ i by omega) with rfl | hlt
      · exact Nat.le_refl _
      · exact List.pairwise_iff_getElem.mp bounds_ascend j i (by omega) hi hlt
    exact Duration.le_trans (of_decide_eq_true hwithin) hascend
  · intro hwithin
    exact ⟨bounds[i], List.mem_take_iff_getElem.mpr ⟨i, by omega, rfl⟩, decide_eq_true hwithin⟩

/-! ### Any durations -/

def ofList (durations : List Duration) : Durations :=
  durations.foldl observe empty

theorem ofList_snoc (durations : List Duration) (duration : Duration) :
    ofList (durations ++ [duration]) = (ofList durations).observe duration := by
  simp [ofList]

theorem count_ofList (durations : List Duration) : (ofList durations).count = durations.length := by
  induction durations using List.reverseRecOn with
  | nil => rfl
  | append_singleton durations duration ih => simp [ofList_snoc, observe, ih]

theorem length_buckets_ofList (durations : List Duration) :
    (ofList durations).buckets.length = bounds.length := by
  induction durations using List.reverseRecOn with
  | nil => rfl
  | append_singleton durations duration ih => rw [ofList_snoc, observe, length_fill, ih]

theorem sum_take_buckets_ofList (durations : List Duration) (k : Nat) :
    ((ofList durations).buckets.take k).sum
      = durations.countP fun duration ↦ (bounds.take k).any (duration ≤ ·.1) := by
  induction durations using List.reverseRecOn with
  | nil => simp [ofList, empty, List.map_const', List.take_replicate]
  | append_singleton durations duration ih =>
    rw [ofList_snoc, observe, sum_take_fill duration (length_buckets_ofList durations), ih,
      List.countP_append, List.countP_singleton]

theorem cumulative_ofList (durations : List Duration) :
    (ofList durations).cumulative
      = bounds.map fun bound ↦ durations.countP fun duration ↦ duration ≤ bound.1 := by
  have hlength := length_buckets_ofList durations
  refine List.ext_getElem (by simp [cumulative, hlength]) fun i hi hi' ↦ ?_
  have hi : i < bounds.length := by simpa using hi'
  simp only [cumulative, List.getElem_map, List.getElem_range, ← List.sum_eq_foldl_nat,
    sum_take_buckets_ofList, any_take_bounds hi]

end LoginThrottle.Durations
