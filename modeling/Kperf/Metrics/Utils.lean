import Kperf.Types.Metric
import Mathlib.Algebra.BigOperators.Group.List.Basic
import Mathlib.Algebra.Order.Field.Rat
import Mathlib.Data.List.Sort
import Mathlib.Data.Rat.Floor

/-! The figures of a report: the latency distribution and the errors counted
by type. Both depend on their input only up to its order. -/

set_option autoImplicit false

namespace Kperf.Metrics

open Types

section Percentiles

def percentiles : List ℚ := [0, 1 / 2, 9 / 10, 19 / 20, 99 / 100, 1]

def percentileIndex (count : Nat) (percentile : ℚ) : Nat :=
  let index := ⌈(count : ℚ) * percentile⌉.toNat
  if 0 < index then index - 1 else index

/-- `sort.Float64s`, which works in place: the caller's slice is sorted after. -/
def sortLatencies (latencies : List ℚ) : List ℚ := latencies.insertionSort (· ≤ ·)

def buildPercentileLatencies (latencies : List ℚ) : List (ℚ × ℚ) :=
  if latencies.isEmpty then []
  else
    percentiles.map fun percentile =>
      (percentile, (sortLatencies latencies).getD (percentileIndex latencies.length percentile) 0)

theorem sortLatencies_perm (latencies : List ℚ) : (sortLatencies latencies).Perm latencies :=
  List.perm_insertionSort ..

theorem sortLatencies_eq_of_perm {left right : List ℚ} (same : left.Perm right) :
    sortLatencies left = sortLatencies right := by
  have sorted : (sortLatencies left).Perm (sortLatencies right) :=
    ((sortLatencies_perm left).trans same).trans (sortLatencies_perm right).symm
  exact sorted.eq_of_pairwise' (List.pairwise_insertionSort ..) (List.pairwise_insertionSort ..)

/-- The percentiles are those of a multiset of latencies. -/
theorem buildPercentileLatencies_eq_of_perm {left right : List ℚ} (same : left.Perm right) :
    buildPercentileLatencies left = buildPercentileLatencies right := by
  unfold buildPercentileLatencies
  rw [sortLatencies_eq_of_perm same, same.length_eq, same.isEmpty_eq]

theorem percentileIndex_lt {count : Nat} {percentile : ℚ} (some : 0 < count)
    (bounded : percentile ≤ 1) : percentileIndex count percentile < count := by
  have rounded : ⌈(count : ℚ) * percentile⌉ ≤ (count : Int) := by
    apply Int.ceil_le.mpr
    exact mul_le_of_le_one_right (Nat.cast_nonneg count) bounded
  unfold percentileIndex
  dsimp only
  split <;> omega

end Percentiles

section ErrorStats

/-- What errors of one group share: the status code, or the message. -/
def errorKey (error : ResponseError) : String :=
  match error.type with
  | .http => error.type.name ++ "/" ++ toString error.code
  | _ => error.type.name ++ "/" ++ error.message

def buildErrorStatsGroupByType (errors : List ResponseError) : StringMap Int :=
  errors.foldl (fun counted error =>
    counted.insert (errorKey error) (counted.number (errorKey error) + 1)) ∅

def errorCount (key : String) (errors : List ResponseError) : Nat :=
  errors.countP fun error => errorKey error = key

private theorem foldl_count {errors : List ResponseError} {counted : StringMap Int}
    (key : String) :
    let grown := errors.foldl (fun counted error =>
      counted.insert (errorKey error) (counted.number (errorKey error) + 1)) counted
    (key ∈ grown ↔ key ∈ counted ∨ ∃ error ∈ errors, errorKey error = key) ∧
      grown.number key = counted.number key + errorCount key errors := by
  induction errors generalizing counted with
  | nil => simp [errorCount]
  | cons error rest ih =>
      obtain ⟨keys, numbers⟩ := @ih
        (counted.insert (errorKey error) (counted.number (errorKey error) + 1))
      refine ⟨?_, ?_⟩
      · rw [List.foldl_cons, keys, AList.mem_insert]
        simp only [List.mem_cons, exists_eq_or_imp, eq_comm (a := key)]
        tauto
      · rw [List.foldl_cons, numbers]
        unfold errorCount
        by_cases same : errorKey error = key
        · subst key
          simp [StringMap.number]
          omega
        · simp [StringMap.number, AList.lookup_insert_ne (Ne.symm same), same]

theorem mem_buildErrorStats (errors : List ResponseError) (key : String) :
    key ∈ buildErrorStatsGroupByType errors ↔ ∃ error ∈ errors, errorKey error = key := by
  rw [buildErrorStatsGroupByType, (foldl_count key).1]
  simp

theorem number_buildErrorStats (errors : List ResponseError) (key : String) :
    (buildErrorStatsGroupByType errors).number key = errorCount key errors := by
  rw [buildErrorStatsGroupByType, (foldl_count key).2]
  simp [StringMap.number]

theorem errorCount_flatMap {α : Type*} (key : String) (errors : α → List ResponseError)
    (sources : List α) :
    (errorCount key (sources.flatMap errors) : Int) =
      (sources.map fun source => (errorCount key (errors source) : Int)).sum := by
  induction sources with
  | nil => rfl
  | cons source rest ih =>
      rw [List.map_cons, List.sum_cons, ← ih, List.flatMap_cons, errorCount, List.countP_append]
      rfl

end ErrorStats

end Kperf.Metrics
