import Kperf.Library.OrderStatistic
import Kperf.Metrics.Utils

/-! The reported percentiles are nearest-rank order statistics. -/

set_option autoImplicit false

namespace Kperf.Metrics

section Rank

variable {count : Nat} {percentile : ℚ}

/-- The rank at the index is the fraction of the list, rounded up. -/
theorem le_percentileIndex_succ : (count : ℚ) * percentile ≤ percentileIndex count percentile + 1 := by
  have rounded : ⌈(count : ℚ) * percentile⌉ ≤ (percentileIndex count percentile + 1 : Int) := by
    unfold percentileIndex
    dsimp only
    split <;> omega
  exact_mod_cast Int.ceil_le.mp rounded

theorem percentileIndex_lt_mul (some : 0 < count) (positive : 0 < percentile) :
    (percentileIndex count percentile : ℚ) < count * percentile := by
  have product : 0 < (count : ℚ) * percentile := mul_pos (Nat.cast_pos.mpr some) positive
  have rounded : (percentileIndex count percentile : Int) < ⌈(count : ℚ) * percentile⌉ := by
    have ceiling := Int.ceil_pos.mpr product
    unfold percentileIndex
    dsimp only
    split <;> omega
  exact_mod_cast Int.lt_ceil.mp rounded

theorem percentileIndex_mono {lower upper : ℚ} (order : lower ≤ upper) :
    percentileIndex count lower ≤ percentileIndex count upper := by
  have rounded : ⌈(count : ℚ) * lower⌉ ≤ ⌈(count : ℚ) * upper⌉ :=
    Int.ceil_le_ceil (mul_le_mul_of_nonneg_left order (Nat.cast_nonneg count))
  unfold percentileIndex
  dsimp only
  split <;> split <;> omega

@[simp] theorem percentileIndex_zero : percentileIndex count 0 = 0 := by
  simp [percentileIndex]

theorem percentileIndex_one (some : 0 < count) : percentileIndex count 1 + 1 = count := by
  simp [percentileIndex, some]
  omega

end Rank

variable {latencies : List ℚ} {percentile value : ℚ}

theorem sorted_sortLatencies (latencies : List ℚ) :
    (sortLatencies latencies).Pairwise (· ≤ ·) :=
  List.pairwise_insertionSort ..

theorem percentiles_le_one : ∀ percentile ∈ percentiles, percentile ≤ 1 := by decide +kernel

/-- A reported value stands in the sorted list, at the index of its percentile. -/
theorem getElem?_of_reported (reported : (percentile, value) ∈ buildPercentileLatencies latencies) :
    0 < latencies.length ∧
      (sortLatencies latencies)[percentileIndex latencies.length percentile]? = some value := by
  unfold buildPercentileLatencies at reported
  split at reported
  · cases reported
  · rename_i present
    obtain ⟨_, listed, same⟩ := List.mem_map.mp reported
    cases same
    have some : 0 < latencies.length :=
      List.length_pos_of_ne_nil fun empty => present (by simp [empty])
    have inside : percentileIndex latencies.length percentile < (sortLatencies latencies).length := by
      rw [(sortLatencies_perm latencies).length_eq]
      exact percentileIndex_lt some (percentiles_le_one percentile listed)
    refine ⟨some, ?_⟩
    rw [List.getD_eq_getElem?_getD, List.getElem?_eq_getElem inside]
    rfl

/-- Counting and searching do not see the order of the list. -/
theorem countP_sortLatencies (below : ℚ → Bool) :
    (sortLatencies latencies).countP below = latencies.countP below :=
  (sortLatencies_perm latencies).countP_eq below

theorem mem_sortLatencies {latency : ℚ} : latency ∈ sortLatencies latencies ↔ latency ∈ latencies :=
  (sortLatencies_perm latencies).mem_iff

/-- What is reported for a percentile of some latencies. -/
structure NearestRank (latencies : List ℚ) (percentile value : ℚ) : Prop where
  indexed : (sortLatencies latencies)[percentileIndex latencies.length percentile]? = some value
  element : value ∈ latencies
  reaches : percentile * latencies.length ≤ latencies.countP (· ≤ value)
  least : 0 < percentile → (latencies.countP (· < value) : ℚ) < percentile * latencies.length
  minimum : percentile = 0 → ∀ latency ∈ latencies, value ≤ latency
  maximum : percentile = 1 → ∀ latency ∈ latencies, latency ≤ value

theorem nearestRank_of_reported
    (reported : (percentile, value) ∈ buildPercentileLatencies latencies) :
    NearestRank latencies percentile value := by
  obtain ⟨some, found⟩ := getElem?_of_reported reported
  have sorted := sorted_sortLatencies latencies
  refine ⟨found, mem_sortLatencies.mp (List.mem_of_getElem? found), ?_, ?_, ?_, ?_⟩
  · have reached := OrderStatistic.le_countP_le sorted found
    rw [countP_sortLatencies] at reached
    calc percentile * latencies.length = latencies.length * percentile := mul_comm ..
      _ ≤ percentileIndex latencies.length percentile + 1 := le_percentileIndex_succ
      _ ≤ latencies.countP (· ≤ value) := by exact_mod_cast reached
  · intro positive
    have below := OrderStatistic.countP_lt_le sorted found
    rw [countP_sortLatencies] at below
    calc (latencies.countP (· < value) : ℚ)
        ≤ percentileIndex latencies.length percentile := by exact_mod_cast below
      _ < latencies.length * percentile := percentileIndex_lt_mul some positive
      _ = percentile * latencies.length := mul_comm ..
  · rintro rfl latency member
    rw [percentileIndex_zero] at found
    exact OrderStatistic.least sorted found latency (mem_sortLatencies.mpr member)
  · rintro rfl latency member
    have last := percentileIndex_one some
    rw [← (sortLatencies_perm latencies).length_eq] at last found
    exact OrderStatistic.greatest sorted found last latency (mem_sortLatencies.mpr member)

/-- For every non-empty list, each percentile is reported once, as a nearest-rank
order statistic; the values grow with the percentiles and do not depend on the
order of the list. -/
theorem buildPercentileLatencies_nearestRank (present : latencies ≠ []) :
    (buildPercentileLatencies latencies).map Prod.fst = percentiles ∧
    (∀ percentile value, (percentile, value) ∈ buildPercentileLatencies latencies →
      NearestRank latencies percentile value) ∧
    (∀ lower value upper greater, (lower, value) ∈ buildPercentileLatencies latencies →
      (upper, greater) ∈ buildPercentileLatencies latencies → lower ≤ upper → value ≤ greater) ∧
    ∀ reordered, reordered.Perm latencies →
      buildPercentileLatencies reordered = buildPercentileLatencies latencies := by
  refine ⟨?_, fun _ _ => nearestRank_of_reported, ?_, fun _ => buildPercentileLatencies_eq_of_perm⟩
  · simp [buildPercentileLatencies, present, Function.comp_def]
  · intro lower value upper greater first second order
    exact OrderStatistic.le_of_le (sorted_sortLatencies latencies) (getElem?_of_reported first).2
      (getElem?_of_reported second).2 (percentileIndex_mono order)

theorem buildPercentileLatencies_nearestRank_three :
    (1 / 2, 2) ∈ buildPercentileLatencies [3, 1, 2] ∧ NearestRank [3, 1, 2] (1 / 2) 2 := by
  have reported : ((1 / 2, 2) : ℚ × ℚ) ∈ buildPercentileLatencies [3, 1, 2] := by decide +kernel
  exact ⟨reported, (buildPercentileLatencies_nearestRank (by decide)).2.1 _ _ reported⟩

end Kperf.Metrics
