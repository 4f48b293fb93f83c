import Kperf.Library.Decimal
import Kperf.Runner.Summary
import Mathlib.Algebra.BigOperators.Group.List.Lemmas
import Mathlib.Algebra.BigOperators.Ring.Finset

/-! The error statistics sort the errors into classes by type and code, or by type
and message. The classes are encoded as text; the encoding keeps them apart,
and merging the statistics of parts counts as for the whole. Counts are
integers here: below `2 ^ 31` errors an `int32` holds them. -/

set_option autoImplicit false

namespace Kperf.Runner.ErrorStatistics

open Types Metrics Summary

/-- Two errors are of one class. -/
def SameClass (left right : ResponseError) : Prop :=
  left.type = right.type ∧
    if left.type = .http then left.code = right.code else left.message = right.message

instance (left right : ResponseError) : Decidable (SameClass left right) :=
  inferInstanceAs (Decidable (_ ∧ _))

/-- The part of the key after the type. -/
def errorDetail (error : ResponseError) : String :=
  if error.type = .http then toString error.code else error.message

theorem errorKey_eq (error : ResponseError) :
    errorKey error = error.type.name ++ "/" ++ errorDetail error := by
  unfold errorKey errorDetail
  cases error.type <;> rfl

theorem slash_notMem_name (type : ResponseErrorType) : '/' ∉ type.name.toList := by
  cases type <;> decide

theorem name_injective {left right : ResponseErrorType} (same : left.name = right.name) :
    left = right := by
  revert same
  cases left <;> cases right <;> decide

/-- The first slash of a key ends the type, whatever the message holds. -/
theorem errorKey_eq_iff (left right : ResponseError) :
    errorKey left = errorKey right ↔ SameClass left right := by
  rw [errorKey_eq, errorKey_eq, SameClass]
  constructor
  · intro same
    have lists := congrArg String.toList same
    simp only [String.toList_append, List.append_assoc] at lists
    obtain ⟨names, details⟩ := Decimal.separator_append_inj (slash_notMem_name left.type)
      (slash_notMem_name right.type) lists
    have types := name_injective (String.toList_injective names)
    have detail := String.toList_injective details
    refine ⟨types, ?_⟩
    unfold errorDetail at detail
    rw [← types] at detail
    split_ifs at detail ⊢ with http
    · exact Decimal.toString_inj detail
    · exact detail
  · rintro ⟨types, detail⟩
    unfold errorDetail
    rw [← types]
    split_ifs at detail ⊢ with http
    · rw [detail]
    · rw [detail]

section Counts

variable (errors : List ResponseError)

theorem errorCount_eq_count (key : String) :
    errorCount key errors = (errors.map errorKey).count key := by
  rw [errorCount, List.count, List.countP_map]
  rfl

theorem keys_perm : (buildErrorStatsGroupByType errors).keys.Perm (errors.map errorKey).dedup := by
  refine (List.perm_ext_iff_of_nodup (AList.keys_nodup _) (List.nodup_dedup _)).mpr ?_
  intro key
  rw [List.mem_dedup, List.mem_map, ← AList.mem_keys, mem_buildErrorStats]

theorem number_of_entry {stats : StringMap Int} {entry : Sigma fun _ : String => Int}
    (listed : entry ∈ stats.entries) : StringMap.number stats entry.1 = entry.2 := by
  have found : stats.lookup entry.1 = some entry.2 := AList.mem_lookup_iff.mpr listed
  rw [StringMap.number, found]
  rfl

/-- The counts of all keys, added up. -/
def totalCount (stats : StringMap Int) : Int := (stats.entries.map Sigma.snd).sum

theorem totalCount_eq (stats : StringMap Int) :
    totalCount stats = (stats.keys.map (StringMap.number stats)).sum := by
  rw [totalCount, AList.keys, List.keys, List.map_map]
  refine congrArg List.sum (List.map_congr_left ?_)
  intro entry listed
  exact (number_of_entry listed).symm

theorem totalCount_buildErrorStats :
    totalCount (buildErrorStatsGroupByType errors) = errors.length := by
  have counts : ∀ key, StringMap.number (buildErrorStatsGroupByType errors) key =
      ((errors.map errorKey).count key : Int) := by
    intro key
    rw [number_buildErrorStats, errorCount_eq_count]
  rw [totalCount_eq, List.map_congr_left fun key _ => counts key, ((keys_perm errors).map _).sum_eq]
  have whole := List.sum_map_count_dedup_eq_length (errors.map errorKey)
  rw [List.length_map] at whole
  rw [← whole, Nat.cast_list_sum, List.map_map]
  rfl

theorem lookup_buildErrorStats {error : ResponseError} (listed : error ∈ errors) :
    (buildErrorStatsGroupByType errors).lookup (errorKey error) =
      some (errors.countP fun other => SameClass error other : Int) := by
  have present := (mem_buildErrorStats errors (errorKey error)).mpr ⟨error, listed, rfl⟩
  obtain ⟨count, found⟩ := Option.isSome_iff_exists.mp (AList.lookup_isSome.mpr present)
  have number := number_buildErrorStats errors (errorKey error)
  rw [StringMap.number, found, Option.getD_some] at number
  have classes : errorCount (errorKey error) errors = errors.countP fun other => SameClass error other := by
    unfold errorCount
    refine List.countP_congr fun other _ => ?_
    rw [decide_eq_true_iff, decide_eq_true_iff, eq_comm, errorKey_eq_iff]
  rw [found, number, classes]

theorem number_lt {bound : Int} (small : errors.length < bound) (key : String) :
    StringMap.number (buildErrorStatsGroupByType errors) key < bound := by
  have count : errorCount key errors ≤ errors.length := List.countP_le_length
  rw [number_buildErrorStats]
  omega

end Counts

/-- Statistics merged from those of parts, in some order, with the errors that the
parts hold. -/
inductive Merged : List ResponseError → StringMap Int → Prop where
  | empty : Merged [] ∅
  | part (errors : List ResponseError) : Merged errors (buildErrorStatsGroupByType errors)
  | merge {left right : List ResponseError} {stats added : StringMap Int} (order : RangeOrder) :
      Merged left stats → Merged right added →
      Merged (left ++ right) (mergeErrorStat order stats added)

namespace Merged

variable {errors : List ResponseError} {stats : StringMap Int}

theorem mem_iff (merged : Merged errors stats) (key : String) :
    key ∈ stats ↔ ∃ error ∈ errors, errorKey error = key := by
  induction merged with
  | empty => simp
  | part errors => exact mem_buildErrorStats errors key
  | merge order _ _ left right =>
      rw [mergeErrorStat, StringMap.mem_rangeUpdate, left, right]
      simp [or_and_right, exists_or]

theorem number_eq (merged : Merged errors stats) (key : String) :
    StringMap.number stats key = errorCount key errors := by
  induction merged with
  | empty => simp [StringMap.number, errorCount]
  | part errors => exact number_buildErrorStats errors key
  | merge order _ _ left right =>
      rw [number_mergeErrorStat, left, right, errorCount, errorCount, errorCount, List.countP_append]
      omega

theorem lookup_eq (merged : Merged errors stats) {whole : List ResponseError}
    (split : errors.Perm whole) (key : String) :
    stats.lookup key = (buildErrorStatsGroupByType whole).lookup key := by
  refine StringMap.lookup_eq_of_number ?_ ?_
  · rw [merged.mem_iff, mem_buildErrorStats]
    simp [split.mem_iff]
  · rw [merged.number_eq, number_buildErrorStats, errorCount, errorCount, split.countP_eq]

end Merged

/-- The statistics partition the errors: keys are classes, counts are class sizes
that an `int32` holds and that add up to the whole, and parts merge to the whole. -/
theorem errorStats_partition (errors : List ResponseError) (small : errors.length < 2 ^ 31) :
    (∀ left right, errorKey left = errorKey right ↔ SameClass left right) ∧
    (∀ key, key ∈ buildErrorStatsGroupByType errors ↔ ∃ error ∈ errors, errorKey error = key) ∧
    (∀ error ∈ errors, (buildErrorStatsGroupByType errors).lookup (errorKey error) =
      some (errors.countP fun other => SameClass error other : Int)) ∧
    totalCount (buildErrorStatsGroupByType errors) = errors.length ∧
    (∀ key, StringMap.number (buildErrorStatsGroupByType errors) key < 2 ^ 31) ∧
    ∀ merged stats, Merged merged stats → merged.Perm errors →
      ∀ key, stats.lookup key = (buildErrorStatsGroupByType errors).lookup key := by
  refine ⟨errorKey_eq_iff, mem_buildErrorStats errors, fun error => lookup_buildErrorStats errors,
    totalCount_buildErrorStats errors, number_lt errors (by omega), ?_⟩
  intro merged stats built split key
  exact built.lookup_eq split key

def sampleErrors : List ResponseError :=
  [⟨"GET", "/", 0, 0, .http, 429, ""⟩, ⟨"GET", "/", 1, 0, .unknown, 0, "a/429"⟩,
    ⟨"GET", "/", 2, 0, .http, 429, ""⟩]

theorem errorStats_partition_sample :
    sampleErrors.length < 2 ^ 31 ∧
      totalCount (buildErrorStatsGroupByType sampleErrors) = sampleErrors.length :=
  ⟨by decide, (errorStats_partition sampleErrors (by decide)).2.2.2.1⟩

end Kperf.Runner.ErrorStatistics
