import Mathlib.Algebra.BigOperators.Finprod

/-! Goroutines that do the same work. How much of it is left is the sum of what each
of them has left; a step of one changes only its own summand. -/

set_option autoImplicit false

namespace Kperf

variable {Id Worker Amount : Type} [AddCommMonoid Amount]

def crewWork (weight : Worker → Amount) (ids : Finset Id) (crew : Id → Worker) : Amount :=
  ∑ id ∈ ids, weight (crew id)

theorem crewWork_eq_zero {weight : Worker → Amount} {ids : Finset Id} {crew : Id → Worker}
    (idle : ∀ id, weight (crew id) = 0) : crewWork weight ids crew = 0 :=
  Finset.sum_eq_zero fun id _ => idle id

variable [DecidableEq Id]

theorem crewWork_update (weight : Worker → Amount) {ids : Finset Id} {id : Id} (crew : Id → Worker)
    (updated : Worker) (member : id ∈ ids) :
    crewWork weight ids (Function.update crew id updated) + weight (crew id) =
      crewWork weight ids crew + weight updated := by
  have split : ∀ crew, crewWork weight ids crew = weight (crew id) +
      ∑ other ∈ ids.erase id, weight (crew other) := fun crew =>
    (Finset.add_sum_erase _ (fun other => weight (crew other)) member).symm
  have others : ∀ other ∈ ids.erase id,
      weight (Function.update crew id updated other) = weight (crew other) := by
    intro other apart
    rw [Function.update_of_ne (Finset.ne_of_mem_erase apart)]
  rw [split, split crew, Finset.sum_congr rfl others, Function.update_self]
  rw [add_comm, ← add_assoc, add_right_comm]

/-- The same for a crew that is not listed. -/
theorem finsum_update (weights updated : Id → Nat) (id : Id) (finite : weights.support.Finite)
    (others : ∀ other, other ≠ id → updated other = weights other) :
    finsum updated + weights id = finsum weights + updated id := by
  have same : updated = Function.update weights id (updated id) := by
    funext other
    by_cases own : other = id
    · rw [own, Function.update_self]
    · rw [Function.update_of_ne own, others other own]
  have before : weights.support ⊆ (insert id finite.toFinset : Finset Id) := by
    intro other busy
    simp [Function.mem_support.mp busy]
  have after : (Function.update weights id (updated id)).support ⊆
      (insert id finite.toFinset : Finset Id) := by
    intro other busy
    by_cases own : other = id
    · simp [own]
    · rw [Function.mem_support, Function.update_of_ne own] at busy
      simp [busy]
  rw [same, finsum_eq_sum_of_support_subset _ after, finsum_eq_sum_of_support_subset _ before,
    Function.update_self]
  exact crewWork_update (fun weight => weight) weights (updated id) (Finset.mem_insert_self _ _)

end Kperf
