import Mathlib.Order.Lattice

/-! How many elements of a list lie below the element at a position of its sorted
form. -/

set_option autoImplicit false

namespace Kperf.OrderStatistic

variable {α : Type} {sorted : List α} {index : Nat} {value : α}

theorem sorted_split (found : sorted[index]? = some value) :
    sorted = sorted.take index ++ value :: sorted.drop (index + 1) := by
  obtain ⟨inside, rfl⟩ := List.getElem?_eq_some_iff.mp found
  rw [← List.drop_eq_getElem_cons inside, List.take_append_drop]

variable [LinearOrder α]

theorem le_countP_le (ordered : sorted.Pairwise (· ≤ ·)) (found : sorted[index]? = some value) :
    index + 1 ≤ sorted.countP (· ≤ value) := by
  obtain ⟨inside, -⟩ := List.getElem?_eq_some_iff.mp found
  have split := sorted_split found
  rw [split] at ordered
  have earlier : ∀ item ∈ sorted.take index, decide (item ≤ value) = true := by
    intro item member
    exact decide_eq_true ((List.pairwise_append.mp ordered).2.2 item member value List.mem_cons_self)
  have count := List.countP_eq_length.mpr earlier
  rw [List.length_take, Nat.min_eq_left (Nat.le_of_lt inside)] at count
  rw [split, List.countP_append, count, List.countP_cons_of_pos (by simp)]
  omega

theorem countP_lt_le (ordered : sorted.Pairwise (· ≤ ·)) (found : sorted[index]? = some value) :
    sorted.countP (· < value) ≤ index := by
  have split := sorted_split found
  rw [split] at ordered
  have later : ∀ item ∈ value :: sorted.drop (index + 1), ¬decide (item < value) = true := by
    intro item member
    have above := List.pairwise_cons.mp (List.pairwise_append.mp ordered).2.1
    cases List.mem_cons.mp member with
    | inl same => simp [same]
    | inr member => simpa using above.1 item member
  rw [split, List.countP_append, List.countP_eq_zero.mpr later]
  exact Nat.le_trans List.countP_le_length (List.length_take_le _ _)

/-- The first element of the sorted list is the least. -/
theorem least (ordered : sorted.Pairwise (· ≤ ·)) (found : sorted[0]? = some value) :
    ∀ item ∈ sorted, value ≤ item := by
  have none := Nat.le_zero.mp (countP_lt_le ordered found)
  intro item member
  simpa using List.countP_eq_zero.mp none item member

/-- The last element of the sorted list is the greatest. -/
theorem greatest (ordered : sorted.Pairwise (· ≤ ·)) (found : sorted[index]? = some value)
    (last : index + 1 = sorted.length) : ∀ item ∈ sorted, item ≤ value := by
  have all := le_countP_le ordered found
  rw [last] at all
  have every := List.countP_eq_length.mp (Nat.le_antisymm List.countP_le_length all)
  intro item member
  simpa using every item member

theorem le_of_le (ordered : sorted.Pairwise (· ≤ ·)) {later : Nat} {upper : α}
    (found : sorted[index]? = some value) (above : sorted[later]? = some upper)
    (order : index ≤ later) : value ≤ upper := by
  obtain ⟨inside, rfl⟩ := List.getElem?_eq_some_iff.mp found
  obtain ⟨within, rfl⟩ := List.getElem?_eq_some_iff.mp above
  cases Nat.lt_or_eq_of_le order with
  | inl before => exact List.pairwise_iff_getElem.mp ordered index later inside within before
  | inr same =>
      subst same
      exact le_rfl

end Kperf.OrderStatistic
