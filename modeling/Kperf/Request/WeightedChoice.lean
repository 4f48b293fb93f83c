import Kperf.Request.Generation
import Mathlib.Order.Interval.Finset.Nat

/-! The weighted choice: each of the draws below the sum of the shares belongs to
exactly one builder, the one whose interval of cumulated shares contains it. -/

set_option autoImplicit false

namespace Kperf.Request

open Types Outcome

/-- The shares before a position, summed up. -/
def cumulated (shares : List Int) (index : Nat) : Int := (shares.take index).sum

theorem cumulated_nonneg {shares : List Int} (signed : ∀ share ∈ shares, 0 ≤ share) (index : Nat) :
    0 ≤ cumulated shares index :=
  List.sum_nonneg fun share member => signed share (List.mem_of_mem_take member)

@[simp] theorem cumulated_zero (shares : List Int) : cumulated shares 0 = 0 := by
  simp [cumulated]

@[simp] theorem cumulated_cons (share : Int) (rest : List Int) (index : Nat) :
    cumulated (share :: rest) (index + 1) = share + cumulated rest index := by
  simp [cumulated]

theorem cumulated_succ {shares : List Int} {index : Nat} {share : Int}
    (listed : shares[index]? = some share) :
    cumulated shares (index + 1) = cumulated shares index + share := by
  simp [cumulated, List.take_add_one, listed]

/-- The loop of `randomPick` stops where the cumulated shares pass the draw. -/
theorem pickIndex_eq_ok {shares : List Int} {drawn : Int} {index : Nat}
    (signed : ∀ share ∈ shares, 0 ≤ share) (start : 0 ≤ drawn) :
    pickIndex shares drawn = .ok index ↔
      cumulated shares index ≤ drawn ∧ drawn < cumulated shares (index + 1) := by
  induction shares generalizing drawn index with
  | nil => simp [pickIndex, panics, cumulated, Int.not_lt.mpr start]
  | cons share rest ih =>
      obtain ⟨-, signed⟩ := List.forall_mem_cons.mp signed
      have later := cumulated_nonneg signed
      by_cases here : drawn < share
      · rw [pickIndex, if_pos here]
        cases index with
        | zero => simp [here, start]
        | succ index =>
            have beyond := later index
            simp only [Except.ok.injEq, Nat.zero_ne_add_one, false_iff, cumulated_cons]
            omega
      · rw [pickIndex, if_neg here, map_eq_ok]
        cases index with
        | zero => simp [here]
        | succ index =>
            have left : 0 ≤ drawn - share := by omega
            simp only [Nat.add_right_cancel_iff, exists_eq_right, ih signed left, cumulated_cons]
            omega

variable {requests : WeightedRandomRequests}

/-- The shares are as validation leaves them, and their sum is drawn from. -/
structure Weighted (requests : WeightedRandomRequests) : Prop where
  signed : ∀ share ∈ requests.shares, 0 ≤ share
  positive : 0 < requests.shares.sum
  small : requests.shares.sum < 2 ^ 63
  paired : requests.reqBuilders.length = requests.shares.length

theorem Weighted.randomPick_eq (weighted : Weighted requests) {drawn : Nat}
    (below : drawn < requests.shares.sum) :
    requests.randomPick drawn = pickIndex requests.shares drawn := by
  have wrapped := foldl_addInt64 requests.shares 0
  rw [Int.zero_bmod, Int.zero_add] at wrapped
  have exact : requests.shares.foldl addInt64 0 = requests.shares.sum := by
    rw [wrapped]
    have positive := weighted.positive
    have small := weighted.small
    exact Int.bmod_eq_of_le (by omega) (by omega)
  rw [WeightedRandomRequests.randomPick, exact, randInt, if_neg (Int.not_le.mpr weighted.positive),
    Int.emod_eq_of_lt (Int.natCast_nonneg drawn) below]
  rfl

theorem Weighted.randomPick_eq_ok (weighted : Weighted requests) {drawn index : Nat}
    (below : drawn < requests.shares.sum) :
    requests.randomPick drawn = .ok index ↔
      cumulated requests.shares index ≤ drawn ∧ drawn < cumulated requests.shares (index + 1) := by
  rw [weighted.randomPick_eq below, pickIndex_eq_ok weighted.signed (Int.natCast_nonneg drawn)]

/-- The draws that select a builder. -/
def selecting (requests : WeightedRandomRequests) (index : Nat) : Finset Nat :=
  (Finset.range requests.shares.sum.toNat).filter fun drawn => requests.randomPick drawn = .ok index

theorem cumulated_le_sum {shares : List Int} (signed : ∀ share ∈ shares, 0 ≤ share) (index : Nat) :
    cumulated shares index ≤ shares.sum := by
  have rest := List.sum_nonneg fun share (member : share ∈ shares.drop index) =>
    signed share (List.mem_of_mem_drop member)
  have whole := List.sum_take_add_sum_drop shares index
  rw [cumulated]
  omega

theorem Weighted.selecting_eq (weighted : Weighted requests) (index : Nat) :
    selecting requests index = Finset.Ico (cumulated requests.shares index).toNat
      (cumulated requests.shares (index + 1)).toNat := by
  ext drawn
  have bound := cumulated_le_sum weighted.signed (index + 1)
  simp only [selecting, Finset.mem_filter, Finset.mem_range, Finset.mem_Ico]
  constructor
  · rintro ⟨below, picked⟩
    have inside := (weighted.randomPick_eq_ok (by omega)).mp picked
    omega
  · intro inside
    have below : drawn < requests.shares.sum := by omega
    exact ⟨by omega, (weighted.randomPick_eq_ok below).mpr (by omega)⟩

theorem Weighted.picked_interval (weighted : Weighted requests) {drawn : Nat}
    (below : drawn < requests.shares.sum) :
    ∃ index builder, requests.randomPick drawn = .ok index ∧
      requests.reqBuilders[index]? = some builder ∧
      cumulated requests.shares index ≤ drawn ∧ drawn < cumulated requests.shares (index + 1) := by
  obtain ⟨index, share, picked, listed, -⟩ := pickIndex_ok (Int.natCast_nonneg drawn) below
  obtain ⟨inside, -⟩ := List.getElem?_eq_some_iff.mp listed
  rw [← weighted.paired] at inside
  rw [← weighted.randomPick_eq below] at picked
  exact ⟨index, _, picked, List.getElem?_eq_getElem inside, (weighted.randomPick_eq_ok below).mp picked⟩

theorem Weighted.card_selecting (weighted : Weighted requests) {index : Nat} {share : Int}
    (listed : requests.shares[index]? = some share) :
    (selecting requests index).card = share := by
  have signed := weighted.signed share (List.mem_of_getElem? listed)
  have start := cumulated_nonneg weighted.signed index
  rw [weighted.selecting_eq, Nat.card_Ico, cumulated_succ listed]
  omega

/-- Every draw selects the builder whose interval contains it, and as many draws
select a builder as it has shares. -/
theorem randomPick_exact (weighted : Weighted requests) :
    (∀ drawn : Nat, drawn < requests.shares.sum →
      ∃ index builder, requests.randomPick drawn = .ok index ∧
        requests.reqBuilders[index]? = some builder ∧
        cumulated requests.shares index ≤ drawn ∧
        drawn < cumulated requests.shares (index + 1)) ∧
    (∀ (index : Nat) (share : Int), requests.shares[index]? = some share →
      (selecting requests index).card = share) ∧
    ∀ index : Nat, requests.shares[index]? = some 0 → ∀ drawn : Nat, drawn < requests.shares.sum →
      requests.randomPick drawn ≠ .ok index := by
  refine ⟨fun drawn => weighted.picked_interval, fun index share => weighted.card_selecting, ?_⟩
  intro index listed drawn below picked
  have inside := (weighted.randomPick_eq_ok below).mp picked
  rw [cumulated_succ listed] at inside
  omega

def mixedReads : WeightedRandomRequests where
  shares := [70, 0, 30]
  reqBuilders := List.replicate 3 (.get ⟨⟨⟨"", "v1", "nodes"⟩, "", "node"⟩, "0", 0⟩)

theorem randomPick_exact_mixedReads : Weighted mixedReads ∧ (selecting mixedReads 2).card = (30 : Int) := by
  have weighted : Weighted mixedReads := ⟨by decide, by decide, by decide, rfl⟩
  exact ⟨weighted, (randomPick_exact weighted).2.1 2 30 rfl⟩

end Kperf.Request
