import Kperf.Library.Transition
import Mathlib.Data.List.Nodup
import Mathlib.Data.List.Perm.Basic

/-! Numbered items that are issued in order, held by at most one holder each,
and settled once. Nothing is lost: when nobody holds anything, the settled
items are exactly those that were issued. -/

set_option autoImplicit false

namespace Kperf

structure Ledger (Holder : Type) where
  issued : Nat
  held : Holder → Option Nat
  settled : List Nat

namespace Ledger

variable {Holder : Type} {ledger : Ledger Holder} {holder : Holder} {item : Nat}

/-- Every issued item is in exactly one place. -/
structure Balanced (ledger : Ledger Holder) : Prop where
  heldIssued : ∀ {holder item}, ledger.held holder = some item → item < ledger.issued
  heldOnce : ∀ {left right item}, ledger.held left = some item →
    ledger.held right = some item → left = right
  settledIssued : ∀ {item}, item ∈ ledger.settled → item < ledger.issued
  settledOnce : ledger.settled.Nodup
  apart : ∀ {holder item}, ledger.held holder = some item → item ∉ ledger.settled
  covered : ∀ {item}, item < ledger.issued →
    item ∈ ledger.settled ∨ ∃ holder, ledger.held holder = some item

theorem balanced_empty {held : Holder → Option Nat} (nobody : ∀ holder, held holder = none) :
    Balanced ⟨0, held, []⟩ := by
  constructor <;> simp [nobody]

theorem Balanced.issue [DecidableEq Holder] (balanced : ledger.Balanced)
    (free : ledger.held holder = none) :
    Balanced ⟨ledger.issued + 1, Function.update ledger.held holder (some ledger.issued),
      ledger.settled⟩ where
  heldIssued := by
    intro other item held
    dsimp only at held ⊢
    rw [Function.update_apply] at held
    split at held
    · cases held
      exact Nat.lt_succ_self _
    · exact Nat.lt_succ_of_lt (balanced.heldIssued held)
  heldOnce := by
    intro left right item first second
    dsimp only at first second
    rw [Function.update_apply] at first second
    split at first <;> split at second
    · rename_i here there
      exact here.trans there.symm
    · cases first
      exact absurd (balanced.heldIssued second) (Nat.lt_irrefl _)
    · cases second
      exact absurd (balanced.heldIssued first) (Nat.lt_irrefl _)
    · exact balanced.heldOnce first second
  settledIssued := fun member => Nat.lt_succ_of_lt (balanced.settledIssued member)
  settledOnce := balanced.settledOnce
  apart := by
    intro other item held
    dsimp only at held ⊢
    rw [Function.update_apply] at held
    split at held
    · cases held
      exact fun member => absurd (balanced.settledIssued member) (Nat.lt_irrefl _)
    · exact balanced.apart held
  covered := by
    intro item below
    dsimp only at below ⊢
    by_cases last : item = ledger.issued
    · exact .inr ⟨holder, by simp [last]⟩
    · rcases balanced.covered (show item < ledger.issued by omega) with settled | ⟨other, held⟩
      · exact .inl settled
      · refine .inr ⟨other, ?_⟩
        rw [Function.update_of_ne]
        · exact held
        · rintro rfl
          rw [free] at held
          cases held

theorem Balanced.settle [DecidableEq Holder] {settled : List Nat} (balanced : ledger.Balanced)
    (holds : ledger.held holder = some item) (added : settled.Perm (item :: ledger.settled)) :
    Balanced ⟨ledger.issued, Function.update ledger.held holder none, settled⟩ where
  heldIssued := by
    intro other item held
    exact balanced.heldIssued (update_none_eq_some.mp held).2
  heldOnce := by
    intro left right item first second
    exact balanced.heldOnce (update_none_eq_some.mp first).2 (update_none_eq_some.mp second).2
  settledIssued := by
    intro other member
    rcases List.mem_cons.mp (added.mem_iff.mp member) with rfl | earlier
    · exact balanced.heldIssued holds
    · exact balanced.settledIssued earlier
  settledOnce := by
    rw [added.nodup_iff, List.nodup_cons]
    exact ⟨balanced.apart holds, balanced.settledOnce⟩
  apart := by
    intro other kept held member
    obtain ⟨different, held⟩ := update_none_eq_some.mp held
    rcases List.mem_cons.mp (added.mem_iff.mp member) with rfl | earlier
    · exact different (balanced.heldOnce held holds)
    · exact balanced.apart held earlier
  covered := by
    intro other below
    dsimp only at below ⊢
    rcases balanced.covered below with settled | ⟨keeper, held⟩
    · exact .inl (added.mem_iff.mpr (List.mem_cons_of_mem _ settled))
    · by_cases mine : keeper = holder
      · subst keeper
        rw [holds] at held
        cases held
        exact .inl (added.mem_iff.mpr List.mem_cons_self)
      · exact .inr ⟨keeper, by rw [Function.update_of_ne mine, held]⟩

/-- With nothing held, the settled items are those that were issued, once each. -/
theorem Balanced.perm_range (balanced : ledger.Balanced)
    (nobody : ∀ holder, ledger.held holder = none) :
    ledger.settled.Perm (List.range ledger.issued) := by
  rw [List.perm_ext_iff_of_nodup balanced.settledOnce List.nodup_range]
  intro item
  rw [List.mem_range]
  refine ⟨balanced.settledIssued, fun below => ?_⟩
  rcases balanced.covered below with settled | ⟨holder, held⟩
  · exact settled
  · rw [nobody] at held
    cases held

end Ledger

end Kperf
