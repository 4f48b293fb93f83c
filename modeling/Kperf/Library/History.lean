import Mathlib.Data.List.Basic

/-! Properties of append-only histories. A law about events relates each event
to the events recorded before it, so it is checked once, when the event is
appended. -/

set_option autoImplicit false

namespace Kperf.History

universe u

variable {Event : Type u} {lawful : List Event → Event → Prop}

/-- Every event of the history is lawful after the events before it. -/
def Lawful (lawful : List Event → Event → Prop) (history : List Event) : Prop :=
  ∀ before event after, history = before ++ event :: after → lawful before event

theorem lawful_nil : Lawful lawful [] := by
  intro before event after split
  simp at split

theorem lawful_append_singleton {history : List Event} {event : Event}
    (earlier : Lawful lawful history) (last : lawful history event) :
    Lawful lawful (history ++ [event]) := by
  intro before chosen after split
  rcases after.eq_nil_or_concat with rfl | ⟨rest, final, rfl⟩
  · obtain ⟨rfl, same⟩ := List.append_inj' split rfl
    cases same
    exact last
  · have regrouped : history ++ [event] = (before ++ chosen :: rest) ++ [final] := by
      simpa using split
    obtain ⟨same, -⟩ := List.append_inj' regrouped rfl
    exact earlier before chosen rest same

end Kperf.History
