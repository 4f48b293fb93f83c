import Kperf.Library.Transition

/-! What a transition system arrives at whatever is scheduled. A scheduler may
take any step that is open; all that is asked of it is not to leave the system
standing while one of its own steps would move it. -/

set_option autoImplicit false

namespace Kperf.TransitionSystem

universe u v w

variable {State : Type u} {Label : Type v}

/-- `goal` is reached along every continuation. The `driving` steps are those
the system takes by itself; a step that changes nothing does not count. -/
inductive Inevitable (system : TransitionSystem State Label) (driving : Label → Prop)
    (goal : State → Prop) : State → Prop where
  | reached {state : State} : goal state → Inevitable system driving goal state
  | onward {state : State} :
      (∃ label next, driving label ∧ system.step state label = some next ∧ next ≠ state) →
      (∀ {label next}, system.step state label = some next → next ≠ state →
        Inevitable system driving goal next) →
      Inevitable system driving goal state

variable {system : TransitionSystem State Label} {driving : Label → Prop}
variable {goal : State → Prop}

/-- The descent rule: every step that changes the state goes down in a well-founded
order, and short of the goal some driving step is open. -/
theorem inevitable_of_descent {Rank : Type w} {below : Rank → Rank → Prop}
    (founded : WellFounded below) (rank : State → Rank) (kept : State → Prop)
    (keep : ∀ {state next label}, system.step state label = some next → kept state → kept next)
    (lower : ∀ {state next label}, system.step state label = some next → kept state →
      next = state ∨ below (rank next) (rank state))
    (moves : ∀ {state}, kept state → ¬goal state →
      ∃ label next, driving label ∧ system.step state label = some next ∧ next ≠ state)
    {state : State} (start : kept state) : system.Inevitable driving goal state := by
  induction bound : rank state using founded.induction generalizing state with
  | _ ranked ih =>
      subst bound
      by_cases there : goal state
      · exact .reached there
      · refine .onward (moves start there) fun stepped changed => ?_
        cases lower stepped start with
        | inl same => exact absurd same changed
        | inr less => exact ih _ less (keep stepped start) rfl

/-- The rank rule: every step that changes the state lowers `rank`, and short
of the goal some driving step is open. -/
theorem inevitable_of_rank (rank : State → Nat) (kept : State → Prop)
    (keep : ∀ {state next label}, system.step state label = some next → kept state → kept next)
    (lower : ∀ {state next label}, system.step state label = some next → kept state →
      next = state ∨ rank next < rank state)
    (moves : ∀ {state}, kept state → ¬goal state →
      ∃ label next, driving label ∧ system.step state label = some next ∧ next ≠ state)
    {state : State} (start : kept state) : system.Inevitable driving goal state :=
  inevitable_of_descent Nat.lt_wfRel.wf rank kept keep lower moves start

/-- The system as far as only steps that are admitted occur. -/
def during (system : TransitionSystem State Label) (admits : State → Label → Bool) :
    TransitionSystem State Label where
  initial := system.initial
  step := fun state label => if admits state label then system.step state label else none

theorem during_step_eq_some {admits : State → Label → Bool} {state next : State} {label : Label} :
    (system.during admits).step state label = some next ↔
      admits state label = true ∧ system.step state label = some next :=
  Option.ite_none_right_eq_some

/-- The same when it depends on nothing but the label. -/
def only (system : TransitionSystem State Label) (admits : Label → Bool) :
    TransitionSystem State Label :=
  system.during fun _ => admits

theorem only_step_eq_some {admits : Label → Bool} {state next : State} {label : Label} :
    (system.only admits).step state label = some next ↔
      admits label = true ∧ system.step state label = some next :=
  during_step_eq_some

end Kperf.TransitionSystem
