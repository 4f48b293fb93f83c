import Mathlib.Data.List.Induction
import Mathlib.Logic.Basic
import Mathlib.Logic.Function.Basic

/-! Transition systems given by a step function. A label fixes every choice of
a step, so one trace of labels can be replayed by evaluation and a property of
all traces is proved by induction on the run. -/

set_option autoImplicit false

namespace Kperf

universe u v w x

/-- A component of a state that is a partial function, emptied at one key. -/
theorem update_none_eq_some {Key : Type u} {Value : Type v} [DecidableEq Key]
    {component : Key → Option Value} {key other : Key} {value : Value} :
    Function.update component key none other = some value ↔
      other ≠ key ∧ component other = some value := by
  by_cases same : other = key
  · simp [same]
  · simp [same]

/-- A system moves from a state along a label, or the label is not enabled. -/
structure TransitionSystem (State : Type u) (Label : Type v) where
  initial : State → Prop
  step : State → Label → Option State

namespace TransitionSystem

variable {State : Type u} {Label : Type v}

/-- Runs all of whose steps are admitted by `allowed`, judged in the state
before the step. The trace lists the labels in the order they were taken. -/
inductive RunWith (system : TransitionSystem State Label)
    (allowed : State → Label → Prop) : List Label → State → Prop where
  | start {state : State} :
      system.initial state → RunWith system allowed [] state
  | step {trace : List Label} {state next : State} {label : Label} :
      RunWith system allowed trace state → allowed state label →
      system.step state label = some next →
      RunWith system allowed (trace ++ [label]) next

abbrev Run (system : TransitionSystem State Label) : List Label → State → Prop :=
  system.RunWith fun _ _ => True

variable {system : TransitionSystem State Label}
variable {allowed : State → Label → Prop} {trace : List Label} {state : State}

/-- The invariant rule: a property of the initial states that every admitted
step keeps holds wherever an admitted run arrives. -/
theorem RunWith.invariant {holds : State → Prop}
    (run : system.RunWith allowed trace state)
    (start : ∀ state, system.initial state → holds state)
    (keep : ∀ {state next : State} {label : Label}, allowed state label →
      system.step state label = some next → holds state → holds next) :
    holds state := by
  induction run with
  | start initial => exact start _ initial
  | step _ admitted stepped ih => exact keep admitted stepped ih

theorem RunWith.invariant_using {known holds : State → Prop}
    (run : system.RunWith allowed trace state)
    (established : ∀ {trace : List Label} {state : State},
      system.RunWith allowed trace state → known state)
    (start : ∀ state, system.initial state → holds state)
    (keep : ∀ {state next : State} {label : Label}, allowed state label →
      system.step state label = some next → known state → known next →
      holds state → holds next) :
    holds state := by
  induction run with
  | start initial => exact start _ initial
  | step earlier admitted stepped ih =>
      exact keep admitted stepped (established earlier)
        (established (.step earlier admitted stepped)) ih

theorem RunWith.mono {weaker : State → Label → Prop}
    (run : system.RunWith allowed trace state)
    (implies : ∀ state label, allowed state label → weaker state label) :
    system.RunWith weaker trace state := by
  induction run with
  | start initial => exact .start initial
  | step _ admitted stepped ih => exact .step ih (implies _ _ admitted) stepped

theorem RunWith.admitted {admits : Label → Prop} (run : system.RunWith allowed trace state)
    (implies : ∀ state label, allowed state label → admits label) :
    ∀ label ∈ trace, admits label := by
  induction run with
  | start => nofun
  | step _ admitted _ ih =>
      intro label member
      cases List.mem_append.mp member with
      | inl earlier => exact ih label earlier
      | inr last =>
          cases List.mem_singleton.mp last
          exact implies _ _ admitted

theorem RunWith.restrict {admits : Label → Prop} (run : system.RunWith allowed trace state)
    (all : ∀ label ∈ trace, admits label) :
    system.RunWith (fun state label => allowed state label ∧ admits label) trace state := by
  induction run with
  | start initial => exact .start initial
  | step _ admitted stepped ih =>
      refine .step (ih fun label member => all label ?_) ⟨admitted, all _ ?_⟩ stepped
      · exact List.mem_append_left _ member
      · exact List.mem_append_right _ (List.mem_singleton.mpr rfl)

theorem RunWith.last {label : Label} (run : system.RunWith allowed (trace ++ [label]) state) :
    ∃ previous, system.RunWith allowed trace previous ∧ allowed previous label ∧
      system.step previous label = some state := by
  generalize whole : trace ++ [label] = labels at run
  cases run with
  | start => simp at whole
  | step earlier admitted stepped =>
      obtain ⟨rfl, same⟩ := List.append_inj' whole rfl
      cases same
      exact ⟨_, earlier, admitted, stepped⟩

theorem RunWith.take {before after : List Label}
    (run : system.RunWith allowed (before ++ after) state) :
    ∃ previous, system.RunWith allowed before previous := by
  induction after using List.reverseRecOn generalizing state with
  | nil =>
      rw [List.append_nil] at run
      exact ⟨state, run⟩
  | append_singleton after label ih =>
      rw [← List.append_assoc] at run
      obtain ⟨previous, earlier, -⟩ := run.last
      exact ih earlier

/-- Projection onto a component: when every admitted step either leaves the
view alone or moves it by an admitted step of the component, each admitted
run of the whole is, seen through the view, an admitted run of the component. -/
theorem RunWith.project {View : Type w} {Action : Type x}
    {component : TransitionSystem View Action} {permitted : View → Action → Prop}
    (view : State → View) (run : system.RunWith allowed trace state)
    (start : ∀ state, system.initial state → component.initial (view state))
    (simulate : ∀ {state next : State} {label : Label}, allowed state label →
      system.step state label = some next →
      view next = view state ∨ ∃ action, permitted (view state) action ∧
        component.step (view state) action = some (view next)) :
    ∃ actions, component.RunWith permitted actions (view state) := by
  induction run with
  | start initial => exact ⟨[], .start (start _ initial)⟩
  | step _ admitted stepped ih =>
      obtain ⟨actions, below⟩ := ih
      rcases simulate admitted stepped with unchanged | ⟨action, fits, moved⟩
      · exact ⟨actions, unchanged ▸ below⟩
      · exact ⟨actions ++ [action], .step below fits moved⟩

def executeWith (system : TransitionSystem State Label)
    (allowed : State → Label → Prop) [∀ state label, Decidable (allowed state label)] :
    State → List Label → Option State
  | state, [] => some state
  | state, label :: rest =>
      if allowed state label then
        (system.step state label).bind fun next => system.executeWith allowed next rest
      else none

def execute (system : TransitionSystem State Label) (state : State)
    (labels : List Label) : Option State :=
  system.executeWith (fun _ _ => True) state labels

theorem RunWith.executeWith [∀ state label, Decidable (allowed state label)]
    {labels : List Label} {final : State}
    (run : system.RunWith allowed trace state)
    (executed : system.executeWith allowed state labels = some final) :
    system.RunWith allowed (trace ++ labels) final := by
  induction labels generalizing trace state with
  | nil =>
      simp only [TransitionSystem.executeWith, Option.some.injEq] at executed
      subst final
      simpa using run
  | cons label rest ih =>
      simp only [TransitionSystem.executeWith] at executed
      split at executed
      · rename_i admitted
        obtain ⟨next, stepped, continued⟩ := Option.bind_eq_some_iff.mp executed
        simpa using ih (.step run admitted stepped) continued
      · cases executed

/-- What a replay from an initial state arrives at is reached by a run. -/
theorem runWith_of_executeWith [∀ state label, Decidable (allowed state label)]
    {labels : List Label} {final : State} (initial : system.initial state)
    (executed : final ∈ system.executeWith allowed state labels) :
    system.RunWith allowed labels final := by
  simpa using (RunWith.start initial).executeWith executed

end TransitionSystem

section Machine

variable {State : Type u} {Label : Type v} {step : State → Label → State} {start : State}
variable {labels : List Label}

private theorem foldl_kept {kept : State → Prop} {fits : State → Label → Prop}
    (initial : kept start)
    (keep : ∀ state, ∀ label ∈ labels, kept state → fits state label → kept (step state label))
    (fitting : ∀ before label, before ++ [label] <+: labels → kept (before.foldl step start) →
      fits (before.foldl step start) label) :
    ∀ before, before <+: labels → kept (before.foldl step start) := by
  intro before
  induction before using List.reverseRecOn with
  | nil => exact fun _ => initial
  | append_singleton before label ih =>
      intro reached
      have earlier := ih ((List.prefix_append before [label]).trans reached)
      have member : label ∈ labels := reached.subset (by simp)
      rw [List.foldl_append]
      exact keep _ label member earlier (fitting before label reached earlier)

/-- A machine that takes every input: a property holds in all states of a run
exactly when all its steps fit, given an invariant that fitting steps keep and
from which only a fitting step leads to the property again. -/
theorem foldl_throughout_iff (kept holds : State → Prop) (fits : State → Label → Prop)
    (initial : kept start) (implied : ∀ state, kept state → holds state)
    (keep : ∀ state, ∀ label ∈ labels, kept state → fits state label → kept (step state label))
    (only : ∀ state, ∀ label ∈ labels, kept state → holds (step state label) →
      fits state label) :
    (∀ before, before <+: labels → holds (before.foldl step start)) ↔
      ∀ before label, before ++ [label] <+: labels → fits (before.foldl step start) label := by
  constructor
  · intro throughout before label reached
    have fitting : ∀ before label, before ++ [label] <+: labels →
        kept (before.foldl step start) → fits (before.foldl step start) label := by
      intro before label reached earlier
      have after := throughout _ reached
      rw [List.foldl_append] at after
      exact only _ label (reached.subset (by simp)) earlier after
    have earlier := foldl_kept initial keep fitting before
      ((List.prefix_append before [label]).trans reached)
    exact fitting before label reached earlier
  · intro fitting before reached
    exact implied _
      (foldl_kept initial keep (fun before label more _ => fitting before label more) before reached)

end Machine

end Kperf
