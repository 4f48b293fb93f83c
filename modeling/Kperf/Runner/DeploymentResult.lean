import Kperf.Runner.DeploymentSafety

/-! What `deployRunnerGroups` returns, against what its goroutines returned: the
channel holds each group's result once, and the result of the whole is the first
error in the order of arrival. -/

set_option autoImplicit false

namespace Kperf.Runner.Deployment

open Types Outcome

/-- `Deploy` has returned once for every group. -/
def AllReturned (setting : Setting) (state : State) : Prop :=
  (state.results.map Prod.fst).Perm (List.range setting.groups.length)

/-- The error is the first one to arrive. -/
def FirstError (results : List (Nat × Option String)) (err : String) : Prop :=
  ∃ earlier idx later, results = earlier ++ (idx, some err) :: later ∧
    ∀ result ∈ earlier, result.2 = none

/-- The results and the channel, by where `deployRunnerGroups` stands. -/
def Counts (setting : Setting) (state : State) : Main → Prop
  | .booting => state.errCh = .empty ∧ state.results = []
  | .spawning next => next ≤ setting.groups.length ∧
      state.errCh = ⟨state.results.map Prod.snd, false⟩ ∧ (state.results.map Prod.fst).Nodup ∧
      ∀ idx, idx ∈ state.results.map Prod.fst ↔ idx < next ∧ state.deploys idx = .exited
  | .draining => AllReturned setting state ∧ state.errCh.closed = true ∧
      ∃ drained, state.results.map Prod.snd = drained ++ state.errCh.buffer ∧
        ∀ result ∈ drained, result = none
  | .returned none => AllReturned setting state ∧ ∀ result ∈ state.results, result.2 = none
  | .returned (some err) => setting.uploadURL = .error err ∧ state.results = [] ∨
      AllReturned setting state ∧ FirstError state.results err

def Counted (setting : Setting) (state : State) : Prop := Counts setting state state.main

section Steps

variable {setting : Setting} {before : Cluster} {state next : State} {label : Label}

/-- A goroutine that does not end leaves the results as they are. -/
theorem Counts.setDeploy {count idx : Nat} {updated : Goroutine Point}
    (counts : Counts setting state (.spawning count)) (alive : state.deploys idx ≠ .exited)
    (stays : updated ≠ .exited) (deploys : next.deploys = Function.update state.deploys idx updated)
    (errCh : next.errCh = state.errCh) (results : next.results = state.results) :
    Counts setting next (.spawning count) := by
  obtain ⟨below, channel, distinct, ended⟩ := counts
  refine ⟨below, by rw [errCh, results, channel], by rwa [results], ?_⟩
  intro other
  rw [results, ended, deploys]
  by_cases same : other = idx
  · subst other
    simp [alive, stays]
  · rw [Function.update_of_ne same]

theorem DeployMove.counts {idx : Nat} {handler : Handler}
    (move : DeployMove setting state idx handler (state.deploys idx) label next)
    (sound : Sound setting before state) (counts : Counted setting state) :
    Counted setting next := by
  have alive : state.deploys idx ≠ .exited := by
    intro ended
    rw [ended] at move
    cases move
  obtain ⟨count, spawning, started, -⟩ := sound.running alive
  rw [Counted, spawning] at counts
  have kept : ∀ {updated : Goroutine Point}, updated ≠ .exited → ∀ {moved : State},
      moved.main = state.main → moved.deploys = Function.update state.deploys idx updated →
      moved.errCh = state.errCh → moved.results = state.results →
      Counted setting moved := by
    intro updated stays moved main deploys errCh results
    rw [Counted, main, spawning]
    exact counts.setDeploy alive stays deploys errCh results
  generalize position : state.deploys idx = deploy at move
  cases move with
  | @send _ err opened room =>
      obtain ⟨bound, channel, distinct, ended⟩ := counts
      have fresh : idx ∉ state.results.map Prod.fst := fun member => alive ((ended idx).mp member).2
      have standing : ({ state with
          errCh := ⟨state.errCh.buffer ++ [err], false⟩
          results := state.results ++ [(idx, err)] }.setDeploy idx .exited).main =
          .spawning count := spawning
      rw [Counted, standing]
      refine ⟨bound, ?_, ?_, ?_⟩
      · simp [State.setDeploy, channel]
      · simp only [State.setDeploy, List.map_append, List.map_cons, List.map_nil]
        exact distinct.append (List.nodup_singleton _) (List.disjoint_singleton.mpr fresh)
      · intro other
        simp only [State.setDeploy, List.map_append, List.map_cons, List.map_nil, List.mem_append,
          ended, List.mem_singleton, Function.update_apply]
        by_cases same : other = idx
        · simp [same, started]
        · simp [same]
  | _ => exact kept (by simp) rfl rfl rfl rfl

theorem MainMove.counts (move : MainMove setting state state.main next)
    (counts : Counted setting state) : Counted setting next := by
  unfold Counted at counts ⊢
  generalize position : state.main = main at move counts
  cases move with
  | begin url =>
      obtain ⟨channel, results⟩ := counts
      refine ⟨Nat.zero_le _, ?_, ?_, ?_⟩
      · simp only [channel, results]
        rfl
      · simp [results]
      · simp [results]
  | noAddress missing => exact .inl ⟨missing, counts.2⟩
  | @spawn count below =>
      obtain ⟨-, channel, distinct, ended⟩ := counts
      refine ⟨below, channel, distinct, ?_⟩
      intro idx
      have fresh : count ∉ state.results.map Prod.fst := by
        intro member
        exact absurd ((ended count).mp member).1 (Nat.lt_irrefl count)
      simp only [State.setDeploy, Function.update_apply]
      by_cases same : idx = count
      · subst idx
        simpa using fresh
      · rw [ended, if_neg same]
        have : idx < count + 1 ↔ idx < count := by omega
        rw [this]
  | join exited =>
      obtain ⟨-, channel, distinct, ended⟩ := counts
      refine ⟨?_, rfl, [], ?_, by simp⟩
      · refine (List.perm_ext_iff_of_nodup distinct List.nodup_range).mpr fun idx => ?_
        rw [ended, List.mem_range]
        exact ⟨fun both => both.1, fun below => ⟨below, exited idx below⟩⟩
      · simp [channel, Channel.close]
  | @skip rest buffer =>
      obtain ⟨all, closed, drained, results, clean⟩ := counts
      refine position ▸ ⟨all, closed, drained ++ [none], ?_, ?_⟩
      · rw [results, buffer]
        simp
      · intro result member
        rcases List.mem_append.mp member with old | new
        · exact clean result old
        · exact List.mem_singleton.mp new
  | @fail rest err buffer =>
      obtain ⟨all, -, drained, results, clean⟩ := counts
      refine .inr ⟨all, ?_⟩
      rw [buffer] at results
      obtain ⟨earlier, others, split, front, back⟩ := List.map_eq_append_iff.mp results
      obtain ⟨⟨idx, returned⟩, later, rfl, same, -⟩ := List.map_eq_cons_iff.mp back
      cases same
      refine ⟨earlier, idx, later, split, fun result member => ?_⟩
      exact clean _ (front ▸ List.mem_map_of_mem member)
  | finish buffer =>
      obtain ⟨all, -, drained, results, clean⟩ := counts
      rw [buffer, List.append_nil] at results
      exact ⟨all, fun result member => clean _ (results ▸ List.mem_map_of_mem member)⟩

theorem Counted.keep (counts : Counted setting state) (sound : Sound setting before state)
    (stepped : step setting state label = some next) : Counted setting next := by
  cases step_transition stepped with
  | deploy found move => exact move.counts sound counts
  | main _ move => exact move.counts counts
  | land waiting =>
      unfold Counted at counts ⊢
      generalize state.main = main at counts
      cases main with
      | booting | spawning | draining => exact counts
      | returned err => cases err <;> exact counts
  | crash => exact ⟨rfl, rfl⟩

end Steps

theorem counts_of_run {setting : Setting} {before : Cluster} {trace : List Label} {state : State}
    (run : (system setting before).Run trace state) : Counted setting state := by
  refine run.invariant_using sound_of_run ?_ fun _ stepped sound _ counts =>
    counts.keep sound stepped
  intro state initial
  rw [initial]
  exact ⟨rfl, rfl⟩

theorem ready_of_returned {setting : Setting} {before : Cluster} {state : State}
    (sound : Sound setting before state) (counts : Counted setting state)
    (returned : state.main = .returned none) :
    ∀ handler ∈ setting.groups, Ready state.cluster handler := by
  intro handler configured
  rw [Counted, returned] at counts
  obtain ⟨all, clean⟩ := counts
  obtain ⟨idx, found⟩ := List.mem_iff_getElem?.mp configured
  have below : idx ∈ List.range setting.groups.length :=
    List.mem_range.mpr (List.getElem?_eq_some_iff.mp found).1
  obtain ⟨⟨other, result⟩, member, same⟩ := List.mem_map.mp (all.mem_iff.mpr below)
  cases same
  cases clean _ member
  exact sound.results found member

/-- What the caller of `deployRunnerGroups` can rely on. -/
structure Returned (setting : Setting) (state : State) (err : Option String) : Prop where
  /-- no goroutine is left -/
  ended : ∀ idx, state.deploys idx = .exited
  all : (∀ reason, setting.uploadURL ≠ .error reason) → AllReturned setting state
  ready : err = none → ∀ handler ∈ setting.groups, Ready state.cluster handler
  failed : ∀ reason, err = some reason →
    setting.uploadURL = .error reason ∧ state.results = [] ∨ FirstError state.results reason

/-- `deployRunnerGroups` returns nil only over a cluster in which every group has its
load profile and its job, and an error only when it found no address or a group's
`Deploy` returned that error; no group is left out because another one failed. -/
theorem deployRunnerGroups_returned {setting : Setting} {before : Cluster} {trace : List Label}
    {state : State} {err : Option String} (run : (system setting before).Run trace state)
    (returned : state.main = .returned err) : Returned setting state err := by
  have sound := sound_of_run run
  have counted := counts_of_run run
  have counts := counted
  rw [Counted, returned] at counts
  refine ⟨?_, ?_, ?_, ?_⟩
  · intro idx
    by_contra alive
    obtain ⟨next, spawning, -⟩ := sound.running alive
    rw [returned] at spawning
    cases spawning
  · intro addressed
    cases err with
    | none => exact counts.1
    | some reason =>
        rcases counts with ⟨missing, -⟩ | ⟨all, -⟩
        · exact absurd missing (addressed reason)
        · exact all
  · intro success
    subst success
    exact ready_of_returned sound counted returned
  · intro reason same
    subst same
    rcases counts with missing | ⟨-, first⟩
    · exact .inl missing
    · exact .inr first

namespace Sample

/-- The second group is refused and arrives first. -/
def refused : List Label :=
  [.begin, .spawn, .spawn, .getConfigMap 1 (some "refused"), .getConfigMap 0 none,
    .createConfigMap 0 .none, .getJob 0 .stored none, .send 1, .createJob 0 .none, .send 0, .join,
    .drain]

end Sample

theorem deployRunnerGroups_returned_refused :
    ∃ state, (system Sample.setting .empty).Run Sample.refused state ∧
      state.main = .returned (some (uploadContext ++ "refused")) ∧ state.results.length = 2 ∧
      Returned Sample.setting state (some (uploadContext ++ "refused")) := by
  obtain ⟨state, executed, returned, both⟩ :
      ∃ state ∈ (system Sample.setting .empty).execute (.boot .empty []) Sample.refused,
        state.main = .returned (some (uploadContext ++ "refused")) ∧
        state.results.length = 2 := by decide +kernel
  have run := TransitionSystem.runWith_of_executeWith rfl executed
  exact ⟨state, run, returned, both, deployRunnerGroups_returned run returned⟩

end Kperf.Runner.Deployment
