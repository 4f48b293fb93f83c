import Kperf.Runner.Group.Wait

/-! When `Wait` returns nil, and when it waits past a finished job. -/

set_option autoImplicit false

namespace Kperf.Runner.Group

open Metrics

def Finished (job : Job) : Prop := jobFinished job = .ok true

/-- `Wait` has returned nil at the first finished job object it received, and
has not received one otherwise. -/
structure Prompt (state : State) : Prop where
  atFirst : state.phase = .returned none → ∃ earlier job,
    state.received = earlier ++ [job] ∧ Finished job ∧ ∀ previous ∈ earlier, ¬ Finished previous
  otherwise : state.phase ≠ .returned none → ∀ job ∈ state.received, ¬ Finished job

/-- A finished job that arrives in an `Added` event. -/
def Signal.AddedFinished (signal : Signal) : Prop :=
  ∃ job, signal = .event .added (.job job) ∧ Finished job

theorem Handler.refuse_received (handler : Handler) (state : State) (err : GoError) :
    (handler.refuse state err).received = state.received := by
  unfold Handler.refuse
  split <;> rfl

theorem Handler.refuse_phase (handler : Handler) (state : State) (err : GoError) :
    (handler.refuse state err).phase ≠ .returned none := by
  unfold Handler.refuse
  split <;> simp

theorem Handler.recover_received (handler : Handler) (state : State) (err : GoError) :
    (handler.recover state err).received = state.received := by
  unfold Handler.recover
  split
  · rfl
  · split
    · rfl
    · split <;> rfl

theorem Handler.recover_phase (handler : Handler) (state : State) (err : GoError) :
    (handler.recover state err).phase ≠ .returned none := by
  unfold Handler.recover
  split
  · simp
  · split
    · simp
    · split <;> simp

theorem Prompt.quiet {state next : State} (prompt : Prompt state)
    (running : state.phase ≠ .returned none) (received : next.received = state.received)
    (continues : next.phase ≠ .returned none) : Prompt next := by
  refine ⟨fun returned => absurd returned continues, fun _ => ?_⟩
  rw [received]
  exact prompt.otherwise running

theorem Prompt.receives {state next : State} {job : Job} (prompt : Prompt state)
    (running : state.phase ≠ .returned none) (received : next.received = state.received ++ [job])
    (decides : next.phase = .returned none ↔ Finished job) : Prompt next := by
  have earlier := prompt.otherwise running
  constructor
  · intro returned
    exact ⟨state.received, job, received, decides.mp returned, earlier⟩
  · intro continues other member
    rw [received, List.mem_append, List.mem_singleton] at member
    rcases member with before | rfl
    · exact earlier other before
    · intro finished
      exact continues (decides.mpr finished)

theorem State.get_phase (state : State) (job : Job) :
    (state.get job).phase = .returned none ↔ Finished job := by
  unfold State.get Finished
  cases outcome : jobFinished job with
  | error fault => simp
  | ok finished => cases finished <;> simp

theorem State.get_received (state : State) (job : Job) :
    (state.get job).received = state.received := by
  unfold State.get
  cases outcome : jobFinished job with
  | error fault => rfl
  | ok finished => cases finished <;> rfl

theorem State.receive_received (state : State) (type : EventType) (job : Job) :
    (state.receive type job).received = state.received := by
  cases type with
  | modified =>
      unfold State.receive
      cases outcome : jobFinished job with
      | error fault => rfl
      | ok finished => cases finished <;> rfl
  | _ => rfl

theorem State.receive_modified (state : State) (job : Job)
    (watching : state.phase = .watching) :
    (state.receive .modified job).phase = .returned none ↔ Finished job := by
  unfold State.receive Finished
  cases outcome : jobFinished job with
  | error fault => simp
  | ok finished => cases finished <;> simp [watching]

theorem Prompt.keep {handler : Handler} {state next : State} {signal : Signal}
    (prompt : Prompt state) (usual : ¬ signal.AddedFinished)
    (stepped : step handler state signal = some next) : Prompt next := by
  unfold step at stepped
  split at stepped
  all_goals cases stepped
  all_goals rename_i phase
  · refine prompt.receives (by simp [phase]) ?_ (State.get_phase _ _)
    rw [State.get_received]
    rfl
  · exact prompt.quiet (by simp [phase]) rfl (by simp)
  · exact prompt.quiet (by simp [phase]) rfl (by simp)
  · exact prompt.quiet (by simp [phase]) (handler.refuse_received _ _) (handler.refuse_phase _ _)
  · exact prompt.quiet (by simp [phase]) rfl (by simp)
  · exact prompt.quiet (by simp [phase]) (handler.recover_received _ _)
      (handler.recover_phase _ _)
  · exact prompt.quiet (by simp [phase]) (handler.recover_received _ _)
      (handler.recover_phase _ _)
  · exact prompt.quiet (by simp [phase]) (handler.recover_received _ _)
      (handler.recover_phase _ _)
  · rename_i type job
    have running : state.phase ≠ .returned none := by simp [phase]
    have received : ∀ type, ((state.record (.event type (.job job))).receive type job).received =
        state.received ++ (Signal.event type (.job job)).job.toList := by
      intro type
      rw [State.receive_received]
      rfl
    cases type with
    | added =>
        refine prompt.receives running (received .added) ?_
        have stays : ((state.record (.event .added (.job job))).receive .added job).phase =
            .watching := phase
        rw [stays]
        refine ⟨nofun, fun finished => absurd ⟨job, rfl, finished⟩ usual⟩
    | modified =>
        exact prompt.receives running (received .modified) (State.receive_modified _ _ phase)
    | deleted | bookmark =>
        refine prompt.quiet running ?_ running
        rw [received]
        exact List.append_nil _
  · exact prompt

theorem prompt_of_run {handler : Handler} {trace : List Signal} {state : State}
    (run : (system handler).RunWith (fun _ signal => ¬ signal.AddedFinished) trace state) :
    Prompt state := by
  apply run.invariant
  · intro state initial
    cases initial
    exact ⟨nofun, fun _ job member => by cases member⟩
  · intro state next signal usual stepped prompt
    exact prompt.keep usual stepped

theorem not_prompt_of_addedFinished {handler : Handler} {state next : State} {signal : Signal}
    (added : signal.AddedFinished) (stepped : step handler state signal = some next) :
    ¬ Prompt next := by
  obtain ⟨job, rfl, finished⟩ := added
  have watching : state.phase = .watching := by
    cases phase : state.phase with
    | watching => rfl
    | _ => simp [step, phase] at stepped
  simp only [step, watching, Option.some.injEq] at stepped
  subst stepped
  intro prompt
  refine prompt.otherwise ?_ job ?_ finished
  · have stays : ((state.record (.event .added (.job job))).receive .added job).phase =
        .watching := watching
    rw [stays]
    nofun
  · exact List.mem_append_right _ (List.mem_singleton.mpr rfl)

/-- On any sequence of signals `Wait` returns nil exactly at the first finished job it
receives, all the way, if and only if no finished job arrives in an `Added` event. -/
theorem wait_prompt_iff {handler : Handler} {trace : List Signal} {final : State}
    (run : (system handler).Run trace final) :
    (∀ before after state, trace = before ++ after →
        (system handler).Run before state → Prompt state) ↔
      ∀ signal ∈ trace, ¬ signal.AddedFinished := by
  constructor
  · intro prompt signal member added
    obtain ⟨before, after, split⟩ := List.append_of_mem member
    have regrouped : trace = (before ++ [signal]) ++ after := by simp [split]
    obtain ⟨next, taken⟩ := (regrouped ▸ run).take
    obtain ⟨state, -, -, stepped⟩ := taken.last
    exact not_prompt_of_addedFinished added stepped (prompt _ after next regrouped taken)
  · intro usual before after state split taken
    apply prompt_of_run
    refine (taken.restrict fun signal member => usual signal ?_).mono fun _ _ allowed => allowed.2
    rw [split]
    exact List.mem_append_left _ member

def sampleHandler : Handler where
  name := "runners-0"
  namespace_ := "runnergroups"
  library :=
    ⟨fun predicate err => predicate == .resourceExpired && err.as asAPIStatus == some 410,
      fun _ => "NO_ERROR"⟩
  connectionRefused := fun err => err.as asErrno == some econnrefused

theorem wait_prompt_iff_sample :
    let trace : List Signal := [.got ⟨"5", some 2, 0, 0⟩, .watchOpened,
      .event .added (.job ⟨"5", some 2, 0, 0⟩), .event .bookmark (.job ⟨"7", some 2, 0, 0⟩),
      .event .modified (.job ⟨"9", some 2, 1, 1⟩)]
    ∃ final, (system sampleHandler).Run trace final ∧ final.phase = .returned none ∧
      ((∀ before after state, trace = before ++ after →
          (system sampleHandler).Run before state → Prompt state) ↔
        ∀ signal ∈ trace, ¬ signal.AddedFinished) := by
  intro trace
  obtain ⟨final, executed, returned⟩ : ∃ final,
      (system sampleHandler).execute ⟨.getting, "", []⟩ trace = some final ∧
      final.phase = .returned none := ⟨_, rfl, rfl⟩
  have run : (system sampleHandler).Run trace final :=
    TransitionSystem.runWith_of_executeWith rfl executed
  exact ⟨final, run, returned, wait_prompt_iff run⟩

/-- The job finishes while the watch is down and the revision expires. -/
def expiredRevision : List Signal :=
  [.got ⟨"5", some 2, 0, 1⟩, .watchOpened,
    .errorEvent (.leaf ⟨.apiStatus 410, "too old resource version: 5 (9)"⟩), .watchOpened,
    .event .added (.job ⟨"9", some 2, 0, 2⟩)]

theorem expiredRevision_not_prompt :
    ∃ state, (system sampleHandler).Run expiredRevision state ∧ state.phase = .watching ∧
      ¬ Prompt state := by
  obtain ⟨state, executed, watching, received⟩ : ∃ state,
      (system sampleHandler).execute ⟨.getting, "", []⟩ expiredRevision = some state ∧
      state.phase = .watching ∧
      state.received = [⟨"5", some 2, 0, 1⟩, ⟨"9", some 2, 0, 2⟩] := ⟨_, rfl, rfl, rfl⟩
  refine ⟨state, TransitionSystem.runWith_of_executeWith rfl executed, watching, ?_⟩
  intro prompt
  refine prompt.otherwise (by simp [watching]) ⟨"9", some 2, 0, 2⟩ (by simp [received]) ?_
  exact rfl

end Kperf.Runner.Group
