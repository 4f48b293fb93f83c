import Kperf.Runner.LocalStoreInvariant
import Kperf.Runner.Server

/-! Everything one step of the server and its runners can do, with one
constructor for each branch of the step function. -/

set_option autoImplicit false

namespace Kperf.Runner.Server

open Types Summary

section Updates

variable (state : State) (id other : AttemptId) (attempt : Attempt) (pod name : String)
  (client : Client)

@[simp] theorem setAttempt_store : (state.setAttempt id attempt).store = state.store := rfl
@[simp] theorem setAttempt_attempts :
    (state.setAttempt id attempt).attempts other =
      if other = id then some attempt else state.attempts other := by
  simp [State.setAttempt, Function.update_apply]

@[simp] theorem setClient_clients :
    (state.setClient pod client).clients name =
      if name = pod then client else state.clients name := by
  simp [State.setClient, Function.update_apply]

end Updates

/-- What the handler of an upload does in one step. -/
inductive AttemptMove (setting : Setting) (state : State) (id : AttemptId) (attempt : Attempt) :
    Label → State → Prop where
  | refuse {pods : Option (List String)} :
      attempt.stage = .checking [] →
      AttemptMove setting state id attempt (.check id pods)
        (state.setAttempt id { attempt with stage := .done, status := some 404 })
  | checkFails {group : String} {rest : List String} {pods : Option (List String)} :
      attempt.stage = .checking (group :: rest) →
      AttemptMove setting state id attempt (.check id pods)
        (state.setAttempt id { attempt with stage := .done, status := some 500 })
  | accept {group : String} {rest : List String} {pods : Option (List String)} :
      attempt.stage = .checking (group :: rest) →
      isControlled group attempt.pod pods = some true →
      AttemptMove setting state id attempt (.check id pods)
        ({ state with controlled := state.controlled ++ [(group, attempt.pod)] }.setAttempt id
          { attempt with stage := .opening })
  | pass {group : String} {rest : List String} {pods : Option (List String)} :
      attempt.stage = .checking (group :: rest) →
      AttemptMove setting state id attempt (.check id pods)
        (state.setAttempt id { attempt with stage := .checking rest })
  | openFails :
      attempt.stage = .opening →
      AttemptMove setting state id attempt (.openWriter id none)
        (state.setAttempt id { attempt with stage := .done, status := some 500 })
  | opened {name : String} {store : LocalStore.State} :
      attempt.stage = .opening →
      LocalStore.step state.store (.openWriter id name) = some store →
      AttemptMove setting state id attempt (.openWriter id (some name))
        ({ state with store := store }.setAttempt id
          { attempt with stage := .copying (setting.body attempt.pod) })
  | copied {rest : List UInt8} {count taken : Nat} {store : LocalStore.State} :
      attempt.stage = .copying rest →
      LocalStore.step state.store (.write id (rest.take count) taken) = some store →
      (rest.take count).length ≤ taken →
      AttemptMove setting state id attempt (.copy id count taken)
        ({ state with store := store }.setAttempt id
          { attempt with stage := .copying (rest.drop count) })
  | copiedShort {rest : List UInt8} {count taken : Nat} {store : LocalStore.State} :
      attempt.stage = .copying rest →
      LocalStore.step state.store (.write id (rest.take count) taken) = some store →
      AttemptMove setting state id attempt (.copy id count taken)
        ({ state with store := store }.setAttempt id
          { attempt with stage := .closing, status := some 500 })
  | commit {store : LocalStore.State} :
      attempt.stage = .copying [] →
      LocalStore.step state.store (.commit id attempt.pod) = some store →
      AttemptMove setting state id attempt (.bodyEnds id)
        ({ state with store := store }.setAttempt id { attempt with stage := .committing })
  | cut {rest : List UInt8} :
      attempt.stage = .copying rest →
      AttemptMove setting state id attempt (.bodyFails id)
        (state.setAttempt id { attempt with stage := .closing, status := some 500 })
  | work {label : LocalStore.Label} {writer : LocalStore.Writer} {stage : Stage}
      {store : LocalStore.State} :
      label.actor = some (.writer id) → state.store.writers id = some writer →
      workStage writer.stage attempt.stage label = some stage →
      LocalStore.step state.store label = some store →
      AttemptMove setting state id attempt (.work label)
        ({ state with store := store }.setAttempt id { attempt with stage := stage })
  | answer {result : LocalStore.CommitResult} :
      attempt.stage = .returned result →
      AttemptMove setting state id attempt (.answer id)
        ({ state with
          created := if result = LocalStore.CommitResult.ok then state.created ++ [attempt.pod]
            else state.created }.setAttempt id
          { attempt with stage := .closing, status := some (commitStatus result) })

theorem stepAttempt_move {setting : Setting} {state next : State} {id : AttemptId}
    {attempt : Attempt} {label : Label} (actor : label.attempt = some id)
    (stepped : stepAttempt setting state id attempt label = some next) :
    AttemptMove setting state id attempt label next := by
  cases label with
  | check other pods =>
      cases actor
      simp only [stepAttempt] at stepped
      split at stepped
      · cases stepped
        exact .refuse ‹_›
      · split at stepped
        · cases stepped
          exact .checkFails ‹_›
        · cases stepped
          exact .accept ‹_› ‹_›
        · cases stepped
          exact .pass ‹_›
      · cases stepped
  | openWriter other name =>
      cases actor
      simp only [stepAttempt] at stepped
      split at stepped
      · cases stepped
        exact .openFails ‹_›
      · obtain ⟨store, called, rfl⟩ := Option.map_eq_some_iff.mp stepped
        exact .opened ‹_› called
      · cases stepped
  | copy other count taken =>
      cases actor
      simp only [stepAttempt] at stepped
      split at stepped
      · obtain ⟨store, called, rfl⟩ := Option.map_eq_some_iff.mp stepped
        split
        · exact .copied ‹_› called ‹_›
        · exact .copiedShort ‹_› called
      · cases stepped
  | bodyEnds other =>
      cases actor
      simp only [stepAttempt] at stepped
      split at stepped
      · obtain ⟨store, called, rfl⟩ := Option.map_eq_some_iff.mp stepped
        exact .commit ‹_› called
      · cases stepped
  | bodyFails other =>
      cases actor
      simp only [stepAttempt] at stepped
      split at stepped
      · cases stepped
        exact .cut ‹_›
      · cases stepped
  | work label =>
      have holder : label.actor = some (.writer id) := by
        simp only [Label.attempt] at actor
        split at actor
        · cases actor
          assumption
        · cases actor
      simp only [stepAttempt] at stepped
      obtain ⟨writer, found, stepped⟩ := Option.bind_eq_some_iff.mp stepped
      obtain ⟨stage, works, stepped⟩ := Option.bind_eq_some_iff.mp stepped
      obtain ⟨store, called, rfl⟩ := Option.map_eq_some_iff.mp stepped
      exact .work holder found works called
  | answer other =>
      cases actor
      simp only [stepAttempt] at stepped
      split at stepped
      · cases stepped
        exact .answer ‹_›
      · cases stepped
  | _ => cases actor

inductive SummaryMove (setting : Setting) (state : State) : Phase → Label → State → Prop where
  | finish {running : List String} {group : String} :
      SummaryMove setting state (.waiting running) (.finish group)
        { state with summary.phase := .waiting (running.erase group) }
  | summarize :
      SummaryMove setting state (.waiting []) .summarize
        { state with summary.phase := .merging [] setting.groups }
  | listFails {group : String} {groups : List String} :
      SummaryMove setting state (.merging [] (group :: groups)) (.list none)
        { state with summary.phase := .merging [] groups }
  | list {group : String} {pods groups : List String} :
      SummaryMove setting state (.merging [] (group :: groups)) (.list (some pods))
        { state with
          summary.phase := .merging pods groups
          summary.listed := state.summary.listed ++ pods }
  | openReader {pod : String} {pods groups : List String} {store : LocalStore.State} :
      LocalStore.step state.store (.openReader 0 pod) = some store →
      SummaryMove setting state (.merging (pod :: pods) groups) .openReader
        { state with
          store := store
          summary.phase := .reading pod (decide (pod ∈ state.created)) false pods groups }
  | call {pod : String} {answered faulted : Bool} {pods groups : List String}
      {label : LocalStore.Label} {store : LocalStore.State} :
      isReaderCall label = true → LocalStore.step state.store label = some store →
      ¬ (label = .unlockAccess 0 ∧ store.accesses 0 = .idle) →
      SummaryMove setting state (.reading pod answered faulted pods groups) (.readerWork label)
        { state with
          store := store
          summary.phase := .reading pod answered (faulted || failing label) pods groups }
  | openFails {pod : String} {answered faulted : Bool} {pods groups : List String}
      {store : LocalStore.State} :
      LocalStore.step state.store (.unlockAccess 0) = some store → store.accesses 0 = .idle →
      SummaryMove setting state (.reading pod answered faulted pods groups)
        (.readerWork (.unlockAccess 0))
        { state with
          store := store
          summary := state.summary.finishRead ⟨pod, answered, faulted, none⟩
            state.summary.tally pods groups }
  | readAll {pod : String} {answered faulted : Bool} {pods groups : List String}
      {file : LocalStore.FileId} {succeeds : Bool} {orders : ReadOrders}
      {store : LocalStore.State} {data : Option (List UInt8)} :
      state.store.accesses 0 = .reading file →
      LocalStore.step state.store (.closeReader 0) = some store →
      data = (if succeeds then some (state.store.content file) else none) →
      SummaryMove setting state (.reading pod answered faulted pods groups)
        (.readAll succeeds orders)
        { state with
          store := store
          summary := state.summary.finishRead
            ⟨pod, answered, faulted || !succeeds, data.bind (unmarshalReport setting.wire)⟩
            (state.summary.tally.readRunner setting.wire orders data) pods groups }
  | publish {order : RangeOrder} :
      SummaryMove setting state (.merging [] []) (.publish order)
        { state with
          summary.phase := .ready (state.summary.tally.report setting.wire order) }

theorem stepSummary_move {setting : Setting} {state next : State} {phase : Phase} {label : Label}
    (stepped : stepSummary setting state phase label = some next) :
    SummaryMove setting state phase label next := by
  unfold stepSummary at stepped
  split at stepped
  · split at stepped
    · cases stepped
      exact .finish
    · cases stepped
  · cases stepped
    exact .summarize
  · cases stepped
    exact .listFails
  · cases stepped
    exact .list
  · obtain ⟨store, called, rfl⟩ := Option.map_eq_some_iff.mp stepped
    exact .openReader called
  · rename_i pod answered faulted pods groups call
    split at stepped
    · rename_i reads
      obtain ⟨store, called, rfl⟩ := Option.map_eq_some_iff.mp stepped
      by_cases failed : call = .unlockAccess 0 ∧ store.accesses 0 = .idle
      · rw [if_pos failed]
        obtain ⟨rfl, idle⟩ := failed
        exact .openFails called idle
      · rw [if_neg failed]
        exact .call reads called failed
    · cases stepped
  · split at stepped
    · obtain ⟨store, called, rfl⟩ := Option.map_eq_some_iff.mp stepped
      exact .readAll ‹_› called rfl
    · cases stepped
  · cases stepped
    exact .publish
  · cases stepped

inductive Transition (setting : Setting) (state : State) : Label → State → Prop where
  | post {pod : String} {id : AttemptId} :
      state.clients pod = .ready → state.attempts id = none →
      Transition setting state (.post pod id)
        ((state.setAttempt id ⟨pod, .checking setting.groups, none⟩).setClient pod (.posting id))
  | receive {pod : String} {id : AttemptId} {attempt : Attempt} {code : Nat} :
      state.clients pod = .posting id → state.attempts id = some attempt →
      attempt.status = some code →
      Transition setting state (.receive pod) (state.setClient pod (.receive code))
  | lose {pod : String} :
      Transition setting state (.lose pod) (state.setClient pod .ready)
  | attempt {id : AttemptId} {attempt : Attempt} {label : Label} {next : State} :
      state.attempts id = some attempt → AttemptMove setting state id attempt label next →
      Transition setting state label next
  | summary {label : Label} {next : State} :
      SummaryMove setting state state.summary.phase label next →
      Transition setting state label next
  | get {wait : Bool} {answer : Nat × Option RunnerMetricReport} :
      getRunnerGroupsSummary state.summary.phase wait = some answer →
      Transition setting state (.get wait) { state with served := state.served ++ [answer] }
  | cancel {wait : Bool} {answer : Nat × Option RunnerMetricReport} :
      cancelRunnerGroupsSummary state.summary.phase wait = some answer →
      Transition setting state (.cancel wait) { state with served := state.served ++ [answer] }
  | crash : Transition setting state .crash (restart setting state)

private theorem transition_of_attempt {setting : Setting} {state next : State} {label : Label}
    (stepped : (label.attempt.bind fun id => (state.attempts id).bind fun attempt =>
      stepAttempt setting state id attempt label) = some next) :
    Transition setting state label next := by
  obtain ⟨id, actor, stepped⟩ := Option.bind_eq_some_iff.mp stepped
  obtain ⟨attempt, found, stepped⟩ := Option.bind_eq_some_iff.mp stepped
  exact .attempt found (stepAttempt_move actor stepped)

theorem step_transition {setting : Setting} {state next : State} {label : Label}
    (stepped : step setting state label = some next) : Transition setting state label next := by
  cases label with
  | post pod id =>
      simp only [step, stepClient] at stepped
      split at stepped
      · cases stepped
        exact .post ‹_› ‹_›
      · cases stepped
  | receive pod =>
      simp only [step, stepClient] at stepped
      split at stepped
      · obtain ⟨attempt, found, stepped⟩ := Option.bind_eq_some_iff.mp stepped
        obtain ⟨code, answered, rfl⟩ := Option.map_eq_some_iff.mp stepped
        exact .receive ‹_› found answered
      · cases stepped
  | lose pod =>
      simp only [step, stepClient] at stepped
      split at stepped
      · cases stepped
        exact .lose
      · cases stepped
  | get wait =>
      obtain ⟨answer, answered, rfl⟩ := Option.map_eq_some_iff.mp stepped
      exact .get answered
  | cancel wait =>
      obtain ⟨answer, answered, rfl⟩ := Option.map_eq_some_iff.mp stepped
      exact .cancel answered
  | crash =>
      cases stepped
      exact .crash
  | finish | summarize | list | openReader | readerWork | readAll | publish =>
      exact .summary (stepSummary_move stepped)
  | check | openWriter | copy | bodyEnds | bodyFails | work | answer =>
      exact transition_of_attempt stepped

/-- The store moves by one of its own steps, opens no other file and deletes
nothing. -/
def StoreEffect (state : State) (label : Label) (next : State) : Prop :=
  next.store = state.store ∨ ∃ action, LocalStore.step state.store action = some next.store ∧
    (∀ name ∈ action.openedName, name ∈ label.openedName) ∧
    ∀ id succeeds, action ≠ .removeAccess id succeeds

theorem workStage_call {writer : LocalStore.Stage} {stage after : Stage}
    {label : LocalStore.Label} (works : workStage writer stage label = some after) :
    label.openedName = none ∧ ∀ id succeeds, label ≠ .removeAccess id succeeds := by
  unfold workStage at works
  split at works <;> simp [LocalStore.Label.openedName] at works ⊢

theorem isReaderCall_call {label : LocalStore.Label} (reads : isReaderCall label = true) :
    label.openedName = none ∧ ∀ id succeeds, label ≠ .removeAccess id succeeds := by
  cases label <;> simp [isReaderCall, LocalStore.Label.openedName] at reads ⊢

theorem Transition.storeEffect {setting : Setting} {state next : State} {label : Label}
    (transition : Transition setting state label next) : StoreEffect state label next := by
  cases transition with
  | post | receive | lose | get | cancel => exact .inl rfl
  | crash => exact .inr ⟨.crash, rfl, by simp [LocalStore.Label.openedName], by simp⟩
  | attempt found move =>
      cases move with
      | refuse | checkFails | accept | pass | openFails | cut | answer => exact .inl rfl
      | opened stage called =>
          exact .inr ⟨_, called, by simp [LocalStore.Label.openedName, Label.openedName], by simp⟩
      | copied stage called | copiedShort stage called | commit stage called =>
          exact .inr ⟨_, called, by simp [LocalStore.Label.openedName], by simp⟩
      | work actor writer works called =>
          obtain ⟨opens, keeps⟩ := workStage_call works
          exact .inr ⟨_, called, by simp [opens], keeps⟩
  | summary move =>
      generalize state.summary.phase = phase at move
      cases move with
      | finish | summarize | listFails | list | publish => exact .inl rfl
      | openReader called | openFails called | readAll _ called =>
          exact .inr ⟨_, called, by simp [LocalStore.Label.openedName], by simp⟩
      | call reads called =>
          obtain ⟨opens, keeps⟩ := isReaderCall_call reads
          exact .inr ⟨_, called, by simp [opens], keeps⟩

/-- A run of the server is, for its store, a run of the store. -/
theorem store_valid {setting : Setting} {trace : List Label} {state : State}
    (run : (system setting).RunWith FreshName trace state) : LocalStore.Valid state.store := by
  have projected : ∃ actions, LocalStore.system.RunWith LocalStore.FreshName actions
      state.store := by
    refine run.project State.store (fun _ initial => congrArg State.store initial) ?_
    intro state next label fresh stepped
    rcases (step_transition stepped).storeEffect with same | ⟨action, called, opens, -⟩
    · exact .inl same
    · exact .inr ⟨action, fun name opened => fresh name (opens name opened), called⟩
  obtain ⟨actions, below⟩ := projected
  exact LocalStore.valid_of_run below

end Kperf.Runner.Server
