import Kperf.Runner.LocalStore
import Kperf.Runner.Summary

/-! The runner-group server with the runners that upload to it. A request is a
handler goroutine over the local store, a runner is the loop of its upload
script, and one goroutine waits for the groups and builds their summary. A label
fixes what comes from outside: the answers of the API server and of the file
system, the pace of a request body, lost connections and crashes. -/

set_option autoImplicit false

namespace Kperf.Runner.Server

open Types Summary

/-- A request and the writer it opens have the same number. -/
abbrev AttemptId := LocalStore.WriterId

structure Setting where
  groups : List String
  body : String → List UInt8
  wire : Wire

/-- Where the handler of one upload stands. -/
inductive Stage where
  | checking (groups : List String)
  | opening
  | copying (rest : List UInt8)
  | committing
  | returned (result : LocalStore.CommitResult)
  | closing
  | done
  | dead
  deriving DecidableEq, Repr

structure Attempt where
  pod : String
  stage : Stage
  status : Option Nat
  deriving DecidableEq, Repr

/-- Where the upload loop of a runner stands. -/
inductive Client where
  | ready
  | posting (attempt : AttemptId)
  | exited (code : Nat)
  deriving DecidableEq, Repr

def Client.receive (code : Nat) : Client :=
  if code = 201 then .exited 0
  else if code = 409 then .exited 0
  else if code = 404 then .exited 1
  else .ready

/-- `IsControlled` of a group, given what its `Pods` returns if it is called. -/
def isControlled (group pod : String) (pods : Option (List String)) : Option Bool :=
  if group.toList.isPrefixOf pod.toList then pods.map fun names => decide (pod ∈ names)
  else some false

def commitStatus : LocalStore.CommitResult → Nat
  | .ok => 201
  | .alreadyExists => 409
  | _ => 500

/-- One call of `readBlob` that has returned; the flags are history. -/
structure Read where
  pod : String
  /-- the report had been answered with 201 when the call began -/
  answered : Bool
  faulted : Bool
  report : Option RunnerMetricReport
  deriving DecidableEq

/-- Where the goroutine of `waitForRunnerGroups` stands. -/
inductive Phase where
  | waiting (running : List String)
  | merging (pods groups : List String)
  | reading (pod : String) (answered faulted : Bool) (pods groups : List String)
  | ready (report : RunnerMetricReport)
  deriving DecidableEq

structure SummaryState where
  phase : Phase
  tally : Tally
  listed : List String
  reads : List Read
  deriving DecidableEq

/-- The last three fields are history: the pods that a group accepted, the pods
answered with 201, and the answers to requests for the summary. -/
structure State where
  store : LocalStore.State
  attempts : AttemptId → Option Attempt
  clients : String → Client
  summary : SummaryState
  controlled : List (String × String)
  created : List String
  served : List (Nat × Option RunnerMetricReport)

def SummaryState.start (setting : Setting) : SummaryState :=
  ⟨.waiting setting.groups, .empty, [], []⟩

def start (setting : Setting) : State where
  store := LocalStore.newStore
  attempts := fun _ => none
  clients := fun _ => .ready
  summary := .start setting
  controlled := []
  created := []
  served := []

inductive Label where
  | post (pod : String) (attempt : AttemptId)
  | check (attempt : AttemptId) (pods : Option (List String))
  | openWriter (attempt : AttemptId) (name : Option String)
  | copy (attempt : AttemptId) (count taken : Nat)
  | bodyEnds (attempt : AttemptId)
  | bodyFails (attempt : AttemptId)
  | work (label : LocalStore.Label)
  | answer (attempt : AttemptId)
  | receive (pod : String)
  | lose (pod : String)
  | finish (group : String)
  | summarize
  | list (pods : Option (List String))
  | openReader
  | readerWork (label : LocalStore.Label)
  | readAll (succeeds : Bool) (orders : ReadOrders)
  | publish (order : RangeOrder)
  | get (wait : Bool)
  | cancel (wait : Bool)
  | crash

def State.setAttempt (state : State) (id : AttemptId) (attempt : Attempt) : State :=
  { state with attempts := Function.update state.attempts id (some attempt) }

def State.setClient (state : State) (pod : String) (client : Client) : State :=
  { state with clients := Function.update state.clients pod client }

/-- The next stage of a handler whose writer makes a call of `Commit` or `Close`. -/
def workStage (writer : LocalStore.Stage) : Stage → LocalStore.Label → Option Stage
  | .committing, .lock _ | .committing, .sync _ _ | .committing, .stat _ _
  | .committing, .rename _ _ | .committing, .closeFile _ | .committing, .remove _ _ =>
      some .committing
  | .committing, .unlock _ =>
      match writer with
      | .commitUnlock _ result => some (.returned result)
      | _ => none
  | .closing, .close _ | .closing, .closeFile _ => some .closing
  | .closing, .remove _ _ => some .done
  | _, _ => none

def stepAttempt (setting : Setting) (state : State) (id : AttemptId) (attempt : Attempt) :
    Label → Option State
  | .check _ pods =>
      match attempt.stage with
      | .checking [] => some (state.setAttempt id { attempt with stage := .done, status := some 404 })
      | .checking (group :: rest) =>
          match isControlled group attempt.pod pods with
          | none => some (state.setAttempt id { attempt with stage := .done, status := some 500 })
          | some true =>
              some ({ state with controlled := state.controlled ++ [(group, attempt.pod)] }.setAttempt
                id { attempt with stage := .opening })
          | some false => some (state.setAttempt id { attempt with stage := .checking rest })
      | _ => none
  | .openWriter _ name =>
      match attempt.stage, name with
      | .opening, none =>
          some (state.setAttempt id { attempt with stage := .done, status := some 500 })
      | .opening, some name =>
          (LocalStore.step state.store (.openWriter id name)).map fun store =>
            { state with store := store }.setAttempt id
              { attempt with stage := .copying (setting.body attempt.pod) }
      | _, _ => none
  | .copy _ count taken =>
      match attempt.stage with
      | .copying rest =>
          (LocalStore.step state.store (.write id (rest.take count) taken)).map fun store =>
            { state with store := store }.setAttempt id
              (if (rest.take count).length ≤ taken then
                { attempt with stage := .copying (rest.drop count) }
              else { attempt with stage := .closing, status := some 500 })
      | _ => none
  | .bodyEnds _ =>
      match attempt.stage with
      | .copying [] =>
          (LocalStore.step state.store (.commit id attempt.pod)).map fun store =>
            { state with store := store }.setAttempt id { attempt with stage := .committing }
      | _ => none
  | .bodyFails _ =>
      match attempt.stage with
      | .copying _ => some (state.setAttempt id { attempt with stage := .closing, status := some 500 })
      | _ => none
  | .work label =>
      (state.store.writers id).bind fun writer =>
        (workStage writer.stage attempt.stage label).bind fun stage =>
          (LocalStore.step state.store label).map fun store =>
            { state with store := store }.setAttempt id { attempt with stage := stage }
  | .answer _ =>
      match attempt.stage with
      | .returned result =>
          some ({ state with
            created := if result = LocalStore.CommitResult.ok then state.created ++ [attempt.pod] else state.created
            }.setAttempt id
              { attempt with stage := .closing, status := some (commitStatus result) })
      | _ => none
  | _ => none

def Label.attempt : Label → Option AttemptId
  | .check id _ | .openWriter id _ | .copy id _ _ | .bodyEnds id | .bodyFails id | .answer id =>
      some id
  | .work label =>
      match label.actor with
      | some (.writer id) => some id
      | _ => none
  | _ => none

def stepClient (setting : Setting) (state : State) : Label → Option State
  | .post pod id =>
      match state.clients pod, state.attempts id with
      | .ready, none =>
          some ((state.setAttempt id ⟨pod, .checking setting.groups, none⟩).setClient pod
            (.posting id))
      | _, _ => none
  | .receive pod =>
      match state.clients pod with
      | .posting id =>
          (state.attempts id).bind fun attempt =>
            attempt.status.map fun code => state.setClient pod (.receive code)
      | _ => none
  | .lose pod =>
      match state.clients pod with
      | .posting _ => some (state.setClient pod .ready)
      | _ => none
  | _ => none

def failing : LocalStore.Label → Bool
  | .statAccess _ succeeds | .openAccess _ succeeds => !succeeds
  | _ => false

def isReaderCall : LocalStore.Label → Bool
  | .lockAccess id | .statAccess id _ | .openAccess id _ | .unlockAccess id => id == 0
  | _ => false

def SummaryState.finishRead (summary : SummaryState) (read : Read) (tally : Tally)
    (pods groups : List String) : SummaryState :=
  { summary with
    phase := .merging pods groups
    tally := tally
    reads := summary.reads ++ [read] }

def stepSummary (setting : Setting) (state : State) : Phase → Label → Option State
  | .waiting running, .finish group =>
      if group ∈ running then
        some { state with summary.phase := .waiting (running.erase group) }
      else none
  | .waiting [], .summarize => some { state with summary.phase := .merging [] setting.groups }
  | .merging [] (_ :: groups), .list none =>
      some { state with summary.phase := .merging [] groups }
  | .merging [] (_ :: groups), .list (some pods) =>
      some { state with
        summary.phase := .merging pods groups
        summary.listed := state.summary.listed ++ pods }
  | .merging (pod :: pods) groups, .openReader =>
      (LocalStore.step state.store (.openReader 0 pod)).map fun store =>
        { state with
          store := store
          summary.phase := .reading pod (decide (pod ∈ state.created)) false pods groups }
  | .reading pod answered faulted pods groups, .readerWork label =>
      if isReaderCall label then
        (LocalStore.step state.store label).map fun store =>
          { state with
            store := store
            summary :=
              if label = .unlockAccess 0 ∧ store.accesses 0 = .idle then
                state.summary.finishRead ⟨pod, answered, faulted, none⟩ state.summary.tally
                  pods groups
              else
                { state.summary with
                  phase := .reading pod answered (faulted || failing label) pods groups } }
      else none
  | .reading pod answered faulted pods groups, .readAll succeeds orders =>
      match state.store.accesses 0 with
      | .reading file =>
          (LocalStore.step state.store (.closeReader 0)).map fun store =>
            let data := if succeeds then some (state.store.content file) else none
            { state with
              store := store
              summary := state.summary.finishRead
                ⟨pod, answered, faulted || !succeeds, data.bind (unmarshalReport setting.wire)⟩
                (state.summary.tally.readRunner setting.wire orders data) pods groups }
      | _ => none
  | .merging [] [], .publish order =>
      some { state with
        summary.phase := .ready (state.summary.tally.report setting.wire order) }
  | _, _ => none

def getRunnerGroupsSummary (phase : Phase) (wait : Bool) :
    Option (Nat × Option RunnerMetricReport) :=
  match phase with
  | .ready report => some (200, some report)
  | _ => if wait then none else some (404, none)

/-- A request whose context ends; before the summary is ready only a request that
waits gets this far. -/
def cancelRunnerGroupsSummary (phase : Phase) (wait : Bool) :
    Option (Nat × Option RunnerMetricReport) :=
  match phase with
  | .ready _ => some (408, none)
  | _ => if wait then some (408, none) else none

/-- The process dies: handlers, the summary and its answers are gone, the
directories stay. -/
def restart (setting : Setting) (state : State) : State :=
  { state with
    store := LocalStore.crash state.store
    attempts := fun id => (state.attempts id).map fun attempt => { attempt with stage := .dead }
    summary := .start setting
    served := [] }

def step (setting : Setting) (state : State) (label : Label) : Option State :=
  match label with
  | .post _ _ | .receive _ | .lose _ => stepClient setting state label
  | .finish _ | .summarize | .list _ | .openReader | .readerWork _ | .readAll _ _ | .publish _ =>
      stepSummary setting state state.summary.phase label
  | .get wait =>
      (getRunnerGroupsSummary state.summary.phase wait).map fun answer =>
        { state with served := state.served ++ [answer] }
  | .cancel wait =>
      (cancelRunnerGroupsSummary state.summary.phase wait).map fun answer =>
        { state with served := state.served ++ [answer] }
  | .crash => some (restart setting state)
  | .check _ _ | .openWriter _ _ | .copy _ _ _ | .bodyEnds _ | .bodyFails _ | .work _
  | .answer _ =>
      label.attempt.bind fun id =>
        (state.attempts id).bind fun attempt => stepAttempt setting state id attempt label

def system (setting : Setting) : TransitionSystem State Label where
  initial := fun state => state = start setting
  step := step setting

def Label.openedName : Label → Option String
  | .openWriter _ name => name
  | _ => none

/-- `os.CreateTemp` returns a name it has never returned before. -/
def FreshName (state : State) (label : Label) : Prop :=
  ∀ name ∈ label.openedName, name ∉ state.store.names

instance (state : State) (label : Label) : Decidable (FreshName state label) :=
  inferInstanceAs (Decidable (∀ name ∈ label.openedName, name ∉ state.store.names))

end Kperf.Runner.Server
