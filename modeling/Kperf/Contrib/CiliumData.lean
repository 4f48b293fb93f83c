import Kperf.Library.Goroutine
import Kperf.Library.Transition
import Mathlib.Algebra.Ring.Nat

/-! `loadCiliumData` as a transition system: the producer that generates the
resources, the workers that apply them, the progress reporter, the task channel
between them and the errgroup they belong to. A step of a goroutine goes up to
its next action that another one can see. A label fixes what is outside the
program: the random names, the outcome of each `kubectl apply`, the end of the
caller's context, and which goroutine moves; where a `select` has several ready
cases there is a label for each. What the reporter logs is left out. The last
three fields of the state only record what has happened. -/

set_option autoImplicit false

namespace Kperf.Contrib.CiliumData

abbrev WorkerId := Nat

def maxNumCRApplyAttempts : Nat := 5

def generateCiliumIdentity (identityName : String) : String :=
  "\n".intercalate
    ["", "apiVersion: cilium.io/v2", "kind: CiliumIdentity", "metadata:",
      "  name: \"" ++ identityName ++ "\"", "security-labels:",
      "  k8s:io.cilium.k8s.namespace.labels.control-plane: \"true\"",
      "  k8s:io.cilium.k8s.namespace.labels.kubernetes.azure.com/managedby: aks",
      "  k8s:io.cilium.k8s.namespace.labels.kubernetes.io/cluster-service: \"true\"",
      "  k8s:io.cilium.k8s.namespace.labels.kubernetes.io/metadata.name: kube-system",
      "  k8s:io.cilium.k8s.policy.cluster: default",
      "  k8s:io.cilium.k8s.policy.serviceaccount: coredns",
      "  k8s:io.kubernetes.pod.namespace: kube-system", "  k8s:k8s-app: kube-dns",
      "  k8s:kubernetes.azure.com/managedby: aks", "  k8s:version: v20"]

def generateCiliumEndpoint (cepName : String) : String :=
  "\n".intercalate
    ["", "apiVersion: cilium.io/v2", "kind: CiliumEndpoint", "metadata:",
      "  name: \"" ++ cepName ++ "\"", "status:", "  encryption: \x7b\x7d",
      "  external-identifiers:",
      "    container-id: 790d85075c394a8384f8b1a0fec62e2316c2556d175dab0c1fe676e5a6d92f33",
      "    k8s-namespace: kube-system", "    k8s-pod-name: coredns-54b69f46b8-dbcdl",
      "    pod-name: kube-system/coredns-54b69f46b8-dbcdl", "  id: 1453", "  identity:",
      "    id: 0000001", "    labels:",
      "    - k8s:io.cilium.k8s.namespace.labels.control-plane=true",
      "    - k8s:io.cilium.k8s.namespace.labels.kubernetes.azure.com/managedby=aks",
      "    - k8s:io.cilium.k8s.namespace.labels.kubernetes.io/cluster-service=true",
      "    - k8s:io.cilium.k8s.namespace.labels.kubernetes.io/metadata.name=kube-system",
      "    - k8s:io.cilium.k8s.policy.cluster=default",
      "    - k8s:io.cilium.k8s.policy.serviceaccount=coredns",
      "    - k8s:io.kubernetes.pod.namespace=kube-system", "    - k8s:k8s-app=kube-dns",
      "    - k8s:kubernetes.azure.com/managedby=aks", "    - k8s:version=v20",
      "  named-ports:", "  - name: dns", "    port: 53", "    protocol: UDP",
      "  - name: dns-tcp", "    port: 53", "    protocol: TCP", "  - name: metrics",
      "    port: 9153", "    protocol: TCP", "  networking:", "    addressing:",
      "    - ipv4: 10.244.1.38", "    node: 10.224.0.4", "  policy:", "    egress:",
      "      enforcing: false", "      state: <status disabled>", "    ingress:",
      "      enforcing: false", "      state: <status disabled>", "  state: ready",
      "  visibility-policy-status: <status disabled>", ""]

/-- One call of `loadCiliumData`. Its two counts are of type `int`, and the number
of workers is a constant of the source. -/
structure Setting where
  numCID : Nat
  numCEP : Nat
  identitiesFit : numCID < 2 ^ 63
  endpointsFit : numCEP < 2 ^ 63
  numCRApplyWorkers : Nat

namespace Setting

variable (setting : Setting)

def resources : Nat := setting.numCID + setting.numCEP

def capacity : Nat := setting.numCRApplyWorkers * 2

/-- The resource of one iteration, with the two loops of the producer counted as one. -/
def generate (index : Nat) (uuid : String) : String :=
  if index < setting.numCID then generateCiliumIdentity uuid else generateCiliumEndpoint uuid

end Setting

/-- A resource on its way to the cluster, with the iteration that generated it. -/
structure Task where
  id : Nat
  data : String
  deriving DecidableEq, Repr

/-- Where the producer stands: at the head of an iteration, in its `select`, or
between the two closes. -/
inductive ProducerPoint where
  | generating (index : Nat)
  | sending (index : Nat) (data : String)
  | closingReporter
  deriving DecidableEq, Repr

inductive WorkerPoint where
  | selecting
  | applying (task : Task) (number : Nat)
  deriving DecidableEq, Repr

/-- One call of `ServerSideApplyWithData`: the `number`-th, counted from zero, that
`worker` makes for `task`. -/
structure Attempt where
  task : Task
  worker : WorkerId
  number : Nat
  err : Option String
  deriving DecidableEq, Repr

structure State where
  taskChan : Channel Task
  /-- whether `reporterDoneChan` is closed -/
  reporterDone : Bool
  producer : Goroutine ProducerPoint
  workers : WorkerId → Goroutine WorkerPoint
  reporter : Goroutine Unit
  group : ErrorGroup
  appliedCount : Nat
  result : Option (Option String)
  sent : List Task
  taken : List (Task × WorkerId)
  attempts : List Attempt

namespace State

def setWorker (state : State) (id : WorkerId) (worker : Goroutine WorkerPoint) : State :=
  { state with workers := Function.update state.workers id worker }

def record (state : State) (attempt : Attempt) : State :=
  { state with attempts := state.attempts ++ [attempt] }

def AllExited (setting : Setting) (state : State) : Prop :=
  state.producer = .exited ∧ state.reporter = .exited ∧
    ∀ id < setting.numCRApplyWorkers, state.workers id = .exited

instance (setting : Setting) (state : State) : Decidable (state.AllExited setting) :=
  inferInstanceAs (Decidable (_ ∧ _ ∧ _))

end State

def start (setting : Setting) : State where
  taskChan := .empty
  reporterDone := false
  producer := .running (.generating 0)
  workers := fun id =>
    if id < setting.numCRApplyWorkers then .running .selecting else .exited
  reporter := .running ()
  group := .start
  appliedCount := 0
  result := none
  sent := []
  taken := []
  attempts := []

inductive Party where
  | producer
  | worker (id : WorkerId)
  | reporter
  deriving DecidableEq, Repr

inductive Label where
  | generate (uuid : String)
  | send
  | closeTasks
  | closeReporter
  | receive (worker : WorkerId)
  | apply (worker : WorkerId) (err : Option String)
  | report
  | finishReports
  /-- the `ctx.Done` case of a `select` -/
  | quit (party : Party)
  /-- the errgroup takes note of what a function returned -/
  | settle (party : Party)
  | wait
  | parentDone (reason : String)
  deriving DecidableEq, Repr

/-- The goroutine that takes the step, if it is one of the group. -/
def Label.party : Label → Option Party
  | .generate _ | .send | .closeTasks | .closeReporter => some .producer
  | .receive worker | .apply worker _ => some (.worker worker)
  | .report | .finishReports => some .reporter
  | .quit party | .settle party => some party
  | .wait | .parentDone _ => none

def stepProducer (setting : Setting) (state : State) :
    Goroutine ProducerPoint → Label → Option State
  | .running (.generating index), .generate uuid =>
      if index < setting.resources then
        some { state with
          producer := .running (.sending index (setting.generate index uuid)) }
      else none
  | .running (.sending index data), .send =>
      (state.taskChan.send setting.capacity ⟨index, data⟩).map fun taskChan =>
        { state with
          taskChan := taskChan
          producer := .running (.generating (index + 1))
          sent := state.sent ++ [⟨index, data⟩] }
  | .running (.sending _ _), .quit _ =>
      state.group.ctxErr.map fun reason => { state with producer := .returned (some reason) }
  | .running (.generating index), .closeTasks =>
      if index < setting.resources then none
      else some { state with
        taskChan := state.taskChan.close
        producer := .running .closingReporter }
  | .running .closingReporter, .closeReporter =>
      some { state with reporterDone := true, producer := .returned none }
  | .returned err, .settle _ =>
      some { state with group := state.group.settle err, producer := .exited }
  | _, _ => none

/-- What a worker does with the outcome of an attempt. -/
def attempt (state : State) (id : WorkerId) (task : Task) (number : Nat) :
    Option String → State
  | none =>
      ({ state with appliedCount := (state.appliedCount + 1) % 2 ^ 64 }.record
        ⟨task, id, number, none⟩).setWorker id (.running .selecting)
  | some err =>
      (state.record ⟨task, id, number, some err⟩).setWorker id
        (if number + 1 < maxNumCRApplyAttempts then .running (.applying task (number + 1))
        else .returned (some ("failed to apply cilium resource data: " ++ err)))

def stepWorker (state : State) (id : WorkerId) :
    Goroutine WorkerPoint → Label → Option State
  | .running .selecting, .receive _ =>
      match state.taskChan.receive with
      | some (some task, taskChan) =>
          some ({ state with
            taskChan := taskChan
            taken := state.taken ++ [(task, id)] }.setWorker id (.running (.applying task 0)))
      | some (none, _) => some (state.setWorker id (.returned none))
      | none => none
  | .running .selecting, .quit _ =>
      state.group.ctxErr.map fun reason => state.setWorker id (.returned (some reason))
  | .running (.applying task number), .apply _ err => some (attempt state id task number err)
  | .returned err, .settle _ =>
      some ({ state with group := state.group.settle err }.setWorker id .exited)
  | _, _ => none

def stepReporter (state : State) : Goroutine Unit → Label → Option State
  | .running _, .report => some state
  | .running _, .finishReports =>
      if state.reporterDone then some { state with reporter := .returned none } else none
  | .running _, .quit _ =>
      state.group.ctxErr.map fun reason => { state with reporter := .returned (some reason) }
  | .returned err, .settle _ =>
      some { state with group := state.group.settle err, reporter := .exited }
  | _, _ => none

def stepParty (setting : Setting) (state : State) (label : Label) : Party → Option State
  | .producer => stepProducer setting state state.producer label
  | .worker id => stepWorker state id (state.workers id) label
  | .reporter => stepReporter state state.reporter label

def step (setting : Setting) (state : State) (label : Label) : Option State :=
  match label.party with
  | some party => stepParty setting state label party
  | none =>
      match label with
      | .parentDone reason =>
          if state.group.ctxErr.isSome then none
          else some { state with group := state.group.cancel reason }
      | _ =>
          if state.AllExited setting ∧ state.result = none then
            some { state with result := some state.group.err }
          else none

def system (setting : Setting) : TransitionSystem State Label where
  initial := fun state => state = start setting
  step := step setting

/-! The steps as relations, one constructor for each branch. -/

section Moves

variable (setting : Setting) (state : State)

inductive ProducerMove : Goroutine ProducerPoint → Label → State → Prop where
  | generate {index : Nat} {uuid : String} :
      index < setting.resources →
      ProducerMove (.running (.generating index)) (.generate uuid)
        { state with
          producer := .running (.sending index (setting.generate index uuid)) }
  | send {index : Nat} {data : String} :
      state.taskChan.closed = false →
      state.taskChan.buffer.length < setting.capacity →
      ProducerMove (.running (.sending index data)) .send
        { state with
          taskChan := ⟨state.taskChan.buffer ++ [⟨index, data⟩], false⟩
          producer := .running (.generating (index + 1))
          sent := state.sent ++ [⟨index, data⟩] }
  | quit {index : Nat} {data reason : String} {party : Party} :
      state.group.ctxErr = some reason →
      ProducerMove (.running (.sending index data)) (.quit party)
        { state with producer := .returned (some reason) }
  | closeTasks {index : Nat} :
      ¬index < setting.resources →
      ProducerMove (.running (.generating index)) .closeTasks
        { state with
          taskChan := state.taskChan.close
          producer := .running .closingReporter }
  | closeReporter :
      ProducerMove (.running .closingReporter) .closeReporter
        { state with reporterDone := true, producer := .returned none }
  | settle {err : Option String} {party : Party} :
      ProducerMove (.returned err) (.settle party)
        { state with group := state.group.settle err, producer := .exited }

inductive WorkerMove (id : WorkerId) : Goroutine WorkerPoint → Label → State → Prop where
  | receive {worker : WorkerId} {task : Task} {rest : List Task} :
      state.taskChan.buffer = task :: rest →
      WorkerMove id (.running .selecting) (.receive worker)
        ({ state with
          taskChan := { state.taskChan with buffer := rest }
          taken := state.taken ++ [(task, id)] }.setWorker id (.running (.applying task 0)))
  | leave {worker : WorkerId} :
      state.taskChan.buffer = [] → state.taskChan.closed = true →
      WorkerMove id (.running .selecting) (.receive worker)
        (state.setWorker id (.returned none))
  | quit {reason : String} {party : Party} :
      state.group.ctxErr = some reason →
      WorkerMove id (.running .selecting) (.quit party)
        (state.setWorker id (.returned (some reason)))
  | apply {worker : WorkerId} {task : Task} {number : Nat} :
      WorkerMove id (.running (.applying task number)) (.apply worker none)
        (({ state with appliedCount := (state.appliedCount + 1) % 2 ^ 64 }.record
          ⟨task, id, number, none⟩).setWorker id (.running .selecting))
  | retry {worker : WorkerId} {task : Task} {number : Nat} {err : String} :
      number + 1 < maxNumCRApplyAttempts →
      WorkerMove id (.running (.applying task number)) (.apply worker (some err))
        ((state.record ⟨task, id, number, some err⟩).setWorker id
          (.running (.applying task (number + 1))))
  | giveUp {worker : WorkerId} {task : Task} {number : Nat} {err : String} :
      ¬number + 1 < maxNumCRApplyAttempts →
      WorkerMove id (.running (.applying task number)) (.apply worker (some err))
        ((state.record ⟨task, id, number, some err⟩).setWorker id
          (.returned (some ("failed to apply cilium resource data: " ++ err))))
  | settle {err : Option String} {party : Party} :
      WorkerMove id (.returned err) (.settle party)
        ({ state with group := state.group.settle err }.setWorker id .exited)

inductive ReporterMove : Goroutine Unit → Label → State → Prop where
  | report : ReporterMove (.running ()) .report state
  | finishReports :
      state.reporterDone = true →
      ReporterMove (.running ()) .finishReports { state with reporter := .returned none }
  | quit {reason : String} {party : Party} :
      state.group.ctxErr = some reason →
      ReporterMove (.running ()) (.quit party)
        { state with reporter := .returned (some reason) }
  | settle {err : Option String} {party : Party} :
      ReporterMove (.returned err) (.settle party)
        { state with group := state.group.settle err, reporter := .exited }

inductive Transition : Label → State → Prop where
  | producer {label : Label} {next : State} :
      ProducerMove setting state state.producer label next → Transition label next
  | worker {id : WorkerId} {label : Label} {next : State} :
      WorkerMove state id (state.workers id) label next → Transition label next
  | reporter {label : Label} {next : State} :
      ReporterMove state state.reporter label next → Transition label next
  | parentDone {reason : String} :
      state.group.ctxErr = none →
      Transition (.parentDone reason) { state with group := state.group.cancel reason }
  | wait :
      state.AllExited setting → state.result = none →
      Transition .wait { state with result := some state.group.err }

end Moves

section Inversion

variable {setting : Setting} {state next : State} {label : Label}

theorem stepProducer_move {producer : Goroutine ProducerPoint}
    (stepped : stepProducer setting state producer label = some next) :
    ProducerMove setting state producer label next := by
  unfold stepProducer at stepped
  split at stepped
  · split at stepped
    · rename_i below
      cases stepped
      exact .generate below
    · cases stepped
  · obtain ⟨taskChan, sent, rfl⟩ := Option.map_eq_some_iff.mp stepped
    obtain ⟨opened, room, rfl⟩ := Channel.send_eq_some.mp sent
    exact .send opened room
  · obtain ⟨reason, done, rfl⟩ := Option.map_eq_some_iff.mp stepped
    exact .quit done
  · split at stepped
    · cases stepped
    · rename_i complete
      cases stepped
      exact .closeTasks complete
  · cases stepped
    exact .closeReporter
  · cases stepped
    exact .settle
  · cases stepped

theorem stepWorker_move {id : WorkerId} {worker : Goroutine WorkerPoint}
    (stepped : stepWorker state id worker label = some next) :
    WorkerMove state id worker label next := by
  unfold stepWorker at stepped
  split at stepped
  · split at stepped
    · rename_i received
      obtain ⟨rest, buffered, rfl⟩ := Channel.receive_eq_value.mp received
      cases stepped
      exact .receive buffered
    · rename_i received
      obtain ⟨drained, closed, -⟩ := Channel.receive_eq_closed.mp received
      cases stepped
      exact .leave drained closed
    · cases stepped
  · obtain ⟨reason, done, rfl⟩ := Option.map_eq_some_iff.mp stepped
    exact .quit done
  · rename_i task number worker err
    cases stepped
    cases err with
    | none => exact .apply
    | some err =>
        by_cases more : number + 1 < maxNumCRApplyAttempts
        · rw [attempt, if_pos more]
          exact .retry more
        · rw [attempt, if_neg more]
          exact .giveUp more
  · cases stepped
    exact .settle
  · cases stepped

theorem stepReporter_move {reporter : Goroutine Unit}
    (stepped : stepReporter state reporter label = some next) :
    ReporterMove state reporter label next := by
  unfold stepReporter at stepped
  split at stepped
  · cases stepped
    exact .report
  · split at stepped
    · cases stepped
      exact .finishReports ‹_›
    · cases stepped
  · obtain ⟨reason, done, rfl⟩ := Option.map_eq_some_iff.mp stepped
    exact .quit done
  · cases stepped
    exact .settle
  · cases stepped

theorem step_transition (stepped : step setting state label = some next) :
    Transition setting state label next := by
  unfold step at stepped
  split at stepped
  · rename_i party _
    cases party with
    | producer => exact .producer (stepProducer_move stepped)
    | worker id => exact .worker (stepWorker_move stepped)
    | reporter => exact .reporter (stepReporter_move stepped)
  · rename_i outside
    split at stepped
    · split at stepped
      · cases stepped
      · rename_i fresh
        cases stepped
        exact .parentDone (Option.not_isSome_iff_eq_none.mp fresh)
    · rename_i other
      split at stepped
      · rename_i ended
        cases stepped
        cases label with
        | wait => exact .wait ended.1 ended.2
        | parentDone reason => exact absurd rfl (other reason)
        | _ => cases outside
      · cases stepped

end Inversion

end Kperf.Contrib.CiliumData
