import Kperf.Cmd.Utils
import Kperf.Library.Text
import Kperf.Library.Transition
import Kperf.VirtualCluster.NodepoolCalls

/-! The commands of `runkperf` that repeat a job: three benchmarks and the warmup. Each
makes a node pool, starts a goroutine that applies and deletes a job in a namespace of
its own, runs a runner group until it has the result, stops the goroutine and deletes
the pool. The work is done by commands, `kperf` and `kubectl`; a label says what each
of them meets and which goroutine moves.

A panic in the goroutine runs its deferred calls first. The last of them counts the wait
group down, so the command may go on before the runtime ends the process. -/

set_option autoImplicit false

namespace Kperf.Contrib.JobBench

open Outcome
open VirtualCluster (Releases CreateFaults DeleteFaults UninstallFault createNodepool deleteNodepool)

inductive Command where
  | node10Job1Pod100
  | node10Job1Pod1k
  | node100Job1Pod3K
  | warmup
  deriving DecidableEq, Repr

namespace Command

def nodepool : Command → String
  | .node10Job1Pod100 => "node10job1pod100"
  | .node10Job1Pod1k => "node10job1pod1k"
  | .node100Job1Pod3K => "node100job1pod3k"
  | .warmup => "warmup"

def nodes : Command → Int
  | .node10Job1Pod100 | .node10Job1Pod1k => 10
  | .node100Job1Pod3K | .warmup => 100

def jobNamespace : Command → String
  | .node10Job1Pod100 => "job1pod100"
  | .node10Job1Pod1k => "job1pod1k"
  | .node100Job1Pod3K => "job1pod3k"
  | .warmup => "warmupjob"

end Command

structure Flags where
  cpu : Int
  memory : Int
  maxPods : Int
  vcAffinity : String
  eks : Bool
  coreWarmupReadyThreshold : Int
  deriving DecidableEq, Repr

/-- One call of a command. `invoked` is what `runCommand` returns when the command that
it runs ends with an error. -/
structure Setting where
  command : Command
  flags : Flags
  invoked : String → String

namespace Setting

variable (setting : Setting)

def nodepool : String := setting.command.nodepool

def jobNamespace : String := setting.command.jobNamespace

/-- The warmup does not ask for the size of its nodes. -/
def sizes : Int × Int × Int :=
  match setting.command with
  | .warmup => (32, 96, 110)
  | _ => (setting.flags.cpu, setting.flags.memory, setting.flags.maxPods)

/-- `KperfRunner.NewNodepool`: `kperf vc nodepool add` with the flags of the command. -/
def newNodepool (faults : CreateFaults) (sharedProviderID : String) (releases : Releases) :
    Releases × Outcome Unit :=
  let affinity := setting.flags.vcAffinity
  match wrap "failed to parse affinity: "
      (Cmd.Utils.keyValuesMap (if affinity = "" then [] else [affinity])) with
  | .error fault => (releases, .error fault)
  | .ok nodeSelectors =>
      createNodepool faults setting.nodepool
        [.cpuOpt setting.sizes.1, .memoryOpt setting.sizes.2.1, .countOpt setting.command.nodes,
          .maxPodsOpt setting.sizes.2.2, .nodeControllerAffinity nodeSelectors, .labelsOpt ∅,
          .sharedProviderID sharedProviderID] releases

def isReady (cores : List Int) : Bool :=
  let n := cores.countP fun core => setting.flags.coreWarmupReadyThreshold ≤ core
  if setting.flags.eks then decide (2 ≤ n) else decide (1 ≤ n)

/-- The cores could be fetched, and they suffice. -/
def warm : Option (List Int) → Bool
  | some cores => setting.isReady cores
  | none => false

end Setting

/-- Whose work something in the cluster is: of this call, or of something before it. -/
inductive Origin where
  | earlier
  | own
  deriving DecidableEq, Repr

/-- Helm creates the namespaces of its releases. -/
def runnerGroupReleaseNamespace : String := "runnergroups-kperf-io"

def virtualnodeReleaseNamespace : String := "virtualnodes-kperf-io"

/-- `jobs` are the namespaces that hold the job, and `tolerations` those of the daemon sets
of `kube-system`. `server` is the runner group server, and `group` the config map and job
of its group, in the namespace of their release. -/
structure Cluster where
  releases : Releases
  namespaces : String → Bool
  jobs : String → Bool
  tolerations : String → List String
  server : Option Origin
  group : Option Origin

/-- What a `kubectl` command meets. One that fails may have done its work. -/
inductive CallFault where
  | none
  | failed (done : Bool) (err : String)
  deriving DecidableEq, Repr

structure GroupDeleteFaults where
  newDeleteCli : Option String
  release : UninstallFault
  namespace_ : CallFault
  deriving DecidableEq, Repr

structure GroupRunFaults where
  /-- the flags, the spec and the client for `Get` -/
  prepare : Option String
  /-- `Get` fails although the release is there. -/
  getFails : Bool
  /-- A release that could not be deployed may have its namespace. -/
  deploy : CallFault
  deriving DecidableEq, Repr

inductive DaemonsetFault where
  | none
  | getFails (err : String)
  | updateFails (done : Bool) (err : String)
  deriving DecidableEq, Repr

structure PatchFaults where
  awsNode : DaemonsetFault
  kubeProxy : DaemonsetFault
  deriving DecidableEq, Repr

namespace Cluster

variable (cluster : Cluster)

def setNamespace (name : String) (present : Bool) : Cluster :=
  { cluster with namespaces := Function.update cluster.namespaces name present }

def setJob (name : String) (present : Bool) : Cluster :=
  { cluster with jobs := Function.update cluster.jobs name present }

/-- The namespace of the virtual nodes, if an install got that far. -/
def makeNamespace (made : Bool) : Cluster :=
  if made then cluster.setNamespace virtualnodeReleaseNamespace true else cluster

/-- A namespace goes with all that it holds. -/
def dropNamespace (name : String) : Cluster := (cluster.setJob name false).setNamespace name false

def createNamespace (name : String) : CallFault → Cluster × Option String
  | .none =>
      if cluster.namespaces name then
        (cluster, some ("namespaces " ++ Format.quote name ++ " already exists"))
      else (cluster.setNamespace name true, none)
  | .failed done err => (if done then cluster.setNamespace name true else cluster, some err)

def deleteNamespace (name : String) : CallFault → Cluster × Option String
  | .none => (cluster.dropNamespace name, none)
  | .failed done err => (if done then cluster.dropNamespace name else cluster, some err)

def apply (name : String) : CallFault → Cluster × Option String
  | .none =>
      if cluster.namespaces name then (cluster.setJob name true, none)
      else (cluster, some ("namespaces " ++ Format.quote name ++ " not found"))
  | .failed done err =>
      (if done && cluster.namespaces name then cluster.setJob name true else cluster, some err)

def deleteJob (name : String) : CallFault → Cluster × Option String
  | .none =>
      if cluster.jobs name then (cluster.setJob name false, none)
      else (cluster, some "jobs.batch \"batchjobs\" not found")
  | .failed done err => (if done then cluster.setJob name false else cluster, some err)

/-- The release goes first, then the namespace with all that the server put there. -/
def deleteRunnerGroupServer (faults : GroupDeleteFaults) : Cluster × Option String :=
  match faults.newDeleteCli, faults.release, faults.namespace_ with
  | some err, _, _ => (cluster, some ("failed to create helm delete client: " ++ err))
  | none, .failed removed err, _ =>
      ({ cluster with server := if removed then none else cluster.server },
        some ("failed to delete runner group server: " ++ err))
  | none, .none, .none =>
      ({ cluster.dropNamespace runnerGroupReleaseNamespace with server := none, group := none },
        none)
  | none, .none, .failed done err =>
      (if done then
        { cluster.dropNamespace runnerGroupReleaseNamespace with server := none, group := none }
      else { cluster with server := none },
        some ("failed to delete runner group namespace " ++ runnerGroupReleaseNamespace ++ ": " ++
          err))

def createRunnerGroupServer (faults : GroupRunFaults) : Cluster × Option String :=
  match faults.prepare with
  | some err => (cluster, some err)
  | none =>
      if cluster.server.isSome ∧ faults.getFails = false then
        (cluster, some "runner group server already exists")
      else match faults.deploy with
        | .failed made err =>
            (if made then cluster.setNamespace runnerGroupReleaseNamespace true else cluster,
              some err)
        | .none =>
            ({ cluster.setNamespace runnerGroupReleaseNamespace true with server := some .own },
              none)

def clearTolerations (name : String) : Cluster :=
  { cluster with tolerations := Function.update cluster.tolerations name [] }

def patchDaemonset (name : String) : DaemonsetFault → Cluster × Option String
  | .none => (cluster.clearTolerations name, none)
  | .getFails err => (cluster, some ("failed to get daemonset " ++ name ++ ": " ++ err))
  | .updateFails done err =>
      (if done then cluster.clearTolerations name else cluster,
        some ("failed to delete toleration for daemonset " ++ name ++ ": " ++ err))

def patchEKSDaemonsetWithoutToleration (faults : PatchFaults) : Cluster × Option String :=
  match cluster.patchDaemonset "aws-node" faults.awsNode with
  | (patched, some err) => (patched, some err)
  | (patched, none) => patched.patchDaemonset "kube-proxy" faults.kubeProxy

end Cluster

/-- A report is the summary of a server about a group. -/
structure Report where
  server : Origin
  group : Origin
  deriving DecidableEq, Repr

/-- What the command returns; the warmup has no report. -/
abbrev Result := Except String (Option Report)

/-- Where the command stands. From `preparing` to `adding` it is in
`deployVirtualNodepool`, from `deletingGroup` to `releasing` in `DeployRunnerGroup`. -/
inductive Point where
  | loading
  | patching
  | fetching
  | preparing
  | clearing (sharedProviderID : String)
  | adding (sharedProviderID : String)
  | deletingGroup
  | runningGroup
  | polling
  | releasing (report : Report)
  | cancelling (result : Result)
  | waiting (result : Result)
  | fetchingAgain (result : Result)
  | deletingPool (result : Result)
  | removingProfile (result : Result)
  | returned (result : Result)
  deriving DecidableEq

/-- Where the goroutine of `RepeatJobWithPod` stands. -/
inductive Repeater where
  | idle
  | creatingFile
  | creatingNamespace
  | looping
  | applying
  | waiting
  | deleting
  | deletingNamespace
  | removingFile
  | panicking (message : String)
  /-- the deferred calls have run -/
  | crashing (message : String)
  | done
  deriving DecidableEq, Repr

/-- The goroutine has counted the wait group down. -/
def Repeater.counted : Repeater → Bool
  | .done | .crashing _ => true
  | _ => false

structure State where
  cluster : Cluster
  profileFile : Bool
  jobFile : Bool
  main : Point
  repeater : Repeater
  cancelled : Bool
  panicked : Option String

def start (cluster : Cluster) : State := ⟨cluster, false, false, .loading, .idle, false, none⟩

inductive Label where
  | load (err : Option String)
  | patch (faults : PatchFaults)
  | fetchCores (cores : Option (List Int))
  | fetchProvider (answer : Except String String)
  | clear (faults : DeleteFaults)
  /-- `made` says whether a failed call has created the namespace of the releases -/
  | add (faults : CreateFaults) (made : Bool)
  | deleteGroup (faults : GroupDeleteFaults)
  | runGroup (faults : GroupRunFaults)
  | fetchResult (err unmarshal : Option String)
  | cancel
  | join
  | deletePool (faults : DeleteFaults)
  | removeProfile (fails : Bool)
  | createJobFile (err : Option String)
  | createNamespace (fault : CallFault)
  | check
  | apply (fault : CallFault)
  | waitJob
  | deleteJob (fault : CallFault)
  | deleteNamespace (fault : CallFault)
  | removeJobFile (fails : Bool)
  | crash
  /-- the server deploys its group -/
  | deployed
  /-- the group of a server that is gone is collected -/
  | collect

namespace Setting

variable (setting : Setting)

/-- The first point of `deployVirtualNodepool`. -/
def deploying : Point := if setting.flags.eks then .preparing else .clearing ""

def loaded : Point :=
  match setting.command with
  | .warmup => if setting.flags.eks then .patching else .fetching
  | _ => setting.deploying

def providerError (err : String) : String :=
  match setting.command with
  | .warmup => "failed to get placeholder providerID: " ++ err
  | _ => "failed to deploy virtual node: failed to get EKS idle node (type: m4.large) providerID: " ++ err

def nodepoolError (err : String) : String :=
  let created := "failed to create nodepool " ++ setting.nodepool ++ ": " ++ setting.invoked err
  match setting.command with
  | .warmup => created
  | _ => "failed to deploy virtual node: " ++ created

def joined (result : Result) : Point :=
  match setting.command with
  | .warmup => .fetchingAgain result
  | _ => .deletingPool result

/-- The warmup drops the report, and its error as well when the cluster is warm. -/
def warmupResult (cores : Option (List Int)) : Result → Result
  | .ok _ => .ok none
  | .error err => if setting.warm cores then .ok none else .error err

/-- Only the warmup looks at the error of the deferred deletion. -/
def poolDeleted (deleted : Outcome Unit) (result : Result) : Result :=
  match setting.command, result, deleted with
  | .warmup, .ok _, .error fault => .error (setting.invoked fault.message)
  | _, _, _ => result

end Setting

def podNotFound : String := "pods \"runnergroup-server\" not found"

def stepMain (setting : Setting) (state : State) : Point → Label → Option State
  | .loading, .load (some err) => some { state with main := .returned (.error err) }
  | .loading, .load none => some { state with profileFile := true, main := setting.loaded }
  | .patching, .patch faults =>
      match state.cluster.patchEKSDaemonsetWithoutToleration faults with
      | (cluster, some err) => some { state with cluster, main := .removingProfile (.error err) }
      | (cluster, none) => some { state with cluster, main := .fetching }
  | .fetching, .fetchCores cores =>
      some { state with
        main := if setting.warm cores then .removingProfile (.ok none) else setting.deploying }
  | .preparing, .fetchProvider (.error err) =>
      some { state with main := .removingProfile (.error (setting.providerError err)) }
  | .preparing, .fetchProvider (.ok sharedProviderID) =>
      some { state with main := .clearing sharedProviderID }
  | .clearing sharedProviderID, .clear faults =>
      -- an error of the deletion is only logged
      let (releases, _) := deleteNodepool faults setting.nodepool state.cluster.releases
      some { state with
        cluster := { state.cluster with releases }
        main := .adding sharedProviderID }
  | .adding sharedProviderID, .add faults made =>
      match setting.newNodepool faults sharedProviderID state.cluster.releases with
      | (releases, .error fault) =>
          some { state with
            cluster := { state.cluster.makeNamespace made with releases }
            main := .removingProfile (.error (setting.nodepoolError fault.message)) }
      | (releases, .ok ()) =>
          some { state with
            cluster := { state.cluster.makeNamespace true with releases }
            main := .deletingGroup
            repeater := .creatingFile }
  | .deletingGroup, .deleteGroup faults =>
      match state.cluster.deleteRunnerGroupServer faults with
      | (cluster, some err) =>
          some { state with
            cluster
            main := .cancelling (.error
              ("failed to delete existing runner group: " ++ setting.invoked err)) }
      | (cluster, none) => some { state with cluster, main := .runningGroup }
  | .runningGroup, .runGroup faults =>
      match state.cluster.createRunnerGroupServer faults with
      | (cluster, some err) =>
          some { state with
            cluster
            main := .cancelling (.error ("failed to deploy runner group: " ++ setting.invoked err)) }
      | (cluster, none) => some { state with cluster, main := .polling }
  | .polling, .fetchResult (some err) _ =>
      if Text.contains err podNotFound then
        some { state with main := .cancelling (.error err) }
      else some state
  | .polling, .fetchResult none unmarshal =>
      match state.cluster.server, state.cluster.group, unmarshal with
      | some _, some _, some err =>
          some { state with
            main := .cancelling (.error ("failed to unmarshal into RunnerGroupsReport: " ++ err)) }
      | some server, some group, none => some { state with main := .releasing ⟨server, group⟩ }
      | _, _, _ => none
  | .releasing report, .deleteGroup faults =>
      let (cluster, _) := state.cluster.deleteRunnerGroupServer faults
      some { state with cluster, main := .cancelling (.ok (some report)) }
  | .cancelling result, .cancel => some { state with cancelled := true, main := .waiting result }
  | .waiting result, .join =>
      if state.repeater.counted then some { state with main := setting.joined result } else none
  | .fetchingAgain result, .fetchCores cores =>
      some { state with main := .deletingPool (setting.warmupResult cores result) }
  | .deletingPool result, .deletePool faults =>
      let (releases, deleted) := deleteNodepool faults setting.nodepool state.cluster.releases
      some { state with
        cluster := { state.cluster with releases }
        main := .removingProfile (setting.poolDeleted deleted result) }
  | .removingProfile result, .removeProfile fails =>
      some { state with profileFile := state.profileFile && fails, main := .returned result }
  | _, _ => none

/-- The deferred calls run when the goroutine returns, and when it panics. The namespace
is deleted by one that is deferred only once it has been created. -/
def stepRepeater (setting : Setting) (state : State) : Repeater → Label → Option State
  | .creatingFile, .createJobFile (some err) =>
      some { state with
        repeater := .crashing ("unexpected error when create job yaml: " ++ err) }
  | .creatingFile, .createJobFile none =>
      some { state with jobFile := true, repeater := .creatingNamespace }
  | .creatingNamespace, .createNamespace fault =>
      match state.cluster.createNamespace setting.jobNamespace fault with
      | (cluster, some err) =>
          some { state with
            cluster
            repeater := .panicking ("failed to create a new namespace " ++ setting.jobNamespace ++
              ": " ++ setting.invoked err) }
      | (cluster, none) => some { state with cluster, repeater := .looping }
  | .looping, .check =>
      some { state with repeater := if state.cancelled then .deletingNamespace else .applying }
  | .applying, .apply fault =>
      match state.cluster.apply setting.jobNamespace fault with
      | (cluster, some _) => some { state with cluster, repeater := .looping }
      | (cluster, none) => some { state with cluster, repeater := .waiting }
  | .waiting, .waitJob => some { state with repeater := .deleting }
  | .deleting, .deleteJob fault =>
      let (cluster, _) := state.cluster.deleteJob setting.jobNamespace fault
      some { state with cluster, repeater := .looping }
  | .deletingNamespace, .deleteNamespace fault =>
      let (cluster, _) := state.cluster.deleteNamespace setting.jobNamespace fault
      some { state with cluster, repeater := .removingFile }
  | .removingFile, .removeJobFile fails =>
      some { state with jobFile := state.jobFile && fails, repeater := .done }
  | .panicking message, .removeJobFile fails =>
      some { state with jobFile := state.jobFile && fails, repeater := .crashing message }
  | .crashing message, .crash => some { state with panicked := some message }
  | _, _ => none

/-- A server that finds a group in its namespace takes it for its own. -/
def stepCluster (cluster : Cluster) : Label → Option Cluster
  | .deployed =>
      match cluster.server with
      | some server => some { cluster with group := cluster.group.or (some server) }
      | none => none
  | .collect =>
      if cluster.group.isSome ∧ cluster.group ≠ cluster.server then
        some { cluster with group := none }
      else none
  | _ => none

inductive Actor where
  | main
  | repeater
  | cluster
  deriving DecidableEq, Repr

def Label.actor : Label → Actor
  | .load _ | .patch _ | .fetchCores _ | .fetchProvider _ | .clear _ | .add _ _ | .deleteGroup _
  | .runGroup _ | .fetchResult _ _ | .cancel | .join | .deletePool _ | .removeProfile _ => .main
  | .createJobFile _ | .createNamespace _ | .check | .apply _ | .waitJob | .deleteJob _
  | .deleteNamespace _ | .removeJobFile _ | .crash => .repeater
  | .deployed | .collect => .cluster

/-- A panic in the goroutine ends the command. -/
def step (setting : Setting) (state : State) (label : Label) : Option State :=
  if state.panicked.isSome then none
  else match label.actor with
    | .main => stepMain setting state state.main label
    | .repeater => stepRepeater setting state state.repeater label
    | .cluster => (stepCluster state.cluster label).map fun cluster => { state with cluster }

/-- A command that is started over some cluster, in which nothing is its own. -/
def system (setting : Setting) (before : Cluster) : TransitionSystem State Label where
  initial := fun state => state = start before
  step := step setting

end Kperf.Contrib.JobBench
