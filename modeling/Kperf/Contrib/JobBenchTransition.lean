import Kperf.Contrib.JobBench
import Kperf.VirtualCluster.NodepoolPresence

/-! The steps of the commands that repeat a job as relations, and what each of them leaves
alone. -/

set_option autoImplicit false

namespace Kperf.Contrib.JobBench

open Outcome
open VirtualCluster (Releases CreateFaults DeleteFaults UninstallFault createNodepool deleteNodepool
  Reserved Deployed Absent Foreign)

inductive MainMove (setting : Setting) (state : State) : Point → Label → State → Prop where
  | loadFails {err : String} :
      MainMove setting state .loading (.load (some err)) { state with main := .returned (.error err) }
  | load :
      MainMove setting state .loading (.load none)
        { state with profileFile := true, main := setting.loaded }
  | patchFails {faults : PatchFaults} {cluster : Cluster} {err : String} :
      state.cluster.patchEKSDaemonsetWithoutToleration faults = (cluster, some err) →
      MainMove setting state .patching (.patch faults)
        { state with cluster, main := .removingProfile (.error err) }
  | patch {faults : PatchFaults} {cluster : Cluster} :
      state.cluster.patchEKSDaemonsetWithoutToleration faults = (cluster, none) →
      MainMove setting state .patching (.patch faults) { state with cluster, main := .fetching }
  | fetchCores {cores : Option (List Int)} :
      MainMove setting state .fetching (.fetchCores cores)
        { state with
          main := if setting.warm cores then .removingProfile (.ok none) else setting.deploying }
  | fetchProviderFails {err : String} :
      MainMove setting state .preparing (.fetchProvider (.error err))
        { state with main := .removingProfile (.error (setting.providerError err)) }
  | fetchProvider {sharedProviderID : String} :
      MainMove setting state .preparing (.fetchProvider (.ok sharedProviderID))
        { state with main := .clearing sharedProviderID }
  | clear {sharedProviderID : String} {faults : DeleteFaults} {releases : Releases}
      {deleted : Outcome Unit} :
      deleteNodepool faults setting.nodepool state.cluster.releases = (releases, deleted) →
      MainMove setting state (.clearing sharedProviderID) (.clear faults)
        { state with
          cluster := { state.cluster with releases }
          main := .adding sharedProviderID }
  | addFails {sharedProviderID : String} {faults : CreateFaults} {made : Bool}
      {releases : Releases} {fault : Fault} :
      setting.newNodepool faults sharedProviderID state.cluster.releases =
        (releases, .error fault) →
      MainMove setting state (.adding sharedProviderID) (.add faults made)
        { state with
          cluster := { state.cluster.makeNamespace made with releases }
          main := .removingProfile (.error (setting.nodepoolError fault.message)) }
  | add {sharedProviderID : String} {faults : CreateFaults} {made : Bool} {releases : Releases} :
      setting.newNodepool faults sharedProviderID state.cluster.releases = (releases, .ok ()) →
      MainMove setting state (.adding sharedProviderID) (.add faults made)
        { state with
          cluster := { state.cluster.makeNamespace true with releases }
          main := .deletingGroup
          repeater := .creatingFile }
  | deleteGroupFails {faults : GroupDeleteFaults} {cluster : Cluster} {err : String} :
      state.cluster.deleteRunnerGroupServer faults = (cluster, some err) →
      MainMove setting state .deletingGroup (.deleteGroup faults)
        { state with
          cluster
          main := .cancelling (.error
            ("failed to delete existing runner group: " ++ setting.invoked err)) }
  | deleteGroup {faults : GroupDeleteFaults} {cluster : Cluster} :
      state.cluster.deleteRunnerGroupServer faults = (cluster, none) →
      MainMove setting state .deletingGroup (.deleteGroup faults)
        { state with cluster, main := .runningGroup }
  | runGroupFails {faults : GroupRunFaults} {cluster : Cluster} {err : String} :
      state.cluster.createRunnerGroupServer faults = (cluster, some err) →
      MainMove setting state .runningGroup (.runGroup faults)
        { state with
          cluster
          main := .cancelling (.error ("failed to deploy runner group: " ++ setting.invoked err)) }
  | runGroup {faults : GroupRunFaults} {cluster : Cluster} :
      state.cluster.createRunnerGroupServer faults = (cluster, none) →
      MainMove setting state .runningGroup (.runGroup faults)
        { state with cluster, main := .polling }
  | fetchGone {err : String} {unmarshal : Option String} :
      MainMove setting state .polling (.fetchResult (some err) unmarshal)
        { state with main := .cancelling (.error err) }
  | fetchAgain {err : String} {unmarshal : Option String} :
      MainMove setting state .polling (.fetchResult (some err) unmarshal) state
  | unmarshalFails {err : String} :
      MainMove setting state .polling (.fetchResult none (some err))
        { state with
          main := .cancelling (.error ("failed to unmarshal into RunnerGroupsReport: " ++ err)) }
  | fetchResult {server group : Origin} :
      state.cluster.server = some server → state.cluster.group = some group →
      MainMove setting state .polling (.fetchResult none none)
        { state with main := .releasing ⟨server, group⟩ }
  | release {report : Report} {faults : GroupDeleteFaults} {cluster : Cluster}
      {err : Option String} :
      state.cluster.deleteRunnerGroupServer faults = (cluster, err) →
      MainMove setting state (.releasing report) (.deleteGroup faults)
        { state with cluster, main := .cancelling (.ok (some report)) }
  | cancel {result : Result} :
      MainMove setting state (.cancelling result) .cancel
        { state with cancelled := true, main := .waiting result }
  | join {result : Result} :
      state.repeater.counted = true →
      MainMove setting state (.waiting result) .join { state with main := setting.joined result }
  | fetchCoresAgain {result : Result} {cores : Option (List Int)} :
      MainMove setting state (.fetchingAgain result) (.fetchCores cores)
        { state with main := .deletingPool (setting.warmupResult cores result) }
  | deletePool {result : Result} {faults : DeleteFaults} {releases : Releases}
      {deleted : Outcome Unit} :
      deleteNodepool faults setting.nodepool state.cluster.releases = (releases, deleted) →
      MainMove setting state (.deletingPool result) (.deletePool faults)
        { state with
          cluster := { state.cluster with releases }
          main := .removingProfile (setting.poolDeleted deleted result) }
  | removeProfile {result : Result} {fails : Bool} :
      MainMove setting state (.removingProfile result) (.removeProfile fails)
        { state with profileFile := state.profileFile && fails, main := .returned result }

theorem stepMain_move {setting : Setting} {state next : State} {main : Point} {label : Label}
    (stepped : stepMain setting state main label = some next) :
    MainMove setting state main label next := by
  unfold stepMain at stepped
  split at stepped
  · cases stepped
    exact .loadFails
  · cases stepped
    exact .load
  · split at stepped
    all_goals cases stepped
    · exact .patchFails ‹_›
    · exact .patch ‹_›
  · cases stepped
    exact .fetchCores
  · cases stepped
    exact .fetchProviderFails
  · cases stepped
    exact .fetchProvider
  · cases stepped
    exact .clear rfl
  · split at stepped
    all_goals cases stepped
    · exact .addFails ‹_›
    · exact .add ‹_›
  · split at stepped
    all_goals cases stepped
    · exact .deleteGroupFails ‹_›
    · exact .deleteGroup ‹_›
  · split at stepped
    all_goals cases stepped
    · exact .runGroupFails ‹_›
    · exact .runGroup ‹_›
  · split at stepped
    all_goals cases stepped
    · exact .fetchGone
    · exact .fetchAgain
  · split at stepped
    all_goals cases stepped
    · exact .unmarshalFails
    · exact .fetchResult ‹_› ‹_›
  · cases stepped
    exact .release rfl
  · cases stepped
    exact .cancel
  · split at stepped
    all_goals cases stepped
    exact .join ‹_›
  · cases stepped
    exact .fetchCoresAgain
  · cases stepped
    exact .deletePool rfl
  · cases stepped
    exact .removeProfile
  · cases stepped

inductive RepeaterMove (setting : Setting) (state : State) : Repeater → Label → State → Prop where
  | createFails {err : String} :
      RepeaterMove setting state .creatingFile (.createJobFile (some err))
        { state with repeater := .crashing ("unexpected error when create job yaml: " ++ err) }
  | createFile :
      RepeaterMove setting state .creatingFile (.createJobFile none)
        { state with jobFile := true, repeater := .creatingNamespace }
  | namespaceFails {fault : CallFault} {cluster : Cluster} {err : String} :
      state.cluster.createNamespace setting.jobNamespace fault = (cluster, some err) →
      RepeaterMove setting state .creatingNamespace (.createNamespace fault)
        { state with
          cluster
          repeater := .panicking ("failed to create a new namespace " ++ setting.jobNamespace ++
            ": " ++ setting.invoked err) }
  | createNamespace {fault : CallFault} {cluster : Cluster} :
      state.cluster.createNamespace setting.jobNamespace fault = (cluster, none) →
      RepeaterMove setting state .creatingNamespace (.createNamespace fault)
        { state with cluster, repeater := .looping }
  | check :
      RepeaterMove setting state .looping .check
        { state with repeater := if state.cancelled then .deletingNamespace else .applying }
  | applyFails {fault : CallFault} {cluster : Cluster} {err : String} :
      state.cluster.apply setting.jobNamespace fault = (cluster, some err) →
      RepeaterMove setting state .applying (.apply fault)
        { state with cluster, repeater := .looping }
  | apply {fault : CallFault} {cluster : Cluster} :
      state.cluster.apply setting.jobNamespace fault = (cluster, none) →
      RepeaterMove setting state .applying (.apply fault)
        { state with cluster, repeater := .waiting }
  | waitJob :
      RepeaterMove setting state .waiting .waitJob { state with repeater := .deleting }
  | deleteJob {fault : CallFault} :
      RepeaterMove setting state .deleting (.deleteJob fault)
        { state with
          cluster := (state.cluster.deleteJob setting.jobNamespace fault).1
          repeater := .looping }
  | deleteNamespace {fault : CallFault} :
      RepeaterMove setting state .deletingNamespace (.deleteNamespace fault)
        { state with
          cluster := (state.cluster.deleteNamespace setting.jobNamespace fault).1
          repeater := .removingFile }
  | removeFile {fails : Bool} :
      RepeaterMove setting state .removingFile (.removeJobFile fails)
        { state with jobFile := state.jobFile && fails, repeater := .done }
  | panic {message : String} {fails : Bool} :
      RepeaterMove setting state (.panicking message) (.removeJobFile fails)
        { state with jobFile := state.jobFile && fails, repeater := .crashing message }
  | crash {message : String} :
      RepeaterMove setting state (.crashing message) .crash { state with panicked := some message }

theorem stepRepeater_move {setting : Setting} {state next : State} {repeater : Repeater}
    {label : Label} (stepped : stepRepeater setting state repeater label = some next) :
    RepeaterMove setting state repeater label next := by
  unfold stepRepeater at stepped
  split at stepped
  · cases stepped
    exact .createFails
  · cases stepped
    exact .createFile
  · split at stepped
    all_goals cases stepped
    · exact .namespaceFails ‹_›
    · exact .createNamespace ‹_›
  · cases stepped
    exact .check
  · split at stepped
    all_goals cases stepped
    · exact .applyFails ‹_›
    · exact .apply ‹_›
  · cases stepped
    exact .waitJob
  · cases stepped
    exact .deleteJob
  · cases stepped
    exact .deleteNamespace
  · cases stepped
    exact .removeFile
  · cases stepped
    exact .panic
  · cases stepped
    exact .crash
  · cases stepped

/-- One of the goroutines moves, or the cluster does by itself. -/
inductive Move (setting : Setting) (state : State) (label : Label) : State → Prop where
  | main {next : State} :
      MainMove setting state state.main label next → Move setting state label next
  | repeater {next : State} :
      RepeaterMove setting state state.repeater label next → Move setting state label next
  | cluster {cluster : Cluster} :
      stepCluster state.cluster label = some cluster →
      Move setting state label { state with cluster }

theorem step_move {setting : Setting} {state next : State} {label : Label}
    (stepped : step setting state label = some next) :
    state.panicked = none ∧ Move setting state label next := by
  unfold step at stepped
  split at stepped
  · cases stepped
  · rename_i running
    refine ⟨by simpa using running, ?_⟩
    split at stepped
    · exact .main (stepMain_move stepped)
    · exact .repeater (stepRepeater_move stepped)
    · obtain ⟨cluster, moved, rfl⟩ := Option.map_eq_some_iff.mp stepped
      exact .cluster moved

/-! What a move leaves alone. -/

/-- Nothing changed but one namespace and what it holds. -/
structure Within (name : String) (cluster next : Cluster) : Prop where
  releases : next.releases = cluster.releases
  server : next.server = cluster.server
  group : next.group = cluster.group
  tolerations : next.tolerations = cluster.tolerations
  namespaces : ∀ other, other ≠ name → next.namespaces other = cluster.namespaces other
  jobs : ∀ other, other ≠ name → next.jobs other = cluster.jobs other

namespace Within

variable (name : String) (cluster : Cluster)

theorem refl : Within name cluster cluster :=
  ⟨rfl, rfl, rfl, rfl, fun _ _ => rfl, fun _ _ => rfl⟩

theorem setNamespace (present : Bool) : Within name cluster (cluster.setNamespace name present) :=
  ⟨rfl, rfl, rfl, rfl, fun _ differs => Function.update_of_ne differs _ _, fun _ _ => rfl⟩

theorem setJob (present : Bool) : Within name cluster (cluster.setJob name present) :=
  ⟨rfl, rfl, rfl, rfl, fun _ _ => rfl, fun _ differs => Function.update_of_ne differs _ _⟩

theorem dropNamespace : Within name cluster (cluster.dropNamespace name) :=
  ⟨rfl, rfl, rfl, rfl, fun _ differs => Function.update_of_ne differs _ _,
    fun _ differs => Function.update_of_ne differs _ _⟩

theorem createNamespace (fault : CallFault) :
    Within name cluster (cluster.createNamespace name fault).1 := by
  unfold Cluster.createNamespace
  split
  · split
    · exact refl name cluster
    · exact setNamespace name cluster true
  · split
    · exact setNamespace name cluster true
    · exact refl name cluster

theorem deleteNamespace (fault : CallFault) :
    Within name cluster (cluster.deleteNamespace name fault).1 := by
  unfold Cluster.deleteNamespace
  split
  · exact dropNamespace name cluster
  · split
    · exact dropNamespace name cluster
    · exact refl name cluster

theorem apply (fault : CallFault) : Within name cluster (cluster.apply name fault).1 := by
  unfold Cluster.apply
  split
  · split
    · exact setJob name cluster true
    · exact refl name cluster
  · split
    · exact setJob name cluster true
    · exact refl name cluster

theorem deleteJob (fault : CallFault) : Within name cluster (cluster.deleteJob name fault).1 := by
  unfold Cluster.deleteJob
  split
  · split
    · exact setJob name cluster false
    · exact refl name cluster
  · split
    · exact setJob name cluster false
    · exact refl name cluster

end Within

theorem createNamespace_jobs {cluster created : Cluster} {name : String} {fault : CallFault}
    {err : Option String} (called : cluster.createNamespace name fault = (created, err)) :
    created.jobs = cluster.jobs := by
  have ran := congrArg (fun call => call.1.jobs) called
  dsimp only at ran
  rw [← ran]
  unfold Cluster.createNamespace
  split
  all_goals split <;> rfl

/-- The goroutine has been started, and it has not counted the wait group down. -/
def Repeater.working : Repeater → Bool
  | .idle | .crashing _ | .done => false
  | _ => true

structure RepeaterFrame (setting : Setting) (state next : State) : Prop where
  before : state.repeater ≠ .idle
  after : next.repeater ≠ .idle
  counted : state.repeater.counted = true → next.repeater = state.repeater
  main : next.main = state.main
  profileFile : next.profileFile = state.profileFile
  cancelled : next.cancelled = state.cancelled
  cluster : Within setting.jobNamespace state.cluster next.cluster

theorem RepeaterMove.frame {setting : Setting} {state next : State} {label : Label}
    (moved : RepeaterMove setting state state.repeater label next) :
    RepeaterFrame setting state next := by
  obtain ⟨cluster, profileFile, jobFile, main, repeater, cancelled, panicked⟩ := state
  have unmoved := Within.refl setting.jobNamespace cluster
  dsimp only at moved
  cases moved with
  | createFails | createFile | waitJob | removeFile | panic =>
      exact ⟨nofun, nofun, nofun, rfl, rfl, rfl, unmoved⟩
  | @namespaceFails fault _ _ called =>
      have within := Within.createNamespace setting.jobNamespace cluster fault
      rw [called] at within
      exact ⟨nofun, nofun, nofun, rfl, rfl, rfl, within⟩
  | @createNamespace fault _ called =>
      have within := Within.createNamespace setting.jobNamespace cluster fault
      rw [called] at within
      exact ⟨nofun, nofun, nofun, rfl, rfl, rfl, within⟩
  | check =>
      refine ⟨nofun, ?_, nofun, rfl, rfl, rfl, unmoved⟩
      dsimp only
      split <;> nofun
  | @applyFails fault _ _ called =>
      have within := Within.apply setting.jobNamespace cluster fault
      rw [called] at within
      exact ⟨nofun, nofun, nofun, rfl, rfl, rfl, within⟩
  | @apply fault _ called =>
      have within := Within.apply setting.jobNamespace cluster fault
      rw [called] at within
      exact ⟨nofun, nofun, nofun, rfl, rfl, rfl, within⟩
  | deleteJob => exact ⟨nofun, nofun, nofun, rfl, rfl, rfl, Within.deleteJob _ cluster _⟩
  | deleteNamespace =>
      exact ⟨nofun, nofun, nofun, rfl, rfl, rfl, Within.deleteNamespace _ cluster _⟩
  | crash => exact ⟨nofun, nofun, fun _ => rfl, rfl, rfl, rfl, unmoved⟩

/-! What the command itself does to the cluster. -/

/-- The namespaces that a command has beside the one of its job. -/
def releaseNamespaces : List String := [runnerGroupReleaseNamespace, virtualnodeReleaseNamespace]

theorem Setting.jobNamespace_notMem (setting : Setting) :
    setting.jobNamespace ∉ releaseNamespaces := by
  unfold Setting.jobNamespace
  cases setting.command <;> decide

/-- Nothing changed in other namespaces than those of the releases. -/
structure Elsewhere (cluster next : Cluster) : Prop where
  namespaces : ∀ other, other ∉ releaseNamespaces → next.namespaces other = cluster.namespaces other
  jobs : ∀ other, other ∉ releaseNamespaces → next.jobs other = cluster.jobs other

theorem Elsewhere.refl (cluster : Cluster) : Elsewhere cluster cluster :=
  ⟨fun _ _ => rfl, fun _ _ => rfl⟩

theorem Within.elsewhere {name : String} {cluster next : Cluster} (known : name ∈ releaseNamespaces)
    (within : Within name cluster next) : Elsewhere cluster next where
  namespaces other outside := within.namespaces other fun same => outside (same ▸ known)
  jobs other outside := within.jobs other fun same => outside (same ▸ known)

theorem Elsewhere.makeNamespace (cluster : Cluster) (made : Bool) :
    Elsewhere cluster (cluster.makeNamespace made) := by
  unfold Cluster.makeNamespace
  split
  · exact (Within.setNamespace _ cluster true).elsewhere (by decide)
  · exact .refl cluster

theorem makeNamespace_tolerations (cluster : Cluster) (made : Bool) :
    (cluster.makeNamespace made).tolerations = cluster.tolerations := by
  unfold Cluster.makeNamespace
  split <;> rfl

/-- What the calls for the runner group leave alone. -/
structure GroupFrame (cluster next : Cluster) : Prop where
  releases : next.releases = cluster.releases
  tolerations : next.tolerations = cluster.tolerations
  elsewhere : Elsewhere cluster next

theorem deleteRunnerGroupServer_frame {cluster next : Cluster} {faults : GroupDeleteFaults}
    {err : Option String} (called : cluster.deleteRunnerGroupServer faults = (next, err)) :
    GroupFrame cluster next := by
  have unmoved := Elsewhere.refl cluster
  have dropped := (Within.dropNamespace runnerGroupReleaseNamespace cluster).elsewhere (by decide)
  unfold Cluster.deleteRunnerGroupServer at called
  split at called
  · cases called
    exact ⟨rfl, rfl, unmoved⟩
  · cases called
    exact ⟨rfl, rfl, unmoved.1, unmoved.2⟩
  · cases called
    exact ⟨rfl, rfl, dropped.1, dropped.2⟩
  · cases called
    split
    · exact ⟨rfl, rfl, dropped.1, dropped.2⟩
    · exact ⟨rfl, rfl, unmoved.1, unmoved.2⟩

theorem createRunnerGroupServer_frame {cluster next : Cluster} {faults : GroupRunFaults}
    {err : Option String} (called : cluster.createRunnerGroupServer faults = (next, err)) :
    GroupFrame cluster next := by
  have made := (Within.setNamespace runnerGroupReleaseNamespace cluster true).elsewhere (by decide)
  unfold Cluster.createRunnerGroupServer at called
  split at called
  · cases called
    exact ⟨rfl, rfl, .refl cluster⟩
  · split at called
    · cases called
      exact ⟨rfl, rfl, .refl cluster⟩
    · split at called
      · cases called
        split
        · exact ⟨rfl, rfl, made⟩
        · exact ⟨rfl, rfl, .refl cluster⟩
      · cases called
        exact ⟨rfl, rfl, made.1, made.2⟩

/-- The daemon sets that `patchEKSDaemonsetWithoutToleration` updates. -/
def eksDaemonsets : List String := ["aws-node", "kube-proxy"]

/-- What patching the daemon sets leaves alone. -/
structure PatchFrame (cluster next : Cluster) : Prop where
  rest : next = { cluster with tolerations := next.tolerations }
  tolerations : ∀ name, name ∉ eksDaemonsets → next.tolerations name = cluster.tolerations name

theorem PatchFrame.releases {cluster next : Cluster} (frame : PatchFrame cluster next) :
    next.releases = cluster.releases := by
  rw [frame.rest]

theorem PatchFrame.refl (cluster : Cluster) : PatchFrame cluster cluster := ⟨rfl, fun _ _ => rfl⟩

theorem PatchFrame.trans {first second third : Cluster} (left : PatchFrame first second)
    (right : PatchFrame second third) : PatchFrame first third := by
  refine ⟨?_, fun name other => (right.tolerations name other).trans (left.tolerations name other)⟩
  rw [right.rest, left.rest]

theorem patchDaemonset_frame (cluster : Cluster) {name : String} (known : name ∈ eksDaemonsets)
    (fault : DaemonsetFault) : PatchFrame cluster (cluster.patchDaemonset name fault).1 := by
  have cleared : PatchFrame cluster (cluster.clearTolerations name) := by
    refine ⟨rfl, fun other outside => Function.update_of_ne ?_ _ _⟩
    exact fun same => outside (same ▸ known)
  unfold Cluster.patchDaemonset
  split
  · exact cleared
  · exact .refl cluster
  · split
    · exact cleared
    · exact .refl cluster

theorem patch_frame {cluster next : Cluster} {faults : PatchFaults} {err : Option String}
    (called : cluster.patchEKSDaemonsetWithoutToleration faults = (next, err)) :
    PatchFrame cluster next := by
  have first := patchDaemonset_frame cluster (show "aws-node" ∈ eksDaemonsets by decide)
    faults.awsNode
  unfold Cluster.patchEKSDaemonsetWithoutToleration at called
  split at called
  · rename_i ran
    cases called
    rwa [ran] at first
  · rename_i patched ran
    rw [ran] at first
    have second := patchDaemonset_frame patched (show "kube-proxy" ∈ eksDaemonsets by decide)
      faults.kubeProxy
    rw [called] at second
    exact first.trans second

section Pool

variable {setting : Setting} {releases next : Releases} {sharedProviderID : String}

theorem Setting.unreserved (setting : Setting) : ¬Reserved setting.nodepool := by
  unfold Setting.nodepool
  cases setting.command <;> decide

theorem newNodepool_foreign {faults : CreateFaults} {outcome : Outcome Unit} {other : String}
    (ran : setting.newNodepool faults sharedProviderID releases = (next, outcome))
    (foreign : Foreign setting.nodepool other) : next.lookup other = releases.lookup other := by
  unfold Setting.newNodepool at ran
  dsimp only at ran
  split at ran
  · cases ran
    rfl
  · exact VirtualCluster.createNodepool_foreign ran foreign

theorem newNodepool_ok {faults : CreateFaults}
    (added : setting.newNodepool faults sharedProviderID releases = (next, .ok ())) :
    Deployed setting.nodepool next := by
  unfold Setting.newNodepool at added
  dsimp only at added
  split at added
  · cases added
  · exact VirtualCluster.createNodepool_ok added

theorem newNodepool_error {faults : CreateFaults} {fault : Fault}
    (absent : Absent setting.nodepool releases) (removes : faults.cleanup.removes = true)
    (failed : setting.newNodepool faults sharedProviderID releases = (next, .error fault)) :
    Absent setting.nodepool next := by
  unfold Setting.newNodepool at failed
  dsimp only at failed
  split at failed
  · cases failed
    exact absent
  · exact VirtualCluster.createNodepool_error setting.unreserved absent removes failed

end Pool

structure MainFrame (setting : Setting) (state next : State) : Prop where
  elsewhere : Elsewhere state.cluster next.cluster
  tolerations : next.cluster.tolerations = state.cluster.tolerations ∨
    state.main = .patching ∧ PatchFrame state.cluster next.cluster
  jobFile : next.jobFile = state.jobFile
  panicked : next.panicked = state.panicked
  foreign : ∀ other, Foreign setting.nodepool other →
    next.cluster.releases.lookup other = state.cluster.releases.lookup other
  repeater : next.repeater = state.repeater ∨
    next.repeater = .creatingFile ∧ ∃ sharedProviderID, state.main = .adding sharedProviderID

/-- The steps that are calls for the runner group. -/
theorem GroupFrame.main {setting : Setting} {state : State} {cluster : Cluster}
    (frame : GroupFrame state.cluster cluster) (main : Point) :
    MainFrame setting state { state with cluster, main } where
  elsewhere := frame.elsewhere
  tolerations := .inl frame.tolerations
  jobFile := rfl
  panicked := rfl
  foreign other _ := congrArg (·.lookup other) frame.releases
  repeater := .inl rfl

theorem PatchFrame.main {setting : Setting} {state : State} {cluster : Cluster}
    (frame : PatchFrame state.cluster cluster) (here : state.main = .patching) (main : Point) :
    MainFrame setting state { state with cluster, main } := by
  have namespaces := congrArg Cluster.namespaces frame.rest
  have jobs := congrArg Cluster.jobs frame.rest
  exact {
    elsewhere := ⟨fun other _ => congrFun namespaces other, fun other _ => congrFun jobs other⟩
    tolerations := .inr ⟨here, frame⟩
    jobFile := rfl
    panicked := rfl
    foreign := fun other _ => congrArg (·.lookup other) frame.releases
    repeater := .inl rfl }

theorem MainMove.frame {setting : Setting} {state next : State} {label : Label}
    (moved : MainMove setting state state.main label next) : MainFrame setting state next := by
  obtain ⟨cluster, profileFile, jobFile, main, repeater, cancelled, panicked⟩ := state
  dsimp only at moved
  have unmoved : Elsewhere cluster cluster := .refl cluster
  cases moved with
  | loadFails | load | fetchCores | fetchProviderFails | fetchProvider | fetchGone | fetchAgain
  | unmarshalFails | fetchResult | cancel | join | fetchCoresAgain | removeProfile =>
      exact ⟨unmoved, .inl rfl, rfl, rfl, fun _ _ => rfl, .inl rfl⟩
  | patchFails called => exact (patch_frame called).main rfl _
  | patch called => exact (patch_frame called).main rfl _
  | clear deleted =>
      exact ⟨⟨unmoved.1, unmoved.2⟩, .inl rfl, rfl, rfl,
        fun _ => VirtualCluster.deleteNodepool_foreign deleted, .inl rfl⟩
  | @addFails _ _ made _ _ failed =>
      have elsewhere := Elsewhere.makeNamespace cluster made
      exact ⟨⟨elsewhere.1, elsewhere.2⟩, .inl (makeNamespace_tolerations cluster made), rfl, rfl,
        fun _ => newNodepool_foreign failed, .inl rfl⟩
  | add added =>
      have elsewhere := Elsewhere.makeNamespace cluster true
      exact ⟨⟨elsewhere.1, elsewhere.2⟩, .inl (makeNamespace_tolerations cluster true), rfl, rfl,
        fun _ => newNodepool_foreign added, .inr ⟨rfl, _, rfl⟩⟩
  | deleteGroupFails called => exact (deleteRunnerGroupServer_frame called).main _
  | deleteGroup called => exact (deleteRunnerGroupServer_frame called).main _
  | runGroupFails called => exact (createRunnerGroupServer_frame called).main _
  | runGroup called => exact (createRunnerGroupServer_frame called).main _
  | release called => exact (deleteRunnerGroupServer_frame called).main _
  | deletePool deleted =>
      exact ⟨⟨unmoved.1, unmoved.2⟩, .inl rfl, rfl, rfl,
        fun _ => VirtualCluster.deleteNodepool_foreign deleted, .inl rfl⟩

end Kperf.Contrib.JobBench
