import Kperf.Contrib.JobBenchTransition

/-! What holds in every run of a command that repeats a job, whatever its calls meet. -/

set_option autoImplicit false

namespace Kperf.Contrib.JobBench

open VirtualCluster (Deployed Foreign)

/-! What is known at each point of the command. -/

/-- A report, if there is one, is that of the group that this call deployed. -/
def Result.Own (result : Result) : Prop := ∀ report, result = .ok (some report) → report = ⟨.own, .own⟩

theorem Result.own_error (err : String) : Result.Own (.error err) := nofun

theorem Result.own_none : Result.Own (.ok none) := nofun

theorem Result.Own.warmupResult {result : Result} (own : result.Own) (setting : Setting)
    (cores : Option (List Int)) : (setting.warmupResult cores result).Own := by
  unfold Setting.warmupResult
  split
  · exact own_none
  · split
    · exact own_none
    · exact own_error _

theorem Result.Own.poolDeleted {result : Result} (own : result.Own) (setting : Setting)
    (deleted : Outcome Unit) : (setting.poolDeleted deleted result).Own := by
  unfold Setting.poolDeleted
  split
  · exact own_error _
  · exact own

/-- Only the warmup of an EKS cluster patches daemon sets. -/
def Setting.patches (setting : Setting) : Prop :=
  setting.command = .warmup ∧ setting.flags.eks = true

def Point.Sound (setting : Setting) (cluster : Cluster) (repeater : Repeater) : Point → Prop
  | .loading | .fetching | .preparing | .clearing _ | .adding _ => repeater = .idle
  | .patching => repeater = .idle ∧ setting.patches
  | .deletingGroup => repeater ≠ .idle ∧ Deployed setting.nodepool cluster.releases
  | .runningGroup =>
      (repeater ≠ .idle ∧ Deployed setting.nodepool cluster.releases) ∧
        cluster.server = none ∧ cluster.group = none
  | .polling =>
      (repeater ≠ .idle ∧ Deployed setting.nodepool cluster.releases) ∧
        cluster.server = some .own ∧ (cluster.group = none ∨ cluster.group = some .own)
  | .releasing report =>
      (repeater ≠ .idle ∧ Deployed setting.nodepool cluster.releases) ∧ report = ⟨.own, .own⟩
  | .cancelling result | .waiting result =>
      (repeater ≠ .idle ∧ Deployed setting.nodepool cluster.releases) ∧ result.Own
  | .fetchingAgain result | .deletingPool result =>
      (repeater.counted = true ∧ Deployed setting.nodepool cluster.releases) ∧ result.Own
  | .removingProfile result | .returned result =>
      (repeater = .idle ∧ (∀ report, result ≠ .ok (some report)) ∨ repeater.counted = true) ∧
        result.Own

def State.Sound (setting : Setting) (state : State) : Prop :=
  state.main.Sound setting state.cluster state.repeater

theorem deleteRunnerGroupServer_none {cluster next : Cluster} {faults : GroupDeleteFaults}
    (deleted : cluster.deleteRunnerGroupServer faults = (next, none)) :
    next.server = none ∧ next.group = none := by
  unfold Cluster.deleteRunnerGroupServer at deleted
  split at deleted
  all_goals cases deleted
  exact ⟨rfl, rfl⟩

theorem createRunnerGroupServer_none {cluster next : Cluster} {faults : GroupRunFaults}
    (created : cluster.createRunnerGroupServer faults = (next, none)) :
    next.releases = cluster.releases ∧ next.server = some .own ∧ next.group = cluster.group := by
  unfold Cluster.createRunnerGroupServer at created
  split at created
  · cases created
  · split at created
    · cases created
    · split at created
      all_goals cases created
      exact ⟨rfl, rfl, rfl⟩

section Ahead

variable {setting : Setting} {cluster : Cluster} {repeater : Repeater}

theorem Setting.deploying_sound (idle : repeater = .idle) :
    setting.deploying.Sound setting cluster repeater := by
  unfold Setting.deploying
  split <;> exact idle

theorem Setting.loaded_sound (idle : repeater = .idle) :
    setting.loaded.Sound setting cluster repeater := by
  unfold Setting.loaded
  split
  · rename_i warmup
    split
    · rename_i eks
      exact ⟨idle, warmup, eks⟩
    · exact idle
  · exact deploying_sound idle

theorem Setting.joined_sound {result : Result} (ended : repeater.counted = true)
    (deployed : Deployed setting.nodepool cluster.releases) (own : result.Own) :
    (setting.joined result).Sound setting cluster repeater := by
  unfold Setting.joined
  split <;> exact ⟨⟨ended, deployed⟩, own⟩

end Ahead

theorem State.Sound.main {setting : Setting} {state next : State} {label : Label}
    (moved : MainMove setting state state.main label next) (sound : state.Sound setting) :
    next.Sound setting := by
  obtain ⟨cluster, profileFile, jobFile, main, repeater, cancelled, panicked⟩ := state
  dsimp only at moved
  dsimp only [State.Sound] at sound
  cases moved with
  | loadFails => exact ⟨.inl ⟨sound, nofun⟩, Result.own_error _⟩
  | load => exact setting.loaded_sound sound
  | patchFails => exact ⟨.inl ⟨sound.1, nofun⟩, Result.own_error _⟩
  | patch => exact sound.1
  | fetchCores =>
      dsimp only [State.Sound]
      split
      · exact ⟨.inl ⟨sound, nofun⟩, Result.own_none⟩
      · exact setting.deploying_sound sound
  | fetchProviderFails => exact ⟨.inl ⟨sound, nofun⟩, Result.own_error _⟩
  | fetchProvider => exact sound
  | clear => exact sound
  | addFails => exact ⟨.inl ⟨sound, nofun⟩, Result.own_error _⟩
  | add added => exact ⟨nofun, newNodepool_ok added⟩
  | deleteGroupFails called =>
      have same := (deleteRunnerGroupServer_frame called).releases
      exact ⟨⟨sound.1, same ▸ sound.2⟩, Result.own_error _⟩
  | deleteGroup called =>
      have same := (deleteRunnerGroupServer_frame called).releases
      exact ⟨⟨sound.1, same ▸ sound.2⟩, deleteRunnerGroupServer_none called⟩
  | runGroupFails called =>
      have same := (createRunnerGroupServer_frame called).releases
      exact ⟨⟨sound.1.1, same ▸ sound.1.2⟩, Result.own_error _⟩
  | runGroup called =>
      obtain ⟨same, server, group⟩ := createRunnerGroupServer_none called
      exact ⟨⟨sound.1.1, same ▸ sound.1.2⟩, server, .inl (group.trans sound.2.2)⟩
  | fetchGone => exact ⟨sound.1, Result.own_error _⟩
  | fetchAgain => exact sound
  | unmarshalFails => exact ⟨sound.1, Result.own_error _⟩
  | fetchResult served grouped =>
      obtain ⟨begun, server, group⟩ := sound
      cases served.symm.trans server
      rw [show cluster.group = some _ from grouped] at group
      cases group with
      | inl missing => cases missing
      | inr same =>
          cases same
          exact ⟨begun, rfl⟩
  | release called =>
      obtain ⟨⟨begun, deployed⟩, own⟩ := sound
      have same := (deleteRunnerGroupServer_frame called).releases
      refine ⟨⟨begun, same ▸ deployed⟩, ?_⟩
      intro other same
      cases same
      exact own
  | cancel => exact sound
  | join ended => exact setting.joined_sound ended sound.1.2 sound.2
  | fetchCoresAgain => exact ⟨sound.1, sound.2.warmupResult setting _⟩
  | deletePool deleted => exact ⟨.inr sound.1.1, sound.2.poolDeleted setting _⟩
  | removeProfile => exact sound

theorem State.Sound.repeater {setting : Setting} {state next : State}
    (frame : RepeaterFrame setting state next) (sound : state.Sound setting) :
    next.Sound setting := by
  obtain ⟨notIdle, started, counted, main, -, -, cluster⟩ := frame
  have releases := cluster.releases
  unfold State.Sound at sound ⊢
  rw [main]
  cases here : state.main with
  | loading | fetching | preparing | clearing | adding =>
      rw [here] at sound
      exact absurd sound notIdle
  | patching =>
      rw [here] at sound
      exact absurd sound.1 notIdle
  | deletingGroup =>
      rw [here] at sound
      exact ⟨started, releases ▸ sound.2⟩
  | runningGroup =>
      rw [here] at sound
      exact ⟨⟨started, releases ▸ sound.1.2⟩, cluster.server ▸ sound.2.1, cluster.group ▸ sound.2.2⟩
  | polling =>
      rw [here] at sound
      exact ⟨⟨started, releases ▸ sound.1.2⟩, cluster.server ▸ sound.2.1, cluster.group ▸ sound.2.2⟩
  | releasing | cancelling | waiting =>
      rw [here] at sound
      exact ⟨⟨started, releases ▸ sound.1.2⟩, sound.2⟩
  | fetchingAgain | deletingPool =>
      rw [here] at sound
      exact ⟨⟨counted sound.1.1 ▸ sound.1.1, releases ▸ sound.1.2⟩, sound.2⟩
  | removingProfile | returned =>
      rw [here] at sound
      obtain early | ended := sound.1
      · exact absurd early.1 notIdle
      · exact ⟨.inr (counted ended ▸ ended), sound.2⟩

structure ClusterFrame (cluster next : Cluster) : Prop where
  releases : next.releases = cluster.releases
  namespaces : next.namespaces = cluster.namespaces
  jobs : next.jobs = cluster.jobs
  tolerations : next.tolerations = cluster.tolerations
  server : next.server = cluster.server
  group : next.group = cluster.group ∨ next.group = none ∧ cluster.group ≠ cluster.server ∨
    next.group = cluster.server ∧ cluster.server ≠ none ∧ cluster.group = none

theorem stepCluster_frame {cluster next : Cluster} {label : Label}
    (moved : stepCluster cluster label = some next) : ClusterFrame cluster next := by
  unfold stepCluster at moved
  split at moved
  · split at moved
    · rename_i server served
      cases moved
      refine ⟨rfl, rfl, rfl, rfl, rfl, ?_⟩
      cases grouped : cluster.group with
      | none => exact .inr (.inr ⟨by simp [served], by simp [served], rfl⟩)
      | some group => exact .inl (by simp)
    · cases moved
  · split at moved
    · rename_i orphaned
      cases moved
      exact ⟨rfl, rfl, rfl, rfl, rfl, .inr (.inl ⟨rfl, orphaned.2⟩)⟩
    · cases moved
  · cases moved

theorem State.Sound.cluster {setting : Setting} {state : State} {cluster : Cluster}
    (frame : ClusterFrame state.cluster cluster) (sound : state.Sound setting) :
    State.Sound setting { state with cluster } := by
  obtain ⟨releases, -, -, -, server, group⟩ := frame
  unfold State.Sound at sound ⊢
  dsimp only
  cases here : state.main with
  | loading | patching | fetching | preparing | clearing | adding | removingProfile | returned =>
      rw [here] at sound
      exact sound
  | deletingGroup =>
      rw [here] at sound
      exact ⟨sound.1, releases ▸ sound.2⟩
  | runningGroup =>
      rw [here] at sound
      obtain ⟨begun, noServer, noGroup⟩ := sound
      refine ⟨⟨begun.1, releases ▸ begun.2⟩, server ▸ noServer, ?_⟩
      obtain same | ⟨gone, -⟩ | ⟨-, served, -⟩ := group
      · exact same ▸ noGroup
      · exact gone
      · exact absurd noServer served
  | polling =>
      rw [here] at sound
      obtain ⟨begun, own, grouped⟩ := sound
      refine ⟨⟨begun.1, releases ▸ begun.2⟩, server ▸ own, ?_⟩
      obtain same | ⟨gone, -⟩ | ⟨deployed, -, -⟩ := group
      · exact same ▸ grouped
      · exact .inl gone
      · exact .inr (deployed.trans own)
  | releasing | cancelling | waiting | fetchingAgain | deletingPool =>
      rw [here] at sound
      exact ⟨⟨sound.1.1, releases ▸ sound.1.2⟩, sound.2⟩

theorem State.Sound.step {setting : Setting} {state next : State} {label : Label}
    (stepped : step setting state label = some next) (sound : state.Sound setting) :
    next.Sound setting := by
  obtain ⟨-, moved⟩ := step_move stepped
  cases moved with
  | main moved => exact sound.main moved
  | repeater moved => exact sound.repeater moved.frame
  | cluster moved => exact sound.cluster (stepCluster_frame moved)

section Runs

variable {setting : Setting} {before : Cluster} {allowed : State → Label → Prop}
variable {trace : List Label} {state : State}

theorem sound_of_run (run : (system setting before).RunWith allowed trace state) :
    state.Sound setting :=
  run.invariant (fun _ initial => initial ▸ rfl) fun _ stepped sound => sound.step stepped

/-- A goroutine that is at work has its nodes, and the command waits for it. -/
theorem State.Sound.working (sound : state.Sound setting) (working : state.repeater.working = true) :
    Deployed setting.nodepool state.cluster.releases ∧
      ∀ result, state.main ≠ .returned result := by
  have notIdle : state.repeater ≠ .idle := by
    intro idle
    rw [idle] at working
    cases working
  have notCounted : state.repeater.counted ≠ true := by
    cases here : state.repeater with
    | crashing | done =>
        rw [here] at working
        cases working
    | idle | creatingFile | creatingNamespace | looping | applying | waiting | deleting
    | deletingNamespace | removingFile | panicking => nofun
  unfold State.Sound at sound
  cases here : state.main with
  | loading | fetching | preparing | clearing | adding =>
      rw [here] at sound
      exact absurd sound notIdle
  | patching =>
      rw [here] at sound
      exact absurd sound.1 notIdle
  | deletingGroup =>
      rw [here] at sound
      exact ⟨sound.2, nofun⟩
  | runningGroup | polling | releasing | cancelling | waiting =>
      rw [here] at sound
      exact ⟨sound.1.2, nofun⟩
  | fetchingAgain | deletingPool =>
      rw [here] at sound
      exact absurd sound.1.1 notCounted
  | removingProfile | returned =>
      rw [here] at sound
      exact absurd sound.1 (not_or.mpr ⟨fun early => notIdle early.1, notCounted⟩)

/-- What is not the command's own is as it was. -/
structure Spared (setting : Setting) (before : Cluster) (state : State) : Prop where
  releases : ∀ other, Foreign setting.nodepool other →
    state.cluster.releases.lookup other = before.releases.lookup other
  namespaces : ∀ other, other ≠ setting.jobNamespace → other ∉ releaseNamespaces →
    state.cluster.namespaces other = before.namespaces other ∧
      state.cluster.jobs other = before.jobs other
  tolerations : ∀ name, ¬ (setting.patches ∧ name ∈ eksDaemonsets) →
    state.cluster.tolerations name = before.tolerations name

theorem Spared.step {next : State} {label : Label} (stepped : step setting state label = some next)
    (sound : state.Sound setting) (spared : Spared setting before state) :
    Spared setting before next := by
  obtain ⟨-, moved⟩ := step_move stepped
  cases moved with
  | main moved =>
      have frame := moved.frame
      refine ⟨fun other foreign => ?_, fun other differs outside => ?_, fun name spare => ?_⟩
      · rw [frame.foreign other foreign, spared.releases other foreign]
      · rw [frame.elsewhere.namespaces other outside, frame.elsewhere.jobs other outside]
        exact spared.namespaces other differs outside
      · rw [← spared.tolerations name spare]
        obtain same | ⟨here, patched⟩ := frame.tolerations
        · rw [same]
        · unfold State.Sound at sound
          rw [here] at sound
          exact patched.tolerations name fun known => spare ⟨sound.2, known⟩
  | repeater moved =>
      have within := moved.frame.cluster
      refine ⟨fun other foreign => ?_, fun other differs outside => ?_, fun name spare => ?_⟩
      · rw [within.releases, spared.releases other foreign]
      · rw [within.namespaces other differs, within.jobs other differs]
        exact spared.namespaces other differs outside
      · rw [within.tolerations, spared.tolerations name spare]
  | cluster moved =>
      obtain ⟨releases, namespaces, jobs, tolerations, -, -⟩ := stepCluster_frame moved
      refine ⟨fun other foreign => ?_, fun other differs outside => ?_, fun name spare => ?_⟩
      · rw [releases, spared.releases other foreign]
      · rw [namespaces, jobs]
        exact spared.namespaces other differs outside
      · rw [tolerations, spared.tolerations name spare]

theorem spared_of_run (run : (system setting before).RunWith allowed trace state) :
    Spared setting before state := by
  refine run.invariant_using sound_of_run ?_ fun _ stepped sound _ spared =>
    spared.step stepped sound
  rintro _ rfl
  exact ⟨fun _ _ => rfl, fun _ _ _ => ⟨rfl, rfl⟩, fun _ _ => rfl⟩

end Runs

/-- Whatever the calls of a command meet and however its goroutines interleave: the jobs
are repeated only while nodes and controller are there, and the command does not return
before the goroutine has run its deferred calls. Other pools keep their releases, other
namespaces than those of the job and of the releases stay as they are with their jobs,
and so do the daemon sets that the warmup of an EKS cluster does not patch. A report that
is returned is about the group that this very call has deployed. -/
theorem command_safe {setting : Setting} {before : Cluster} {trace : List Label} {state : State}
    (run : (system setting before).Run trace state) :
    (state.repeater.working = true →
      Deployed setting.nodepool state.cluster.releases ∧
        ∀ result, state.main ≠ .returned result) ∧
    Spared setting before state ∧
    ∀ report, state.main = .returned (.ok (some report)) → report = ⟨.own, .own⟩ := by
  have sound := sound_of_run run
  refine ⟨sound.working, spared_of_run run, ?_⟩
  intro report returned
  unfold State.Sound at sound
  rw [returned] at sound
  exact sound.2 report rfl

namespace Sample

def setting : Setting := ⟨.node10Job1Pod100, ⟨32, 96, 110, "", false, 8⟩, fun err => err⟩

/-- An earlier call has left its runner group behind. -/
def before : Cluster :=
  ⟨∅, fun name => name = runnerGroupReleaseNamespace, fun _ => false, fun _ => [],
    some .earlier, some .earlier⟩

def groupDeleted : GroupDeleteFaults := ⟨none, .none, .none⟩

/-- The first apply fails, and so does the deletion of the group in the end. The context
is cancelled while the job is there. -/
def measured : List Label :=
  [.load none, .clear .clean, .add .clean false, .createJobFile none, .deleteGroup groupDeleted,
    .createNamespace .none, .runGroup ⟨none, false, .none⟩, .check, .apply (.failed false "timeout"),
    .check, .deployed, .apply .none, .fetchResult none none,
    .deleteGroup ⟨none, .none, .failed false "timeout"⟩, .cancel, .waitJob]

def ended : List Label :=
  measured ++ [.deleteJob (.failed false "signal: killed"), .check, .deleteNamespace .none,
    .removeJobFile false, .join, .deletePool .clean, .removeProfile false]

end Sample

theorem command_safe_measured :
    ∃ state, (system Sample.setting Sample.before).Run Sample.measured state ∧
      state.cluster.jobs "job1pod100" = true ∧ state.cancelled = true ∧
      Deployed "node10job1pod100" state.cluster.releases := by
  obtain ⟨state, executed, job, cancelled, working⟩ :
      ∃ state ∈ (system Sample.setting Sample.before).execute (start Sample.before) Sample.measured,
        state.cluster.jobs "job1pod100" = true ∧ state.cancelled = true ∧
          state.repeater.working = true := by decide +kernel
  have run := TransitionSystem.runWith_of_executeWith rfl executed
  exact ⟨state, run, job, cancelled, ((command_safe run).1 working).1⟩

end Kperf.Contrib.JobBench
