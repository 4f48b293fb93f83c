import Kperf.Contrib.JobBenchSafety

/-! What a command that repeats a job leaves behind. -/

set_option autoImplicit false

namespace Kperf.Contrib.JobBench

open VirtualCluster (Releases DeleteFaults Deployed Absent)

/-- The calls that clean up do their work; all others may fail. -/
def Label.cleansUp : Label → Bool
  | .clear faults | .deletePool faults => decide (faults = .clean)
  | .add faults _ => faults.cleanup.removes
  | .removeProfile fails | .removeJobFile fails => !fails
  | .deleteNamespace fault => decide (fault = .none)
  | _ => true

def Point.Tidy (setting : Setting) (before : Releases) (profileFile : Bool) (releases : Releases) :
    Point → Prop
  | .loading => profileFile = false ∧ releases = before
  | .patching | .fetching | .preparing | .clearing _ => releases = before
  | .adding _ => Absent setting.nodepool releases
  | .removingProfile _ => releases = before ∨ Absent setting.nodepool releases
  | .returned _ => profileFile = false ∧ (releases = before ∨ Absent setting.nodepool releases)
  | _ => True

def Repeater.Tidy (jobFile present job : Bool) : Repeater → Prop
  | .idle | .creatingFile | .done => jobFile = false ∧ present = false ∧ job = false
  | .creatingNamespace | .removingFile => present = false ∧ job = false
  | .panicking _ => job = false
  | .crashing _ => jobFile = false ∧ job = false
  | _ => True

/-- Only what is still to be cleaned up is there. -/
structure Tidy (setting : Setting) (before : Releases) (state : State) : Prop where
  main : state.main.Tidy setting before state.profileFile state.cluster.releases
  repeater : state.repeater.Tidy state.jobFile (state.cluster.namespaces setting.jobNamespace)
    (state.cluster.jobs setting.jobNamespace)

section Steps

variable {setting : Setting} {before : Releases} {state next : State} {label : Label}

theorem deploying_tidy {releases : Releases} {profileFile : Bool} (same : releases = before) :
    setting.deploying.Tidy setting before profileFile releases := by
  unfold Setting.deploying
  split <;> exact same

theorem loaded_tidy {releases : Releases} {profileFile : Bool} (same : releases = before) :
    setting.loaded.Tidy setting before profileFile releases := by
  unfold Setting.loaded
  split
  · split <;> exact same
  · exact deploying_tidy same

theorem joined_tidy {releases : Releases} {profileFile : Bool} {result : Result} :
    (setting.joined result).Tidy setting before profileFile releases := by
  unfold Setting.joined
  split <;> trivial

theorem absent_of_clean {releases rest : Releases} {faults : DeleteFaults} {deleted : Outcome Unit}
    (clean : faults = .clean)
    (ran : VirtualCluster.deleteNodepool faults setting.nodepool releases = (rest, deleted)) :
    Absent setting.nodepool rest := by
  have named : setting.nodepool ≠ "" := by
    unfold Setting.nodepool
    cases setting.command <;> decide
  have succeeds := VirtualCluster.deleteNodepool_clean named setting.unreserved releases
  rw [← clean, ran] at succeeds
  cases succeeds
  exact VirtualCluster.deleteNodepool_ok setting.unreserved ran

theorem Tidy.main_step (cleans : label.cleansUp = true)
    (moved : MainMove setting state state.main label next)
    (tidy : state.main.Tidy setting before state.profileFile state.cluster.releases) :
    next.main.Tidy setting before next.profileFile next.cluster.releases := by
  obtain ⟨cluster, profileFile, jobFile, main, repeater, cancelled, panicked⟩ := state
  dsimp only at moved tidy
  cases moved with
  | loadFails => exact ⟨tidy.1, .inl tidy.2⟩
  | load => exact loaded_tidy tidy.2
  | patchFails called => exact .inl ((patch_frame called).releases.trans tidy)
  | patch called => exact (patch_frame called).releases.trans tidy
  | fetchCores =>
      dsimp only
      split
      · exact .inl tidy
      · exact deploying_tidy tidy
  | fetchProviderFails => exact .inl tidy
  | fetchProvider => exact tidy
  | clear deleted => exact absent_of_clean (of_decide_eq_true cleans) deleted
  | addFails failed => exact .inr (newNodepool_error tidy cleans failed)
  | add | deleteGroupFails | deleteGroup | runGroupFails | runGroup | fetchGone | fetchAgain
  | unmarshalFails | fetchResult | release | cancel | fetchCoresAgain => trivial
  | join => exact joined_tidy
  | deletePool deleted => exact .inr (absent_of_clean (of_decide_eq_true cleans) deleted)
  | @removeProfile _ fails =>
      have removed : fails = false := by simpa [Label.cleansUp] using cleans
      exact ⟨by simp [removed], tidy⟩

theorem Tidy.repeater_step (cleans : label.cleansUp = true)
    (moved : RepeaterMove setting state state.repeater label next)
    (tidy : state.repeater.Tidy state.jobFile (state.cluster.namespaces setting.jobNamespace)
      (state.cluster.jobs setting.jobNamespace)) :
    next.repeater.Tidy next.jobFile (next.cluster.namespaces setting.jobNamespace)
      (next.cluster.jobs setting.jobNamespace) := by
  obtain ⟨cluster, profileFile, jobFile, main, repeater, cancelled, panicked⟩ := state
  dsimp only at moved tidy
  cases moved with
  | createFails => exact ⟨tidy.1, tidy.2.2⟩
  | createFile => exact tidy.2
  | namespaceFails called => exact createNamespace_jobs called ▸ tidy.2
  | createNamespace | applyFails | apply | waitJob | deleteJob => trivial
  | check =>
      dsimp only
      split <;> trivial
  | @deleteNamespace fault =>
      have succeeds : fault = .none := of_decide_eq_true cleans
      subst succeeds
      simp [Repeater.Tidy, Cluster.deleteNamespace, Cluster.dropNamespace, Cluster.setNamespace,
        Cluster.setJob]
  | @removeFile fails =>
      have removed : fails = false := by simpa [Label.cleansUp] using cleans
      exact ⟨by simp [removed], tidy⟩
  | @panic _ fails =>
      have removed : fails = false := by simpa [Label.cleansUp] using cleans
      exact ⟨by simp [removed], tidy⟩
  | crash => exact tidy

theorem Tidy.step (cleans : label.cleansUp = true) (stepped : step setting state label = some next)
    (sound : state.Sound setting) (tidy : Tidy setting before state) :
    Tidy setting before next := by
  obtain ⟨-, moved⟩ := step_move stepped
  cases moved with
  | main moved =>
      have frame := moved.frame
      refine ⟨Tidy.main_step cleans moved tidy.main, ?_⟩
      rw [frame.elsewhere.namespaces _ setting.jobNamespace_notMem,
        frame.elsewhere.jobs _ setting.jobNamespace_notMem, frame.jobFile]
      obtain same | ⟨spawned, sharedProviderID, adding⟩ := frame.repeater
      · rw [same]
        exact tidy.repeater
      · have idle : state.repeater = .idle := by
          unfold State.Sound at sound
          rwa [adding] at sound
        have clean := tidy.repeater
        rw [idle] at clean
        rw [spawned]
        exact clean
  | repeater moved =>
      have frame := moved.frame
      refine ⟨?_, Tidy.repeater_step cleans moved tidy.repeater⟩
      rw [frame.main, frame.profileFile, frame.cluster.releases]
      exact tidy.main
  | cluster moved =>
      obtain ⟨releases, namespaces, jobs, -, -, -⟩ := stepCluster_frame moved
      refine ⟨?_, ?_⟩
      · dsimp only
        rw [releases]
        exact tidy.main
      · dsimp only
        rw [namespaces, jobs]
        exact tidy.repeater

end Steps

section Runs

variable {setting : Setting} {before : Cluster} {trace : List Label} {state : State}

theorem tidy_of_run
    (fresh : before.namespaces setting.jobNamespace = false ∧
      before.jobs setting.jobNamespace = false)
    (run : (system setting before).RunWith (fun _ label => label.cleansUp = true) trace state) :
    Tidy setting before.releases state := by
  refine run.invariant_using sound_of_run ?_ fun cleans stepped sound _ tidy =>
    tidy.step cleans stepped sound
  rintro _ rfl
  exact ⟨⟨rfl, rfl⟩, rfl, fresh⟩

theorem Tidy.working (tidy : Tidy setting before.releases state)
    (present : state.cluster.namespaces setting.jobNamespace = true) :
    state.repeater.working = true ∨ ∃ message, state.repeater = .crashing message := by
  have held := tidy.repeater
  rw [present] at held
  cases here : state.repeater with
  | idle | done =>
      rw [here] at held
      cases held.2.1
  | crashing message => exact .inr ⟨message, rfl⟩
  | creatingFile | creatingNamespace | looping | applying | waiting | deleting
  | deletingNamespace | removingFile | panicking => exact .inl rfl

end Runs

/-- Over a cluster without the namespace, and if the calls that clean up do their work,
whatever else fails. The namespace is there only while the nodes of its pods are, unless
the goroutine has panicked. A command that returns leaves no job and no file, it leaves
no namespace but by a goroutine that has panicked, and no pool unless it returned before
it touched the one that was there. -/
theorem command_cleans_up {setting : Setting} {before : Cluster} {trace : List Label}
    {state : State}
    (fresh : before.namespaces setting.jobNamespace = false ∧
      before.jobs setting.jobNamespace = false)
    (run : (system setting before).RunWith (fun _ label => label.cleansUp = true) trace state) :
    (state.cluster.namespaces setting.jobNamespace = true →
      Deployed setting.nodepool state.cluster.releases ∨
        ∃ message, state.repeater = .crashing message) ∧
    ∀ result, state.main = .returned result →
      (state.cluster.namespaces setting.jobNamespace = false ∨
        ∃ message, state.repeater = .crashing message) ∧
      state.cluster.jobs setting.jobNamespace = false ∧
      (state.profileFile = false ∧ state.jobFile = false) ∧
      (state.cluster.releases = before.releases ∨
        Absent setting.nodepool state.cluster.releases) := by
  have tidy := tidy_of_run fresh run
  have sound := sound_of_run run
  refine ⟨fun present => ?_, fun result returned => ?_⟩
  · cases tidy.working present with
    | inl working => exact .inl (sound.working working).1
    | inr crashing => exact .inr crashing
  · have main := tidy.main
    have repeater := tidy.repeater
    unfold State.Sound at sound
    rw [returned] at main sound
    have ended : state.repeater = .idle ∨ state.repeater.counted = true :=
      sound.1.imp (fun early => early.1) id
    cases here : state.repeater with
    | idle | done =>
        rw [here] at repeater
        exact ⟨.inl repeater.2.1, repeater.2.2, ⟨main.1, repeater.1⟩, main.2⟩
    | crashing message =>
        rw [here] at repeater
        exact ⟨.inr ⟨message, rfl⟩, repeater.2, ⟨main.1, repeater.1⟩, main.2⟩
    | creatingFile | creatingNamespace | looping | applying | waiting | deleting
    | deletingNamespace | removingFile | panicking =>
        rw [here] at ended
        simp [Repeater.counted] at ended

theorem command_cleans_up_ended :
    ∃ state, (system Sample.setting Sample.before).Run Sample.ended state ∧
      state.main = .returned (.ok (some ⟨.own, .own⟩)) ∧
      state.cluster.namespaces "job1pod100" = false ∧
      (state.cluster.releases = Sample.before.releases ∨
        Absent "node10job1pod100" state.cluster.releases) := by
  obtain ⟨state, executed, returned, ended⟩ :
      ∃ state ∈ (system Sample.setting Sample.before).executeWith
          (fun _ label => label.cleansUp = true) (start Sample.before) Sample.ended,
        state.main = .returned (.ok (some ⟨.own, .own⟩)) ∧ state.repeater = .done := by
    decide +kernel
  have run := TransitionSystem.runWith_of_executeWith rfl executed
  obtain ⟨gone, -, -, pool⟩ := (command_cleans_up ⟨rfl, rfl⟩ run).2 _ returned
  refine ⟨state, run.mono fun _ _ _ => trivial, returned, gone.resolve_right ?_, pool⟩
  rintro ⟨message, crashing⟩
  cases ended.symm.trans crashing

end Kperf.Contrib.JobBench
