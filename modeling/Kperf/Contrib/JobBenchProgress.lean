import Kperf.Contrib.JobBenchSafety
import Kperf.Library.Progress

/-! How a command that repeats a job comes to its end. The goroutine repeats without a
bound until it is cancelled; whatever else can happen is counted here. -/

set_option autoImplicit false

namespace Kperf.Contrib.JobBench

open VirtualCluster (Deployed)

def Point.rank : Point → Nat
  | .loading => 15
  | .patching => 14
  | .fetching => 13
  | .preparing => 12
  | .clearing _ => 11
  | .adding _ => 10
  | .deletingGroup => 9
  | .runningGroup => 8
  | .polling => 7
  | .releasing _ => 6
  | .cancelling _ => 5
  | .waiting _ => 4
  | .fetchingAgain _ => 3
  | .deletingPool _ => 2
  | .removingProfile _ => 1
  | .returned _ => 0

/-- The order in which a goroutine whose context is cancelled runs out. -/
def Repeater.rank : Repeater → Nat
  | .idle => 11
  | .creatingFile => 10
  | .creatingNamespace => 9
  | .applying => 8
  | .waiting => 7
  | .deleting => 6
  | .looping => 5
  | .deletingNamespace => 4
  | .removingFile => 3
  | .panicking _ => 2
  | .crashing _ => 1
  | .done => 0

/-- A group that is not the server's is collected, and then the server deploys its own. -/
def Cluster.rank (cluster : Cluster) : Nat :=
  match cluster.group with
  | some _ => if cluster.group = cluster.server then 0 else 2
  | none => if cluster.server = none then 0 else 1

/-- A step of the command may leave the cluster with two steps to go. -/
def State.rank (state : State) : Nat :=
  3 * state.main.rank + state.repeater.rank + state.cluster.rank +
    if state.panicked = none then 1 else 0

section Lower

variable {setting : Setting} {state next : State} {label : Label}

theorem Cluster.rank_le_two (cluster : Cluster) : cluster.rank ≤ 2 := by
  unfold Cluster.rank
  split
  all_goals split <;> omega

theorem Cluster.rank_congr {cluster next : Cluster} (server : next.server = cluster.server)
    (group : next.group = cluster.group) : next.rank = cluster.rank := by
  unfold Cluster.rank
  rw [server, group]

theorem Setting.deploying_rank (setting : Setting) : setting.deploying.rank ≤ 12 := by
  unfold Setting.deploying
  split <;> decide

theorem Setting.loaded_rank (setting : Setting) : setting.loaded.rank ≤ 14 := by
  unfold Setting.loaded
  split
  · split <;> decide
  · exact Nat.le_trans setting.deploying_rank (by decide)

theorem Setting.joined_rank (setting : Setting) (result : Result) :
    (setting.joined result).rank ≤ 3 := by
  unfold Setting.joined
  split <;> simp [Point.rank]

theorem MainMove.lower (moved : MainMove setting state state.main label next) :
    next.main.rank < state.main.rank ∨ next = state ∧ state.main = .polling := by
  obtain ⟨cluster, profileFile, jobFile, main, repeater, cancelled, panicked⟩ := state
  dsimp only at moved
  cases moved with
  | load => exact .inl (Nat.lt_succ_of_le setting.loaded_rank)
  | fetchCores =>
      left
      dsimp only
      split
      · simp [Point.rank]
      · exact Nat.lt_succ_of_le setting.deploying_rank
  | fetchAgain => exact .inr ⟨rfl, rfl⟩
  | join => exact .inl (Nat.lt_succ_of_le (setting.joined_rank _))
  | loadFails | patchFails | patch | fetchProviderFails | fetchProvider | clear | addFails | add
  | deleteGroupFails | deleteGroup | runGroupFails | runGroup | fetchGone | unmarshalFails
  | fetchResult | release | cancel | fetchCoresAgain | deletePool | removeProfile =>
      exact .inl (by simp [Point.rank])

theorem RepeaterMove.lower (moved : RepeaterMove setting state state.repeater label next)
    (running : state.panicked = none)
    (stops : state.repeater = .looping → state.cancelled = true) :
    next.repeater.rank < state.repeater.rank ∨
      next.repeater.rank = state.repeater.rank ∧ next.panicked ≠ none := by
  obtain ⟨cluster, profileFile, jobFile, main, repeater, cancelled, panicked⟩ := state
  dsimp only at moved stops
  cases moved with
  | crash => exact .inr ⟨rfl, nofun⟩
  | check =>
      left
      simp [stops rfl, Repeater.rank]
  | createFails | createFile | namespaceFails | createNamespace | applyFails | apply | waitJob
  | deleteJob | deleteNamespace | removeFile | panic =>
      exact .inl (by simp [Repeater.rank])

theorem ClusterFrame.lower {cluster next : Cluster} (frame : ClusterFrame cluster next) :
    next = cluster ∨ next.rank < cluster.rank := by
  obtain ⟨releases, namespaces, jobs, tolerations, server, group⟩ := frame
  by_cases same : next.group = cluster.group
  · left
    cases cluster
    cases next
    simp_all
  · right
    obtain unchanged | ⟨gone, orphaned⟩ | ⟨deployed, served, missing⟩ := group
    · exact absurd unchanged same
    · cases grouped : cluster.group with
      | none => exact absurd (gone.trans grouped.symm) same
      | some owner =>
          rw [grouped] at orphaned
          simp only [Cluster.rank, gone, grouped, if_neg orphaned]
          split <;> omega
    · obtain ⟨owner, own⟩ := Option.ne_none_iff_exists'.mp served
      simp [Cluster.rank, deployed, missing, server, own]

/-- Every step that changes something goes down, but for the loop of a goroutine that is
not cancelled. -/
theorem step_lower (sound : state.Sound setting)
    (stops : state.repeater = .looping → state.cancelled = true)
    (stepped : step setting state label = some next) :
    next = state ∨ next.rank < state.rank := by
  obtain ⟨running, moved⟩ := step_move stepped
  cases moved with
  | main moved =>
      have frame := moved.frame
      have clusters := next.cluster.rank_le_two
      have repeaters : next.repeater.rank ≤ state.repeater.rank := by
        obtain same | ⟨spawned, sharedProviderID, adding⟩ := frame.repeater
        · rw [same]
        · unfold State.Sound at sound
          rw [adding] at sound
          rw [spawned, show state.repeater = .idle from sound]
          decide
      cases moved.lower with
      | inl less =>
          right
          unfold State.rank
          rw [frame.panicked]
          omega
      | inr stays => exact .inl stays.1
  | repeater moved =>
      right
      have frame := moved.frame
      have clusters := Cluster.rank_congr frame.cluster.server frame.cluster.group
      unfold State.rank
      rw [frame.main, clusters, if_pos running]
      obtain less | ⟨same, panicked⟩ := moved.lower running stops
      · split <;> omega
      · rw [same, if_neg panicked]
        omega
  | cluster moved =>
      cases (stepCluster_frame moved).lower with
      | inl same => exact .inl (by rw [same])
      | inr less =>
          right
          unfold State.rank
          dsimp only
          omega

end Lower

/-- The context of the goroutine is cancelled, and the command waits or is past that. -/
structure Stopping (setting : Setting) (state : State) : Prop where
  sound : state.Sound setting
  cancelled : state.cancelled = true
  late : state.main.rank ≤ 4

section Stopping

variable {setting : Setting} {before : Cluster} {state next : State} {label : Label}
variable {trace : List Label}

theorem MainMove.cancelled (moved : MainMove setting state state.main label next) :
    next.cancelled = state.cancelled ∨ next.cancelled = true ∧ next.main.rank = 4 := by
  obtain ⟨cluster, profileFile, jobFile, main, repeater, cancelled, panicked⟩ := state
  dsimp only at moved
  cases moved with
  | cancel => exact .inr ⟨rfl, rfl⟩
  | loadFails | load | patchFails | patch | fetchCores | fetchProviderFails | fetchProvider | clear
  | addFails | add | deleteGroupFails | deleteGroup | runGroupFails | runGroup | fetchGone
  | fetchAgain | unmarshalFails | fetchResult | release | join | fetchCoresAgain | deletePool
  | removeProfile => exact .inl rfl

def State.Late (state : State) : Prop := state.cancelled = true → state.main.rank ≤ 4

theorem State.Late.step (late : state.Late) (stepped : step setting state label = some next) :
    next.Late ∧ (state.cancelled = true → next.cancelled = true) := by
  obtain ⟨-, moved⟩ := step_move stepped
  cases moved with
  | main moved =>
      obtain same | ⟨cancelled, waits⟩ := moved.cancelled
      · refine ⟨fun cancelled => ?_, fun cancelled => same.trans cancelled⟩
        have there := late (same.symm.trans cancelled)
        cases moved.lower with
        | inl less => omega
        | inr stays => rwa [stays.1]
      · exact ⟨fun _ => waits.le, fun _ => cancelled⟩
  | repeater moved =>
      have frame := moved.frame
      unfold State.Late
      rw [frame.main, frame.cancelled]
      exact ⟨late, id⟩
  | cluster => exact ⟨late, id⟩

theorem late_of_run (run : (system setting before).Run trace state) : state.Late := by
  refine run.invariant ?_ fun _ stepped late => (State.Late.step late stepped).1
  rintro _ rfl cancelled
  cases cancelled

theorem Stopping.step (stopping : Stopping setting state)
    (stepped : step setting state label = some next) : Stopping setting next := by
  have late : state.Late := fun _ => stopping.late
  obtain ⟨later, stays⟩ := late.step stepped
  have cancelled := stays stopping.cancelled
  exact ⟨stopping.sound.step stepped, cancelled, later cancelled⟩

theorem RepeaterMove.changes (moved : RepeaterMove setting state state.repeater label next)
    (running : state.panicked = none) : next ≠ state := by
  obtain ⟨cluster, profileFile, jobFile, main, repeater, cancelled, panicked⟩ := state
  dsimp only at moved running
  intro same
  have repeaters := congrArg State.repeater same
  have panics := congrArg State.panicked same
  cases moved with
  | crash =>
      rw [show panicked = none from running] at panics
      cases panics
  | check =>
      dsimp only at repeaters
      split at repeaters <;> cases repeaters
  | createFails | createFile | namespaceFails | createNamespace | applyFails | apply | waitJob
  | deleteJob | deleteNamespace | removeFile | panic => cases repeaters

/-- A goroutine that has not returned can always move. -/
theorem repeater_moves (setting : Setting) (running : state.panicked = none)
    (started : state.repeater ≠ .idle) (unended : state.repeater ≠ .done) :
    ∃ label next, label.actor = .repeater ∧ JobBench.step setting state label = some next ∧
      next ≠ state := by
  have enabled : ∃ label, label.actor = .repeater ∧
      (stepRepeater setting state state.repeater label).isSome = true := by
    cases here : state.repeater with
    | idle => exact absurd here started
    | done => exact absurd here unended
    | creatingFile => exact ⟨.createJobFile none, rfl, rfl⟩
    | creatingNamespace => exact ⟨.createNamespace (.failed false ""), rfl, rfl⟩
    | looping => exact ⟨.check, rfl, rfl⟩
    | applying => exact ⟨.apply (.failed false ""), rfl, rfl⟩
    | waiting => exact ⟨.waitJob, rfl, rfl⟩
    | deleting => exact ⟨.deleteJob .none, rfl, rfl⟩
    | deletingNamespace => exact ⟨.deleteNamespace .none, rfl, rfl⟩
    | removingFile => exact ⟨.removeJobFile false, rfl, rfl⟩
    | panicking => exact ⟨.removeJobFile false, rfl, rfl⟩
    | crashing => exact ⟨.crash, rfl, rfl⟩
  obtain ⟨label, actor, moves⟩ := enabled
  obtain ⟨next, stepped⟩ := Option.isSome_iff_exists.mp moves
  refine ⟨label, next, actor, ?_, (stepRepeater_move stepped).changes running⟩
  simp [JobBench.step, running, actor, stepped]

theorem Stopping.moves (stopping : Stopping setting state) (running : state.panicked = none)
    (unreturned : ∀ result, state.main ≠ .returned result) :
    ∃ label next, label.actor ≠ .cluster ∧ JobBench.step setting state label = some next ∧
      next ≠ state := by
  by_cases unended : state.repeater ≠ .idle ∧ state.repeater ≠ .done
  · obtain ⟨label, next, actor, stepped, changed⟩ :=
      repeater_moves setting running unended.1 unended.2
    exact ⟨label, next, by rw [actor]; decide, stepped, changed⟩
  · have late := stopping.late
    have sound := stopping.sound
    unfold State.Sound at sound
    have enabled : ∃ label, label.actor = .main ∧
        (stepMain setting state state.main label).isSome = true := by
      cases here : state.main with
      | loading | patching | fetching | preparing | clearing | adding | deletingGroup
      | runningGroup | polling | releasing | cancelling =>
          rw [here] at late
          exact absurd late (by simp [Point.rank])
      | waiting result =>
          rw [here] at sound
          have done : state.repeater = .done := by
            by_contra working
            exact unended ⟨sound.1.1, working⟩
          exact ⟨.join, rfl, by simp [stepMain, done, Repeater.counted]⟩
      | fetchingAgain result => exact ⟨.fetchCores none, rfl, rfl⟩
      | deletingPool result => exact ⟨.deletePool .clean, rfl, rfl⟩
      | removingProfile result => exact ⟨.removeProfile false, rfl, rfl⟩
      | returned result => exact absurd here (unreturned result)
    obtain ⟨label, actor, moves⟩ := enabled
    obtain ⟨next, stepped⟩ := Option.isSome_iff_exists.mp moves
    refine ⟨label, next, by rw [actor]; decide, ?_, fun same => ?_⟩
    · simp [JobBench.step, running, actor, stepped]
    · rw [same] at stepped
      cases (stepMain_move stepped).lower with
      | inl less => exact Nat.lt_irrefl _ less
      | inr stays =>
          rw [stays.2] at late
          exact absurd late (by decide)

end Stopping

/-- Once the context of the jobs is cancelled, a command returns or panics, whatever is
scheduled and whichever of its calls fail. -/
theorem command_ends {setting : Setting} {before : Cluster} {trace : List Label} {state : State}
    (run : (system setting before).Run trace state) (cancelled : state.cancelled = true) :
    (system setting before).Inevitable (fun label => label.actor ≠ .cluster)
      (fun later => (∃ result, later.main = .returned result) ∨ later.panicked.isSome = true)
      state := by
  refine TransitionSystem.inevitable_of_rank State.rank (Stopping setting)
    (fun stepped stopping => stopping.step stepped)
    (fun stepped stopping => step_lower stopping.sound (fun _ => stopping.cancelled) stepped)
    (fun stopping short => ?_) ⟨sound_of_run run, cancelled, late_of_run run cancelled⟩
  obtain ⟨unreturned, running⟩ := not_or.mp short
  exact stopping.moves (by simpa using running) (not_exists.mp unreturned)

theorem command_ends_measured :
    ∃ state, (system Sample.setting Sample.before).Run Sample.measured state ∧
      state.repeater = .deleting ∧
      (system Sample.setting Sample.before).Inevitable (fun label => label.actor ≠ .cluster)
        (fun later => (∃ result, later.main = .returned result) ∨ later.panicked.isSome = true)
        state := by
  obtain ⟨state, executed, deleting, cancelled⟩ :
      ∃ state ∈ (system Sample.setting Sample.before).execute (start Sample.before) Sample.measured,
        state.repeater = .deleting ∧ state.cancelled = true := by decide +kernel
  have run := TransitionSystem.runWith_of_executeWith rfl executed
  exact ⟨state, run, deleting, command_ends run cancelled⟩

/-! A namespace that is left over. -/

def Repeater.unlooped : Repeater → Bool
  | .idle | .creatingFile | .creatingNamespace | .panicking _ | .crashing _ => true
  | _ => false

/-- The goroutine does not come to its loop, and so not to the end of it. -/
structure Blocked (setting : Setting) (before : Cluster) (state : State) : Prop where
  sound : state.Sound setting
  present : state.cluster.namespaces setting.jobNamespace = true
  jobs : state.cluster.jobs setting.jobNamespace = before.jobs setting.jobNamespace
  unlooped : state.repeater.unlooped = true
  crashed : state.panicked.isSome = true → state.repeater.counted = true

section Blocked

variable {setting : Setting} {before : Cluster} {state next : State} {label : Label}
variable {trace : List Label}

theorem createNamespace_present {cluster created : Cluster} {name : String} {fault : CallFault}
    {err : Option String} (present : cluster.namespaces name = true)
    (called : cluster.createNamespace name fault = (created, err)) :
    err ≠ none ∧ created.namespaces name = true := by
  unfold Cluster.createNamespace at called
  split at called
  · rw [if_pos present] at called
    cases called
    exact ⟨nofun, present⟩
  · cases called
    refine ⟨nofun, ?_⟩
    split
    · exact Function.update_self _ _ _
    · exact present

theorem Blocked.repeater_step (blocked : Blocked setting before state)
    (stepped : step setting state label = some next)
    (running : state.panicked = none)
    (moved : RepeaterMove setting state state.repeater label next) :
    Blocked setting before next := by
  have sound := blocked.sound.step stepped
  obtain ⟨-, present, jobs, unlooped, -⟩ := blocked
  obtain ⟨cluster, profileFile, jobFile, main, repeater, cancelled, panicked⟩ := state
  dsimp only at moved present jobs unlooped running
  have silent : panicked.isSome = true → ∀ holds : Prop, holds := by
    rw [running]
    nofun
  cases moved with
  | createFails | createFile | panic =>
      exact ⟨sound, present, jobs, rfl, fun panics => silent panics _⟩
  | namespaceFails called =>
      have refused := createNamespace_present present called
      have same := congrFun (createNamespace_jobs called) setting.jobNamespace
      exact ⟨sound, refused.2, same.trans jobs, rfl, fun panics => silent panics _⟩
  | createNamespace called => exact absurd rfl (createNamespace_present present called).1
  | crash => exact ⟨sound, present, jobs, unlooped, fun _ => rfl⟩
  | check | applyFails | apply | waitJob | deleteJob | deleteNamespace | removeFile =>
      cases unlooped

theorem Blocked.step (blocked : Blocked setting before state)
    (stepped : step setting state label = some next) : Blocked setting before next := by
  have sound := blocked.sound.step stepped
  obtain ⟨running, moved⟩ := step_move stepped
  cases moved with
  | main moved =>
      have frame := moved.frame
      have outside := setting.jobNamespace_notMem
      refine ⟨sound, ?_, ?_, ?_, ?_⟩
      · exact (frame.elsewhere.namespaces _ outside).trans blocked.present
      · exact (frame.elsewhere.jobs _ outside).trans blocked.jobs
      · obtain same | ⟨spawned, -⟩ := frame.repeater
        · rw [same]
          exact blocked.unlooped
        · rw [spawned]
          rfl
      · rw [frame.panicked, running]
        nofun
  | repeater moved => exact blocked.repeater_step stepped running moved
  | cluster moved =>
      have frame := stepCluster_frame moved
      exact ⟨sound, frame.namespaces ▸ blocked.present, frame.jobs ▸ blocked.jobs,
        blocked.unlooped, blocked.crashed⟩

theorem blocked_of_run (left : before.namespaces setting.jobNamespace = true)
    (run : (system setting before).Run trace state) : Blocked setting before state := by
  refine run.invariant ?_ fun _ stepped blocked => Blocked.step blocked stepped
  rintro _ rfl
  exact ⟨rfl, left, rfl, rfl, nofun⟩

theorem Blocked.crashing (blocked : Blocked setting before state)
    (counted : state.repeater.counted = true) : ∃ message, state.repeater = .crashing message := by
  have unlooped := blocked.unlooped
  cases here : state.repeater with
  | crashing message => exact ⟨message, rfl⟩
  | done =>
      rw [here] at unlooped
      cases unlooped
  | idle | creatingFile | creatingNamespace | looping | applying | waiting | deleting
  | deletingNamespace | removingFile | panicking =>
      rw [here] at counted
      cases counted

theorem Blocked.unlooped_ne {repeater : Repeater} (blocked : Blocked setting before state)
    (looped : repeater.unlooped = false) : state.repeater ≠ repeater := by
  intro same
  have unlooped := blocked.unlooped
  rw [same, looped] at unlooped
  cases unlooped

theorem started_step (started : state.repeater ≠ .idle)
    (stepped : step setting state label = some next) : next.repeater ≠ .idle := by
  obtain ⟨-, moved⟩ := step_move stepped
  cases moved with
  | main moved =>
      obtain same | ⟨spawned, -⟩ := moved.frame.repeater
      · exact same ▸ started
      · exact spawned ▸ nofun
  | repeater moved => exact moved.frame.after
  | cluster => exact started

/-- The pool is there from the start of the goroutine to its deletion. -/
theorem State.Sound.deployed (sound : state.Sound setting) (started : state.repeater ≠ .idle) :
    Deployed setting.nodepool state.cluster.releases ∨
      ∃ result, state.main = .removingProfile result ∨ state.main = .returned result := by
  unfold State.Sound at sound
  cases here : state.main with
  | loading | fetching | preparing | clearing | adding =>
      rw [here] at sound
      exact absurd sound started
  | patching =>
      rw [here] at sound
      exact absurd sound.1 started
  | deletingGroup =>
      rw [here] at sound
      exact .inl sound.2
  | runningGroup | polling | releasing | cancelling | waiting | fetchingAgain | deletingPool =>
      rw [here] at sound
      exact .inl sound.1.2
  | removingProfile result => exact .inr ⟨result, .inl rfl⟩
  | returned result => exact .inr ⟨result, .inr rfl⟩

end Blocked

/-- A job namespace that was left over stays as it is: the goroutine neither applies nor
deletes a job. From its start on the process panics, unless the command returns between
the last deferred call of the goroutine and the crash; only in that way does it return a
report, of a measurement without the jobs. A panic leaves the pool that is still there. -/
theorem leftover_namespace {setting : Setting} {before : Cluster} {trace : List Label}
    {state : State} (left : before.namespaces setting.jobNamespace = true)
    (run : (system setting before).Run trace state) :
    (state.cluster.namespaces setting.jobNamespace = true ∧
      state.cluster.jobs setting.jobNamespace = before.jobs setting.jobNamespace) ∧
    (∀ report, state.main = .returned (.ok (some report)) →
      ∃ message, state.repeater = .crashing message) ∧
    (state.panicked.isSome = true →
      Deployed setting.nodepool state.cluster.releases ∨
        ∃ result, state.main = .removingProfile result ∨ state.main = .returned result) ∧
    (state.repeater ≠ .idle →
      (system setting before).Inevitable (fun label => label.actor ≠ .cluster)
        (fun later => (∃ result, later.main = .returned result) ∨ later.panicked.isSome = true)
        state) := by
  have blocked := blocked_of_run left run
  refine ⟨⟨blocked.present, blocked.jobs⟩, fun report returned => ?_, fun panics => ?_,
    fun started => ?_⟩
  · have sound := blocked.sound
    unfold State.Sound at sound
    rw [returned] at sound
    obtain ⟨-, unmeasured⟩ | counted := sound.1
    · exact absurd rfl (unmeasured report)
    · exact blocked.crashing counted
  · obtain ⟨message, crashing⟩ := blocked.crashing (blocked.crashed panics)
    exact blocked.sound.deployed (crashing ▸ nofun)
  · refine TransitionSystem.inevitable_of_rank State.rank
      (fun state => Blocked setting before state ∧ state.repeater ≠ .idle)
      (fun stepped kept => ⟨kept.1.step stepped, started_step kept.2 stepped⟩)
      (fun stepped kept => step_lower kept.1.sound ?_ stepped)
      (fun kept short => ?_) ⟨blocked, started⟩
    · exact fun looping => absurd looping (kept.1.unlooped_ne rfl)
    · have running := (not_or.mp short).2
      obtain ⟨label, next, actor, stepped, changed⟩ :=
        repeater_moves setting (by simpa using running) kept.2 (kept.1.unlooped_ne rfl)
      exact ⟨label, next, by rw [actor]; decide, stepped, changed⟩

namespace Sample

def leftover : Cluster := { before with namespaces := fun name => name == "job1pod100" }

/-- The goroutine panics, and the command returns its report before the process ends. -/
def slipped : List Label :=
  [.load none, .clear .clean, .add .clean false, .createJobFile none, .deleteGroup groupDeleted,
    .createNamespace .none, .removeJobFile false, .runGroup ⟨none, false, .none⟩, .deployed,
    .fetchResult none none, .deleteGroup groupDeleted, .cancel, .join, .deletePool .clean,
    .removeProfile false]

end Sample

theorem leftover_namespace_slipped :
    ∃ state, (system Sample.setting Sample.leftover).Run Sample.slipped state ∧
      state.main = .returned (.ok (some ⟨.own, .own⟩)) ∧
      ∃ message, state.repeater = .crashing message := by
  obtain ⟨state, executed, returned⟩ :
      ∃ state ∈ (system Sample.setting Sample.leftover).execute (start Sample.leftover)
          Sample.slipped, state.main = .returned (.ok (some ⟨.own, .own⟩)) := by decide +kernel
  have run := TransitionSystem.runWith_of_executeWith rfl executed
  exact ⟨state, run, returned, (leftover_namespace rfl run).2.1 _ returned⟩

end Kperf.Contrib.JobBench
