import Kperf.Library.Crew
import Kperf.Library.Progress
import Kperf.Runner.DeploymentResult

/-! `deployRunnerGroups` returns, whatever its calls meet: the channel has room for
every result, so no goroutine waits for another one. A process that is started over
the remains of earlier ones and meets no failure deploys every group. -/

set_option autoImplicit false

namespace Kperf.Runner.Deployment

open Types Outcome

/-- The process is not killed. -/
def Label.survives : Label → Bool
  | .crash _ => false
  | _ => true

/-- And none of its calls fails. -/
def Label.calm (label : Label) : Bool := label.survives && !label.faulty

/-- A step of the process, and not of a request left behind. -/
def Label.own : Label → Bool
  | .land _ => false
  | _ => true

def deployRank : Goroutine Point → Nat
  | .running .getConfigMap => 7
  | .running (.createConfigMap _) => 6
  | .running .getJob => 5
  | .running (.createJob _) => 4
  | .returned _ => 2
  | .exited => 0

def mainRank (setting : Setting) : Main → Nat
  | .booting => 8 * setting.groups.length + 4
  | .spawning next => 8 * (setting.groups.length - next) + 3
  | .draining => 2
  | .returned _ => 0

def rank (setting : Setting) (state : State) : Nat :=
  mainRank setting state.main +
    crewWork deployRank (Finset.range setting.groups.length) state.deploys +
    state.errCh.buffer.length + state.pending.length

section Rank

variable {setting : Setting} {state next : State} {label : Label}

theorem DeployMove.rank_lt {idx : Nat} {handler : Handler}
    (move : DeployMove setting state idx handler (state.deploys idx) label next)
    (found : setting.groups[idx]? = some handler) : rank setting next < rank setting state := by
  have below := (List.getElem?_eq_some_iff.mp found).1
  have work := fun updated =>
    crewWork_update deployRank state.deploys updated (Finset.mem_range.mpr below)
  generalize position : state.deploys idx = deploy at move work
  cases move with
  | @refused point | @abandoned point =>
      have change := work (.returned (some ‹String›))
      cases point <;>
        simp only [rank, State.setDeploy, deployRank, List.length_append, List.length_singleton]
          at change ⊢ <;> omega
  | send =>
      have change := work .exited
      simp only [rank, State.setDeploy, deployRank, List.length_append, List.length_singleton]
        at change ⊢
      omega
  | uploaded | upload =>
      have change := work (.running .getJob)
      simp only [rank, State.setDeploy, deployRank] at change ⊢
      omega
  | marshalled =>
      have change := work (.running (.createConfigMap ‹String›))
      simp only [rank, State.setDeploy, deployRank] at change ⊢
      omega
  | deployed | deploy =>
      have change := work (.returned none)
      simp only [rank, State.setDeploy, deployRank] at change ⊢
      omega
  | @build _ order =>
      have change := work (.running (.createJob (handler.buildBatchJobObject order state.uploadURL)))
      simp only [rank, State.setDeploy, deployRank] at change ⊢
      omega
  | lacking | unmarshalled | uploadTaken | deployTaken =>
      have change := work (.returned (some ‹String›))
      simp only [rank, State.setDeploy, deployRank] at change ⊢
      omega

theorem MainMove.rank_lt (move : MainMove setting state state.main next) :
    rank setting next < rank setting state := by
  generalize position : state.main = main at move
  cases move with
  | begin | noAddress | finish =>
      simp only [rank, position, mainRank]
      omega
  | spawn below =>
      have change := crewWork_update deployRank state.deploys (.running .getConfigMap)
        (Finset.mem_range.mpr below)
      simp only [rank, position, mainRank, State.setDeploy, deployRank] at change ⊢
      omega
  | join =>
      simp only [rank, position, mainRank, Channel.close]
      omega
  | skip buffer | fail buffer =>
      simp only [rank, position, mainRank, buffer, List.length_cons]
      omega

theorem rank_lt (stepped : step setting state label = some next)
    (survives : label.survives = true) : rank setting next < rank setting state := by
  cases step_transition stepped with
  | deploy found move => exact move.rank_lt found
  | main _ move => exact move.rank_lt
  | @land position request waiting =>
      have below := (List.getElem?_eq_some_iff.mp waiting).1
      simp only [rank, List.length_eraseIdx, if_pos below]
      omega
  | crash => cases survives

end Rank

section Moves

variable {setting : Setting} {before : Cluster} {state : State}

/-- There is room in the channel for a result that has not arrived. -/
theorem Counted.room (counts : Counted setting state) (sound : Sound setting before state)
    {idx : Nat} (alive : state.deploys idx ≠ .exited) :
    state.errCh.closed = false ∧ state.errCh.buffer.length < setting.groups.length := by
  obtain ⟨count, spawning, started, bound⟩ := sound.running alive
  rw [Counted, spawning] at counts
  obtain ⟨-, channel, distinct, ended⟩ := counts
  rw [channel]
  refine ⟨rfl, ?_⟩
  have fresh : idx ∉ state.results.map Prod.fst := fun member => alive ((ended idx).mp member).2
  have inside : idx :: state.results.map Prod.fst ⊆ List.range count := by
    intro other member
    rcases List.mem_cons.mp member with rfl | arrived
    · exact List.mem_range.mpr started
    · exact List.mem_range.mpr ((ended other).mp arrived).1
  have shorter :=
    (List.subperm_of_subset (List.nodup_cons.mpr ⟨fresh, distinct⟩) inside).length_le
  simp only [List.length_cons, List.length_map, List.length_range] at shorter ⊢
  omega

/-- A goroutine that has not ended can take a step, and no call need fail for it. -/
theorem deploy_moves (counts : Counted setting state) (sound : Sound setting before state)
    {idx : Nat} {handler : Handler} (found : setting.groups[idx]? = some handler)
    (alive : state.deploys idx ≠ .exited) :
    ∃ label next, label.own = true ∧ label.calm = true ∧ step setting state label = some next := by
  have taken : ∀ {label : Label} {next : State}, label.group = some idx →
      stepDeploy setting state idx handler (state.deploys idx) label = some next →
      step setting state label = some next := by
    intro label next own moved
    simp [step, own, found, moved]
  cases position : state.deploys idx with
  | running point =>
      rw [position] at taken
      cases point with
      | getConfigMap => exact ⟨.getConfigMap idx none, _, rfl, rfl, taken rfl rfl⟩
      | createConfigMap raw => exact ⟨.createConfigMap idx .none, _, rfl, rfl, taken rfl rfl⟩
      | getJob => exact ⟨.getJob idx .stored none, _, rfl, rfl, taken rfl rfl⟩
      | createJob job => exact ⟨.createJob idx .none, _, rfl, rfl, taken rfl rfl⟩
  | returned err =>
      obtain ⟨opened, room⟩ := counts.room sound alive
      rw [position] at taken
      have sent : state.errCh.send setting.groups.length err =
          some ⟨state.errCh.buffer ++ [err], false⟩ :=
        Channel.send_eq_some.mpr ⟨opened, room, rfl⟩
      exact ⟨.send idx, _, rfl, rfl, taken rfl (Option.map_eq_some_iff.mpr ⟨_, sent, rfl⟩)⟩
  | exited => exact absurd position alive

/-- As long as `deployRunnerGroups` has not returned, the process can take a step. -/
theorem main_moves (counts : Counted setting state) (sound : Sound setting before state)
    (open_ : ∀ err, state.main ≠ .returned err) :
    ∃ label next, label.own = true ∧ label.calm = true ∧ step setting state label = some next := by
  have taken : ∀ label : Label, label.group = none → label.own = true → label.calm = true →
      (stepMain setting state state.main label).isSome = true →
      ∃ label next, label.own = true ∧ label.calm = true ∧
        step setting state label = some next := by
    intro label mine own calm enabled
    obtain ⟨next, moved⟩ := Option.isSome_iff_exists.mp enabled
    refine ⟨label, next, own, calm, ?_⟩
    cases label with
    | getConfigMap | createConfigMap | getJob | createJob | send => cases mine
    | land => cases own
    | crash => cases calm
    | begin | spawn | join | drain => exact moved
  cases position : state.main with
  | booting =>
      refine taken .begin rfl rfl rfl ?_
      rw [position, stepMain]
      split <;> rfl
  | spawning next =>
      rw [Counted, position] at counts
      by_cases below : next < setting.groups.length
      · refine taken .spawn rfl rfl rfl ?_
        rw [position, stepMain, if_pos below]
        rfl
      · have last : next = setting.groups.length := Nat.le_antisymm counts.1 (Nat.not_lt.mp below)
        by_cases ended : ∀ idx < setting.groups.length, state.deploys idx = .exited
        · refine taken .join rfl rfl rfl ?_
          rw [position, stepMain, if_pos ⟨last, ended⟩]
          rfl
        · push Not at ended
          obtain ⟨idx, inside, alive⟩ := ended
          have found := List.getElem?_eq_getElem inside
          refine deploy_moves ?_ sound found alive
          rw [Counted, position]
          exact counts
  | draining =>
      rw [Counted, position] at counts
      refine taken .drain rfl rfl rfl ?_
      rw [position, stepMain]
      cases buffer : state.errCh.buffer with
      | nil => simp [Channel.receive, buffer, counts.2.1]
      | cons result rest => cases result <;> simp [Channel.receive, buffer]
  | returned err => exact absurd position (open_ err)

end Moves

/-- Without a crash `deployRunnerGroups` returns, in any order of steps and with any of
its calls failing. -/
theorem deployRunnerGroups_ends {setting : Setting} {before : Cluster} {trace : List Label}
    {state : State} (run : (system setting before).Run trace state) :
    ((system setting before).only Label.survives).Inevitable (fun label => label.own = true)
      (fun state => ∃ err, state.main = .returned err) state := by
  refine TransitionSystem.inevitable_of_rank (rank setting)
    (fun state => Sound setting before state ∧ Counted setting state) ?_ ?_ ?_
    ⟨sound_of_run run, counts_of_run run⟩
  · intro state next label stepped kept
    obtain ⟨-, moved⟩ := TransitionSystem.only_step_eq_some.mp stepped
    exact ⟨kept.1.keep moved, kept.2.keep kept.1 moved⟩
  · intro state next label stepped _
    obtain ⟨survives, moved⟩ := TransitionSystem.only_step_eq_some.mp stepped
    exact .inr (rank_lt moved survives)
  · intro state kept unfinished
    have open_ : ∀ err, state.main ≠ .returned err := fun err ended => unfinished ⟨err, ended⟩
    obtain ⟨label, next, own, calm, moved⟩ := main_moves kept.2 kept.1 open_
    have survives := (Bool.and_eq_true_iff.mp calm).1
    refine ⟨label, next, own, TransitionSystem.only_step_eq_some.mpr ⟨survives, moved⟩, ?_⟩
    intro same
    have less := rank_lt moved survives
    rw [same] at less
    exact Nat.lt_irrefl _ less

/-- What a process needs from outside to deploy its groups: an address, profiles that
can be written, and no config map of its groups that lacks the profile. -/
structure Deployable (setting : Setting) (before : Cluster) : Prop where
  addressed : ∃ uploadURL, setting.uploadURL = .ok uploadURL
  written : ∀ handler ∈ setting.groups, ∃ raw, setting.marshal handler.spec.profile = .ok raw
  usable : ∀ handler ∈ setting.groups, ∀ cm, before.configMaps handler.key = some cm →
    configMapDataKeyLoadProfile ∈ cm.data

/-- Nothing stands in the way of a goroutine, and it has not failed. -/
def Unhindered (cluster : Cluster) (handler : Handler) : Goroutine Point → Prop
  | .running (.createConfigMap _) => cluster.configMaps handler.key = none
  | .running (.createJob _) => cluster.jobs handler.key = none
  | .returned (some _) => False
  | _ => True

/-- A process that has met no failure, and no request of an earlier one to come. -/
structure Untroubled (setting : Setting) (state : State) : Prop where
  quiet : state.pending = []
  deploys : ∀ {idx handler}, setting.groups[idx]? = some handler →
    Unhindered state.cluster handler (state.deploys idx)
  results : ∀ result ∈ state.results, result.2 = none
  main : ∀ err, state.main ≠ .returned (some err)

section Recovery

variable {setting : Setting} {before : Cluster} {state next : State} {label : Label}

theorem Grown.usable (grown : Grown setting before state.cluster)
    (deployable : Deployable setting before) {handler : Handler}
    (configured : handler ∈ setting.groups) {cm : ConfigMap}
    (found : state.cluster.configMaps handler.key = some cm) :
    configMapDataKeyLoadProfile ∈ cm.data := by
  rcases grown.configMaps found with old | ⟨uploader, -, -, raw, -, rfl⟩
  · exact deployable.usable handler configured cm old
  · exact AList.mem_keys.mpr (List.mem_singleton_self _)

/-- One goroutine moves on; what it creates is not in the way of another one, since no
two groups have a name in common. -/
theorem Untroubled.advance (untroubled : Untroubled setting state) {idx : Nat} {handler : Handler}
    {updated : Goroutine Point} (found : setting.groups[idx]? = some handler)
    (deploys : next.deploys = Function.update state.deploys idx updated)
    (main : next.main = state.main) (pending : next.pending = state.pending)
    (unhindered : Unhindered next.cluster handler updated)
    (others : ∀ other ∈ setting.groups, other.key ≠ handler.key →
      next.cluster.configMaps other.key = state.cluster.configMaps other.key ∧
      next.cluster.jobs other.key = state.cluster.jobs other.key)
    (results : ∀ result ∈ next.results, result.2 = none) : Untroubled setting next where
  quiet := pending.trans untroubled.quiet
  deploys := by
    intro position group known
    rw [deploys, Function.update_apply]
    split
    · subst position
      rw [found] at known
      cases known
      exact unhindered
    · rename_i apart
      have different : group.key ≠ handler.key := by
        intro same
        have first := (List.getElem?_map ..).trans (congrArg (Option.map Handler.key) known)
        have second := (List.getElem?_map ..).trans (congrArg (Option.map Handler.key) found)
        have bound := (List.getElem?_eq_some_iff.mp first).1
        rw [Option.map_some, same] at first
        exact apart ((List.getElem?_inj bound setting.distinct).mp (first.trans second.symm))
      obtain ⟨configMaps, jobs⟩ := others group (List.mem_of_getElem? known) different
      have before := untroubled.deploys known
      revert before
      unfold Unhindered
      rw [configMaps, jobs]
      exact id
  results := results
  main := fun err => main ▸ untroubled.main err

theorem DeployMove.untroubled {idx : Nat} {handler : Handler}
    (move : DeployMove setting state idx handler (state.deploys idx) label next)
    (found : setting.groups[idx]? = some handler) (sound : Sound setting before state)
    (deployable : Deployable setting before) (calm : label.faulty = false)
    (untroubled : Untroubled setting state) : Untroubled setting next := by
  have configured := List.mem_of_getElem? found
  have stood := untroubled.deploys found
  have same : ∀ other ∈ setting.groups, other.key ≠ handler.key →
      state.cluster.configMaps other.key = state.cluster.configMaps other.key ∧
      state.cluster.jobs other.key = state.cluster.jobs other.key := fun _ _ _ => ⟨rfl, rfl⟩
  generalize state.deploys idx = deploy at move stood
  cases move with
  | refused faulty | abandoned faulty =>
      rw [calm] at faulty
      cases faulty
  | lacking present lacks =>
      exact absurd (sound.grown.usable deployable configured present) lacks
  | unmarshalled failed =>
      obtain ⟨raw, written⟩ := deployable.written handler configured
      rw [written] at failed
      cases failed
  | uploadTaken present | deployTaken present =>
      simp only [Unhindered] at stood
      rw [stood] at present
      cases present
  | uploaded | deployed =>
      exact untroubled.advance found rfl rfl rfl trivial same untroubled.results
  | marshalled free | build free =>
      exact untroubled.advance found rfl rfl rfl free same untroubled.results
  | upload free =>
      refine untroubled.advance found rfl rfl rfl trivial ?_ untroubled.results
      intro other _ apart
      exact ⟨Function.update_of_ne apart .., rfl⟩
  | deploy free =>
      refine untroubled.advance found rfl rfl rfl trivial ?_ untroubled.results
      intro other _ apart
      exact ⟨rfl, Function.update_of_ne apart ..⟩
  | @send _ err =>
      refine untroubled.advance found rfl rfl rfl trivial same ?_
      intro result member
      rcases List.mem_append.mp member with old | new
      · exact untroubled.results result old
      · cases List.mem_singleton.mp new
        cases err with
        | none => rfl
        | some err => cases stood

theorem MainMove.untroubled (move : MainMove setting state state.main next)
    (counts : Counted setting state) (deployable : Deployable setting before)
    (untroubled : Untroubled setting state) : Untroubled setting next := by
  unfold Counted at counts
  generalize position : state.main = main at move counts
  cases move with
  | begin | join | finish => exact { untroubled with main := by simp }
  | noAddress missing =>
      obtain ⟨uploadURL, addressed⟩ := deployable.addressed
      rw [addressed] at missing
      cases missing
  | @spawn count below =>
      refine { untroubled with deploys := ?_, main := by simp [State.setDeploy] }
      intro idx handler found
      simp only [State.setDeploy, Function.update_apply]
      split
      · trivial
      · exact untroubled.deploys found
  | skip => exact { untroubled with main := fun err => untroubled.main err }
  | @fail rest err buffer =>
      obtain ⟨-, -, drained, results, -⟩ := counts
      have arrived : some err ∈ state.results.map Prod.snd := by
        rw [results, buffer]
        simp
      obtain ⟨result, member, same⟩ := List.mem_map.mp arrived
      rw [untroubled.results result member] at same
      cases same

theorem Untroubled.keep (untroubled : Untroubled setting state) (sound : Sound setting before state)
    (counts : Counted setting state) (deployable : Deployable setting before)
    (calm : label.calm = true) (stepped : step setting state label = some next) :
    Untroubled setting next := by
  obtain ⟨survives, sane⟩ := Bool.and_eq_true_iff.mp calm
  cases step_transition stepped with
  | deploy found move =>
      exact move.untroubled found sound deployable (by simpa using sane) untroubled
  | main _ move => exact move.untroubled counts deployable untroubled
  | land waiting =>
      rw [untroubled.quiet] at waiting
      cases waiting
  | crash => cases survives

end Recovery

/-- A process that is started over what earlier ones left, with none of their requests
still on the way and no failing call, deploys every group. -/
theorem deployment_recovers {setting : Setting} {before : Cluster} {trace : List Label}
    {state : State} (run : (system setting before).Run trace state)
    (booting : state.main = .booting) (quiet : state.pending = [])
    (deployable : Deployable setting before) :
    ((system setting before).only Label.calm).Inevitable (fun label => label.own = true)
      (fun state => state.main = .returned none ∧
        ∀ handler ∈ setting.groups, Ready state.cluster handler) state := by
  have sound := sound_of_run run
  have counts := counts_of_run run
  have untroubled : Untroubled setting state := by
    have idle : ∀ idx, state.deploys idx = .exited := by
      intro idx
      by_contra alive
      obtain ⟨next, spawning, -⟩ := sound.running alive
      rw [booting] at spawning
      cases spawning
    rw [Counted, booting] at counts
    refine ⟨quiet, ?_, ?_, by simp [booting]⟩
    · intro idx handler found
      rw [idle]
      trivial
    · rw [counts.2]
      exact List.forall_mem_nil _
  refine TransitionSystem.inevitable_of_rank (rank setting)
    (fun state => Sound setting before state ∧ Counted setting state ∧ Untroubled setting state)
    ?_ ?_ ?_ ⟨sound, counts, untroubled⟩
  · intro state next label stepped kept
    obtain ⟨calm, moved⟩ := TransitionSystem.only_step_eq_some.mp stepped
    obtain ⟨sound, counts, untroubled⟩ := kept
    exact ⟨sound.keep moved, counts.keep sound moved,
      untroubled.keep sound counts deployable calm moved⟩
  · intro state next label stepped _
    obtain ⟨calm, moved⟩ := TransitionSystem.only_step_eq_some.mp stepped
    exact .inr (rank_lt moved (Bool.and_eq_true_iff.mp calm).1)
  · intro state kept unfinished
    obtain ⟨sound, counts, untroubled⟩ := kept
    have open_ : ∀ err, state.main ≠ .returned err := by
      intro err ended
      cases err with
      | some err => exact untroubled.main err ended
      | none => exact unfinished ⟨ended, ready_of_returned sound counts ended⟩
    obtain ⟨label, next, own, calm, moved⟩ := main_moves counts sound open_
    refine ⟨label, next, own, TransitionSystem.only_step_eq_some.mpr ⟨calm, moved⟩, ?_⟩
    intro same
    have less := rank_lt moved (Bool.and_eq_true_iff.mp calm).1
    rw [same] at less
    exact Nat.lt_irrefl _ less

namespace Sample

/-- The process dies between the two objects of its first group. -/
def halfway : List Label :=
  [.begin, .spawn, .getConfigMap 0 none, .createConfigMap 0 .none, .crash []]

end Sample

theorem deployRunnerGroups_ends_refused :
    ∃ state, (system Sample.setting .empty).Run (Sample.refused.take 9) state ∧
      state.main = .spawning 2 ∧
      ((system Sample.setting .empty).only Label.survives).Inevitable
        (fun label => label.own = true) (fun state => ∃ err, state.main = .returned err) state := by
  obtain ⟨state, executed, spawning⟩ :
      ∃ state ∈ (system Sample.setting .empty).execute (.boot .empty []) (Sample.refused.take 9),
        state.main = .spawning 2 := by decide +kernel
  have run := TransitionSystem.runWith_of_executeWith rfl executed
  exact ⟨state, run, spawning, deployRunnerGroups_ends run⟩

theorem deployable_sample : Deployable Sample.setting .empty where
  addressed := ⟨"http://10.0.0.7:8080" ++ uploadPath, by decide +kernel⟩
  written := fun handler _ => ⟨_, rfl⟩
  usable := fun handler _ cm found => by cases found

theorem deployment_recovers_halfway :
    ∃ state, (system Sample.setting .empty).Run Sample.halfway state ∧
      (state.cluster.configMaps ("runners", "server-0")).isSome = true ∧
      ((system Sample.setting .empty).only Label.calm).Inevitable (fun label => label.own = true)
        (fun state => state.main = .returned none ∧
          ∀ handler ∈ Sample.setting.groups, Ready state.cluster handler) state := by
  obtain ⟨state, executed, uploaded, booting, quiet⟩ :
      ∃ state ∈ (system Sample.setting .empty).execute (.boot .empty []) Sample.halfway,
        (state.cluster.configMaps ("runners", "server-0")).isSome = true ∧
        state.main = .booting ∧ state.pending.isEmpty = true := by decide +kernel
  have run := TransitionSystem.runWith_of_executeWith rfl executed
  exact ⟨state, run, uploaded,
    deployment_recovers run booting (List.isEmpty_iff.mp quiet) deployable_sample⟩

end Kperf.Runner.Deployment
