import Kperf.Library.Decimal
import Kperf.Runner.ServerHealth

/-! Every report is delivered once failures stop. Restarts, lost answers, failing disks and
failing calls of the API server may have left handlers half way and runners without an
answer; from there on the runners upload what is missing and the summary comes to be made
of all their reports. -/

set_option autoImplicit false

namespace Kperf.Runner.Server

open Types Summary

/-! What the summary gathers. -/

/-- The groups that the summary has not listed yet. -/
def Phase.unlisted (setting : Setting) : Phase → List String
  | .waiting _ => setting.groups
  | .merging _ groups | .reading _ _ _ _ groups => groups
  | .ready _ => []

/-- A summary that has missed nothing. -/
structure Gathers {setting : Setting} (roster : Roster setting) (state : State) : Prop where
  listing : state.summary.listed ++ (state.summary.phase.unlisted setting).flatMap roster.pods =
    roster.all
  whole : ∀ read ∈ state.summary.reads,
    read.report = unmarshalReport setting.wire (setting.body read.pod)
  current : ∀ {pod answered faulted pods groups},
    state.summary.phase = .reading pod answered faulted pods groups → Reading state.store pod

section Gathering

variable {setting : Setting} {roster : Roster setting} {state next : State} {label : Label}

theorem gathers_waiting {running : List String} (standing : Standing roster state)
    (waiting : state.summary.phase = .waiting running) : Gathers roster state := by
  have fresh := standing.hosted.waits.fresh (by rw [waiting]; rfl)
  have listed : state.summary.listed = [] := by rw [fresh]; rfl
  have reads : state.summary.reads = [] := by rw [fresh]; rfl
  refine ⟨?_, fun read member => ?_, fun reading => ?_⟩
  · rw [listed, waiting]
    rfl
  · rw [reads] at member
    cases member
  · cases waiting.symm.trans reading

theorem lists_eq_some {phase : Phase} {group : String} (lists : phase.lists = some group) :
    ∃ groups, phase = .merging [] (group :: groups) := by
  unfold Phase.lists at lists
  split at lists
  · cases lists
    exact ⟨_, rfl⟩
  · cases lists

theorem Gathers.distinct (gathers : Gathers roster state) (calm : healthy roster state label = true) :
    DistinctPods state label := by
  cases label with
  | list pods =>
      cases pods with
      | none => trivial
      | some pods =>
          have whole : (state.summary.listed ++
              (state.summary.phase.unlisted setting).flatMap roster.pods).Nodup := by
            rw [gathers.listing]
            exact roster.apart
          simp only [healthy] at calm
          split at calm
          · rename_i group lists
            obtain ⟨groups, phase⟩ := lists_eq_some lists
            cases of_decide_eq_true calm
            rw [phase] at whole
            simp only [Phase.unlisted, List.flatMap_cons, ← List.append_assoc] at whole
            exact (List.nodup_append.mp whole).1
          · cases calm
  | _ => trivial

theorem failing_of_fails {call : LocalStore.Label} (sound : call.fails = false) :
    failing call = false := by
  cases call with
  | statAccess | openAccess => exact sound
  | _ => rfl

theorem Gathers.congr (gathers : Gathers roster state) (valid : LocalStore.Valid state.store)
    (transition : Transition setting state label next) (summary : next.summary = state.summary)
    (accesses : next.store.accesses = state.store.accesses) : Gathers roster next where
  listing := by
    rw [summary]
    exact gathers.listing
  whole := by
    rw [summary]
    exact gathers.whole
  current := by
    rw [summary]
    intro pod answered faulted pods groups reading
    exact (gathers.current reading).congr (congrFun accesses 0) (transition.dataKept valid)

/-- The report that the summary reads is in the store. -/
theorem Gathers.stored {pod : String} {answered faulted : Bool} {pods groups : List String}
    (gathers : Gathers roster state) (standing : Standing roster state)
    (summarizing : Summarizing setting state)
    (reading : state.summary.phase = .reading pod answered faulted pods groups) :
    Stored setting state pod := by
  have listed : pod ∈ state.summary.listed := by
    rw [summarizing.listed, reading]
    exact List.mem_append_right _ List.mem_cons_self
  have runner : pod ∈ roster.all := by
    rw [← gathers.listing]
    exact List.mem_append_left _ listed
  exact standing.uploading.exited
    (standing.hosted.waits.begun (by rw [reading]; rfl) pod runner)

theorem SummaryMove.gathers {phase : Phase} (move : SummaryMove setting state phase label next)
    (stands : state.summary.phase = phase) (calm : healthy roster state label = true)
    (standing : Standing roster state) (summarizing : Summarizing setting state)
    (gathers : Gathers roster state) : Gathers roster next := by
  have listing := gathers.listing
  rw [stands] at listing
  cases move with
  | finish | summarize | publish =>
      exact ⟨listing, gathers.whole, fun reading => by cases reading⟩
  | @listFails group groups =>
      have lists : state.summary.phase.lists = some group := by rw [stands]; rfl
      simp [healthy, lists] at calm
  | @list group pods groups =>
      have lists : state.summary.phase.lists = some group := by rw [stands]; rfl
      have shown : pods = roster.pods group := by simpa [healthy, lists] using calm
      subst shown
      refine ⟨?_, gathers.whole, fun reading => by cases reading⟩
      simpa [Phase.unlisted] using listing
  | @openReader pod pods groups store called =>
      refine ⟨listing, gathers.whole, fun reading => ?_⟩
      cases reading
      cases step_openReader called
      simp [Reading]
  | @call pod answered faulted pods groups call store reads called goesOn =>
      refine ⟨listing, gathers.whole, fun reading => ?_⟩
      cases reading
      obtain ⟨file, present, -⟩ := Option.map_eq_some_iff.mp
        (gathers.stored standing summarizing stands)
      have sound : call.fails = false := by simpa [healthy] using calm
      exact ((gathers.current stands).call present reads (failing_of_fails sound) called).1
  | @openFails pod answered faulted pods groups store called idle =>
      obtain ⟨file, present, -⟩ := Option.map_eq_some_iff.mp
        (gathers.stored standing summarizing stands)
      exact absurd idle ((gathers.current stands).call present rfl rfl called).2
  | @readAll pod answered faulted pods groups file succeeds orders store data access called read =>
      refine ⟨listing, fun other member => ?_, fun reading => by cases reading⟩
      rcases List.mem_append.mp member with old | new
      · exact gathers.whole other old
      · cases List.mem_singleton.mp new
        have stored := gathers.stored standing summarizing stands
        have entry : state.store.data pod = some file := by
          simpa [Reading, access] using gathers.current stands
        have bytes : state.store.content file = setting.body pod := by
          simpa [Stored, LocalStore.State.view, entry] using stored
        have succeeds : succeeds = true := calm
        rw [if_pos succeeds, bytes] at read
        rw [read]
        rfl

theorem Gathers.keep (gathers : Gathers roster state)
    (stepped : step setting state label = some next) (calm : healthy roster state label = true)
    (standing : Standing roster state) (summarizing : Summarizing setting state) :
    Gathers roster next := by
  have transition := step_transition stepped
  cases transition with
  | get | cancel | crash => cases calm
  | post ready unused =>
      exact gathers.congr standing.valid (.post ready unused) rfl rfl
  | receive posting found answered =>
      exact gathers.congr standing.valid (.receive posting found answered) rfl rfl
  | lose => exact gathers.congr standing.valid .lose rfl rfl
  | attempt found move =>
      obtain ⟨summary, -, accesses⟩ := move.summary
      exact gathers.congr standing.valid (.attempt found move) summary accesses
  | summary move => exact move.gathers rfl calm standing summarizing gathers

end Gathering

/-! Some step is open until everything is delivered. -/

/-- Every runner has exited without an error, and the summary is made of all their reports. -/
structure Delivered {setting : Setting} (roster : Roster setting) (publishers : List Publisher)
    (state : State) : Prop where
  exited : ∀ pod ∈ roster.all, state.clients pod = .exited 0
  published : ∃ report, state.summary.phase = .ready report ∧
    Direct setting.wire publishers report

/-- A step without failures that is more than a copy of nothing. -/
def Advancing {setting : Setting} (roster : Roster setting) (state : State) (label : Label) : Prop :=
  healthy roster state label = true ∧ label.copies = false

/-- Something moves without a failure. -/
def Moves {setting : Setting} (roster : Roster setting) (state : State) : Prop :=
  ∃ label next, healthy roster state label = true ∧ step setting state label = some next ∧
    next ≠ state

section Moving

variable {setting : Setting} {roster : Roster setting} {state : State}

theorem admitsCalls_advancing : AdmitsCalls (Advancing roster state) :=
  ⟨fun sound => ⟨by simp [healthy, sound], rfl⟩, fun sound => ⟨by simp [healthy, sound], rfl⟩⟩

theorem moves_of_open (standing : Standing roster state)
    (opens : Open setting state (Advancing roster state)) : Moves roster state := by
  obtain ⟨label, ⟨calm, silent⟩, enabled⟩ := opens
  obtain ⟨next, stepped⟩ := Option.isSome_iff_exists.mp enabled
  refine ⟨label, next, calm, stepped, fun same => ?_⟩
  rcases step_delivers stepped calm standing with ⟨-, copies⟩ | less
  · rw [silent] at copies
    cases copies
  · rw [same] at less
    exact Nat.lt_irrefl _ less

theorem exists_fresh (valid : LocalStore.Valid state.store) :
    ∃ name, name ∉ state.store.names ∧ state.store.ingest name = none := by
  have infinite : Infinite String :=
    Infinite.of_injective (fun number : Nat => "report" ++ "-" ++ toString number)
      fun _ _ same => (Decimal.dash_inj same).2
  obtain ⟨name, fresh⟩ := Infinite.exists_notMem_finset state.store.names.toFinset
  rw [List.mem_toFinset] at fresh
  refine ⟨name, fresh, ?_⟩
  cases present : state.store.ingest name with
  | none => rfl
  | some file =>
      obtain ⟨id, writer, found, rfl, -⟩ := valid.identified.ingestOwned present
      exact absurd (valid.identified.named found) fresh

theorem moves_of_attempt {id : AttemptId} {attempt : Attempt} (standing : Standing roster state)
    (found : state.attempts id = some attempt) (unfinished : attempt.stage ≠ .done)
    (alive : attempt.stage ≠ .dead) : Moves roster state := by
  have attends := standing.staffed.attends found
  cases stands : attempt.stage with
  | done => exact absurd stands unfinished
  | dead => exact absurd stands alive
  | checking groups =>
      cases groups with
      | nil =>
          refine moves_of_open standing ⟨.check id none, ⟨?_, rfl⟩, ?_⟩
          · simp [healthy, found, stands, Stage.asks]
          · simp [step, Label.attempt, found, stepAttempt, stands]
      | cons group rest =>
          refine moves_of_open standing ⟨.check id (some (roster.pods group)), ⟨?_, rfl⟩, ?_⟩
          · simp [healthy, found, stands, Stage.asks]
          · simp only [step, Label.attempt, found, stepAttempt, stands, Option.bind_some]
            split <;> rfl
  | opening =>
      rw [stands] at attends
      obtain ⟨name, fresh, unused⟩ := exists_fresh standing.valid
      refine moves_of_open standing ⟨.openWriter id (some name), ⟨decide_eq_true fresh, rfl⟩, ?_⟩
      simp [step, Label.attempt, found, stepAttempt, stands, LocalStore.step, LocalStore.Label.actor,
        LocalStore.openWriter, show state.store.writers id = none from attends, unused]
  | copying rest =>
      rw [stands] at attends
      obtain ⟨writer, opened, idle⟩ := attends
      cases rest with
      | nil =>
          refine moves_of_open standing ⟨.bodyEnds id, ⟨rfl, rfl⟩, ?_⟩
          simp [step, Label.attempt, found, stepAttempt, stands, LocalStore.step,
            LocalStore.Label.actor, opened, LocalStore.stepWriter, idle]
      | cons byte rest =>
          have called : (LocalStore.step state.store (.write id ((byte :: rest).take
              (byte :: rest).length) (byte :: rest).length)).isSome = true := by
            simp only [LocalStore.step, LocalStore.Label.actor, opened, Option.bind_some,
              LocalStore.stepWriter, LocalStore.write, idle]
            split <;> rfl
          have enabled : (step setting state
              (.copy id (byte :: rest).length (byte :: rest).length)).isSome = true := by
            simpa [step, Label.attempt, found, stepAttempt, stands] using called
          obtain ⟨next, stepped⟩ := Option.isSome_iff_exists.mp enabled
          refine ⟨.copy id (byte :: rest).length (byte :: rest).length, next,
            decide_eq_true (Nat.le_refl _), stepped, fun same => ?_⟩
          have copied := congrFun (copy_of_step found stands stepped (Nat.le_refl _)) id
          rw [same, found, Function.update_self] at copied
          have shorter := congrArg Attempt.stage (Option.some.inj copied)
          simp [stands] at shorter
  | returned result =>
      refine moves_of_open standing ⟨.answer id, ⟨rfl, rfl⟩, ?_⟩
      simp [step, Label.attempt, found, stepAttempt, stands]
  | committing =>
      exact moves_of_open standing
        (open_of_writing standing.staffed admitsCalls_advancing found (.inl stands))
  | closing =>
      exact moves_of_open standing
        (open_of_writing standing.staffed admitsCalls_advancing found (.inr stands))

theorem moves_of_client {pod : String} (standing : Standing roster state) (runner : pod ∈ roster.all)
    (waiting : state.clients pod ≠ .exited 0) : Moves roster state := by
  cases client : state.clients pod with
  | exited code =>
      rw [standing.hosted.welcome.clients runner client] at client
      exact absurd client waiting
  | ready =>
      obtain ⟨ids, pods, within⟩ := standing.populated
      obtain ⟨id, fresh⟩ := Infinite.exists_notMem_finset ids
      have unused : state.attempts id = none := by
        cases found : state.attempts id with
        | none => rfl
        | some attempt => exact absurd (within.attempts found) fresh
      refine moves_of_open standing ⟨.post pod id, ⟨decide_eq_true runner, rfl⟩, ?_⟩
      simp [step, stepClient, client, unused]
  | posting id =>
      obtain ⟨attempt, found, -⟩ := standing.uploading.posting client
      by_cases alive : attempt.stage ≠ .done ∧ attempt.stage ≠ .dead
      · exact moves_of_attempt standing found alive.1 alive.2
      · cases answered : attempt.status with
        | some code =>
            refine moves_of_open standing ⟨.receive pod, ⟨rfl, rfl⟩, ?_⟩
            simp [step, stepClient, client, found, answered]
        | none =>
            have dead : attempt.stage = .dead := by
              by_contra living
              have ended : attempt.stage = .done := by
                by_contra unfinished
                exact alive ⟨unfinished, living⟩
              have status := standing.staffed.answered id attempt found living
              simp [answered, ended] at status
            refine moves_of_open standing ⟨.lose pod, ⟨?_, rfl⟩, ?_⟩
            · simp [healthy, client, found, dead, answered]
            · simp [step, stepClient, client]

theorem moves_of_summary (standing : Standing roster state)
    (exited : ∀ pod ∈ roster.all, state.clients pod = .exited 0)
    (unpublished : ∀ report, state.summary.phase ≠ .ready report) : Moves roster state := by
  have reader := standing.staffed.reader
  cases phase : state.summary.phase with
  | ready report => exact absurd phase (unpublished report)
  | waiting running =>
      cases running with
      | nil =>
          exact moves_of_open standing
            ⟨.summarize, ⟨rfl, rfl⟩, by simp [step, stepSummary, phase]⟩
      | cons group rest =>
          refine moves_of_open standing
            ⟨.finish group, ⟨decide_eq_true fun pod member => ?_, rfl⟩,
              by simp [step, stepSummary, phase]⟩
          have known := standing.hosted.waits.running phase List.mem_cons_self
          exact exited pod (Roster.mem_all.mpr ⟨group, known, member⟩)
  | merging pods groups =>
      rw [phase] at reader
      cases pods with
      | cons pod rest =>
          refine moves_of_open standing ⟨.openReader, ⟨rfl, rfl⟩, ?_⟩
          simp [step, stepSummary, phase, LocalStore.step, LocalStore.Label.actor,
            show state.store.accesses 0 = .idle from reader, LocalStore.stepAccess]
      | nil =>
          cases groups with
          | nil =>
              exact moves_of_open standing
                ⟨.publish .stored, ⟨rfl, rfl⟩, by simp [step, stepSummary, phase]⟩
          | cons group rest =>
              refine moves_of_open standing
                ⟨.list (some (roster.pods group)), ⟨?_, rfl⟩, by simp [step, stepSummary, phase]⟩
              simp [healthy, phase, Phase.lists]
  | reading =>
      exact moves_of_open standing
        (open_of_reading standing.staffed admitsCalls_advancing phase ⟨rfl, rfl⟩)

end Moving

/-- Whatever has happened while the server waited for its groups, or before it was started
again: once failures stop, every runner delivers its report and exits without an error, and
the summary that is published is the one computed directly from all of them. -/
theorem reports_delivered {setting : Setting} {roster : Roster setting}
    {publishers : List Publisher} {trace : List Label} {state : State} {running : List String}
    (pods : publishers.map (·.pod) = roster.all)
    (bodies : ∀ publisher ∈ publishers,
      setting.body publisher.pod = publisher.body setting.wire)
    (faithful : ∀ publisher ∈ publishers, publisher.Faithful setting.wire)
    (run : (system setting).RunWith (Faithful roster) trace state)
    (waiting : state.summary.phase = .waiting running) :
    ((system setting).during (healthy roster)).Inevitable (fun _ => True)
      (Delivered roster publishers) state := by
  refine TransitionSystem.inevitable_of_rank (deliveryRank roster)
    (fun state => (∃ trace, (system setting).RunWith (Faithful roster) trace state) ∧
      Gathers roster state) ?_ ?_ ?_ ⟨⟨trace, run⟩, gathers_waiting (standing_of_run run) waiting⟩
  · intro state next label stepped kept
    obtain ⟨⟨trace, run⟩, gathers⟩ := kept
    obtain ⟨calm, moved⟩ := TransitionSystem.during_step_eq_some.mp stepped
    have regular : Faithful roster state label :=
      ⟨⟨healthy_fresh calm, gathers.distinct calm⟩, healthy_exact calm⟩
    exact ⟨⟨_, run.step regular moved⟩, gathers.keep moved calm (standing_of_run run)
      (summarizing_of_run (Faithful.run run))⟩
  · intro state next label stepped kept
    obtain ⟨⟨trace, run⟩, -⟩ := kept
    obtain ⟨calm, moved⟩ := TransitionSystem.during_step_eq_some.mp stepped
    exact (step_delivers moved calm (standing_of_run run)).imp_left And.left
  · intro state kept unfinished
    obtain ⟨⟨trace, run⟩, gathers⟩ := kept
    have standing := standing_of_run run
    have moves : Moves roster state := by
      by_cases exited : ∀ pod ∈ roster.all, state.clients pod = .exited 0
      · refine moves_of_summary standing exited fun report ready => unfinished ⟨exited, ?_⟩
        refine ⟨report, ready, (summarizing_of_run (Faithful.run run)).direct ready ?_
          gathers.whole bodies faithful⟩
        have listing := gathers.listing
        rw [ready] at listing
        rw [pods, ← listing]
        exact (List.append_nil _).symm
      · simp only [not_forall] at exited
        obtain ⟨pod, runner, waits⟩ := exited
        exact moves_of_client standing runner waits
    obtain ⟨label, next, calm, moved, changed⟩ := moves
    exact ⟨label, next, trivial, TransitionSystem.during_step_eq_some.mpr ⟨calm, moved⟩, changed⟩

namespace Sample

def publishers : List Publisher := [Summary.Sample.first, Summary.Sample.second]

/-- Two groups of one runner each, which upload what two publishers wrote. -/
def published : Setting where
  groups := ["first", "second"]
  body := fun pod =>
    if pod = "first" then Summary.Sample.first.body Summary.Sample.wire
    else Summary.Sample.second.body Summary.Sample.wire
  wire := Summary.Sample.wire

def roster : Roster published where
  pods := fun group => [group]
  named := by
    intro group pod member
    cases List.mem_singleton.mp member
    exact List.isPrefixOf_iff_prefix.mpr (List.prefix_refl _)
  apart := by decide

/-- The process dies while one runner uploads, and another has not heard of it. -/
def halted : List Label :=
  [.post "first" 0, .check 0 (some ["first"]), .openWriter 0 (some "1"), .post "second" 1,
    .check 1 none, .crash, .lose "first"]

end Sample

theorem reports_delivered_halted :
    ∃ state, (system Sample.published).RunWith (Faithful Sample.roster) Sample.halted state ∧
      state.clients "second" = .posting 1 ∧
      ((system Sample.published).during (healthy Sample.roster)).Inevitable (fun _ => True)
        (Delivered Sample.roster Sample.publishers) state := by
  obtain ⟨state, executed, posting, waiting⟩ :
      ∃ state ∈ (system Sample.published).executeWith (Faithful Sample.roster)
          (start Sample.published) Sample.halted,
        state.clients "second" = .posting 1 ∧
        state.summary.phase = .waiting ["first", "second"] := by decide +kernel
  have run := TransitionSystem.runWith_of_executeWith rfl executed
  refine ⟨state, run, posting, reports_delivered rfl ?_ ?_ run waiting⟩
  · intro publisher member
    rcases List.mem_pair.mp member with same | same
    all_goals
      rw [same]
      rfl
  · intro publisher member
    rcases List.mem_pair.mp member with same | same
    · rw [same]
      exact Summary.Sample.faithful_first
    · rw [same]
      exact Summary.Sample.faithful_second

end Kperf.Runner.Server
