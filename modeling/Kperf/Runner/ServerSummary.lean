import Kperf.Runner.ServerUpload
import Kperf.Runner.SummaryAggregation

/-! The published summary against the accepted reports. The summary finds its
runners by listing pods and skips whatever fails on the way, so a report can be
missing from it; what it does read is merged once. -/

set_option autoImplicit false

namespace Kperf.Runner.Server

open Types Summary

/-- The summary's reader is on its way to the entry of the pod. -/
def Reading (store : LocalStore.State) (pod : String) : Prop :=
  match store.accesses 0 with
  | .readLock ref | .readStat ref | .readOpen ref => ref = pod
  | .readUnlock _ (some file) | .reading file => store.data pod = some file
  | _ => False

theorem Reading.congr {store next : LocalStore.State} {pod : String} (reading : Reading store pod)
    (same : next.accesses 0 = store.accesses 0)
    (kept : ∀ {file}, store.data pod = some file → next.data pod = some file) :
    Reading next pod := by
  unfold Reading at reading ⊢
  rw [same]
  split at reading
  · exact reading
  · exact reading
  · exact reading
  · exact kept reading
  · exact kept reading
  · cases reading

theorem Reading.call {store next : LocalStore.State} {pod : String} {file : LocalStore.FileId}
    {label : LocalStore.Label} (reading : Reading store pod)
    (present : store.data pod = some file) (reads : isReaderCall label = true)
    (sound : failing label = false) (called : LocalStore.step store label = some next) :
    Reading next pod ∧ next.accesses 0 ≠ .idle := by
  have actor : label.actor = some (.access 0) := by
    cases label with
    | lockAccess id | statAccess id | openAccess id | unlockAccess id =>
        cases eq_of_beq reads
        rfl
    | _ => cases reads
  cases LocalStore.step_transition called with
  | openWriter | crash => cases actor
  | writer _ caller _ =>
      rw [actor] at caller
      cases caller
  | access caller move =>
      rw [actor] at caller
      cases caller
      unfold Reading at reading
      generalize store.accesses 0 = access at move reading
      cases move with
      | openReader | closeReader | delete | deleteRemove | deleteRemoveFails => cases reads
      | deleteLock | deletePresent | deleteAbsent | deleteStatFails | deleteUnlock
      | readUnlockFailed => cases reading
      | readLock =>
          subst reading
          simp [Reading]
      | readPresent =>
          subst reading
          simp [Reading]
      | readFails missing =>
          subst reading
          rcases missing with absent | failed
          · rw [present] at absent
            cases absent
          · subst failed
            cases sound
      | @readOpen ref succeeds =>
          subst reading
          cases succeeds with
          | false => cases sound
          | true => simp [Reading, present]
      | readUnlock =>
          simp only [Reading, LocalStore.setAccess_accesses, if_true]
          exact ⟨reading, by simp⟩

def Phase.pending : Phase → List String
  | .merging pods _ => pods
  | .reading pod _ _ pods _ => pod :: pods
  | _ => []

/-- What holds of the summary under way. -/
structure Summarizing (setting : Setting) (state : State) : Prop where
  listed : state.summary.listed =
    state.summary.reads.map (·.pod) ++ state.summary.phase.pending
  distinct : state.summary.listed.Nodup
  sums : state.summary.tally.Sums setting.wire (state.summary.reads.filterMap (·.report))
  reads : ∀ read ∈ state.summary.reads, read.answered = true → read.faulted = false →
    read.report = unmarshalReport setting.wire (setting.body read.pod)
  current : ∀ {pod pods groups}, state.summary.phase = .reading pod true false pods groups →
    Stored setting state pod ∧ Reading state.store pod
  ready : ∀ {report}, state.summary.phase = .ready report →
    ∃ order, report = state.summary.tally.report setting.wire order
  served : ∀ answer ∈ state.served, answer.1 = 200 →
    ∃ report, state.summary.phase = .ready report ∧ answer.2 = some report

theorem summarizing_begin {setting : Setting} {state : State}
    (summary : state.summary = .start setting) (served : state.served = []) :
    Summarizing setting state := by
  rw [SummaryState.start] at summary
  constructor <;> simp [summary, served, Phase.pending, Tally.sums_empty]

theorem Transition.dataKept {setting : Setting} {state next : State} {label : Label}
    (transition : Transition setting state label next) (valid : LocalStore.Valid state.store)
    {ref : String} {file : LocalStore.FileId} (present : state.store.data ref = some file) :
    next.store.data ref = some file := by
  rcases transition.storeEffect with same | ⟨action, called, -, keeps⟩
  · rw [same]
    exact present
  · exact valid.data_kept called keeps present

theorem Summarizing.congr {setting : Setting} {state next : State} {label : Label}
    (summarizing : Summarizing setting state) (valid : LocalStore.Valid state.store)
    (transition : Transition setting state label next)
    (summary : next.summary = state.summary) (served : next.served = state.served)
    (accesses : next.store.accesses = state.store.accesses) : Summarizing setting next where
  listed := by rw [summary]; exact summarizing.listed
  distinct := by rw [summary]; exact summarizing.distinct
  sums := by rw [summary]; exact summarizing.sums
  reads := by rw [summary]; exact summarizing.reads
  current := by
    intro pod pods groups phase
    rw [summary] at phase
    obtain ⟨stored, reading⟩ := summarizing.current phase
    exact ⟨(transition.grows valid).stored stored,
      reading.congr (congrFun accesses 0) (transition.dataKept valid)⟩
  ready := by rw [summary]; exact summarizing.ready
  served := by rw [summary, served]; exact summarizing.served

theorem AttemptMove.summary {setting : Setting} {state next : State} {id : AttemptId}
    {attempt : Attempt} {label : Label} (move : AttemptMove setting state id attempt label next) :
    next.summary = state.summary ∧ next.served = state.served ∧
      next.store.accesses = state.store.accesses := by
  cases move with
  | refuse | checkFails | accept | pass | openFails | cut | answer => exact ⟨rfl, rfl, rfl⟩
  | opened _ called => exact ⟨rfl, rfl, (LocalStore.step_writer_frame called (.inr ⟨_, rfl⟩)).2⟩
  | copied _ called | copiedShort _ called | commit _ called =>
      exact ⟨rfl, rfl, (LocalStore.step_writer_frame called (.inl rfl)).2⟩
  | work actor _ _ called =>
      exact ⟨rfl, rfl, (LocalStore.step_writer_frame called (.inl actor)).2⟩

/-- Lists show every pod once: an object is listed once, and groups with
different names select different pods. -/
def DistinctPods (state : State) : Label → Prop
  | .list (some pods) => (state.summary.listed ++ pods).Nodup
  | _ => True

instance (state : State) (label : Label) : Decidable (DistinctPods state label) :=
  match label with
  | .list (some pods) => inferInstanceAs (Decidable (state.summary.listed ++ pods).Nodup)
  | .list none => .isTrue trivial
  | .post _ _ | .check _ _ | .openWriter _ _ | .copy _ _ _ | .bodyEnds _ | .bodyFails _ | .work _
  | .answer _ | .receive _ | .lose _ | .finish _ | .summarize | .openReader | .readerWork _
  | .readAll _ _ | .publish _ | .get _ | .cancel _ | .crash => .isTrue trivial

theorem Summarizing.finishRead {setting : Setting} {state next : State} {read : Read}
    {tally : Tally} {pods groups : List String} {answered faulted : Bool}
    (summarizing : Summarizing setting state)
    (phase : state.summary.phase = .reading read.pod answered faulted pods groups)
    (summary : next.summary = state.summary.finishRead read tally pods groups)
    (served : next.served = state.served)
    (sums : tally.Sums setting.wire
      (state.summary.reads.filterMap (·.report) ++ read.report.toList))
    (complete : read.answered = true → read.faulted = false →
      read.report = unmarshalReport setting.wire (setting.body read.pod)) :
    Summarizing setting next where
  listed := by
    have listed := summarizing.listed
    simp only [phase, Phase.pending] at listed
    simp [summary, SummaryState.finishRead, Phase.pending, listed]
  distinct := by
    rw [summary]
    exact summarizing.distinct
  sums := by
    rw [summary]
    simp only [SummaryState.finishRead, List.filterMap_append]
    cases merged : read.report with
    | none => simpa [merged] using sums
    | some report => simpa [merged] using sums
  reads := by
    rw [summary]
    intro other member
    rcases List.mem_append.mp member with old | new
    · exact summarizing.reads other old
    · cases List.mem_singleton.mp new
      exact complete
  current := by simp [summary, SummaryState.finishRead]
  ready := by simp [summary, SummaryState.finishRead]
  served := by
    rw [summary, served]
    intro answer member success
    obtain ⟨report, ready, -⟩ := summarizing.served answer member success
    rw [phase] at ready
    cases ready

theorem Summarizing.advance {setting : Setting} {state next : State} {phase : Phase}
    {pods : List String} (summarizing : Summarizing setting state)
    (summary : next.summary = { state.summary with
      phase := phase
      listed := state.summary.listed ++ pods })
    (pending : phase.pending = state.summary.phase.pending ++ pods)
    (distinct : (state.summary.listed ++ pods).Nodup)
    (current : ∀ {pod pods groups}, phase = .reading pod true false pods groups →
      Stored setting next pod ∧ Reading next.store pod)
    (ready : ∀ {report}, phase = .ready report →
      ∃ order, report = state.summary.tally.report setting.wire order)
    (before : ∀ {report}, state.summary.phase ≠ .ready report)
    (served : next.served = state.served) : Summarizing setting next where
  listed := by
    rw [summary]
    simp only [pending, summarizing.listed, List.append_assoc]
  distinct := by
    rw [summary]
    exact distinct
  sums := by
    rw [summary]
    exact summarizing.sums
  reads := by
    rw [summary]
    exact summarizing.reads
  current := by
    rw [summary]
    exact current
  ready := by
    rw [summary]
    exact ready
  served := by
    rw [served]
    intro answer member success
    obtain ⟨report, standing, -⟩ := summarizing.served answer member success
    exact absurd standing before

def Created (setting : Setting) (state : State) : Prop :=
  ∀ pod ∈ state.created, Stored setting state pod

theorem Created.keep {setting : Setting} {state next : State} {label : Label}
    (created : Created setting state) (uploading : Uploading setting state)
    (valid : LocalStore.Valid state.store) (transition : Transition setting state label next) :
    Created setting next := by
  have grows := transition.grows valid
  intro pod member
  by_cases old : pod ∈ state.created
  · exact grows.stored (created pod old)
  · cases transition with
    | post | receive | lose | get | cancel | crash => exact absurd member old
    | summary move =>
        generalize state.summary.phase = phase at move
        cases move <;> exact absurd member old
    | attempt found move =>
        cases move with
        | @answer result stage =>
            cases result with
            | ok =>
                rcases List.mem_append.mp member with before | new
                · exact absurd before old
                · cases List.mem_singleton.mp new
                  exact grows.stored ((uploading.serves found).returned stage (by decide))
            | _ => exact absurd member old
        | _ => exact absurd member old

theorem created_of_run {setting : Setting} {trace : List Label} {state : State}
    (run : (system setting).RunWith FreshName trace state) : Created setting state := by
  have established {trace : List Label} {state : State}
      (run : (system setting).RunWith FreshName trace state) :
      LocalStore.Valid state.store ∧ Uploading setting state :=
    ⟨store_valid run, uploading_of_run run⟩
  refine run.invariant_using established ?_ ?_
  · intro state initial pod member
    rw [initial] at member
    cases member
  · intro state next label _ stepped known _ created
    exact created.keep known.2 known.1 (step_transition stepped)

theorem SummaryMove.summarizing {setting : Setting} {state next : State} {phase : Phase}
    {label : Label} (move : SummaryMove setting state phase label next)
    (standing : state.summary.phase = phase) (grows : Grows state next)
    (summarizing : Summarizing setting state) (created : Created setting state)
    (distinct : DistinctPods state label) : Summarizing setting next := by
  have before {report : RunnerMetricReport} : state.summary.phase ≠ .ready report := by
    rw [standing]
    cases move <;> simp
  have unlisted : (state.summary.listed ++ []).Nodup := by
    rw [List.append_nil]
    exact summarizing.distinct
  have same : state.summary.listed = state.summary.listed ++ [] := (List.append_nil _).symm
  cases move with
  | finish | summarize | listFails =>
      exact summarizing.advance (by rw [← same]) (by rw [standing]; rfl) unlisted (by simp)
        (by simp) before rfl
  | list =>
      exact summarizing.advance rfl (by rw [standing]; rfl) distinct (by simp) (by simp) before rfl
  | publish =>
      refine summarizing.advance (by rw [← same]) (by rw [standing]; rfl) unlisted (by simp) ?_
        before rfl
      intro report published
      cases published
      exact ⟨_, rfl⟩
  | @openReader pod pods groups store called =>
      refine summarizing.advance (by rw [← same]) (by rw [standing]; simp [Phase.pending]) unlisted
        ?_ (by simp) before rfl
      intro other pods groups reading
      simp only [Phase.reading.injEq, decide_eq_true_eq] at reading
      obtain ⟨rfl, answered, -⟩ := reading
      refine ⟨grows.stored (created pod answered), ?_⟩
      have begun : store.accesses 0 = .readLock pod := by
        cases LocalStore.step_transition called with
        | writer _ actor _ => cases actor
        | access actor move =>
            cases actor
            generalize state.store.accesses 0 = access at move
            cases move
            simp
      simp [Reading, begun]
  | @call pod answered faulted pods groups call store reads called goesOn =>
      refine summarizing.advance (by rw [← same]) (by rw [standing]; simp [Phase.pending]) unlisted
        ?_ (by simp) before rfl
      intro other rest left reading
      simp only [Phase.reading.injEq, Bool.or_eq_false_iff] at reading
      obtain ⟨rfl, rfl, ⟨rfl, sound⟩, -⟩ := reading
      obtain ⟨stored, reading⟩ := summarizing.current standing
      obtain ⟨file, present, -⟩ := Option.map_eq_some_iff.mp stored
      exact ⟨grows.stored stored, (reading.call present reads sound called).1⟩
  | @openFails pod answered faulted pods groups store called idle =>
      refine summarizing.finishRead standing rfl rfl ?_ ?_
      · rw [Option.toList_none, List.append_nil]
        exact summarizing.sums
      · intro answered sound
        simp only at answered sound
        subst answered sound
        obtain ⟨stored, reading⟩ := summarizing.current standing
        obtain ⟨file, present, -⟩ := Option.map_eq_some_iff.mp stored
        exact absurd idle (reading.call present rfl rfl called).2
  | @readAll pod answered faulted pods groups file succeeds orders store data access called read =>
      refine summarizing.finishRead standing rfl rfl (summarizing.sums.readRunner orders data) ?_
      intro answered sound
      simp only [Bool.or_eq_false_iff, Bool.not_eq_false'] at answered sound
      obtain ⟨rfl, rfl⟩ := sound
      subst answered
      obtain ⟨stored, reading⟩ := summarizing.current standing
      have entry : state.store.data pod = some file := by
        simpa [Reading, access] using reading
      have whole : state.store.content file = setting.body pod := by
        simpa [Stored, LocalStore.State.view, entry] using stored
      rw [if_pos rfl, whole] at read
      rw [read]
      rfl

theorem Summarizing.serve {setting : Setting} {state : State}
    {answer : Nat × Option RunnerMetricReport} (summarizing : Summarizing setting state)
    (right : answer.1 = 200 →
      ∃ report, state.summary.phase = .ready report ∧ answer.2 = some report) :
    Summarizing setting { state with served := state.served ++ [answer] } := by
  refine { summarizing with served := ?_ }
  intro other member success
  rcases List.mem_append.mp member with old | new
  · exact summarizing.served other old success
  · cases List.mem_singleton.mp new
    exact right success

theorem Summarizing.keep {setting : Setting} {state next : State} {label : Label}
    (summarizing : Summarizing setting state) (created : Created setting state)
    (valid : LocalStore.Valid state.store) (distinct : DistinctPods state label)
    (transition : Transition setting state label next) : Summarizing setting next := by
  have grows := transition.grows valid
  cases transition with
  | post standing unused => exact summarizing.congr valid (.post standing unused) rfl rfl rfl
  | receive posting found answered =>
      exact summarizing.congr valid (.receive posting found answered) rfl rfl rfl
  | lose => exact summarizing.congr valid .lose rfl rfl rfl
  | attempt found move =>
      obtain ⟨summary, served, accesses⟩ := move.summary
      exact summarizing.congr valid (.attempt found move) summary served accesses
  | summary move => exact move.summarizing rfl grows summarizing created distinct
  | @get wait answer answered =>
      refine summarizing.serve fun success => ?_
      unfold getRunnerGroupsSummary at answered
      split at answered
      · cases answered
        exact ⟨_, ‹_›, rfl⟩
      · split_ifs at answered
        cases answered
        cases success
  | @cancel wait answer answered =>
      refine summarizing.serve fun success => ?_
      unfold cancelRunnerGroupsSummary at answered
      split at answered
      · cases answered
        cases success
      · split_ifs at answered
        cases answered
        cases success
  | crash => exact summarizing_begin rfl rfl

def Regular (state : State) (label : Label) : Prop :=
  FreshName state label ∧ DistinctPods state label

instance (state : State) (label : Label) : Decidable (Regular state label) :=
  inferInstanceAs (Decidable (FreshName state label ∧ DistinctPods state label))

theorem summarizing_of_run {setting : Setting} {trace : List Label} {state : State}
    (run : (system setting).RunWith Regular trace state) : Summarizing setting state := by
  have established {trace : List Label} {state : State}
      (run : (system setting).RunWith Regular trace state) :
      LocalStore.Valid state.store ∧ Created setting state := by
    have fresh := run.mono fun _ _ (regular : Regular _ _) => regular.1
    exact ⟨store_valid fresh, created_of_run fresh⟩
  refine run.invariant_using established ?_ ?_
  · intro state initial
    rw [initial]
    exact summarizing_begin rfl rfl
  · intro state next label regular stepped known _ summarizing
    exact summarizing.keep known.2 known.1 regular.2 (step_transition stepped)

def State.mergedFor (state : State) (pod : String) : List RunnerMetricReport :=
  (state.summary.reads.filter fun read => read.pod = pod).filterMap (·.report)

/-- The summary holds every report that was answered with 201. -/
def Complete (state : State) : Prop :=
  ∀ pod ∈ state.created, (state.mergedFor pod).length = 1

/-- What the published summary is made of. -/
structure Published (setting : Setting) (state : State) (report : RunnerMetricReport) :
    Prop where
  sums : ∃ (tally : Tally) (order : RangeOrder),
    tally.Sums setting.wire (state.summary.reads.filterMap (·.report)) ∧
    report = tally.report setting.wire order
  reads : state.summary.reads.map (·.pod) = state.summary.listed
  /-- a report answered with 201 before its read began is merged exactly once
  when no call of the read failed and the bytes decode -/
  once : ∀ {read merged}, read ∈ state.summary.reads → read.answered = true →
    read.faulted = false → unmarshalReport setting.wire (setting.body read.pod) = some merged →
    state.mergedFor read.pod = [merged]
  served : ∀ answer ∈ state.served, answer.1 = 200 → answer.2 = some report

theorem filter_pod_eq {reads : List Read} (distinct : (reads.map (·.pod)).Nodup) {read : Read}
    (member : read ∈ reads) : reads.filter (fun other => other.pod = read.pod) = [read] := by
  induction reads with
  | nil => cases member
  | cons head rest ih =>
      obtain ⟨absent, distinct⟩ := List.nodup_cons.mp distinct
      rcases List.mem_cons.mp member with same | later
      · subst head
        have none : rest.filter (fun other => other.pod = read.pod) = [] := by
          rw [List.filter_eq_nil_iff]
          intro other present clash
          exact absent (List.mem_map.mpr ⟨other, present, by simpa using clash⟩)
        rw [List.filter_cons_of_pos (by simp), none]
      · have different : head.pod ≠ read.pod := by
          intro clash
          exact absent (List.mem_map.mpr ⟨read, later, clash.symm⟩)
        rw [List.filter_cons_of_neg (by simpa using different), ih distinct later]

/-- Once `readyCh` is closed, the report served is made of the reads of the
listed pods, each accepted report that could be read is in it once, and every
answer carries it. -/
theorem summary_published {setting : Setting} {trace : List Label} {state : State}
    {report : RunnerMetricReport} (run : (system setting).RunWith Regular trace state)
    (ready : state.summary.phase = .ready report) : Published setting state report := by
  have summarizing := summarizing_of_run run
  have listed := summarizing.listed
  simp only [ready, Phase.pending, List.append_nil] at listed
  refine ⟨?_, listed.symm, ?_, ?_⟩
  · obtain ⟨order, published⟩ := summarizing.ready ready
    exact ⟨_, order, summarizing.sums, published⟩
  · intro read merged member answered sound decoded
    have distinct := summarizing.distinct
    rw [listed] at distinct
    have report := summarizing.reads read member answered sound
    rw [State.mergedFor, filter_pod_eq distinct member, List.filterMap_cons, report, decoded]
    rfl
  · intro answer member success
    obtain ⟨other, standing, carried⟩ := summarizing.served answer member success
    rw [ready] at standing
    cases standing
    exact carried

/-- The report of a summary that read every report as it was uploaded. -/
theorem Summarizing.direct {setting : Setting} {state : State} {report : RunnerMetricReport}
    {publishers : List Publisher} (summarizing : Summarizing setting state)
    (ready : state.summary.phase = .ready report)
    (listed : state.summary.listed = publishers.map (·.pod))
    (whole : ∀ read ∈ state.summary.reads,
      read.report = unmarshalReport setting.wire (setting.body read.pod))
    (bodies : ∀ publisher ∈ publishers,
      setting.body publisher.pod = publisher.body setting.wire)
    (faithful : ∀ publisher ∈ publishers, publisher.Faithful setting.wire) :
    Direct setting.wire publishers report := by
  have pods := summarizing.listed
  simp only [ready, Phase.pending, List.append_nil] at pods
  have merged : state.summary.reads.filterMap (·.report) =
      publishers.map (·.report setting.wire) := by
    calc state.summary.reads.filterMap (·.report)
      _ = state.summary.reads.filterMap
            (fun read => unmarshalReport setting.wire (setting.body read.pod)) :=
          List.filterMap_congr whole
      _ = (publishers.map (·.pod)).filterMap
            (fun pod => unmarshalReport setting.wire (setting.body pod)) := by
          rw [← listed, pods, List.filterMap_map]
          rfl
      _ = publishers.filterMap (fun publisher => some (publisher.report setting.wire)) := by
          rw [List.filterMap_map]
          refine List.filterMap_congr fun publisher member => ?_
          rw [Function.comp_apply, bodies publisher member]
          exact Publisher.unmarshal_body (faithful publisher member)
      _ = publishers.map (·.report setting.wire) := by rw [List.filterMap_eq_map']
  obtain ⟨order, rfl⟩ := summarizing.ready ready
  have sums := summarizing.sums
  rw [merged] at sums
  exact sums.direct faithful order

def Phase.report : Phase → Option RunnerMetricReport
  | .ready report => some report
  | _ => none

theorem Phase.ready_of_report {phase : Phase} {report : RunnerMetricReport}
    (published : phase.report = some report) : phase = .ready report := by
  cases phase with
  | ready other =>
      cases published
      rfl
  | _ => cases published

namespace Sample

def uploaded : List Label :=
  upload "run-0-a" 0 "1" ++ commits 0 ++
    [.answer 0, .receive "run-0-a", .finish "run-0", .finish "run-1", .summarize]

def summarized : List Label :=
  uploaded ++ [.list (some ["run-0-a"]), .openReader, .readerWork (.lockAccess 0),
    .readerWork (.statAccess 0 true), .readerWork (.openAccess 0 true),
    .readerWork (.unlockAccess 0), .readAll true ⟨.stored, .stored⟩, .list (some []),
    .publish .stored, .get false]

/-- The list call of its group fails. -/
def unlisted : List Label := uploaded ++ [.list none, .list (some []), .publish .stored]

end Sample

theorem summary_published_summarized :
    ∃ state report, (system Sample.setting).RunWith Regular Sample.summarized state ∧
      state.created = ["run-0-a"] ∧ report.totalReceivedBytes = 5 ∧
      Published Sample.setting state report := by
  obtain ⟨state, executed, created, bytes⟩ :
      ∃ state ∈ (system Sample.setting).executeWith Regular (start Sample.setting)
          Sample.summarized,
        state.created = ["run-0-a"] ∧
        state.summary.phase.report.map (·.totalReceivedBytes) = some 5 := by decide +kernel
  obtain ⟨report, published, bytes⟩ := Option.map_eq_some_iff.mp bytes
  have run := TransitionSystem.runWith_of_executeWith rfl executed
  exact ⟨state, report, run, created, bytes,
    summary_published run (Phase.ready_of_report published)⟩

theorem unlisted_not_complete :
    ∃ state report, (system Sample.setting).RunWith Regular Sample.unlisted state ∧
      state.summary.phase = .ready report ∧ ¬ Complete state := by
  obtain ⟨state, executed, created, reads, ready⟩ :
      ∃ state ∈ (system Sample.setting).executeWith Regular (start Sample.setting)
          Sample.unlisted,
        state.created = ["run-0-a"] ∧ state.summary.reads.isEmpty = true ∧
        state.summary.phase.report.isSome = true := by decide +kernel
  obtain ⟨report, published⟩ := Option.isSome_iff_exists.mp ready
  refine ⟨state, report, TransitionSystem.runWith_of_executeWith rfl executed,
    Phase.ready_of_report published, ?_⟩
  intro complete
  have merged := complete "run-0-a" (by rw [created]; exact List.mem_singleton.mpr rfl)
  rw [State.mergedFor, List.isEmpty_iff.mp reads] at merged
  cases merged

end Kperf.Runner.Server
