import Kperf.Contrib.CiliumDataResult
import Kperf.Library.Progress
import Mathlib.Algebra.BigOperators.Group.Finset.Basic

/-! `loadCiliumData` returns. Every step brings it nearer to its end, and nobody
waits for the channel without being woken: by a task, by the close, or by the
context, which a worker that gives up on a resource has cancelled. -/

set_option autoImplicit false

namespace Kperf.Contrib.CiliumData

/-- A step that `loadCiliumData` takes by itself or that `kubectl` answers, and that
changes something. -/
def Label.Driving : Label → Prop
  | .report | .parentDone _ => False
  | _ => True

def State.Exited (state : State) : Party → Prop
  | .producer => state.producer = .exited
  | .worker id => state.workers id = .exited
  | .reporter => state.reporter = .exited

/-- The goroutine stands in its `select`. -/
def State.Waits (state : State) : Party → Prop
  | .producer => ∃ index data, state.producer = .running (.sending index data)
  | .worker id => state.workers id = .running .selecting
  | .reporter => state.reporter = .running ()

/-- The goroutine can take a step of its own. -/
def CanMove (setting : Setting) (state : State) (party : Party) : Prop :=
  ∃ label next, label.party = some party ∧ label.Driving ∧ step setting state label = some next

section Moves

variable {setting : Setting} {state : State} {party : Party}

theorem canMove_of_step (label : Label) {next : State} (own : label.party = some party)
    (driving : label.Driving) (stepped : stepParty setting state label party = some next) :
    CanMove setting state party := by
  refine ⟨label, next, own, driving, ?_⟩
  unfold step
  rw [own]
  exact stepped

/-- Only a `select` makes a goroutine wait, and it ends when the context is done. -/
theorem canMove_of_woken (unfinished : ¬state.Exited party)
    (woken : state.Waits party → state.group.ctxErr.isSome = true) :
    CanMove setting state party := by
  cases party with
  | producer =>
      cases stands : state.producer with
      | exited => exact absurd stands unfinished
      | returned err =>
          exact canMove_of_step (.settle .producer) rfl trivial (by rw [stepParty, stands]; rfl)
      | running point =>
          cases point with
          | generating index =>
              by_cases more : index < setting.resources
              · exact canMove_of_step (.generate "") rfl trivial
                  (by rw [stepParty, stands, stepProducer, if_pos more])
              · exact canMove_of_step .closeTasks rfl trivial
                  (by rw [stepParty, stands, stepProducer, if_neg more])
          | sending index data =>
              obtain ⟨reason, done⟩ := Option.isSome_iff_exists.mp (woken ⟨index, data, stands⟩)
              exact canMove_of_step (.quit .producer) rfl trivial
                (by rw [stepParty, stands, stepProducer, done]; rfl)
          | closingReporter =>
              exact canMove_of_step .closeReporter rfl trivial (by rw [stepParty, stands]; rfl)
  | worker id =>
      cases stands : state.workers id with
      | exited => exact absurd stands unfinished
      | returned err =>
          exact canMove_of_step (.settle (.worker id)) rfl trivial
            (by rw [stepParty, stands]; rfl)
      | running point =>
          cases point with
          | selecting =>
              obtain ⟨reason, done⟩ := Option.isSome_iff_exists.mp (woken stands)
              exact canMove_of_step (.quit (.worker id)) rfl trivial
                (by rw [stepParty, stands, stepWorker, done]; rfl)
          | applying task number =>
              exact canMove_of_step (.apply id none) rfl trivial
                (by rw [stepParty, stands]; rfl)
  | reporter =>
      cases stands : state.reporter with
      | exited => exact absurd stands unfinished
      | returned err =>
          exact canMove_of_step (.settle .reporter) rfl trivial (by rw [stepParty, stands]; rfl)
      | running point =>
          obtain ⟨reason, done⟩ := Option.isSome_iff_exists.mp (woken stands)
          exact canMove_of_step (.quit .reporter) rfl trivial
            (by rw [stepParty, stands, stepReporter, done]; rfl)

theorem receive_canMove {id : WorkerId} (waits : state.Waits (.worker id))
    (ready : state.taskChan.buffer ≠ [] ∨ state.taskChan.closed = true) :
    CanMove setting state (.worker id) := by
  have stands : state.workers id = .running .selecting := waits
  cases buffered : state.taskChan.buffer with
  | nil =>
      have closed := ready.resolve_left fun filled => filled buffered
      have received := Channel.receive_eq_closed.mpr ⟨buffered, closed, rfl⟩
      exact canMove_of_step (.receive id) rfl trivial
        (by rw [stepParty, stands, stepWorker, received])
  | cons task rest =>
      have received := Channel.receive_eq_value.mpr ⟨rest, buffered, rfl⟩
      exact canMove_of_step (.receive id) rfl trivial
        (by rw [stepParty, stands, stepWorker, received])

theorem send_canMove (waits : state.Waits .producer) (opened : state.taskChan.closed = false)
    (room : state.taskChan.buffer.length < setting.capacity) :
    CanMove setting state .producer := by
  obtain ⟨index, data, stands⟩ := waits
  have sent : state.taskChan.send setting.capacity ⟨index, data⟩ = some _ :=
    Channel.send_eq_some.mpr ⟨opened, room, rfl⟩
  exact canMove_of_step .send rfl trivial
    (by rw [stepParty, stands, stepProducer, sent, Option.map_some])

theorem finishReports_canMove (waits : state.Waits .reporter)
    (finished : state.reporterDone = true) : CanMove setting state .reporter := by
  have stands : state.reporter = .running () := waits
  exact canMove_of_step .finishReports rfl trivial
    (by rw [stepParty, stands, stepReporter, if_pos finished])

end Moves

/-! Somebody can always move: first when the context is done, then when it is not. -/

section Enabled

variable {setting : Setting} {state : State}

/-- A driving step is open. -/
def Enabled (setting : Setting) (state : State) : Prop :=
  ∃ label next, label.Driving ∧ step setting state label = some next

theorem CanMove.enabled {party : Party} (moves : CanMove setting state party) :
    Enabled setting state := by
  obtain ⟨label, next, -, driving, stepped⟩ := moves
  exact ⟨label, next, driving, stepped⟩

/-- Unless everyone is gone, there is somebody to move; then `Wait` returns. -/
theorem enabled_of_movers (running : state.result = none)
    (movers : ∀ party, ¬state.Exited party → CanMove setting state party) :
    Enabled setting state := by
  by_cases exited : state.AllExited setting
  · exact ⟨.wait, _, trivial, if_pos ⟨exited, running⟩⟩
  · by_cases producer : state.Exited .producer
    · by_cases reporter : state.Exited .reporter
      · have left : ∃ id, id < setting.numCRApplyWorkers ∧ ¬state.Exited (.worker id) := by
          by_contra gone
          push Not at gone
          exact exited ⟨producer, reporter, gone⟩
        obtain ⟨id, -, unfinished⟩ := left
        exact (movers _ unfinished).enabled
      · exact (movers _ reporter).enabled
    · exact (movers _ producer).enabled

theorem enabled_of_done (running : state.result = none)
    (done : state.group.ctxErr.isSome = true) : Enabled setting state :=
  enabled_of_movers running fun _ unfinished => canMove_of_woken unfinished fun _ => done

/-- With a worker to serve the channel, `loadCiliumData` is never stuck. -/
theorem Ended.enabled (ended : Ended setting state) (delivered : Delivered setting state)
    (workers : 0 < setting.numCRApplyWorkers) (running : state.result = none) :
    Enabled setting state := by
  by_cases done : state.group.ctxErr.isSome = true
  · exact enabled_of_done running done
  by_contra stuck
  have fine : state.group.err = none := by
    rw [← Option.not_isSome_iff_eq_none]
    exact fun known => done (ended.group known)
  -- whoever is not in its `select` could go on
  have waits : ∀ party, ¬state.Exited party → state.Waits party := by
    intro party unfinished
    by_contra busy
    exact stuck (canMove_of_woken unfinished fun waits => absurd waits busy).enabled
  by_cases producing : state.Exited .producer
  · have exited : state.producer = .exited := producing
    have closed := ended.producer (by rw [exited]; exact fine)
    refine stuck (enabled_of_movers running fun party unfinished => ?_)
    cases party with
    | producer => exact absurd producing unfinished
    | worker id => exact receive_canMove (waits _ unfinished) (.inr closed.1)
    | reporter => exact finishReports_canMove (waits _ unfinished) closed.2
  · have blocked := waits _ producing
    have opened : state.taskChan.closed = false := by
      obtain ⟨index, data, sends⟩ := blocked
      exact (delivered.sending sends).2.2.1
    by_cases room : state.taskChan.buffer.length < setting.capacity
    · exact stuck (send_canMove blocked opened room).enabled
    · have filled : state.taskChan.buffer ≠ [] := by
        intro drained
        rw [drained, Setting.capacity] at room
        exact room (Nat.mul_pos workers Nat.zero_lt_two)
      by_cases gone : state.Exited (.worker 0)
      · have exited : state.workers 0 = .exited := gone
        have closed := ended.worker workers (by rw [exited]; exact fine)
        cases opened.symm.trans closed.1
      · exact stuck (receive_canMove (waits _ gone) (.inl filled)).enabled

end Enabled

/-! How far `loadCiliumData` is from its end. A task counts less with every hand it
passes through, down to the attempts that are left to its worker. -/

def producerRank (setting : Setting) : Goroutine ProducerPoint → Nat
  | .running (.generating index) => 9 * (setting.resources - index) + 3
  | .running (.sending index _) => 9 * (setting.resources - (index + 1)) + 11
  | .running .closingReporter => 2
  | .returned _ => 1
  | .exited => 0

def workerRank : Goroutine WorkerPoint → Nat
  | .running .selecting => 2
  | .running (.applying _ number) => 3 + (maxNumCRApplyAttempts - number)
  | .returned _ => 1
  | .exited => 0

def reporterRank : Goroutine Unit → Nat
  | .running _ => 2
  | .returned _ => 1
  | .exited => 0

def workersRank (setting : Setting) (workers : WorkerId → Goroutine WorkerPoint) : Nat :=
  ∑ id ∈ Finset.range setting.numCRApplyWorkers, workerRank (workers id)

/-- One as long as the value is to come. -/
def pendingRank {Value : Type} (value : Option Value) : Nat := if value.isSome then 0 else 1

def rank (setting : Setting) (state : State) : Nat :=
  producerRank setting state.producer + 7 * state.taskChan.buffer.length +
    workersRank setting state.workers + reporterRank state.reporter +
    pendingRank state.group.ctxErr + pendingRank state.result

section Ranks

variable {setting : Setting} {state next : State} {label : Label} {id : WorkerId}

theorem workersRank_update (workers : WorkerId → Goroutine WorkerPoint)
    (updated : Goroutine WorkerPoint) (below : id < setting.numCRApplyWorkers) :
    workersRank setting (Function.update workers id updated) + workerRank (workers id) =
      workersRank setting workers + workerRank updated := by
  have member := Finset.mem_range.mpr below
  have split : ∀ workers, workersRank setting workers = workerRank (workers id) +
      ∑ other ∈ (Finset.range setting.numCRApplyWorkers).erase id, workerRank (workers other) :=
    fun workers =>
      (Finset.add_sum_erase _ (fun other => workerRank (workers other)) member).symm
  have others : ∀ other ∈ (Finset.range setting.numCRApplyWorkers).erase id,
      workerRank (Function.update workers id updated other) = workerRank (workers other) := by
    intro other apart
    rw [Function.update_of_ne (Finset.ne_of_mem_erase apart)]
  rw [split, split workers, Finset.sum_congr rfl others, Function.update_self]
  omega

theorem rank_setWorker (state : State) (updated : Goroutine WorkerPoint)
    (below : id < setting.numCRApplyWorkers) :
    rank setting (state.setWorker id updated) + workerRank (state.workers id) =
      rank setting state + workerRank updated := by
  have change := workersRank_update state.workers updated below
  simp only [rank, setWorker_producer, setWorker_taskChan, setWorker_workers,
    setWorker_reporter, setWorker_group, setWorker_result]
  omega

theorem pendingRank_settle (group : ErrorGroup) (err : Option String) :
    pendingRank (group.settle err).ctxErr ≤ pendingRank group.ctxErr := by
  unfold pendingRank
  by_cases done : group.ctxErr.isSome = true
  · rw [if_pos done, if_pos (ErrorGroup.settle_ctxErr done)]
  · rw [if_neg done]
    split <;> omega

theorem ProducerMove.rank_lt (move : ProducerMove setting state state.producer label next) :
    rank setting next < rank setting state := by
  generalize stands : state.producer = producer at move
  cases move with
  | generate below =>
      simp only [rank, stands, producerRank]
      omega
  | send =>
      simp only [rank, stands, producerRank, List.length_append, List.length_singleton]
      omega
  | quit | closeTasks | closeReporter =>
      simp only [rank, stands, producerRank, Channel.close]
      omega
  | @settle err =>
      have pending := pendingRank_settle state.group err
      simp only [rank, stands, producerRank]
      omega

theorem rank_lt_of_setWorker {moved : State} {updated : Goroutine WorkerPoint}
    (below : id < setting.numCRApplyWorkers)
    (less : rank setting moved + workerRank updated <
      rank setting state + workerRank (moved.workers id)) :
    rank setting (moved.setWorker id updated) < rank setting state := by
  have change := rank_setWorker moved updated below
  omega

theorem WorkerMove.rank_lt (move : WorkerMove state id (state.workers id) label next)
    (below : id < setting.numCRApplyWorkers) : rank setting next < rank setting state := by
  generalize stands : state.workers id = worker at move
  cases move with
  | receive buffered =>
      refine rank_lt_of_setWorker below ?_
      simp only [rank, stands, workerRank, buffered, List.length_cons, maxNumCRApplyAttempts]
      omega
  | leave | quit =>
      refine rank_lt_of_setWorker below ?_
      simp only [stands, workerRank]
      omega
  | apply | retry | giveUp =>
      refine rank_lt_of_setWorker below ?_
      simp only [rank, record_workers, record_producer, record_taskChan, record_reporter,
        record_group, record_result, stands, workerRank]
      omega
  | @settle err =>
      refine rank_lt_of_setWorker below ?_
      have pending := pendingRank_settle state.group err
      simp only [rank, stands, workerRank]
      omega

/-- A report leaves the state as it is. -/
theorem ReporterMove.rank_lower (move : ReporterMove state state.reporter label next) :
    label = .report ∧ next = state ∨ rank setting next < rank setting state := by
  generalize stands : state.reporter = reporter at move
  cases move with
  | report => exact .inl ⟨rfl, rfl⟩
  | finishReports | quit =>
      right
      simp only [rank, stands, reporterRank]
      omega
  | @settle err =>
      right
      have pending := pendingRank_settle state.group err
      simp only [rank, stands, reporterRank]
      omega

theorem rank_lower (attempted : Attempted setting state)
    (stepped : step setting state label = some next) :
    label = .report ∧ next = state ∨ rank setting next < rank setting state := by
  cases step_transition stepped with
  | producer move => exact .inr move.rank_lt
  | @worker id _ _ move =>
      refine .inr (move.rank_lt ?_)
      by_contra beyond
      rw [attempted.absent (Nat.le_of_not_lt beyond)] at move
      cases move
  | reporter move => exact move.rank_lower
  | parentDone fresh =>
      right
      simp [rank, ErrorGroup.cancel, fresh, pendingRank]
  | wait _ running =>
      right
      simp [rank, running, pendingRank]

theorem driving_ne (attempted : Attempted setting state) (driving : label.Driving)
    (stepped : step setting state label = some next) : next ≠ state := by
  cases rank_lower attempted stepped with
  | inl report =>
      rw [report.1] at driving
      exact driving.elim
  | inr less =>
      intro same
      subst same
      exact Nat.lt_irrefl _ less

end Ranks

section Returns

variable {setting : Setting} {trace : List Label} {state : State}

def Reached (setting : Setting) (state : State) : Prop :=
  ∃ trace, (system setting).Run trace state

/-- What is open short of the goal in every reached state happens. -/
theorem inevitable_of_enabled (kept : State → Prop) {goal : State → Prop}
    (keep : ∀ {state next label}, step setting state label = some next → kept state → kept next)
    (moves : ∀ {state}, Reached setting state → kept state → ¬goal state →
      Enabled setting state)
    (run : (system setting).Run trace state) (start : kept state) :
    (system setting).Inevitable Label.Driving goal state := by
  refine TransitionSystem.inevitable_of_rank (rank setting)
    (fun state => Reached setting state ∧ kept state) ?_ ?_ ?_ ⟨⟨trace, run⟩, start⟩
  · intro state next label stepped ⟨⟨trace, run⟩, holds⟩
    exact ⟨⟨_, .step run trivial stepped⟩, keep stepped holds⟩
  · intro state next label stepped ⟨⟨_, run⟩, _⟩
    exact (rank_lower (attempted_of_run run) stepped).imp_left And.right
  · intro state ⟨⟨trace, run⟩, holds⟩ short
    obtain ⟨label, next, driving, stepped⟩ := moves ⟨trace, run⟩ holds short
    exact ⟨label, next, driving, stepped, driving_ne (attempted_of_run run) driving stepped⟩

/-- With at least one worker, `loadCiliumData` returns whatever the attempts give. -/
theorem loadCiliumData_returns (workers : 0 < setting.numCRApplyWorkers)
    (run : (system setting).Run trace state) :
    (system setting).Inevitable Label.Driving (fun later => later.result.isSome = true)
      state := by
  refine inevitable_of_enabled (fun _ => True) (fun _ _ => trivial) ?_ run trivial
  intro state ⟨_, run⟩ _ running
  exact (ended_of_run run).enabled (delivered_of_run run) workers
    (Option.not_isSome_iff_eq_none.mp running)

/-- Every attempt that may be made for the task was made and failed. -/
def State.FailsAll (state : State) (task : Task) : Prop :=
  ∀ number < maxNumCRApplyAttempts, ∃ attempt ∈ state.attempts,
    attempt.task = task ∧ attempt.number = number ∧ attempt.err.isSome = true

theorem Transition.attempts_subset {next : State} {label : Label}
    (transition : Transition setting state label next) : state.attempts ⊆ next.attempts := by
  cases transition with
  | producer move =>
      generalize state.producer = producer at move
      cases move <;> exact fun _ member => member
  | @worker id _ _ move =>
      generalize state.workers id = worker at move
      cases move with
      | receive | leave | quit | settle => exact fun _ member => member
      | apply | retry | giveUp => exact fun _ member => List.mem_append_left _ member
  | reporter move =>
      generalize state.reporter = reporter at move
      cases move <;> exact fun _ member => member
  | parentDone | wait => exact fun _ member => member

theorem State.FailsAll.keep {next : State} {label : Label} {task : Task}
    (fails : state.FailsAll task) (stepped : step setting state label = some next) :
    next.FailsAll task := by
  intro number below
  obtain ⟨attempt, member, made⟩ := fails number below
  exact ⟨attempt, (step_transition stepped).attempts_subset member, made⟩

/-- The worker that gave up has returned an error, and the group may know it. -/
theorem Ended.giveUp {task : Task} (ended : Ended setting state) (fails : state.FailsAll task) :
    state.group.err.isSome = true ∨ ∃ id err, state.workers id = .returned (some err) := by
  obtain ⟨attempt, member, -, last, wrong⟩ := fails (maxNumCRApplyAttempts - 1) (by decide)
  refine ended.failed member ?_ wrong
  rw [Attempt.settles, last]
  exact Bool.or_true _

theorem Ended.error {task : Task} {result : Option String} (ended : Ended setting state)
    (attempted : Attempted setting state) (fails : state.FailsAll task)
    (returned : state.result = some result) :
    state.AllExited setting ∧ ∃ err, result = some err := by
  obtain ⟨rfl, exited⟩ := ended.result returned
  refine ⟨exited, Option.isSome_iff_exists.mp ?_⟩
  cases ended.giveUp fails with
  | inl known => exact known
  | inr pending =>
      obtain ⟨id, err, returned⟩ := pending
      cases (attempted.all_exited exited id).symm.trans returned

theorem Ended.enabled_of_fails {task : Task} (ended : Ended setting state)
    (fails : state.FailsAll task) (running : state.result = none) : Enabled setting state := by
  cases ended.giveUp fails with
  | inl known => exact enabled_of_done running (ended.group known)
  | inr pending =>
      obtain ⟨id, err, returned⟩ := pending
      have unfinished : ¬state.Exited (.worker id) := by simp [State.Exited, returned]
      refine CanMove.enabled (canMove_of_woken unfinished fun waits => ?_)
      cases returned.symm.trans waits

end Returns

/-- A worker has given up on a resource. -/
structure Fails (setting : Setting) (state : State) : Prop where
  error : ∀ result, state.result = some result → ∃ err, result = some err
  returns : (system setting).Inevitable Label.Driving
    (fun later => later.AllExited setting ∧ ∃ err, later.result = some (some err)) state
  cancels : state.group.ctxErr.isSome = true ∨ ∃ id err, state.workers id = .returned (some err)
  unblocked : state.group.ctxErr.isSome = true →
    ∀ party, ¬state.Exited party → CanMove setting state party

/-- Over every interleaving and every outcome of the attempts, `loadCiliumData` returns
no error only after each resource was taken by one worker and applied, and with a
resource on which all attempts failed it returns an error and leaves nobody behind. -/
theorem loadCiliumData_result {setting : Setting} {trace : List Label} {state : State}
    (run : (system setting).Run trace state) :
    (state.result = some none → Loaded setting state) ∧
      ∀ task, state.FailsAll task → Fails setting state := by
  have delivered := delivered_of_run run
  have attempted := attempted_of_run run
  have ended := ended_of_run run
  constructor
  · intro returned
    obtain ⟨fine, exited⟩ := ended.result returned
    exact ended.loaded delivered attempted exited fine.symm
  · intro task fails
    refine ⟨fun result returned => (ended.error attempted fails returned).2, ?_, ?_, ?_⟩
    · refine inevitable_of_enabled (fun state => state.FailsAll task)
        (fun stepped fails => fails.keep stepped) ?_ run fails
      intro state ⟨_, run⟩ fails short
      refine (ended_of_run run).enabled_of_fails fails ?_
      cases returned : state.result with
      | none => rfl
      | some result =>
          obtain ⟨exited, err, rfl⟩ :=
            (ended_of_run run).error (attempted_of_run run) fails returned
          exact absurd ⟨exited, err, returned⟩ short
    · exact (ended.giveUp fails).imp_left ended.group
    · intro done party unfinished
      exact canMove_of_woken unfinished fun _ => done

/-- One resource of each kind and two workers. -/
def oneOfEach : Setting where
  numCID := 1
  numCEP := 1
  identitiesFit := by decide
  endpointsFit := by decide
  numCRApplyWorkers := 2

/-- The second worker takes the endpoint while the first one retries the identity. -/
def bothApplied : List Label :=
  [.generate "a", .send, .receive 0, .generate "b", .apply 0 (some "conflict"), .send,
    .receive 1, .apply 1 none, .closeTasks, .report, .apply 0 none, .receive 1, .closeReporter,
    .settle .producer, .receive 0, .settle (.worker 0), .finishReports, .settle (.worker 1),
    .settle .reporter, .wait]

/-- All attempts on the identity fail while the endpoint is still in the channel. -/
def identityRefused : List Label :=
  [.generate "a", .send, .receive 1, .generate "b", .send] ++
    List.replicate maxNumCRApplyAttempts (.apply 1 (some "conflict"))

def refused (number : Nat) : Attempt :=
  ⟨⟨0, oneOfEach.generate 0 "a"⟩, 1, number, some "conflict"⟩

theorem loadCiliumData_result_oneOfEach :
    (∃ state, (system oneOfEach).Run bothApplied state ∧ state.result = some none ∧
      Loaded oneOfEach state) ∧
    ∃ state, (system oneOfEach).Run identityRefused state ∧
      state.FailsAll ⟨0, oneOfEach.generate 0 "a"⟩ ∧ Fails oneOfEach state := by
  constructor
  · obtain ⟨state, executed, returned⟩ :
        ∃ state ∈ (system oneOfEach).execute (start oneOfEach) bothApplied,
          state.result = some none := by
      decide
    have run := TransitionSystem.runWith_of_executeWith rfl executed
    exact ⟨state, run, returned, (loadCiliumData_result run).1 returned⟩
  · obtain ⟨state, executed, made⟩ :
        ∃ state ∈ (system oneOfEach).execute (start oneOfEach) identityRefused,
          state.attempts = (List.range maxNumCRApplyAttempts).map refused :=
      ⟨_, rfl, rfl⟩
    have run := TransitionSystem.runWith_of_executeWith rfl executed
    have fails : state.FailsAll ⟨0, oneOfEach.generate 0 "a"⟩ := by
      intro number below
      refine ⟨refused number, ?_, rfl, rfl, rfl⟩
      rw [made]
      exact List.mem_map_of_mem (List.mem_range.mpr below)
    exact ⟨state, run, fails, (loadCiliumData_result run).2 _ fails⟩

end Kperf.Contrib.CiliumData
