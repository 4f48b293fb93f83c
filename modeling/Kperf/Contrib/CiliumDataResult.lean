import Kperf.Contrib.CiliumDataAccounting

/-! What the result of `loadCiliumData` says: when `Wait` returns no error, every
resource was applied. -/

set_option autoImplicit false

namespace Kperf.Contrib.CiliumData

open Goroutine (not_clean_running not_clean_error)

/-- What the end of a goroutine says. A worker that ends without an error has
found the channel closed and empty. -/
structure Ended (setting : Setting) (state : State) : Prop where
  group : state.group.Cancelled
  worker : ∀ {id}, id < setting.numCRApplyWorkers →
    (state.workers id).Clean state.group →
    state.taskChan.closed = true ∧ state.taskChan.buffer = []
  closing : state.producer = .running .closingReporter → state.taskChan.closed = true
  producer : state.producer.Clean state.group →
    state.taskChan.closed = true ∧ state.reporterDone = true
  failed : ∀ {attempt}, attempt ∈ state.attempts → attempt.settles = true →
    attempt.err.isSome = true →
    state.group.err.isSome = true ∨ ∃ id err, state.workers id = .returned (some err)
  result : ∀ {result}, state.result = some result →
    result = state.group.err ∧ state.AllExited setting

section Ends

variable {setting : Setting} {state next : State} {label : Label} {id : WorkerId}

theorem ended_start (setting : Setting) : Ended setting (start setting) where
  group := ErrorGroup.cancelled_start
  worker := by
    intro id below clean
    simp only [start, if_pos below] at clean
    exact clean.elim
  closing := nofun
  producer := nofun
  failed := nofun
  result := nofun

/-- An error that a worker has returned is either still to be seen or was noted. -/
theorem failed_settle {group : ErrorGroup} {workers : WorkerId → Goroutine WorkerPoint}
    {err : Option String}
    (failed : group.err.isSome = true ∨ ∃ id err, workers id = .returned (some err)) :
    (group.settle err).err.isSome = true ∨ ∃ id err, workers id = .returned (some err) := by
  refine failed.imp_left fun known => ?_
  rw [Option.isSome_iff_ne_none] at known ⊢
  intro nothing
  exact known (ErrorGroup.settle_err_eq_none.mp nothing).1

theorem Ended.keep_producer (ended : Ended setting state)
    (move : ProducerMove setting state state.producer label next) : Ended setting next := by
  have unreturned : state.producer ≠ .exited → ∀ {result}, state.result ≠ some result := by
    intro active result returned
    exact active (ended.result returned).2.1
  generalize stands : state.producer = producer at move
  cases move with
  | generate | quit =>
      refine ⟨ended.group, ended.worker, nofun, nofun, ended.failed, fun returned => ?_⟩
      exact absurd returned (unreturned (by simp [stands]))
  | send opened =>
      refine ⟨ended.group, fun below clean => ?_, nofun, nofun, ended.failed,
        fun returned => ?_⟩
      · cases opened.symm.trans (ended.worker below clean).1
      · exact absurd returned (unreturned (by simp [stands]))
  | closeTasks =>
      refine ⟨ended.group, fun below clean => ⟨rfl, (ended.worker below clean).2⟩,
        fun _ => rfl, nofun, ended.failed, fun returned => ?_⟩
      exact absurd returned (unreturned (by simp [stands]))
  | closeReporter =>
      refine ⟨ended.group, ended.worker, nofun, fun _ => ⟨ended.closing stands, rfl⟩,
        ended.failed, fun returned => ?_⟩
      exact absurd returned (unreturned (by simp [stands]))
  | settle =>
      refine ⟨ended.group.settle _, fun below clean => ended.worker below clean.of_settle,
        nofun, fun clean => ended.producer ?_,
        fun member settles wrong => failed_settle (ended.failed member settles wrong),
        fun returned => ?_⟩
      · rw [stands]
        exact clean.of_exited
      · exact absurd returned (unreturned (by simp [stands]))

/-- A worker that had not returned an error moves on. -/
theorem failed_update {group : ErrorGroup} {workers : WorkerId → Goroutine WorkerPoint}
    {updated : Goroutine WorkerPoint}
    (failed : group.err.isSome = true ∨ ∃ id err, workers id = .returned (some err))
    (quiet : ∀ err, workers id ≠ .returned (some err)) :
    group.err.isSome = true ∨
      ∃ other err, Function.update workers id updated other = .returned (some err) := by
  refine failed.imp_right fun ⟨other, err, returned⟩ => ⟨other, err, ?_⟩
  rw [Function.update_of_ne]
  · exact returned
  · intro same
    subst same
    exact quiet err returned

theorem clean_update {group : ErrorGroup} {workers : WorkerId → Goroutine WorkerPoint}
    {updated : Goroutine WorkerPoint} {drained : Prop}
    (others : ∀ {other}, other < setting.numCRApplyWorkers → (workers other).Clean group →
      drained) (own : updated.Clean group → drained) {other : WorkerId}
    (below : other < setting.numCRApplyWorkers)
    (clean : (Function.update workers id updated other).Clean group) : drained := by
  rw [Function.update_apply] at clean
  split at clean
  · exact own clean
  · exact others below clean

theorem Ended.keep_worker (ended : Ended setting state) (attempted : Attempted setting state)
    (move : WorkerMove state id (state.workers id) label next) : Ended setting next := by
  have active : state.workers id ≠ .exited := by
    intro exited
    rw [exited] at move
    cases move
  have below : id < setting.numCRApplyWorkers := by
    by_contra beyond
    exact active (attempted.absent (Nat.le_of_not_lt beyond))
  have unreturned : ∀ {result}, state.result = some result →
      result = next.group.err ∧ next.AllExited setting :=
    fun returned => absurd ((ended.result returned).2.2.2 id below) active
  generalize stands : state.workers id = worker at move
  have quiet : ∀ point, worker = .running point →
      ∀ err, state.workers id ≠ .returned (some err) := by
    intro point runs err returned
    cases (stands.symm.trans returned).symm.trans runs
  cases move with
  | receive buffered =>
      refine ⟨ended.group, clean_update (fun below clean => ?_) (absurd · not_clean_running),
        ended.closing, ended.producer, fun member settles wrong => ?_, unreturned⟩
      · cases buffered.symm.trans (ended.worker below clean).2
      · exact failed_update (ended.failed member settles wrong) (quiet _ rfl)
  | leave drained closed =>
      refine ⟨ended.group, clean_update ended.worker fun _ => ⟨closed, drained⟩, ended.closing,
        ended.producer, fun member settles wrong => ?_, unreturned⟩
      exact failed_update (ended.failed member settles wrong) (quiet _ rfl)
  | quit =>
      refine ⟨ended.group, clean_update ended.worker (absurd · not_clean_error), ended.closing,
        ended.producer, fun member settles wrong => ?_, unreturned⟩
      exact failed_update (ended.failed member settles wrong) (quiet _ rfl)
  | apply =>
      refine ⟨ended.group, clean_update ended.worker (absurd · not_clean_running), ended.closing,
        ended.producer, fun member settles wrong => ?_, unreturned⟩
      cases List.mem_append.mp member with
      | inl earlier => exact failed_update (ended.failed earlier settles wrong) (quiet _ rfl)
      | inr last =>
          cases List.mem_singleton.mp last
          cases wrong
  | retry more =>
      refine ⟨ended.group, clean_update ended.worker (absurd · not_clean_running), ended.closing,
        ended.producer, fun member settles wrong => ?_, unreturned⟩
      cases List.mem_append.mp member with
      | inl earlier => exact failed_update (ended.failed earlier settles wrong) (quiet _ rfl)
      | inr last =>
          cases List.mem_singleton.mp last
          simp [Attempt.settles, more] at settles
  | giveUp =>
      refine ⟨ended.group, clean_update ended.worker (absurd · not_clean_error), ended.closing,
        ended.producer, fun _ _ _ => .inr ⟨id, _, Function.update_self ..⟩, unreturned⟩
  | @settle err =>
      refine ⟨ended.group.settle _,
        clean_update (fun below clean => ended.worker below clean.of_settle) fun clean => ?_,
        ended.closing, fun clean => ended.producer clean.of_settle,
        fun member settles wrong => ?_, unreturned⟩
      · refine ended.worker below ?_
        rw [stands]
        exact clean.of_exited
      · cases err with
        | none => exact failed_update (ended.failed member settles wrong) (by simp [stands])
        | some err =>
            left
            rw [Option.isSome_iff_ne_none]
            intro nothing
            cases (ErrorGroup.settle_err_eq_none.mp nothing).2

theorem Ended.keep (ended : Ended setting state) (attempted : Attempted setting state)
    (transition : Transition setting state label next) : Ended setting next := by
  cases transition with
  | producer move => exact ended.keep_producer move
  | worker move => exact ended.keep_worker attempted move
  | reporter move =>
      have unreturned : state.reporter ≠ .exited → ∀ {result}, state.result ≠ some result := by
        intro active result returned
        exact active (ended.result returned).2.2.1
      generalize stands : state.reporter = reporter at move
      cases move with
      | report => exact ended
      | finishReports | quit =>
          refine ⟨ended.group, ended.worker, ended.closing, ended.producer, ended.failed,
            fun returned => ?_⟩
          exact absurd returned (unreturned (by simp [stands]))
      | settle =>
          refine ⟨ended.group.settle _, fun below clean => ended.worker below clean.of_settle,
            ended.closing, fun clean => ended.producer clean.of_settle,
            fun member settles wrong => failed_settle (ended.failed member settles wrong),
            fun returned => ?_⟩
          exact absurd returned (unreturned (by simp [stands]))
  | parentDone =>
      exact ⟨ErrorGroup.cancelled_cancel _ _, ended.worker, ended.closing, ended.producer,
        ended.failed, ended.result⟩
  | wait exited =>
      refine ⟨ended.group, ended.worker, ended.closing, ended.producer, ended.failed, ?_⟩
      intro result returned
      cases returned
      exact ⟨rfl, exited⟩

theorem ended_of_run {allowed : State → Label → Prop} {trace : List Label}
    (run : (system setting).RunWith allowed trace state) : Ended setting state := by
  refine run.invariant_using attempted_of_run
    (fun _ initial => initial ▸ ended_start setting) ?_
  intro state next label _ stepped attempted _ ended
  exact ended.keep attempted (step_transition stepped)

end Ends

/-! A result without an error. -/

/-- All resources were generated, taken by one worker each, and applied. -/
structure Loaded (setting : Setting) (state : State) : Prop where
  generated : ∃ identities endpoints : List String,
    identities.length = setting.numCID ∧ endpoints.length = setting.numCEP ∧
      state.sent.map Task.data =
        identities.map generateCiliumIdentity ++ endpoints.map generateCiliumEndpoint
  taken : state.taken.map Prod.fst = state.sent
  takenOnce : ∀ task ∈ state.sent, ∃! worker, (task, worker) ∈ state.taken
  applied : ∀ task ∈ state.sent, ∃ attempt ∈ state.attempts,
    attempt.task = task ∧ attempt.err = none
  counted : state.appliedCount = setting.numCID + setting.numCEP

section Success

variable {setting : Setting} {state : State}

/-- Without an error of the group, nothing is left in the channel. -/
theorem Ended.drained (ended : Ended setting state) (delivered : Delivered setting state)
    (exited : state.AllExited setting) (fine : state.group.err = none) :
    state.taskChan.closed = true ∧ state.taskChan.buffer = [] := by
  have closed : state.taskChan.closed = true := by
    refine (ended.producer ?_).1
    rw [exited.1]
    exact fine
  by_cases none : setting.numCRApplyWorkers = 0
  · have limit := delivered.bounded
    rw [Setting.capacity, none, Nat.zero_mul, Nat.le_zero, List.length_eq_zero_iff] at limit
    exact ⟨closed, limit⟩
  · have some := Nat.pos_of_ne_zero none
    refine ended.worker some ?_
    rw [exited.2.2 0 some]
    exact fine

/-- With everyone gone and no error, each attempt that settled a task succeeded. -/
theorem Ended.settles_iff (ended : Ended setting state) (attempted : Attempted setting state)
    (exited : state.AllExited setting) (fine : state.group.err = none) {attempt : Attempt}
    (member : attempt ∈ state.attempts) : attempt.settles = attempt.err.isNone := by
  rw [Bool.eq_iff_iff]
  constructor
  · intro settles
    rw [← Option.not_isSome, Bool.not_eq_true']
    by_contra wrong
    rw [Bool.not_eq_false] at wrong
    cases ended.failed member settles wrong with
    | inl known => simp [fine] at known
    | inr pending =>
        obtain ⟨id, err, returned⟩ := pending
        cases (attempted.all_exited exited id).symm.trans returned
  · intro succeeded
    rw [Attempt.settles, succeeded, Bool.true_or]

/-- The attempts that succeeded are one for each task taken. -/
theorem Ended.succeeded (ended : Ended setting state) (attempted : Attempted setting state)
    (exited : state.AllExited setting) (fine : state.group.err = none) :
    ((state.attempts.filter fun attempt => attempt.err.isNone).map fun attempt =>
      attempt.task.id).Perm (List.range state.taken.length) := by
  have nobody : ∀ id, state.ledger.held id = none := by
    intro id
    simp [State.ledger, attempted.all_exited exited id, heldTask]
  have same : state.attempts.filter Attempt.settles =
      state.attempts.filter fun attempt => attempt.err.isNone :=
    List.filter_congr fun _ member => ended.settles_iff attempted exited fine member
  rw [← same]
  exact attempted.ledger.perm_range nobody

theorem Ended.loaded (ended : Ended setting state) (delivered : Delivered setting state)
    (attempted : Attempted setting state) (exited : state.AllExited setting)
    (fine : state.group.err = none) : Loaded setting state := by
  obtain ⟨closed, drained⟩ := ended.drained delivered exited fine
  have taken := delivered.inOrder
  rw [drained, List.append_nil] at taken
  have succeeded := ended.succeeded attempted exited fine
  refine ⟨delivered.generated_all closed, taken, ?_, ?_, ?_⟩
  · intro task member
    rw [← taken] at member
    obtain ⟨⟨_, worker⟩, entry, rfl⟩ := List.mem_map.mp member
    refine ⟨worker, entry, fun other also => ?_⟩
    exact congrArg Prod.snd (delivered.taken_unique also entry rfl)
  · intro task member
    rw [← taken] at member
    obtain ⟨entry, listed, rfl⟩ := List.mem_map.mp member
    have below := List.mem_range.mpr (delivered.taken_lt listed)
    obtain ⟨attempt, found, same⟩ := List.mem_map.mp (succeeded.mem_iff.mpr below)
    obtain ⟨made, success⟩ := List.mem_filter.mp found
    refine ⟨attempt, made, ?_, Option.isNone_iff_eq_none.mp success⟩
    exact congrArg Prod.fst (delivered.taken_unique (attempted.known made) listed same)
  · have total : state.taken.length = setting.numCID + setting.numCEP := by
      rw [← List.length_map Prod.fst, taken, delivered.complete closed, Setting.resources]
    have count := succeeded.length_eq
    rw [List.length_map, List.length_range] at count
    rw [attempted.counted, count, total, Nat.mod_eq_of_lt]
    have identities := setting.identitiesFit
    have endpoints := setting.endpointsFit
    omega

end Success

end Kperf.Contrib.CiliumData
