import Kperf.Library.Crew
import Kperf.Library.Progress
import Kperf.Runner.LocalStoreInvariant

/-! The calls of the store come to an end. Every path out of a critical section passes
its deferred unlock, so the mutex is held only by a goroutine that can go on, and
every call of the operating system brings its goroutine nearer to the end. -/

set_option autoImplicit false

namespace Kperf.Runner.LocalStore

/-- How many calls into the operating system a writer still has before it returns. -/
def Stage.work : Stage → Nat
  | .commitLock _ => 7
  | .commitSync _ => 6
  | .commitStat _ => 5
  | .commitRename _ => 4
  | .commitClose _ _ => 3
  | .commitRemove _ _ => 2
  | .commitUnlock _ _ => 1
  | .closeFile => 2
  | .closeRemove => 1
  | .idle | .dead => 0

def Access.work : Access → Nat
  | .deleteLock _ | .readLock _ => 4
  | .deleteStat _ | .readStat _ => 3
  | .deleteRemove _ | .readOpen _ => 2
  | .deleteUnlock _ _ | .readUnlock _ _ => 1
  | .idle | .reading _ => 0

/-- The label is the next step of a call that has begun. -/
def Label.continues : Label → Bool
  | .lock _ | .sync _ _ | .stat _ _ | .rename _ _ | .closeFile _ | .remove _ _ | .unlock _
  | .lockAccess _ | .statAccess _ _ | .removeAccess _ _ | .openAccess _ _ | .unlockAccess _ => true
  | .openWriter _ _ | .write _ _ _ | .commit _ _ | .close _ | .delete _ _ | .openReader _ _
  | .closeReader _ | .crash => false

/-- The calls that come out as an error of the file system. -/
def Label.fails : Label → Bool
  | .sync _ succeeds | .stat _ succeeds | .rename _ succeeds | .remove _ succeeds
  | .statAccess _ succeeds | .removeAccess _ succeeds | .openAccess _ succeeds => !succeeds
  | _ => false

/-- The mutex is held only from inside a critical section. -/
structure Held (state : State) : Prop where
  writer : ∀ {id}, state.lock = some (.writer id) →
    ∃ writer, state.writers id = some writer ∧ writer.stage.locked = true
  access : ∀ {id}, state.lock = some (.access id) → (state.accesses id).locked = true

theorem held_newStore : Held newStore := by
  constructor <;> simp [newStore]

section Lock

variable {state next : State} {holder rival : Holder} {before after : Bool}

theorem LockFrame.inside (frame : LockFrame holder before after state next)
    (held : state.lock = some holder → before = true) (holds : next.lock = some holder) :
    after = true := by
  rcases frame with ⟨same, -, stands⟩ | ⟨-, -, -, -, -, entered⟩ | ⟨-, free, -⟩
  · rw [stands]
    exact held (same ▸ holds)
  · exact entered
  · rw [free] at holds
    cases holds

theorem LockFrame.elsewhere (frame : LockFrame holder before after state next)
    (different : rival ≠ holder) (holds : next.lock = some rival) : state.lock = some rival := by
  rcases frame with ⟨same, -, -⟩ | ⟨-, taken, -⟩ | ⟨-, free, -⟩
  · exact same ▸ holds
  · rw [taken] at holds
    exact absurd (Option.some.inj holds).symm different
  · rw [free] at holds
    cases holds

end Lock

theorem Held.keep {state next : State} {label : Label} (held : Held state)
    (transition : Transition state label next) : Held next := by
  cases transition with
  | @openWriter fresh _ absent _ =>
      refine ⟨fun {id} holds => ?_, held.access⟩
      obtain ⟨writer, found, inside⟩ := held.writer holds
      have different : id ≠ fresh := by
        intro same
        rw [same, absent] at found
        cases found
      exact ⟨writer, (Function.update_of_ne different ..).trans found, inside⟩
  | crash => constructor <;> simp [crash]
  | @writer id writer _ _ found _ move =>
      obtain ⟨updated, frame⟩ := move.frame found
      constructor
      · intro other holds
        rw [frame.writers]
        by_cases own : other = id
        · subst other
          refine ⟨updated, Function.update_self .., frame.lock.inside (fun earlier => ?_) holds⟩
          obtain ⟨present, same, inside⟩ := held.writer earlier
          rw [found] at same
          cases same
          exact inside
        · rw [Function.update_of_ne own]
          exact held.writer (frame.lock.elsewhere (by simpa using own) holds)
      · intro other holds
        rw [frame.accesses]
        exact held.access (frame.lock.elsewhere (by simp) holds)
  | @access id _ _ _ move =>
      obtain ⟨updated, frame⟩ := move.frame
      constructor
      · intro other holds
        rw [frame.writers]
        exact held.writer (frame.lock.elsewhere (by simp) holds)
      · intro other holds
        rw [frame.accesses]
        by_cases own : other = id
        · subst other
          rw [Function.update_self]
          exact frame.lock.inside held.access holds
        · rw [Function.update_of_ne own]
          exact held.access (frame.lock.elsewhere (by simpa using own) holds)

theorem held_of_run {trace : List Label} {state : State} (run : system.Run trace state) :
    Held state := by
  refine run.invariant ?_ ?_
  · intro state initial
    rw [initial]
    exact held_newStore
  · intro state next label _ stepped held
    exact held.keep (step_transition stepped)

/-! A goroutine that does not wait for the mutex can always take its next step. -/

theorem writer_moves {state : State} {id : WriterId} {writer : Writer}
    (found : state.writers id = some writer) (busy : writer.stage.work ≠ 0)
    (free : ∀ {ref}, writer.stage = .commitLock ref → state.lock = none) :
    ∃ label next, label.actor = some (.writer id) ∧ label.continues = true ∧
      label.fails = false ∧ step state label = some next := by
  have moves : ∀ label, label.actor = some (.writer id) → label.continues = true → label.fails = false →
      (∃ next, stepWriter state id writer label = some next) →
      ∃ label next, label.actor = some (.writer id) ∧ label.continues = true ∧
        label.fails = false ∧ step state label = some next := by
    intro label actor continues sound enabled
    obtain ⟨next, moved⟩ := enabled
    refine ⟨label, next, actor, continues, sound, ?_⟩
    simp only [step, actor, found, Option.bind_some]
    exact moved
  cases stage : writer.stage with
  | idle | dead => simp [stage, Stage.work] at busy
  | commitLock ref =>
      have unlocked := free stage
      exact moves (.lock id) rfl rfl rfl (by simp [stepWriter, stage, State.acquire, unlocked])
  | commitSync ref =>
      refine moves (.sync id true) rfl rfl rfl ?_
      simp only [stepWriter, sync, stage]
      split <;> exact ⟨_, rfl⟩
  | commitStat ref =>
      refine moves (.stat id true) rfl rfl rfl ?_
      simp only [stepWriter, stat, stage, if_true]
      split <;> exact ⟨_, rfl⟩
  | commitRename ref =>
      refine moves (.rename id true) rfl rfl rfl ?_
      simp only [stepWriter, rename, stage]
      split <;> exact ⟨_, rfl⟩
  | commitClose ref result | closeFile =>
      refine moves (.closeFile id) rfl rfl rfl ?_
      simp [stepWriter, closeFile, stage]
  | commitRemove ref result | closeRemove =>
      refine moves (.remove id true) rfl rfl rfl ?_
      simp [stepWriter, remove, stage]
  | commitUnlock ref result =>
      refine moves (.unlock id) rfl rfl rfl ?_
      simp [stepWriter, unlock, stage]

theorem access_moves {state : State} {id : AccessId} (busy : (state.accesses id).work ≠ 0)
    (free : ∀ {ref}, state.accesses id = .deleteLock ref ∨ state.accesses id = .readLock ref →
      state.lock = none) :
    ∃ label next, label.actor = some (.access id) ∧ label.continues = true ∧
      label.fails = false ∧ step state label = some next := by
  have moves : ∀ label, label.actor = some (.access id) → label.continues = true → label.fails = false →
      (∃ next, stepAccess state id (state.accesses id) label = some next) →
      ∃ label next, label.actor = some (.access id) ∧ label.continues = true ∧
        label.fails = false ∧ step state label = some next := by
    intro label actor continues sound enabled
    obtain ⟨next, moved⟩ := enabled
    refine ⟨label, next, actor, continues, sound, ?_⟩
    simp only [step, actor]
    exact moved
  cases stands : state.accesses id with
  | idle | reading file => simp [stands, Access.work] at busy
  | deleteLock ref =>
      have unlocked := free (.inl stands)
      exact moves (.lockAccess id) rfl rfl rfl (by simp [stepAccess, stands, State.acquire, unlocked])
  | readLock ref =>
      have unlocked := free (.inr stands)
      exact moves (.lockAccess id) rfl rfl rfl (by simp [stepAccess, stands, State.acquire, unlocked])
  | deleteStat ref | readStat ref =>
      refine moves (.statAccess id true) rfl rfl rfl ?_
      simp only [stepAccess, stands, if_true]
      split <;> exact ⟨_, rfl⟩
  | deleteRemove ref =>
      refine moves (.removeAccess id true) rfl rfl rfl ?_
      simp [stepAccess, stands]
  | readOpen ref =>
      refine moves (.openAccess id true) rfl rfl rfl ?_
      simp [stepAccess, stands]
  | deleteUnlock ref result =>
      refine moves (.unlockAccess id) rfl rfl rfl ?_
      simp [stepAccess, stands]
  | readUnlock ref file =>
      refine moves (.unlockAccess id) rfl rfl rfl ?_
      cases file <;> simp [stepAccess, stands]

theorem Access.locked_work {access : Access} (inside : access.locked = true) :
    access.work ≠ 0 := by
  cases access with
  | idle | deleteLock | readLock | reading => cases inside
  | _ => simp [Access.work]

theorem Stage.locked_work {stage : Stage} (inside : stage.locked = true) : stage.work ≠ 0 := by
  cases stage with
  | idle | commitLock | closeFile | closeRemove | dead => cases inside
  | _ => simp [Stage.work]

/-- Whoever holds the mutex can go on. -/
theorem Held.moves {state : State} {holder : Holder} (held : Held state)
    (holds : state.lock = some holder) :
    ∃ label next, label.actor = some holder ∧ label.continues = true ∧ label.fails = false ∧
      step state label = some next := by
  cases holder with
  | writer id =>
      obtain ⟨writer, found, inside⟩ := held.writer holds
      refine writer_moves found (Stage.locked_work inside) fun waits => ?_
      rw [waits] at inside
      cases inside
  | access id =>
      have inside := held.access holds
      refine access_moves (Access.locked_work inside) fun waits => ?_
      rcases waits with waits | waits
      all_goals
        rw [waits] at inside
        cases inside

/-! A step of a call brings it nearer to its end. -/

theorem WriterMove.lowers {state next : State} {id : WriterId} {writer : Writer} {label : Label}
    (move : WriterMove state id writer label next) (continues : label.continues = true) :
    ∃ updated, next.writers = Function.update state.writers id (some updated) ∧
      next.accesses = state.accesses ∧ updated.stage.work < writer.stage.work := by
  cases move with
  | write | writeClosed | commit | close => cases continues
  | lock stage | sync stage | syncFails stage | statAbsent stage | statFails stage
  | rename stage | renameFails stage | commitClose stage | closeFile stage | commitRemove stage
  | closeRemove stage | unlock stage =>
      exact ⟨_, rfl, rfl, by simp [stage, Stage.work]⟩

theorem AccessMove.lowers {state next : State} {id : AccessId} {access : Access} {label : Label}
    (move : AccessMove state id access label next) (continues : label.continues = true) :
    ∃ updated, next.accesses = Function.update state.accesses id updated ∧
      next.writers = state.writers ∧ updated.work < access.work := by
  cases move with
  | delete | openReader | closeReader => cases continues
  | deleteLock | readLock | deletePresent | deleteAbsent | deleteStatFails | readPresent
  | readFails | deleteRemove | deleteRemoveFails | readOpen | deleteUnlock | readUnlock
  | readUnlockFailed => exact ⟨_, rfl, rfl, by simp [Access.work]⟩

/-- No call is under way. -/
structure Quiet (state : State) : Prop where
  writers : ∀ {id writer}, state.writers id = some writer → writer.stage.work = 0
  accesses : ∀ id, (state.accesses id).work = 0
  lock : state.lock = none

/-- The goroutines in use have numbers below `bound`. -/
structure Bounded (bound : Nat) (state : State) : Prop where
  writers : ∀ {id writer}, state.writers id = some writer → id < bound
  accesses : ∀ {id}, state.accesses id ≠ .idle → id < bound

/-- Only so many goroutines are in use. -/
def Enumerated (state : State) : Prop := ∃ bound, Bounded bound state

theorem Bounded.mono {bound larger : Nat} {state : State} (bounded : Bounded bound state)
    (grows : bound ≤ larger) : Bounded larger state :=
  ⟨fun found => (bounded.writers found).trans_le grows,
    fun used => (bounded.accesses used).trans_le grows⟩

theorem Bounded.setWriter {bound : Nat} {state next : State} {id : WriterId} {updated : Writer}
    (bounded : Bounded bound state) (below : id < bound)
    (writers : next.writers = Function.update state.writers id (some updated))
    (accesses : next.accesses = state.accesses) : Bounded bound next := by
  refine ⟨fun {other writer} found => ?_, fun used => bounded.accesses (accesses ▸ used)⟩
  rw [writers] at found
  by_cases own : other = id
  · rwa [own]
  · rw [Function.update_of_ne own] at found
    exact bounded.writers found

theorem Bounded.setAccess {bound : Nat} {state next : State} {id : AccessId} {updated : Access}
    (bounded : Bounded bound state) (below : id < bound)
    (accesses : next.accesses = Function.update state.accesses id updated)
    (writers : next.writers = state.writers) : Bounded bound next := by
  refine ⟨fun found => bounded.writers (writers ▸ found), fun {other} used => ?_⟩
  rw [accesses] at used
  by_cases own : other = id
  · rwa [own]
  · rw [Function.update_of_ne own] at used
    exact bounded.accesses used

theorem Transition.bounded {state next : State} {label : Label} {bound : Nat}
    (transition : Transition state label next) (bounded : Bounded bound state) :
    Enumerated next := by
  cases transition with
  | @openWriter id =>
      refine ⟨max bound (id + 1), (bounded.mono (Nat.le_max_left ..)).setWriter ?_ rfl rfl⟩
      exact Nat.le_max_right ..
  | crash =>
      refine ⟨bound, fun {id writer} found => ?_, fun used => absurd rfl used⟩
      obtain ⟨old, present, -⟩ := Option.map_eq_some_iff.mp found
      exact bounded.writers present
  | writer found _ move =>
      obtain ⟨updated, frame⟩ := move.frame found
      exact ⟨bound, bounded.setWriter (bounded.writers found) frame.writers frame.accesses⟩
  | @access id _ _ _ move =>
      obtain ⟨updated, frame⟩ := move.frame
      refine ⟨max bound (id + 1), (bounded.mono (Nat.le_max_left ..)).setAccess ?_ frame.accesses
        frame.writers⟩
      exact Nat.le_max_right ..

theorem enumerated_of_run {trace : List Label} {state : State} (run : system.Run trace state) :
    Enumerated state := by
  refine run.invariant ?_ ?_
  · intro state initial
    rw [initial]
    exact ⟨0, fun found => (by cases found), fun used => absurd rfl used⟩
  · intro state next label _ stepped known
    obtain ⟨bound, bounded⟩ := known
    exact (step_transition stepped).bounded bounded

def writerWork (writer : Option Writer) : Nat := (writer.map (·.stage.work)).getD 0

/-- What all goroutines together have left. -/
def work (bound : Nat) (state : State) : Nat :=
  crewWork writerWork (Finset.range bound) state.writers +
    crewWork Access.work (Finset.range bound) state.accesses

theorem Transition.work_lt {state next : State} {label : Label} {bound : Nat}
    (transition : Transition state label next) (continues : label.continues = true)
    (bounded : Bounded bound state) :
    Bounded bound next ∧ work bound next < work bound state := by
  cases transition with
  | openWriter | crash => cases continues
  | @writer id writer _ _ found _ move =>
      obtain ⟨updated, writers, accesses, less⟩ := move.lowers continues
      have below := bounded.writers found
      refine ⟨bounded.setWriter below writers accesses, ?_⟩
      have change := crewWork_update writerWork state.writers (some updated)
        (Finset.mem_range.mpr below)
      simp only [found, writerWork, Option.map_some, Option.getD_some] at change
      simp only [work, writers, accesses]
      omega
  | @access id _ _ _ move =>
      obtain ⟨updated, accesses, writers, less⟩ := move.lowers continues
      have below : id < bound := bounded.accesses fun idle => by simp [idle, Access.work] at less
      refine ⟨bounded.setAccess below accesses writers, ?_⟩
      have change := crewWork_update Access.work state.accesses updated (Finset.mem_range.mpr below)
      simp only [work, writers, accesses]
      omega

theorem quiet_or_moves {state : State} (held : Held state) (unfinished : ¬Quiet state) :
    ∃ label next, label.continues = true ∧ step state label = some next := by
  cases lock : state.lock with
  | some holder =>
      obtain ⟨label, next, -, continues, -, stepped⟩ := held.moves lock
      exact ⟨label, next, continues, stepped⟩
  | none =>
      by_cases writers : ∃ id writer, state.writers id = some writer ∧ writer.stage.work ≠ 0
      · obtain ⟨id, writer, found, busy⟩ := writers
        obtain ⟨label, next, -, continues, -, stepped⟩ := writer_moves found busy fun _ => lock
        exact ⟨label, next, continues, stepped⟩
      by_cases accesses : ∃ id, (state.accesses id).work ≠ 0
      · obtain ⟨id, busy⟩ := accesses
        obtain ⟨label, next, -, continues, -, stepped⟩ := access_moves busy fun _ => lock
        exact ⟨label, next, continues, stepped⟩
      refine absurd ⟨fun {id writer} found => ?_, fun id => ?_, lock⟩ unfinished
      · exact not_not.mp fun busy => writers ⟨id, writer, found, busy⟩
      · exact not_not.mp fun busy => accesses ⟨id, busy⟩

/-- From every state that is reached, with any calls of the operating system failing
and in any order of the goroutines, all calls under way return and the mutex is free. -/
theorem calls_return {trace : List Label} {state : State} (run : system.Run trace state) :
    (system.only Label.continues).Inevitable (fun label => label.continues = true) Quiet state := by
  obtain ⟨bound, bounded⟩ := enumerated_of_run run
  refine TransitionSystem.inevitable_of_rank (work bound)
    (fun state => Held state ∧ Bounded bound state) ?_ ?_ ?_ ⟨held_of_run run, bounded⟩
  · intro state next label stepped kept
    obtain ⟨continues, moved⟩ := TransitionSystem.only_step_eq_some.mp stepped
    exact ⟨kept.1.keep (step_transition moved),
      ((step_transition moved).work_lt continues kept.2).1⟩
  · intro state next label stepped kept
    obtain ⟨continues, moved⟩ := TransitionSystem.only_step_eq_some.mp stepped
    exact .inr ((step_transition moved).work_lt continues kept.2).2
  · intro state kept unfinished
    obtain ⟨label, next, continues, moved⟩ := quiet_or_moves kept.1 unfinished
    refine ⟨label, next, continues, TransitionSystem.only_step_eq_some.mpr ⟨continues, moved⟩, ?_⟩
    intro same
    have less := ((step_transition moved).work_lt continues kept.2).2
    rw [same] at less
    exact Nat.lt_irrefl _ less

/-- A commit fails inside its critical section while a reader and another commit wait. -/
def contended : List Label :=
  [.openWriter 0 "ingest-1", .openWriter 1 "ingest-2", .commit 0 "runner", .lock 0,
    .commit 1 "runner", .openReader 0 "runner", .sync 0 false]

theorem calls_return_contended :
    ∃ state, system.Run contended state ∧ state.lock = some (.writer 0) ∧
      (system.only Label.continues).Inevitable (fun label => label.continues = true) Quiet state := by
  obtain ⟨state, executed, held⟩ :
      ∃ state ∈ system.execute newStore contended, state.lock = some (.writer 0) := by
    decide +kernel
  have run := TransitionSystem.runWith_of_executeWith rfl executed
  exact ⟨state, run, held, calls_return run⟩

end Kperf.Runner.LocalStore
