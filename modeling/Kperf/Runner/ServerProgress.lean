import Kperf.Runner.LocalStoreProgress
import Kperf.Runner.ServerSummary

/-! The server finishes what it has begun. Handlers of uploads and the goroutine of the
summary compete for the mutex of the store, and any call may fail; as long as the
process lives and no new request comes in, every handler ends and the summary is
published. -/

set_option autoImplicit false

namespace Kperf.Runner.Server

open Types Summary

/-- What the writer of a handler does while that stands at a stage. -/
def Attends (writer : Option LocalStore.Writer) : Stage → Prop
  | .checking _ | .opening => writer = none
  | .copying _ | .returned _ => ∃ held, writer = some held ∧ held.stage = .idle
  | .committing => ∃ held, writer = some held ∧ held.stage.ref.isSome = true
  | .closing => ∃ held, writer = some held ∧
      (held.stage = .idle ∨ held.stage = .closeFile ∨ held.stage = .closeRemove)
  | .done => ∀ held, writer = some held → held.stage = .idle
  | .dead => ∀ held, writer = some held → held.stage = .dead

/-- The goroutine is in `OpenReader` or holds what that returned. -/
def reads : LocalStore.Access → Bool
  | .readLock _ | .readStat _ | .readOpen _ | .readUnlock _ _ | .reading _ => true
  | _ => false

def ReaderAt (access : LocalStore.Access) : Phase → Prop
  | .reading _ _ _ _ _ => reads access = true
  | .waiting _ | .merging _ _ | .ready _ => access = .idle

/-- A handler that lives has its answer once it closes its file or has ended. -/
def Attempt.Answered (attempt : Attempt) : Prop :=
  attempt.stage ≠ .dead →
    (attempt.status.isSome = true ↔ attempt.stage = .closing ∨ attempt.stage = .done)

theorem Attempt.Answered.unanswered {attempt : Attempt} (answered : attempt.Answered)
    (alive : attempt.stage ≠ .dead) (closing : attempt.stage ≠ .closing)
    (ended : attempt.stage ≠ .done) : attempt.status = none := by
  simpa [closing, ended] using answered alive

/-- Every goroutine of the store works for a handler or for the summary, and every runner
that waits has its handler. -/
structure Staffed (state : State) : Prop where
  held : LocalStore.Held state.store
  owned : ∀ {id writer}, state.store.writers id = some writer →
    ∃ attempt, state.attempts id = some attempt
  attends : ∀ {id attempt}, state.attempts id = some attempt →
    Attends (state.store.writers id) attempt.stage
  reader : ReaderAt (state.store.accesses 0) state.summary.phase
  others : ∀ {id}, id ≠ 0 → state.store.accesses id = .idle
  answered : ∀ id attempt, state.attempts id = some attempt → attempt.Answered
  posted : ∀ {pod id}, state.clients pod = .posting id → ∃ attempt, state.attempts id = some attempt

theorem staffed_start (setting : Setting) : Staffed (start setting) where
  held := LocalStore.held_newStore
  owned := fun found => by cases found
  attends := fun found => by cases found
  reader := rfl
  others := fun _ => rfl
  answered := fun _ _ found => by cases found
  posted := fun posting => by cases posting

/-! How much a handler has left to do, given the size of its body. -/

def closeWork : LocalStore.Stage → Nat
  | .idle => 3
  | .closeFile => 2
  | .closeRemove => 1
  | _ => 0

def handlerWork (size : Nat) (writer : Option LocalStore.Writer) : Stage → Nat
  | .checking groups => 15 + size + groups.length
  | .opening => 14 + size
  | .copying rest => 13 + rest.length
  | .committing => 5 + LocalStore.writerWork writer
  | .returned _ => 5
  | .closing => 1 + (writer.map fun held => closeWork held.stage).getD 0
  | .done | .dead => 0

/-- What a step of a handler does to its stage and its writer. -/
structure Advances (setting : Setting) (state next : State) (id : AttemptId)
    (attempt updated : Attempt) : Prop where
  attempts : next.attempts = Function.update state.attempts id (some updated)
  attends : Attends (next.store.writers id) updated.stage
  pod : updated.pod = attempt.pod
  alive : updated.stage ≠ .dead
  answered : attempt.Answered → updated.Answered
  less : handlerWork (setting.body attempt.pod).length (next.store.writers id) updated.stage <
    handlerWork (setting.body attempt.pod).length (state.store.writers id) attempt.stage

/-- A call of the store brings the handler that makes it forward. -/
theorem work_advances {store after : LocalStore.State} {id : AttemptId} {writer : LocalStore.Writer}
    {label : LocalStore.Label} {stage next : Stage}
    (move : LocalStore.WriterMove store id writer label after)
    (works : workStage writer.stage stage label = some next)
    (attends : Attends (some writer) stage) (size : Nat) :
    ∃ updated, after.writers id = some updated ∧ Attends (some updated) next ∧
      handlerWork size (some updated) next < handlerWork size (some writer) stage := by
  have committing : stage = .committing → writer.stage.ref.isSome = true := by
    rintro rfl
    obtain ⟨held, same, under⟩ := attends
    cases same
    exact under
  have closing : stage = .closing → writer.stage.ref = none := by
    rintro rfl
    obtain ⟨held, same, idle | closes | removes⟩ := attends
    all_goals
      cases same
      simp [LocalStore.Stage.ref, *]
  cases move with
  | write | writeClosed => cases stage <;> simp [workStage] at works
  | commit => cases stage <;> simp [workStage] at works
  | lock stands | sync stands | syncFails stands | statAbsent stands | statFails stands
  | rename stands | renameFails stands =>
      cases stage <;> simp only [workStage, reduceCtorEq, Option.some.injEq] at works
      subst next
      exact ⟨_, LocalStore.setWriter_own .., ⟨_, rfl, rfl⟩, by
        simp [handlerWork, LocalStore.writerWork, stands, LocalStore.Stage.work]⟩
  | commitClose stands | commitRemove stands =>
      rw [stands] at closing
      cases stage <;> simp only [workStage, reduceCtorEq, Option.some.injEq] at works
      · subst next
        exact ⟨_, LocalStore.setWriter_own .., ⟨_, rfl, rfl⟩, by
          simp [handlerWork, LocalStore.writerWork, stands, LocalStore.Stage.work]⟩
      · cases closing rfl
  | closeFile stands =>
      rw [stands] at committing
      cases stage <;> simp only [workStage, reduceCtorEq, Option.some.injEq] at works
      · cases committing rfl
      · subst next
        exact ⟨_, LocalStore.setWriter_own .., ⟨_, rfl, .inr (.inr rfl)⟩, by
          simp [handlerWork, stands, closeWork]⟩
  | closeRemove stands =>
      rw [stands] at committing
      cases stage <;> simp only [workStage, reduceCtorEq, Option.some.injEq] at works
      · cases committing rfl
      · subst next
        refine ⟨_, LocalStore.setWriter_own .., ?_, by simp [handlerWork]⟩
        intro held same
        cases same
        rfl
  | unlock stands =>
      cases stage <;> simp only [workStage, stands, reduceCtorEq, Option.some.injEq] at works
      subst next
      exact ⟨_, LocalStore.setWriter_own .., ⟨_, rfl, rfl⟩, by
        simp [handlerWork, LocalStore.writerWork, stands, LocalStore.Stage.work]⟩
  | close stands =>
      cases stage <;> simp only [workStage, reduceCtorEq, Option.some.injEq] at works
      subst next
      exact ⟨_, LocalStore.setWriter_own .., ⟨_, rfl, .inr (.inl rfl)⟩, by
        simp [handlerWork, stands, closeWork]⟩

theorem step_write {store after : LocalStore.State} {id : AttemptId} {bytes : List UInt8}
    {count : Nat} (called : LocalStore.step store (.write id bytes count) = some after) :
    (∃ updated, after.writers id = some updated ∧ updated.stage = .idle) ∧
      (bytes = [] → after = store) := by
  cases LocalStore.step_transition called with
  | access actor _ => cases actor
  | writer found actor move =>
      cases actor
      cases move with
      | writeClosed stands => exact ⟨⟨_, found, stands⟩, fun _ => rfl⟩
      | write stands =>
          refine ⟨⟨_, LocalStore.setWriter_own .., stands⟩, ?_⟩
          intro nothing
          subst nothing
          simp only [List.take_nil, List.append_nil, Function.update_eq_self,
            LocalStore.State.setWriter, ← found]

theorem step_opened {store after : LocalStore.State} {id : AttemptId} {name : String}
    (called : LocalStore.step store (.openWriter id name) = some after) :
    ∃ writer, after.writers id = some writer ∧ writer.stage = .idle := by
  cases LocalStore.step_transition called with
  | writer _ actor _ | access actor _ => cases actor
  | openWriter => exact ⟨_, Function.update_self .., rfl⟩

theorem step_commit {store after : LocalStore.State} {id : AttemptId} {ref : String}
    (called : LocalStore.step store (.commit id ref) = some after) :
    ∃ writer, after.writers id = some writer ∧ writer.stage = .commitLock ref := by
  cases LocalStore.step_transition called with
  | access actor _ => cases actor
  | writer found actor move =>
      cases actor
      cases move
      exact ⟨_, LocalStore.setWriter_own .., rfl⟩

/-- The step of a handler that copies an empty part of its body. -/
def Label.copies : Label → Bool
  | .copy _ _ _ => true
  | _ => false

theorem workStage_stages {writer : LocalStore.Stage} {stage after : Stage}
    {label : LocalStore.Label} (works : workStage writer stage label = some after) :
    (stage = .committing ∧ (after = .committing ∨ ∃ result, after = .returned result)) ∨
      stage = .closing ∧ (after = .closing ∨ after = .done) := by
  unfold workStage at works
  split at works <;> try split at works
  all_goals cases works
  all_goals simp

/-- The answer stays away while the handler is not about to close its file. -/
theorem Attempt.Answered.goesOn {attempt updated : Attempt} (answered : attempt.Answered)
    (same : updated.status = attempt.status)
    (before : attempt.stage ≠ .dead ∧ attempt.stage ≠ .closing ∧ attempt.stage ≠ .done)
    (after : updated.stage ≠ .closing ∧ updated.stage ≠ .done) : updated.Answered := by
  intro alive
  rw [same, answered.unanswered before.1 before.2.1 before.2.2]
  simp [after.1, after.2]

theorem work_answered {writer : LocalStore.Stage} {attempt : Attempt} {stage : Stage}
    {label : LocalStore.Label} (works : workStage writer attempt.stage label = some stage)
    (answered : attempt.Answered) : Attempt.Answered { attempt with stage } := by
  rcases workStage_stages works with ⟨before, after⟩ | ⟨before, after⟩
  · refine answered.goesOn rfl (by simp [before]) ?_
    rcases after with rfl | ⟨result, rfl⟩ <;> simp
  · have status := (answered (by simp [before])).mpr (.inl before)
    exact fun _ => ⟨fun _ => after, fun _ => status⟩

theorem AttemptMove.advances {setting : Setting} {state next : State} {id : AttemptId}
    {attempt : Attempt} {label : Label} (move : AttemptMove setting state id attempt label next)
    (found : state.attempts id = some attempt)
    (attends : Attends (state.store.writers id) attempt.stage) :
    (next = state ∧ label.copies = true) ∨
      ∃ updated, Advances setting state next id attempt updated := by
  cases move with
  | refuse stands | checkFails stands | openFails stands =>
      rw [stands] at attends
      refine .inr ⟨_, rfl, ?_, rfl, Stage.noConfusion, fun _ _ => by simp, by simp [handlerWork, stands]⟩
      intro held same
      rw [setAttempt_store, show state.store.writers id = none from attends] at same
      cases same
  | accept stands =>
      rw [stands] at attends
      refine .inr ⟨_, rfl, attends, rfl, Stage.noConfusion,
        fun known => known.goesOn rfl (by simp [stands]) (by simp), ?_⟩
      simp only [handlerWork, stands]
      omega
  | pass stands =>
      rw [stands] at attends
      exact .inr ⟨_, rfl, attends, rfl, Stage.noConfusion,
        fun known => known.goesOn rfl (by simp [stands]) (by simp), by simp [handlerWork, stands]⟩
  | opened stands called =>
      exact .inr ⟨_, rfl, step_opened called, rfl, Stage.noConfusion,
        fun known => known.goesOn rfl (by simp [stands]) (by simp), by simp [handlerWork, stands]⟩
  | @copied rest count taken store stands called whole =>
      obtain ⟨idle, unchanged⟩ := step_write called
      by_cases nothing : rest.take count = []
      · have same : rest.drop count = rest := by
          rcases List.take_eq_nil_iff.mp nothing with none | empty
          · rw [none, List.drop_zero]
          · rw [empty, List.drop_nil]
        refine .inl ⟨?_, rfl⟩
        rw [unchanged nothing, same, ← stands]
        simp only [State.setAttempt, ← found, Function.update_eq_self]
      · refine .inr ⟨_, rfl, idle, rfl, Stage.noConfusion,
          fun known => known.goesOn rfl (by simp [stands]) (by simp), ?_⟩
        have shorter : (rest.drop count).length < rest.length := by
          have some : count ≠ 0 ∧ rest ≠ [] := by simpa [List.take_eq_nil_iff] using nothing
          have long := List.length_pos_of_ne_nil some.2
          rw [List.length_drop]
          omega
        simpa [handlerWork, stands] using shorter
  | copiedShort stands called =>
      obtain ⟨⟨writer, opened, idle⟩, -⟩ := step_write called
      refine .inr ⟨_, rfl, ⟨writer, opened, .inl idle⟩, rfl, Stage.noConfusion, fun _ _ => by simp, ?_⟩
      simp only [handlerWork, stands, setAttempt_store, opened, Option.map_some, Option.getD_some,
        idle, closeWork]
      omega
  | commit stands called =>
      obtain ⟨writer, opened, locking⟩ := step_commit called
      refine .inr ⟨_, rfl, ⟨writer, opened, by rw [locking]; rfl⟩, rfl, Stage.noConfusion,
        fun known => known.goesOn rfl (by simp [stands]) (by simp), ?_⟩
      simp [handlerWork, stands, opened, LocalStore.writerWork, locking, LocalStore.Stage.work]
  | cut stands | answer stands =>
      rw [stands] at attends
      obtain ⟨writer, opened, idle⟩ := attends
      refine .inr ⟨_, rfl, ⟨writer, opened, .inl idle⟩, rfl, Stage.noConfusion, fun _ _ => by simp, ?_⟩
      simp only [handlerWork, stands, setAttempt_store, opened, Option.map_some, Option.getD_some,
        idle, closeWork]
      omega
  | work actor known works called =>
      rw [known] at attends
      cases LocalStore.step_transition called with
      | openWriter | crash => cases actor
      | access caller _ =>
          rw [actor] at caller
          cases caller
      | writer present caller move =>
          rw [actor] at caller
          cases caller
          rw [known] at present
          cases present
          obtain ⟨updated, after, stands, less⟩ := work_advances move works attends
            (setting.body attempt.pod).length
          refine .inr ⟨_, rfl, by rwa [setAttempt_store, after], rfl, ?_, work_answered works, by
            rwa [setAttempt_store, after, known]⟩
          rcases workStage_stages works with ⟨-, rfl | ⟨result, rfl⟩⟩ | ⟨-, rfl | rfl⟩
          all_goals exact Stage.noConfusion

/-! The goroutine of the summary. -/

/-- A call of the reader leaves it in `OpenReader` or with an open file, unless it was
the unlock of one that failed. -/
theorem step_reader {store after : LocalStore.State} {label : LocalStore.Label}
    (called : LocalStore.step store label = some after) (reader : isReaderCall label = true)
    (reading : reads (store.accesses 0) = true) :
    (∀ {id}, id ≠ 0 → after.accesses id = store.accesses id) ∧
      (after.accesses 0).work < (store.accesses 0).work ∧
      (reads (after.accesses 0) = true ∨ label = .unlockAccess 0 ∧ after.accesses 0 = .idle) := by
  have actor : label.actor = some (.access 0) := by
    cases label with
    | lockAccess id | statAccess id | openAccess id | unlockAccess id =>
        cases eq_of_beq reader
        rfl
    | _ => cases reader
  cases LocalStore.step_transition called with
  | openWriter | crash => cases actor
  | writer _ caller _ =>
      rw [actor] at caller
      cases caller
  | access caller move =>
      rw [actor] at caller
      cases caller
      have others : ∀ {id}, id ≠ 0 → after.accesses id = store.accesses id := by
        intro id different
        obtain ⟨updated, frame⟩ := move.frame
        rw [frame.accesses, Function.update_of_ne different]
      refine ⟨others, ?_⟩
      generalize store.accesses 0 = access at move reading
      cases move with
      | delete | openReader | closeReader | deleteRemove | deleteRemoveFails => cases reader
      | deleteLock | deletePresent | deleteAbsent | deleteStatFails | deleteUnlock => cases reading
      | readLock | readPresent | readFails | readOpen | readUnlock | readUnlockFailed =>
          simp [LocalStore.Access.work, reads]

/-- How many groups the summary has left to list, and to wait for before. -/
def groupsLeft (setting : Setting) : Phase → Nat
  | .waiting running => setting.groups.length + 2 + running.length
  | .merging _ groups | .reading _ _ _ _ groups => groups.length + 1
  | .ready _ => 0

/-- What the summary has left to do for the group at hand. -/
def summaryWork (access : LocalStore.Access) : Phase → Nat
  | .merging pods _ => 6 * pods.length
  | .reading _ _ _ pods _ => 6 * pods.length + 1 + access.work
  | .waiting _ | .ready _ => 0

/-- What a step of the summary does to its phase and its reader. -/
structure Proceeds (setting : Setting) (state : State) (phase : Phase) (next : State) : Prop where
  reader : ReaderAt (next.store.accesses 0) next.summary.phase
  others : ∀ {id}, id ≠ 0 → next.store.accesses id = state.store.accesses id
  less : Prod.Lex (· < ·) (· < ·)
    (groupsLeft setting next.summary.phase,
      summaryWork (next.store.accesses 0) next.summary.phase)
    (groupsLeft setting phase, summaryWork (state.store.accesses 0) phase)

theorem step_openReader {store after : LocalStore.State} {ref : String}
    (called : LocalStore.step store (.openReader 0 ref) = some after) :
    after = store.setAccess 0 (.readLock ref) := by
  cases LocalStore.step_transition called with
  | writer _ actor _ => cases actor
  | access actor move =>
      cases actor
      generalize store.accesses 0 = access at move
      cases move
      rfl

theorem step_closeReader {store after : LocalStore.State}
    (called : LocalStore.step store (.closeReader 0) = some after) :
    after = store.setAccess 0 .idle := by
  cases LocalStore.step_transition called with
  | writer _ actor _ => cases actor
  | access actor move =>
      cases actor
      generalize store.accesses 0 = access at move
      cases move
      rfl

/-- A group finishes once, and only a request that is under way can be lost. -/
def Guarded (state : State) : Label → Prop
  | .finish group => ∃ running, state.summary.phase = .waiting running ∧ group ∈ running
  | .lose pod => ∃ id, state.clients pod = .posting id
  | _ => True

theorem guarded_of_step {setting : Setting} {state next : State} {label : Label}
    (stepped : step setting state label = some next) : Guarded state label := by
  cases label with
  | finish group =>
      simp only [step, stepSummary] at stepped
      split at stepped
      · split_ifs at stepped with member
        rename_i same
        cases same
        exact ⟨_, ‹_›, member⟩
      all_goals simp_all
  | lose pod =>
      simp only [step, stepClient] at stepped
      split at stepped
      · exact ⟨_, ‹_›⟩
      · cases stepped
  | _ => trivial

theorem SummaryMove.proceeds {setting : Setting} {state next : State} {phase : Phase}
    {label : Label} (move : SummaryMove setting state phase label next)
    (standing : state.summary.phase = phase) (guarded : Guarded state label)
    (reader : ReaderAt (state.store.accesses 0) phase) : Proceeds setting state phase next := by
  cases move with
  | finish =>
      obtain ⟨running, same, member⟩ := guarded
      cases standing.symm.trans same
      refine ⟨reader, fun _ => rfl, .left _ _ ?_⟩
      have shorter := List.length_erase_of_mem member
      have some := List.length_pos_of_mem member
      simp only [groupsLeft]
      omega
  | summarize => exact ⟨reader, fun _ => rfl, .left _ _ (by simp [groupsLeft])⟩
  | listFails | list => exact ⟨reader, fun _ => rfl, .left _ _ (by simp [groupsLeft])⟩
  | publish => exact ⟨reader, fun _ => rfl, .left _ _ (by simp [groupsLeft])⟩
  | openReader called =>
      cases step_openReader called
      refine ⟨by simp [ReaderAt, reads], fun different => by simp [different], .right _ ?_⟩
      simp only [summaryWork, LocalStore.setAccess_accesses, if_true, LocalStore.Access.work,
        List.length_cons]
      omega
  | call isCall called goesOn =>
      obtain ⟨others, less, after⟩ := step_reader called isCall reader
      rcases after with still | ended
      · refine ⟨still, others, .right _ ?_⟩
        simp only [summaryWork]
        omega
      · exact absurd ended goesOn
  | openFails called idle =>
      obtain ⟨others, -, -⟩ := step_reader called rfl reader
      refine ⟨idle, others, .right _ ?_⟩
      simp only [SummaryState.finishRead, summaryWork]
      omega
  | readAll _ called =>
      cases step_closeReader called
      refine ⟨by simp [ReaderAt, SummaryState.finishRead], fun different => by simp [different],
        .right _ ?_⟩
      simp only [SummaryState.finishRead, summaryWork]
      omega

/-! Everything together. -/

/-- A property of every handler is kept by a step of one, if it is kept there. -/
theorem forall_attempt_update {state next : State} {id : AttemptId} {updated : Attempt}
    (holds : AttemptId → Attempt → Prop)
    (attempts : next.attempts = Function.update state.attempts id (some updated))
    (own : holds id updated)
    (others : ∀ {other attempt}, other ≠ id → state.attempts other = some attempt →
      holds other attempt) :
    ∀ other attempt, next.attempts other = some attempt → holds other attempt := by
  intro other attempt found
  rw [attempts] at found
  by_cases same : other = id
  · subst same
    rw [Function.update_self] at found
    cases found
    exact own
  · rw [Function.update_of_ne same] at found
    exact others same found

theorem Client.receive_rests (code : Nat) (id : AttemptId) : Client.receive code ≠ .posting id := by
  unfold Client.receive
  split_ifs <;> simp

theorem Staffed.posted_setClient {state : State} (staffed : Staffed state) {pod : String}
    {client : Client} (resting : ∀ id, client ≠ .posting id) {other : String} {id : AttemptId}
    (posting : (state.setClient pod client).clients other = .posting id) :
    ∃ attempt, state.attempts id = some attempt := by
  rw [setClient_clients] at posting
  split at posting
  · exact absurd posting (resting id)
  · exact staffed.posted posting

/-- A step of one handler takes no handler away. -/
theorem exists_attempt_update {state next : State} {id other : AttemptId} {updated : Attempt}
    (attempts : next.attempts = Function.update state.attempts id (some updated))
    (known : other = id ∨ ∃ attempt, state.attempts other = some attempt) :
    ∃ attempt, next.attempts other = some attempt := by
  rw [attempts]
  by_cases own : other = id
  · exact ⟨updated, by rw [own, Function.update_self]⟩
  · rw [Function.update_of_ne own]
    exact known.resolve_left own

theorem Staffed.keep {setting : Setting} {state next : State} {label : Label}
    (staffed : Staffed state) (stepped : step setting state label = some next) : Staffed next := by
  have transition := step_transition stepped
  have held : LocalStore.Held next.store := by
    rcases transition.storeEffect with same | ⟨action, called, -⟩
    · rw [same]
      exact staffed.held
    · exact staffed.held.keep (LocalStore.step_transition called)
  cases transition with
  | @post pod id _ unused =>
      have unopened : state.store.writers id = none := by
        cases opened : state.store.writers id with
        | none => rfl
        | some writer =>
            obtain ⟨attempt, found⟩ := staffed.owned opened
            rw [unused] at found
            cases found
      refine { staffed with owned := ?_, attends := ?_, answered := ?_, posted := ?_ }
      · intro other writer opened
        exact exists_attempt_update rfl (.inr (staffed.owned opened))
      · intro other attempt found
        refine forall_attempt_update (fun other attempt => Attends (state.store.writers other)
          attempt.stage) rfl ?_ (fun _ => staffed.attends) other attempt found
        exact unopened
      · refine forall_attempt_update (fun _ => Attempt.Answered) rfl ?_
          fun _ found => staffed.answered _ _ found
        exact fun _ => by simp
      · intro other handler posting
        refine exists_attempt_update rfl ?_
        rw [setClient_clients] at posting
        split at posting
        · cases posting
          exact .inl rfl
        · exact .inr (staffed.posted posting)
  | receive => exact { staffed with posted := staffed.posted_setClient (Client.receive_rests _) }
  | lose => exact { staffed with posted := staffed.posted_setClient (by simp) }
  | get | cancel => exact { staffed with }
  | @attempt id attempt _ _ found move =>
      obtain ⟨clients, others⟩ := move.frame
      obtain ⟨summary, -, accesses⟩ := move.summary
      rcases move.advances found (staffed.attends found) with ⟨same, -⟩ | ⟨updated, advances⟩
      · rwa [same]
      · refine ⟨held, ?_, ?_, ?_, ?_, ?_, ?_⟩
        · intro other writer opened
          refine exists_attempt_update advances.attempts ?_
          by_cases own : other = id
          · exact .inl own
          · exact .inr (staffed.owned (others own ▸ opened))
        · intro other handler present
          refine forall_attempt_update (fun other attempt => Attends (next.store.writers other)
            attempt.stage) advances.attempts advances.attends (fun different found => ?_) other handler
            present
          rw [others different]
          exact staffed.attends found
        · rw [summary, accesses]
          exact staffed.reader
        · rw [accesses]
          exact staffed.others
        · exact forall_attempt_update (fun _ => Attempt.Answered) advances.attempts
            (advances.answered (staffed.answered _ _ found)) fun _ found => staffed.answered _ _ found
        · intro pod other posting
          exact exists_attempt_update advances.attempts (.inr (staffed.posted (clients ▸ posting)))
  | summary move =>
      obtain ⟨attempts, clients, writers⟩ := move.frame
      have proceeds := move.proceeds rfl (guarded_of_step stepped) staffed.reader
      refine ⟨held, ?_, ?_, proceeds.reader, ?_, ?_, ?_⟩
      · rw [attempts, writers]
        exact staffed.owned
      · rw [attempts, writers]
        exact staffed.attends
      · intro id different
        rw [proceeds.others different]
        exact staffed.others different
      · rw [attempts]
        exact staffed.answered
      · rw [attempts, clients]
        exact staffed.posted
  | crash =>
      refine ⟨held, ?_, ?_, rfl, fun _ => rfl, ?_, ?_⟩
      · intro id writer opened
        obtain ⟨before, known, -⟩ := Option.map_eq_some_iff.mp opened
        obtain ⟨attempt, handler⟩ := staffed.owned known
        exact ⟨_, Option.map_eq_some_iff.mpr ⟨attempt, handler, rfl⟩⟩
      · intro id attempt found
        obtain ⟨before, -, rfl⟩ := Option.map_eq_some_iff.mp found
        intro writer opened
        obtain ⟨old, -, rfl⟩ := Option.map_eq_some_iff.mp opened
        rfl
      · intro id attempt found alive
        obtain ⟨before, -, rfl⟩ := Option.map_eq_some_iff.mp found
        exact absurd rfl alive
      · intro pod id posting
        obtain ⟨attempt, handler⟩ := staffed.posted posting
        exact ⟨_, Option.map_eq_some_iff.mpr ⟨attempt, handler, rfl⟩⟩

theorem staffed_of_run {setting : Setting} {trace : List Label} {state : State}
    (run : (system setting).Run trace state) : Staffed state := by
  refine run.invariant ?_ ?_
  · intro state initial
    rw [initial]
    exact staffed_start setting
  · intro state next label _ stepped staffed
    exact staffed.keep stepped

/-- The requests there have been, and the runners that wait for an answer. -/
structure Within (ids : Finset AttemptId) (pods : Finset String) (state : State) : Prop where
  attempts : ∀ {id attempt}, state.attempts id = some attempt → id ∈ ids
  clients : ∀ {pod id}, state.clients pod = .posting id → pod ∈ pods

def Populated (state : State) : Prop := ∃ ids pods, Within ids pods state

section Population

variable {setting : Setting} {state next : State} {label : Label}
variable {ids : Finset AttemptId} {pods : Finset String}

theorem Within.setAttempt {id : AttemptId} {updated : Attempt} (within : Within ids pods state)
    (member : id ∈ ids)
    (attempts : next.attempts = Function.update state.attempts id (some updated))
    (clients : next.clients = state.clients) : Within ids pods next := by
  refine ⟨fun {other attempt} found => ?_, fun posting => within.clients (clients ▸ posting)⟩
  rw [attempts] at found
  by_cases own : other = id
  · rwa [own]
  · rw [Function.update_of_ne own] at found
    exact within.attempts found

theorem Within.setClient {pod : String} {client : Client} (within : Within ids pods state)
    (resting : ∀ id, client ≠ .posting id) : Within ids pods (state.setClient pod client) := by
  refine ⟨within.attempts, fun {other id} posting => ?_⟩
  rw [setClient_clients] at posting
  split at posting
  · exact absurd posting (resting id)
  · exact within.clients posting

theorem AttemptMove.attempts {id : AttemptId} {attempt : Attempt}
    (move : AttemptMove setting state id attempt label next) :
    ∃ updated, next.attempts = Function.update state.attempts id (some updated) := by
  cases move <;> exact ⟨_, rfl⟩

/-- Nothing but a new request adds to the population. -/
theorem Transition.within (transition : Transition setting state label next)
    (within : Within ids pods state) :
    Within ids pods next ∨ ∃ pod id, label = .post pod id ∧
      Within (insert id ids) (insert pod pods) next := by
  cases transition with
  | @post pod id _ _ =>
      refine .inr ⟨pod, id, rfl, fun {other attempt} found => ?_, fun {other other'} posting => ?_⟩
      · replace found := (setAttempt_attempts ..).symm.trans found
        split at found
        · exact Finset.mem_insert.mpr (.inl ‹_›)
        · exact Finset.mem_insert_of_mem (within.attempts found)
      · rw [setClient_clients] at posting
        split at posting
        · exact Finset.mem_insert.mpr (.inl ‹_›)
        · exact Finset.mem_insert_of_mem (within.clients posting)
  | receive => exact .inl (within.setClient (Client.receive_rests _))
  | lose => exact .inl (within.setClient (by simp))
  | @attempt id attempt _ _ found move =>
      obtain ⟨clients, -⟩ := move.frame
      obtain ⟨updated, attempts⟩ := move.attempts
      exact .inl (within.setAttempt (within.attempts found) attempts clients)
  | summary move =>
      obtain ⟨attempts, clients, -⟩ := move.frame
      refine .inl ⟨?_, ?_⟩
      · rw [attempts]
        exact within.attempts
      · rw [clients]
        exact within.clients
  | get | cancel => exact .inl ⟨within.attempts, within.clients⟩
  | crash =>
      refine .inl ⟨fun {id attempt} found => ?_, within.clients⟩
      obtain ⟨before, known, -⟩ := Option.map_eq_some_iff.mp found
      exact within.attempts known

theorem populated_of_run {trace : List Label} (run : (system setting).Run trace state) :
    Populated state := by
  refine run.invariant ?_ ?_
  · intro state initial
    rw [initial]
    exact ⟨∅, ∅, fun found => (by cases found), fun posting => (by cases posting)⟩
  · intro state next label _ stepped known
    obtain ⟨ids, pods, within⟩ := known
    rcases (step_transition stepped).within within with same | ⟨pod, id, -, grown⟩
    · exact ⟨ids, pods, same⟩
    · exact ⟨_, _, grown⟩

end Population

def attemptWork (setting : Setting) : Option Attempt × Option LocalStore.Writer → Nat
  | (none, _) => 0
  | (some attempt, writer) =>
      handlerWork (setting.body attempt.pod).length writer attempt.stage

def Client.work : Client → Nat
  | .posting _ => 1
  | .ready | .exited _ => 0

def State.crew (state : State) (id : AttemptId) : Option Attempt × Option LocalStore.Writer :=
  (state.attempts id, state.store.writers id)

/-- Listing a group can bring any number of pods, so the groups come first. -/
def rank (setting : Setting) (ids : Finset AttemptId) (pods : Finset String) (state : State) :
    Nat × Nat :=
  (groupsLeft setting state.summary.phase,
    crewWork (attemptWork setting) ids state.crew + crewWork Client.work pods state.clients +
      summaryWork (state.store.accesses 0) state.summary.phase)

/-- The process lives on and no request comes in. -/
def Label.proceeds : Label → Bool
  | .post _ _ | .get _ | .cancel _ | .crash => false
  | .check _ _ | .openWriter _ _ | .copy _ _ _ | .bodyEnds _ | .bodyFails _ | .work _ | .answer _
  | .receive _ | .lose _ | .finish _ | .summarize | .list _ | .openReader | .readerWork _
  | .readAll _ _ | .publish _ => true

section Descent

variable {setting : Setting} {state next : State} {label : Label}
variable {ids : Finset AttemptId} {pods : Finset String}

theorem setClient_descends {pod : String} {id : AttemptId} {client : Client}
    (within : Within ids pods state) (posting : state.clients pod = .posting id)
    (resting : ∀ id, client ≠ .posting id) :
    Prod.Lex (· < ·) (· < ·) (rank setting ids pods (state.setClient pod client))
      (rank setting ids pods state) := by
  have change := crewWork_update Client.work state.clients client (within.clients posting)
  have done : client.work = 0 := by
    cases client with
    | posting id => exact absurd rfl (resting id)
    | ready | exited => rfl
  rw [posting, done] at change
  refine .right _ ?_
  change crewWork (attemptWork setting) ids state.crew +
    crewWork Client.work pods (Function.update state.clients pod client) +
      summaryWork (state.store.accesses 0) state.summary.phase < _
  simp only [Client.work] at change
  omega

theorem Advances.crew {id : AttemptId} {attempt updated : Attempt}
    (advances : Advances setting state next id attempt updated)
    (others : ∀ {other}, other ≠ id → next.store.writers other = state.store.writers other) :
    next.crew = Function.update state.crew id (some updated, next.store.writers id) := by
  funext other
  by_cases own : other = id
  · subst other
    simp [State.crew, advances.attempts]
  · simp [State.crew, advances.attempts, own, others own]

theorem step_descends (stepped : step setting state label = some next)
    (proceeds : label.proceeds = true) (staffed : Staffed state) (within : Within ids pods state) :
    (next = state ∧ label.copies = true) ∨
      Prod.Lex (· < ·) (· < ·) (rank setting ids pods next) (rank setting ids pods state) := by
  cases step_transition stepped with
  | post | get | cancel | crash => cases proceeds
  | receive posting =>
      exact .inr (setClient_descends within posting (Client.receive_rests _))
  | lose =>
      obtain ⟨id, posting⟩ := guarded_of_step stepped
      exact .inr (setClient_descends within posting (by simp))
  | @attempt id attempt _ _ found move =>
      obtain ⟨clients, others⟩ := move.frame
      obtain ⟨summary, -, accesses⟩ := move.summary
      rcases move.advances found (staffed.attends found) with same | ⟨updated, advances⟩
      · exact .inl same
      · have change := crewWork_update (attemptWork setting) state.crew
          (some updated, next.store.writers id) (within.attempts found)
        have less := advances.less
        have before : attemptWork setting (state.crew id) =
            handlerWork (setting.body attempt.pod).length (state.store.writers id) attempt.stage := by
          simp [State.crew, found, attemptWork]
        have after : attemptWork setting (some updated, next.store.writers id) =
            handlerWork (setting.body attempt.pod).length (next.store.writers id) updated.stage := by
          simp [attemptWork, advances.pod]
        rw [before, after] at change
        refine .inr ?_
        rw [rank, rank, advances.crew others, clients, summary, accesses]
        exact .right _ (by omega)
  | summary move =>
      obtain ⟨attempts, clients, writers⟩ := move.frame
      have crew : next.crew = state.crew := by
        funext id
        rw [State.crew, State.crew, attempts, writers]
      have proceeds := move.proceeds rfl (guarded_of_step stepped) staffed.reader
      refine .inr ?_
      rw [rank, rank, crew, clients]
      rcases Prod.lex_def.mp proceeds.less with less | ⟨same, less⟩
      · exact .left _ _ less
      · simp only at same less
        rw [same]
        exact .right _ (by omega)

end Descent

/-! Some step is open until everything has ended. -/

/-- All that was begun has ended. -/
structure Settled (state : State) : Prop where
  published : ∃ report, state.summary.phase = .ready report
  handled : ∀ {id attempt}, state.attempts id = some attempt →
    attempt.stage = .done ∨ attempt.stage = .dead
  heard : ∀ {pod id}, state.clients pod ≠ .posting id

/-- One of some steps is open. -/
def Open (setting : Setting) (state : State) (admits : Label → Prop) : Prop :=
  ∃ label, admits label ∧ (step setting state label).isSome = true

section Moves

variable {setting : Setting} {state : State} {admits : Label → Prop}

theorem workStage_isSome {store after : LocalStore.State} {id : AttemptId}
    {writer : LocalStore.Writer} {label : LocalStore.Label} {stage : Stage}
    (move : LocalStore.WriterMove store id writer label after) (continues : label.continues = true)
    (attends : Attends (some writer) stage) :
    (workStage writer.stage stage label).isSome = true := by
  have busy : writer.stage.work ≠ 0 := by
    obtain ⟨updated, -, -, less⟩ := move.lowers continues
    omega
  cases stage with
  | checking | opening => cases attends
  | copying | returned =>
      obtain ⟨held, same, idle⟩ := attends
      cases same
      exact absurd (by rw [idle]; rfl) busy
  | done | dead => exact absurd (by rw [attends writer rfl]; rfl) busy
  | committing =>
      cases move with
      | write | writeClosed | commit | close => cases continues
      | unlock stands => simp [workStage, stands]
      | _ => rfl
  | closing =>
      cases move with
      | write | writeClosed | commit => cases continues
      | close | commitClose | closeFile | commitRemove | closeRemove => rfl
      | lock stands | sync stands | syncFails stands | statAbsent stands | statFails stands
      | rename stands | renameFails stands | unlock stands =>
          obtain ⟨held, same, idle | closes | removes⟩ := attends <;> cases same <;> simp_all

/-- A call that a writer can go on with is open to its handler. -/
theorem open_of_call {id : AttemptId} {attempt : Attempt} {label : LocalStore.Label}
    {after : LocalStore.State} (found : state.attempts id = some attempt)
    (attends : Attends (state.store.writers id) attempt.stage)
    (actor : label.actor = some (.writer id)) (continues : label.continues = true)
    (called : LocalStore.step state.store label = some after) (admitted : admits (.work label)) :
    Open setting state admits := by
  cases LocalStore.step_transition called with
  | openWriter | crash => cases actor
  | access caller _ =>
      rw [actor] at caller
      cases caller
  | @writer _ writer _ _ opened caller move =>
      rw [actor] at caller
      cases caller
      rw [opened] at attends
      have works := workStage_isSome move continues attends
      obtain ⟨stage, works⟩ := Option.isSome_iff_exists.mp works
      refine ⟨.work label, admitted, ?_⟩
      simp only [step, Label.attempt, actor, Option.bind_some, found, stepAttempt, opened, works,
        called, Option.map_some, Option.isSome_some]

/-- The same for a call of the reader of the summary. -/
theorem open_of_readerCall {label : LocalStore.Label} {after : LocalStore.State}
    (reader : ReaderAt (state.store.accesses 0) state.summary.phase)
    (actor : label.actor = some (.access 0)) (continues : label.continues = true)
    (called : LocalStore.step state.store label = some after)
    (admitted : admits (.readerWork label)) : Open setting state admits := by
  cases LocalStore.step_transition called with
  | openWriter | crash => cases actor
  | writer _ caller _ =>
      rw [actor] at caller
      cases caller
  | access caller move =>
      rw [actor] at caller
      cases caller
      obtain ⟨updated, -, -, less⟩ := move.lowers continues
      cases phase : state.summary.phase with
      | waiting | merging | ready =>
          rw [phase] at reader
          rw [show state.store.accesses 0 = .idle from reader] at less
          exact absurd less (Nat.not_lt_zero _)
      | reading pod answered faulted pods groups =>
          rw [phase] at reader
          have call : isReaderCall label = true := by
            replace reader : reads (state.store.accesses 0) = true := reader
            generalize state.store.accesses 0 = access at move reader
            cases move with
            | delete | openReader | closeReader => cases continues
            | deleteLock | deletePresent | deleteAbsent | deleteStatFails | deleteRemove
            | deleteRemoveFails | deleteUnlock => cases reader
            | readLock | readPresent | readFails | readOpen | readUnlock | readUnlockFailed => rfl
          refine ⟨.readerWork label, admitted, ?_⟩
          simp only [step, phase, stepSummary, call, if_true, called, Option.map_some,
            Option.isSome_some]

/-- The calls of the store that do not fail are admitted. -/
structure AdmitsCalls (admits : Label → Prop) : Prop where
  work : ∀ {label : LocalStore.Label}, label.fails = false → admits (.work label)
  reader : ∀ {label : LocalStore.Label}, label.fails = false → admits (.readerWork label)

/-- Whoever holds the mutex of the store can go on. -/
theorem open_of_locked {holder : LocalStore.Holder} (staffed : Staffed state)
    (admitted : AdmitsCalls admits) (holds : state.store.lock = some holder) :
    Open setting state admits := by
  obtain ⟨label, after, actor, continues, sound, called⟩ := staffed.held.moves holds
  cases holder with
  | writer id =>
      obtain ⟨writer, opened, -⟩ := staffed.held.writer holds
      obtain ⟨attempt, found⟩ := staffed.owned opened
      exact open_of_call found (staffed.attends found) actor continues called (admitted.work sound)
  | access id =>
      have inside := staffed.held.access holds
      by_cases own : id = 0
      · subst own
        exact open_of_readerCall staffed.reader actor continues called (admitted.reader sound)
      · rw [staffed.others own] at inside
        cases inside

/-- A handler inside `Commit` or `Close` can go on, or whoever it waits for. -/
theorem open_of_writing {id : AttemptId} {attempt : Attempt} (staffed : Staffed state)
    (admitted : AdmitsCalls admits) (found : state.attempts id = some attempt)
    (stands : attempt.stage = .committing ∨ attempt.stage = .closing) :
    Open setting state admits := by
  have attends := staffed.attends found
  rcases stands with stands | stands
  · rw [stands] at attends
    obtain ⟨writer, opened, under⟩ := attends
    cases lock : state.store.lock with
    | some holder => exact open_of_locked staffed admitted lock
    | none =>
        have busy : writer.stage.work ≠ 0 := by
          cases stage : writer.stage <;> simp [stage, LocalStore.Stage.ref] at under <;>
            simp [LocalStore.Stage.work]
        obtain ⟨label, after, actor, continues, sound, called⟩ :=
          LocalStore.writer_moves opened busy fun _ => lock
        exact open_of_call found (staffed.attends found) actor continues called
          (admitted.work sound)
  · rw [stands] at attends
    obtain ⟨writer, opened, idle | busy⟩ := attends
    · refine ⟨.work (.close id), admitted.work rfl, ?_⟩
      simp [step, Label.attempt, LocalStore.Label.actor, found, stepAttempt, opened, stands,
        workStage, LocalStore.step, LocalStore.stepWriter, idle]
    · have works : writer.stage.work ≠ 0 := by
        rcases busy with stage | stage <;> simp [stage, LocalStore.Stage.work]
      obtain ⟨label, after, actor, continues, sound, called⟩ :=
        LocalStore.writer_moves opened works (by rcases busy with stage | stage <;> simp [stage])
      exact open_of_call found (staffed.attends found) actor continues called
        (admitted.work sound)

/-- The same for the summary inside `OpenReader`. -/
theorem open_of_reading {pod : String} {answered faulted : Bool} {pods groups : List String}
    (staffed : Staffed state) (admitted : AdmitsCalls admits)
    (phase : state.summary.phase = .reading pod answered faulted pods groups)
    (reads : admits (.readAll true ⟨.stored, .stored⟩)) : Open setting state admits := by
  have reader := staffed.reader
  rw [phase] at reader
  cases lock : state.store.lock with
  | some holder => exact open_of_locked staffed admitted lock
  | none =>
      cases access : state.store.accesses 0 with
      | reading file =>
          refine ⟨.readAll true ⟨.stored, .stored⟩, reads, ?_⟩
          simp [step, stepSummary, phase, access, LocalStore.step, LocalStore.Label.actor,
            LocalStore.stepAccess]
      | idle | deleteLock | deleteStat | deleteRemove | deleteUnlock =>
          rw [access] at reader
          cases reader
      | readLock | readStat | readOpen | readUnlock =>
          obtain ⟨label, after, actor, continues, sound, called⟩ := LocalStore.access_moves
            (by rw [access]; simp [LocalStore.Access.work]) fun _ => lock
          exact open_of_readerCall staffed.reader actor continues called (admitted.reader sound)

def Label.loses : Label → Bool
  | .lose _ => true
  | _ => false

/-- More than a copy of nothing, and nothing that befalls the server from outside. -/
def Label.drives (label : Label) : Prop :=
  label.proceeds = true ∧ label.copies = false ∧ label.loses = false

theorem admitsCalls_drives : AdmitsCalls Label.drives :=
  ⟨fun _ => ⟨rfl, rfl, rfl⟩, fun _ => ⟨rfl, rfl, rfl⟩⟩

theorem open_of_attempt {id : AttemptId} {attempt : Attempt} (staffed : Staffed state)
    (found : state.attempts id = some attempt) (alive : attempt.stage ≠ .done)
    (process : attempt.stage ≠ .dead) : Open setting state Label.drives := by
  cases stands : attempt.stage with
  | done => exact absurd stands alive
  | dead => exact absurd stands process
  | checking groups =>
      refine ⟨.check id none, ⟨rfl, rfl, rfl⟩, ?_⟩
      cases groups with
      | nil => simp [step, Label.attempt, found, stepAttempt, stands]
      | cons group rest =>
          simp only [step, Label.attempt, found, stepAttempt, stands, Option.bind_some]
          split <;> rfl
  | opening =>
      refine ⟨.openWriter id none, ⟨rfl, rfl, rfl⟩, ?_⟩
      simp [step, Label.attempt, found, stepAttempt, stands]
  | copying rest =>
      refine ⟨.bodyFails id, ⟨rfl, rfl, rfl⟩, ?_⟩
      simp [step, Label.attempt, found, stepAttempt, stands]
  | returned result =>
      refine ⟨.answer id, ⟨rfl, rfl, rfl⟩, ?_⟩
      simp [step, Label.attempt, found, stepAttempt, stands]
  | committing => exact open_of_writing staffed admitsCalls_drives found (.inl stands)
  | closing => exact open_of_writing staffed admitsCalls_drives found (.inr stands)

theorem open_of_summary (staffed : Staffed state)
    (unpublished : ∀ report, state.summary.phase ≠ .ready report) :
    Open setting state Label.drives := by
  have reader := staffed.reader
  cases phase : state.summary.phase with
  | ready report => exact absurd phase (unpublished report)
  | waiting running =>
      cases running with
      | nil => exact ⟨.summarize, ⟨rfl, rfl, rfl⟩, by simp [step, stepSummary, phase]⟩
      | cons group rest => exact ⟨.finish group, ⟨rfl, rfl, rfl⟩, by simp [step, stepSummary, phase]⟩
  | merging pods groups =>
      rw [phase] at reader
      cases pods with
      | cons pod rest =>
          refine ⟨.openReader, ⟨rfl, rfl, rfl⟩, ?_⟩
          simp [step, stepSummary, phase, LocalStore.step, LocalStore.Label.actor,
            show state.store.accesses 0 = .idle from reader, LocalStore.stepAccess]
      | nil =>
          cases groups with
          | nil => exact ⟨.publish .stored, ⟨rfl, rfl, rfl⟩, by simp [step, stepSummary, phase]⟩
          | cons group rest => exact ⟨.list none, ⟨rfl, rfl, rfl⟩, by simp [step, stepSummary, phase]⟩
  | reading => exact open_of_reading staffed admitsCalls_drives phase ⟨rfl, rfl, rfl⟩

/-- The process that a runner has sent its request to has died. -/
def State.orphaned (state : State) (pod : String) : Prop :=
  ∃ id attempt, state.clients pod = .posting id ∧ state.attempts id = some attempt ∧
    attempt.stage = .dead

/-- A runner that waits for a handler which has ended can have its answer. -/
theorem open_of_posting {pod : String} {id : AttemptId} (staffed : Staffed state)
    (ended : ∀ {id attempt}, state.attempts id = some attempt →
      attempt.stage = .done ∨ attempt.stage = .dead)
    (posting : state.clients pod = .posting id) :
    Open setting state fun label => label.drives ∨ label = .lose pod ∧ state.orphaned pod := by
  obtain ⟨attempt, found⟩ := staffed.posted posting
  rcases ended found with done | dead
  · have answered := (staffed.answered id attempt found (by simp [done])).mpr (.inr done)
    obtain ⟨code, status⟩ := Option.isSome_iff_exists.mp answered
    refine ⟨.receive pod, .inl ⟨rfl, rfl, rfl⟩, ?_⟩
    simp [step, stepClient, posting, found, status]
  · refine ⟨.lose pod, .inr ⟨rfl, id, attempt, posting, found, dead⟩, ?_⟩
    simp [step, stepClient, posting]

theorem settled_or_open (staffed : Staffed state) (unsettled : ¬Settled state) :
    Open setting state fun label =>
      label.drives ∨ ∃ pod, label = .lose pod ∧ state.orphaned pod := by
  by_cases published : ∃ report, state.summary.phase = .ready report
  · by_cases alive : ∃ id attempt, state.attempts id = some attempt ∧
        attempt.stage ≠ .done ∧ attempt.stage ≠ .dead
    · obtain ⟨id, attempt, found, unfinished, process⟩ := alive
      obtain ⟨label, drives, enabled⟩ := open_of_attempt staffed found unfinished process
      exact ⟨label, .inl drives, enabled⟩
    have ended : ∀ {id attempt}, state.attempts id = some attempt →
        attempt.stage = .done ∨ attempt.stage = .dead := by
      intro id attempt found
      by_contra neither
      exact alive ⟨id, attempt, found, not_or.mp neither⟩
    by_cases posting : ∃ pod id, state.clients pod = .posting id
    · obtain ⟨pod, id, posting⟩ := posting
      obtain ⟨label, drives, enabled⟩ := open_of_posting staffed ended posting
      exact ⟨label, drives.imp (fun drives => drives) fun lost => ⟨pod, lost⟩, enabled⟩
    exact absurd ⟨published, ended, fun {pod id} standing => posting ⟨pod, id, standing⟩⟩ unsettled
  · obtain ⟨label, drives, enabled⟩ :=
      open_of_summary staffed fun report ready => published ⟨report, ready⟩
    exact ⟨label, .inl drives, enabled⟩

end Moves

/-- What was the case before, if there was no new request and no crash since. -/
structure Since (before state : State) : Prop where
  clients : ∀ {pod id}, state.clients pod = .posting id → before.clients pod = .posting id
  dead : ∀ id attempt, state.attempts id = some attempt → attempt.stage = .dead →
    ∃ earlier, before.attempts id = some earlier ∧ earlier.stage = .dead

section Since

variable {setting : Setting} {before state next : State} {label : Label}

theorem Since.refl (state : State) : Since state state :=
  ⟨fun posting => posting, fun _ attempt found dead => ⟨attempt, found, dead⟩⟩

theorem Since.setClient {pod : String} {client : Client} (since : Since before state)
    (resting : ∀ id, client ≠ .posting id) : Since before (state.setClient pod client) := by
  refine ⟨fun {other id} posting => ?_, since.dead⟩
  rw [setClient_clients] at posting
  split at posting
  · exact absurd posting (resting id)
  · exact since.clients posting

theorem Since.keep (since : Since before state) (staffed : Staffed state)
    (stepped : step setting state label = some next) (proceeds : label.proceeds = true) :
    Since before next := by
  cases step_transition stepped with
  | post | get | cancel | crash => cases proceeds
  | receive => exact since.setClient (Client.receive_rests _)
  | lose => exact since.setClient (by simp)
  | attempt found move =>
      obtain ⟨clients, -⟩ := move.frame
      rcases move.advances found (staffed.attends found) with ⟨same, -⟩ | ⟨updated, advances⟩
      · rwa [same]
      · refine ⟨fun posting => since.clients (clients ▸ posting), ?_⟩
        exact forall_attempt_update
          (fun id attempt => attempt.stage = .dead →
            ∃ earlier, before.attempts id = some earlier ∧ earlier.stage = .dead)
          advances.attempts (fun dead => absurd dead advances.alive)
          fun _ found => since.dead _ _ found
  | summary move =>
      obtain ⟨attempts, clients, -⟩ := move.frame
      exact ⟨fun posting => since.clients (clients ▸ posting), attempts ▸ since.dead⟩

theorem Since.orphaned {pod : String} (since : Since before state) (orphaned : state.orphaned pod) :
    before.orphaned pod := by
  obtain ⟨id, attempt, posting, found, dead⟩ := orphaned
  obtain ⟨earlier, known, died⟩ := since.dead id attempt found dead
  exact ⟨id, earlier, since.clients posting, known, died⟩

end Since

/-- The steps that are counted on from a state on: those of the process, the end of the
groups, and answers. A connection breaks by itself only if its process has died. -/
def CountedOn (before : State) (label : Label) : Prop :=
  label.proceeds = true ∧ ∀ pod, label = .lose pod → before.orphaned pod

/-- After a restart two uploads of one report compete, and the first holds the mutex. -/
def Sample.contended : List Label :=
  [.post "run-0-a" 0, .crash, .lose "run-0-a"] ++ Sample.upload "run-0-a" 1 "1" ++
    [.work (.lock 1), .lose "run-0-a"] ++ Sample.upload "run-0-a" 2 "2"

end Kperf.Runner.Server
