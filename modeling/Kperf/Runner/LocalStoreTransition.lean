import Kperf.Runner.LocalStore

/-! Everything one step of the local store can do, stated once as a relation
with one constructor for each branch of the step function. -/

set_option autoImplicit false

namespace Kperf.Runner.LocalStore

section Updates

variable (state : State) (id other : Nat) (writer : Writer) (access : Access) (event : Event)

@[simp] theorem setWriter_ingest : (state.setWriter id writer).ingest = state.ingest := rfl
@[simp] theorem setWriter_data : (state.setWriter id writer).data = state.data := rfl
@[simp] theorem setWriter_content : (state.setWriter id writer).content = state.content := rfl
@[simp] theorem setWriter_history : (state.setWriter id writer).history = state.history := rfl

@[simp] theorem setWriter_writers :
    (state.setWriter id writer).writers other =
      if other = id then some writer else state.writers other := by
  simp [State.setWriter, Function.update_apply]

theorem setWriter_own : (state.setWriter id writer).writers id = some writer := by simp

@[simp] theorem setAccess_data : (state.setAccess id access).data = state.data := rfl
@[simp] theorem setAccess_accesses :
    (state.setAccess id access).accesses other =
      if other = id then access else state.accesses other := by
  simp [State.setAccess, Function.update_apply]

@[simp] theorem record_ingest : (state.record event).ingest = state.ingest := rfl
@[simp] theorem record_writers : (state.record event).writers = state.writers := rfl
@[simp] theorem record_accesses : (state.record event).accesses = state.accesses := rfl
@[simp] theorem record_history : (state.record event).history = state.history ++ [event] := rfl

end Updates

/-- The effect of one call on the goroutine of a writer. -/
inductive WriterMove (state : State) (id : WriterId) (writer : Writer) : Label → State → Prop where
  | write {bytes : List UInt8} {count : Nat} :
      writer.stage = .idle → writer.isOpen = true →
      WriterMove state id writer (.write id bytes count)
        ({ state with
          content := Function.update state.content writer.file
            (state.content writer.file ++ bytes.take count) }.setWriter id
          { writer with accepted := writer.accepted ++ bytes.take count })
  | writeClosed {bytes : List UInt8} {count : Nat} :
      writer.stage = .idle → writer.isOpen = false →
      WriterMove state id writer (.write id bytes count) state
  | commit {ref : String} :
      writer.stage = .idle →
      WriterMove state id writer (.commit id ref)
        (state.setWriter id { writer with stage := .commitLock ref })
  | lock {ref : String} :
      writer.stage = .commitLock ref → state.lock = none →
      WriterMove state id writer (.lock id)
        ({ state with lock := some (.writer id), entered := state.view }.setWriter id
          { writer with stage := .commitSync ref })
  | sync {ref : String} :
      writer.stage = .commitSync ref → writer.isOpen = true →
      WriterMove state id writer (.sync id true)
        (state.setWriter id { writer with stage := .commitStat ref })
  | syncFails {ref : String} {succeeds : Bool} :
      writer.stage = .commitSync ref →
      WriterMove state id writer (.sync id succeeds)
        (state.setWriter id { writer with stage := .commitClose ref .syncFailed })
  | statAbsent {ref : String} :
      writer.stage = .commitStat ref → state.data ref = none →
      WriterMove state id writer (.stat id true)
        (state.setWriter id { writer with stage := .commitRename ref })
  | statFails {ref : String} {succeeds : Bool} {result : CommitResult} :
      writer.stage = .commitStat ref →
      result = .alreadyExists ∧ (state.data ref).isSome ∨ result = .statFailed →
      WriterMove state id writer (.stat id succeeds)
        (state.setWriter id { writer with stage := .commitClose ref result })
  | rename {ref : String} {file : FileId} :
      writer.stage = .commitRename ref → state.ingest writer.name = some file →
      WriterMove state id writer (.rename id true)
        ({ state with
          ingest := Function.update state.ingest writer.name none
          data := Function.update state.data ref (some file) }.setWriter id
          { writer with stage := .commitClose ref .ok, published := some ref })
  | renameFails {ref : String} {succeeds : Bool} :
      writer.stage = .commitRename ref →
      WriterMove state id writer (.rename id succeeds)
        (state.setWriter id { writer with stage := .commitClose ref .renameFailed })
  | commitClose {ref : String} {result : CommitResult} :
      writer.stage = .commitClose ref result →
      WriterMove state id writer (.closeFile id)
        (state.setWriter id { writer with isOpen := false, stage := .commitRemove ref result })
  | closeFile :
      writer.stage = .closeFile →
      WriterMove state id writer (.closeFile id)
        (state.setWriter id { writer with isOpen := false, stage := .closeRemove })
  | commitRemove {ref : String} {result : CommitResult} {succeeds : Bool} :
      writer.stage = .commitRemove ref result →
      WriterMove state id writer (.remove id succeeds)
        ({ state with
          ingest := if succeeds then Function.update state.ingest writer.name none
            else state.ingest }.setWriter id { writer with stage := .commitUnlock ref result })
  | closeRemove {succeeds : Bool} :
      writer.stage = .closeRemove →
      WriterMove state id writer (.remove id succeeds)
        (({ state with
          ingest := if succeeds then Function.update state.ingest writer.name none
            else state.ingest }.setWriter id { writer with stage := .idle }).record
          (.close id (succeeds || (state.ingest writer.name).isNone)))
  | unlock {ref : String} {result : CommitResult} :
      writer.stage = .commitUnlock ref result →
      WriterMove state id writer (.unlock id)
        (({ state with lock := none }.setWriter id { writer with stage := .idle }).record
          (.commit id ref result))
  | close :
      writer.stage = .idle →
      WriterMove state id writer (.close id)
        (state.setWriter id { writer with stage := .closeFile })

theorem stepWriter_move {state next : State} {id : WriterId} {writer : Writer} {label : Label}
    (actor : label.actor = some (.writer id))
    (stepped : stepWriter state id writer label = some next) :
    WriterMove state id writer label next := by
  cases label with
  | write other bytes count =>
      cases actor
      simp only [stepWriter, write] at stepped
      split at stepped
      · rename_i stage
        split at stepped
        · cases stepped
          exact .write stage ‹_›
        · rename_i closed
          cases stepped
          exact .writeClosed stage (eq_false_of_ne_true closed)
      · cases stepped
  | commit other ref =>
      cases actor
      simp only [stepWriter] at stepped
      split at stepped
      · cases stepped
        exact .commit ‹_›
      · cases stepped
  | lock other =>
      cases actor
      simp only [stepWriter, State.acquire] at stepped
      split at stepped
      · rename_i ref stage
        split at stepped
        · cases stepped
          exact .lock stage ‹_›
        · cases stepped
      · cases stepped
  | sync other succeeds =>
      cases actor
      simp only [stepWriter, sync] at stepped
      split at stepped
      · rename_i ref stage
        split at stepped
        · rename_i both
          obtain ⟨opened, rfl⟩ := by simpa using both
          cases stepped
          exact .sync stage opened
        · cases stepped
          exact .syncFails stage
      · cases stepped
  | stat other succeeds =>
      cases actor
      simp only [stepWriter, stat] at stepped
      split at stepped
      · rename_i ref stage
        split at stepped
        · subst succeeds
          split at stepped
          · rename_i present
            cases stepped
            exact .statFails stage (.inl ⟨rfl, by simp [present]⟩)
          · cases stepped
            exact .statAbsent stage ‹_›
        · cases stepped
          exact .statFails stage (.inr rfl)
      · cases stepped
  | rename other succeeds =>
      cases actor
      simp only [stepWriter, rename] at stepped
      split at stepped
      · rename_i ref stage
        split at stepped
        · cases stepped
          exact .rename stage ‹_›
        · cases stepped
          exact .renameFails stage
      · cases stepped
  | closeFile other =>
      cases actor
      simp only [stepWriter, closeFile] at stepped
      split at stepped
      · cases stepped
        exact .commitClose ‹_›
      · cases stepped
        exact .closeFile ‹_›
      · cases stepped
  | remove other succeeds =>
      cases actor
      simp only [stepWriter, remove] at stepped
      split at stepped
      · cases stepped
        exact .commitRemove ‹_›
      · cases stepped
        exact .closeRemove ‹_›
      · cases stepped
  | unlock other =>
      cases actor
      simp only [stepWriter, unlock] at stepped
      split at stepped
      · cases stepped
        exact .unlock ‹_›
      · cases stepped
  | close other =>
      cases actor
      simp only [stepWriter] at stepped
      split at stepped
      · cases stepped
        exact .close ‹_›
      · cases stepped
  | _ => cases actor

inductive AccessMove (state : State) (id : AccessId) : Access → Label → State → Prop where
  | delete {ref : String} :
      AccessMove state id .idle (.delete id ref) (state.setAccess id (.deleteLock ref))
  | openReader {ref : String} :
      AccessMove state id .idle (.openReader id ref) (state.setAccess id (.readLock ref))
  | deleteLock {ref : String} :
      state.lock = none →
      AccessMove state id (.deleteLock ref) (.lockAccess id)
        ({ state with lock := some (.access id), entered := state.view }.setAccess id (.deleteStat ref))
  | readLock {ref : String} :
      state.lock = none →
      AccessMove state id (.readLock ref) (.lockAccess id)
        ({ state with lock := some (.access id), entered := state.view }.setAccess id (.readStat ref))
  | deletePresent {ref : String} {file : FileId} :
      state.data ref = some file →
      AccessMove state id (.deleteStat ref) (.statAccess id true)
        (state.setAccess id (.deleteRemove ref))
  | deleteAbsent {ref : String} :
      state.data ref = none →
      AccessMove state id (.deleteStat ref) (.statAccess id true)
        (state.setAccess id (.deleteUnlock ref .ok))
  | deleteStatFails {ref : String} :
      AccessMove state id (.deleteStat ref) (.statAccess id false)
        (state.setAccess id (.deleteUnlock ref .statFailed))
  | readPresent {ref : String} {file : FileId} :
      state.data ref = some file →
      AccessMove state id (.readStat ref) (.statAccess id true)
        (state.setAccess id (.readOpen ref))
  | readFails {ref : String} {succeeds : Bool} :
      state.data ref = none ∨ succeeds = false →
      AccessMove state id (.readStat ref) (.statAccess id succeeds)
        (state.setAccess id (.readUnlock ref none))
  | deleteRemove {ref : String} :
      AccessMove state id (.deleteRemove ref) (.removeAccess id true)
        ({ state with data := Function.update state.data ref none }.setAccess id
          (.deleteUnlock ref .ok))
  | deleteRemoveFails {ref : String} :
      AccessMove state id (.deleteRemove ref) (.removeAccess id false)
        (state.setAccess id (.deleteUnlock ref .removeFailed))
  | readOpen {ref : String} {succeeds : Bool} :
      AccessMove state id (.readOpen ref) (.openAccess id succeeds)
        (state.setAccess id (.readUnlock ref (if succeeds then state.data ref else none)))
  | deleteUnlock {ref : String} {result : DeleteResult} :
      AccessMove state id (.deleteUnlock ref result) (.unlockAccess id)
        (({ state with lock := none }.setAccess id .idle).record (.delete ref result))
  | readUnlock {ref : String} {file : FileId} :
      AccessMove state id (.readUnlock ref (some file)) (.unlockAccess id)
        ({ state with lock := none }.setAccess id (.reading file))
  | readUnlockFailed {ref : String} :
      AccessMove state id (.readUnlock ref none) (.unlockAccess id)
        ({ state with lock := none }.setAccess id .idle)
  | closeReader {file : FileId} :
      AccessMove state id (.reading file) (.closeReader id) (state.setAccess id .idle)

theorem stepAccess_move {state next : State} {id : AccessId} {access : Access} {label : Label}
    (actor : label.actor = some (.access id))
    (stepped : stepAccess state id access label = some next) :
    AccessMove state id access label next := by
  cases label with
  | delete other ref =>
      cases actor
      cases access <;> simp only [stepAccess, reduceCtorEq, Option.some.injEq] at stepped
      subst next
      exact .delete
  | openReader other ref =>
      cases actor
      cases access <;> simp only [stepAccess, reduceCtorEq, Option.some.injEq] at stepped
      subst next
      exact .openReader
  | lockAccess other =>
      cases actor
      cases access with
      | deleteLock ref =>
          simp only [stepAccess, State.acquire] at stepped
          split at stepped
          · cases stepped
            exact .deleteLock ‹_›
          · cases stepped
      | readLock ref =>
          simp only [stepAccess, State.acquire] at stepped
          split at stepped
          · cases stepped
            exact .readLock ‹_›
          · cases stepped
      | _ => simp only [stepAccess, reduceCtorEq] at stepped
  | statAccess other succeeds =>
      cases actor
      cases access with
      | deleteStat ref =>
          simp only [stepAccess] at stepped
          split at stepped
          · subst succeeds
            split at stepped
            · cases stepped
              exact .deletePresent ‹_›
            · cases stepped
              exact .deleteAbsent ‹_›
          · rename_i failed
            obtain rfl := eq_false_of_ne_true failed
            cases stepped
            exact .deleteStatFails
      | readStat ref =>
          simp only [stepAccess] at stepped
          split at stepped
          · cases stepped
            exact .readPresent ‹_›
          · rename_i missing
            cases stepped
            refine .readFails ?_
            cases present : state.data ref with
            | none => exact .inl rfl
            | some file =>
                refine .inr (Bool.eq_false_iff.mpr fun succeeded => ?_)
                exact missing file present succeeded
      | _ => simp only [stepAccess, reduceCtorEq] at stepped
  | removeAccess other succeeds =>
      cases actor
      cases access with
      | deleteRemove ref =>
          simp only [stepAccess] at stepped
          split at stepped
          · subst succeeds
            cases stepped
            exact .deleteRemove
          · rename_i failed
            obtain rfl := eq_false_of_ne_true failed
            cases stepped
            exact .deleteRemoveFails
      | _ => simp only [stepAccess, reduceCtorEq] at stepped
  | openAccess other succeeds =>
      cases actor
      cases access <;> simp only [stepAccess, reduceCtorEq, Option.some.injEq] at stepped
      subst next
      exact .readOpen
  | unlockAccess other =>
      cases actor
      cases access with
      | deleteUnlock ref result =>
          cases stepped
          exact .deleteUnlock
      | readUnlock ref file =>
          cases file with
          | none =>
              cases stepped
              exact .readUnlockFailed
          | some file =>
              cases stepped
              exact .readUnlock
      | _ => simp only [stepAccess, reduceCtorEq] at stepped
  | closeReader other =>
      cases actor
      cases access <;> simp only [stepAccess, reduceCtorEq, Option.some.injEq] at stepped
      subst next
      exact .closeReader
  | _ => cases actor

inductive Transition (state : State) : Label → State → Prop where
  | openWriter {id : WriterId} {name : String} :
      state.writers id = none → state.ingest name = none →
      Transition state (.openWriter id name)
        { state with
          ingest := Function.update state.ingest name (some state.nextFile)
          content := Function.update state.content state.nextFile []
          nextFile := state.nextFile + 1
          writers := Function.update state.writers id
            (some ⟨name, state.nextFile, true, .idle, [], none⟩)
          names := name :: state.names }
  | crash : Transition state .crash (LocalStore.crash state)
  | writer {id : WriterId} {writer : Writer} {label : Label} {next : State} :
      state.writers id = some writer → label.actor = some (.writer id) →
      WriterMove state id writer label next → Transition state label next
  | access {id : AccessId} {label : Label} {next : State} :
      label.actor = some (.access id) →
      AccessMove state id (state.accesses id) label next → Transition state label next

theorem step_transition {state next : State} {label : Label}
    (stepped : step state label = some next) : Transition state label next := by
  unfold step at stepped
  cases actor : label.actor with
  | some holder =>
      cases holder with
      | writer id =>
          simp only [actor] at stepped
          obtain ⟨writer, found, moved⟩ := Option.bind_eq_some_iff.mp stepped
          exact .writer found actor (stepWriter_move actor moved)
      | access id =>
          simp only [actor] at stepped
          exact .access actor (stepAccess_move actor stepped)
  | none =>
      simp only [actor] at stepped
      cases label with
      | openWriter id name =>
          simp only [openWriter] at stepped
          split at stepped
          · cases stepped
            exact .openWriter ‹_› ‹_›
          · cases stepped
      | crash =>
          cases stepped
          exact .crash
      | _ => cases actor

def Stage.locked : Stage → Bool
  | .commitSync _ | .commitStat _ | .commitRename _ | .commitClose _ _ | .commitRemove _ _
  | .commitUnlock _ _ => true
  | _ => false

/-- The entry a writer has renamed in a `Commit` that is about to return nil. -/
def Stage.renamed : Stage → Option String
  | .commitClose ref .ok | .commitRemove ref .ok | .commitUnlock ref .ok => some ref
  | _ => none

theorem Stage.locked_of_renamed {stage : Stage} {ref : String}
    (renamed : stage.renamed = some ref) : stage.locked = true := by
  unfold Stage.renamed at renamed
  split at renamed <;> first | rfl | cases renamed

def Stage.ref : Stage → Option String
  | .commitLock ref | .commitSync ref | .commitStat ref | .commitRename ref
  | .commitClose ref _ | .commitRemove ref _ | .commitUnlock ref _ => some ref
  | _ => none

def Stage.taken : Stage → Option String
  | .commitClose ref .alreadyExists | .commitRemove ref .alreadyExists
  | .commitUnlock ref .alreadyExists => some ref
  | _ => none

def Access.locked : Access → Bool
  | .deleteStat _ | .deleteRemove _ | .deleteUnlock _ _ | .readStat _ | .readOpen _
  | .readUnlock _ _ => true
  | _ => false

/-- How a move of one goroutine treats the mutex, given whether it stood inside
a critical section before and stands inside one after. -/
def LockFrame (holder : Holder) (before after : Bool) (state next : State) : Prop :=
  (next.lock = state.lock ∧ next.entered = state.entered ∧ after = before) ∨
  (state.lock = none ∧ next.lock = some holder ∧ next.entered = state.view ∧
    next.view = state.view ∧ before = false ∧ after = true) ∨
  (before = true ∧ next.lock = none ∧ after = false)

/-- What a move of a writer leaves alone: the other writers, the path and the
file of its own, every other path of `ingest` and the bytes of every other
file. Only a successful rename changes `data`. -/
structure WriterFrame (state : State) (id : WriterId) (writer updated : Writer)
    (next : State) : Prop where
  writers : next.writers = Function.update state.writers id (some updated)
  name : updated.name = writer.name
  file : updated.file = writer.file
  contentOther : ∀ file, file ≠ writer.file → next.content file = state.content file
  contentOwn : state.content writer.file = writer.accepted →
    next.content writer.file = updated.accepted
  contentKept : next.content = state.content ∨ writer.stage = .idle ∧ writer.isOpen = true
  ingest : ∀ name file, next.ingest name = some file → state.ingest name = some file
  ingestOther : ∀ name, name ≠ writer.name → next.ingest name = state.ingest name
  nextFile : next.nextFile = state.nextFile
  names : next.names = state.names
  accesses : next.accesses = state.accesses
  lock : LockFrame (.writer id) writer.stage.locked updated.stage.locked state next
  data : (next.data = state.data ∧ updated.published = writer.published) ∨
    ∃ ref file, writer.stage = .commitRename ref ∧ state.ingest writer.name = some file ∧
      next.data = Function.update state.data ref (some file) ∧
      updated.stage = .commitClose ref .ok ∧ updated.published = some ref

theorem WriterMove.frame {state next : State} {id : WriterId} {writer : Writer} {label : Label}
    (found : state.writers id = some writer) (move : WriterMove state id writer label next) :
    ∃ updated, WriterFrame state id writer updated next := by
  cases move with
  | writeClosed =>
      refine ⟨writer, ?_, rfl, rfl, fun _ _ => rfl, fun same => same, .inl rfl,
        fun _ _ kept => kept, fun _ _ => rfl, rfl, rfl, rfl, .inl ⟨rfl, rfl, rfl⟩,
        .inl ⟨rfl, rfl⟩⟩
      rw [← found, Function.update_eq_self]
  | write stage opened =>
      refine ⟨_, rfl, rfl, rfl, ?_, ?_, .inr ⟨stage, opened⟩, fun _ _ kept => kept,
        fun _ _ => rfl, rfl, rfl, rfl, .inl ⟨rfl, rfl, rfl⟩, .inl ⟨rfl, rfl⟩⟩
      · intro file different
        simp [different]
      · intro same
        simp [same]
  | lock stage free =>
      refine ⟨_, rfl, rfl, rfl, fun _ _ => rfl, fun same => same, .inl rfl,
        fun _ _ kept => kept, fun _ _ => rfl, rfl, rfl, rfl, .inr (.inl ?_), .inl ⟨rfl, rfl⟩⟩
      exact ⟨free, rfl, rfl, rfl, by simp [stage, Stage.locked], rfl⟩
  | unlock stage =>
      refine ⟨_, rfl, rfl, rfl, fun _ _ => rfl, fun same => same, .inl rfl,
        fun _ _ kept => kept, fun _ _ => rfl, rfl, rfl, rfl, .inr (.inr ?_), .inl ⟨rfl, rfl⟩⟩
      exact ⟨by simp [stage, Stage.locked], rfl, rfl⟩
  | @rename ref file stage present =>
      refine ⟨_, rfl, rfl, rfl, fun _ _ => rfl, fun same => same, .inl rfl, ?_, ?_, rfl, rfl, rfl,
        .inl ⟨rfl, rfl, by simp [stage, Stage.locked]⟩,
        .inr ⟨ref, file, stage, present, rfl, rfl, rfl⟩⟩
      · intro name file present
        exact (update_none_eq_some.mp present).2
      · intro name different
        simp [different]
  | @commitRemove _ _ succeeds stage | @closeRemove succeeds stage =>
      refine ⟨_, rfl, rfl, rfl, fun _ _ => rfl, fun same => same, .inl rfl, ?_, ?_, rfl, rfl, rfl,
        .inl ⟨rfl, rfl, by simp [stage, Stage.locked]⟩, .inl ⟨rfl, rfl⟩⟩
      · intro name file present
        cases succeeds with
        | false => exact present
        | true =>
            simp only [record_ingest, setWriter_ingest, if_true] at present
            exact (update_none_eq_some.mp present).2
      · intro name different
        cases succeeds <;> simp [different]
  | commit stage | sync stage | syncFails stage | statAbsent stage | statFails stage
  | renameFails stage | commitClose stage | closeFile stage | close stage =>
      exact ⟨_, rfl, rfl, rfl, fun _ _ => rfl, fun same => same, .inl rfl,
        fun _ _ kept => kept, fun _ _ => rfl, rfl, rfl, rfl,
        .inl ⟨rfl, rfl, by simp [stage, Stage.locked]⟩, .inl ⟨rfl, rfl⟩⟩

/-- What a call does to its own writer, seen from outside the store. -/
structure WriterEffect (state : State) (id : WriterId) (writer updated : Writer)
    (label : Label) : Prop where
  accepted : (∀ bytes count, label ≠ .write id bytes count) → updated.accepted = writer.accepted
  published : updated.published = writer.published ∨
    label = .rename id true ∧ ∃ ref, writer.stage.ref = some ref ∧ updated.published = some ref
  taken : ∀ {ref}, updated.stage.taken = some ref →
    writer.stage.taken = some ref ∨ (state.data ref).isSome
  ref : ∀ {ref}, writer.stage.ref = some ref → label = .unlock id ∨ updated.stage.ref = some ref

theorem WriterMove.effectOutside {state next : State} {id : WriterId} {writer : Writer}
    {label : Label} (found : state.writers id = some writer)
    (move : WriterMove state id writer label next) :
    ∃ updated, next.writers id = some updated ∧ WriterEffect state id writer updated label := by
  cases move with
  | writeClosed stage =>
      exact ⟨writer, found, fun _ => rfl, .inl rfl, .inl, by simp [stage, Stage.ref]⟩
  | write stage =>
      refine ⟨_, setWriter_own .., ?_, .inl rfl, .inl, by simp [stage, Stage.ref]⟩
      intro silent
      exact absurd rfl (silent _ _)
  | rename stage =>
      exact ⟨_, setWriter_own .., fun _ => rfl, .inr ⟨rfl, _, by rw [stage]; rfl, rfl⟩,
        by simp [Stage.taken], fun under => .inr (by rw [stage] at under; exact under)⟩
  | unlock stage =>
      exact ⟨_, setWriter_own .., fun _ => rfl, .inl rfl, by simp [Stage.taken],
        fun _ => .inl rfl⟩
  | statFails stage result =>
      refine ⟨_, setWriter_own .., fun _ => rfl, .inl rfl, ?_,
        fun under => .inr (by rw [stage] at under; exact under)⟩
      intro ref taken
      rcases result with ⟨rfl, present⟩ | rfl
      · cases taken
        exact .inr present
      · cases taken
  | @commitClose _ result stage | @commitRemove _ result _ stage =>
      refine ⟨_, setWriter_own .., fun _ => rfl, .inl rfl, ?_,
        fun under => .inr (by rw [stage] at under; exact under)⟩
      intro ref taken
      rw [stage]
      cases result with
      | alreadyExists => exact .inl taken
      | _ => cases taken
  | lock stage | sync stage | syncFails stage | statAbsent stage | renameFails stage =>
      exact ⟨_, setWriter_own .., fun _ => rfl, .inl rfl, by simp [Stage.taken],
        fun under => .inr (by rw [stage] at under; exact under)⟩
  | commit stage | closeFile stage | closeRemove stage | close stage =>
      exact ⟨_, setWriter_own .., fun _ => rfl, .inl rfl, by simp [Stage.taken],
        by simp [stage, Stage.ref]⟩

/-- `Delete` and `OpenReader` touch neither the writers nor `ingest`; only the
`os.Remove` of `Delete` changes `data`. -/
structure AccessFrame (state : State) (id : AccessId) (access updated : Access)
    (next : State) : Prop where
  accesses : next.accesses = Function.update state.accesses id updated
  writers : next.writers = state.writers
  ingest : next.ingest = state.ingest
  content : next.content = state.content
  nextFile : next.nextFile = state.nextFile
  names : next.names = state.names
  lock : LockFrame (.access id) access.locked updated.locked state next
  data : next.data = state.data ∨ ∃ ref, access = .deleteRemove ref ∧
    next.data = Function.update state.data ref none ∧ updated = .deleteUnlock ref .ok

theorem AccessMove.frame {state next : State} {id : AccessId} {access : Access} {label : Label}
    (move : AccessMove state id access label next) :
    ∃ updated, AccessFrame state id access updated next := by
  cases move with
  | deleteLock free | readLock free =>
      exact ⟨_, rfl, rfl, rfl, rfl, rfl, rfl, .inr (.inl ⟨free, rfl, rfl, rfl, rfl, rfl⟩), .inl rfl⟩
  | deleteUnlock | readUnlock | readUnlockFailed =>
      exact ⟨_, rfl, rfl, rfl, rfl, rfl, rfl, .inr (.inr ⟨rfl, rfl, rfl⟩), .inl rfl⟩
  | deleteRemove =>
      exact ⟨_, rfl, rfl, rfl, rfl, rfl, rfl, .inl ⟨rfl, rfl, rfl⟩, .inr ⟨_, rfl, rfl, rfl⟩⟩
  | delete | openReader | deletePresent | deleteAbsent | deleteStatFails | readPresent
  | readFails | deleteRemoveFails | readOpen | closeReader =>
      exact ⟨_, rfl, rfl, rfl, rfl, rfl, rfl, .inl ⟨rfl, rfl, rfl⟩, .inl rfl⟩

/-- A call on a writer touches no other writer and no reader. -/
theorem step_writer_frame {state next : State} {label : Label} {id : WriterId}
    (stepped : step state label = some next)
    (own : label.actor = some (.writer id) ∨ ∃ name, label = .openWriter id name) :
    (∀ {other}, other ≠ id → next.writers other = state.writers other) ∧
      next.accesses = state.accesses := by
  cases step_transition stepped with
  | openWriter =>
      rcases own with actor | ⟨name, same⟩
      · cases actor
      · cases same
        exact ⟨fun different => by simp [different], rfl⟩
  | crash =>
      rcases own with actor | ⟨name, same⟩
      · cases actor
      · cases same
  | writer found actor move =>
      rcases own with caller | ⟨name, same⟩
      · rw [actor] at caller
        cases caller
        obtain ⟨updated, frame⟩ := move.frame found
        refine ⟨fun different => ?_, frame.accesses⟩
        rw [frame.writers, Function.update_of_ne different]
      · subst same
        cases actor
  | access actor move =>
      rcases own with caller | ⟨name, same⟩
      · rw [actor] at caller
        cases caller
      · subst same
        cases actor

theorem writer_of_step {state next : State} {label : Label} {id : WriterId}
    (stepped : step state label = some next) (actor : label.actor = some (.writer id)) :
    ∃ writer, state.writers id = some writer := by
  simp only [step, actor] at stepped
  obtain ⟨writer, found, -⟩ := Option.bind_eq_some_iff.mp stepped
  exact ⟨writer, found⟩

theorem step_writer_effect {state next : State} {label : Label} {id : WriterId} {writer : Writer}
    (stepped : step state label = some next) (actor : label.actor = some (.writer id))
    (found : state.writers id = some writer) :
    ∃ updated, next.writers id = some updated ∧ WriterEffect state id writer updated label := by
  cases step_transition stepped with
  | openWriter | crash => cases actor
  | access caller move =>
      rw [actor] at caller
      cases caller
  | writer own caller move =>
      rw [actor] at caller
      cases caller
      rw [found] at own
      cases own
      exact move.effectOutside found

theorem step_writers_access {state next : State} {label : Label} {id : AccessId}
    (stepped : step state label = some next) (actor : label.actor = some (.access id)) :
    next.writers = state.writers := by
  cases step_transition stepped with
  | openWriter | crash => cases actor
  | writer found caller move =>
      rw [actor] at caller
      cases caller
  | access caller move =>
      obtain ⟨updated, frame⟩ := move.frame
      exact frame.writers

end Kperf.Runner.LocalStore
