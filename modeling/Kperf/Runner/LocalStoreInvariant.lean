import Kperf.Runner.LocalStoreTransition

/-! The invariants behind the store's contract. Identity and publication need
that temporary names are never reused; mutual exclusion does not. -/

set_option autoImplicit false

namespace Kperf.Runner.LocalStore

/-- Writers are told apart by their path and by their file, every file in
`ingest` belongs to the writer of that path, and a file holds exactly the
bytes its writer has accepted. -/
structure Identified (state : State) : Prop where
  named : ∀ {id writer}, state.writers id = some writer → writer.name ∈ state.names
  below : ∀ {id writer}, state.writers id = some writer → writer.file < state.nextFile
  nameInjective : ∀ {i j a b}, state.writers i = some a → state.writers j = some b →
    a.name = b.name → i = j
  fileInjective : ∀ {i j a b}, state.writers i = some a → state.writers j = some b →
    a.file = b.file → i = j
  ingestOwned : ∀ {name file}, state.ingest name = some file →
    ∃ id writer, state.writers id = some writer ∧ writer.name = name ∧ writer.file = file
  content : ∀ {id writer}, state.writers id = some writer →
    state.content writer.file = writer.accepted

theorem identified_newStore : Identified newStore := by
  constructor <;> simp [newStore]

private theorem Identified.keep_writer {state next : State} {id : WriterId}
    {writer updated : Writer} (identified : Identified state)
    (found : state.writers id = some writer)
    (frame : WriterFrame state id writer updated next) : Identified next := by
  obtain ⟨writers, name, file, contentOther, contentOwn, -, ingest, -, nextFile, names, -⟩ :=
    frame
  obtain ⟨named, below, nameInjective, fileInjective, ingestOwned, content⟩ := identified
  refine ⟨?_, ?_, ?_, ?_, ?_, ?_⟩
  all_goals simp only [writers, names, nextFile, Function.update_apply]
  all_goals grind

theorem Identified.keep {state next : State} {label : Label} (identified : Identified state)
    (fresh : FreshName state label) (transition : Transition state label next) :
    Identified next := by
  cases transition with
  | writer found _ move =>
      obtain ⟨updated, frame⟩ := move.frame found
      exact identified.keep_writer found frame
  | access _ move =>
      obtain ⟨updated, -, writers, ingest, content, nextFile, names, -⟩ := move.frame
      obtain ⟨named, below, nameInjective, fileInjective, ingestOwned, contents⟩ := identified
      constructor <;> simpa only [writers, ingest, content, nextFile, names]
  | @openWriter id name absent free =>
      have unused : name ∉ state.names := fresh name rfl
      obtain ⟨named, below, nameInjective, fileInjective, ingestOwned, contents⟩ := identified
      refine ⟨?_, ?_, ?_, ?_, ?_, ?_⟩
      all_goals simp only [Function.update_apply]
      · grind
      · grind
      · grind
      · grind
      · intro other file present
        split at present
        · cases present
          exact ⟨id, _, if_pos rfl, by grind, rfl⟩
        · obtain ⟨owner, writer, found, named, held⟩ := ingestOwned present
          exact ⟨owner, writer, by grind, named, held⟩
      · grind
  | crash =>
      obtain ⟨named, below, nameInjective, fileInjective, ingestOwned, contents⟩ := identified
      constructor <;> simp only [crash, Option.map_eq_some_iff] <;> grind

/-- Whoever is inside a critical section holds the mutex. -/
structure Exclusive (state : State) : Prop where
  writer : ∀ {id writer}, state.writers id = some writer → writer.stage.locked = true →
    state.lock = some (.writer id)
  access : ∀ {id}, (state.accesses id).locked = true → state.lock = some (.access id)

theorem exclusive_newStore : Exclusive newStore := by
  constructor <;> simp [newStore, Access.locked]

theorem LockFrame.own {state next : State} {holder : Holder} {before after : Bool}
    (frame : LockFrame holder before after state next)
    (held : before = true → state.lock = some holder) (inside : after = true) :
    next.lock = some holder := by
  rcases frame with ⟨same, -, stands⟩ | ⟨-, taken, -⟩ | ⟨-, -, outside⟩
  · rw [same]
    exact held (stands ▸ inside)
  · exact taken
  · rw [outside] at inside
    cases inside

theorem LockFrame.other {state next : State} {holder rival : Holder} {before after : Bool}
    (frame : LockFrame holder before after state next)
    (held : before = true → state.lock = some holder) (different : rival ≠ holder)
    (holds : state.lock = some rival) : next.lock = some rival := by
  rcases frame with ⟨same, -, -⟩ | ⟨free, -⟩ | ⟨inside, -, -⟩
  · rw [same, holds]
  · rw [free] at holds
    cases holds
  · rw [held inside] at holds
    exact absurd (Option.some.inj holds).symm different

theorem Exclusive.keep {state next : State} {label : Label} (exclusive : Exclusive state)
    (transition : Transition state label next) : Exclusive next := by
  obtain ⟨byWriter, byAccess⟩ := exclusive
  cases transition with
  | openWriter absent free =>
      refine ⟨?_, byAccess⟩
      simp only [Function.update_apply]
      grind [Stage.locked]
  | crash =>
      constructor
      · simp only [crash, Option.map_eq_some_iff]
        grind [Stage.locked]
      · simp [crash, Access.locked]
  | @writer id writer _ _ found _ move =>
      obtain ⟨updated, frame⟩ := move.frame found
      have held : writer.stage.locked = true → state.lock = some (.writer id) := byWriter found
      constructor
      · intro other rival present inside
        rw [frame.writers] at present
        by_cases own : other = id
        · subst other
          rw [Function.update_self] at present
          cases present
          exact frame.lock.own held inside
        · rw [Function.update_of_ne own] at present
          exact frame.lock.other held (by simpa using own) (byWriter present inside)
      · intro other inside
        rw [frame.accesses] at inside
        exact frame.lock.other held (by simp) (byAccess inside)
  | @access id _ _ _ move =>
      obtain ⟨updated, frame⟩ := move.frame
      have held : (state.accesses id).locked = true → state.lock = some (.access id) := byAccess
      constructor
      · intro other rival present inside
        rw [frame.writers] at present
        exact frame.lock.other held (by simp) (byWriter present inside)
      · intro other inside
        rw [frame.accesses] at inside
        by_cases own : other = id
        · subst other
          rw [Function.update_self] at inside
          exact frame.lock.own held inside
        · rw [Function.update_of_ne own] at inside
          exact frame.lock.other held (by simpa using own) (byAccess inside)

theorem Exclusive.writer_only {state : State} (exclusive : Exclusive state) {id other : WriterId}
    {writer rival : Writer} (found : state.writers id = some writer)
    (inside : writer.stage.locked = true) (present : state.writers other = some rival)
    (rivalInside : rival.stage.locked = true) : other = id := by
  have mine := exclusive.writer found inside
  rw [exclusive.writer present rivalInside] at mine
  cases mine
  rfl

theorem Exclusive.access_outside {state : State} (exclusive : Exclusive state) {id : AccessId}
    {other : WriterId} {rival : Writer} (inside : (state.accesses id).locked = true)
    (present : state.writers other = some rival) : rival.stage.locked = false := by
  cases stands : rival.stage.locked with
  | false => rfl
  | true =>
      have held := exclusive.access inside
      rw [exclusive.writer present stands] at held
      cases held

/-- What holds of one writer against the directories. -/
structure Coherent (state : State) (writer : Writer) : Prop where
  withdrawn : ∀ {ref}, writer.published = some ref → state.ingest writer.name = none
  intact : writer.isOpen = true → writer.published = none →
    state.ingest writer.name = some writer.file
  finishing : ∀ {ref}, writer.isOpen = true → writer.published = some ref →
    writer.stage = .commitClose ref .ok
  synced : ∀ {ref}, writer.stage = .commitStat ref ∨ writer.stage = .commitRename ref →
    writer.isOpen = true
  closed : (writer.stage = .closeRemove ∨ ∃ ref result, writer.stage = .commitRemove ref result ∨
    writer.stage = .commitUnlock ref result) → writer.isOpen = false
  absent : ∀ {ref}, writer.stage = .commitRename ref → state.data ref = none
  renamed : ∀ {ref}, writer.stage.renamed = some ref → state.data ref = some writer.file

theorem Coherent.congr {state next : State} {writer : Writer} (coherent : Coherent state writer)
    (ingest : next.ingest writer.name = state.ingest writer.name)
    (data : writer.stage.locked = true → next.data = state.data) : Coherent next writer := by
  obtain ⟨withdrawn, intact, finishing, synced, closed, absent, renamed⟩ := coherent
  refine ⟨?_, ?_, finishing, synced, closed, ?_, ?_⟩
  · intro ref published
    rw [ingest]
    exact withdrawn published
  · intro opened unpublished
    rw [ingest]
    exact intact opened unpublished
  · intro ref stage
    rw [data (by simp [stage, Stage.locked])]
    exact absent stage
  · intro ref moved
    rw [data (Stage.locked_of_renamed moved)]
    exact renamed moved

theorem Coherent.unpublished {state : State} {writer : Writer} {ref : String}
    (coherent : Coherent state writer) (stage : writer.stage = .commitRename ref) :
    writer.published = none := by
  cases published : writer.published with
  | none => rfl
  | some other =>
      have finishing := coherent.finishing (coherent.synced (.inr stage)) published
      rw [stage] at finishing
      cases finishing

/-- A step that moves the writer on and leaves the directories alone. The stages
that promise something are asked for it. -/
theorem Coherent.restage {state next : State} {writer : Writer} {stage : Stage}
    (coherent : Coherent state writer) (ingest : next.ingest = state.ingest)
    (data : next.data = state.data) (left : ∀ ref, writer.stage ≠ .commitClose ref .ok)
    (synced : ∀ ref, stage = .commitStat ref ∨ stage = .commitRename ref → writer.isOpen = true)
    (closed : (stage = .closeRemove ∨ ∃ ref result, stage = .commitRemove ref result ∨
      stage = .commitUnlock ref result) → writer.isOpen = false)
    (absent : ∀ ref, stage = .commitRename ref → state.data ref = none)
    (renamed : stage.renamed = none) : Coherent next { writer with stage := stage } where
  withdrawn published := by
    rw [ingest]
    exact coherent.withdrawn published
  intact opened unpublished := by
    rw [ingest]
    exact coherent.intact opened unpublished
  finishing opened published := absurd (coherent.finishing opened published) (left _)
  synced := synced _
  closed := closed
  absent stands := by
    rw [data]
    exact absent _ stands
  renamed moved := by
    rw [renamed] at moved
    cases moved

theorem WriterMove.coherent {state next : State} {id : WriterId} {writer updated : Writer}
    {label : Label} (coherent : Coherent state writer)
    (move : WriterMove state id writer label next) (found : state.writers id = some writer)
    (current : next.writers id = some updated) : Coherent next updated := by
  cases move with
  | writeClosed stage =>
      obtain rfl : writer = updated := by simpa [found] using current
      exact coherent
  | write stage opened =>
      obtain rfl : _ = updated := by simpa using current
      obtain ⟨withdrawn, intact, finishing, synced, closed, absent, renamed⟩ := coherent
      exact ⟨withdrawn, intact, finishing, synced, closed, absent, renamed⟩
  | commit stage | lock stage | syncFails stage | renameFails stage | unlock stage | close stage =>
      obtain rfl : _ = updated := by simpa using current
      exact coherent.restage rfl rfl (by simp [stage]) (by simp) (by simp) (by simp) rfl
  | sync stage opened =>
      obtain rfl : _ = updated := by simpa using current
      exact coherent.restage rfl rfl (by simp [stage]) (fun _ _ => opened) (by simp) (by simp) rfl
  | @statAbsent ref stage free =>
      obtain rfl : _ = updated := by simpa using current
      have opened : writer.isOpen = true := coherent.synced (.inl stage)
      refine coherent.restage rfl rfl (by simp [stage]) (fun _ _ => opened) (by simp) ?_ rfl
      intro other same
      cases same
      exact free
  | @statFails ref succeeds result stage cause =>
      obtain rfl : _ = updated := by simpa using current
      refine coherent.restage rfl rfl (by simp [stage]) (by simp) (by simp) (by simp) ?_
      rcases cause with ⟨rfl, -⟩ | rfl
      · rfl
      · rfl
  | rename stage present =>
      obtain rfl : _ = updated := by simpa using current
      have own := coherent.intact (coherent.synced (.inr stage)) (coherent.unpublished stage)
      rw [present] at own
      refine ⟨?_, ?_, ?_, ?_, ?_, ?_, ?_⟩ <;> simp_all [Stage.renamed]
  | @commitClose ref result stage =>
      obtain rfl : _ = updated := by simpa using current
      obtain ⟨withdrawn, -, -, -, -, -, renamed⟩ := coherent
      refine ⟨withdrawn, by simp, by simp, by simp, by simp, by simp, ?_⟩
      intro ref moved
      refine renamed ?_
      cases result <;> simp_all [Stage.renamed]
  | closeFile stage =>
      obtain rfl : _ = updated := by simpa using current
      refine ⟨coherent.withdrawn, by simp, by simp, by simp, by simp, by simp, ?_⟩
      simp [Stage.renamed]
  | @commitRemove ref result succeeds stage =>
      obtain rfl : _ = updated := by simpa using current
      obtain ⟨withdrawn, -, -, -, closed, -, renamed⟩ := coherent
      have shut : writer.isOpen = false := closed (.inr ⟨ref, result, .inl stage⟩)
      refine ⟨?_, by simp [shut], by simp [shut], by simp, by simp [shut], by simp, ?_⟩
      · intro ref published
        cases succeeds <;> simp [withdrawn published]
      · intro ref moved
        refine renamed ?_
        cases result <;> simp_all [Stage.renamed]
  | @closeRemove succeeds stage =>
      obtain rfl : _ = updated := by simpa using current
      obtain ⟨withdrawn, -, -, -, closed, -, -⟩ := coherent
      have shut : writer.isOpen = false := closed (.inl stage)
      refine ⟨?_, by simp [shut], by simp [shut], by simp, by simp, by simp, ?_⟩
      · intro ref published
        cases succeeds <;> simp [withdrawn published]
      · simp [Stage.renamed]

/-- Every file in `data` was renamed there by its own writer. -/
structure Publication (state : State) : Prop where
  coherent : ∀ {id writer}, state.writers id = some writer → Coherent state writer
  dataOwned : ∀ {ref file}, state.data ref = some file → ∃ id writer,
    state.writers id = some writer ∧ writer.file = file ∧ writer.published = some ref

theorem publication_newStore : Publication newStore := by
  constructor <;> simp [newStore]

private theorem Publication.keep_writer {state next : State} {id : WriterId} {writer : Writer}
    {label : Label} (publication : Publication state) (identified : Identified state)
    (exclusive : Exclusive state) (found : state.writers id = some writer)
    (move : WriterMove state id writer label next) : Publication next := by
  have coherent := publication.coherent found
  obtain ⟨updated, frame⟩ := move.frame found
  constructor
  · intro other rival present
    rw [frame.writers, Function.update_apply] at present
    split at present
    · subst other
      exact move.coherent coherent found (by simp [frame.writers, present])
    · rename_i different
      -- a rival has another path, and is outside the critical section of a rename
      refine (publication.coherent present).congr (frame.ingestOther _ ?_) ?_
      · intro sameName
        exact different (identified.nameInjective present found sameName)
      · intro inside
        rcases frame.data with ⟨same, -⟩ | ⟨renamed, file, own, -⟩
        · exact same
        · exact absurd (exclusive.writer_only found (by simp [own, Stage.locked]) present
            inside) different
  · intro ref file present
    rcases frame.data with ⟨same, kept⟩ | ⟨renamed, moved, stage, held, changed, -, published⟩
    · rw [same] at present
      obtain ⟨owner, author, known, holds, under⟩ := publication.dataOwned present
      by_cases own : owner = id
      · subst owner
        obtain rfl : writer = author := by simpa [found] using known
        exact ⟨id, updated, by simp [frame.writers], frame.file.trans holds, kept.trans under⟩
      · exact ⟨owner, author, by simp [frame.writers, own, known], holds, under⟩
    · have unpublished := coherent.unpublished stage
      have ownFile := coherent.intact (coherent.synced (.inr stage)) unpublished
      rw [changed, Function.update_apply] at present
      split at present
      · subst ref
        refine ⟨id, updated, by simp [frame.writers], ?_, published⟩
        rw [held] at ownFile
        cases ownFile
        cases present
        exact frame.file
      · obtain ⟨owner, author, known, holds, under⟩ := publication.dataOwned present
        refine ⟨owner, author, ?_, holds, under⟩
        have other : owner ≠ id := by
          intro own
          subst owner
          obtain rfl : writer = author := by simpa [found] using known
          rw [unpublished] at under
          cases under
        simp [frame.writers, other, known]

theorem Publication.keep {state next : State} {label : Label} (publication : Publication state)
    (identified : Identified state) (exclusive : Exclusive state)
    (fresh : FreshName state label) (transition : Transition state label next) :
    Publication next := by
  cases transition with
  | writer found _ move => exact publication.keep_writer identified exclusive found move
  | @access id _ _ _ move =>
      obtain ⟨updated, frame⟩ := move.frame
      constructor
      · intro other writer present
        rw [frame.writers] at present
        refine (publication.coherent present).congr (by rw [frame.ingest]) ?_
        intro inside
        rcases frame.data with same | ⟨removed, stands, -⟩
        · exact same
        · have locked : (state.accesses id).locked = true := by simp [stands, Access.locked]
          have outside := exclusive.access_outside locked present
          rw [inside] at outside
          cases outside
      · intro ref file present
        rw [frame.writers]
        rcases frame.data with same | ⟨removed, -, changed, -⟩
        · rw [same] at present
          exact publication.dataOwned present
        · rw [changed] at present
          exact publication.dataOwned (update_none_eq_some.mp present).2
  | @openWriter id name absent free =>
      have unused : name ∉ state.names := fresh name rfl
      constructor
      · intro other writer present
        simp only [Function.update_apply] at present
        split at present
        · cases present
          constructor <;> simp [Stage.renamed]
        · refine (publication.coherent present).congr ?_ fun _ => rfl
          have known := identified.named present
          have different : writer.name ≠ name := fun same => unused (same ▸ known)
          simp [different]
      · intro ref file present
        obtain ⟨owner, author, known, holds, under⟩ := publication.dataOwned present
        refine ⟨owner, author, ?_, holds, under⟩
        have other : owner ≠ id := fun same => by simp [same, absent] at known
        simp [other, known]
  | crash =>
      constructor
      · intro id writer present
        obtain ⟨alive, found, rfl⟩ := Option.map_eq_some_iff.mp present
        have coherent := publication.coherent found
        exact ⟨coherent.withdrawn, by simp, by simp, by simp, by simp, by simp,
          by simp [Stage.renamed]⟩
      · intro ref file present
        obtain ⟨owner, author, known, holds, under⟩ := publication.dataOwned present
        exact ⟨owner, _, Option.map_eq_some_iff.mpr ⟨author, known, rfl⟩, holds, under⟩

structure Valid (state : State) : Prop where
  identified : Identified state
  exclusive : Exclusive state
  publication : Publication state

theorem valid_newStore : Valid newStore :=
  ⟨identified_newStore, exclusive_newStore, publication_newStore⟩

theorem Valid.keep {state next : State} {label : Label} (valid : Valid state)
    (fresh : FreshName state label) (stepped : step state label = some next) : Valid next := by
  have transition := step_transition stepped
  exact ⟨valid.identified.keep fresh transition, valid.exclusive.keep transition,
    valid.publication.keep valid.identified valid.exclusive fresh transition⟩

/-- A published file keeps its bytes: a file is written only while its writer is
idle and open, and no published file has such a writer. -/
theorem Valid.content_kept {state next : State} {label : Label} (valid : Valid state)
    (transition : Transition state label next) {owner : WriterId} {author : Writer}
    {ref : String} (known : state.writers owner = some author)
    (published : author.published = some ref) :
    next.content author.file = state.content author.file := by
  cases transition with
  | crash => rfl
  | access _ move =>
      obtain ⟨updated, frame⟩ := move.frame
      rw [frame.content]
  | openWriter =>
      have older := valid.identified.below known
      simp [Nat.ne_of_lt older]
  | @writer id writer _ _ found _ move =>
      obtain ⟨updated, frame⟩ := move.frame found
      by_cases own : author.file = writer.file
      · obtain rfl := valid.identified.fileInjective known found own
        obtain rfl : author = writer := by simpa [known] using found
        rcases frame.contentKept with kept | ⟨idle, opened⟩
        · rw [kept]
        · have finishing := (valid.publication.coherent known).finishing opened published
          rw [idle] at finishing
          cases finishing
      · exact frame.contentOther _ own

theorem Valid.view_eq {state next : State} {label : Label} (valid : Valid state)
    (transition : Transition state label next) (same : next.data = state.data) :
    next.view = state.view := by
  funext ref
  simp only [State.view, same]
  cases present : state.data ref with
  | none => rfl
  | some file =>
      obtain ⟨owner, author, known, rfl, published⟩ := valid.publication.dataOwned present
      simp only [Option.map_some, valid.content_kept transition known published]

/-- Without `Delete`, an entry keeps its file: `Rename` only creates entries. -/
theorem Valid.data_kept {state next : State} {label : Label} (valid : Valid state)
    (stepped : step state label = some next)
    (keeps : ∀ id succeeds, label ≠ .removeAccess id succeeds) {ref : String} {file : FileId}
    (present : state.data ref = some file) : next.data ref = some file := by
  cases step_transition stepped with
  | openWriter | crash => exact present
  | access _ move =>
      obtain ⟨updated, frame⟩ := move.frame
      rcases frame.data with kept | ⟨removed, standing, -⟩
      · rw [kept]
        exact present
      · rw [standing] at move
        cases move with
        | deleteRemove => exact absurd rfl (keeps _ _)
        | deleteRemoveFails => exact present
  | writer found _ move =>
      obtain ⟨updated, frame⟩ := move.frame found
      rcases frame.data with ⟨kept, -⟩ | ⟨created, moved, stage, -, renamed, -⟩
      · rw [kept]
        exact present
      · have absent := (valid.publication.coherent found).absent stage
        have other : ref ≠ created := by
          intro clash
          rw [clash, absent] at present
          cases present
        rw [renamed, Function.update_of_ne other]
        exact present

theorem Valid.view_kept {state next : State} {label : Label} (valid : Valid state)
    (stepped : step state label = some next)
    (keeps : ∀ id succeeds, label ≠ .removeAccess id succeeds) {ref : String}
    {bytes : List UInt8} (present : state.view ref = some bytes) :
    next.view ref = some bytes := by
  obtain ⟨file, entry, rfl⟩ := Option.map_eq_some_iff.mp present
  have kept := valid.data_kept stepped keeps entry
  obtain ⟨owner, author, known, rfl, published⟩ := valid.publication.dataOwned entry
  rw [State.view, kept, Option.map_some, valid.content_kept (step_transition stepped) known
    published]

theorem valid_of_run {trace : List Label} {state : State}
    (run : system.RunWith FreshName trace state) : Valid state :=
  run.invariant (fun _ initial => initial ▸ valid_newStore)
    fun fresh stepped valid => valid.keep fresh stepped

end Kperf.Runner.LocalStore
