import Kperf.Runner.LocalStoreHistory

/-! What users of the store rely on. `CommitContract` is the write-once law of
`Commit`; `Isolated` says that a writer is not touched by calls on another one. -/

set_option autoImplicit false

namespace Kperf.Runner.LocalStore

/-- The writer whose `Commit` put the entry there: the call has returned nil and
no `Delete` of the ref returned nil since, or it is still inside its critical
section and about to return nil. -/
def Committer (state : State) (ref : String) (id : WriterId) (writer : Writer) : Prop :=
  (∃ before after, state.history = before ++ .commit id ref .ok :: after ∧
    .delete ref .ok ∉ after) ∨
  (state.lock = some (.writer id) ∧ writer.stage.renamed = some ref)

/-- Commits are atomic and an entry is written once. -/
structure CommitContract (state : State) : Prop where
  entries : ∀ {ref bytes}, state.view ref = some bytes → ∃ id writer,
    state.writers id = some writer ∧ writer.accepted = bytes ∧ Committer state ref id writer
  once : ∀ {ref first second before between after},
    state.history = before ++ .commit first ref .ok ::
      (between ++ .commit second ref .ok :: after) →
    .delete ref .ok ∈ between
  /-- a `Commit` about to return an error leaves `data` as it was at its `Lock` -/
  failed : ∀ {id ref result writer next}, state.writers id = some writer →
    writer.stage = .commitUnlock ref result → result ≠ .ok →
    step state (.unlock id) = some next → next.view = state.entered
  reused : ∀ {id ref result earlier before after},
    state.history = before ++ .commit id ref result :: after →
    earlier ∈ before → earlier.writer = some id → result ≠ .ok
  closing : ∀ {id succeeds label next},
    label = .close id ∨ label = .closeFile id ∨ label = .remove id succeeds →
    step state label = some next → next.view = state.view

theorem Recorded.committer {state : State} (recorded : Recorded state) (valid : Valid state)
    {ref : String} {bytes : List UInt8} (present : state.view ref = some bytes) :
    ∃ id writer, state.writers id = some writer ∧ writer.accepted = bytes ∧
      Committer state ref id writer := by
  obtain ⟨file, entry, rfl⟩ := Option.map_eq_some_iff.mp present
  by_cases pending : ∃ id writer, state.writers id = some writer ∧
      writer.stage.renamed = some ref
  · obtain ⟨id, writer, found, renamed⟩ := pending
    have own := (valid.publication.coherent found).renamed renamed
    rw [entry] at own
    cases own
    exact ⟨id, writer, found, (valid.identified.content found).symm,
      .inr ⟨valid.exclusive.writer found (Stage.locked_of_renamed renamed), renamed⟩⟩
  · have owned : state.data ref = (committedBy state.history ref).bind state.fileOf :=
      recorded.settled (fun id writer found renamed => pending ⟨id, writer, found, renamed⟩)
        (fun id removed => by simp [recorded.removed removed] at entry)
    rw [entry] at owned
    obtain ⟨id, owner, held⟩ := Option.bind_eq_some_iff.mp owned.symm
    obtain ⟨writer, found, rfl⟩ := Option.map_eq_some_iff.mp held
    exact ⟨id, writer, found, (valid.identified.content found).symm,
      .inl (committedBy_eq_some owner)⟩

theorem Recorded.once {state : State} (recorded : Recorded state) {ref : String}
    {first second : WriterId} {before between after : List Event}
    (history : state.history = before ++ .commit first ref .ok ::
      (between ++ .commit second ref .ok :: after)) :
    .delete ref .ok ∈ between := by
  by_contra kept
  have law := recorded.lawful (before ++ .commit first ref .ok :: between)
    (.commit second ref .ok) after (by simp [history])
  have owner : (committedBy (before ++ .commit first ref .ok :: between) ref).isSome :=
    committedBy_isSome kept
  rw [law.1] at owner
  cases owner

theorem Recorded.failed {state next : State} (recorded : Recorded state) (valid : Valid state)
    {id : WriterId} {ref : String} {result : CommitResult} {writer : Writer}
    (found : state.writers id = some writer) (stage : writer.stage = .commitUnlock ref result)
    (failed : result ≠ .ok) (stepped : step state (.unlock id) = some next) :
    next.view = state.entered := by
  have kept := valid.view_eq (step_transition stepped)
  rw [recorded.entered found (by simp [stage, Stage.locked])
    (by cases result <;> simp_all [Stage.renamed])]
  apply kept
  simp only [step, Label.actor, found, Option.bind_some, stepWriter, unlock, stage,
    Option.some.injEq] at stepped
  rw [← stepped]
  rfl

theorem Recorded.reused {state : State} (recorded : Recorded state) {id : WriterId}
    {ref : String} {result : CommitResult} {earlier : Event} {before after : List Event}
    (history : state.history = before ++ .commit id ref result :: after)
    (member : earlier ∈ before) (own : earlier.writer = some id) : result ≠ .ok := by
  rintro rfl
  exact (recorded.lawful before _ after history).2 earlier member own

theorem WriterMove.closing_data {state next : State} {id : WriterId} {writer : Writer}
    {label : Label} {succeeds : Bool} (move : WriterMove state id writer label next)
    (closing : label = .close id ∨ label = .closeFile id ∨ label = .remove id succeeds) :
    next.data = state.data := by
  cases move <;> first | rfl | simp at closing

theorem Valid.closing {state next : State} (valid : Valid state) {id : WriterId}
    {succeeds : Bool} {label : Label}
    (closing : label = .close id ∨ label = .closeFile id ∨ label = .remove id succeeds)
    (stepped : step state label = some next) : next.view = state.view := by
  have transition := step_transition stepped
  refine valid.view_eq transition ?_
  cases transition with
  | openWriter | crash => simp at closing
  | writer found actor move =>
      have same : label.actor = some (.writer id) := by
        rcases closing with rfl | rfl | rfl <;> rfl
      rw [actor] at same
      cases same
      exact move.closing_data closing
  | access actor move => rcases closing with rfl | rfl | rfl <;> cases actor

/-- In every run in which temporary names are not reused and the process does
not crash, the store keeps the contract of `Commit`. -/
theorem commit_atomic_once {trace : List Label} {state : State}
    (run : system.RunWith Orderly trace state) : CommitContract state := by
  have recorded := recorded_of_run run
  have valid : Valid state := valid_of_run (run.mono fun _ _ orderly => orderly.1)
  exact {
    entries := recorded.committer valid
    once := recorded.once
    failed := recorded.failed valid
    reused := recorded.reused
    closing := valid.closing }

def racingCommits : List Label :=
  [.openWriter 0 "1", .openWriter 1 "2", .write 0 [7, 8] 2, .write 1 [9] 1,
    .commit 1 "runner", .commit 0 "runner", .lock 0, .sync 0 true, .stat 0 true,
    .rename 0 true, .closeFile 0, .remove 0 true, .unlock 0, .lock 1, .sync 1 true,
    .stat 1 true, .closeFile 1, .remove 1 false, .unlock 1, .close 0, .closeFile 0,
    .remove 0 true]

theorem commit_atomic_once_racing :
    ∃ state, system.RunWith Orderly racingCommits state ∧
      state.view "runner" = some [7, 8] ∧
      state.history = [.commit 0 "runner" .ok, .commit 1 "runner" .alreadyExists,
        .close 0 true] ∧ CommitContract state := by
  obtain ⟨state, executed, stored, returned⟩ :
      ∃ state ∈ system.executeWith Orderly newStore racingCommits,
        state.view "runner" = some [7, 8] ∧
        state.history = [.commit 0 "runner" .ok, .commit 1 "runner" .alreadyExists,
          .close 0 true] := by decide
  have run := TransitionSystem.runWith_of_executeWith rfl executed
  exact ⟨state, run, stored, returned, commit_atomic_once run⟩

/-- A writer is not affected by calls on other writers. -/
structure Isolated (state : State) : Prop where
  undisturbed : ∀ {caller id label writer next}, label.actor = some (.writer caller) →
    caller ≠ id → state.writers id = some writer → writer.isOpen = true →
    state.ingest writer.name = some writer.file → step state label = some next →
    next.ingest writer.name = some writer.file
  publishes : ∀ {id ref writer}, state.writers id = some writer →
    writer.stage = .commitUnlock ref .ok → state.view ref = some writer.accepted

theorem Valid.undisturbed {state next : State} (valid : Valid state) {caller id : WriterId}
    {label : Label} {writer : Writer} (actor : label.actor = some (.writer caller))
    (different : caller ≠ id) (present : state.writers id = some writer)
    (intact : state.ingest writer.name = some writer.file)
    (stepped : step state label = some next) :
    next.ingest writer.name = some writer.file := by
  cases step_transition stepped with
  | openWriter | crash => cases actor
  | access other move =>
      rw [actor] at other
      cases other
  | writer found own move =>
      rw [actor] at own
      cases own
      obtain ⟨updated, frame⟩ := move.frame found
      rw [frame.ingestOther writer.name fun same =>
        different (valid.identified.nameInjective found present same.symm)]
      exact intact

theorem Valid.publishes {state : State} (valid : Valid state) {id : WriterId} {ref : String}
    {writer : Writer} (found : state.writers id = some writer)
    (stage : writer.stage = .commitUnlock ref .ok) :
    state.view ref = some writer.accepted := by
  have own := (valid.publication.coherent found).renamed
    (by simp [stage, Stage.renamed] : writer.stage.renamed = some ref)
  simp [State.view, own, valid.identified.content found]

/-- Writers are isolated in every run in which `os.CreateTemp` never returns a
name twice, whatever else happens. -/
theorem isolated_of_freshNames {trace : List Label} {state : State}
    (run : system.RunWith FreshName trace state) : Isolated state := by
  have valid := valid_of_run run
  exact {
    undisturbed := fun actor different present _ => valid.undisturbed actor different present
    publishes := valid.publishes }

theorem isolated_of_freshNames_racing :
    ∃ state, system.RunWith FreshName racingCommits state ∧
      state.view "runner" = some [7, 8] ∧ Isolated state := by
  obtain ⟨state, executed, stored⟩ :
      ∃ state ∈ system.executeWith FreshName newStore racingCommits,
        state.view "runner" = some [7, 8] := by decide
  have run := TransitionSystem.runWith_of_executeWith rfl executed
  exact ⟨state, run, stored, isolated_of_freshNames run⟩

/-- A name is free again between the rename and the deferred `Close` of one
`Commit`; a writer opened there gets it. -/
def reusedName : List Label :=
  [.openWriter 0 "1", .commit 0 "runner", .lock 0, .sync 0 true, .stat 0 true,
    .rename 0 true, .openWriter 1 "1", .closeFile 0]

theorem reusedName_not_isolated :
    ∃ state, system.Run reusedName state ∧ ¬ Isolated state := by
  obtain ⟨state, executed, ⟨writer, present, opened, intact, name⟩, next, stepped, gone⟩ :
      ∃ state ∈ system.execute newStore reusedName,
        (∃ writer ∈ state.writers 1, writer.isOpen = true ∧
          state.ingest writer.name = some writer.file ∧ writer.name = "1") ∧
        ∃ next ∈ step state (.remove 0 true), next.ingest "1" = none := by decide
  refine ⟨state, TransitionSystem.runWith_of_executeWith rfl executed, fun isolated => ?_⟩
  have kept := isolated.undisturbed rfl (by decide) present opened intact stepped
  rw [name, gone] at kept
  cases kept

end Kperf.Runner.LocalStore
