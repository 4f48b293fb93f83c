import Kperf.Library.History
import Kperf.Runner.LocalStoreInvariant
import Mathlib.Data.List.Induction

/-! The history of returned calls against the directories. In a run without
reuse of temporary names and without a crash, `data` is what the history of
nil commits and nil deletes says it is, except inside a critical section that
has already taken effect. -/

set_option autoImplicit false

namespace Kperf.Runner.LocalStore

def Access.removed : Access → Option String
  | .deleteUnlock ref .ok => some ref
  | _ => none

/-- The writer of the last successful `Commit` of a ref, unless a successful
`Delete` came after it. -/
def committedBy (history : List Event) (ref : String) : Option WriterId :=
  history.foldl (fun owner event =>
    match event with
    | .commit id other .ok => if other = ref then some id else owner
    | .delete other .ok => if other = ref then none else owner
    | _ => owner) none

@[simp] theorem committedBy_nil (ref : String) : committedBy [] ref = none := rfl

@[simp] theorem committedBy_commit (history : List Event) (id : WriterId)
    (other ref : String) (result : CommitResult) :
    committedBy (history ++ [.commit id other result]) ref =
      if result = .ok ∧ other = ref then some id else committedBy history ref := by
  cases result <;> simp [committedBy]

@[simp] theorem committedBy_delete (history : List Event) (other ref : String)
    (result : DeleteResult) :
    committedBy (history ++ [.delete other result]) ref =
      if result = .ok ∧ other = ref then none else committedBy history ref := by
  cases result <;> simp [committedBy]

@[simp] theorem committedBy_close (history : List Event) (id : WriterId) (succeeded : Bool)
    (ref : String) :
    committedBy (history ++ [.close id succeeded]) ref = committedBy history ref := by
  simp [committedBy]

theorem committedBy_eq_some {history : List Event} {ref : String} {id : WriterId}
    (owner : committedBy history ref = some id) :
    ∃ before after, history = before ++ .commit id ref .ok :: after ∧
      .delete ref .ok ∉ after := by
  induction history using List.reverseRecOn with
  | nil => simp at owner
  | append_singleton history event ih =>
      have extend : committedBy history ref = some id → event ≠ .delete ref .ok →
          ∃ before after, history ++ [event] = before ++ .commit id ref .ok :: after ∧
            .delete ref .ok ∉ after := by
        intro earlier other
        obtain ⟨before, after, split, kept⟩ := ih earlier
        refine ⟨before, after ++ [event], by simp [split], ?_⟩
        simp only [List.mem_append, List.mem_singleton, not_or]
        exact ⟨kept, other.symm⟩
      cases event with
      | close writer succeeded => exact extend (by simpa using owner) (by simp)
      | delete other result =>
          rw [committedBy_delete] at owner
          split at owner
          · cases owner
          · rename_i different
            exact extend owner fun same => by cases same; exact different ⟨rfl, rfl⟩
      | commit writer other result =>
          rw [committedBy_commit] at owner
          split at owner
          · rename_i here
            obtain ⟨rfl, rfl⟩ := here
            cases owner
            exact ⟨history, [], rfl, by simp⟩
          · exact extend owner (by simp)

theorem committedBy_isSome {before after : List Event} {ref : String} {id : WriterId}
    (kept : .delete ref .ok ∉ after) :
    (committedBy (before ++ .commit id ref .ok :: after) ref).isSome := by
  induction after using List.reverseRecOn with
  | nil => simp
  | append_singleton after event ih =>
      simp only [List.mem_append, List.mem_singleton, not_or] at kept
      have earlier := ih kept.1
      rw [← List.cons_append, ← List.append_assoc]
      cases event with
      | close writer succeeded =>
          rw [committedBy_close]
          exact earlier
      | delete other result =>
          rw [committedBy_delete]
          split
          · rename_i here
            obtain ⟨rfl, rfl⟩ := here
            exact absurd rfl kept.2
          · exact earlier
      | commit writer other result =>
          rw [committedBy_commit]
          split
          · rfl
          · exact earlier


def Event.writer : Event → Option WriterId
  | .commit id _ _ | .close id _ => some id
  | .delete _ _ => none

/-- A nil `Commit` found no earlier nil `Commit` of its ref that had not been
deleted, and is the first call on its writer that returned. -/
def CommitLaw (before : List Event) : Event → Prop
  | .commit id ref .ok =>
      committedBy before ref = none ∧ ∀ event ∈ before, event.writer ≠ some id
  | _ => True

def State.fileOf (state : State) (id : WriterId) : Option FileId :=
  (state.writers id).map Writer.file

/-- How `data` relates to the calls that have returned. Inside the critical
section of a `Commit` or a `Delete` that already took effect, `data` is one
entry ahead of the history. -/
structure Recorded (state : State) : Prop where
  renamed : ∀ {id writer ref}, state.writers id = some writer →
    writer.stage.renamed = some ref → committedBy state.history ref = none
  removed : ∀ {id ref}, (state.accesses id).removed = some ref → state.data ref = none
  settled : ∀ {ref}, (∀ id writer, state.writers id = some writer →
      writer.stage.renamed ≠ some ref) →
    (∀ id, (state.accesses id).removed ≠ some ref) →
    state.data ref = (committedBy state.history ref).bind state.fileOf
  entered : ∀ {id writer}, state.writers id = some writer → writer.stage.locked = true →
    writer.stage.renamed = none → state.entered = state.view
  silent : ∀ {id}, (∀ writer, state.writers id = some writer →
      writer.isOpen = true ∨ writer.stage.renamed ≠ none) →
    ∀ event ∈ state.history, event.writer ≠ some id
  lawful : History.Lawful CommitLaw state.history

theorem recorded_newStore : Recorded newStore := by
  refine ⟨?_, ?_, ?_, ?_, ?_, History.lawful_nil⟩ <;> simp [newStore, Access.removed]

theorem Access.locked_of_removed {access : Access} {ref : String}
    (removed : access.removed = some ref) : access.locked = true := by
  unfold Access.removed at removed
  split at removed <;> first | rfl | cases removed

theorem Exclusive.access_only {state : State} (exclusive : Exclusive state) {id other : AccessId}
    (inside : (state.accesses id).locked = true)
    (otherInside : (state.accesses other).locked = true) : other = id := by
  have mine := exclusive.access inside
  rw [exclusive.access otherInside] at mine
  cases mine
  rfl

theorem Recorded.fileOf_isSome {state : State} (recorded : Recorded state) {ref : String}
    {owner : WriterId} (committed : committedBy state.history ref = some owner) :
    ∃ file, state.fileOf owner = some file := by
  cases found : state.writers owner with
  | some writer => exact ⟨writer.file, by simp [State.fileOf, found]⟩
  | none =>
      obtain ⟨before, after, split, -⟩ := committedBy_eq_some committed
      have vacuous : ∀ writer, state.writers owner = some writer →
          writer.isOpen = true ∨ writer.stage.renamed ≠ none := by
        intro writer present
        rw [found] at present
        cases present
      exact absurd rfl (recorded.silent vacuous (.commit owner ref .ok) (by simp [split]))

theorem Recorded.uncommitted {state : State} (recorded : Recorded state) (valid : Valid state)
    {id : WriterId} {writer : Writer} {ref : String} (found : state.writers id = some writer)
    (stage : writer.stage = .commitRename ref) : committedBy state.history ref = none := by
  have inside : writer.stage.locked = true := by simp [stage, Stage.locked]
  have same : state.data ref = (committedBy state.history ref).bind state.fileOf := by
    apply recorded.settled
    · intro other rival present renamed
      obtain rfl := valid.exclusive.writer_only found inside present
        (Stage.locked_of_renamed renamed)
      obtain rfl : writer = rival := by simpa [found] using present
      simp [stage, Stage.renamed] at renamed
    · intro other removed
      have outside := valid.exclusive.access_outside (Access.locked_of_removed removed) found
      rw [inside] at outside
      cases outside
  rw [(valid.publication.coherent found).absent stage] at same
  cases committed : committedBy state.history ref with
  | none => rfl
  | some owner =>
      obtain ⟨file, known⟩ := recorded.fileOf_isSome committed
      simp [committed, known] at same

theorem WriterMove.effect {state next : State} {id : WriterId} {writer updated : Writer}
    {label : Label} (found : state.writers id = some writer)
    (move : WriterMove state id writer label next) (current : next.writers id = some updated) :
    (next.data = state.data ∧ updated.stage.renamed = writer.stage.renamed ∧
      ∀ ref, committedBy next.history ref = committedBy state.history ref) ∨
    (∃ ref file, writer.stage = .commitRename ref ∧ updated.stage.renamed = some ref ∧
      next.history = state.history ∧ next.data = Function.update state.data ref (some file)) ∨
    (∃ ref result, writer.stage = .commitUnlock ref result ∧ next.data = state.data ∧
      next.history = state.history ++ [.commit id ref result] ∧ updated.stage = .idle) := by
  cases move with
  | writeClosed =>
      obtain rfl : writer = updated := by simpa [found] using current
      exact .inl ⟨rfl, rfl, fun _ => rfl⟩
  | rename stage =>
      obtain rfl : _ = updated := by simpa using current
      exact .inr (.inl ⟨_, _, stage, rfl, rfl, rfl⟩)
  | unlock stage =>
      obtain rfl : _ = updated := by simpa using current
      exact .inr (.inr ⟨_, _, stage, rfl, rfl, rfl⟩)
  | closeRemove stage =>
      obtain rfl : _ = updated := by simpa using current
      exact .inl ⟨rfl, by simp [stage, Stage.renamed], by simp⟩
  | @statFails ref succeeds result stage cause =>
      obtain rfl : _ = updated := by simpa using current
      refine .inl ⟨rfl, ?_, fun _ => rfl⟩
      rcases cause with ⟨rfl, -⟩ | rfl <;> simp [stage, Stage.renamed]
  | @commitClose ref result stage =>
      obtain rfl : _ = updated := by simpa using current
      refine .inl ⟨rfl, ?_, fun _ => rfl⟩
      cases result <;> simp [stage, Stage.renamed]
  | @commitRemove ref result succeeds stage =>
      obtain rfl : _ = updated := by simpa using current
      refine .inl ⟨rfl, ?_, fun _ => rfl⟩
      cases result <;> simp [stage, Stage.renamed]
  | write stage | commit stage | lock stage | sync stage | syncFails stage | statAbsent stage
  | renameFails stage | close stage | closeFile stage =>
      obtain rfl : _ = updated := by simpa using current
      exact .inl ⟨rfl, by simp [stage, Stage.renamed], fun _ => rfl⟩

theorem WriterMove.returns {state next : State} {id : WriterId} {writer updated : Writer}
    {label : Label} (coherent : Coherent state writer) (found : state.writers id = some writer)
    (move : WriterMove state id writer label next) (current : next.writers id = some updated) :
    (next.history = state.history ∧
      (updated.isOpen = true ∨ updated.stage.renamed ≠ none →
        writer.isOpen = true ∨ writer.stage.renamed ≠ none)) ∨
    (∃ event, next.history = state.history ++ [event] ∧ event.writer = some id ∧
      updated.isOpen = false ∧ updated.stage.renamed = none ∧
      ∀ ref, event = .commit id ref .ok → writer.stage.renamed = some ref) := by
  cases move with
  | writeClosed =>
      obtain rfl : writer = updated := by simpa [found] using current
      exact .inl ⟨rfl, fun same => same⟩
  | rename stage =>
      exact .inl ⟨rfl, fun _ => .inl (coherent.synced (.inr stage))⟩
  | unlock stage =>
      obtain rfl : _ = updated := by simpa using current
      refine .inr ⟨_, rfl, rfl, coherent.closed (.inr ⟨_, _, .inr stage⟩), rfl, ?_⟩
      intro ref same
      cases same
      simp [stage, Stage.renamed]
  | closeRemove stage =>
      obtain rfl : _ = updated := by simpa using current
      refine .inr ⟨_, rfl, rfl, coherent.closed (.inl stage), rfl, ?_⟩
      intro ref same
      cases same
  | @statFails ref succeeds result stage cause =>
      obtain rfl : _ = updated := by simpa using current
      refine .inl ⟨rfl, ?_⟩
      rcases cause with ⟨rfl, -⟩ | rfl <;> simp [stage, Stage.renamed]
  | @commitClose ref result stage =>
      obtain rfl : _ = updated := by simpa using current
      refine .inl ⟨rfl, ?_⟩
      cases result <;> simp [stage, Stage.renamed]
  | @commitRemove ref result succeeds stage =>
      obtain rfl : _ = updated := by simpa using current
      refine .inl ⟨rfl, ?_⟩
      cases result <;> simp [stage, Stage.renamed]
  | write stage | commit stage | lock stage | sync stage | syncFails stage | statAbsent stage
  | renameFails stage | close stage | closeFile stage =>
      obtain rfl : _ = updated := by simpa using current
      exact .inl ⟨rfl, by simp [stage, Stage.renamed]⟩

theorem AccessMove.effect {state next : State} {id : AccessId} {access : Access} {label : Label}
    (move : AccessMove state id access label next) :
    (next.data = state.data ∧ next.history = state.history ∧
      ((next.accesses id).removed = access.removed ∨
        ∃ ref, access.removed = none ∧ state.data ref = none ∧
          (next.accesses id).removed = some ref)) ∨
    (∃ ref, access = .deleteRemove ref ∧ next.data = Function.update state.data ref none ∧
      next.history = state.history ∧ (next.accesses id).removed = some ref) ∨
    (∃ ref result, access = .deleteUnlock ref result ∧ next.data = state.data ∧
      next.history = state.history ++ [.delete ref result] ∧
      (next.accesses id).removed = none) := by
  cases move with
  | deleteAbsent absent =>
      exact .inl ⟨rfl, rfl, .inr ⟨_, rfl, absent, by simp [Access.removed]⟩⟩
  | deleteRemove => exact .inr (.inl ⟨_, rfl, rfl, rfl, by simp [Access.removed]⟩)
  | deleteUnlock => exact .inr (.inr ⟨_, _, rfl, rfl, rfl, by simp [Access.removed]⟩)
  | _ => exact .inl ⟨rfl, rfl, .inl (by simp [Access.removed])⟩

theorem WriterFrame.fileOf {state next : State} {id : WriterId} {writer updated : Writer}
    (found : state.writers id = some writer)
    (frame : WriterFrame state id writer updated next) : next.fileOf = state.fileOf := by
  funext other
  simp only [State.fileOf, frame.writers, Function.update_apply]
  split
  · subst other
    simp [found, frame.file]
  · rfl

section KeepWriter

variable {state next : State} {id : WriterId} {writer updated : Writer} {label : Label}

private theorem Recorded.renamed_writer (recorded : Recorded state) (valid : Valid state)
    (found : state.writers id = some writer) (frame : WriterFrame state id writer updated next)
    (move : WriterMove state id writer label next) {other : WriterId} {rival : Writer}
    {ref : String} (present : next.writers other = some rival)
    (renamed : rival.stage.renamed = some ref) : committedBy next.history ref = none := by
  have current : next.writers id = some updated := by simp [frame.writers]
  have effect := move.effect found current
  by_cases own : other = id
  · subst other
    obtain rfl : updated = rival := by simpa [current] using present
    rcases effect with ⟨-, same, owners⟩ | ⟨moved, file, stage, same, history, -⟩ |
        ⟨unlocked, result, stage, -, -, idle⟩
    · rw [owners]
      exact recorded.renamed found (same ▸ renamed)
    · rw [same] at renamed
      cases renamed
      rw [history]
      exact recorded.uncommitted valid found stage
    · simp [idle, Stage.renamed] at renamed
  · -- another writer is inside its critical section, so the moving one is not
    have known : state.writers other = some rival := by simpa [frame.writers, own] using present
    have outside : writer.stage.locked ≠ true := fun inside =>
      own (valid.exclusive.writer_only found inside known (Stage.locked_of_renamed renamed))
    rcases effect with ⟨-, -, owners⟩ | ⟨moved, file, stage, -⟩ | ⟨unlocked, result, stage, -⟩
    · rw [owners]
      exact recorded.renamed known renamed
    · exact absurd (by simp [stage, Stage.locked]) outside
    · exact absurd (by simp [stage, Stage.locked]) outside

private theorem Recorded.removed_writer (recorded : Recorded state) (valid : Valid state)
    (found : state.writers id = some writer) (frame : WriterFrame state id writer updated next)
    (move : WriterMove state id writer label next) {access : AccessId} {ref : String}
    (removed : (next.accesses access).removed = some ref) : next.data ref = none := by
  have current : next.writers id = some updated := by simp [frame.writers]
  rw [frame.accesses] at removed
  have absent := recorded.removed removed
  rcases move.effect found current with ⟨data, -⟩ |
      ⟨moved, file, stage, -⟩ | ⟨unlocked, result, stage, data, -⟩
  · rw [data, absent]
  · have outside := valid.exclusive.access_outside (Access.locked_of_removed removed) found
    simp [stage, Stage.locked] at outside
  · rw [data, absent]

private theorem Recorded.settled_writer (recorded : Recorded state) (valid : Valid state)
    (found : state.writers id = some writer) (frame : WriterFrame state id writer updated next)
    (move : WriterMove state id writer label next) {ref : String}
    (noRename : ∀ other rival, next.writers other = some rival →
      rival.stage.renamed ≠ some ref)
    (noRemove : ∀ access, (next.accesses access).removed ≠ some ref) :
    next.data ref = (committedBy next.history ref).bind next.fileOf := by
  have current : next.writers id = some updated := by simp [frame.writers]
  rw [frame.fileOf found]
  rw [frame.accesses] at noRemove
  -- the other writers have not moved, so only the moving one has to be looked at
  have earlier : writer.stage.renamed ≠ some ref →
      state.data ref = (committedBy state.history ref).bind state.fileOf := by
    intro own
    refine recorded.settled ?_ noRemove
    intro other rival present
    by_cases same : other = id
    · subst other
      obtain rfl : writer = rival := by simpa [found] using present
      exact own
    · exact noRename other rival (by simpa [frame.writers, same] using present)
  have mine := noRename id updated current
  rcases move.effect found current with
      ⟨data, same, owners⟩ | ⟨moved, file, stage, renamed, history, data⟩ |
      ⟨unlocked, result, stage, data, history, idle⟩
  · rw [data, owners]
    exact earlier (same ▸ mine)
  · have different : ref ≠ moved := by
      rintro rfl
      exact mine renamed
    rw [data, history, Function.update_of_ne different]
    exact earlier (by simp [stage, Stage.renamed])
  · rw [data, history, committedBy_commit]
    split
    · rename_i here
      obtain ⟨rfl, rfl⟩ := here
      have own := (valid.publication.coherent found).renamed
        (by simp [stage, Stage.renamed] : writer.stage.renamed = some unlocked)
      simp [State.fileOf, found, own]
    · rename_i elsewhere
      apply earlier
      intro renamed
      rw [stage] at renamed
      cases result <;> simp [Stage.renamed] at renamed
      exact elsewhere ⟨rfl, renamed⟩

private theorem Recorded.entered_writer (recorded : Recorded state) (valid : Valid state)
    (later : Valid next) (found : state.writers id = some writer)
    (frame : WriterFrame state id writer updated next) (transition : Transition state label next)
    (move : WriterMove state id writer label next) {other : WriterId} {rival : Writer}
    (present : next.writers other = some rival) (inside : rival.stage.locked = true)
    (pending : rival.stage.renamed = none) : next.entered = next.view := by
  have current : next.writers id = some updated := by simp [frame.writers]
  rcases frame.lock with ⟨-, kept, locked⟩ | ⟨-, -, entered, view, -⟩ | ⟨-, released, -⟩
  · have before : next.data = state.data ∧ state.entered = state.view := by
      have effect := move.effect found current
      by_cases own : other = id
      · subst other
        obtain rfl : updated = rival := by simpa [current] using present
        rcases effect with ⟨data, same, -⟩ | ⟨moved, file, stage, renamed, -⟩ |
            ⟨unlocked, result, stage, data, -, idle⟩
        · exact ⟨data, recorded.entered found (locked ▸ inside) (same ▸ pending)⟩
        · rw [renamed] at pending
          cases pending
        · simp [idle, Stage.locked] at inside
      · have known : state.writers other = some rival := by
          simpa [frame.writers, own] using present
        refine ⟨?_, recorded.entered known inside pending⟩
        rcases effect with ⟨data, -⟩ | ⟨moved, file, stage, -⟩ | ⟨unlocked, result, -, data, -⟩
        · exact data
        · exact absurd (valid.exclusive.writer_only found (by simp [stage, Stage.locked]) known
            inside) own
        · exact data
    rw [kept, before.2, valid.view_eq transition before.1]
  · rw [entered, view]
  · have held := later.exclusive.writer present inside
    rw [released] at held
    cases held

private theorem Recorded.silent_writer (recorded : Recorded state) (valid : Valid state)
    (found : state.writers id = some writer) (frame : WriterFrame state id writer updated next)
    (move : WriterMove state id writer label next) {other : WriterId}
    (ready : ∀ rival, next.writers other = some rival →
      rival.isOpen = true ∨ rival.stage.renamed ≠ none) :
    ∀ event ∈ next.history, event.writer ≠ some other := by
  have current : next.writers id = some updated := by simp [frame.writers]
  have returns := move.returns (valid.publication.coherent found) found current
  by_cases own : other = id
  · subst other
    have mine := ready updated current
    rcases returns with ⟨history, before⟩ | ⟨event, -, -, closed, idle, -⟩
    · rw [history]
      refine recorded.silent ?_
      intro rival present
      obtain rfl : writer = rival := by simpa [found] using present
      exact before mine
    · simp [closed, idle] at mine
  · have earlier := recorded.silent (fun rival present => ready rival
      (by simpa [frame.writers, own] using present))
    rcases returns with ⟨history, -⟩ | ⟨event, history, author, -⟩
    · rw [history]
      exact earlier
    · intro recent member
      rw [history, List.mem_append, List.mem_singleton] at member
      rcases member with old | rfl
      · exact earlier recent old
      · rw [author]
        exact fun same => own (Option.some.inj same).symm

private theorem Recorded.lawful_writer (recorded : Recorded state) (valid : Valid state)
    (found : state.writers id = some writer) (frame : WriterFrame state id writer updated next)
    (move : WriterMove state id writer label next) :
    History.Lawful CommitLaw next.history := by
  have current : next.writers id = some updated := by simp [frame.writers]
  rcases move.returns (valid.publication.coherent found) found current with
      ⟨history, -⟩ | ⟨event, history, author, -, -, commits⟩
  · rw [history]
    exact recorded.lawful
  · rw [history]
    refine History.lawful_append_singleton recorded.lawful ?_
    cases event with
    | close | delete => trivial
    | commit other ref result =>
        cases author
        cases result with
        | ok =>
            have renamed := commits ref rfl
            refine ⟨recorded.renamed found renamed, recorded.silent ?_⟩
            intro rival present
            obtain rfl : writer = rival := by simpa [found] using present
            exact .inr (by simp [renamed])
        | _ => trivial

end KeepWriter


private theorem Recorded.keep_writer {state next : State} {id : WriterId} {writer : Writer}
    {label : Label} (recorded : Recorded state) (valid : Valid state) (later : Valid next)
    (found : state.writers id = some writer) (transition : Transition state label next)
    (move : WriterMove state id writer label next) : Recorded next := by
  obtain ⟨updated, frame⟩ := move.frame found
  exact ⟨recorded.renamed_writer valid found frame move,
    recorded.removed_writer valid found frame move,
    recorded.settled_writer valid found frame move,
    recorded.entered_writer valid later found frame transition move,
    recorded.silent_writer valid found frame move,
    recorded.lawful_writer valid found frame move⟩

section KeepAccess

variable {state next : State} {id : AccessId} {updated : Access} {label : Label}

private theorem Recorded.renamed_access (recorded : Recorded state) (valid : Valid state)
    (frame : AccessFrame state id (state.accesses id) updated next)
    (move : AccessMove state id (state.accesses id) label next) {other : WriterId}
    {writer : Writer} {ref : String} (present : next.writers other = some writer)
    (renamed : writer.stage.renamed = some ref) : committedBy next.history ref = none := by
  rw [frame.writers] at present
  have outside : (state.accesses id).locked ≠ true := by
    intro locked
    have free := valid.exclusive.access_outside locked present
    rw [Stage.locked_of_renamed renamed] at free
    cases free
  rcases move.effect with ⟨-, history, -⟩ | ⟨target, stands, -⟩ | ⟨target, result, stands, -⟩
  · rw [history]
    exact recorded.renamed present renamed
  · exact absurd (by simp [stands, Access.locked]) outside
  · exact absurd (by simp [stands, Access.locked]) outside

private theorem Recorded.removed_access (recorded : Recorded state) (valid : Valid state)
    (frame : AccessFrame state id (state.accesses id) updated next)
    (move : AccessMove state id (state.accesses id) label next) {other : AccessId}
    {ref : String} (removed : (next.accesses other).removed = some ref) :
    next.data ref = none := by
  by_cases own : other = id
  · subst other
    rcases move.effect with ⟨data, -, same | ⟨target, -, absent, here⟩⟩ |
        ⟨target, -, data, -, here⟩ | ⟨target, result, -, -, -, here⟩
    · rw [data]
      exact recorded.removed (same ▸ removed)
    · rw [here] at removed
      cases removed
      rw [data, absent]
    · rw [here] at removed
      cases removed
      simp [data]
    · rw [here] at removed
      cases removed
  · have earlier : (state.accesses other).removed = some ref := by
      simpa [frame.accesses, own] using removed
    rcases move.effect with ⟨data, -⟩ | ⟨target, stands, -⟩ | ⟨target, result, -, data, -⟩
    · rw [data]
      exact recorded.removed earlier
    · have inside : (state.accesses id).locked = true := by simp [stands, Access.locked]
      exact absurd (valid.exclusive.access_only inside (Access.locked_of_removed earlier)) own
    · rw [data]
      exact recorded.removed earlier

private theorem Recorded.settled_access (recorded : Recorded state)
    (frame : AccessFrame state id (state.accesses id) updated next)
    (move : AccessMove state id (state.accesses id) label next) {ref : String}
    (noRename : ∀ other writer, next.writers other = some writer →
      writer.stage.renamed ≠ some ref)
    (noRemove : ∀ other, (next.accesses other).removed ≠ some ref) :
    next.data ref = (committedBy next.history ref).bind next.fileOf := by
  have files : next.fileOf = state.fileOf := by
    funext other
    simp [State.fileOf, frame.writers]
  rw [frame.writers] at noRename
  rw [files]
  have earlier : (state.accesses id).removed ≠ some ref →
      state.data ref = (committedBy state.history ref).bind state.fileOf := by
    intro own
    refine recorded.settled noRename ?_
    intro other
    by_cases same : other = id
    · subst other
      exact own
    · have kept := noRemove other
      simpa [frame.accesses, same] using kept
  have mine := noRemove id
  rcases move.effect with ⟨data, history, same | ⟨target, quiet, -⟩⟩ |
      ⟨target, stands, data, history, here⟩ | ⟨target, result, stands, data, history, -⟩
  · rw [data, history]
    exact earlier (same ▸ mine)
  · rw [data, history]
    exact earlier (by simp [quiet])
  · have different : ref ≠ target := by
      rintro rfl
      exact mine here
    rw [data, history, Function.update_of_ne different]
    exact earlier (by simp [stands, Access.removed])
  · rw [data, history, committedBy_delete]
    split
    · rename_i here
      obtain ⟨rfl, rfl⟩ := here
      rw [recorded.removed (by rw [stands]; rfl)]
      rfl
    · rename_i elsewhere
      apply earlier
      intro removed
      rw [stands] at removed
      cases result <;> simp [Access.removed] at removed
      exact elsewhere ⟨rfl, removed⟩

private theorem Recorded.entered_access (recorded : Recorded state) (valid : Valid state)
    (frame : AccessFrame state id (state.accesses id) updated next)
    (transition : Transition state label next) {other : WriterId} {writer : Writer}
    (present : next.writers other = some writer) (locked : writer.stage.locked = true)
    (pending : writer.stage.renamed = none) : next.entered = next.view := by
  rw [frame.writers] at present
  have outside : (state.accesses id).locked ≠ true := by
    intro held
    have free := valid.exclusive.access_outside held present
    rw [locked] at free
    cases free
  rcases frame.lock with ⟨-, kept, -⟩ | ⟨-, -, entered, view, -⟩ | ⟨held, -⟩
  · have data : next.data = state.data := by
      rcases frame.data with same | ⟨target, stands, -⟩
      · exact same
      · exact absurd (by simp [stands, Access.locked]) outside
    rw [kept, recorded.entered present locked pending, valid.view_eq transition data]
  · rw [entered, view]
  · exact absurd held outside

private theorem Recorded.keep_access (recorded : Recorded state) (valid : Valid state)
    (transition : Transition state label next)
    (move : AccessMove state id (state.accesses id) label next) : Recorded next := by
  obtain ⟨updated, frame⟩ := move.frame
  -- a `Delete` is the only call that returns here, and it belongs to no writer
  have grows : next.history = state.history ∨
      ∃ ref result, next.history = state.history ++ [.delete ref result] := by
    rcases move.effect with ⟨-, history, -⟩ | ⟨target, -, -, history, -⟩ |
        ⟨target, result, -, -, history, -⟩
    · exact .inl history
    · exact .inl history
    · exact .inr ⟨target, result, history⟩
  refine ⟨recorded.renamed_access valid frame move, recorded.removed_access valid frame move,
    recorded.settled_access frame move, recorded.entered_access valid frame transition, ?_, ?_⟩
  · intro other ready
    rw [frame.writers] at ready
    have earlier := recorded.silent ready
    rcases grows with history | ⟨ref, result, history⟩
    · rw [history]
      exact earlier
    · intro event member
      rw [history, List.mem_append, List.mem_singleton] at member
      rcases member with old | rfl
      · exact earlier event old
      · simp [Event.writer]
  · rcases grows with history | ⟨ref, result, history⟩
    · rw [history]
      exact recorded.lawful
    · rw [history]
      exact History.lawful_append_singleton recorded.lawful trivial

end KeepAccess

private theorem Recorded.keep_openWriter {state next : State} {id : WriterId} {name : String}
    (recorded : Recorded state) (valid : Valid state)
    (transition : Transition state (.openWriter id name) next) : Recorded next := by
  cases transition with
  | writer _ actor => cases actor
  | access actor => cases actor
  | openWriter absent free =>
      have quiet : ∀ event ∈ state.history, event.writer ≠ some id := by
        refine recorded.silent ?_
        simp [absent]
      have known : ∀ {other writer}, Function.update state.writers id
          (some ⟨name, state.nextFile, true, .idle, [], none⟩) other = some writer →
          other = id ∧ writer.stage = .idle ∨ state.writers other = some writer := by
        intro other writer present
        rw [Function.update_apply] at present
        split at present
        · cases present
          exact .inl ⟨‹_›, rfl⟩
        · exact .inr present
      refine ⟨?_, recorded.removed, ?_, ?_, ?_, recorded.lawful⟩
      · intro other writer ref present renamed
        rcases known present with ⟨-, idle⟩ | found
        · simp [idle, Stage.renamed] at renamed
        · exact recorded.renamed found renamed
      · intro ref noRename noRemove
        have same : state.data ref = (committedBy state.history ref).bind state.fileOf := by
          refine recorded.settled ?_ noRemove
          intro other writer present
          refine noRename other writer ?_
          have different : other ≠ id := fun same => by simp [same, absent] at present
          simp [different, present]
        refine same.trans ?_
        cases committed : committedBy state.history ref with
        | none => rfl
        | some owner =>
            obtain ⟨before, after, split, -⟩ := committedBy_eq_some committed
            have different : owner ≠ id := by
              rintro rfl
              exact quiet (.commit owner ref .ok) (by simp [split]) rfl
            simp [State.fileOf, different]
      · intro other writer present locked pending
        have view := valid.view_eq (.openWriter absent free : Transition state _ _) rfl
        rcases known present with ⟨-, idle⟩ | found
        · simp [idle, Stage.locked] at locked
        · rw [view]
          exact recorded.entered found locked pending
      · intro other ready
        by_cases own : other = id
        · subst other
          exact quiet
        · refine recorded.silent fun writer present => ready writer ?_
          simp [own, present]

/-- Temporary names are never reused, and the process does not die. -/
def Orderly (state : State) (label : Label) : Prop :=
  FreshName state label ∧ label ≠ .crash

instance (state : State) (label : Label) : Decidable (Orderly state label) :=
  inferInstanceAs (Decidable (FreshName state label ∧ label ≠ .crash))

theorem recorded_of_run {trace : List Label} {state : State}
    (run : system.RunWith Orderly trace state) : Recorded state := by
  refine run.invariant_using (fun earlier => valid_of_run (earlier.mono fun _ _ both => both.1))
    (fun _ initial => initial ▸ recorded_newStore) ?_
  intro state next label orderly stepped valid later recorded
  have transition := step_transition stepped
  cases transition with
  | openWriter absent free => exact recorded.keep_openWriter valid (.openWriter absent free)
  | crash => exact absurd rfl orderly.2
  | writer found actor move =>
      exact recorded.keep_writer valid later found (.writer found actor move) move
  | access actor move => exact recorded.keep_access valid (.access actor move) move

end Kperf.Runner.LocalStore
