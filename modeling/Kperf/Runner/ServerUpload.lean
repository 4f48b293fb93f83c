import Kperf.Library.Outcome
import Kperf.Runner.ServerTransition

/-! The upload protocol: what a runner is told about its report agrees with what
the store holds, across lost answers, overlapping attempts and restarts. -/

set_option autoImplicit false

namespace Kperf.Runner.Server

open Types Summary

def Stage.unopened : Stage → Bool
  | .checking _ | .opening => true
  | _ => false

/-- What the writer of a handler holds of the body it copies. -/
def Writes (body : List UInt8) (pod : String) (writer : LocalStore.Writer) : Stage → Prop
  | .copying rest => writer.stage = .idle ∧ writer.isOpen = true ∧ writer.published = none ∧
      writer.accepted ++ rest = body
  | .committing => writer.accepted = body ∧ writer.stage.ref = some pod
  | _ => True

def Controlled (setting : Setting) (state : State) (pod : String) : Prop :=
  ∃ group ∈ setting.groups, (group, pod) ∈ state.controlled

/-- The whole report of a runner is in the store. -/
def Stored (setting : Setting) (state : State) (pod : String) : Prop :=
  state.store.view pod = some (setting.body pod)

/-- What holds of one handler against the store. -/
structure Serves (setting : Setting) (state : State) (id : AttemptId) (attempt : Attempt) :
    Prop where
  asks : ∀ {groups}, attempt.stage = .checking groups → groups ⊆ setting.groups
  fresh : attempt.stage.unopened = true → state.store.writers id = none
  controlled : attempt.stage = .opening ∨ (state.store.writers id).isSome →
    Controlled setting state attempt.pod
  writes : ∀ {writer}, state.store.writers id = some writer →
    Writes (setting.body attempt.pod) attempt.pod writer attempt.stage
  published : ∀ {writer ref}, state.store.writers id = some writer →
    writer.published = some ref → ref = attempt.pod ∧ writer.accepted = setting.body attempt.pod
  taken : ∀ {writer ref}, state.store.writers id = some writer →
    writer.stage.taken = some ref → (state.store.view ref).isSome
  returned : ∀ {result}, attempt.stage = .returned result → commitStatus result ≠ 500 →
    Stored setting state attempt.pod
  answered : ∀ {code}, attempt.status = some code → code = 201 ∨ code = 409 →
    Stored setting state attempt.pod

/-- The runners, their handlers and the store together. -/
structure Uploading (setting : Setting) (state : State) : Prop where
  owned : ∀ {id writer}, state.store.writers id = some writer →
    ∃ attempt, state.attempts id = some attempt
  serves : ∀ {id attempt}, state.attempts id = some attempt → Serves setting state id attempt
  posting : ∀ {pod id}, state.clients pod = .posting id →
    ∃ attempt, state.attempts id = some attempt ∧ attempt.pod = pod
  exited : ∀ {pod}, state.clients pod = .exited 0 → Stored setting state pod

theorem uploading_start (setting : Setting) : Uploading setting (start setting) := by
  constructor <;> simp [start, LocalStore.newStore]

theorem Uploading.entry {setting : Setting} {state : State} (uploading : Uploading setting state)
    (valid : LocalStore.Valid state.store) {ref : String} {bytes : List UInt8}
    (present : state.store.view ref = some bytes) :
    Controlled setting state ref ∧ bytes = setting.body ref := by
  obtain ⟨file, entry, rfl⟩ := Option.map_eq_some_iff.mp present
  obtain ⟨id, writer, found, rfl, published⟩ := valid.publication.dataOwned entry
  obtain ⟨attempt, handler⟩ := uploading.owned found
  have serves := uploading.serves handler
  obtain ⟨rfl, whole⟩ := serves.published found published
  refine ⟨serves.controlled (.inr (by rw [found]; rfl)), ?_⟩
  rw [valid.identified.content found, whole]

theorem Uploading.stored_of_isSome {setting : Setting} {state : State}
    (uploading : Uploading setting state) (valid : LocalStore.Valid state.store) {ref : String}
    (present : (state.store.view ref).isSome) : Stored setting state ref := by
  obtain ⟨bytes, found⟩ := Option.isSome_iff_exists.mp present
  obtain ⟨-, rfl⟩ := uploading.entry valid found
  exact found

/-- Entries and the record of controlled pods only grow. -/
structure Grows (state next : State) : Prop where
  kept : ∀ {ref bytes}, state.store.view ref = some bytes → next.store.view ref = some bytes
  controlled : state.controlled ⊆ next.controlled

theorem Grows.stored {setting : Setting} {state next : State} (grows : Grows state next)
    {pod : String} (stored : Stored setting state pod) : Stored setting next pod :=
  grows.kept stored

theorem Grows.isSome {state next : State} (grows : Grows state next) {ref : String}
    (present : (state.store.view ref).isSome) : (next.store.view ref).isSome := by
  obtain ⟨bytes, found⟩ := Option.isSome_iff_exists.mp present
  rw [grows.kept found]
  rfl

theorem Grows.isControlled {setting : Setting} {state next : State} (grows : Grows state next)
    {pod : String} (controlled : Controlled setting state pod) :
    Controlled setting next pod := by
  obtain ⟨group, configured, recorded⟩ := controlled
  exact ⟨group, configured, grows.controlled recorded⟩

theorem Transition.controlled {setting : Setting} {state next : State} {label : Label}
    (transition : Transition setting state label next) : state.controlled ⊆ next.controlled := by
  cases transition with
  | post | receive | lose | get | cancel | crash => exact List.Subset.refl _
  | attempt found move =>
      cases move with
      | accept => exact List.subset_append_left _ _
      | _ => exact List.Subset.refl _
  | summary move =>
      generalize state.summary.phase = phase at move
      cases move <;> exact List.Subset.refl _

theorem Transition.grows {setting : Setting} {state next : State} {label : Label}
    (transition : Transition setting state label next) (valid : LocalStore.Valid state.store) :
    Grows state next := by
  refine ⟨?_, transition.controlled⟩
  intro ref bytes present
  rcases transition.storeEffect with same | ⟨action, called, -, keeps⟩
  · rw [same]
    exact present
  · exact valid.view_kept called keeps present

theorem Serves.congr {setting : Setting} {state next : State} {id : AttemptId}
    {attempt : Attempt} (serves : Serves setting state id attempt) (grows : Grows state next)
    (same : next.store.writers id = state.store.writers id) :
    Serves setting next id attempt where
  asks := serves.asks
  fresh := fun unopened => same.trans (serves.fresh unopened)
  controlled := fun opened => grows.isControlled (serves.controlled (same ▸ opened))
  writes := fun found => serves.writes (same ▸ found)
  published := fun found => serves.published (same ▸ found)
  taken := fun found ref => grows.isSome (serves.taken (same ▸ found) ref)
  returned := fun stage success => grows.stored (serves.returned stage success)
  answered := fun status code => grows.stored (serves.answered status code)

theorem Serves.finish {setting : Setting} {state next : State} {id : AttemptId}
    {attempt updated : Attempt} (serves : Serves setting state id attempt)
    (grows : Grows state next) (same : next.store.writers id = state.store.writers id)
    (pod : updated.pod = attempt.pod) (ended : updated.stage = .done ∨ updated.stage = .closing)
    (answered : ∀ code, updated.status = some code → code = 201 ∨ code = 409 →
      Stored setting next attempt.pod) :
    Serves setting next id updated where
  asks := by rcases ended with stage | stage <;> simp [stage]
  fresh := by rcases ended with stage | stage <;> simp [stage, Stage.unopened]
  controlled := by
    intro opened
    rw [pod]
    apply grows.isControlled
    apply serves.controlled
    rcases opened with stage | opened
    · rcases ended with ended | ended <;> simp [stage] at ended
    · exact .inr (same ▸ opened)
  writes := by
    intro writer found
    rcases ended with stage | stage <;> simp [stage, Writes]
  published := by
    intro writer ref found
    rw [pod]
    exact serves.published (same ▸ found)
  taken := fun found ref => grows.isSome (serves.taken (same ▸ found) ref)
  returned := by
    intro result stage
    rcases ended with ended | ended <;> simp [stage] at ended
  answered := by
    intro code status success
    rw [pod]
    exact answered code status success

/-- A handler whose writer made a call that is neither a `Write` nor an
`OpenWriter`, and that goes on or ends. -/
theorem Serves.call {setting : Setting} {state next : State} {id : AttemptId}
    {attempt updated : Attempt} {writer moved : LocalStore.Writer} {label : LocalStore.Label}
    (serves : Serves setting state id attempt) (grows : Grows state next)
    (found : state.store.writers id = some writer) (after : next.store.writers id = some moved)
    (effect : LocalStore.WriterEffect state.store id writer moved label)
    (silent : ∀ bytes count, label ≠ .write id bytes count)
    (pod : updated.pod = attempt.pod) (status : updated.status = attempt.status)
    (opened : updated.stage.unopened = false)
    (publishes : label = .rename id true → ∀ {ref}, writer.stage.ref = some ref →
      ref = attempt.pod ∧ writer.accepted = setting.body attempt.pod)
    (writes : Writes (setting.body attempt.pod) attempt.pod moved updated.stage)
    (returned : ∀ {result}, updated.stage = .returned result → commitStatus result ≠ 500 →
      Stored setting next attempt.pod) :
    Serves setting next id updated where
  asks := by
    intro groups stage
    simp [stage, Stage.unopened] at opened
  fresh := by simp [opened]
  controlled := by
    intro _
    rw [pod]
    exact grows.isControlled (serves.controlled (.inr (by rw [found]; rfl)))
  writes := by
    intro other same
    rw [after] at same
    cases same
    rw [pod]
    exact writes
  published := by
    intro other ref same published
    rw [after] at same
    cases same
    rw [pod, effect.accepted silent]
    rcases effect.published with kept | ⟨renamed, target, under, moved⟩
    · exact serves.published found (kept ▸ published)
    · rw [moved] at published
      cases published
      exact publishes renamed under
  taken := by
    intro other ref same taken
    rw [after] at same
    cases same
    apply grows.isSome
    rcases effect.taken taken with before | present
    · exact serves.taken found before
    · simpa [LocalStore.State.view] using present
  returned := by
    intro result stage success
    rw [pod]
    exact returned stage success
  answered := by
    intro code answered success
    rw [pod]
    exact grows.stored (serves.answered (status ▸ answered) success)

theorem Serves.work {setting : Setting} {state next : State} {id : AttemptId}
    {attempt : Attempt} {writer : LocalStore.Writer} {label : LocalStore.Label} {stage : Stage}
    (serves : Serves setting state id attempt) (grows : Grows state next)
    (valid : LocalStore.Valid state.store) (uploading : Uploading setting state)
    (actor : label.actor = some (.writer id)) (found : state.store.writers id = some writer)
    (works : workStage writer.stage attempt.stage label = some stage)
    (called : LocalStore.step state.store label = some next.store) :
    Serves setting next id { attempt with stage := stage } := by
  obtain ⟨moved, after, effect⟩ := LocalStore.step_writer_effect called actor found
  have writes := serves.writes found
  cases before : attempt.stage with
  | committing =>
      rw [before] at works writes
      obtain ⟨whole, under⟩ := writes
      have goesOn (silent : ∀ bytes count, label ≠ .write id bytes count)
          (inside : label ≠ .unlock id) (same : stage = .committing) :
          Serves setting next id { attempt with stage := stage } := by
        subst same
        refine serves.call grows found after effect silent rfl rfl rfl ?_ ⟨?_, ?_⟩ (by simp)
        · intro _ ref standing
          rw [under] at standing
          cases standing
          exact ⟨rfl, whole⟩
        · rw [effect.accepted silent, whole]
        · rcases effect.ref under with unlocked | kept
          · exact absurd unlocked inside
          · exact kept
      cases label with
      | lock | sync | stat | rename | closeFile | remove =>
          cases works
          exact goesOn (by simp) (by simp) rfl
      | unlock other =>
          cases actor
          simp only [workStage] at works
          split at works
          · rename_i ref result standing
            cases works
            rw [standing] at under
            cases under
            refine serves.call grows found after effect (by simp) rfl rfl rfl (by simp) trivial ?_
            intro _ stage success
            cases stage
            apply grows.stored
            cases result with
            | ok =>
                have own := (valid.publication.coherent found).renamed
                  (by simp [standing, LocalStore.Stage.renamed] :
                    writer.stage.renamed = some attempt.pod)
                simp [Stored, LocalStore.State.view, own, valid.identified.content found, whole]
            | alreadyExists =>
                refine uploading.stored_of_isSome valid (serves.taken found ?_)
                rw [standing]
                rfl
            | syncFailed | statFailed | renameFailed => exact absurd rfl success
          · cases works
      | _ => cases works
  | closing =>
      rw [before] at works
      have closes (silent : ∀ bytes count, label ≠ .write id bytes count)
          (quiet : label ≠ .rename id true) (ended : stage = .closing ∨ stage = .done) :
          Serves setting next id { attempt with stage := stage } := by
        refine serves.call grows found after effect silent rfl rfl ?_
          (fun renamed => absurd renamed quiet) ?_ ?_
        · rcases ended with rfl | rfl <;> rfl
        · rcases ended with rfl | rfl <;> trivial
        · rcases ended with rfl | rfl <;> simp
      cases label with
      | close | closeFile =>
          cases works
          exact closes (by simp) (by simp) (.inl rfl)
      | remove =>
          cases works
          exact closes (by simp) (by simp) (.inr rfl)
      | _ => cases works
  | _ =>
      rw [before] at works
      cases label <;> cases works

theorem Serves.opened {setting : Setting} {state next : State} {id : AttemptId}
    {attempt : Attempt} {name : String} (serves : Serves setting state id attempt)
    (grows : Grows state next) (stage : attempt.stage = .opening)
    (called : LocalStore.step state.store (.openWriter id name) = some next.store) :
    Serves setting next id { attempt with stage := .copying (setting.body attempt.pod) } := by
  have created : ∃ file, next.store.writers id = some ⟨name, file, true, .idle, [], none⟩ := by
    generalize next.store = store at called
    cases LocalStore.step_transition called with
    | openWriter => exact ⟨_, Function.update_self ..⟩
    | writer _ actor _ | access actor _ => cases actor
  obtain ⟨file, created⟩ := created
  have own {writer : LocalStore.Writer} (found : next.store.writers id = some writer) :
      writer = ⟨name, file, true, .idle, [], none⟩ := by
    rw [created] at found
    exact (Option.some.inj found).symm
  refine ⟨by simp, by simp [Stage.unopened], ?_, ?_, ?_, ?_, by simp, ?_⟩
  · intro _
    exact grows.isControlled (serves.controlled (.inl stage))
  · intro writer found
    rw [own found]
    exact ⟨rfl, rfl, rfl, rfl⟩
  · intro writer ref found published
    rw [own found] at published
    cases published
  · intro writer ref found taken
    rw [own found] at taken
    cases taken
  · intro code status success
    exact grows.stored (serves.answered status success)

theorem Serves.write {setting : Setting} {state next : State} {id : AttemptId}
    {attempt updated : Attempt} {rest bytes : List UInt8} {taken : Nat}
    (serves : Serves setting state id attempt) (grows : Grows state next)
    (found : ∃ writer, state.store.writers id = some writer)
    (stage : attempt.stage = .copying rest)
    (called : LocalStore.step state.store (.write id bytes taken) = some next.store)
    (pod : updated.pod = attempt.pod)
    (goesOn : updated.stage = .closing ∧ updated.status = some 500 ∨
      ∃ left, updated.stage = .copying left ∧ updated.status = attempt.status ∧
        rest = bytes.take taken ++ left) :
    Serves setting next id updated := by
  obtain ⟨writer, found⟩ := found
  have writes := serves.writes found
  rw [stage] at writes
  obtain ⟨idle, opened, unpublished, whole⟩ := writes
  have written : next.store.writers id =
      some { writer with accepted := writer.accepted ++ bytes.take taken } := by
    generalize next.store = store at called
    cases LocalStore.step_transition called with
    | access actor _ => cases actor
    | writer other actor move =>
        cases actor
        rw [found] at other
        cases other
        cases move with
        | write => exact LocalStore.setWriter_own ..
        | writeClosed _ closed =>
            rw [opened] at closed
            cases closed
  have own {other : LocalStore.Writer} (present : next.store.writers id = some other) :
      other = { writer with accepted := writer.accepted ++ bytes.take taken } := by
    rw [written] at present
    exact (Option.some.inj present).symm
  refine ⟨?_, ?_, ?_, ?_, ?_, ?_, ?_, ?_⟩
  · rcases goesOn with ⟨ended, -⟩ | ⟨left, copying, -⟩ <;> simp [*]
  · rcases goesOn with ⟨ended, -⟩ | ⟨left, copying, -⟩ <;> simp [*, Stage.unopened]
  · intro _
    rw [pod]
    exact grows.isControlled (serves.controlled (.inr (by rw [found]; rfl)))
  · intro other present
    rw [own present, pod]
    rcases goesOn with ⟨ended, -⟩ | ⟨left, copying, -, split⟩
    · rw [ended]
      trivial
    · rw [copying]
      refine ⟨idle, opened, unpublished, ?_⟩
      rw [← whole, split, List.append_assoc]
  · intro other ref present published
    rw [own present] at published
    rw [unpublished] at published
    cases published
  · intro other ref present taken
    rw [own present] at taken
    rw [idle] at taken
    cases taken
  · rcases goesOn with ⟨ended, -⟩ | ⟨left, copying, -⟩ <;> simp [*]
  · intro code status success
    rw [pod]
    rcases goesOn with ⟨-, failed⟩ | ⟨left, -, same, -⟩
    · rw [failed] at status
      cases status
      omega
    · exact grows.stored (serves.answered (same ▸ status) success)

theorem Serves.commit {setting : Setting} {state next : State} {id : AttemptId}
    {attempt : Attempt} (serves : Serves setting state id attempt) (grows : Grows state next)
    (stage : attempt.stage = .copying [])
    (called : LocalStore.step state.store (.commit id attempt.pod) = some next.store) :
    Serves setting next id { attempt with stage := .committing } := by
  have begun : ∃ writer, state.store.writers id = some writer ∧
      next.store.writers id = some { writer with stage := .commitLock attempt.pod } := by
    generalize next.store = store at called
    cases LocalStore.step_transition called with
    | access actor _ => cases actor
    | writer found actor move =>
        cases actor
        cases move with
        | commit => exact ⟨_, found, LocalStore.setWriter_own ..⟩
  obtain ⟨writer, found, after⟩ := begun
  have writes := serves.writes found
  rw [stage] at writes
  obtain ⟨-, -, unpublished, whole⟩ := writes
  rw [List.append_nil] at whole
  have effect : LocalStore.WriterEffect state.store id writer
      { writer with stage := .commitLock attempt.pod } (.commit id attempt.pod) := by
    obtain ⟨moved, same, effect⟩ := LocalStore.step_writer_effect called rfl found
    rw [after] at same
    cases same
    exact effect
  exact serves.call grows found after effect (by simp) rfl rfl rfl (by simp) ⟨whole, rfl⟩ (by simp)

theorem AttemptMove.serves {setting : Setting} {state next : State} {id : AttemptId}
    {attempt : Attempt} {label : Label} (move : AttemptMove setting state id attempt label next)
    (serves : Serves setting state id attempt) (grows : Grows state next)
    (valid : LocalStore.Valid state.store) (uploading : Uploading setting state) :
    ∃ updated, next.attempts = Function.update state.attempts id (some updated) ∧
      updated.pod = attempt.pod ∧ Serves setting next id updated := by
  cases move with
  | refuse | checkFails | openFails =>
      refine ⟨_, rfl, rfl, serves.finish grows rfl rfl (.inl rfl) ?_⟩
      intro code status success
      cases status
      omega
  | cut =>
      refine ⟨_, rfl, rfl, serves.finish grows rfl rfl (.inr rfl) ?_⟩
      intro code status success
      cases status
      omega
  | answer stage =>
      refine ⟨_, rfl, rfl, serves.finish grows rfl rfl (.inr rfl) ?_⟩
      intro code status success
      cases status
      exact grows.stored (serves.returned stage (by omega))
  | @accept group rest pods stage accepted =>
      have configured : group ∈ setting.groups := serves.asks stage List.mem_cons_self
      have unopened := serves.fresh (by rw [stage]; rfl)
      refine ⟨_, rfl, rfl, by simp, fun _ => unopened, ?_, ?_, ?_, ?_, by simp, ?_⟩
      · intro _
        exact ⟨group, configured, List.mem_append_right _ (List.mem_singleton.mpr rfl)⟩
      · intro writer found
        trivial
      · intro writer ref found
        exact serves.published found
      · intro writer ref found
        exact serves.taken found
      · intro code status success
        exact grows.stored (serves.answered status success)
  | pass stage =>
      have unopened := serves.fresh (by rw [stage]; rfl)
      refine ⟨_, rfl, rfl, ?_, fun _ => unopened, ?_, ?_, ?_, ?_, by simp, ?_⟩
      · intro groups same
        cases same
        exact fun group member => serves.asks stage (List.mem_cons_of_mem _ member)
      · intro opened
        rcases opened with opening | opened
        · cases opening
        · exact serves.controlled (.inr opened)
      · intro writer found
        trivial
      · intro writer ref found
        exact serves.published found
      · intro writer ref found
        exact serves.taken found
      · intro code status success
        exact serves.answered status success
  | opened stage called => exact ⟨_, rfl, rfl, serves.opened grows stage called⟩
  | @copied rest count taken store stage called whole =>
      refine ⟨_, rfl, rfl, serves.write grows (LocalStore.writer_of_step called rfl) stage called
        rfl (.inr ⟨_, rfl, rfl, ?_⟩)⟩
      rw [List.take_of_length_le whole, List.take_append_drop]
  | copiedShort stage called =>
      exact ⟨_, rfl, rfl, serves.write grows (LocalStore.writer_of_step called rfl) stage called
        rfl (.inl ⟨rfl, rfl⟩)⟩
  | commit stage called => exact ⟨_, rfl, rfl, serves.commit grows stage called⟩
  | work actor found works called =>
      exact ⟨_, rfl, rfl, serves.work grows valid uploading actor found works called⟩

theorem AttemptMove.frame {setting : Setting} {state next : State} {id : AttemptId}
    {attempt : Attempt} {label : Label} (move : AttemptMove setting state id attempt label next) :
    next.clients = state.clients ∧
      ∀ {other}, other ≠ id → next.store.writers other = state.store.writers other := by
  cases move with
  | refuse | checkFails | accept | pass | openFails | cut | answer =>
      exact ⟨rfl, fun _ => rfl⟩
  | opened _ called =>
      exact ⟨rfl, (LocalStore.step_writer_frame called (.inr ⟨_, rfl⟩)).1⟩
  | copied _ called | copiedShort _ called | commit _ called =>
      exact ⟨rfl, (LocalStore.step_writer_frame called (.inl rfl)).1⟩
  | work actor _ _ called => exact ⟨rfl, (LocalStore.step_writer_frame called (.inl actor)).1⟩

theorem SummaryMove.frame {setting : Setting} {state next : State} {phase : Phase} {label : Label}
    (move : SummaryMove setting state phase label next) :
    next.attempts = state.attempts ∧ next.clients = state.clients ∧
      next.store.writers = state.store.writers := by
  cases move with
  | finish | summarize | listFails | list | publish => exact ⟨rfl, rfl, rfl⟩
  | openReader called | openFails called | readAll _ called =>
      exact ⟨rfl, rfl, LocalStore.step_writers_access called rfl⟩
  | @call _ _ _ _ _ call _ reads called =>
      refine ⟨rfl, rfl, ?_⟩
      cases call <;> first | exact LocalStore.step_writers_access called rfl | cases reads

theorem Uploading.congr {setting : Setting} {state next : State}
    (uploading : Uploading setting state) (grows : Grows state next)
    (attempts : next.attempts = state.attempts) (clients : next.clients = state.clients)
    (writers : next.store.writers = state.store.writers) : Uploading setting next where
  owned := by
    intro id writer found
    rw [attempts]
    exact uploading.owned (writers ▸ found)
  serves := by
    intro id attempt found
    rw [attempts] at found
    exact (uploading.serves found).congr grows (congrFun writers id)
  posting := by
    rw [attempts, clients]
    exact uploading.posting
  exited := by
    intro pod done
    rw [clients] at done
    exact grows.stored (uploading.exited done)

theorem Uploading.setClient {setting : Setting} {state : State} {pod : String} {client : Client}
    (uploading : Uploading setting state)
    (posting : ∀ {id}, client = .posting id →
      ∃ attempt, state.attempts id = some attempt ∧ attempt.pod = pod)
    (exited : client = .exited 0 → Stored setting state pod) :
    Uploading setting (state.setClient pod client) where
  owned := uploading.owned
  serves := fun found => (uploading.serves found).congr
    ⟨fun present => present, List.Subset.refl _⟩ rfl
  posting := by
    intro name id standing
    rw [setClient_clients] at standing
    split at standing
    · subst name
      exact posting standing
    · exact uploading.posting standing
  exited := by
    intro name standing
    rw [setClient_clients] at standing
    split at standing
    · subst name
      exact exited standing
    · exact uploading.exited standing

theorem Uploading.setAttempt {setting : Setting} {state next : State} {id : AttemptId}
    {updated : Attempt} (uploading : Uploading setting state) (grows : Grows state next)
    (attempts : next.attempts = Function.update state.attempts id (some updated))
    (clients : next.clients = state.clients)
    (others : ∀ {other}, other ≠ id → next.store.writers other = state.store.writers other)
    (pod : ∀ attempt, state.attempts id = some attempt → updated.pod = attempt.pod)
    (serves : Serves setting next id updated) : Uploading setting next where
  owned := by
    intro other writer found
    rw [attempts, Function.update_apply]
    split
    · exact ⟨updated, rfl⟩
    · exact uploading.owned (others ‹_› ▸ found)
  serves := by
    intro other attempt found
    rw [attempts, Function.update_apply] at found
    split at found
    · subst other
      cases found
      exact serves
    · exact (uploading.serves found).congr grows (others ‹_›)
  posting := by
    intro name other standing
    rw [clients] at standing
    obtain ⟨attempt, found, own⟩ := uploading.posting standing
    rw [attempts, Function.update_apply]
    split
    · subst other
      exact ⟨updated, rfl, (pod attempt found).trans own⟩
    · exact ⟨attempt, found, own⟩
  exited := by
    intro name standing
    rw [clients] at standing
    exact grows.stored (uploading.exited standing)

theorem Uploading.restart {setting : Setting} {state : State}
    (uploading : Uploading setting state) (grows : Grows state (restart setting state)) :
    Uploading setting (restart setting state) where
  owned := by
    intro id writer found
    obtain ⟨before, known, -⟩ := Option.map_eq_some_iff.mp found
    obtain ⟨attempt, handler⟩ := uploading.owned known
    exact ⟨_, Option.map_eq_some_iff.mpr ⟨attempt, handler, rfl⟩⟩
  serves := by
    intro id attempt found
    obtain ⟨before, known, rfl⟩ := Option.map_eq_some_iff.mp found
    have serves := uploading.serves known
    refine ⟨by simp, by simp [Stage.unopened], ?_, ?_, ?_, ?_, by simp, ?_⟩
    · intro opened
      rcases opened with opening | opened
      · cases opening
      · obtain ⟨writer, moved⟩ := Option.isSome_iff_exists.mp opened
        obtain ⟨held, present, -⟩ := Option.map_eq_some_iff.mp moved
        exact grows.isControlled (serves.controlled (.inr (by rw [present]; rfl)))
    · intro writer _
      trivial
    · intro writer ref moved published
      obtain ⟨held, present, rfl⟩ := Option.map_eq_some_iff.mp moved
      have own := serves.published present published
      exact own
    · intro writer ref moved taken
      obtain ⟨held, present, rfl⟩ := Option.map_eq_some_iff.mp moved
      cases taken
    · intro code status success
      exact grows.stored (serves.answered status success)
  posting := by
    intro pod id standing
    obtain ⟨attempt, found, own⟩ := uploading.posting standing
    exact ⟨_, Option.map_eq_some_iff.mpr ⟨attempt, found, rfl⟩, own⟩
  exited := fun standing => grows.stored (uploading.exited standing)

theorem Uploading.keep {setting : Setting} {state next : State} {label : Label}
    (uploading : Uploading setting state) (valid : LocalStore.Valid state.store)
    (transition : Transition setting state label next) : Uploading setting next := by
  have grows := transition.grows valid
  cases transition with
  | @post pod id ready unused =>
      have unopened : state.store.writers id = none := by
        cases opened : state.store.writers id with
        | none => rfl
        | some writer =>
            obtain ⟨attempt, found⟩ := uploading.owned opened
            rw [unused] at found
            cases found
      have created : Serves setting (state.setAttempt id ⟨pod, .checking setting.groups, none⟩) id
          ⟨pod, .checking setting.groups, none⟩ := by
        refine ⟨?_, fun _ => unopened, ?_, ?_, ?_, ?_, by simp, by simp⟩
        · intro groups same
          cases same
          exact List.Subset.refl _
        · intro opened
          rcases opened with opening | opened
          · cases opening
          · rw [setAttempt_store, unopened] at opened
            cases opened
        all_goals
          intro writer
          simp [unopened]
      have added : Uploading setting
          (state.setAttempt id ⟨pod, .checking setting.groups, none⟩) := by
        refine uploading.setAttempt ⟨fun present => present, List.Subset.refl _⟩ rfl rfl
          (fun _ => rfl) ?_ created
        intro attempt found
        rw [unused] at found
        cases found
      refine added.setClient ?_ (by simp)
      intro other same
      cases same
      exact ⟨_, (setAttempt_attempts ..).trans (if_pos rfl), rfl⟩
  | @receive pod id attempt code posting found answered =>
      obtain ⟨handler, own, rfl⟩ := uploading.posting posting
      rw [found] at own
      cases own
      apply uploading.setClient
      · intro other same
        unfold Client.receive at same
        split_ifs at same
      · intro ended
        apply (uploading.serves found).answered answered
        unfold Client.receive at ended
        split_ifs at ended with created conflict gone
        · exact .inl created
        · exact .inr conflict
        · cases ended
  | lose => exact uploading.setClient (by simp) (by simp)
  | @attempt id attempt _ _ found move =>
      obtain ⟨updated, attempts, pod, serves⟩ :=
        move.serves (uploading.serves found) grows valid uploading
      obtain ⟨clients, others⟩ := move.frame
      refine uploading.setAttempt grows attempts clients others ?_ serves
      intro other same
      rw [found] at same
      cases same
      exact pod
  | summary move =>
      obtain ⟨attempts, clients, writers⟩ := move.frame
      exact uploading.congr grows attempts clients writers
  | get | cancel => exact uploading.congr grows rfl rfl rfl
  | crash => exact uploading.restart grows

theorem uploading_of_run {setting : Setting} {trace : List Label} {state : State}
    (run : (system setting).RunWith FreshName trace state) : Uploading setting state := by
  refine run.invariant_using store_valid ?_ ?_
  · intro state initial
    rw [initial]
    exact uploading_start setting
  · intro state next label _ stepped valid _ uploading
    exact uploading.keep valid (step_transition stepped)

/-- Reports are delivered at most once and success is never reported falsely. -/
structure Delivery (setting : Setting) (state : State) : Prop where
  entries : ∀ {ref bytes}, state.store.view ref = some bytes →
    (∃ group ∈ setting.groups, (group, ref) ∈ state.controlled) ∧ bytes = setting.body ref
  /-- no step replaces or removes an entry -/
  kept : ∀ {label next}, step setting state label = some next → ∀ {ref bytes},
    state.store.view ref = some bytes → next.store.view ref = some bytes
  exited : ∀ {pod}, state.clients pod = .exited 0 →
    state.store.view pod = some (setting.body pod)
  accepted : ∀ {label next}, step setting state label = some next → ∀ {group pod},
    (group, pod) ∈ next.controlled → (group, pod) ∉ state.controlled →
    ∃ id pods, label = .check id pods ∧ isControlled group pod pods = some true

theorem Transition.accepted {setting : Setting} {state next : State} {label : Label}
    (transition : Transition setting state label next) {group pod : String}
    (recorded : (group, pod) ∈ next.controlled) (fresh : (group, pod) ∉ state.controlled) :
    ∃ id pods, label = .check id pods ∧ isControlled group pod pods = some true := by
  cases transition with
  | post | receive | lose | get | cancel | crash => exact absurd recorded fresh
  | attempt found move =>
      cases move with
      | accept stage accepted =>
          rcases List.mem_append.mp recorded with old | new
          · exact absurd old fresh
          · cases List.mem_singleton.mp new
            exact ⟨_, _, rfl, accepted⟩
      | _ => exact absurd recorded fresh
  | summary move =>
      generalize state.summary.phase = phase at move
      cases move <;> exact absurd recorded fresh

/-- The upload protocol in every run in which temporary names are not reused,
with any interleaving, lost answers, cut bodies and restarts. -/
theorem upload_delivery {setting : Setting} {trace : List Label} {state : State}
    (run : (system setting).RunWith FreshName trace state) : Delivery setting state := by
  have uploading := uploading_of_run run
  have valid := store_valid run
  exact {
    entries := uploading.entry valid
    kept := fun stepped => ((step_transition stepped).grows valid).kept
    exited := uploading.exited
    accepted := fun stepped => (step_transition stepped).accepted }

namespace Sample

def text : List UInt8 :=
  "\x7b\"total\":1,\"duration\":\"1s\",\"totalReceivedBytes\":5\x7d".toUTF8.toList

def wire : Wire where
  formatFloat := Format.float
  formatTime := fun _ => "1970-01-01T00:00:00Z"
  formatDuration := fun duration => toString (duration / 1000000000) ++ "s"
  parseDuration := fun text => if text = "1s" then some 1000000000 else none
  postData := fun file => file.filter fun byte => byte ≠ 0 && byte ≠ 10 && byte ≠ 13
  decodeMulti := fun _ => some ⟨[], 0, "", [], ∅, 0, ∅, [], ∅⟩
  decodeSingle := fun data => if data = text then some ⟨1, "1s", [], ∅, 5, ∅, [], ∅⟩ else none

def setting : Setting := ⟨["run-0", "run-1"], fun _ => text, wire⟩

def upload (pod : String) (id : AttemptId) (name : String) : List Label :=
  [.post pod id, .check id (some [pod]), .openWriter id (some name), .copy id 100 100,
    .bodyEnds id]

def commits (id : AttemptId) : List Label :=
  [.work (.lock id), .work (.sync id true), .work (.stat id true), .work (.rename id true),
    .work (.closeFile id), .work (.remove id true), .work (.unlock id)]

/-- The first body is cut short; the second report is renamed when the server
dies before it answers; the third attempt finds it there. -/
def interrupted : List Label :=
  [.post "run-0-a" 0, .check 0 (some ["run-0-a"]), .openWriter 0 (some "1"), .copy 0 10 10,
    .bodyFails 0, .receive "run-0-a"] ++ upload "run-0-a" 1 "2" ++ (commits 1).take 4 ++
  [.crash, .lose "run-0-a"] ++ upload "run-0-a" 2 "3" ++
  [.work (.lock 2), .work (.sync 2 true), .work (.stat 2 true), .work (.closeFile 2),
    .work (.remove 2 true), .work (.unlock 2), .answer 2, .receive "run-0-a"]

end Sample

theorem upload_delivery_interrupted :
    ∃ state, (system Sample.setting).RunWith FreshName Sample.interrupted state ∧
      state.clients "run-0-a" = .exited 0 ∧ state.created = [] ∧
      Delivery Sample.setting state := by
  obtain ⟨state, executed, exited, created⟩ :
      ∃ state ∈ (system Sample.setting).executeWith FreshName (start Sample.setting)
          Sample.interrupted,
        state.clients "run-0-a" = .exited 0 ∧ state.created = [] := by decide +kernel
  have run := TransitionSystem.runWith_of_executeWith rfl executed
  exact ⟨state, run, exited, created, upload_delivery run⟩

end Kperf.Runner.Server
