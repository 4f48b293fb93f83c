import Kperf.Contrib.CiliumData
import Kperf.Library.Ledger

/-! Where each resource of `loadCiliumData` is: not yet sent, in the channel, with
the worker that took it, or done with after an attempt that succeeded or was the
last one. -/

set_option autoImplicit false

namespace Kperf.Contrib.CiliumData

namespace Setting

variable (setting : Setting)

/-- The tasks that the first iterations generate, given the names they draw. -/
def generated (uuids : List String) : List Task :=
  uuids.mapIdx fun index uuid => ⟨index, setting.generate index uuid⟩

@[simp] theorem length_generated (uuids : List String) :
    (setting.generated uuids).length = uuids.length := List.length_mapIdx

theorem generated_concat (uuids : List String) (uuid : String) :
    setting.generated (uuids ++ [uuid]) =
      setting.generated uuids ++ [⟨uuids.length, setting.generate uuids.length uuid⟩] :=
  List.mapIdx_concat

@[simp] theorem map_id_generated (uuids : List String) :
    (setting.generated uuids).map Task.id = List.range uuids.length := by
  induction uuids using List.reverseRecOn with
  | nil => rfl
  | append_singleton uuids uuid ih =>
      rw [generated_concat, List.map_append, ih, List.length_append, List.length_singleton,
        List.range_succ]
      rfl

/-- The two loops of the producer, one after the other. -/
theorem map_data_generated (identities endpoints : List String)
    (first : identities.length = setting.numCID) :
    (setting.generated (identities ++ endpoints)).map Task.data =
      identities.map generateCiliumIdentity ++ endpoints.map generateCiliumEndpoint := by
  rw [generated, List.mapIdx_append, List.map_append]
  congr 1
  · refine List.ext_getElem (by simp) fun index short _ => ?_
    have below : index < setting.numCID := by
      rw [← first]
      simpa using short
    simp [generate, below]
  · refine List.ext_getElem (by simp) fun index _ _ => ?_
    have beyond : ¬index + identities.length < setting.numCID := by omega
    simp [generate, beyond]

end Setting

section Frames

variable (state : State) (id : WorkerId) (worker : Goroutine WorkerPoint) (record : Attempt)

@[simp] theorem setWorker_workers :
    (state.setWorker id worker).workers = Function.update state.workers id worker := rfl
@[simp] theorem setWorker_taskChan :
    (state.setWorker id worker).taskChan = state.taskChan := rfl
@[simp] theorem setWorker_producer :
    (state.setWorker id worker).producer = state.producer := rfl
@[simp] theorem setWorker_reporter :
    (state.setWorker id worker).reporter = state.reporter := rfl
@[simp] theorem setWorker_group : (state.setWorker id worker).group = state.group := rfl
@[simp] theorem setWorker_result : (state.setWorker id worker).result = state.result := rfl
@[simp] theorem setWorker_sent : (state.setWorker id worker).sent = state.sent := rfl
@[simp] theorem setWorker_taken : (state.setWorker id worker).taken = state.taken := rfl
@[simp] theorem setWorker_attempts :
    (state.setWorker id worker).attempts = state.attempts := rfl
@[simp] theorem setWorker_appliedCount :
    (state.setWorker id worker).appliedCount = state.appliedCount := rfl

@[simp] theorem record_workers : (state.record record).workers = state.workers := rfl
@[simp] theorem record_taskChan : (state.record record).taskChan = state.taskChan := rfl
@[simp] theorem record_producer : (state.record record).producer = state.producer := rfl
@[simp] theorem record_reporter : (state.record record).reporter = state.reporter := rfl
@[simp] theorem record_group : (state.record record).group = state.group := rfl
@[simp] theorem record_result : (state.record record).result = state.result := rfl
@[simp] theorem record_taken : (state.record record).taken = state.taken := rfl
@[simp] theorem record_attempts :
    (state.record record).attempts = state.attempts ++ [record] := rfl
@[simp] theorem record_appliedCount :
    (state.record record).appliedCount = state.appliedCount := rfl

end Frames

/-! The channel hands the tasks on in the order in which they were sent. -/

structure Delivered (setting : Setting) (state : State) : Prop where
  inOrder : state.taken.map Prod.fst ++ state.taskChan.buffer = state.sent
  generated : ∃ uuids, state.sent = setting.generated uuids
  generating : ∀ {index}, state.producer = .running (.generating index) →
    state.sent.length = index ∧ index ≤ setting.resources ∧ state.taskChan.closed = false
  sending : ∀ {index data}, state.producer = .running (.sending index data) →
    state.sent.length = index ∧ index < setting.resources ∧ state.taskChan.closed = false ∧
      ∃ uuid, data = setting.generate index uuid
  complete : state.taskChan.closed = true → state.sent.length = setting.resources
  bounded : state.taskChan.buffer.length ≤ setting.capacity

section Delivery

variable {setting : Setting} {state next : State} {label : Label}

theorem delivered_start (setting : Setting) : Delivered setting (start setting) where
  inOrder := rfl
  generated := ⟨[], rfl⟩
  generating := by
    intro index stands
    cases stands
    exact ⟨rfl, Nat.zero_le _, rfl⟩
  sending := nofun
  complete := nofun
  bounded := Nat.zero_le _

theorem Delivered.keep_producer (delivered : Delivered setting state)
    (move : ProducerMove setting state state.producer label next) : Delivered setting next := by
  generalize stands : state.producer = producer at move
  cases move with
  | generate below =>
      obtain ⟨count, -, opened⟩ := delivered.generating stands
      refine ⟨delivered.inOrder, delivered.generated, nofun, ?_, delivered.complete,
        delivered.bounded⟩
      intro index data sends
      cases sends
      exact ⟨count, below, opened, _, rfl⟩
  | @send index data opened room =>
      obtain ⟨count, below, -, uuid, rfl⟩ := delivered.sending stands
      obtain ⟨uuids, sent⟩ := delivered.generated
      have drawn : uuids.length = index := by
        rw [← count, sent, Setting.length_generated]
      refine ⟨?_, ⟨uuids ++ [uuid], ?_⟩, ?_, nofun, nofun, ?_⟩
      · simp only [← delivered.inOrder, List.append_assoc]
      · rw [Setting.generated_concat, ← sent, drawn]
      · intro following sends
        cases sends
        refine ⟨?_, below, rfl⟩
        rw [List.length_append, List.length_singleton, count]
      · simp only [List.length_append, List.length_singleton]
        exact room
  | closeTasks complete =>
      obtain ⟨count, limit, -⟩ := delivered.generating stands
      refine ⟨delivered.inOrder, delivered.generated, nofun, nofun, fun _ => ?_,
        delivered.bounded⟩
      dsimp only
      omega
  | quit | closeReporter | settle =>
      exact ⟨delivered.inOrder, delivered.generated, nofun, nofun, delivered.complete,
        delivered.bounded⟩

theorem Delivered.keep_worker {id : WorkerId} {worker : Goroutine WorkerPoint}
    (delivered : Delivered setting state) (move : WorkerMove state id worker label next) :
    Delivered setting next := by
  cases move with
  | @receive _ task rest buffered =>
      refine ⟨?_, delivered.generated, delivered.generating, delivered.sending,
        delivered.complete, ?_⟩
      · simp only [setWorker_taken, setWorker_taskChan, setWorker_sent, ← delivered.inOrder,
          buffered, List.map_append, List.map_singleton, List.append_assoc,
          List.singleton_append]
      · have limit := delivered.bounded
        rw [buffered] at limit
        exact Nat.le_of_succ_le limit
  | leave | quit | apply | retry | giveUp | settle =>
      exact ⟨delivered.inOrder, delivered.generated, delivered.generating, delivered.sending,
        delivered.complete, delivered.bounded⟩

theorem Delivered.keep (delivered : Delivered setting state)
    (transition : Transition setting state label next) : Delivered setting next := by
  cases transition with
  | producer move => exact delivered.keep_producer move
  | worker move => exact delivered.keep_worker move
  | reporter move =>
      generalize state.reporter = reporter at move
      cases move with
      | report => exact delivered
      | finishReports | quit | settle =>
          exact ⟨delivered.inOrder, delivered.generated, delivered.generating,
            delivered.sending, delivered.complete, delivered.bounded⟩
  | parentDone | wait =>
      exact ⟨delivered.inOrder, delivered.generated, delivered.generating, delivered.sending,
        delivered.complete, delivered.bounded⟩

theorem Delivered.ids (delivered : Delivered setting state) :
    state.sent.map Task.id = List.range state.sent.length := by
  obtain ⟨uuids, sent⟩ := delivered.generated
  rw [sent, Setting.map_id_generated, Setting.length_generated]

theorem Delivered.taken_ids (delivered : Delivered setting state) :
    state.taken.map (fun entry => entry.1.id) = List.range state.taken.length := by
  have ids := delivered.ids
  rw [← delivered.inOrder, List.map_append, List.length_append, List.range_add,
    List.length_map] at ids
  have front := (List.append_inj ids (by simp)).1
  rwa [List.map_map] at front

/-- The task at the head of the channel has the number of tasks taken before it. -/
theorem Delivered.next_id (delivered : Delivered setting state) {task : Task} {rest : List Task}
    (buffered : state.taskChan.buffer = task :: rest) : task.id = state.taken.length := by
  have taken := delivered.ids
  rw [← delivered.inOrder, buffered] at taken
  have found := congrArg (fun ids => ids[state.taken.length]?) taken
  simpa using found

theorem Delivered.taken_unique (delivered : Delivered setting state)
    {left right : Task × WorkerId} (first : left ∈ state.taken) (second : right ∈ state.taken)
    (same : left.1.id = right.1.id) : left = right := by
  have distinct : (state.taken.map fun entry => entry.1.id).Nodup := by
    rw [delivered.taken_ids]
    exact List.nodup_range
  exact List.inj_on_of_nodup_map distinct first second same

/-- Once everything was sent, the two loops have run to their ends. -/
theorem Delivered.generated_all (delivered : Delivered setting state)
    (closed : state.taskChan.closed = true) :
    ∃ identities endpoints : List String,
      identities.length = setting.numCID ∧ endpoints.length = setting.numCEP ∧
        state.sent.map Task.data =
          identities.map generateCiliumIdentity ++ endpoints.map generateCiliumEndpoint := by
  obtain ⟨uuids, sent⟩ := delivered.generated
  have drawn : uuids.length = setting.numCID + setting.numCEP := by
    rw [← setting.length_generated, ← sent, delivered.complete closed, Setting.resources]
  have first : (uuids.take setting.numCID).length = setting.numCID := by
    rw [List.length_take]
    omega
  refine ⟨uuids.take setting.numCID, uuids.drop setting.numCID, first, ?_, ?_⟩
  · rw [List.length_drop]
    omega
  · rw [← setting.map_data_generated _ _ first, List.take_append_drop, ← sent]

theorem Delivered.taken_lt (delivered : Delivered setting state) {entry : Task × WorkerId}
    (member : entry ∈ state.taken) : entry.1.id < state.taken.length := by
  have listed := List.mem_map_of_mem (f := fun entry : Task × WorkerId => entry.1.id) member
  rw [delivered.taken_ids] at listed
  exact List.mem_range.mp listed

end Delivery

/-! A worker tries the task it holds until an attempt settles it. -/

def heldTask : Goroutine WorkerPoint → Option Task
  | .running (.applying task _) => some task
  | _ => none

/-- After this attempt the worker is done with the task. -/
def Attempt.settles (attempt : Attempt) : Bool :=
  attempt.err.isNone || !decide (attempt.number + 1 < maxNumCRApplyAttempts)

/-- Tasks taken from the channel, who holds them, and those that were settled. -/
def State.ledger (state : State) : Ledger WorkerId where
  issued := state.taken.length
  held := fun id => (heldTask (state.workers id)).map Task.id
  settled := (state.attempts.filter Attempt.settles).map fun attempt => attempt.task.id

def State.attemptsOn (state : State) (id : Nat) : List Attempt :=
  state.attempts.filter fun attempt => attempt.task.id = id

structure Attempted (setting : Setting) (state : State) : Prop where
  ledger : state.ledger.Balanced
  absent : ∀ {id}, setting.numCRApplyWorkers ≤ id → state.workers id = .exited
  known : ∀ {attempt}, attempt ∈ state.attempts →
    (attempt.task, attempt.worker) ∈ state.taken
  holds : ∀ {id task number}, state.workers id = .running (.applying task number) →
    (task, id) ∈ state.taken ∧ number < maxNumCRApplyAttempts ∧
      (state.attemptsOn task.id).map Attempt.number = List.range number
  numbered : ∀ id, ∃ count ≤ maxNumCRApplyAttempts,
    (state.attemptsOn id).map Attempt.number = List.range count
  counted : state.appliedCount =
    (state.attempts.filter fun attempt => attempt.err.isNone).length % 2 ^ 64

section Attempts

variable {setting : Setting} {state next : State} {label : Label} {id : WorkerId}

theorem attempted_start (setting : Setting) : Attempted setting (start setting) where
  ledger := by
    refine Ledger.balanced_empty fun id => ?_
    dsimp only [start]
    split <;> rfl
  absent := by
    intro id beyond
    exact if_neg (Nat.not_lt.mpr beyond)
  known := nofun
  holds := by
    intro id task number holds
    dsimp only [start] at holds
    split at holds <;> cases holds
  numbered := fun _ => ⟨0, Nat.zero_le _, rfl⟩
  counted := rfl

theorem State.ledger_update (state : State) {next : State} {updated : Goroutine WorkerPoint}
    (workers : next.workers = Function.update state.workers id updated) :
    next.ledger =
      ⟨next.taken.length,
        Function.update state.ledger.held id ((heldTask updated).map Task.id),
        (next.attempts.filter Attempt.settles).map fun attempt => attempt.task.id⟩ := by
  rw [ledger, workers]
  congr 1
  funext other
  exact Function.apply_update (fun _ worker => (heldTask worker).map Task.id) ..

/-- A step of a worker that holds no task before or after it. -/
theorem State.ledger_idle {updated : Goroutine WorkerPoint}
    (workers : next.workers = Function.update state.workers id updated)
    (taken : next.taken = state.taken) (attempts : next.attempts = state.attempts)
    (before : heldTask (state.workers id) = none) (after : heldTask updated = none) :
    next.ledger = state.ledger := by
  have nothing : state.ledger.held id = none := by simp [ledger, before]
  rw [state.ledger_update workers, after, taken, attempts, Option.map_none, ← nothing,
    Function.update_eq_self]
  rfl

theorem Attempted.absent_update {updated : Goroutine WorkerPoint} {other : WorkerId}
    (attempted : Attempted setting state) (active : state.workers id ≠ .exited)
    (beyond : setting.numCRApplyWorkers ≤ other) :
    Function.update state.workers id updated other = .exited := by
  rw [Function.update_of_ne]
  · exact attempted.absent beyond
  · intro same
    subst same
    exact active (attempted.absent beyond)

/-- A worker that ends or waits again without having tried anything. -/
theorem Attempted.keep_idle {updated : Goroutine WorkerPoint}
    (attempted : Attempted setting state) (active : state.workers id ≠ .exited)
    (workers : next.workers = Function.update state.workers id updated)
    (taken : next.taken = state.taken) (attempts : next.attempts = state.attempts)
    (appliedCount : next.appliedCount = state.appliedCount)
    (before : heldTask (state.workers id) = none) (after : heldTask updated = none) :
    Attempted setting next where
  ledger := by
    rw [State.ledger_idle workers taken attempts before after]
    exact attempted.ledger
  absent := by
    rw [workers]
    exact attempted.absent_update active
  known := by
    rw [attempts, taken]
    exact attempted.known
  holds := by
    intro other task number holds
    rw [workers, Function.update_apply] at holds
    rw [State.attemptsOn, attempts, taken]
    split at holds
    · subst holds
      cases after
    · exact attempted.holds holds
  numbered := by
    intro task
    rw [State.attemptsOn, attempts]
    exact attempted.numbered task
  counted := by
    rw [appliedCount, attempts]
    exact attempted.counted

/-- An attempt of the worker that holds the task, whatever its outcome. -/
theorem Attempted.keep_attempt {updated : Goroutine WorkerPoint} {task : Task} {number : Nat}
    {err : Option String} (attempted : Attempted setting state)
    (stands : state.workers id = .running (.applying task number))
    (workers : next.workers = Function.update state.workers id updated)
    (taken : next.taken = state.taken)
    (attempts : next.attempts = state.attempts ++ [⟨task, id, number, err⟩])
    (ledger : next.ledger.Balanced)
    (counted : next.appliedCount =
      (next.attempts.filter fun attempt => attempt.err.isNone).length % 2 ^ 64)
    (again : ∀ {same following}, updated = .running (.applying same following) →
      same = task ∧ following = number + 1 ∧ number + 1 < maxNumCRApplyAttempts) :
    Attempted setting next := by
  obtain ⟨mine, below, numbers⟩ := attempted.holds stands
  have own : (next.attemptsOn task.id).map Attempt.number = List.range (number + 1) := by
    rw [State.attemptsOn, attempts, List.filter_append, List.map_append, List.range_succ,
      ← numbers]
    simp [State.attemptsOn]
  have others : ∀ {other}, other ≠ task.id → next.attemptsOn other = state.attemptsOn other := by
    intro other different
    rw [State.attemptsOn, attempts, List.filter_append]
    simp [State.attemptsOn, Ne.symm different]
  refine ⟨ledger, ?_, ?_, ?_, ?_, counted⟩
  · rw [workers]
    exact attempted.absent_update (by simp [stands])
  · intro attempt member
    rw [taken]
    rw [attempts, List.mem_append, List.mem_singleton] at member
    cases member with
    | inl earlier => exact attempted.known earlier
    | inr last =>
        subst last
        exact mine
  · intro other held following holds
    rw [workers, Function.update_apply] at holds
    rw [taken]
    split at holds
    · obtain ⟨rfl, rfl, more⟩ := again holds
      subst other
      exact ⟨mine, more, own⟩
    · rename_i different
      have apart : held.id ≠ task.id := by
        intro same
        have first : state.ledger.held other = some task.id := by
          simp [State.ledger, holds, heldTask, same]
        have second : state.ledger.held id = some task.id := by
          simp [State.ledger, stands, heldTask]
        exact different (attempted.ledger.heldOnce first second)
      rw [others apart]
      exact attempted.holds holds
  · intro other
    by_cases same : other = task.id
    · subst other
      exact ⟨number + 1, below, own⟩
    · rw [others same]
      exact attempted.numbered other

theorem Attempted.keep_receive {task : Task} {rest : List Task}
    (attempted : Attempted setting state) (delivered : Delivered setting state)
    (stands : state.workers id = .running .selecting)
    (buffered : state.taskChan.buffer = task :: rest) :
    Attempted setting ({ state with
      taskChan := { state.taskChan with buffer := rest }
      taken := state.taken ++ [(task, id)] }.setWorker id (.running (.applying task 0))) := by
  have fresh := delivered.next_id buffered
  have untried : state.attemptsOn task.id = [] := by
    rw [State.attemptsOn, List.filter_eq_nil_iff]
    intro attempt member same
    have earlier := delivered.taken_lt (attempted.known member)
    have equal := of_decide_eq_true same
    dsimp only at earlier
    omega
  refine ⟨?_, attempted.absent_update (by simp [stands]), ?_, ?_, attempted.numbered,
    attempted.counted⟩
  · have free : state.ledger.held id = none := by simp [State.ledger, stands, heldTask]
    rw [state.ledger_update rfl]
    simp only [setWorker_taken, List.length_append, List.length_singleton, heldTask,
      Option.map_some, fresh]
    exact attempted.ledger.issue free
  · intro attempt member
    exact List.mem_append_left _ (attempted.known member)
  · intro other held number holds
    rw [setWorker_workers, Function.update_apply] at holds
    split at holds
    · cases holds
      subst other
      exact ⟨List.mem_append_right _ (List.mem_singleton.mpr rfl), Nat.zero_lt_succ _,
        congrArg (List.map Attempt.number) untried⟩
    · obtain ⟨mine, below, numbers⟩ := attempted.holds holds
      exact ⟨List.mem_append_left _ mine, below, numbers⟩

/-- An attempt that settles its task takes it from the worker. -/
theorem Attempted.ledger_settled {updated : Goroutine WorkerPoint} {attempt : Attempt}
    (attempted : Attempted setting state)
    (held : heldTask (state.workers id) = some attempt.task)
    (settles : attempt.settles = true)
    (workers : next.workers = Function.update state.workers id updated)
    (taken : next.taken = state.taken) (attempts : next.attempts = state.attempts ++ [attempt])
    (released : heldTask updated = none) : next.ledger.Balanced := by
  have mine : state.ledger.held id = some attempt.task.id := by simp [State.ledger, held]
  rw [state.ledger_update workers, released, taken]
  refine attempted.ledger.settle mine ?_
  simp [State.ledger, attempts, settles]

/-- An attempt that does not settle its task leaves it with the worker. -/
theorem Attempted.ledger_retried {updated : Goroutine WorkerPoint} {attempt : Attempt}
    (attempted : Attempted setting state)
    (held : heldTask (state.workers id) = some attempt.task)
    (unsettled : attempt.settles = false)
    (workers : next.workers = Function.update state.workers id updated)
    (taken : next.taken = state.taken) (attempts : next.attempts = state.attempts ++ [attempt])
    (kept : heldTask updated = some attempt.task) : next.ledger.Balanced := by
  have mine : state.ledger.held id = some attempt.task.id := by simp [State.ledger, held]
  have same : next.attempts.filter Attempt.settles = state.attempts.filter Attempt.settles := by
    simp [attempts, List.filter_append, unsettled]
  rw [state.ledger_update workers, kept, taken, same, Option.map_some, ← mine,
    Function.update_eq_self]
  exact attempted.ledger

theorem Attempted.keep_worker (attempted : Attempted setting state)
    (delivered : Delivered setting state)
    (move : WorkerMove state id (state.workers id) label next) : Attempted setting next := by
  generalize stands : state.workers id = worker at move
  cases move with
  | receive buffered => exact attempted.keep_receive delivered stands buffered
  | leave | quit | settle =>
      refine attempted.keep_idle ?_ rfl rfl rfl rfl ?_ rfl
      · rw [stands]
        nofun
      · rw [stands]
        rfl
  | apply =>
      refine attempted.keep_attempt stands rfl rfl rfl ?_ ?_ nofun
      · refine attempted.ledger_settled ?_ rfl rfl rfl rfl rfl
        rw [stands]
        rfl
      · simp [attempted.counted, List.filter_append]
  | retry more =>
      refine attempted.keep_attempt stands rfl rfl rfl ?_ ?_ ?_
      · refine attempted.ledger_retried ?_ (by simp [Attempt.settles, more]) rfl rfl rfl rfl
        rw [stands]
        rfl
      · simp [attempted.counted, List.filter_append]
      · intro same following holds
        cases holds
        exact ⟨rfl, rfl, more⟩
  | giveUp last =>
      refine attempted.keep_attempt stands rfl rfl rfl ?_ ?_ nofun
      · refine attempted.ledger_settled ?_ (by simp [Attempt.settles, last]) rfl rfl rfl rfl
        rw [stands]
        rfl
      · simp [attempted.counted, List.filter_append]

theorem Attempted.keep (attempted : Attempted setting state)
    (delivered : Delivered setting state)
    (transition : Transition setting state label next) : Attempted setting next := by
  cases transition with
  | producer move =>
      generalize state.producer = producer at move
      cases move <;>
        exact ⟨attempted.ledger, attempted.absent, attempted.known, attempted.holds,
          attempted.numbered, attempted.counted⟩
  | worker move => exact attempted.keep_worker delivered move
  | reporter move =>
      generalize state.reporter = reporter at move
      cases move with
      | report => exact attempted
      | finishReports | quit | settle =>
          exact ⟨attempted.ledger, attempted.absent, attempted.known, attempted.holds,
            attempted.numbered, attempted.counted⟩
  | parentDone | wait =>
      exact ⟨attempted.ledger, attempted.absent, attempted.known, attempted.holds,
        attempted.numbered, attempted.counted⟩

theorem Attempted.all_exited (attempted : Attempted setting state)
    (exited : state.AllExited setting) (id : WorkerId) : state.workers id = .exited := by
  by_cases below : id < setting.numCRApplyWorkers
  · exact exited.2.2 id below
  · exact attempted.absent (Nat.le_of_not_lt below)

end Attempts

section Runs

variable {setting : Setting} {allowed : State → Label → Prop} {trace : List Label}
variable {state : State}

theorem delivered_of_run (run : (system setting).RunWith allowed trace state) :
    Delivered setting state := by
  refine run.invariant (fun _ initial => initial ▸ delivered_start setting) ?_
  intro state next label _ stepped delivered
  exact delivered.keep (step_transition stepped)

theorem attempted_of_run (run : (system setting).RunWith allowed trace state) :
    Attempted setting state := by
  refine run.invariant_using delivered_of_run
    (fun _ initial => initial ▸ attempted_start setting) ?_
  intro state next label _ stepped delivered _ attempted
  exact attempted.keep delivered (step_transition stepped)

/-- No worker tries a task more often than `maxNumCRApplyAttempts` times. -/
theorem attempts_bounded (run : (system setting).RunWith allowed trace state) (task : Nat) :
    (state.attemptsOn task).length ≤ maxNumCRApplyAttempts := by
  obtain ⟨count, limit, numbers⟩ := (attempted_of_run run).numbered task
  have length := congrArg List.length numbers
  rw [List.length_map, List.length_range] at length
  rwa [length]

end Runs

end Kperf.Contrib.CiliumData
