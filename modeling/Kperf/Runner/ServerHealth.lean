import Kperf.Runner.ServerRoster
import Mathlib.Algebra.BigOperators.Finprod

/-! A time without failures. A handler that has met none goes on to accept its report, a
runner whose request comes to nothing starts over, and every step brings the delivery of
all reports nearer. -/

set_option autoImplicit false

namespace Kperf.Runner.LocalStore

def CommitResult.accepted : CommitResult → Bool
  | .ok | .alreadyExists => true
  | _ => false

/-- A `Commit` that has met no failure. -/
def Stage.promising : Stage → Bool
  | .commitLock _ | .commitSync _ | .commitStat _ | .commitRename _ => true
  | .commitClose _ result | .commitRemove _ result | .commitUnlock _ result => result.accepted
  | _ => false

/-- It meets none in a call that does not fail, and at the end it returns what it came to. -/
theorem Valid.promising_call {state next : State} {id : WriterId} {writer : Writer} {label : Label}
    (valid : Valid state) (found : state.writers id = some writer)
    (actor : label.actor = some (.writer id)) (called : step state label = some next)
    (sound : label.fails = false) (promising : writer.stage.promising = true)
    (unclosed : ∀ {ref}, writer.stage = .commitSync ref → writer.isOpen = true) :
    ∃ updated, next.writers id = some updated ∧
      (updated.stage.promising = true ∨ label = .unlock id) := by
  have coherent := valid.publication.coherent found
  cases label with
  | openWriter | crash => cases actor
  | delete | openReader | lockAccess | statAccess | removeAccess | openAccess | unlockAccess
  | closeReader => cases actor
  | write | commit | close =>
      cases actor
      simp only [step, Label.actor, found, Option.bind_some, stepWriter, write] at called
      split at called
      · rename_i idle
        rw [idle] at promising
        cases promising
      · cases called
  | lock =>
      cases actor
      simp only [step, Label.actor, found, Option.bind_some, stepWriter] at called
      split at called
      · obtain ⟨locked, -, rfl⟩ := Option.map_eq_some_iff.mp called
        exact ⟨_, setWriter_own .., .inl rfl⟩
      · cases called
  | sync other succeeds =>
      cases actor
      simp only [step, Label.actor, found, Option.bind_some, stepWriter, sync] at called
      split at called
      · rename_i ref stands
        have whole : (writer.isOpen && succeeds) = true := by
          rw [unclosed stands]
          simpa [Label.fails] using sound
        rw [if_pos whole] at called
        cases called
        exact ⟨_, setWriter_own .., .inl rfl⟩
      · cases called
  | stat other succeeds =>
      cases actor
      simp only [step, Label.actor, found, Option.bind_some, stepWriter, stat] at called
      split at called
      · have whole : succeeds = true := by simpa [Label.fails] using sound
        rw [if_pos whole] at called
        split at called
        · cases called
          exact ⟨_, setWriter_own .., .inl rfl⟩
        · cases called
          exact ⟨_, setWriter_own .., .inl rfl⟩
      · cases called
  | rename other succeeds =>
      cases actor
      simp only [step, Label.actor, found, Option.bind_some, stepWriter, rename] at called
      split at called
      · rename_i ref stands
        have opened := coherent.synced (.inr stands)
        have present : state.ingest writer.name = some writer.file := by
          refine coherent.intact opened ?_
          cases published : writer.published with
          | none => rfl
          | some name =>
              cases (coherent.finishing opened published).symm.trans stands
        have whole : succeeds = true := by simpa [Label.fails] using sound
        rw [present, whole] at called
        cases called
        exact ⟨_, setWriter_own .., .inl rfl⟩
      · cases called
  | closeFile =>
      cases actor
      simp only [step, Label.actor, found, Option.bind_some, stepWriter, closeFile] at called
      split at called
      · rename_i ref result stands
        cases called
        rw [stands] at promising
        exact ⟨_, setWriter_own .., .inl promising⟩
      · rename_i stands
        rw [stands] at promising
        cases promising
      · cases called
  | remove =>
      cases actor
      simp only [step, Label.actor, found, Option.bind_some, stepWriter, remove] at called
      split at called
      · rename_i ref result stands
        cases called
        rw [stands] at promising
        exact ⟨_, setWriter_own .., .inl promising⟩
      · rename_i stands
        rw [stands] at promising
        cases promising
      · cases called
  | unlock =>
      cases actor
      simp only [step, Label.actor, found, Option.bind_some, stepWriter, unlock] at called
      split at called
      · cases called
        exact ⟨_, setWriter_own .., .inr rfl⟩
      · cases called

end Kperf.Runner.LocalStore

namespace Kperf.Runner.Server

open Types Summary

/-- The steps of a time without failures: calls succeed, lists show what there is, file
names are new, only runners upload, and only a request to a dead process is given up. -/
def healthy {setting : Setting} (roster : Roster setting) (state : State) : Label → Bool
  | .post pod _ => decide (pod ∈ roster.all)
  | .check id pods =>
      match (state.attempts id).bind (·.stage.asks) with
      | some group => decide (pods = some (roster.pods group))
      | none => true
  | .openWriter _ none => false
  | .openWriter _ (some name) => decide (name ∉ state.store.names)
  | .copy _ count taken => decide (count ≤ taken)
  | .work label | .readerWork label => !label.fails
  | .lose pod =>
      match state.clients pod with
      | .posting id => (state.attempts id).any fun attempt =>
          decide (attempt.stage = .dead ∧ attempt.status = none)
      | _ => false
  | .finish group => decide (∀ pod ∈ roster.pods group, state.clients pod = .exited 0)
  | .list pods =>
      match state.summary.phase.lists with
      | some group => decide (pods = some (roster.pods group))
      | none => false
  | .readAll succeeds _ => succeeds
  | .bodyEnds _ | .answer _ | .receive _ | .summarize | .openReader | .publish _ => true
  | .bodyFails _ | .get _ | .cancel _ | .crash => false

/-- A handler that answers with 201 or 409 if nothing fails. -/
def hopeful (attempt : Attempt) (writer : Option LocalStore.Writer) : Bool :=
  match attempt.status with
  | some code => decide (code = 201 ∨ code = 409)
  | none =>
      match attempt.stage with
      | .checking _ | .opening | .copying _ => true
      | .committing => writer.any (·.stage.promising)
      | .returned result => result.accepted
      | .closing | .done | .dead => false

section Hope

variable {setting : Setting} {roster : Roster setting} {state next : State} {label : Label}
variable {id : AttemptId} {attempt : Attempt}

theorem healthy_check {pods : Option (List String)} {group : String}
    (calm : healthy roster state (.check id pods) = true)
    (found : state.attempts id = some attempt) (asks : attempt.stage.asks = some group) :
    pods = some (roster.pods group) := by
  simpa [healthy, found, asks] using calm

theorem healthy_exact (calm : healthy roster state label = true) : Exact roster state label := by
  cases label with
  | check id pods =>
      cases pods with
      | none => trivial
      | some names =>
          intro attempt found group asks
          exact Option.some.inj (healthy_check calm found asks)
  | list pods =>
      cases pods with
      | none => trivial
      | some names =>
          intro group lists
          have lists : state.summary.phase.lists = some group := lists
          simpa [healthy, lists] using calm
  | finish group => exact of_decide_eq_true calm
  | _ => trivial

theorem healthy_fresh (calm : healthy roster state label = true) : FreshName state label := by
  cases label with
  | openWriter id name =>
      cases name with
      | none => cases calm
      | some name =>
          intro opened same
          cases same
          exact of_decide_eq_true calm
  | _ =>
      intro name opened
      cases opened

theorem hopeful_of_status {writer other : Option LocalStore.Writer} {updated : Attempt} {code : Nat}
    (answered : attempt.status = some code) (same : updated.status = attempt.status)
    (hope : hopeful attempt writer = true) : hopeful updated other = true := by
  unfold hopeful at hope ⊢
  rw [same, answered]
  rw [answered] at hope
  exact hope

theorem workStage_committing {writer : LocalStore.Stage} {stage : Stage} {call : LocalStore.Label}
    (works : workStage writer .committing call = some stage) :
    (stage = .committing ∧ ∀ other, call ≠ .unlock other) ∨
      ∃ ref result, writer = .commitUnlock ref result ∧ stage = .returned result := by
  cases call with
  | lock | sync | stat | rename | closeFile | remove =>
      cases works
      exact .inl ⟨rfl, by simp⟩
  | unlock =>
      simp only [workStage] at works
      split at works
      · cases works
        exact .inr ⟨_, _, rfl, rfl⟩
      · cases works
  | _ => cases works

theorem commitStatus_hopeful {result : LocalStore.CommitResult} (accepted : result.accepted = true) :
    commitStatus result = 201 ∨ commitStatus result = 409 := by
  cases result with
  | ok => exact .inl rfl
  | alreadyExists => exact .inr rfl
  | _ => cases accepted

theorem copy_of_step {rest : List UInt8} {count taken : Nat}
    (found : state.attempts id = some attempt) (stands : attempt.stage = .copying rest)
    (stepped : step setting state (.copy id count taken) = some next) (whole : count ≤ taken) :
    next.attempts = Function.update state.attempts id
      (some { attempt with stage := .copying (rest.drop count) }) := by
  have short : (rest.take count).length ≤ taken :=
    Nat.le_trans (List.length_take_le _ _) whole
  simp only [step, Label.attempt, Option.bind_some, found, stepAttempt, stands, if_pos short]
    at stepped
  obtain ⟨store, -, rfl⟩ := Option.map_eq_some_iff.mp stepped
  rfl

/-- Hope is not lost in a step without failures. -/
theorem AttemptMove.hopeful (move : AttemptMove setting state id attempt label next)
    (found : state.attempts id = some attempt) (stepped : step setting state label = some next)
    (calm : healthy roster state label = true) (valid : LocalStore.Valid state.store)
    (welcomes : Welcomes roster attempt) (runner : attempt.pod ∈ roster.all)
    (replies : attempt.Answered) (inHand : InHand (state.store.writers id) attempt)
    (hope : Server.hopeful attempt (state.store.writers id) = true) :
    ∃ updated, next.attempts = Function.update state.attempts id (some updated) ∧
      Server.hopeful updated (next.store.writers id) = true := by
  obtain ⟨own, known, member⟩ := Roster.mem_all.mp runner
  cases move with
  | refuse stands => cases (welcomes own known member).2 stands
  | checkFails stands | accept stands | pass stands =>
      have unanswered := replies.unanswered (by simp [stands]) (by simp [stands]) (by simp [stands])
      have listed := healthy_check calm found (by rw [stands]; rfl)
      refine ⟨_, check_of_step found stands stepped, ?_⟩
      rw [listed, roster.isControlled_eq]
      cases decide (attempt.pod ∈ roster.pods _) with
      | true => simp [Server.hopeful, Attempt.told, unanswered]
      | false => simp [Server.hopeful, Attempt.told, unanswered]
  | openFails => cases calm
  | opened stands =>
      have unanswered := replies.unanswered (by simp [stands]) (by simp [stands]) (by simp [stands])
      exact ⟨_, rfl, by simp [Server.hopeful, unanswered]⟩
  | copied stands | copiedShort stands =>
      have unanswered := replies.unanswered (by simp [stands]) (by simp [stands]) (by simp [stands])
      refine ⟨_, copy_of_step found stands stepped (of_decide_eq_true calm), ?_⟩
      simp [Server.hopeful, unanswered]
  | commit stands called =>
      have unanswered := replies.unanswered (by simp [stands]) (by simp [stands]) (by simp [stands])
      obtain ⟨writer, opened, locking⟩ := step_commit called
      refine ⟨_, rfl, ?_⟩
      simp [Server.hopeful, unanswered, opened, locking, LocalStore.Stage.promising]
  | cut => cases calm
  | @work call writer stage store actor opened works called =>
      refine ⟨_, rfl, ?_⟩
      cases answered : attempt.status with
      | some code => exact hopeful_of_status answered answered.symm hope
      | none =>
          rcases workStage_stages works with ⟨before, -⟩ | ⟨before, -⟩
          · rw [before] at works
            have promising : writer.stage.promising = true := by
              simpa [Server.hopeful, answered, before, opened] using hope
            obtain ⟨updated, after, goesOn⟩ := valid.promising_call opened actor called
              (by simpa [healthy] using calm) promising
              fun syncing => inHand before opened (.inr syncing)
            rcases workStage_committing works with ⟨rfl, inside⟩ | ⟨ref, result, unlocking, rfl⟩
            · rcases goesOn with promising | unlocks
              · simp [Server.hopeful, after, promising]
              · exact absurd unlocks (inside id)
            · rw [unlocking] at promising
              simpa [Server.hopeful, LocalStore.Stage.promising] using promising
          · simp [Server.hopeful, answered, before] at hope
  | @answer result stands =>
      have unanswered := replies.unanswered (by simp [stands]) (by simp [stands]) (by simp [stands])
      refine ⟨_, rfl, ?_⟩
      have accepted : result.accepted = true := by
        simpa [Server.hopeful, unanswered, stands] using hope
      simpa [Server.hopeful] using commitStatus_hopeful accepted

end Hope

/-! How far the delivery has come. -/

/-- What a runner may still ask of the server: a new upload, and the answer. -/
def patience (setting : Setting) (pod : String) : Nat :=
  17 + (setting.body pod).length + setting.groups.length

def State.hopes (state : State) (id : AttemptId) : Bool :=
  (state.attempts id).any fun attempt => hopeful attempt (state.store.writers id)

/-- A runner whose request comes to nothing has to start over. Others may wait for an
answer to what they sent before. -/
def clientWork {setting : Setting} (roster : Roster setting) (state : State) (pod : String) : Nat :=
  match state.clients pod with
  | .exited _ => 0
  | .ready => if pod ∈ roster.all then patience setting pod else 0
  | .posting id =>
      if pod ∈ roster.all ∧ state.hopes id = false then patience setting pod + 1 else 1

def listWork {setting : Setting} (roster : Roster setting) (groups : List String) : Nat :=
  (groups.map fun group => 6 * (roster.pods group).length + 1).sum

def summaryLeft {setting : Setting} (roster : Roster setting) (access : LocalStore.Access) :
    Phase → Nat
  | .waiting running => running.length + 2 + listWork roster setting.groups
  | .merging pods groups => 6 * pods.length + 1 + listWork roster groups
  | .reading _ _ _ pods groups => 6 * pods.length + 2 + access.work + listWork roster groups
  | .ready _ => 0

def handlerLeft (setting : Setting) (state : State) (id : AttemptId) : Nat :=
  attemptWork setting (state.crew id)

noncomputable def deliveryRank {setting : Setting} (roster : Roster setting) (state : State) : Nat :=
  finsum (handlerLeft setting state) + finsum (clientWork roster state) +
    summaryLeft roster (state.store.accesses 0) state.summary.phase

section Rank

variable {setting : Setting} {roster : Roster setting} {state next : State} {label : Label}

theorem handlerLeft_finite (setting : Setting) (populated : Populated state) :
    (handlerLeft setting state).support.Finite := by
  obtain ⟨ids, pods, within⟩ := populated
  refine ids.finite_toSet.subset fun id busy => ?_
  cases found : state.attempts id with
  | some attempt => exact within.attempts found
  | none =>
      refine absurd ?_ (Function.mem_support.mp busy)
      simp [handlerLeft, State.crew, found, attemptWork]

theorem clientWork_finite (roster : Roster setting) (populated : Populated state) :
    (clientWork roster state).support.Finite := by
  obtain ⟨ids, pods, within⟩ := populated
  refine (pods ∪ roster.all.toFinset).finite_toSet.subset fun pod busy => ?_
  rw [Finset.mem_coe, Finset.mem_union, List.mem_toFinset]
  by_contra idle
  obtain ⟨absent, stranger⟩ := not_or.mp idle
  refine absurd ?_ (Function.mem_support.mp busy)
  unfold clientWork
  cases standing : state.clients pod with
  | exited code => rfl
  | ready => exact if_neg stranger
  | posting id => exact absurd (within.clients standing) absent

theorem SummaryMove.summaryLeft {phase : Phase}
    (move : SummaryMove setting state phase label next) (standing : state.summary.phase = phase)
    (guarded : Guarded state label) (calm : healthy roster state label = true)
    (reader : ReaderAt (state.store.accesses 0) phase) :
    Server.summaryLeft roster (next.store.accesses 0) next.summary.phase <
      Server.summaryLeft roster (state.store.accesses 0) phase := by
  cases move with
  | finish =>
      obtain ⟨running, same, member⟩ := guarded
      cases standing.symm.trans same
      have shorter := List.length_erase_of_mem member
      have some := List.length_pos_of_mem member
      simp only [Server.summaryLeft]
      omega
  | summarize => simp [Server.summaryLeft]
  | @listFails group groups =>
      have lists : state.summary.phase.lists = some group := by rw [standing]; rfl
      simp [healthy, lists] at calm
  | @list group pods groups =>
      have lists : state.summary.phase.lists = some group := by rw [standing]; rfl
      have shown : pods = roster.pods group := by simpa [healthy, lists] using calm
      subst shown
      simp only [Server.summaryLeft, listWork, List.map_cons, List.sum_cons, List.length_nil]
      omega
  | publish => simp [Server.summaryLeft]
  | openReader called =>
      cases step_openReader called
      simp only [Server.summaryLeft, LocalStore.setAccess_accesses, if_true, LocalStore.Access.work,
        List.length_cons]
      omega
  | call isCall called goesOn =>
      obtain ⟨-, less, -⟩ := step_reader called isCall reader
      simp only [Server.summaryLeft]
      omega
  | openFails | readAll =>
      simp only [SummaryState.finishRead, Server.summaryLeft]
      omega

theorem clientWork_congr {pod : String} (clients : next.clients pod = state.clients pod)
    (hopes : ∀ {id}, state.clients pod = .posting id → next.hopes id = state.hopes id) :
    clientWork roster next pod = clientWork roster state pod := by
  unfold clientWork
  rw [clients]
  cases standing : state.clients pod with
  | exited code => rfl
  | ready => rfl
  | posting id => simp only [hopes standing]

theorem hopes_congr {id : AttemptId} (attempts : next.attempts id = state.attempts id)
    (writers : next.store.writers id = state.store.writers id) : next.hopes id = state.hopes id := by
  rw [State.hopes, State.hopes, attempts, writers]

/-- A runner that hears something comes nearer to its end. -/
theorem setClient_delivers {pod : String} {client : Client} (populated : Populated state)
    (less : clientWork roster (state.setClient pod client) pod < clientWork roster state pod) :
    deliveryRank roster (state.setClient pod client) < deliveryRank roster state := by
  have change := finsum_update (clientWork roster state)
    (clientWork roster (state.setClient pod client)) pod (clientWork_finite roster populated)
    fun other different =>
      clientWork_congr ((setClient_clients ..).trans (if_neg different)) fun _ => rfl
  have handlers : handlerLeft setting (state.setClient pod client) = handlerLeft setting state := rfl
  unfold deliveryRank
  rw [handlers]
  change _ + _ + summaryLeft roster (state.store.accesses 0) state.summary.phase < _
  omega

theorem clientWork_setClient {pod : String} {client : Client} :
    clientWork roster (state.setClient pod client) pod = match client with
      | .exited _ => 0
      | .ready => if pod ∈ roster.all then patience setting pod else 0
      | .posting id =>
          if pod ∈ roster.all ∧ state.hopes id = false then patience setting pod + 1 else 1 := by
  unfold clientWork
  rw [setClient_clients, if_pos rfl]
  rfl

theorem lose_delivers {pod : String} {id : AttemptId} (populated : Populated state)
    (posting : state.clients pod = .posting id)
    (calm : healthy roster state (.lose pod) = true) :
    deliveryRank roster (state.setClient pod .ready) < deliveryRank roster state := by
  refine setClient_delivers populated ?_
  have hopeless : state.hopes id = false := by
    simp only [healthy, posting, Option.any_eq_true] at calm
    obtain ⟨attempt, found, dead⟩ := calm
    simp only [decide_eq_true_eq] at dead
    simp [State.hopes, found, hopeful, dead.1, dead.2]
  rw [clientWork_setClient, clientWork, posting]
  simp only [hopeless, and_true]
  split_ifs <;> omega

theorem receive_delivers {pod : String} {id : AttemptId} {attempt : Attempt} {code : Nat}
    (populated : Populated state) (welcome : Welcome roster state)
    (posting : state.clients pod = .posting id) (found : state.attempts id = some attempt)
    (owner : attempt.pod = pod) (answered : attempt.status = some code) :
    deliveryRank roster (state.setClient pod (.receive code)) < deliveryRank roster state := by
  refine setClient_delivers populated ?_
  have hopes : state.hopes id = decide (code = 201 ∨ code = 409) := by
    simp [State.hopes, found, hopeful, answered]
  rw [clientWork_setClient, clientWork, posting]
  simp only [hopes, decide_eq_false_iff_not]
  by_cases runner : pod ∈ roster.all
  · have unrefused : code ≠ 404 := by
      obtain ⟨group, known, member⟩ := Roster.mem_all.mp runner
      rw [← owner] at member
      intro refused
      rw [refused] at answered
      exact (welcome.attempts found group known member).1 answered
    by_cases accepted : code = 201 ∨ code = 409
    · rcases accepted with rfl | rfl <;> simp [Client.receive]
    · obtain ⟨created, conflict⟩ := not_or.mp accepted
      simp [Client.receive, created, conflict, unrefused, runner]
  · cases heard : Client.receive code with
    | posting id => exact absurd heard (Client.receive_rests code id)
    | ready | exited => simp [runner]

theorem post_delivers {pod : String} {id : AttemptId} (populated : Populated state)
    (uploading : Uploading setting state) (ready : state.clients pod = .ready)
    (unused : state.attempts id = none) (runner : pod ∈ roster.all) :
    deliveryRank roster ((state.setAttempt id ⟨pod, .checking setting.groups, none⟩).setClient pod
      (.posting id)) < deliveryRank roster state := by
  set next := (state.setAttempt id ⟨pod, .checking setting.groups, none⟩).setClient pod
    (.posting id) with made
  have attempts : ∀ other, next.attempts other =
      if other = id then some ⟨pod, .checking setting.groups, none⟩ else state.attempts other :=
    fun other => setAttempt_attempts ..
  have handlers := finsum_update (handlerLeft setting state) (handlerLeft setting next) id
    (handlerLeft_finite setting populated) fun other different => by
      have crew : next.crew other = state.crew other :=
        Prod.ext ((attempts other).trans (if_neg different)) rfl
      rw [handlerLeft, handlerLeft, crew]
  have clients := finsum_update (clientWork roster state) (clientWork roster next) pod
    (clientWork_finite roster populated) fun other different => by
      refine clientWork_congr ((setClient_clients ..).trans (if_neg different)) fun posting => ?_
      obtain ⟨attempt, found, -⟩ := uploading.posting posting
      refine hopes_congr ((attempts _).trans (if_neg ?_)) rfl
      intro same
      subst same
      cases unused.symm.trans found
  have fresh : handlerLeft setting state id = 0 := by
    simp [handlerLeft, State.crew, unused, attemptWork]
  have begun : handlerLeft setting next id =
      15 + (setting.body pod).length + setting.groups.length := by
    simp [handlerLeft, State.crew, attempts, attemptWork, handlerWork]
  have waits : clientWork roster state pod = patience setting pod := by
    rw [clientWork, ready]
    exact if_pos runner
  have hopes : clientWork roster next pod = 1 := by
    have hopeful : next.hopes id = true := by simp [State.hopes, attempts, hopeful]
    have posting : next.clients pod = .posting id := (setClient_clients ..).trans (if_pos rfl)
    simp [clientWork, posting, hopeful]
  unfold deliveryRank
  change _ + _ + summaryLeft roster (state.store.accesses 0) state.summary.phase < _
  unfold patience at waits
  omega

/-- A step of a handler takes no hope from the runner that waits for it. -/
theorem clientWork_attempt {id : AttemptId} {attempt updated : Attempt}
    (clients : next.clients = state.clients)
    (attempts : next.attempts = Function.update state.attempts id (some updated))
    (writers : ∀ {other}, other ≠ id → next.store.writers other = state.store.writers other)
    (found : state.attempts id = some attempt) (uploading : Uploading setting state)
    (keeps : attempt.pod ∈ roster.all → state.hopes id = true → next.hopes id = true) :
    (∀ pod, pod ≠ attempt.pod → clientWork roster next pod = clientWork roster state pod) ∧
      clientWork roster next attempt.pod ≤ clientWork roster state attempt.pod := by
  have others : ∀ {other}, other ≠ id → next.hopes other = state.hopes other := fun different =>
    hopes_congr (by rw [attempts, Function.update_of_ne different]) (writers different)
  refine ⟨fun pod different => clientWork_congr (congrFun clients pod) fun {other} posting => ?_, ?_⟩
  · refine others fun same => different ?_
    subst same
    obtain ⟨handler, known, owner⟩ := uploading.posting posting
    cases found.symm.trans known
    exact owner.symm
  · unfold clientWork
    rw [clients]
    cases standing : state.clients attempt.pod with
    | exited code => exact Nat.le_refl _
    | ready => exact Nat.le_refl _
    | posting other =>
        by_cases same : other = id
        · subst same
          by_cases hope : attempt.pod ∈ roster.all ∧ state.hopes other = true
          · simp [hope.2, keeps hope.1 hope.2]
          · by_cases runner : attempt.pod ∈ roster.all
            · have hopeless : state.hopes other = false := by simpa [runner] using hope
              simp only [hopeless, runner, and_self, if_true]
              split_ifs <;> omega
            · simp [runner]
        · simp [others same]

variable (roster) in
/-- What is known of a state on the way. -/
structure Standing (state : State) : Prop where
  staffed : Staffed state
  populated : Populated state
  valid : LocalStore.Valid state.store
  uploading : Uploading setting state
  hosted : Hosted roster state

theorem standing_of_run {trace : List Label}
    (run : (system setting).RunWith (Faithful roster) trace state) : Standing roster state where
  staffed := staffed_of_run (Faithful.run_any run)
  populated := populated_of_run (Faithful.run_any run)
  valid := store_valid (Faithful.run_fresh run)
  uploading := uploading_of_run (Faithful.run_fresh run)
  hosted := hosted_of_run run

theorem attempt_delivers {id : AttemptId} {attempt : Attempt}
    (move : AttemptMove setting state id attempt label next)
    (found : state.attempts id = some attempt) (stepped : step setting state label = some next)
    (calm : healthy roster state label = true) (standing : Standing roster state) :
    (next = state ∧ label.copies = true) ∨ deliveryRank roster next < deliveryRank roster state := by
  rcases move.advances found (standing.staffed.attends found) with same | ⟨updated, advances⟩
  · exact .inl same
  obtain ⟨clients, others⟩ := move.frame
  obtain ⟨summary, -, accesses⟩ := move.summary
  have keeps : attempt.pod ∈ roster.all → state.hopes id = true → next.hopes id = true := by
    intro runner hope
    obtain ⟨after, attempts, hopeful⟩ := move.hopeful found stepped calm standing.valid
      (standing.hosted.welcome.attempts found) runner (standing.staffed.answered id attempt found)
      (standing.hosted.handled id attempt found)
      (by simpa [State.hopes, found] using hope)
    simp [State.hopes, attempts, hopeful]
  obtain ⟨apart, less⟩ := clientWork_attempt clients advances.attempts others found
    standing.uploading keeps
  have waiting := finsum_update (clientWork roster state) (clientWork roster next) attempt.pod
    (clientWork_finite roster standing.populated) apart
  have crew := advances.crew others
  have handlers := finsum_update (handlerLeft setting state) (handlerLeft setting next) id
    (handlerLeft_finite setting standing.populated) fun other different => by
      rw [handlerLeft, handlerLeft, crew, Function.update_of_ne different]
  have lower : handlerLeft setting next id < handlerLeft setting state id := by
    rw [handlerLeft, handlerLeft, crew, Function.update_self]
    simpa [State.crew, found, attemptWork, advances.pod] using advances.less
  refine .inr ?_
  unfold deliveryRank
  rw [summary, accesses]
  omega

theorem step_delivers (stepped : step setting state label = some next)
    (calm : healthy roster state label = true) (standing : Standing roster state) :
    (next = state ∧ label.copies = true) ∨ deliveryRank roster next < deliveryRank roster state := by
  cases step_transition stepped with
  | get | cancel | crash => cases calm
  | post ready unused =>
      exact .inr (post_delivers standing.populated standing.uploading ready unused
        (of_decide_eq_true calm))
  | receive posting found answered =>
      obtain ⟨handler, known, owner⟩ := standing.uploading.posting posting
      cases found.symm.trans known
      exact .inr (receive_delivers standing.populated standing.hosted.welcome posting found owner
        answered)
  | lose =>
      obtain ⟨id, posting⟩ := guarded_of_step stepped
      exact .inr (lose_delivers standing.populated posting calm)
  | attempt found move => exact attempt_delivers move found stepped calm standing
  | summary move =>
      obtain ⟨attempts, clients, writers⟩ := move.frame
      have less := move.summaryLeft rfl (guarded_of_step stepped) calm standing.staffed.reader
      have handlers : handlerLeft setting next = handlerLeft setting state := by
        funext id
        rw [handlerLeft, handlerLeft, State.crew, State.crew, attempts, writers]
      have waiting : clientWork roster next = clientWork roster state := by
        funext pod
        refine clientWork_congr (congrFun clients pod) fun _ => ?_
        exact hopes_congr (congrFun attempts _) (congrFun writers _)
      refine .inr ?_
      unfold deliveryRank
      rw [handlers, waiting]
      omega

end Rank

end Kperf.Runner.Server
