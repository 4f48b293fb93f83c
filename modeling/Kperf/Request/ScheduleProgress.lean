import Kperf.Request.Generation
import Kperf.Request.ScheduleAccounting

/-! `Schedule` never gets stuck: while it has not returned, one of its goroutines
can move, and nothing is sent on the channel once it is closed. -/

set_option autoImplicit false

namespace Kperf.Request.Schedule

open Types Metrics Outcome

theorem pickIndex_lt {shares : List Int} {drawn : Int} {index : Nat}
    (picked : pickIndex shares drawn = .ok index) : index < shares.length := by
  induction shares generalizing drawn index with
  | nil => cases picked
  | cons share rest ih =>
      unfold pickIndex at picked
      split at picked
      · cases picked
        exact Nat.zero_lt_succ _
      · cases found : pickIndex rest (drawn - share) with
        | error fault =>
            rw [found] at picked
            cases picked
        | ok position =>
            rw [found] at picked
            cases picked
            exact Nat.succ_lt_succ (ih found)

namespace Setting

variable (setting : Setting)

theorem builds : Builds setting.spec.requests setting.requests ∧ 0 < setting.clients := by
  obtain ⟨checked, validated, -⟩ := bind_eq_ok.mp setting.accepted
  rw [wrap_eq_ok] at validated
  obtain ⟨built, made, builds⟩ := newWeightedRandomRequests_ok validated
  cases setting.accepted.symm.trans made
  have client := (LoadProfileSpec.validate_ok validated).1
  refine ⟨builds, ?_⟩
  rw [clients, if_neg (Int.ne_of_gt client)]
  omega

theorem randomPick_lt {drawn builder : Nat}
    (picked : setting.requests.randomPick drawn = .ok builder) :
    builder < setting.requests.reqBuilders.length := by
  obtain ⟨rnd, -, found⟩ := bind_eq_ok.mp picked
  rw [setting.builds.1.paired]
  exact pickIndex_lt found

end Setting

/-- What the goroutines rely on: every dispatched builder exists, only a postDel
builder is left half-way through `Build`, a worker leaves early only after it
has cancelled the context, and the channel is open until `Stop` closes it. -/
structure Provided (setting : Setting) (state : State) : Prop where
  sending : ∀ {sum builder}, state.main = .sending sum builder →
    builder < setting.requests.reqBuilders.length
  ticket : ∀ {id ticket}, (state.workers id).ticket = some ticket →
    ticket.builder < setting.requests.reqBuilders.length
  creating : ∀ {id ticket}, state.workers id = .creating ticket →
    ∃ builder, setting.requests.reqBuilders[ticket.builder]? = some (.postDel builder)
  left : ∀ {id}, id < setting.clients → state.workers id = .exited →
    state.closed = true ∨ state.cancelled = true
  generating : state.closed = true →
    state.main = .awaiting ∨ ∃ result, state.main = .returned result
  awaiting : state.main = .awaiting → state.closed = true

theorem provided_start (setting : Setting) : Provided setting (start setting) where
  sending := nofun
  ticket := by
    intro id ticket held
    simp only [start] at held
    split at held <;> cases held
  creating := by
    intro id ticket creates
    simp only [start] at creates
    split at creates <;> cases creates
  left := by
    intro id below exited
    simp only [start, if_pos below] at exited
    cases exited
  generating := nofun
  awaiting := nofun

/-- What a step of a worker does beyond its ticket. -/
structure WorkerOutcome (setting : Setting) (state : State) (id : WorkerId) (next : State) :
    Prop where
  closed : next.closed = state.closed
  cancelled : state.cancelled = true → next.cancelled = true
  creating : ∀ {ticket}, next.workers id = .creating ticket →
    state.workers id = .creating ticket ∨
      ∃ builder, setting.requests.reqBuilders[ticket.builder]? = some (.postDel builder)
  exited : next.workers id = .exited → next.closed = true ∨ next.cancelled = true

theorem WorkerMove.outcome {setting : Setting} {state next : State} {id : WorkerId}
    {label : Label} (move : WorkerMove setting state id (state.workers id) label next) :
    WorkerOutcome setting state id next := by
  generalize found : state.workers id = worker at move
  cases move with
  | buildCreate postDel =>
      refine ⟨rfl, fun cancelled => cancelled, ?_, ?_⟩
      · intro ticket creates
        simp only [State.setWorker_workers, Function.update_self] at creates
        cases creates
        exact .inr ⟨_, postDel⟩
      · simp
  | buildPanics | createPanics =>
      refine ⟨rfl, fun cancelled => cancelled, .inl, ?_⟩
      intro exited
      cases found.symm.trans exited
  | limiterFails =>
      refine ⟨rfl, fun _ => rfl, ?_, fun _ => .inr rfl⟩
      simp
  | @settle ticket requester bytes err =>
      obtain ⟨postDel, events, same⟩ := settle_frame state ticket requester err
      rw [same]
      refine ⟨rfl, fun cancelled => cancelled, ?_, ?_⟩ <;> simp
  | leave closed => exact ⟨rfl, fun cancelled => cancelled, by simp, fun _ => .inl closed⟩
  | _ => refine ⟨rfl, fun cancelled => cancelled, ?_, ?_⟩ <;> simp

theorem TicketEffect.ticket_of_updated {setting : Setting} {state next : State} {id : WorkerId}
    {worker updated : Worker} {ticket : Ticket}
    (effect : TicketEffect setting state id worker updated next)
    (held : updated.ticket = some ticket) : worker.ticket = some ticket := by
  cases effect with
  | keeps same => exact same ▸ held
  | records _ received =>
      subst received
      cases held
  | drops _ _ left =>
      subst left
      cases held

theorem Provided.keep_worker {setting : Setting} {state next : State} {id : WorkerId}
    {label : Label} (provided : Provided setting state)
    (move : WorkerMove setting state id (state.workers id) label next) :
    Provided setting next := by
  obtain ⟨updated, frame, effect⟩ := move.frame rfl
  have outcome := move.outcome
  have others : ∀ {other}, other ≠ id → next.workers other = state.workers other := by
    intro other different
    rw [frame.workers, Function.update_of_ne different]
  constructor
  · rw [frame.main]
    exact provided.sending
  · intro other ticket held
    by_cases own : other = id
    · subst other
      rw [frame.workers, Function.update_self] at held
      exact provided.ticket (effect.ticket_of_updated held)
    · rw [others own] at held
      exact provided.ticket held
  · intro other ticket creates
    by_cases own : other = id
    · subst other
      cases outcome.creating creates with
      | inl before => exact provided.creating before
      | inr postDel => exact postDel
    · rw [others own] at creates
      exact provided.creating creates
  · intro other below exited
    by_cases own : other = id
    · subst other
      exact outcome.exited exited
    · rw [others own] at exited
      rw [outcome.closed]
      exact (provided.left below exited).imp_right outcome.cancelled
  · rw [outcome.closed, frame.main]
    exact provided.generating
  · rw [outcome.closed, frame.main]
    exact provided.awaiting

theorem Provided.keep_main {setting : Setting} {state next : State} {label : Label}
    (provided : Provided setting state)
    (move : MainMove setting state state.main label next) : Provided setting next := by
  have opened : state.main ≠ .awaiting → (∀ result, state.main ≠ .returned result) →
      state.closed = false := by
    intro waits returns
    rw [← Bool.not_eq_true]
    intro closed
    cases provided.generating closed with
    | inl awaits => exact waits awaits
    | inr returned => exact returned.elim returns
  generalize stands : state.main = main at move
  cases move with
  | @dispatch sum builder worker receives =>
      have inside := provided.sending stands
      refine ⟨nofun, ?_, ?_, ?_, ?_, nofun⟩
      · intro id ticket held
        by_cases own : id = worker
        · subst id
          simp only [State.setWorker_workers, Function.update_self] at held
          cases held
          exact inside
        · simp only [State.setWorker_workers, Function.update_of_ne own] at held
          exact provided.ticket held
      · intro id ticket creates
        by_cases own : id = worker
        · subst id
          simp at creates
        · simp only [State.setWorker_workers, Function.update_of_ne own] at creates
          exact provided.creating creates
      · intro id below exited
        by_cases own : id = worker
        · subst id
          simp at exited
        · simp only [State.setWorker_workers, Function.update_of_ne own] at exited
          exact provided.left below exited
      · intro closed
        cases (opened (by simp [stands]) (by simp [stands])).symm.trans closed
  | pick unbound picked =>
      refine ⟨?_, provided.ticket, provided.creating, provided.left, ?_, nofun⟩
      · intro sum builder sends
        cases sends
        exact setting.randomPick_lt picked
      · intro closed
        cases (opened (by simp [stands]) (by simp [stands])).symm.trans closed
  | pickPanics =>
      exact ⟨provided.sending, provided.ticket, provided.creating, provided.left,
        provided.generating, provided.awaiting⟩
  | closeChannel =>
      exact ⟨nofun, provided.ticket, provided.creating, fun _ _ => .inl rfl, fun _ => .inl rfl,
        fun _ => rfl⟩
  | finish =>
      exact ⟨nofun, provided.ticket, provided.creating, provided.left, fun _ => .inr ⟨_, rfl⟩,
        nofun⟩
  | complete | abandon | cancelGenerator =>
      refine ⟨nofun, provided.ticket, provided.creating, provided.left, ?_, nofun⟩
      intro closed
      cases (opened (by simp [stands]) (by simp [stands])).symm.trans closed

theorem provided_of_run {setting : Setting} {allowed : State → Label → Prop}
    {trace : List Label} {state : State}
    (run : (system setting).RunWith allowed trace state) : Provided setting state := by
  refine run.invariant (fun _ initial => initial ▸ provided_start setting) ?_
  intro state next label _ stepped provided
  cases step_transition stepped with
  | worker move => exact provided.keep_worker move
  | main move => exact provided.keep_main move
  | callerDone | timeout =>
      exact ⟨provided.sending, provided.ticket, provided.creating, provided.left,
        provided.generating, provided.awaiting⟩

/-- A step of the program or an answer to it, not an event that may never come. -/
def Label.isProgram : Label → Bool
  | .callerDone | .timeout => false
  | _ => true

/-- The program can take the step. -/
def Enabled (setting : Setting) (state : State) (label : Label) : Prop :=
  label.isProgram = true ∧ ∃ next, step setting state label = some next

/-- `Schedule` has not returned and no goroutine has panicked. -/
def State.Running (state : State) : Prop :=
  state.panicked = none ∧ ∀ result, state.main ≠ .returned result

theorem enabled_of_stepWorker {setting : Setting} {state next : State} {id : WorkerId}
    {label : Label} (alive : state.panicked = none) (actor : label.worker = some id)
    (moves : stepWorker setting state id (state.workers id) label = some next) :
    Enabled setting state label := by
  refine ⟨?_, next, ?_⟩
  · cases label <;> first | rfl | cases actor
  · simp only [step, alive, Option.isSome_none, actor]
    exact moves

theorem build_enabled {setting : Setting} {ticket : Ticket} (state : State)
    (inside : ticket.builder < setting.requests.reqBuilders.length) (id : WorkerId)
    (drawn : Nat) (payload : String) :
    ∃ next, build setting state id ticket drawn payload = some next := by
  have found := List.getElem?_eq_getElem inside
  unfold build
  rw [found]
  cases setting.requests.reqBuilders[ticket.builder] with
  | postDel builder =>
      dsimp only
      split
      · exact ⟨_, rfl⟩
      · exact ⟨_, rfl⟩
  | get builder | list builder | watchList builder | getPodLog builder => exact ⟨_, rfl⟩
  | patch builder =>
      dsimp only [RESTRequestBuilder.build]
      cases builder.build drawn with
      | ok requester => exact ⟨_, rfl⟩
      | error fault => exact ⟨_, rfl⟩
  | put builder =>
      dsimp only [RESTRequestBuilder.build]
      cases builder.build drawn payload with
      | ok requester => exact ⟨_, rfl⟩
      | error fault => exact ⟨_, rfl⟩

theorem create_enabled {setting : Setting} {ticket : Ticket} {builder : PostDelBuilder}
    (state : State)
    (found : setting.requests.reqBuilders[ticket.builder]? = some (.postDel builder))
    (id : WorkerId) (timestamp : Int) (payload : String) :
    ∃ next, create setting state id ticket timestamp payload = some next := by
  unfold create
  rw [found]
  dsimp only
  split
  · exact ⟨_, rfl⟩
  · exact ⟨_, rfl⟩

/-- A worker that is not waiting for the generator can always move. -/
theorem Provided.worker_enabled {setting : Setting} {state : State} (id : WorkerId)
    (provided : Provided setting state) (alive : state.panicked = none)
    (active : state.workers id ≠ .exited)
    (served : state.workers id = .receiving → state.closed = true) :
    ∃ label, Enabled setting state label := by
  have moves : ∀ label {next}, label.worker = some id →
      stepWorker setting state id (state.workers id) label = some next →
      ∃ label, Enabled setting state label :=
    fun label _ actor stepped => ⟨label, enabled_of_stepWorker alive actor stepped⟩
  cases stands : state.workers id with
  | exited => exact absurd stands active
  | receiving =>
      exact moves (.leave id) rfl (by rw [stands, stepWorker, if_pos (served stands)])
  | building ticket =>
      have inside := provided.ticket (congrArg Worker.ticket stands)
      obtain ⟨next, built⟩ := build_enabled state inside id 0 ""
      exact moves (.build id 0 "") rfl (by rw [stands]; exact built)
  | creating ticket =>
      obtain ⟨builder, found⟩ := provided.creating stands
      obtain ⟨next, created⟩ := create_enabled state found id 0 ""
      exact moves (.create id 0 "") rfl (by rw [stands]; exact created)
  | waiting ticket requester =>
      exact moves (.permit id) rfl (by rw [stands]; rfl)
  | requesting ticket requester =>
      exact moves (.respond id 0 none) rfl (by rw [stands]; rfl)
  | settling ticket requester bytes err =>
      exact moves (.settle id) rfl (by rw [stands]; rfl)
  | counting ticket requester bytes err =>
      exact moves (.countBytes id) rfl (by rw [stands]; rfl)
  | observing ticket requester err =>
      exact moves (.observe id 0 0) rfl (by rw [stands]; rfl)

theorem enabled_of_stepMain {setting : Setting} {state next : State} {label : Label}
    (alive : state.panicked = none) (program : label.isProgram = true)
    (idle : label.worker = none)
    (moves : stepMain setting state state.main label = some next) :
    Enabled setting state label := by
  refine ⟨program, next, ?_⟩
  simp only [step, alive, Option.isSome_none, idle]
  cases label <;> first | exact moves | cases program

theorem abandon_enabled {setting : Setting} {state : State} {sum builder : Nat}
    (alive : state.panicked = none) (sends : state.main = .sending sum builder)
    (done : state.ctxDone = true) : Enabled setting state .abandon := by
  apply enabled_of_stepMain alive rfl rfl
  rw [sends, stepMain, done, Bool.true_or, if_pos rfl]

/-- Once all workers have left, the context of `Run` is done unless the channel
has been closed. -/
theorem Provided.released {setting : Setting} {state : State}
    (provided : Provided setting state)
    (exited : ∀ id < setting.clients, state.workers id = .exited)
    (opened : state.closed = false) : state.ctxDone = true := by
  have workers := setting.builds.2
  cases provided.left workers (exited 0 workers) with
  | inl closed => cases opened.symm.trans closed
  | inr cancelled => simp [State.ctxDone, cancelled]

theorem Provided.enabled {setting : Setting} {state : State}
    (provided : Provided setting state) (running : state.Running) :
    ∃ label, Enabled setting state label := by
  obtain ⟨alive, unreturned⟩ := running
  have main : ∀ label {next}, label.isProgram = true → label.worker = none →
      stepMain setting state state.main label = some next →
      ∃ label, Enabled setting state label :=
    fun label _ program idle stepped => ⟨label, enabled_of_stepMain alive program idle stepped⟩
  cases stands : state.main with
  | returned result => exact absurd stands (unreturned result)
  | picking sum =>
      by_cases bound : reached setting.spec.total sum
      · exact main .complete rfl rfl (by rw [stands, stepMain, if_pos bound])
      · cases picked : setting.requests.randomPick 0 with
        | ok builder =>
            exact main (.pick 0) rfl rfl (by rw [stands, stepMain, if_neg bound, picked])
        | error fault =>
            exact main (.pick 0) rfl rfl (by rw [stands, stepMain, if_neg bound, picked])
  | stopping => exact main .cancelGenerator rfl rfl (by rw [stands, stepMain])
  | closing => exact main .closeChannel rfl rfl (by rw [stands, stepMain])
  | sending sum builder =>
      by_cases exited : ∀ id < setting.clients, state.workers id = .exited
      · have opened : state.closed = false := by
          rw [← Bool.not_eq_true]
          intro closed
          simpa [stands] using provided.generating closed
        exact ⟨_, abandon_enabled alive stands (provided.released exited opened)⟩
      · push Not at exited
        obtain ⟨id, below, active⟩ := exited
        by_cases receives : state.workers id = .receiving
        · exact main (.dispatch id) rfl rfl (by rw [stands, stepMain, receives])
        · exact provided.worker_enabled id alive active fun waits => absurd waits receives
  | awaiting =>
      have closed := provided.awaiting stands
      by_cases exited : ∀ id < setting.clients, state.workers id = .exited
      · refine ⟨.finish 0, rfl, ?_⟩
        simp only [step, alive, stands, Label.worker, stepMain]
        exact ⟨_, if_pos fun id below => by rw [exited id below]⟩
      · push Not at exited
        obtain ⟨id, below, active⟩ := exited
        exact provided.worker_enabled id alive active fun _ => closed

/-- No party waits for one that cannot move. -/
structure Unstuck (setting : Setting) (state : State) : Prop where
  enabled : state.Running → ∃ label, Enabled setting state label
  released : (∀ id < setting.clients, state.workers id = .exited) → state.closed = false →
    state.ctxDone = true ∧ (state.Running → ∀ {sum builder},
      state.main = .sending sum builder → Enabled setting state .abandon)
  drained : state.Running → state.closed = true → ∀ {id}, state.workers id = .receiving →
    Enabled setting state (.leave id)
  sealed : state.closed = true → ∀ id, step setting state (.dispatch id) = none

/-- In every interleaving of the generator, the workers, failures of the limiter,
cancellation and `Stop`, a `Schedule` that has not returned can go on. -/
theorem schedule_unstuck {setting : Setting} {trace : List Label} {state : State}
    (run : (system setting).Run trace state) : Unstuck setting state := by
  have provided := provided_of_run run
  refine ⟨provided.enabled, ?_, ?_, ?_⟩
  · intro exited opened
    have done := provided.released exited opened
    exact ⟨done, fun running _ _ sends => abandon_enabled running.1 sends done⟩
  · intro running closed id receives
    have leaves : stepWorker setting state id (state.workers id) (.leave id) =
        some (state.setWorker id .exited) := by
      rw [receives, stepWorker, if_pos closed]
    exact enabled_of_stepWorker running.1 rfl leaves
  · intro closed id
    unfold step
    split
    · rfl
    · cases provided.generating closed with
      | inl awaits => simp [Label.worker, stepMain, awaits]
      | inr returned =>
          obtain ⟨result, returned⟩ := returned
          simp [Label.worker, stepMain, returned]

def threeReadsSpec : LoadProfileSpec := { twoReads.spec with total := 3 }

theorem threeReads_accepted :
    newWeightedRandomRequests threeReadsSpec = .ok twoReads.requests := rfl

def threeReads : Setting :=
  { twoReads with
    spec := threeReadsSpec
    accepted := threeReads_accepted }

/-- The caller gives up, and each of the two workers leaves after its limiter
failed; the generator holds a builder that nobody will receive. -/
def abandonedSend : List Label :=
  [.callerDone, .pick 0, .dispatch 0, .build 0 0 "", .limiterFails 0, .pick 0, .dispatch 1,
    .build 1 0 "", .limiterFails 1, .pick 0]

theorem schedule_unstuck_abandonedSend :
    ∃ state, (system threeReads).Run abandonedSend state ∧ state.main = .sending 2 0 ∧
      (∀ id < threeReads.clients, state.workers id matches .exited) ∧ state.closed = false ∧
      Unstuck threeReads state := by
  obtain ⟨state, executed, sends, exited, opened⟩ :
      ∃ state ∈ (system threeReads).execute (start threeReads) abandonedSend,
        state.main = .sending 2 0 ∧
        (∀ id < threeReads.clients, state.workers id matches .exited) ∧
        state.closed = false := by
    decide
  have run := TransitionSystem.runWith_of_executeWith rfl executed
  exact ⟨state, run, sends, exited, opened, schedule_unstuck run⟩

end Kperf.Request.Schedule
