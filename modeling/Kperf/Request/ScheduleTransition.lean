import Kperf.Request.Schedule

/-! The steps of `Schedule` as relations, one constructor for each branch of
the source, and what each step leaves unchanged. -/

set_option autoImplicit false

namespace Kperf.Request.Schedule

open Types Metrics

namespace State

variable (state : State) (id : WorkerId) (worker : Worker) (builder : Nat)
variable (postDel : PostDelState) (event : PostDel.Event)

@[simp] theorem setWorker_workers :
    (state.setWorker id worker).workers = Function.update state.workers id worker := rfl
@[simp] theorem setWorker_postDel : (state.setWorker id worker).postDel = state.postDel := rfl
@[simp] theorem setWorker_dispatched :
    (state.setWorker id worker).dispatched = state.dispatched := rfl
@[simp] theorem setWorker_events : (state.setWorker id worker).events = state.events := rfl

@[simp] theorem setPostDel_postDel :
    (state.setPostDel builder postDel).postDel =
      Function.update state.postDel builder postDel := rfl
@[simp] theorem setPostDel_workers :
    (state.setPostDel builder postDel).workers = state.workers := rfl
@[simp] theorem setPostDel_events :
    (state.setPostDel builder postDel).events = state.events := rfl

@[simp] theorem log_workers : (state.log builder event).workers = state.workers := rfl
@[simp] theorem log_postDel : (state.log builder event).postDel = state.postDel := rfl
@[simp] theorem log_events :
    (state.log builder event).events = state.events ++ [(builder, event)] := rfl

end State

inductive WorkerMove (setting : Setting) (state : State) (id : WorkerId) :
    Worker → Label → State → Prop where
  | buildDelete {ticket : Ticket} {builder : PostDelBuilder} {drawn : Nat} {payload name : String}
      {rest : List String} :
      setting.requests.reqBuilders[ticket.builder]? = some (.postDel builder) →
      (state.postDel ticket.builder).cache.items = name :: rest →
      WorkerMove setting state id (.building ticket) (.build id drawn payload)
        (((state.setPostDel ticket.builder
          { state.postDel ticket.builder with cache := ⟨rest⟩ }).log ticket.builder
          (.built .delete name)).setWorker id
          (.waiting ticket (builder.deleteRequester name)))
  | buildCreate {ticket : Ticket} {builder : PostDelBuilder} {drawn : Nat} {payload : String} :
      setting.requests.reqBuilders[ticket.builder]? = some (.postDel builder) →
      WorkerMove setting state id (.building ticket) (.build id drawn payload)
        (state.setWorker id (.creating ticket))
  | buildOther {ticket : Ticket} {drawn : Nat} {payload : String} {requester : Requester} :
      (∀ operation name, requester.kind ≠ .postDel operation name) →
      WorkerMove setting state id (.building ticket) (.build id drawn payload)
        (state.setWorker id (.waiting ticket requester))
  | buildPanics {ticket : Ticket} {drawn : Nat} {payload : String} {fault : Fault} :
      WorkerMove setting state id (.building ticket) (.build id drawn payload) (state.die fault)
  | create {ticket : Ticket} {builder : PostDelBuilder} {timestamp : Int} {payload : String}
      {body : Body} :
      setting.requests.reqBuilders[ticket.builder]? = some (.postDel builder) →
      WorkerMove setting state id (.creating ticket) (.create id timestamp payload)
        (((state.setPostDel ticket.builder
          { state.postDel ticket.builder with
            resourceCounter := PostDelBuilder.nextCounter (state.postDel ticket.builder) }).log
          ticket.builder (.built .post (PostDelBuilder.resourceName timestamp
            (PostDelBuilder.nextCounter (state.postDel ticket.builder))))).setWorker id
          (.waiting ticket (builder.postRequester (PostDelBuilder.resourceName timestamp
            (PostDelBuilder.nextCounter (state.postDel ticket.builder))) body)))
  | createPanics {ticket : Ticket} {timestamp : Int} {payload : String} {fault : Fault} :
      WorkerMove setting state id (.creating ticket) (.create id timestamp payload)
        (state.die fault)
  | permit {ticket : Ticket} {requester : Requester} :
      WorkerMove setting state id (.waiting ticket requester) (.permit id)
        (state.setWorker id (.requesting ticket requester))
  | limiterFails {ticket : Ticket} {requester : Requester} :
      (state.ctxDone || setting.hasDeadline) = true →
      WorkerMove setting state id (.waiting ticket requester) (.limiterFails id)
        ({ state with
          cancelled := true
          dropped := state.dropped ++ [(ticket.id, id)] }.setWorker id .exited)
  | respond {ticket : Ticket} {requester : Requester} {bytes : Int} {err : Option GoError} :
      WorkerMove setting state id (.requesting ticket requester) (.respond id bytes err)
        (state.setWorker id (.settling ticket requester bytes err))
  | settle {ticket : Ticket} {requester : Requester} {bytes : Int} {err : Option GoError} :
      WorkerMove setting state id (.settling ticket requester bytes err) (.settle id)
        ((Schedule.settle state ticket requester err).setWorker id
          (.counting ticket requester bytes err))
  | countBytes {ticket : Ticket} {requester : Requester} {bytes : Int} {err : Option GoError} :
      WorkerMove setting state id (.counting ticket requester bytes err) (.countBytes id)
        ({ state with metric := state.metric.observeReceivedBytes bytes }.setWorker id
          (.observing ticket requester err))
  | observe {ticket : Ticket} {requester : Requester} {err : Option GoError} {now : Int}
      {seconds : ℚ} :
      WorkerMove setting state id (.observing ticket requester err) (.observe id now seconds)
        ({ state with
          metric := state.metric.observe setting.library
            (observation (setting.client id) requester now seconds err)
          recorded := state.recorded ++
            [(ticket.id, observation (setting.client id) requester now seconds err)] }.setWorker
          id .receiving)
  | leave :
      state.closed = true →
      WorkerMove setting state id .receiving (.leave id) (state.setWorker id .exited)

theorem RESTRequestBuilder.build_kind {builder : RESTRequestBuilder} {drawn : Nat}
    {payload : String} {requester : Requester}
    (built : builder.build drawn payload = some (.ok requester)) (operation : Operation)
    (name : String) : requester.kind ≠ .postDel operation name := by
  cases builder with
  | postDel builder => cases built
  | get builder =>
      cases built
      nofun
  | list builder =>
      cases built
      nofun
  | watchList builder =>
      cases built
      nofun
  | getPodLog builder =>
      cases built
      nofun
  | patch builder =>
      obtain ⟨suffix, -, returned⟩ := Outcome.bind_eq_ok.mp (Option.some.inj built)
      cases returned
      nofun
  | put builder =>
      obtain ⟨suffix, -, returned⟩ := Outcome.bind_eq_ok.mp (Option.some.inj built)
      cases returned
      nofun

theorem buildDelete_eq_some {builder : PostDelBuilder} {postDel : PostDelState} {drawn : Nat}
    {name : String} {cache : Cache}
    (popped : builder.buildDelete postDel drawn = some (name, cache)) :
    postDel.cache.items = name :: cache.items := by
  unfold PostDelBuilder.buildDelete Cache.pop at popped
  split at popped
  · split at popped
    · cases popped
    · rename_i items
      cases popped
      exact items
  · cases popped

theorem buildPost_eq_ok {builder : PostDelBuilder} {postDel : PostDelState} {timestamp : Int}
    {payload : String} {requester : Requester}
    (built : builder.buildPost postDel timestamp payload = .ok requester) :
    ∃ body, requester = builder.postRequester
      (PostDelBuilder.resourceName timestamp (PostDelBuilder.nextCounter postDel)) body := by
  unfold PostDelBuilder.buildPost at built
  dsimp only at built
  split at built
  · rename_i body rendered
    cases built
    exact ⟨body, rfl⟩
  · cases built
  · cases built

theorem stepWorker_move {setting : Setting} {state next : State} {id : WorkerId}
    {worker : Worker} {label : Label} (actor : label.worker = some id)
    (stepped : stepWorker setting state id worker label = some next) :
    WorkerMove setting state id worker label next := by
  unfold stepWorker at stepped
  split at stepped
  all_goals try cases actor
  · unfold build at stepped
    split at stepped
    · rename_i builder found
      dsimp only at stepped
      split at stepped
      · rename_i name cache popped
        cases stepped
        exact .buildDelete found (buildDelete_eq_some popped)
      · cases stepped
        exact .buildCreate found
    · split at stepped
      · rename_i requester built
        cases stepped
        exact .buildOther (RESTRequestBuilder.build_kind built)
      · cases stepped
        exact .buildPanics
      · cases stepped
    · cases stepped
  · unfold create at stepped
    split at stepped
    · rename_i builder found
      dsimp only at stepped
      split at stepped
      · rename_i requester built
        obtain ⟨body, rfl⟩ := buildPost_eq_ok built
        cases stepped
        exact .create found
      · cases stepped
        exact .createPanics
    · cases stepped
  · cases stepped
    exact .permit
  · split at stepped
    · rename_i fails
      cases stepped
      exact .limiterFails fails
    · cases stepped
  · cases stepped
    exact .respond
  · cases stepped
    exact .settle
  · cases stepped
    exact .countBytes
  · cases stepped
    exact .observe
  · split at stepped
    · rename_i closed
      cases stepped
      exact .leave closed
    · cases stepped
  · cases stepped

inductive MainMove (setting : Setting) (state : State) : Main → Label → State → Prop where
  | complete {sum : Nat} :
      reached setting.spec.total sum →
      MainMove setting state (.picking sum) .complete { state with main := .stopping }
  | pick {sum drawn builder : Nat} :
      ¬ reached setting.spec.total sum → setting.requests.randomPick drawn = .ok builder →
      MainMove setting state (.picking sum) (.pick drawn)
        { state with main := .sending sum builder }
  | pickPanics {sum drawn : Nat} {fault : Fault} :
      MainMove setting state (.picking sum) (.pick drawn) (state.die fault)
  | dispatch {sum builder : Nat} {worker : WorkerId} :
      state.workers worker = .receiving →
      MainMove setting state (.sending sum builder) (.dispatch worker)
        ({ state with
          main := .picking (sum + 1)
          dispatched := state.dispatched + 1 }.setWorker worker
          (.building ⟨state.dispatched, builder⟩))
  | abandon {sum builder : Nat} :
      (state.ctxDone || state.stopped) = true →
      MainMove setting state (.sending sum builder) .abandon { state with main := .stopping }
  | cancelGenerator :
      MainMove setting state .stopping .cancelGenerator
        { state with main := .closing, stopped := true }
  | closeChannel :
      MainMove setting state .closing .closeChannel
        { state with main := .awaiting, closed := true }
  | finish {duration : Int} :
      (∀ worker < setting.clients, state.workers worker = .exited) →
      MainMove setting state .awaiting (.finish duration)
        { state with
          main := .returned
            ⟨state.metric.gather setting.order, duration, setting.spec.total⟩ }

theorem stepMain_move {setting : Setting} {state next : State} {main : Main} {label : Label}
    (stepped : stepMain setting state main label = some next) :
    MainMove setting state main label next := by
  unfold stepMain at stepped
  split at stepped
  · split at stepped
    · rename_i bound
      cases stepped
      exact .complete bound
    · cases stepped
  · split at stepped
    · cases stepped
    · rename_i unbound
      split at stepped
      · rename_i builder picked
        cases stepped
        exact .pick unbound picked
      · cases stepped
        exact .pickPanics
  · split at stepped
    · rename_i receives
      cases stepped
      exact .dispatch receives
    · cases stepped
  · split at stepped
    · rename_i done
      cases stepped
      exact .abandon done
    · cases stepped
  · cases stepped
    exact .cancelGenerator
  · cases stepped
    exact .closeChannel
  · split at stepped
    · rename_i exited
      cases stepped
      refine .finish fun worker below => ?_
      have left := exited worker below
      split at left
      · assumption
      · cases left
    · cases stepped
  · cases stepped

/-- One step of the whole system. -/
inductive Transition (setting : Setting) (state : State) : Label → State → Prop where
  | worker {id : WorkerId} {label : Label} {next : State} :
      WorkerMove setting state id (state.workers id) label next →
      Transition setting state label next
  | main {label : Label} {next : State} :
      MainMove setting state state.main label next → Transition setting state label next
  | callerDone : Transition setting state .callerDone { state with callerDone := true }
  | timeout :
      0 < setting.spec.duration →
      Transition setting state .timeout { state with timedOut := true }

theorem step_worker {setting : Setting} {state next : State} {label : Label} {id : WorkerId}
    (stepped : step setting state label = some next) (actor : label.worker = some id) :
    stepWorker setting state id (state.workers id) label = some next := by
  unfold step at stepped
  split at stepped
  · cases stepped
  · simpa [actor] using stepped

theorem step_transition {setting : Setting} {state next : State} {label : Label}
    (stepped : step setting state label = some next) : Transition setting state label next := by
  unfold step at stepped
  split at stepped
  · cases stepped
  · split at stepped
    · rename_i id actor
      exact .worker (stepWorker_move actor stepped)
    · split at stepped
      · cases stepped
        exact .callerDone
      · split at stepped
        · rename_i limited
          cases stepped
          exact .timeout limited
        · cases stepped
      · exact .main (stepMain_move stepped)

def Worker.ticket : Worker → Option Ticket
  | .receiving | .exited => none
  | .building ticket | .creating ticket | .waiting ticket _ | .requesting ticket _
  | .settling ticket _ _ _ | .counting ticket _ _ _ | .observing ticket _ _ => some ticket

/-- A step of a worker changes that worker only, and nothing of the generator. -/
structure WorkerFrame (state : State) (id : WorkerId) (updated : Worker) (next : State) :
    Prop where
  workers : next.workers = Function.update state.workers id updated
  main : next.main = state.main
  dispatched : next.dispatched = state.dispatched
  callerDone : next.callerDone = state.callerDone
  timedOut : next.timedOut = state.timedOut
  stopped : next.stopped = state.stopped

/-- What a step of a worker does to its ticket and to the metrics. -/
inductive TicketEffect (setting : Setting) (state : State) (id : WorkerId)
    (worker updated : Worker) (next : State) : Prop where
  | keeps :
      updated.ticket = worker.ticket → (updated = .exited → worker = .receiving) →
      next.recorded = state.recorded → next.dropped = state.dropped →
      next.cancelled = state.cancelled → next.metric.errors = state.metric.errors →
      next.metric.latenciesByURLs = state.metric.latenciesByURLs →
      TicketEffect setting state id worker updated next
  | records {ticket : Ticket} {observed : Observation} :
      worker.ticket = some ticket → updated = .receiving →
      next.recorded = state.recorded ++ [(ticket.id, observed)] →
      next.dropped = state.dropped → next.cancelled = state.cancelled →
      next.metric = state.metric.observe setting.library observed →
      TicketEffect setting state id worker updated next
  | drops {ticket : Ticket} :
      (state.ctxDone || setting.hasDeadline) = true →
      worker.ticket = some ticket → updated = .exited →
      next.dropped = state.dropped ++ [(ticket.id, id)] →
      next.recorded = state.recorded → next.metric = state.metric →
      TicketEffect setting state id worker updated next

theorem settle_frame (state : State) (ticket : Ticket) (requester : Requester)
    (err : Option GoError) :
    ∃ postDel events, settle state ticket requester err = { state with postDel, events } := by
  unfold settle
  split
  · exact ⟨_, _, rfl⟩
  · exact ⟨_, _, rfl⟩

theorem WorkerMove.frame {setting : Setting} {state next : State} {id : WorkerId}
    {worker : Worker} {label : Label} (found : state.workers id = worker)
    (move : WorkerMove setting state id worker label next) :
    ∃ updated, WorkerFrame state id updated next ∧
      TicketEffect setting state id worker updated next := by
  have unchanged : state.workers = Function.update state.workers id worker := by simp [← found]
  cases move with
  | settle =>
      rename_i ticket requester bytes err
      obtain ⟨postDel, events, settled⟩ := settle_frame state ticket requester err
      rw [settled]
      exact ⟨_, ⟨rfl, rfl, rfl, rfl, rfl, rfl⟩,
        .keeps rfl (by simp) rfl rfl rfl rfl rfl⟩
  | limiterFails fails =>
      exact ⟨_, ⟨rfl, rfl, rfl, rfl, rfl, rfl⟩, .drops fails rfl rfl rfl rfl rfl⟩
  | observe => exact ⟨_, ⟨rfl, rfl, rfl, rfl, rfl, rfl⟩, .records rfl rfl rfl rfl rfl rfl⟩
  | buildPanics | createPanics =>
      exact ⟨_, ⟨unchanged, rfl, rfl, rfl, rfl, rfl⟩, .keeps rfl (by simp) rfl rfl rfl rfl rfl⟩
  | _ => exact ⟨_, ⟨rfl, rfl, rfl, rfl, rfl, rfl⟩, .keeps rfl (by simp) rfl rfl rfl rfl rfl⟩

end Kperf.Request.Schedule
