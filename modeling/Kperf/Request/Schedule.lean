import Kperf.Library.Transition
import Kperf.Metrics.Request
import Kperf.Request.PostDel
import Mathlib.Logic.Function.Basic

/-! `Schedule` as a transition system: the calling goroutine that generates
builders, stops the generator and waits, and the workers that receive builders
over the unbuffered channel. A label fixes what is outside the program: random
draws, the clock, the limiter, the server's answer, and which goroutine moves.
The last fields of the state only record what has happened. -/

set_option autoImplicit false

namespace Kperf.Request.Schedule

open Types Metrics

abbrev WorkerId := Nat

/-- One call of `Schedule` whose spec was accepted. -/
structure Setting where
  spec : LoadProfileSpec
  requests : WeightedRandomRequests
  accepted : newWeightedRandomRequests spec = .ok requests
  restCli : List RESTClient
  connected : restCli ≠ []
  callerDeadline : Bool
  library : ErrorLibrary
  order : RangeOrder

namespace Setting

variable (setting : Setting)

def clients : Nat :=
  (if setting.spec.client = 0 then setting.spec.conns else setting.spec.client).toNat

def client (worker : WorkerId) : RESTClient :=
  setting.restCli.get ⟨worker % setting.restCli.length,
    Nat.mod_lt _ (List.length_pos_of_ne_nil setting.connected)⟩

/-- The context given to `limiter.Wait` has a deadline. -/
def hasDeadline : Bool := decide (0 < setting.spec.duration) || setting.callerDeadline

end Setting

/-- A dispatched builder: its number in the order of dispatch and its position
among the builders of the spec. -/
structure Ticket where
  id : Nat
  builder : Nat
  deriving DecidableEq, Repr

/-- Where a worker stands in its loop. -/
inductive Worker where
  | receiving
  | building (ticket : Ticket)
  /-- in `Build` of a postDel builder, past the cache and before the counter -/
  | creating (ticket : Ticket)
  | waiting (ticket : Ticket) (requester : Requester)
  | requesting (ticket : Ticket) (requester : Requester)
  | settling (ticket : Ticket) (requester : Requester) (bytes : Int) (err : Option GoError)
  | counting (ticket : Ticket) (requester : Requester) (bytes : Int) (err : Option GoError)
  | observing (ticket : Ticket) (requester : Requester) (err : Option GoError)
  | exited

structure Result where
  stats : ResponseStats
  duration : Int
  total : Int
  deriving DecidableEq

/-- Where the goroutine of `Schedule` stands. -/
inductive Main where
  | picking (sum : Nat)
  | sending (sum : Nat) (builder : Nat)
  | stopping
  | closing
  | awaiting
  | returned (result : Result)
  deriving DecidableEq

structure State where
  main : Main
  workers : WorkerId → Worker
  callerDone : Bool
  cancelled : Bool
  timedOut : Bool
  stopped : Bool
  closed : Bool
  postDel : Nat → PostDelState
  metric : ResponseMetric
  panicked : Option String
  dispatched : Nat
  /-- requests dropped after a failed `limiter.Wait`, with the worker -/
  dropped : List (Nat × WorkerId)
  recorded : List (Nat × Observation)
  events : List (Nat × PostDel.Event)

namespace State

def ctxDone (state : State) : Bool := state.callerDone || state.cancelled || state.timedOut

def setWorker (state : State) (id : WorkerId) (worker : Worker) : State :=
  { state with workers := Function.update state.workers id worker }

def setPostDel (state : State) (builder : Nat) (postDel : PostDelState) : State :=
  { state with postDel := Function.update state.postDel builder postDel }

def log (state : State) (builder : Nat) (event : PostDel.Event) : State :=
  { state with events := state.events ++ [(builder, event)] }

def die (state : State) (fault : Fault) : State :=
  { state with panicked := some fault.message }

end State

def start (setting : Setting) : State where
  main := .picking 0
  workers := fun id => if id < setting.clients then .receiving else .exited
  callerDone := false
  cancelled := false
  timedOut := false
  stopped := false
  closed := false
  postDel := fun _ => .init
  metric := newResponseMetric
  panicked := none
  dispatched := 0
  dropped := []
  recorded := []
  events := []

inductive Label where
  | pick (drawn : Nat)
  | complete
  | dispatch (worker : WorkerId)
  | abandon
  | cancelGenerator
  | closeChannel
  | finish (duration : Int)
  | build (worker : WorkerId) (drawn : Nat) (payload : String)
  | create (worker : WorkerId) (timestamp : Int) (payload : String)
  | permit (worker : WorkerId)
  | limiterFails (worker : WorkerId)
  | respond (worker : WorkerId) (bytes : Int) (err : Option GoError)
  | settle (worker : WorkerId)
  | countBytes (worker : WorkerId)
  | observe (worker : WorkerId) (now : Int) (seconds : ℚ)
  | leave (worker : WorkerId)
  | callerDone
  | timeout

def reached (total : Int) (sum : Nat) : Prop := 0 < total ∧ total ≤ sum

instance (total : Int) (sum : Nat) : Decidable (reached total sum) :=
  inferInstanceAs (Decidable (_ ∧ _))

/-- One step of the goroutine of `Schedule`: `Run`, `Stop`, `wg.Wait`, `Gather`. -/
def stepMain (setting : Setting) (state : State) : Main → Label → Option State
  | .picking sum, .complete =>
      if reached setting.spec.total sum then some { state with main := .stopping } else none
  | .picking sum, .pick drawn =>
      if reached setting.spec.total sum then none
      else match setting.requests.randomPick drawn with
        | .ok builder => some { state with main := .sending sum builder }
        | .error fault => some (state.die fault)
  | .sending sum builder, .dispatch worker =>
      match state.workers worker with
      | .receiving =>
          some ({ state with
            main := .picking (sum + 1)
            dispatched := state.dispatched + 1 }.setWorker worker
            (.building ⟨state.dispatched, builder⟩))
      | _ => none
  | .sending _ _, .abandon =>
      if state.ctxDone || state.stopped then some { state with main := .stopping } else none
  | .stopping, .cancelGenerator => some { state with main := .closing, stopped := true }
  | .closing, .closeChannel => some { state with main := .awaiting, closed := true }
  | .awaiting, .finish duration =>
      if ∀ worker < setting.clients, state.workers worker matches .exited then
        some { state with
          main := .returned
            ⟨state.metric.gather setting.order, duration, setting.spec.total⟩ }
      else none
  | _, _ => none

def isHTTP2StreamNoError (err : GoError) : Bool := err.as asStreamError == some 0

def countedError : Option GoError → Option GoError
  | some err => if isHTTP2StreamNoError err then none else some err
  | none => none

/-- What the worker reports about a request whose `Do` has returned. -/
def observation (client : RESTClient) (requester : Requester) (now : Int) (seconds : ℚ)
    (err : Option GoError) : Observation :=
  let url := (requester.maskedURL client).string
  match countedError err with
  | some err => .failure requester.method url now seconds err
  | none => .latency requester.method url seconds

/-- `Build` up to the cache of a postDel builder, or all of another `Build`. -/
def build (setting : Setting) (state : State) (id : WorkerId) (ticket : Ticket) (drawn : Nat)
    (payload : String) : Option State :=
  match setting.requests.reqBuilders[ticket.builder]? with
  | some (.postDel builder) =>
      let postDel := state.postDel ticket.builder
      match builder.buildDelete postDel drawn with
      | some (name, cache) =>
          some (((state.setPostDel ticket.builder { postDel with cache }).log ticket.builder
            (.built .delete name)).setWorker id
            (.waiting ticket (builder.deleteRequester name)))
      | none => some (state.setWorker id (.creating ticket))
  | some builder =>
      match builder.build drawn payload with
      | some (.ok requester) => some (state.setWorker id (.waiting ticket requester))
      | some (.error fault) => some (state.die fault)
      | none => none
  | none => none

def create (setting : Setting) (state : State) (id : WorkerId) (ticket : Ticket)
    (timestamp : Int) (payload : String) : Option State :=
  match setting.requests.reqBuilders[ticket.builder]? with
  | some (.postDel builder) =>
      let postDel := state.postDel ticket.builder
      let counter := PostDelBuilder.nextCounter postDel
      match builder.buildPost postDel timestamp payload with
      | .ok requester =>
          some (((state.setPostDel ticket.builder
            { postDel with resourceCounter := counter }).log ticket.builder
            (.built .post (PostDelBuilder.resourceName timestamp counter))).setWorker id
            (.waiting ticket requester))
      | .error fault => some (state.die fault)
  | _ => none

/-- The end of `Do`: a postDel requester updates the cache of its builder. -/
def settle (state : State) (ticket : Ticket) (requester : Requester)
    (err : Option GoError) : State :=
  match requester.kind with
  | .postDel operation name =>
      let postDel := state.postDel ticket.builder
      (state.setPostDel ticket.builder
        { postDel with cache := postDel.cache.settle operation name err.isSome }).log
        ticket.builder (.did operation name err.isNone)
  | _ => state

def stepWorker (setting : Setting) (state : State) (id : WorkerId) : Worker → Label → Option State
  | .building ticket, .build _ drawn payload => build setting state id ticket drawn payload
  | .creating ticket, .create _ timestamp payload =>
      create setting state id ticket timestamp payload
  | .waiting ticket requester, .permit _ =>
      some (state.setWorker id (.requesting ticket requester))
  | .waiting ticket _, .limiterFails _ =>
      if state.ctxDone || setting.hasDeadline then
        some ({ state with
          cancelled := true
          dropped := state.dropped ++ [(ticket.id, id)] }.setWorker id .exited)
      else none
  | .requesting ticket requester, .respond _ bytes err =>
      some (state.setWorker id (.settling ticket requester bytes err))
  | .settling ticket requester bytes err, .settle _ =>
      some ((settle state ticket requester err).setWorker id
        (.counting ticket requester bytes err))
  | .counting ticket requester bytes err, .countBytes _ =>
      some ({ state with metric := state.metric.observeReceivedBytes bytes }.setWorker id
        (.observing ticket requester err))
  | .observing ticket requester err, .observe _ now seconds =>
      let observed := observation (setting.client id) requester now seconds err
      some ({ state with
        metric := state.metric.observe setting.library observed
        recorded := state.recorded ++ [(ticket.id, observed)] }.setWorker id .receiving)
  | .receiving, .leave _ => if state.closed then some (state.setWorker id .exited) else none
  | _, _ => none

def Label.worker : Label → Option WorkerId
  | .build id _ _ | .create id _ _ | .permit id | .limiterFails id | .respond id _ _
  | .settle id | .countBytes id | .observe id _ _ | .leave id => some id
  | _ => none

/-- A panic in any goroutine ends the process, and its memory with it. -/
def step (setting : Setting) (state : State) (label : Label) : Option State :=
  if state.panicked.isSome then none
  else match label.worker with
    | some id => stepWorker setting state id (state.workers id) label
    | none =>
        match label with
        | .callerDone => some { state with callerDone := true }
        | .timeout =>
            if 0 < setting.spec.duration then some { state with timedOut := true } else none
        | _ => stepMain setting state state.main label

def system (setting : Setting) : TransitionSystem State Label where
  initial := fun state => state = start setting
  step := step setting

end Kperf.Request.Schedule
