import Kperf.Library.Outcome
import Kperf.Library.Transition
import Kperf.Metrics.Errors

/-! `Handler.Wait` as a machine that consumes what the API server and the
context give it: the answer to `Get`, the answers to `Watch`, the events of
each session and the end of the session. `received` records the job objects
it was given. -/

set_option autoImplicit false

namespace Kperf.Runner.Group

open Metrics Outcome

structure Job where
  resourceVersion : String
  completions : Option (BitVec 32)
  failed : BitVec 32
  succeeded : BitVec 32
  deriving DecidableEq, Repr

/-- A job without completions makes the pointer dereference panic. -/
def jobFinished (job : Job) : Outcome Bool :=
  match job.completions with
  | some completions => .ok (decide (job.failed + job.succeeded = completions))
  | none => panics "runtime error: invalid memory address or nil pointer dereference"

inductive EventType where
  | added
  | modified
  | deleted
  | bookmark
  deriving DecidableEq, Repr

inductive Object where
  | job (job : Job)
  | other
  deriving DecidableEq, Repr

/-- What `Wait` receives next. -/
inductive Signal where
  | got (job : Job)
  | getFailed (err : GoError)
  | contextDone (err : GoError)
  | watchRefused (err : GoError)
  | watchOpened
  | event (type : EventType) (object : Object)
  | errorEvent (err : GoError)
  | channelClosed

inductive Phase where
  | getting
  | looping
  | watching
  | returned (err : Option GoError)
  | panicked (message : String)

structure State where
  phase : Phase
  lastRv : String
  received : List Job

structure Handler where
  name : String
  namespace_ : String
  library : ErrorLibrary
  connectionRefused : GoError → Bool

def errRetryable : GoError := .leaf ⟨.sentinel .retryable, "retry"⟩

namespace Handler

variable (handler : Handler)

/-- `Watch` failed: an API server that is down or unavailable is tried again. -/
def refuse (state : State) (err : GoError) : State :=
  if handler.connectionRefused err || handler.library.is .tooManyRequests err ||
      handler.library.is .internalError err then
    { state with phase := .looping }
  else
    { state with
      phase := .returned (some (err.wrap
        ("failed to initialize watch for job " ++ handler.name ++ ": "))) }

/-- `waitForJob` returned an error. -/
def recover (state : State) (err : GoError) : State :=
  if handler.library.is .resourceExpired err || handler.library.is .gone err then
    { state with phase := .looping, lastRv := "" }
  else if handler.library.is .tooManyRequests err || handler.library.is .internalError err then
    { state with phase := .looping }
  else if err.isSentinel .retryable then { state with phase := .looping }
  else { state with phase := .returned (some err) }

end Handler

/-- One event inside `waitForJob`: only a modified job can end the wait. -/
def State.receive (state : State) (type : EventType) (job : Job) : State :=
  match type with
  | .modified =>
      match jobFinished job with
      | .ok true => { state with phase := .returned none }
      | .ok false => { state with lastRv := job.resourceVersion }
      | .error fault => { state with phase := .panicked fault.message }
  | _ => { state with lastRv := job.resourceVersion }

def State.get (state : State) (job : Job) : State :=
  match jobFinished job with
  | .ok true => { state with phase := .returned none }
  | .ok false => { state with phase := .looping, lastRv := job.resourceVersion }
  | .error fault => { state with phase := .panicked fault.message }

/-- The job object that a signal delivers: bookmarks and deletions carry none. -/
def Signal.job : Signal → Option Job
  | .got job | .event .added (.job job) | .event .modified (.job job) => some job
  | _ => none

def State.record (state : State) (signal : Signal) : State :=
  { state with received := state.received ++ signal.job.toList }

def step (handler : Handler) (state : State) (signal : Signal) : Option State :=
  match state.phase, signal with
  | .getting, .got job => some ((state.record signal).get job)
  | .getting, .getFailed err =>
      some { state with
        phase := .returned (some (err.wrap ("failed to get job " ++ handler.name ++
          " from namespace " ++ handler.namespace_ ++ ": "))) }
  | .looping, .contextDone err => some { state with phase := .returned (some err) }
  | .looping, .watchRefused err => some (handler.refuse state err)
  | .looping, .watchOpened => some { state with phase := .watching }
  | .watching, .contextDone err => some (handler.recover state err)
  | .watching, .channelClosed =>
      some (handler.recover state (errRetryable.wrap "unexpected closed watch channel: "))
  | .watching, .errorEvent err => some (handler.recover state err)
  | .watching, .event type (.job job) => some ((state.record signal).receive type job)
  | .watching, .event _ .other => some state
  | _, _ => none

def system (handler : Handler) : TransitionSystem State Signal where
  initial := fun state => state = ⟨.getting, "", []⟩
  step := step handler

end Kperf.Runner.Group
