import Kperf.Request.PostDelProperties
import Kperf.Request.ScheduleAccounting

/-! What `Schedule` does to the objects of its postDel builders. Seen from one
builder, a run of `Schedule` is a run of its pool of names, in which a failed
`limiter.Wait` gives a request up. -/

set_option autoImplicit false

namespace Kperf.Request.Schedule

open Types Metrics

def Requester.flight (requester : Requester) : Option (Operation × String) :=
  match requester.kind with
  | .postDel operation name => some (operation, name)
  | _ => none

/-- The request of a builder that a worker has built and whose `Do` has not returned. -/
def Worker.flight (builder : Nat) : Worker → Option (Operation × String)
  | .waiting ticket requester | .requesting ticket requester
  | .settling ticket requester _ _ =>
      if ticket.builder = builder then Requester.flight requester else none
  | _ => none

def State.pool (state : State) (builder : Nat) : PostDel.Pool where
  state := state.postDel builder
  flights := fun id => (state.workers id).flight builder
  events := (state.events.filter fun entry => entry.1 = builder).map Prod.snd

namespace State

variable (state : State) (id : WorkerId) (updated : Worker) (builder : Nat)

theorem pool_setWorker :
    (state.setWorker id updated).pool builder =
      ⟨(state.pool builder).state,
        Function.update (state.pool builder).flights id (updated.flight builder),
        (state.pool builder).events⟩ := by
  simp only [pool, setWorker_postDel, setWorker_workers, setWorker_events,
    PostDel.Pool.mk.injEq, true_and, and_true]
  funext other
  by_cases same : other = id
  · subst other
    simp
  · simp [same]

theorem pool_setWorker_same {updated : Worker}
    (same : updated.flight builder = (state.workers id).flight builder) :
    (state.setWorker id updated).pool builder = state.pool builder := by
  have flights : Function.update (state.pool builder).flights id (updated.flight builder) =
      (state.pool builder).flights := by
    rw [same]
    exact Function.update_eq_self id (state.pool builder).flights
  rw [pool_setWorker, flights]

theorem pool_log_self (postDel : PostDelState) (event : PostDel.Event) :
    ((state.setPostDel builder postDel).log builder event).pool builder =
      ⟨postDel, (state.pool builder).flights, (state.pool builder).events ++ [event]⟩ := by
  simp [pool]

theorem pool_log_other {called : Nat} (other : called ≠ builder) (postDel : PostDelState)
    (event : PostDel.Event) :
    ((state.setPostDel called postDel).log called event).pool builder = state.pool builder := by
  simp [pool, other, Function.update_of_ne other.symm]

end State

theorem WorkerMove.simulates {setting : Setting} {state next : State} {id : WorkerId}
    {worker : Worker} {label : Label} (found : state.workers id = worker)
    (move : WorkerMove setting state id worker label next) (builder : Nat) :
    next.pool builder = state.pool builder ∨
      ∃ action, PostDel.Move (state.pool builder) action (next.pool builder) ∧
        ∀ holder, action = .drop holder → label = .limiterFails holder := by
  have flight : (state.pool builder).flights id = worker.flight builder := by
    simp [State.pool, found]
  cases move with
  | @buildDelete ticket _ _ _ name rest _ items =>
      by_cases own : ticket.builder = builder
      · subst own
        refine .inr ⟨.pop id, ?_, by simp⟩
        rw [State.pool_setWorker, State.pool_log_self]
        simp only [Worker.flight, Requester.flight, PostDelBuilder.deleteRequester, if_true]
        exact .pop flight items
      · refine .inl ?_
        rw [State.pool_setWorker_same, State.pool_log_other _ _ own]
        simp [found, Worker.flight, own]
  | @create ticket _ timestamp =>
      by_cases own : ticket.builder = builder
      · subst own
        refine .inr ⟨.create id timestamp, ?_, by simp⟩
        rw [State.pool_setWorker, State.pool_log_self]
        simp only [Worker.flight, Requester.flight, PostDelBuilder.postRequester, if_true]
        exact .create flight
      · refine .inl ?_
        rw [State.pool_setWorker_same, State.pool_log_other _ _ own]
        simp [found, Worker.flight, own]
  | @limiterFails ticket requester =>
      cases held : (Worker.waiting ticket requester).flight builder with
      | none =>
          exact .inl ((State.pool_setWorker_same _ _ _ (by rw [found, held]; rfl)).trans rfl)
      | some owned =>
          refine .inr ⟨.drop id, ?_, by simp⟩
          rw [State.pool_setWorker]
          exact .drop (flight.trans held)
  | @settle ticket requester bytes err =>
      cases kind : requester.kind with
      | postDel operation name =>
          have settled : Schedule.settle state ticket requester err =
              (state.setPostDel ticket.builder
                ⟨(state.postDel ticket.builder).cache.settle operation name err.isSome,
                  (state.postDel ticket.builder).resourceCounter⟩).log ticket.builder
                (.did operation name err.isNone) := by
            simp [Schedule.settle, kind]
          rw [settled]
          by_cases own : ticket.builder = builder
          · subst own
            refine .inr ⟨.finish id err.isNone, ?_, by simp⟩
            rw [State.pool_setWorker, State.pool_log_self]
            have held : (state.pool ticket.builder).flights id = some (operation, name) := by
              simp [flight, Worker.flight, Requester.flight, kind]
            have failed : err.isSome = !err.isNone := by cases err <;> rfl
            rw [failed]
            exact .finish held
          · refine .inl ?_
            rw [State.pool_setWorker_same, State.pool_log_other _ _ own]
            simp [found, Worker.flight, own]
      | discard | watchList =>
          have settled : Schedule.settle state ticket requester err = state := by
            simp [Schedule.settle, kind]
          rw [settled]
          refine .inl (State.pool_setWorker_same _ _ _ ?_)
          simp [found, Worker.flight, Requester.flight, kind]
  | @buildOther ticket _ _ requester plain =>
      refine .inl (State.pool_setWorker_same _ _ _ ?_)
      have unowned : Requester.flight requester = none := by
        unfold Requester.flight
        split
        · rename_i kind
          exact absurd kind (plain _ _)
        · rfl
      simp [found, Worker.flight, unowned]
  | buildPanics | createPanics => exact .inl rfl
  | _ =>
      exact .inl ((State.pool_setWorker_same _ _ _ (by simp [found, Worker.flight])).trans rfl)

theorem Transition.simulates {setting : Setting} {state next : State} {label : Label}
    (transition : Transition setting state label next) (builder : Nat) :
    next.pool builder = state.pool builder ∨
      ∃ action, PostDel.Move (state.pool builder) action (next.pool builder) ∧
        ∀ holder, action = .drop holder → label = .limiterFails holder := by
  cases transition with
  | worker move => exact move.simulates rfl builder
  | callerDone | timeout => exact .inl rfl
  | main move =>
      refine .inl ?_
      generalize state.main = main at move
      cases move with
      | dispatch receives =>
          exact (State.pool_setWorker_same _ _ _ (by simp [receives, Worker.flight])).trans rfl
      | _ => rfl

theorem pool_start (setting : Setting) (builder : Nat) :
    (start setting).pool builder = .init := by
  simp only [State.pool, start, PostDel.Pool.init, List.filter_nil, List.map_nil,
    PostDel.Pool.mk.injEq, true_and, and_true]
  funext id
  split <;> rfl

/-- Every run of `Schedule` is, for each builder, a run of its pool. -/
theorem pool_run {setting : Setting} {trace : List Label} {state : State}
    (run : (system setting).Run trace state) (builder : Nat) :
    ∃ actions, PostDel.system.Run actions (state.pool builder) := by
  refine run.project (State.pool · builder) ?_ ?_
  · rintro _ rfl
    exact pool_start setting builder
  · intro state next label _ stepped
    rcases (step_transition stepped).simulates builder with same | ⟨action, move, -⟩
    · exact .inl same
    · exact .inr ⟨action, trivial, move.step⟩

/-- Names have exclusive owners: in every run of fewer than `2^63` builds of a postDel
builder, its cached names and the names of its requests in flight are all different,
and every DELETE was built for a name that existed. -/
theorem postDel_names_owned {setting : Setting} {trace : List Label} {state : State}
    (run : (system setting).Run trace state) (builder : Nat)
    (small : PostDel.builds (state.pool builder).events < 2 ^ 63) :
    PostDel.Owned (state.pool builder) := by
  obtain ⟨actions, below⟩ := pool_run run builder
  exact (PostDel.tracked_of_run below small).owned

def podChurnSpec : LoadProfileSpec :=
  { rate := 10, total := 2, duration := 60, conns := 1, client := 1, contentType := .json
    disableHTTP2 := false, maxRetries := 0
    requests := [some
      { shares := 1, staleList := none, quorumList := none, watchList := none
        staleGet := none, quorumGet := none, put := none, patch := none, getPodLog := none
        postDel := some ⟨⟨"", "v1", "pods"⟩, "default", 1 / 2, 0⟩ }] }

def podChurnRequests : WeightedRandomRequests :=
  ⟨[1], [.postDel ⟨⟨⟨"", "v1", "pods"⟩, "default", 1 / 2, 0⟩, 0⟩]⟩

theorem podChurn_accepted :
    newWeightedRandomRequests podChurnSpec = .ok podChurnRequests := by decide +kernel

def podChurn : Setting :=
  { twoReads with
    spec := podChurnSpec
    requests := podChurnRequests
    accepted := podChurn_accepted }

def createThenDelete : List Label :=
  [.pick 0, .dispatch 0, .build 0 999 "", .create 0 7 "", .permit 0, .respond 0 12 none,
    .settle 0, .countBytes 0, .observe 0 8 1, .pick 0, .dispatch 0, .build 0 0 ""]

theorem postDel_names_owned_podChurn :
    ∃ state, (system podChurn).Run createThenDelete state ∧
      (state.pool 0).flights 0 = some (.delete, "7-1") ∧
      (state.pool 0).events = [.built .post "7-1", .did .post "7-1" true,
        .built .delete "7-1"] ∧
      PostDel.builds (state.pool 0).events < 2 ^ 63 ∧ PostDel.Owned (state.pool 0) := by
  obtain ⟨state, executed, held, events⟩ :
      ∃ state ∈ (system podChurn).execute (start podChurn) createThenDelete,
        (state.pool 0).flights 0 = some (.delete, "7-1") ∧
        (state.pool 0).events = [.built .post "7-1", .did .post "7-1" true,
          .built .delete "7-1"] := by
    decide +kernel
  have run := TransitionSystem.runWith_of_executeWith rfl executed
  have small : PostDel.builds (state.pool 0).events < 2 ^ 63 := by
    rw [events]
    decide
  exact ⟨state, run, held, events, small, postDel_names_owned run 0 small⟩

/-- No `limiter.Wait` fails for a worker that holds a DELETE. -/
def KeepsDeletes (state : State) (label : Label) : Prop :=
  ∀ id, label = .limiterFails id → ∀ builder name,
    (state.workers id).flight builder ≠ some (.delete, name)

/-- What a postDel builder knows of the objects it created. -/
structure Remembered (setting : Setting) (state : State) (builder : Nat) : Prop where
  retained : PostDel.Retained (state.pool builder)
  executed : ∀ {id name label next}, (state.workers id).flight builder = some (.delete, name) →
    KeepsDeletes state label → step setting state label = some next →
    (next.workers id).flight builder = some (.delete, name) ∨ label = .settle id
  returned : ∀ {result name}, state.main = .returned result →
    .did .post name true ∈ (state.pool builder).events →
    .did .delete name true ∉ (state.pool builder).events →
    name ∈ (state.postDel builder).cache.items

theorem Transition.flight_kept {setting : Setting} {state next : State} {label : Label}
    {id : WorkerId} {builder : Nat} {flight : Operation × String}
    (transition : Transition setting state label next)
    (held : (state.workers id).flight builder = some flight) :
    (next.workers id).flight builder = some flight ∨ label = .settle id ∨
      label = .limiterFails id := by
  cases transition with
  | callerDone | timeout => exact .inl held
  | main move =>
      generalize state.main = main at move
      cases move with
      | @dispatch _ _ worker receives =>
          refine .inl ?_
          rw [State.setWorker_workers, Function.update_of_ne]
          · exact held
          · rintro rfl
            rw [receives] at held
            cases held
      | _ => exact .inl held
  | @worker mover _ _ move =>
      by_cases own : id = mover
      · subst own
        generalize stands : state.workers id = worker at move held
        cases move with
        | settle => exact .inr (.inl rfl)
        | limiterFails => exact .inr (.inr rfl)
        | permit | respond =>
            refine .inl ?_
            rw [State.setWorker_workers, Function.update_self]
            exact held
        | _ => cases held
      · obtain ⟨updated, frame, -⟩ := move.frame rfl
        refine .inl ?_
        rw [frame.workers, Function.update_of_ne own]
        exact held

/-- In every run in which no `limiter.Wait` fails for a worker that holds a DELETE, no
created object is forgotten. -/
theorem postDel_names_remembered {setting : Setting} {trace : List Label} {state : State}
    (run : (system setting).RunWith KeepsDeletes trace state) (builder : Nat) :
    Remembered setting state builder := by
  have below : ∃ actions, PostDel.system.RunWith PostDel.Retaining actions
      (state.pool builder) := by
    refine run.project (State.pool · builder) ?_ ?_
    · rintro _ rfl
      exact pool_start setting builder
    · intro state next label keeps stepped
      rcases (step_transition stepped).simulates builder with same | ⟨action, move, drops⟩
      · exact .inl same
      · refine .inr ⟨action, ?_, move.step⟩
        cases action with
        | drop holder => exact keeps holder (drops holder rfl) builder
        | _ => trivial
  obtain ⟨actions, below⟩ := below
  have retained := PostDel.retained_of_run below
  refine ⟨retained, ?_, ?_⟩
  · intro id name label next held keeps stepped
    rcases (step_transition stepped).flight_kept held with kept | settled | failed
    · exact .inl kept
    · exact .inr settled
    · exact absurd held (keeps id failed builder name)
  · intro result name final posted undeleted
    rcases retained name posted undeleted with cached | ⟨id, held⟩
    · exact cached
    · have exited := ((paced_of_run run).returned final).1 id
      simp [State.pool, exited, Worker.flight] at held

def restoredDelete : List Label :=
  createThenDelete ++ [.permit 0,
    .respond 0 0 (some (.leaf ⟨.errno econnrefused, "connection refused"⟩)), .settle 0,
    .countBytes 0, .observe 0 9 1, .complete, .cancelGenerator, .closeChannel, .leave 0,
    .finish 10]

theorem postDel_names_remembered_podChurn :
    ∃ state, (system podChurn).RunWith KeepsDeletes restoredDelete state ∧
      (state.postDel 0).cache.items = ["7-1"] ∧ Remembered podChurn state 0 := by
  obtain ⟨state, executed, cached⟩ :
      ∃ state ∈ (system podChurn).execute (start podChurn) restoredDelete,
        (state.postDel 0).cache.items = ["7-1"] := by
    decide +kernel
  have calm : ∀ label ∈ restoredDelete, ∀ id, label ≠ .limiterFails id := by
    simp [restoredDelete, createThenDelete]
  have run := ((TransitionSystem.runWith_of_executeWith rfl executed).restrict calm).mono
    fun state label allowed id fails =>
      (absurd fails (allowed.2 id) : ∀ builder name,
        (state.workers id).flight builder ≠ some (.delete, name))
  exact ⟨state, run, cached, postDel_names_remembered run 0⟩

/-- The deadline is too close for the limiter when the worker holds the DELETE. -/
def forgottenDelete : List Label :=
  createThenDelete ++ [.limiterFails 0, .complete, .cancelGenerator, .closeChannel, .finish 9]

theorem forgottenDelete_not_remembered :
    ∃ state, (system podChurn).Run forgottenDelete state ∧
      state.main.result.isSome = true ∧ ¬ Remembered podChurn state 0 := by
  obtain ⟨state, executed, result, final, events, empty⟩ :
      ∃ state ∈ (system podChurn).execute (start podChurn) forgottenDelete,
        ∃ result ∈ state.main.result, (state.pool 0).events =
          [.built .post "7-1", .did .post "7-1" true, .built .delete "7-1"] ∧
        (state.postDel 0).cache.items = [] := by
    decide +kernel
  refine ⟨state, TransitionSystem.runWith_of_executeWith rfl executed, ?_, fun remembered => ?_⟩
  · simp [Option.mem_def.mp final]
  · have cached := remembered.returned (Main.result_eq_some.mp final)
      (show .did .post "7-1" true ∈ (state.pool 0).events by simp [events])
      (by simp [events])
    rw [empty] at cached
    cases cached

def LatencyRecorded (before after : ResponseMetric) : Prop :=
  after.errors = before.errors ∧
    after.latenciesByURLs.values.length = before.latenciesByURLs.values.length + 1

/-- The cache treats a request as a success: the name of a POST is pushed, that of a
DELETE is not put back. -/
def UpdatedAsSuccess (operation : Operation) (name : String) (before after : Cache) : Prop :=
  match operation with
  | .post => after = before.push name
  | .delete => after = before

theorem Cache.push_ne (cache : Cache) (name : String) : cache.push name ≠ cache := by
  intro same
  have lengths := congrArg (fun cache => cache.items.length) same
  simp [Cache.push] at lengths

theorem updatedAsSuccess_settle (operation : Operation) (name : String) (cache : Cache)
    (failed : Bool) :
    UpdatedAsSuccess operation name cache (cache.settle operation name failed) ↔
      failed = false := by
  cases operation with
  | post =>
      cases failed with
      | false => simp [UpdatedAsSuccess, Cache.settle]
      | true => simpa [UpdatedAsSuccess, Cache.settle] using (Cache.push_ne cache name).symm
  | delete =>
      cases failed with
      | false => simp [UpdatedAsSuccess, Cache.settle]
      | true => simpa [UpdatedAsSuccess, Cache.settle] using Cache.push_ne cache name

theorem latencyRecorded_observe (library : ErrorLibrary) (metric : ResponseMetric)
    (client : RESTClient) (requester : Requester) (now : Int) (seconds : ℚ)
    (err : Option GoError) :
    LatencyRecorded metric
        (metric.observe library (observation client requester now seconds err)) ↔
      countedError err = none := by
  unfold observation
  cases counted : countedError err with
  | none =>
      simp [LatencyRecorded, ResponseMetric.observe, ResponseMetric.observeLatency,
        (StringMap.values_push _ _ _).length_eq, Nat.add_comm]
  | some err =>
      simp [LatencyRecorded, ResponseMetric.observe, ResponseMetric.observeFailure]

/-- `Do` decides about the cache on the error itself, the worker about the metrics after
`NO_ERROR` has become nil. The two agree on a request exactly when its error is not an
HTTP/2 stream error with that code. -/
theorem postDel_decisions_agree_iff {setting : Setting} {settling settled observing observed : State}
    {id : WorkerId} {ticket : Ticket} {requester : Requester} {operation : Operation}
    {name : String} {bytes now : Int} {seconds : ℚ} {err : Option GoError}
    (kind : requester.kind = .postDel operation name)
    (answered : settling.workers id = .settling ticket requester bytes err)
    (settles : step setting settling (.settle id) = some settled)
    (done : observing.workers id = .observing ticket requester err)
    (observes : step setting observing (.observe id now seconds) = some observed) :
    (LatencyRecorded observing.metric observed.metric ↔
        UpdatedAsSuccess operation name (settling.postDel ticket.builder).cache
          (settled.postDel ticket.builder).cache) ↔
      ¬ ∃ failure, err = some failure ∧ isHTTP2StreamNoError failure = true := by
  have cache : (settled.postDel ticket.builder).cache =
      (settling.postDel ticket.builder).cache.settle operation name err.isSome := by
    have move := stepWorker_move rfl (step_worker settles rfl)
    rw [answered] at move
    cases move
    simp [settle, kind]
  have metric : observed.metric = observing.metric.observe setting.library
      (observation (setting.client id) requester now seconds err) := by
    have move := stepWorker_move rfl (step_worker observes rfl)
    rw [done] at move
    cases move
    rfl
  rw [cache, metric, updatedAsSuccess_settle, latencyRecorded_observe]
  cases err with
  | none => simp [countedError]
  | some failure => simp [countedError]

theorem postDel_decisions_agree_iff_podChurn :
    let requester := PostDelBuilder.postRequester
      ⟨⟨⟨"", "v1", "pods"⟩, "default", 1 / 2, 0⟩, 0⟩ "7-1" (.template "pods" "7-1" "default" "")
    let answered := (start podChurn).setWorker 0 (.settling ⟨0, 0⟩ requester 12 none)
    let done := (start podChurn).setWorker 0 (.observing ⟨0, 0⟩ requester none)
    ∃ settled observed, step podChurn answered (.settle 0) = some settled ∧
      step podChurn done (.observe 0 8 1) = some observed ∧
      ((LatencyRecorded done.metric observed.metric ↔
        UpdatedAsSuccess .post "7-1" (answered.postDel 0).cache (settled.postDel 0).cache) ↔
      ¬ ∃ failure : GoError, none = some failure ∧ isHTTP2StreamNoError failure = true) := by
  intro requester answered done
  obtain ⟨settled, settles⟩ : ∃ settled, step podChurn answered (.settle 0) = some settled :=
    ⟨_, rfl⟩
  obtain ⟨observed, observes⟩ : ∃ observed, step podChurn done (.observe 0 8 1) = some observed :=
    ⟨_, rfl⟩
  have stands : answered.workers 0 = .settling ⟨0, 0⟩ requester 12 none := rfl
  have returned : done.workers 0 = .observing ⟨0, 0⟩ requester none := rfl
  exact ⟨settled, observed, settles, observes,
    postDel_decisions_agree_iff rfl stands settles returned observes⟩

/-- The server answers a POST and resets the stream with `NO_ERROR`. -/
def resetPost : List Label :=
  [.pick 0, .dispatch 0, .build 0 999 "", .create 0 7 "", .permit 0,
    .respond 0 12 (some (.leaf ⟨.http2StreamError 0, "stream error: stream ID 1; NO_ERROR"⟩))]

theorem resetPost_disagrees :
    ∃ answered settled done observed,
      (system podChurn).Run resetPost answered ∧
      step podChurn answered (.settle 0) = some settled ∧
      (system podChurn).Run (resetPost ++ [.settle 0, .countBytes 0]) done ∧
      step podChurn done (.observe 0 8 1) = some observed ∧
      ¬ (LatencyRecorded done.metric observed.metric ↔
        UpdatedAsSuccess .post "7-1" (answered.postDel 0).cache (settled.postDel 0).cache) := by
  obtain ⟨answered, first, settled, settles, before, after⟩ :
      ∃ answered ∈ (system podChurn).execute (start podChurn) resetPost,
        ∃ settled ∈ step podChurn answered (.settle 0),
          (answered.postDel 0).cache = ⟨[]⟩ ∧ (settled.postDel 0).cache = ⟨[]⟩ := by
    decide +kernel
  obtain ⟨done, second, observed, observes, counted⟩ :
      ∃ done ∈ (system podChurn).execute (start podChurn)
          (resetPost ++ [.settle 0, .countBytes 0]),
        ∃ observed ∈ step podChurn done (.observe 0 8 1),
          observed.metric.errors = done.metric.errors ∧
          observed.metric.latenciesByURLs.values.length =
            done.metric.latenciesByURLs.values.length + 1 := by
    decide +kernel
  refine ⟨answered, settled, done, observed,
    TransitionSystem.runWith_of_executeWith rfl first, settles,
    TransitionSystem.runWith_of_executeWith rfl second, observes, fun agree => ?_⟩
  have pushed := agree.mp counted
  rw [before, after] at pushed
  cases pushed

end Kperf.Request.Schedule
