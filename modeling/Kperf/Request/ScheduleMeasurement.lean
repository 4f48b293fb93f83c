import Kperf.Library.Crew
import Kperf.Request.ScheduleAccounting

/-! What a call of `Schedule` returns, read as figures about the requests that it
made: every answer that a worker got stands in the result once, under the key of
its request, and its bytes are counted. -/

set_option autoImplicit false

namespace Kperf.Metrics

open Types
open scoped List

namespace Observation

def key : Observation → String
  | .latency method url _ => method ++ " " ++ url
  | .failure method url _ _ _ => method ++ " " ++ url

/-- The latency of a request that succeeded. -/
def latency? : Observation → Option ℚ
  | .latency _ _ seconds => some seconds
  | .failure _ _ _ _ _ => none

def latencyUnder (key : String) (observed : Observation) : Option ℚ :=
  if observed.key = key then observed.latency? else none

/-- The error that is kept of a request that failed. -/
def error? (library : ErrorLibrary) : Observation → Option ResponseError
  | .latency _ _ _ => none
  | .failure method url now seconds err =>
      let (type, code, message) := ResponseMetric.classify library err
      some ⟨method, url, now, seconds, type, code, message⟩

end Observation

variable (library : ErrorLibrary) (observed : List Observation)

theorem slice_replay (key : String) :
    StringMap.slice (replay library observed).latenciesByURLs key =
      observed.filterMap (Observation.latencyUnder key) := by
  induction observed using List.reverseRecOn with
  | nil => rfl
  | append_singleton observed last ih =>
      rw [replay_append, List.filterMap_append, ← ih]
      cases last with
      | failure method url now seconds err =>
          simp [ResponseMetric.observe, ResponseMetric.observeFailure, Observation.latencyUnder,
            Observation.latency?]
      | latency method url seconds =>
          simp only [ResponseMetric.observe, ResponseMetric.observeLatency, StringMap.push]
          by_cases same : method ++ " " ++ url = key
          · subst key
            simp [StringMap.slice, Observation.latencyUnder, Observation.key, Observation.latency?]
          · simp [StringMap.slice, AList.lookup_insert_ne (Ne.symm same), Observation.latencyUnder,
              Observation.key, same]

theorem mem_replay (key : String) :
    key ∈ (replay library observed).latenciesByURLs ↔
      observed.filterMap (Observation.latencyUnder key) ≠ [] := by
  induction observed using List.reverseRecOn with
  | nil => simp [replay, newResponseMetric]
  | append_singleton observed last ih =>
      rw [replay_append, List.filterMap_append, Ne, List.append_eq_nil_iff, not_and_or, ← Ne, ← ih]
      cases last with
      | failure method url now seconds err =>
          simp [ResponseMetric.observe, ResponseMetric.observeFailure, Observation.latencyUnder,
            Observation.latency?]
      | latency method url seconds =>
          simp only [ResponseMetric.observe, ResponseMetric.observeLatency, StringMap.push,
            AList.mem_insert]
          by_cases same : method ++ " " ++ url = key
          · simp [same, Observation.latencyUnder, Observation.key, Observation.latency?]
          · simp [same, Ne.symm same, Observation.latencyUnder, Observation.key]

theorem values_replay :
    StringMap.values (replay library observed).latenciesByURLs ~
      observed.filterMap Observation.latency? := by
  induction observed using List.reverseRecOn with
  | nil => exact .refl _
  | append_singleton observed last ih =>
      rw [replay_append, List.filterMap_append]
      cases last with
      | failure method url now seconds err =>
          rw [List.filterMap_cons_none rfl, List.filterMap_nil, List.append_nil]
          exact ih
      | latency method url seconds =>
          have pushed := StringMap.values_push (replay library observed).latenciesByURLs
            (method ++ " " ++ url) [seconds]
          exact (pushed.trans List.perm_append_comm).trans (ih.append_right _)

theorem errors_replay :
    (replay library observed).errors = observed.filterMap (Observation.error? library) := by
  induction observed using List.reverseRecOn with
  | nil => rfl
  | append_singleton observed last ih =>
      rw [replay_append, List.filterMap_append, ← ih]
      cases last with
      | latency method url seconds =>
          simp [ResponseMetric.observe, ResponseMetric.observeLatency, Observation.error?]
      | failure method url now seconds err =>
          simp [ResponseMetric.observe, ResponseMetric.observeFailure, Observation.error?]

end Kperf.Metrics

namespace Kperf.Request.Schedule

open Types Metrics
open scoped List

/-- Whether the step is an answer to a request. -/
def Label.answers : Label → Bool
  | .respond _ _ _ => true
  | _ => false

/-- The bytes that come with the step. -/
def Label.received : Label → Int
  | .respond _ bytes _ => bytes
  | _ => 0

/-- Answers a worker has got and not recorded. -/
def Worker.unrecorded : Worker → Nat
  | .settling _ _ _ _ | .counting _ _ _ _ | .observing _ _ _ => 1
  | _ => 0

/-- Bytes a worker has got and not counted. -/
def Worker.uncounted : Worker → Int
  | .settling _ _ bytes _ | .counting _ _ bytes _ => bytes
  | _ => 0

/-- The counter of the metrics holds a number of bytes, as far as 64 bits hold it. -/
def Counts (state : State) (bytes : Int) : Prop :=
  state.metric.receivedBytes = bytes.bmod (2 ^ 64)

theorem Counts.add {state next : State} {bytes added : Int} (counts : Counts state bytes)
    (metric : next.metric = state.metric.observeReceivedBytes added) :
    Counts next (bytes + added) := by
  have before : state.metric.receivedBytes = bytes.bmod (2 ^ 64) := counts
  rw [Counts, metric, ResponseMetric.observeReceivedBytes, addInt64, before, Int.bmod_add_bmod]

/-- What a step of a worker does to the answers and bytes that it has got. -/
structure Books (state : State) (worker : Worker) (label : Label) (updated : Worker)
    (next : State) : Prop where
  answers : next.recorded.length + updated.unrecorded =
    state.recorded.length + worker.unrecorded + [label].countP Label.answers
  bytes : ∃ counted, (∀ {bytes}, Counts state bytes → Counts next (bytes + counted)) ∧
    counted + updated.uncounted = worker.uncounted + label.received

/-- A step that neither records nor counts anything. -/
theorem Books.idle {state next : State} {worker updated : Worker} {label : Label}
    (recorded : next.recorded = state.recorded)
    (metric : next.metric.receivedBytes = state.metric.receivedBytes)
    (answers : updated.unrecorded = worker.unrecorded + [label].countP Label.answers)
    (bytes : updated.uncounted = worker.uncounted + label.received) :
    Books state worker label updated next where
  answers := by
    rw [recorded, answers]
    omega
  bytes := by
    refine ⟨0, fun {bytes} counts => ?_, by rw [zero_add, bytes]⟩
    rw [add_zero, Counts, metric]
    exact counts

theorem receivedBytes_observe (library : ErrorLibrary) (metric : ResponseMetric)
    (observed : Observation) :
    (metric.observe library observed).receivedBytes = metric.receivedBytes := by
  cases observed with
  | latency method url seconds => rfl
  | failure method url now seconds err => rfl

theorem WorkerMove.books {setting : Setting} {state next : State} {id : WorkerId}
    {worker updated : Worker} {label : Label}
    (move : WorkerMove setting state id worker label next)
    (found : state.workers id = worker) (own : next.workers id = updated) :
    Books state worker label updated next := by
  cases move with
  | settle =>
      rename_i ticket requester bytes err
      obtain ⟨postDel, events, settled⟩ := settle_frame state ticket requester err
      rw [settled] at own ⊢
      cases (Function.update_self ..).symm.trans own
      exact .idle rfl rfl rfl (add_zero bytes).symm
  | countBytes =>
      rename_i ticket requester bytes err
      cases (Function.update_self ..).symm.trans own
      exact ⟨rfl, bytes, fun counts => counts.add rfl, rfl⟩
  | observe =>
      cases (Function.update_self ..).symm.trans own
      refine ⟨by simp [State.setWorker, Worker.unrecorded, Label.answers], 0, fun counts => ?_, rfl⟩
      rw [add_zero, Counts]
      exact (receivedBytes_observe ..).trans counts
  | respond =>
      cases (Function.update_self ..).symm.trans own
      exact .idle rfl rfl rfl (zero_add _).symm
  | buildPanics | createPanics =>
      cases found.symm.trans own
      exact .idle rfl rfl rfl rfl
  | _ =>
      cases (Function.update_self ..).symm.trans own
      exact .idle rfl rfl rfl rfl

/-- Every answer so far is recorded or with a worker, and so are its bytes. -/
structure Conserved (setting : Setting) (trace : List Label) (state : State) : Prop where
  answers : trace.countP Label.answers = state.recorded.length +
    crewWork Worker.unrecorded (Finset.range setting.clients) state.workers
  bytes : ∃ counted, Counts state counted ∧ (trace.map Label.received).sum = counted +
    crewWork Worker.uncounted (Finset.range setting.clients) state.workers

/-- A step that leaves the workers' books alone. -/
theorem Conserved.keep_idle {setting : Setting} {trace : List Label} {state next : State}
    {label : Label} (conserved : Conserved setting trace state)
    (silent : label.answers = false) (empty : label.received = 0)
    (recorded : next.recorded = state.recorded) (metric : next.metric = state.metric)
    (unrecorded : crewWork Worker.unrecorded (Finset.range setting.clients) next.workers =
      crewWork Worker.unrecorded (Finset.range setting.clients) state.workers)
    (uncounted : crewWork Worker.uncounted (Finset.range setting.clients) next.workers =
      crewWork Worker.uncounted (Finset.range setting.clients) state.workers) :
    Conserved setting (trace ++ [label]) next := by
  obtain ⟨counted, counts, sum⟩ := conserved.bytes
  refine ⟨?_, counted, ?_, ?_⟩
  · rw [List.countP_append, conserved.answers, recorded, unrecorded]
    simp [silent]
  · rw [Counts, metric]
    exact counts
  · rw [List.map_append, List.sum_append, sum, uncounted]
    simp [empty]

theorem Conserved.keep_worker {setting : Setting} {trace : List Label} {state next : State}
    {id : WorkerId} {label : Label} (conserved : Conserved setting trace state)
    (accounted : Accounted setting state)
    (move : WorkerMove setting state id (state.workers id) label next) :
    Conserved setting (trace ++ [label]) next := by
  obtain ⟨updated, frame, -⟩ := move.frame rfl
  have books := move.books rfl (by rw [frame.workers, Function.update_self] : next.workers id = updated)
  have member : id ∈ Finset.range setting.clients := by
    by_contra beyond
    exact move.not_exited (accounted.absent (by simpa using beyond))
  have unrecorded := crewWork_update Worker.unrecorded state.workers updated member
  have uncounted := crewWork_update Worker.uncounted state.workers updated member
  rw [← frame.workers] at unrecorded uncounted
  obtain ⟨counted, counts, sum⟩ := conserved.bytes
  obtain ⟨added, counting, balance⟩ := books.bytes
  refine ⟨?_, counted + added, counting counts, ?_⟩
  · have answers := books.answers
    rw [List.countP_append, conserved.answers]
    omega
  · rw [List.map_append, List.sum_append, sum, List.map_singleton, List.sum_singleton]
    omega

theorem Conserved.keep_main {setting : Setting} {trace : List Label} {state next : State}
    {label : Label} (conserved : Conserved setting trace state) (accounted : Accounted setting state)
    (move : MainMove setting state state.main label next) :
    Conserved setting (trace ++ [label]) next := by
  generalize state.main = main at move
  cases move with
  | dispatch receives =>
      rename_i sum builder worker
      have member : worker ∈ Finset.range setting.clients := by
        by_contra beyond
        cases receives.symm.trans (accounted.absent (by simpa using beyond))
      have unrecorded := crewWork_update Worker.unrecorded state.workers
        (.building ⟨state.dispatched, builder⟩) member
      have uncounted := crewWork_update Worker.uncounted state.workers
        (.building ⟨state.dispatched, builder⟩) member
      rw [receives] at unrecorded uncounted
      refine conserved.keep_idle rfl rfl rfl rfl unrecorded ?_
      simpa [Worker.uncounted] using uncounted
  | _ => exact conserved.keep_idle rfl rfl rfl rfl rfl rfl

theorem conserved_of_run {setting : Setting} {trace : List Label} {state : State}
    (run : (system setting).Run trace state) : Conserved setting trace state := by
  induction run with
  | start initial =>
      cases initial
      have unrecorded : ∀ id, ((start setting).workers id).unrecorded = 0 := by
        intro id
        dsimp only [start]
        split <;> rfl
      have uncounted : ∀ id, ((start setting).workers id).uncounted = 0 := by
        intro id
        dsimp only [start]
        split <;> rfl
      refine ⟨?_, 0, rfl, ?_⟩
      · rw [crewWork_eq_zero unrecorded]
        rfl
      · rw [crewWork_eq_zero uncounted]
        rfl
  | step earlier _ stepped ih =>
      have accounted := accounted_of_run earlier
      cases step_transition stepped with
      | worker move => exact ih.keep_worker accounted move
      | main move => exact ih.keep_main accounted move
      | callerDone | timeout => exact ih.keep_idle rfl rfl rfl rfl rfl rfl

/-- A call of `Schedule` that returned, with the run that it took. -/
structure Session where
  setting : Setting
  trace : List Label
  state : State
  result : Result
  run : (system setting).Run trace state
  final : state.main = .returned result

namespace Session

variable (session : Session)

/-- The requests that were answered, in the order in which they were recorded. -/
def requests : List Observation := session.state.recorded.map Prod.snd

/-- The bytes of all answers. -/
def received : Int := (session.trace.map Label.received).sum

/-- The errors kept of the requests that failed. -/
def failures : List ResponseError :=
  session.requests.filterMap (Observation.error? session.setting.library)

/-- The result of a session is made of its requests. -/
structure Measured : Prop where
  slices : ∀ key, StringMap.slice session.result.stats.latenciesByURL key =
    session.requests.filterMap (Observation.latencyUnder key)
  keys : ∀ key, key ∈ session.result.stats.latenciesByURL ↔
    session.requests.filterMap (Observation.latencyUnder key) ≠ []
  latencies : StringMap.values session.result.stats.latenciesByURL ~
    session.requests.filterMap Observation.latency?
  errors : session.result.stats.errors = session.failures
  bytes : session.result.stats.totalReceivedBytes = session.received.bmod (2 ^ 64)
  answered : session.requests.length = session.trace.countP Label.answers

theorem measured : session.Measured := by
  have accounted := accounted_of_run session.run
  have conserved := conserved_of_run session.run
  obtain ⟨exited, stats, -⟩ := (paced_of_run session.run).returned session.final
  have same : ∀ key, session.result.stats.latenciesByURL.lookup key =
      (replay session.setting.library session.requests).latenciesByURLs.lookup key := by
    intro key
    rw [stats, requests, ← accounted.metric.latencies]
    exact List.perm_dlookup key (AList.nodupKeys _) (StringMap.copy_perm _ _)
  refine ⟨fun key => ?_, fun key => ?_, ?_, ?_, ?_, ?_⟩
  · rw [StringMap.slice, same]
    exact slice_replay session.setting.library session.requests key
  · rw [← AList.lookup_isSome, same, AList.lookup_isSome]
    exact mem_replay session.setting.library session.requests key
  · have gathered := gather_latencies session.setting.order session.state.metric
    rw [accounted.metric.latencies] at gathered
    rw [stats]
    exact gathered.trans (values_replay session.setting.library session.requests)
  · rw [stats]
    exact accounted.metric.errors.trans (errors_replay ..)
  · obtain ⟨counted, counts, sum⟩ := conserved.bytes
    have none : ∀ id, (session.state.workers id).uncounted = 0 := fun id => by rw [exited]; rfl
    rw [crewWork_eq_zero none, add_zero] at sum
    rw [stats, received, sum]
    exact counts
  · have answers := conserved.answers
    have none : ∀ id, (session.state.workers id).unrecorded = 0 := fun id => by rw [exited]; rfl
    rw [crewWork_eq_zero none, add_zero] at answers
    rw [requests, List.length_map, answers]

end Session

end Kperf.Request.Schedule
