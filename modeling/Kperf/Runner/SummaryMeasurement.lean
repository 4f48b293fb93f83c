import Kperf.Metrics.Percentiles
import Kperf.Request.ScheduleMeasurement
import Kperf.Runner.SummaryAggregation

/-! From the requests to the published summary. The runners schedule the requests of
their specs, combine the results, write their reports and upload them; the server
merges what it stored. The figures at the end are about the requests at the
beginning. -/

set_option autoImplicit false

namespace Kperf.Cmd.Runner

open Types
open Request.Schedule (Result Session)

theorem executeFrom_sessions {schedule : Nat → LoadProfileSpec → Outcome Result} {position : Nat}
    {sessions : List Session} {before : List Result} {elapsed : Int}
    (scheduled : ∀ index session, sessions[index]? = some session →
      schedule (position + index) session.setting.spec = .ok session.result) :
    ∃ totalDuration, executeFrom schedule position (sessions.map (·.setting.spec)) before elapsed =
      .ok (before ++ sessions.map (·.result), totalDuration) := by
  induction sessions generalizing position before elapsed with
  | nil => exact ⟨elapsed, by rw [List.map_nil, List.map_nil, List.append_nil, executeFrom]⟩
  | cons session rest ih =>
      have first : schedule position session.setting.spec = .ok session.result :=
        scheduled 0 session rfl
      have later : ∀ index other, rest[index]? = some other →
          schedule (position + 1 + index) other.setting.spec = .ok other.result := by
        intro index other found
        have call := scheduled (index + 1) other found
        rwa [← Nat.add_assoc, Nat.add_right_comm] at call
      obtain ⟨totalDuration, executed⟩ := ih later
      refine ⟨totalDuration, ?_⟩
      rw [List.map_cons, List.map_cons, executeFrom, first, List.append_cons]
      exact executed

end Kperf.Cmd.Runner

namespace Kperf.Runner.Summary

open Types Metrics Cmd.Runner
open Request.Schedule (Result Session Label Main system start twoReads twoReadsTrace)
open scoped List

/-- A runner whose calls of `Schedule`, one for each spec, are runs of it. -/
structure Measurement where
  publisher : Publisher
  sessions : List Session
  specs : publisher.specs = sessions.map (·.setting.spec)
  scheduled : ∀ position session, sessions[position]? = some session →
    publisher.schedule position session.setting.spec = .ok session.result

theorem Measurement.results (measurement : Measurement) :
    measurement.publisher.results = measurement.sessions.map (·.result) := by
  have executed := measurement.publisher.executed
  have scheduled : ∀ position session, measurement.sessions[position]? = some session →
      measurement.publisher.schedule (0 + position) session.setting.spec = .ok session.result := by
    intro position session found
    rw [Nat.zero_add]
    exact measurement.scheduled position session found
  have ran : ∃ totalDuration, executeFrom measurement.publisher.schedule 0
      (measurement.sessions.map (·.setting.spec)) [] 0 =
        .ok ([] ++ measurement.sessions.map (·.result), totalDuration) :=
    executeFrom_sessions scheduled
  rw [← measurement.specs] at ran
  obtain ⟨totalDuration, ran⟩ := ran
  unfold executeSpecs at executed
  split at executed
  · cases executed
  · rw [ran] at executed
    exact (Prod.mk.inj (Except.ok.inj executed)).1.symm

section Figures

variable (sessions : List Session)

/-- The latencies of all requests that succeeded. -/
def latencies : List ℚ :=
  sessions.flatMap fun session => session.requests.filterMap Observation.latency?

def latenciesUnder (key : String) : List ℚ :=
  sessions.flatMap fun session => session.requests.filterMap (Observation.latencyUnder key)

def failures : List ResponseError := sessions.flatMap (·.failures)

/-- The answers that the workers of all sessions got. -/
def answers : Nat := (sessions.map fun session => session.trace.countP Label.answers).sum

end Figures

/-- The figures of a summary are those of the requests made in some sessions. -/
structure Measures (sessions : List Session) (summary : RunnerMetricReport) : Prop where
  total : summary.total = (latencies sessions).length
  answered : (latencies sessions).length + (failures sessions).length = answers sessions
  keys : ∀ key, key ∈ summary.percentileLatenciesByURL ↔ latenciesUnder sessions key ≠ []
  ranksByURL : ∀ key reported, summary.percentileLatenciesByURL.lookup key = some reported →
    reported.map Prod.fst = percentiles ∧ ∀ percentile value, (percentile, value) ∈ reported →
      NearestRank (latenciesUnder sessions key) percentile value
  ranks : (latencies sessions ≠ [] → summary.percentileLatencies.map Prod.fst = percentiles) ∧
    ∀ percentile value, (percentile, value) ∈ summary.percentileLatencies →
      NearestRank (latencies sessions) percentile value
  errors : summary.errors ~ failures sessions
  errorKeys : ∀ key, key ∈ summary.errorStats ↔ ∃ error ∈ failures sessions, errorKey error = key
  errorNumbers : ∀ key, StringMap.number summary.errorStats key = errorCount key (failures sessions)
  bytes : summary.totalReceivedBytes =
    (sessions.map fun session => session.received.bmod (2 ^ 64)).sum

section Figures

variable {sessions : List Session}

theorem perm_latencies (sessions : List Session) :
    ((sessions.map (·.result)).flatMap fun result => StringMap.values result.stats.latenciesByURL) ~
      latencies sessions := by
  rw [List.flatMap_map]
  exact List.Perm.flatMap_left _ fun session _ => session.measured.latencies

theorem slice_latencies (sessions : List Session) (key : String) :
    ((sessions.map (·.result)).flatMap fun result =>
      StringMap.slice result.stats.latenciesByURL key) = latenciesUnder sessions key := by
  rw [List.flatMap_map, latenciesUnder]
  simp only [fun session : Session => session.measured.slices key]

theorem mem_results (sessions : List Session) (key : String) :
    (∃ result ∈ sessions.map (·.result), key ∈ result.stats.latenciesByURL) ↔
      latenciesUnder sessions key ≠ [] := by
  simp only [List.mem_map, exists_exists_and_eq_and,
    fun session : Session => session.measured.keys key]
  rw [latenciesUnder, Ne, List.flatMap_eq_nil_iff]
  simp only [not_forall, exists_prop]

theorem flatMap_errors (sessions : List Session) :
    ((sessions.map (·.result)).flatMap (·.stats.errors)) = failures sessions := by
  rw [List.flatMap_map, failures]
  simp only [fun session : Session => session.measured.errors]

/-- Every answer is a latency or an error, and none is both. -/
theorem length_requests (library : ErrorLibrary) (requests : List Observation) :
    (requests.filterMap Observation.latency?).length +
      (requests.filterMap (Observation.error? library)).length = requests.length := by
  rw [← (values_replay library requests).length_eq, ← errors_replay, replay_count]

theorem length_latencies (sessions : List Session) :
    (latencies sessions).length + (failures sessions).length = answers sessions := by
  rw [latencies, failures, List.length_flatMap, List.length_flatMap, ← List.sum_map_add, answers]
  refine congrArg List.sum (List.map_congr_left fun session _ => ?_)
  rw [← session.measured.answered]
  exact length_requests session.setting.library session.requests

theorem map_fst_percentiles {seconds : List ℚ} (present : seconds ≠ []) :
    (buildPercentileLatencies seconds).map Prod.fst = percentiles := by
  simp [buildPercentileLatencies, present, Function.comp_def]

end Figures

theorem results_eq (measurements : List Measurement) :
    (measurements.map (·.publisher)).flatMap (·.results) =
      (measurements.flatMap (·.sessions)).map (·.result) := by
  rw [List.flatMap_map, List.map_flatMap]
  simp only [Measurement.results]

theorem Tally.Sums.measures {wire : Wire} {measurements : List Measurement} {tally : Tally}
    (sums : tally.Sums wire ((measurements.map (·.publisher)).map (·.report wire)))
    (faithful : ∀ publisher ∈ measurements.map (·.publisher), publisher.Faithful wire)
    (last : RangeOrder) :
    Measures (measurements.flatMap (·.sessions)) (tally.report wire last) := by
  have direct := sums.direct faithful last
  have gathered := sums.values_perm
  have byURL := direct.percentilesByURL
  have together := direct.percentiles
  have errors := direct.errors
  have errorStats := direct.errorStats
  have bytes := direct.bytes
  rw [results_eq] at gathered together errors bytes
  simp only [results_eq] at byURL errorStats
  generalize measurements.flatMap (·.sessions) = sessions at *
  simp only [mem_results, slice_latencies] at byURL
  rw [flatMap_errors] at errors
  simp only [flatMap_errors] at errorStats
  rw [buildPercentileLatencies_eq_of_perm (perm_latencies sessions)] at together
  refine ⟨?_, length_latencies sessions, fun key => ?_, fun key reported found => ?_,
    ⟨fun some => ?_, fun percentile value listed => ?_⟩, errors, fun key => ?_, fun key => ?_, ?_⟩
  · exact sums.responses.trans
      (congrArg Nat.cast (gathered.trans (perm_latencies sessions)).length_eq)
  · rw [← AList.lookup_isSome, byURL]
    split <;> simp_all
  · rw [byURL] at found
    split at found
    · rename_i some
      cases found
      exact ⟨map_fst_percentiles some, fun _ _ => nearestRank_of_reported⟩
    · cases found
  · rw [together]
    exact map_fst_percentiles some
  · rw [together] at listed
    exact nearestRank_of_reported listed
  · rw [← AList.lookup_isSome, errorStats, AList.lookup_isSome, mem_buildErrorStats]
  · rw [StringMap.number, errorStats]
    exact number_buildErrorStats (failures sessions) key
  · rw [bytes, List.map_map]
    exact congrArg List.sum (List.map_congr_left fun session _ => session.measured.bytes)

namespace Sample

/-- A runner with one spec. -/
def alone (session : Session) : Publisher where
  pod := "runner"
  specs := [session.setting.spec]
  schedule := fun _ _ => .ok session.result
  aggregateOrders := fun _ => .stored
  perSpecOrders := fun _ => ⟨.stored, .stored⟩
  combinedOrders := ⟨.stored, .stored⟩
  results := [session.result]
  aggregated := { aggregateResults (fun _ => .stored) [session.result] with
    duration := 0 + session.result.duration }
  executed := rfl

def measured (session : Session) : Measurement where
  publisher := alone session
  sessions := [session]
  specs := rfl
  scheduled := by
    intro position other found
    cases List.mem_singleton.mp (List.mem_of_getElem? found)
    rfl

/-- Conversions that know one publisher. -/
def wireOf (publisher : Publisher) : Wire :=
  { texts with
    parseDuration := fun text =>
      if text = texts.formatDuration publisher.elapsed then some publisher.elapsed else none
    decodeMulti := fun data =>
      if data = publisher.body texts then some (publisher.multiReport texts) else none }

theorem faithful_wireOf (publisher : Publisher) : publisher.Faithful (wireOf publisher) where
  decoded := if_pos rfl
  parsed := if_pos rfl

end Sample

end Kperf.Runner.Summary
