import Kperf.Metrics.Utils
import Kperf.Request.Schedule
import Kperf.Types.MetricEncoding

/-! The `runner` command: it runs its specs one after another, combines their
results and prints one report per spec next to the report of the combination. -/

set_option autoImplicit false

namespace Kperf.Cmd.Runner

open Types Metrics
open Request.Schedule (Result)

section Model

def aggregateResult (order : RangeOrder) (aggregated result : Result) : Result where
  stats := {
    errors := aggregated.stats.errors ++ result.stats.errors
    latenciesByURL :=
      StringMap.merge order result.stats.latenciesByURL aggregated.stats.latenciesByURL
    totalReceivedBytes := aggregated.stats.totalReceivedBytes + result.stats.totalReceivedBytes }
  duration := aggregated.duration
  total := aggregated.total + result.total

def aggregateFrom (orders : Nat → RangeOrder) : Nat → List Result → Result → Result
  | _, [], aggregated => aggregated
  | position, result :: rest, aggregated =>
      aggregateFrom orders (position + 1) rest
        (aggregateResult (orders position) aggregated result)

def aggregateResults (orders : Nat → RangeOrder) (results : List Result) : Result :=
  aggregateFrom orders 0 results ⟨⟨[], ∅, 0⟩, 0, 0⟩

/-- The loop of `executeSpecs`; `schedule` is the call of `Schedule` for the spec
at a position. -/
def executeFrom (schedule : Nat → LoadProfileSpec → Outcome Result) :
    Nat → List LoadProfileSpec → List Result → Int → Outcome (List Result × Int)
  | _, [], results, totalDuration => .ok (results, totalDuration)
  | position, spec :: rest, results, totalDuration => do
      let result ← (schedule position spec).wrap
        ("failed to execute spec " ++ toString (position + 1) ++ ": ")
      executeFrom schedule (position + 1) rest (results ++ [result])
        (totalDuration + result.duration)

def executeSpecs (orders : Nat → RangeOrder)
    (schedule : Nat → LoadProfileSpec → Outcome Result) (specs : List LoadProfileSpec) :
    Outcome (List Result × Result) :=
  if specs.isEmpty then .fail "no specs to execute"
  else do
    let (results, totalDuration) ← executeFrom schedule 0 specs [] 0
    return (results, { aggregateResults orders results with duration := totalDuration })

structure ReportOrders where
  concatenate : RangeOrder
  percentiles : RangeOrder

/-- The slices of `LatenciesByURL` are sorted in place while the percentiles are
built, so the raw data shows them sorted. -/
def buildRunnerMetricReport (wire : Wire) (orders : ReportOrders) (stats : Result)
    (includeRawData : Bool) : RunnerMetricReport where
  total := stats.total
  duration := wire.formatDuration stats.duration
  errors := if includeRawData then stats.stats.errors else []
  errorStats := buildErrorStatsGroupByType stats.stats.errors
  totalReceivedBytes := stats.stats.totalReceivedBytes
  latenciesByURL :=
    if includeRawData then StringMap.mapValues sortLatencies stats.stats.latenciesByURL else ∅
  percentileLatencies := buildPercentileLatencies
    ((orders.concatenate.visit stats.stats.latenciesByURL).flatMap Sigma.snd)
  percentileLatenciesByURL := StringMap.rangeUpdate orders.percentiles
    (fun _ latencies => buildPercentileLatencies latencies) stats.stats.latenciesByURL ∅

/-- What `printMultiSpecResults` hands to the JSON encoder. -/
def multiSpecReport (wire : Wire) (perSpec : Nat → ReportOrders) (combined : ReportOrders)
    (rawDataFlagIncluded : Bool) (perSpecResults : List Result) (aggregated : Result) :
    MultiSpecRunnerMetricReport where
  perSpecResults := perSpecResults.mapIdx fun position result =>
    buildRunnerMetricReport wire (perSpec position) result rawDataFlagIncluded
  aggregated := buildRunnerMetricReport wire combined aggregated rawDataFlagIncluded

end Model

section Properties

open scoped List

/-- A result that combines others, its duration apart. -/
structure Combines (results : List Result) (aggregated : Result) : Prop where
  errors : aggregated.stats.errors = results.flatMap (·.stats.errors)
  slices : ∀ url, StringMap.slice aggregated.stats.latenciesByURL url =
    results.flatMap fun result => StringMap.slice result.stats.latenciesByURL url
  urls : ∀ url, url ∈ aggregated.stats.latenciesByURL ↔
    ∃ result ∈ results, url ∈ result.stats.latenciesByURL
  latencies : StringMap.values aggregated.stats.latenciesByURL ~
    results.flatMap fun result => StringMap.values result.stats.latenciesByURL
  bytes : aggregated.stats.totalReceivedBytes =
    (results.map (·.stats.totalReceivedBytes)).sum
  total : aggregated.total = (results.map (·.total)).sum

theorem combines_nil : Combines [] ⟨⟨[], ∅, 0⟩, 0, 0⟩ where
  errors := rfl
  slices := fun _ => rfl
  urls := by simp
  latencies := .refl _
  bytes := rfl
  total := rfl

theorem Combines.aggregate {results : List Result} {aggregated : Result}
    (combines : Combines results aggregated) (order : RangeOrder) (result : Result) :
    Combines (results ++ [result]) (aggregateResult order aggregated result) where
  errors := by simp [aggregateResult, combines.errors]
  slices := by
    intro url
    simp [aggregateResult, StringMap.slice_merge, combines.slices]
  urls := by
    intro url
    simp [aggregateResult, StringMap.merge, StringMap.mem_rangeUpdate, combines.urls, or_and_right,
      exists_or]
  latencies := by
    simp only [aggregateResult, List.flatMap_append, List.flatMap_singleton]
    exact (StringMap.values_merge ..).trans (combines.latencies.append_right _)
  bytes := by simp [aggregateResult, combines.bytes]
  total := by simp [aggregateResult, combines.total]

theorem Combines.aggregateFrom {before after : List Result} {aggregated : Result}
    (combines : Combines before aggregated) (orders : Nat → RangeOrder) (position : Nat) :
    Combines (before ++ after) (aggregateFrom orders position after aggregated) := by
  induction after generalizing before aggregated position with
  | nil =>
      rw [List.append_nil]
      exact combines
  | cons result rest ih =>
      have grown := ih (combines.aggregate (orders position) result) (position + 1)
      rw [List.append_assoc] at grown
      exact grown

theorem combines_aggregateResults (orders : Nat → RangeOrder) (results : List Result) :
    Combines results (aggregateResults orders results) :=
  combines_nil.aggregateFrom orders 0

theorem executeFrom_ok {schedule : Nat → LoadProfileSpec → Outcome Result}
    {specs : List LoadProfileSpec} {position : Nat} {before results : List Result}
    {elapsed totalDuration : Int}
    (executed : executeFrom schedule position specs before elapsed =
      .ok (results, totalDuration)) :
    ∃ added : List Result, added.length = specs.length ∧ results = before ++ added ∧
      totalDuration = elapsed + (added.map (·.duration)).sum := by
  induction specs generalizing position before elapsed with
  | nil =>
      cases executed
      exact ⟨[], rfl, by simp, by simp⟩
  | cons spec rest ih =>
      rw [executeFrom] at executed
      cases scheduled : (schedule position spec).wrap
          ("failed to execute spec " ++ toString (position + 1) ++ ": ") with
      | error fault =>
          rw [scheduled] at executed
          cases executed
      | ok result =>
          rw [scheduled] at executed
          obtain ⟨added, length, appended, summed⟩ := ih executed
          refine ⟨result :: added, by simp [length], by simp [appended], ?_⟩
          rw [summed, List.map_cons, List.sum_cons]
          omega

theorem executeSpecs_ok {orders : Nat → RangeOrder}
    {schedule : Nat → LoadProfileSpec → Outcome Result} {specs : List LoadProfileSpec}
    {results : List Result} {aggregated : Result}
    (executed : executeSpecs orders schedule specs = .ok (results, aggregated)) :
    results ≠ [] ∧ Combines results aggregated ∧
      aggregated.duration = (results.map (·.duration)).sum := by
  unfold executeSpecs at executed
  split at executed
  · cases executed
  · rename_i some
    cases ran : executeFrom schedule 0 specs [] 0 with
    | error fault =>
        rw [ran] at executed
        cases executed
    | ok returned =>
        obtain ⟨collected, totalDuration⟩ := returned
        rw [ran] at executed
        cases executed
        obtain ⟨added, length, appended, summed⟩ := executeFrom_ok ran
        rw [List.nil_append] at appended
        subst added
        have combines := combines_aggregateResults orders results
        refine ⟨?_, ⟨combines.errors, combines.slices, combines.urls, combines.latencies,
          combines.bytes, combines.total⟩, ?_⟩
        · intro none
          rw [none] at length
          exact some (List.isEmpty_iff_length_eq_zero.mpr length.symm)
        · simpa using summed

end Properties

end Kperf.Cmd.Runner
