import Kperf.Metrics.Utils
import Kperf.Types.MetricEncoding

/-! The summary of the runner groups: the reports of the runners that the groups
list, read from the store one after another and merged into one report. -/

set_option autoImplicit false

namespace Kperf.Runner.Summary

open Types Metrics

section Model

/-- The local variables of `buildRunnerGroupSummary`. -/
structure Tally where
  totalBytes : Int
  totalResp : Int
  latenciesByURL : StringMap (List ℚ)
  errs : List ResponseError
  errStats : StringMap Int
  maxDuration : Int
  deriving DecidableEq

def Tally.empty : Tally := ⟨0, 0, ∅, [], ∅, 0⟩

structure ReadOrders where
  latencies : RangeOrder
  errorStats : RangeOrder

def mergeErrorStat (order : RangeOrder) (stats added : StringMap Int) : StringMap Int :=
  StringMap.rangeUpdate order (fun old number => old.getD 0 + number) added stats

def reportDuration (wire : Wire) (report : RunnerMetricReport) : Int :=
  (wire.parseDuration report.duration).getD 0

/-- The two formats of a report: the combination of several specs is taken when
the text has results per spec, and one flat report otherwise. -/
def unmarshalReport (wire : Wire) (data : List UInt8) : Option RunnerMetricReport :=
  match wire.decodeMulti data with
  | some multiReport =>
      if 0 < multiReport.perSpecResults.length then some multiReport.aggregated
      else wire.decodeSingle data
  | none => wire.decodeSingle data

def Tally.add (wire : Wire) (orders : ReadOrders) (tally : Tally)
    (report : RunnerMetricReport) : Tally where
  totalBytes := tally.totalBytes + report.totalReceivedBytes
  totalResp := tally.totalResp + (StringMap.values report.latenciesByURL).length
  latenciesByURL := StringMap.merge orders.latencies report.latenciesByURL tally.latenciesByURL
  errs := tally.errs ++ report.errors
  errStats := mergeErrorStat orders.errorStats tally.errStats report.errorStats
  maxDuration := max tally.maxDuration (reportDuration wire report)

/-- One runner: a blob that cannot be read or decoded is logged and skipped. -/
def Tally.readRunner (wire : Wire) (orders : ReadOrders) (tally : Tally)
    (data : Option (List UInt8)) : Tally :=
  match data.bind (unmarshalReport wire) with
  | some report => tally.add wire orders report
  | none => tally

def Tally.report (wire : Wire) (order : RangeOrder) (tally : Tally) : RunnerMetricReport where
  total := tally.totalResp
  duration := wire.formatDuration tally.maxDuration
  errors := tally.errs
  errorStats := tally.errStats
  totalReceivedBytes := tally.totalBytes
  latenciesByURL := ∅
  percentileLatencies :=
    buildPercentileLatencies ((order.visit tally.latenciesByURL).flatMap Sigma.snd)
  percentileLatenciesByURL := StringMap.rangeUpdate order
    (fun _ latencies => buildPercentileLatencies latencies) tally.latenciesByURL ∅

def readPods (wire : Wire) (orders : Nat → ReadOrders) (readBlob : String → Option (List UInt8)) :
    Nat → List String → Tally → Tally
  | _, [], tally => tally
  | position, pod :: rest, tally =>
      readPods wire orders readBlob (position + 1) rest
        (tally.readRunner wire (orders position) (readBlob pod))

/-- The loop over the groups, each with what its `Pods` returned; a list call that
fails is logged and its group skipped. -/
def readGroups (wire : Wire) (orders : Nat → Nat → ReadOrders)
    (readBlob : String → Option (List UInt8)) :
    Nat → List (Option (List String)) → Tally → Tally
  | _, [], tally => tally
  | position, none :: rest, tally =>
      readGroups wire orders readBlob (position + 1) rest tally
  | position, some pods :: rest, tally =>
      readGroups wire orders readBlob (position + 1) rest
        (readPods wire (orders position) readBlob 0 pods tally)

def buildRunnerGroupSummary (wire : Wire) (orders : Nat → Nat → ReadOrders) (last : RangeOrder)
    (readBlob : String → Option (List UInt8)) (groups : List (Option (List String))) :
    RunnerMetricReport :=
  (readGroups wire orders readBlob 0 groups .empty).report wire last

end Model

section Properties

open scoped List

/-- A tally of the given reports. -/
structure Tally.Sums (wire : Wire) (reports : List RunnerMetricReport) (tally : Tally) :
    Prop where
  bytes : tally.totalBytes = (reports.map (·.totalReceivedBytes)).sum
  slices : ∀ url, StringMap.slice tally.latenciesByURL url =
    reports.flatMap fun report => StringMap.slice report.latenciesByURL url
  urls : ∀ url, url ∈ tally.latenciesByURL ↔ ∃ report ∈ reports, url ∈ report.latenciesByURL
  latencies : StringMap.values tally.latenciesByURL ~
    reports.flatMap fun report => StringMap.values report.latenciesByURL
  responses : tally.totalResp = (StringMap.values tally.latenciesByURL).length
  errors : tally.errs = reports.flatMap (·.errors)
  errorKeys : ∀ key, key ∈ tally.errStats ↔ ∃ report ∈ reports, key ∈ report.errorStats
  errorNumbers : ∀ key, StringMap.number tally.errStats key =
    (reports.map fun report => StringMap.number report.errorStats key).sum
  duration : tally.maxDuration = (reports.map (reportDuration wire)).foldl max 0

theorem Tally.sums_empty (wire : Wire) : Tally.Sums wire [] .empty where
  bytes := rfl
  slices := fun _ => rfl
  urls := by simp [Tally.empty]
  latencies := .refl _
  responses := rfl
  errors := rfl
  errorKeys := by simp [Tally.empty]
  errorNumbers := fun _ => rfl
  duration := rfl

theorem number_mergeErrorStat (order : RangeOrder) (stats added : StringMap Int)
    (key : String) :
    StringMap.number (mergeErrorStat order stats added) key =
      StringMap.number stats key + StringMap.number added key := by
  unfold StringMap.number mergeErrorStat
  rw [StringMap.lookup_rangeUpdate]
  cases added.lookup key with
  | none => simp
  | some number => simp

theorem Tally.Sums.add {wire : Wire} {reports : List RunnerMetricReport} {tally : Tally}
    (sums : tally.Sums wire reports) (orders : ReadOrders) (report : RunnerMetricReport) :
    (tally.add wire orders report).Sums wire (reports ++ [report]) := by
  have merged := StringMap.values_merge orders.latencies report.latenciesByURL
    tally.latenciesByURL
  exact {
    bytes := by simp [Tally.add, sums.bytes]
    slices := fun url => by simp [Tally.add, StringMap.slice_merge, sums.slices]
    urls := fun url => by
      simp [Tally.add, StringMap.merge, StringMap.mem_rangeUpdate, sums.urls, or_and_right,
        exists_or]
    latencies := by
      simp only [List.flatMap_append, List.flatMap_singleton]
      exact merged.trans (sums.latencies.append_right _)
    responses := by simp [Tally.add, merged.length_eq, sums.responses]
    errors := by simp [Tally.add, sums.errors]
    errorKeys := fun key => by
      simp [Tally.add, mergeErrorStat, StringMap.mem_rangeUpdate, sums.errorKeys, or_and_right,
        exists_or]
    errorNumbers := fun key => by
      simp [Tally.add, number_mergeErrorStat, sums.errorNumbers]
    duration := by simp [Tally.add, sums.duration] }

theorem Tally.Sums.readRunner {wire : Wire} {reports : List RunnerMetricReport} {tally : Tally}
    (sums : tally.Sums wire reports) (orders : ReadOrders) (data : Option (List UInt8)) :
    (tally.readRunner wire orders data).Sums wire
      (reports ++ (data.bind (unmarshalReport wire)).toList) := by
  unfold Tally.readRunner
  cases data.bind (unmarshalReport wire) with
  | none =>
      rw [Option.toList_none, List.append_nil]
      exact sums
  | some report => exact sums.add orders report

def podReports (wire : Wire) (readBlob : String → Option (List UInt8)) (pods : List String) :
    List RunnerMetricReport :=
  pods.flatMap fun pod => ((readBlob pod).bind (unmarshalReport wire)).toList

theorem podReports_append (wire : Wire) (readBlob : String → Option (List UInt8))
    (first second : List String) :
    podReports wire readBlob (first ++ second) =
      podReports wire readBlob first ++ podReports wire readBlob second :=
  List.flatMap_append

theorem Tally.Sums.readPods {wire : Wire} {reports : List RunnerMetricReport} {tally : Tally}
    (sums : tally.Sums wire reports) (orders : Nat → ReadOrders)
    (readBlob : String → Option (List UInt8)) (position : Nat) (pods : List String) :
    (readPods wire orders readBlob position pods tally).Sums wire
      (reports ++ podReports wire readBlob pods) := by
  induction pods generalizing reports tally position with
  | nil =>
      rw [podReports, List.flatMap_nil, List.append_nil]
      exact sums
  | cons pod rest ih =>
      have grown := ih (sums.readRunner (orders position) (readBlob pod)) (position + 1)
      rw [List.append_assoc] at grown
      exact grown

theorem Tally.Sums.readGroups {wire : Wire} {reports : List RunnerMetricReport} {tally : Tally}
    (sums : tally.Sums wire reports) (orders : Nat → Nat → ReadOrders)
    (readBlob : String → Option (List UInt8)) (position : Nat)
    (groups : List (Option (List String))) :
    (readGroups wire orders readBlob position groups tally).Sums wire
      (reports ++ podReports wire readBlob (groups.flatMap fun pods => pods.getD [])) := by
  induction groups generalizing reports tally position with
  | nil =>
      rw [List.flatMap_nil, podReports, List.flatMap_nil, List.append_nil]
      exact sums
  | cons pods rest ih =>
      cases pods with
      | none => exact ih sums (position + 1)
      | some pods =>
          have grown := ih (sums.readPods (orders position) readBlob 0 pods) (position + 1)
          rw [List.append_assoc, ← podReports_append] at grown
          exact grown

end Properties

end Kperf.Runner.Summary
