import Kperf.Cmd.RunnerTotal
import Kperf.Runner.SummaryAggregation

/-! The total of the group summary. A runner reports the requests it was asked
for, the server counts the latencies it was sent, so failed requests are counted
at one level only. -/

set_option autoImplicit false

namespace Kperf.Runner.Summary

open Types Metrics Cmd.Runner

/-- The requests of a report that its latencies do not account for. -/
def unanswered (report : RunnerMetricReport) : Int :=
  report.total - (StringMap.values report.latenciesByURL).length

theorem Tally.Sums.total {wire : Wire} {reports : List RunnerMetricReport} {tally : Tally}
    (sums : tally.Sums wire reports) :
    tally.totalResp + (reports.map unanswered).sum = (reports.map (·.total)).sum := by
  rw [sums.responses, sums.latencies.length_eq, List.length_flatMap, Nat.cast_list_sum,
    List.map_map, ← List.sum_map_add]
  refine congrArg List.sum (List.map_congr_left fun report _ => ?_)
  simp [unanswered]

/-- In reports whose totals count latencies and errors, errors are what is left. -/
theorem sum_unanswered_eq_zero_iff {reports : List RunnerMetricReport}
    (counted : ∀ report ∈ reports, report.total = reportObserved report) :
    (reports.map unanswered).sum = 0 ↔ ∀ report ∈ reports, report.errors = [] := by
  have errors : reports.map unanswered =
      (reports.map (·.errors.length)).map (fun number : Nat => (number : Int)) := by
    rw [List.map_map]
    refine List.map_congr_left fun report member => ?_
    simp [unanswered, counted report member, reportObserved]
  rw [errors, ← Nat.cast_list_sum, Int.natCast_eq_zero, List.sum_eq_zero_iff_forall_eq_nat]
  simp

/-- The total of a summary is the sum of the merged totals exactly if the merged
reports have, in sum, no request without a latency. -/
theorem group_total_iff (wire : Wire) (orders : Nat → Nat → ReadOrders) (last : RangeOrder)
    (readBlob : String → Option (List UInt8)) (groups : List (Option (List String))) :
    let merged := podReports wire readBlob (groups.flatMap fun pods => pods.getD [])
    let adds := (buildRunnerGroupSummary wire orders last readBlob groups).total =
      (merged.map (·.total)).sum
    (adds ↔ (merged.map unanswered).sum = 0) ∧
      ((∀ report ∈ merged, report.total = reportObserved report) →
        (adds ↔ ∀ report ∈ merged, report.errors = [])) := by
  intro merged adds
  have sums := (Tally.sums_empty wire).readGroups orders readBlob 0 groups
  have general : adds ↔ (merged.map unanswered).sum = 0 := by
    have total := sums.total
    rw [List.nil_append] at total
    dsimp only [adds, merged, buildRunnerGroupSummary, Tally.report]
    omega
  refine ⟨general, fun counted => ?_⟩
  rw [general]
  exact sum_unanswered_eq_zero_iff counted

namespace Sample

/-- The server reads the report of the second runner: three requests, of which
one failed. -/
def loadSummary : RunnerMetricReport :=
  buildRunnerGroupSummary wire (fun _ _ => ⟨.stored, .stored⟩) .stored readBlob [some ["second"]]

theorem merged_second : podReports wire readBlob ["second"] = [second.report wire] := by
  have faithful : ∀ publisher ∈ [second], publisher.Faithful wire := by
    intro publisher member
    cases List.mem_singleton.mp member
    exact faithful_second
  have stored : ∀ publisher ∈ [second], readBlob publisher.pod = some (publisher.body wire) := by
    intro publisher member
    cases List.mem_singleton.mp member
    exact (if_neg (by decide)).trans (if_pos rfl)
  exact podReports_eq faithful stored

end Sample

theorem failedRequest_not_added :
    podReports Sample.wire Sample.readBlob ["second"] = [Sample.second.report Sample.wire] ∧
      (Sample.second.report Sample.wire).total = 3 ∧
      (Sample.second.report Sample.wire).errors = [Sample.throttled] ∧
      Sample.loadSummary.total = 2 := by
  have sums := (Tally.sums_empty Sample.wire).readGroups (fun _ _ => ⟨.stored, .stored⟩)
    Sample.readBlob 0 [some ["second"]]
  have merged : podReports Sample.wire Sample.readBlob
      ([some ["second"]].flatMap fun pods => pods.getD []) = [Sample.second.report Sample.wire] :=
    Sample.merged_second
  have latencies := sums.latencies.length_eq
  rw [List.nil_append, merged, List.flatMap_singleton,
    (Sample.second.values_report Sample.wire).length_eq] at latencies
  have answered : (StringMap.values (readGroups Sample.wire (fun _ _ => ⟨.stored, .stored⟩)
      Sample.readBlob 0 [some ["second"]] .empty).latenciesByURL).length = 2 :=
    latencies.trans (by decide)
  refine ⟨Sample.merged_second, rfl, Sample.second.errors_report Sample.wire, ?_⟩
  rw [Sample.loadSummary, buildRunnerGroupSummary, Tally.report, sums.responses, answered]
  rfl

end Kperf.Runner.Summary
