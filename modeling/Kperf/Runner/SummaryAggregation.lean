import Kperf.Cmd.Runner
import Kperf.Runner.Summary

/-! Two levels of aggregation against one direct computation: what the server
makes of the reports of all runners is what the results of all their specs give
when they are put together at once. -/

set_option autoImplicit false

namespace Kperf.Runner.Summary

open Types Metrics Cmd.Runner
open Request.Schedule (Result)
open scoped List

/-- A runner that executed its specs with raw data turned on. -/
structure Publisher where
  pod : String
  specs : List LoadProfileSpec
  schedule : Nat → LoadProfileSpec → Outcome Result
  aggregateOrders : Nat → RangeOrder
  perSpecOrders : Nat → ReportOrders
  combinedOrders : ReportOrders
  results : List Result
  aggregated : Result
  executed : executeSpecs aggregateOrders schedule specs = .ok (results, aggregated)

namespace Publisher

variable (publisher : Publisher)

def multiReport (wire : Wire) : MultiSpecRunnerMetricReport :=
  multiSpecReport wire publisher.perSpecOrders publisher.combinedOrders true publisher.results
    publisher.aggregated

def body (wire : Wire) : List UInt8 :=
  wire.postData (wire.encodeMulti (publisher.multiReport wire))

def report (wire : Wire) : RunnerMetricReport := (publisher.multiReport wire).aggregated

def elapsed : Int := (publisher.results.map (·.duration)).sum

/-- The conversions give back what was written for this runner. -/
structure Faithful (wire : Wire) : Prop where
  decoded : wire.decodeMulti (publisher.body wire) = some (publisher.multiReport wire)
  parsed : wire.parseDuration (wire.formatDuration publisher.elapsed) = some publisher.elapsed

variable {publisher}

theorem unmarshal_body {wire : Wire} (faithful : publisher.Faithful wire) :
    unmarshalReport wire (publisher.body wire) = some (publisher.report wire) := by
  obtain ⟨nonempty, -, -⟩ := executeSpecs_ok publisher.executed
  have several : 0 < (publisher.multiReport wire).perSpecResults.length := by
    simpa [multiReport, multiSpecReport] using List.length_pos_iff.mpr nonempty
  simp only [unmarshalReport, faithful.decoded, several, if_true]
  rfl

theorem duration_report {wire : Wire} (faithful : publisher.Faithful wire) :
    reportDuration wire (publisher.report wire) = publisher.elapsed := by
  obtain ⟨-, -, summed⟩ := executeSpecs_ok publisher.executed
  have shown : (publisher.report wire).duration = wire.formatDuration publisher.elapsed :=
    congrArg wire.formatDuration summed
  rw [reportDuration, shown, faithful.parsed]
  rfl

theorem slice_report (wire : Wire) (url : String) :
    StringMap.slice (publisher.report wire).latenciesByURL url ~
      publisher.results.flatMap fun result =>
        StringMap.slice result.stats.latenciesByURL url := by
  obtain ⟨-, combines, -⟩ := executeSpecs_ok publisher.executed
  rw [← combines.slices]
  exact StringMap.slice_mapValues_perm sortLatencies_perm _ url

theorem mem_report (wire : Wire) (url : String) :
    url ∈ (publisher.report wire).latenciesByURL ↔
      ∃ result ∈ publisher.results, url ∈ result.stats.latenciesByURL := by
  obtain ⟨-, combines, -⟩ := executeSpecs_ok publisher.executed
  rw [← combines.urls]
  exact StringMap.mem_mapValues sortLatencies _ url

theorem values_report (wire : Wire) :
    StringMap.values (publisher.report wire).latenciesByURL ~
      publisher.results.flatMap fun result => StringMap.values result.stats.latenciesByURL := by
  obtain ⟨-, combines, -⟩ := executeSpecs_ok publisher.executed
  exact (StringMap.values_mapValues_perm sortLatencies_perm _).trans combines.latencies

theorem errors_report (wire : Wire) :
    (publisher.report wire).errors = publisher.results.flatMap (·.stats.errors) := by
  obtain ⟨-, combines, -⟩ := executeSpecs_ok publisher.executed
  exact combines.errors

theorem errorStats_report (wire : Wire) :
    (publisher.report wire).errorStats =
      buildErrorStatsGroupByType (publisher.results.flatMap (·.stats.errors)) := by
  obtain ⟨-, combines, -⟩ := executeSpecs_ok publisher.executed
  exact congrArg buildErrorStatsGroupByType combines.errors

theorem bytes_report (wire : Wire) :
    (publisher.report wire).totalReceivedBytes =
      (publisher.results.map (·.stats.totalReceivedBytes)).sum := by
  obtain ⟨-, combines, -⟩ := executeSpecs_ok publisher.executed
  exact combines.bytes

end Publisher

/-- The summary is computed from the results of all specs of all runners. -/
structure Direct (wire : Wire) (publishers : List Publisher) (summary : RunnerMetricReport) :
    Prop where
  percentilesByURL : ∀ url, summary.percentileLatenciesByURL.lookup url =
    if ∃ result ∈ publishers.flatMap (·.results), url ∈ result.stats.latenciesByURL then
      some (buildPercentileLatencies ((publishers.flatMap (·.results)).flatMap fun result =>
        StringMap.slice result.stats.latenciesByURL url))
    else none
  percentiles : summary.percentileLatencies =
    buildPercentileLatencies ((publishers.flatMap (·.results)).flatMap fun result =>
      StringMap.values result.stats.latenciesByURL)
  bytes : summary.totalReceivedBytes =
    ((publishers.flatMap (·.results)).map (·.stats.totalReceivedBytes)).sum
  errorStats : ∀ key, summary.errorStats.lookup key =
    (buildErrorStatsGroupByType
      ((publishers.flatMap (·.results)).flatMap (·.stats.errors))).lookup key
  errors : summary.errors ~ (publishers.flatMap (·.results)).flatMap (·.stats.errors)
  /-- the longest of the runners' times; no runner has no time at all -/
  duration : ∃ longest, summary.duration = wire.formatDuration longest ∧
    (∀ publisher ∈ publishers, publisher.elapsed ≤ longest) ∧
    (publishers = [] → longest = 0) ∧
    ((∀ publisher ∈ publishers, 0 ≤ publisher.elapsed) → publishers ≠ [] →
      ∃ publisher ∈ publishers, publisher.elapsed = longest)

section Direct

variable {wire : Wire} {publishers : List Publisher} {tally : Tally}

theorem Tally.Sums.mem_iff (sums : tally.Sums wire (publishers.map (·.report wire)))
    (url : String) :
    url ∈ tally.latenciesByURL ↔
      ∃ result ∈ publishers.flatMap (·.results), url ∈ result.stats.latenciesByURL := by
  rw [sums.urls]
  constructor
  · intro found
    obtain ⟨report, member, present⟩ := found
    obtain ⟨publisher, published, rfl⟩ := List.mem_map.mp member
    obtain ⟨result, own, present⟩ := (publisher.mem_report wire url).mp present
    exact ⟨result, List.mem_flatMap.mpr ⟨publisher, published, own⟩, present⟩
  · intro found
    obtain ⟨result, member, present⟩ := found
    obtain ⟨publisher, published, own⟩ := List.mem_flatMap.mp member
    exact ⟨publisher.report wire, List.mem_map.mpr ⟨publisher, published, rfl⟩,
      (publisher.mem_report wire url).mpr ⟨result, own, present⟩⟩

theorem Tally.Sums.slice_perm (sums : tally.Sums wire (publishers.map (·.report wire)))
    (url : String) :
    StringMap.slice tally.latenciesByURL url ~
      (publishers.flatMap (·.results)).flatMap fun result =>
        StringMap.slice result.stats.latenciesByURL url := by
  rw [sums.slices, List.flatMap_map, List.flatMap_assoc]
  exact List.Perm.flatMap_left _ fun publisher _ => publisher.slice_report wire url

theorem Tally.Sums.values_perm (sums : tally.Sums wire (publishers.map (·.report wire))) :
    StringMap.values tally.latenciesByURL ~
      (publishers.flatMap (·.results)).flatMap fun result =>
        StringMap.values result.stats.latenciesByURL := by
  refine sums.latencies.trans ?_
  rw [List.flatMap_map, List.flatMap_assoc]
  exact List.Perm.flatMap_left _ fun publisher _ => publisher.values_report wire

theorem Tally.Sums.percentilesByURL (sums : tally.Sums wire (publishers.map (·.report wire)))
    (last : RangeOrder) (url : String) :
    (tally.report wire last).percentileLatenciesByURL.lookup url =
      if ∃ result ∈ publishers.flatMap (·.results), url ∈ result.stats.latenciesByURL then
        some (buildPercentileLatencies ((publishers.flatMap (·.results)).flatMap fun result =>
          StringMap.slice result.stats.latenciesByURL url))
      else none := by
  have gathered := sums.slice_perm url
  simp only [Tally.report, StringMap.lookup_rangeUpdate, ← sums.mem_iff]
  split
  · rename_i missing
    rw [if_neg (AList.lookup_eq_none.mp missing)]
    rfl
  · rename_i latencies found
    rw [if_pos (AList.lookup_isSome.mp (by rw [found]; rfl))]
    rw [StringMap.slice, found] at gathered
    exact congrArg some (buildPercentileLatencies_eq_of_perm gathered)

theorem Tally.Sums.errorStats (sums : tally.Sums wire (publishers.map (·.report wire)))
    (key : String) :
    tally.errStats.lookup key = (buildErrorStatsGroupByType
      ((publishers.flatMap (·.results)).flatMap (·.stats.errors))).lookup key := by
  rw [List.flatMap_assoc]
  apply StringMap.lookup_eq_of_number
  · rw [sums.errorKeys, mem_buildErrorStats]
    simp only [List.mem_map, exists_exists_and_eq_and, Publisher.errorStats_report,
      mem_buildErrorStats, List.mem_flatMap]
    grind
  · rw [sums.errorNumbers, number_buildErrorStats, errorCount_flatMap, List.map_map]
    simp only [Function.comp_def, Publisher.errorStats_report, number_buildErrorStats]

theorem foldl_max_spec (durations : List Int) (start : Int) :
    let longest := durations.foldl max start
    start ≤ longest ∧ (∀ duration ∈ durations, duration ≤ longest) ∧
      (longest = start ∨ longest ∈ durations) := by
  induction durations generalizing start with
  | nil => simp
  | cons duration rest ih =>
      obtain ⟨above, bound, reached⟩ := ih (max start duration)
      refine ⟨by simp only [List.foldl_cons]; omega, ?_, ?_⟩
      · intro other member
        cases List.mem_cons.mp member with
        | inl same =>
            subst other
            simp only [List.foldl_cons]
            omega
        | inr member => exact bound other member
      · simp only [List.foldl_cons, List.mem_cons]
        cases reached with
        | inl unchanged => omega
        | inr member => exact .inr (.inr member)

theorem Tally.Sums.longest (sums : tally.Sums wire (publishers.map (·.report wire)))
    (faithful : ∀ publisher ∈ publishers, publisher.Faithful wire) :
    (∀ publisher ∈ publishers, publisher.elapsed ≤ tally.maxDuration) ∧
      (publishers = [] → tally.maxDuration = 0) ∧
      ((∀ publisher ∈ publishers, 0 ≤ publisher.elapsed) → publishers ≠ [] →
        ∃ publisher ∈ publishers, publisher.elapsed = tally.maxDuration) := by
  have durations : (publishers.map (·.report wire)).map (reportDuration wire) =
      publishers.map (·.elapsed) := by
    rw [List.map_map]
    exact List.map_congr_left fun publisher member =>
      Publisher.duration_report (faithful publisher member)
  have maximum := sums.duration
  rw [durations] at maximum
  obtain ⟨positive, bound, reached⟩ := foldl_max_spec (publishers.map (·.elapsed)) 0
  rw [← maximum] at positive bound reached
  refine ⟨?_, ?_, ?_⟩
  · intro publisher member
    exact bound _ (List.mem_map_of_mem member)
  · intro none
    subst none
    exact maximum
  · intro elapsed some
    cases reached with
    | inr member => exact List.mem_map.mp member
    | inl unchanged =>
        obtain ⟨publisher, member⟩ := List.exists_mem_of_ne_nil publishers some
        have least := elapsed publisher member
        have most := bound _ (List.mem_map_of_mem member)
        exact ⟨publisher, member, by omega⟩

theorem Tally.Sums.direct (sums : tally.Sums wire (publishers.map (·.report wire)))
    (faithful : ∀ publisher ∈ publishers, publisher.Faithful wire) (last : RangeOrder) :
    Direct wire publishers (tally.report wire last) where
  percentilesByURL := sums.percentilesByURL last
  percentiles := buildPercentileLatencies_eq_of_perm
    (((last.perm _).flatMap_right _).trans sums.values_perm)
  bytes := by
    refine sums.bytes.trans ?_
    rw [List.map_map, List.map_flatMap, List.flatMap_def, List.sum_flatten, List.map_map]
    exact congrArg List.sum (List.map_congr_left fun publisher _ => publisher.bytes_report wire)
  errorStats := sums.errorStats
  errors := by
    refine .of_eq (sums.errors.trans ?_)
    rw [List.flatMap_map, List.flatMap_assoc]
    simp only [Publisher.errors_report]
  duration := ⟨_, rfl, sums.longest faithful⟩

end Direct

theorem podReports_eq {wire : Wire} {publishers : List Publisher}
    {readBlob : String → Option (List UInt8)}
    (faithful : ∀ publisher ∈ publishers, publisher.Faithful wire)
    (stored : ∀ publisher ∈ publishers, readBlob publisher.pod = some (publisher.body wire)) :
    podReports wire readBlob (publishers.map (·.pod)) = publishers.map (·.report wire) := by
  induction publishers with
  | nil => rfl
  | cons publisher rest ih =>
      have head := stored publisher List.mem_cons_self
      have decoded := Publisher.unmarshal_body (faithful publisher List.mem_cons_self)
      have tail := ih (fun other member => faithful other (List.mem_cons_of_mem _ member))
        (fun other member => stored other (List.mem_cons_of_mem _ member))
      rw [List.map_cons, List.map_cons, ← tail, podReports, List.flatMap_cons, head,
        Option.bind_some, decoded]
      rfl

/-- Whatever the orders of all the loops over maps, the summary of the groups
whose runners all published is the one computed directly. -/
theorem summary_direct (wire : Wire) (groups : List (List Publisher))
    (orders : Nat → Nat → ReadOrders) (last : RangeOrder)
    (readBlob : String → Option (List UInt8))
    (faithful : ∀ publisher ∈ groups.flatten, publisher.Faithful wire)
    (stored : ∀ publisher ∈ groups.flatten,
      readBlob publisher.pod = some (publisher.body wire)) :
    Direct wire groups.flatten (buildRunnerGroupSummary wire orders last readBlob
      (groups.map fun publishers => some (publishers.map (·.pod)))) := by
  have pods : (groups.map fun publishers => some (publishers.map (·.pod))).flatMap
      (fun pods => pods.getD []) = groups.flatten.map (·.pod) := by
    rw [List.flatMap_map, List.map_flatten, List.flatMap_def]
    rfl
  have sums := (Tally.sums_empty wire).readGroups orders readBlob 0
    (groups.map fun publishers => some (publishers.map (·.pod)))
  rw [List.nil_append, pods, podReports_eq faithful stored] at sums
  exact sums.direct faithful last

namespace Sample

def publisher (pod : String) (results : List Result) (aggregated : Result)
    (executed : executeSpecs (fun _ => .stored)
        (fun position _ => results[position]?.elim (Outcome.fail "no such spec") .ok)
        (List.replicate results.length ⟨10, 2, 0, 1, 1, .json, false, 0, []⟩) =
      .ok (results, aggregated)) : Publisher where
  pod := pod
  specs := List.replicate results.length ⟨10, 2, 0, 1, 1, .json, false, 0, []⟩
  schedule := fun position _ => results[position]?.elim (Outcome.fail "no such spec") .ok
  aggregateOrders := fun _ => .stored
  perSpecOrders := fun _ => ⟨.stored, .stored⟩
  combinedOrders := ⟨.stored, .stored⟩
  results := results
  aggregated := aggregated
  executed := executed

def throttled : ResponseError := ⟨"GET", "/b", 0, 1, .http, 429, ""⟩

def warmup : Result := ⟨⟨[], AList.insert "/a" [3, 1] ∅, 5⟩, 2000000000, 2⟩

def load : Result :=
  ⟨⟨[throttled], AList.insert "/a" [2] (AList.insert "/b" [4] ∅), 7⟩, 3000000000, 3⟩

def first : Publisher :=
  publisher "first" [warmup, load]
    ⟨⟨[throttled], AList.insert "/b" [4] (AList.insert "/a" [3, 1, 2] ∅), 12⟩, 5000000000, 5⟩ rfl

def second : Publisher :=
  publisher "second" [load] ⟨⟨[throttled], AList.insert "/b" [4] (AList.insert "/a" [2] ∅), 7⟩,
    3000000000, 3⟩ rfl

def texts : Wire where
  formatFloat := Format.float
  formatTime := fun _ => "1970-01-01T00:00:00Z"
  formatDuration := fun duration => toString (duration / 1000000000) ++ "s"
  parseDuration := fun text =>
    if text = "5s" then some 5000000000 else if text = "3s" then some 3000000000 else none
  -- line breaks and null bytes are left out
  postData := fun file => file.filter fun byte => byte ≠ 0 && byte ≠ 10 && byte ≠ 13
  decodeMulti := fun _ => none
  decodeSingle := fun _ => none

def wire : Wire :=
  { texts with
    decodeMulti := fun data =>
      if data = first.body texts then some (first.multiReport texts)
      else if data = second.body texts then some (second.multiReport texts) else none }

theorem faithful_first : first.Faithful wire where
  decoded := if_pos rfl
  parsed := rfl

theorem bodies_differ : second.body texts ≠ first.body texts := by decide +kernel

theorem faithful_second : second.Faithful wire where
  decoded := (if_neg bodies_differ).trans (if_pos rfl)
  parsed := rfl

def readBlob (pod : String) : Option (List UInt8) :=
  if pod = "first" then some (first.body wire)
  else if pod = "second" then some (second.body wire)
  else none

def summary : RunnerMetricReport :=
  buildRunnerGroupSummary wire (fun _ _ => ⟨.stored, .stored⟩) .stored readBlob
    [some ["first"], some ["second"]]

end Sample

theorem summary_direct_sample :
    Sample.summary.totalReceivedBytes = 19 ∧
      Sample.summary.errorStats.lookup "http/429" = some 2 ∧
      Direct Sample.wire [Sample.first, Sample.second] Sample.summary := by
  have direct : Direct Sample.wire [Sample.first, Sample.second] Sample.summary := by
    refine summary_direct Sample.wire [[Sample.first], [Sample.second]]
      (fun _ _ => ⟨.stored, .stored⟩) .stored Sample.readBlob ?_ ?_
    · intro publisher member
      cases member with
      | head => exact Sample.faithful_first
      | tail _ member =>
          cases List.mem_singleton.mp member
          exact Sample.faithful_second
    · intro publisher member
      cases member with
      | head => exact if_pos rfl
      | tail _ member =>
          cases List.mem_singleton.mp member
          exact (if_neg (by decide)).trans (if_pos rfl)
  exact ⟨direct.bytes.trans rfl, (direct.errorStats _).trans (by decide +kernel), direct⟩

end Kperf.Runner.Summary
