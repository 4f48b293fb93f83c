import Kperf.Cmd.Runner
import Kperf.Request.ScheduleAccounting
import Mathlib.Algebra.BigOperators.Ring.Finset

/-! The `Total` of a result is copied from the spec, while its observations come
from the run. The two agree for a run that is not cut short. -/

set_option autoImplicit false

namespace Kperf.Request.Schedule

open Types Metrics

/-- The requests observed in a result, successful or failed. -/
def Result.observed (result : Result) : Nat :=
  (StringMap.values result.stats.latenciesByURL).length + result.stats.errors.length

def Label.observes : Label → Bool
  | .observe _ _ _ => true
  | _ => false

def Label.drops : Label → Bool
  | .limiterFails _ => true
  | _ => false

/-- The generator gives up, or a request is given up. -/
def Label.cuts : Label → Bool
  | .abandon | .limiterFails _ => true
  | _ => false

/-- The generator has left its loop. -/
def Main.generated : Main → Bool
  | .picking _ | .sending _ _ => false
  | _ => true

/-- How the steps of a run show in the state it arrives at. -/
structure Traced (setting : Setting) (trace : List Label) (state : State) : Prop where
  recorded : trace.countP Label.observes = state.recorded.length
  dropped : trace.countP Label.drops = state.dropped.length
  generating : state.main.generated = false → .abandon ∉ trace
  generated : state.main.generated = true →
    (.abandon ∈ trace ↔ ¬ reached setting.spec.total state.dispatched)

theorem WorkerMove.counts {setting : Setting} {state next : State} {id : WorkerId}
    {label : Label} (move : WorkerMove setting state id (state.workers id) label next) :
    next.recorded.length = state.recorded.length + [label].countP Label.observes ∧
      next.dropped.length = state.dropped.length + [label].countP Label.drops ∧
      label ≠ .abandon := by
  generalize state.workers id = worker at move
  cases move with
  | @settle ticket requester bytes err =>
      obtain ⟨postDel, events, same⟩ := settle_frame state ticket requester err
      rw [same]
      exact ⟨rfl, rfl, nofun⟩
  | limiterFails | observe => exact ⟨by simp [State.setWorker, Label.observes],
      by simp [State.setWorker, Label.drops], nofun⟩
  | _ => exact ⟨rfl, rfl, nofun⟩

theorem Traced.extend {setting : Setting} {trace : List Label} {state next : State}
    {label : Label} (traced : Traced setting trace state) (other : label ≠ .abandon)
    (recorded : next.recorded.length = state.recorded.length + [label].countP Label.observes)
    (dropped : next.dropped.length = state.dropped.length + [label].countP Label.drops)
    (generating : next.main.generated = false → .abandon ∉ trace)
    (generated : next.main.generated = true →
      (.abandon ∈ trace ↔ ¬ reached setting.spec.total next.dispatched)) :
    Traced setting (trace ++ [label]) next := by
  have member : .abandon ∈ trace ++ [label] ↔ .abandon ∈ trace := by simp [other.symm]
  constructor
  · rw [List.countP_append, traced.recorded, recorded]
  · rw [List.countP_append, traced.dropped, dropped]
  · rw [member]
    exact generating
  · rw [member]
    exact generated

theorem Traced.keep_worker {setting : Setting} {trace : List Label} {state next : State}
    {id : WorkerId} {label : Label} (traced : Traced setting trace state)
    (move : WorkerMove setting state id (state.workers id) label next) :
    Traced setting (trace ++ [label]) next := by
  obtain ⟨updated, frame, -⟩ := move.frame rfl
  obtain ⟨recorded, dropped, stays⟩ := move.counts
  apply traced.extend stays recorded dropped
  · rw [frame.main]
    exact traced.generating
  · rw [frame.main, frame.dispatched]
    exact traced.generated

theorem Traced.keep_main {setting : Setting} {trace : List Label} {state next : State}
    {label : Label} (traced : Traced setting trace state) (paced : Paced setting state)
    (move : MainMove setting state state.main label next) :
    Traced setting (trace ++ [label]) next := by
  have generating := traced.generating
  have generated := traced.generated
  generalize stands : state.main = main at move
  rw [stands] at generating generated
  cases move with
  | complete bound =>
      have total : reached setting.spec.total state.dispatched := paced.picking stands ▸ bound
      exact traced.extend (by nofun) rfl rfl nofun fun _ =>
        iff_of_false (generating rfl) (not_not_intro total)
  | abandon =>
      obtain ⟨pace, unbound⟩ := paced.sending stands
      refine ⟨?_, ?_, nofun, fun _ => iff_of_true (by simp) (pace ▸ unbound)⟩
      · rw [List.countP_append, traced.recorded]
        rfl
      · rw [List.countP_append, traced.dropped]
        rfl
  | pick | dispatch => exact traced.extend (by nofun) rfl rfl (fun _ => generating rfl) nofun
  | pickPanics =>
      refine traced.extend (by nofun) rfl rfl (fun _ => generating rfl) fun past => ?_
      rw [State.die, stands] at past
      cases past
  | cancelGenerator | closeChannel | finish =>
      exact traced.extend (by nofun) rfl rfl nofun fun _ => generated rfl

theorem traced_of_run {setting : Setting} {trace : List Label} {state : State}
    (run : (system setting).Run trace state) : Traced setting trace state := by
  induction run with
  | start initial =>
      cases initial
      exact ⟨rfl, rfl, nofun, nofun⟩
  | step earlier _ stepped ih =>
      cases step_transition stepped with
      | worker move => exact ih.keep_worker move
      | main move => exact ih.keep_main (paced_of_run earlier) move
      | callerDone | timeout => exact ih.extend (by nofun) rfl rfl ih.generating ih.generated

/-- A step after which the configured total can still be the observed one: the
generator does not give up and no limiter fails, or nothing was asked for and
nothing is observed. -/
def Uncut (setting : Setting) (label : Label) : Prop :=
  (0 < setting.spec.total ∧ label.cuts = false) ∨
    (setting.spec.total = 0 ∧ label.observes = false)

instance (setting : Setting) (label : Label) : Decidable (Uncut setting label) :=
  inferInstanceAs (Decidable (_ ∨ _))

theorem Label.cuts_eq_false_iff (label : Label) :
    label.cuts = false ↔ label ≠ .abandon ∧ label.drops = false := by
  cases label <;> simp [Label.cuts, Label.drops]

theorem uncut_iff_of_pos {setting : Setting} {trace : List Label}
    (positive : 0 < setting.spec.total) :
    (∀ label ∈ trace, Uncut setting label) ↔
      .abandon ∉ trace ∧ trace.countP Label.drops = 0 := by
  have unequal := Int.ne_of_gt positive
  simp only [Uncut, positive, unequal, true_and, false_and, or_false, List.countP_eq_zero,
    Label.cuts_eq_false_iff, Bool.not_eq_true]
  constructor
  · intro uncut
    exact ⟨fun member => (uncut _ member).1 rfl, fun label member => (uncut label member).2⟩
  · intro uncut label member
    exact ⟨ne_of_mem_of_not_mem member uncut.1, uncut.2 label member⟩

theorem uncut_iff_of_zero {setting : Setting} {trace : List Label}
    (nothing : setting.spec.total = 0) :
    (∀ label ∈ trace, Uncut setting label) ↔ trace.countP Label.observes = 0 := by
  simp [Uncut, nothing, List.countP_eq_zero]

/-- A call of `Schedule` reports as many requests as it observed exactly if its
run was not cut short. -/
theorem total_eq_observed_iff {setting : Setting} {trace : List Label} {state : State}
    {result : Result} (run : (system setting).Run trace state)
    (final : state.main = .returned result) :
    result.total = result.observed ↔ ∀ label ∈ trace, Uncut setting label := by
  have traced := traced_of_run run
  have paced := paced_of_run run
  have accounted := accounted_of_run run
  obtain ⟨exited, stats, total⟩ := paced.returned final
  have balance := (accounted.settled exited).2
  have observed : result.observed = state.recorded.length := by
    rw [Result.observed, stats]
    exact accounted.gathered
  have left := traced.generated (by rw [final]; rfl)
  rw [observed, total]
  rcases Int.lt_trichotomy setting.spec.total 0 with negative | nothing | positive
  · refine iff_of_false (by omega) fun uncut => ?_
    cases run with
    | start initial =>
        cases initial
        cases final
    | step _ _ _ =>
        have last := uncut _ (List.mem_append_right _ (List.mem_singleton.mpr rfl))
        unfold Uncut at last
        omega
  · rw [uncut_iff_of_zero nothing, traced.recorded, nothing]
    omega
  · rw [uncut_iff_of_pos positive, traced.dropped, left, not_not, reached]
    have bound := paced.bounded positive
    omega

def timedReadsSpec : LoadProfileSpec := { twoReads.spec with total := 0, duration := 60 }

theorem timedReads_accepted :
    newWeightedRandomRequests timedReadsSpec = .ok twoReads.requests := rfl

def timedReads : Setting :=
  { twoReads with
    spec := timedReadsSpec
    accepted := timedReads_accepted }

/-- A run limited by its duration makes one request before the time is over. -/
def timedReadsTrace : List Label :=
  [.pick 0, .dispatch 1, .build 1 0 "", .permit 1, .respond 1 40 none, .settle 1, .countBytes 1,
    .observe 1 20 2, .pick 0, .timeout, .abandon, .cancelGenerator, .closeChannel, .leave 0,
    .leave 1, .finish 60]

theorem timedReads_total_ne_observed :
    ∃ state result, (system timedReads).Run timedReadsTrace state ∧
      state.main = .returned result ∧ result.total = 0 ∧ result.observed = 1 := by
  obtain ⟨state, executed, result, final, total, observed⟩ :
      ∃ state ∈ (system timedReads).execute (start timedReads) timedReadsTrace,
        ∃ result ∈ state.main.result, result.total = 0 ∧ result.observed = 1 := by
    decide
  exact ⟨state, result, TransitionSystem.runWith_of_executeWith rfl executed,
    Main.result_eq_some.mp final, total, observed⟩

end Kperf.Request.Schedule

namespace Kperf.Cmd.Runner

open Types Metrics
open Request.Schedule

theorem executeFrom_scheduled {schedule : Nat → LoadProfileSpec → Outcome Result}
    {specs : List LoadProfileSpec} {position : Nat} {before results : List Result}
    {elapsed totalDuration : Int}
    (executed : executeFrom schedule position specs before elapsed =
      .ok (results, totalDuration)) :
    ∀ result ∈ results, result ∈ before ∨
      ∃ position, ∃ spec ∈ specs, schedule position spec = .ok result := by
  induction specs generalizing position before elapsed with
  | nil =>
      cases executed
      exact fun result member => .inl member
  | cons spec rest ih =>
      obtain ⟨scheduled, ran, executed⟩ := Outcome.bind_eq_ok.mp executed
      rw [Outcome.wrap_eq_ok] at ran
      intro result member
      cases ih executed result member with
      | inr later =>
          obtain ⟨position, spec, listed, ran⟩ := later
          exact .inr ⟨position, spec, List.mem_cons_of_mem _ listed, ran⟩
      | inl earlier =>
          cases List.mem_append.mp earlier with
          | inl earlier => exact .inl earlier
          | inr last =>
              cases List.mem_singleton.mp last
              exact .inr ⟨position, spec, List.mem_cons_self, ran⟩

theorem executeSpecs_scheduled {orders : Nat → RangeOrder}
    {schedule : Nat → LoadProfileSpec → Outcome Result} {specs : List LoadProfileSpec}
    {results : List Result} {aggregated : Result}
    (executed : executeSpecs orders schedule specs = .ok (results, aggregated)) :
    ∀ result ∈ results, ∃ position, ∃ spec ∈ specs, schedule position spec = .ok result := by
  unfold executeSpecs at executed
  split at executed
  · cases executed
  · obtain ⟨⟨collected, totalDuration⟩, ran, same⟩ := Outcome.bind_eq_ok.mp executed
    cases same
    intro result member
    exact (executeFrom_scheduled ran result member).resolve_left List.not_mem_nil

theorem Combines.observed {results : List Result} {aggregated : Result}
    (combines : Combines results aggregated) :
    aggregated.observed = (results.map (·.observed)).sum := by
  rw [Result.observed, combines.latencies.length_eq, combines.errors, List.length_flatMap,
    List.length_flatMap, ← List.sum_map_add]
  rfl

theorem Combines.total_eq_observed {results : List Result} {aggregated : Result}
    (combines : Combines results aggregated)
    (each : ∀ result ∈ results, result.total = result.observed) :
    aggregated.total = aggregated.observed := by
  rw [combines.total, combines.observed, List.map_congr_left each, Nat.cast_list_sum,
    List.map_map]
  rfl

/-- The requests listed in a report with raw data. -/
def reportObserved (report : RunnerMetricReport) : Nat :=
  (StringMap.values report.latenciesByURL).length + report.errors.length

theorem reportObserved_build (wire : Wire) (orders : ReportOrders) (result : Result) :
    reportObserved (buildRunnerMetricReport wire orders result true) = result.observed := by
  have sorted := StringMap.values_mapValues_perm sortLatencies_perm result.stats.latenciesByURL
  simp [reportObserved, buildRunnerMetricReport, Result.observed, sorted.length_eq]

/-- At every level the total is the number of requests observed there. -/
structure TotalsObserved (wire : Wire) (perSpec : Nat → ReportOrders) (combined : ReportOrders)
    (results : List Result) (aggregated : Result) : Prop where
  each : ∀ result ∈ results, result.total = result.observed
  whole : aggregated.total = aggregated.observed
  shown : ∀ rawData,
    let report := multiSpecReport wire perSpec combined rawData results aggregated
    report.perSpecResults.map (·.total) = results.map (fun result => (result.observed : Int)) ∧
      report.aggregated.total = aggregated.observed
  listed :
    let report := multiSpecReport wire perSpec combined true results aggregated
    (∀ own ∈ report.perSpecResults, own.total = reportObserved own) ∧
      report.aggregated.total = reportObserved report.aggregated

theorem mapIdx_total (wire : Wire) (perSpec : Nat → ReportOrders) (rawData : Bool)
    (results : List Result) :
    (results.mapIdx fun position result =>
      buildRunnerMetricReport wire (perSpec position) result rawData).map (·.total) =
        results.map (·.total) := by
  apply List.ext_getElem?
  intro position
  cases found : results[position]? with
  | none => simp [found]
  | some result => simp [found, buildRunnerMetricReport]

/-- When no run of the specs was cut short, every total that the runner computes
or prints is the number of requests observed. -/
theorem totals_observed {orders : Nat → RangeOrder}
    {schedule : Nat → LoadProfileSpec → Outcome Result} {specs : List LoadProfileSpec}
    {results : List Result} {aggregated : Result} (wire : Wire)
    (perSpec : Nat → ReportOrders) (combined : ReportOrders)
    (executed : executeSpecs orders schedule specs = .ok (results, aggregated))
    (uncut : ∀ position, ∀ spec ∈ specs, ∀ result, schedule position spec = .ok result →
      ∃ (setting : Setting) (trace : List Label) (state : State), setting.spec = spec ∧
        (system setting).RunWith (fun _ label => Uncut setting label) trace state ∧
        state.main = .returned result) :
    TotalsObserved wire perSpec combined results aggregated := by
  have each : ∀ result ∈ results, result.total = result.observed := by
    intro result member
    obtain ⟨position, spec, listed, scheduled⟩ := executeSpecs_scheduled executed result member
    obtain ⟨setting, trace, state, -, run, final⟩ :=
      uncut position spec listed result scheduled
    exact (Request.Schedule.total_eq_observed_iff (run.mono fun _ _ _ => trivial) final).mpr
      (run.admitted fun _ _ uncut => uncut)
  obtain ⟨-, combines, -⟩ := executeSpecs_ok executed
  have whole := combines.total_eq_observed each
  refine ⟨each, whole, ?_, ?_, ?_⟩
  · intro rawData
    refine ⟨?_, whole⟩
    rw [multiSpecReport, mapIdx_total]
    exact List.map_congr_left each
  · intro report member
    obtain ⟨position, inside, rfl⟩ := List.mem_mapIdx.mp member
    rw [reportObserved_build]
    exact each _ (List.getElem_mem inside)
  · rw [multiSpecReport, reportObserved_build]
    exact whole

theorem totals_observed_twoReads :
    ∃ result aggregated,
      executeSpecs (fun _ => .stored) (fun _ _ => .ok result) [twoReads.spec] =
        .ok ([result], aggregated) ∧
      result.observed = 2 ∧
      ∀ wire perSpec combined, TotalsObserved wire perSpec combined [result] aggregated := by
  obtain ⟨state, executed, result, final, observed⟩ :
      ∃ state ∈ (system twoReads).execute (start twoReads) twoReadsTrace,
        ∃ result ∈ state.main.result, result.observed = 2 := by
    decide
  have run := TransitionSystem.runWith_of_executeWith rfl executed
  have uncut : ∀ label ∈ twoReadsTrace, Uncut twoReads label := by decide
  have ran : executeSpecs (fun _ => .stored) (fun _ _ => .ok result) [twoReads.spec] =
      .ok ([result], { aggregateResults (fun _ => .stored) [result] with
        duration := 0 + result.duration }) := rfl
  refine ⟨result, _, ran, observed, fun wire perSpec combined => ?_⟩
  refine totals_observed wire perSpec combined ran fun position spec listed other same => ?_
  cases same
  cases List.mem_singleton.mp listed
  exact ⟨twoReads, twoReadsTrace, state, rfl,
    (run.restrict uncut).mono fun _ _ admitted => admitted.2, Main.result_eq_some.mp final⟩

end Kperf.Cmd.Runner
