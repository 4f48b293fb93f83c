import Kperf.Library.Outcome
import Kperf.Metrics.Errors
import Mathlib.Data.List.Induction

/-! The metrics object shared by the workers of one schedule. Each method takes
the mutex once, or is one atomic addition, so it is one step here. -/

set_option autoImplicit false

namespace Kperf.Metrics

open Types

structure ResponseMetric where
  errors : List ResponseError
  receivedBytes : Int
  latenciesByURLs : StringMap (List ℚ)

def newResponseMetric : ResponseMetric := ⟨[], 0, ∅⟩

namespace ResponseMetric

def observeLatency (metric : ResponseMetric) (method url : String) (seconds : ℚ) :
    ResponseMetric :=
  { metric with
    latenciesByURLs := metric.latenciesByURLs.push (method ++ " " ++ url) [seconds] }

/-- The type of an observed error with its code or message. -/
def classify (library : ErrorLibrary) (err : GoError) : ResponseErrorType × Int × String :=
  let code := codeFromHTTP library err
  if code ≠ 0 then (.http, code, "")
  else match isHTTP2Error library err, isConnectionError err with
    | some message, _ => (.http2Protocol, 0, message)
    | none, some message => (.connection, 0, message)
    | none, none => (.unknown, 0, err.error)

def observeFailure (library : ErrorLibrary) (metric : ResponseMetric) (method url : String)
    (now : Int) (seconds : ℚ) : Option GoError → ResponseMetric
  | none => metric
  | some err =>
      let (type, code, message) := classify library err
      { metric with
        errors := metric.errors ++ [⟨method, url, now, seconds, type, code, message⟩] }

def observeReceivedBytes (metric : ResponseMetric) (bytes : Int) : ResponseMetric :=
  { metric with receivedBytes := addInt64 metric.receivedBytes bytes }

def gather (order : RangeOrder) (metric : ResponseMetric) : ResponseStats :=
  { errors := metric.errors
    latenciesByURL := metric.latenciesByURLs.copy order
    totalReceivedBytes := metric.receivedBytes }

end ResponseMetric

inductive Observation where
  | latency (method url : String) (seconds : ℚ)
  | failure (method url : String) (now : Int) (seconds : ℚ) (err : GoError)

def ResponseMetric.observe (library : ErrorLibrary) (metric : ResponseMetric) :
    Observation → ResponseMetric
  | .latency method url seconds => metric.observeLatency method url seconds
  | .failure method url now seconds err =>
      metric.observeFailure library method url now seconds (some err)

def replay (library : ErrorLibrary) (observed : List Observation) : ResponseMetric :=
  observed.foldl (ResponseMetric.observe library) newResponseMetric

theorem replay_append (library : ErrorLibrary) (observed : List Observation)
    (last : Observation) :
    replay library (observed ++ [last]) = (replay library observed).observe library last := by
  simp [replay]

structure ResponseMetric.Agrees (left right : ResponseMetric) : Prop where
  errors : left.errors = right.errors
  latencies : left.latenciesByURLs = right.latenciesByURLs

theorem ResponseMetric.Agrees.observe {left right : ResponseMetric} (agrees : left.Agrees right)
    (library : ErrorLibrary) (observed : Observation) :
    (left.observe library observed).Agrees (right.observe library observed) := by
  obtain ⟨errors, latencies⟩ := agrees
  cases observed with
  | latency method url seconds =>
      exact ⟨errors, by simp only [ResponseMetric.observe, observeLatency, latencies]⟩
  | failure method url now seconds err =>
      exact ⟨by simp only [ResponseMetric.observe, observeFailure, errors], latencies⟩

/-- Every observation is in the metrics once, as a latency or as an error. -/
theorem replay_count (library : ErrorLibrary) (observed : List Observation) :
    (replay library observed).latenciesByURLs.values.length +
      (replay library observed).errors.length = observed.length := by
  induction observed using List.reverseRecOn with
  | nil => rfl
  | append_singleton observed last ih =>
      rw [replay_append, List.length_append, ← ih]
      cases last with
      | latency method url seconds =>
          simp only [ResponseMetric.observe, ResponseMetric.observeLatency,
            (StringMap.values_push _ _ _).length_eq, List.length_append, List.length_singleton]
          omega
      | failure method url now seconds err =>
          simp only [ResponseMetric.observe, ResponseMetric.observeFailure, List.length_append,
            List.length_singleton]
          omega

theorem gather_latencies (order : RangeOrder) (metric : ResponseMetric) :
    (metric.gather order).latenciesByURL.values.Perm metric.latenciesByURLs.values :=
  StringMap.values_perm (StringMap.copy_perm order _)

end Kperf.Metrics
