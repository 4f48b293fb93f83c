import Kperf.Library.Map
import Mathlib.Data.Rat.Defs

/-! Records of observed responses. Latencies and durations in seconds are
rationals, timestamps count nanoseconds. -/

set_option autoImplicit false

namespace Kperf.Types

inductive ResponseErrorType where
  | unknown
  | http
  | http2Protocol
  | connection
  deriving DecidableEq, Repr

def ResponseErrorType.name : ResponseErrorType → String
  | .unknown => "unknown"
  | .http => "http"
  | .http2Protocol => "http2-protocol"
  | .connection => "connection"

structure ResponseError where
  method : String
  url : String
  timestamp : Int
  duration : ℚ
  type : ResponseErrorType
  code : Int
  message : String
  deriving DecidableEq, Repr

structure ResponseStats where
  errors : List ResponseError
  latenciesByURL : StringMap (List ℚ)
  totalReceivedBytes : Int
  deriving DecidableEq

structure RunnerMetricReport where
  total : Int
  duration : String
  errors : List ResponseError
  errorStats : StringMap Int
  totalReceivedBytes : Int
  latenciesByURL : StringMap (List ℚ)
  percentileLatencies : List (ℚ × ℚ)
  percentileLatenciesByURL : StringMap (List (ℚ × ℚ))
  deriving DecidableEq

structure MultiSpecRunnerMetricReport where
  perSpecResults : List RunnerMetricReport
  aggregated : RunnerMetricReport
  deriving DecidableEq

end Kperf.Types
