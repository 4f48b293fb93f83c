import Kperf.Library.Json
import Kperf.Types.Metric

/-! The JSON of the report types, with the tags of their fields. -/

set_option autoImplicit false

namespace Kperf.Types

/-- The conversions that a report goes through: numbers and times as text, what
`curl -d @file` sends of a file, and the two ways its JSON is read. -/
structure Wire where
  formatFloat : ℚ → String
  formatTime : Int → String
  formatDuration : Int → String
  parseDuration : String → Option Int
  postData : List UInt8 → List UInt8
  decodeMulti : List UInt8 → Option MultiSpecRunnerMetricReport
  decodeSingle : List UInt8 → Option RunnerMetricReport

namespace Wire

variable (wire : Wire)

def float (value : ℚ) : JsonValue := .number (wire.formatFloat value)

def latencies (values : List ℚ) : JsonValue := .array (values.map wire.float)

def percentiles (values : List (ℚ × ℚ)) : JsonValue :=
  if values.isEmpty then .null
  else .array (values.map fun (percentile, latency) =>
    .array [wire.float percentile, wire.float latency])

def responseError (error : ResponseError) : JsonValue :=
  .object [("method", .string error.method), ("url", .string error.url),
    ("timestamp", .string (wire.formatTime error.timestamp)),
    ("duration", wire.float error.duration), ("type", .string error.type.name),
    ("code", .number (toString error.code)), ("message", .string error.message)]

def runnerMetricReport (report : RunnerMetricReport) : JsonValue :=
  .object ([("total", .number (toString report.total)), ("duration", .string report.duration)] ++
    JsonValue.omitEmpty "errors" report.errors (.array (report.errors.map wire.responseError)) ++
    JsonValue.omitEmpty "errorStats" report.errorStats.entries
      (.ofEntries (fun number => .number (toString number)) report.errorStats.entries) ++
    [("totalReceivedBytes", .number (toString report.totalReceivedBytes))] ++
    JsonValue.omitEmpty "latenciesByURL" report.latenciesByURL.entries
      (.ofEntries wire.latencies report.latenciesByURL.entries) ++
    JsonValue.omitEmpty "percentileLatencies" report.percentileLatencies
      (wire.percentiles report.percentileLatencies) ++
    JsonValue.omitEmpty "percentileLatenciesByURL" report.percentileLatenciesByURL.entries
      (.ofEntries wire.percentiles report.percentileLatenciesByURL.entries))

def multiSpecRunnerMetricReport (report : MultiSpecRunnerMetricReport) : JsonValue :=
  .object (JsonValue.omitEmpty "perSpecResults" report.perSpecResults
      (.array (report.perSpecResults.map wire.runnerMetricReport)) ++
    [("aggregated", wire.runnerMetricReport report.aggregated)])

def encodeMulti (report : MultiSpecRunnerMetricReport) : List UInt8 :=
  (wire.multiSpecRunnerMetricReport report).encode

end Wire

end Kperf.Types
