import BenchReport.Measurement
import BenchReport.Window
import BenchReport.Query.Template
import BenchReport.Query.Vocabulary

/-! Measurements of requests: their rate, their mean duration and quantiles of it. -/
namespace BenchReport.Query

/-- Requests per second. -/
def requestRateTemplate : Template where
  text := "sum(rate(loki_request_duration_seconds_count\x7bjob=~\".*${job}.*\", "
    ++ "route=~\"${route}\", status_code=~\"${code}\"\x7d[${window}]))"

/-- Seconds spent in requests, per second. -/
def durationSumTemplate : Template where
  text := "sum(rate(loki_request_duration_seconds_sum\x7bjob=~\".*${job}.*\", "
    ++ "method=\"${method}\", route=~\"${route}\", status_code=~\"${code}\"\x7d[${window}]))"

/-- Requests per second, kept away from zero so that it can divide. -/
def durationCountTemplate : Template where
  text := "clamp_min(sum(rate(loki_request_duration_seconds_count\x7bjob=~\".*${job}.*\", "
    ++ "method=\"${method}\", route=~\"${route}\", "
    ++ "status_code=~\"${code}\"\x7d[${window}])),${floor})"

/-- A scaled quotient. -/
def quotientTemplate : Template where
  text := "(${numerator} / ${denominator}) * ${multiplier}"

/-- A scaled quantile of request durations. -/
def durationQuantileTemplate : Template where
  text := "histogram_quantile(${quantile}, sum by (job, le) (rate("
    ++ "loki_request_duration_seconds_bucket\x7bjob=~\".*${job}.*\", method=\"${method}\", "
    ++ "route=~\"${route}\", status_code=~\"${code}\"\x7d[${window}]))) * ${multiplier}"

def indexRateTemplate : Template where
  text := "sum(rate(loki_index_request_duration_seconds_count\x7bjob=~\".*${job}.*\", "
    ++ "operation${operator}\"${operation}\", status_code=~\"${code}\"\x7d[${window}]))"

def requestRate (name job route code : String) (window : Window) (label : String) :
    Measurement where
  name := name ++ " request rate"
  query := requestRateTemplate.render
    [("job", job), ("route", route), ("code", code), ("window", window.text)]
  unit := UnitName.requestsPerSecond
  label := label

/-- The mean duration of requests, in milliseconds; with no request it is the time spent over the
least count rather than a fault. -/
def requestDurationAverage (name job method route code : String) (window : Window)
    (label : String) : Measurement :=
  let bindings : Bindings :=
    [("job", job), ("method", method), ("route", route), ("code", code), ("window", window.text),
      ("floor", minRequestCount)]
  { name := name ++ " request duration avg"
    query := quotientTemplate.render
      [("numerator", durationSumTemplate.render bindings),
        ("denominator", durationCountTemplate.render bindings),
        ("multiplier", toString Factor.secondsToMilliseconds)]
    unit := UnitName.milliseconds
    label := label }

/-- A percentage as a decimal fraction without trailing zeros; beyond one hundred it is one. -/
def quantileFraction (percentile : Nat) : String :=
  if percentile = 0 then "0"
  else if 100 ≤ percentile then "1"
  else if percentile % 10 = 0 then "0." ++ toString (percentile / 10)
  else "0." ++ toString (percentile / 10) ++ toString (percentile % 10)

/-- A percentile of the durations of requests, in milliseconds. -/
def requestDurationQuantile (name job method route code : String) (percentile : Nat)
    (window : Window) (label : String) : Measurement where
  name := name ++ " request duration P" ++ toString (min percentile 100)
  query := durationQuantileTemplate.render
    [("quantile", quantileFraction percentile), ("job", job), ("method", method),
      ("route", route), ("code", code), ("window", window.text),
      ("multiplier", toString Factor.secondsToMilliseconds)]
  unit := UnitName.milliseconds
  label := label

/-- The rate of index requests that write chunks, or of those that do not. It is always labelled
as the ingester's. -/
def indexRequestRate (name job : String) (operation : Operation) (code : String)
    (window : Window) : Measurement where
  name := name ++ " request rate"
  query := indexRateTemplate.render
    [("job", job), ("operator", match operation with | .write => "=" | .read => "!="),
      ("operation", Index.chunkOperation), ("code", code), ("window", window.text)]
  unit := UnitName.requestsPerSecond
  label := Component.ingester

end BenchReport.Query
