import Turnstile.Decimal.Shortest
import Turnstile.Metrics.Registry

/-!
# Metrics as text

The exposition lists every family of metrics with a help line, a type line and one line per sample.
Names of endpoints stand in labels as they are.
-/

namespace Turnstile.Metrics.Exposition

/-- The two lines that introduce a family. -/
def heading (name help type : String) : List String :=
  ["# HELP " ++ name ++ " " ++ help, "# TYPE " ++ name ++ " " ++ type]

/-- A line with one sample. -/
def sample (name : String) (labels : List (String × String)) (value : String) : String :=
  let labelText := String.intercalate "," (labels.map fun l ↦ l.1 ++ "=\"" ++ l.2 ++ "\"")
  if labels.isEmpty then name ++ " " ++ value
  else name ++ "\x7b" ++ labelText ++ "\x7d " ++ value

/-- A counter without labels. -/
def counter (name help : String) (value : Nat) : List String :=
  heading name help "counter" ++ [sample name [] (Numeral.write value)]

/-- The name of the samples for the time since the process started. -/
def uptimeName : String := "txgate_uptime_seconds"

/-- The boundary of a bucket. -/
def boundaryText : Option Float → String
  | some le => Decimal.write le
  | none => "+Inf"

/-- The samples of one endpoint's latencies. -/
def latencySamples (name : String) (h : Histogram) : List String :=
  h.cumulative.map (fun bucket ↦
    sample "txgate_request_duration_ms_bucket"
      [("endpoint", name), ("le", boundaryText bucket.1)] (Numeral.write bucket.2)) ++
  [sample "txgate_request_duration_ms_sum" [("endpoint", name)] (Decimal.write h.sum),
    sample "txgate_request_duration_ms_count" [("endpoint", name)] (Numeral.write h.count)]

/-- All lines, after `uptime` whole seconds. -/
def lines (r : Registry) (uptime : Nat) : List String :=
  counter "txgate_contention_total" "Lock conflicts surfaced to callers" r.contention ++
  counter "txgate_masked_contention_total"
    "Lock conflicts masked during account initialization" r.maskedContention ++
  counter "txgate_schema_retries_total" "Schema creation retries" r.schemaRetries ++
  heading uptimeName "Server uptime in seconds" "gauge" ++
  [sample uptimeName [] (Numeral.write uptime)] ++
  heading "txgate_errors_total" "Failures by kind" "counter" ++
  r.errorsByKind.map (fun entry ↦
    sample "txgate_errors_total" [("kind", entry.1)] (Numeral.write entry.2)) ++
  heading "txgate_requests_total" "Requests per endpoint" "counter" ++
  r.endpoints.map (fun entry ↦
    sample "txgate_requests_total" [("endpoint", entry.1)] (Numeral.write entry.2.requests)) ++
  heading "txgate_request_errors_total" "Failed requests per endpoint" "counter" ++
  r.endpoints.map (fun entry ↦
    sample "txgate_request_errors_total" [("endpoint", entry.1)]
      (Numeral.write entry.2.errors)) ++
  heading "txgate_request_duration_ms" "Request duration in milliseconds" "histogram" ++
  r.endpoints.flatMap fun entry ↦ latencySamples entry.1 entry.2.latency

/-- All lines as one text. -/
def render (r : Registry) (uptime : Nat) : String :=
  String.join ((lines r uptime).map (· ++ "\n"))

end Turnstile.Metrics.Exposition
