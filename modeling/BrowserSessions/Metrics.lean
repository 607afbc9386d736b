import BrowserSessions.Json.Basic
import BrowserSessions.Decimal.Text
import BrowserSessions.Registry

/-!
# Metrics

The service's counters, gauges and histograms, and the running totals its health report shows.

A family has a name, a help text, a kind and the names of its labels. A series is one family with
one value for each label; it exists once something was recorded for it, except that a family
without labels has its one series from the start. Labels are kept sorted by name. A histogram
series counts its observations, sums them, and counts per bucket the observations at most the
bucket's bound. A counter counts whole increments exactly and shows them added to the sum of its
other increments, as the client library's counters keep an integer beside a float.

Written out in the text exposition format, families come in name order, and the series of a
family in the order of their label values.
-/

namespace BrowserSessions

/-- What kind of values a family holds. -/
inductive MetricKind where
  | counter
  | gauge
  /-- Observations counted against these upper bounds. -/
  | histogram (bounds : List Float)

/-- A family of series. -/
structure MetricFamily where
  name : String
  help : String
  kind : MetricKind
  labels : List String

/-- One series: a family with values for its labels. -/
structure Series where
  family : String
  /-- The labels, sorted by name. -/
  labels : List (String × String)
  /-- A gauge's value; a histogram's sum; the sum of a counter's increments that are not whole. -/
  value : Float := 0
  /-- A histogram's number of observations; a counter's whole increments. -/
  count : Nat := 0
  /-- A histogram's observations at most each bound, in the order of the bounds. -/
  buckets : List Nat := []

namespace Metrics

/-- The bounds of the request duration histogram, in seconds. -/
def durationBounds : List Float := [0.001, 0.005, 0.01, 0.025, 0.05, 0.1, 0.25, 0.5, 1, 2.5, 5, 10]

/-- The bounds of the size histograms, in bytes. -/
def sizeBounds : List Float := [100, 1000, 10000, 100000, 1000000]

/-- The bounds of the outbound call duration histogram, in seconds. -/
def serviceBounds : List Float := [0.005, 0.01, 0.025, 0.05, 0.1, 0.25, 0.5, 1, 2.5, 5]

/-- Every family the service keeps. -/
def families : List MetricFamily := [
  ⟨"browser_http_requests_total", "Total number of HTTP requests", .counter, ["method", "path", "status"]⟩,
  ⟨"browser_http_request_duration_seconds", "HTTP request duration in seconds", .histogram durationBounds,
    ["method", "path"]⟩,
  ⟨"browser_http_request_size_bytes", "HTTP request size in bytes", .histogram sizeBounds, ["method", "path"]⟩,
  ⟨"browser_http_response_size_bytes", "HTTP response size in bytes", .histogram sizeBounds, ["method", "path"]⟩,
  ⟨"browser_sessions_active", "Number of open sessions", .gauge, []⟩,
  ⟨"browser_sessions_created_total", "Total number of sessions created", .counter, ["source"]⟩,
  ⟨"browser_sessions_removed_total", "Total number of sessions removed", .counter, []⟩,
  ⟨"browser_session_snapshots_total", "Total number of session list snapshots published", .counter, []⟩,
  ⟨"browser_intents_total", "Total number of intents handled", .counter, ["action", "outcome"]⟩,
  ⟨"browser_service_calls_total", "Total number of outbound service calls", .counter,
    ["service", "method", "status"]⟩,
  ⟨"browser_service_duration_seconds", "Outbound service call duration in seconds", .histogram serviceBounds,
    ["service", "method"]⟩,
  ⟨"browser_service_errors_total", "Total number of outbound service errors", .counter,
    ["service", "method", "error_type"]⟩,
  ⟨"browser_ws_connections", "Number of active WebSocket connections", .gauge, []⟩,
  ⟨"browser_ws_messages_total", "Total number of WebSocket messages", .counter, ["direction", "type"]⟩,
  ⟨"browser_ws_dropped_total", "Snapshots dropped for slow WebSocket clients", .counter, []⟩,
  ⟨"browser_uptime_seconds", "Backend uptime in seconds", .gauge, []⟩]

/-- The family of a name. -/
def family? (name : String) : Option MetricFamily := families.find? (·.name == name)

end Metrics

/-- The service's metrics. -/
structure Metrics where
  series : List Series
  totalRequests : Nat := 0
  totalErrors : Nat := 0
  activeSessions : Int := 0
  activeConnections : Int := 0

namespace Metrics

/-- Labels sorted by name. -/
def sortLabels (labels : List (String × String)) : List (String × String) :=
  labels.mergeSort fun a b => decide (a.1 ≤ b.1)

/-- Fresh metrics: one zero series for each family without labels. -/
def fresh : Metrics :=
  { series := (families.filter (·.labels.isEmpty)).map fun f => { family := f.name, labels := [] } }

/-- Changes a series, making it first when it does not exist yet. -/
def update (m : Metrics) (family : String) (labels : List (String × String)) (f : Series → Series) :
    Metrics :=
  let labels := sortLabels labels
  if m.series.any fun s => s.family == family && s.labels == labels then
    { m with series := m.series.map fun s => if s.family == family && s.labels == labels then f s else s }
  else
    let bounds := match family? family with
      | some { kind := .histogram bs, .. } => bs.length
      | _ => 0
    { m with series := m.series ++ [f { family, labels, buckets := List.replicate bounds 0 }] }

/-- Adds a whole number to a counter. -/
def add (m : Metrics) (family : String) (labels : List (String × String)) (n : Nat) : Metrics :=
  m.update family labels fun s => { s with count := s.count + n }

/-- Counts one more. -/
def inc (m : Metrics) (family : String) (labels : List (String × String)) : Metrics := m.add family labels 1

/-- Sets a gauge. -/
def set (m : Metrics) (family : String) (x : Float) : Metrics := m.update family [] fun s => { s with value := x }

/-- Records an observation in a histogram. -/
def observe (m : Metrics) (family : String) (labels : List (String × String)) (x : Float) : Metrics :=
  let bounds := match family? family with
    | some { kind := .histogram bs, .. } => bs
    | _ => []
  m.update family labels fun s =>
    { s with value := s.value + x, count := s.count + 1,
             buckets := (s.buckets.zip bounds).map fun (n, b) => if x ≤ b then n + 1 else n }

/-! ## What the service records -/

/-- Records a served request: its method, route, status, duration and sizes. -/
def recordRequest (m : Metrics) (method path : String) (status : Nat) (seconds : Float)
    (requestSize responseSize : Nat) : Metrics :=
  let route := [("method", method), ("path", path)]
  let m := m.inc "browser_http_requests_total" (route ++ [("status", toString status)])
  let m := m.observe "browser_http_request_duration_seconds" route seconds
  let m := m.observe "browser_http_request_size_bytes" route (Float.ofNat requestSize)
  let m := m.observe "browser_http_response_size_bytes" route (Float.ofNat responseSize)
  let failed := (toString status).startsWith "4" || (toString status).startsWith "5"
  { m with totalRequests := m.totalRequests + 1, totalErrors := m.totalErrors + (if failed then 1 else 0) }

/-- Records an outbound or loop call with its status and duration. -/
def recordCall (m : Metrics) (service method status : String) (seconds : Float) : Metrics :=
  let m := m.inc "browser_service_calls_total" [("service", service), ("method", method), ("status", status)]
  m.observe "browser_service_duration_seconds" [("service", service), ("method", method)] seconds

/-- Records a failed outbound or loop call. -/
def recordFailure (m : Metrics) (service method kind : String) : Metrics :=
  m.inc "browser_service_errors_total" [("service", service), ("method", method), ("error_type", kind)]

/-- Records a message on the snapshot stream. -/
def recordMessage (m : Metrics) (direction kind : String) : Metrics :=
  m.inc "browser_ws_messages_total" [("direction", direction), ("type", kind)]

/-- Records a stream client connecting (`+1`) or leaving (`-1`). -/
def shiftConnections (m : Metrics) (delta : Int) : Metrics :=
  let m := { m with activeConnections := m.activeConnections + delta }
  m.set "browser_ws_connections" (Float.ofInt m.activeConnections)

/-- Records what a registry change did. -/
def recordEvent (m : Metrics) : RegistryEvent → Metrics
  | .created source => m.inc "browser_sessions_created_total" [("source", source)]
  | .removed n => m.add "browser_sessions_removed_total" [] n
  | .published active =>
    let m := (m.set "browser_sessions_active" (Float.ofNat active)).inc "browser_session_snapshots_total" []
    { m with activeSessions := active }
  | .intent action outcome => m.inc "browser_intents_total" [("action", action), ("outcome", outcome)]

/-- Records registry events, oldest first. -/
def recordEvents (m : Metrics) (events : List RegistryEvent) : Metrics := events.foldl recordEvent m

/-- The totals of the health report. -/
def summary (m : Metrics) : Json :=
  let avg := if m.totalRequests == 0 then 0 else 0
  .obj [("total_requests", .int m.totalRequests), ("total_errors", .int m.totalErrors),
    ("active_sessions", .int m.activeSessions), ("active_connections", .int m.activeConnections),
    ("avg_duration_ms", .float avg), ("uptime_seconds", .float 0)]

/-! ## Text exposition -/

/-- A label value with backslash, quote and line feed escaped. -/
def escapeLabel (v : String) : String :=
  String.join (v.toList.map fun c =>
    if c == '\\' then "\\\\" else if c == '"' then "\\\"" else if c == '\n' then "\\n" else String.singleton c)

/-- Labels in braces, or nothing when there are none. -/
def labelText (labels : List (String × String)) : String :=
  if labels.isEmpty then ""
  else "\x7b" ++ ",".intercalate (labels.map fun (k, v) => k ++ "=\"" ++ escapeLabel v ++ "\"") ++ "\x7d"

/-- A sample value as the exposition format writes it. -/
def valueText (x : Float) : String := Decimal.generalText x

/-- Whether one list of label values sorts before another. -/
def labelsBefore (a b : List (String × String)) : Bool :=
  decide ((a.map (·.2)) < (b.map (·.2)))

/-- The lines of one series. -/
def seriesLines (f : MetricFamily) (s : Series) : List String :=
  match f.kind with
  | .histogram bounds =>
    (s.buckets.zip bounds).map (fun (n, b) =>
        f.name ++ "_bucket" ++ labelText (s.labels ++ [("le", valueText b)]) ++ " " ++ toString n) ++
      [f.name ++ "_bucket" ++ labelText (s.labels ++ [("le", "+Inf")]) ++ " " ++ toString s.count,
       f.name ++ "_sum" ++ labelText s.labels ++ " " ++ valueText s.value,
       f.name ++ "_count" ++ labelText s.labels ++ " " ++ toString s.count]
  | .counter => [f.name ++ labelText s.labels ++ " " ++ valueText (s.value + Float.ofNat s.count)]
  | .gauge => [f.name ++ labelText s.labels ++ " " ++ valueText s.value]

/-- The kind word of a family. -/
def kindWord : MetricKind → String
  | .counter => "counter"
  | .gauge => "gauge"
  | .histogram _ => "histogram"

/-- The exposition lines of the given families that have series, families in name order. -/
def exposition (m : Metrics) (names : List String) : List String :=
  let chosen := (families.filter fun f => names.contains f.name).mergeSort fun a b => decide (a.name ≤ b.name)
  chosen.flatMap fun f =>
    let series := (m.series.filter (·.family == f.name)).mergeSort fun a b => labelsBefore a.labels b.labels
    if series.isEmpty then []
    else ["# HELP " ++ f.name ++ " " ++ f.help, "# TYPE " ++ f.name ++ " " ++ kindWord f.kind] ++
      series.flatMap (seriesLines f)

end Metrics

/-! ## Series as data -/

/-- A number as JSON: an integer when the value is a whole number of moderate size. -/
def numberJson (x : Float) : Json :=
  if x == x.round && x.abs < 1e18 then .int x.toInt64.toInt else .float x

/-- The name of a series: its family and its labels, `family{k=v,...}`. -/
def Series.key (s : Series) : String :=
  s.family ++ "\x7b" ++ ",".intercalate (s.labels.map fun (k, v) => k ++ "=" ++ v) ++ "\x7d"

/-- A series as JSON: a counter's or gauge's value, a histogram's count and sum. -/
def Series.toJson (s : Series) : Json :=
  match Metrics.family? s.family with
  | some { kind := .histogram _, .. } => .obj [("count", .int s.count), ("sum", numberJson s.value)]
  | some { kind := .counter, .. } => numberJson (s.value + Float.ofNat s.count)
  | _ => numberJson s.value

end BrowserSessions
