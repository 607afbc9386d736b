import BrowserSessions.Http.Message
import BrowserSessions.Http.Bind
import BrowserSessions.TaskLoop
import BrowserSessions.Launch
import BrowserSessions.Search.Suggest
import BrowserSessions.Stream
import BrowserSessions.Domains
import BrowserSessions.Settings
import BrowserSessions.Logging

/-!
# Api.Service

The state behind the service's routes, and the way a route's work reaches the session registry.

All work on the registry goes through the session loop. A call fails without running when the
loop is closed, or when the request's caller has already given up (the loop being busy). A call
that runs may change the registry; every snapshot it publishes then reaches the stream's hub,
and what it did is counted in the metrics. With metrics kept, each call is counted by its
operation and outcome, and a failed call also by its error code.

Failures reach the client as an envelope `{"success":false,"error":...,"code":...}` whose status
follows the code.
-/

namespace BrowserSessions.Api

open Http

/-- Why work on the registry failed. -/
inductive CallError where
  /-- The loop is closed. -/
  | closed
  /-- The caller gave up before the loop took the work. -/
  | cancelled
  /-- The registry refused. -/
  | session (e : RegistryError)
  /-- The work panicked with a value. -/
  | panicked (value : String)

namespace CallError

/-- The error code clients switch on. -/
def code : CallError → String
  | .closed => "unavailable"
  | .cancelled => "timeout"
  | .session .notFound => "not_found"
  | .session .noActiveSession => "no_active_session"
  | .panicked _ => "internal"

/-- The error text. -/
def message : CallError → String
  | .closed => TaskLoop.closedMessage
  | .cancelled => "context canceled"
  | .session e => e.message
  | .panicked v => TaskLoop.panicMessage v

end CallError

/-- The status of an error code. -/
def statusOf : String → Nat
  | "not_found" | "no_active_session" => 404
  | "unavailable" => 503
  | "timeout" => 504
  | "invalid_argument" => 400
  | "already_exists" => 409
  | "upstream" => 502
  | _ => 500

/-- The failure envelope. -/
def failure (status : Nat) (message code : String) : Response :=
  Response.ofJson status (.obj [("success", .bool false), ("error", .str message), ("code", .str code)])

/-- The failure envelope of a code, with the code's status. -/
def failWith (code message : String) : Response := failure (statusOf code) message code

/-- A refused request. -/
def badRequest (message : String) : Response := failWith "invalid_argument" message

/-- The code of a domain list error. -/
def domainCode : Domains.DomainError → String
  | .duplicate => "already_exists"
  | _ => "invalid_argument"

/-- Everything the routes work on. -/
structure Service where
  loop : TaskLoop := {}
  catalog : Search.Catalog
  settings : Settings := {}
  domains : DomainList := {}
  suggester : Search.Suggester := {}
  /-- What the suggestion endpoint answers. -/
  upstream : Search.UpstreamReply := {}
  /-- The targets the suggestion endpoint saw, oldest first. -/
  upstreamCalls : List String := []
  metrics : Option Metrics := none
  hub : Option Hub := none
  customTabs : Bool := true
  /-- The level the service logs at. -/
  logLevel : LogLevel := .info
  /-- The current instant, in nanoseconds. -/
  clock : Nat := 0

namespace Service

/-- The engines with the user's choice. -/
def engines (svc : Service) : Search.Manager :=
  { catalog := svc.catalog, preference := some svc.settings.defaultEngine }

/-- What intents lean on. -/
def launchServices (svc : Service) : LaunchServices :=
  { customTabs := if svc.customTabs then some CustomTab.parser else none,
    searchUrls := some svc.engines.urlBuilder }

/-- The milliseconds of the clock, for identifiers and creation times. -/
def millis (svc : Service) : Nat := svc.clock / 1000000

/-- Hands what the registry published since `before` to the hub, and counts what it did. -/
def commit (svc : Service) (before : Nat) (r : Registry) : Service :=
  let observe := fun (_ : Nat) (snap : Snapshot) (st : Registry × Option Hub × Option Metrics) =>
    match st.2.1 with
    | some hub => let (hub, m) := hub.publish st.2.2 snap; (st.1, some hub, m)
    | none => st
  let (r, hub, metrics) := Registry.settle observe before (r, svc.hub, svc.metrics)
  let metrics := metrics.map (·.recordEvents r.events.reverse)
  { svc with loop := { svc.loop with registry := { r with events := [] } }, hub, metrics }

/-- Runs work on the registry through the loop, without counting it. -/
def submit {α : Type} (svc : Service) (cancelled : Bool) (task : Registry → Except CallError (α × Registry)) :
    Except CallError α × Service :=
  if svc.loop.closed then (.error .closed, svc)
  else if cancelled then (.error .cancelled, svc)
  else
    let before := svc.loop.registry.version
    match task svc.loop.registry with
    | .error e => (.error e, svc)
    | .ok (a, r) => (.ok a, svc.commit before r)

/-- Runs an operation on the registry through the loop and counts it. -/
def call {α : Type} (svc : Service) (cancelled : Bool) (op : String)
    (task : Registry → Except CallError (α × Registry)) : Except CallError α × Service :=
  let (result, svc) := svc.submit cancelled task
  let metrics := svc.metrics.map fun m =>
    match result with
    | .ok _ => m.recordCall "session_loop" op "success" 0
    | .error e => (m.recordFailure "session_loop" op e.code).recordCall "session_loop" op "error" 0
  (result, { svc with metrics })

end Service

end BrowserSessions.Api
