import BrowserSessions.Api.App
import BrowserSessions.Config
import BrowserSessions.Clock

/-!
# Server

The service assembled from its settings, and what its start-up writes.

Start-up builds the logger first: production lines are JSON at `info` with repeated lines
sampled, development lines are console text at `debug`; a level that is set replaces the default
one. Then it loads the engine catalog (the bundled one, or the configured file), seeds the
preferences and the custom domains, starts the snapshot stream on the registry, and puts the
routes behind the request identifier, monitoring, the cross-origin policy (every origin unless
origins are listed) and, when enabled, a per-client request limit. Each step that fails stops
start-up with its reason, after the lines already written.

A development router also writes console lines: a warning that it runs in debug mode, and one
line for each route it registers.

Listening checks the port the way a network stack reads it: a decimal number, signed or not,
within `0`–`65535`; a port that is not a number names a service that is not known here.
-/

namespace BrowserSessions

/-- The service's name on every production log line. -/
def serviceName : String := "focus-sessions"

/-- A line the service writes to its log: a logged message with its fields, or plain console
    text. -/
inductive LogLine where
  | entry (level : LogLevel) (message : String) (fields : List (String × Json))
  | console (text : String)

/-- Why the server could not be made. -/
inductive StartError where
  | logger (e : LoggerError)
  | catalog (e : Search.CatalogError)
  /-- The cross-origin policy cannot be made; start-up stops with this message. -/
  | origins (message : String)

/-- The text of a start-up error. -/
def StartError.message : StartError → String
  | .logger e => "failed to create logger: " ++ e.message
  | .catalog e => "failed to load search engines: " ++ e.message
  | .origins m => m

/-- The logger settings of the service. -/
def serviceLogger (c : LogConfig) : LoggerConfig :=
  let base : LoggerConfig :=
    if c.development then { level := "debug", development := true, outputPaths := ["stdout"] }
    else { level := "info", sampling := true, outputPaths := ["stdout"] }
  if c.level.isEmpty then base else { base with level := c.level }

/-- Where the catalog came from, as the log names it. -/
def catalogSource (c : SearchConfig) : String :=
  if c.enginesFile.isEmpty then "bundled" else c.enginesFile

/-- The console lines of a development router when it is made. -/
def debugModeWarning : List LogLine :=
  [.console "[WARNING] Running in debug mode. Switch to release mode in production.",
   .console " - using env:\texport ROUTER_MODE=release",
   .console " - using code:\tSetMode(ReleaseMode)",
   .console ""]

/-- The console line of a route a development router registers, with its number of handlers. -/
def routeLine (layers : Nat) (route : Api.Route) : LogLine :=
  let (method, pattern, e) := route
  .console ("[debug] " ++ method ++ String.ofList (List.replicate (7 - min 7 method.length) ' ') ++
    pattern ++ " --> " ++ (reprStr e) ++ " (" ++ toString (layers + 1) ++ " handlers)")

/-- An assembled server. -/
structure Server where
  config : Config
  logger : Logger
  app : Api.App

/-- What start-up did: the lines written, and the server or why there is none. -/
structure Startup where
  log : List LogLine := []
  result : Except StartError Server

/-- The suggestion client's settings. -/
def suggestSettings (c : SuggestConfig) : Search.SuggestConfig :=
  { retryMax := c.retryMax, maxResults := c.maxResults, breakerThreshold := c.breakerThreshold,
    breakerCooldown := c.breakerCooldown }

/-- Assembles the server at an instant, in nanoseconds; `catalogFile` is what reading the
    configured catalog file gave. -/
def Server.start (cfg : Config) (catalogFile : Except String String) (now : Nat) : Startup :=
  match Logger.build (serviceLogger cfg.logging) (fun _ => none) with
  | .error e => { result := .error (.logger e) }
  | .ok logger =>
    let emit := fun (log : List LogLine) (level : LogLevel) (message : String) (fields : List (String × Json)) =>
      if logger.level.enables level then log ++ [LogLine.entry level message fields] else log
    let log := emit [] .info "Initializing session server"
      [("port", .str cfg.server.port), ("log_level", .str cfg.logging.level)]
    let catalog :=
      if cfg.search.enginesFile.isEmpty then .ok Search.bundledCatalog
      else Search.loadCatalogFile cfg.search.enginesFile catalogFile
    match catalog with
    | .error e => { log, result := .error (.catalog e) }
    | .ok catalog =>
      let log := emit log .info "Search catalog loaded"
        [("engines", .int catalog.engines.length), ("source", .str (catalogSource cfg.search))]
      let svc : Api.Service :=
        { catalog, settings := Settings.seeded cfg.search.suggestionsEnabled cfg.search.defaultEngine,
          domains := DomainList.seeded (cfg.autocomplete.domains.getD []),
          suggester := { config := suggestSettings cfg.suggest },
          metrics := some Metrics.fresh, logLevel := logger.level, clock := now }
      let (hub, r) := ({} : Hub).start svc.loop.registry
      let svc := { svc with hub := some hub, loop := { svc.loop with registry := r } }
      let log := if logger.development then log ++ debugModeWarning else log
      let origins := match cfg.server.corsOrigins with
        | some (o :: os) => o :: os
        | _ => ["*"]
      match Http.CorsPolicy.forOrigins origins with
      | .error m => { log, result := .error (.origins m) }
      | .ok _ =>
        let limited := cfg.rateLimit.enabled
        let log := if limited then
            emit log .info "Rate limiting enabled"
              [("rps", .int cfg.rateLimit.requestsPerSecond), ("burst", .int cfg.rateLimit.burst)]
          else log
        let limit := if limited then
            some (RequestLimit.create cfg.rateLimit.requestsPerSecond cfg.rateLimit.burst false
              (10 * 60 * 1000000000) now)
          else none
        let routes := Api.apiRoutes ++ Api.serverRoutes
        let layers : Api.Layers := { requestIds := true, corsOrigins := some origins, limit }
        match Api.App.create svc routes layers with
        | .error m => { log, result := .error (.origins m) }
        | .ok app =>
          let log := if logger.development then log ++ routes.map (routeLine (if limited then 6 else 5)) else log
          let log := emit log .info "Server initialized successfully" []
          { log, result := .ok { config := cfg, logger, app } }

/-! ## Listening -/

/-- How a network stack reads a port: a number, possibly signed and saturating far out of
    range, or none when the text needs a service lookup. -/
def readPort (s : String) : Option Int :=
  if s.isEmpty then some 0
  else
    let (neg, digits) := match s.toList with
      | '+' :: rest => (false, rest)
      | '-' :: rest => (true, rest)
      | cs => (false, cs)
    if !digits.all Char.isDigit then none
    else
      let n : Nat := digits.foldl (fun (n : Nat) c => min (n * 10 + (c.toNat - 48)) (Nat.pow 2 32)) 0
      let n : Int := if !neg && n ≥ Nat.pow 2 30 then Nat.pow 2 30 - 1 else if neg && n > Nat.pow 2 30 then Nat.pow 2 30 else n
      some (if neg then -n else n)

/-- Why a port cannot be listened on, if it cannot. -/
def portProblem (port : String) : Option String :=
  match readPort port with
  | none => some ("listen tcp: lookup tcp/" ++ port ++ ": unknown port")
  | some n => if n < 0 || n > 65535 then some ("listen tcp: address " ++ port ++ ": invalid port") else none

/-- The address of a host and port, with an IPv6 host in brackets. -/
def joinHostPort (host port : String) : String :=
  if host.contains ':' then "[" ++ host ++ "]:" ++ port else host ++ ":" ++ port

/-- What listening did: the lines written, and the reason the server stopped, or none while
    it serves. -/
structure Listening where
  log : List LogLine
  failure : Option String

/-- The lines a server writes when it shuts down. -/
def Server.shutdownLog (s : Server) : List LogLine :=
  if s.logger.level.enables .info then [.entry .info "Shutting down server..." []] else []

/-- Starts listening; a port that cannot be listened on stops the server, which then shuts
    down. -/
def Server.listen (s : Server) : Listening :=
  let addr := joinHostPort s.config.server.host s.config.server.port
  let log := if s.logger.level.enables .info then [.entry .info "Starting HTTP server" [("addr", .str addr)]]
    else []
  match portProblem s.config.server.port with
  | some problem => { log := log ++ s.shutdownLog, failure := some ("http server failed: " ++ problem) }
  | none => { log, failure := none }

/-- The address and port a server listens on: its host read as an IP address, every IPv4
    address for an empty host and the loopback address for `localhost`; or why it cannot
    listen there. -/
def Server.listenAddress (s : Server) : Except String (Http.IpAddress × Nat) :=
  let port := s.config.server.port
  match portProblem port with
  | some problem => .error problem
  | none =>
    let host := s.config.server.host
    let host := if host.isEmpty then "0.0.0.0" else if host == "localhost" then "127.0.0.1" else host
    match Http.parseIp host with
    | some ip => .ok (ip, ((readPort port).getD 0).toNat)
    | none => .error ("listen tcp: lookup " ++ host ++ ": no such host")

/-! ## Writing log lines -/

/-- The name of a level as console lines write it. -/
def LogLevel.upperName (l : LogLevel) : String := l.name.toUpper

/-- A log line as the logger writes it at an instant in milliseconds: a JSON object for
    production, tab-separated text for development. -/
def LogLine.render (development : Bool) (ms : Nat) : LogLine → String
  | .console text => text
  | .entry level message fields =>
    if development then
      Clock.logStamp ms ++ "\t" ++ level.upperName ++ "\t" ++ message ++
        (if fields.isEmpty then "" else "\t" ++ Json.compact (.obj fields))
    else
      Json.compact (.obj ([("level", .str level.name), ("timestamp", .str (Clock.logStamp ms)),
        ("message", .str message), ("service", .str serviceName)] ++ fields))

end BrowserSessions
