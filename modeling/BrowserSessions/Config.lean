import BrowserSessions.Decimal.Read
import BrowserSessions.Duration
import BrowserSessions.Text.Case
import BrowserSessions.Json.Basic

/-!
# Config

The service's settings, read from environment variables.

Every setting has a tag, and belongs to a group named after its section (`SERVER`, `LOGGING`,
`RATELIMIT`, `SEARCH`, `SUGGEST`, `STREAM`, `AUTOCOMPLETE`). A setting is read from
`<GROUP>_<TAG>`, or when that is unset from `<TAG>`; a variable set to the empty text counts as
set. An unset setting takes its default, or stays empty (lists stay absent). Settings are read
section by section in order, and the first one that does not convert stops the reading.

Conversions: integers in the syntax of program source (64 bits), truth values by the
truth-value words, doubles by `Decimal.parseFloat`, durations by `Duration.parse`, lists split
at `,` without trimming (blank text gives an empty list).
-/

namespace BrowserSessions

/-- Where the server listens and whom it serves. -/
structure ServerConfig where
  port : String := ""
  host : String := ""
  corsOrigins : Option (List String) := none
  deriving DecidableEq, Repr

/-- How the service logs. -/
structure LogConfig where
  level : String := ""
  development : Bool := false
  deriving DecidableEq, Repr

/-- How requests are rate limited. -/
structure RateLimitConfig where
  requestsPerSecond : Int := 0
  burst : Int := 0
  enabled : Bool := false
  deriving DecidableEq, Repr

/-- The engine catalog and initial preferences. -/
structure SearchConfig where
  defaultEngine : String := ""
  enginesFile : String := ""
  suggestionsEnabled : Bool := false
  deriving DecidableEq, Repr

/-- The outbound suggestion client. Durations are in nanoseconds. -/
structure SuggestConfig where
  timeout : Int := 0
  requestsPerSecond : Float := 0
  retryMax : Int := 0
  maxResults : Int := 0
  breakerThreshold : Int := 0
  breakerCooldown : Int := 0

/-- The snapshot stream. -/
structure StreamConfig where
  buffer : Int := 0
  deriving DecidableEq, Repr

/-- The seed of the custom domain list. -/
structure AutocompleteConfig where
  domains : Option (List String) := none
  deriving DecidableEq, Repr

/-- All settings of the service. -/
structure Config where
  server : ServerConfig := {}
  logging : LogConfig := {}
  rateLimit : RateLimitConfig := {}
  search : SearchConfig := {}
  suggest : SuggestConfig := {}
  stream : StreamConfig := {}
  autocomplete : AutocompleteConfig := {}

namespace Config

/-- The settings used when the environment cannot be read. -/
def default : Config :=
  { server := { port := "8000", host := "0.0.0.0" }
    logging := { level := "info", development := false }
    rateLimit := { requestsPerSecond := 100, burst := 200, enabled := true }
    search := { suggestionsEnabled := false }
    suggest :=
      { timeout := 3 * Duration.second, requestsPerSecond := 10, retryMax := 2, maxResults := 5,
        breakerThreshold := 5, breakerCooldown := 30 * Duration.second }
    stream := { buffer := 16 } }

/-- Whether two configs are the same; doubles compare as numbers, so not-a-number differs from
    itself. -/
def same (a b : Config) : Bool :=
  a.server == b.server && a.logging == b.logging && a.rateLimit == b.rateLimit &&
    a.search == b.search && a.stream == b.stream && a.autocomplete == b.autocomplete &&
    a.suggest.timeout == b.suggest.timeout &&
    a.suggest.requestsPerSecond == b.suggest.requestsPerSecond &&
    a.suggest.retryMax == b.suggest.retryMax && a.suggest.maxResults == b.suggest.maxResults &&
    a.suggest.breakerThreshold == b.suggest.breakerThreshold &&
    a.suggest.breakerCooldown == b.suggest.breakerCooldown

end Config

/-- Environment variables, by name. -/
abbrev Environment := List (String × String)

/-- The value of a variable, when it is set. -/
def Environment.get? (env : Environment) (name : String) : Option String :=
  (env.find? (·.1 == name)).map (·.2)

/-- A setting that did not convert. -/
structure ConfigError where
  key : String
  field : String
  value : String
  typeName : String
  deriving DecidableEq, Repr

/-- The message of a config error. -/
def ConfigError.message (e : ConfigError) : String :=
  "failed to load config: envconfig.Process: assigning " ++ e.key ++ " to " ++ e.field ++
    ": converting \x27" ++ e.value ++ "\x27 to type " ++ e.typeName

namespace Config

/-- A setting: its group and tag, its field name, the name of its type, its default (empty for
    none) and how a value is stored. -/
structure Setting where
  group : String
  tag : String
  field : String
  typeName : String
  fallback : String
  store : Config → String → Option Config

/-- A 64-bit integer. -/
def readInt (v : String) : Option Int := (Text.parseInt v 64).toOption

/-- A list split at commas; blank text is the empty list. -/
def readList (v : String) : List String :=
  if (Text.trimSpace v).isEmpty then [] else v.splitOn ","

/-- The settings, in reading order. -/
def settings : List Setting :=
  [ ⟨"SERVER", "PORT", "Port", "string", "8000",
      fun c v => some { c with server.port := v }⟩,
    ⟨"SERVER", "HOST", "Host", "string", "0.0.0.0",
      fun c v => some { c with server.host := v }⟩,
    ⟨"SERVER", "CORS_ORIGINS", "CORSOrigins", "[]string", "",
      fun c v => some { c with server.corsOrigins := some (readList v) }⟩,
    ⟨"LOGGING", "LOG_LEVEL", "Level", "string", "info",
      fun c v => some { c with logging.level := v }⟩,
    ⟨"LOGGING", "LOG_DEV", "Development", "bool", "false",
      fun c v => (Text.parseBool v).map fun b => { c with logging.development := b }⟩,
    ⟨"RATELIMIT", "RATE_LIMIT_RPS", "RequestsPerSecond", "int", "100",
      fun c v => (readInt v).map fun n => { c with rateLimit.requestsPerSecond := n }⟩,
    ⟨"RATELIMIT", "RATE_LIMIT_BURST", "Burst", "int", "200",
      fun c v => (readInt v).map fun n => { c with rateLimit.burst := n }⟩,
    ⟨"RATELIMIT", "RATE_LIMIT_ENABLED", "Enabled", "bool", "true",
      fun c v => (Text.parseBool v).map fun b => { c with rateLimit.enabled := b }⟩,
    ⟨"SEARCH", "SEARCH_DEFAULT_ENGINE", "DefaultEngine", "string", "",
      fun c v => some { c with search.defaultEngine := v }⟩,
    ⟨"SEARCH", "SEARCH_ENGINES_FILE", "EnginesFile", "string", "",
      fun c v => some { c with search.enginesFile := v }⟩,
    ⟨"SEARCH", "SEARCH_SUGGESTIONS", "SuggestionsEnabled", "bool", "false",
      fun c v => (Text.parseBool v).map fun b => { c with search.suggestionsEnabled := b }⟩,
    ⟨"SUGGEST", "SUGGEST_TIMEOUT", "Timeout", "time.Duration", "3s",
      fun c v => (Duration.parse v).map fun d => { c with suggest.timeout := d }⟩,
    ⟨"SUGGEST", "SUGGEST_RPS", "RequestsPerSecond", "float64", "10",
      fun c v => (Decimal.parseFloat v).map fun x => { c with suggest.requestsPerSecond := x }⟩,
    ⟨"SUGGEST", "SUGGEST_RETRY_MAX", "RetryMax", "int", "2",
      fun c v => (readInt v).map fun n => { c with suggest.retryMax := n }⟩,
    ⟨"SUGGEST", "SUGGEST_MAX_RESULTS", "MaxResults", "int", "5",
      fun c v => (readInt v).map fun n => { c with suggest.maxResults := n }⟩,
    ⟨"SUGGEST", "SUGGEST_BREAKER_THRESHOLD", "BreakerThreshold", "int", "5",
      fun c v => (readInt v).map fun n => { c with suggest.breakerThreshold := n }⟩,
    ⟨"SUGGEST", "SUGGEST_BREAKER_COOLDOWN", "BreakerCooldown", "time.Duration", "30s",
      fun c v => (Duration.parse v).map fun d => { c with suggest.breakerCooldown := d }⟩,
    ⟨"STREAM", "WS_BUFFER", "Buffer", "int", "16",
      fun c v => (readInt v).map fun n => { c with stream.buffer := n }⟩,
    ⟨"AUTOCOMPLETE", "AUTOCOMPLETE_DOMAINS", "Domains", "[]string", "",
      fun c v => some { c with autocomplete.domains := some (readList v) }⟩ ]

/-- The names of the environment variables the settings read: each setting's grouped name,
    then its plain one. -/
def variableNames : List String := settings.flatMap fun s => [s.group ++ "_" ++ s.tag, s.tag]

/-- Reads one setting into a config. -/
def Setting.read (s : Setting) (env : Environment) (c : Config) : Except ConfigError Config :=
  let key := s.group ++ "_" ++ s.tag
  let found := match env.get? key with
    | some v => some v
    | none => env.get? s.tag
  let value := match found with
    | some v => some v
    | none => if s.fallback.isEmpty then none else some s.fallback
  match value with
  | none => .ok c
  | some v =>
    match s.store c v with
    | some c' => .ok c'
    | none => .error ⟨key, s.field, v, s.typeName⟩

/-- Reads the settings from the environment. -/
def load (env : Environment) : Except ConfigError Config :=
  settings.foldlM (fun c s => s.read env c) {}

/-- Reads the settings, or gives the defaults when they cannot be read. -/
def loadOrDefault (env : Environment) : Config :=
  match load env with
  | .ok c => c
  | .error _ => default

/-! ## The settings as JSON -/

/-- A list that may be absent: `null` when it is. -/
def optionalList : Option (List String) → Json
  | some xs => .arr (xs.map .str)
  | none => .null

/-- A double as JSON, with the non-finite values written as text. -/
def doubleJson (x : Float) : Json :=
  if x.isNaN then .str "NaN"
  else if x.isInf then .str (if x > 0 then "+Inf" else "-Inf")
  else .float x

/-- The settings as JSON, sections and fields under their exported names; durations are in
    nanoseconds. -/
def toJson (c : Config) : Json :=
  .obj [
    ("Server", .obj [("Port", .str c.server.port), ("Host", .str c.server.host),
      ("CORSOrigins", optionalList c.server.corsOrigins)]),
    ("Logging", .obj [("Level", .str c.logging.level), ("Development", .bool c.logging.development)]),
    ("RateLimit", .obj [("RequestsPerSecond", .int c.rateLimit.requestsPerSecond),
      ("Burst", .int c.rateLimit.burst), ("Enabled", .bool c.rateLimit.enabled)]),
    ("Search", .obj [("DefaultEngine", .str c.search.defaultEngine),
      ("EnginesFile", .str c.search.enginesFile),
      ("SuggestionsEnabled", .bool c.search.suggestionsEnabled)]),
    ("Suggest", .obj [("Timeout", .int c.suggest.timeout),
      ("RequestsPerSecond", doubleJson c.suggest.requestsPerSecond),
      ("RetryMax", .int c.suggest.retryMax), ("MaxResults", .int c.suggest.maxResults),
      ("BreakerThreshold", .int c.suggest.breakerThreshold),
      ("BreakerCooldown", .int c.suggest.breakerCooldown)]),
    ("Stream", .obj [("Buffer", .int c.stream.buffer)]),
    ("Autocomplete", .obj [("Domains", optionalList c.autocomplete.domains)])]

end Config

end BrowserSessions
