import BrowserSessions.Search.Manager
import BrowserSessions.Breaker
import BrowserSessions.Metrics
import BrowserSessions.Json.Parse
import BrowserSessions.Text.Quote

/-!
# Search.Suggest

Query suggestions from the default engine's suggestion endpoint.

Nothing is asked, and nothing is suggested, for an empty query, while the user has suggestions
turned off, or when the default engine has no suggestion endpoint. A request whose caller has
already given up fails before anything is asked.

Each engine has a circuit breaker. While it is open the endpoint is not asked. A call that fails
counts against the breaker, a call that gets an answer resets it; an answer that does not read as
suggestions does not count.

A call is tried again, up to `retryMax` more times, while the endpoint answers `429` or a `5xx`
other than `501`; when the tries run out the call fails. Any other answer of `400` or above fails
with its status. Otherwise the answer must be a JSON array `[query, [suggestion, ...], ...]`; the
suggestions are its second item's non-empty strings, cut to `maxResults` when that is positive.
-/

namespace BrowserSessions.Search

/-- How suggestions are fetched. -/
structure SuggestConfig where
  retryMax : Int := 2
  maxResults : Int := 5
  breakerThreshold : Int := 5
  /-- How long an open breaker stays open, in nanoseconds. -/
  breakerCooldown : Int := 30 * 1000000000

/-- What the suggestion endpoint answers to every call. -/
structure UpstreamReply where
  status : Nat := 200
  body : String := "[\"q\",[]]"

/-- Why an answer did not read as suggestions. -/
inductive ListProblem where
  /-- The answer is not JSON, or not an array. -/
  | decode
  /-- The array has fewer than two items. -/
  | tooShort (items : Nat)
  /-- The second item is not a list; the type it has. -/
  | notList (typeName : String)

/-- Why suggestions could not be had. -/
inductive SuggestError where
  /-- The caller gave up before the endpoint was asked. -/
  | cancelled
  /-- The engine's breaker is open. -/
  | circuitOpen (engine : String)
  /-- The endpoint refused the call with a status. -/
  | status (engine : String) (code : Nat)
  /-- The tries ran out on answers worth trying again. -/
  | gaveUp (engine : String) (url : String) (attempts : Nat)
  /-- The answer did not read as suggestions. -/
  | unreadable (engine : String) (problem : ListProblem)

namespace ListProblem

/-- The problem's text. -/
def message : ListProblem → String
  | .decode => "invalid suggestion document"
  | .tooShort n => "expected at least 2 elements, got " ++ toString n
  | .notList t => "suggestion list has type " ++ t

end ListProblem

namespace SuggestError

/-- The error text. -/
def message : SuggestError → String
  | .cancelled => "rate limit error: context canceled"
  | .circuitOpen e => "suggestions from " ++ e ++ ": circuit breaker is open"
  | .status e code => "suggestion endpoint " ++ e ++ " returned " ++ toString code
  | .gaveUp e url n =>
    "failed to fetch suggestions from " ++ e ++ ": Get " ++ Text.quote url ++ ": GET " ++ url ++
      " giving up after " ++ toString n ++ " attempt(s)"
  | .unreadable e p => "failed to parse suggestions from " ++ e ++ ": " ++ p.message

/-- Whether the error is an open breaker. -/
def isCircuitOpen : SuggestError → Bool
  | .circuitOpen _ => true
  | _ => false

end SuggestError

/-- The type name of an untyped value, as a formatter of types writes it. -/
def untypedName : Json → String
  | .null => "<nil>"
  | .bool _ => "bool"
  | .int _ | .float _ => "float64"
  | .str _ => "string"
  | .arr _ => "[]interface \x7b\x7d"
  | .obj _ => "map[string]interface \x7b\x7d"

/-- Reads the suggestions of an answer. -/
def readSuggestions (body : String) : Except ListProblem (List String) :=
  match Json.parse body with
  | .error _ => .error .decode
  | .ok doc =>
    let items? := match doc with
      | .null => some []
      | .arr xs => some xs
      | _ => none
    match items? with
    | none => .error .decode
    | some items =>
      match items with
      | _ :: list :: _ =>
        match list with
        | .arr xs => .ok (xs.filterMap fun
            | .str s => if s.isEmpty then none else some s
            | _ => none)
        | other => .error (.notList (untypedName other))
      | _ => .error (.tooShort items.length)

/-- Whether an answer's status is worth another try. -/
def retryable (status : Nat) : Bool := status == 429 || status == 0 || (500 ≤ status && status != 501)

/-- Whether a status carries no body. -/
def bodiless (status : Nat) : Bool := status < 200 || status == 204 || status == 304

/-- The request target an endpoint sees for an address. -/
def requestTarget (url : String) : String :=
  match Url.parseString url with
  | .error _ => url
  | .ok a =>
    let path := a.escapedPath
    let path := if path.isEmpty then Bytes.ofString "/" else path
    let query := if a.forceQuery || !a.rawQuery.isEmpty then Url.byte '?' :: a.rawQuery else []
    Bytes.toStringLossy (path ++ query)

/-- The address as a client writes it back. -/
def clientText (url : String) : String :=
  match Url.parseString url with
  | .error _ => url
  | .ok a => Bytes.toStringLossy a.render

/-- The suggestion client: its settings and one breaker per engine. -/
structure Suggester where
  config : SuggestConfig := {}
  breakers : List Breaker := []

/-- What one lookup did: its outcome and the targets the endpoint saw, in order. -/
structure Lookup where
  result : Except SuggestError (List String)
  calls : List String := []

namespace Suggester

/-- The breaker of an engine, fresh when it has none yet. -/
def breaker (s : Suggester) (engine : String) : Breaker :=
  match s.breakers.find? (·.name == engine) with
  | some b => b
  | none => Breaker.create engine s.config.breakerThreshold s.config.breakerCooldown

/-- Replaces the breaker of an engine. -/
def withBreaker (s : Suggester) (b : Breaker) : Suggester :=
  if s.breakers.any (·.name == b.name) then
    { s with breakers := s.breakers.map fun x => if x.name == b.name then b else x }
  else { s with breakers := s.breakers ++ [b] }

/-- Calls an endpoint, trying again while the answers allow it: the answer or the failure, and
    the number of tries. -/
def fetch (s : Suggester) (engine url : String) (reply : UpstreamReply) :
    Except SuggestError String × Nat :=
  let tries := if reply.status == 0 || retryable reply.status then (max s.config.retryMax 0).toNat + 1 else 1
  if retryable reply.status then (.error (.gaveUp engine (clientText url) tries), tries)
  else if reply.status > 399 then (.error (.status engine reply.status), tries)
  else (.ok (if bodiless reply.status then "" else reply.body), tries)

/-- Looks up suggestions for a query at an instant. `enabled` is the user's choice, `cancelled`
    whether the caller already gave up, `reply` what the endpoint answers. -/
def suggest (s : Suggester) (m : Manager) (metrics : Option Metrics) (enabled : Bool)
    (query : Bytes) (cancelled : Bool) (now : Nat) (reply : UpstreamReply) :
    Lookup × Suggester × Option Metrics :=
  if query.isEmpty || !enabled then ({ result := .ok [] }, s, metrics)
  else
    match m.defaultEngine? with
    | none => ({ result := .ok [] }, s, metrics)
    | some engine =>
      let endpoint := engine.suggestUrlOf query
      if endpoint.isEmpty then ({ result := .ok [] }, s, metrics)
      else if cancelled then ({ result := .error .cancelled }, s, metrics)
      else
        let b := s.breaker engine.id
        let (allowed, b, _) := b.allow now
        if !allowed then
          ({ result := .error (.circuitOpen engine.id) }, s.withBreaker b,
            metrics.map (·.recordFailure "suggest" engine.id "circuit_open"))
        else
          let (fetched, tries) := s.fetch engine.id endpoint reply
          let calls := List.replicate tries (requestTarget endpoint)
          let (b, _) := b.record now fetched.toBool
          let s := s.withBreaker b
          match fetched with
          | .error e =>
            let kind := match e with
              | .status _ _ => "status"
              | _ => "transport"
            ({ result := .error e, calls }, s,
              metrics.map fun mt => (mt.recordCall "suggest" engine.id "error" 0).recordFailure "suggest" engine.id kind)
          | .ok body =>
            let metrics := metrics.map (·.recordCall "suggest" engine.id "success" 0)
            match readSuggestions body with
            | .error p => ({ result := .error (.unreadable engine.id p), calls }, s, metrics)
            | .ok xs =>
              let xs := if s.config.maxResults > 0 then xs.take s.config.maxResults.toNat else xs
              ({ result := .ok xs, calls }, s, metrics)

end Suggester

end BrowserSessions.Search
