import BrowserSessions.Http.Message
import BrowserSessions.Text.Case

/-!
# Http.Cors

Which other origins may call the service from a browser, and the headers that tell the browser
so.

A request without an `Origin` header, or whose origin is the service's own host over `http` or
`https`, is not a cross-origin request and passes untouched. Any other origin must be allowed,
else the request is refused with `403`. An allowed `OPTIONS` request is a preflight: it is
answered at once with `204` and the methods, headers and lifetime allowed. An allowed request of
another method goes on, with the headers a browser may read named.

When every origin is allowed the answers say `*`; otherwise they name the caller's origin and
mark that the answer varies with it. Lists given to a policy are trimmed, lowercased and freed of
repeats; header names are then written in canonical form and methods in upper case. An origin
list that holds `*` allows every origin. Every other listed origin must start with `http://` or
`https://`, or hold a `*`.
-/

namespace BrowserSessions.Http

/-- What callers from other origins may do. -/
structure CorsPolicy where
  anyOrigin : Bool
  /-- The allowed origins, when not every origin is. -/
  origins : List String
  methods : List String
  headers : List String
  /-- The response headers a browser may read. -/
  exposed : List String
  /-- How long a preflight answer may be kept, in seconds. -/
  maxAge : Nat

/-- What the policy makes of a request. -/
inductive CorsVerdict where
  /-- Not a cross-origin request: nothing changes. -/
  | sameOrigin
  /-- The origin is not allowed. -/
  | refused
  /-- An allowed preflight, answered with these headers. -/
  | preflight (headers : List (String × List String))
  /-- An allowed request, which goes on with these headers. -/
  | allowed (headers : List (String × List String))

/-- Trims, lowercases and drops repeats, keeping first occurrences. -/
def distinctLower (values : List String) : List String :=
  values.foldl (fun acc v =>
    let v := Text.lowerString (Text.trimSpace v)
    if acc.contains v then acc else acc ++ [v]) []

/-- The methods the service allows across origins. -/
def defaultMethods : List String := ["GET", "POST", "PUT", "DELETE", "OPTIONS"]

/-- The request headers the service allows across origins. -/
def defaultHeaders : List String :=
  ["Content-Type", "Content-Length", "Accept", "Origin", "Cache-Control", "X-Request-ID"]

/-- The message of an origin that is neither `*`-bearing nor `http`/`https`. -/
def badOriginMessage : String :=
  let q := String.singleton (Char.ofNat 39)
  "bad origin: origins must contain " ++ q ++ "*" ++ q ++ " or include http://,https://"

namespace CorsPolicy

/-- The service's policy for a list of allowed origins; an empty list, or one that is just `*`,
    allows every origin. Fails on an origin that can never match. -/
def forOrigins (origins : List String) : Except String CorsPolicy :=
  let every := origins.isEmpty || origins == ["*"]
  let listed := if every then [] else origins
  if listed.any fun o => !o.contains '*' && !(o.startsWith "http://" || o.startsWith "https://") then
    .error badOriginMessage
  else
    .ok { anyOrigin := every || listed.contains "*", origins := distinctLower listed,
          methods := (distinctLower defaultMethods).map String.toUpper,
          headers := (distinctLower defaultHeaders).map canonicalName,
          exposed := (distinctLower ["X-Request-ID"]).map canonicalName,
          maxAge := 12 * 60 * 60 }

/-- Whether an origin may call. -/
def allows (p : CorsPolicy) (origin : String) : Bool := p.anyOrigin || p.origins.contains origin

/-- The headers of an allowed preflight. -/
def preflightHeaders (p : CorsPolicy) (origin : String) : List (String × List String) :=
  [("Access-Control-Allow-Methods", [",".intercalate p.methods]),
   ("Access-Control-Allow-Headers", [",".intercalate p.headers]),
   ("Access-Control-Max-Age", [toString p.maxAge])] ++
  if p.anyOrigin then [("Access-Control-Allow-Origin", ["*"])]
  else [("Vary", ["Origin", "Access-Control-Request-Method", "Access-Control-Request-Headers"]),
        ("Access-Control-Allow-Origin", [origin])]

/-- The headers of an allowed request. -/
def requestHeaders (p : CorsPolicy) (origin : String) : List (String × List String) :=
  (if p.exposed.isEmpty then [] else [("Access-Control-Expose-Headers", [",".intercalate p.exposed])]) ++
  if p.anyOrigin then [("Access-Control-Allow-Origin", ["*"])]
  else [("Vary", ["Origin"]), ("Access-Control-Allow-Origin", [origin])]

/-- What the policy makes of a request. -/
def judge (p : CorsPolicy) (req : Request) : CorsVerdict :=
  let origin := req.header "Origin"
  if origin.isEmpty || origin == "http://" ++ req.host || origin == "https://" ++ req.host then .sameOrigin
  else if !p.allows origin then .refused
  else if req.method == "OPTIONS" then .preflight (p.preflightHeaders origin)
  else .allowed (p.requestHeaders origin)

end CorsPolicy

end BrowserSessions.Http
