import BrowserSessions.Api.Handlers
import BrowserSessions.Api.Admin
import BrowserSessions.Http.RouteTree
import BrowserSessions.Http.Cors
import BrowserSessions.Http.Address
import BrowserSessions.RateLimit
import BrowserSessions.Identifier

/-!
# Api.App

The service as one request handler: the route table, the layers every request passes through,
and what a request that matches no route gets.

A request first finds its route in the tree of its method. When there is none, but the tree
suggests the path with a trailing slash added or removed, the client is redirected there at once
(`301` for `GET`, `307` otherwise) and nothing else runs. Every other request passes, in order:

1. the request identifier, when kept: the caller's `X-Request-ID`, or a fresh `req_` identifier,
   echoed in the response;
2. monitoring, when metrics are kept: the request's method, route pattern (`unmatched` without a
   route), status and sizes are counted once everything below has run;
3. the cross-origin policy, when one is set, which may refuse the request or answer a preflight;
4. the request limit, when one is set, which refuses a request beyond its rate with `429`;
5. the route's work, or, without a route, `404` with the text `404 page not found`.

A layer that answers stops the layers below it. Headers set by the layers stay on the answer.
-/

namespace BrowserSessions.Api

open Http

/-- What a route does. -/
inductive Endpoint where
  | root | health
  | listSessions | createSession | removeAllSessions
  | currentSession | removeCurrentSession
  | createSearchSession | loadInput
  | getSession | removeSession | selectSession | updateUrl
  | launchIntent | newIntent
  | listEngines | searchUrl | searchTerms | suggestions
  | getSettings | getSearchSuggestions | setSearchSuggestions | setSearchEngine
  | listDomains | addDomain | removeDomains | moveDomain | completeDomain
  | metricsText | logLevel | stream
  deriving DecidableEq, Repr

/-- A route: method, pattern, endpoint. -/
abbrev Route := String × String × Endpoint

/-- The routes of the session service, in the order they are registered. -/
def apiRoutes : List Route := [
  ("GET", "/", .root),
  ("GET", "/health", .health),
  ("GET", "/sessions", .listSessions),
  ("POST", "/sessions", .createSession),
  ("DELETE", "/sessions", .removeAllSessions),
  ("GET", "/sessions/current", .currentSession),
  ("DELETE", "/sessions/current", .removeCurrentSession),
  ("POST", "/sessions/search", .createSearchSession),
  ("POST", "/sessions/load", .loadInput),
  ("GET", "/sessions/:id", .getSession),
  ("DELETE", "/sessions/:id", .removeSession),
  ("POST", "/sessions/:id/select", .selectSession),
  ("PUT", "/sessions/:id/url", .updateUrl),
  ("POST", "/intents", .launchIntent),
  ("POST", "/intents/new", .newIntent),
  ("GET", "/search/engines", .listEngines),
  ("GET", "/search/url", .searchUrl),
  ("GET", "/search/terms", .searchTerms),
  ("GET", "/search/suggestions", .suggestions),
  ("GET", "/settings", .getSettings),
  ("GET", "/settings/search-suggestions", .getSearchSuggestions),
  ("PUT", "/settings/search-suggestions", .setSearchSuggestions),
  ("PUT", "/settings/search-engine", .setSearchEngine),
  ("GET", "/autocomplete/domains", .listDomains),
  ("POST", "/autocomplete/domains", .addDomain),
  ("DELETE", "/autocomplete/domains", .removeDomains),
  ("POST", "/autocomplete/domains/move", .moveDomain),
  ("GET", "/autocomplete/complete", .completeDomain)]

/-- The methods a route for any method is registered under. -/
def anyMethods : List String :=
  ["GET", "POST", "PUT", "PATCH", "HEAD", "OPTIONS", "DELETE", "CONNECT", "TRACE"]

/-- The operator's routes of the assembled server. -/
def serverRoutes : List Route :=
  [("GET", "/metrics", .metricsText)] ++ anyMethods.map (fun m => (m, "/debug/log-level", .logLevel)) ++
    [("GET", "/stream", .stream)]

/-- The route trees, one per method, in the order the methods were first registered. -/
abbrev Router := List (String × RouteNode Endpoint)

/-- Builds the route trees of a table. -/
def Router.build (routes : List Route) : Router :=
  routes.foldl (fun (r : Router) (route : Route) =>
    let (method, pattern, e) := route
    if r.any (·.1 == method) then
      r.map fun t => if t.1 == method then (method, t.2.insert pattern e) else t
    else r ++ [(method, RouteNode.empty.insert pattern e)]) []

/-- Looks a path up in the tree of a method; none when the method has no routes. -/
def Router.find (r : Router) (method : String) (path : Bytes) : Option (RouteNode.Match Endpoint) :=
  (r.find? (·.1 == method)).map fun t => t.2.lookup path

/-- The value of a route parameter. -/
def param (params : List (String × Bytes)) (key : String) : String :=
  Bytes.toStringLossy (((params.find? (·.1 == key)).map (·.2)).getD [])

/-- Runs an endpoint. -/
def runEndpoint (e : Endpoint) (svc : Service) (req : Request) (params : List (String × Bytes)) :
    Response × Service :=
  let id := param params "id"
  match e with
  | .root => (root, svc)
  | .health => health svc req
  | .listSessions => listSessions svc req
  | .createSession => createSession svc req
  | .removeAllSessions => removeAllSessions svc req
  | .currentSession => currentSession svc req
  | .removeCurrentSession => removeCurrentSession svc req
  | .createSearchSession => createSearchSession svc req
  | .loadInput => loadInput svc req
  | .getSession => getSession svc req id
  | .removeSession => removeSession svc req id
  | .selectSession => selectSession svc req id
  | .updateUrl => updateUrl svc req id
  | .launchIntent => handleIntent svc req true
  | .newIntent => handleIntent svc req false
  | .listEngines => (listEngines svc, svc)
  | .searchUrl => (searchUrl svc req, svc)
  | .searchTerms => (searchTerms svc req, svc)
  | .suggestions => suggestions svc req
  | .getSettings => (getSettings svc, svc)
  | .getSearchSuggestions => (getSearchSuggestions svc, svc)
  | .setSearchSuggestions => setSearchSuggestions svc req
  | .setSearchEngine => setSearchEngine svc req
  | .listDomains => (listDomains svc, svc)
  | .addDomain => addDomain svc req
  | .removeDomains => removeDomains svc req
  | .moveDomain => moveDomain svc req
  | .completeDomain => (completeDomain svc req, svc)
  | .metricsText => (metricsText svc, svc)
  | .logLevel => logLevel svc req
  | .stream => (notAHandshake, svc)

/-! ## Redirects -/

/-- A slash-separated path with `.` and `..` segments resolved and repeated slashes merged. -/
def cleanPath (p : String) : String :=
  if p.isEmpty then "."
  else
    let rooted := p.startsWith "/"
    let kept := (p.splitOn "/").foldl (fun (acc : List String) seg =>
      if seg.isEmpty || seg == "." then acc
      else if seg == ".." then
        match acc with
        | last :: rest => if last == ".." then seg :: acc else rest
        | [] => if rooted then [] else [seg]
      else seg :: acc) []
    let body := "/".intercalate kept.reverse
    if rooted then "/" ++ body else if body.isEmpty then "." else body

/-- Text with the characters that matter in HTML written as references. -/
def htmlEscape (s : String) : String :=
  String.join (s.toList.map fun c =>
    if c == '&' then "&amp;" else if c == '<' then "&lt;" else if c == '>' then "&gt;"
    else if c == '"' then "&#34;" else if c == Char.ofNat 39 then "&#39;" else String.singleton c)

/-- Bytes outside ASCII written as `%xx`, in lowercase hexadecimal. -/
def escapeNonAscii (s : String) : String :=
  let hex := fun (n : Nat) => Char.ofNat (if n < 10 then 48 + n else 87 + n)
  String.ofList ((Bytes.ofString s).flatMap fun b =>
    if b < 0x80 then [Char.ofNat b.toNat]
    else if b.toNat < 16 then ['%', hex b.toNat]
    else ['%', hex (b.toNat / 16), hex (b.toNat % 16)])

/-- The prefix a proxy says it serves the routes under: the header's path cleaned, with every
    character other than letters, digits, `/` and `-` removed and repeated slashes merged; none
    when the header is absent or cleans to `.`. -/
def forwardedPrefix (header : String) : Option String :=
  let cleaned := cleanPath header
  if cleaned == "." then none
  else
    let safe := cleaned.toList.filter fun c => c.isAlphanum || c == '/' || c == '-'
    let merged := safe.foldr (fun c acc => if c == '/' && acc.head? == some '/' then acc else c :: acc) []
    some (String.ofList merged)

/-- The directory part of a slash-separated path, up to and with its last slash. -/
def pathDir (p : String) : String :=
  match (p.toList.reverse.dropWhile (· != '/')) with
  | [] => ""
  | cs => String.ofList cs.reverse

/-- Where a redirect points, given as the request sees it and resolved against the request
    path when it is relative: made absolute, cleaned with a trailing slash kept, the query
    left alone. -/
def resolveLocation (url requestPath : String) : String :=
  match Url.parseString url with
  | .ok u =>
    if !u.scheme.isEmpty || !u.host.isEmpty then url
    else
      let oldPath := if requestPath.isEmpty then "/" else requestPath
      let url := if url.isEmpty || !url.startsWith "/" then pathDir oldPath ++ url else url
      let (pathPart, query) := match url.splitOn "?" with
        | first :: rest => (first, if rest.isEmpty then "" else "?" ++ "?".intercalate rest)
        | [] => (url, "")
      let cleaned := cleanPath pathPart
      let cleaned := if pathPart.endsWith "/" && !cleaned.endsWith "/" then cleaned ++ "/" else cleaned
      cleaned ++ query
  | .error _ => url

/-- The redirect to a path with its trailing slash added or removed, under the prefix a proxy
    names. -/
def slashRedirect (req : Request) : Response :=
  let address := req.address?.getD { path := Bytes.ofString req.target }
  let path := Bytes.toStringLossy address.path
  let path := match forwardedPrefix (req.header "X-Forwarded-Prefix") with
    | some front => front ++ "/" ++ path
    | none => path
  let moved := if path.length > 1 && path.endsWith "/" then path.dropEnd 1 |>.toString else path ++ "/"
  let url := Bytes.toStringLossy ({ address with path := Bytes.ofString moved }.render)
  let target := resolveLocation url moved
  let status := if req.method == "GET" then 301 else 307
  let text := if status == 301 then "Moved Permanently" else "Temporary Redirect"
  let typed := req.method == "GET" || req.method == "HEAD"
  { status,
    headers := [("Location", [escapeNonAscii target])] ++
      (if typed then [("Content-Type", ["text/html; charset=utf-8"])] else []),
    body := if req.method == "GET" then .text ("<a href=\"" ++ htmlEscape target ++ "\">" ++ text ++ "</a>.\n\n")
      else .empty }

/-! ## The layers -/

/-- The service with its layers. -/
structure App where
  service : Service
  router : Router
  /-- Identifiers for requests that come without one; none when requests are not identified. -/
  requestIds : Option Identifier.Monotonic := none
  cors : Option CorsPolicy := none
  limit : Option RequestLimit := none

/-- The answer of a refused request beyond the rate. -/
def rateLimited : Response :=
  Response.ofJson 429 (.obj [("success", .bool false), ("error", .str "rate limit exceeded")])

/-- The answer of a request without a route. -/
def notFound : Response :=
  { status := 404, headers := [("Content-Type", ["text/plain"])], body := .text "404 page not found" }

/-- Puts headers set by a layer in front of an answer's own. -/
def withHeaders (headers : List (String × List String)) (r : Response) : Response :=
  r.headers.foldl (fun (acc : Response) h => acc.setValues h.1 h.2) { r with headers }

/-- The client a request comes from, as the request limit sees it. -/
def clientOf (req : Request) : String :=
  clientAddress req.remoteAddr (req.header "X-Forwarded-For") (req.header "X-Real-IP")

/-- The optional layers in front of a service. -/
structure Layers where
  requestIds : Bool := false
  /-- The origins allowed to call from a browser; none for no cross-origin policy. -/
  corsOrigins : Option (List String) := none
  limit : Option RequestLimit := none

namespace App

/-- A service behind a route table and layers; fails when the cross-origin policy cannot be
    made. -/
def create (service : Service) (routes : List Route) (layers : Layers) : Except String App :=
  let cors := match layers.corsOrigins with
    | some origins => (CorsPolicy.forOrigins origins).map some
    | none => .ok none
  cors.map fun cors =>
    { service, router := Router.build routes, cors, limit := layers.limit,
      requestIds := if layers.requestIds then some {} else none }

/-- The verdict of the cross-origin policy; without a policy every request is same-origin. -/
def verdict (app : App) (req : Request) : CorsVerdict :=
  match app.cors with
  | some p => p.judge req
  | none => .sameOrigin

/-- Counts a request against the request limit at an instant: whether it passes, and the app
    with the limit's new state. -/
def throttle (app : App) (req : Request) (now : Nat) : Bool × App :=
  match app.limit with
  | some l =>
    let (ok, l) := l.allow (clientOf req) now
    (ok, { app with limit := some l })
  | none => (true, app)

/-- The request identifier a response echoes: the caller's `X-Request-ID`, or a fresh `req_`
    identifier; no header when requests are not identified. -/
def identify (app : App) (req : Request) (now : Nat) : List (String × List String) × App :=
  match app.requestIds with
  | none => ([], app)
  | some gen =>
    let given := req.header "X-Request-ID"
    if given.isEmpty then
      let (v, gen) := gen.next (now / 1000000)
      ([("X-Request-Id", [Identifier.withPrefix Identifier.requestPrefix v])], { app with requestIds := some gen })
    else ([("X-Request-Id", [given])], app)

/-- The answer of the layers below monitoring and of the route: the answer, when one was
    written, and the headers the layers set. -/
def inner (app : App) (req : Request) (route : Option (Endpoint × List (String × Bytes))) (now : Nat) :
    Option Response × List (String × List String) × App :=
  let verdict := app.verdict req
  match verdict with
  | .refused => (some { status := 403 }, [], app)
  | .preflight hs => (some { status := 204, headers := hs }, [], app)
  | _ =>
    let headers := match verdict with
      | .allowed hs => hs
      | _ => []
    let (allowed, app) := app.throttle req now
    if !allowed then (some rateLimited, headers, app)
    else
      match route with
      | some (e, params) =>
        let (resp, service) := runEndpoint e app.service req params
        (some resp, headers, { app with service })
      | none => (none, headers, app)

/-- Passes a request through the layers at an instant, in nanoseconds. -/
def pass (app : App) (req : Request) (route : Option (Endpoint × String × List (String × Bytes)))
    (now : Nat) : Response × App :=
  let (idHeaders, app) := app.identify req now
  let (written, layerHeaders, app) := app.inner req (route.map fun (e, _, ps) => (e, ps)) now
  let headers := layerHeaders.foldl (fun (acc : Response) h => acc.setValues h.1 h.2) { headers := idHeaders }
  let status := (written.map (·.status)).getD 404
  let size := ((written.map fun r => r.bodyText.utf8ByteSize)).getD 0
  let pattern := ((route.map fun (_, p, _) => p)).getD "unmatched"
  let metrics := app.service.metrics.map fun m =>
    m.recordRequest req.method pattern status 0 req.contentLength size
  let app := { app with service := { app.service with metrics } }
  (withHeaders headers.headers (written.getD notFound), app)

/-- Serves a request at an instant, in nanoseconds. -/
def serve (app : App) (req : Request) (now : Nat) : Response × App :=
  let app := { app with service := { app.service with clock := now } }
  let path := req.path
  match app.router.find req.method path with
  | some { handler := some (e, pattern), params, .. } => app.pass req (some (e, pattern, params)) now
  | some m =>
    if req.method != "CONNECT" && path != [Url.byte '/'] && m.suggestSlash then (slashRedirect req, app)
    else app.pass req none now
  | none => app.pass req none now

end App

end BrowserSessions.Api
