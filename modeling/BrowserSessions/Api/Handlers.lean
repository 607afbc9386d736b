import BrowserSessions.Api.Service

/-!
# Api.Handlers

What each route does.

Bodies are bound to request shapes (`Http.bind`); a body that does not bind is refused with
`Invalid request: ` (or `Invalid intent: `) and the binding error. Addresses coming in have
their user information removed, so every way into the registry stores the same form of an
address. A session's transport form marks whether it is the active one.
-/

namespace BrowserSessions.Api

open Http

/-! ## Request shapes -/

/-- The body of a new session. -/
def createShape : Shape :=
  { name := "createSessionRequest",
    fields := [⟨"source", "Source", .text, true⟩, ⟨"url", "URL", .text, true⟩] }

/-- The body of a new search session. -/
def createSearchShape : Shape :=
  { name := "createSearchSessionRequest",
    fields := [⟨"source", "Source", .text, true⟩, ⟨"url", "URL", .text, false⟩, ⟨"terms", "Terms", .text, true⟩] }

/-- The body of text typed into the address bar. -/
def loadShape : Shape := { name := "loadRequest", fields := [⟨"input", "Input", .text, true⟩] }

/-- The body of a navigation. -/
def updateShape : Shape := { name := "updateURLRequest", fields := [⟨"url", "URL", .text, true⟩] }

/-- The body of an intent. -/
def intentShape : Shape :=
  { name := "Intent",
    fields := [⟨"action", "Action", .text, false⟩, ⟨"data", "Data", .text, false⟩,
      ⟨"flags", "Flags", .number, false⟩, ⟨"extras", "Extras", .record, false⟩] }

/-- The body that turns suggestions on or off. -/
def enabledShape : Shape := { fields := [⟨"enabled", "Enabled", .switch, true⟩] }

/-- The body that picks an engine. -/
def nameShape : Shape := { fields := [⟨"name", "Name", .text, true⟩] }

/-- The body that adds a domain. -/
def domainShape : Shape := { fields := [⟨"domain", "Domain", .text, true⟩] }

/-- The body that removes domains. -/
def domainsShape : Shape := { fields := [⟨"domains", "Domains", .texts, true⟩] }

/-- The body that moves a domain. -/
def moveShape : Shape := { fields := [⟨"from", "From", .count, true⟩, ⟨"to", "To", .count, true⟩] }

/-- The i-th bound value. -/
def nth (vs : List FieldValue) (i : Nat) : FieldValue := vs.getD i (.text "")

/-! ## Answers -/

/-- A snapshot answer. -/
def snapshotFields (snap : Snapshot) : List (String × Json) :=
  [("success", .bool true), ("sessions", .arr snap.views), ("current_id", .str snap.currentId),
    ("version", .int snap.version)]

/-- A session answer. -/
def sessionAnswer (status : Nat) (s : Session) (current : Bool) : Response :=
  Response.ofJson status (.obj [("success", .bool true), ("session", s.view current)])

/-- The failure of a call. -/
def callFailure (e : CallError) : Response := failWith e.code e.message

/-- The answer of a call: the failure, or what `ok` makes of the value. -/
def answer {α : Type} (result : Except CallError α) (svc : Service) (ok : α → Response) : Response × Service :=
  match result with
  | .ok a => (ok a, svc)
  | .error e => (callFailure e, svc)

/-- A text of bytes as the answer writes it. -/
def bytesText (bs : Bytes) : String := Bytes.toStringLossy bs

/-! ## Service routes -/

/-- The banner. -/
def root : Response :=
  Response.ofJson 200 (.obj [("status", .str "online"), ("service", .str "Focus Browser sessions"),
    ("version", .str "0.1.0")])

/-- The health report. -/
def health (svc : Service) (req : Request) : Response × Service :=
  let (result, svc) := svc.submit req.cancelled fun r => .ok (r.length, r)
  match result with
  | .error e => (Response.ofJson 503 (.obj [("status", .str "unhealthy"), ("error", .str e.message)]), svc)
  | .ok n =>
    let engine := ((svc.engines.defaultEngine?.map (·.name))).getD ""
    let fields := [("status", Json.str "healthy"), ("sessions", .int n), ("engine", .str engine)] ++
      (match svc.metrics with
        | some m => [("metrics", m.summary)]
        | none => [])
    (Response.ofJson 200 (.obj fields), svc)

/-! ## Session routes -/

/-- Lists the sessions. -/
def listSessions (svc : Service) (req : Request) : Response × Service :=
  let (result, svc) := svc.call req.cancelled "list" fun r => .ok (r.snapshot, r)
  answer result svc fun snap => Response.ofJson 200 (.obj (snapshotFields snap))

/-- The active session. -/
def currentSession (svc : Service) (req : Request) : Response × Service :=
  let (result, svc) := svc.call req.cancelled "current" fun r =>
    match r.current with
    | .ok s => .ok (s, r)
    | .error e => .error (.session e)
  answer result svc fun s => sessionAnswer 200 s true

/-- One session. -/
def getSession (svc : Service) (req : Request) (id : String) : Response × Service :=
  let (result, svc) := svc.call req.cancelled "get" fun r =>
    match r.byId id with
    | .ok s => .ok ((s, r.isCurrent s), r)
    | .error e => .error (.session e)
  answer result svc fun (s, current) => sessionAnswer 200 s current

/-- The source of a new session, or the refusal. -/
def sourceOf (source : String) : Except Response String :=
  if Session.isSource source then .ok source else .error (badRequest ("unknown source: " ++ source))

/-- Opens a plain session. -/
def createSession (svc : Service) (req : Request) : Response × Service :=
  match bind createShape req.body with
  | .error e => (badRequest ("Invalid request: " ++ e.message), svc)
  | .ok vs =>
    match sourceOf (nth vs 0).asText with
    | .error resp => (resp, svc)
    | .ok source =>
      let target := Url.stripUserInfo (nth vs 1).asText
      let now := svc.millis
      let (result, svc) := svc.call req.cancelled "create" fun r => .ok (r.create now source target)
      answer result svc fun s => sessionAnswer 201 s true

/-- Opens a search session; the results address is made from the terms when none is given. -/
def createSearchSession (svc : Service) (req : Request) : Response × Service :=
  match bind createSearchShape req.body with
  | .error e => (badRequest ("Invalid request: " ++ e.message), svc)
  | .ok vs =>
    match sourceOf (nth vs 0).asText with
    | .error resp => (resp, svc)
    | .ok source =>
      let terms := (nth vs 2).asText
      let target := Url.stripUserInfo (nth vs 1).asText
      let target := if target.isEmpty then (svc.engines.createSearchUrl? terms).getD "" else target
      let now := svc.millis
      let (result, svc) := svc.call req.cancelled "create_search" fun r =>
        .ok (r.createSearch now source target terms)
      answer result svc fun s => sessionAnswer 201 s true

/-- Opens a session for text typed into the address bar: an address is completed and loaded,
    other text is searched for. -/
def loadInput (svc : Service) (req : Request) : Response × Service :=
  match bind loadShape req.body with
  | .error e => (badRequest ("Invalid request: " ++ e.message), svc)
  | .ok vs =>
    let input := Text.trimSpace (nth vs 0).asText
    let now := svc.millis
    if input.isEmpty then (badRequest "input is required", svc)
    else if !Url.looksLikeAddress input then
      let url := (svc.engines.createSearchUrl? input).getD ""
      let (result, svc) := svc.call req.cancelled "load_search" fun r =>
        .ok (r.createSearch now "user_entered" url input)
      answer result svc fun s => sessionAnswer 201 s true
    else
      let target := Url.stripUserInfo (Url.normalize input)
      let supported := match Url.parseString target with
        | .ok a => Url.isSupportedScheme (bytesText a.scheme)
        | .error _ => false
      if !supported then (badRequest ("unsupported protocol: " ++ input), svc)
      else
        let (result, svc) := svc.call req.cancelled "load_url" fun r => .ok (r.create now "user_entered" target)
        answer result svc fun s => sessionAnswer 201 s true

/-- Makes a session active. -/
def selectSession (svc : Service) (req : Request) (id : String) : Response × Service :=
  let (result, svc) := svc.call req.cancelled "select" fun r =>
    match r.select id with
    | .ok r => .ok (r.snapshot, r)
    | .error e => .error (.session e)
  answer result svc fun snap => Response.ofJson 200 (.obj (snapshotFields snap))

/-- Records a navigation inside a session. -/
def updateUrl (svc : Service) (req : Request) (id : String) : Response × Service :=
  match bind updateShape req.body with
  | .error e => (badRequest ("Invalid request: " ++ e.message), svc)
  | .ok vs =>
    let url := Url.stripUserInfo (nth vs 0).asText
    let (result, svc) := svc.call req.cancelled "update_url" fun r =>
      match r.updateUrl id url with
      | .ok (s, r) => .ok ((s, r.isCurrent s), r)
      | .error e => .error (.session e)
    answer result svc fun (s, current) => sessionAnswer 200 s current

/-- Closes a session; an unknown one is not an error. -/
def removeSession (svc : Service) (req : Request) (id : String) : Response × Service :=
  let (result, svc) := svc.call req.cancelled "remove" fun r =>
    let removed := r.hasId id
    let r := r.remove id
    .ok ((removed, r.snapshot), r)
  answer result svc fun (removed, snap) =>
    Response.ofJson 200 (.obj (snapshotFields snap ++ [("removed", .bool removed)]))

/-- Closes the active session, if any. -/
def removeCurrentSession (svc : Service) (req : Request) : Response × Service :=
  let (result, svc) := svc.call req.cancelled "remove_current" fun r =>
    let removed := r.hasSession
    let r := r.removeCurrent
    .ok ((removed, r.snapshot), r)
  answer result svc fun (removed, snap) =>
    Response.ofJson 200 (.obj (snapshotFields snap ++ [("removed", .bool removed)]))

/-- Closes every session. -/
def removeAllSessions (svc : Service) (req : Request) : Response × Service :=
  let (result, svc) := svc.call req.cancelled "remove_all" fun r =>
    let r := r.removeAll
    .ok (r.snapshot, r)
  answer result svc fun snap => Response.ofJson 200 (.obj (snapshotFields snap))

/-! ## Intents -/

/-- The intent with user information removed from its address, and from its shared text when
    that text is an address. -/
def withoutCredentials (i : Intent) : Intent :=
  let i := { i with data := Url.stripUserInfo i.data }
  let text := i.stringExtra Intent.extraText
  if !text.isEmpty && Url.looksLikeAddress text then
    { i with extras := (i.extras.filter (·.1 != Intent.extraText)) ++
        [(Intent.extraText, .str (Url.stripUserInfo text))] }
  else i

/-- The intent a bound body describes. -/
def intentOf (vs : List FieldValue) : Intent :=
  { action := (nth vs 0).asText, data := (nth vs 1).asText, flags := (nth vs 2).asNumber,
    extras := ((nth vs 3).asRecord).getD [] }

/-- Handles an intent; `restoring` is given for launch intents only. -/
def handleIntent (svc : Service) (req : Request) (launch : Bool) : Response × Service :=
  let restoring : Except Response Bool :=
    if !launch then .ok false
    else match req.queryValue? "restoring" with
      | none => .ok false
      | some v =>
        match Text.parseBool (bytesText v) with
        | some b => .ok b
        | none => .error (badRequest "restoring must be a boolean")
  match restoring with
  | .error resp => (resp, svc)
  | .ok restoring =>
    match bind intentShape req.body with
    | .error e => (badRequest ("Invalid intent: " ++ e.message), svc)
    | .ok vs =>
      let i := withoutCredentials (intentOf vs)
      let services := svc.launchServices
      let now := svc.millis
      let op := if launch then "intent" else "new_intent"
      let (result, svc) := svc.call req.cancelled op fun r =>
        let opened := if launch then r.launch services now i restoring else r.openIntent services now i
        match opened with
        | .ok (s, r) => .ok (s, r)
        | .error e => .error (.panicked e.message)
      answer result svc fun opened =>
        Response.ofJson 200 (.obj ([("success", .bool true), ("created", .bool opened.isSome)] ++
          (match opened with
            | some s => [("session", s.view true)]
            | none => [])))

/-! ## Search -/

/-- The catalog and the engine in use. -/
def listEngines (svc : Service) : Response :=
  let default := ((svc.engines.defaultEngine?.map (·.id))).getD ""
  Response.ofJson 200 (.obj [("success", .bool true),
    ("engines", .arr (svc.engines.engines.map Search.Engine.toJson)), ("default", .str default)])

/-- The results address for `?q=`. -/
def searchUrl (svc : Service) (req : Request) : Response :=
  let q := req.queryValue "q"
  if q.isEmpty then badRequest "q is required"
  else Response.ofJson 200 (.obj [("success", .bool true), ("url", .str ((svc.engines.searchUrlOf? q).getD ""))])

/-- The terms of the results address in `?url=`. -/
def searchTerms (svc : Service) (req : Request) : Response :=
  let u := req.queryValue "url"
  if u.isEmpty then badRequest "url is required"
  else Response.ofJson 200 (.obj [("success", .bool true),
    ("result", .str (bytesText (svc.engines.searchTermsOrUrl (bytesText u))))])

/-- Suggestions for `?q=` from the default engine. -/
def suggestions (svc : Service) (req : Request) : Response × Service :=
  let q := req.queryValue "q"
  let (lookup, suggester, metrics) :=
    svc.suggester.suggest svc.engines svc.metrics svc.settings.suggestionsEnabled q req.cancelled svc.clock svc.upstream
  let svc := { svc with suggester, metrics, upstreamCalls := svc.upstreamCalls ++ lookup.calls }
  match lookup.result with
  | .error e =>
    let (status, code) := if e.isCircuitOpen then (503, "unavailable") else (502, "upstream")
    (failure status e.message code, svc)
  | .ok xs =>
    (Response.ofJson 200 (.obj [("success", .bool true), ("query", .str (bytesText q)),
      ("suggestions", .arr (xs.map .str))]), svc)

/-! ## Settings -/

/-- Every preference. -/
def getSettings (svc : Service) : Response :=
  Response.ofJson 200 (.obj [("success", .bool true), ("settings", .obj [
    ("search_suggestions_enabled", .bool svc.settings.suggestionsEnabled),
    ("user_toggled_search_suggestions", .bool svc.settings.userToggledSuggestions),
    ("default_search_engine", .str svc.settings.defaultEngine)])])

/-- The suggestion preference. -/
def getSearchSuggestions (svc : Service) : Response :=
  Response.ofJson 200 (.obj [("success", .bool true), ("enabled", .bool svc.settings.suggestionsEnabled),
    ("user_toggled", .bool svc.settings.userToggledSuggestions)])

/-- Turns suggestions on or off. -/
def setSearchSuggestions (svc : Service) (req : Request) : Response × Service :=
  match bind enabledShape req.body with
  | .error e => (badRequest ("Invalid request: " ++ e.message), svc)
  | .ok vs =>
    let svc := { svc with settings := svc.settings.setSuggestions ((nth vs 0).asSwitch.getD false) }
    (getSearchSuggestions svc, svc)

/-- Picks the default engine by identifier or name. -/
def setSearchEngine (svc : Service) (req : Request) : Response × Service :=
  match bind nameShape req.body with
  | .error e => (badRequest ("Invalid request: " ++ e.message), svc)
  | .ok vs =>
    let name := (nth vs 0).asText
    match svc.engines.engine? name with
    | none => (badRequest ("unknown search engine: " ++ name), svc)
    | some engine =>
      let svc := { svc with settings := svc.settings.setDefaultEngine engine.name }
      (Response.ofJson 200 (.obj [("success", .bool true), ("engine", engine.toJson)]), svc)

/-! ## Autocomplete -/

/-- The domain list as an answer. -/
def domainsJson (d : DomainList) : Json := .arr (d.items.map fun x => .str (bytesText x))

/-- The custom domains. -/
def listDomains (svc : Service) : Response :=
  Response.ofJson 200 (.obj [("success", .bool true), ("domains", domainsJson svc.domains)])

/-- Adds a domain. -/
def addDomain (svc : Service) (req : Request) : Response × Service :=
  match bind domainShape req.body with
  | .error e => (badRequest ("Invalid request: " ++ e.message), svc)
  | .ok vs =>
    match svc.domains.add (nth vs 0).asText with
    | .error e => (failWith (domainCode e) e.message, svc)
    | .ok (domain, domains) =>
      let svc := { svc with domains }
      (Response.ofJson 201 (.obj [("success", .bool true), ("domain", .str (bytesText domain)),
        ("domains", domainsJson domains)]), svc)

/-- Removes the listed domains. -/
def removeDomains (svc : Service) (req : Request) : Response × Service :=
  match bind domainsShape req.body with
  | .error e => (badRequest ("Invalid request: " ++ e.message), svc)
  | .ok vs =>
    let (removed, domains) := svc.domains.remove (((nth vs 0).asTexts).getD [])
    let svc := { svc with domains }
    (Response.ofJson 200 (.obj [("success", .bool true), ("removed", .int removed),
      ("domains", domainsJson domains)]), svc)

/-- Moves a domain. -/
def moveDomain (svc : Service) (req : Request) : Response × Service :=
  match bind moveShape req.body with
  | .error e => (badRequest ("Invalid request: " ++ e.message), svc)
  | .ok vs =>
    match svc.domains.move ((nth vs 0).asCount.getD 0) ((nth vs 1).asCount.getD 0) with
    | .error e => (failWith (domainCode e) e.message, svc)
    | .ok domains =>
      let svc := { svc with domains }
      (Response.ofJson 200 (.obj [("success", .bool true), ("domains", domainsJson domains)]), svc)

/-- The completion of `?q=`. -/
def completeDomain (svc : Service) (req : Request) : Response :=
  let found := svc.domains.complete (bytesText (req.queryValue "q"))
  Response.ofJson 200 (.obj [("success", .bool true), ("found", .bool found.isSome),
    ("completion", .str (bytesText (found.getD [])))])

end BrowserSessions.Api
