import BrowserSessions.Api.Service
import BrowserSessions.Text.Quote

/-!
# Api.Admin

The operator's routes: the log level, the metrics in text form, and the stream's entry for a
request that is not a WebSocket handshake.

The log level is read with `GET`, which answers `{"level":name}`, and changed with `PUT`. A `PUT`
body is a form when the content type says so, with the level in the field `level`; any other body
is a JSON object whose `level` (matched without regard to case) is a level name. An empty name
means `info`, and names are also read in lower case. A missing or `null` level is refused with
`must specify logging level`; a body that does not read is refused with `malformed request body: `
and the reason. Other methods are refused with `405`. These answers carry no content type.

The metrics answer lists every family that has series, in the text exposition format.
-/

namespace BrowserSessions.Api

open Http

/-- The Go type the level body is read into, as decoding errors name it. -/
def levelBodyType : String := "struct \x7b Level *zapcore.Level \"json:\\\"level\\\"\" \x7d"

/-- The reason a level name is refused. -/
def unrecognizedLevel (name : String) : String := "unrecognized level: " ++ Text.quote name

/-- A level name, read as the level control reads it. -/
def readLevelName (name : String) : Except String LogLevel :=
  match LogLevel.ofName? name with
  | some l => .ok l
  | none => .error (unrecognizedLevel name)

/-- The text of a JSON syntax error of a body. -/
def syntaxMessage (text : String) : Json.ReadError → String
  | .unexpectedEnd => if (Json.skipBlanks text.toList).isEmpty then "EOF" else "unexpected EOF"
  | .unexpectedChar c =>
    let q := String.singleton (Char.ofNat 39)
    "invalid character " ++ q ++ String.singleton c ++ q ++ " looking for beginning of value"
  | _ => "invalid JSON"

/-- The level of a JSON body: the immediate refusal, or the level or nothing found, together
    with a type error met on the way (reported only when nothing worse happened). -/
def levelOfFields (fs : List (String × Json)) : Except String (Option LogLevel × Option String) :=
  fs.foldlM (fun (acc : Option LogLevel × Option String) kv =>
    if Text.equalFoldChars kv.1.toList "level".toList then
      let typeError := fun (word : String) =>
        acc.2.orElse fun _ => some ("json: cannot unmarshal " ++ word ++
          " into Go struct field .level of type *zapcore.Level")
      match kv.2 with
      | .str s => (readLevelName s).map fun l => (some l, acc.2)
      | .null => .ok (none, acc.2)
      | .bool _ => .ok (some .info, typeError "bool")
      | .int _ | .float _ => .ok (some .info, typeError "number")
      | .arr _ => .ok (some .info, typeError "array")
      | .obj _ => .ok (some .info, typeError "object")
    else .ok acc) (none, none)

/-- The level a `PUT` asks for, or the refusal. -/
def requestedLevel (req : Request) : Except String LogLevel :=
  if req.header "Content-Type" == "application/x-www-form-urlencoded" then
    let form := Url.parseQuery (Bytes.ofString (req.body.getD "")) ++ req.query
    let name := Bytes.toStringLossy (Url.lookupFirst form (Bytes.ofString "level"))
    if name.isEmpty then .error "must specify logging level" else readLevelName name
  else
    let text := req.body.getD ""
    let malformed := fun (m : String) => Except.error ("malformed request body: " ++ m)
    match Json.parsePrefixSaturating text with
    | .error e => malformed (syntaxMessage text e)
    | .ok (.obj fs, _) =>
      match levelOfFields fs with
      | .error m => malformed m
      | .ok (_, some m) => malformed m
      | .ok (some l, none) => .ok l
      | .ok (none, none) => .error "must specify logging level"
    | .ok (.null, _) => .error "must specify logging level"
    | .ok (v, _) =>
      let word := match v with
        | .bool _ => "bool"
        | .str _ => "string"
        | .arr _ => "array"
        | _ => "number"
      malformed ("json: cannot unmarshal " ++ word ++ " into Go value of type " ++ levelBodyType)

/-- An answer of the level control: JSON without a content type. -/
def levelAnswer (status : Nat) (value : Json) : Response := { status, body := .json value }

/-- The log level control. -/
def logLevel (svc : Service) (req : Request) : Response × Service :=
  if req.method == "GET" then (levelAnswer 200 (.obj [("level", .str svc.logLevel.name)]), svc)
  else if req.method == "PUT" then
    match requestedLevel req with
    | .error m => (levelAnswer 400 (.obj [("error", .str m)]), svc)
    | .ok l => (levelAnswer 200 (.obj [("level", .str l.name)]), { svc with logLevel := l })
  else (levelAnswer 405 (.obj [("error", .str "Only GET and PUT are supported.")]), svc)

/-- The content type of the text exposition format. -/
def expositionType : String := "text/plain; version=0.0.4; charset=utf-8"

/-- The metrics in text form. -/
def metricsText (svc : Service) : Response :=
  let lines := match svc.metrics with
    | some m => m.exposition (Metrics.families.map MetricFamily.name)
    | none => []
  { status := 200, headers := [("Content-Type", [expositionType])],
    body := .text (String.join (lines.map (· ++ "\n"))) }

/-- The stream's answer to a request that is not a WebSocket handshake. -/
def notAHandshake : Response :=
  { status := 400,
    headers := [("Sec-Websocket-Version", ["13"]), ("Content-Type", ["text/plain; charset=utf-8"]),
      ("X-Content-Type-Options", ["nosniff"])],
    body := .text "Bad Request\n" }

end BrowserSessions.Api
