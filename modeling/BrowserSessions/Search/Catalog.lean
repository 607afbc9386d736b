import BrowserSessions.Search.Engine
import BrowserSessions.Yaml
import BrowserSessions.Toml
import BrowserSessions.Json.Shape
import BrowserSessions.Decimal.Text
import BrowserSessions.Text.Case

/-!
# Search.Catalog

A catalog of search engines: the engines, and the identifier of the one used by default (empty
for the first). Catalogs are written in YAML, TOML or JSON.

Reading a catalog decodes the document into the catalog's fields and then checks it:

* the document must be a mapping (or empty); `default` must be text and `engines` a list of
  mappings whose `id`, `name`, `search` and `suggest` are text; other keys are ignored. YAML
  keys match exactly and a YAML number or truth value reads as its text; JSON keys match exactly
  or once lowercased, and only strings read as text; a null leaves a text field as it was, and a
  JSON null empties the list of engines; a JSON document is read against the catalog's shape
  (`Json.Shape`), so the values of other keys are only skimmed. A TOML document is decoded
  straight into the catalog's type (`catalogTarget`, see `Toml`), and decoding may stop short,
  which is reported as such;
* there is at least one engine;
* in order, every engine has an identifier and a name, its identifier is not taken by an
  earlier engine, and its search template holds the placeholder;
* the default, when given, is the identifier of an engine.

A catalog file is read with the decoder its lowercased extension names: `.yaml` or `.yml`,
`.toml`, `.json`.
-/

namespace BrowserSessions.Search

/-- A list of engines and the engine used by default. -/
structure Catalog where
  default : String := ""
  engines : List Engine := []
  deriving DecidableEq, Repr, Inhabited

/-- Why a catalog was refused. -/
inductive CatalogError where
  | parse (format : String)
  | empty
  | missingIdOrName (index : Nat)
  | duplicateId (id : String)
  | noPlaceholder (id : String)
  | unknownDefault (id : String)
  | unsupportedFormat (format : String)
  | unsupportedFileType (path : String)
  | read (detail : String)
  /-- Decoding stopped short, with the runtime's message. -/
  | panicked (detail : String)
  deriving DecidableEq, Repr

/-- The message of a catalog error. -/
def CatalogError.message : CatalogError → String
  | .parse f => "failed to parse " ++ f ++ " catalog"
  | .empty => "search catalog has no engines"
  | .missingIdOrName i => "engine " ++ toString i ++ ": id and name are required"
  | .duplicateId id => "engine " ++ id ++ ": duplicate id"
  | .noPlaceholder id => "engine " ++ id ++ ": search template lacks " ++ termsPlaceholder
  | .unknownDefault d => "default engine " ++ d ++ " is not in the catalog"
  | .unsupportedFormat f => "unsupported catalog format: " ++ f
  | .unsupportedFileType p => "unsupported catalog file type: " ++ p
  | .read detail => "failed to read catalog: " ++ detail
  | .panicked detail => detail

/-- The kind of a catalog error, as a short code. -/
def CatalogError.kind : CatalogError → String
  | .parse _ => "parse"
  | .empty => "empty_catalog"
  | .missingIdOrName _ | .duplicateId _ | .noPlaceholder _ | .unknownDefault _ => "invalid_catalog"
  | .unsupportedFormat _ => "unsupported_format"
  | .unsupportedFileType _ => "unsupported_file_type"
  | .read _ => "read"
  | .panicked _ => "panic"

/-! ## Decoding -/

/-- The document languages of catalogs. -/
inductive Format where
  | yaml
  | toml
  | json
  deriving DecidableEq, Repr

/-- The name of a format. -/
def Format.name : Format → String
  | .yaml => "yaml"
  | .toml => "toml"
  | .json => "json"

/-- Whether a document key names a field: exactly in YAML, and in JSON also when the two are
    equal once lowercased. -/
def Format.keyMatches (f : Format) (key field : String) : Bool :=
  match f with
  | .yaml => key == field
  | _ => key == field || Text.lowerString key == Text.lowerString field

/-- A text field: the new text, or the old one for a null. -/
def Format.text (f : Format) (old : String) (v : Json) : Option String :=
  match f, v with
  | _, .str s => some s
  | .yaml, .int n => some (toString n)
  | .yaml, .float x => some (Decimal.generalText x)
  | .yaml, .bool b => some (if b then "true" else "false")
  | .yaml, .null | .json, .null => some old
  | _, _ => none

/-- Reads the fields of an engine. -/
def Format.engine (f : Format) (fields : List (String × Json)) : Option Engine :=
  fields.foldl (fun acc kv => acc.bind fun e =>
    if f.keyMatches kv.1 "id" then (f.text e.id kv.2).map fun t => { e with id := t }
    else if f.keyMatches kv.1 "name" then (f.text e.name kv.2).map fun t => { e with name := t }
    else if f.keyMatches kv.1 "search" then (f.text e.search kv.2).map fun t => { e with search := t }
    else if f.keyMatches kv.1 "suggest" then (f.text e.suggest kv.2).map fun t => { e with suggest := t }
    else some e) (some {})

/-- Reads the list of engines; a JSON null empties it and a YAML null leaves it. -/
def Format.engines (f : Format) (old : List Engine) (v : Json) : Option (List Engine) :=
  match v with
  | .null => if f == .json then some [] else some old
  | .arr items =>
    items.foldr (fun item acc => acc.bind fun es =>
      match item with
      | .obj fs => (f.engine fs).map (· :: es)
      | .null => some ({} :: es)
      | _ => none) (some [])
  | _ => none

/-- Reads a catalog from a document. -/
def Format.catalog (f : Format) (doc : Json) : Option Catalog :=
  match doc with
  | .null => some {}
  | .obj fields =>
    fields.foldl (fun acc kv => acc.bind fun c =>
      if f.keyMatches kv.1 "default" then (f.text c.default kv.2).map fun t => { c with default := t }
      else if f.keyMatches kv.1 "engines" then (f.engines c.engines kv.2).map fun es => { c with engines := es }
      else some c) (some {})
  | _ => none

/-- The shape of a catalog document, for readers that bind a document to it. -/
def catalogShape : Json.Shape :=
  .record [("default", .text),
    ("engines", .list (.record [("id", .text), ("name", .text), ("search", .text),
      ("suggest", .text)]))]

/-- The type of an engine, for decoding TOML. -/
def engineTarget : Toml.Target :=
  .record "search.Engine" [("id", .text), ("name", .text), ("search", .text), ("suggest", .text)]

/-- The type of a catalog, for decoding TOML. -/
def catalogTarget : Toml.Target :=
  .record "search.Catalog" [("default", .text), ("engines", .list engineTarget)]

/-- The text of a decoded record's field, empty when it is not set. -/
def fieldText (d : Toml.Datum) (name : String) : String :=
  match d.field name .text with
  | .text s => s
  | _ => ""

/-- The engine a decoded record holds. -/
def Engine.ofDatum (d : Toml.Datum) : Engine :=
  { id := fieldText d "id", name := fieldText d "name", search := fieldText d "search",
    suggest := fieldText d "suggest" }

/-- The catalog a decoded record holds. -/
def Catalog.ofDatum (d : Toml.Datum) : Catalog :=
  { default := fieldText d "default",
    engines := match d.field "engines" (.list engineTarget) with
      | .list items => items.map Engine.ofDatum
      | _ => [] }

/-- Decodes a catalog document in a format: YAML and JSON through their document trees, a JSON
    document read against `catalogShape` so that members the catalog does not name are only
    skimmed; TOML straight into `catalogTarget`. -/
def Format.decode (f : Format) (data : String) : Except CatalogError Catalog :=
  let viaTree := fun (doc : Option Json) =>
    match doc.bind f.catalog with
    | none => Except.error (CatalogError.parse f.name)
    | some c => .ok c
  match f with
  | .yaml => viaTree (Yaml.parse data).toOption
  | .json => viaTree (Json.readShapedDocument catalogShape data).toOption
  | .toml =>
    match Toml.decode catalogTarget data with
    | .ok d => .ok (Catalog.ofDatum d)
    | .error (.invalid _) => .error (.parse f.name)
    | .error (.panicked m) => .error (.panicked m)

/-- The format a name stands for; names are case-sensitive. -/
def Format.ofName? : String → Option Format
  | "yaml" => some .yaml
  | "toml" => some .toml
  | "json" => some .json
  | _ => none

/-! ## Checking -/

/-- Checks the engines in order, `seen` holding the identifiers before them. -/
def checkEngines (seen : List String) : Nat → List Engine → Except CatalogError (List String)
  | _, [] => .ok seen
  | i, e :: es =>
    if e.id.isEmpty || e.name.isEmpty then .error (.missingIdOrName i)
    else if seen.contains e.id then .error (.duplicateId e.id)
    else if !Bytes.containsBytes (Bytes.ofString e.search) (Bytes.ofString termsPlaceholder) then
      .error (.noPlaceholder e.id)
    else checkEngines (seen ++ [e.id]) (i + 1) es

/-- Checks a decoded catalog. -/
def Catalog.validate (c : Catalog) : Except CatalogError Catalog :=
  if c.engines.isEmpty then .error .empty
  else match checkEngines [] 0 c.engines with
    | .error e => .error e
    | .ok ids =>
      if !c.default.isEmpty && !ids.contains c.default then .error (.unknownDefault c.default)
      else .ok c

/-- Decodes and checks a catalog document written in the named format. -/
def parseCatalog (data : String) (format : String) : Except CatalogError Catalog :=
  match Format.ofName? format with
  | none => .error (.unsupportedFormat format)
  | some f =>
    (f.decode data).bind Catalog.validate

/-! ## Files -/

/-- The extension of a path: from the last `.` of its last element, or nothing. -/
def extension (path : String) : String :=
  let base := (path.splitOn "/").getLast?.getD path
  match (base.splitOn ".") with
  | [_] | [] => ""
  | parts => "." ++ parts.getLast!

/-- The format of a catalog file by its extension. -/
def formatOfPath? (path : String) : Option Format :=
  match (extension path).toLower with
  | ".yaml" | ".yml" => some .yaml
  | ".toml" => some .toml
  | ".json" => some .json
  | _ => none

/-- Reads a catalog file, given its contents or why they could not be read. -/
def loadCatalogFile (path : String) (contents : Except String String) : Except CatalogError Catalog :=
  match formatOfPath? path with
  | none => .error (.unsupportedFileType path)
  | some f =>
    match contents with
    | .error detail => .error (.read detail)
    | .ok data => parseCatalog data f.name

/-- The catalog shipped with the browser, in YAML. -/
def bundledCatalogText : String :=
  "# Bundled search engines. The first entry is used when no default is set.\n" ++
  "default: google\n" ++
  "engines:\n" ++
  "  - id: google\n" ++
  "    name: Google\n" ++
  "    search: \"https://www.google.com/search?q=\x7bsearchTerms\x7d&ie=utf-8&oe=utf-8\"\n" ++
  "    suggest: \"https://www.google.com/complete/search?client=firefox&q=\x7bsearchTerms\x7d\"\n" ++
  "  - id: duckduckgo\n" ++
  "    name: DuckDuckGo\n" ++
  "    search: \"https://duckduckgo.com/?q=\x7bsearchTerms\x7d&t=fpas\"\n" ++
  "    suggest: \"https://ac.duckduckgo.com/ac/?q=\x7bsearchTerms\x7d&type=list\"\n" ++
  "  - id: bing\n" ++
  "    name: Bing\n" ++
  "    search: \"https://www.bing.com/search?q=\x7bsearchTerms\x7d&pc=MOZB\"\n" ++
  "    suggest: \"https://www.bing.com/osjson.aspx?query=\x7bsearchTerms\x7d\"\n" ++
  "  - id: wikipedia\n" ++
  "    name: Wikipedia\n" ++
  "    search: \"https://en.wikipedia.org/wiki/Special:Search?search=\x7bsearchTerms\x7d&sourceid=Mozilla-search\"\n" ++
  "    suggest: \"https://en.wikipedia.org/w/api.php?action=opensearch&search=\x7bsearchTerms\x7d\"\n" ++
  "  - id: amazon\n" ++
  "    name: Amazon.com\n" ++
  "    search: \"https://www.amazon.com/s?field-keywords=\x7bsearchTerms\x7d\"\n"

/-- The catalog shipped with the browser. -/
def bundledCatalog : Catalog :=
  match parseCatalog bundledCatalogText "yaml" with
  | .ok c => c
  | .error _ => {}

/-- The JSON object of an engine; an empty suggestion template is left out. -/
def Engine.toJson (e : Engine) : Json :=
  .obj ([("id", .str e.id), ("name", .str e.name), ("search", .str e.search)] ++
    (if e.suggest.isEmpty then [] else [("suggest", .str e.suggest)]))

/-- The JSON object of a catalog. -/
def Catalog.toJson (c : Catalog) : Json :=
  .obj [("default", .str c.default), ("engines", .arr (c.engines.map Engine.toJson))]

end BrowserSessions.Search
