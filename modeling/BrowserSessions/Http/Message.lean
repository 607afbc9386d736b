import BrowserSessions.Json.Print
import BrowserSessions.Url.Query
import BrowserSessions.Url.Parse

/-!
# Http.Message

Requests and responses as the service sees them.

Header names are kept in their canonical form: the first letter and every letter after a hyphen
in upper case, the others in lower case. A name with a byte that may not appear in a header
name is kept as it is. A response's headers keep the order in which they were first set; setting
a header replaces its values, adding one appends a value.

A request's target is split into its path, read with its escapes decoded, and its raw query.
A request may arrive with its context already cancelled: work that waits on it then gives up.
-/

namespace BrowserSessions.Http

/-- Whether a character may appear in a header name. -/
def isTokenChar (c : Char) : Bool :=
  c.isAlphanum || "!#$%&*+-.^_|~".toList.contains c || c == Char.ofNat 39 || c == Char.ofNat 96

/-- The canonical form of a header name. -/
def canonicalName (name : String) : String :=
  if name.toList.all fun c => c.toNat < 128 && isTokenChar c then
    String.ofList (go true name.toList)
  else name
where
  go : Bool → List Char → List Char
    | _, [] => []
    | upper, c :: cs => (if upper then c.toUpper else c.toLower) :: go (c == '-') cs

/-- A request to the service. -/
structure Request where
  method : String := "GET"
  /-- The path with its query, as sent. -/
  target : String := "/"
  /-- The headers, with canonical names, in order. -/
  headers : List (String × String) := []
  body : Option String := none
  remoteAddr : String := "192.0.2.1:1234"
  /-- The host the request was sent to. -/
  host : String := "example.com"
  /-- Whether the request's context is already cancelled. -/
  cancelled : Bool := false

namespace Request

/-- The first value of a header, or the empty text. -/
def header (r : Request) (name : String) : String :=
  ((r.headers.find? (·.1 == canonicalName name)).map (·.2)).getD ""

/-- Every value of a header. -/
def headerValues (r : Request) (name : String) : List String :=
  (r.headers.filter (·.1 == canonicalName name)).map (·.2)

/-- The target read as a request address; none when it does not read as one. -/
def address? (r : Request) : Option Url.Address :=
  match Url.parseRequestTarget r.target with
  | .ok a => some a
  | .error _ => none

/-- The decoded path. -/
def path (r : Request) : Bytes := ((r.address?.map (·.path))).getD (Bytes.ofString r.target)

/-- The query pairs. -/
def query (r : Request) : List (Bytes × Bytes) := ((r.address?.map (·.query))).getD []

/-- The first value of a query key, or the empty text. -/
def queryValue (r : Request) (key : String) : Bytes := Url.lookupFirst r.query (Bytes.ofString key)

/-- The first value of a query key, when the key is given at all. -/
def queryValue? (r : Request) (key : String) : Option Bytes :=
  (r.query.find? (·.1 == Bytes.ofString key)).map (·.2)

/-- The length of the body in bytes. -/
def contentLength (r : Request) : Nat := ((r.body.map fun b => b.utf8ByteSize)).getD 0

end Request

/-- What a response carries. -/
inductive Body where
  /-- Nothing. -/
  | empty
  /-- A JSON value. -/
  | json (value : Json)
  /-- Plain text. -/
  | text (value : String)

/-- A response of the service. -/
structure Response where
  status : Nat := 200
  /-- The headers, with canonical names, in the order first set. -/
  headers : List (String × List String) := []
  body : Body := .empty

namespace Response

/-- Replaces the values of a header. -/
def setHeader (r : Response) (name value : String) : Response :=
  let name := canonicalName name
  if r.headers.any (·.1 == name) then
    { r with headers := r.headers.map fun h => if h.1 == name then (name, [value]) else h }
  else { r with headers := r.headers ++ [(name, [value])] }

/-- Replaces the values of a header with a list of values. -/
def setValues (r : Response) (name : String) (values : List String) : Response :=
  let name := canonicalName name
  if r.headers.any (·.1 == name) then
    { r with headers := r.headers.map fun h => if h.1 == name then (name, values) else h }
  else { r with headers := r.headers ++ [(name, values)] }

/-- Adds a value to a header. -/
def addHeader (r : Response) (name value : String) : Response :=
  let name := canonicalName name
  if r.headers.any (·.1 == name) then
    { r with headers := r.headers.map fun h => if h.1 == name then (name, h.2 ++ [value]) else h }
  else { r with headers := r.headers ++ [(name, [value])] }

/-- The content type of JSON answers. -/
def jsonType : String := "application/json; charset=utf-8"

/-- A JSON answer with a status. -/
def ofJson (status : Nat) (value : Json) : Response :=
  { status, headers := [("Content-Type", [jsonType])], body := .json value }

/-- The bytes of the body: JSON text with `<`, `>` and `&` escaped. -/
def bodyText (r : Response) : String :=
  match r.body with
  | .empty => ""
  | .json j => Json.compact j
  | .text s => s

end Response

end BrowserSessions.Http
