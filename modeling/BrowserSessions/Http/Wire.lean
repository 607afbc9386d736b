import BrowserSessions.Http.Message
import BrowserSessions.Text.Case
import BrowserSessions.Clock

/-!
# Http.Wire

Requests and responses as HTTP/1.1 messages on a connection.

A request is a request line (`METHOD target HTTP/1.x`), header lines `Name: value` and a blank
line, then a body framed by `Content-Length` or by chunks. Lines end in `LF`, with or without
a `CR` before it. A connection stays open after a response unless the request asks it to close
or speaks HTTP/1.0 without asking to stay open.

Bytes that cannot start a request are refused before any handler sees them: the refusal names
its status on the status line and in a short plain-text body, and closes the connection. A
head larger than a megabyte is refused as too large, an HTTP/1.1 request needs exactly one
`Host` header, and a transfer coding other than chunked is not implemented.

A response is written with its headers sorted by name, then the headers the connection adds:
a plain-text content type for a body without one, `Connection: close` when the connection
ends, the date, and the body length unless the status has no body. The answer to a `HEAD`
request has no body bytes.
-/

namespace BrowserSessions.Http

/-- The largest message head read before the request is refused as too large. -/
def maxHeadBytes : Nat := 1048576 + 4096

/-- The reason phrase of a status code. -/
def reasonPhrase : Nat → String
  | 200 => "OK"
  | 201 => "Created"
  | 204 => "No Content"
  | 301 => "Moved Permanently"
  | 304 => "Not Modified"
  | 307 => "Temporary Redirect"
  | 400 => "Bad Request"
  | 403 => "Forbidden"
  | 404 => "Not Found"
  | 405 => "Method Not Allowed"
  | 409 => "Conflict"
  | 413 => "Request Entity Too Large"
  | 422 => "Unprocessable Entity"
  | 429 => "Too Many Requests"
  | 431 => "Request Header Fields Too Large"
  | 500 => "Internal Server Error"
  | 501 => "Not Implemented"
  | 502 => "Bad Gateway"
  | 503 => "Service Unavailable"
  | 504 => "Gateway Timeout"
  | 505 => "HTTP Version Not Supported"
  | n => "status code " ++ toString n

/-- A request refused before any handler sees it: its status, the text after the code on the
    status line, and the body. -/
structure Refusal where
  status : Nat
  line : String
  body : String
  deriving DecidableEq, Repr

/-- The plain refusal of a status. -/
def Refusal.plain (status : Nat) : Refusal :=
  let phrase := reasonPhrase status
  { status, line := phrase, body := toString status ++ " " ++ phrase }

/-- A refusal that tells why, on the status line and in the body. -/
def Refusal.because (status : Nat) (why : String) : Refusal :=
  let phrase := reasonPhrase status ++ ": " ++ why
  { status, line := phrase, body := toString status ++ " " ++ phrase }

/-- How the bytes received so far frame the next request. -/
inductive Frame where
  /-- More bytes are needed. -/
  | incomplete
  /-- A whole request taking the first `used` bytes; `keepAlive` tells whether the connection
      stays open after its response. -/
  | complete (req : Request) (used : Nat) (keepAlive : Bool)
  /-- The bytes cannot be a request. -/
  | refused (r : Refusal)

/-- The first line of some bytes without its line end, and the bytes after it; none when no
    line ends yet. -/
def takeLine (bs : Bytes) : Option (Bytes × Bytes) :=
  match bs.findIdx? (· == 10) with
  | none => none
  | some i =>
    let line := bs.take i
    some (if line.getLast? == some 13 then line.dropLast else line, bs.drop (i + 1))

/-- The lines of a message head up to its blank line, and the number of bytes the head takes;
    none when the blank line has not arrived. -/
def readHead (bs : Bytes) : Option (List Bytes × Nat) :=
  go bs.length bs [] 0
where
  go : Nat → Bytes → List Bytes → Nat → Option (List Bytes × Nat)
    | 0, _, _, _ => none
    | fuel + 1, bs, acc, used =>
      match takeLine bs with
      | none => none
      | some (line, rest) =>
        let used := used + (bs.length - rest.length)
        if line.isEmpty then
          -- blank lines before the request line are skipped
          if acc.isEmpty then go fuel rest acc used else some (acc.reverse, used)
        else go fuel rest (line :: acc) used

/-- Whether a text is a token: not empty, and every character one a header name may have. -/
def isToken (s : String) : Bool := !s.isEmpty && s.toList.all fun c => c.toNat < 128 && isTokenChar c

/-- The text of a line of bytes. -/
def lineText (bs : Bytes) : String := Bytes.toStringLossy bs

/-- Reads a header line into its canonical name and its value without surrounding blanks. -/
def readHeader (line : Bytes) : Option (String × String) :=
  match (lineText line).splitOn ":" with
  | name :: value :: more =>
    if !isToken name then none
    else
      let value := ":".intercalate (value :: more)
      let blank := fun (c : Char) => c == ' ' || c == '\t'
      some (canonicalName name, String.ofList ((value.toList.dropWhile blank).reverse.dropWhile blank).reverse)
  | _ => none

/-- The version of a protocol name `HTTP/d.d`, as major and minor numbers. -/
def readVersion (proto : String) : Option (Nat × Nat) :=
  match proto.toList with
  | ['H', 'T', 'T', 'P', '/', a, '.', b] =>
    if a.isDigit && b.isDigit then some (a.toNat - 48, b.toNat - 48) else none
  | _ => none

/-- The value of a decimal length. -/
def readLength (s : String) : Option Nat :=
  if s.isEmpty || !s.toList.all Char.isDigit || s.length > 18 then none
  else some (s.toList.foldl (fun n c => n * 10 + (c.toNat - 48)) 0)

/-- The value of a hexadecimal chunk size, before any extension. -/
def readChunkSize (line : Bytes) : Option Nat :=
  let digits := (line.takeWhile (· != 59)).filter (· != 32)
  if digits.isEmpty || digits.length > 15 then none
  else (digits.mapM Url.hexDigit?).map fun ds => ds.foldl (fun n d => n * 16 + d) 0

/-- The bytes taken by trailer lines up to and with the blank line that ends them; none while
    more bytes are needed. -/
def trailerLength : Nat → Bytes → Option Nat
  | 0, _ => none
  | fuel + 1, bs =>
    match takeLine bs with
    | none => none
    | some (line, rest) =>
      let taken := bs.length - rest.length
      if line.isEmpty then some taken else (trailerLength fuel rest).map (taken + ·)

/-- The body of a chunked message: the joined chunks and the bytes they take, none while more
    bytes are needed, or an error when the chunks are malformed. -/
def readChunks : Nat → Bytes → Bytes → Nat → Except Unit (Option (Bytes × Nat))
  | 0, _, _, _ => .ok none
  | fuel + 1, bs, body, used =>
    match takeLine bs with
    | none => .ok none
    | some (line, rest) =>
      match readChunkSize line with
      | none => .error ()
      | some 0 =>
        (trailerLength rest.length rest).elim (.ok none) fun taken =>
          .ok (some (body, used + (bs.length - rest.length) + taken))
      | some n =>
        if rest.length < n + 1 then .ok none
        else
          let chunk := rest.take n
          match takeLine (rest.drop n) with
          | none => if rest.length < n + 2 then .ok none else .error ()
          | some (endLine, after) =>
            if !endLine.isEmpty then .error ()
            else readChunks fuel after (body ++ chunk) (used + (bs.length - after.length))

/-- Frames the next request in the bytes received from a peer at `remoteAddr`. -/
def frameRequest (remoteAddr : String) (bs : Bytes) : Frame :=
  match readHead bs with
  | none => if bs.length > maxHeadBytes then .refused (.plain 431) else .incomplete
  | some (lines, headUsed) =>
    if headUsed > maxHeadBytes then .refused (.plain 431)
    else
    match lines with
    | [] => .incomplete
    | first :: rest =>
      match (lineText first).splitOn " " with
      | method :: target :: protoParts =>
        let proto := " ".intercalate protoParts
        if protoParts.isEmpty || !isToken method then .refused (.plain 400)
        else
        match readVersion proto with
        | none => .refused (.plain 400)
        | some (major, minor) =>
          if major != 1 then .refused (.because 505 "unsupported protocol version")
          else
          match rest.mapM readHeader with
          | none => .refused (.plain 400)
          | some headers =>
            let hosts := (headers.filter (·.1 == "Host")).map (·.2)
            if hosts.length > 1 then .refused (.because 400 "too many Host headers")
            else if minor ≥ 1 && hosts.isEmpty then .refused (.because 400 "missing required Host header")
            else
            let values := fun (name : String) => (headers.filter (·.1 == name)).map (·.2)
            let tokens := fun (name : String) =>
              (values name).flatMap fun v => (v.splitOn ",").map fun t => (Text.trimSpace t).toLower
            let keepAlive :=
              if (tokens "Connection").contains "close" then false
              else minor ≥ 1 || (tokens "Connection").contains "keep-alive"
            let req : Request :=
              { method, target, headers := headers.filter (·.1 != "Host"), remoteAddr,
                host := hosts.headD "" }
            let body := bs.drop headUsed
            match values "Transfer-Encoding" with
            | [] =>
              match (values "Content-Length").eraseDups with
              | [] => .complete req headUsed keepAlive
              | [len] =>
                match readLength (Text.trimSpace len) with
                | none => .refused (.plain 400)
                | some 0 => .complete { req with body := some "" } headUsed keepAlive
                | some n =>
                  if body.length < n then .incomplete
                  else .complete { req with body := some (lineText (body.take n)) } (headUsed + n) keepAlive
              | _ => .refused (.plain 400)
            | codings =>
              if codings.map (fun c => (Text.trimSpace c).toLower) != ["chunked"] then
                .refused { status := 501, line := reasonPhrase 501, body := "Unsupported transfer encoding" }
              else
                match readChunks body.length body [] 0 with
                | .error () => .refused (.plain 400)
                | .ok none => .incomplete
                | .ok (some (data, n)) =>
                  .complete { req with body := some (lineText data) } (headUsed + n) keepAlive
      | _ => .refused (.plain 400)

/-- The headers a refusal carries. -/
def refusalHeaders : String :=
  "\r\nContent-Type: text/plain; charset=utf-8\r\nConnection: close\r\n\r\n"

/-- The bytes of a refusal. -/
def Refusal.wire (r : Refusal) : Bytes :=
  Bytes.ofString ("HTTP/1.1 " ++ toString r.status ++ " " ++ r.line ++ refusalHeaders ++ r.body)

/-- Whether a status carries no body. -/
def bodiless (status : Nat) : Bool := status < 200 || status == 204 || status == 304

/-- The bytes of a response to a request with `method`, written at an instant in milliseconds;
    `close` tells whether the connection ends after it. -/
def Response.wire (r : Response) (method : String) (ms : Nat) (close : Bool) : Bytes :=
  let body := if bodiless r.status then "" else r.bodyText
  let sorted := r.headers.mergeSort fun a b => decide (a.1 ≤ b.1)
  let own := sorted.flatMap fun (name, values) => values.map fun v => name ++ ": " ++ v ++ "\r\n"
  let added :=
    (if body.isEmpty || r.headers.any (·.1 == "Content-Type") then ""
      else "Content-Type: text/plain; charset=utf-8\r\n") ++
    (if close then "Connection: close\r\n" else "") ++
    "Date: " ++ Clock.httpDate ms ++ "\r\n" ++
    (if bodiless r.status then "" else "Content-Length: " ++ toString body.utf8ByteSize ++ "\r\n")
  Bytes.ofString ("HTTP/1.1 " ++ toString r.status ++ " " ++ reasonPhrase r.status ++ "\r\n" ++
    String.join own ++ added ++ "\r\n" ++ (if method == "HEAD" then "" else body))

end BrowserSessions.Http
