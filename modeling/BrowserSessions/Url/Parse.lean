import BrowserSessions.Url.Basic

/-!
# Url.Parse

Reading an address. The text up to the first `#` is the reference and the rest the fragment.
A reference with a control byte is refused. A scheme is a letter followed by letters, digits and
`+ - .`, ended by `:`; a text that starts with `:` has an empty scheme and is refused. After the
scheme, a single `?` at the very end only marks an empty query; otherwise the first `?` starts the
query. With a scheme and no leading `/`, the rest is opaque (`mailto:a@b`). Without a scheme, a
first path segment with a `:` is refused, since it would read as a scheme. `//` starts an
authority (not `///` without a scheme), which ends at the next `/`: user information before the
last `@`, then the host, an optional `[...]` literal and an optional `:port` of digits.
-/

namespace BrowserSessions.Url

/-- Whether a text has a control byte: below space, or DEL. -/
def hasControlByte (bs : Bytes) : Bool := bs.any fun b => b < 0x20 || b == 0x7F

/-- ASCII letters. -/
def isLetter (b : UInt8) : Bool :=
  (byte 'a' ≤ b && b ≤ byte 'z') || (byte 'A' ≤ b && b ≤ byte 'Z')

/-- Lowercases ASCII letters. -/
def lowerAscii (bs : Bytes) : Bytes :=
  bs.map fun b => if byte 'A' ≤ b && b ≤ byte 'Z' then b + 32 else b

/-- Splits off a scheme: the scheme and the rest, or an error for a text starting with `:`.
    A text whose first character cannot start a scheme has none. -/
def splitScheme (bs : Bytes) : Except ParseError (Bytes × Bytes) :=
  go bs []
where
  go : Bytes → Bytes → Except ParseError (Bytes × Bytes)
    | [], _ => .ok ([], bs)
    | b :: rest, acc =>
      if isLetter b then go rest (b :: acc)
      else if (byte '0' ≤ b && b ≤ byte '9') || byteIn b "+-." then
        if acc.isEmpty then .ok ([], bs) else go rest (b :: acc)
      else if b == byte ':' then
        if acc.isEmpty then .error .missingScheme else .ok (acc.reverse, rest)
      else .ok ([], bs)

/-- A port part: empty, or `:` followed by digits only. -/
def validOptionalPort : Bytes → Bool
  | [] => true
  | b :: rest => b == byte ':' && rest.all fun d => byte '0' ≤ d && d ≤ byte '9'

/-- User information may hold letters, digits and `- . _ : ~ ! $ & ' ( ) * + , ; = % @`; any
    other byte, non-ASCII included, is refused. -/
def validUserinfo (bs : Bytes) : Bool :=
  bs.all fun b => isAlnum b || byteIn b "-._:~!$&\x27()*+,;=%@"

/-- The position of the first occurrence of a byte pattern. -/
def findBytes (bs pat : Bytes) : Option Nat :=
  go bs 0
where
  go : Bytes → Nat → Option Nat
    | [], i => if pat.isEmpty then some i else none
    | b :: rest, i => if pat.isPrefixOf (b :: rest) then some i else go rest (i + 1)

/-- Lifts an escape error. -/
def liftEscape : Except EscapeError Bytes → Except ParseError Bytes
  | .ok v => .ok v
  | .error e => .error (.badEscape e)

/-- Reads a host: a bracketed literal, possibly with a `%25` zone and a port, or a name with an
    optional port. -/
def parseHost (host : Bytes) : Except ParseError Bytes :=
  if host.head? == some (byte '[') then
    match Bytes.lastIdxOf? host (byte ']') with
    | none => .error .missingBracket
    | some i =>
      let colonPort := host.drop (i + 1)
      if !validOptionalPort colonPort then .error (.badPort colonPort)
      else
        match findBytes (host.take i) (Bytes.ofString "%25") with
        | some zone =>
          match liftEscape (unescape .host (host.take zone)),
                liftEscape (unescape .zone ((host.take i).drop zone)),
                liftEscape (unescape .host (host.drop i)) with
          | .ok h1, .ok h2, .ok h3 => .ok (h1 ++ h2 ++ h3)
          | .error e, _, _ => .error e
          | _, .error e, _ => .error e
          | _, _, .error e => .error e
        | none => liftEscape (unescape .host host)
  else
    match Bytes.lastIdxOf? host (byte ':') with
    | some i =>
      let colonPort := host.drop i
      if !validOptionalPort colonPort then .error (.badPort colonPort)
      else liftEscape (unescape .host host)
    | none => liftEscape (unescape .host host)

/-- Reads an authority: user information before the last `@`, then the host. -/
def parseAuthority (authority : Bytes) : Except ParseError (Option Userinfo × Bytes) :=
  match Bytes.lastIdxOf? authority (byte '@') with
  | none => (parseHost authority).map fun h => (none, h)
  | some i =>
    match parseHost (authority.drop (i + 1)) with
    | .error e => .error e
    | .ok host =>
      let info := authority.take i
      if !validUserinfo info then .error .badUserinfo
      else
        match Bytes.splitOnce info (byte ':') with
        | (name, none) =>
          (liftEscape (unescape .userPassword name)).map fun n => (some ⟨n, none⟩, host)
        | (name, some pass) =>
          match liftEscape (unescape .userPassword name),
                liftEscape (unescape .userPassword pass) with
          | .ok n, .ok p => .ok (some ⟨n, some p⟩, host)
          | .error e, _ => .error e
          | _, .error e => .error e

/-- Sets the path from its written form; the written form is kept only if escaping the decoded
    path would not give it back. -/
def Address.withPath (a : Address) (written : Bytes) : Except ParseError Address :=
  match liftEscape (unescape .path written) with
  | .error e => .error e
  | .ok p => .ok { a with path := p, rawPath := if escape .path p == written then [] else written }

/-- Sets the fragment from its written form, keeping that form as the path does. -/
def Address.withFragment (a : Address) (written : Bytes) : Except ParseError Address :=
  match liftEscape (unescape .fragment written) with
  | .error e => .error e
  | .ok f =>
    .ok { a with fragment := f, rawFragment := if escape .fragment f == written then [] else written }

/-- Splits the text after the scheme at its query: the text before it, the query, and whether
    the query is marked empty. A single `?` at the very end only marks an empty query; otherwise
    the first `?` starts the query. -/
def splitQuery (rest : Bytes) : Bytes × Bytes × Bool :=
  if rest.getLast? == some (byte '?') && rest.count (byte '?') == 1 then (rest.dropLast, [], true)
  else match Bytes.splitOnce rest (byte '?') with
    | (r, some q) => (r, q, false)
    | (r, none) => (r, [], false)

/-- Splits the text after `//` into the authority and the path, which starts at the first `/`. -/
def splitAuthority (afterSlashes : Bytes) : Bytes × Bytes :=
  match afterSlashes.idxOf? (byte '/') with
  | some i => (afterSlashes.take i, afterSlashes.drop i)
  | none => (afterSlashes, [])

/-- Reads the reference part of an address, everything before `#`. A request target
    (`viaRequest`) must be an absolute address or an absolute path, and `//` starts an authority
    only after a scheme. -/
def parseReference (raw : Bytes) (viaRequest : Bool) : Except ParseError Address :=
  if hasControlByte raw then .error .controlChar
  else if raw.isEmpty && viaRequest then .error .emptyTarget
  else if raw == [byte '*'] then .ok { path := raw }
  else
    match splitScheme raw with
    | .error e => .error e
    | .ok (scheme0, rest0) =>
      let scheme := lowerAscii scheme0
      let (rest, rawQuery, forceQuery) := splitQuery rest0
      let base : Address := { scheme, rawQuery, forceQuery }
      let startsSlash := rest.head? == some (byte '/')
      if !startsSlash && !scheme.isEmpty then .ok { base with opaquePart := rest }
      else if !startsSlash && viaRequest then .error .notForRequest
      else if !startsSlash && (Bytes.splitOnce rest (byte '/')).1.contains (byte ':') then
        .error .colonInFirstSegment
      else if (!scheme.isEmpty || !viaRequest && !(Bytes.ofString "///").isPrefixOf rest)
          && (Bytes.ofString "//").isPrefixOf rest then
        let (authority, pathPart) := splitAuthority (rest.drop 2)
        match parseAuthority authority with
        | .error e => .error e
        | .ok (user, host) => Address.withPath { base with user, host } pathPart
      else if !scheme.isEmpty && startsSlash then Address.withPath { base with omitHost := true } rest
      else Address.withPath base rest

/-- Reads an address. -/
def parse (raw : Bytes) : Except ParseError Address :=
  let (ref, frag?) := Bytes.splitOnce raw (byte '#')
  match parseReference ref false with
  | .error e => .error e
  | .ok a =>
    match frag? with
    | none => .ok a
    | some [] => .ok a
    | some frag => a.withFragment frag

/-- Reads an address given as text. -/
def parseString (s : String) : Except ParseError Address := parse (Bytes.ofString s)

/-- Reads the target of a request line: the whole text, `#` included, is the address. -/
def parseRequestTarget (s : String) : Except ParseError Address :=
  parseReference (Bytes.ofString s) true

end BrowserSessions.Url
