import BrowserSessions.Url.Percent

/-!
# Url.Basic

An address split into its parts (RFC 3986): scheme, an opaque rest for addresses like
`mailto:a@b`, user information, host, path, query and fragment. Path and fragment are kept both
decoded and as written, so that writing the address back keeps an escaping the reader chose.
-/

namespace BrowserSessions.Url

/-- The user name of an address, with a password if one was given. -/
structure Userinfo where
  username : Bytes
  password : Option Bytes
  deriving DecidableEq, Repr

/-- An address split into its parts. -/
structure Address where
  scheme : Bytes := []
  opaquePart : Bytes := []
  user : Option Userinfo := none
  host : Bytes := []
  path : Bytes := []
  rawPath : Bytes := []
  omitHost : Bool := false
  forceQuery : Bool := false
  rawQuery : Bytes := []
  fragment : Bytes := []
  rawFragment : Bytes := []
  deriving DecidableEq, Repr

/-- Why a text is not an address. -/
inductive ParseError where
  | controlChar
  | missingScheme
  | colonInFirstSegment
  | badUserinfo
  | missingBracket
  | badPort (text : Bytes)
  | badEscape (e : EscapeError)
  /-- A request target that is neither an absolute address nor an absolute path. -/
  | notForRequest
  /-- An empty request target. -/
  | emptyTarget
  deriving DecidableEq, Repr

/-- The message of a parse error. -/
def ParseError.message : ParseError → String
  | .controlChar => "net/url: invalid control character in URL"
  | .missingScheme => "missing protocol scheme"
  | .colonInFirstSegment => "first path segment in URL cannot contain colon"
  | .badUserinfo => "net/url: invalid userinfo"
  | .missingBracket => "missing \x27]\x27 in host"
  | .badPort t => "invalid port \"" ++ Bytes.toStringLossy t ++ "\" after host"
  | .badEscape (.badEscape t) => "invalid URL escape \"" ++ Bytes.toStringLossy t ++ "\""
  | .badEscape (.badHostByte b) =>
    "invalid character \"" ++ Bytes.toStringLossy [b] ++ "\" in host name"
  | .notForRequest => "invalid URI for request"
  | .emptyTarget => "empty url"

end BrowserSessions.Url
