import BrowserSessions.Url.Query
import BrowserSessions.Idna.Display
import BrowserSessions.Text.Case

/-!
# Url.Classify

What the browser decides about a typed or received address: whether a text looks like an address
at all, which schemes it may load, how to complete a bare host into an address, how to drop user
credentials, whether two addresses differ only by a trailing slash, and the short host text shown
for an address.
-/

namespace BrowserSessions.Url

/-- The address of the page shown for a load error. -/
def internalErrorUrl : String := "data:text/html;charset=utf-8;base64,"

/-- Whether a text is the internal error page. -/
def isInternalError (s : String) : Bool := s == internalErrorUrl

/-- Completes a typed address: the trimmed text with `http://` in front when it does not read as
    an address with a scheme, else the address written back in its normal form. -/
def normalize (input : String) : String :=
  let trimmed := Text.trimSpace input
  match parseString trimmed with
  | .ok a => if a.scheme.isEmpty then "http://" ++ trimmed else Bytes.toStringLossy a.render
  | .error _ => "http://" ++ trimmed

/-- Whether a text looks like an address: after trimming it has no space, and has a `.` or a `:`. -/
def looksLikeAddress (input : String) : Bool :=
  let t := Text.trimSpace input
  !t.contains ' ' && (t.contains '.' || t.contains ':')

/-- Whether a text starts with `http:` or `https:`. -/
def isHttpOrHttps (s : String) : Bool :=
  s.startsWith "http:" || s.startsWith "https:"

/-- The address without its user information; a text that does not read as an address, or has
    no user information, stays as it is. -/
def stripUserInfo (raw : String) : String :=
  if raw.isEmpty then raw
  else match parseString raw with
    | .ok a => if a.user.isNone then raw else Bytes.toStringLossy { a with user := none }.render
    | .error _ => raw

/-- Schemes a page may load resources from: those starting with `http`, `file` or `data`. -/
def isPermittedResourceScheme (scheme : String) : Bool :=
  scheme.startsWith "http" || scheme.startsWith "file" || scheme.startsWith "data"

/-- Schemes the browser opens: the permitted ones and `error` pages. -/
def isSupportedScheme (scheme : String) : Bool :=
  isPermittedResourceScheme scheme || scheme.startsWith "error"

/-- Two addresses match except for a trailing slash: equal up to case, or one is the other plus
    a final `/`. Lengths and the cut are in bytes. -/
def matchExceptTrailingSlash (a b : String) : Bool :=
  let ba := Bytes.ofString a
  let bb := Bytes.ofString b
  let eqFold := fun (x y : Bytes) =>
    Text.equalFoldChars (Bytes.decodeChars x) (Bytes.decodeChars y)
  if ba.length == bb.length then eqFold ba bb
  else if ba.length == bb.length + 1 then
    ba.getLast? == some (byte '/') && eqFold (ba.take bb.length) bb
  else if bb.length == ba.length + 1 then
    bb.getLast? == some (byte '/') && eqFold (bb.take ba.length) ba
  else false

/-- Drops the first of `www.`, `mobile.` and `m.` that the host starts with. -/
def stripCommonSubdomains (host : Bytes) : Bytes :=
  match ["www.", "mobile.", "m."].find? (fun p => (Bytes.ofString p).isPrefixOf host) with
  | some p => host.drop p.utf8ByteSize
  | none => host

/-- The short text shown for an address, given the conversion of a host name to its display
    form: the host in display form (as it came if it has no display form), or the path when it
    has no host, without a common subdomain; `?` when the text is not an address or the host and
    path are both empty. -/
def snippetWith (display : Bytes → Except Idna.DisplayError String) (raw : String) : Bytes :=
  match parseString raw with
  | .error _ => Bytes.ofString "?"
  | .ok a =>
    let host := a.hostname
    let shown :=
      if host.isEmpty then a.path
      else match display host with
        | .ok u => Bytes.ofString u
        | .error _ => host
    if shown.isEmpty then Bytes.ofString "?" else stripCommonSubdomains shown

/-- The short text shown for an address, with hosts in their IDNA display form. -/
def snippet (raw : String) : Bytes := snippetWith Idna.toUnicode raw

end BrowserSessions.Url
