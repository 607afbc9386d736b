import BrowserSessions.Url.Parse

/-!
# Url.Render

Writing an address back as text, and the host name of an address.

The scheme is followed by `:`; an opaque rest is written as it is. Otherwise `//` is written when
there is a host, a path or user information (and the address did not read with an empty
authority), then user information with its own escaping, the host with non-ASCII bytes escaped,
and the path: the written form it was read from when that still reads as the same path, else the
decoded path escaped anew. A path that does not start with `/` gets one after a host, and a
relative path whose first segment has a `:` gets `./` in front. The query is written as read, and
the fragment like the path.
-/

namespace BrowserSessions.Url

/-- The text of user information: the name, and `:` and the password if one was given. -/
def Userinfo.render (u : Userinfo) : Bytes :=
  escape .userPassword u.username ++
    match u.password with
    | some p => byte ':' :: escape .userPassword p
    | none => []

/-- The path as it is written: the kept written form if it still reads as the path, else the
    path escaped. -/
def Address.escapedPath (a : Address) : Bytes :=
  let kept :=
    if !a.rawPath.isEmpty && validEncoded .path a.rawPath then
      match unescape .path a.rawPath with
      | .ok p => p == a.path
      | .error _ => false
    else false
  if kept then a.rawPath
  else if a.path == [byte '*'] then a.path
  else escape .path a.path

/-- The fragment as it is written, chosen like the path. -/
def Address.escapedFragment (a : Address) : Bytes :=
  let kept :=
    if !a.rawFragment.isEmpty && validEncoded .fragment a.rawFragment then
      match unescape .fragment a.rawFragment with
      | .ok f => f == a.fragment
      | .error _ => false
    else false
  if kept then a.rawFragment else escape .fragment a.fragment

/-- Writes an address as text. -/
def Address.render (a : Address) : Bytes :=
  let head := if a.scheme.isEmpty then [] else a.scheme ++ [byte ':']
  let body :=
    if !a.opaquePart.isEmpty then a.opaquePart
    else
      let auth :=
        if !a.scheme.isEmpty || !a.host.isEmpty || a.user.isSome then
          if a.omitHost && a.host.isEmpty && a.user.isNone then []
          else
            (if !a.host.isEmpty || !a.path.isEmpty || a.user.isSome then Bytes.ofString "//" else [])
            ++ (match a.user with
                | some u => u.render ++ [byte '@']
                | none => [])
            ++ escape .host a.host
        else []
      let path := a.escapedPath
      let slash := if !path.isEmpty && path.head? != some (byte '/') && !a.host.isEmpty
        then [byte '/'] else []
      let dot :=
        if (head ++ auth ++ slash).isEmpty && (Bytes.splitOnce path (byte '/')).1.contains (byte ':')
        then Bytes.ofString "./" else []
      auth ++ slash ++ dot ++ path
  let query := if a.forceQuery || !a.rawQuery.isEmpty then byte '?' :: a.rawQuery else []
  let frag := if a.fragment.isEmpty then [] else byte '#' :: a.escapedFragment
  head ++ body ++ query ++ frag

/-- Splits a host into name and port: the part after the last `:` is the port if it is digits
    only; brackets around the name are removed. -/
def splitHostPort (hostPort : Bytes) : Bytes × Bytes :=
  let (host, port) :=
    match Bytes.lastIdxOf? hostPort (byte ':') with
    | some i =>
      if validOptionalPort (hostPort.drop i) then (hostPort.take i, hostPort.drop (i + 1))
      else (hostPort, [])
    | none => (hostPort, [])
  let host :=
    if host.head? == some (byte '[') && host.getLast? == some (byte ']') then
      (host.drop 1).dropLast
    else host
  (host, port)

/-- The host name of an address, without port and brackets. -/
def Address.hostname (a : Address) : Bytes := (splitHostPort a.host).1

end BrowserSessions.Url
