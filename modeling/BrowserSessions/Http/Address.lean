import BrowserSessions.Text.Case

/-!
# Http.Address

IP addresses of clients: reading them, writing them in their usual form, and finding the client
behind a request.

An IPv4 address is four decimal fields of at most three digits, each at most 255, without
leading zeros. An IPv6 address is eight groups of up to four hexadecimal digits, where one `::`
stands for a run of zero groups and the last two groups may be written as an IPv4 address.
Written back, an IPv4 address (also one inside IPv6 as `::ffff:a.b.c.d`) is dotted decimal; any
other IPv6 address is lowercase hexadecimal with the first longest run of two or more zero
groups written `::`.

Every proxy is trusted, so the client is the leftmost address of `X-Forwarded-For` when all its
addresses are valid, then likewise of `X-Real-IP`, and otherwise the peer's address.
-/

namespace BrowserSessions.Http

/-- A parsed IP address: four bytes, or sixteen. -/
inductive IpAddress where
  | v4 (bytes : List Nat)
  | v6 (bytes : List Nat)
  deriving DecidableEq, Repr

/-- The value of a decimal field of at most three digits without leading zeros. -/
def decimalField (cs : List Char) : Option Nat :=
  if cs.isEmpty || cs.length > 3 || !cs.all Char.isDigit then none
  else if cs.length > 1 && cs.head? == some '0' then none
  else
    let n := cs.foldl (fun n c => n * 10 + (c.toNat - 48)) 0
    if n ≤ 255 then some n else none

/-- Reads a dotted IPv4 address. -/
def parseV4 (s : String) : Option (List Nat) :=
  let fields := s.splitOn "."
  if fields.length != 4 then none else fields.mapM fun f => decimalField f.toList

/-- The value of a hexadecimal digit. -/
def hexValue (c : Char) : Option Nat :=
  if c.isDigit then some (c.toNat - 48)
  else if 'a' ≤ c && c ≤ 'f' then some (c.toNat - 87)
  else if 'A' ≤ c && c ≤ 'F' then some (c.toNat - 55)
  else none

/-- A group of one to four hexadecimal digits, as two bytes. -/
def hexGroup (g : String) : Option (List Nat) :=
  if g.isEmpty || g.length > 4 then none
  else (g.toList.mapM hexValue).map fun ds =>
    let n := ds.foldl (fun n d => n * 16 + d) 0
    [n / 256, n % 256]

/-- The bytes of the groups written on one side of `::`; the last may be an IPv4 address. -/
def groupBytes (part : String) (last : Bool) : Option (List Nat) :=
  if part.isEmpty then some []
  else
    let groups := part.splitOn ":"
    let n := groups.length
    (groups.zipIdx.mapM fun ((g : String), (i : Nat)) =>
      if last && i + 1 == n && g.contains '.' then parseV4 g else hexGroup g).map List.flatten

/-- Reads an IPv6 address. -/
def parseV6 (s : String) : Option (List Nat) :=
  match s.splitOn "::" with
  | [whole] =>
    (groupBytes whole true).bind fun bs => if bs.length == 16 then some bs else none
  | [front, back] =>
    (groupBytes front false).bind fun f =>
      (groupBytes back true).bind fun b =>
        if f.length + b.length ≤ 14 then some (f ++ List.replicate (16 - f.length - b.length) 0 ++ b)
        else none
  | _ => none

/-- Reads an IP address. -/
def parseIp (s : String) : Option IpAddress :=
  if s.contains ':' then (parseV6 s).map .v6 else (parseV4 s).map .v4

/-- Four lowercase hexadecimal digits without leading zeros. -/
def hexText (n : Nat) : String :=
  if n == 0 then "0" else String.ofList (Nat.toDigits 16 n)

/-- The start and length of the first longest run of at least two zero groups. -/
def longestZeroRun (groups : List Nat) : Option (Nat × Nat) :=
  let step := fun (acc : Option (Nat × Nat) × Option (Nat × Nat)) (gi : Nat × Nat) =>
    let (best, cur) := acc
    let (g, i) := gi
    if g == 0 then
      let cur := match cur with
        | some (st, len) => some (st, len + 1)
        | none => some (i, 1)
      let best := match best, cur with
        | some (_, bl), some (cs, cl) => if cl > bl then some (cs, cl) else best
        | none, c => c
        | b, none => b
      (best, cur)
    else (best, none)
  match (groups.zipIdx.foldl step (none, none)).1 with
  | some (st, len) => if len ≥ 2 then some (st, len) else none
  | none => none

/-- The usual text of an IP address. -/
def IpAddress.render : IpAddress → String
  | .v4 bs => ".".intercalate (bs.map toString)
  | .v6 bs =>
    if bs.take 12 == List.replicate 10 0 ++ [255, 255] then ".".intercalate ((bs.drop 12).map toString)
    else
      let groups := (List.range 8).map fun i => bs.getD (2 * i) 0 * 256 + bs.getD (2 * i + 1) 0
      match longestZeroRun groups with
      | none => ":".intercalate (groups.map hexText)
      | some (st, len) =>
        ":".intercalate ((groups.take st).map hexText) ++ "::" ++
          ":".intercalate ((groups.drop (st + len)).map hexText)

/-- The host of a `host:port` text, with brackets around an IPv6 host removed. -/
def hostOf (hostPort : String) : Option String :=
  let cs := hostPort.toList
  if cs.head? == some '[' then
    match cs.findIdx? (· == ']') with
    | some close =>
      let rest := cs.drop (close + 1)
      if rest.head? == some ':' && !(rest.drop 1).contains ':' then
        some (String.ofList ((cs.take close).drop 1))
      else none
    | none => none
  else
    match cs.filter (· == ':') with
    | [_] => some (String.ofList (cs.takeWhile (· != ':')))
    | _ => none

/-- The client named by a forwarding header: the leftmost address, when every address in the
    list is valid (every proxy on the way being trusted). -/
def forwardedClient (value : String) : Option String :=
  if value.isEmpty then none
  else
    let items := (value.splitOn ",").map Text.trimSpace
    if items.all fun i => (parseIp i).isSome then items.head? else none

/-- The client address of a request, given the peer's address and the first value of each
    forwarding header: from the forwarding headers, else the peer. -/
def clientAddress (remoteAddr : String) (forwardedFor realIp : String) : String :=
  match (hostOf (Text.trimSpace remoteAddr)).bind parseIp with
  | none => ""
  | some peer =>
    match forwardedClient forwardedFor with
    | some ip => ip
    | none =>
      match forwardedClient realIp with
      | some ip => ip
      | none => peer.render

end BrowserSessions.Http
