import BrowserSessions.Text.Utf8

/-!
# Url.Percent

Percent-encoding of the parts of an address (RFC 3986 §2.1). Which bytes a part keeps as they are
depends on the part: letters, digits and `- _ . ~` everywhere; the sub-delimiters and `:` `[ ]` in
a host; only `?` is escaped in a path; a query value escapes every reserved byte and writes a
space as `+`; a fragment also keeps `! ( ) *`.

Reading an escape needs two hexadecimal digits after `%`. In a host an escape may only stand for a
byte of `0x80` or more, or for `%` itself (`%25`, which introduces the zone of a scoped IPv6
address), and a plain byte that would need escaping is refused.
-/

namespace BrowserSessions.Url

/-- The parts of an address, each with its own rule of which bytes are escaped. -/
inductive Component where
  | path
  | pathSegment
  | host
  | zone
  | userPassword
  | queryComponent
  | fragment
  deriving DecidableEq, Repr

/-- The byte of an ASCII character. -/
def byte (c : Char) : UInt8 := c.toNat.toUInt8

/-- Whether a byte is one of the characters of a string of ASCII characters. -/
def byteIn (b : UInt8) (set : String) : Bool := set.toList.any fun c => byte c == b

/-- ASCII letters and digits. -/
def isAlnum (b : UInt8) : Bool :=
  (byte 'a' ≤ b && b ≤ byte 'z') || (byte 'A' ≤ b && b ≤ byte 'Z') || (byte '0' ≤ b && b ≤ byte '9')

/-- Whether a byte must be escaped in a given part of an address. -/
def shouldEscape (b : UInt8) (mode : Component) : Bool :=
  if isAlnum b then false
  else if (mode == .host || mode == .zone) && byteIn b "!$&\x27()*+,;=:[]<>\"" then false
  else if byteIn b "-_.~" then false
  else if byteIn b "$&+,/:;=?@" then
    match mode with
    | .path => b == byte '?'
    | .pathSegment => byteIn b "/;,?"
    | .userPassword => byteIn b "@/?:"
    | .queryComponent => true
    | .fragment => false
    | _ => true
  else if mode == .fragment && byteIn b "!()*" then false
  else true

/-- An uppercase hexadecimal digit. -/
def upperHex (n : Nat) : UInt8 := if n < 10 then (48 + n).toUInt8 else (55 + n).toUInt8

/-- Escapes the bytes of a part that need it, as `%XX` with uppercase digits; in a query value a
    space becomes `+`. -/
def escape (mode : Component) : Bytes → Bytes
  | [] => []
  | b :: rest =>
    if b == byte ' ' && mode == .queryComponent then byte '+' :: escape mode rest
    else if shouldEscape b mode then
      byte '%' :: upperHex (b.toNat / 16) :: upperHex (b.toNat % 16) :: escape mode rest
    else b :: escape mode rest

/-- The value of a hexadecimal digit byte. -/
def hexDigit? (b : UInt8) : Option Nat :=
  if byte '0' ≤ b && b ≤ byte '9' then some (b.toNat - 48)
  else if byte 'a' ≤ b && b ≤ byte 'f' then some (b.toNat - 87)
  else if byte 'A' ≤ b && b ≤ byte 'F' then some (b.toNat - 55)
  else none

/-- Why a part of an address cannot be read. -/
inductive EscapeError where
  /-- A `%` without two hexadecimal digits, or one a host does not allow; the text is the
      escape as written, at most three bytes. -/
  | badEscape (text : Bytes)
  /-- A byte a host does not allow unescaped. -/
  | badHostByte (b : UInt8)
  deriving DecidableEq, Repr

/-- Reads the escapes of a part. -/
def unescape (mode : Component) : Bytes → Except EscapeError Bytes
  | [] => .ok []
  | b :: rest =>
    if b == byte '%' then
      match rest with
      | h1 :: h2 :: rest' =>
        match hexDigit? h1, hexDigit? h2 with
        | some d1, some d2 =>
          let isPercent := h1 == byte '2' && h2 == byte '5'
          let v := (d1 * 16 + d2).toUInt8
          if mode == .host && d1 < 8 && !isPercent then .error (.badEscape [b, h1, h2])
          else if mode == .zone && !isPercent && v != byte ' ' && shouldEscape v .host then
            .error (.badEscape [b, h1, h2])
          else (unescape mode rest').map (v :: ·)
        | _, _ => .error (.badEscape ((b :: rest).take 3))
      | _ => .error (.badEscape ((b :: rest).take 3))
    else if b == byte '+' then
      (unescape mode rest).map ((if mode == .queryComponent then byte ' ' else b) :: ·)
    else if (mode == .host || mode == .zone) && b < 0x80 && shouldEscape b mode then
      .error (.badHostByte b)
    else (unescape mode rest).map (b :: ·)

/-- Whether an already escaped text may stand as it is in a part: each byte is a sub-delimiter,
    `:`, `@`, a bracket, `%`, or one the part does not escape. -/
def validEncoded (mode : Component) (bs : Bytes) : Bool :=
  bs.all fun b => byteIn b "!$&\x27()*+,;=:@[]%" || !shouldEscape b mode

/-! ## Laws -/

/-- Escaping nothing gives nothing. -/
theorem escape_nil (mode : Component) : escape mode [] = [] := rfl

end BrowserSessions.Url
