import BrowserSessions.Text.Utf8

/-!
# Ulid

Universally unique lexicographically sortable identifiers: 128 bits, of which the first 48 are a
millisecond timestamp and the other 80 are entropy, written as 26 characters of Crockford's
base 32 (`0-9`, `A-Z` without `I L O U`). The first character carries only three bits, so it is
at most `7`.

Reading is lenient: the text must be 26 bytes and start with a byte no greater than `7`, but any
other byte is read through the decoding table, where a character outside the alphabet (and
`I L O U`) stands for `0xFF`; the bytes of the value are then formed and cut to eight bits.
Lowercase letters read like uppercase ones.
-/

namespace BrowserSessions.Ulid

/-- The alphabet of the written form. -/
def alphabet : List Char := "0123456789ABCDEFGHJKMNPQRSTVWXYZ".toList

/-- The value of a byte of the written form; `0xFF` for a byte outside the alphabet. -/
def decodeByte (b : UInt8) : Nat :=
  let c := Char.ofNat b.toNat
  let up := if 'a' ≤ c && c ≤ 'z' then Char.ofNat (c.toNat - 32) else c
  match alphabet.idxOf? up with
  | some i => i
  | none => 0xFF

/-- Why a text is not an identifier. -/
inductive ParseError where
  | badSize
  | overflow
  deriving DecidableEq, Repr

/-- The message of a parse error. -/
def ParseError.message : ParseError → String
  | .badSize => "ulid: bad data size when unmarshaling"
  | .overflow => "ulid: overflow when unmarshaling"

/-- The sixteen bytes of an identifier. -/
structure Value where
  bytes : List Nat
  deriving DecidableEq, Repr

/-- Keeps the low eight bits. -/
def low8 (n : Nat) : Nat := n % 256

/-- Forms the sixteen bytes from the 26 decoded characters. -/
def assemble (d : List Nat) : List Nat :=
  let g := fun i => d.getD i 0
  [ low8 ((g 0 <<< 5) ||| g 1),
    low8 ((g 2 <<< 3) ||| (g 3 >>> 2)),
    low8 ((g 3 <<< 6) ||| (g 4 <<< 1) ||| (g 5 >>> 4)),
    low8 ((g 5 <<< 4) ||| (g 6 >>> 1)),
    low8 ((g 6 <<< 7) ||| (g 7 <<< 2) ||| (g 8 >>> 3)),
    low8 ((g 8 <<< 5) ||| g 9),
    low8 ((g 10 <<< 3) ||| (g 11 >>> 2)),
    low8 ((g 11 <<< 6) ||| (g 12 <<< 1) ||| (g 13 >>> 4)),
    low8 ((g 13 <<< 4) ||| (g 14 >>> 1)),
    low8 ((g 14 <<< 7) ||| (g 15 <<< 2) ||| (g 16 >>> 3)),
    low8 ((g 16 <<< 5) ||| g 17),
    low8 ((g 18 <<< 3) ||| (g 19 >>> 2)),
    low8 ((g 19 <<< 6) ||| (g 20 <<< 1) ||| (g 21 >>> 4)),
    low8 ((g 21 <<< 4) ||| (g 22 >>> 1)),
    low8 ((g 22 <<< 7) ||| (g 23 <<< 2) ||| (g 24 >>> 3)),
    low8 ((g 24 <<< 5) ||| g 25) ]

/-- Reads an identifier leniently. -/
def parse (s : String) : Except ParseError Value :=
  let bs := Bytes.ofString s
  if bs.length != 26 then .error .badSize
  else match bs with
    | b0 :: _ => if b0 > 0x37 then .error .overflow else .ok ⟨assemble (bs.map decodeByte)⟩
    | [] => .error .badSize

/-- The millisecond timestamp of an identifier: its first six bytes, big-endian. -/
def Value.time (v : Value) : Nat :=
  (v.bytes.take 6).foldl (fun acc b => acc * 256 + b) 0

/-- The 128-bit number of an identifier. -/
def Value.toNat (v : Value) : Nat := v.bytes.foldl (fun acc b => acc * 256 + b) 0

/-- An identifier from a timestamp and ten bytes of entropy. -/
def Value.make (ms : Nat) (entropy : List Nat) : Value :=
  ⟨(List.range 6).reverse.map (fun i => ms / Nat.pow 256 i % 256) ++ entropy.take 10⟩

/-- The written form: 26 characters, five bits each, the first holding the top three bits. -/
def Value.render (v : Value) : String :=
  let n := v.toNat
  String.ofList ((List.range 26).reverse.map fun i => alphabet.getD (n / Nat.pow 32 i % 32) '0')

/-! ## Laws -/

/-- A text of another length is refused for its size. -/
theorem parse_badSize (s : String) (h : (Bytes.ofString s).length ≠ 26) :
    parse s = .error .badSize := by
  simp [parse, h]

end BrowserSessions.Ulid
