import BrowserSessions.Url.Render

/-!
# Url.Query

Query strings: `key=value` pairs joined by `&`. A pair with a `;` is dropped, as is an empty one
and one whose key or value has a bad escape; `+` reads as a space. The pairs keep their order, and
the value of a key is the first one given for it.

`queryEscape` writes a text for use as a query value: every reserved byte escaped and a space as
`+`, so that the text reads back unchanged.
-/

namespace BrowserSessions.Url

/-- Escapes a text for use as a query key or value. -/
def queryEscape (bs : Bytes) : Bytes := escape .queryComponent bs

/-- Reads the escapes of a query key or value. -/
def queryUnescape (bs : Bytes) : Except EscapeError Bytes := unescape .queryComponent bs

/-- Splits a byte string on every occurrence of a separator byte. -/
def splitOn (bs : Bytes) (sep : UInt8) : List Bytes :=
  go bs []
where
  go : Bytes → Bytes → List Bytes
    | [], acc => [acc.reverse]
    | b :: rest, acc => if b == sep then acc.reverse :: go rest [] else go rest (b :: acc)

/-- The pairs of a query, in order. -/
def parseQuery (query : Bytes) : List (Bytes × Bytes) :=
  if query.isEmpty then [] else
  (splitOn query (byte '&')).filterMap fun pair =>
    if pair.contains (byte ';') || pair.isEmpty then none
    else
      let (k, v) := match Bytes.splitOnce pair (byte '=') with
        | (k, some v) => (k, v)
        | (k, none) => (k, [])
      match queryUnescape k, queryUnescape v with
      | .ok k', .ok v' => some (k', v')
      | _, _ => none

/-- The first value of a key in a list of pairs, or the empty text. -/
def lookupFirst (pairs : List (Bytes × Bytes)) (key : Bytes) : Bytes :=
  match pairs.find? (·.1 == key) with
  | some (_, v) => v
  | none => []

/-- The pairs of an address's query. -/
def Address.query (a : Address) : List (Bytes × Bytes) := parseQuery a.rawQuery

/-! ## Laws -/

theorem hexDigit?_upperHex {n : Nat} (h : n < 16) : hexDigit? (upperHex n) = some n := by
  have hall : ∀ m ∈ List.range 16, hexDigit? (upperHex m) = some m := by decide
  exact hall n (List.mem_range.mpr h)

end BrowserSessions.Url
