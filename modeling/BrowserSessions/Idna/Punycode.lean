/-!
# Idna.Punycode

Decoding Punycode (RFC 3492), the encoding of a non-ASCII label after its `xn--` prefix.

The basic code points stand before the last `-`; the digits after it give, in variable-length
base 36 with an adaptive bias, where each further code point is inserted. An empty text decodes
to nothing; a text that ends in its only `-` decodes to what stands before it; a text that starts
with its last `-` is refused. Intermediate values are 31-bit integers, and a value that would not
fit is refused, as is a label of more than 1024 code points or a code point above U+10FFFF; a
surrogate code point reads as U+FFFD.

Every loop here ends because it consumes the input: `readDelta` returns a shorter rest
(`readDelta_length`), and the insertion loop recurses on that rest.
-/

namespace BrowserSessions.Idna.Punycode

/-- The largest intermediate value. -/
def maxValue : Nat := Nat.pow 2 31 - 1

/-- The value of a digit: `a`-`z` and `A`-`Z` are 0 to 25, `0`-`9` are 26 to 35. -/
def digitValue? (c : Char) : Option Nat :=
  let n := c.toNat
  if 0x61 ≤ n && n ≤ 0x7A then some (n - 0x61)
  else if 0x41 ≤ n && n ≤ 0x5A then some (n - 0x41)
  else if 0x30 ≤ n && n ≤ 0x39 then some (n - 0x30 + 26)
  else none

/-- The threshold of the digit at position `k`: between 1 and 26. -/
def threshold (k bias : Nat) : Nat :=
  if k ≤ bias then 1 else if bias + 26 ≤ k then 26 else k - bias

/-- Divides the delta by 35 until it is at most 455, counting steps of 36. -/
def adaptLoop (delta k : Nat) : Nat × Nat :=
  if 455 < delta then adaptLoop (delta / 35) (k + 36) else (delta, k)
termination_by delta
decreasing_by omega

/-- The bias after a code point is inserted (`damp` 700, `skew` 38). -/
def adapt (delta numPoints : Nat) (firstTime : Bool) : Nat :=
  let d0 := if firstTime then delta / 700 else delta / 2
  let d1 := d0 + d0 / numPoints
  let r := adaptLoop d1 0
  r.2 + 36 * r.1 / (r.1 + 38)

/-- Reads one variable-length delta, adding it to `i`. Returns the new `i` and the rest. -/
def readDelta (bias : Nat) : List Char → Nat → Nat → Nat → Option (Nat × List Char)
  | [], _, _, _ => none
  | c :: rest, k, w, i =>
    match digitValue? c with
    | none => none
    | some d =>
      let i' := i + d * w
      if i' > maxValue then none
      else
        let t := threshold k bias
        if d < t then some (i', rest)
        else
          let w' := w * (36 - t)
          if w' > maxValue then none else readDelta bias rest (k + 36) w' i'

/-- Reading a delta consumes input. -/
theorem readDelta_length (bias : Nat) :
    ∀ (l : List Char) (k w i : Nat) (r : Nat × List Char),
      readDelta bias l k w i = some r → r.2.length < l.length
  | [], _, _, _, _, h => by simp [readDelta] at h
  | c :: rest, k, w, i, r, h => by
    rw [readDelta] at h
    split at h
    · simp at h
    · dsimp only at h
      split at h
      · simp at h
      · split at h
        · rw [← Option.some.inj h]; simp
        · split at h
          · simp at h
          · have := readDelta_length bias rest (k + 36) _ _ r h
            simp; omega

/-- Inserts the code points that the deltas describe. -/
def insertLoop (bias n i : Nat) (out : List Char) : List Char → Option (List Char)
  | [] => some out
  | c :: rest =>
    match hd : readDelta bias (c :: rest) 36 1 i with
    | none => none
    | some (i', rem) =>
      if out.length ≥ 1024 then none
      else
        let x := out.length + 1
        let bias' := adapt (i' - i) x (i == 0)
        let n' := n + i' / x
        let pos := i' % x
        if n' > 0x10FFFF then none
        else
          let c' := if 0xD800 ≤ n' && n' ≤ 0xDFFF then '�' else Char.ofNat n'
          insertLoop bias' n' (pos + 1) (out.insertIdx pos c') rem
termination_by l => l.length
decreasing_by
  have := readDelta_length bias (c :: rest) 36 1 i (i', rem) hd
  simpa using this

/-- Decodes a Punycode label body. -/
def decode (input : List Char) : Option (List Char) :=
  if input.isEmpty then some []
  else
    let pos := match (input.reverse.idxOf? '-') with
      | some j => input.length - j
      | none => 0
    if pos == 1 then none
    else if pos == input.length then some input.dropLast
    else
      let basic := if pos == 0 then [] else input.take (pos - 1)
      insertLoop 72 128 0 basic (input.drop pos)

end BrowserSessions.Idna.Punycode
