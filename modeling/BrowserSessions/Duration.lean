/-!
# Duration

Reading durations such as `300ms`, `-1.5h` or `2h45m` into nanoseconds.

A duration is an optional sign, then one or more pieces of a decimal number (digits with an
optional fraction; at least one digit) and a unit: `ns`, `us` (or `µs`, `μs`), `ms`, `s`, `m`,
`h`. The text `0` alone is zero. The whole value must fit in 63 bits. A fraction contributes its
value in the unit computed with doubles, cut to whole nanoseconds; digits of a fraction past
what 63 bits hold are ignored.
-/

namespace BrowserSessions.Duration

/-- Nanoseconds per second. -/
def second : Nat := 1000000000

/-- The largest magnitude a duration may reach while it is read. -/
def limit : Nat := Nat.pow 2 63

/-- The nanoseconds of a unit. -/
def unitValue? : String → Option Nat
  | "ns" => some 1
  | "us" | "µs" | "μs" => some 1000
  | "ms" => some 1000000
  | "s" => some second
  | "m" => some (60 * second)
  | "h" => some (3600 * second)
  | _ => none

/-- Reads the leading digits of a piece; `none` when they pass the limit. -/
def leadingInt : List Char → Nat → Option (Nat × List Char)
  | [], x => some (x, [])
  | c :: rest, x =>
    if c.isDigit then
      if x > limit / 10 then none
      else
        let x' := x * 10 + (c.toNat - 48)
        if x' > limit then none else leadingInt rest x'
    else some (x, c :: rest)

/-- Reads the digits of a fraction: its value, its scale (ten to the digits kept) and the rest;
    digits past what 63 bits hold are skipped. -/
def leadingFraction : List Char → Nat → Float → Bool → Nat × Float × List Char
  | [], x, scale, _ => (x, scale, [])
  | c :: rest, x, scale, overflow =>
    if !c.isDigit then (x, scale, c :: rest)
    else if overflow then leadingFraction rest x scale true
    else if x > (limit - 1) / 10 then leadingFraction rest x scale true
    else
      let y := x * 10 + (c.toNat - 48)
      if y > limit then leadingFraction rest x scale true
      else leadingFraction rest y (scale * 10) false

/-- Reads the pieces of a duration, adding them to `total`. -/
def readPieces : Nat → List Char → Nat → Option Nat
  | 0, _, _ => none
  | _ + 1, [], total => some total
  | fuel + 1, cs, total =>
    match cs with
    | [] => some total
    | c :: _ =>
      if !(c == '.' || c.isDigit) then none
      else
        match leadingInt cs 0 with
        | none => none
        | some (v, afterInt) =>
          let pre := afterInt.length != cs.length
          let (f, scale, afterFrac, post) := match afterInt with
            | '.' :: r =>
              let (f, scale, r') := leadingFraction r 0 1.0 false
              (f, scale, r', r'.length != r.length)
            | r => (0, 1.0, r, false)
          if !pre && !post then none
          else
            let unitText := afterFrac.takeWhile fun d => !(d == '.' || d.isDigit)
            if unitText.isEmpty then none
            else match unitValue? (String.ofList unitText) with
              | none => none
              | some unit =>
                if v > limit / unit then none
                else
                  let v := v * unit
                  let v := if f > 0 then
                      v + (Float.ofNat f * (Float.ofNat unit / scale)).toUInt64.toNat
                    else v
                  if v > limit then none
                  else
                    let total := total + v
                    if total > limit then none
                    else readPieces fuel (afterFrac.drop unitText.length) total

/-- Reads a duration in nanoseconds. -/
def parse (s : String) : Option Int :=
  let cs := s.toList
  let (neg, body) := match cs with
    | '-' :: r => (true, r)
    | '+' :: r => (false, r)
    | r => (false, r)
  if body == ['0'] then some 0
  else if body.isEmpty then none
  else
    (readPieces (body.length + 1) body 0).bind fun d =>
      if neg then some (-(d : Int))
      else if d > limit - 1 then none
      else some d

end BrowserSessions.Duration
