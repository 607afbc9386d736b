import BrowserSessions.Text.Numeral

/-!
# Decimal.Read

Reading doubles from text, in the syntax of program source:

* an optional sign, then decimal digits with an optional fraction and an optional exponent
  (`e` and a signed integer), at least one digit in all;
* or `0x` and hexadecimal digits with an optional fraction, then a binary exponent (`p` and a
  signed decimal integer), which is required;
* or `inf` or `infinity` with an optional sign, or `nan`, in any case.

A `_` may stand between two digits, or between the `0x` and a digit.

A value below the smallest double is zero. A value beyond the largest is refused by
`parseFloat`; `readFloat` gives it as an infinity of its sign, as a conversion that reports the
overflow beside its result does.
-/

namespace BrowserSessions.Decimal

/-- The positive infinity. -/
def infinity : Float := 1.0 / 0.0

/-- The double nearest `mant * 10 ^ e10`; infinity when it is beyond the largest double. -/
def ofDecimal (mant : Nat) (e10 : Int) : Float :=
  if mant == 0 then 0.0
  else
    let lead : Int := e10 + (toString mant).length - 1
    if lead < -400 then 0.0
    else if lead > 310 then infinity
    else if e10 < 0 then Float.ofScientific mant true e10.natAbs
    else Float.ofScientific mant false e10.toNat

/-- The double nearest `mant * 2 ^ e2`; infinity when it is beyond the largest double. -/
def ofBinary (mant : Nat) (e2 : Int) : Float :=
  let lead : Int := e2 + mant.log2
  if mant == 0 then 0.0
  else if lead > 1100 then infinity
  else if lead < -1200 then 0.0
  else if e2 ≥ 0 then Float.ofNat (mant <<< e2.toNat)
  else Float.ofScientific (mant * Nat.pow 5 e2.natAbs) true e2.natAbs

/-- The value of digits in a base. -/
def digitsIn (base : Nat) (cs : List Char) : Nat :=
  cs.foldl (fun n c => n * base + (Text.digitOf? c).getD 0) 0

/-- Whether every character is a digit of the base. -/
def allDigitsIn (base : Nat) (cs : List Char) : Bool :=
  cs.all fun c => match Text.digitOf? c with
    | some d => d < base
    | none => false

/-- Splits a signed exponent; `_` may stand after its first digit. -/
def readExponent (cs : List Char) : Option Int :=
  let (neg, ds) := match cs with
    | '-' :: r => (true, r)
    | '+' :: r => (false, r)
    | r => (false, r)
  match ds with
  | d :: _ =>
    let ds := ds.filter (· != '_')
    if !d.isDigit || !allDigitsIn 10 ds then none
    else
      let v : Int := digitsIn 10 ds
      some (if neg then -v else v)
  | [] => none

/-- Reads an unsigned decimal double; `_` is skipped among the digits. -/
def readDecimalBody (cs : List Char) : Option Float :=
  let isDigit := fun (c : Char) => c.isDigit || c == '_'
  let whole := cs.takeWhile isDigit
  let rest := cs.drop whole.length
  let (frac, rest) := match rest with
    | '.' :: r => (r.takeWhile isDigit, r.drop (r.takeWhile isDigit).length)
    | r => ([], r)
  let whole := whole.filter (· != '_')
  let frac := frac.filter (· != '_')
  if whole.isEmpty && frac.isEmpty then none
  else
    let e : Option Int := match rest with
      | [] => some 0
      | c :: r => if c == 'e' || c == 'E' then readExponent r else none
    e.map fun e => ofDecimal (digitsIn 10 (whole ++ frac)) (e - frac.length)

/-- Reads an unsigned hexadecimal double after `0x`. -/
def readHexBody (cs : List Char) : Option Float :=
  let isHex := fun (c : Char) => allDigitsIn 16 [c] || c == '_'
  let whole := cs.takeWhile isHex
  let rest := cs.drop whole.length
  let (frac, rest) := match rest with
    | '.' :: r => (r.takeWhile isHex, r.drop (r.takeWhile isHex).length)
    | r => ([], r)
  let digits := (whole ++ frac).filter (· != '_')
  if digits.isEmpty then none
  else match rest with
    | c :: r =>
      if c == 'p' || c == 'P' then
        (readExponent r).map fun e =>
          let m := digitsIn 16 digits
          let e2 : Int := e - 4 * (frac.filter (· != '_')).length
          ofBinary m e2
      else none
    | [] => none

/-- Whether a text is `inf` or `infinity` in any case. -/
def isInfinityWord (cs : List Char) : Bool :=
  let word := (String.ofList cs).toLower
  word == "inf" || word == "infinity"

/-- Reads a double; a value beyond the largest double reads as an infinity of its sign. -/
def readFloat (s : String) : Option Float :=
  let cs := s.toList
  if (String.ofList cs).toLower == "nan" then some (0.0 / 0.0)
  else
    let (neg, body) := match cs with
      | '-' :: r => (true, r)
      | '+' :: r => (false, r)
      | r => (false, r)
    let value :=
      if isInfinityWord body then some infinity
      else if cs.contains '_' && !Text.underscoresOk cs then none
      else match body with
        | '0' :: x :: r => if x == 'x' || x == 'X' then readHexBody r else readDecimalBody body
        | _ => readDecimalBody body
    value.map fun x => if neg then -x else x

/-- Reads a double; a value beyond the largest double is refused. -/
def parseFloat (s : String) : Option Float :=
  match readFloat s with
  | some x =>
    let body := s.toList.dropWhile fun c => c == '-' || c == '+'
    if x.isInf && !isInfinityWord body then none else some x
  | none => none

end BrowserSessions.Decimal
