import BrowserSessions.Json.Parse
import BrowserSessions.Decimal.Text
import BrowserSessions.Text.Numeral

/-!
# Loose

Reading loosely typed values (JSON values whose numbers are all doubles) as the type a caller
wants, the way an intent's extras are read.

* As text: a text as it is, a truth value as `true`/`false`, a number in positional notation with
  its shortest digits, nothing as the empty text; lists and objects have no text.
* As a truth value: a number is true when it is not zero, a text by the truth-value words, nothing
  is false.
* As an integer: a number cut toward zero (a magnitude beyond 64 bits gives the least 64-bit
  integer), a truth value as 1 or 0, nothing as 0, and a text through the integer syntax after
  dropping a fraction made only of zeros (`12.00` reads as 12).
* As a record: an object, or a text holding a JSON object; a text holding `null` gives no fields.
* As a list: a list only.
-/

namespace BrowserSessions.Loose

/-- The text of a value. -/
def toText? : Json → Option String
  | .str s => some s
  | .bool b => some (if b then "true" else "false")
  | .float x => some (Decimal.fixedText x)
  | .int n => some (toString n)
  | .null => some ""
  | _ => none

/-- The truth value of a value. -/
def toBool? : Json → Option Bool
  | .bool b => some b
  | .null => some false
  | .int n => some (n != 0)
  | .float x => some (x != 0)
  | .str s => Text.parseBool s
  | _ => none

/-- Drops a fraction made only of zeros: `12.000` becomes `12`; other texts stay. -/
def trimZeroFraction (s : String) : String :=
  go s.toList.reverse false
where
  go : List Char → Bool → String
    | [], _ => s
    | c :: rest, foundZero =>
      if c == '.' then (if foundZero then String.ofList rest.reverse else go rest foundZero)
      else if c == '0' then go rest true
      else s

/-- The least 64-bit integer, which a double outside the 64-bit range converts to. -/
def int64Min : Int := -(Int.pow 2 63)

/-- A double cut toward zero to a 64-bit integer. -/
def truncate (x : Float) : Int :=
  if x.isNaN || x.abs ≥ 9223372036854775808.0 then int64Min
  else if x < 0 then -((-x).floor.toUInt64.toNat : Int)
  else (x.floor.toUInt64.toNat : Int)

/-- The integer of a value. -/
def toInt? : Json → Option Int
  | .int n => some n
  | .float x => some (truncate x)
  | .bool b => some (if b then 1 else 0)
  | .null => some 0
  | .str s =>
    match Text.parseInt (trimZeroFraction s) 64 with
    | .ok n => some n
    | .error _ => none
  | _ => none

/-- The fields of a value read as a record; `none` when it is not one. A text that holds JSON
    `null` reads as a record that is absent, which `some none` says. -/
def toRecord? : Json → Option (Option (List (String × Json)))
  | .obj fs => some (some fs)
  | .str s =>
    match Json.parse s with
    | .ok (.obj fs) => some (some (Json.loosen (.obj fs)).fields)
    | .ok .null => some none
    | _ => none
  | _ => none

/-- The items of a value read as a list. -/
def toList? : Json → Option (List Json)
  | .arr xs => some xs
  | _ => none

end BrowserSessions.Loose
