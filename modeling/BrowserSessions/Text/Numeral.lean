/-!
# Text.Numeral

Reading integers and truth values from text, in the number syntax of program source.

An integer is an optional sign, then digits in a base named by a prefix: `0x` sixteen, `0o` and a
bare leading `0` eight, `0b` two, none ten. Letters of either case are digits above nine.
Underscores may separate digits, and may follow a base prefix, but may not start or end the
digits or stand twice in a row. The value must fit the given width of a signed integer.

A truth value is one of `1 t T TRUE true True` or `0 f F FALSE false False`.
-/

namespace BrowserSessions.Text

/-- Why a text is not an integer. -/
inductive NumeralError where
  | malformed
  | range
  deriving DecidableEq, Repr

/-- The value of a digit character in bases up to 36. -/
def digitOf? (c : Char) : Option Nat :=
  if c.isDigit then some (c.toNat - 48)
  else if 'a' ≤ c.toLower && c.toLower ≤ 'z' then some (c.toLower.toNat - 87)
  else none

/-- Whether the underscores of an integer literal stand only between digits or after a base
    prefix. -/
def underscoresOk (s : List Char) : Bool :=
  let s := match s with
    | c :: rest => if c == '-' || c == '+' then rest else c :: rest
    | [] => []
  match s with
  | '0' :: p :: rest =>
    if p.toLower == 'b' || p.toLower == 'o' || p.toLower == 'x' then go (p.toLower == 'x') rest '0'
    else go false s '^'
  | _ => go false s '^'
where
  /-- `saw` is `^` at the start, `0` after a digit or prefix, `_` after an underscore and `!`
      after anything else. -/
  go (hex : Bool) : List Char → Char → Bool
    | [], saw => saw != '_'
    | c :: rest, saw =>
      if c.isDigit || (hex && 'a' ≤ c.toLower && c.toLower ≤ 'f') then go hex rest '0'
      else if c == '_' then saw == '0' && go hex rest '_'
      else if saw == '_' then false
      else go hex rest '!'

/-- Reads unsigned digits in a base, skipping underscores; fails once the value passes `limit`. -/
def readDigits (base : Nat) (limit : Nat) : List Char → Nat → Except NumeralError Nat
  | [], n => .ok n
  | c :: rest, n =>
    if c == '_' then readDigits base limit rest n
    else match digitOf? c with
      | some d =>
        if d ≥ base then .error .malformed
        else
          let n' := n * base + d
          if n' > limit then .error .range else readDigits base limit rest n'
      | none => .error .malformed

/-- Reads an unsigned integer with a base chosen by its prefix (base 0 in the source syntax). -/
def parseUnsigned (s : List Char) (limit : Nat) : Except NumeralError Nat :=
  if s.isEmpty then .error .malformed
  else
    let (base, digits) := match s with
      | '0' :: p :: r :: rest =>
        if p.toLower == 'b' then (2, r :: rest)
        else if p.toLower == 'o' then (8, r :: rest)
        else if p.toLower == 'x' then (16, r :: rest)
        else (8, p :: r :: rest)
      | '0' :: rest => (8, rest)
      | _ => (10, s)
    match readDigits base limit digits 0 with
    | .error e => .error e
    | .ok n => if s.contains '_' && !underscoresOk s then .error .malformed else .ok n

/-- Reads a signed integer of `bits` bits (base chosen by prefix). -/
def parseInt (s : String) (bits : Nat) : Except NumeralError Int :=
  let cs := s.toList
  let (neg, body) := match cs with
    | '+' :: r => (false, r)
    | '-' :: r => (true, r)
    | r => (false, r)
  let limit := if neg then Nat.pow 2 (bits - 1) else Nat.pow 2 (bits - 1) - 1
  match parseUnsigned body limit with
  | .error e => .error e
  | .ok n => .ok (if neg then -(n : Int) else n)

/-- Reads a truth value. -/
def parseBool (s : String) : Option Bool :=
  if ["1", "t", "T", "TRUE", "true", "True"].contains s then some true
  else if ["0", "f", "F", "FALSE", "false", "False"].contains s then some false
  else none

end BrowserSessions.Text
