import BrowserSessions.Json.Basic

/-!
# Json.Parse

Reading JSON text (RFC 8259). Blanks are space, tab, line feed and carriage return. A number
literal without fraction or exponent reads as an integer, any other as the nearest double; a
magnitude beyond the doubles is refused, or, when the reader saturates, reads as an infinity. In
strings, a `\u` escape of a surrogate half that is not followed by its other half reads as
U+FFFD, and a raw control character is refused.

`parse` reads a whole text: one value and nothing but blanks after it. `parsePrefix` reads the
first value and leaves the rest, as a reader of a stream of values does. `parsePrefixSaturating`
does the same but only checks the syntax of numbers, as a decoder into typed values does for the
members it does not keep; whoever keeps a number must then check that it is finite.

The reader recurses on a fuel that the entry points set to one more than the length of the text;
every step consumes a character, so the fuel never runs out on a text it is given.
-/

namespace BrowserSessions.Json

/-- Why a text is not JSON. -/
inductive ReadError where
  | unexpectedEnd
  | unexpectedChar (c : Char)
  | numberOutOfRange
  | trailingData
  | malformed
  | exhausted
  deriving Repr, BEq

/-- The blanks between tokens. -/
def isBlank (c : Char) : Bool := c == ' ' || c == '\t' || c == '\n' || c == '\r'

/-- Drops leading blanks. -/
def skipBlanks (cs : List Char) : List Char := cs.dropWhile isBlank

/-- The value of a hexadecimal digit. -/
def hexValue? (c : Char) : Option Nat :=
  if '0' ≤ c && c ≤ '9' then some (c.toNat - 48)
  else if 'a' ≤ c && c ≤ 'f' then some (c.toNat - 87)
  else if 'A' ≤ c && c ≤ 'F' then some (c.toNat - 55)
  else none

/-- Four hexadecimal digits as a code unit. -/
def readHex4 : List Char → Option (Nat × List Char)
  | a :: b :: c :: d :: rest =>
    match hexValue? a, hexValue? b, hexValue? c, hexValue? d with
    | some w, some x, some y, some z => some (((w * 16 + x) * 16 + y) * 16 + z, rest)
    | _, _, _, _ => none
  | _ => none

/-- Whether a code unit is a high or a low surrogate half. -/
def isHighSurrogate (n : Nat) : Bool := 0xD800 ≤ n && n ≤ 0xDBFF
def isLowSurrogate (n : Nat) : Bool := 0xDC00 ≤ n && n ≤ 0xDFFF

/-- Reads the body of a string after its opening quote, up to and including the closing quote;
    `rawControl` says whether a raw control character may stand in it. -/
def readStringBody (rawControl : Bool) : Nat → List Char → List Char → Except ReadError (String × List Char)
  | 0, _, _ => .error .exhausted
  | _ + 1, [], _ => .error .unexpectedEnd
  | fuel + 1, c :: rest, acc =>
    if c == '"' then .ok (String.ofList acc.reverse, rest)
    else if c.toNat < 0x20 && !rawControl then .error (.unexpectedChar c)
    else if c != '\\' then readStringBody rawControl fuel rest (c :: acc)
    else match rest with
      | [] => .error .unexpectedEnd
      | e :: rest' =>
        match e with
        | '"' => readStringBody rawControl fuel rest' ('"' :: acc)
        | '\\' => readStringBody rawControl fuel rest' ('\\' :: acc)
        | '/' => readStringBody rawControl fuel rest' ('/' :: acc)
        | 'b' => readStringBody rawControl fuel rest' ('\x08' :: acc)
        | 'f' => readStringBody rawControl fuel rest' ('\x0c' :: acc)
        | 'n' => readStringBody rawControl fuel rest' ('\n' :: acc)
        | 'r' => readStringBody rawControl fuel rest' ('\r' :: acc)
        | 't' => readStringBody rawControl fuel rest' ('\t' :: acc)
        | 'u' =>
          match readHex4 rest' with
          | none => .error (.unexpectedChar e)
          | some (u, after) =>
            if isHighSurrogate u then
              match after with
              | '\\' :: 'u' :: more =>
                match readHex4 more with
                | some (l, after2) =>
                  if isLowSurrogate l then
                    readStringBody rawControl fuel after2
                      (Char.ofNat (0x10000 + (u - 0xD800) * 0x400 + (l - 0xDC00)) :: acc)
                  else readStringBody rawControl fuel after ('�' :: acc)
                | none => readStringBody rawControl fuel after ('�' :: acc)
              | _ => readStringBody rawControl fuel after ('�' :: acc)
            else if isLowSurrogate u then readStringBody rawControl fuel after ('�' :: acc)
            else readStringBody rawControl fuel after (Char.ofNat u :: acc)
        | other => .error (.unexpectedChar other)

/-- The digits at the front of a character list, and the rest. -/
def spanDigits (cs : List Char) : List Char × List Char := cs.span Char.isDigit

/-- The value of a list of decimal digits. -/
def digitsValue (ds : List Char) : Nat := ds.foldl (fun n c => n * 10 + (c.toNat - 48)) 0

/-- Reads a number literal: `-? (0 | [1-9][0-9]*) (. [0-9]+)? ([eE] [+-]? [0-9]+)?`. A magnitude
    beyond the doubles is refused, or reads as an infinity when `saturate` is set. -/
def readNumber (saturate : Bool) (cs : List Char) : Except ReadError (Json × List Char) :=
  let (neg, cs1) := match cs with
    | '-' :: r => (true, r)
    | r => (false, r)
  let (intDigits, cs2) : List Char × List Char := match cs1 with
    | '0' :: r => (['0'], r)
    | r => spanDigits r
  if intDigits.isEmpty then
    match cs1 with
    | c :: _ => .error (.unexpectedChar c)
    | [] => .error .unexpectedEnd
  else
  let fracResult : Except ReadError (List Char × List Char) := match cs2 with
    | '.' :: r =>
      let (fd, r') := spanDigits r
      if fd.isEmpty then
        match r' with
        | c :: _ => .error (.unexpectedChar c)
        | [] => .error .unexpectedEnd
      else .ok (fd, r')
    | r => .ok ([], r)
  match fracResult with
  | .error e => .error e
  | .ok (fracDigits, cs3) =>
  let expResult : Except ReadError (Option (Bool × List Char) × List Char) := match cs3 with
    | e :: r =>
      if e == 'e' || e == 'E' then
        let (eneg, r1) := match r with
          | '-' :: r' => (true, r')
          | '+' :: r' => (false, r')
          | r' => (false, r')
        let (ed, r2) := spanDigits r1
        if ed.isEmpty then
          match r2 with
          | c :: _ => .error (.unexpectedChar c)
          | [] => .error .unexpectedEnd
        else .ok (some (eneg, ed), r2)
      else .ok (none, e :: r)
    | [] => .ok (none, [])
  match expResult with
  | .error e => .error e
  | .ok (expPart, rest) =>
  if fracDigits.isEmpty && expPart.isNone then
    let n : Int := digitsValue intDigits
    .ok (.int (if neg then -n else n), rest)
  else
    let mant := digitsValue (intDigits ++ fracDigits)
    let e10 : Int := (match expPart with
      | some (true, ed) => -(digitsValue ed : Int)
      | some (false, ed) => (digitsValue ed : Int)
      | none => 0) - fracDigits.length
    -- the power of ten of the leading digit decides whether the value is in range
    let lead : Int := e10 + (toString mant).length - 1
    let tooLarge : Except ReadError (Json × List Char) :=
      if saturate then .ok (.float (if neg then -(1.0 / 0.0) else 1.0 / 0.0), rest)
      else .error .numberOutOfRange
    if mant == 0 || lead < -400 then .ok (.float (if neg then -0.0 else 0.0), rest)
    else if lead > 308 then tooLarge
    else
      let x := if e10 < 0 then Float.ofScientific mant true e10.natAbs
        else Float.ofScientific mant false e10.toNat
      if x.isInf then tooLarge
      else .ok (.float (if neg then -x else x), rest)

/-- Expects a literal word at the front. -/
def readWord (word : List Char) (v : Json) (cs : List Char) : Except ReadError (Json × List Char) :=
  if word.isPrefixOf cs then .ok (v, cs.drop word.length)
  else match cs.zip word |>.find? (fun p => p.1 != p.2) with
    | some (c, _) => .error (.unexpectedChar c)
    | none => .error .unexpectedEnd

mutual
/-- Reads one value after optional blanks; `saturate` as for `readNumber`. -/
def readValue (saturate : Bool) : Nat → List Char → Except ReadError (Json × List Char)
  | 0, _ => .error .exhausted
  | fuel + 1, cs =>
    match skipBlanks cs with
    | [] => .error .unexpectedEnd
    | c :: rest =>
      if c == '{' then readFields saturate fuel (skipBlanks rest) [] true
      else if c == '[' then readItems saturate fuel (skipBlanks rest) [] true
      else if c == '"' then
        match readStringBody false (rest.length + 1) rest [] with
        | .ok (s, r) => .ok (.str s, r)
        | .error e => .error e
      else if c == 't' then readWord "true".toList (.bool true) (c :: rest)
      else if c == 'f' then readWord "false".toList (.bool false) (c :: rest)
      else if c == 'n' then readWord "null".toList .null (c :: rest)
      else if c == '-' || c.isDigit then readNumber saturate (c :: rest)
      else .error (.unexpectedChar c)

/-- Reads the items of an array after `[`, up to and including `]`. -/
def readItems (saturate : Bool) : Nat → List Char → List Json → Bool →
    Except ReadError (Json × List Char)
  | 0, _, _, _ => .error .exhausted
  | fuel + 1, cs, acc, first =>
    match cs with
    | ']' :: rest => if first then .ok (.arr [], rest) else .error (.unexpectedChar ']')
    | _ =>
      match readValue saturate fuel cs with
      | .error e => .error e
      | .ok (v, rest) =>
        match skipBlanks rest with
        | ',' :: more => readItems saturate fuel (skipBlanks more) (v :: acc) false
        | ']' :: more => .ok (.arr (v :: acc).reverse, more)
        | c :: _ => .error (.unexpectedChar c)
        | [] => .error .unexpectedEnd

/-- Reads the fields of an object after `{`, up to and including `}`. -/
def readFields (saturate : Bool) : Nat → List Char → List (String × Json) → Bool →
    Except ReadError (Json × List Char)
  | 0, _, _, _ => .error .exhausted
  | fuel + 1, cs, acc, first =>
    match cs with
    | '}' :: rest => if first then .ok (.obj [], rest) else .error (.unexpectedChar '}')
    | '"' :: rest =>
      match readStringBody false (rest.length + 1) rest [] with
      | .error e => .error e
      | .ok (key, afterKey) =>
        match skipBlanks afterKey with
        | ':' :: afterColon =>
          match readValue saturate fuel afterColon with
          | .error e => .error e
          | .ok (v, rest2) =>
            match skipBlanks rest2 with
            | ',' :: more => readFields saturate fuel (skipBlanks more) ((key, v) :: acc) false
            | '}' :: more => .ok (.obj ((key, v) :: acc).reverse, more)
            | c :: _ => .error (.unexpectedChar c)
            | [] => .error .unexpectedEnd
        | c :: _ => .error (.unexpectedChar c)
        | [] => .error .unexpectedEnd
    | c :: _ => .error (.unexpectedChar c)
    | [] => .error .unexpectedEnd
end

/-- Reads the first value of a text and returns what follows it. -/
def parsePrefix (s : String) : Except ReadError (Json × List Char) :=
  readValue false (s.length + 1) s.toList

/-- Reads the first value of a text and returns what follows it; numbers beyond the doubles read
    as infinities. -/
def parsePrefixSaturating (s : String) : Except ReadError (Json × List Char) :=
  readValue true (s.length + 1) s.toList

/-- Reads a whole text as one value; only blanks may follow it. -/
def parse (s : String) : Except ReadError Json :=
  match parsePrefix s with
  | .error e => .error e
  | .ok (v, rest) => if (skipBlanks rest).isEmpty then .ok v else .error .trailingData

end BrowserSessions.Json
