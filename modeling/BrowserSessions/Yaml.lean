import BrowserSessions.Json.Basic
import BrowserSessions.Decimal.Text
import BrowserSessions.Decimal.Read
import BrowserSessions.Text.Utf8

/-!
# Yaml

Reading YAML documents into JSON values: block mappings and sequences (a sequence may stand at
the indentation of the key that holds it, and an entry may start a mapping on its own line),
flow mappings and sequences over one or more lines, plain, single-quoted and double-quoted
scalars, literal and folded block scalars, comments, anchors and aliases.

Plain scalars are resolved as in the core schema: `null`, `~` and nothing are null; `true` and
`false` (also capitalised or upper case) are truth values; `.inf`, `-.inf` and `.nan` are
doubles; numbers are read by `numberValue?`, where `_` may stand anywhere after the first
character, a leading `0` makes an octal integer and only a text with a `.` is a double;
everything else is a string. A plain value after `key:` loses its tabs. Quoted scalars are
strings; they may go on over several lines, where line breaks fold as the YAML rules say. In
double quotes, `\x`, `\u` and `\U` take two, four and eight characters, where a character
that is not a hexadecimal digit counts as its distance from `0`; the value is cut to 32 bits
and a value that is no character reads as U+FFFD; a `\u` high surrogate must be followed by a
`\u` low one. A folded block scalar keeps the line breaks around lines that are more indented.
A plain scalar may not start with `@` or a backquote.

Directive lines (`%YAML 1.2`) may stand before the first document start.

A key may appear once in a mapping. A plain scalar may not hold `: ` in block context, a
sequence entry or key must sit at its collection's indentation, a sequence entry may not follow
`key:` on its line, and a flow collection must be closed; anything else that is not understood
is refused.

A value may carry a tag: `!!null`, `!!int`, `!!float`, `!!bool` and `!!binary` convert it,
`!!map` and `!!seq` check it, other tags leave it alone. A scalar tag at the end of a line takes
the scalar on the next, deeper line; a mapping tag needs its mapping on its own line. `!!int`
reads its text as a 64-bit integer, and one out of range gives the nearest bound. A merge key
`<<` takes a mapping whose keys join the mapping it stands in; a key may still appear only once
among them. A stream may hold several documents, each started by `---` and perhaps ended by
`...`; all of them must read, and the first one is the value.
-/

namespace BrowserSessions.Yaml

/-- A line of a document: its indentation, its text without comment and trailing blanks, and
    its text as written (after the indentation). -/
structure Line where
  indent : Nat
  text : List Char
  raw : List Char
  deriving Inhabited

/-- Blanks inside a line. -/
def isBlank (c : Char) : Bool := c == ' ' || c == '\t'

/-- Blanks, counting the line breaks of a flow collection spread over lines. -/
def isSpaceLike (c : Char) : Bool := c == ' ' || c == '\t' || c == '\n'

/-- The text without trailing blanks. -/
def trimEnd (cs : List Char) : List Char := (cs.reverse.dropWhile isSpaceLike).reverse

/-- The text without leading and trailing blanks. -/
def trim (cs : List Char) : List Char := trimEnd (cs.dropWhile isSpaceLike)

/-- Whether a quote here opens a quoted scalar: at the start, or after a blank or a flow
    indicator. -/
def opensQuote (prev : Option Char) : Bool :=
  match prev with
  | none => true
  | some p => isSpaceLike p || p == '[' || p == '{' || p == ','

/-- Walks a line outside and inside quoted scalars, calling `visit` on each character outside
    quotes with the previous character; stops where `visit` says. -/
def scanOutside (visit : Option Char → Char → Bool) : List Char → Option Char → Option Char → Nat → Option Nat
  | [], _, _, _ => none
  | c :: rest, prev, quote, i =>
    match quote with
    | some q =>
      if q == '"' && c == '\\' then
        match rest with
        | d :: r => scanOutside visit r (some d) quote (i + 2)
        | [] => none
      else if q == '\'' && c == '\'' then
        match rest with
        | '\'' :: r => scanOutside visit r (some c) quote (i + 2)
        | other => scanOutside visit other (some c) none (i + 1)
      else if c == q then scanOutside visit rest (some c) none (i + 1)
      else scanOutside visit rest (some c) quote (i + 1)
    | none =>
      if visit prev c then some i
      else if (c == '"' || c == '\'') && opensQuote prev then scanOutside visit rest (some c) (some c) (i + 1)
      else scanOutside visit rest (some c) none (i + 1)

/-- The text before a comment: a `#` at the start or after a blank, outside quotes. -/
def stripComment (cs : List Char) : List Char :=
  match scanOutside (fun prev c => c == '#' && (prev.isNone || prev.any isSpaceLike)) cs none none 0 with
  | some i => cs.take i
  | none => cs

/-- Splits a text at every line feed. -/
def splitLines : List Char → List (List Char)
  | [] => [[]]
  | c :: rest =>
    match splitLines rest with
    | line :: more => if c == '\n' then [] :: line :: more else (c :: line) :: more
    | [] => [[c]]

/-- The lines of a document, read from the characters its UTF-8 bytes encode. -/
def lines (s : String) : List Line :=
  (splitLines (Bytes.decodeChars (Bytes.ofString s))).map fun cs =>
    let cs := if cs.getLast? == some '\r' then cs.dropLast else cs
    let indent := (cs.takeWhile (· == ' ')).length
    let body := cs.drop indent
    ⟨indent, trimEnd (stripComment body), body⟩

/-- Whether a line holds nothing but blanks and comments. -/
def Line.isBlank (l : Line) : Bool := l.text.isEmpty

/-- The lines from the first that is not blank. -/
def dropBlank (ls : List Line) : List Line := ls.dropWhile Line.isBlank

/-! ## Scalars -/

/-- The value of an unsigned integer in a base, when all characters are digits of it. -/
def digitsIn (base : Nat) (cs : List Char) : Option Nat :=
  if cs.isEmpty then none
  else cs.foldl (fun acc c =>
    acc.bind fun n =>
      let d := if c.isDigit then c.toNat - 48
        else if 'a' ≤ c && c ≤ 'f' then c.toNat - 87
        else if 'A' ≤ c && c ≤ 'F' then c.toNat - 55
        else 99
      if d < base then some (n * base + d) else none) (some 0)

/-- An integer written in a base, as a signed or unsigned 64-bit conversion of text reads it:
    no digits, a character that is not a digit of the base, or a value out of range give
    nothing. -/
def integerIn (base : Nat) (neg : Bool) (digits : List Char) : Option Json :=
  (digitsIn base digits).bind fun n =>
    if neg then (if n ≤ Nat.pow 2 63 then some (.int (-(n : Int))) else none)
    else if n < Nat.pow 2 64 then some (.int n) else none

/-- The number a plain scalar writes, if it writes one. A leading `_` or more than one `.` make
    no number. Otherwise one leading `+` and then one leading `-` are set aside (a leading `-`
    makes the number negative) and every `_` is dropped; then `0x`, `0o` and `0b` start
    hexadecimal, octal and binary integers, a leading `0` followed by more without a `.` starts an
    octal integer, one `.` makes a double, and anything else is a decimal integer. An integer
    must fit 64 bits (unsigned when not negative) and a double must be finite. -/
def numberValue? (cs : List Char) : Option Json :=
  if cs.isEmpty || cs.head? == some '_' || cs.count '.' > 1 then none
  else
    let neg := cs.head? == some '-'
    let unsigned := match cs with
      | '+' :: r => r
      | r => r
    let unsigned := match unsigned with
      | '-' :: r => r
      | r => r
    let body := unsigned.filter (· != '_')
    let double := fun (_ : Unit) =>
      (Decimal.parseFloat (String.ofList (if neg then '-' :: body else body))).map Json.float
    match body with
    | '0' :: 'x' :: r => integerIn 16 neg r
    | '0' :: 'o' :: r => integerIn 8 neg r
    | '0' :: 'b' :: r => integerIn 2 neg r
    | '0' :: _ :: _ => if body.contains '.' then double () else integerIn 8 neg body
    | _ => if body.contains '.' then double () else integerIn 10 neg body

/-- The value of a plain scalar: the null, truth value, infinity and not-a-number words, then a
    number, and otherwise the text itself. -/
def resolvePlain (cs : List Char) : Json :=
  let s := String.ofList cs
  if ["~", "null", "Null", "NULL"].contains s || cs.isEmpty then .null
  else if ["true", "True", "TRUE"].contains s then .bool true
  else if ["false", "False", "FALSE"].contains s then .bool false
  else if [".inf", ".Inf", ".INF"].contains s then .float Decimal.infinity
  else if ["-.inf", "-.Inf", "-.INF"].contains s then .float (-Decimal.infinity)
  else if [".nan", ".NaN", ".NAN"].contains s then .float (0.0 / 0.0)
  else (numberValue? cs).getD (.str s)

/-- Folds the lines of a scalar spread over lines: each break and the blanks around it become
    one space. -/
def foldBreaks (cs : List Char) : List Char :=
  let parts := (String.ofList cs).splitOn "\n"
  let parts := parts.map fun p => String.ofList (trim p.toList)
  (" ".intercalate parts).toList

/-- The text a line break inside a quoted scalar leaves, given whether it was escaped and how
    many empty lines follow it: a line feed for each empty line, and for a break that is not
    escaped and has no empty line after it, one space. -/
def breakText : Bool × Nat → List Char
  | (false, 0) => [' ']
  | (_, n) => List.replicate n '\n'

/-- The message for a quoted scalar that does not end. -/
def unterminatedQuote : String := "unterminated quoted scalar"

/-- The value a character stands for as a digit of a code escape. The digits `0-9`, `a-f` and
    `A-F` have their hexadecimal values; any other character is read as if it were a decimal
    digit, so that it stands for its code point less that of `0`, which may be negative. -/
def escapeDigit (c : Char) : Int :=
  if 'A' ≤ c && c ≤ 'F' then c.toNat - 55
  else if 'a' ≤ c && c ≤ 'f' then c.toNat - 87
  else (c.toNat : Int) - 48

/-- The number a code escape writes: its digits in base 16, each read by `escapeDigit`. -/
def escapeValue (cs : List Char) : Int := cs.foldl (fun n c => n * 16 + escapeDigit c) 0

/-- The character a code escape gives: the number cut to 32 bits as a signed value, which must
    be a Unicode scalar value; anything else gives U+FFFD. -/
def escapeChar (v : Int) : Char :=
  let m := (v % 4294967296).toNat
  if m ≤ 0x10FFFF && !(0xD800 ≤ m && m ≤ 0xDFFF) then Char.ofNat m else '\uFFFD'

/-- Reads a code escape after its letter `e` (`x`, `u` or `U`, with two, four or eight digits),
    giving the character and how many characters of `rest` it takes. A `\u` escape in the
    high-surrogate range must be followed by a `\u` escape in the low-surrogate range; the pair
    gives one character. The digits are the characters that follow, whatever they are. -/
def codeEscape (e : Char) (rest : List Char) : Except String (Char × Nat) :=
  let width := if e == 'x' then 2 else if e == 'u' then 4 else if e == 'U' then 8 else 0
  if width == 0 then .error "bad escape"
  else if rest.length < width then .error "not enough length for escaped character"
  else
    let v := escapeValue (rest.take width)
    if e == 'u' && 0xD800 ≤ v && v ≤ 0xDBFF then
      if rest.length < 10 then .error "not enough length for escaped surrogate pair"
      else if (rest.drop 4).take 2 != ['\\', 'u'] then .error "expected a low surrogate"
      else
        let low := escapeValue ((rest.drop 6).take 4)
        if low < 0xDC00 || low > 0xDFFF then .error "expected a low surrogate"
        else .ok (escapeChar ((v - 0xD800) * 0x400 + (low - 0xDC00) + 0x10000), 10)
    else .ok (escapeChar v, width)

/-- Reads a double-quoted scalar after its opening quote. `pending` is the line break just read,
    if any, with whether it was escaped and the empty lines after it; the blanks around a break
    go, and the break leaves its `breakText`. -/
def readDouble : List Char → Option (Bool × Nat) → List Char → Except String (String × List Char)
  | [], _, _ => .error unterminatedQuote
  | c :: rest, some b, acc =>
    if c == '\n' then readDouble rest (some (b.1, b.2 + 1)) acc
    else if isBlank c then readDouble rest (some b) acc
    else readDouble (c :: rest) none ((breakText b).reverse ++ acc)
  | '"' :: rest, none, acc => .ok (String.ofList acc.reverse, rest)
  | '\n' :: rest, none, acc => readDouble rest (some (false, 0)) acc
  | '\\' :: '\n' :: rest, none, acc => readDouble rest (some (true, 0)) acc
  | '\\' :: e :: rest, none, acc =>
    let simple : Option Char := match e with
      | '0' => some '\x00' | 'a' => some '\x07' | 'b' => some '\x08' | 't' => some '\t'
      | '\t' => some '\t' | 'n' => some '\n' | 'v' => some '\x0B' | 'f' => some '\x0C'
      | 'r' => some '\r' | 'e' => some '\x1B' | ' ' => some ' ' | '"' => some '"'
      | '/' => some '/' | '\\' => some '\\' | 'N' => some '\u0085' | '_' => some '\u00A0'
      | 'L' => some '\u2028' | 'P' => some '\u2029'
      | _ => none
    match simple with
    | some c => readDouble rest none (c :: acc)
    | none =>
      match codeEscape e rest with
      | .ok (c, width) => readDouble (rest.drop width) none (c :: acc)
      | .error err => .error err
  | c :: rest, none, acc =>
    -- blanks written before a line break go with it
    if isBlank c && (rest.dropWhile isBlank).head? == some '\n' then
      readDouble (rest.dropWhile isBlank) none acc
    else readDouble rest none (c :: acc)
termination_by cs pending => 2 * cs.length + (if pending.isSome then 1 else 0)
decreasing_by
  all_goals simp only [List.length_cons, List.length_drop, Option.isSome_some, Option.isSome_none,
    if_true, Bool.false_eq_true, if_false]
  all_goals
    try have := (List.dropWhile_suffix isBlank (l := rest)).length_le
    omega

/-- Reads a single-quoted scalar after its opening quote; `pending` counts the empty lines after
    a line break just read, as for double quotes. -/
def readSingle : List Char → Option Nat → List Char → Except String (String × List Char)
  | [], _, _ => .error unterminatedQuote
  | c :: rest, some n, acc =>
    if c == '\n' then readSingle rest (some (n + 1)) acc
    else if isBlank c then readSingle rest (some n) acc
    else readSingle (c :: rest) none ((breakText (false, n)).reverse ++ acc)
  | '\'' :: '\'' :: rest, none, acc => readSingle rest none ('\'' :: acc)
  | '\'' :: rest, none, acc => .ok (String.ofList acc.reverse, rest)
  | '\n' :: rest, none, acc => readSingle rest (some 0) acc
  | c :: rest, none, acc =>
    if isBlank c && (rest.dropWhile isBlank).head? == some '\n' then
      readSingle (rest.dropWhile isBlank) none acc
    else readSingle rest none (c :: acc)
termination_by cs pending => 2 * cs.length + (if pending.isSome then 1 else 0)
decreasing_by
  all_goals simp only [List.length_cons, Option.isSome_some, Option.isSome_none,
    if_true, Bool.false_eq_true, if_false]
  all_goals
    try have := (List.dropWhile_suffix isBlank (l := rest)).length_le
    omega

/-- Reads a quoted scalar from its opening quote. -/
def readQuoted (q : Char) (cs : List Char) : Except String (String × List Char) :=
  if q == '"' then readDouble cs none [] else readSingle cs none []

/-! ## Tags -/

/-- The text a value prints as: numbers in their shortest form, truth values as words, and
    `<nil>` for null. -/
def printed : Json → String
  | .str s => s
  | .int n => toString n
  | .float x => Decimal.generalText x
  | .bool b => if b then "true" else "false"
  | .null => "<nil>"
  | _ => ""

/-- A decimal integer as a conversion of text reads it: an optional sign and digits; a value
    beyond 64 bits gives the nearest 64-bit bound. -/
def atoi? (s : String) : Option Int :=
  let (neg, body) := match s.toList with
    | '-' :: r => (true, r)
    | '+' :: r => (false, r)
    | r => (false, r)
  (digitsIn 10 body).map fun n =>
    let v : Int := if neg then -(n : Int) else n
    if v < -(Int.pow 2 63) then -(Int.pow 2 63)
    else if v ≥ Int.pow 2 63 then Int.pow 2 63 - 1
    else v

/-- The value of a base-64 digit of the standard alphabet. -/
def base64Digit? (c : Char) : Option Nat :=
  if 'A' ≤ c && c ≤ 'Z' then some (c.toNat - 65)
  else if 'a' ≤ c && c ≤ 'z' then some (c.toNat - 71)
  else if '0' ≤ c && c ≤ '9' then some (c.toNat + 4)
  else if c == '+' then some 62
  else if c == '/' then some 63
  else none

/-- The bytes of a group of base-64 digits: three for four digits, fewer for a group cut short
    by padding. -/
def base64Group (digits : List Nat) : Bytes :=
  let v := digits.foldl (fun n d => n * 64 + d) 0 * Nat.pow 64 (4 - digits.length)
  [(v / 65536 % 256).toUInt8, (v / 256 % 256).toUInt8, (v % 256).toUInt8].take (digits.length - 1)

/-- Decodes standard padded base 64, skipping line breaks, and keeps the bytes of the groups
    read before the first fault: a character outside the alphabet, a group cut short without its
    padding, or text after the padding (the padded group itself still counts then). `group` holds
    the digits of the group being read. -/
def decodeBase64 : List Char → List Nat → Bytes
  | [], _ => []
  | c :: rest, group =>
    if c == '\n' || c == '\r' then decodeBase64 rest group
    else match base64Digit? c with
      | some d =>
        if group.length == 3 then base64Group (group ++ [d]) ++ decodeBase64 rest []
        else decodeBase64 rest (group ++ [d])
      | none =>
        if c != '=' || group.length < 2 then []
        else
          let noBreak := fun (x : Char) => x == '\n' || x == '\r'
          let after := rest.dropWhile noBreak
          let after : Option (List Char) :=
            if group.length == 3 then some after
            else match after with
              | '=' :: more => some (more.dropWhile noBreak)
              | _ => none
          match after with
          | some _ => base64Group group
          | none => []

/-- A value with an explicit tag applied, as reading it into text sees it: `!!null` makes it
    null; `!!str` keeps it; `!!int` reads its printed text as a decimal integer and `!!float` its
    text as a double (infinite beyond the doubles), zero when they do not convert; `!!bool`
    reads a truth value (also `yes` and `no`); `!!binary` decodes base-64 text; `!!timestamp`
    gives a time, which is no text; `!!map` and `!!seq` check the kind of collection. Other tags
    leave the value alone. -/
def applyTag (tag : String) (v : Json) : Except String Json :=
  match tag with
  | "!!null" => .ok .null
  | "!!int" => .ok (.int ((atoi? (printed v)).getD 0))
  | "!!float" =>
    match v with
    | .int n => .ok (.float (Float.ofInt n))
    | .float x => .ok (.float x)
    | .str t => .ok (.float ((Decimal.readFloat t).getD 0))
    | _ => .ok (.int 0)
  | "!!bool" =>
    let word := (printed v).toLower
    if ["1", "t", "true", "yes"].contains word then .ok (.bool true)
    else if ["0", "f", "false", "no"].contains word then .ok (.bool false)
    else .error "cannot convert to boolean"
  | "!!binary" =>
    match v with
    | .str t => .ok (.str (Bytes.toStringLossy (decodeBase64 t.toList [])))
    | _ => .error "cannot convert to text"
  | "!!timestamp" => .ok (.obj [])
  | "!!map" | "!!omap" =>
    match v with
    | .obj _ | .null => .ok v
    | _ => .error "could not find a mapping"
  | "!!seq" =>
    match v with
    | .arr _ | .null => .ok v
    | _ => .error "could not find a sequence"
  | _ => .ok v

/-- The tags whose value is a scalar. -/
def scalarTags : List String :=
  ["!!null", "!!str", "!!int", "!!float", "!!bool", "!!binary", "!!timestamp"]

/-- Splits a tag written at the start of a value from the text after it. -/
def splitTag (cs : List Char) : String × List Char :=
  let tag := cs.takeWhile fun c => !isSpaceLike c
  (String.ofList tag, (cs.drop tag.length).dropWhile isBlank)

/-! ## Flow collections -/

/-- Values bound to anchors so far, the latest first. -/
abbrev Anchors := List (String × Json)

/-- A plain scalar in a flow collection: up to `,`, `]` or `}`, or a `:` that ends a key unless
    the scalar is the value of a mapping entry (`inValue`), where it runs on past `: `. -/
def flowPlain (inValue : Bool) : List Char → List Char → List Char × List Char
  | [], acc => (foldBreaks acc.reverse, [])
  | c :: rest, acc =>
    let endsKey := !inValue && c == ':' && (match rest with
      | [] => true
      | d :: _ => isSpaceLike d || d == ',' || d == ']' || d == '}')
    if c == ',' || c == ']' || c == '}' || endsKey then (foldBreaks acc.reverse, c :: rest)
    else flowPlain inValue rest (c :: acc)

/-- Whether a plain scalar starts with a character that YAML reserves, `@` or a backquote. -/
def startsReserved (cs : List Char) : Bool :=
  cs.head? == some '@' || cs.head? == some (Char.ofNat 96)

/-- The name of an anchor or alias. -/
def anchorName (cs : List Char) : String × List Char :=
  let name := cs.takeWhile fun c => !(isSpaceLike c || c == ',' || c == ']' || c == '}' || c == '[' || c == '{')
  (String.ofList name, cs.drop name.length)

/-- The value of an alias. -/
def lookupAlias (anchors : Anchors) (name : String) : Except String Json :=
  match anchors.find? (·.1 == name) with
  | some (_, v) => .ok v
  | none => .error "unknown alias"

/-- Adds an entry to the fields of a mapping read so far (latest first). The value of a merge
    key `<<` must be a mapping, and its fields join the mapping's own; a key may then appear only
    once among all of them. -/
def mergeFields (merging : Bool) (key : String) (v : Json) (acc : List (String × Json)) :
    Except String (List (String × Json)) :=
  if !merging then .ok ((key, v) :: acc)
  else
    match v with
    | .obj fs =>
      fs.foldlM (fun acc kv =>
        if acc.any (·.1 == kv.1) then .error "duplicate key" else .ok (kv :: acc)) acc
    | _ => .error "a merge key needs a mapping"

/-- Reads a key of a flow mapping. -/
def flowKey (cs : List Char) : Except String (String × List Char) :=
  match cs with
  | '"' :: rest => readDouble rest none []
  | '\'' :: rest => readSingle rest none []
  | _ =>
    if startsReserved cs then .error "a reserved character starts a scalar"
    else let (k, r) := flowPlain false cs []; .ok (String.ofList k, r)

mutual

/-- Reads a flow value; `inValue` says it is the value of a mapping entry. -/
def flowValue : Nat → Bool → List Char → Anchors → Except String (Json × List Char × Anchors)
  | 0, _, _, _ => .error "document too deep"
  | fuel + 1, inValue, cs, anchors =>
    match cs.dropWhile isSpaceLike with
    | '[' :: rest => flowItems fuel rest anchors []
    | '{' :: rest => flowFields fuel rest anchors []
    | '"' :: rest => (readDouble rest none []).map fun (s, r) => (.str s, r, anchors)
    | '\'' :: rest => (readSingle rest none []).map fun (s, r) => (.str s, r, anchors)
    | '*' :: rest =>
      let (name, r) := anchorName rest
      (lookupAlias anchors name).map fun v => (v, r, anchors)
    | '&' :: rest =>
      let (name, r) := anchorName rest
      (flowValue fuel inValue r anchors).map fun (v, r', a) => (v, r', (name, v) :: a)
    | '!' :: rest =>
      let (tag, r) := splitTag ('!' :: rest)
      match flowValue fuel inValue r anchors with
      | .ok (v, r', a) => (applyTag tag v).map fun v => (v, r', a)
      | .error e => .error e
    | other =>
      if startsReserved other then .error "a reserved character starts a scalar"
      else let (s, r) := flowPlain inValue other []; .ok (resolvePlain s, r, anchors)

/-- Reads the items of a flow sequence after its `[`. -/
def flowItems : Nat → List Char → Anchors → List Json → Except String (Json × List Char × Anchors)
  | 0, _, _, _ => .error "document too deep"
  | fuel + 1, cs, anchors, acc =>
    match cs.dropWhile isSpaceLike with
    | ']' :: rest => .ok (.arr acc.reverse, rest, anchors)
    | other =>
      match flowValue fuel false other anchors with
      | .error e => .error e
      | .ok (v, r, a) =>
        match r.dropWhile isSpaceLike with
        | ',' :: r' => flowItems fuel r' a (v :: acc)
        | ']' :: r' => .ok (.arr (v :: acc).reverse, r', a)
        | _ => .error "expected , or ] in a flow sequence"

/-- Reads the fields of a flow mapping after its `{`. -/
def flowFields : Nat → List Char → Anchors → List (String × Json) →
    Except String (Json × List Char × Anchors)
  | 0, _, _, _ => .error "document too deep"
  | fuel + 1, cs, anchors, acc =>
    match cs.dropWhile isSpaceLike with
    | '}' :: rest => .ok (.obj acc.reverse, rest, anchors)
    | other =>
      match flowKey other with
      | .error e => .error e
      | .ok (key, r) =>
        let merging := key == "<<" && other.head? == some '<'
        if acc.any (·.1 == key) then .error "duplicate key"
        else
          let value : Except String (Json × List Char × Anchors) :=
            match r.dropWhile isSpaceLike with
            | ':' :: r' =>
              match r'.dropWhile isSpaceLike with
              | ',' :: _ | '}' :: _ => .ok (.null, r', anchors)
              | _ => flowValue fuel true r' anchors
            | r' => .ok (.null, r', anchors)
          match value with
          | .error e => .error e
          | .ok (v, r', a) =>
            match mergeFields merging key v acc with
            | .error e => .error e
            | .ok acc' =>
              match r'.dropWhile isSpaceLike with
              | ',' :: r'' => flowFields fuel r'' a acc'
              | '}' :: r'' => .ok (.obj acc'.reverse, r'', a)
              | _ => .error "expected a comma or the end of a flow mapping"

end

/-- How far a line opens flow collections: opening brackets less closing ones, outside quotes. -/
def flowDepth (cs : List Char) : Int :=
  go cs none none 0
where
  /-- Counts brackets, `quote` being the quote the walk is inside. -/
  go : List Char → Option Char → Option Char → Int → Int
    | [], _, _, d => d
    | c :: rest, prev, quote, d =>
      match quote with
      | some q =>
        if q == '"' && c == '\\' then
          match rest with
          | e :: r => go r (some e) quote d
          | [] => d
        else if c == q then go rest (some c) none d
        else go rest (some c) quote d
      | none =>
        if (c == '"' || c == '\'') && opensQuote prev then go rest (some c) (some c) d
        else if c == '[' || c == '{' then go rest (some c) none (d + 1)
        else if c == ']' || c == '}' then go rest (some c) none (d - 1)
        else go rest (some c) none d

/-- The text of a flow collection that starts on a line and goes on over the next lines while
    brackets stay open, and the lines after it. -/
def collectFlow (text : List Char) : List Line → List Char × List Line
  | [] => (text, [])
  | l :: rest =>
    if flowDepth text ≤ 0 then (text, l :: rest)
    else collectFlow (text ++ ['\n'] ++ l.text) rest

/-! ## Block structure -/

/-- Whether a line's text starts a sequence entry. -/
def isEntry (text : List Char) : Bool :=
  match text with
  | ['-'] => true
  | '-' :: c :: _ => isBlank c
  | _ => false

/-- The key and the rest of a line that starts a mapping entry. -/
def mapKey? (text : List Char) : Option (String × List Char) :=
  match text with
  | [] => none
  | c :: _ =>
    if ['[', '\x7b', '&', '*', '!', '|', '>', '#', '%', '@', '?'].contains c || isEntry text then none
    else if c == '"' || c == '\'' then
      let quoted := if c == '"' then readDouble text.tail none [] else readSingle text.tail none []
      match quoted with
      | .ok (key, r) =>
        match r.dropWhile isBlank with
        | ':' :: r' => if r'.isEmpty || r'.head?.any isBlank then some (key, r'.dropWhile isBlank) else none
        | _ => none
      | .error _ => none
    else
      let rec find : List Char → List Char → Option (String × List Char)
        | [], _ => none
        | ':' :: rest, acc =>
          if rest.isEmpty || rest.head?.any isBlank then
            if acc.isEmpty then none
            else some (String.ofList (trimEnd acc.reverse), rest.dropWhile isBlank)
          else find rest (':' :: acc)
        | d :: rest, acc => find rest (d :: acc)
      find text []

/-- Whether a line of a folded scalar is spaced: it starts with a blank beyond the scalar's
    indentation. -/
def isSpacedLine (t : String) : Bool := t.startsWith " " || t.startsWith "\t"

/-- Folds the lines of a folded block scalar (without its trailing empty lines). Empty lines
    before the first line each give a line feed. Between two lines that are not spaced, the line
    break becomes a space when no empty line stands between them, and each empty line between
    them gives a line feed; next to a spaced line the line break stays, and so does each empty
    line. -/
def foldLines (ls : List String) : String :=
  let step := fun (acc : String × Option Bool × Nat) (t : String) =>
    let (out, prev, empties) := acc
    if t.isEmpty then (out, prev, empties + 1)
    else
      let spaced := isSpacedLine t
      let sep := match prev with
        | none => String.ofList (List.replicate empties '\n')
        | some p =>
          if !p && !spaced then
            (if empties == 0 then " " else String.ofList (List.replicate empties '\n'))
          else String.ofList (List.replicate (empties + 1) '\n')
      (out ++ sep ++ t, some spaced, 0)
  (ls.foldl step ("", none, 0)).1

/-- The lines of a block scalar: `header` is its indicator (`|` or `>` with an optional `+` or `-`
    and an optional indentation digit), `parent` the indentation of the node that holds it. -/
def blockScalar (header : List Char) (parent : Nat) (ls : List Line) : Except String (String × List Line) :=
  let literal := header.head? == some '|'
  let flags := header.drop 1
  let chomp := if flags.contains '-' then '-' else if flags.contains '+' then '+' else ' '
  let digit := (flags.find? Char.isDigit).map fun d => d.toNat - 48
  if flags.any fun c => !(c == '-' || c == '+' || c.isDigit) then .error "bad block scalar header"
  else
    let firstText := (ls.find? fun l => !l.raw.all (· == ' ')).map (·.indent)
    let indent := match digit with
      | some d => parent + d
      | none => (firstText.getD (parent + 1))
    if indent ≤ parent then .ok ("", ls)
    else
      let body := ls.takeWhile fun l => l.raw.all (· == ' ') || l.indent ≥ indent
      let rest := ls.drop body.length
      let texts := body.map fun l =>
        if l.raw.all (· == ' ') then "" else String.ofList (List.replicate (l.indent - indent) ' ' ++ l.raw)
      let content := texts.reverse.dropWhile (·.isEmpty) |>.reverse
      let trailing := texts.length - content.length
      let joined := if literal then "\n".intercalate content else foldLines content
      let ending :=
        if content.isEmpty then (if chomp == '+' then String.ofList (List.replicate trailing '\n') else "")
        else if chomp == '-' then ""
        else if chomp == '+' then String.ofList (List.replicate (trailing + 1) '\n')
        else "\n"
      .ok (joined ++ ending, rest)

/-- Reads a quoted scalar in block context from its opening quote `q`, `r` being the rest of its
    line. A scalar that does not end on its line goes on over the next lines as they are written.
    Only blanks and a comment may follow the closing quote on its line. Gives the text and the
    lines after the scalar. -/
def quotedScalar (q : Char) (r : List Char) (ls : List Line) : Except String (String × List Line) :=
  let closes := fun (after : List Char) =>
    let tail := (after.takeWhile (· != '\n')).dropWhile isBlank
    tail.isEmpty || tail.head? == some '#'
  match readQuoted q r with
  | .ok (s, after) => if closes after then .ok (s, ls) else .error "text after a quoted scalar"
  | .error _ =>
    let joined := r ++ ls.flatMap fun l => '\n' :: l.raw
    match readQuoted q joined with
    | .error e => .error e
    | .ok (s, after) =>
      let used := (joined.take (joined.length - after.length)).count '\n'
      if closes after then .ok (s, ls.drop used) else .error "text after a quoted scalar"

/-- The lines that go on with a plain scalar: those deeper than `parent`, with the empty lines
    among them. Gives the text they add (a space before a line that follows directly, a line feed
    for each empty line before one that does not) and the lines after them; `blanks` counts the
    empty lines just passed. A line that starts an entry or a key cannot go on with a scalar. -/
def continuePlain (parent : Nat) : Nat → List Line → Except String (List Char × List Line)
  | _, [] => .ok ([], [])
  | blanks, l :: more =>
    if l.isBlank then
      match continuePlain parent (blanks + 1) more with
      | .ok ([], _) => .ok ([], l :: more)
      | other => other
    else if l.indent > parent then
      if (mapKey? l.text).isSome || isEntry l.text then
        .error "mapping values are not allowed in this context"
      else
        let sep := if blanks == 0 then [' '] else List.replicate blanks '\n'
        (continuePlain parent 0 more).map fun (t, r) => (sep ++ l.text ++ t, r)
    else .ok ([], l :: more)

/-- Whether the lines after a scalar tag that ends its line can hold the tag's scalar: none are
    left, or the next one is deeper than `parent` and starts no entry and no key. -/
def scalarFollows (parent : Nat) (ls : List Line) : Bool :=
  match dropBlank ls with
  | [] => true
  | l :: _ => l.indent > parent && !isEntry l.text && (mapKey? l.text).isNone

mutual

/-- Reads the block node whose first line is at least `minIndent` deep; nothing (null) when the
    next line is shallower. -/
def blockNode : Nat → Nat → List Line → Anchors → Except String (Json × List Line × Anchors)
  | 0, _, _, _ => .error "document too deep"
  | fuel + 1, minIndent, ls, anchors =>
    match dropBlank ls with
    | [] => .ok (.null, [], anchors)
    | l :: rest =>
      if l.indent < minIndent then .ok (.null, l :: rest, anchors)
      else if isEntry l.text then blockSeq fuel l.indent (l :: rest) anchors []
      else if (mapKey? l.text).isSome then blockMap fuel l.indent (l :: rest) anchors []
      else inlineValue fuel (minIndent - 1) l.indent false false l.text rest anchors

/-- Reads the entries of a block sequence at indentation `n`. -/
def blockSeq : Nat → Nat → List Line → Anchors → List Json → Except String (Json × List Line × Anchors)
  | 0, _, _, _, _ => .error "document too deep"
  | fuel + 1, n, ls, anchors, acc =>
    match dropBlank ls with
    | [] => .ok (.arr acc.reverse, [], anchors)
    | l :: rest =>
      if l.indent == n && isEntry l.text then
        let after := l.text.drop 1
        let blanks := (after.takeWhile isBlank).length
        let col := n + 1 + blanks
        match inlineValue fuel n col true false (after.drop blanks) rest anchors with
        | .error e => .error e
        | .ok (v, rest', a) => blockSeq fuel n rest' a (v :: acc)
      else if l.indent > n then .error "bad indentation of a sequence entry"
      else .ok (.arr acc.reverse, l :: rest, anchors)

/-- Reads the entries of a block mapping at indentation `n`. -/
def blockMap : Nat → Nat → List Line → Anchors → List (String × Json) →
    Except String (Json × List Line × Anchors)
  | 0, _, _, _, _ => .error "document too deep"
  | fuel + 1, n, ls, anchors, acc =>
    match dropBlank ls with
    | [] => .ok (.obj acc.reverse, [], anchors)
    | l :: rest =>
      if l.indent == n then
        match mapKey? l.text with
        | none => .error "could not find expected ':'"
        | some (key, valueText) =>
          if acc.any (·.1 == key) then .error "duplicate key"
          else
            match inlineValue fuel n 0 false true valueText rest anchors with
            | .error e => .error e
            | .ok (v, rest', a) =>
              match mergeFields (key == "<<" && l.text.head? == some '<') key v acc with
              | .ok acc' => blockMap fuel n rest' a acc'
              | .error e => .error e
      else if l.indent > n then .error "bad indentation of a mapping entry"
      else .ok (.obj acc.reverse, l :: rest, anchors)

/-- Reads the value written after `- ` or `key:` on a line of a collection at indentation
    `parent`, continuing on the following lines when it needs them. `entry` says the value is a
    sequence entry (where a mapping or sequence may start on the same line); `keyed` says it is
    the value of a key (where a sequence may stand at the key's indentation). -/
def inlineValue : Nat → Nat → Nat → Bool → Bool → List Char → List Line → Anchors →
    Except String (Json × List Line × Anchors)
  | 0, _, _, _, _, _, _, _ => .error "document too deep"
  | fuel + 1, parent, col, entry, keyed, text, ls, anchors =>
    match text with
    | [] =>
      match dropBlank ls with
      | l :: rest =>
        if l.indent > parent then blockNode fuel (parent + 1) (l :: rest) anchors
        else if keyed && l.indent == parent && isEntry l.text then
          blockSeq fuel parent (l :: rest) anchors []
        else .ok (.null, l :: rest, anchors)
      | [] => .ok (.null, [], anchors)
    | '&' :: r =>
      let (name, r') := anchorName r
      let r'' := r'.dropWhile isBlank
      match inlineValue fuel parent (col + (text.length - r''.length)) entry keyed r'' ls anchors with
      | .ok (v, rest, a) => .ok (v, rest, (name, v) :: a)
      | .error e => .error e
    | '*' :: r =>
      let (name, r') := anchorName r
      if !(r'.dropWhile isBlank).isEmpty then .error "text after an alias"
      else (lookupAlias anchors name).map fun v => (v, ls, anchors)
    | '!' :: r =>
      let (tag, r') := splitTag ('!' :: r)
      if r'.isEmpty && (tag == "!!map" || tag == "!!omap") then
        .error "a mapping tag must have its mapping on its line"
      else if r'.isEmpty && scalarTags.contains tag && !scalarFollows parent ls then
        .error "a scalar tag must be followed by a scalar"
      else
        match inlineValue fuel parent (col + (text.length - r'.length)) entry keyed r' ls anchors with
        | .ok (v, rest, a) => (applyTag tag v).map fun v => (v, rest, a)
        | .error e => .error e
    | '[' :: _ | '{' :: _ =>
      let (flow, rest) := collectFlow text ls
      match flowValue (4 * flow.length + 8) false flow anchors with
      | .ok (v, r, a) =>
        if (r.dropWhile isSpaceLike).isEmpty then .ok (v, rest, a) else .error "text after a flow collection"
      | .error e => .error e
    | '|' :: _ | '>' :: _ =>
      (blockScalar text parent ls).map fun (s, rest) => (.str s, rest, anchors)
    | c :: r =>
      if entry && (isEntry text || (mapKey? text).isSome) then
        -- a collection that starts on the entry's line, at the column of its text
        let here : Line := ⟨col, text, text⟩
        if isEntry text then blockSeq fuel col (here :: ls) anchors []
        else blockMap fuel col (here :: ls) anchors []
      else if c == '"' || c == '\'' then
        (quotedScalar c r ls).map fun (s, rest) => (.str s, rest, anchors)
      else if keyed && isEntry text then .error "block sequence entries are not allowed in this context"
      else if (mapKey? text).isSome then .error "mapping values are not allowed in this context"
      else if startsReserved text then .error "a reserved character starts a scalar"
      else if c == ':' && (r.isEmpty || r.head?.any isBlank) then .error "a mapping value has no key"
      else
        match continuePlain parent 0 ls with
        | .error e => .error e
        | .ok (more, rest) => .ok (resolvePlain ((text ++ more).filter (· != '\t')), rest, anchors)

end

/-- Whether a line starts a document: `---` alone or followed by a blank. -/
def Line.startsDocument (l : Line) : Bool :=
  l.indent == 0 && (l.text == "---".toList || (l.text.take 4 == "--- ".toList))

/-- Whether a line ends a document: `...`. -/
def Line.endsDocument (l : Line) : Bool := l.indent == 0 && l.text == "...".toList

/-- The documents of a stream: its lines split at the lines that start a document, without the
    lines after a document's end; text after `--- ` on the start line is the document's first
    line. Lines before the first start that hold nothing make no document. -/
def documents (ls : List Line) : List (List Line) :=
  let step := fun (acc : List (List Line)) (l : Line) =>
    if l.startsDocument then
      let after := (l.text.drop 3).dropWhile isBlank
      let first : List Line := if after.isEmpty then [] else [⟨4, after, after⟩]
      first :: acc
    else match acc with
      | cur :: done => (l :: cur) :: done
      | [] => [[l]]
  let docs := (ls.foldl step [[]]).reverse.map List.reverse
  let docs := docs.map fun d => d.takeWhile fun l => !l.endsDocument
  match docs with
  | first :: rest => if (dropBlank first).isEmpty && !(ls.find? fun l => !l.isBlank).any (!·.startsDocument) then rest
      else first :: rest
  | [] => []

/-- Reads one document; an empty document is null. -/
def parseDocument (ls : List Line) : Except String Json :=
  let fuel := 4 * (ls.foldl (fun n l => n + l.raw.length + 1) 0 + ls.length) + 8
  match blockNode fuel 0 ls [] with
  | .ok (v, rest, _) => if (dropBlank rest).isEmpty then .ok v else .error "unexpected text after the document"
  | .error e => .error e

/-- Whether a line is a directive: `%` at the start of a line. -/
def Line.isDirective (l : Line) : Bool := l.indent == 0 && l.text.head? == some '%'

/-- The lines of a stream from its first document on: directives before it are set aside, and
    they must be followed by the start of a document. -/
def skipDirectives (ls : List Line) : Except String (List Line) :=
  let lead := ls.takeWhile fun l => l.isBlank || l.isDirective
  if lead.all Line.isBlank then .ok ls
  else match ls.drop lead.length with
    | l :: rest => if l.startsDocument then .ok (l :: rest) else .error "a directive must come before a document start"
    | [] => .error "a directive must come before a document start"

/-- Reads a stream: every document must read, and the value is the first one's (null for a
    stream without documents). -/
def parse (s : String) : Except String Json :=
  match skipDirectives (lines s) with
  | .error e => .error e
  | .ok ls =>
    match (documents ls).mapM parseDocument with
    | .ok vs => .ok (vs.headD .null)
    | .error e => .error e

end BrowserSessions.Yaml
