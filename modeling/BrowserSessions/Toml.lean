import BrowserSessions.Text.Case

/-!
# Toml

Decoding TOML documents into a value of a given type (`Target`, `Datum`): key/value pairs with
bare, quoted and dotted keys; basic, literal and multi-line strings; integers in bases 10, 16, 8
and 2 with `_` between digits; doubles, `inf` and `nan`; truth values; arrays and inline tables;
`[table]` headers and `[[array]]` headers for arrays of tables; dates and times; comments.

A document is read one expression at a time (`readLines`), and each goes through three steps
before the next is read, so the first problem in the text is the one reported:

1. it is read whole, up to the end of its line;
2. its keys are checked (`Doc`): a second value for a key, a header for a table that a header
   already defined, and a header or dotted key through a value are refused; inside an inline
   table, keys are defined once among its own pairs (`Value.keysUnique`);
3. it is decoded into the type: a header moves to a table of it (`Target.tablePlace`,
   `Target.arrayPlace`), and a key/value pair stores its value there (`Target.store`,
   `Value.decode`).

A type is a record of named fields, which are texts, lists or records; a key names the field of
its name, or else the one equal to it once both are lowercased, and a key/value pair whose key
names no field is passed over. A header leads through the fields of the type; through a list it
goes on in the last item, so a table header cannot end at an empty list, and an array header that
ends at a list adds an item to it. A header whose key names no field starts a stretch where
key/value pairs are read but go through neither step 2 nor step 3, up to the next header.

A string is stored in a text, an array in a list (each item into a fresh item), an inline table
in a record (pair by pair). A value of any other kind is refused. A date or time is checked
first, and a well-formed one cannot be stored in any type here: decoding stops short
(`Error.panicked`) with a message naming the two types. A dotted key or header that goes on past
a text or a list stops it in the same way.

A number is found by its extent alone (`scanNumber`) and checked only where it is stored, and so
is a date or time (`scanDateTime`). Comments may hold no control character but a tab (and a
carriage return before the line feed). Basic strings know the escape `\e`.
-/

namespace BrowserSessions.Toml

/-! ## Values -/

/-- The kinds of dates and times: with a date, a time and an offset from UTC; with a date and a
    time; with a date only; with a time only. -/
inductive Moment where
  | offsetDateTime
  | localDateTime
  | localDate
  | localTime
  deriving DecidableEq, Repr

/-- The name of the type a date or time is decoded to, as messages give it. -/
def Moment.typeName : Moment → String
  | .offsetDateTime => "time.Time"
  | .localDateTime => "toml.LocalDateTime"
  | .localDate => "toml.LocalDate"
  | .localTime => "toml.LocalTime"

/-- A value as written. A date or time keeps its kind and whether it is well formed, a number
    that breaks the rules of numbers is kept as such, and an inline table keeps its pairs in
    order, each with its dotted key. -/
inductive Value where
  | string (s : String)
  | integer (n : Int)
  | float (x : Float)
  | boolean (b : Bool)
  | malformedNumber
  | moment (kind : Moment) (wellFormed : Bool)
  | array (items : List Value)
  | table (pairs : List (List String × Value))
  deriving Inhabited

/-- A pair's value is smaller than the inline table's list of pairs. -/
theorem Value.sizeOf_snd_lt_of_mem {ps : List (List String × Value)} {p : List String × Value}
    (h : p ∈ ps) : sizeOf p.2 < 1 + sizeOf ps := by
  have h1 := List.sizeOf_lt_of_mem h
  cases p
  simp only [Prod.mk.sizeOf_spec] at h1 ⊢
  omega

/-- An item is smaller than the array's list of items. -/
theorem Value.sizeOf_lt_of_mem_items {xs : List Value} {x : Value} (h : x ∈ xs) :
    sizeOf x < 1 + sizeOf xs := by
  have h1 := List.sizeOf_lt_of_mem h
  omega

/-! ## Keys defined -/

/-- A step of a path through the document: a key, or an index into an array of tables. -/
inductive Step where
  | key (name : String)
  | index (n : Nat)
  deriving DecidableEq, Repr

/-- What stands at a path: a value, a table (`explicit` when a header or a dotted key defined
    it), or an array of tables with its number of tables. -/
inductive Slot where
  | value
  | table (explicit : Bool)
  | tables (count : Nat)

/-- The paths the document has defined so far, in order, and the path of the table that keys go
    to. -/
structure Doc where
  slots : List (List Step × Slot) := []
  current : List Step := []

/-- What stands at a path. -/
def Doc.lookup (d : Doc) (p : List Step) : Option Slot :=
  (d.slots.find? (·.1 == p)).map (·.2)

/-- Sets what stands at a path. -/
def Doc.put (d : Doc) (p : List Step) (s : Slot) : Doc :=
  if d.slots.any (·.1 == p) then
    { d with slots := d.slots.map fun e => if e.1 == p then (p, s) else e }
  else { d with slots := d.slots ++ [(p, s)] }

/-- Walks the prefix of a header's key from the root, creating tables that are missing and
    entering the last table of an array of tables. -/
def Doc.walk (d : Doc) : List Step → List String → Except String (Doc × List Step)
  | here, [] => .ok (d, here)
  | here, k :: ks =>
    let p := here ++ [.key k]
    match d.lookup p with
    | none => Doc.walk (d.put p (.table false)) p ks
    | some (.table _) => Doc.walk d p ks
    | some (.tables n) => Doc.walk d (p ++ [.index (n - 1)]) ks
    | some .value => .error "key is not a table"

/-- Starts the table of a `[header]`. -/
def Doc.openTable (d : Doc) (keys : List String) : Except String Doc :=
  match keys.reverse with
  | [] => .error "empty header"
  | last :: revInit =>
    match d.walk [] revInit.reverse with
    | .error e => .error e
    | .ok (d, base) =>
      let p := base ++ [.key last]
      match d.lookup p with
      | none => .ok { d.put p (.table true) with current := p }
      | some (.table false) => .ok { d.put p (.table true) with current := p }
      | _ => .error "table defined twice"

/-- Starts a new table of an `[[array]]` header. -/
def Doc.openArrayTable (d : Doc) (keys : List String) : Except String Doc :=
  match keys.reverse with
  | [] => .error "empty header"
  | last :: revInit =>
    match d.walk [] revInit.reverse with
    | .error e => .error e
    | .ok (d, base) =>
      let p := base ++ [.key last]
      match d.lookup p with
      | none =>
        let d := (d.put p (.tables 1)).put (p ++ [.index 0]) (.table true)
        .ok { d with current := p ++ [.index 0] }
      | some (.tables n) =>
        let d := (d.put p (.tables (n + 1))).put (p ++ [.index n]) (.table true)
        .ok { d with current := p ++ [.index n] }
      | _ => .error "key is not an array of tables"

/-- Defines a dotted key in the current table. -/
def Doc.assign (d : Doc) (keys : List String) : Except String Doc :=
  let rec go (d : Doc) (here : List Step) : List String → Except String Doc
    | [] => .error "empty key"
    | [k] =>
      let p := here ++ [.key k]
      match d.lookup p with
      | none => .ok (d.put p .value)
      | some _ => .error "key defined twice"
    | k :: ks =>
      let p := here ++ [.key k]
      match d.lookup p with
      | none => go (d.put p (.table true)) p ks
      | some (.table _) => go d p ks
      | _ => .error "key is not a table"
  go d d.current keys

/-- Claims a dotted key among the keys of one inline table; `seen` holds the keys claimed so far,
    each marked when it holds a value rather than a table made by dotted keys. A key is claimed
    once, and no key goes through a value. -/
def claimKey (seen : List (List String × Bool)) (keys : List String) :
    Option (List (List String × Bool)) :=
  go seen [] keys
where
  /-- Claims the rest of the key below `here`. -/
  go (seen : List (List String × Bool)) (here : List String) :
      List String → Option (List (List String × Bool))
    | [] => some seen
    | [k] =>
      let p := here ++ [k]
      if seen.any (·.1 == p) then none else some (seen ++ [(p, true)])
    | k :: ks =>
      let p := here ++ [k]
      match seen.find? (·.1 == p) with
      | some (_, true) => none
      | some (_, false) => go seen p ks
      | none => go (seen ++ [(p, false)]) p ks

/-- Whether every inline table in a value, however deep, defines each of its keys once. -/
def Value.keysUnique : Value → Bool
  | .array xs => xs.attach.all fun ⟨x, _⟩ => x.keysUnique
  | .table ps =>
    (ps.foldl (fun acc p => acc.bind fun seen => claimKey seen p.1) (some [])).isSome &&
      ps.attach.all fun ⟨p, _⟩ => p.2.keysUnique
  | _ => true
decreasing_by
  all_goals simp_wf
  all_goals first
    | exact Value.sizeOf_snd_lt_of_mem ‹_›
    | exact Value.sizeOf_lt_of_mem_items ‹_›

/-! ## Lexical pieces -/

/-- Blanks inside a line. -/
def isBlank (c : Char) : Bool := c == ' ' || c == '\t'

/-- Characters of a bare key. -/
def isBareKeyChar (c : Char) : Bool := c.isAlphanum || c == '_' || c == '-'

/-- Characters that may not appear raw in a string. -/
def isControl (c : Char) : Bool := (c.toNat < 0x20 && c != '\t') || c.toNat == 0x7F

/-- Skips blanks. -/
def skipBlanks (cs : List Char) : List Char := cs.dropWhile isBlank

/-- Whether the text of a comment (after `#`, up to its line feed) is allowed: no control
    character other than a tab, except a carriage return right before the line feed. -/
def commentOk (comment : List Char) : Bool :=
  let body := if comment.getLast? == some '\r' then comment.dropLast else comment
  !body.any isControl

/-- Skips blanks, line breaks and comments; nothing when a comment holds a character it may
    not. -/
def skipLayout : List Char → Option (List Char)
  | [] => some []
  | c :: rest =>
    if isBlank c || c == '\n' then skipLayout rest
    else if c == '\r' && rest.head? == some '\n' then skipLayout rest
    else if c == '#' then
      let comment := rest.takeWhile (· != '\n')
      if commentOk comment then skipLayout (rest.drop comment.length) else none
    else some (c :: rest)
termination_by cs => cs.length
decreasing_by all_goals (simp only [List.length_cons, List.length_drop]; omega)

/-- Reads hexadecimal digits. -/
def hexValue (cs : List Char) : Option Nat :=
  cs.foldl (fun acc c => acc.bind fun n =>
    if c.isDigit then some (n * 16 + (c.toNat - 48))
    else if 'a' ≤ c && c ≤ 'f' then some (n * 16 + (c.toNat - 87))
    else if 'A' ≤ c && c ≤ 'F' then some (n * 16 + (c.toNat - 55))
    else none) (some 0)

/-- Reads the escape after a backslash in a basic string. -/
def readEscape (cs : List Char) : Except String (Char × List Char) :=
  match cs with
  | 'b' :: r => .ok ('\x08', r)
  | 't' :: r => .ok ('\t', r)
  | 'n' :: r => .ok ('\n', r)
  | 'f' :: r => .ok ('\x0C', r)
  | 'r' :: r => .ok ('\r', r)
  | 'e' :: r => .ok ('\x1B', r)
  | '"' :: r => .ok ('"', r)
  | '\\' :: r => .ok ('\\', r)
  | 'u' :: r | 'U' :: r =>
    let width := if cs.head? == some 'u' then 4 else 8
    match hexValue (r.take width) with
    | some v =>
      if r.length < width || (0xD800 ≤ v && v ≤ 0xDFFF) || v > 0x10FFFF then .error "bad escape"
      else .ok (Char.ofNat v, r.drop width)
    | none => .error "bad escape"
  | _ => .error "bad escape"

/-- Reads a one-line basic string after its opening quote. -/
def readBasic : List Char → List Char → Except String (String × List Char)
  | [], _ => .error "unterminated string"
  | '"' :: rest, acc => .ok (String.ofList acc.reverse, rest)
  | '\\' :: rest, acc =>
    match readEscape rest with
    | .ok (c, r) => if r.length < rest.length then readBasic r (c :: acc) else .error "bad escape"
    | .error e => .error e
  | c :: rest, acc => if isControl c then .error "control character in string" else readBasic rest (c :: acc)
termination_by cs => cs.length

/-- Reads a one-line literal string after its opening quote. -/
def readLiteral : List Char → List Char → Except String (String × List Char)
  | [], _ => .error "unterminated string"
  | '\'' :: rest, acc => .ok (String.ofList acc.reverse, rest)
  | c :: rest, acc => if isControl c then .error "control character in string" else readLiteral rest (c :: acc)

/-- Drops the line break right after the opening quotes of a multi-line string. -/
def dropFirstBreak : List Char → List Char
  | '\n' :: r => r
  | '\r' :: '\n' :: r => r
  | r => r

/-- Reads a multi-line string after its opening quotes; `quote` is its quote character and
    `basic` says escapes count. Up to two quotes may end the content right before the closing
    three. -/
def readMultiline (quote : Char) (basic : Bool) : List Char → List Char → Except String (String × List Char)
  | [], _ => .error "unterminated string"
  | c :: rest, acc =>
    if c == quote && rest.take 2 == [quote, quote] then
      let extra := ((rest.drop 2).takeWhile (· == quote)).length
      if extra > 2 then .error "too many quotes"
      else .ok (String.ofList (acc.reverse ++ List.replicate extra quote), (rest.drop 2).drop extra)
    else if basic && c == '\\' then
      let ws := rest.takeWhile fun d => isBlank d || d == '\n' || d == '\r'
      if ws.contains '\n' then readMultiline quote basic (rest.drop ws.length) acc
      else
        match readEscape rest with
        | .ok (e, r) => if r.length < rest.length then readMultiline quote basic r (e :: acc) else .error "bad escape"
        | .error e => .error e
    else if c == '\r' && rest.head? == some '\n' then readMultiline quote basic rest acc
    else if isControl c && c != '\n' then .error "control character in string"
    else readMultiline quote basic rest (c :: acc)
termination_by cs => cs.length
decreasing_by all_goals (simp only [List.length_cons, List.length_drop]; omega)

/-- Reads a simple key: bare or quoted. -/
def readSimpleKey (cs : List Char) : Except String (String × List Char) :=
  match cs with
  | '"' :: r => readBasic r []
  | '\'' :: r => readLiteral r []
  | _ =>
    let bare := cs.takeWhile isBareKeyChar
    if bare.isEmpty then .error "expected a key" else .ok (String.ofList bare, cs.drop bare.length)

/-- Reads a dotted key, with blanks allowed around the dots. -/
def readKey (fuel : Nat) (cs : List Char) : Except String (List String × List Char) :=
  match fuel with
  | 0 => .error "key too long"
  | fuel + 1 =>
    match readSimpleKey (skipBlanks cs) with
    | .error e => .error e
    | .ok (k, r) =>
      match skipBlanks r with
      | '.' :: r' => (readKey fuel r').map fun (ks, r'') => (k :: ks, r'')
      | r' => .ok ([k], r')

/-! ## Numbers and dates -/

/-- Whether digits with single underscores between them form a number. -/
def underscoresBetween (isDigit : Char → Bool) (cs : List Char) : Bool :=
  !cs.isEmpty && isDigit cs.head! && isDigit cs.getLast! &&
    (cs.all fun c => isDigit c || c == '_') && !(String.ofList cs).contains "__"

/-- The digits without underscores. -/
def withoutUnderscores (cs : List Char) : List Char := cs.filter (· != '_')

/-- The value of digits in a base. -/
def digitsValue (base : Nat) (cs : List Char) : Nat :=
  cs.foldl (fun n c => n * base + (hexValue [c]).getD 0) 0

/-- Reads an integer token. -/
def readInteger (tok : List Char) : Option Int :=
  let limit : Int := Int.pow 2 63
  let inRange := fun (v : Int) => if -limit ≤ v && v < limit then some v else none
  match tok with
  | '0' :: 'x' :: ds =>
    if underscoresBetween (fun c => (hexValue [c]).isSome) ds then inRange (digitsValue 16 (withoutUnderscores ds)) else none
  | '0' :: 'o' :: ds =>
    if underscoresBetween (fun c => '0' ≤ c && c ≤ '7') ds then inRange (digitsValue 8 (withoutUnderscores ds)) else none
  | '0' :: 'b' :: ds =>
    if underscoresBetween (fun c => c == '0' || c == '1') ds then inRange (digitsValue 2 (withoutUnderscores ds)) else none
  | _ =>
    let (neg, ds) := match tok with
      | '-' :: r => (true, r)
      | '+' :: r => (false, r)
      | r => (false, r)
    if !underscoresBetween Char.isDigit ds then none
    else if ds.head? == some '0' && ds.length > 1 then none
    else
      let v : Int := digitsValue 10 (withoutUnderscores ds)
      inRange (if neg then -v else v)

/-- Reads a double token. -/
def readFloat (tok : List Char) : Option Float :=
  let (neg, body) := match tok with
    | '-' :: r => (true, r)
    | '+' :: r => (false, r)
    | r => (false, r)
  let signed := fun (x : Float) => if neg then -x else x
  if body == "inf".toList then some (signed (1.0 / 0.0))
  else if body == "nan".toList then some (0.0 / 0.0)
  else
    let whole := body.takeWhile fun c => c.isDigit || c == '_'
    let rest := body.drop whole.length
    let (frac, rest) := match rest with
      | '.' :: r => (some (r.takeWhile fun c => c.isDigit || c == '_'), r.drop (r.takeWhile fun c => c.isDigit || c == '_').length)
      | r => (none, r)
    let expo : Option (Option Int) := match rest with
      | [] => some none
      | e :: r =>
        if e == 'e' || e == 'E' then
          let (eneg, eds) := match r with
            | '-' :: x => (true, x)
            | '+' :: x => (false, x)
            | x => (false, x)
          if underscoresBetween Char.isDigit eds then
            let v : Int := digitsValue 10 (withoutUnderscores eds)
            some (some (if eneg then -v else v))
          else none
        else none
    let wholeOk := underscoresBetween Char.isDigit whole && !(whole.head? == some '0' && whole.length > 1)
    let fracOk := match frac with
      | some f => underscoresBetween Char.isDigit f
      | none => true
    match expo with
    | none => none
    | some e =>
      if !wholeOk || !fracOk || (frac.isNone && e.isNone) then none
      else
        let fd := withoutUnderscores (frac.getD [])
        let m := digitsValue 10 (withoutUnderscores whole ++ fd)
        let ex := e.getD 0 - fd.length
        some (signed (if ex < 0 then Float.ofScientific m true ex.natAbs else Float.ofScientific m false ex.toNat))

/-- What the characters of a date or time show: a `-` a date, and after the eighth character an
    offset; `T`, `:`, `.` or a space a time; `+` and `Z` an offset. -/
structure MomentMarks where
  date : Bool := false
  time : Bool := false
  zone : Bool := false

/-- The kind a date or time has by its marks. -/
def MomentMarks.kind (m : MomentMarks) : Moment :=
  if m.time then
    if m.date then (if m.zone then .offsetDateTime else .localDateTime) else .localTime
  else .localDate

/-- Scans a date, a time or both: digits, `-`, `T`, `:`, `.`, `+` and `Z`, in either case, where
    `index` counts the characters before. One space followed by a digit may stand in it; the
    space, the digit and the character after them are taken without a look, and that character
    must be a single byte of UTF-8, as nothing may follow a value that starts inside a character. -/
def scanDateTime : List Char → Nat → MomentMarks → Bool → List Char →
    Option (List Char × MomentMarks × List Char)
  | [], _, m, _, acc => some (acc.reverse, m, [])
  | c :: rest, index, m, seenSpace, acc =>
    if c.isDigit then scanDateTime rest (index + 1) m seenSpace (c :: acc)
    else if c == '-' then
      scanDateTime rest (index + 1) { m with date := true, zone := m.zone || index ≥ 8 } seenSpace
        (c :: acc)
    else if c == 'T' || c == 't' || c == ':' || c == '.' then
      scanDateTime rest (index + 1) { m with time := true } seenSpace (c :: acc)
    else if c == '+' || c == 'Z' || c == 'z' then
      scanDateTime rest (index + 1) { m with zone := true } seenSpace (c :: acc)
    else if c == ' ' && !seenSpace && rest.head?.any Char.isDigit then
      match rest with
      | d :: e :: more =>
        if e.toNat < 0x80 then
          scanDateTime more (index + 3) { m with time := true } true (e :: d :: ' ' :: acc)
        else none
      | _ => some ((rest.reverse ++ ' ' :: acc).reverse, { m with time := true }, [])
    else some (acc.reverse, m, c :: rest)

/-- The value of a run of decimal digits, when every character is one. -/
def decimalValue? (cs : List Char) : Option Nat :=
  if cs.all Char.isDigit then some (cs.foldl (fun n c => n * 10 + (c.toNat - 48)) 0) else none

/-- The number of days in a month of a year of the Gregorian calendar. -/
def daysIn (year month : Nat) : Nat :=
  if month == 2 then (if year % 4 == 0 && (year % 100 != 0 || year % 400 == 0) then 29 else 28)
  else if month == 4 || month == 6 || month == 9 || month == 11 then 30
  else 31

/-- Whether a text is a date `YYYY-MM-DD` that exists. -/
def isDate (cs : List Char) : Bool :=
  cs.length == 10 && cs[4]? == some '-' && cs[7]? == some '-' &&
    match decimalValue? (cs.take 4), decimalValue? ((cs.drop 5).take 2),
      decimalValue? ((cs.drop 8).take 2) with
    | some y, some m, some d => 1 ≤ m && m ≤ 12 && 1 ≤ d && d ≤ daysIn y m
    | _, _, _ => false

/-- Reads a time `HH:MM:SS`, perhaps with a fraction of a second (a `.` and at least one digit),
    and gives what follows it. -/
def timeRest? (cs : List Char) : Option (List Char) :=
  if cs.length < 8 || cs[2]? != some ':' || cs[5]? != some ':' then none
  else
    match decimalValue? (cs.take 2), decimalValue? ((cs.drop 3).take 2),
      decimalValue? ((cs.drop 6).take 2) with
    | some h, some m, some s =>
      if h > 23 || m > 59 || s > 60 then none
      else
        match cs.drop 8 with
        | '.' :: r =>
          let ds := r.takeWhile Char.isDigit
          if ds.isEmpty then none else some (r.drop ds.length)
        | r => some r
    | _, _, _ => none

/-- Reads a date and a time, apart by `T` or a space, and gives what follows them. -/
def dateTimeRest? (cs : List Char) : Option (List Char) :=
  if cs.length < 11 || !isDate (cs.take 10) then none
  else
    match cs[10]? with
    | some c => if c == 'T' || c == 't' || c == ' ' then timeRest? (cs.drop 11) else none
    | none => none

/-- Whether an offset from UTC is `Z` or `±HH:MM` within a day. -/
def isOffset (cs : List Char) : Bool :=
  match cs with
  | ['Z'] | ['z'] => true
  | [sign, h1, h2, ':', m1, m2] =>
    (sign == '+' || sign == '-') &&
      match decimalValue? [h1, h2], decimalValue? [m1, m2] with
      | some h, some m => h ≤ 23 && m ≤ 59
      | _, _ => false
  | _ => false

/-- Whether a date or time of a kind is well formed. -/
def Moment.wellFormed (kind : Moment) (cs : List Char) : Bool :=
  match kind with
  | .localDate => isDate cs
  | .localTime => timeRest? cs == some []
  | .localDateTime => dateTimeRest? cs == some []
  | .offsetDateTime => ((dateTimeRest? cs).map isOffset).getD false

/-- Whether a value that starts with digits is a date or a time: a `:` third or a `-` fifth
    after digits only, in a text of at least three characters. -/
def startsDateTime (cs : List Char) : Bool :=
  cs.length ≥ 3 &&
    (let lead := cs.take 5
     let ds := lead.takeWhile Char.isDigit
     match lead.drop ds.length with
     | c :: _ => (ds.length == 2 && c == ':') || (ds.length == 4 && c == '-')
     | [] => false)

/-- Scans the extent of a number: after `0` and another character, `x`, `o` or `b` take the
    digits of their base and `_`, and any other character but `.` and an exponent mark leaves the
    `0` alone; otherwise digits, signs, `_`, `.` and exponent marks, perhaps ending in `inf` or
    `nan`. The number is checked only when it is read as a value. -/
def scanNumber (cs : List Char) : Except String (List Char × List Char) :=
  let general : Except String (List Char × List Char) :=
    let body := cs.takeWhile fun c =>
      c.isDigit || c == '+' || c == '-' || c == '_' || c == '.' || c == 'e' || c == 'E'
    let rest := cs.drop body.length
    match rest with
    | 'i' :: r => if r.take 2 == ['n', 'f'] then .ok (body ++ "inf".toList, r.drop 2) else .error "expected inf"
    | 'n' :: r => if r.take 2 == ['a', 'n'] then .ok (body ++ "nan".toList, r.drop 2) else .error "expected nan"
    | _ => if body.isEmpty then .error "incomplete number" else .ok (body, rest)
  match cs with
  | '0' :: c1 :: _ :: _ =>
    if c1 == '.' || c1 == 'e' || c1 == 'E' then general
    else
      let digitsOf := fun (ok : Char → Bool) =>
        let n := 2 + ((cs.drop 2).takeWhile ok).length
        Except.ok (cs.take n, cs.drop n)
      if c1 == 'x' then digitsOf fun c => (hexValue [c]).isSome || c == '_'
      else if c1 == 'o' then digitsOf fun c => ('0' ≤ c && c ≤ '7') || c == '_'
      else if c1 == 'b' then digitsOf fun c => c == '0' || c == '1' || c == '_'
      else .ok (['0'], cs.drop 1)
  | _ => general

/-- Reads a number, date, time or truth value. -/
def readAtom (cs : List Char) : Except String (Value × List Char) :=
  let word := fun (w : String) (v : Value) =>
    if w.toList.isPrefixOf cs then Except.ok (v, cs.drop w.length) else .error ("expected " ++ w)
  let number := (scanNumber cs).map fun (tok, rest) =>
    match readInteger tok with
    | some n => (Value.integer n, rest)
    | none => ((readFloat tok).map Value.float |>.getD .malformedNumber, rest)
  match cs with
  | 't' :: _ => word "true" (.boolean true)
  | 'f' :: _ => word "false" (.boolean false)
  | 'i' :: _ => word "inf" (.float (1.0 / 0.0))
  | 'n' :: _ => word "nan" (.float (0.0 / 0.0))
  | '+' :: _ | '-' :: _ => number
  | _ =>
    if startsDateTime cs then
      match scanDateTime cs 0 {} false [] with
      | some (tok, marks, rest) => .ok (.moment marks.kind (marks.kind.wellFormed tok), rest)
      | none => .error "a date or time ends inside a character"
    else number

/-! ## Reading values -/

mutual

/-- Reads a value. -/
def readValue : Nat → List Char → Except String (Value × List Char)
  | 0, _ => .error "document too deep"
  | fuel + 1, cs =>
    match cs with
    | '"' :: '"' :: '"' :: r =>
      (readMultiline '"' true (dropFirstBreak r) []).map fun (s, r') => (.string s, r')
    | '"' :: r => (readBasic r []).map fun (s, r') => (.string s, r')
    | '\'' :: '\'' :: '\'' :: r =>
      (readMultiline '\'' false (dropFirstBreak r) []).map fun (s, r') => (.string s, r')
    | '\'' :: r => (readLiteral r []).map fun (s, r') => (.string s, r')
    | '[' :: r => readItems fuel r []
    | '{' :: r =>
      match skipBlanks r with
      | '}' :: r' => .ok (.table [], r')
      | r' => readFields fuel r' []
    | _ => readAtom cs

/-- Reads the items of an array after its `[`. -/
def readItems : Nat → List Char → List Value → Except String (Value × List Char)
  | 0, _, _ => .error "document too deep"
  | fuel + 1, cs, acc =>
    match skipLayout cs with
    | none => .error "control character in comment"
    | some (']' :: r) => .ok (.array acc.reverse, r)
    | some cs' =>
      match readValue fuel cs' with
      | .error e => .error e
      | .ok (v, r) =>
        match skipLayout r with
        | some (',' :: r') => readItems fuel r' (v :: acc)
        | some (']' :: r') => .ok (.array (v :: acc).reverse, r')
        | _ => .error "expected , or ] in an array"

/-- Reads the pairs of an inline table after its `{`. -/
def readFields : Nat → List Char → List (List String × Value) → Except String (Value × List Char)
  | 0, _, _ => .error "document too deep"
  | fuel + 1, cs, acc =>
    match readKey fuel cs with
    | .error e => .error e
    | .ok (keys, r) =>
      match skipBlanks r with
      | '=' :: r' =>
        match readValue fuel (skipBlanks r') with
        | .error e => .error e
        | .ok (v, r'') =>
          match skipBlanks r'' with
          | ',' :: r3 => readFields fuel (skipBlanks r3) (acc ++ [(keys, v)])
          | '}' :: r3 => .ok (.table (acc ++ [(keys, v)]), r3)
          | _ => .error "expected a comma or the end of an inline table"
      | _ => .error "expected = after a key"

end

/-! ## Types and decoded values -/

/-- Why a document does not decode: its text is not TOML or does not fit the type (`invalid`),
    or decoding stops short (`panicked`) with the runtime's message. -/
inductive Error where
  | invalid (message : String)
  | panicked (message : String)
  deriving DecidableEq, Repr

/-- The type a document is decoded into: texts, lists of one type, and records of named fields.
    A record carries the name messages give its type. -/
inductive Target where
  /-- Text; only a string is stored in it. -/
  | text
  /-- A list whose items all have one type. -/
  | list (item : Target)
  /-- A record of named fields; when two fields match a key, the first wins. -/
  | record (name : String) (fields : List (String × Target))

/-- The name of a type, as messages give it. -/
def Target.typeName : Target → String
  | .text => "string"
  | .list item => "[]" ++ item.typeName
  | .record name _ => name

/-- The name of the kind of a type, as messages give it. -/
def Target.kindName : Target → String
  | .text => "string"
  | .list _ => "slice"
  | .record _ _ => "struct"

/-- The field a key names, with its name: the field of that name, or else the one equal to it
    once both are lowercased. -/
def Target.field? (fields : List (String × Target)) (key : String) : Option (String × Target) :=
  match fields.find? (·.1 == key) with
  | some f => some f
  | none => fields.find? fun f => Text.lowerString f.1 == Text.lowerString key

/-- A decoded value: a text, a list, or a record with the fields set so far, by name. -/
inductive Datum where
  | text (s : String)
  | list (items : List Datum)
  | record (fields : List (String × Datum))
  deriving Inhabited, Repr

/-- The value a type starts from: an empty text, an empty list, a record with no field set. -/
def Target.zero : Target → Datum
  | .text => .text ""
  | .list _ => .list []
  | .record _ _ => .record []

/-- The value of a record's field, or the value its type starts from when it is not set. -/
def Datum.field (d : Datum) (name : String) (t : Target) : Datum :=
  match d with
  | .record fs => ((fs.find? (·.1 == name)).map (·.2)).getD t.zero
  | _ => t.zero

/-- Sets a record's field. -/
def Datum.setField (d : Datum) (name : String) (x : Datum) : Datum :=
  match d with
  | .record fs =>
    if fs.any (·.1 == name) then .record (fs.map fun f => if f.1 == name then (name, x) else f)
    else .record (fs ++ [(name, x)])
  | _ => .record [(name, x)]

/-- Changes the value at a path, given the type found there. -/
def Datum.update (f : Target → Datum → Except Error Datum) :
    Target → Datum → List Step → Except Error Datum
  | t, d, [] => f t d
  | .record _ fields, d, .key name :: rest =>
    match fields.find? (·.1 == name) with
    | some (_, ft) => (Datum.update f ft (d.field name ft) rest).map (d.setField name)
    | none => .ok d
  | .list item, .list items, .index i :: rest =>
    match items[i]? with
    | some x => (Datum.update f item x rest).map fun x' => .list (items.set i x')
    | none => .ok (.list items)
  | _, d, _ :: _ => .ok d

/-! ## Decoding -/

/-- Stores a value at a dotted key below a value of a type, `leaf` storing it in the field the
    key ends at. A key that names no field of a record passes the value over; a key that goes on
    past a text or a list stops decoding. -/
def Target.store (leaf : Target → Datum → Except Error Datum) :
    Target → Datum → List String → Except Error Datum
  | t, d, [] => leaf t d
  | .record _ fields, d, k :: ks =>
    match Target.field? fields k with
    | none => .ok d
    | some (name, ft) => (Target.store leaf ft (d.field name ft) ks).map (d.setField name)
  | t, _, _ :: _ => .error (.panicked ("unhandled kv part: " ++ t.kindName))

/-- Decodes a value into a type, given the value decoded there so far. A string goes in a text,
    an array in a list (each item into a fresh item), an inline table in a record (pair by pair,
    as `Target.store` does). A date or time is checked first: one that is not well formed is
    refused, and one that is cannot be stored in any type here. Any other value is refused. -/
def Value.decode : Value → Target → Datum → Except Error Datum
  | .moment kind wellFormed, t, _ =>
    if wellFormed then
      .error (.panicked ("reflect.Set: value of type " ++ kind.typeName ++
        " is not assignable to type " ++ t.typeName))
    else .error (.invalid "malformed date or time")
  | .string s, .text, _ => .ok (.text s)
  | .array xs, .list item, _ =>
    (xs.attach.mapM fun (e : {x // x ∈ xs}) => match e with
      | ⟨x, _⟩ => x.decode item item.zero).map Datum.list
  | .table ps, .record name fields, d =>
    ps.attach.foldlM (fun (acc : Datum) (e : {p // p ∈ ps}) => match e with
      | ⟨p, _⟩ => Target.store (fun t' d' => p.2.decode t' d') (.record name fields) acc p.1) d
  | _, _, _ => .error (.invalid "a value of the wrong kind")
decreasing_by
  all_goals simp_wf
  all_goals first
    | exact Value.sizeOf_snd_lt_of_mem ‹_›
    | exact Value.sizeOf_lt_of_mem_items ‹_›

/-- Where a header leaves the decoder: passing key/value pairs over up to the next header,
    storing them in the table at a path, or storing them in a new item of the list at a path,
    which has `index` items before it. -/
inductive Place where
  | passOver
  | table (path : List Step)
  | newItem (path : List Step) (index : Nat)

/-- Goes from a list into its last item, as long as there is a list: a table header that reaches
    a list goes on in its last item, and an empty list cannot take a table. -/
def Target.enterLast : Target → Datum → List Step → Except Error (Target × Datum × List Step)
  | .list item, .list items, here =>
    match items.getLast? with
    | none => .error (.invalid "cannot store a table in a slice")
    | some last => Target.enterLast item last (here ++ [.index (items.length - 1)])
  | t, d, here => .ok (t, d, here)

/-- Where a `[header]` with these keys leaves the decoder, from a value of a type at a path. -/
def Target.tablePlace : Target → Datum → List Step → List String → Except Error Place
  | t, d, here, keys =>
    match t.enterLast d here, keys with
    | .error e, _ => .error e
    | .ok (_, _, here'), [] => .ok (.table here')
    | .ok (.record _ fields, d', here'), k :: ks =>
      match Target.field? fields k with
      | none => .ok .passOver
      | some (name, ft) => Target.tablePlace ft (d'.field name ft) (here' ++ [.key name]) ks
    | .ok (t', _, _), _ :: _ => .error (.panicked ("unhandled part: " ++ t'.kindName))

/-- Where an `[[array]]` header with these keys leaves the decoder, from a value of a type at a
    path. Keys before the last go on in the last item of a list, which must have one. -/
def Target.arrayPlace : Target → Datum → List Step → List String → Except Error Place
  | _, _, here, [] => .ok (.table here)
  | .record _ fields, d, here, k :: ks =>
    match Target.field? fields k with
    | none => .ok .passOver
    | some (name, ft) =>
      let path := here ++ [.key name]
      match ks, ft, d.field name ft with
      | [], .list _, .list items => .ok (.newItem path items.length)
      | [], ft, _ => .error (.invalid ("cannot decode array table into a " ++ ft.typeName))
      | _ :: _, .list item, .list items =>
        match items.getLast? with
        | none => .error (.panicked "reflect: slice index out of range")
        | some last => Target.arrayPlace item last (path ++ [.index (items.length - 1)]) ks
      | _ :: _, ft, fd => Target.arrayPlace ft fd path ks
  | t, _, _, _ :: _ => .error (.panicked ("unhandled part: " ++ t.kindName))

/-! ## Documents -/

/-- What the decoder holds between expressions: the keys defined, the value decoded so far, and
    the path of the table key/value pairs go to, or nothing while they are passed over. -/
structure Decoder where
  keys : Doc := {}
  value : Datum
  table : Option (List Step) := some []

/-- Moves the decoder to where a header leaves it; a new item starts from its type's start
    value. -/
def Decoder.enter (s : Decoder) (target : Target) : Place → Except Error Decoder
  | .passOver => .ok { s with table := none }
  | .table path => .ok { s with table := some path }
  | .newItem path index =>
    let add := fun (t : Target) (d : Datum) => Except.ok (match t, d with
      | .list item, .list items => Datum.list (items ++ [item.zero])
      | _, d => d)
    (Datum.update add target s.value path).map fun v =>
      { s with value := v, table := some (path ++ [.index index]) }

/-- Decodes a key/value pair into the table at a path. -/
def Decoder.store (s : Decoder) (target : Target) (path : List Step) (keys : List String)
    (v : Value) : Except Error Decoder :=
  (Datum.update (fun t d => Target.store (fun t' d' => v.decode t' d') t d keys) target s.value
    path).map fun x => { s with value := x }

/-- The rest after the end of a line: blanks, maybe a comment, then a line break or the end. -/
def endOfLine (cs : List Char) : Except String (List Char) :=
  match skipBlanks cs with
  | [] => .ok []
  | '\n' :: r => .ok r
  | '\r' :: '\n' :: r => .ok r
  | '#' :: r =>
    let comment := r.takeWhile (· != '\n')
    if commentOk comment then .ok (r.drop (comment.length + 1))
    else .error "control character in comment"
  | _ => .error "expected the end of the line"

/-- A problem of the text, as a decoding error. -/
def invalidText {α : Type} (r : Except String α) : Except Error α := r.mapError .invalid

/-- Reads, checks and decodes the expressions of a document into a type, one line after
    another. -/
def readLines (target : Target) : Nat → List Char → Decoder → Except Error Decoder
  | 0, _, _ => .error (.invalid "document too long")
  | fuel + 1, cs, s =>
    match skipBlanks cs with
    | [] => .ok s
    | '\n' :: r => readLines target fuel r s
    | '\r' :: '\n' :: r => readLines target fuel r s
    | '#' :: r => (invalidText (endOfLine ('#' :: r))).bind fun r' => readLines target fuel r' s
    | '[' :: '[' :: r =>
      match readKey fuel r with
      | .error e => .error (.invalid e)
      | .ok (keys, r') =>
        match skipBlanks r' with
        | ']' :: ']' :: r'' =>
          (invalidText (endOfLine r'')).bind fun r3 =>
          (invalidText (s.keys.openArrayTable keys)).bind fun doc =>
          (target.arrayPlace s.value [] keys).bind fun place =>
          ({ s with keys := doc }.enter target place).bind fun s' =>
          readLines target fuel r3 s'
        | _ => .error (.invalid "expected ]] after a header")
    | '[' :: r =>
      match readKey fuel r with
      | .error e => .error (.invalid e)
      | .ok (keys, r') =>
        match skipBlanks r' with
        | ']' :: r'' =>
          (invalidText (endOfLine r'')).bind fun r3 =>
          (invalidText (s.keys.openTable keys)).bind fun doc =>
          (target.tablePlace s.value [] keys).bind fun place =>
          ({ s with keys := doc }.enter target place).bind fun s' =>
          readLines target fuel r3 s'
        | _ => .error (.invalid "expected ] after a header")
    | cs' =>
      match readKey fuel cs' with
      | .error e => .error (.invalid e)
      | .ok (keys, r) =>
        match skipBlanks r with
        | '=' :: r' =>
          match readValue fuel (skipBlanks r') with
          | .error e => .error (.invalid e)
          | .ok (v, r'') =>
            (invalidText (endOfLine r'')).bind fun r3 =>
            match s.table with
            | none => readLines target fuel r3 s
            | some path =>
              (invalidText (s.keys.assign keys)).bind fun doc =>
              if !v.keysUnique then .error (.invalid "key defined twice in an inline table")
              else
                ({ s with keys := doc }.store target path keys v).bind fun s' =>
                readLines target fuel r3 s'
        | _ => .error (.invalid "expected = after a key")

/-- Decodes a document into a value of a type. -/
def decode (target : Target) (s : String) : Except Error Datum :=
  let cs := s.toList
  (readLines target (cs.length + 1) cs { value := target.zero }).map (·.value)

end BrowserSessions.Toml
