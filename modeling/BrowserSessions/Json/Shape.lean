import BrowserSessions.Json.Parse
import BrowserSessions.Text.Case

/-!
# Json.Shape

Reading a JSON document into a value of a known shape, as a decoder that binds documents to
typed records does. Only what the shape names is read in full; every other member of a record
is skimmed.

* `Shape` says what is expected: text, a list of one shape, or a record of named fields.
* A member's key names the field of the same name, or else the field whose lowercase form is
  the key's lowercase form (`Text.lowerString`, which maps `İ` to `i` but leaves `ſ` alone).
* Read values: strings may hold raw control characters, and their escapes must be valid; `null`
  stands for any shape; any other kind of value where the shape expects one is refused.
* Skimmed values (`skimValue`) are only checked for their outline: strings end at the first
  quote not after a backslash, with any escapes; `true`, `false` and `null` are spelled out;
  numbers are checked by `skimNumber`, which lets a lone `-` pass; containers must be well formed
  and nest at most `skimDepthLimit` deep, and at the deepest level an array holds at most one
  item and an object no member.

`readShapedDocument` reads a whole text: one value and nothing but blanks after it. The result is
a `Json` value holding what was read, with record members under their field's name, in order,
repeated keys included.
-/

namespace BrowserSessions.Json

/-- What a reader expects at a place in a document. -/
inductive Shape where
  /-- A string. -/
  | text
  /-- An array whose items all have one shape. -/
  | list (item : Shape)
  /-- An object with named fields; members with other keys are skimmed. -/
  | record (fields : List (String × Shape))

/-- The field a member's key names: the field of that name, or else the one whose lowercase
    form is the key's. -/
def fieldFor? (fields : List (String × Shape)) (key : String) : Option (String × Shape) :=
  match fields.find? (·.1 == key) with
  | some f => some f
  | none =>
    let lower := Text.lowerString key
    fields.find? fun f => Text.lowerString f.1 == lower

/-! ## Skimming -/

/-- How deep the containers of a skimmed value may nest. -/
def skimDepthLimit : Nat := 4096

/-- Where the marks of a number fall while it is scanned: the `.`, the exponent mark and the
    sign, by position. -/
structure NumberMarks where
  dot : Option Nat := none
  exp : Option Nat := none
  sign : Option Nat := none

/-- Scans the characters of a number body from position `i`: digits and at most one each of
    `.`, `e` or `E`, and `+` or `-`. Gives the marks and the length scanned, or nothing when a
    mark comes twice. -/
def scanNumber : List Char → Nat → NumberMarks → Option (NumberMarks × Nat)
  | [], i, m => some (m, i)
  | c :: rest, i, m =>
    if c.isDigit then scanNumber rest (i + 1) m
    else if c == '.' then
      if m.dot.isSome then none else scanNumber rest (i + 1) { m with dot := some i }
    else if c == 'e' || c == 'E' then
      if m.exp.isSome then none else scanNumber rest (i + 1) { m with exp := some i }
    else if c == '+' || c == '-' then
      if m.sign.isSome then none else scanNumber rest (i + 1) { m with sign := some i }
    else some (m, i)

/-- How many characters a number body at the front of `cs` takes when skimmed (after the `-` of
    a negative number), or nothing when it is malformed. A `0` not followed by `.` or an exponent
    mark is a number on its own. A mark may not come first or last, a sign must follow the
    exponent mark, and the `.` must come before the exponent mark with a digit between them. An
    empty body passes as long as some character follows it, which lets a lone `-` through. -/
def skimNumber (cs : List Char) : Option Nat :=
  match cs with
  | [] => none
  | '0' :: rest =>
    if rest.head?.any fun c => c == '.' || c == 'e' || c == 'E' then check else some 1
  | _ => check
where
  /-- Checks the marks of the scanned body. -/
  check : Option Nat :=
    (scanNumber cs 0 {}).bind fun (m, n) =>
      let isAt := fun (p : Option Nat) (k : Nat) => p == some k
      if isAt m.dot 0 || isAt m.sign 0 || isAt m.exp 0 then none
      else if n == 0 then some 0
      else if isAt m.dot (n - 1) || isAt m.sign (n - 1) || isAt m.exp (n - 1) then none
      else match m.sign, m.exp, m.dot with
        | some s, e, _ => if e != some (s - 1) then none
          else match m.dot, e with
            | some d, some x => if d + 1 ≥ x then none else some n
            | _, _ => some n
        | none, some x, some d => if d + 1 ≥ x then none else some n
        | none, _, _ => some n

/-- Skims a string after its opening quote: up to the first quote that does not follow a
    backslash; a backslash passes over the character after it. -/
def skimString : List Char → Option (List Char)
  | [] => none
  | '"' :: rest => some rest
  | '\\' :: _ :: rest => skimString rest
  | _ :: rest => skimString rest

/-- Expects a word at the front. -/
def skimWord (word : List Char) (cs : List Char) : Option (List Char) :=
  if word.isPrefixOf cs then some (cs.drop word.length) else none

mutual

/-- Skims one value after optional blanks; `depth` counts the containers it stands in. -/
def skimValue : Nat → Nat → List Char → Option (List Char)
  | 0, _, _ => none
  | fuel + 1, depth, cs =>
    match skipBlanks cs with
    | [] => none
    | c :: rest =>
      if c.isDigit then (skimNumber (c :: rest)).map fun n => (c :: rest).drop n
      else if c == '-' then (skimNumber rest).map fun n => rest.drop n
      else if c == 'n' then skimWord "ull".toList rest
      else if c == 't' then skimWord "rue".toList rest
      else if c == 'f' then skimWord "alse".toList rest
      else if c == '"' then skimString rest
      else if c == '[' then
        if depth ≥ skimDepthLimit then none
        else match skipBlanks rest with
          | ']' :: more => some more
          | _ => skimItems fuel (depth + 1) rest
      else if c == '{' then
        if depth ≥ skimDepthLimit then none
        else match skipBlanks rest with
          | '}' :: more => some more
          | '"' :: more => skimMembers fuel (depth + 1) more
          | _ => none
      else none

/-- Skims the items of an array from its first item on, up to and including `]`; `depth`
    counts the containers including this one. -/
def skimItems : Nat → Nat → List Char → Option (List Char)
  | 0, _, _ => none
  | fuel + 1, depth, cs =>
    (skimValue fuel depth cs).bind fun rest =>
      match skipBlanks rest with
      | ']' :: more => some more
      | ',' :: more => if depth ≥ skimDepthLimit then none else skimItems fuel depth more
      | _ => none

/-- Skims the members of an object from just after the opening quote of a key, up to and
    including `}`; `depth` counts the containers including this one. -/
def skimMembers : Nat → Nat → List Char → Option (List Char)
  | 0, _, _ => none
  | fuel + 1, depth, cs =>
    if depth ≥ skimDepthLimit then none
    else (skimString cs).bind fun afterKey =>
      match skipBlanks afterKey with
      | ':' :: afterColon =>
        (skimValue fuel depth afterColon).bind fun rest =>
          match skipBlanks rest with
          | '}' :: more => some more
          | ',' :: more =>
            match skipBlanks more with
            | '"' :: key => skimMembers fuel depth key
            | _ => none
          | _ => none
      | _ => none

end

/-! ## Reading -/

mutual

/-- Reads one value of a shape after optional blanks. -/
def readShaped : Nat → Shape → List Char → Except ReadError (Json × List Char)
  | 0, _, _ => .error .exhausted
  | fuel + 1, shape, cs =>
    match skipBlanks cs with
    | [] => .error .unexpectedEnd
    | c :: rest =>
      if c == 'n' then readWord "null".toList .null (c :: rest)
      else match shape with
        | .text =>
          if c == '"' then (readStringBody true (rest.length + 1) rest []).map fun (s, r) => (.str s, r)
          else .error (.unexpectedChar c)
        | .list item =>
          if c == '[' then
            match skipBlanks rest with
            | ']' :: more => .ok (.arr [], more)
            | _ => readShapedItems fuel item rest []
          else .error (.unexpectedChar c)
        | .record fields =>
          if c == '{' then
            match skipBlanks rest with
            | '}' :: more => .ok (.obj [], more)
            | _ => readShapedMembers fuel fields rest []
          else .error (.unexpectedChar c)

/-- Reads the items of an array from its first item on, up to and including `]`. -/
def readShapedItems : Nat → Shape → List Char → List Json → Except ReadError (Json × List Char)
  | 0, _, _, _ => .error .exhausted
  | fuel + 1, item, cs, acc =>
    match readShaped fuel item cs with
    | .error e => .error e
    | .ok (v, rest) =>
      match skipBlanks rest with
      | ']' :: more => .ok (.arr (v :: acc).reverse, more)
      | ',' :: more => readShapedItems fuel item more (v :: acc)
      | c :: _ => .error (.unexpectedChar c)
      | [] => .error .unexpectedEnd

/-- Reads the members of an object from its first key on, up to and including `}`: members the
    fields name are read in their shape, the others skimmed. -/
def readShapedMembers : Nat → List (String × Shape) → List Char → List (String × Json) →
    Except ReadError (Json × List Char)
  | 0, _, _, _ => .error .exhausted
  | fuel + 1, fields, cs, acc =>
    match skipBlanks cs with
    | '"' :: rest =>
      match readStringBody true (rest.length + 1) rest [] with
      | .error e => .error e
      | .ok (key, afterKey) =>
        match skipBlanks afterKey with
        | ':' :: afterColon =>
          let member : Except ReadError (Option (String × Json) × List Char) :=
            match fieldFor? fields key with
            | some (name, shape) =>
              (readShaped fuel shape afterColon).map fun (v, r) => (some (name, v), r)
            | none =>
              match skimValue (2 * afterColon.length + 2) 0 afterColon with
              | some r => .ok (none, r)
              | none => .error .malformed
          match member with
          | .error e => .error e
          | .ok (m, rest2) =>
            let acc := match m with
              | some kv => kv :: acc
              | none => acc
            match skipBlanks rest2 with
            | '}' :: more => .ok (.obj acc.reverse, more)
            | ',' :: more => readShapedMembers fuel fields more acc
            | c :: _ => .error (.unexpectedChar c)
            | [] => .error .unexpectedEnd
        | c :: _ => .error (.unexpectedChar c)
        | [] => .error .unexpectedEnd
    | c :: _ => .error (.unexpectedChar c)
    | [] => .error .unexpectedEnd

end

/-- Reads a whole text as one value of a shape; only blanks may follow it. -/
def readShapedDocument (shape : Shape) (s : String) : Except ReadError Json :=
  match readShaped (2 * s.length + 2) shape s.toList with
  | .error e => .error e
  | .ok (v, rest) => if (skipBlanks rest).isEmpty then .ok v else .error .trailingData

end BrowserSessions.Json
