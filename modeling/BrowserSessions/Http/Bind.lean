import BrowserSessions.Json.Parse
import BrowserSessions.Text.Case

/-!
# Http.Bind

Filling a request shape from a JSON body, then checking its required fields.

The body is read as its first JSON value; what follows that value is not looked at, and a body
without a value fails. A null fills nothing. An object fills the fields whose names equal its
keys up to case, key by key in order, so the last key naming a field decides it; a value of the
wrong type fails the whole body. Each kind of field takes its values as follows:

* text: a string; null keeps the text;
* switch and count (values that may be absent): a boolean or an integer, null makes it absent;
* number: an integer, null keeps it;
* text list: an array of strings, null items reading as empty texts; null makes it absent;
* record: an object of any values (numbers read as doubles), added to what the field holds;
  null makes it absent.

Integers must be written without fraction or exponent and fit in 64 bits. A number beyond the
doubles fails only where a field keeps it: the body is read with `Json.parsePrefixSaturating`,
and a record refuses an infinity.

A required field must then hold something: a non-empty text, a present switch, count, list or
record, a non-zero number. Every field that does not is reported, in the order of the shape.
-/

namespace BrowserSessions.Http

/-- The kind of value a field holds. -/
inductive FieldKind where
  | text
  | switch
  | count
  | number
  | texts
  | record
  deriving DecidableEq, Repr

/-- The value of a field. -/
inductive FieldValue where
  | text (s : String)
  | switch (b : Option Bool)
  | count (n : Option Int)
  | number (n : Int)
  | texts (xs : Option (List String))
  | record (fields : Option (List (String × Json)))

/-- A field of a request shape: its key in the body, its declared name and kind. -/
structure Field where
  key : String
  name : String
  kind : FieldKind
  required : Bool := false

/-- A request shape: its declared name (empty for an unnamed one) and its fields. -/
structure Shape where
  name : String := ""
  fields : List Field

/-- Why a body did not fill a shape. -/
inductive BindError where
  /-- The body is not JSON, or a value has the wrong type. -/
  | decode (detail : String)
  /-- Required fields, by declared name, hold nothing. -/
  | missing (shape : String) (names : List String)

namespace BindError

/-- The quotation mark of the messages. -/
def mark : String := String.singleton (Char.ofNat 39)

/-- The error text. -/
def message : BindError → String
  | .decode detail => detail
  | .missing shape names =>
    "\n".intercalate <| names.map fun n =>
      let key := if shape.isEmpty then n else shape ++ "." ++ n
      "Key: " ++ mark ++ key ++ mark ++ " Error:Field validation for " ++ mark ++ n ++ mark ++
        " failed on the " ++ mark ++ "required" ++ mark ++ " tag"

end BindError

/-- The value of a field before anything fills it. -/
def FieldKind.zero : FieldKind → FieldValue
  | .text => .text ""
  | .switch => .switch none
  | .count => .count none
  | .number => .number 0
  | .texts => .texts none
  | .record => .record none

/-- Whether an integer fits in 64 bits. -/
def fits64 (n : Int) : Bool := -(Int.pow 2 63) ≤ n && n < Int.pow 2 63

/-- The name of a JSON value's type, as a decoder reports it. -/
def typeWord : Json → String
  | .null => "null"
  | .bool _ => "bool"
  | .int _ | .float _ => "number"
  | .str _ => "string"
  | .arr _ => "array"
  | .obj _ => "object"

/-- Fills a field with one value, or fails. -/
def fillField (f : Field) (old : FieldValue) (v : Json) : Option FieldValue :=
  match f.kind, v with
  | .text, .str s => some (.text s)
  | .text, .null => some old
  | .switch, .bool b => some (.switch (some b))
  | .switch, .null => some (.switch none)
  | .count, .int n => if fits64 n then some (.count (some n)) else none
  | .count, .null => some (.count none)
  | .number, .int n => if fits64 n then some (.number n) else none
  | .number, .null => some old
  | .texts, .arr items =>
    (items.mapM fun (j : Json) => match j with
      | .str s => some s
      | .null => some ""
      | _ => none).map fun xs => .texts (some xs)
  | .texts, .null => some (.texts none)
  | .record, .obj fs =>
    let before := match old with
      | .record (some held) => held
      | _ => []
    match Json.loosen (.obj (before ++ fs)) with
    | .obj merged => if (Json.obj merged).allFinite then some (.record (some merged)) else none
    | _ => none
  | .record, .null => some (.record none)
  | _, _ => none

/-- Whether a field holds something. -/
def FieldValue.present : FieldValue → Bool
  | .text s => !s.isEmpty
  | .switch b => b.isSome
  | .count n => n.isSome
  | .number n => n != 0
  | .texts xs => xs.isSome
  | .record fs => fs.isSome

/-- The values of a shape's fields from the fields of an object. -/
def fillFields (shape : Shape) (fs : List (String × Json)) : Except BindError (List FieldValue) :=
  shape.fields.mapM fun f =>
    fs.foldlM (fun (old : FieldValue) kv =>
      if Text.equalFoldChars kv.1.toList f.key.toList then
        match fillField f old kv.2 with
        | some v => .ok v
        | none => .error (.decode ("json: cannot unmarshal " ++ typeWord kv.2 ++
            " into struct field " ++ shape.name ++ "." ++ f.key))
      else .ok old) f.kind.zero

/-- Fills a shape from a body and checks its required fields. -/
def bind (shape : Shape) (body : Option String) : Except BindError (List FieldValue) := do
  let text := body.getD ""
  let values ← match Json.parsePrefixSaturating text with
    | .error .unexpectedEnd =>
      if (Json.skipBlanks text.toList).isEmpty then .error (.decode "EOF")
      else .error (.decode "unexpected EOF")
    | .error _ => .error (.decode "invalid character looking for beginning of value")
    | .ok (.null, _) => .ok (shape.fields.map (·.kind.zero))
    | .ok (.obj fs, _) => fillFields shape fs
    | .ok (v, _) => .error (.decode ("json: cannot unmarshal " ++ typeWord v ++ " into value"))
  let missing := (shape.fields.zip values).filterMap fun (f, v) =>
    if f.required && !v.present then some f.name else none
  if missing.isEmpty then .ok values else .error (.missing shape.name missing)

/-- The text of a filled field, or the empty text. -/
def FieldValue.asText : FieldValue → String
  | .text s => s
  | _ => ""

/-- The switch of a filled field. -/
def FieldValue.asSwitch : FieldValue → Option Bool
  | .switch b => b
  | _ => none

/-- The count of a filled field. -/
def FieldValue.asCount : FieldValue → Option Int
  | .count n => n
  | _ => none

/-- The number of a filled field. -/
def FieldValue.asNumber : FieldValue → Int
  | .number n => n
  | _ => 0

/-- The text list of a filled field. -/
def FieldValue.asTexts : FieldValue → Option (List String)
  | .texts xs => xs
  | _ => none

/-- The record of a filled field. -/
def FieldValue.asRecord : FieldValue → Option (List (String × Json))
  | .record fs => fs
  | _ => none

end BrowserSessions.Http
