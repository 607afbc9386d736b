import BrowserSessions.Json.Basic
import BrowserSessions.Decimal.Text

/-!
# Json.Print

The compact text of a JSON value: no spaces, fields in their stored order, integers in full and
doubles by their shortest digits, positional from `1e-6` up to below `1e21`.

Strings escape the quote, the backslash and control characters, with the short forms
`\b \f \n \r \t` where they exist and `\u00xx` otherwise, and also the line and paragraph
separators. With `html` set, `<`, `>` and `&` are escaped too, so the text can sit inside a page.
-/

namespace BrowserSessions.Json

/-- Four lowercase hexadecimal digits of a code unit. -/
def hex4 (n : Nat) : String :=
  let d (k : Nat) : Char := if k < 10 then Char.ofNat (48 + k) else Char.ofNat (87 + k)
  String.ofList [d (n / 4096 % 16), d (n / 256 % 16), d (n / 16 % 16), d (n % 16)]

/-- The escaped form of one character inside a string. -/
def escapeChar (html : Bool) (c : Char) : String :=
  match c with
  | '"' => "\\\""
  | '\\' => "\\\\"
  | '\n' => "\\n"
  | '\r' => "\\r"
  | '\t' => "\\t"
  | '\x08' => "\\b"
  | '\x0c' => "\\f"
  | c =>
    if c.toNat < 0x20 || c.toNat == 0x2028 || c.toNat == 0x2029 then "\\u" ++ hex4 c.toNat
    else if html && (c == '<' || c == '>' || c == '&') then "\\u" ++ hex4 c.toNat
    else String.singleton c

/-- A quoted string. -/
def quote (html : Bool) (s : String) : String :=
  "\"" ++ String.join (s.toList.map (escapeChar html)) ++ "\""

/-- The compact text of a value. -/
def render (html : Bool) : Json → String
  | .null => "null"
  | .bool true => "true"
  | .bool false => "false"
  | .int n => toString n
  | .float x => Decimal.dataText x
  | .str s => quote html s
  | .arr xs => "[" ++ ",".intercalate (xs.map (render html)) ++ "]"
  | .obj fs =>
    "\x7b" ++ ",".intercalate (fs.map fun kv => quote html kv.1 ++ ":" ++ render html kv.2)
      ++ "\x7d"
decreasing_by
  all_goals simp_wf
  all_goals first
    | exact sizeOf_snd_lt_of_mem ‹_›
    | exact sizeOf_lt_of_mem_items ‹_›

/-- The compact text of a value, with `<`, `>` and `&` escaped. -/
def compact (j : Json) : String := render true j

/-- Sorts the fields of every object by key, as a writer of maps does. -/
def sortKeys : Json → Json
  | .arr xs => .arr (xs.map sortKeys)
  | .obj fs =>
    .obj ((fs.map fun kv => (kv.1, sortKeys kv.2)).mergeSort fun a b => decide (a.1 ≤ b.1))
  | j => j
decreasing_by
  all_goals simp_wf
  all_goals first
    | exact sizeOf_snd_lt_of_mem ‹_›
    | exact sizeOf_lt_of_mem_items ‹_›

end BrowserSessions.Json
