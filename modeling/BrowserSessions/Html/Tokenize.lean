import BrowserSessions.Html.Reference

/-!
# Html.Tokenize

Splitting an HTML fragment into tokens the way a browser's tokenizer does, keeping of each token
only what a sanitizer needs: the text of text tokens and the names of tags.

* Text runs up to a `<` that starts markup: a `<` followed by a letter (a start tag), `/` (an end
  tag), `!` or `?` (a comment or declaration). Any other `<` is text, as is a `</` at the end.
* A tag runs to the first `>` outside a quoted attribute value; a tag that the input ends inside
  ends the tokens. Tag names are lowercased. A start tag whose `>` follows a `/` closes itself.
* `<!--` starts a comment, which ends at `-->`, at `--!>`, or right away at `<!-->`; other `<!`,
  `<?` and `</` followed by a non-letter run to the next `>`.
* After the start tags `iframe`, `noembed`, `noframes`, `noscript`, `script`, `style`,
  `textarea`, `title` and `xmp` the text up to the matching end tag is one raw token; character
  references are replaced only in that of `textarea` and `title`. After `plaintext` all the
  rest is text. The end of `script` follows the escaping rules of script data: inside `<!--`
  a `<script>` must be closed before `</script>` ends the element.
* In text, `\r\n` and `\r` become `\n`; in raw text NUL becomes U+FFFD; elsewhere character
  references are replaced.
-/

namespace BrowserSessions.Html

/-- A token, with what a sanitizer reads of it. -/
inductive Token where
  | text (chars : List Char)
  | startTag (name : String)
  | selfClosingTag (name : String)
  | endTag (name : String)
  | comment
  deriving DecidableEq, Repr

/-- Whitespace inside tags. -/
def isTagSpace (c : Char) : Bool :=
  c == ' ' || c == '\n' || c == '\r' || c == '\t' || c == '\x0C'

/-- Whether a character is an ASCII letter. -/
def isAsciiLetter (c : Char) : Bool := ('a' ≤ c && c ≤ 'z') || ('A' ≤ c && c ≤ 'Z')

/-- ASCII lowercase of a character. -/
def lowerAscii (c : Char) : Char := if 'A' ≤ c && c ≤ 'Z' then Char.ofNat (c.toNat + 32) else c

/-! ## Tags -/

/-- Where the tokenizer stands inside a tag after its name. -/
inductive TagState where
  | between
  | key
  | afterKey
  | afterEquals
  | quoted (q : Char)
  | unquoted
  deriving DecidableEq, Repr

/-- The state after one more character of a tag; `none` when the character is the closing `>`. -/
def TagState.step : TagState → Char → Option TagState
  | .between, c =>
    if isTagSpace c || c == '/' then some .between else if c == '>' then none else some .key
  | .key, c =>
    if c == '=' then some .afterEquals
    else if isTagSpace c then some .afterKey
    else if c == '/' then some .between
    else if c == '>' then none
    else some .key
  | .afterKey, c =>
    if isTagSpace c then some .afterKey
    else if c == '/' then some .between
    else if c == '=' then some .afterEquals
    else if c == '>' then none
    else some .key
  | .afterEquals, c =>
    if isTagSpace c then some .afterEquals
    else if c == '>' then none
    else if c == '"' || c == '\'' then some (.quoted c)
    else some .unquoted
  | .quoted q, c => if c == q then some .between else some (.quoted q)
  | .unquoted, c =>
    if isTagSpace c then some .between else if c == '>' then none else some .unquoted

/-- Reads the rest of a tag after its name, `prev` being the last character read: whether the
    character before `>` is `/`, and the text after `>`; `none` when the input ends first. -/
def tagRest : TagState → Char → List Char → Option (Bool × List Char)
  | _, _, [] => none
  | st, prev, c :: rest =>
    match st.step c with
    | none => some (prev == '/', rest)
    | some st' => tagRest st' c rest

/-- Reads a tag from its first letter: its lowercased name, whether it closes itself, and the
    text after it; `none` when the input ends inside it. -/
def readTag (first : Char) (rest : List Char) : Option (String × Bool × List Char) :=
  let name := first :: rest.takeWhile fun c => !(isTagSpace c || c == '/' || c == '>')
  let after := rest.drop (name.length - 1)
  (tagRest .between (name.getLast?.getD first) after).map fun (selfClosing, r) =>
    (String.ofList (name.map lowerAscii), selfClosing, r)

/-- The text after the first `>`, or nothing. -/
def afterCloseAngle (cs : List Char) : List Char := (cs.dropWhile (· != '>')).drop 1

/-! ## Comments -/

/-- The text after the end of a comment whose `<!--` has been read: `dashes` counts the `-` just
    read, and `start` holds until a character other than `-` is read. -/
def commentRest (dashes : Nat) (start : Bool) : List Char → List Char
  | [] => []
  | '-' :: rest => commentRest (dashes + 1) start rest
  | '>' :: rest => if dashes ≥ 2 || start then rest else commentRest 0 false rest
  | '!' :: rest =>
    if dashes ≥ 2 then
      match rest with
      | [] => []
      | '>' :: r => r
      | '-' :: r => commentRest 1 false r
      | _ :: r => commentRest 0 false r
    else commentRest 0 false rest
  | _ :: rest => commentRest 0 false rest

/-! ## Raw text -/

/-- Whether the text starts with the end of a raw element named `tag` (after its `</`): the name
    in either case, then whitespace, `/` or `>`. -/
def closesRaw (tag : List Char) (cs : List Char) : Bool :=
  cs.length > tag.length &&
    (List.zip tag (cs.take tag.length)).all (fun (t, c) => lowerAscii c == t && isAsciiLetter c) &&
    (match cs.drop tag.length with
      | c :: _ => isTagSpace c || c == '/' || c == '>'
      | [] => false)

/-- The length of the raw text of an element other than `script`: up to its end tag, or all. -/
def rawTextLength (tag : List Char) : List Char → Nat
  | [] => 0
  | '<' :: '/' :: rest => if closesRaw tag rest then 0 else 2 + rawTextLength tag rest
  | _ :: rest => 1 + rawTextLength tag rest

/-- Where the script data tokenizer stands. -/
inductive ScriptState where
  | data
  | escaped
  | escapedDash
  | escapedDashDash
  | doubleEscaped
  | doubleEscapedDash
  | doubleEscapedDashDash
  deriving DecidableEq, Repr

/-- The name of the script element. -/
def scriptName : List Char := "script".toList

/-- The length of script data: up to its end tag, or all. The letters of `script` and the
    character after them mean nothing in the escaped states, so a `<script` or `</script` that
    switches between escaped and double escaped data is read on in the new state. -/
def scriptLength : ScriptState → List Char → Nat
  | _, [] => 0
  | st, c :: rest =>
    match st with
    | .data =>
      if c == '<' then
        match rest with
        | '/' :: r => if closesRaw scriptName r then 0 else 2 + scriptLength .data r
        | '!' :: '-' :: '-' :: r => 4 + scriptLength .escapedDashDash r
        | '!' :: '-' :: r => 3 + scriptLength .data r
        | '!' :: r => 2 + scriptLength .data r
        | other => 1 + scriptLength .data other
      else 1 + scriptLength .data rest
    | .escaped | .escapedDash | .escapedDashDash =>
      if c == '-' then
        1 + scriptLength (if st == .escaped then .escapedDash else .escapedDashDash) rest
      else if c == '>' && st == .escapedDashDash then 1 + scriptLength .data rest
      else if c == '<' then
        match rest with
        | '/' :: r => if closesRaw scriptName r then 0 else 2 + scriptLength .escaped r
        | d :: more =>
          if !isAsciiLetter d then 1 + scriptLength .data (d :: more)
          else if closesRaw scriptName (d :: more) then 1 + scriptLength .doubleEscaped (d :: more)
          else 1 + scriptLength .escaped (d :: more)
        | [] => 1
      else 1 + scriptLength .escaped rest
    | .doubleEscaped | .doubleEscapedDash | .doubleEscapedDashDash =>
      if c == '-' then
        1 + scriptLength
          (if st == .doubleEscaped then .doubleEscapedDash else .doubleEscapedDashDash) rest
      else if c == '>' && st == .doubleEscapedDashDash then 1 + scriptLength .data rest
      else if c == '<' then
        match rest with
        | '/' :: r =>
          if closesRaw scriptName r then 2 + scriptLength .escaped r
          else 2 + scriptLength .doubleEscaped r
        | other => 1 + scriptLength .doubleEscaped other
      else 1 + scriptLength .doubleEscaped rest
termination_by _ cs => cs.length

/-! ## Text -/

/-- `\r\n` and `\r` as `\n`. -/
def convertNewlines : List Char → List Char
  | [] => []
  | '\r' :: '\n' :: rest => '\n' :: convertNewlines rest
  | '\r' :: rest => '\n' :: convertNewlines rest
  | c :: rest => c :: convertNewlines rest

/-- The text of a text token: newlines converted, then in raw text NUL replaced, elsewhere
    character references replaced. `references` says whether references count. -/
def textOf (raw references : Bool) (cs : List Char) : List Char :=
  let cs := convertNewlines cs
  let cs := if raw then cs.map (fun c => if c == '\x00' then '�' else c) else cs
  if references then unescape cs else cs

/-- Whether a `<` followed by this character starts markup. -/
def startsMarkup (c : Char) : Bool := isAsciiLetter c || c == '/' || c == '!' || c == '?'

/-- The length of the text before the next markup. -/
def textLength : List Char → Nat
  | [] => 0
  | '<' :: c :: rest => if startsMarkup c then 0 else 1 + textLength (c :: rest)
  | _ :: rest => 1 + textLength rest

/-- The elements whose content is raw text. -/
def rawElements : List String :=
  ["iframe", "noembed", "noframes", "noscript", "plaintext", "script", "style", "textarea",
   "title", "xmp"]

/-! ## Tokens -/

/-- Reads the markup at a `<`: the token, the rest, and the raw element it opens; `none` when the
    tokens end. -/
def readMarkup : List Char → Option (Token × List Char × Option String)
  | '<' :: '/' :: rest =>
    match rest with
    | [] => some (.text ['<', '/'], [], none)
    | '>' :: r => some (.comment, r, none)
    | c :: r =>
      if isAsciiLetter c then (readTag c r).map fun (name, _, r') => (.endTag name, r', none)
      else some (.comment, afterCloseAngle (c :: r), none)
  | '<' :: '!' :: rest =>
    match rest with
    | '-' :: '-' :: r => some (.comment, commentRest 0 true r, none)
    | _ :: _ :: _ => some (.comment, afterCloseAngle rest, none)
    | _ => some (.comment, [], none)
  | '<' :: '?' :: rest => some (.comment, afterCloseAngle rest, none)
  | '<' :: c :: rest =>
    (readTag c rest).map fun (name, selfClosing, r) =>
      let raw := if rawElements.contains name then some name else none
      (if selfClosing then .selfClosingTag name else .startTag name, r, raw)
  | _ => none

/-- Reads the next token after ordinary content: text up to markup, or the markup. -/
def readOrdinary (cs : List Char) : Option (Token × List Char × Option String) :=
  let n := textLength cs
  if n == 0 then readMarkup cs
  else some (.text (textOf false true (cs.take n)), cs.drop n, none)

/-- Reads the next token, `raw` naming the element whose raw text comes next. -/
def nextToken (cs : List Char) (raw : Option String) : Option (Token × List Char × Option String) :=
  match raw with
  | none => readOrdinary cs
  | some tag =>
    let n :=
      if tag == "plaintext" then cs.length
      else if tag == "script" then scriptLength .data cs
      else rawTextLength tag.toList cs
    if n == 0 then readOrdinary cs
    else
      let references := tag == "textarea" || tag == "title"
      some (.text (textOf true references (cs.take n)), cs.drop n, none)

/-- The tokens of a text, read with at most `fuel` steps. -/
def tokensWith : Nat → List Char → Option String → List Token
  | 0, _, _ => []
  | fuel + 1, cs, raw =>
    match nextToken cs raw with
    | none => []
    | some (t, rest, raw') => t :: tokensWith fuel rest raw'

/-- The tokens of a text. Every token takes at least one character, so one step per character
    is enough. -/
def tokenize (s : String) : List Token :=
  let cs := s.toList
  tokensWith (cs.length + 1) cs none

end BrowserSessions.Html
