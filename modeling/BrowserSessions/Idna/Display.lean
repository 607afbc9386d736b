import BrowserSessions.Idna.Table
import BrowserSessions.Idna.Label
import BrowserSessions.Idna.Punycode
import BrowserSessions.Text.Normal
import BrowserSessions.Text.Utf8

/-!
# Idna.Display

Converting a host name to the Unicode form shown to a user (UTS #46 ToUnicode, nontransitional,
with the STD3 rules, the hyphen checks, the joiner checks and the Bidi Rule).

1. The bytes of the name are read as characters (`readHostChar`): a byte sequence that encodes
   no character reads as U+FFFD, and one cut short by the end of the name is an error.
2. Each character is mapped by the table (`mapName`): valid and deviation characters stay,
   ignored ones are dropped, mapped ones are replaced, and a disallowed one stays and is an
   error. The name counts as right-to-left text when any of its characters is.
3. The mapped text is put in Normalization Form C and split into labels at `.`.
4. A label starting with `xn--` is decoded from Punycode; a label that fails to decode is an
   error. A decoded label must be in Normalization Form C, hold only characters that are valid
   as they are, and makes the name right-to-left text when it holds such characters.
5. Every label passes the checks of `Idna.Label`: hyphens, a leading mark, joiners.
6. When the name is right-to-left text, every label satisfies the Bidi Rule.

The result is the converted name, or the first error; a caller that wants to show something on
error shows the name as it came.
-/

namespace BrowserSessions.Idna

/-- Why a host name has no display form. -/
inductive DisplayError where
  /-- The name ends inside the encoding of a character. -/
  | cutCharacter
  /-- A character the rules do not allow. -/
  | disallowed (c : Char)
  /-- A label whose Punycode does not decode. -/
  | badPunycode (label : String)
  /-- A decoded label that is not normalized or has a character that is not valid as it is. -/
  | notValidDecoded (label : String)
  /-- A label that breaks the hyphen rules. -/
  | hyphens (label : String)
  /-- A label that starts with a combining mark. -/
  | leadingMark (label : String)
  /-- A joiner where it may not stand. -/
  | joiner (label : String)
  /-- A label that breaks the Bidi Rule in a name with right-to-left text. -/
  | bidi (label : String)
  deriving Repr, BEq

/-! ## Reading and mapping -/

/-- What the front of a host name's bytes holds: a character and the number of its bytes, a
    sequence of that many bytes that encodes no character, or an encoding cut short by the end. -/
inductive HostChar where
  | char (c : Char) (size : Nat)
  | broken (size : Nat)
  | cut
  deriving Repr, BEq

/-- Reads the front of a host name's bytes. A lead byte announces a length; a byte that is not
    a continuation where one is due ends the broken sequence before it. An encoding of a value
    that is no character (too long a form, a surrogate, beyond U+10FFFF) is broken as a whole. -/
def readHostChar (bs : Bytes) : HostChar :=
  match bs with
  | [] => .cut
  | b0 :: rest =>
    let lead := b0.toNat
    let need := if lead < 0x80 then 1 else if lead < 0xC2 then 0 else if lead < 0xE0 then 2
      else if lead < 0xF0 then 3 else if lead < 0xF8 then 4 else 0
    if need == 1 then .char (Char.ofNat lead) 1
    else if need == 0 then .broken 1
    else if bs.length < need then .cut
    else
      let tails := (rest.take (need - 1)).takeWhile Bytes.isTail
      if tails.length < need - 1 then .broken (tails.length + 1)
      else
        let high := if need == 2 then lead % 32 else if need == 3 then lead % 16 else lead % 8
        let v := tails.foldl (fun n b => n * 64 + Bytes.tailBits b) high
        let least := if need == 2 then 0x80 else if need == 3 then 0x800 else 0x10000
        if v < least || (0xD800 ≤ v && v ≤ 0xDFFF) || v > 0x10FFFF then .broken need
        else .char (Char.ofNat v) need

/-- The mapped characters of a name, whether it met an error, and whether it holds right-to-left
    text. -/
structure Mapped where
  chars : List Char := []
  error : Option DisplayError := none
  rightToLeft : Bool := false

/-- Maps the characters of a name's bytes by the table; the first error is kept, and a cut
    encoding ends the reading. -/
def mapName (bs : Bytes) : Mapped :=
  go bs.length bs {}
where
  /-- Maps the rest of the bytes; `fuel` is their number. -/
  go : Nat → Bytes → Mapped → Mapped
    | 0, _, m => m
    | fuel + 1, bs, m =>
      if bs.isEmpty then m
      else match readHostChar bs with
        | .cut => { m with error := m.error.orElse fun _ => some .cutCharacter }
        | .broken n => go fuel (bs.drop n) { m with chars := m.chars ++ ['�'] }
        | .char c n =>
          let m := { m with rightToLeft := m.rightToLeft || (Text.bidiClass c).isRightToLeft }
          let m := match statusOf c with
            | .valid | .deviation _ => { m with chars := m.chars ++ [c] }
            | .mapped image => { m with chars := m.chars ++ image }
            | .ignored => m
            | .disallowed =>
              { m with chars := m.chars ++ [c], error := m.error.orElse fun _ => some (.disallowed c) }
          go fuel (bs.drop n) m

/-! ## Labels -/

/-- Splits a list of characters at every `.`. -/
def splitLabels (cs : List Char) : List (List Char) :=
  go cs []
where
  go : List Char → List Char → List (List Char)
    | [], acc => [acc.reverse]
    | c :: rest, acc => if c == '.' then acc.reverse :: go rest [] else go rest (c :: acc)

/-- The checks every label passes. -/
def checkLabel (label : List Char) : Option DisplayError :=
  let text := String.ofList label
  if label.isEmpty then none
  else if hyphenProblem label then some (.hyphens text)
  else if startsWithMark label then some (.leadingMark text)
  else if !joinersAllowed label then some (.joiner text)
  else none

/-- A decoded label must be normalized and hold only characters that are valid as they are. -/
def checkDecoded (label : List Char) : Option DisplayError :=
  let valid := fun c => match statusOf c with
    | .valid | .deviation _ => true
    | _ => false
  if Text.isNfc label && label.all valid then none
  else some (.notValidDecoded (String.ofList label))

/-- Converts one label: decodes `xn--` labels and checks it. Gives the label to show, whether it
    holds right-to-left text, and the first error. -/
def convertLabel (label : List Char) : List Char × Bool × Option DisplayError :=
  if label.isEmpty then (label, false, none)
  else if "xn--".toList.isPrefixOf label then
    match Punycode.decode (label.drop 4) with
    | none => (label, false, some (.badPunycode (String.ofList label)))
    | some u => (u, hasRightToLeft u, (checkDecoded u).or (checkLabel u))
  else (label, false, checkLabel label)

/-- The display form of a host name given as bytes. -/
def toUnicode (host : Bytes) : Except DisplayError String :=
  let m := mapName host
  match m.error with
  | some e => .error e
  | none =>
    let converted := (splitLabels (Text.nfc m.chars)).map convertLabel
    let labels := converted.map (·.1)
    let rightToLeft := m.rightToLeft || converted.any (·.2.1)
    match converted.findSome? (·.2.2) with
    | some e => .error e
    | none =>
      match labels.find? fun l => rightToLeft && !satisfiesBidiRule l with
      | some l => .error (.bidi (String.ofList l))
      | none => .ok (String.intercalate "." (labels.map String.ofList))

/-- The display form of a host name given as text. -/
def toUnicodeString (s : String) : Except DisplayError String := toUnicode (Bytes.ofString s)

end BrowserSessions.Idna
