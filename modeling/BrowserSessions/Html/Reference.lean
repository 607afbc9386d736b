import BrowserSessions.Html.Entity

/-!
# Html.Reference

Replacing character references in the text of an HTML document by the characters they stand for.

* A numeric reference is `&#` and decimal digits, or `&#x` and hexadecimal digits, with an
  optional final `;`. The value is kept in 32 bits as it is read. Values 0x80 to 0x9F stand for
  the Windows-1252 characters at those bytes; zero, surrogates, values above U+10FFFF and values
  past 31 bits stand for U+FFFD. A reference needs more than three characters counting its `&#`,
  its `x`, its digits and its `;`: `&#5;` counts, `&#5` does not, and `&#x;` counts and stands
  for U+FFFD.
* A named reference takes the longest run of letters and digits after `&`, with a `;` after it
  if there is one. When that is no name, the longest name without `;` that starts it, of two to
  six characters, is taken instead (`&notit;` is `¬it;`).
* Anything else stays as it is.
-/

namespace BrowserSessions.Html

/-- The Windows-1252 characters at bytes 0x80 to 0x9F. -/
def windows1252 : List Nat :=
  [0x20AC, 0x81, 0x201A, 0x192, 0x201E, 0x2026, 0x2020, 0x2021, 0x2C6, 0x2030, 0x160, 0x2039,
   0x152, 0x8D, 0x17D, 0x8F, 0x90, 0x2018, 0x2019, 0x201C, 0x201D, 0x2022, 0x2013, 0x2014,
   0x2DC, 0x2122, 0x161, 0x203A, 0x153, 0x9D, 0x17E, 0x178]

/-- The character of a numeric reference's 32-bit value. -/
def numericChar (x : Nat) : Char :=
  if 0x80 ≤ x && x ≤ 0x9F then Char.ofNat (windows1252.getD (x - 0x80) 0xFFFD)
  else if x == 0 || (0xD800 ≤ x && x ≤ 0xDFFF) || x > 0x10FFFF then '�'
  else Char.ofNat x

/-- Whether a character is a digit in base sixteen (`hex`) or ten. -/
def isRefDigit (hex : Bool) (c : Char) : Bool :=
  c.isDigit || (hex && (('a' ≤ c && c ≤ 'f') || ('A' ≤ c && c ≤ 'F')))

/-- The value of a digit in base sixteen. -/
def refDigitValue (c : Char) : Nat :=
  if c.isDigit then c.toNat - 48
  else if 'a' ≤ c && c ≤ 'f' then c.toNat - 87
  else c.toNat - 55

/-- Reads a numeric reference from the text after `&#`: the character and how many characters
    after the `&` it takes. -/
def readNumeric (rest : List Char) : Option (Char × Nat) :=
  if rest.length ≤ 1 then none
  else
    let hex := rest.head? == some 'x' || rest.head? == some 'X'
    let body := if hex then rest.drop 1 else rest
    let digits := body.takeWhile (isRefDigit hex)
    let semicolon := (body.drop digits.length).head? == some ';'
    let used := 2 + (if hex then 1 else 0) + digits.length + (if semicolon then 1 else 0)
    if used ≤ 3 then none
    else
      let base := if hex then 16 else 10
      let x := digits.foldl (fun x c => (x * base + refDigitValue c) % Nat.pow 2 32) 0
      some (numericChar x, used - 1)

/-- Whether a character may stand in a reference name. -/
def isNameChar (c : Char) : Bool := c.isAlphanum

/-- Reads a named reference from the text after `&`: the characters and how many characters it
    takes. -/
def readNamed (rest : List Char) : Option (List Char × Nat) :=
  let name := rest.takeWhile isNameChar
  let full := if (rest.drop name.length).head? == some ';' then name ++ [';'] else name
  if full.isEmpty then none
  else match entity? (String.ofList full) with
    | some cs => some (cs, full.length)
    | none =>
      let longest := min (full.length - 1) longestEntityWithoutSemicolon
      ((List.range (longest + 1)).reverse.filter (· ≥ 2)).findSome? fun j =>
        match entity? (String.ofList (full.take j)) with
        | some [c] => some ([c], j)
        | _ => none

/-- Reads the reference after an `&`: what it stands for and how many characters it takes. -/
def readReference (rest : List Char) : Option (List Char × Nat) :=
  match rest with
  | '#' :: r => (readNumeric r).map fun (c, n) => ([c], n)
  | _ => readNamed rest

/-- The text with its character references replaced. -/
def unescape (cs : List Char) : List Char :=
  match cs with
  | [] => []
  | c :: rest =>
    if c == '&' then
      match readReference rest with
      | some (out, n) => out ++ unescape (rest.drop n)
      | none => c :: unescape rest
    else c :: unescape rest
termination_by cs.length
decreasing_by all_goals (simp only [List.length_cons, List.length_drop]; omega)

end BrowserSessions.Html
