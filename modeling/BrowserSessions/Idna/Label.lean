import BrowserSessions.Idna.Table
import BrowserSessions.Text.Bidi
import BrowserSessions.Text.Utf8

/-!
# Idna.Label

The checks a label of a host name must pass once it is mapped, normalized and decoded.

* `hyphenProblem`: no `--` in its third and fourth bytes when it is longer than four bytes,
  and no `-` at either end.
* `startsWithMark`: its first character may not be a combining mark.
* `joinersAllowed`: a zero width joiner must follow a virama; a zero width non-joiner must follow
  a virama, or stand between a left or dual joining character and a right or dual joining one,
  with only transparent characters around it. `joinStep` is the automaton that reads this.
* `satisfiesBidiRule`: the Bidi Rule for labels of domain names that hold right-to-left text. A
  label starts with a left-to-right, right-to-left or Arabic letter character and keeps to the
  classes its direction allows; it ends with a left-to-right character or European number (left
  to right), or a right-to-left, Arabic letter or number character (right to left), perhaps
  followed by nonspacing marks; and it may not hold both European and Arabic numbers.
  `bidiStep` is the automaton that reads this.
-/

namespace BrowserSessions.Idna

open Text

/-- The zero width non-joiner and joiner. -/
def zeroWidthNonJoiner : Char := '\u200C'
def zeroWidthJoiner : Char := '\u200D'

/-! ## Hyphens and marks -/

/-- Whether a label breaks the hyphen rules: `--` as its third and fourth bytes in a label of
    more than four bytes, or `-` first or last. -/
def hyphenProblem (label : List Char) : Bool :=
  let bytes := Bytes.encodeChars label
  (bytes.length > 4 && bytes[2]? == some 0x2D && bytes[3]? == some 0x2D) ||
    label.head? == some '-' || label.getLast? == some '-'

/-- Whether a label starts with a combining mark that the mapping keeps as it is. -/
def startsWithMark (label : List Char) : Bool :=
  match label with
  | c :: _ => statusOf c == .valid && isMark c
  | [] => false

/-! ## Joiners -/

/-- Where the reading of a label for its joiners stands. -/
inductive JoinState where
  /-- At the start, or past a character that joins nothing. -/
  | start
  /-- Right after a virama. -/
  | virama
  /-- After a left or dual joining character, perhaps followed by transparent ones. -/
  | before
  /-- After a virama that follows a joining character. -/
  | beforeVirama
  /-- After a non-joiner that still waits for a right or dual joining character. -/
  | after
  | fail
  deriving BEq, DecidableEq, Repr

/-- What a character is to the joiner automaton. -/
inductive JoinInput where
  | other
  | joining (t : JoiningType)
  | joiner
  | nonJoiner
  | virama
  deriving BEq, Repr

/-- One step of the joiner automaton. -/
def joinStep : JoinState → JoinInput → JoinState
  | .fail, _ => .fail
  | .start, .joining .leftJoining | .start, .joining .dualJoining => .before
  | .start, .joiner | .start, .nonJoiner => .fail
  | .start, .virama => .virama
  | .virama, .joining .leftJoining | .virama, .joining .dualJoining => .before
  | .before, .joining .leftJoining | .before, .joining .dualJoining
  | .before, .joining .transparent => .before
  | .before, .nonJoiner => .after
  | .before, .joiner => .fail
  | .before, .virama => .beforeVirama
  | .beforeVirama, .joining .leftJoining | .beforeVirama, .joining .dualJoining
  | .beforeVirama, .joining .transparent => .before
  | .after, .joining .leftJoining => .fail
  | .after, .joining .dualJoining => .before
  | .after, .joining .transparent => .after
  | .after, .joining .rightJoining => .start
  | .after, .nonJoiner | .after, .joiner => .fail
  | .after, .virama => .after
  | _, _ => .start

/-- Reads one character: its joining input, then a virama step for a virama. Only characters
    that the mapping keeps as they are have a joining type. -/
def joinChar (st : JoinState) (c : Char) : JoinState :=
  let valid := statusOf c == .valid
  let input :=
    if c == zeroWidthJoiner then JoinInput.joiner
    else if c == zeroWidthNonJoiner then .nonJoiner
    else if valid then
      match joiningType c with
      | .nonJoining => .other
      | t => .joining t
    else .other
  let st := joinStep st input
  if valid && isVirama c then joinStep st .virama else st

/-- Whether the joiners of a label stand where they may. -/
def joinersAllowed (label : List Char) : Bool :=
  if !(label.contains zeroWidthJoiner || label.contains zeroWidthNonJoiner) then true
  else
    let st := label.foldl joinChar .start
    st != .fail && st != .after

/-! ## The Bidi Rule -/

/-- Where the reading of a label for the Bidi Rule stands. -/
inductive BidiState where
  | initial
  | leftToRight
  | leftToRightFinal
  | rightToLeft
  | rightToLeftFinal
  | invalid
  deriving BEq, DecidableEq, Repr

/-- The classes that may stand inside a label of either direction without ending it. -/
def isNeutralInside (b : BidiClass) : Bool :=
  b == .europeanSeparator || b == .commonSeparator || b == .europeanTerminator ||
    b == .otherNeutral || b == .boundaryNeutral

/-- One step of the Bidi Rule automaton. -/
def bidiStep : BidiState → BidiClass → BidiState
  | .initial, b =>
    if b == .leftToRight then .leftToRightFinal
    else if b == .rightToLeft || b == .arabicLetter then .rightToLeftFinal
    else .invalid
  | .rightToLeft, b =>
    if b == .rightToLeft || b == .arabicLetter || b == .europeanNumber || b == .arabicNumber then
      .rightToLeftFinal
    else if isNeutralInside b || b == .nonspacingMark then .rightToLeft
    else .invalid
  | .rightToLeftFinal, b =>
    if b == .rightToLeft || b == .arabicLetter || b == .europeanNumber || b == .arabicNumber ||
        b == .nonspacingMark then .rightToLeftFinal
    else if isNeutralInside b then .rightToLeft
    else .invalid
  | .leftToRight, b =>
    if b == .leftToRight || b == .europeanNumber then .leftToRightFinal
    else if isNeutralInside b || b == .nonspacingMark then .leftToRight
    else .invalid
  | .leftToRightFinal, b =>
    if b == .leftToRight || b == .europeanNumber || b == .nonspacingMark then .leftToRightFinal
    else if isNeutralInside b then .leftToRight
    else .invalid
  | .invalid, _ => .invalid

/-- Whether a label satisfies the Bidi Rule; the empty label does. -/
def satisfiesBidiRule (label : List Char) : Bool :=
  let classes := label.map bidiClass
  let st := classes.foldl bidiStep .initial
  !(classes.contains .europeanNumber && classes.contains .arabicNumber) &&
    (st == .initial || st == .leftToRightFinal || st == .rightToLeftFinal)

/-- Whether a text holds right-to-left characters: right to left, Arabic letters or Arabic
    numbers. -/
def hasRightToLeft (cs : List Char) : Bool := cs.any fun c => (bidiClass c).isRightToLeft

end BrowserSessions.Idna
