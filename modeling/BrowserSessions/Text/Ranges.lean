/-!
# Text.Ranges

Tables of code point ranges written as text: `first-last` pairs of uppercase hexadecimal numbers
separated by spaces, in increasing order. Membership is found by halving the table.
-/

namespace BrowserSessions.Text

/-- The value of an uppercase hexadecimal text. -/
def hexValue (cs : List Char) : Nat :=
  cs.foldl (fun n c => n * 16 + (if c.isDigit then c.toNat - 48 else c.toNat - 55)) 0

/-- Whether a character is an uppercase hexadecimal digit. -/
def isHexDigit (c : Char) : Bool := c.isDigit || ('A' ≤ c && c ≤ 'F')

/-- Reads a range table. -/
def readRanges (text : String) : Array (Nat × Nat) :=
  (text.splitOn " ").toArray.map fun tok =>
    match tok.splitOn "-" with
    | [a, b] => (hexValue a.toList, hexValue b.toList)
    | _ => (0, 0)

/-- Whether a code point lies in the ranges from index `lo` up to below `hi`. -/
def inRanges (tbl : Array (Nat × Nat)) (n : Nat) (lo hi : Nat) : Bool :=
  if _h : lo < hi then
    let mid := (lo + hi) / 2
    match tbl[mid]? with
    | some (a, b) =>
      if n < a then inRanges tbl n lo mid
      else if b < n then inRanges tbl n (mid + 1) hi
      else true
    | none => false
  else false
termination_by hi - lo

/-- Whether a code point lies in a range table. -/
def memRanges (tbl : Array (Nat × Nat)) (n : Nat) : Bool := inRanges tbl n 0 tbl.size

end BrowserSessions.Text
