import BrowserSessions.Decimal.Shortest

/-!
# Decimal.Text

The texts this library writes for doubles. All of them start from the shortest digits of
`Decimal.Shortest`; they differ only in when the exponent form is used and how wide its exponent
is, which one `NumberStyle` record per kind of output says.
-/

namespace BrowserSessions.Decimal

/-- When a number text uses the exponent form, and how many exponent digits it writes at least. -/
structure NumberStyle where
  /-- Whether the shortest digits of a nonzero magnitude are written with an exponent. -/
  useExponent : Float → Shortest → Bool
  /-- The least number of exponent digits. -/
  expWidth : Nat

/-- Plain positional text, never an exponent: `1000`, `0.5`, `1000000000000000000000`. -/
def NumberStyle.positional : NumberStyle := ⟨fun _ _ => false, 2⟩

/-- Data interchange text: positional from `1e-6` up to below `1e21`, else an exponent with as
    few digits as it needs: `1e+21`, `1e-7`. -/
def NumberStyle.data : NumberStyle := ⟨fun x _ => x.abs < 1e-6 || x.abs ≥ 1e21, 1⟩

/-- General text: an exponent of two or more digits when the leading digit's power of ten is
    below `-4` or at least `6`: `100000`, `1e+06`, `0.0001`, `1e-05`. -/
def NumberStyle.general : NumberStyle :=
  ⟨fun _ s => s.leadExp < -4 || s.leadExp ≥ 6, 2⟩

/-- The text of a double in a style. NaN and the infinities are written `NaN`, `+Inf`, `-Inf`. -/
def NumberStyle.render (st : NumberStyle) (x : Float) : String :=
  match Binary.ofFloat? x with
  | none => if x.isNaN then "NaN" else if x > 0 then "+Inf" else "-Inf"
  | some b =>
    let s := shortestOf b
    let body := if b.mant ≠ 0 && st.useExponent x s then scientific s st.expWidth else fixed s
    (if b.negative then "-" else "") ++ body

/-- Positional text of a double. -/
def fixedText (x : Float) : String := NumberStyle.positional.render x

/-- Data interchange text of a double. -/
def dataText (x : Float) : String := NumberStyle.data.render x

/-- General text of a double. -/
def generalText (x : Float) : String := NumberStyle.general.render x


end BrowserSessions.Decimal
