/-!
# Decimal.Shortest

The shortest decimal that reads back as a given binary64 number.

A finite double is `m · 2^q`. The reals that round to it form an interval around it, whose ends
belong to it exactly when `m` is even (ties go to the even significand). For one digit, then two,
and so on up to seventeen, the two neighbours of the value on that decimal grid are tested in
exact natural-number arithmetic; the first grid with a neighbour inside the interval gives the
digits, and of two neighbours inside, the nearer one wins. Seventeen digits always suffice.

The writers at the end place those digits positionally (`fixed`) or with an exponent
(`scientific`), which is all the number texts of this library need.
-/

namespace BrowserSessions.Decimal

/-- A finite binary64 number as `(-1)^negative · mant · 2^exp`. `narrowBelow` marks a
    significand that is an exact power of two above the smallest normal exponent: the next double
    below is then half as far away as the next one above. -/
structure Binary where
  negative : Bool
  mant : Nat
  exp : Int
  narrowBelow : Bool

/-- Splits a double into sign, significand and exponent; `none` for NaN and the infinities. -/
def Binary.ofFloat? (x : Float) : Option Binary :=
  let bits : Nat := x.toBits.toNat
  let neg : Bool := bits / Nat.pow 2 63 == 1
  let e : Nat := bits / Nat.pow 2 52 % 2048
  let f : Nat := bits % Nat.pow 2 52
  if e == 2047 then none
  else if e == 0 then some ⟨neg, f, -1074, false⟩
  else some ⟨neg, f + Nat.pow 2 52, (e : Int) - 1075, f == 0 && e > 1⟩

/-- A decimal `digits · 10^exp`. -/
structure Shortest where
  digits : Nat
  exp : Int

/-- Compares `d · 10^p` with `x · 2^q` exactly. -/
def compareScaled (d : Nat) (p : Int) (x : Nat) (q : Int) : Ordering :=
  compare (d * Nat.pow 10 p.toNat * Nat.pow 2 (-q).toNat) (x * Nat.pow 2 q.toNat * Nat.pow 10 (-p).toNat)

/-- `⌊m · 2^q / 10^p⌋`. -/
def floorScaled (m : Nat) (q p : Int) : Nat :=
  (m * Nat.pow 2 q.toNat * Nat.pow 10 (-p).toNat) / (Nat.pow 2 (-q).toNat * Nat.pow 10 p.toNat)

/-- The number of binary digits of a natural number. -/
def bitLength (n : Nat) : Nat := if n = 0 then 0 else Nat.log2 n + 1

/-- The decimal exponent of a positive value `m · 2^q`: the `E` with `10^E ≤ v < 10^(E+1)`.
    An estimate from the binary exponent is off by at most two, and is corrected upward and
    downward by exact tests. -/
def decimalExponent (m : Nat) (q : Int) : Int :=
  let est : Int := ((q + (bitLength m : Int) - 1) * 30103) / 100000
  let down := fun (e : Int) => if floorScaled m q e == 0 then e - 1 else e
  let up := fun (e : Int) => if floorScaled m q (e + 1) ≥ 1 then e + 1 else e
  up (up (up (down (down (down est)))))

/-- Removes trailing zero digits, moving them into the exponent. -/
def Shortest.trim (s : Shortest) : Shortest :=
  go s.digits s.exp 20
where
  go (d : Nat) (e : Int) : Nat → Shortest
    | 0 => ⟨d, e⟩
    | fuel + 1 => if d ≠ 0 ∧ d % 10 = 0 then go (d / 10) (e + 1) fuel else ⟨d, e⟩

/-- The fewest decimal digits that round to the double `m · 2^q`, nearest of those. -/
def shortestOf (b : Binary) : Shortest :=
  if b.mant = 0 then ⟨0, 0⟩ else
  let m := b.mant
  let q := b.exp
  -- the interval, in units of 2^(q-2)
  let x := 4 * m
  let lo := x - (if b.narrowBelow then 1 else 2)
  let hi := x + 2
  let inclusive := m % 2 == 0
  let inside := fun (d : Nat) (p : Int) =>
    let cl := compareScaled d p lo (q - 2)
    let ch := compareScaled d p hi (q - 2)
    (cl == .gt || (inclusive && cl == .eq)) && (ch == .lt || (inclusive && ch == .eq))
  let e := decimalExponent m q
  let attempt := fun (k : Nat) =>
    let p : Int := e + 1 - (k : Int)
    let d := floorScaled m q p
    let dlo := inside d p
    let dhi := inside (d + 1) p
    if dlo && dhi then
      -- nearer of the two: compare 2v with (2d+1)·10^p
      match compareScaled (2 * d + 1) p (2 * x) (q - 2) with
      | .gt => some (Shortest.mk d p)
      | .lt => some (Shortest.mk (d + 1) p)
      | .eq => some (Shortest.mk (if d % 2 = 0 then d else d + 1) p)
    else if dlo then some (Shortest.mk d p)
    else if dhi then some (Shortest.mk (d + 1) p)
    else none
  match (List.range 17).findSome? (fun i => attempt (i + 1)) with
  | some s => s.trim
  | none => (Shortest.mk (floorScaled m q (e - 16)) (e - 16)).trim

/-! ## Writing the digits -/

/-- The decimal digits of a natural number. -/
def digitString (n : Nat) : String := toString n

/-- Positional notation: `1000`, `0.5`, `0.0000001`. -/
def fixed (s : Shortest) : String :=
  let ds := digitString s.digits
  let n : Int := ds.length
  let dp := n + s.exp
  if s.exp ≥ 0 then ds ++ String.ofList (List.replicate s.exp.toNat '0')
  else if dp > 0 then
    String.ofList (ds.toList.take dp.toNat) ++ "." ++ String.ofList (ds.toList.drop dp.toNat)
  else "0." ++ String.ofList (List.replicate (-dp).toNat '0') ++ ds

/-- Exponent notation with a signed exponent of at least `width` digits: `1e+21`, `1.5e-07`. -/
def scientific (s : Shortest) (width : Nat) : String :=
  let ds := digitString s.digits
  let e : Int := ds.length + s.exp - 1
  let mant := match ds.toList with
    | [] => "0"
    | [c] => String.singleton c
    | c :: rest => String.singleton c ++ "." ++ String.ofList rest
  let ed := toString e.natAbs
  let padded := String.ofList (List.replicate (width - ed.length) '0') ++ ed
  mant ++ "e" ++ (if e < 0 then "-" else "+") ++ padded

/-- The decimal exponent of the leading digit. -/
def Shortest.leadExp (s : Shortest) : Int := (digitString s.digits).length + s.exp - 1

end BrowserSessions.Decimal
