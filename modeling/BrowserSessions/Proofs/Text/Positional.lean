import Mathlib.Data.List.Induction

/-!
# Numbers written in a base

Fixed-width positional notation, most significant digit first, as identifiers write their bytes
(base 256) and their text (base 32), and colours their hexadecimal digits (base 16):
`toDigits b k n` writes the last `k` digits of `n` and `ofDigits b ds` reads digits back.

* Reading what was written gives the number cut to `k` digits (`ofDigits_toDigits`).
* Writing what was read gives back digits that were all below the base (`toDigits_ofDigits`).
* Digits below the base read as a number below `b ^ length` (`ofDigits_lt`).
-/

namespace BrowserSessions.Positional

/-- The number that digits in base `b` stand for, most significant first. -/
def ofDigits (b : Nat) (ds : List Nat) : Nat := ds.foldl (fun acc d => acc * b + d) 0

/-- The last `k` digits of a number in base `b`, most significant first. -/
def toDigits (b k n : Nat) : List Nat := (List.range k).reverse.map fun j => n / Nat.pow b j % b

variable {b : Nat}

@[simp] theorem length_toDigits (b k n : Nat) : (toDigits b k n).length = k := by
  simp [toDigits]

theorem lt_of_mem_toDigits {k n d : Nat} (hb : 0 < b) (h : d ∈ toDigits b k n) : d < b := by
  obtain ⟨j, -, rfl⟩ := List.mem_map.mp h
  exact Nat.mod_lt _ hb

@[simp] theorem ofDigits_nil (b : Nat) : ofDigits b [] = 0 := rfl

theorem ofDigits_append_digit (ds : List Nat) (d : Nat) :
    ofDigits b (ds ++ [d]) = ofDigits b ds * b + d := by
  simp [ofDigits]

/-- Digits below the base stand for a number below `b ^ length`. -/
theorem ofDigits_lt {ds : List Nat} (h : ∀ d ∈ ds, d < b) : ofDigits b ds < Nat.pow b ds.length := by
  induction ds using List.reverseRecOn with
  | nil => simp [ofDigits]
  | append_singleton ds d ih =>
    have hd : d < b := h d (by simp)
    have hlt := ih fun x hx => h x (by simp [hx])
    rw [ofDigits_append_digit, List.length_append, List.length_singleton]
    show _ < Nat.pow b ds.length * b
    calc ofDigits b ds * b + d
        _ < (ofDigits b ds + 1) * b := by rw [Nat.succ_mul]; omega
        _ ≤ Nat.pow b ds.length * b := Nat.mul_le_mul_right _ hlt

/-- The last digit written is the number modulo the base; the others are the digits of the rest. -/
theorem toDigits_succ (b k n : Nat) : toDigits b (k + 1) n = toDigits b k (n / b) ++ [n % b] := by
  have hrange : (List.range (k + 1)).reverse = ((List.range k).reverse.map (· + 1)) ++ [0] := by
    rw [List.range_succ_eq_map, List.reverse_cons, List.map_reverse]
  have hshift : ∀ j, n / Nat.pow b (j + 1) = n / b / Nat.pow b j := by
    intro j
    rw [Nat.div_div_eq_div_mul, show Nat.pow b (j + 1) = b * Nat.pow b j from Nat.mul_comm _ _]
  simp only [toDigits, hrange, List.map_append, List.map_map, Function.comp_def, hshift]
  rw [List.map_singleton, show Nat.pow b 0 = 1 from rfl, Nat.div_one]

/-- Reading the last `k` digits gives the number cut to `k` digits. -/
theorem ofDigits_toDigits (b k n : Nat) : ofDigits b (toDigits b k n) = n % Nat.pow b k := by
  induction k generalizing n with
  | zero =>
    show ofDigits b [] = n % 1
    rw [Nat.mod_one]
    rfl
  | succ k ih =>
    rw [toDigits_succ, ofDigits_append_digit, ih,
      show Nat.pow b (k + 1) = b * Nat.pow b k from Nat.mul_comm _ _, Nat.mod_mul]
    rw [Nat.mul_comm]
    omega

/-- Digits below the base are the last digits of the number they stand for. -/
theorem toDigits_ofDigits {ds : List Nat} (h : ∀ d ∈ ds, d < b) :
    toDigits b ds.length (ofDigits b ds) = ds := by
  induction ds using List.reverseRecOn with
  | nil => rfl
  | append_singleton ds d ih =>
    have hd : d < b := h d (by simp)
    have hdiv : (ofDigits b ds * b + d) / b = ofDigits b ds := by
      rw [Nat.mul_comm, Nat.mul_add_div (by omega), Nat.div_eq_of_lt hd, Nat.add_zero]
    rw [List.length_append, List.length_singleton, toDigits_succ, ofDigits_append_digit, hdiv,
      ih fun x hx => h x (by simp [hx]), Nat.mul_add_mod_self_right, Nat.mod_eq_of_lt hd]

end BrowserSessions.Positional
