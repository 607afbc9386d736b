import BrowserSessions.Url.Query

/-!
# Escaping a query value and reading it back

`queryEscape` writes only letters, digits, `- _ . ~`, `+` and `%` (`queryEscape_safe`). Such a
byte is printable ASCII and none of the bytes that end or split a part of an address or a query
(`#`, `?`, `&`, `;`, `=`), nor `{`, which opens a template's placeholder; so an escaped value can
stand anywhere in a query without changing how the query splits. Reading it back gives the value
unchanged, whatever bytes it had (`queryUnescape_queryEscape`).

A part made of bytes that are not `%` or `+`, and that a host does not refuse when the part is a
host, reads as itself (`unescape_of_readsAsItself`).
-/

namespace BrowserSessions.Url

/-- A property checked on the numbers below 256 holds of every byte. -/
theorem forall_byte {P : UInt8 → Prop} (h : ∀ n, n < 256 → P n.toUInt8) (b : UInt8) : P b := by
  simpa using h b.toNat (UInt8.toNat_lt_size b)

/-! ## Byte classes -/

/-- The bytes an escaped query value is made of. -/
def isQuerySafe (b : UInt8) : Bool :=
  isAlnum b || b == byte '-' || b == byte '_' || b == byte '.' || b == byte '~' ||
    b == byte '+' || b == byte '%'

/-- Printable ASCII: no control byte and nothing above `~`. -/
def isPrintable (b : UInt8) : Bool := 0x20 ≤ b && b < 0x7F

/-- The bytes that end or split a part of an address (`#`, `?`) or a query (`&`, `;`, `=`), and
    `{`, which opens a template's placeholder. -/
def delimiters : List UInt8 := [byte '#', byte '?', byte '&', byte ';', byte '=', byte '\x7b']

/-- Whether a byte reads as itself in a part: not `%` or `+`, and in a host or a zone not a byte
    the host refuses unescaped. -/
def readsAsItself (mode : Component) (b : UInt8) : Bool :=
  b != byte '%' && b != byte '+' &&
    !((mode == .host || mode == .zone) && b < 0x80 && shouldEscape b mode)

theorem isQuerySafe_of_shouldEscape_eq_false {b : UInt8}
    (h : shouldEscape b .queryComponent = false) : isQuerySafe b = true := by
  revert h
  refine forall_byte (P := fun b => shouldEscape b .queryComponent = false → isQuerySafe b = true)
    ?_ b
  decide +kernel

theorem isQuerySafe_upperHex {n : Nat} (h : n < 16) : isQuerySafe (upperHex n) = true := by
  have hall : ∀ m ∈ List.range 16, isQuerySafe (upperHex m) = true := by decide
  exact hall n (List.mem_range.mpr h)

/-- An escaped byte is printable and no delimiter. -/
theorem isPrintable_of_isQuerySafe {b : UInt8} (h : isQuerySafe b = true) :
    isPrintable b = true ∧ b ∉ delimiters := by
  revert h
  refine forall_byte (P := fun b => isQuerySafe b = true → isPrintable b = true ∧ b ∉ delimiters)
    ?_ b
  decide +kernel

/-! ## Escaping -/

theorem queryEscape_cons (b : UInt8) (rest : Bytes) :
    queryEscape (b :: rest) =
      if b == byte ' ' then byte '+' :: queryEscape rest
      else if shouldEscape b .queryComponent then
        byte '%' :: upperHex (b.toNat / 16) :: upperHex (b.toNat % 16) :: queryEscape rest
      else b :: queryEscape rest := by
  simp [queryEscape, escape]

/-- Escaping a query value writes only letters, digits, `- _ . ~`, `+` and `%`. -/
theorem queryEscape_safe (bs : Bytes) : ∀ b ∈ queryEscape bs, isQuerySafe b = true := by
  induction bs with
  | nil => simp [queryEscape, escape]
  | cons b rest ih =>
    have hhi : b.toNat / 16 < 16 := by have : b.toNat < 256 := UInt8.toNat_lt_size b; omega
    have hlo : b.toNat % 16 < 16 := Nat.mod_lt _ (by omega)
    rw [queryEscape_cons]
    split
    · simpa using ⟨by decide, ih⟩
    · split
      · simpa [isQuerySafe_upperHex hhi, isQuerySafe_upperHex hlo] using ⟨by decide, ih⟩
      · rename_i hesc
        simpa [isQuerySafe_of_shouldEscape_eq_false (by simpa using hesc)] using ih

/-- An escaped value has no delimiter. -/
theorem not_mem_queryEscape {d : UInt8} (hd : d ∈ delimiters) (bs : Bytes) :
    d ∉ queryEscape bs := fun hm =>
  (isPrintable_of_isQuerySafe (queryEscape_safe bs d hm)).2 hd

/-- An escaped value is printable ASCII. -/
theorem isPrintable_of_mem_queryEscape {b : UInt8} {bs : Bytes} (hm : b ∈ queryEscape bs) :
    isPrintable b = true :=
  (isPrintable_of_isQuerySafe (queryEscape_safe bs b hm)).1

/-! ## Reading escapes -/

/-- Away from a `%`, reading a part takes one byte at a time. -/
theorem unescape_cons_of_ne {mode : Component} {b : UInt8} (h : b ≠ byte '%') (rest : Bytes) :
    unescape mode (b :: rest) =
      if b == byte '+' then
        (unescape mode rest).map ((if mode == .queryComponent then byte ' ' else b) :: ·)
      else if (mode == .host || mode == .zone) && b < 0x80 && shouldEscape b mode then
        .error (.badHostByte b)
      else (unescape mode rest).map (b :: ·) := by
  rcases rest with _ | ⟨h1, _ | ⟨h2, rest'⟩⟩ <;> simp [unescape, h]

/-- A byte that reads as itself is kept. -/
theorem unescape_cons_of_readsAsItself {mode : Component} {b : UInt8}
    (h : readsAsItself mode b = true) (rest : Bytes) :
    unescape mode (b :: rest) = (unescape mode rest).map (b :: ·) := by
  simp only [readsAsItself, Bool.and_eq_true, bne_iff_ne, ne_eq, Bool.not_eq_true'] at h
  obtain ⟨⟨hpct, hplus⟩, hhost⟩ := h
  simp [unescape_cons_of_ne hpct, hplus, hhost]

/-- A part whose every byte reads as itself is read unchanged. -/
theorem unescape_of_readsAsItself {mode : Component} {bs : Bytes}
    (h : ∀ b ∈ bs, readsAsItself mode b = true) : unescape mode bs = .ok bs := by
  induction bs with
  | nil => rfl
  | cons b rest ih =>
    rw [unescape_cons_of_readsAsItself (h b (by simp)), ih fun x hx => h x (by simp [hx])]
    rfl

/-- In a query value `+` reads as a space. -/
theorem unescape_plus (rest : Bytes) :
    unescape .queryComponent (byte '+' :: rest) =
      (unescape .queryComponent rest).map (byte ' ' :: ·) := by
  rw [unescape_cons_of_ne (by decide)]
  simp

/-- A `%` escape written by `escape` reads back as its byte. -/
theorem unescape_percent (b : UInt8) (rest : Bytes) :
    unescape .queryComponent
        (byte '%' :: upperHex (b.toNat / 16) :: upperHex (b.toNat % 16) :: rest) =
      (unescape .queryComponent rest).map (b :: ·) := by
  have hhi : b.toNat / 16 < 16 := by have : b.toNat < 256 := UInt8.toNat_lt_size b; omega
  have hlo : b.toNat % 16 < 16 := Nat.mod_lt _ (by omega)
  have hv : (b.toNat / 16 * 16 + b.toNat % 16).toUInt8 = b := by
    rw [show b.toNat / 16 * 16 + b.toNat % 16 = b.toNat by omega]
    simp
  simp [unescape, hexDigit?_upperHex hhi, hexDigit?_upperHex hlo, hv]

/-- A byte a query value keeps as it is reads as itself: it is neither `%` nor `+`. -/
theorem readsAsItself_of_shouldEscape_eq_false {b : UInt8}
    (h : shouldEscape b .queryComponent = false) : readsAsItself .queryComponent b = true := by
  revert h
  refine forall_byte
    (P := fun b => shouldEscape b .queryComponent = false → readsAsItself .queryComponent b = true)
    ?_ b
  decide +kernel

/-- Reading an escaped query value gives the value back, whatever its bytes. -/
theorem queryUnescape_queryEscape (bs : Bytes) : queryUnescape (queryEscape bs) = .ok bs := by
  induction bs with
  | nil => rfl
  | cons b rest ih =>
    rw [queryUnescape] at ih ⊢
    rw [queryEscape_cons]
    split
    · rename_i hsp
      rw [unescape_plus, ih, show b = byte ' ' by simpa using hsp]
      rfl
    · split
      · rw [unescape_percent, ih]
        rfl
      · rename_i hesc
        have hkeep := readsAsItself_of_shouldEscape_eq_false (by simpa using hesc)
        rw [unescape_cons_of_readsAsItself hkeep, ih]
        rfl

end BrowserSessions.Url
