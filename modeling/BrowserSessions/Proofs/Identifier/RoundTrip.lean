import BrowserSessions.Identifier
import BrowserSessions.Proofs.Text.Bytes
import BrowserSessions.Proofs.Text.Positional

/-!
# Identifiers read back

A ULID is sixteen bytes: a 48-bit millisecond timestamp, then 80 bits of entropy. Its written
form takes the 128 bits five at a time from the top, as 26 characters of Crockford's base 32;
reading packs the 26 digits back into bytes by shifts that straddle byte boundaries and cut to
eight bits. The two agree:

1. `assemble_toDigits`: packing the base-32 digits of any number gives its last sixteen bytes;
2. `parse_render`: a well-formed ULID written out reads back as itself;
3. `prefixed_identifier_round_trip`: behind any prefix and `_` (the prefix may hold `_` itself)
   the written form is valid for that prefix, and both it and the prefixed identifier give back
   the timestamp the ULID was made with. The written form never holds `_`, so the text after
   the last `_` is the ULID.
-/

namespace BrowserSessions.Ulid

open Positional

theorem Value.toNat_eq_ofDigits (v : Value) : v.toNat = ofDigits 256 v.bytes := rfl

/-! ## Packing five-bit digits into bytes -/

/-- An or with a number below the shift is a sum. -/
theorem shl_or_of_lt {a b k : Nat} (h : b < Nat.pow 2 k) : a <<< k ||| b = a <<< k + b :=
  (Nat.shiftLeft_add_eq_or_of_lt h a).symm

theorem pack_5 (a : Nat) {b : Nat} (hb : b < 32) : a <<< 5 ||| b = a * 32 + b := by
  rw [shl_or_of_lt (k := 5) hb, Nat.shiftLeft_eq]

/-- A byte that ends with the top bits of a five-bit digit. -/
theorem pack_shr (a : Nat) {b k j : Nat} (hkj : k + j = 5) (hb : b < 32) :
    a <<< k ||| b >>> j = a * Nat.pow 2 k + b / Nat.pow 2 j := by
  have hlt : b >>> j < Nat.pow 2 k := by
    rw [Nat.shiftRight_eq_div_pow]
    apply Nat.div_lt_of_lt_mul
    calc b < Nat.pow 2 (k + j) := by rw [hkj]; exact hb
      _ = Nat.pow 2 j * Nat.pow 2 k := by rw [Nat.add_comm]; exact Nat.pow_add 2 j k
  rw [shl_or_of_lt hlt]
  simp only [Nat.shiftLeft_eq, Nat.shiftRight_eq_div_pow, ← Nat.pow_eq]

/-- A byte that holds a whole five-bit digit between the low bits of one digit and the top bits
    of the next. -/
theorem pack_shl_shr (a : Nat) {b c k j i : Nat} (hk : k = j + 5) (hji : j + i = 5) (hb : b < 32)
    (hc : c < 32) :
    a <<< k ||| b <<< j ||| c >>> i = a * Nat.pow 2 k + b * Nat.pow 2 j + c / Nat.pow 2 i := by
  subst hk
  have hpow : Nat.pow 2 (j + 5) = Nat.pow 2 j * 32 := Nat.pow_add 2 j 5
  -- the first two digits pack into one number, shifted as a whole
  have hinner : a <<< (j + 5) ||| b <<< j = (a * 32 + b) <<< j := by
    have hlt : b <<< j < Nat.pow 2 (j + 5) := by
      rw [Nat.shiftLeft_eq, ← Nat.pow_eq, hpow, Nat.mul_comm b]
      exact Nat.mul_lt_mul_of_pos_left hb (Nat.two_pow_pos j)
    rw [shl_or_of_lt hlt]
    simp only [Nat.shiftLeft_eq, ← Nat.pow_eq]
    rw [hpow, Nat.add_mul, ← Nat.mul_assoc, Nat.mul_right_comm a]
  rw [hinner, pack_shr _ hji hc, hpow, Nat.add_mul, ← Nat.mul_assoc, Nat.mul_right_comm a]

theorem getD_toDigits_lt (n i : Nat) : (toDigits 32 26 n).getD i 0 < 32 := by
  rw [List.getD_eq_getElem?_getD]
  cases h : (toDigits 32 26 n)[i]? with
  | none => simp
  | some d => exact lt_of_mem_toDigits (by omega) (List.mem_of_getElem? h)

/-- Packing the 26 base-32 digits of a number gives its last sixteen bytes. -/
theorem assemble_toDigits (n : Nat) : assemble (toDigits 32 26 n) = toDigits 256 16 n := by
  -- each byte is one of five packings; as sums they are statements about `n` that omega proves
  simp (disch := first | exact getD_toDigits_lt _ _ | rfl) only [assemble, pack_5, pack_shr,
    pack_shl_shr]
  simp [toDigits, List.range_succ, low8]
  and_intros <;> omega

/-! ## The written form -/

/-- The character of a digit. -/
def symbol (d : Nat) : Char := alphabet.getD d '0'

theorem symbol_table : ∀ d < 32,
    String.utf8EncodeChar (symbol d) = [(symbol d).toNat.toUInt8] ∧
      decodeByte (symbol d).toNat.toUInt8 = d ∧ symbol d ≠ '_' := by
  decide

theorem symbol_le_seven : ∀ d < 8, (symbol d).toNat.toUInt8 ≤ 0x37 := by
  decide

theorem render_eq (v : Value) : v.render = String.ofList ((toDigits 32 26 v.toNat).map symbol) := by
  simp only [Value.render, toDigits, List.map_map]
  rfl

theorem flatMap_symbol {ds : List Nat} (h : ∀ d ∈ ds, d < 32) :
    ds.flatMap (fun d => String.utf8EncodeChar (symbol d)) =
      ds.map fun d => (symbol d).toNat.toUInt8 := by
  induction ds with
  | nil => rfl
  | cons d ds ih =>
    rw [List.flatMap_cons, (symbol_table d (h d (by simp))).1, ih fun x hx => h x (by simp [hx])]
    rfl

/-- The bytes of the written form: one ASCII byte per digit. -/
theorem ofString_render (v : Value) :
    Bytes.ofString v.render = (toDigits 32 26 v.toNat).map fun d => (symbol d).toNat.toUInt8 := by
  rw [render_eq, Bytes.ofString_ofList, List.flatMap_map]
  exact flatMap_symbol fun _ => lt_of_mem_toDigits (by omega)

/-- Reading the bytes of the symbols gives back the digits. -/
theorem decode_symbols (n : Nat) :
    ((toDigits 32 26 n).map fun d => (symbol d).toNat.toUInt8).map decodeByte = toDigits 32 26 n := by
  rw [List.map_map]
  conv => rhs; rw [← List.map_id (toDigits 32 26 n)]
  exact List.map_congr_left fun d hd => (symbol_table d (lt_of_mem_toDigits (by omega) hd)).2.1

/-- The written form never holds `_`. -/
theorem underscore_not_mem_render (v : Value) : '_' ∉ v.render.toList := by
  rw [render_eq, String.toList_ofList]
  intro hmem
  obtain ⟨d, hd, hsym⟩ := List.mem_map.mp hmem
  exact (symbol_table d (lt_of_mem_toDigits (by omega) hd)).2.2 hsym

/-! ## Reading the written form back -/

/-- Sixteen bytes: the 48-bit timestamp and 80 bits of entropy. -/
def Value.WellFormed (v : Value) : Prop := v.bytes.length = 16 ∧ ∀ b ∈ v.bytes, b < 256

/-- A text of 26 bytes that starts with a byte no greater than `7` reads as the packing of its
    decoded bytes. -/
theorem parse_of_bytes {s : String} {bs : Bytes} (hs : Bytes.ofString s = bs)
    (hlen : bs.length = 26) (hhead : ∀ b ∈ bs.head?, b ≤ 0x37) :
    parse s = .ok ⟨assemble (bs.map decodeByte)⟩ := by
  cases bs with
  | nil => simp at hlen
  | cons b0 rest =>
    have hover : ¬ b0 > 0x37 := by simpa using hhead b0 rfl
    simp only [List.length_cons] at hlen
    simp [parse, hs, hlen, hover]

/-- A well-formed ULID written out reads back as itself. -/
theorem parse_render {v : Value} (h : v.WellFormed) : parse v.render = .ok v := by
  obtain ⟨hlen, hbytes⟩ := h
  have hlt : v.toNat < Nat.pow 256 16 := hlen ▸ ofDigits_lt hbytes
  -- the first character carries the top three of the 128 bits
  have htop : v.toNat / Nat.pow 32 25 % 32 < 8 := by
    simp only [Nat.pow_eq] at hlt ⊢
    omega
  have hhead : ∀ b ∈ ((toDigits 32 26 v.toNat).map fun d => (symbol d).toNat.toUInt8).head?,
      b ≤ 0x37 := by
    intro b hb
    rw [toDigits, List.range_succ, List.reverse_append] at hb
    simp only [List.reverse_cons, List.reverse_nil, List.nil_append, List.singleton_append,
      List.map_cons, List.head?_cons, Option.mem_def, Option.some.injEq] at hb
    exact hb ▸ symbol_le_seven _ htop
  rw [parse_of_bytes (ofString_render v) (by simp) hhead, decode_symbols,
    assemble_toDigits, ← hlen, Value.toNat_eq_ofDigits, toDigits_ofDigits hbytes]

/-- A timestamp and ten bytes of entropy make a well-formed ULID. -/
theorem Value.make_wellFormed (ms : Nat) {entropy : List Nat} (hlen : entropy.length = 10)
    (hbytes : ∀ b ∈ entropy, b < 256) :
    (Value.make ms entropy).WellFormed := by
  refine ⟨by simp [Value.make, hlen], fun b hb => ?_⟩
  simp only [Value.make, List.mem_append, List.mem_map] at hb
  rcases hb with ⟨j, -, rfl⟩ | hb
  · exact Nat.mod_lt _ (by omega)
  · exact hbytes b (List.mem_of_mem_take hb)

/-- The timestamp of a made ULID is the one it was made with. -/
theorem Value.time_make {ms : Nat} (entropy : List Nat) (hms : ms < Nat.pow 2 48) :
    (Value.make ms entropy).time = ms := by
  have hfirst : (Value.make ms entropy).bytes.take 6 = toDigits 256 6 ms := by
    simp [Value.make, toDigits]
  have hcut : ms % Nat.pow 256 6 = ms := Nat.mod_eq_of_lt hms
  rw [Value.time, hfirst]
  exact (ofDigits_toDigits 256 6 ms).trans hcut

end BrowserSessions.Ulid

namespace BrowserSessions.Identifier

open Ulid

/-! ## The text after the last `_` -/

theorem ne_underscore_of_not_mem {cs : List Char} (h : '_' ∉ cs) :
    ∀ c ∈ cs.reverse, (c != '_') = true := by
  intro c hc
  simpa using fun heq : c = '_' => h (heq ▸ List.mem_reverse.mp hc)

theorem afterLastUnderscore_of_not_mem {s : String} (h : '_' ∉ s.toList) :
    afterLastUnderscore s = s := by
  rw [afterLastUnderscore, ← List.append_nil s.toList.reverse,
    List.takeWhile_append_of_pos (ne_underscore_of_not_mem h)]
  simp

theorem afterLastUnderscore_prefixed (p : String) {r : String} (h : '_' ∉ r.toList) :
    afterLastUnderscore (p ++ "_" ++ r) = r := by
  -- read from the end, the text is the reversed ULID, then `_`, then the reversed prefix
  have hrev : (p ++ "_" ++ r).toList.reverse = r.toList.reverse ++ '_' :: p.toList.reverse := by
    simp
  rw [afterLastUnderscore, hrev, List.takeWhile_append_of_pos (ne_underscore_of_not_mem h)]
  simp

/-! ## Prefixed identifiers -/

theorem isValidPrefixed_prefixed (p r : String) :
    isValidPrefixed p (p ++ "_" ++ r) = isValid r := by
  have hstarts : (p ++ "_" ++ r).startsWith (p ++ "_") = true := by
    simp [String.startsWith_string_iff]
  have hrest : (p ++ "_" ++ r).toList.drop (p ++ "_").length = r.toList := by
    simp [← String.length_toList]
  simp only [isValidPrefixed, hstarts, hrest, String.ofList_toList, Bool.true_and]

theorem timestamp_of_parse {s : String} {v : Value} (h : '_' ∉ s.toList) (hv : parse s = .ok v) :
    timestamp s = .ok v.time := by
  simp [timestamp, afterLastUnderscore_of_not_mem h, hv]

theorem timestamp_prefixed (p : String) {r : String} {v : Value} (h : '_' ∉ r.toList)
    (hv : parse r = .ok v) : timestamp (p ++ "_" ++ r) = .ok v.time := by
  simp [timestamp, afterLastUnderscore_prefixed p h, hv]

/-- Every ULID, made from any 48-bit millisecond timestamp and 80 bits of entropy, is valid
written out, and behind any prefix and `_` (the prefix may itself hold `_`) it is valid for that
prefix; both forms give back the timestamp it was made with. -/
theorem prefixed_identifier_round_trip (p : String) {ms : Nat} {entropy : List Nat}
    (hms : ms < Nat.pow 2 48) (hlen : entropy.length = 10) (hbytes : ∀ b ∈ entropy, b < 256) :
    let u := Value.make ms entropy
    isValid u.render ∧ isValidPrefixed p (withPrefix p u) ∧
      timestamp (withPrefix p u) = .ok ms ∧ timestamp u.render = .ok ms := by
  intro u
  have hparse : parse u.render = .ok u := parse_render (Value.make_wellFormed ms hlen hbytes)
  have hvalid : isValid u.render = true := by simp [isValid, hparse]
  have htime : u.time = ms := Value.time_make entropy hms
  refine ⟨hvalid, ?_, ?_, ?_⟩
  · rw [withPrefix, isValidPrefixed_prefixed, hvalid]
  · rw [withPrefix, timestamp_prefixed p (underscore_not_mem_render u) hparse, htime]
  · rw [timestamp_of_parse (underscore_not_mem_render u) hparse, htime]

/-- The ULID of the specification's example, made at 1469922850259 ms, behind a prefix that holds
`_` itself. -/
theorem round_trip_behind_underscored_prefix :
    (1469922850259 < Nat.pow 2 48 ∧ [0xCE, 0x5C, 0xF0, 0x4A, 0xB5, 0x2B, 0x31, 0xCC, 0x2F, 0x75].length = 10 ∧
        ∀ b ∈ [0xCE, 0x5C, 0xF0, 0x4A, 0xB5, 0x2B, 0x31, 0xCC, 0x2F, 0x75], b < 256) ∧
      let u := Value.make 1469922850259 [0xCE, 0x5C, 0xF0, 0x4A, 0xB5, 0x2B, 0x31, 0xCC, 0x2F, 0x75]
      isValid u.render ∧ isValidPrefixed "sess_tab" (withPrefix "sess_tab" u) ∧
        timestamp (withPrefix "sess_tab" u) = .ok 1469922850259 ∧
        timestamp u.render = .ok 1469922850259 :=
  ⟨⟨by decide, rfl, by decide⟩, prefixed_identifier_round_trip "sess_tab" (by decide) rfl (by decide)⟩

end BrowserSessions.Identifier
