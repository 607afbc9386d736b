import BrowserSessions.Text.Utf8

/-!
# ASCII text, searching and replacing in byte strings

Byte-list facts that the proofs about addresses rest on:

* the UTF-8 bytes of appended text, and ASCII bytes read as text and written back unchanged
  (`ofString_toStringLossy_of_ascii`), so text built from ASCII pieces can be taken apart byte
  by byte;
* where `splitOnce`, `idxOf?`, `lastIdxOf?` and `containsBytes` land on an appended byte string;
* `replaceAll` on a template with one occurrence of a pattern whose first byte appears nowhere
  else (`replaceAll_of_single`).
-/

namespace BrowserSessions.Bytes

/-! ## Text and its bytes -/

@[simp] theorem ofString_append (s t : String) : ofString (s ++ t) = ofString s ++ ofString t := by
  simp [ofString]

theorem ofString_eq_nil_iff {s : String} : ofString s = [] ↔ s = "" := by
  constructor
  · intro h
    have hsize : s.toByteArray.size = 0 := by
      simp [ofString] at h
      simp [ByteArray.size, h]
    exact String.utf8ByteSize_eq_zero_iff.mp hsize
  · rintro rfl
    rfl

theorem ofString_ofList (cs : List Char) :
    ofString (String.ofList cs) = cs.flatMap String.utf8EncodeChar := by
  simp [ofString, String.toByteArray_ofList, List.utf8Encode]

theorem toNat_ofNat_of_lt {n : Nat} (h : n < 0x80) : (Char.ofNat n).toNat = n := by
  have hv : n.isValidChar := Or.inl (by omega)
  show (if hv' : n.isValidChar then Char.ofNatAux n hv' else '\x00').toNat = n
  rw [dif_pos hv]
  rfl

/-- An ASCII byte is one character, encoded as itself. -/
theorem utf8EncodeChar_ofNat {b : UInt8} (h : b < 0x80) :
    String.utf8EncodeChar (Char.ofNat b.toNat) = [b] := by
  have hb : b.toNat < 0x80 := by simpa [UInt8.lt_iff_toNat_lt] using h
  simp only [String.utf8EncodeChar, Char.toNat_val, toNat_ofNat_of_lt hb]
  simp [show b.toNat ≤ 127 by omega]

theorem readChar_of_lt {b : UInt8} (h : b < 0x80) (rest : Bytes) :
    readChar (b :: rest) = some (Char.ofNat b.toNat, 1) := by
  simp [readChar, h]

/-- ASCII bytes read as one character each. -/
theorem decodeChars_of_ascii {bs : Bytes} (h : ∀ b ∈ bs, b < 0x80) :
    decodeChars bs = bs.map fun b => Char.ofNat b.toNat := by
  induction bs with
  | nil => simp
  | cons b rest ih =>
    have hb : b < 0x80 := h b (by simp)
    rw [decodeChars, readChar_of_lt hb]
    simp [ih fun x hx => h x (by simp [hx])]

theorem toList_toStringLossy_of_ascii {bs : Bytes} (h : ∀ b ∈ bs, b < 0x80) :
    (toStringLossy bs).toList = bs.map fun b => Char.ofNat b.toNat := by
  simp [toStringLossy, decodeChars_of_ascii h]

/-- ASCII bytes read as text and written back are the same bytes. -/
theorem ofString_toStringLossy_of_ascii {bs : Bytes} (h : ∀ b ∈ bs, b < 0x80) :
    ofString (toStringLossy bs) = bs := by
  rw [toStringLossy, ofString_ofList, decodeChars_of_ascii h, List.flatMap_map]
  induction bs with
  | nil => rfl
  | cons b rest ih =>
    rw [List.flatMap_cons, utf8EncodeChar_ofNat (h b (by simp)),
      ih fun x hx => h x (by simp [hx])]
    rfl

/-! ## Searching an appended byte string -/

section Search

variable {xs ys : Bytes} {b : UInt8}

theorem idxOf?_append_cons (h : b ∉ xs) : (xs ++ b :: ys).idxOf? b = some xs.length := by
  induction xs with
  | nil => simp [List.idxOf?, List.findIdx?_cons]
  | cons x xs ih =>
    have hx : x ≠ b := fun e => h (by simp [e])
    have ih := ih fun hm => h (by simp [hm])
    simp_all [List.idxOf?, List.findIdx?_cons]

theorem splitOnce_append_cons (h : b ∉ xs) : splitOnce (xs ++ b :: ys) b = (xs, some ys) := by
  simp [splitOnce, idxOf?_append_cons h]

theorem splitOnce_of_not_mem (h : b ∉ xs) : splitOnce xs b = (xs, none) := by
  simp [splitOnce, List.idxOf?_eq_none_iff.2 h]

theorem lastIdxOf?_of_not_mem (h : b ∉ xs) : lastIdxOf? xs b = none := by
  simp [lastIdxOf?, h]

/-- A byte string contains every one of its infixes. -/
theorem containsBytes_infix (xs sub ys : Bytes) : containsBytes (xs ++ sub ++ ys) sub = true := by
  induction xs with
  | nil =>
    cases hs : sub ++ ys with
    | nil => simp_all [containsBytes]
    | cons c rest =>
      rw [List.nil_append, hs, containsBytes, ← hs]
      simp [List.isPrefixOf_iff_prefix]
  | cons x xs ih =>
    simp only [List.append_assoc] at ih ⊢
    simp [containsBytes, ih]

/-- What a byte string contains is one of its infixes. -/
theorem infix_of_containsBytes {bs sub : Bytes} (h : containsBytes bs sub = true) : sub <:+: bs := by
  induction bs with
  | nil =>
    have hsub : sub = [] := by simpa [containsBytes] using h
    exact hsub ▸ List.infix_refl _
  | cons b rest ih =>
    rcases Bool.or_eq_true_iff.mp h with hpre | hrest
    · exact (List.isPrefixOf_iff_prefix.mp hpre).isInfix
    · exact (ih hrest).trans (List.infix_cons (List.infix_refl _))

end Search

/-! ## Replacing one occurrence -/

section Replace

variable {p : UInt8} {ps rep : Bytes}

/-- After a replaced occurrence, its remaining bytes are passed over. -/
theorem replaceAllFrom_skip (xs ys : Bytes) :
    replaceAllFrom (p :: ps) rep xs.length (xs ++ ys) = replaceAllFrom (p :: ps) rep 0 ys := by
  induction xs with
  | nil => rfl
  | cons x xs ih => simp [replaceAllFrom, ih]

/-- Bytes before the first byte of the pattern are kept. -/
theorem replaceAllFrom_of_not_mem {xs : Bytes} (h : p ∉ xs) (ys : Bytes) :
    replaceAllFrom (p :: ps) rep 0 (xs ++ ys) = xs ++ replaceAllFrom (p :: ps) rep 0 ys := by
  induction xs with
  | nil => rfl
  | cons x xs ih =>
    have hx : p ≠ x := fun e => h (by simp [e])
    simp [replaceAllFrom, hx, ih fun hm => h (by simp [hm])]

/-- The one occurrence of a pattern whose first byte stands nowhere else is replaced. -/
theorem replaceAll_of_single {pre post : Bytes} (hpre : p ∉ pre) (hpost : p ∉ post) :
    replaceAll (pre ++ (p :: ps) ++ post) (p :: ps) rep = pre ++ rep ++ post := by
  have hpat : (p :: ps).isPrefixOf (p :: (ps ++ post)) = true := by
    simp [List.isPrefixOf_iff_prefix]
  rw [replaceAll, List.append_assoc, replaceAllFrom_of_not_mem hpre, List.cons_append,
    replaceAllFrom, if_pos hpat, List.length_cons, Nat.add_sub_cancel, replaceAllFrom_skip,
    ← List.append_nil post, replaceAllFrom_of_not_mem hpost]
  simp [replaceAllFrom]

end Replace

end BrowserSessions.Bytes
