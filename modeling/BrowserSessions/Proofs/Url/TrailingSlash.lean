import BrowserSessions.Proofs.Text.Bytes
import BrowserSessions.Proofs.Registry.Quiet
import Mathlib.Tactic.SplitIfs

/-!
# Addresses that differ by a trailing slash

`Url.matchExceptTrailingSlash` decides by the byte lengths of the two addresses first: texts of
one length are compared up to case, and a text one byte longer than the other must end in `/`
and be the other up to case before it. Case is simple Unicode folding, which relates characters
of different UTF-8 lengths (`ſ` and `s`, the Kelvin sign and `k`), so two texts equal up to case
but of different byte lengths never match.

`SameUpToSlash` says this in terms of texts: the two have one byte length and are equal up to
case, or one is a text of the other's byte length followed by `/`, that text being equal to the
other up to case. The match holds exactly then (`matchExceptTrailingSlash_iff`); it is symmetric
(`matchExceptTrailingSlash_comm`); and re-addressing a session publishes nothing exactly when
the new address is the internal error page or is the same as the old one up to a slash
(`updateUrl_of_sameUpToSlash`). Main statement: `trailing_slash_match_by_byte_length`.

What decides that a text ends in `/`: the last byte of a character's UTF-8 bytes is `/` only for
`/` itself, since the bytes after the first of a longer character are at least `0x80`.
-/

namespace BrowserSessions

namespace Text

/-- Equality up to simple case folding does not depend on the order of the texts. -/
theorem equalFoldChars_comm (as bs : List Char) : equalFoldChars as bs = equalFoldChars bs as := by
  induction as generalizing bs with
  | nil => cases bs <;> rfl
  | cons a as ih =>
    cases bs with
    | nil => rfl
    | cons b bs => simp [equalFoldChars, ih bs, BEq.comm]

/-- Two texts are equal up to case: their bytes read as the same characters up to simple case
folding. -/
def equalFold (a b : String) : Bool :=
  equalFoldChars (Bytes.decodeChars (Bytes.ofString a)) (Bytes.decodeChars (Bytes.ofString b))

theorem equalFold_comm (a b : String) : equalFold a b = equalFold b a :=
  equalFoldChars_comm _ _

end Text

namespace Bytes

@[simp] theorem length_ofString (s : String) : (ofString s).length = s.utf8ByteSize := by
  simp [ofString]

@[simp] theorem utf8ByteSize_slash : "/".utf8ByteSize = 1 := rfl

/-- A byte after the first of a character longer than one byte is at least `0x80`. -/
theorem le_continuation (x : UInt8) : 0x80 ≤ (x &&& 0x3f ||| 0x80) := by
  rw [UInt8.le_iff_toNat_le, UInt8.toNat_or]
  exact Nat.right_le_or

/-- Only `/` has a UTF-8 form that ends in the byte of `/`. -/
theorem eq_slash_of_getLast?_utf8EncodeChar {c : Char}
    (h : (String.utf8EncodeChar c).getLast? = some (Url.byte '/')) : c = '/' := by
  have hslash : Url.byte '/' = 0x2F := rfl
  rw [hslash] at h
  have hsize := c.utf8Size_pos
  have hle := c.utf8Size_le_four
  rcases (show c.utf8Size = 1 ∨ c.utf8Size = 2 ∨ c.utf8Size = 3 ∨ c.utf8Size = 4 by omega)
    with h1 | h2 | h3 | h4
  · -- a one-byte character is its own code
    rw [String.utf8EncodeChar_eq_singleton h1] at h
    have hlt : c.toNat ≤ 127 := by
      simpa [Char.utf8Size_eq_one_iff, UInt32.le_iff_toNat_le] using h1
    simp only [List.getLast?_singleton, Option.some.injEq] at h
    have hn : c.toNat = 47 := by
      have := congrArg UInt8.toNat h
      rw [UInt32.toNat_toUInt8, Char.toNat_val] at this
      simp only [UInt8.toNat_ofNat] at this
      omega
    rw [← Char.ofNat_toNat c, hn]
  · rw [String.utf8EncodeChar_eq_cons_cons h2] at h
    simp only [List.getLast?_cons_cons, List.getLast?_singleton, Option.some.injEq] at h
    exact absurd (h ▸ le_continuation _) (by decide)
  · rw [String.utf8EncodeChar_eq_cons_cons_cons h3] at h
    simp only [List.getLast?_cons_cons, List.getLast?_singleton, Option.some.injEq] at h
    exact absurd (h ▸ le_continuation _) (by decide)
  · rw [String.utf8EncodeChar_eq_cons_cons_cons_cons h4] at h
    simp only [List.getLast?_cons_cons, List.getLast?_singleton, Option.some.injEq] at h
    exact absurd (h ▸ le_continuation _) (by decide)

@[simp] theorem ofString_slash : ofString "/" = [Url.byte '/'] := rfl

/-- A text's bytes end in `/` exactly when the text does. -/
theorem getLast?_ofString_eq_slash {a : String} :
    (ofString a).getLast? = some (Url.byte '/') ↔ ∃ a', a = a' ++ "/" := by
  constructor
  · intro h
    rcases List.eq_nil_or_concat a.toList with hnil | ⟨cs, c, hcs⟩
    · -- the empty text has no last byte
      rw [String.toList_eq_nil_iff.mp hnil] at h
      simp [ofString] at h
    · have ha : a = String.ofList cs ++ String.ofList [c] := by
        rw [← String.ofList_append, ← List.concat_eq_append, ← hcs, String.ofList_toList]
      rw [ha, ofString_append, ofString_ofList [c], List.getLast?_append] at h
      have hc : c = '/' := by
        apply eq_slash_of_getLast?_utf8EncodeChar
        simpa [List.getLast?_eq_none_iff, String.utf8EncodeChar_ne_nil] using h
      exact ⟨String.ofList cs, by rw [ha, hc]⟩
  · rintro ⟨a', rfl⟩
    simp

/-- Cutting a text followed by `/` at the text's byte length drops exactly the slash. -/
theorem take_ofString_append_slash (a : String) :
    (ofString (a ++ "/")).take a.utf8ByteSize = ofString a := by
  simp [ofString_append]

end Bytes

namespace Url

open Text

/-- Two addresses are the same up to case and one trailing slash, as the byte lengths decide it:
of one byte length and equal up to case, or one is a text of the other's byte length followed by
`/`, that text being equal to the other up to case. -/
def SameUpToSlash (a b : String) : Prop :=
  (a.utf8ByteSize = b.utf8ByteSize ∧ equalFold a b = true) ∨
    (∃ a', a = a' ++ "/" ∧ a'.utf8ByteSize = b.utf8ByteSize ∧ equalFold a' b = true) ∨
    (∃ b', b = b' ++ "/" ∧ b'.utf8ByteSize = a.utf8ByteSize ∧ equalFold a b' = true)

/-- The match as the byte lengths decide it. -/
theorem matchExceptTrailingSlash_eq (a b : String) :
    matchExceptTrailingSlash a b =
      if a.utf8ByteSize = b.utf8ByteSize then equalFold a b
      else if a.utf8ByteSize = b.utf8ByteSize + 1 then
        ((Bytes.ofString a).getLast? == some (byte '/') &&
          equalFoldChars (Bytes.decodeChars ((Bytes.ofString a).take b.utf8ByteSize))
            (Bytes.decodeChars (Bytes.ofString b)))
      else if b.utf8ByteSize = a.utf8ByteSize + 1 then
        ((Bytes.ofString b).getLast? == some (byte '/') &&
          equalFoldChars (Bytes.decodeChars ((Bytes.ofString b).take a.utf8ByteSize))
            (Bytes.decodeChars (Bytes.ofString a)))
      else false := by
  simp only [matchExceptTrailingSlash, Bytes.length_ofString, beq_iff_eq, equalFold]

/-- The longer of two addresses one byte apart matches when it is the shorter followed by `/`,
up to case. -/
theorem longer_matches_iff {a b : String} (hlen : a.utf8ByteSize = b.utf8ByteSize + 1) :
    ((Bytes.ofString a).getLast? == some (byte '/') &&
        equalFoldChars (Bytes.decodeChars ((Bytes.ofString a).take b.utf8ByteSize))
          (Bytes.decodeChars (Bytes.ofString b))) = true ↔
      ∃ a', a = a' ++ "/" ∧ a'.utf8ByteSize = b.utf8ByteSize ∧ equalFold a' b = true := by
  simp only [Bool.and_eq_true, beq_iff_eq, Bytes.getLast?_ofString_eq_slash]
  constructor
  · rintro ⟨⟨a', rfl⟩, hfold⟩
    have ha' : a'.utf8ByteSize = b.utf8ByteSize := by simpa using hlen
    rw [← ha', Bytes.take_ofString_append_slash] at hfold
    exact ⟨a', rfl, ha', hfold⟩
  · rintro ⟨a', rfl, ha', hfold⟩
    rw [← ha', Bytes.take_ofString_append_slash]
    exact ⟨⟨a', rfl⟩, hfold⟩

/-- Two addresses match except for a trailing slash exactly when they are the same up to case
and one slash, with the byte lengths as the code compares them. -/
theorem matchExceptTrailingSlash_iff (a b : String) :
    matchExceptTrailingSlash a b = true ↔ SameUpToSlash a b := by
  -- a text followed by `/` is one byte longer, which rules out the disjuncts of other lengths
  have hslash : ∀ x : String, (x ++ "/").utf8ByteSize = x.utf8ByteSize + 1 := by simp
  rw [matchExceptTrailingSlash_eq, SameUpToSlash]
  split_ifs with heq hlong hshort
  · constructor
    · exact fun h => .inl ⟨heq, h⟩
    · rintro (⟨-, h⟩ | ⟨a', rfl, hl, -⟩ | ⟨b', rfl, hl, -⟩)
      · exact h
      · rw [hslash] at heq
        omega
      · rw [hslash] at heq
        omega
  · rw [longer_matches_iff hlong]
    constructor
    · exact fun h => .inr (.inl h)
    · rintro (⟨h, -⟩ | h | ⟨b', rfl, hl, -⟩)
      · exact absurd h heq
      · exact h
      · rw [hslash] at hlong
        omega
  · rw [longer_matches_iff hshort]
    constructor
    · rintro ⟨b', hb', hl, hfold⟩
      exact .inr (.inr ⟨b', hb', hl, by rwa [equalFold_comm]⟩)
    · rintro (⟨h, -⟩ | ⟨a', rfl, hl, -⟩ | ⟨b', hb', hl, hfold⟩)
      · exact absurd h heq
      · rw [hslash] at hshort
        omega
      · exact ⟨b', hb', hl, by rwa [equalFold_comm]⟩
  · -- lengths two or more bytes apart: no slash makes up the difference
    simp only [false_iff]
    rintro (⟨h, -⟩ | ⟨a', rfl, hl, -⟩ | ⟨b', rfl, hl, -⟩)
    · exact heq h
    · rw [hslash] at hlong
      omega
    · rw [hslash] at hshort
      omega

theorem SameUpToSlash.symm {a b : String} (h : SameUpToSlash a b) : SameUpToSlash b a := by
  rcases h with ⟨hl, hf⟩ | ⟨a', ha, hl, hf⟩ | ⟨b', hb, hl, hf⟩
  · exact .inl ⟨hl.symm, by rwa [equalFold_comm]⟩
  · exact .inr (.inr ⟨a', ha, hl, by rwa [equalFold_comm]⟩)
  · exact .inr (.inl ⟨b', hb, hl, by rwa [equalFold_comm]⟩)

/-- Matching except for a trailing slash does not depend on the order of the addresses. -/
theorem matchExceptTrailingSlash_comm (a b : String) :
    matchExceptTrailingSlash a b = matchExceptTrailingSlash b a := by
  rw [Bool.eq_iff_iff, matchExceptTrailingSlash_iff, matchExceptTrailingSlash_iff]
  exact ⟨SameUpToSlash.symm, SameUpToSlash.symm⟩

end Url

namespace Registry

/-- Re-addressing a listed session publishes nothing when the new address is the internal error
page or the same as the old one up to case and one slash; otherwise it replaces the address and
publishes. -/
theorem updateUrl_of_sameUpToSlash {r : Registry} {id url : String} {pos : Nat}
    {s : Session} (h : r.indexOf? id = some pos) (hs : r.sessions[pos]? = some s) :
    (Url.isInternalError url = true ∨ Url.SameUpToSlash s.url url →
        r.updateUrl id url = .ok (s, r)) ∧
      (¬ (Url.isInternalError url = true ∨ Url.SameUpToSlash s.url url) →
        r.updateUrl id url = .ok ({ s with url }, r.publish (r.sessions.set pos { s with url }))) := by
  rw [updateUrl_of_indexOf?_some h hs, ← Url.matchExceptTrailingSlash_iff, ← Bool.or_eq_true]
  constructor
  · intro hquiet
    rw [if_pos hquiet]
  · intro hmoved
    rw [if_neg hmoved]

end Registry

/-- Two addresses match except for a trailing slash exactly when they have one byte length and
are equal up to simple case folding, or one is a text of the other's byte length followed by
`/` and that text is equal to the other up to case. The match is symmetric, and re-addressing a
listed session from the one address to the other publishes nothing exactly when the new address
is the internal error page or the same as the old one in this sense; otherwise it replaces the
address and publishes. -/
theorem trailing_slash_match_by_byte_length (a b : String) :
    (Url.matchExceptTrailingSlash a b = true ↔ Url.SameUpToSlash a b) ∧
      Url.matchExceptTrailingSlash a b = Url.matchExceptTrailingSlash b a ∧
      ∀ (r : Registry) (id : String) (pos : Nat) (s : Session),
        r.indexOf? id = some pos → r.sessions[pos]? = some s → s.url = a →
          (Url.isInternalError b = true ∨ Url.SameUpToSlash a b →
              r.updateUrl id b = .ok (s, r)) ∧
            (¬ (Url.isInternalError b = true ∨ Url.SameUpToSlash a b) →
              r.updateUrl id b =
                .ok ({ s with url := b }, r.publish (r.sessions.set pos { s with url := b }))) := by
  refine ⟨Url.matchExceptTrailingSlash_iff a b, Url.matchExceptTrailingSlash_comm a b, ?_⟩
  intro r id pos s h hs hurl
  subst hurl
  exact Registry.updateUrl_of_sameUpToSlash h hs

end BrowserSessions
