import BrowserSessions.Proofs.Domains.Edits
import BrowserSessions.Proofs.Text.Bytes
import Mathlib.Data.List.Nodup

/-!
# Addressing a stored domain by its text

An addition answers with the stored form of its domain, and a removal names the domains it takes
out by text. The stored form is not always a text that leads back to it: `normalize` trims and
lowercases the text before it reads the host of an address and before it drops a trailing `/`,
so white space or capitals that only come to light after those steps stay in the stored form.
`a\t/` is stored as `a\t`, whose own stored form is `a`: a removal of `a\t` then takes out
nothing, and an addition of it adds `a` (`tab_before_slash_is_stored`).

A stored form written as a text that is already trimmed and lowercase does lead back:

* a stored form passes the last test of `normalize` (`refused_of_normalize`), so it holds no `/`
  and hence no `://`;
* such a text is its own stored form (`normalize_of_stored`);
* every entry of a list the program holds is a stored form (`stored_applyAll`), listed once, so
  removing its text takes out exactly that entry and adding it is refused as a duplicate.

Main statement: `stored_domain_is_addressed_by_its_text`.
-/

namespace BrowserSessions.Domains

/-- The last test of `normalize`: a form is refused when it is empty or holds a space, `/`, `?`
    or `#`. -/
def refused (h : Bytes) : Bool :=
  h.isEmpty || h.any fun b =>
    b == Url.byte ' ' || b == Url.byte '/' || b == Url.byte '?' || b == Url.byte '#'

/-- A stored form passed the last test. -/
theorem refused_of_normalize {raw : String} {d : Bytes} (h : normalize raw = .ok d) :
    refused d = false := by
  simp only [normalize, Except.bind] at h
  split at h
  · cases h
  · rename_i host _
    -- the form tested is the host with one trailing `/` dropped
    generalize (if host.getLast? == some (Url.byte '/') then host.dropLast else host) = h' at h
    split at h
    · cases h
    · cases h
      exact eq_false_of_ne_true ‹_›

theorem slash_not_mem_of_refused {d : Bytes} (h : refused d = false) : Url.byte '/' ∉ d := by
  intro hmem
  have hany : d.any (fun b => b == Url.byte ' ' || b == Url.byte '/' || b == Url.byte '?' ||
      b == Url.byte '#') = true :=
    List.any_eq_true.mpr ⟨_, hmem, by simp⟩
  simp [refused, hany] at h

/-- A text without `/` does not read as an address. -/
theorem hasSchemeSeparator_of_slash_not_mem {s : String} (h : Url.byte '/' ∉ Bytes.ofString s) :
    hasSchemeSeparator s = false := by
  unfold hasSchemeSeparator
  cases hc : Bytes.containsBytes (Bytes.ofString s) (Bytes.ofString "://")
  · rfl
  · obtain ⟨front, back, hsplit⟩ := Bytes.infix_of_containsBytes hc
    have hsep : Url.byte '/' ∈ Bytes.ofString "://" := by decide
    exact absurd (hsplit ▸ List.mem_append_left _ (List.mem_append_right _ hsep)) h

/-- A text that is already trimmed and lowercase, and whose bytes are a stored form, is its own
    stored form. -/
theorem normalize_of_stored {raw s : String} (hd : normalize raw = .ok (Bytes.ofString s))
    (hlow : Text.lowerString (Text.trimSpace s) = s) : normalize s = .ok (Bytes.ofString s) := by
  have hcheck := refused_of_normalize hd
  have hslash := slash_not_mem_of_refused hcheck
  have hlast : ((Bytes.ofString s).getLast? == some (Url.byte '/')) = false := by
    cases hl : (Bytes.ofString s).getLast? with
    | none => rfl
    | some b =>
      have hb : b ∈ Bytes.ofString s := List.mem_of_getLast? hl
      simp only [Option.some.injEq, beq_eq_false_iff_ne, ne_eq]
      rintro rfl
      exact hslash hb
  unfold refused at hcheck
  simp only [normalize, hlow, hasSchemeSeparator_of_slash_not_mem hslash, hlast, hcheck,
    Bool.false_eq_true, if_false, Except.bind]

end BrowserSessions.Domains

namespace BrowserSessions.DomainList

open Domains

/-! ## What a list can hold -/

/-- An entry after a call was an entry before, or the stored form of the text added. -/
theorem mem_apply {d : DomainList} {e : Edit} {x : Bytes} (hx : x ∈ (d.apply e).items) :
    x ∈ d.items ∨ ∃ raw, normalize raw = .ok x := by
  cases e with
  | add raw =>
    rcases add_cases d raw with ⟨y, hy, -, hadd⟩ | ⟨-, hadd⟩ | ⟨y, -, -, hadd⟩
    · simp only [DomainList.apply, hadd, List.mem_append, List.mem_singleton] at hx
      rcases hx with hx | rfl
      · exact .inl hx
      · exact .inr ⟨raw, hy⟩
    · exact .inl (apply_add_of_error hadd ▸ hx)
    · exact .inl (apply_add_of_error hadd ▸ hx)
  | remove raws =>
    simp only [DomainList.apply, remove_eq] at hx
    exact .inl (List.mem_filter.mp hx).1
  | move src dst => exact .inl ((perm_apply_move d src dst).mem_iff.mp hx)

/-- Every entry of the list is the stored form of some text. -/
def Stored (d : DomainList) : Prop := ∀ x ∈ d.items, ∃ raw, normalize raw = .ok x

theorem stored_applyAll {d : DomainList} (h : d.Stored) (es : List Edit) :
    (d.applyAll es).Stored := by
  induction es generalizing d with
  | nil => exact h
  | cons e es ih =>
    refine ih fun x hx => ?_
    rcases mem_apply hx with hx | hraw
    · exact h x hx
    · exact hraw

theorem seeded_stored (seeds : List String) : (seeded seeds).Stored := by
  rw [seeded_eq_applyAll]
  exact stored_applyAll (fun x hx => absurd hx List.not_mem_nil) _

theorem seeded_nodup (seeds : List String) : (seeded seeds).items.Nodup := by
  rw [seeded_eq_applyAll]
  exact applyAll_nodup List.nodup_nil _

/-! ## Calls naming a listed entry -/

/-- Removing a text whose stored form is listed once takes out exactly that entry. -/
theorem remove_single {d : DomainList} (hnodup : d.items.Nodup) {s : String} {x : Bytes}
    (hs : normalize s = .ok x) (hx : x ∈ d.items) :
    d.remove [s] = (1, ⟨d.items.erase x⟩) := by
  have hasked : ∀ y, Asked [s] y ↔ y = x := by
    intro y
    simp [Asked, hs, eq_comm]
  have hfilter : d.items.filter (Asked [s] ·) = d.items.filter (· == x) := by
    congr 1
    funext y
    by_cases hy : y = x <;> simp [hasked, hy]
  have hkept : d.items.filter (¬ Asked [s] ·) = d.items.erase x := by
    rw [hnodup.erase_eq_filter]
    congr 1
    funext y
    by_cases hy : y = x <;> simp [hasked, hy]
  rw [remove_eq, hfilter, hkept, ← List.count_eq_length_filter,
    List.count_eq_one_of_mem hnodup hx]

theorem add_of_mem {d : DomainList} {s : String} {x : Bytes} (hs : normalize s = .ok x)
    (hx : x ∈ d.items) : d.add s = .error .duplicate := by
  simp [add, hs, hx, Except.bind]

/-- For every text `s` that is already trimmed and lowercase: when the bytes of `s` are the stored
form of some text, `s` is its own stored form; and on every list the program holds, from any
seeds over any calls, when the bytes of `s` are listed, removing `s` takes out exactly that entry
and adding `s` is refused as a duplicate. -/
theorem stored_domain_is_addressed_by_its_text (seeds : List String) (es : List Edit)
    (raw s : String) (hlow : Text.lowerString (Text.trimSpace s) = s) :
    (normalize raw = .ok (Bytes.ofString s) → normalize s = .ok (Bytes.ofString s)) ∧
      let l := (seeded seeds).applyAll es
      Bytes.ofString s ∈ l.items →
        l.remove [s] = (1, ⟨l.items.erase (Bytes.ofString s)⟩) ∧
          l.add s = .error .duplicate := by
  refine ⟨fun hd => normalize_of_stored hd hlow, fun hmem => ?_⟩
  -- the entry is the stored form of some text, so `s` is its own stored form
  obtain ⟨raw', hraw'⟩ := stored_applyAll (seeded_stored seeds) es _ hmem
  have hs := normalize_of_stored hraw' hlow
  exact ⟨remove_single (applyAll_nodup (seeded_nodup seeds) es) hs hmem, add_of_mem hs hmem⟩

/-- The text ` Mozilla.ORG/ ` is stored as `mozilla.org`, and that text removes the entry and is
refused as a duplicate. -/
theorem stored_mozilla_is_addressed :
    let l := (seeded [" Mozilla.ORG/ "]).applyAll []
    normalize " Mozilla.ORG/ " = .ok (Bytes.ofString "mozilla.org") ∧
      Bytes.ofString "mozilla.org" ∈ l.items ∧
      normalize "mozilla.org" = .ok (Bytes.ofString "mozilla.org") ∧
      l.remove ["mozilla.org"] = (1, ⟨l.items.erase (Bytes.ofString "mozilla.org")⟩) ∧
      l.add "mozilla.org" = .error .duplicate := by
  intro l
  have hd : normalize " Mozilla.ORG/ " = .ok (Bytes.ofString "mozilla.org") := by decide +kernel
  have hmem : Bytes.ofString "mozilla.org" ∈ l.items := by decide +kernel
  have h := stored_domain_is_addressed_by_its_text [" Mozilla.ORG/ "] [] " Mozilla.ORG/ "
    "mozilla.org" (by decide)
  exact ⟨hd, hmem, h.1 hd, h.2 hmem⟩

/-- The text `a\t/` is stored as `a\t`, whose stored form is `a`: removing `a\t` takes out
nothing, and adding it lists `a` beside `a\t`. -/
theorem tab_before_slash_is_stored :
    let l := seeded ["a\t/"]
    l.items = [Bytes.ofString "a\t"] ∧ normalize "a\t" = .ok (Bytes.ofString "a") ∧
      (l.remove ["a\t"]).1 = 0 ∧
      ((l.add "a\t").toOption.map fun r => r.2.items) =
        some [Bytes.ofString "a\t", Bytes.ofString "a"] := by
  decide +kernel

end BrowserSessions.DomainList
