import BrowserSessions.Search.Manager
import BrowserSessions.Proofs.Text.Bytes

/-!
# Recovering the terms of a results address

A results address gives back its terms only when the name of its engine's terms parameter
appears in the address as written; the decoded query is consulted after that test. The test is
not only a shortcut: a query may spell its keys with escapes (`%71` for `q`), and such an
address is given back unchanged although its decoded query has the terms.

* The query of an address is part of the address as written (`rawQuery_infix`), so a key that a
  pair of the query writes without escapes appears in the address (`containsBytes_of_writesKey`).
* Against the same function without the test (`searchTermsOrUrlUncheckedWith`), the answer is
  the same, or the address itself, given back because the terms key of its engine appears
  nowhere in it as written (`terms_precheck_drops_only_escaped_keys`).
* `escaped_terms_key_is_not_read`: the address `http:/g/?%71=x` of an engine `G` whose terms
  parameter is `q` is given back, where the function without the test answers `x`.
-/

namespace BrowserSessions.Url

/-! ## Where the query stands in an address -/

theorem prefix_of_splitOnce_fst (bs : Bytes) (b : UInt8) : (Bytes.splitOnce bs b).1 <+: bs := by
  unfold Bytes.splitOnce
  split
  · exact List.take_prefix _ _
  · exact List.prefix_refl _

theorem splitOnce_snd_suffix {bs rest : Bytes} {b : UInt8} (h : (Bytes.splitOnce bs b).2 = some rest) :
    rest <:+ bs := by
  unfold Bytes.splitOnce at h
  split at h
  · cases h
    exact List.drop_suffix _ _
  · cases h

/-- What follows a scheme is the end of the text. -/
theorem splitScheme_suffix {bs scheme rest : Bytes} (h : splitScheme bs = .ok (scheme, rest)) :
    rest <:+ bs := by
  -- the walk looks at ever shorter ends of the text
  have hgo : ∀ xs acc, xs <:+ bs → splitScheme.go bs xs acc = .ok (scheme, rest) → rest <:+ bs := by
    intro xs
    induction xs with
    | nil =>
      intro acc _ hgo
      simp only [splitScheme.go, Except.ok.injEq, Prod.mk.injEq] at hgo
      exact hgo.2 ▸ List.suffix_refl _
    | cons x xs ih =>
      intro acc hsuf hgo
      have htail : xs <:+ bs := (List.suffix_cons x xs).trans hsuf
      unfold splitScheme.go at hgo
      split at hgo
      · exact ih _ htail hgo
      · split at hgo
        · -- a digit or `+ - .`: it cannot start a scheme, which leaves the whole text
          split at hgo
          · cases hgo
            exact List.suffix_refl _
          · exact ih _ htail hgo
        · split at hgo
          · -- the `:` that ends the scheme
            split at hgo
            · cases hgo
            · cases hgo
              exact htail
          · cases hgo
            exact List.suffix_refl _
  exact hgo bs [] (List.suffix_refl _) h

/-- The query is the end of the text after the scheme. -/
theorem splitQuery_suffix (rest : Bytes) : (splitQuery rest).2.1 <:+ rest := by
  unfold splitQuery
  split
  · exact List.nil_suffix
  · split
    · rename_i r q hq
      exact splitOnce_snd_suffix (b := byte '?') (by rw [hq])
    · exact List.nil_suffix

theorem Address.rawQuery_withPath {a a' : Address} {written : Bytes} (h : a.withPath written = .ok a') :
    a'.rawQuery = a.rawQuery := by
  unfold Address.withPath at h
  split at h
  · cases h
  · cases h
    rfl

theorem Address.rawQuery_withFragment {a a' : Address} {written : Bytes}
    (h : a.withFragment written = .ok a') : a'.rawQuery = a.rawQuery := by
  unfold Address.withFragment at h
  split at h
  · cases h
  · cases h
    rfl

/-- The query of a reference is the end of the text after its scheme. -/
theorem rawQuery_parseReference {raw : Bytes} {viaRequest : Bool} {a : Address}
    (h : parseReference raw viaRequest = .ok a) : a.rawQuery <:+ raw := by
  unfold parseReference at h
  split at h
  · cases h
  split at h
  · cases h
  split at h
  · cases h
    exact List.nil_suffix
  split at h
  · cases h
  rename_i scheme0 rest0 hscheme
  have hquery := (splitQuery_suffix rest0).trans (splitScheme_suffix hscheme)
  rcases hsplit : splitQuery rest0 with ⟨rest, query, force⟩
  rw [hsplit] at hquery
  simp only [hsplit] at h
  -- every address the branches build is the base with its query, or a refusal
  split at h
  · cases h
    exact hquery
  split at h
  · cases h
  split at h
  · cases h
  split at h
  · split at h
    · cases h
    · rw [Address.rawQuery_withPath h]
      exact hquery
  split at h
  · rw [Address.rawQuery_withPath h]
    exact hquery
  · rw [Address.rawQuery_withPath h]
    exact hquery

/-- The query of an address is part of the address as written. -/
theorem rawQuery_infix {raw : Bytes} {a : Address} (h : parse raw = .ok a) : a.rawQuery <:+: raw := by
  have hprefix := prefix_of_splitOnce_fst raw (byte '#')
  rcases hs : Bytes.splitOnce raw (byte '#') with ⟨ref, frag⟩
  rw [hs] at hprefix
  simp only [parse, hs] at h
  split at h
  · cases h
  rename_i a0 href
  have hinfix : a0.rawQuery <:+: raw := (rawQuery_parseReference href).isInfix.trans hprefix.isInfix
  split at h
  · cases h
    exact hinfix
  · cases h
    exact hinfix
  · rw [Address.rawQuery_withFragment h]
    exact hinfix

/-! ## Keys as a query writes them -/

/-- The pieces between separators are parts of the text. -/
theorem infix_of_mem_splitOn {bs piece : Bytes} {sep : UInt8} (h : piece ∈ splitOn bs sep) :
    piece <:+: bs := by
  -- the walk keeps the bytes of the current piece reversed in `acc`
  have hgo : ∀ xs acc, piece ∈ splitOn.go sep xs acc → piece <:+: acc.reverse ++ xs := by
    intro xs
    induction xs with
    | nil =>
      intro acc hmem
      simp only [splitOn.go, List.mem_singleton] at hmem
      exact hmem ▸ List.infix_append [] _ []
    | cons x xs ih =>
      intro acc hmem
      unfold splitOn.go at hmem
      split at hmem
      · rcases List.mem_cons.mp hmem with rfl | hrest
        · exact (List.prefix_append _ _).isInfix
        · have hxs : xs <:+ acc.reverse ++ x :: xs :=
            (List.suffix_cons x xs).trans (List.suffix_append _ _)
          exact (by simpa using ih [] hrest : piece <:+: xs).trans hxs.isInfix
      · simpa using ih (x :: acc) hmem
  simpa using hgo bs [] h

/-- The keys of a query as written, escapes and all: the text of each `&`-separated pair before
    its first `=`. -/
def rawKeys (query : Bytes) : List Bytes :=
  (splitOn query (byte '&')).map fun pair => (Bytes.splitOnce pair (byte '=')).1

theorem infix_of_mem_rawKeys {query key : Bytes} (h : key ∈ rawKeys query) : key <:+: query := by
  obtain ⟨pair, hpair, rfl⟩ := List.mem_map.mp h
  exact (prefix_of_splitOnce_fst pair _).isInfix.trans (infix_of_mem_splitOn hpair)

end BrowserSessions.Url

namespace BrowserSessions.Search.Manager

/-- The address reads as one whose query has a pair writing the key without escapes. -/
def WritesKey (raw key : String) : Prop :=
  ∃ a, Url.parseString raw = .ok a ∧ Bytes.ofString key ∈ Url.rawKeys a.rawQuery

/-- A key that the query writes without escapes appears in the address as written. -/
theorem containsBytes_of_writesKey {raw key : String} (h : WritesKey raw key) :
    Bytes.containsBytes (Bytes.ofString raw) (Bytes.ofString key) = true := by
  obtain ⟨a, hparse, hkey⟩ := h
  obtain ⟨front, back, hsplit⟩ := (Url.infix_of_mem_rawKeys hkey).trans (Url.rawQuery_infix hparse)
  rw [← hsplit]
  exact Bytes.containsBytes_infix front _ back

/-- The terms of a results address, or the address, with hosts shown by `display`, without the
    test that the terms key appears in the address as written. -/
def searchTermsOrUrlUncheckedWith (m : Manager) (display : Bytes → Except Idna.DisplayError String)
    (raw : String) : Bytes :=
  let unchanged := Bytes.ofString raw
  if !Url.isHttpOrHttps raw then unchanged
  else match m.engineForUrlWith display raw with
    | none => unchanged
    | some e =>
      let param := e.termsParam
      if param.isEmpty then unchanged
      else match Url.parseString raw with
        | .error _ => unchanged
        | .ok a =>
          let terms := Url.lookupFirst a.query (Bytes.ofString param)
          if terms.isEmpty then unchanged else terms

/-- For every catalog, host display and text, recovering the terms agrees with the same function
without the test that the terms key appears in the address, or gives back the address because
the terms key of the engine it names appears nowhere in it as written, so that no pair of its
query writes that key without escapes. -/
theorem terms_precheck_drops_only_escaped_keys (m : Manager)
    (display : Bytes → Except Idna.DisplayError String) (raw : String) :
    m.searchTermsOrUrlWith display raw = m.searchTermsOrUrlUncheckedWith display raw ∨
      (m.searchTermsOrUrlWith display raw = Bytes.ofString raw ∧
        ∃ e, m.engineForUrlWith display raw = some e ∧
          Bytes.containsBytes (Bytes.ofString raw) (Bytes.ofString e.termsParam) = false ∧
          ¬ WritesKey raw e.termsParam) := by
  by_cases hweb : Url.isHttpOrHttps raw = true
  · cases he : m.engineForUrlWith display raw with
    | none => exact .inl (by simp [searchTermsOrUrlWith, searchTermsOrUrlUncheckedWith, hweb, he])
    | some e =>
      cases hc : Bytes.containsBytes (Bytes.ofString raw) (Bytes.ofString e.termsParam) with
      | true =>
        -- the test passes: both go on to read the query the same way
        left
        cases hp : Url.parseString raw <;>
          simp [searchTermsOrUrlWith, searchTermsOrUrlUncheckedWith, hweb, he, hc, hp]
      | false =>
        -- the test fails: the address is given back, and no pair of its query writes the key
        refine .inr ⟨by simp [searchTermsOrUrlWith, hweb, he, hc], e, rfl, hc, fun hw => ?_⟩
        rw [containsBytes_of_writesKey hw] at hc
        cases hc
  · exact .inl (by simp [searchTermsOrUrlWith, searchTermsOrUrlUncheckedWith, hweb])

/-- The address `http:/g/?%71=x` names the engine `G` by its path; the terms key `q` of that
engine is written `%71`, so the address is given back, where the function without the test
reads the terms `x`. -/
theorem escaped_terms_key_is_not_read :
    let m : Manager := { catalog := { engines :=
      [{ id := "g", name := "G", search := "https://g.test/?q=\x7bsearchTerms\x7d" }] } }
    m.searchTermsOrUrl "http:/g/?%71=x" = Bytes.ofString "http:/g/?%71=x" ∧
      m.searchTermsOrUrlUncheckedWith Idna.toUnicode "http:/g/?%71=x" = Bytes.ofString "x" := by
  decide +kernel

end BrowserSessions.Search.Manager
