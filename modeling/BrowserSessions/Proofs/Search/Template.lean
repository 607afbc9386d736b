import BrowserSessions.Proofs.Url.Hierarchical
import BrowserSessions.Search.Manager

/-!
# Results addresses give back their terms

A results template of the form `scheme://host/path?key={searchTerms}…` holds the terms as the
first value of its query. Filled with escaped terms it gives an address from which the terms are
read back, whatever bytes they have (`searchTermsOrUrlWith_searchUrlOf`): the address is ASCII
and starts with its scheme, it reads as an address with the template's host and query, its host
names the engine again, that engine's terms parameter is the template's key, and the first value
of the key is the terms.

The short host text of an address shows the host in display form. Of the conversion to display
form only one thing is assumed (`KeepsPlainHosts`): a plain ASCII host name, with no `xn--`
label, is shown as it is.
-/

namespace BrowserSessions.Search

open Url

/-- A conversion of host names to display form that shows a plain host name as it is: whenever
    it converts a name of lowercase letters, digits, `.` and `-` with no `xn--` in it, the text
    it gives has the same bytes. The IDNA display form does this, since such a name maps to
    itself and has no label in Punycode. -/
def KeepsPlainHosts (display : Bytes → Except Idna.DisplayError String) : Prop :=
  ∀ host : Bytes, (∀ b ∈ host, isHostNameByte b = true) →
    Bytes.containsBytes host (Bytes.ofString "xn--") = false →
    ∀ u, display host = .ok u → Bytes.ofString u = host

/-- A results template `scheme://host/path?key={searchTerms}tail`, in bytes: the terms are the
    first value of its query. -/
structure ResultsTemplate where
  scheme : Bytes
  host : Bytes
  path : Bytes
  key : Bytes
  tail : Bytes
  deriving DecidableEq, Repr

namespace ResultsTemplate

/-- The address with `value` as the first value of the query. -/
def withValue (t : ResultsTemplate) (value : Bytes) : Bytes :=
  t.scheme ++ byte ':' :: byte '/' :: byte '/' ::
    (t.host ++ byte '/' :: t.path ++ byte '?' :: (t.key ++ byte '=' :: value ++ t.tail))

/-- The template as written, with the placeholder as the value. -/
def text (t : ResultsTemplate) : Bytes := t.withValue (Bytes.ofString termsPlaceholder)

/-- Everything before the value. -/
def front (t : ResultsTemplate) : Bytes :=
  t.scheme ++ byte ':' :: byte '/' :: byte '/' ::
    (t.host ++ byte '/' :: t.path ++ byte '?' :: (t.key ++ [byte '=']))

theorem withValue_eq (t : ResultsTemplate) (value : Bytes) :
    t.withValue value = t.front ++ value ++ t.tail := by
  simp [withValue, front]

/-- What makes a template read back: an `http` or `https` scheme, a plain host name without
    `xn--`, a path and a tail of query bytes without `{`, a key that needs no escape and holds
    no delimiter, and a tail that is empty or starts a new pair. -/
structure WellShaped (t : ResultsTemplate) : Prop where
  scheme_http : t.scheme = Bytes.ofString "http" ∨ t.scheme = Bytes.ofString "https"
  host_ne : t.host ≠ []
  host_name : ∀ b ∈ t.host, isHostNameByte b = true
  host_plain : Bytes.containsBytes t.host (Bytes.ofString "xn--") = false
  path_bytes : ∀ b ∈ byte '/' :: t.path, isPathByte b = true ∧ b ≠ byte '\x7b'
  key_ne : t.key ≠ []
  key_bytes : ∀ b ∈ t.key,
    isQueryByte b = true ∧ b ∉ delimiters ∧ readsAsItself .queryComponent b = true
  tail_start : t.tail = [] ∨ t.tail.head? = some (byte '&')
  tail_bytes : ∀ b ∈ t.tail, isQueryByte b = true ∧ b ≠ byte '\x7b'

namespace WellShaped

variable {t : ResultsTemplate} (ht : t.WellShaped)
include ht

theorem scheme_lower : ∀ b ∈ t.scheme, isLowerLetter b = true := by
  rcases ht.scheme_http with h | h <;> rw [h] <;> decide +kernel

theorem scheme_ne : t.scheme ≠ [] := by
  rcases ht.scheme_http with h | h <;> rw [h] <;> decide

/-- Filled with query bytes, the template reads as an address with its host, and with the key
    and the value, then the tail, as its query. -/
theorem parse_withValue {value : Bytes} (hv : ∀ b ∈ value, isQueryByte b = true) :
    ∃ a, parse (t.withValue value) = .ok a ∧ a.host = t.host ∧
      a.rawQuery = t.key ++ byte '=' :: value ++ t.tail := by
  have hq : ∀ b ∈ t.key ++ byte '=' :: value ++ t.tail, isQueryByte b = true := by
    simp only [List.forall_mem_append, List.forall_mem_cons]
    exact ⟨⟨fun b hb => (ht.key_bytes b hb).1, by decide, hv⟩,
      fun b hb => (ht.tail_bytes b hb).1⟩
  exact ⟨_, parse_hierarchical ht.scheme_ne ht.scheme_lower ht.host_name
    (fun b hb => (ht.path_bytes b hb).1) hq, rfl, rfl⟩

/-- Filled with query bytes, the template is ASCII. -/
theorem lt_of_mem_withValue {value : Bytes} (hv : ∀ b ∈ value, isQueryByte b = true) :
    ∀ b ∈ t.withValue value, b < 0x80 := by
  have hscheme : ∀ b ∈ t.scheme, b < 0x80 := fun b hb => lt_of_isQueryByte
    (isQueryByte_of_isHostNameByte (isHostNameByte_of_isLowerLetter (ht.scheme_lower b hb)))
  have hhost : ∀ b ∈ t.host, b < 0x80 := fun b hb =>
    lt_of_isQueryByte (isQueryByte_of_isHostNameByte (ht.host_name b hb))
  have hpath : ∀ b ∈ byte '/' :: t.path, b < 0x80 := fun b hb =>
    lt_of_isQueryByte (isQueryByte_of_isPathByte (ht.path_bytes b hb).1)
  have hkey : ∀ b ∈ t.key, b < 0x80 := fun b hb => lt_of_isQueryByte (ht.key_bytes b hb).1
  have hvalue : ∀ b ∈ value, b < 0x80 := fun b hb => lt_of_isQueryByte (hv b hb)
  have htail : ∀ b ∈ t.tail, b < 0x80 := fun b hb => lt_of_isQueryByte (ht.tail_bytes b hb).1
  simp only [withValue, List.forall_mem_append, List.forall_mem_cons] at hpath ⊢
  exact ⟨hscheme, by decide, by decide, by decide, ⟨hhost, hpath⟩, by decide,
    ⟨hkey, by decide, hvalue⟩, htail⟩

/-- Filling the template writes the value in place of the placeholder: the placeholder's `{`
    stands nowhere else. -/
theorem replaceAll_text (value : Bytes) :
    Bytes.replaceAll t.text (Bytes.ofString termsPlaceholder) value = t.withValue value := by
  obtain ⟨ps, hps⟩ : ∃ ps, Bytes.ofString termsPlaceholder = byte '\x7b' :: ps :=
    ⟨(Bytes.ofString termsPlaceholder).tail, by decide⟩
  have hfront : byte '\x7b' ∉ t.front := by
    have hscheme : byte '\x7b' ∉ t.scheme := fun hm => absurd (ht.scheme_lower _ hm) (by decide)
    have hhost : byte '\x7b' ∉ t.host := fun hm => absurd (ht.host_name _ hm) (by decide)
    have hpath : byte '\x7b' ∉ byte '/' :: t.path := fun hm => (ht.path_bytes _ hm).2 rfl
    have hkey : byte '\x7b' ∉ t.key := fun hm => (ht.key_bytes _ hm).2.1 (by decide)
    simp only [front, List.mem_append, List.mem_cons, not_or] at hpath ⊢
    exact ⟨hscheme, by decide, by decide, by decide, ⟨hhost, hpath⟩, by decide, hkey,
      by decide, by simp⟩
  have htail : byte '\x7b' ∉ t.tail := fun hm => (ht.tail_bytes _ hm).2 rfl
  rw [text, withValue_eq, withValue_eq, hps, Bytes.replaceAll_of_single hfront htail]

/-- The engine whose search template is `t` carries its terms in the parameter named by the
    template's key. -/
theorem termsParam_of_text {e : Engine} (he : Bytes.ofString e.search = t.text) :
    Bytes.ofString e.termsParam = t.key := by
  have hph : ∀ b ∈ Bytes.ofString termsPlaceholder, isQueryByte b = true := by decide +kernel
  obtain ⟨a, hparse, -, hquery⟩ := ht.parse_withValue hph
  have hkey : queryUnescape t.key = .ok t.key :=
    unescape_of_readsAsItself fun b hb => (ht.key_bytes b hb).2.2
  have hraw : queryUnescape (Bytes.ofString termsPlaceholder) =
      .ok (Bytes.ofString termsPlaceholder) :=
    unescape_of_readsAsItself (by decide +kernel)
  obtain ⟨more, hfirst⟩ := parseQuery_first (fun d hd hm => (ht.key_bytes d hm).2.1 hd)
    (by decide) (by decide) hkey hraw ht.tail_start
  have hascii : ∀ b ∈ t.key, b < 0x80 := fun b hb => lt_of_isQueryByte (ht.key_bytes b hb).1
  simp only [Engine.termsParam, parseString, he, text, hparse, Address.query, hquery, hfirst,
    List.find?_cons, beq_self_eq_true]
  exact Bytes.ofString_toStringLossy_of_ascii hascii

/-- The short host text of an address that reads with the template's host is that host without
    a common subdomain. -/
theorem snippetWith_of_host {display : Bytes → Except Idna.DisplayError String}
    (hd : KeepsPlainHosts display) {raw : String} {a : Address} (hraw : parseString raw = .ok a)
    (hhost : a.host = t.host) : snippetWith display raw = stripCommonSubdomains t.host := by
  have hname : a.hostname = t.host := by
    rw [Address.hostname, hhost, splitHostPort_hostName ht.host_name]
  cases hdisp : display t.host with
  | ok u =>
    have hu := hd t.host ht.host_name ht.host_plain u hdisp
    simp [snippetWith, hraw, hname, ht.host_ne, hdisp, hu]
  | error _ => simp [snippetWith, hraw, hname, ht.host_ne, hdisp]

end WellShaped

end ResultsTemplate

/-- An ASCII text that starts with `http:` or `https:` is an `http` or `https` address. -/
theorem isHttpOrHttps_toStringLossy {scheme rest : Bytes}
    (hs : scheme = Bytes.ofString "http" ∨ scheme = Bytes.ofString "https")
    (hascii : ∀ b ∈ scheme ++ byte ':' :: rest, b < 0x80) :
    isHttpOrHttps (Bytes.toStringLossy (scheme ++ byte ':' :: rest)) = true := by
  have hstarts : ∀ p : String, p.toList = (Bytes.ofString p).map (fun b => Char.ofNat b.toNat) →
      Bytes.ofString p = scheme ++ [byte ':'] →
      (Bytes.toStringLossy (scheme ++ byte ':' :: rest)).startsWith p = true := by
    intro p hp hb
    rw [String.startsWith_string_iff, Bytes.toList_toStringLossy_of_ascii hascii, hp,
      show scheme ++ byte ':' :: rest = scheme ++ [byte ':'] ++ rest by simp, ← hb,
      List.map_append]
    exact List.prefix_append _ _
  unfold isHttpOrHttps
  rcases hs with rfl | rfl
  · simp [hstarts "http:" (by decide) (by decide)]
  · simp [hstarts "https:" (by decide) (by decide)]

/-- An engine with a well-shaped results template, found again from its host, gives back any
    non-empty terms from their results address. -/
theorem searchTermsOrUrlWith_searchUrlOf {display : Bytes → Except Idna.DisplayError String}
    (hd : KeepsPlainHosts display) {m : Manager} {e : Engine} {t : ResultsTemplate}
    (ht : t.WellShaped) (he : Bytes.ofString e.search = t.text)
    (hfind : m.catalog.engines.find? (fun e' => Bytes.containsBytes
      (stripCommonSubdomains t.host) (Bytes.ofString (Text.lowerString e'.name))) = some e)
    {terms : Bytes} (hterms : terms ≠ []) :
    m.searchTermsOrUrlWith display (e.searchUrlOf terms) = terms := by
  have hesc : ∀ b ∈ queryEscape terms, isQueryByte b = true := fun b hb =>
    isQueryByte_of_isQuerySafe (queryEscape_safe terms b hb)
  have hascii := ht.lt_of_mem_withValue hesc
  have hurl : e.searchUrlOf terms = Bytes.toStringLossy (t.withValue (queryEscape terms)) := by
    rw [Engine.searchUrlOf, fillBytes, he, ht.replaceAll_text]
  have hbytes : Bytes.ofString (e.searchUrlOf terms) = t.withValue (queryEscape terms) := by
    rw [hurl, Bytes.ofString_toStringLossy_of_ascii hascii]
  obtain ⟨a, hparse, hhost, hquery⟩ := ht.parse_withValue hesc
  have hparse' : parseString (e.searchUrlOf terms) = .ok a := by rw [parseString, hbytes, hparse]
  have hhttp : isHttpOrHttps (e.searchUrlOf terms) = true := by
    rw [hurl]
    exact isHttpOrHttps_toStringLossy ht.scheme_http hascii
  have hsnip := ht.snippetWith_of_host hd hparse' hhost
  -- the terms parameter is the key, which the address holds and whose first value is the terms
  have hparam := ht.termsParam_of_text he
  have hparam_ne : e.termsParam.isEmpty = false := by
    cases hp : e.termsParam.isEmpty
    · rfl
    · rw [String.isEmpty_iff.1 hp, show Bytes.ofString "" = [] by decide] at hparam
      exact absurd hparam.symm ht.key_ne
  have hcontains : Bytes.containsBytes (Bytes.ofString (e.searchUrlOf terms))
      (Bytes.ofString e.termsParam) = true := by
    rw [hbytes, hparam, ResultsTemplate.withValue]
    simpa using Bytes.containsBytes_infix
      (t.scheme ++ byte ':' :: byte '/' :: byte '/' :: (t.host ++ byte '/' :: t.path ++ [byte '?']))
      t.key (byte '=' :: queryEscape terms ++ t.tail)
  have hlookup : lookupFirst a.query (Bytes.ofString e.termsParam) = terms := by
    have hkey : queryUnescape t.key = .ok t.key :=
      unescape_of_readsAsItself fun b hb => (ht.key_bytes b hb).2.2
    obtain ⟨more, hfirst⟩ := parseQuery_first (fun d hd hm => (ht.key_bytes d hm).2.1 hd)
      (not_mem_queryEscape (by decide) terms) (not_mem_queryEscape (by decide) terms) hkey
      (queryUnescape_queryEscape terms) ht.tail_start
    simp only [lookupFirst, Address.query, hquery, hfirst, hparam, List.find?_cons,
      beq_self_eq_true]
  simp [Manager.searchTermsOrUrlWith, Manager.engineForUrlWith, hhttp, hsnip, hfind, hparam_ne,
    hcontains, hparse', hlookup, hterms]

end BrowserSessions.Search
