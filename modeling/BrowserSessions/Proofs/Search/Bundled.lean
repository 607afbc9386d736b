import BrowserSessions.Proofs.Search.Template
import BrowserSessions.Proofs.Search.Default
import BrowserSessions.Launch
import BrowserSessions.Api.Service

/-!
# The bundled engines give back the terms of every search

The catalog shipped with the browser reads as five engines (`bundledCatalog_eq`). Each has a
well-shaped results template whose host names that engine before any other
(`bundled_templates`). So whichever engine the user picks, or none, the results address made for
non-empty terms gives the terms back, whatever bytes they have; and so does the address of every
search session opened for shared text or for text typed into the address bar
(`bundled_search_terms_round_trip`).
-/

namespace BrowserSessions.Search

open Url

/-! ## The bundled catalog -/

/-- The engines shipped with the browser, as the bundled catalog text reads. -/
theorem bundledCatalog_eq : bundledCatalog =
    { default := "google",
      engines := [
        ⟨"google", "Google", "https://www.google.com/search?q=\x7bsearchTerms\x7d&ie=utf-8&oe=utf-8",
          "https://www.google.com/complete/search?client=firefox&q=\x7bsearchTerms\x7d"⟩,
        ⟨"duckduckgo", "DuckDuckGo", "https://duckduckgo.com/?q=\x7bsearchTerms\x7d&t=fpas",
          "https://ac.duckduckgo.com/ac/?q=\x7bsearchTerms\x7d&type=list"⟩,
        ⟨"bing", "Bing", "https://www.bing.com/search?q=\x7bsearchTerms\x7d&pc=MOZB",
          "https://www.bing.com/osjson.aspx?query=\x7bsearchTerms\x7d"⟩,
        ⟨"wikipedia", "Wikipedia",
          "https://en.wikipedia.org/wiki/Special:Search?search=\x7bsearchTerms\x7d&sourceid=Mozilla-search",
          "https://en.wikipedia.org/w/api.php?action=opensearch&search=\x7bsearchTerms\x7d"⟩,
        ⟨"amazon", "Amazon.com", "https://www.amazon.com/s?field-keywords=\x7bsearchTerms\x7d",
          ""⟩] } := by
  decide +kernel

/-- The results templates of the bundled engines, in catalog order. -/
def bundledTemplates : List ResultsTemplate :=
  [⟨Bytes.ofString "https", Bytes.ofString "www.google.com", Bytes.ofString "search",
      Bytes.ofString "q", Bytes.ofString "&ie=utf-8&oe=utf-8"⟩,
    ⟨Bytes.ofString "https", Bytes.ofString "duckduckgo.com", [], Bytes.ofString "q",
      Bytes.ofString "&t=fpas"⟩,
    ⟨Bytes.ofString "https", Bytes.ofString "www.bing.com", Bytes.ofString "search",
      Bytes.ofString "q", Bytes.ofString "&pc=MOZB"⟩,
    ⟨Bytes.ofString "https", Bytes.ofString "en.wikipedia.org",
      Bytes.ofString "wiki/Special:Search", Bytes.ofString "search",
      Bytes.ofString "&sourceid=Mozilla-search"⟩,
    ⟨Bytes.ofString "https", Bytes.ofString "www.amazon.com", Bytes.ofString "s",
      Bytes.ofString "field-keywords", []⟩]

theorem wellShaped_of_mem_bundledTemplates : ∀ t ∈ bundledTemplates, t.WellShaped := by
  intro t ht
  simp only [bundledTemplates, List.mem_cons, List.not_mem_nil, or_false] at ht
  rcases ht with rfl | rfl | rfl | rfl | rfl <;> constructor <;> decide +kernel

/-- Each bundled engine's search template is a well-shaped results template, and its host
    names that engine before any other. -/
theorem bundled_templates : ∀ e ∈ bundledCatalog.engines, ∃ t ∈ bundledTemplates,
    Bytes.ofString e.search = t.text ∧
    bundledCatalog.engines.find? (fun e' => Bytes.containsBytes (stripCommonSubdomains t.host)
      (Bytes.ofString (Text.lowerString e'.name))) = some e := by
  rw [bundledCatalog_eq]
  decide +kernel

/-! ## Searches with the bundled engines -/

section Bundled

variable {display : Bytes → Except Idna.DisplayError String} (hd : KeepsPlainHosts display)
include hd

/-- Whichever engine the user picks, or none, the results address for non-empty terms gives
    them back. -/
theorem searchUrlOf?_bundled (preference : Option String) {terms : Bytes} (hterms : terms ≠ []) :
    ∃ url, ({ catalog := bundledCatalog, preference } : Manager).searchUrlOf? terms = some url ∧
      ({ catalog := bundledCatalog, preference } : Manager).searchTermsOrUrlWith display url =
        terms := by
  have hne : bundledCatalog.engines ≠ [] := by simp [bundledCatalog_eq]
  obtain ⟨e, he⟩ := Option.isSome_iff_exists.1
    (Manager.defaultEngine?_isSome (m := { catalog := bundledCatalog, preference }) hne)
  obtain ⟨t, ht, hsearch, hfind⟩ := bundled_templates e (Manager.mem_of_defaultEngine? he)
  exact ⟨e.searchUrlOf terms, by simp [Manager.searchUrlOf?, he],
    searchTermsOrUrlWith_searchUrlOf hd (wellShaped_of_mem_bundledTemplates t ht) hsearch hfind
      hterms⟩

/-- The address made for non-empty text gives the text back. -/
theorem createSearchUrl?_bundled (preference : Option String) {text : String} (htext : text ≠ "") :
    ∃ url, ({ catalog := bundledCatalog, preference } : Manager).createSearchUrl? text = some url ∧
      ({ catalog := bundledCatalog, preference } : Manager).searchTermsOrUrlWith display url =
        Bytes.ofString text :=
  searchUrlOf?_bundled hd preference (mt Bytes.ofString_eq_nil_iff.1 htext)

end Bundled

/-! ## Search sessions -/

/-- A search session opened for shared text is made for that text, at the address the search
    engines give for it. -/
theorem openShare_search {r r' : Registry} {services : LaunchServices} {now : Nat} {i : Intent}
    {s : Session} {terms : String} (h : r.openShare services now i = .ok (some (s, r')))
    (hs : s.payload = .search terms) :
    terms ≠ "" ∧ ∃ b, services.searchUrls = some b ∧ b.build terms = .ok s.url := by
  unfold Registry.openShare at h
  dsimp only at h
  split at h
  · cases h
  · rename_i hne
    split at h
    · cases h
      cases hs
    · split at h
      · cases h
      · rename_i b hb
        split at h
        · rename_i url hurl
          cases h
          cases hs
          exact ⟨by simpa using hne, b, hb, hurl⟩
        · cases h

/-- Round trip of search addresses with the bundled engines. Whichever engine the user picks, or
    none, the results address made for non-empty terms gives them back, whatever bytes they
    have. So does the address of every search session opened for shared text, and of the search
    session made for text typed into the address bar. -/
theorem bundled_search_terms_round_trip {display : Bytes → Except Idna.DisplayError String}
    (hd : KeepsPlainHosts display) (preference : Option String) :
    (∀ terms : Bytes, terms ≠ [] → ∃ url,
      ({ catalog := bundledCatalog, preference } : Manager).searchUrlOf? terms = some url ∧
      ({ catalog := bundledCatalog, preference } : Manager).searchTermsOrUrlWith display url =
        terms) ∧
    (∀ (r r' : Registry) (services : LaunchServices) (now : Nat) (i : Intent) (s : Session)
        (terms : String),
      services.searchUrls = some ({ catalog := bundledCatalog, preference } : Manager).urlBuilder →
      r.openShare services now i = .ok (some (s, r')) → s.payload = .search terms →
      ({ catalog := bundledCatalog, preference } : Manager).searchTermsOrUrlWith display s.url =
        Bytes.ofString terms) ∧
    (∀ (svc : Api.Service) (r : Registry) (now : Nat) (input : String),
      svc.catalog = bundledCatalog → input ≠ "" →
      svc.engines.searchTermsOrUrlWith display
          (r.createSearch now "user_entered" ((svc.engines.createSearchUrl? input).getD "")
            input).1.url =
        Bytes.ofString (r.createSearch now "user_entered"
          ((svc.engines.createSearchUrl? input).getD "") input).1.searchTerms) := by
  refine ⟨fun terms hterms => searchUrlOf?_bundled hd preference hterms, ?_, ?_⟩
  · intro r r' services now i s terms hm h hs
    obtain ⟨hne, b, hb, hurl⟩ := openShare_search h hs
    obtain rfl := Option.some.inj (hb.symm.trans hm)
    rw [Manager.urlBuilder_build_eq_ok] at hurl
    obtain ⟨url, hurl', hround⟩ := createSearchUrl?_bundled hd preference hne
    rw [Option.some.inj (hurl.symm.trans hurl')]
    exact hround
  · intro svc r now input hcat hin
    obtain ⟨url, hurl, hround⟩ := createSearchUrl?_bundled hd (some svc.settings.defaultEngine) hin
    have hengines : svc.engines =
        { catalog := bundledCatalog, preference := some svc.settings.defaultEngine } := by
      simp [Api.Service.engines, hcat]
    simp only [hengines, hurl, Option.getD_some]
    exact hround

/-- Showing a host as its ASCII text. -/
def asciiDisplay : Bytes → Except Idna.DisplayError String := fun host => .ok (Bytes.toStringLossy host)

theorem keepsPlainHosts_asciiDisplay : KeepsPlainHosts asciiDisplay := by
  intro host hhost _ u hu
  cases hu
  exact Bytes.ofString_toStringLossy_of_ascii fun b hb =>
    lt_of_isQueryByte (isQueryByte_of_isHostNameByte (hhost b hb))

/-- With hosts shown as their ASCII text and Bing picked, the terms `café & co` come back from
    their results address. -/
theorem bundled_round_trip_of_bing :
    KeepsPlainHosts asciiDisplay ∧ ∃ url,
      ({ catalog := bundledCatalog, preference := some "Bing" } : Manager).searchUrlOf?
        (Bytes.ofString "caf\u00e9 & co") = some url ∧
      ({ catalog := bundledCatalog, preference := some "Bing" } : Manager).searchTermsOrUrlWith
        asciiDisplay url = Bytes.ofString "caf\u00e9 & co" :=
  ⟨keepsPlainHosts_asciiDisplay,
    (bundled_search_terms_round_trip keepsPlainHosts_asciiDisplay (some "Bing")).1 _ (by decide)⟩

end BrowserSessions.Search
