import Mathlib.Data.Set.Operations
import BrowserSessions.Proofs.Api.EngineChoice
import BrowserSessions.Proofs.Api.Intents

/-!
# Addresses kept without credentials

Every route that takes an address from the client removes its user information
(`Url.stripUserInfo`) before the registry sees it: the address of a new session, of a navigation
and of an intent, and shared text that is an address. The results addresses of the bundled
engines have none to remove (`Search.stripUserInfo_createSearchUrl?`). So each route keeps the
sessions that were listed or lists sessions at stripped addresses (`addsStripped_runEndpoint`),
and after any run of requests against a service with the bundled catalog, every address a
session holds is one that removing user information gives (`sessions_keep_stripped_addresses`).

Removing user information once need not leave an address without it: `//user@//u2:pw@evil.com/`
loses `user@` and becomes `//u2:pw@evil.com/`, which reads as an address with user `u2`, and the
service stores it as it is (`stored_address_keeps_credentials`).
-/

namespace BrowserSessions

/-! ## Addresses without user information -/

namespace Url

/-- An address that reads without user information is its own stripped form. -/
theorem stripUserInfo_of_user {u : String} {a : Address} (h : parseString u = .ok a)
    (hu : a.user = none) : stripUserInfo u = u := by
  unfold stripUserInfo
  split
  · rfl
  · simp [h, hu]

end Url

namespace Search

open Url

/-- The results address of a well-shaped template reads without user information. -/
theorem stripUserInfo_searchUrlOf {e : Engine} {t : ResultsTemplate} (ht : t.WellShaped)
    (he : Bytes.ofString e.search = t.text) (terms : Bytes) :
    Url.stripUserInfo (e.searchUrlOf terms) = e.searchUrlOf terms := by
  have hesc : ∀ b ∈ Url.queryEscape terms, Url.isQueryByte b = true := fun b hb =>
    Url.isQueryByte_of_isQuerySafe (Url.queryEscape_safe terms b hb)
  have hbytes : Bytes.ofString (e.searchUrlOf terms) = t.withValue (Url.queryEscape terms) := by
    rw [Engine.searchUrlOf, fillBytes, he, ht.replaceAll_text,
      Bytes.ofString_toStringLossy_of_ascii (ht.lt_of_mem_withValue hesc)]
  have hq : ∀ b ∈ t.key ++ byte '=' :: Url.queryEscape terms ++ t.tail, Url.isQueryByte b = true := by
    simp only [List.forall_mem_append, List.forall_mem_cons]
    exact ⟨⟨fun b hb => (ht.key_bytes b hb).1, by decide, hesc⟩,
      fun b hb => (ht.tail_bytes b hb).1⟩
  exact Url.stripUserInfo_of_user
    (by rw [Url.parseString, hbytes, ResultsTemplate.withValue]
        exact parse_hierarchical ht.scheme_ne ht.scheme_lower ht.host_name
          (fun b hb => (ht.path_bytes b hb).1) hq)
    rfl

/-- Whichever engine the user picks, the results address the bundled engines make for a text
    reads without user information. -/
theorem stripUserInfo_createSearchUrl? {preference : Option String} {text url : String}
    (h : ({ catalog := bundledCatalog, preference } : Manager).createSearchUrl? text = some url) :
    Url.stripUserInfo url = url := by
  obtain ⟨e, he, rfl⟩ := Option.map_eq_some_iff.1 h
  obtain ⟨t, ht, hsearch, -⟩ := bundled_templates e (Manager.mem_of_defaultEngine? he)
  exact stripUserInfo_searchUrlOf (wellShaped_of_mem_bundledTemplates t ht) hsearch _

end Search

/-! ## Registries whose addresses are stripped -/

/-- Every session's address is one that removing user information gives. -/
def Registry.AddressesStripped (r : Registry) : Prop :=
  ∀ s ∈ r.sessions, s.url ∈ Set.range Url.stripUserInfo

/-- Every session after a change was listed before it, or has an address that removing user
    information gives. -/
def Registry.AddsStripped (r r' : Registry) : Prop :=
  ∀ s ∈ r'.sessions, s ∈ r.sessions ∨ s.url ∈ Set.range Url.stripUserInfo

namespace Registry

variable {r r' : Registry} {services : LaunchServices} {now : Nat} {i : Intent}
  {source url : String}

theorem AddressesStripped.of_addsStripped (h : r.AddressesStripped) (hadd : r.AddsStripped r') :
    r'.AddressesStripped := by
  unfold AddressesStripped
  intro s hs
  rcases hadd s hs with hold | hurl
  · exact h s hold
  · exact hurl

theorem addressesStripped_of_sessions_nil (h : r.sessions = []) : r.AddressesStripped := by
  unfold AddressesStripped
  simp [h]

theorem AddsStripped.of_subset (h : r'.sessions ⊆ r.sessions) : r.AddsStripped r' := by
  unfold AddsStripped
  exact fun _ hs => .inl (h hs)

theorem AddsStripped.of_sessions_eq (h : r'.sessions = r.sessions) : r.AddsStripped r' :=
  .of_subset (h ▸ List.Subset.refl _)

theorem AddsStripped.refl (r : Registry) : r.AddsStripped r := .of_sessions_eq rfl

theorem AddsStripped.congr {r₁ r₂ : Registry} (h : r.AddsStripped r₁)
    (hs : r₂.sessions = r₁.sessions) : r.AddsStripped r₂ := by
  unfold AddsStripped at h ⊢
  rw [hs]
  exact h

/-- A change that appends one session keeps the invariant when the new address is stripped. -/
theorem AddsStripped.of_append {s : Session} (h : r'.sessions = r.sessions ++ [s])
    (hurl : s.url ∈ Set.range Url.stripUserInfo) : r.AddsStripped r' := by
  unfold AddsStripped
  intro s' hs'
  rw [h, List.mem_append, List.mem_singleton] at hs'
  rcases hs' with hold | rfl
  · exact .inl hold
  · exact .inr hurl

/-- Every call that adds a session appends it. -/
theorem Effect.sessions_of_some {s : Session} (h : Effect r (some s) r') :
    r'.sessions = r.sessions ++ [s] := by
  cases h with
  | add _ _ hsessions _ _ => exact hsessions

theorem addsStripped_create (hurl : url ∈ Set.range Url.stripUserInfo) :
    r.AddsStripped (r.create now source url).2 :=
  .of_append (effect_create r now source url).sessions_of_some hurl

theorem addsStripped_createSearch {terms : String} (hurl : url ∈ Set.range Url.stripUserInfo) :
    r.AddsStripped (r.createSearch now source url terms).2 :=
  .of_append (effect_createSearch r now source url terms).sessions_of_some hurl

theorem addsStripped_remove (id : String) : r.AddsStripped (r.remove id) := by
  cases hpos : r.indexOf? id with
  | none =>
    rw [remove_of_indexOf?_none hpos]
    exact .refl r
  | some pos =>
    rw [remove_of_indexOf?_some hpos]
    exact .of_subset (by simpa using List.eraseIdx_subset)

theorem addsStripped_removeCurrent : r.AddsStripped r.removeCurrent := by
  rw [removeCurrent_eq_remove]
  exact addsStripped_remove _

theorem addsStripped_removeAll : r.AddsStripped r.removeAll :=
  .of_subset (by simp [removeAll])

theorem addsStripped_select {id : String} (h : r.select id = .ok r') : r.AddsStripped r' := by
  obtain ⟨-, -, rfl⟩ := select_eq_ok h
  exact .of_sessions_eq (by simp)

/-- A navigation keeps the sessions, one of them at the new address. -/
theorem addsStripped_updateUrl {id : String} {s : Session} (h : r.updateUrl id url = .ok (s, r'))
    (hurl : url ∈ Set.range Url.stripUserInfo) : r.AddsStripped r' := by
  obtain ⟨pos, s₀, -, -, ⟨-, -, rfl⟩ | ⟨-, -, rfl⟩⟩ := updateUrl_eq_ok h
  · exact .refl _
  · -- the one session changed has the new address
    intro s' hs'
    rcases List.mem_or_eq_of_mem_set (by simpa using hs') with hold | rfl
    · exact .inl hold
    · exact .inr hurl

/-- Shared text opens a session at the text, when it is an address, or at the address the builder
    makes for it. -/
theorem url_of_openShare {s : Session} (h : r.openShare services now i = .ok (some (s, r'))) :
    (i.stringExtra Intent.extraText ≠ "" ∧
        services.isUrl (i.stringExtra Intent.extraText) = true ∧
        s.url = i.stringExtra Intent.extraText) ∨
      ∃ b, services.searchUrls = some b ∧
        b.build (i.stringExtra Intent.extraText) = .ok s.url := by
  obtain ⟨hne, ⟨hl, rfl, -⟩ | ⟨-, b, url, hb, hurl, rfl, -⟩⟩ := openShare_eq_some h
  · exact .inl ⟨hne, hl, rfl⟩
  · exact .inr ⟨b, hb, hurl⟩

/-- Handling an intent keeps the sessions and adds at most the one it opens. -/
theorem addsStripped_openIntent {made : Option Session}
    (h : r.openIntent services now i = .ok (made, r'))
    (hmade : ∀ s, made = some s → s.url ∈ Set.range Url.stripUserInfo) : r.AddsStripped r' := by
  cases opens_openIntent h with
  | nothing hsessions _ _ => exact .of_sessions_eq hsessions
  | session s heffect => exact .of_append heffect.sessions_of_some (hmade s rfl)

theorem addsStripped_launch {restoring : Bool} {made : Option Session}
    (h : r.launch services now i restoring = .ok (made, r'))
    (hmade : ∀ s, made = some s → s.url ∈ Set.range Url.stripUserInfo) : r.AddsStripped r' := by
  cases opens_launch h with
  | nothing hsessions _ _ => exact .of_sessions_eq hsessions
  | session s heffect => exact .of_append heffect.sessions_of_some (hmade s rfl)

end Registry

namespace Api

open Http

/-! ## Intents -/

/-- Shared text of a stripped intent that reads as an address is a stripped address. -/
theorem text_withoutCredentials_mem
    (hne : (withoutCredentials i).stringExtra Intent.extraText ≠ "")
    (hl : Url.looksLikeAddress ((withoutCredentials i).stringExtra Intent.extraText) = true) :
    (withoutCredentials i).stringExtra Intent.extraText ∈ Set.range Url.stripUserInfo := by
  rw [text_withoutCredentials] at hne hl ⊢
  by_cases hcond : i.stringExtra Intent.extraText ≠ "" ∧
      Url.looksLikeAddress (i.stringExtra Intent.extraText) = true
  · rw [if_pos hcond]
    exact ⟨_, rfl⟩
  · rw [if_neg hcond] at hne hl
    exact absurd ⟨hne, hl⟩ hcond

section Intents

open Registry

variable {r r' : Registry} {services : LaunchServices} {now : Nat} {i : Intent}
  (hclass : services.isUrl = Url.looksLikeAddress) {b : SearchUrlBuilder}
  (hb : services.searchUrls = some b)
  (hurls : ∀ t url, b.build t = .ok url → url ∈ Set.range Url.stripUserInfo)
include hclass hb hurls

/-- The session a stripped intent opens is at a stripped address, or at one the engines made. -/
theorem made_withoutCredentials {made : Option Session}
    (h : r.openIntent services now (withoutCredentials i) = .ok (made, r')) :
    ∀ s, made = some s → s.url ∈ Set.range Url.stripUserInfo := by
  intro s hs
  obtain ⟨r₁, -, -, ⟨rfl, -⟩ | ⟨s', rfl, hview | hshare⟩⟩ := openIntent_cases h
  · cases hs
  · cases hs
    rw [(openView_session hview).1, data_withoutCredentials]
    exact ⟨_, rfl⟩
  · cases hs
    rcases url_of_openShare hshare with ⟨hne, hl, hurl⟩ | ⟨b', hb', hurl⟩
    · rw [hurl]
      exact text_withoutCredentials_mem hne (hclass ▸ hl)
    · rw [hb] at hb'
      cases hb'
      exact hurls _ _ hurl

theorem made_launch_withoutCredentials {restoring : Bool} {made : Option Session}
    (h : r.launch services now (withoutCredentials i) restoring = .ok (made, r')) :
    ∀ s, made = some s → s.url ∈ Set.range Url.stripUserInfo := by
  intro s hs
  rcases launch_cases h with ⟨-, -, rfl, -⟩ | hopen
  · cases hs
  · exact made_withoutCredentials hclass hb hurls hopen s hs

end Intents

/-! ## Routes -/

section Routes

variable {svc : Service}

/-- The bundled engines make results addresses without user information. -/
theorem searchUrl_mem (hcat : svc.catalog = Search.bundledCatalog) {t url : String}
    (h : svc.engines.createSearchUrl? t = some url) : url ∈ Set.range Url.stripUserInfo := by
  rw [Service.engines, hcat] at h
  exact ⟨url, Search.stripUserInfo_createSearchUrl? h⟩

theorem searchUrl_getD_mem (hcat : svc.catalog = Search.bundledCatalog) (t : String) :
    (svc.engines.createSearchUrl? t).getD "" ∈ Set.range Url.stripUserInfo := by
  cases h : svc.engines.createSearchUrl? t with
  | none => exact ⟨"", rfl⟩
  | some url => exact searchUrl_mem hcat h

theorem addsStripped_submit {α : Type} (svc : Service) (c : Bool)
    {task : Registry → Except CallError (α × Registry)}
    (htask : ∀ a r', task svc.loop.registry = .ok (a, r') → svc.loop.registry.AddsStripped r') :
    svc.loop.registry.AddsStripped (svc.submit c task).2.loop.registry := by
  rcases Service.sessions_submit svc c task with h | ⟨a, r', hrun, h⟩
  · exact .of_sessions_eq h
  · exact (htask a r' hrun).congr h

theorem addsStripped_call {α : Type} (svc : Service) (c : Bool) (op : String)
    {task : Registry → Except CallError (α × Registry)}
    (htask : ∀ a r', task svc.loop.registry = .ok (a, r') → svc.loop.registry.AddsStripped r') :
    svc.loop.registry.AddsStripped (svc.call c op task).2.loop.registry :=
  addsStripped_submit svc c htask

variable (svc) (req : Request)

theorem addsStripped_health : svc.loop.registry.AddsStripped (health svc req).2.loop.registry := by
  unfold health
  dsimp only
  split <;>
  · exact addsStripped_submit _ _ fun a r' h => by
      cases h
      exact .refl _

theorem addsStripped_listSessions :
    svc.loop.registry.AddsStripped (listSessions svc req).2.loop.registry := by
  unfold listSessions
  rw [answer_snd]
  exact addsStripped_call _ _ _ fun a r' h => by
    cases h
    exact .refl _

theorem addsStripped_currentSession :
    svc.loop.registry.AddsStripped (currentSession svc req).2.loop.registry := by
  unfold currentSession
  rw [answer_snd]
  exact addsStripped_call _ _ _ fun a r' h => by
    split at h <;> cases h
    exact .refl _

theorem addsStripped_getSession (id : String) :
    svc.loop.registry.AddsStripped (getSession svc req id).2.loop.registry := by
  unfold getSession
  rw [answer_snd]
  exact addsStripped_call _ _ _ fun a r' h => by
    split at h <;> cases h
    exact .refl _

theorem addsStripped_createSession :
    svc.loop.registry.AddsStripped (createSession svc req).2.loop.registry := by
  unfold createSession
  split
  · exact .refl _
  · split
    · exact .refl _
    · dsimp only
      rw [answer_snd]
      exact addsStripped_call _ _ _ fun a r' h => by
        cases h
        exact Registry.addsStripped_create ⟨_, rfl⟩

theorem addsStripped_createSearchSession (hcat : svc.catalog = Search.bundledCatalog) :
    svc.loop.registry.AddsStripped (createSearchSession svc req).2.loop.registry := by
  unfold createSearchSession
  split
  · exact .refl _
  · split
    · exact .refl _
    · dsimp only
      rw [answer_snd]
      refine addsStripped_call _ _ _ fun a r' h => ?_
      cases h
      refine Registry.addsStripped_createSearch ?_
      -- an address given is stripped; without one, the engines make it
      split
      · exact searchUrl_getD_mem hcat _
      · exact ⟨_, rfl⟩

theorem addsStripped_loadInput (hcat : svc.catalog = Search.bundledCatalog) :
    svc.loop.registry.AddsStripped (loadInput svc req).2.loop.registry := by
  unfold loadInput
  split
  · exact .refl _
  · dsimp only
    split
    · exact .refl _
    · split
      · rw [answer_snd]
        exact addsStripped_call _ _ _ fun a r' h => by
          cases h
          exact Registry.addsStripped_createSearch (searchUrl_getD_mem hcat _)
      · -- an address is loaded, stripped, when its scheme is supported
        split <;> split
        any_goals exact .refl _
        all_goals
          rw [answer_snd]
          exact addsStripped_call _ _ _ fun a r' h => by
            cases h
            exact Registry.addsStripped_create ⟨_, rfl⟩

theorem addsStripped_selectSession (id : String) :
    svc.loop.registry.AddsStripped (selectSession svc req id).2.loop.registry := by
  unfold selectSession
  rw [answer_snd]
  exact addsStripped_call _ _ _ fun a r' h => by
    split at h
    · rename_i r₁ hsel
      cases h
      exact Registry.addsStripped_select hsel
    · cases h

theorem addsStripped_updateUrl (id : String) :
    svc.loop.registry.AddsStripped (updateUrl svc req id).2.loop.registry := by
  unfold updateUrl
  split
  · exact .refl _
  · dsimp only
    rw [answer_snd]
    exact addsStripped_call _ _ _ fun a r' h => by
      split at h
      · rename_i s r₁ hup
        cases h
        exact Registry.addsStripped_updateUrl hup ⟨_, rfl⟩
      · cases h

theorem addsStripped_removeSession (id : String) :
    svc.loop.registry.AddsStripped (removeSession svc req id).2.loop.registry := by
  unfold removeSession
  rw [answer_snd]
  exact addsStripped_call _ _ _ fun a r' h => by
    cases h
    exact Registry.addsStripped_remove id

theorem addsStripped_removeCurrentSession :
    svc.loop.registry.AddsStripped (removeCurrentSession svc req).2.loop.registry := by
  unfold removeCurrentSession
  rw [answer_snd]
  exact addsStripped_call _ _ _ fun a r' h => by
    cases h
    exact Registry.addsStripped_removeCurrent

theorem addsStripped_removeAllSessions :
    svc.loop.registry.AddsStripped (removeAllSessions svc req).2.loop.registry := by
  unfold removeAllSessions
  rw [answer_snd]
  exact addsStripped_call _ _ _ fun a r' h => by
    cases h
    exact Registry.addsStripped_removeAll

theorem addsStripped_handleIntent (hcat : svc.catalog = Search.bundledCatalog) (launch : Bool) :
    svc.loop.registry.AddsStripped (handleIntent svc req launch).2.loop.registry := by
  have hurls : ∀ t url, svc.engines.urlBuilder.build t = .ok url →
      url ∈ Set.range Url.stripUserInfo := fun _ _ h =>
    searchUrl_mem hcat (Search.Manager.urlBuilder_build_eq_ok.mp h)
  unfold handleIntent
  dsimp only
  split
  · exact .refl _
  · split
    · exact .refl _
    · rw [answer_snd]
      refine addsStripped_call _ _ _ fun a r' h => ?_
      split at h
      · rename_i s r₁ hopened
        cases h
        cases launch
        · simp only [Bool.false_eq_true, if_false] at hopened
          exact Registry.addsStripped_openIntent hopened (made_withoutCredentials rfl rfl hurls hopened)
        · simp only [if_true] at hopened
          exact Registry.addsStripped_launch hopened (made_launch_withoutCredentials rfl rfl hurls hopened)
      · cases h

/-- Every route keeps the sessions that were listed, or lists sessions at stripped addresses. -/
theorem addsStripped_runEndpoint (hcat : svc.catalog = Search.bundledCatalog) (e : Endpoint)
    (params : List (String × Bytes)) :
    svc.loop.registry.AddsStripped (runEndpoint e svc req params).2.loop.registry := by
  cases e
  case health => exact addsStripped_health svc req
  case listSessions => exact addsStripped_listSessions svc req
  case createSession => exact addsStripped_createSession svc req
  case removeAllSessions => exact addsStripped_removeAllSessions svc req
  case currentSession => exact addsStripped_currentSession svc req
  case removeCurrentSession => exact addsStripped_removeCurrentSession svc req
  case createSearchSession => exact addsStripped_createSearchSession svc req hcat
  case loadInput => exact addsStripped_loadInput svc req hcat
  case getSession => exact addsStripped_getSession svc req _
  case removeSession => exact addsStripped_removeSession svc req _
  case selectSession => exact addsStripped_selectSession svc req _
  case updateUrl => exact addsStripped_updateUrl svc req _
  case launchIntent => exact addsStripped_handleIntent svc req hcat true
  case newIntent => exact addsStripped_handleIntent svc req hcat false
  -- the other routes leave the registry alone
  all_goals
    refine .of_sessions_eq ?_
    simp only [runEndpoint, suggestions, setSearchSuggestions, setSearchEngine, addDomain,
      removeDomains, moveDomain, logLevel]
    repeat' split
    all_goals rfl

/-- No route changes the catalog. -/
theorem catalog_runEndpoint (e : Endpoint) (params : List (String × Bytes)) :
    (runEndpoint e svc req params).2.catalog = svc.catalog := by
  by_cases he : e = .setSearchEngine
  · subst he
    rcases setSearchEngine_cases svc req with ⟨-, h⟩ | ⟨_, _, -, -, h⟩
    · simp only [runEndpoint, h]
    · simp only [runEndpoint, h]
  · exact congrArg Search.Manager.catalog (runEndpoint_engines he svc req params)

end Routes

/-! ## Runs of requests -/

namespace App

variable {app : App} {req : Request} {now : Nat}

theorem catalog_serve (app : App) (req : Request) (now : Nat) :
    (app.serve req now).2.service.catalog = app.service.catalog := by
  rcases serve_cases app req now with ⟨hsvc, -⟩ | ⟨e, -, params, -, -, hsvc⟩
  · rw [hsvc]
  · rw [hsvc]
    exact catalog_runEndpoint _ req e params

/-- With the bundled catalog, serving a request keeps every address stripped. -/
theorem addressesStripped_serve (hcat : app.service.catalog = Search.bundledCatalog)
    (h : app.service.loop.registry.AddressesStripped) :
    (app.serve req now).2.service.loop.registry.AddressesStripped := by
  rcases serve_cases app req now with ⟨hsvc, -⟩ | ⟨e, -, params, -, -, hsvc⟩
  · rw [hsvc]
    exact h
  · rw [hsvc]
    exact h.of_addsStripped
      (addsStripped_runEndpoint { app.service with clock := now } req hcat e params)

end App

/-- Addresses through the service. Against a service with the bundled catalog, every route that
    takes an address from the client removes its user information before the registry sees it,
    and the engines make results addresses without any; so after any run of requests every
    session, as the snapshots handed to the hub show it, has an address that removing user
    information gives. -/
theorem sessions_keep_stripped_addresses {app app' : App}
    (hcat : app.service.catalog = Search.bundledCatalog)
    (hinit : app.service.loop.registry.AddressesStripped)
    (hrun : Relation.ReflTransGen App.Serves app app') :
    ∀ s ∈ app'.service.loop.registry.sessions, s.url ∈ Set.range Url.stripUserInfo := by
  -- the catalog is carried along the run with the invariant
  have hkept : app'.service.catalog = Search.bundledCatalog ∧
      app'.service.loop.registry.AddressesStripped := by
    induction hrun with
    | refl => exact ⟨hcat, hinit⟩
    | tail _ hstep ih =>
      obtain ⟨req, now, rfl⟩ := hstep
      exact ⟨(App.catalog_serve _ req now).trans ih.1, App.addressesStripped_serve ih.1 ih.2⟩
  exact hkept.2

/-! ## Credentials behind credentials -/

/-- A service with the bundled catalog and the route that opens sessions. -/
def sessionsApp : App :=
  { service := { catalog := Search.bundledCatalog },
    router := Router.build [("POST", "/sessions", .createSession)] }

/-- A request opening a session at `//user@//u2:pw@evil.com/`. -/
def openNested : Request :=
  { method := "POST", target := "/sessions",
    body := some "\x7b\"source\":\"view\",\"url\":\"//user@//u2:pw@evil.com/\"\x7d" }

theorem addresses_stripped_after_opening_nested :
    sessionsApp.service.catalog = Search.bundledCatalog ∧
    sessionsApp.service.loop.registry.AddressesStripped ∧
    Relation.ReflTransGen App.Serves sessionsApp (sessionsApp.serve openNested 0).2 ∧
    ∀ s ∈ (sessionsApp.serve openNested 0).2.service.loop.registry.sessions,
      s.url ∈ Set.range Url.stripUserInfo := by
  have hinit : sessionsApp.service.loop.registry.AddressesStripped :=
    Registry.addressesStripped_of_sessions_nil rfl
  have hrun : Relation.ReflTransGen App.Serves sessionsApp (sessionsApp.serve openNested 0).2 :=
    .single ⟨openNested, 0, rfl⟩
  exact ⟨rfl, hinit, hrun, sessions_keep_stripped_addresses rfl hinit hrun⟩

/-- Removing user information once can leave some: `//user@//u2:pw@evil.com/` loses `user@` and
    becomes `//u2:pw@evil.com/`, the address the service stores for it, from which removing user
    information again takes `u2:pw@`. -/
theorem stored_address_keeps_credentials :
    Url.stripUserInfo "//user@//u2:pw@evil.com/" = "//u2:pw@evil.com/" ∧
    (sessionsApp.serve openNested 0).2.service.loop.registry.sessions.map (·.url) =
      ["//u2:pw@evil.com/"] ∧
    Url.stripUserInfo "//u2:pw@evil.com/" = "//evil.com/" :=
  ⟨by decide +kernel, by decide +kernel, by decide +kernel⟩

end Api

end BrowserSessions
