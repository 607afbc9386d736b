import BrowserSessions.Proofs.Registry.Call
import BrowserSessions.Api.Handlers
import BrowserSessions.Proofs.Search.Bundled

/-!
# Intents with their credentials removed

The service hands the registry an intent with user information removed (`withoutCredentials`):
from its address, and from its shared text when that text is an address. Nothing else of the
intent changes (`sameButText_withoutCredentials`), and the registry reads an intent only through
its action, flags, address, shared text and other extras (`CustomTab.parse_congr`,
`Registry.openView_congr`, `Registry.openShare_congr`).

So the session opened for the stripped intent is the one the registry opens for the intent
itself, with its address stripped (a search session keeps the address the engines made), exactly
when stripping keeps what the registry makes of the intent (`Intent.KeepsKind`): an address to
view stays non-empty, and shared text that is an address stays a non-empty address
(`openIntent_withoutCredentials_iff`, `launch_withoutCredentials_iff`). Shared text such as
`//a:b@/x` is an address whose stripped form `/x` is not one, and the registry then searches for
`/x` instead of opening the address (`shared_address_with_credentials_is_searched`).
-/

namespace BrowserSessions

/-! ## Intents that differ only in their address and shared text -/

namespace Intent

/-- Two intents with the same action, flags and extras, but for the shared text. -/
structure SameButText (i' i : Intent) : Prop where
  action : i'.action = i.action
  flags : i'.flags = i.flags
  extra? : ∀ key, key ≠ extraText → i'.extra? key = i.extra? key

namespace SameButText

variable {i' i : Intent} (h : SameButText i' i) {key : String} (hk : key ≠ extraText)
include h hk

theorem presentExtra? : i'.presentExtra? key = i.presentExtra? key := by
  simp only [Intent.presentExtra?, h.extra? key hk]

theorem hasExtra : i'.hasExtra key = i.hasExtra key := by
  simp only [Intent.hasExtra, h.extra? key hk]

theorem boolExtra (d : Bool) : i'.boolExtra key d = i.boolExtra key d := by
  simp only [Intent.boolExtra, h.presentExtra? hk]

theorem intExtra (d : Int) : i'.intExtra key d = i.intExtra key d := by
  simp only [Intent.intExtra, h.presentExtra? hk]

theorem bundleExtra? : i'.bundleExtra? key = i.bundleExtra? key := by
  simp only [Intent.bundleExtra?, h.presentExtra? hk]

theorem bundleListExtra? : i'.bundleListExtra? key = i.bundleListExtra? key := by
  simp only [Intent.bundleListExtra?, h.presentExtra? hk]

end SameButText

theorem SameButText.launchedFromHistory {i' i : Intent} (h : SameButText i' i) :
    i'.launchedFromHistory = i.launchedFromHistory := by
  simp only [Intent.launchedFromHistory, Intent.hasFlag, h.flags]

end Intent

namespace CustomTab

variable {i' i : Intent}

theorem isCustomTab_congr (h : i'.SameButText i) : isCustomTab i' = isCustomTab i :=
  h.hasExtra (by decide)

theorem parse_congr (h : i'.SameButText i) : parse i' = parse i := by
  simp only [parse, h.hasExtra (by decide : extraCloseButtonIcon ≠ Intent.extraText),
    h.boolExtra (by decide : extraDisableUrlBarHiding ≠ Intent.extraText),
    h.boolExtra (by decide : extraDefaultShareMenu ≠ Intent.extraText),
    h.hasExtra (by decide : extraToolbarColor ≠ Intent.extraText),
    h.intExtra (by decide : extraToolbarColor ≠ Intent.extraText),
    h.bundleExtra? (by decide : extraActionButtonBundle ≠ Intent.extraText),
    h.boolExtra (by decide : extraTintActionButton ≠ Intent.extraText),
    h.bundleListExtra? (by decide : extraMenuItems ≠ Intent.extraText)]

end CustomTab

/-! ## Removing credentials from an intent -/

namespace Api

variable (i : Intent)

theorem data_withoutCredentials : (withoutCredentials i).data = Url.stripUserInfo i.data := by
  unfold withoutCredentials
  dsimp only
  split <;> rfl

/-- Filtering out what a search never finds does not change what it finds. -/
theorem find?_filter_of_imp {α : Type} {p q : α → Bool} (h : ∀ a, q a = true → p a = true)
    (l : List α) : (l.filter p).find? q = l.find? q := by
  induction l with
  | nil => rfl
  | cons a l ih =>
    by_cases hq : q a = true
    · simp [h a hq, hq]
    · by_cases hp : p a = true <;> simp [hp, hq, ih]

/-- An intent whose shared text was replaced has every other extra of the one it came from. -/
theorem extra?_of_replaceText {i j : Intent} {v : Json}
    (h : j.extras = i.extras.filter (·.1 != Intent.extraText) ++ [(Intent.extraText, v)])
    (key : String) : j.extra? key = if key = Intent.extraText then some v else i.extra? key := by
  by_cases hk : key = Intent.extraText
  · subst hk
    simp [Intent.extra?, h]
  · have hne : (Intent.extraText == key) = false := by simpa using Ne.symm hk
    simp only [Intent.extra?, h, List.reverse_append, List.reverse_cons, List.reverse_nil,
      List.nil_append, List.singleton_append, List.find?_cons, hne, if_neg hk,
      ← List.filter_reverse]
    rw [find?_filter_of_imp]
    intro a ha
    simp only [beq_iff_eq] at ha
    simp [ha, hk]

theorem sameButText_withoutCredentials : (withoutCredentials i).SameButText i := by
  unfold withoutCredentials
  dsimp only
  split
  · refine ⟨rfl, rfl, fun key hk => ?_⟩
    rw [extra?_of_replaceText rfl, if_neg hk]
  · exact ⟨rfl, rfl, fun key _ => rfl⟩

theorem text_withoutCredentials :
    (withoutCredentials i).stringExtra Intent.extraText =
      if i.stringExtra Intent.extraText ≠ "" ∧ Url.looksLikeAddress (i.stringExtra Intent.extraText)
      then Url.stripUserInfo (i.stringExtra Intent.extraText) else i.stringExtra Intent.extraText := by
  have ht : ({ i with data := Url.stripUserInfo i.data } : Intent).stringExtra Intent.extraText =
      i.stringExtra Intent.extraText := rfl
  unfold withoutCredentials
  dsimp only
  simp only [ht]
  split
  · rename_i hcond
    rw [if_pos (by simpa [String.isEmpty_iff] using hcond)]
    -- the replaced text is the last extra with its key
    simp [Intent.stringExtra, Intent.presentExtra?, Intent.extra?, Loose.toText?]
  · rename_i hcond
    rw [if_neg (by simpa [String.isEmpty_iff] using hcond)]
    rfl

end Api

/-! ## What the registry makes of an intent -/

namespace Registry

variable {r r' : Registry} {services : LaunchServices} {now : Nat} {i' i : Intent}

/-- Intents that differ in their address and shared text open the same session for a view, but
    for its address, when both addresses are empty or neither is and the custom tab parser reads
    neither. -/
theorem openView_congr (h : i'.SameButText i) (hd : i'.data.isEmpty = i.data.isEmpty)
    (hp : ∀ p ∈ services.customTabs, p.isCustomTab i' = p.isCustomTab i ∧ p.parse i' = p.parse i) :
    (r.openView services now i').map Prod.fst =
      (r.openView services now i).map fun p => { p.1 with url := i'.data } := by
  unfold openView
  rw [hd]
  split
  · rfl
  · simp only [h.hasExtra (by decide : Intent.extraHomeScreen ≠ Intent.extraText),
      h.boolExtra (by decide : Intent.extraBlockingEnabled ≠ Intent.extraText)]
    cases htabs : services.customTabs with
    | none => rfl
    | some p =>
      obtain ⟨htab, hparse⟩ := hp p htabs
      -- the parser recognises both intents or neither, and reads the same chrome from both
      by_cases hc : p.isCustomTab i = true
      · simp only [Option.filter, htab, hc, if_true, hparse]
        rfl
      · simp only [Option.filter, htab, hc, Bool.false_eq_true, if_false]
        rfl

theorem openView_of_empty (h : i.data = "") : r.openView services now i = none := by
  simp [openView, h]

/-- A view opens a session at the intent's address, and not a search session. -/
theorem openView_session {s : Session} (h : r.openView services now i = some (s, r')) :
    s.url = i.data ∧ ∀ terms, s.payload ≠ .search terms := by
  unfold openView at h
  split at h
  · cases h
  · dsimp only at h
    split at h
    · cases h
      exact ⟨rfl, fun _ => Payload.noConfusion⟩
    · cases h
      exact ⟨rfl, fun _ => Payload.noConfusion⟩

theorem openShare_congr (ht : i'.stringExtra Intent.extraText = i.stringExtra Intent.extraText) :
    r.openShare services now i' = r.openShare services now i := by
  unfold openShare
  rw [ht]

theorem openShare_of_empty (ht : i.stringExtra Intent.extraText = "") :
    r.openShare services now i = .ok none := by
  simp [openShare, ht]

theorem openShare_of_address (hne : i.stringExtra Intent.extraText ≠ "")
    (hl : services.isUrl (i.stringExtra Intent.extraText) = true) :
    r.openShare services now i = .ok (some (r.create now "share" (i.stringExtra Intent.extraText))) := by
  simp [openShare, hne, hl]

theorem openShare_of_search {b : SearchUrlBuilder} {url : String}
    (hne : i.stringExtra Intent.extraText ≠ "")
    (hl : services.isUrl (i.stringExtra Intent.extraText) = false)
    (hb : services.searchUrls = some b) (hurl : b.build (i.stringExtra Intent.extraText) = .ok url) :
    r.openShare services now i =
      .ok (some (r.createSearch now "share" url (i.stringExtra Intent.extraText))) := by
  simp [openShare, hne, hl, hb, hurl]

theorem payload_of_openShare {s : Session}
    (hl : services.isUrl (i.stringExtra Intent.extraText) = false)
    (h : r.openShare services now i = .ok (some (s, r'))) :
    s.payload = .search (i.stringExtra Intent.extraText) := by
  obtain ⟨-, ⟨hl', -⟩ | ⟨-, m, url, -, -, rfl, -⟩⟩ := openShare_eq_some h
  · exact absurd hl' (by simp [hl])
  · rfl

/-- Shared text that is no address opens nothing, fails, or opens a search for it. -/
theorem payload_of_map_openShare {s : Session}
    (hl : services.isUrl (i.stringExtra Intent.extraText) = false)
    (h : Option.map Prod.fst <$> r.openShare services now i = .ok (some s)) :
    s.payload = .search (i.stringExtra Intent.extraText) := by
  cases hd : r.openShare services now i with
  | error e =>
    rw [hd] at h
    cases h
  | ok opened =>
    rw [hd] at h
    cases opened with
    | none => cases h
    | some p =>
      cases h
      exact payload_of_openShare hl hd

/-- The session handling an intent makes, by action. -/
theorem made_openIntent (r : Registry) (services : LaunchServices) (now : Nat) (i : Intent) :
    Prod.fst <$> r.openIntent services now i =
      if i.action = Intent.actionView then .ok ((r.openView services now i).map Prod.fst)
      else if i.action = Intent.actionSend then Option.map Prod.fst <$> r.openShare services now i
      else .ok none := by
  unfold openIntent
  by_cases hview : i.action = Intent.actionView
  · simp only [hview, beq_self_eq_true, if_true]
    cases r.openView services now i <;> rfl
  · have hview' : (i.action == Intent.actionView) = false := by simpa using hview
    by_cases hsend : i.action = Intent.actionSend
    · simp only [hsend, beq_self_eq_true, if_true]
      cases r.openShare services now i with
      | error e => rfl
      | ok opened => cases opened <;> rfl
    · have hsend' : (i.action == Intent.actionSend) = false := by simpa using hsend
      simp only [hview', hsend', if_neg hview, if_neg hsend, Bool.false_eq_true, if_false]
      rfl

theorem made_launch (r : Registry) (services : LaunchServices) (now : Nat) (i : Intent)
    (restoring : Bool) :
    Prod.fst <$> r.launch services now i restoring =
      if i.launchedFromHistory = true ∨ restoring = true then .ok none
      else Prod.fst <$> r.openIntent services now i := by
  unfold launch
  by_cases hh : i.launchedFromHistory = true
  · rw [if_pos hh, if_pos (.inl hh)]
    rfl
  · by_cases hr : restoring = true
    · rw [if_neg hh, if_pos hr, if_pos (.inr hr)]
      rfl
    · rw [if_neg hh, if_neg hr, if_neg (by simp [hh, hr])]

end Registry

/-! ## Stripping keeps what the registry makes of an intent -/

/-- A session with its address stripped of user information, unless it is a search session, whose
    address the engines made. -/
def Session.stripAddress (s : Session) : Session :=
  match s.payload with
  | .search _ => s
  | _ => { s with url := Url.stripUserInfo s.url }

theorem Session.stripAddress_of_search {s : Session} {terms : String} (h : s.payload = .search terms) :
    s.stripAddress = s := by
  simp [Session.stripAddress, h]

/-- Stripping credentials keeps what the registry makes of an intent: an address to view stays
    non-empty, and shared text that is an address stays a non-empty address. -/
def Intent.KeepsKind (i : Intent) : Prop :=
  (i.action = Intent.actionView → i.data ≠ "" → Url.stripUserInfo i.data ≠ "") ∧
  (i.action = Intent.actionSend → i.stringExtra Intent.extraText ≠ "" →
    Url.looksLikeAddress (i.stringExtra Intent.extraText) = true →
    Url.stripUserInfo (i.stringExtra Intent.extraText) ≠ "" ∧
      Url.looksLikeAddress (Url.stripUserInfo (i.stringExtra Intent.extraText)) = true)

instance : DecidablePred Intent.KeepsKind := fun _ =>
  inferInstanceAs (Decidable (_ ∧ _))

/-- Services that read an intent as the service strips it: shared text is classified by the
    address test credentials are stripped by, and the custom tab parser, when there is one, reads
    neither the address nor the shared text. The service's own services read intents so
    (`Api.Service.readsAsService_launchServices`). -/
structure LaunchServices.ReadsAsService (services : LaunchServices) : Prop where
  isUrl_eq : services.isUrl = Url.looksLikeAddress
  parser_congr : ∀ p ∈ services.customTabs, ∀ {i' i : Intent}, i'.SameButText i →
    p.isCustomTab i' = p.isCustomTab i ∧ p.parse i' = p.parse i

theorem CustomTab.parser_congr {i' i : Intent} (h : i'.SameButText i) :
    CustomTab.parser.isCustomTab i' = CustomTab.parser.isCustomTab i ∧
      CustomTab.parser.parse i' = CustomTab.parser.parse i :=
  ⟨CustomTab.isCustomTab_congr h, CustomTab.parse_congr h⟩

/-- The service opens intents with the address test and, when custom tabs are on, the shipped
    parser. -/
theorem Api.Service.readsAsService_launchServices (svc : Api.Service) :
    svc.launchServices.ReadsAsService where
  isUrl_eq := rfl
  parser_congr p hp _ _ h := by
    unfold Api.Service.launchServices at hp
    split at hp
    · cases hp
      exact CustomTab.parser_congr h
    · cases hp

namespace Api

open Registry

variable (r : Registry) (services : LaunchServices) (now : Nat) (i : Intent)

@[simp] theorem stripUserInfo_empty : Url.stripUserInfo "" = "" := rfl

/-- A view of the stripped intent opens the session a view of the intent opens, with its address
    stripped, exactly when stripping leaves a non-empty address non-empty. -/
theorem openView_withoutCredentials_iff (hs : services.ReadsAsService) :
    (r.openView services now (withoutCredentials i)).map Prod.fst =
        ((r.openView services now i).map Prod.fst).map Session.stripAddress ↔
      (i.data ≠ "" → Url.stripUserInfo i.data ≠ "") := by
  have hsame := sameButText_withoutCredentials i
  have hdata := data_withoutCredentials i
  by_cases hd : i.data = ""
  · rw [openView_of_empty hd, openView_of_empty (by rw [hdata, hd]; rfl)]
    simp [hd]
  · cases hv : r.openView services now i with
    | none => simp [openView, hd] at hv
    | some p =>
      obtain ⟨s, r₁⟩ := p
      obtain ⟨hurl, hpayload⟩ := openView_session hv
      by_cases hempty : Url.stripUserInfo i.data = ""
      · rw [openView_of_empty (by rw [hdata, hempty])]
        simp [hd, hempty]
      · have hne : (withoutCredentials i).data.isEmpty = i.data.isEmpty := by
          rw [hdata, Bool.eq_iff_iff, String.isEmpty_iff, String.isEmpty_iff]
          exact ⟨fun h => absurd h hempty, fun h => absurd h hd⟩
        rw [openView_congr hsame hne fun p hp => hs.parser_congr p hp hsame, hv]
        have hstrip : s.stripAddress = { s with url := Url.stripUserInfo i.data } := by
          unfold Session.stripAddress
          split
          · rename_i terms hterms
            exact absurd hterms (hpayload terms)
          · rw [hurl]
        simp [hstrip, hdata, hempty]

/-- Sharing the stripped intent opens the session sharing the intent opens, with its address
    stripped, exactly when shared text that is an address stays a non-empty address. -/
theorem openShare_withoutCredentials_iff (hs : services.ReadsAsService) :
    Option.map Prod.fst <$> r.openShare services now (withoutCredentials i) =
        Option.map Session.stripAddress <$> (Option.map Prod.fst <$> r.openShare services now i) ↔
      (i.stringExtra Intent.extraText ≠ "" →
        Url.looksLikeAddress (i.stringExtra Intent.extraText) = true →
        Url.stripUserInfo (i.stringExtra Intent.extraText) ≠ "" ∧
          Url.looksLikeAddress (Url.stripUserInfo (i.stringExtra Intent.extraText)) = true) := by
  have htext := text_withoutCredentials i
  generalize ht : i.stringExtra Intent.extraText = t at htext ⊢
  by_cases haddr : t ≠ "" ∧ Url.looksLikeAddress t = true
  · -- the text is an address, which the registry opens as it is
    rw [if_pos haddr] at htext
    have hdirect : r.openShare services now i = .ok (some (r.create now "share" t)) := by
      rw [openShare_of_address (by rw [ht]; exact haddr.1) (by rw [ht, hs.isUrl_eq]; exact haddr.2),
        ht]
    rw [hdirect]
    by_cases hkept : Url.stripUserInfo t ≠ "" ∧ Url.looksLikeAddress (Url.stripUserInfo t) = true
    · have hapi : r.openShare services now (withoutCredentials i) =
          .ok (some (r.create now "share" (Url.stripUserInfo t))) := by
        rw [openShare_of_address (by rw [htext]; exact hkept.1)
          (by rw [htext, hs.isUrl_eq]; exact hkept.2), htext]
      rw [hapi]
      exact ⟨fun _ _ _ => hkept, fun _ => rfl⟩
    · refine ⟨fun heq => absurd ?_ hkept, fun h => absurd (h haddr.1 haddr.2) hkept⟩
      by_cases hempty : Url.stripUserInfo t = ""
      · rw [openShare_of_empty (by rw [htext]; exact hempty)] at heq
        cases heq
      · -- the stripped text is no address, so it opens a search and never the plain session
        have hl : Url.looksLikeAddress (Url.stripUserInfo t) = false := by
          simpa [hempty] using hkept
        have hpay := payload_of_map_openShare (by rw [htext, hs.isUrl_eq]; exact hl) heq
        simp [create, add, newSession, Session.stripAddress] at hpay
  · -- the text is kept, and what it opens is nothing, a failure or a search
    rw [if_neg haddr] at htext
    rw [openShare_congr (htext.trans ht.symm)]
    refine ⟨fun _ hne hl => absurd ⟨hne, hl⟩ haddr, fun _ => ?_⟩
    cases hd : Option.map Prod.fst <$> r.openShare services now i with
    | error e => rfl
    | ok opened =>
      cases opened with
      | none => rfl
      | some s =>
        -- text that opens a session is not empty, so it is no address and is searched
        have hne : t ≠ "" := fun h => by
          rw [openShare_of_empty (ht.trans h)] at hd
          cases hd
        have hl : Url.looksLikeAddress t = false := by simpa [hne] using haddr
        have hpay := payload_of_map_openShare (by rw [ht, hs.isUrl_eq]; exact hl) hd
        show Except.ok (some s) = Except.ok (some s.stripAddress)
        rw [Session.stripAddress_of_search hpay]

/-- Handling the stripped intent makes the session handling the intent makes, with its address
    stripped, exactly when stripping keeps what the registry makes of the intent. -/
theorem openIntent_withoutCredentials_iff (hs : services.ReadsAsService) :
    Prod.fst <$> r.openIntent services now (withoutCredentials i) =
        Option.map Session.stripAddress <$> (Prod.fst <$> r.openIntent services now i) ↔
      i.KeepsKind := by
  rw [made_openIntent, made_openIntent, (sameButText_withoutCredentials i).action]
  by_cases hview : i.action = Intent.actionView
  · have hsend : i.action ≠ Intent.actionSend := by rw [hview]; decide
    rw [if_pos hview, if_pos hview]
    have hiff := openView_withoutCredentials_iff r services now i hs
    constructor
    · intro h
      injection h with h
      exact ⟨fun _ => hiff.1 h, fun h' => absurd h' hsend⟩
    · intro h
      exact congrArg Except.ok (hiff.2 (h.1 hview))
  · rw [if_neg hview, if_neg hview]
    by_cases hsend : i.action = Intent.actionSend
    · rw [if_pos hsend, if_pos hsend, openShare_withoutCredentials_iff r services now i hs]
      exact ⟨fun h => ⟨fun h' => absurd h' hview, fun _ => h⟩, fun h => h.2 hsend⟩
    · rw [if_neg hsend, if_neg hsend]
      exact ⟨fun _ => ⟨fun h' => absurd h' hview, fun h' => absurd h' hsend⟩, fun _ => rfl⟩

/-- The same for launch intents, which open nothing when replayed from the recent-apps list or
    seen while saved state is restored. -/
theorem launch_withoutCredentials_iff (hs : services.ReadsAsService) (restoring : Bool) :
    Prod.fst <$> r.launch services now (withoutCredentials i) restoring =
        Option.map Session.stripAddress <$> (Prod.fst <$> r.launch services now i restoring) ↔
      i.launchedFromHistory = true ∨ restoring = true ∨ i.KeepsKind := by
  rw [made_launch, made_launch, (sameButText_withoutCredentials i).launchedFromHistory]
  by_cases hskip : i.launchedFromHistory = true ∨ restoring = true
  · rw [if_pos hskip, if_pos hskip]
    refine ⟨fun _ => ?_, fun _ => rfl⟩
    rcases hskip with h | h
    · exact .inl h
    · exact .inr (.inl h)
  · rw [if_neg hskip, if_neg hskip, openIntent_withoutCredentials_iff r services now i hs]
    simp only [not_or] at hskip
    simp [hskip.1, hskip.2]

/-- Intents through the service. The session the service opens for an intent, launched or
    delivered to a running browser, is the one the registry opens for the intent itself, with its
    address stripped of user information (a search session keeps the address the engines made),
    exactly when stripping keeps what the registry makes of the intent: an address to view stays
    non-empty, and shared text that is an address stays a non-empty address. A launch intent
    replayed from the recent-apps list or seen while restoring opens nothing either way. This
    holds whenever the registry reads intents as the service strips them, as the service's own
    registry does. -/
theorem intents_open_as_registry_iff_kind_kept (r : Registry) (services : LaunchServices)
    (now : Nat) (i : Intent) (hs : services.ReadsAsService) :
    (∀ restoring : Bool,
      Prod.fst <$> r.launch services now (withoutCredentials i) restoring =
          Option.map Session.stripAddress <$> (Prod.fst <$> r.launch services now i restoring) ↔
        i.launchedFromHistory = true ∨ restoring = true ∨ i.KeepsKind) ∧
    (Prod.fst <$> r.openIntent services now (withoutCredentials i) =
        Option.map Session.stripAddress <$> (Prod.fst <$> r.openIntent services now i) ↔
      i.KeepsKind) :=
  ⟨launch_withoutCredentials_iff r services now i hs,
    openIntent_withoutCredentials_iff r services now i hs⟩

/-- The default services, with the shipped parser and the address test, read intents as the
    service strips them. -/
theorem readsAsService_default : ({} : LaunchServices).ReadsAsService where
  isUrl_eq := rfl
  parser_congr p hp _ _ h := by
    cases hp
    exact CustomTab.parser_congr h

theorem empty_intent_opens_as_registry :
    ({} : LaunchServices).ReadsAsService ∧
    ((∀ restoring : Bool,
      Prod.fst <$> ({} : Registry).launch {} 0 (withoutCredentials {}) restoring =
          Option.map Session.stripAddress <$> (Prod.fst <$> ({} : Registry).launch {} 0 {} restoring) ↔
        Intent.launchedFromHistory {} = true ∨ restoring = true ∨ Intent.KeepsKind {}) ∧
    (Prod.fst <$> ({} : Registry).openIntent {} 0 (withoutCredentials {}) =
        Option.map Session.stripAddress <$> (Prod.fst <$> ({} : Registry).openIntent {} 0 {}) ↔
      Intent.KeepsKind {})) :=
  ⟨readsAsService_default, intents_open_as_registry_iff_kind_kept {} {} 0 {} readsAsService_default⟩

end Api

/-! ## Shared text that stops being an address -/

/-- An intent sharing `//a:b@/x`. -/
def sharedCredentials : Intent :=
  { action := Intent.actionSend, extras := [(Intent.extraText, .str "//a:b@/x")] }

/-- Searches for shared text go to the bundled engines. -/
def bundledServices : LaunchServices :=
  { searchUrls := some ({ catalog := Search.bundledCatalog } : Search.Manager).urlBuilder }

/-- Sharing `//a:b@/x` opens that address, but with its credentials removed the text is `/x`,
    which is no address, and the registry searches for it. -/
theorem shared_address_with_credentials_is_searched :
    ¬ sharedCredentials.KeepsKind ∧
    Prod.fst <$> ({} : Registry).launch bundledServices 0 sharedCredentials false =
      .ok (some (({} : Registry).create 0 "share" "//a:b@/x").1) ∧
    Prod.fst <$> ({} : Registry).launch bundledServices 0 (Api.withoutCredentials sharedCredentials)
        false =
      .ok (some (({} : Registry).createSearch 0 "share"
        "https://www.google.com/search?q=%2Fx&ie=utf-8&oe=utf-8" "/x").1) := by
  have htext : sharedCredentials.stringExtra Intent.extraText = "//a:b@/x" := by decide +kernel
  have haddr : Url.looksLikeAddress "//a:b@/x" = true := by
    simp only [Url.looksLikeAddress, String.contains_char_eq]
    decide +kernel
  have hstrip : Url.stripUserInfo "//a:b@/x" = "/x" := by decide +kernel
  have hplain : Url.looksLikeAddress "/x" = false := by
    simp only [Url.looksLikeAddress, String.contains_char_eq]
    decide +kernel
  have hhistory : sharedCredentials.launchedFromHistory = false := by decide +kernel
  have hsend : sharedCredentials.action = Intent.actionSend := rfl
  have hsame := Api.sameButText_withoutCredentials sharedCredentials
  have htext' : (Api.withoutCredentials sharedCredentials).stringExtra Intent.extraText = "/x" := by
    rw [Api.text_withoutCredentials, if_pos (by rw [htext]; exact ⟨by decide, haddr⟩), htext,
      hstrip]
  have hurl : ({ catalog := Search.bundledCatalog } : Search.Manager).createSearchUrl? "/x" =
      some "https://www.google.com/search?q=%2Fx&ie=utf-8&oe=utf-8" := by
    rw [Search.bundledCatalog_eq]
    decide +kernel
  refine ⟨fun hk => ?_, ?_, ?_⟩
  · -- the stripped text is no address
    have hkept := (hk.2 rfl (by rw [htext]; decide) (by rw [htext]; exact haddr)).2
    rw [htext, hstrip, hplain] at hkept
    cases hkept
  · rw [Registry.made_launch, if_neg (by simp [hhistory]), Registry.made_openIntent,
      if_neg (by decide), if_pos hsend,
      Registry.openShare_of_address (by rw [htext]; decide) (by rw [htext]; exact haddr), htext]
    rfl
  · rw [Registry.made_launch, if_neg (by simp [hsame.launchedFromHistory, hhistory]),
      Registry.made_openIntent, hsame.action, if_neg (by decide),
      if_pos hsend,
      Registry.openShare_of_search (by rw [htext']; decide) (by rw [htext']; exact hplain) rfl
        (by rw [htext', Search.Manager.urlBuilder_build_eq_ok]; exact hurl), htext']
    rfl

end BrowserSessions
