import BrowserSessions.Proofs.Api.Intents
import BrowserSessions.Proofs.Search.Default

/-!
# Launch intents

Which launch intents open a session, and what session.

An intent is accepted unless bit 20 of its flags (`0x00100000`, replayed from the recent-apps
list) is set or saved state is being restored. The flag test works on the flags as a 64-bit
word; `launchedFromHistory_iff` reads it as that bit of the integer, whatever its size. An
accepted intent then opens a session when it views a non-empty address, or shares non-empty
text that the classifier takes for an address or that the search URL builder makes an address
for. A builder that panics on the text fails the whole call with its panic
(`openShare_eq_error_iff`); the search engines panic exactly when their catalog has no engines
(`Search.Manager.urlBuilder_build_eq_error_iff`). Nothing else opens a session, and then
nothing a snapshot shows changes.

A view becomes a custom tab session when there is a custom tab parser and it recognises the
intent (the shipped parser: the custom-tab session extra is present), a home-screen session when
the `add_to_homescreen` extra is present, and a plain view otherwise; content blocking follows
the `blocking_enabled` extra exactly when the home-screen extra is present, custom tabs
included. Shared text opens as it is when it is an address, and as a search for it otherwise.

The main statement is `launch_follows_decision_table`.
-/

namespace BrowserSessions

/-! ## The history flag -/

/-- Sharing and viewing are different actions. -/
theorem Intent.actionSend_ne_actionView : Intent.actionSend ≠ Intent.actionView := by decide

/-- An intent is replayed from the recent-apps list exactly when bit 20 of its flags is set.
The flags are tested as a 64-bit word, which keeps that bit of any integer. -/
theorem Intent.launchedFromHistory_iff (i : Intent) :
    i.launchedFromHistory = true ↔ i.flags / 1048576 % 2 = 1 := by
  -- masking with a power of two keeps that power exactly when its bit is set
  have hmask : ∀ n k : Nat, n &&& 2 ^ k = 2 ^ k ↔ n.testBit k = true := by
    intro n k
    constructor
    · intro h
      simpa [Nat.testBit_and, Nat.testBit_two_pow] using congrArg (Nat.testBit · k) h
    · intro h
      apply Nat.eq_of_testBit_eq
      intro j
      by_cases hj : k = j
      · subst hj
        simp [Nat.testBit_and, h]
      · simp [Nat.testBit_and, hj]
  have hc : (1048576 : Int).toInt64.toBitVec.toNat = 2 ^ 20 := by decide
  have hx : i.flags.toInt64.toBitVec.toNat = (i.flags % 18446744073709551616).toNat := by
    show (Int64.ofInt i.flags).toBitVec.toNat = _
    rw [Int64.toBitVec_ofInt, BitVec.toNat_ofInt]
    rfl
  simp only [Intent.launchedFromHistory, Intent.hasFlag, Intent.flagLaunchedFromHistory, beq_iff_eq,
    ← Int64.toBitVec_inj, ← BitVec.toNat_inj, Int64.toBitVec_and, BitVec.toNat_and, hc, hx,
    hmask, Nat.testBit_eq_decide_div_mod_eq, decide_eq_true_eq]
  -- wrapping to 64 bits moves the integer by a multiple of the bit's place value
  omega

/-! ## Search addresses -/

/-- A search address can be made exactly when the catalog has an engine. -/
theorem Search.Manager.createSearchUrl?_eq_none_iff (m : Search.Manager) (terms : String) :
    m.createSearchUrl? terms = none ↔ m.catalog.engines = [] := by
  -- the default engine is one of the engines, and a catalog with engines has one
  have hnone : m.defaultEngine? = none ↔ m.catalog.engines = [] := by
    constructor
    · intro h
      cases he : m.catalog.engines with
      | nil => rfl
      | cons e es =>
        have hsome := Search.Manager.defaultEngine?_isSome (m := m) (by simp [he])
        simp [h] at hsome
    · intro h
      cases hd : m.defaultEngine? with
      | none => rfl
      | some e =>
        have hmem := Search.Manager.mem_of_defaultEngine? hd
        simp [h] at hmem
  simp [Search.Manager.createSearchUrl?, hnone]

/-- The search engines panic exactly when the catalog has no engines, indexing the empty list. -/
theorem Search.Manager.urlBuilder_build_eq_error_iff (m : Search.Manager) (terms : String)
    (e : SearchPanic) :
    m.urlBuilder.build terms = .error e ↔
      m.catalog.engines = [] ∧ e = ⟨"runtime error: index out of range [0] with length 0"⟩ := by
  rw [← Search.Manager.createSearchUrl?_eq_none_iff m terms]
  cases h : m.createSearchUrl? terms with
  | none => simp [Search.Manager.urlBuilder, h, eq_comm]
  | some url => simp [Search.Manager.urlBuilder, h]

namespace Registry

variable {r r' : Registry} {services : LaunchServices} {now : Nat} {i : Intent} {s : Session}

/-! ## Views -/

/-- The source of the session a view opens: a custom tab when the parser recognises the intent. -/
def viewSource (services : LaunchServices) (i : Intent) : String :=
  match services.customTabs.filter (·.isCustomTab i) with
  | some _ => "custom_tab"
  | none => if i.hasExtra Intent.extraHomeScreen then "home_screen" else "view"

/-- The payload of the session a view opens: the chrome the parser reads, for a custom tab. -/
def viewPayload (services : LaunchServices) (i : Intent) : Payload :=
  match services.customTabs.filter (·.isCustomTab i) with
  | some p => .customTab (p.parse i)
  | none => .plain

/-- Whether the session a view opens blocks content. -/
def viewBlocking (i : Intent) : Bool :=
  if i.hasExtra Intent.extraHomeScreen then i.boolExtra Intent.extraBlockingEnabled true else true

theorem openView_eq_none_iff : r.openView services now i = none ↔ i.data = "" := by
  unfold openView
  by_cases hd : i.data = ""
  · simp [hd]
  · simp [hd, String.isEmpty_iff]

/-- The session a view opens: at the intent's address, from its source, with its payload and
blocking state. -/
theorem openView_fields (h : r.openView services now i = some (s, r')) :
    s.url = i.data ∧ s.source = viewSource services i ∧ s.payload = viewPayload services i ∧
      s.blockingEnabled = viewBlocking i := by
  unfold openView at h
  split at h
  · cases h
  · dsimp only at h
    split at h
    · rename_i p htab
      cases h
      simp [newSession, viewSource, viewPayload, viewBlocking, htab]
    · rename_i htab
      cases h
      simp [newSession, viewSource, viewPayload, viewBlocking, htab]

/-- With the shipped parser a view is a custom tab exactly when it carries the custom-tab session
extra, and then has the chrome `CustomTab.parse` reads. -/
theorem viewSource_payload_of_shipped (h : services.customTabs = some CustomTab.parser) :
    viewSource services i =
        (if i.hasExtra CustomTab.extraSession then "custom_tab"
        else if i.hasExtra Intent.extraHomeScreen then "home_screen" else "view") ∧
      viewPayload services i =
        if i.hasExtra CustomTab.extraSession then .customTab (CustomTab.parse i) else .plain := by
  -- the shipped parser recognises the intent by the extra
  cases hs : i.hasExtra CustomTab.extraSession <;>
    simp [viewSource, viewPayload, h, Option.filter, CustomTab.parser, CustomTab.isCustomTab, hs]

/-- Without a parser no view is a custom tab. -/
theorem viewSource_payload_of_none (h : services.customTabs = none) :
    viewSource services i = (if i.hasExtra Intent.extraHomeScreen then "home_screen" else "view") ∧
      viewPayload services i = .plain := by
  simp [viewSource, viewPayload, h]

/-! ## Shared text -/

/-- Shared text opens a session exactly when it is not empty, and the classifier takes it for an
address or the builder makes an address for it. -/
theorem openShare_isSome_iff :
    (∃ p, r.openShare services now i = .ok (some p)) ↔
      i.stringExtra Intent.extraText ≠ "" ∧
        (services.isUrl (i.stringExtra Intent.extraText) = true ∨
          ∃ b url, services.searchUrls = some b ∧
            b.build (i.stringExtra Intent.extraText) = .ok url) := by
  unfold openShare
  by_cases ht : i.stringExtra Intent.extraText = ""
  · simp [ht]
  · cases hl : services.isUrl (i.stringExtra Intent.extraText)
    · cases hb : services.searchUrls with
      | none => simp [ht, hl]
      | some b =>
        cases hurl : b.build (i.stringExtra Intent.extraText) with
        | error e => simp [ht, hl, hurl]
        | ok url => simp [ht, hl, hurl]
    · simp [ht, hl, String.isEmpty_iff]

/-- Sharing fails with a panic exactly for non-empty text that is no address, with a builder that
panics on it with that panic. -/
theorem openShare_eq_error_iff (e : SearchPanic) :
    r.openShare services now i = .error e ↔
      i.stringExtra Intent.extraText ≠ "" ∧
        services.isUrl (i.stringExtra Intent.extraText) = false ∧
          ∃ b, services.searchUrls = some b ∧ b.build (i.stringExtra Intent.extraText) = .error e := by
  unfold openShare
  by_cases ht : i.stringExtra Intent.extraText = ""
  · simp [ht]
  · cases hl : services.isUrl (i.stringExtra Intent.extraText)
    · cases hb : services.searchUrls with
      | none => simp [ht, hl]
      | some b =>
        cases hurl : b.build (i.stringExtra Intent.extraText) with
        | error e' => simp [ht, hl, hurl]
        | ok url => simp [ht, hl, hurl]
    · simp [ht, hl, String.isEmpty_iff]

/-- The session shared text opens: shared, blocking content, at the text when it is an address,
and otherwise a search for it at the address the builder made. -/
theorem openShare_fields {p : Session × Registry} (h : r.openShare services now i = .ok (some p)) :
    p.1.source = "share" ∧ p.1.blockingEnabled = true ∧
      (services.isUrl (i.stringExtra Intent.extraText) = true →
        p.1.url = i.stringExtra Intent.extraText ∧ p.1.payload = .plain) ∧
      (services.isUrl (i.stringExtra Intent.extraText) = false →
        p.1.payload = .search (i.stringExtra Intent.extraText) ∧
          ∃ b, services.searchUrls = some b ∧
            b.build (i.stringExtra Intent.extraText) = .ok p.1.url) := by
  obtain ⟨s, r'⟩ := p
  obtain ⟨-, ⟨hl, rfl, -⟩ | ⟨hl, b, url, hb, hurl, rfl, -⟩⟩ := openShare_eq_some h
  · simp [create, add, newSession, hl]
  · simp [createSearch, add, newSession, hl, hb, hurl]

/-! ## Dispatch on the action -/

/-- A launch made a session exactly when its result, read for the session alone, holds one. -/
theorem exists_launch_some_iff (restoring : Bool) :
    (∃ s r', r.launch services now i restoring = .ok (some s, r')) ↔
      ∃ s, Prod.fst <$> r.launch services now i restoring = .ok (some s) := by
  cases r.launch services now i restoring with
  | error e => simp [Functor.map, Except.map]
  | ok v =>
    obtain ⟨made, r₁⟩ := v
    cases made <;> simp [Functor.map, Except.map]

/-- Reading a result through a function keeps its failure. -/
theorem map_eq_error_iff {α β ε : Type} (f : α → β) (x : Except ε α) (e : ε) :
    f <$> x = .error e ↔ x = .error e := by
  cases x <;> simp [Functor.map, Except.map]

/-- Shared text opened a session exactly when the result, read for the session alone, holds
one. -/
theorem exists_map_fst_ok_some_iff {α β ε : Type} (x : Except ε (Option (α × β))) :
    (∃ a, Option.map Prod.fst <$> x = .ok (some a)) ↔ ∃ p, x = .ok (some p) := by
  cases x with
  | error e => simp [Functor.map, Except.map]
  | ok v => cases v <;> simp [Functor.map, Except.map]

/-- An accepted intent: bit 20 of its flags clear and no saved state being restored. -/
theorem launch_made_of_accepted (restoring : Bool) :
    Prod.fst <$> r.launch services now i restoring =
      if i.flags / 1048576 % 2 = 0 ∧ restoring = false then Prod.fst <$> r.openIntent services now i
      else .ok none := by
  rw [made_launch]
  by_cases hh : i.launchedFromHistory = true
  · have hbit := (Intent.launchedFromHistory_iff i).mp hh
    rw [if_pos (.inl hh), if_neg (fun h => absurd h.1 (by omega))]
  · have hbit : ¬ i.flags / 1048576 % 2 = 1 := fun h => hh ((Intent.launchedFromHistory_iff i).mpr h)
    cases restoring
    · rw [if_neg (by simp [hh]), if_pos ⟨by omega, rfl⟩]
    · rw [if_pos (.inr rfl), if_neg (by simp)]

/-- A launch that made a session made it as the accepted intent's action does. -/
theorem openIntent_made_of_launch {restoring : Bool}
    (h : r.launch services now i restoring = .ok (some s, r')) :
    Prod.fst <$> r.openIntent services now i = .ok (some s) := by
  have hmade : Prod.fst <$> r.launch services now i restoring = .ok (some s) := by
    rw [h]
    rfl
  rw [launch_made_of_accepted] at hmade
  split at hmade
  · exact hmade
  · cases hmade

theorem openView_of_made (hv : i.action = Intent.actionView)
    (h : Prod.fst <$> r.openIntent services now i = .ok (some s)) :
    ∃ r₁, r.openView services now i = some (s, r₁) := by
  rw [made_openIntent, if_pos hv] at h
  injection h with h
  obtain ⟨⟨s', r₁⟩, hview, rfl⟩ := Option.map_eq_some_iff.mp h
  exact ⟨r₁, hview⟩

theorem openShare_of_made (hs : i.action = Intent.actionSend)
    (h : Prod.fst <$> r.openIntent services now i = .ok (some s)) :
    ∃ r₁, r.openShare services now i = .ok (some (s, r₁)) := by
  rw [made_openIntent, if_neg (hs ▸ Intent.actionSend_ne_actionView), if_pos hs] at h
  cases ho : r.openShare services now i with
  | error e =>
    rw [ho] at h
    cases h
  | ok opened =>
    rw [ho] at h
    cases opened with
    | none => cases h
    | some p =>
      obtain ⟨s', r₁⟩ := p
      cases h
      exact ⟨r₁, rfl⟩

/-! ## The decision table -/

/-- An intent opens a session exactly when it is accepted and views a non-empty address, or
shares non-empty text that the classifier takes for an address or the builder makes an address
for. -/
theorem launch_opens_iff (restoring : Bool) :
    (∃ s r', r.launch services now i restoring = .ok (some s, r')) ↔
      i.flags / 1048576 % 2 = 0 ∧ restoring = false ∧
        ((i.action = Intent.actionView ∧ i.data ≠ "") ∨
          (i.action = Intent.actionSend ∧ i.stringExtra Intent.extraText ≠ "" ∧
            (services.isUrl (i.stringExtra Intent.extraText) = true ∨
              ∃ b url, services.searchUrls = some b ∧
                b.build (i.stringExtra Intent.extraText) = .ok url))) := by
  rw [exists_launch_some_iff, launch_made_of_accepted]
  by_cases hacc : i.flags / 1048576 % 2 = 0 ∧ restoring = false
  · rw [if_pos hacc, made_openIntent]
    by_cases hv : i.action = Intent.actionView
    · -- a view opens exactly when its address is not empty
      have hsome : (∃ s r₁, r.openView services now i = some (s, r₁)) ↔ i.data ≠ "" := by
        rw [Ne, ← openView_eq_none_iff]
        cases r.openView services now i with
        | none => simp
        | some p => exact iff_of_true ⟨p.1, p.2, rfl⟩ (by simp)
      rw [if_pos hv]
      simp [hsome, hacc, hv, Intent.actionSend_ne_actionView.symm]
    · by_cases hs : i.action = Intent.actionSend
      · rw [if_neg hv, if_pos hs, exists_map_fst_ok_some_iff, openShare_isSome_iff]
        simp [hs, hacc, Intent.actionSend_ne_actionView]
      · simp [hv, hs, hacc]
  · rw [if_neg hacc]
    simp only [Except.ok.injEq, reduceCtorEq, exists_false, false_iff]
    exact fun h => hacc ⟨h.1, h.2.1⟩

/-- An intent fails the call with a panic exactly when it is accepted and shares non-empty text
that is no address, with a builder that panics on it with that panic. -/
theorem launch_fails_iff (restoring : Bool) (e : SearchPanic) :
    r.launch services now i restoring = .error e ↔
      i.flags / 1048576 % 2 = 0 ∧ restoring = false ∧ i.action = Intent.actionSend ∧
        i.stringExtra Intent.extraText ≠ "" ∧
        services.isUrl (i.stringExtra Intent.extraText) = false ∧
        ∃ b, services.searchUrls = some b ∧ b.build (i.stringExtra Intent.extraText) = .error e := by
  rw [← map_eq_error_iff Prod.fst, launch_made_of_accepted]
  by_cases hacc : i.flags / 1048576 % 2 = 0 ∧ restoring = false
  · rw [if_pos hacc, made_openIntent]
    by_cases hv : i.action = Intent.actionView
    · rw [if_pos hv]
      simp [hv, Intent.actionSend_ne_actionView.symm]
    · by_cases hs : i.action = Intent.actionSend
      · rw [if_neg hv, if_pos hs, map_eq_error_iff, openShare_eq_error_iff]
        simp [hs, hacc]
      · rw [if_neg hv, if_neg hs]
        simp [hs]
  · rw [if_neg hacc]
    simp only [reduceCtorEq, false_iff]
    exact fun h => hacc ⟨h.1, h.2.1⟩

/-- An intent that opens nothing changes nothing a snapshot shows. -/
theorem launch_quiet {restoring : Bool} (h : r.launch services now i restoring = .ok (none, r')) :
    r'.sessions = r.sessions ∧ r'.currentId = r.currentId ∧ r'.version = r.version := by
  cases opens_launch h with
  | nothing h₁ h₂ h₃ => exact ⟨h₁, h₂, h₃⟩

/-- The session an intent opens is appended and made active, and is made as the table says. -/
theorem launch_made {restoring : Bool} (h : r.launch services now i restoring = .ok (some s, r')) :
    r'.sessions = r.sessions ++ [s] ∧ r'.currentId = s.id ∧ r'.version = r.version + 1 ∧
    (i.action = Intent.actionView →
      s.url = i.data ∧ s.source = viewSource services i ∧ s.payload = viewPayload services i ∧
        s.blockingEnabled = viewBlocking i) ∧
    (i.action = Intent.actionSend →
      s.source = "share" ∧ s.blockingEnabled = true ∧
      (services.isUrl (i.stringExtra Intent.extraText) = true →
        s.url = i.stringExtra Intent.extraText ∧ s.payload = .plain) ∧
      (services.isUrl (i.stringExtra Intent.extraText) = false →
        s.payload = .search (i.stringExtra Intent.extraText) ∧
          ∃ b, services.searchUrls = some b ∧
            b.build (i.stringExtra Intent.extraText) = .ok s.url)) := by
  have hmade := openIntent_made_of_launch h
  obtain ⟨h₁, h₂, h₃⟩ :
      r'.sessions = r.sessions ++ [s] ∧ r'.currentId = s.id ∧ r'.version = r.version + 1 := by
    cases opens_launch h with
    | session s he =>
      cases he with
      | add s _ h₁ h₂ h₃ => exact ⟨h₁, h₂, h₃⟩
  refine ⟨h₁, h₂, h₃, fun hv => ?_, fun hs => ?_⟩
  · obtain ⟨r₁, hview⟩ := openView_of_made hv hmade
    exact openView_fields hview
  · obtain ⟨r₁, hshare⟩ := openShare_of_made hs hmade
    exact openShare_fields hshare

/-- Launch intents follow the decision table, whatever custom tab parser, address classifier and
search URL builder the registry was given. An intent is accepted when bit 20 of its flags is
clear and no saved state is being restored. An accepted intent opens a session exactly when it
views a non-empty address, or shares non-empty text that the classifier takes for an address or
the builder makes an address for; the session is appended and made active. The call fails with
a panic exactly when the text would be searched by a builder that panics on it with that panic.
Any other intent changes nothing a snapshot shows. A view opens at its address, from
`viewSource`, with `viewPayload` and `viewBlocking`; shared text opens a shared session that
blocks content, at the text when it is an address and otherwise a search for it at the address
the builder made. -/
theorem launch_follows_decision_table (r : Registry) (services : LaunchServices) (now : Nat)
    (i : Intent) (restoring : Bool) :
    ((∃ s r', r.launch services now i restoring = .ok (some s, r')) ↔
      i.flags / 1048576 % 2 = 0 ∧ restoring = false ∧
        ((i.action = Intent.actionView ∧ i.data ≠ "") ∨
          (i.action = Intent.actionSend ∧ i.stringExtra Intent.extraText ≠ "" ∧
            (services.isUrl (i.stringExtra Intent.extraText) = true ∨
              ∃ b url, services.searchUrls = some b ∧
                b.build (i.stringExtra Intent.extraText) = .ok url)))) ∧
    (∀ e, r.launch services now i restoring = .error e ↔
      i.flags / 1048576 % 2 = 0 ∧ restoring = false ∧ i.action = Intent.actionSend ∧
        i.stringExtra Intent.extraText ≠ "" ∧
        services.isUrl (i.stringExtra Intent.extraText) = false ∧
        ∃ b, services.searchUrls = some b ∧ b.build (i.stringExtra Intent.extraText) = .error e) ∧
    (∀ r', r.launch services now i restoring = .ok (none, r') →
      r'.sessions = r.sessions ∧ r'.currentId = r.currentId ∧ r'.version = r.version) ∧
    (∀ s r', r.launch services now i restoring = .ok (some s, r') →
      r'.sessions = r.sessions ++ [s] ∧ r'.currentId = s.id ∧ r'.version = r.version + 1 ∧
      (i.action = Intent.actionView →
        s.url = i.data ∧ s.source = viewSource services i ∧ s.payload = viewPayload services i ∧
          s.blockingEnabled = viewBlocking i) ∧
      (i.action = Intent.actionSend →
        s.source = "share" ∧ s.blockingEnabled = true ∧
        (services.isUrl (i.stringExtra Intent.extraText) = true →
          s.url = i.stringExtra Intent.extraText ∧ s.payload = .plain) ∧
        (services.isUrl (i.stringExtra Intent.extraText) = false →
          s.payload = .search (i.stringExtra Intent.extraText) ∧
            ∃ b, services.searchUrls = some b ∧
              b.build (i.stringExtra Intent.extraText) = .ok s.url))) :=
  ⟨launch_opens_iff restoring, launch_fails_iff restoring, fun _ h => launch_quiet h,
    fun _ _ h => launch_made h⟩

/-- A view of an address carrying the custom-tab session extra. -/
def customTabView : Intent :=
  { action := Intent.actionView, data := "https://a.test/",
    extras := [(CustomTab.extraSession, .null)] }

/-- Shared text that is no address. -/
def sharedWords : Intent :=
  { action := Intent.actionSend, extras := [(Intent.extraText, .str "hello world")] }

/-- Where there is no custom tab parser, the custom-tab session extra opens a plain view; and
shared words to search with the engines of a catalog without engines fail the call. -/
theorem custom_tab_extra_opens_view_without_custom_tabs :
    (∃ s r', ({} : Registry).launch { customTabs := none } 0 customTabView false =
      .ok (some s, r') ∧ s.source = "view" ∧ s.payload = .plain) ∧
    ∃ e, ({} : Registry).launch
      { searchUrls := some ({ catalog := { engines := [] } } : Search.Manager).urlBuilder } 0
      sharedWords false = .error e := by
  have htext : sharedWords.stringExtra Intent.extraText = "hello world" := by decide +kernel
  have hplain : Url.looksLikeAddress "hello world" = false := by
    simp only [Url.looksLikeAddress, String.contains_char_eq]
    decide +kernel
  refine ⟨⟨_, _, rfl, rfl, rfl⟩, ⟨"runtime error: index out of range [0] with length 0"⟩, ?_⟩
  exact (launch_fails_iff false _).mpr
    ⟨by decide, rfl, rfl, by rw [htext]; decide, by rw [htext]; exact hplain, _, rfl,
      by rw [htext]; rfl⟩

end Registry

end BrowserSessions
