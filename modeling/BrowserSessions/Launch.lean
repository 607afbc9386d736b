import BrowserSessions.Registry
import BrowserSessions.Intent
import BrowserSessions.Search.Manager

/-!
# Launch

Opening sessions for launch intents.

* A `VIEW` intent with an address opens it. It comes from the home screen when the
  `add_to_homescreen` extra is present, and then content blocking follows its `blocking_enabled`
  extra; an intent the custom tab parser recognises (when there is one) opens a custom tab
  session with the chrome the parser reads, blocking decided the same way.
* A `SEND` intent shares text: text the classifier takes for an address opens as it is, other
  text opens a search for it at the address the search URL builder makes, when there is one.
  A builder may panic, and the panic fails the call.

The parser, the classifier and the builder are parameters. The browser ships
`CustomTab.parser`, the address test `Url.looksLikeAddress` and its search engines
(`Search.Manager.urlBuilder`), whose builder panics when the catalog has no engines.
* A `MAIN` intent starts the browser on its home screen and opens nothing; other actions are
  ignored.

An intent replayed from the recent-apps list, or seen while saved state is being restored, is
ignored before any of this. Every intent's outcome is recorded as an event.
-/

namespace BrowserSessions

/-- Recognises custom tab intents and reads the chrome they ask for. -/
structure CustomTabParser where
  isCustomTab : Intent → Bool
  parse : Intent → CustomTab.Config

/-- The parser the browser ships: the custom-tab session extra marks a custom tab. -/
def CustomTab.parser : CustomTabParser := ⟨CustomTab.isCustomTab, CustomTab.parse⟩

/-- A search URL builder panicked, with the panic's text. -/
structure SearchPanic where
  message : String
  deriving DecidableEq, Repr

/-- Turns free text into the address of its search results; it may panic. -/
structure SearchUrlBuilder where
  build : String → Except SearchPanic String

/-- The search engines as a builder. Without engines the default engine is looked up in an
    empty list, which panics. -/
def Search.Manager.urlBuilder (m : Search.Manager) : SearchUrlBuilder where
  build terms :=
    match m.createSearchUrl? terms with
    | some url => .ok url
    | none => .error ⟨"runtime error: index out of range [0] with length 0"⟩

/-- A builder that makes an address for every text, never panicking. -/
def SearchUrlBuilder.NeverPanics (b : SearchUrlBuilder) : Prop :=
  ∀ terms, ∃ url, b.build terms = .ok url

/-- The engines build exactly the search addresses they make. -/
@[simp] theorem Search.Manager.urlBuilder_build_eq_ok {m : Search.Manager} {terms url : String} :
    m.urlBuilder.build terms = .ok url ↔ m.createSearchUrl? terms = some url := by
  cases h : m.createSearchUrl? terms with
  | none => simp [Search.Manager.urlBuilder, h]
  | some u => simp [Search.Manager.urlBuilder, h]

/-- What the registry leans on when it opens sessions for intents. -/
structure LaunchServices where
  /-- What recognises custom tab intents, when anything does. -/
  customTabs : Option CustomTabParser := some CustomTab.parser
  /-- Whether shared text is an address. -/
  isUrl : String → Bool := Url.looksLikeAddress
  /-- Where shared text is searched, when anywhere. -/
  searchUrls : Option SearchUrlBuilder := none

namespace Registry

/-- Opens a session for a `VIEW` intent; an intent without an address opens nothing. -/
def openView (r : Registry) (services : LaunchServices) (now : Nat) (i : Intent) : Option (Session × Registry) :=
  if i.data.isEmpty then none
  else
    let homeScreen := i.hasExtra Intent.extraHomeScreen
    let source := if homeScreen then "home_screen" else "view"
    let blockingEnabled := if homeScreen then i.boolExtra Intent.extraBlockingEnabled true else true
    let (s, r) :=
      match services.customTabs.filter (·.isCustomTab i) with
      | some p => r.newSession now "custom_tab" i.data (.customTab (p.parse i))
      | none => r.newSession now source i.data .plain
    some (r.add { s with blockingEnabled })

/-- Opens a session for shared text: the address itself, or a search for the text. -/
def openShare (r : Registry) (services : LaunchServices) (now : Nat) (i : Intent) :
    Except SearchPanic (Option (Session × Registry)) :=
  let text := i.stringExtra Intent.extraText
  if text.isEmpty then .ok none
  else if services.isUrl text then .ok (some (r.create now "share" text))
  else
    match services.searchUrls with
    | none => .ok none
    | some b =>
      match b.build text with
      | .ok url => .ok (some (r.createSearch now "share" url text))
      | .error e => .error e

/-- Opens a session for an intent delivered to a running browser. -/
def openIntent (r : Registry) (services : LaunchServices) (now : Nat) (i : Intent) :
    Except SearchPanic (Option Session × Registry) := do
  let opened ←
    if i.action == Intent.actionView then .ok (r.openView services now i)
    else if i.action == Intent.actionSend then r.openShare services now i
    else .ok none
  match opened with
  | some (s, r) => .ok (some s, r.recordIntent i.action "created")
  | none =>
    let outcome := if i.action == Intent.actionMain then "launcher" else "ignored"
    .ok (none, r.recordIntent i.action outcome)

/-- Opens a session for a launch intent, unless it was replayed from the recent-apps list or
    arrived while saved state is being restored. -/
def launch (r : Registry) (services : LaunchServices) (now : Nat) (i : Intent) (restoring : Bool) :
    Except SearchPanic (Option Session × Registry) :=
  if i.launchedFromHistory then .ok (none, r.recordIntent i.action "history")
  else if restoring then .ok (none, r.recordIntent i.action "restoring")
  else r.openIntent services now i

end Registry

end BrowserSessions
