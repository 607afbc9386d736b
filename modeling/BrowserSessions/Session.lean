import BrowserSessions.Json.Basic
import BrowserSessions.CustomTab
import BrowserSessions.Clock

/-!
# Session

One browsing context: where it came from, the address it shows, whether content blocking is on,
and what its origin left behind (the terms of a search, or the chrome a custom tab asked for).

A session is a value: the registry replaces sessions rather than editing them, so a snapshot
handed to an observer never changes under it.
-/

namespace BrowserSessions

/-- What a session carries beyond its address. -/
inductive Payload where
  /-- Nothing beyond the address. -/
  | plain
  /-- The terms a search session was made for. -/
  | search (terms : String)
  /-- The chrome requested by the application that opened the custom tab. -/
  | customTab (config : CustomTab.Config)

/-- A browsing context. -/
structure Session where
  id : String
  source : String
  url : String
  blockingEnabled : Bool := true
  createdAt : Nat
  payload : Payload := .plain

namespace Session

/-- The ways a session can come about, as written on the wire. -/
def sources : List String :=
  ["view", "home_screen", "share", "search", "user_entered", "menu", "custom_tab", "none"]

/-- A wire value that names a source. -/
def isSource (s : String) : Bool := sources.contains s

/-- The payload's tag. -/
def kind (s : Session) : String :=
  match s.payload with
  | .plain => "plain"
  | .search _ => "search"
  | .customTab _ => "custom_tab"

/-- The terms of a search session, and the empty text for any other. -/
def searchTerms (s : Session) : String :=
  match s.payload with
  | .search terms => terms
  | _ => ""

/-- The chrome of a custom tab session. -/
def customTab? (s : Session) : Option CustomTab.Config :=
  match s.payload with
  | .customTab config => some config
  | _ => none

/-- The transport form of a session; `current` says whether it is the active one. The search
    terms appear only when there are some, the chrome only for a custom tab. -/
def view (s : Session) (current : Bool) : Json :=
  .obj <|
    [("id", .str s.id), ("source", .str s.source), ("url", .str s.url),
      ("blocking_enabled", .bool s.blockingEnabled), ("created_at", .str (Clock.rfc3339 s.createdAt)),
      ("kind", .str s.kind)] ++
    (if s.searchTerms.isEmpty then [] else [("search_terms", .str s.searchTerms)]) ++
    (match s.customTab? with
      | some config => [("custom_tab", config.toJson)]
      | none => []) ++
    [("current", .bool current)]

end Session

/-- One published version of the session list. -/
structure Snapshot where
  sessions : List Session
  currentId : String
  version : Nat

namespace Snapshot

/-- The number of sessions. -/
def length (s : Snapshot) : Nat := s.sessions.length

/-- The active session, if there is one. -/
def current? (s : Snapshot) : Option Session :=
  if s.currentId.isEmpty then none else s.sessions.find? (·.id == s.currentId)

/-- Every session in its transport form. -/
def views (s : Snapshot) : List Json := s.sessions.map fun x => x.view (x.id == s.currentId)

end Snapshot

end BrowserSessions
