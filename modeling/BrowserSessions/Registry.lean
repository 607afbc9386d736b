import BrowserSessions.Session
import BrowserSessions.Identifier
import BrowserSessions.Url.Classify

/-!
# Registry

The session registry: the list of sessions, the active one, and a version that grows by one on
every change that is published.

Every change builds the next list and publishes it: the version goes up and the change is
recorded as an event (for the counters that watch the registry). Handing the published
snapshot to the subscribers is `Registry.deliver`, kept apart from the change itself so that a
subscriber may change the registry again from its callback; delivery of a snapshot stops as soon
as the registry has moved past it, so no subscriber sees the versions go backwards.

Identifiers are made by a monotonic generator at the instant the caller passes in, so sessions
made in one millisecond still sort in the order they were made.
-/

namespace BrowserSessions

/-- Why a registry lookup or change failed. -/
inductive RegistryError where
  /-- No session has the identifier. -/
  | notFound
  /-- There is no active session. -/
  | noActiveSession
  deriving DecidableEq, Repr

namespace RegistryError

/-- The error text. -/
def message : RegistryError → String
  | .notFound => "session not found"
  | .noActiveSession => "there's no active session"

end RegistryError

/-- What a change did, for the counters that watch the registry. -/
inductive RegistryEvent where
  /-- A session was made, from this source. -/
  | created (source : String)
  /-- This many sessions (at least one) were removed. -/
  | removed (count : Nat)
  /-- A snapshot with this many sessions was published. -/
  | published (active : Nat)
  /-- An intent was handled with this action and outcome. -/
  | intent (action outcome : String)
  deriving DecidableEq, Repr

/-- The session registry. -/
structure Registry where
  sessions : List Session := []
  currentId : String := ""
  /-- The number of snapshots published. A 64-bit counter reads it exactly while fewer than
  `2 ^ 64` have been (`Registry.Reachable.toUInt64_publishes_toNat`). -/
  version : Nat := 0
  /-- The subscribers, in the order they subscribed. -/
  subscribers : List Nat := []
  nextSubscriber : Nat := 0
  ids : Identifier.Monotonic := {}
  /-- What the changes did, newest first. -/
  events : List RegistryEvent := []

namespace Registry

/-! ## Reading -/

/-- The current list as a snapshot. -/
def snapshot (r : Registry) : Snapshot :=
  { sessions := r.sessions, currentId := r.currentId, version := r.version }

/-- Whether any session exists. -/
def hasSession (r : Registry) : Bool := !r.sessions.isEmpty

/-- The number of sessions. -/
def length (r : Registry) : Nat := r.sessions.length

/-- The position of the session with an identifier; the empty identifier names none. -/
def indexOf? (r : Registry) (id : String) : Option Nat :=
  if id.isEmpty then none else r.sessions.findIdx? (·.id == id)

/-- Whether a session is the active one. -/
def isCurrent (r : Registry) (s : Session) : Bool := !r.currentId.isEmpty && r.currentId == s.id

/-- Whether a session has the identifier. -/
def hasId (r : Registry) (id : String) : Bool := (r.indexOf? id).isSome

/-- The session with an identifier. -/
def byId (r : Registry) (id : String) : Except RegistryError Session :=
  match r.sessions.find? (fun s => !id.isEmpty && s.id == id) with
  | some s => .ok s
  | none => .error .notFound

/-- The active session. -/
def current (r : Registry) : Except RegistryError Session :=
  match r.byId r.currentId with
  | .ok s => .ok s
  | .error _ => .error .noActiveSession

/-- The position of the active session, or -1. -/
def currentPosition (r : Registry) : Int :=
  match r.indexOf? r.currentId with
  | some i => i
  | none => -1

/-! ## Subscribing -/

/-- Registers a subscriber after the others; gives its number. -/
def subscribe (r : Registry) : Nat × Registry :=
  (r.nextSubscriber,
    { r with subscribers := r.subscribers ++ [r.nextSubscriber], nextSubscriber := r.nextSubscriber + 1 })

/-- Stops delivery to a subscriber; a subscriber already gone is fine. -/
def unsubscribe (r : Registry) (sub : Nat) : Registry :=
  { r with subscribers := r.subscribers.erase sub }

/-! ## Changing -/

/-- Installs the next list as a new version. -/
def publish (r : Registry) (next : List Session) : Registry :=
  { r with sessions := next, version := r.version + 1, events := .published next.length :: r.events }

/-- Records that sessions were removed, when some were. -/
def recordRemoved (r : Registry) (n : Nat) : Registry :=
  if n == 0 then r else { r with events := .removed n :: r.events }

/-- Records how an intent was handled. -/
def recordIntent (r : Registry) (action outcome : String) : Registry :=
  { r with events := .intent action outcome :: r.events }

/-- A new session made at an instant, with a fresh identifier. -/
def newSession (r : Registry) (now : Nat) (source url : String) (payload : Payload) : Session × Registry :=
  let (v, ids) := r.ids.next now
  ({ id := Identifier.withPrefix Identifier.sessionPrefix v, source, url, createdAt := now, payload },
    { r with ids })

/-- Appends a session, makes it active and publishes. -/
def add (r : Registry) (s : Session) : Session × Registry :=
  let r := { r with currentId := s.id, events := .created s.source :: r.events }
  (s, r.publish (r.sessions ++ [s]))

/-- Makes and adds a plain session. -/
def create (r : Registry) (now : Nat) (source url : String) : Session × Registry :=
  let (s, r) := r.newSession now source url .plain
  r.add s

/-- Makes and adds a search session. -/
def createSearch (r : Registry) (now : Nat) (source url terms : String) : Session × Registry :=
  let (s, r) := r.newSession now source url (.search terms)
  r.add s

/-- Makes the session with an identifier active; publishes even when it already was. -/
def select (r : Registry) (id : String) : Except RegistryError Registry :=
  if r.hasId id then .ok ({ r with currentId := id }.publish r.sessions) else .error .notFound

/-- Removes every session. -/
def removeAll (r : Registry) : Registry :=
  ({ r with currentId := "" }.recordRemoved r.sessions.length).publish []

/-- Removes the session with an identifier; an unknown identifier changes nothing. When the
    active session goes, the one now at its position becomes active, or the last one when it
    was at the end. -/
def remove (r : Registry) (id : String) : Registry :=
  match r.indexOf? id with
  | none => r
  | some pos =>
    let next := r.sessions.eraseIdx pos
    let currentId :=
      if r.currentId == id then
        match next.getLast? with
        | none => ""
        | some last => ((next.drop pos).head?.getD last).id
      else r.currentId
    ({ r with currentId }.recordRemoved 1).publish next

/-- Removes the active session, when there is one. -/
def removeCurrent (r : Registry) : Registry :=
  if r.currentId.isEmpty then r else r.remove r.currentId

/-- Replaces a session's address after navigation. The internal error page keeps the address
    that was asked for, and a change that only adds or drops a trailing slash publishes
    nothing. -/
def updateUrl (r : Registry) (id url : String) : Except RegistryError (Session × Registry) :=
  match r.indexOf? id with
  | none => .error .notFound
  | some pos =>
    match r.sessions[pos]? with
    | none => .error .notFound
    | some s =>
      if Url.isInternalError url || Url.matchExceptTrailingSlash s.url url then .ok (s, r)
      else
        let s' := { s with url }
        .ok (s', r.publish (r.sessions.set pos s'))

/-! ## Delivering -/

/-- Hands a published snapshot to subscribers in order. `observe` sees the subscriber, the
    snapshot and the registry as it is at that moment, with any state of the caller; it may
    change the registry. Delivery ends once the registry has a newer version than the
    snapshot: the newer one has already reached everyone. -/
def deliver {σ : Type} (observe : Nat → Snapshot → Registry × σ → Registry × σ) (snap : Snapshot) :
    List Nat → Registry × σ → Registry × σ
  | [], st => st
  | sub :: rest, st =>
    if st.1.version != snap.version then st else deliver observe snap rest (observe sub snap st)

/-- Delivers what a change published: when the version moved, the new snapshot goes to the
    subscribers as they were when it was published. -/
def settle {σ : Type} (observe : Nat → Snapshot → Registry × σ → Registry × σ) (before : Nat)
    (st : Registry × σ) : Registry × σ :=
  if st.1.version == before then st else deliver observe st.1.snapshot st.1.subscribers st

end Registry

end BrowserSessions
