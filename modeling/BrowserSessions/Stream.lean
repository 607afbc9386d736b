import BrowserSessions.Registry
import BrowserSessions.Metrics
import BrowserSessions.Json.Shape

/-!
# Stream

The snapshot stream: every published session list goes out, as a frame, to every connected
client.

The hub remembers the latest snapshot frame; a client that connects gets it first. A client's
messages are answered with control frames: a `ping` with a `pong`, anything else with an error.
A message is read against the shape of a record with a `type` text (`Json.Shape`), so its other
members are only skimmed: one that does not read is an "invalid message", and a null or a record
without `type` asks for an unknown type. Stopping the hub ends its subscription and disconnects
every client with the normal closure code.

Frames are JSON values. A control frame carries the instant it was made, in seconds.
-/

namespace BrowserSessions

/-- The frame of a snapshot. -/
def snapshotFrame (snap : Snapshot) : Json :=
  .obj [("type", .str "sessions"), ("sessions", .arr snap.views), ("current_id", .str snap.currentId),
    ("version", .int snap.version)]

/-- A control frame with an optional message, made at an instant in seconds. -/
def controlFrame (kind message : String) (seconds : Int) : Json :=
  .obj ([("type", .str kind)] ++ (if message.isEmpty then [] else [("message", .str message)]) ++
    [("timestamp", .int seconds)])

/-- The frame that closes a connection normally. -/
def closeFrame : Json := .obj [("closed", .int 1000)]

/-- What a client message holds: a record with a `type` text. -/
def messageShape : Json.Shape := .record [("type", .text)]

/-- What a client message asks for: the text of its `type`, or none when it does not read. The
    message is read as `messageShape`, so other members are only skimmed. -/
def messageType? (text : String) : Option String :=
  match Json.readShapedDocument messageShape text with
  | .ok (.obj fs) => some (fs.foldl (fun t kv => match kv.2 with
      | .str s => s
      | _ => t) "")
  | .ok _ => some ""
  | .error _ => none

/-- The reply to a client message. -/
def replyTo (text : String) (seconds : Int) : Json :=
  match messageType? text with
  | none => controlFrame "error" "invalid message" seconds
  | some "ping" => controlFrame "pong" "" seconds
  | some _ => controlFrame "error" "unknown message type" seconds

/-- A connected client: the frames sent to it, oldest first. -/
structure StreamClient where
  id : Nat
  frames : List Json := []

/-- The hub. -/
structure Hub where
  started : Bool := false
  subscription : Option Nat := none
  latest : Option Json := none
  clients : List StreamClient := []
  nextClient : Nat := 0

namespace Hub

/-- Sends a frame to one client, counting it when metrics are kept. -/
def send (h : Hub) (metrics : Option Metrics) (client : Nat) (frame : Json) : Hub × Option Metrics :=
  if h.clients.any (·.id == client) then
    ({ h with clients := h.clients.map fun c => if c.id == client then { c with frames := c.frames ++ [frame] } else c },
      metrics.map (·.recordMessage "out" "frame"))
  else (h, metrics)

/-- Starts the hub on a registry: remembers its snapshot and subscribes to it. Starting twice
    changes nothing. -/
def start (h : Hub) (r : Registry) : Hub × Registry :=
  if h.started then (h, r)
  else
    let (sub, r) := r.subscribe
    ({ h with started := true, subscription := some sub, latest := some (snapshotFrame r.snapshot) }, r)

/-- Hands a published snapshot to every client. -/
def publish (h : Hub) (metrics : Option Metrics) (snap : Snapshot) : Hub × Option Metrics :=
  let frame := snapshotFrame snap
  let h := { h with latest := some frame }
  h.clients.foldl (fun (acc : Hub × Option Metrics) c => acc.1.send acc.2 c.id frame) (h, metrics)

/-- Connects a client, which gets the latest snapshot first; gives its number. -/
def connect (h : Hub) (metrics : Option Metrics) : Nat × Hub × Option Metrics :=
  let id := h.nextClient
  let h := { h with clients := h.clients ++ [({ id } : StreamClient)], nextClient := id + 1 }
  let (h, metrics) := match h.latest with
    | some frame => h.send metrics id frame
    | none => (h, metrics)
  (id, h, metrics.map fun (m : Metrics) => m.shiftConnections 1)

/-- Answers a client's message at an instant in seconds. -/
def receive (h : Hub) (metrics : Option Metrics) (client : Nat) (text : String) (seconds : Int) :
    Hub × Option Metrics :=
  h.send (metrics.map (·.recordMessage "in" "client")) client (replyTo text seconds)

/-- Takes the frames sent to a client so far. -/
def drain (h : Hub) (client : Nat) : List Json × Hub :=
  match h.clients.find? (·.id == client) with
  | some c => (c.frames, { h with clients := h.clients.map fun x => if x.id == client then { x with frames := [] } else x })
  | none => ([], h)

/-- A client's message answered: the frames sent to the client since it last looked, the reply
    last. -/
def exchange (h : Hub) (metrics : Option Metrics) (client : Nat) (text : String) (seconds : Int) :
    List Json × Hub × Option Metrics :=
  let (h, metrics) := h.receive metrics client text seconds
  let (frames, h) := h.drain client
  (frames, h, metrics)

/-- Stops the hub: the subscription ends and every client is closed; the frames each client
    still had, ending with the closing frame. -/
def stop (h : Hub) (r : Registry) (metrics : Option Metrics) :
    List (Nat × List Json) × Hub × Registry × Option Metrics :=
  let r := match h.subscription with
    | some sub => r.unsubscribe sub
    | none => r
  let closed := h.clients.map fun c => (c.id, c.frames ++ [closeFrame])
  let metrics := h.clients.foldl (fun m _ => m.map (·.shiftConnections (-1))) metrics
  (closed, { h with clients := [], started := false, subscription := none }, r, metrics)

end Hub

end BrowserSessions
