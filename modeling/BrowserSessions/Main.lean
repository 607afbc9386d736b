import Std.Async.TCP
import Std.Async.Signal
import Std.Time.DateTime.Timestamp
import BrowserSessions.CommandLine
import BrowserSessions.Http.Wire

/-!
# Main

The server program: it reads its settings from the environment and its flags, starts the
service, and answers HTTP requests on its address until it is interrupted or terminated.

Everything the program decides is in the modules it imports; this one only reads the
environment, the clock and the catalog file, moves bytes between sockets and the service, and
writes lines. Connections are served concurrently against one service state, each request
taking the state in turn.
-/

namespace BrowserSessions.Program

open Std.Async
open Std.Async.TCP

/-- The current instant in nanoseconds since the Unix epoch. -/
def nowNanos : IO Nat := do
  let t ← Std.Time.Timestamp.now
  return t.toNanosecondsSinceUnixEpoch.val.toNat

/-- The environment variables the settings read, as they are set. -/
def readEnvironment : IO Environment :=
  Config.variableNames.filterMapM fun name => do
    return (← IO.getEnv name).map fun value => (name, value)

/-- What reading a file gave: its text, or the reason it could not be read. -/
def readText (path : String) : IO (Except String String) := do
  try
    return .ok (← IO.FS.readFile path)
  catch e =>
    return .error ("open " ++ path ++ ": " ++ toString e)

/-- Writes the lines of a run's outcome and gives its exit code; the program's own messages
    start with the date and time. -/
def finish (o : CommandLine.Outcome) : IO UInt32 := do
  let stdout ← IO.getStdout
  for line in o.stdout do stdout.putStrLn line
  stdout.flush
  let stderr ← IO.getStderr
  let ms := (← nowNanos) / 1000000
  for line in o.stderr do
    stderr.putStrLn (if o.stamped then Clock.consoleStamp ms ++ " " ++ line else line)
  stderr.flush
  return o.exitCode.toUInt32

/-- The socket address of an IP address and a port. -/
def socketAddress : Http.IpAddress → Nat → Option Std.Net.SocketAddress
  | .v4 [a, b, c, d], port =>
    some (.v4 ⟨.ofParts a.toUInt8 b.toUInt8 c.toUInt8 d.toUInt8, port.toUInt16⟩)
  | .v6 bs, port =>
    let g := fun (i : Nat) => (bs.getD (2 * i) 0 * 256 + bs.getD (2 * i + 1) 0).toUInt16
    some (.v6 ⟨.ofParts (g 0) (g 1) (g 2) (g 3) (g 4) (g 5) (g 6) (g 7), port.toUInt16⟩)
  | _, _ => none

/-- The text of a peer address as requests carry it. -/
def peerText : Std.Net.SocketAddress → String
  | .v4 a => a.addr.toString ++ ":" ++ toString a.port
  | .v6 a => "[" ++ a.addr.toString ++ "]:" ++ toString a.port

/-- Answers the requests of one connection, with the bytes received so far, until the peer
    closes it or a response ends it. -/
partial def serveConnection (client : Socket.Client) (peer : String) (app : IO.Ref Api.App)
    (buffer : Bytes) : Async Unit := do
  match Http.frameRequest peer buffer with
  | .incomplete =>
    match ← client.recv? 65536 with
    | none => client.shutdown
    | some data => serveConnection client peer app (buffer ++ data.toList)
  | .refused r =>
    client.send ⟨r.wire.toArray⟩
    client.shutdown
  | .complete req used keepAlive =>
    let now ← nowNanos
    let response ← app.modifyGet fun a => a.serve req now
    client.send ⟨(response.wire req.method (now / 1000000) !keepAlive).toArray⟩
    if keepAlive then serveConnection client peer app (buffer.drop used) else client.shutdown

/-- Accepts connections and serves each one in the background. -/
partial def acceptLoop (listener : Socket.Server) (app : IO.Ref Api.App) : Async Unit := do
  let client ← listener.accept
  let peer ← client.getPeerName
  background (try serveConnection client (peerText peer) app [] catch _ => pure ())
  acceptLoop listener app

/-- Waits until the program is interrupted or terminated. -/
def awaitStop : Async Unit := do
  let interrupt ← Signal.Waiter.mk .sigint true
  let terminate ← Signal.Waiter.mk .sigterm true
  Selectable.one #[.case interrupt.selector pure, .case terminate.selector pure]

/-- Serves a started server until it is asked to stop, or gives why it cannot listen. -/
def serve (server : Server) : IO CommandLine.Outcome := do
  let ms := fun (ns : Nat) => ns / 1000000
  match server.listenAddress with
  | .error problem => return CommandLine.listenFailed server problem (ms (← nowNanos))
  | .ok (ip, port) =>
    let addr := joinHostPort server.config.server.host server.config.server.port
    match socketAddress ip port with
    | none => return CommandLine.listenFailed server ("listen tcp " ++ addr ++ ": invalid address") (ms (← nowNanos))
    | some target =>
      let listener ← Socket.Server.mk
      try
        listener.bind target
        listener.listen 128
      catch e =>
        return CommandLine.listenFailed server ("listen tcp " ++ addr ++ ": " ++ toString e) (ms (← nowNanos))
      let app ← IO.mkRef server.app
      let stop ← (do background (acceptLoop listener app); awaitStop : Async Unit).toIO
      let _ ← IO.wait stop
      return CommandLine.stopped server (ms (← nowNanos))

end BrowserSessions.Program

open BrowserSessions in
/-- Runs the server program with its command-line arguments. -/
def main (args : List String) : IO UInt32 := do
  let env ← Program.readEnvironment
  match CommandLine.configure "server" env args with
  | .error outcome => Program.finish outcome
  | .ok cfg =>
    let catalogFile ← match CommandLine.catalogPath cfg with
      | some path => Program.readText path
      | none => pure (.ok "")
    match CommandLine.launch cfg catalogFile ((← Program.nowNanos) / 1000000) with
    | .ended outcome => Program.finish outcome
    | .serving server started =>
      let _ ← Program.finish { exitCode := 0, stdout := started }
      Program.finish (← Program.serve server)
