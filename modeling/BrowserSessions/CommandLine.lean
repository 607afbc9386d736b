import BrowserSessions.Server

/-!
# CommandLine

The server program: settings from the environment, then flags, then start-up and listening.

Flags come after the environment and override it: `-port`, `-host`, `-log-level` and `-engines`
take a value, `-dev` is a switch. A flag is written with one or two dashes, its value after `=`
or as the next argument (a switch takes a value only after `=`). Reading stops at the first
argument that is not a flag, or after `--`. A flag that is not defined, a value that is missing
or a switch value that is not a truth value stops the program with exit code `2`, after the
message and the usage; `-h` or `-help` prints the usage and exits with `0`. The usage lists the
flags by name, each with its default from the environment when that is not empty (or false).

A failure to read the settings or to start stops the program with exit code `1`; so does a
listener that cannot be opened, after the server shut down.
-/

namespace BrowserSessions.CommandLine

/-- What a flag sets. -/
inductive FlagKind where
  /-- A value. -/
  | text
  /-- A truth value, true when given without one. -/
  | switch
  deriving DecidableEq, Repr

/-- A flag: its name, its usage text, its kind, and how it reads and writes its setting. -/
structure Flag where
  name : String
  usage : String
  kind : FlagKind
  get : Config → String
  set : Config → String → Config

/-- The server's flags. -/
def flags : List Flag := [
  ⟨"port", "Server port", .text, (·.server.port), fun c v => { c with server.port := v }⟩,
  ⟨"host", "Server host", .text, (·.server.host), fun c v => { c with server.host := v }⟩,
  ⟨"log-level", "Log level (debug, info, warn, error)", .text, (·.logging.level),
    fun c v => { c with logging.level := v }⟩,
  ⟨"dev", "Development logging", .switch, fun c => if c.logging.development then "true" else "false",
    fun c v => { c with logging.development := v == "true" }⟩,
  ⟨"engines", "Search engine catalog (.yaml, .toml or .json)", .text, (·.search.enginesFile),
    fun c v => { c with search.enginesFile := v }⟩]

/-- The usage text, with defaults taken from the settings before any flag. -/
def usage (program : String) (defaults : Config) : List String :=
  let sorted := flags.mergeSort fun a b => decide (a.name ≤ b.name)
  ("Usage of " ++ program ++ ":") :: sorted.flatMap fun f =>
    let value := f.get defaults
    let head := "  -" ++ f.name ++ (if f.kind == .text then " string" else "")
    let dflt := match f.kind with
      | .text => if value.isEmpty then "" else " (default " ++ Text.quote value ++ ")"
      | .switch => if value == "false" then "" else " (default " ++ value ++ ")"
    [head, "    \t" ++ f.usage ++ dflt]

/-- How a program run ended: its exit code and what it wrote to its two streams. `stamped`
    tells whether the error lines are the program's own messages, which start with the date and
    time they are written at. -/
structure Outcome where
  exitCode : Nat
  stdout : List String := []
  stderr : List String := []
  stamped : Bool := false

/-- Reads the flags into the settings; stops with an outcome on a bad flag or a request for
    help. The fuel bounds the number of flags read. -/
def readFlags (program : String) (defaults : Config) : Nat → Config → List String → Except Outcome Config
  | 0, c, _ => .ok c
  | fuel + 1, c, args =>
    let fail := fun (msg : String) => Except.error ({ exitCode := 2, stderr := msg :: usage program defaults } : Outcome)
    match args with
    | [] => .ok c
    | s :: rest =>
      if s.length < 2 || !s.startsWith "-" then .ok c
      else if s == "--" then .ok c
      else
        let dashes := if s.startsWith "--" then 2 else 1
        let name := (s.drop dashes).toString
        if name.isEmpty || name.startsWith "-" || name.startsWith "=" then fail ("bad flag syntax: " ++ s)
        else
          let (name, value) := match name.splitOn "=" with
            | n :: v :: more => (n, some ("=".intercalate (v :: more)))
            | _ => (name, none)
          match flags.find? (·.name == name) with
          | none =>
            if name == "help" || name == "h" then .error { exitCode := 0, stderr := usage program defaults }
            else fail ("flag provided but not defined: -" ++ name)
          | some f =>
            match f.kind with
            | .switch =>
              match value with
              | some v =>
                match Text.parseBool v with
                | some b => readFlags program defaults fuel (f.set c (if b then "true" else "false")) rest
                | none => fail ("invalid boolean value " ++ Text.quote v ++ " for -" ++ name ++ ": parse error")
              | none => readFlags program defaults fuel (f.set c "true") rest
            | .text =>
              match value, rest with
              | some v, _ => readFlags program defaults fuel (f.set c v) rest
              | none, v :: more => readFlags program defaults fuel (f.set c v) more
              | none, [] => fail ("flag needs an argument: -" ++ name)

/-- The settings of a run: the environment's, then the flags'; or how the run ended. -/
def configure (program : String) (env : Environment) (args : List String) : Except Outcome Config :=
  match Config.load env with
  | .error e => .error { exitCode := 1, stderr := ["Failed to load config: " ++ e.message], stamped := true }
  | .ok cfg => readFlags program cfg (args.length + 1) cfg args

/-- The catalog file a run reads, if any. -/
def catalogPath (cfg : Config) : Option String :=
  if cfg.search.enginesFile.isEmpty then none else some cfg.search.enginesFile

/-- How a started run goes on: it ended, or its server listens. -/
inductive Launch where
  | ended (outcome : Outcome)
  | serving (server : Server) (stdout : List String)

/-- Starts the server of a run at an instant in milliseconds; `catalogFile` is what reading the
    catalog file gave. -/
def launch (cfg : Config) (catalogFile : Except String String) (ms : Nat) : Launch :=
  let development := (serviceLogger cfg.logging).development
  let lines := fun (log : List LogLine) => log.map (LogLine.render development ms)
  let started := Server.start cfg catalogFile (ms * 1000000)
  match started.result with
  | .error e =>
    .ended
      { exitCode := 1, stdout := lines started.log, stderr := ["Failed to create server: " ++ e.message],
        stamped := true }
  | .ok server =>
    let listening := server.listen
    let stdout := lines (started.log ++ listening.log)
    match listening.failure with
    | some problem => .ended { exitCode := 1, stdout, stderr := ["Server error: " ++ problem], stamped := true }
    | none => .serving server stdout

/-- How a serving run ends when its listener cannot be opened, at an instant in milliseconds:
    the server shuts down and the run fails. -/
def listenFailed (server : Server) (problem : String) (ms : Nat) : Outcome :=
  { exitCode := 1, stdout := server.shutdownLog.map (LogLine.render server.logger.development ms),
    stderr := ["Server error: http server failed: " ++ problem], stamped := true }

/-- How a serving run ends when it is asked to stop, at an instant in milliseconds: the server
    shuts down and the run succeeds. -/
def stopped (server : Server) (ms : Nat) : Outcome :=
  { exitCode := 0, stdout := server.shutdownLog.map (LogLine.render server.logger.development ms) }

end BrowserSessions.CommandLine
