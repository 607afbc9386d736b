import BrowserSessions.Text.Quote
import BrowserSessions.Text.Case

/-!
# Logging

Log levels and the creation of loggers.

Levels, from least to most severe: debug, info, warn, error, dpanic, panic, fatal. A level is
named in any case; the empty name is info. A logger writes the lines at or above its level to
its output paths, `stdout` when none are given; creating one fails when a path cannot be opened.
The logger that discards everything reports the fatal level.
-/

namespace BrowserSessions

/-- A log level. -/
inductive LogLevel where
  | debug
  | info
  | warn
  | error
  | dpanic
  | panic
  | fatal
  deriving DecidableEq, Repr

namespace LogLevel

/-- The severity rank of a level. -/
def rank : LogLevel → Nat
  | .debug => 0
  | .info => 1
  | .warn => 2
  | .error => 3
  | .dpanic => 4
  | .panic => 5
  | .fatal => 6

/-- The name of a level. -/
def name : LogLevel → String
  | .debug => "debug"
  | .info => "info"
  | .warn => "warn"
  | .error => "error"
  | .dpanic => "dpanic"
  | .panic => "panic"
  | .fatal => "fatal"

/-- The level a lowercase name stands for. -/
def ofLowerName? : String → Option LogLevel
  | "debug" => some .debug
  | "info" | "" => some .info
  | "warn" => some .warn
  | "error" => some .error
  | "dpanic" => some .dpanic
  | "panic" => some .panic
  | "fatal" => some .fatal
  | _ => none

/-- The level a name stands for, in any case. -/
def ofName? (s : String) : Option LogLevel :=
  match ofLowerName? s with
  | some l => some l
  | none => ofLowerName? (Text.lowerString s)

/-- Whether a logger at this level writes lines at another. -/
def enables (threshold l : LogLevel) : Bool := threshold.rank ≤ l.rank

end LogLevel

/-- How to build a logger. -/
structure LoggerConfig where
  level : String := "info"
  development : Bool := false
  sampling : Bool := false
  outputPaths : List String := []
  deriving Repr

/-- Why a logger could not be built. -/
inductive LoggerError where
  | badLevel (level : String)
  | sink (path : String) (cause : String)
  deriving DecidableEq, Repr

/-- The message of a logger error. -/
def LoggerError.message : LoggerError → String
  | .badLevel l => "invalid log level " ++ Text.quote l ++ ": unrecognized level: " ++ Text.quote l
  | .sink p cause => "failed to build logger: open sink " ++ Text.quote p ++ ": " ++ cause

/-- A built logger: its level, whether it writes console lines, and where it writes. -/
structure Logger where
  level : LogLevel
  development : Bool := false
  outputPaths : List String := ["stdout"]
  deriving Repr

/-- Builds a logger; `openSink` says why a path cannot be opened, if it cannot. -/
def Logger.build (cfg : LoggerConfig) (openSink : String → Option String) : Except LoggerError Logger :=
  match LogLevel.ofName? cfg.level with
  | none => .error (.badLevel cfg.level)
  | some level =>
    let paths := if cfg.outputPaths.isEmpty then ["stdout"] else cfg.outputPaths
    match paths.findSome? fun p => (openSink p).map fun cause => (p, cause) with
    | some (p, cause) => .error (.sink p cause)
    | none => .ok { level, development := cfg.development, outputPaths := paths }

/-- The logger that discards everything. -/
def Logger.nop : Logger := { level := .fatal, outputPaths := [] }

/-- Whether a logger writes debug lines. -/
def Logger.debugEnabled (l : Logger) : Bool := l.level.enables .debug

end BrowserSessions
