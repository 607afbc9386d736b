import BrowserSessions.Registry

/-!
# TaskLoop

The registry behind a loop that runs submitted tasks one at a time, in the order they were
submitted. A task ends with a value, with an error, or by panicking; a panic is caught and
becomes an error naming what the task panicked with, and whatever the task had changed before
it stays changed. Once the loop is closed no task runs and every submission fails.
-/

namespace BrowserSessions

/-- How a task ended. -/
inductive TaskEnd (α : Type) where
  /-- With a value. -/
  | done (value : α)
  /-- With an error. -/
  | failed (message : String)
  /-- By panicking with a value, written as text. -/
  | panicked (value : String)

/-- The registry owned by a task loop. -/
structure TaskLoop where
  registry : Registry := {}
  closed : Bool := false

namespace TaskLoop

/-- The error of a submission to a closed loop. -/
def closedMessage : String := "session loop closed"

/-- The error a caught panic becomes. -/
def panicMessage (value : String) : String := "session loop task panicked: " ++ value

/-- What a task's end becomes for its caller: its value, its error, or the text of the caught
panic. -/
def reply {α : Type} : TaskEnd α → Except String α
  | .done a => .ok a
  | .failed m => .error m
  | .panicked v => .error (panicMessage v)

/-- Runs a task on the registry and gives its value or its error text. -/
def submit {α : Type} (l : TaskLoop) (task : Registry → TaskEnd α × Registry) : Except String α × TaskLoop :=
  if l.closed then (.error closedMessage, l)
  else
    let (e, registry) := task l.registry
    (reply e, { l with registry })

/-- Stops the loop; closing twice is fine. -/
def close (l : TaskLoop) : TaskLoop := { l with closed := true }

end TaskLoop

end BrowserSessions
