/-!
# Breaker

A circuit breaker: it stops calling an upstream after repeated failures.

* Closed: calls go through; a failure counts, a success resets the count, and reaching the
  threshold opens the circuit.
* Open: calls are refused until the cooldown has passed since it opened. The first call after
  that moves to half-open and is let through as the probe.
* Half-open: other calls are refused while the probe runs. A successful probe closes the
  circuit; a failed one opens it again.

Asked for its state, an open breaker whose cooldown has passed reports half-open. Time is in
nanoseconds on a clock the caller supplies.
-/

namespace BrowserSessions

/-- The state of a circuit. -/
inductive CircuitState where
  | closed
  | halfOpen
  | open
  deriving DecidableEq, Repr

/-- The name of a state. -/
def CircuitState.name : CircuitState → String
  | .closed => "closed"
  | .halfOpen => "half-open"
  | .open => "open"

/-- A change of state. -/
structure Transition where
  source : CircuitState
  target : CircuitState
  deriving DecidableEq, Repr

/-- A circuit breaker. -/
structure Breaker where
  name : String
  threshold : Nat
  cooldown : Nat
  state : CircuitState := .closed
  failures : Nat := 0
  openedAt : Nat := 0
  probing : Bool := false
  deriving Repr

namespace Breaker

/-- The threshold used when none is given. -/
def defaultThreshold : Nat := 5

/-- The cooldown used when none is given: thirty seconds. -/
def defaultCooldown : Nat := 30 * 1000000000

/-- A closed breaker; a threshold or cooldown that is not positive takes the default. -/
def create (name : String) (threshold : Int) (cooldown : Int) : Breaker :=
  { name
    threshold := if threshold ≤ 0 then defaultThreshold else threshold.toNat
    cooldown := if cooldown ≤ 0 then defaultCooldown else cooldown.toNat }

/-- The state as reported at a time. -/
def stateAt (b : Breaker) (now : Nat) : CircuitState :=
  if b.state == .open && now - b.openedAt ≥ b.cooldown then .halfOpen else b.state

/-- Moves to a state; the change, unless the state stays. Closing resets the failure count. -/
def transition (b : Breaker) (target : CircuitState) : Breaker × List Transition :=
  if b.state == target then (b, [])
  else
    let b' := { b with state := target }
    let b' := if target == .closed then { b' with failures := 0 } else b'
    (b', [⟨b.state, target⟩])

/-- Whether a call may go through at a time, and the breaker after the decision. -/
def allow (b : Breaker) (now : Nat) : Bool × Breaker × List Transition :=
  match b.state with
  | .open =>
    if now - b.openedAt < b.cooldown then (false, b, [])
    else
      let (b', ts) := b.transition .halfOpen
      (true, { b' with probing := true }, ts)
  | .halfOpen =>
    if b.probing then (false, b, []) else (true, { b with probing := true }, [])
  | .closed => (true, b, [])

/-- Records the outcome of a call that went through. -/
def record (b : Breaker) (now : Nat) (success : Bool) : Breaker × List Transition :=
  if success then
    let b := { b with failures := 0 }
    if b.state == .halfOpen then ({ b with probing := false }).transition .closed else (b, [])
  else
    let b := { b with failures := b.failures + 1 }
    match b.state with
    | .halfOpen => ({ b with probing := false, openedAt := now }).transition .open
    | .closed =>
      if b.failures ≥ b.threshold then ({ b with openedAt := now }).transition .open else (b, [])
    | .open => (b, [])

/-- What a call through the breaker came to. -/
inductive CallResult where
  /-- Refused while the circuit is open or its probe is out: the function was not run. -/
  | rejected
  | succeeded
  | failed
  deriving DecidableEq, Repr

/-- A call through the breaker while no other is out: `allow` at `start` and, if the call goes
    through, its function's outcome booked at `finish`. What it came to, the breaker after it and
    its state changes. -/
def call (b : Breaker) (start finish : Nat) (success : Bool) :
    CallResult × Breaker × List Transition :=
  let (allowed, b, ts) := b.allow start
  if !allowed then (.rejected, b, ts)
  else
    let (b, ts') := b.record finish success
    (if success then .succeeded else .failed, b, ts ++ ts')

end Breaker

end BrowserSessions
