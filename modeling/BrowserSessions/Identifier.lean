import BrowserSessions.Ulid
import BrowserSessions.Text.Quote

/-!
# Identifier

Prefixed identifiers: a kind prefix, `_`, and a ULID, such as `sess_01ARZ3NDEKTSV4RRFFQ69G5FAV`.
An identifier is valid for a prefix when it starts with the prefix and `_` and the rest reads as
a ULID; its time is the timestamp of the ULID after its last `_`.

Fresh identifiers come from a generator. A monotonic generator never repeats itself: within one
millisecond it counts the entropy of the last identifier up by one, so identifiers it makes in
order also sort in order. A generator can also draw its entropy from a given stream of bytes, ten
bytes per identifier; a stream that runs out fails.
-/

namespace BrowserSessions.Identifier

/-- The prefix of session identifiers. -/
def sessionPrefix : String := "sess"

/-- The prefix of request identifiers. -/
def requestPrefix : String := "req"

/-- Whether a text reads as a ULID. -/
def isValid (s : String) : Bool :=
  match Ulid.parse s with
  | .ok _ => true
  | .error _ => false

/-- Whether a text is an identifier with the given prefix. -/
def isValidPrefixed (pfx s : String) : Bool :=
  let head := pfx ++ "_"
  s.startsWith head && isValid (String.ofList (s.toList.drop head.length))

/-- The text after the last `_`, or the whole text. -/
def afterLastUnderscore (s : String) : String :=
  String.ofList (s.toList.reverse.takeWhile (· != '_')).reverse

/-- Why an identifier has no time. -/
structure TimeError where
  text : String
  cause : Ulid.ParseError

/-- The message of a time error. -/
def TimeError.message (e : TimeError) : String :=
  "invalid id " ++ Text.quote e.text ++ ": " ++ e.cause.message

/-- The millisecond timestamp of an identifier. -/
def timestamp (s : String) : Except TimeError Nat :=
  let t := afterLastUnderscore s
  match Ulid.parse t with
  | .ok v => .ok v.time
  | .error e => .error ⟨t, e⟩

/-- Writes a ULID with a prefix. -/
def withPrefix (pfx : String) (v : Ulid.Value) : String := pfx ++ "_" ++ v.render

/-! ## Monotonic generation -/

/-- A generator that never repeats itself: the last identifier made, and a seed for fresh
    entropy. -/
structure Monotonic where
  last : Option (Nat × Nat) := none
  seed : Nat := 0x5DEECE66D

/-- The next seed of a linear congruential sequence, and the entropy it gives. -/
def nextSeed (seed : Nat) : Nat := (seed * 6364136223846793005 + 1442695040888963407) % Nat.pow 2 64

/-- The next identifier at a millisecond: entropy one above the last within the same
    millisecond, else fresh. -/
def Monotonic.next (g : Monotonic) (ms : Nat) : Ulid.Value × Monotonic :=
  let fresh := nextSeed g.seed
  let entropy := match g.last with
    | some (lastMs, lastEntropy) => if lastMs == ms then (lastEntropy + 1) % Nat.pow 2 80 else fresh % Nat.pow 2 79
    | none => fresh % Nat.pow 2 79
  let bytes := (List.range 10).reverse.map fun i => entropy / Nat.pow 256 i % 256
  (Ulid.Value.make ms bytes, { last := some (ms, entropy), seed := fresh })

/-! ## Entropy from a stream -/

/-- Why a stream gave no entropy: it was empty, or ended within the ten bytes. -/
inductive ReadError where
  | endOfStream
  | unexpectedEnd
  deriving DecidableEq, Repr

/-- The message of a read error. -/
def ReadError.message : ReadError → String
  | .endOfStream => "EOF"
  | .unexpectedEnd => "unexpected EOF"

/-- Makes an identifier at a millisecond from the next ten bytes of a stream; returns the rest. -/
def fromStream (ms : Nat) (stream : List Nat) : Except ReadError (Ulid.Value × List Nat) :=
  if stream.isEmpty then .error .endOfStream
  else if stream.length < 10 then .error .unexpectedEnd
  else .ok (Ulid.Value.make ms (stream.take 10), stream.drop 10)

end BrowserSessions.Identifier
