/-!
# RateLimit

Token buckets, and the per-client and service-wide request limits built from them.

A bucket refills at `rate` tokens a second up to `burst` tokens and starts full. Taking a token
succeeds when one is there now; a refused take changes nothing. A bucket with rate zero never
refills: it lends out its burst once. A negative rate gives nothing at all.

The per-client limit keeps one bucket per client address. When clients may be forgotten
(a positive idle time), a sweep forgets every client unseen for longer than that time; a sweep
runs only when more than that time has passed since the last one.

Instants are nanoseconds on the caller's clock; the state keeps no clock of its own.
-/

namespace BrowserSessions

/-- A token bucket. -/
structure Bucket where
  rate : Float
  burst : Int
  tokens : Float := 0
  /-- When the bucket last gave a token; none before the first. -/
  last : Option Int := none

namespace Bucket

/-- The longest span a clock difference can express, in nanoseconds. -/
def longest : Int := Int.pow 2 63 - 1

/-- A fresh bucket. -/
def create (rate : Float) (burst : Int) : Bucket := { rate, burst }

/-- Tokens earned over a span of nanoseconds. -/
def earned (b : Bucket) (span : Int) : Float :=
  if b.rate ≤ 0 then 0 else Float.ofInt span / 1e9 * b.rate

/-- Takes one token at an instant, when one is there. -/
def take (b : Bucket) (now : Int) : Bool × Bucket :=
  if b.rate == 0 then
    if 1 ≤ b.burst then (true, { b with burst := b.burst - 1 }) else (false, b)
  else
    let span := match b.last with
      | none => longest
      | some last => if now < last then 0 else now - last
    let tokens := min (Float.ofInt b.burst) (b.tokens + b.earned span) - 1
    let waitless := if tokens < 0 then b.rate > 0 && (-tokens / b.rate) * 1e9 < 1 else true
    if 1 ≤ b.burst && waitless then (true, { b with tokens, last := some now }) else (false, b)

end Bucket

/-- How requests are limited. -/
structure LimitConfig where
  /-- Requests a second. -/
  rate : Int
  burst : Int
  /-- How long an unseen client is remembered, in nanoseconds; zero or less remembers it always. -/
  idleTtl : Int := 10 * 60 * 1000000000

/-- One client's bucket and when it was last seen. -/
structure ClientBucket where
  bucket : Bucket
  lastSeen : Int

/-- The per-client limit. -/
structure ClientLimits where
  config : LimitConfig
  clients : List (String × ClientBucket) := []
  lastSweep : Int

namespace ClientLimits

/-- A limit with no clients yet, made at an instant. -/
def create (config : LimitConfig) (now : Int) : ClientLimits := { config, lastSweep := now }

/-- Forgets idle clients, when a sweep is due. -/
def sweep (l : ClientLimits) (now : Int) : ClientLimits :=
  if l.config.idleTtl > 0 && now - l.lastSweep > l.config.idleTtl then
    { l with clients := l.clients.filter (fun c => !(now - c.2.lastSeen > l.config.idleTtl)), lastSweep := now }
  else l

/-- Admits a request from a client at an instant, or refuses it. -/
def allow (l : ClientLimits) (client : String) (now : Int) : Bool × ClientLimits :=
  let l := l.sweep now
  let bucket := match l.clients.find? (·.1 == client) with
    | some (_, c) => c.bucket
    | none => Bucket.create (Float.ofInt l.config.rate) l.config.burst
  let (ok, bucket) := bucket.take now
  let entry : ClientBucket := { bucket, lastSeen := now }
  let clients := if l.clients.any (·.1 == client) then
      l.clients.map fun c => if c.1 == client then (client, entry) else c
    else l.clients ++ [(client, entry)]
  (ok, { l with clients })

end ClientLimits

/-- A request limit: per client, or one bucket for every request. -/
inductive RequestLimit where
  | perClient (limits : ClientLimits)
  | global (bucket : Bucket)

namespace RequestLimit

/-- A limit of `rate` requests a second with bursts of `burst`: one bucket for all requests, or
    one per client forgotten after `idleTtl` nanoseconds unused (never, when not positive),
    made at an instant. -/
def create (rate burst : Int) (global : Bool) (idleTtl : Int) (now : Int) : RequestLimit :=
  if global then .global (Bucket.create (Float.ofInt rate) burst)
  else .perClient (ClientLimits.create { rate, burst, idleTtl } now)

/-- Admits a request from a client at an instant, or refuses it. -/
def allow (l : RequestLimit) (client : String) (now : Int) : Bool × RequestLimit :=
  match l with
  | .perClient limits => let (ok, limits) := limits.allow client now; (ok, .perClient limits)
  | .global bucket => let (ok, bucket) := bucket.take now; (ok, .global bucket)

end RequestLimit

end BrowserSessions
