import BrowserSessions.Breaker

/-!
# Breaker calls that overlap

Many callers go through one breaker at once. A call is two steps, each taken under the
breaker's lock: `allow` decides whether the call goes through, and a call that went through
later books its outcome with `record`. A step that changes the state makes a callback reporting
the change, and the call runs it only after releasing the lock. Between steps the lock is free, so
the steps and callbacks of other calls interleave in any order, and each step reads the clock at
its own instant. `Traffic` is a breaker with the calls in flight, the callbacks made and not yet
run, and those run so far; `Traffic.step` is one step of one call; `Traffic.Reachable` is every
interleaving from a breaker just made.

The invariant, `Breaker.Sound`: a probe is out exactly while the circuit is half-open, a closed
circuit has counted fewer failures than its threshold, and the threshold and cooldown are
positive. Each step keeps it whatever state it meets, a failure booked long after its call went
through included (`Sound.allow`, `Sound.record`). The changes made under the lock form a `Chain`
from the closed state to the current one: every change is a real one and starts where the one
before ended. The callbacks run and those pending are these changes in some order. So in every
reachable state a half-open circuit has its probe out, and every callback reports a real change
(`calls_keep_breaker_sound`); but callbacks of overlapping calls can run out of the order of the
changes, one reporting a change from a state other than the one the callback before it reported
(`callbacks_run_out_of_order`).

The calls' outcomes are booked against the state the breaker is in when they arrive, not the one
their call went through in. A call that went through while the circuit was closed and finishes
while a probe is out closes the circuit itself, and the probe's outcome is then booked against a
closed one (`earlier_call_closes_before_probe`).
-/

namespace BrowserSessions.Breaker

variable {b : Breaker} {target : CircuitState} {now : Nat} {success : Bool}

/-! ## The three locked operations, field by field -/

@[simp] theorem state_transition : (b.transition target).1.state = target := by
  unfold transition
  split
  · simp_all
  · split <;> rfl

@[simp] theorem probing_transition : (b.transition target).1.probing = b.probing := by
  unfold transition
  split
  · rfl
  · split <;> rfl

@[simp] theorem threshold_transition : (b.transition target).1.threshold = b.threshold := by
  unfold transition
  split
  · rfl
  · split <;> rfl

@[simp] theorem cooldown_transition : (b.transition target).1.cooldown = b.cooldown := by
  unfold transition
  split
  · rfl
  · split <;> rfl

/-- Closing resets the count, any other move keeps it. -/
theorem failures_transition :
    (b.transition target).1.failures =
      if b.state ≠ target ∧ target = .closed then 0 else b.failures := by
  unfold transition
  by_cases hs : b.state = target
  · simp [hs]
  · by_cases hc : target = .closed
    · subst hc
      simp [hs]
    · simp [hs, hc]

/-- A move is reported when the state changes, and only then. -/
theorem reports_transition :
    (b.transition target).2 = if b.state = target then [] else [⟨b.state, target⟩] := by
  unfold transition
  by_cases hs : b.state = target <;> simp [hs]

/-- What `allow` does, by the state it meets. -/
theorem allow_eq (b : Breaker) (now : Nat) :
    b.allow now =
      match b.state with
      | .open =>
        if now - b.openedAt < b.cooldown then (false, b, [])
        else (true, { (b.transition .halfOpen).1 with probing := true }, (b.transition .halfOpen).2)
      | .halfOpen => if b.probing then (false, b, []) else (true, { b with probing := true }, [])
      | .closed => (true, b, []) := rfl

/-- What `record` does, by the outcome and the state it meets. -/
theorem record_eq (b : Breaker) (now : Nat) (success : Bool) :
    b.record now success =
      if success then
        if b.state = .halfOpen then ({ b with failures := 0, probing := false }).transition .closed
        else ({ b with failures := 0 }, [])
      else
        match b.state with
        | .halfOpen =>
          ({ b with failures := b.failures + 1, probing := false, openedAt := now }).transition .open
        | .closed =>
          if b.threshold ≤ b.failures + 1 then
            ({ b with failures := b.failures + 1, openedAt := now }).transition .open
          else ({ b with failures := b.failures + 1 }, [])
        | .open => ({ b with failures := b.failures + 1 }, []) := by
  unfold record
  cases success <;> cases b.state <;> simp

/-- Booking an outcome never leaves the circuit half-open. -/
theorem state_record_ne_halfOpen (b : Breaker) (now : Nat) (success : Bool) :
    (b.record now success).1.state ≠ .halfOpen := by
  rw [record_eq]
  cases success with
  | true => by_cases hs : b.state = .halfOpen <;> simp [hs]
  | false =>
    cases hs : b.state with
    | closed => by_cases hfull : b.threshold ≤ b.failures + 1 <;> simp [hfull]
    | halfOpen | «open» => simp

/-- A half-open circuit closes on a success and opens again on a failure, whichever call it is. -/
theorem state_record_of_halfOpen (hs : b.state = .halfOpen) :
    (b.record now success).1.state = if success then .closed else .open := by
  rw [record_eq]
  cases success <;> simp [hs]

/-! ## The invariant -/

/-- The breaker invariant. -/
structure Sound (b : Breaker) : Prop where
  /-- A probe is out exactly while the circuit is half-open. -/
  probing_iff : b.probing = true ↔ b.state = .halfOpen
  /-- A closed circuit has counted fewer failures than its threshold. -/
  failures_lt : b.state = .closed → b.failures < b.threshold
  threshold_pos : 0 < b.threshold
  cooldown_pos : 0 < b.cooldown

/-- A threshold that is not positive takes the default, so a new breaker's threshold is
positive. -/
theorem threshold_pos_create (name : String) (threshold cooldown : Int) :
    0 < (create name threshold cooldown).threshold := by
  simp only [create]
  split
  · decide
  · omega

theorem cooldown_pos_create (name : String) (threshold cooldown : Int) :
    0 < (create name threshold cooldown).cooldown := by
  simp only [create]
  split
  · decide
  · omega

/-- A breaker just made is sound: closed, with no failures and no probe out. -/
theorem sound_create (name : String) (threshold cooldown : Int) :
    (create name threshold cooldown).Sound where
  probing_iff := by simp [create]
  failures_lt _ := threshold_pos_create name threshold cooldown
  threshold_pos := threshold_pos_create name threshold cooldown
  cooldown_pos := cooldown_pos_create name threshold cooldown

namespace Sound

variable (hb : b.Sound)
include hb

theorem probing_eq_false (hs : b.state ≠ .halfOpen) : b.probing = false := by
  simpa [hs] using hb.probing_iff

/-- A half-open circuit has its probe out, so it refuses every call and changes nothing. -/
theorem allow_halfOpen (hs : b.state = .halfOpen) : b.allow now = (false, b, []) := by
  have hp : b.probing = true := hb.probing_iff.mpr hs
  simp [allow_eq, hs, hp]

/-- Deciding on a call keeps the invariant: the only moves are to half-open with the probe out,
and sending out the probe of a half-open circuit that has none. -/
theorem allow (now : Nat) : (b.allow now).2.1.Sound := by
  rw [allow_eq]
  cases hs : b.state with
  | closed => simpa using hb
  | halfOpen =>
    -- a half-open circuit always has its probe out, so the call is refused
    have hp : b.probing = true := hb.probing_iff.mpr hs
    simpa [hp] using hb
  | «open» =>
    by_cases hcool : now - b.openedAt < b.cooldown
    · simpa [hcool] using hb
    · simp only [hcool, if_false]
      exact ⟨by simp, by simp, by simpa using hb.threshold_pos, by simpa using hb.cooldown_pos⟩

/-- Booking an outcome keeps the invariant, whatever state the call went through in. -/
theorem record (now : Nat) (success : Bool) : (b.record now success).1.Sound := by
  rw [record_eq]
  have ht := hb.threshold_pos
  have hc := hb.cooldown_pos
  cases success with
  | true =>
    by_cases hs : b.state = .halfOpen
    · simp only [hs, if_true]
      exact ⟨by simp, by simp [failures_transition, ht], by simpa using ht, by simpa using hc⟩
    · simp only [hs, if_false]
      exact ⟨by simpa [hs] using hb.probing_eq_false hs, fun _ => by simpa using ht, ht, hc⟩
  | false =>
    simp only [Bool.false_eq_true, if_false]
    cases hs : b.state with
    | halfOpen => exact ⟨by simp, by simp, by simpa using ht, by simpa using hc⟩
    | closed =>
      have hp := hb.probing_eq_false (by simp [hs])
      by_cases hfull : b.threshold ≤ b.failures + 1
      · simp only [hfull, if_true]
        exact ⟨by simp [hp], by simp, by simpa using ht, by simpa using hc⟩
      · simp only [hfull, if_false]
        exact ⟨by simp [hp], fun _ => by simp; omega, ht, hc⟩
    | «open» =>
      have hp := hb.probing_eq_false (by simp [hs])
      exact ⟨by simp [hp], by simp, ht, hc⟩

end Sound

/-! ## Reported changes -/

/-- `Chain s ts s'`: the changes `ts`, in order, lead from `s` to `s'`; each is a real change and
starts where the one before ended. -/
inductive Chain : CircuitState → List Transition → CircuitState → Prop where
  | nil (s : CircuitState) : Chain s [] s
  | cons {s s'' : CircuitState} {ts : List Transition} (s' : CircuitState) :
      s ≠ s' → Chain s' ts s'' → Chain s (⟨s, s'⟩ :: ts) s''

namespace Chain

theorem append {s₁ s₂ s₃ : CircuitState} {ts ts' : List Transition} (h : Chain s₁ ts s₂)
    (h' : Chain s₂ ts' s₃) : Chain s₁ (ts ++ ts') s₃ := by
  induction h with
  | nil => exact h'
  | cons s' hne _ ih => exact .cons s' hne (ih h')

/-- Every reported change is a real one. -/
theorem source_ne_target {s s' : CircuitState} {ts : List Transition} (h : Chain s ts s') :
    ∀ t ∈ ts, t.source ≠ t.target := by
  induction h with
  | nil => simp
  | cons s' hne _ ih =>
    intro t ht
    rcases List.mem_cons.mp ht with rfl | ht
    · exact hne
    · exact ih t ht

/-- The first reported change starts from the state the chain starts from. -/
theorem head_source {s s' : CircuitState} {ts : List Transition} (h : Chain s ts s') :
    ∀ t ∈ ts.head?, t.source = s := by
  cases h with
  | nil => simp
  | cons _ _ _ => simp

/-- Each reported change starts where the one before it ended. -/
theorem source_eq_target {s s' : CircuitState} {ts : List Transition} (h : Chain s ts s') :
    ∀ i (hi : i + 1 < ts.length), ts[i + 1].source = ts[i].target := by
  induction h with
  | nil => simp
  | @cons s₀ s'' ts₀ s₁ _ hrest ih =>
    intro i hi
    cases i with
    | zero =>
      cases hrest with
      | nil => simp at hi
      | cons _ _ _ => rfl
    | succ i => exact ih i (by simpa using hi)

end Chain

theorem chain_transition (b : Breaker) (target : CircuitState) :
    Chain b.state (b.transition target).2 (b.transition target).1.state := by
  rw [reports_transition, state_transition]
  by_cases hs : b.state = target
  · simp only [hs, if_true]
    exact .nil target
  · simp only [hs, if_false]
    exact .cons target hs (.nil target)

theorem chain_allow (b : Breaker) (now : Nat) :
    Chain b.state (b.allow now).2.2 (b.allow now).2.1.state := by
  rw [allow_eq]
  cases hs : b.state with
  | closed => simpa [hs] using Chain.nil CircuitState.closed
  | halfOpen => by_cases hp : b.probing <;> simpa [hs, hp] using Chain.nil CircuitState.halfOpen
  | «open» =>
    by_cases hcool : now - b.openedAt < b.cooldown
    · simpa [hcool, hs] using Chain.nil CircuitState.open
    · simpa [hcool, hs] using chain_transition b .halfOpen

theorem chain_record (b : Breaker) (now : Nat) (success : Bool) :
    Chain b.state (b.record now success).2 (b.record now success).1.state := by
  rw [record_eq]
  cases success with
  | true =>
    by_cases hs : b.state = .halfOpen
    · simpa [hs] using chain_transition { b with failures := 0, probing := false } .closed
    · simpa [hs] using Chain.nil b.state
  | false =>
    cases hs : b.state with
    | halfOpen =>
      simpa [hs] using
        chain_transition { b with failures := b.failures + 1, probing := false, openedAt := now } .open
    | closed =>
      by_cases hfull : b.threshold ≤ b.failures + 1
      · simpa [hs, hfull] using
          chain_transition { b with failures := b.failures + 1, openedAt := now } .open
      · simpa [hs, hfull] using Chain.nil CircuitState.closed
    | «open» => simpa [hs] using Chain.nil CircuitState.open

/-! ## Calls in flight -/

/-- A call that went through and has not booked its outcome yet. -/
structure InFlight where
  /-- The call's number, in the order the calls were made. -/
  id : Nat
  /-- Whether it went through as the probe: it found the circuit other than closed. -/
  probe : Bool
  deriving DecidableEq, Repr

/-- One breaker with the calls through it. -/
structure Traffic where
  breaker : Breaker
  /-- The calls that went through and have not booked their outcome. -/
  inFlight : List InFlight := []
  /-- The number of calls made so far. -/
  calls : Nat := 0
  /-- The state changes made under the lock whose callback has not run yet, each with the number
  of the call that made it. -/
  pending : List (Nat × Transition) := []
  /-- The state change callbacks run so far, oldest first. -/
  reports : List Transition := []

/-- A step of one call: under the breaker's lock, or just after it. -/
inductive Move where
  /-- A new call asks to go through. -/
  | allow (now : Nat)
  /-- The call with a number books its outcome. -/
  | record (id : Nat) (now : Nat) (success : Bool)
  /-- The call with a number, having released the lock, runs the state change callback it made. -/
  | report (id : Nat)

namespace Traffic

/-- Takes a step. A call runs the callback its `allow` made before it books its outcome, and a call
that is not in flight, or has no callback to run, cannot take the step. -/
def step (t : Traffic) : Move → Option Traffic
  | .allow now =>
    let (admitted, b, ts) := t.breaker.allow now
    some { t with
      breaker := b, calls := t.calls + 1, pending := t.pending ++ ts.map fun tr => (t.calls, tr),
      inFlight :=
        if admitted then t.inFlight ++ [⟨t.calls, t.breaker.state != .closed⟩] else t.inFlight }
  | .record id now success =>
    if t.inFlight.any (·.id == id) && !t.pending.any (·.1 == id) then
      let (b, ts) := t.breaker.record now success
      some { t with
        breaker := b, pending := t.pending ++ ts.map fun tr => (id, tr),
        inFlight := t.inFlight.filter (·.id != id) }
    else none
  | .report id =>
    match t.pending.find? (·.1 == id) with
    | some p => some { t with pending := t.pending.erase p, reports := t.reports ++ [p.2] }
    | none => none

/-- Takes steps in order, as long as each can be taken. -/
def run (t : Traffic) (ms : List Move) : Option Traffic := ms.foldlM step t

/-- The traffic of a breaker just made, after any interleaving of steps. -/
inductive Reachable : Traffic → Prop where
  | start (name : String) (threshold cooldown : Int) :
      Reachable { breaker := create name threshold cooldown }
  | step {t t' : Traffic} (m : Move) : Reachable t → t.step m = some t' → Reachable t'

/-- The callbacks run and those pending, read in order. -/
def callbacks (t : Traffic) : List Transition := t.reports ++ t.pending.map Prod.snd

/-- One step moves the breaker by `allow` or `record` and leaves what that reported to be called
back, or runs one pending callback and leaves the breaker as it was. -/
theorem step_cases {t t' : Traffic} {m : Move} (h : t.step m = some t') :
    (∃ now, t'.breaker = (t.breaker.allow now).2.1 ∧
        t'.callbacks = t.callbacks ++ (t.breaker.allow now).2.2) ∨
      (∃ now success, t'.breaker = (t.breaker.record now success).1 ∧
        t'.callbacks = t.callbacks ++ (t.breaker.record now success).2) ∨
      (t'.breaker = t.breaker ∧ t'.callbacks.Perm t.callbacks) := by
  cases m with
  | allow now =>
    cases h
    refine .inl ⟨now, rfl, ?_⟩
    show t.reports ++ (t.pending ++ (t.breaker.allow now).2.2.map fun tr => (t.calls, tr)).map Prod.snd =
      t.callbacks ++ (t.breaker.allow now).2.2
    simp [callbacks, Function.comp_def]
  | record id now success =>
    simp only [step] at h
    split at h
    · cases h
      refine .inr (.inl ⟨now, success, rfl, ?_⟩)
      show t.reports ++ (t.pending ++ (t.breaker.record now success).2.map fun tr => (id, tr)).map
          Prod.snd = t.callbacks ++ (t.breaker.record now success).2
      simp [callbacks, Function.comp_def]
    · cases h
  | report id =>
    simp only [step] at h
    split at h
    · rename_i p hp
      cases h
      -- the callback run leaves the pending ones for the reports, in the same place of the order
      have hmem : p ∈ t.pending := List.mem_of_find?_eq_some hp
      have hperm : (t.pending.map Prod.snd).Perm (p.2 :: (t.pending.erase p).map Prod.snd) :=
        ((List.perm_cons_erase hmem).map Prod.snd)
      refine .inr (.inr ⟨rfl, ?_⟩)
      simp only [callbacks, List.append_assoc, List.singleton_append]
      exact (hperm.append_left t.reports).symm
    · cases h

theorem Reachable.run {t t' : Traffic} (h : t.Reachable) (ms : List Move)
    (hrun : t.run ms = some t') : t'.Reachable := by
  induction ms generalizing t with
  | nil =>
    cases hrun
    exact h
  | cons m ms ih =>
    simp only [Traffic.run, List.foldlM_cons, Option.bind_eq_bind, Option.bind_eq_some_iff] at hrun
    obtain ⟨t₁, h₁, hrest⟩ := hrun
    exact ih (h.step m h₁) hrest

end Traffic

/-- The breaker stays sound over every interleaving of calls, and the callbacks run and pending
are, in some order, the changes made under the lock: a chain from closed to where it is. -/
theorem Traffic.Reachable.sound {t : Traffic} (h : t.Reachable) :
    t.breaker.Sound ∧ ∃ changes, t.callbacks.Perm changes ∧ Chain .closed changes t.breaker.state := by
  induction h with
  | start name threshold cooldown => exact ⟨sound_create name threshold cooldown, [], .nil, .nil _⟩
  | step m _ hstep ih =>
    obtain ⟨hb, changes, hperm, hc⟩ := ih
    rcases Traffic.step_cases hstep with ⟨now, hb', hr'⟩ | ⟨now, success, hb', hr'⟩ | ⟨hb', hr'⟩
    · rw [hb', hr']
      exact ⟨hb.allow now, _, hperm.append_right _, hc.append (chain_allow _ now)⟩
    · rw [hb', hr']
      exact ⟨hb.record now success, _, hperm.append_right _, hc.append (chain_record _ now success)⟩
    · rw [hb']
      exact ⟨hb, changes, hr'.trans hperm, hc⟩

/-- Over every interleaving of overlapping calls, each reading the clock at its own instant, the
breaker stays sound: a probe is out exactly while half-open (so a half-open circuit never lets a
second call through), a closed circuit has counted fewer failures than its threshold, and the
threshold and cooldown stay positive. Every state change callback is called with a real change.
The changes made under the lock, in the order they were made, run from closed to the current
state, each starting where the one before ended; the callbacks run so far and those still pending
are those changes in some order. Callbacks run after the lock is released, so the order they run
in need not be the order of the changes (`callbacks_run_out_of_order`). -/
theorem calls_keep_breaker_sound {t : Traffic} (h : t.Reachable) :
    t.breaker.Sound ∧
      (t.breaker.state = .halfOpen → ∀ now, (t.breaker.allow now).1 = false) ∧
      (∀ tr ∈ t.reports, tr.source ≠ tr.target) ∧
      ∃ changes, (t.reports ++ t.pending.map Prod.snd).Perm changes ∧
        Chain .closed changes t.breaker.state := by
  obtain ⟨hb, changes, hperm, hc⟩ := h.sound
  refine ⟨hb, fun hs now => ?_, fun tr htr => ?_, changes, hperm, hc⟩
  · rw [hb.allow_halfOpen hs]
  · exact hc.source_ne_target tr (hperm.subset (List.mem_append_left _ htr))

/-! ## Callbacks out of order -/

/-- With a threshold of one and a cooldown of one nanosecond, a first call fails at instant 0 and
opens the circuit; before it runs its callback, a second call at instant 1 finds the cooldown up,
goes through as the probe and runs its own callback first. -/
def lateCallback : Traffic where
  breaker := { name := "upstream", threshold := 1, cooldown := 1, state := .halfOpen, failures := 1,
               openedAt := 0, probing := true }
  inFlight := [⟨1, true⟩]
  calls := 2
  reports := [⟨.open, .halfOpen⟩, ⟨.closed, .open⟩]

/-- The state change callbacks of overlapping calls can run out of order: the move to half-open is
reported before the move to open that came first, so a reported change need not start where the
one reported before it ended. -/
theorem callbacks_run_out_of_order :
    lateCallback.Reachable ∧ lateCallback.reports = [⟨.open, .halfOpen⟩, ⟨.closed, .open⟩] ∧
      ¬ ∀ i (hi : i + 1 < lateCallback.reports.length),
          lateCallback.reports[i + 1].source = lateCallback.reports[i].target := by
  refine ⟨(Traffic.Reachable.start "upstream" 1 1).run
    [.allow 0, .record 0 0 false, .allow 1, .report 1, .report 0] rfl, rfl, fun h => ?_⟩
  exact absurd (h 0 (by decide)) (by decide)

/-! ## Who decides the half-open outcome -/

namespace Traffic

variable {t t' : Traffic} {m : Move} {id : Nat}

/-- Booking an outcome moves the breaker by `record`. -/
theorem breaker_step_record (h : t.step (.record id now success) = some t') :
    t'.breaker = (t.breaker.record now success).1 := by
  simp only [step] at h
  split at h
  · cases h
    rfl
  · cases h

/-- Running a callback leaves the breaker alone. -/
theorem breaker_step_report (h : t.step (.report id) = some t') : t'.breaker = t.breaker := by
  simp only [step] at h
  split at h
  · cases h
    rfl
  · cases h

/-- A call that finds the circuit open before its cooldown is up is refused, and nothing but the
count of calls changes. -/
theorem step_allow_cooling (hs : t.breaker.state = .open)
    (hcool : now - t.breaker.openedAt < t.breaker.cooldown) :
    t.step (.allow now) = some { t with calls := t.calls + 1 } := by
  have hallow : t.breaker.allow now = (false, t.breaker, []) := by simp [allow_eq, hs, hcool]
  simp [step, hallow]

/-- The one way into half-open: a call that finds the circuit open once the cooldown is up, and
goes through as the probe. -/
theorem enters_halfOpen (h : t.step m = some t') (hs : t.breaker.state ≠ .halfOpen)
    (hs' : t'.breaker.state = .halfOpen) :
    ∃ now, m = .allow now ∧ t.breaker.state = .open ∧ t.breaker.cooldown ≤ now - t.breaker.openedAt ∧
      t'.inFlight = t.inFlight ++ [⟨t.calls, true⟩] := by
  cases m with
  | allow now =>
    simp only [step, Option.some.injEq] at h
    subst h
    refine ⟨now, rfl, ?_⟩
    revert hs'
    rw [allow_eq]
    cases hst : t.breaker.state with
    | closed => simp [hst]
    | halfOpen => exact absurd hst hs
    | «open» =>
      by_cases hcool : now - t.breaker.openedAt < t.breaker.cooldown
      · simp [hst, hcool]
      · simp [hcool]
        omega
  | record id now success =>
    rw [breaker_step_record h] at hs'
    exact absurd hs' (state_record_ne_halfOpen _ now success)
  | report id =>
    rw [breaker_step_report h] at hs'
    exact absurd hs' hs

/-- The one way out of half-open: a call books its outcome, a success closing the circuit and a
failure opening it again. Which call books it is not asked. -/
theorem leaves_halfOpen (h : t.step m = some t') (hs : t.breaker.state = .halfOpen)
    (hs' : t'.breaker.state ≠ .halfOpen) :
    ∃ id now success, m = .record id now success ∧
      t'.breaker.state = if success then .closed else .open := by
  cases m with
  | allow now =>
    simp only [step, Option.some.injEq] at h
    subst h
    revert hs'
    by_cases hp : t.breaker.probing <;> simp [allow_eq, hs, hp]
  | record id now success =>
    rw [breaker_step_record h]
    exact ⟨id, now, success, rfl, state_record_of_halfOpen hs⟩
  | report id =>
    rw [breaker_step_report h] at hs'
    exact absurd hs hs'

/-- A half-open circuit of reachable traffic lets no call through. -/
theorem Reachable.allow_halfOpen (hr : t.Reachable) (hs : t.breaker.state = .halfOpen) :
    t.step (.allow now) = some { t with calls := t.calls + 1 } := by
  simp [Traffic.step, hr.sound.1.allow_halfOpen hs]

end Traffic

/-- Two calls have gone through a closed circuit whose threshold is one and whose cooldown is one
nanosecond; the second failed at instant 0 and opened the circuit, and at instant 1 a third call
went through as the probe. Both callbacks have run; the first call is still out. -/
def probeOut : Traffic where
  breaker := { name := "upstream", threshold := 1, cooldown := 1, state := .halfOpen, failures := 1,
               openedAt := 0, probing := true }
  inFlight := [⟨0, false⟩, ⟨2, true⟩]
  calls := 3
  reports := [⟨.closed, .open⟩, ⟨.open, .halfOpen⟩]

/-- The first call of `probeOut` has succeeded, and closed the circuit; its callback is yet to
run. -/
def earlyClose : Traffic where
  breaker := { name := "upstream", threshold := 1, cooldown := 1, state := .closed, failures := 0,
               openedAt := 0, probing := false }
  inFlight := [⟨2, true⟩]
  calls := 3
  pending := [(0, ⟨.halfOpen, .closed⟩)]
  reports := [⟨.closed, .open⟩, ⟨.open, .halfOpen⟩]

theorem reachable_probeOut : probeOut.Reachable :=
  (Traffic.Reachable.start "upstream" 1 1).run
    [.allow 0, .allow 0, .record 1 0 false, .report 1, .allow 1, .report 2] rfl

/-- A call that went through while the circuit was closed books its success while the probe is
out: it closes the circuit, and the probe's outcome will be booked against a closed one. -/
theorem earlier_call_closes_before_probe :
    probeOut.Reachable ∧ probeOut.breaker.state = .halfOpen ∧ ⟨0, false⟩ ∈ probeOut.inFlight ∧
      ⟨2, true⟩ ∈ probeOut.inFlight ∧ probeOut.step (.record 0 1 true) = some earlyClose ∧
      earlyClose.breaker.state = .closed ∧ ⟨2, true⟩ ∈ earlyClose.inFlight :=
  ⟨reachable_probeOut, rfl, by simp [probeOut], by simp [probeOut], rfl, rfl, by simp [earlyClose]⟩

end BrowserSessions.Breaker
