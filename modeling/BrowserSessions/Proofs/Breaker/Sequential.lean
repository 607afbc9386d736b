import BrowserSessions.Proofs.Breaker.Interleaving

/-!
# Breaker calls made one at a time

When each call through a breaker has booked its outcome before the next one asks to go through,
the breaker is a small automaton. It is closed with a count of consecutive failures, or open
since an instant:

* closed with `k` failures: a success leaves it closed with none; a failure leaves it closed with
  `k + 1` while that is below the threshold `T`, and opens it at the instant the failure is
  booked otherwise;
* open since `t`: a call that asks before `t` plus the cooldown `C` is refused without running its
  function; a later one is let through as the probe, whose success closes the circuit with no
  failures and whose failure opens it again at the instant it is booked.

`Phase` is that automaton and `Phase.call` its step. A breaker between calls is `Idle` (sound and
not half-open) and stands for the phase `Breaker.phase`; one call through it comes to what the
automaton's step comes to and moves it to the step's phase (`Idle.call`), so runs of calls agree
(`Idle.runCalls`). Asked for its state, an idle breaker reports half-open exactly when the next
call would go through as a probe (`Idle.stateAt_eq_halfOpen_iff`). After `T` failed calls in a
row it is open since the last of them (`Phase.runCalls_failed_open`), and it refuses every call
that asks before the cooldown has passed since then (`Phase.runCalls_cooling`).
-/

namespace BrowserSessions.Breaker

/-- A call made while no other is out: when it asks to go through, when its function's outcome is
booked, and that outcome. -/
structure Attempt where
  start : Nat
  finish : Nat
  success : Bool
  deriving DecidableEq, Repr

/-! ## The reference automaton -/

/-- The states of the reference automaton: closed with a count of consecutive failures, or open
since an instant. -/
inductive Phase where
  | closed (failures : Nat)
  | open (since : Nat)
  deriving DecidableEq, Repr

namespace Phase

/-- One call, with threshold `T` and cooldown `C`: what it comes to and the state after it. -/
def call (T C : Nat) : Phase → Attempt → CallResult × Phase
  | .closed _, ⟨_, _, true⟩ => (.succeeded, .closed 0)
  | .closed k, ⟨_, finish, false⟩ => (.failed, if k + 1 < T then .closed (k + 1) else .open finish)
  | .open t, ⟨start, finish, success⟩ =>
    if start < t + C then (.rejected, .open t)
    else if success then (.succeeded, .closed 0) else (.failed, .open finish)

/-- Calls one after another: what each came to, and the state after the last. -/
def runCalls (T C : Nat) (p : Phase) : List Attempt → List CallResult × Phase
  | [] => ([], p)
  | a :: as => ((p.call T C a).1 :: ((p.call T C a).2.runCalls T C as).1,
      ((p.call T C a).2.runCalls T C as).2)

variable {T C : Nat}

@[simp] theorem runCalls_nil (p : Phase) : p.runCalls T C [] = ([], p) := rfl

@[simp] theorem runCalls_cons (p : Phase) (a : Attempt) (as : List Attempt) :
    p.runCalls T C (a :: as) =
      ((p.call T C a).1 :: ((p.call T C a).2.runCalls T C as).1,
        ((p.call T C a).2.runCalls T C as).2) := rfl

/-- A failed call leaves the automaton open since it was booked, or closed with one failure
more than before, below the threshold. -/
theorem call_failed {p : Phase} {a : Attempt} (h : (p.call T C a).1 = .failed) :
    (p.call T C a).2 = .open a.finish ∨
      ∃ k, p = .closed k ∧ k + 1 < T ∧ (p.call T C a).2 = .closed (k + 1) := by
  obtain ⟨start, finish, success⟩ := a
  cases p with
  | closed k =>
    cases success with
    | true => simp [call] at h
    | false =>
      by_cases hk : k + 1 < T
      · exact .inr ⟨k, rfl, hk, by simp [call, hk]⟩
      · exact .inl (by simp [call, hk])
  | «open» t =>
    by_cases hcool : start < t + C
    · simp [call, hcool] at h
    · cases success with
      | true => simp [call, hcool] at h
      | false => exact .inl (by simp [call, hcool])

/-- After calls that all failed, the automaton is open since the last was booked, or it stayed
closed throughout and counted every one of them. -/
theorem runCalls_failed (p : Phase) (as : List Attempt)
    (h : (p.runCalls T C as).1 = List.replicate as.length .failed) :
    (∀ a ∈ as.getLast?, (p.runCalls T C as).2 = .open a.finish) ∨
      ∃ k, p = .closed k ∧ (p.runCalls T C as).2 = .closed (k + as.length) := by
  induction as generalizing p with
  | nil => exact .inl (by simp)
  | cons a as ih =>
    simp only [runCalls_cons, List.length_cons, List.replicate_succ, List.cons.injEq] at h
    obtain ⟨ha, hrest⟩ := h
    rcases ih _ hrest with hopen | ⟨k, hk, hclosed⟩
    · -- the rest was not empty and ended open, or was empty and this call decides
      cases as with
      | nil =>
        rcases call_failed ha with hq | ⟨k, rfl, -, hq⟩
        · exact .inl (by simp [hq])
        · exact .inr ⟨k, rfl, by simp [hq]⟩
      | cons b bs =>
        left
        intro x hx
        simp only [List.getLast?_cons_cons] at hx
        simpa [runCalls_cons] using hopen x hx
    · -- the rest stayed closed, so this call left the automaton closed too
      rcases call_failed ha with hq | ⟨k', rfl, -, hq⟩
      · rw [hq] at hk
        cases hk
      · rw [hq] at hk hclosed
        cases hk
        refine .inr ⟨k', rfl, ?_⟩
        simp only [runCalls_cons, hq, hclosed, List.length_cons, Phase.closed.injEq]
        omega

/-- An open automaton refuses every call that asks before the cooldown has passed, and stays as
it was. -/
theorem runCalls_cooling {t : Nat} (as : List Attempt) (h : ∀ a ∈ as, a.start < t + C) :
    (Phase.open t).runCalls T C as = (List.replicate as.length .rejected, .open t) := by
  induction as with
  | nil => rfl
  | cons a as ih =>
    have hcool : a.start < t + C := h a List.mem_cons_self
    have hstep : (Phase.open t).call T C a = (.rejected, .open t) := by
      obtain ⟨start, finish, success⟩ := a
      simp [call, hcool]
    rw [runCalls_cons, hstep, ih fun b hb => h b (List.mem_cons_of_mem _ hb)]
    rfl

end Phase

/-! ## A breaker between calls -/

/-- A breaker's calls one after another: what each came to, and the breaker after the last. -/
def runCalls (b : Breaker) : List Attempt → List CallResult × Breaker
  | [] => ([], b)
  | a :: as =>
    let c := b.call a.start a.finish a.success
    ((c.1 :: (c.2.1.runCalls as).1), (c.2.1.runCalls as).2)

@[simp] theorem runCalls_nil (b : Breaker) : b.runCalls [] = ([], b) := rfl

@[simp] theorem runCalls_cons (b : Breaker) (a : Attempt) (as : List Attempt) :
    b.runCalls (a :: as) =
      ((b.call a.start a.finish a.success).1 ::
          ((b.call a.start a.finish a.success).2.1.runCalls as).1,
        ((b.call a.start a.finish a.success).2.1.runCalls as).2) := rfl

theorem length_runCalls (b : Breaker) (as : List Attempt) : (b.runCalls as).1.length = as.length := by
  induction as generalizing b with
  | nil => rfl
  | cons a as ih => simp [ih]

/-- The automaton state a breaker between calls stands for. -/
def phase (b : Breaker) : Phase :=
  match b.state with
  | .closed => .closed b.failures
  | _ => .open b.openedAt

@[simp] theorem phase_create (name : String) (threshold cooldown : Int) :
    (create name threshold cooldown).phase = .closed 0 := rfl

/-- A breaker between calls made one at a time: sound, and never half-open, since a probe books
its outcome before the next call asks. -/
structure Idle (b : Breaker) : Prop where
  sound : b.Sound
  not_halfOpen : b.state ≠ .halfOpen

theorem idle_create (name : String) (threshold cooldown : Int) :
    (create name threshold cooldown).Idle :=
  ⟨sound_create name threshold cooldown, by simp [create]⟩

@[simp] theorem openedAt_transition {b : Breaker} {target : CircuitState} :
    (b.transition target).1.openedAt = b.openedAt := by
  unfold transition
  split
  · rfl
  · split <;> rfl

@[simp] theorem name_transition {b : Breaker} {target : CircuitState} :
    (b.transition target).1.name = b.name := by
  unfold transition
  split
  · rfl
  · split <;> rfl

/-- A call that is refused changes nothing but what `allow` changed. -/
theorem call_of_refused {b : Breaker} {start finish : Nat} {success : Bool}
    (h : (b.allow start).1 = false) :
    b.call start finish success = (.rejected, (b.allow start).2.1, (b.allow start).2.2) := by
  simp [call, h]

/-- A call that goes through books its function's outcome. -/
theorem call_of_allowed {b : Breaker} {start finish : Nat} {success : Bool}
    (h : (b.allow start).1 = true) :
    b.call start finish success =
      (if success then .succeeded else .failed, ((b.allow start).2.1.record finish success).1,
        (b.allow start).2.2 ++ ((b.allow start).2.1.record finish success).2) := by
  simp [call, h]

/-- On a closed circuit a call goes through and its outcome is booked on the breaker as it was. -/
theorem call_of_closed {b : Breaker} {start finish : Nat} {success : Bool}
    (hs : b.state = .closed) :
    b.call start finish success =
      (if success then .succeeded else .failed, (b.record finish success).1,
        (b.record finish success).2) := by
  have hgo : (b.allow start).1 = true := by simp [allow_eq, hs]
  have hallow : b.allow start = (true, b, []) := by simp [allow_eq, hs]
  rw [call_of_allowed hgo, hallow, List.nil_append]

/-- On an open circuit a call that asks before the cooldown has passed is refused and changes
nothing. -/
theorem call_of_cooling {b : Breaker} {start finish : Nat} {success : Bool}
    (hs : b.state = .open) (hcool : start - b.openedAt < b.cooldown) :
    b.call start finish success = (.rejected, b, []) := by
  have hrefused : (b.allow start).1 = false := by simp [allow_eq, hs, hcool]
  have hallow : b.allow start = (false, b, []) := by simp [allow_eq, hs, hcool]
  rw [call_of_refused hrefused, hallow]

/-- Asking to go through keeps the breaker's name, threshold and cooldown. -/
theorem allow_keeps_settings (b : Breaker) (now : Nat) :
    let b' := (b.allow now).2.1
    b'.name = b.name ∧ b'.threshold = b.threshold ∧ b'.cooldown = b.cooldown := by
  rw [allow_eq]
  cases b.state with
  | closed => simp
  | halfOpen => by_cases hp : b.probing <;> simp [hp]
  | «open» => by_cases hcool : now - b.openedAt < b.cooldown <;> simp [hcool]

/-- Booking an outcome keeps the breaker's name, threshold and cooldown. -/
theorem record_keeps_settings (b : Breaker) (now : Nat) (success : Bool) :
    let b' := (b.record now success).1
    b'.name = b.name ∧ b'.threshold = b.threshold ∧ b'.cooldown = b.cooldown := by
  rw [record_eq]
  cases success with
  | true => by_cases hs : b.state = .halfOpen <;> simp [hs]
  | false =>
    cases b.state with
    | closed => by_cases hfull : b.threshold ≤ b.failures + 1 <;> simp [hfull]
    | halfOpen | «open» => simp

/-- A call keeps the breaker's name, threshold and cooldown. -/
theorem call_keeps_settings (b : Breaker) (start finish : Nat) (success : Bool) :
    let b' := (b.call start finish success).2.1
    b'.name = b.name ∧ b'.threshold = b.threshold ∧ b'.cooldown = b.cooldown := by
  have hallow := allow_keeps_settings b start
  cases hgo : (b.allow start).1 with
  | false =>
    rw [call_of_refused hgo]
    exact hallow
  | true =>
    rw [call_of_allowed hgo]
    obtain ⟨h₁, h₂, h₃⟩ := record_keeps_settings (b.allow start).2.1 finish success
    exact ⟨h₁.trans hallow.1, h₂.trans hallow.2.1, h₃.trans hallow.2.2⟩

namespace Idle

variable {b : Breaker} (hb : b.Idle)
include hb

theorem probing_eq_false : b.probing = false := hb.sound.probing_eq_false hb.not_halfOpen

/-- One call through an idle breaker comes to what the automaton's step comes to, moves it to the
step's phase, and leaves it idle. -/
theorem call (a : Attempt) :
    (b.call a.start a.finish a.success).1 = (b.phase.call b.threshold b.cooldown a).1 ∧
      (b.call a.start a.finish a.success).2.1.phase = (b.phase.call b.threshold b.cooldown a).2 ∧
      (b.call a.start a.finish a.success).2.1.Idle := by
  obtain ⟨start, finish, success⟩ := a
  have hC := hb.sound.cooldown_pos
  cases hs : b.state with
  | halfOpen => exact absurd hs hb.not_halfOpen
  | closed =>
    -- let through, the outcome booked on the closed circuit
    have hk := hb.sound.failures_lt hs
    have hidle : (b.record finish success).1.Idle :=
      ⟨hb.sound.record finish success, state_record_ne_halfOpen b finish success⟩
    rw [call_of_closed hs]
    refine ⟨by cases success <;> simp [phase, Phase.call, hs], ?_, hidle⟩
    cases success with
    | true => simp [phase, Phase.call, record_eq, hs]
    | false =>
      by_cases hlt : b.failures + 1 < b.threshold
      · have hroom : ¬ b.threshold ≤ b.failures + 1 := by omega
        simp [phase, Phase.call, record_eq, hs, hlt, hroom]
      · have hfull : b.threshold ≤ b.failures + 1 := by omega
        simp [phase, Phase.call, record_eq, hs, hlt, hfull]
  | «open» =>
    by_cases hcool : start < b.openedAt + b.cooldown
    · -- refused while cooling down: nothing changes
      have hcool' : start - b.openedAt < b.cooldown := by omega
      rw [call_of_cooling hs hcool']
      exact ⟨by simp [phase, Phase.call, hs, hcool], by simp [phase, Phase.call, hs, hcool], hb⟩
    · -- the probe: half-open while it runs, then closed or open again by its outcome
      have hcool' : ¬ start - b.openedAt < b.cooldown := by omega
      have hgo : (b.allow start).1 = true := by simp [allow_eq, hs, hcool']
      have hhalf : (b.allow start).2.1.state = .halfOpen := by simp [allow_eq, hs, hcool']
      have hidle : ((b.allow start).2.1.record finish success).1.Idle :=
        ⟨(hb.sound.allow start).record finish success, state_record_ne_halfOpen _ finish success⟩
      rw [call_of_allowed hgo]
      refine ⟨by cases success <;> simp [phase, Phase.call, hs, hcool], ?_, hidle⟩
      cases success with
      | true => simp [phase, Phase.call, hs, hcool, record_eq, hhalf, failures_transition]
      | false => simp [phase, Phase.call, hs, hcool, record_eq, hhalf]

/-- Calls one after another through an idle breaker come to what the automaton's calls come to,
and leave it idle in the automaton's final phase. -/
theorem runCalls (as : List Attempt) :
    (b.runCalls as).1 = (b.phase.runCalls b.threshold b.cooldown as).1 ∧
      (b.runCalls as).2.phase = (b.phase.runCalls b.threshold b.cooldown as).2 ∧
      (b.runCalls as).2.Idle ∧ (b.runCalls as).2.threshold = b.threshold ∧
      (b.runCalls as).2.cooldown = b.cooldown := by
  induction as generalizing b with
  | nil => exact ⟨rfl, rfl, hb, rfl, rfl⟩
  | cons a as ih =>
    obtain ⟨hres, hphase, hidle⟩ := hb.call a
    obtain ⟨-, hT, hC⟩ := call_keeps_settings b a.start a.finish a.success
    obtain ⟨hres', hphase', hidle', hT', hC'⟩ := ih hidle
    refine ⟨?_, ?_, hidle', hT'.trans hT, hC'.trans hC⟩
    · simp only [runCalls_cons, Phase.runCalls_cons, hres, hres', hphase, hT, hC]
    · simp only [runCalls_cons, Phase.runCalls_cons, hphase', hphase, hT, hC]

/-- Asked for its state, an idle breaker reports half-open exactly when the next call would be
let through as the probe. -/
theorem stateAt_eq_halfOpen_iff (now : Nat) :
    b.stateAt now = .halfOpen ↔ (b.allow now).1 = true ∧ (b.allow now).2.1.probing = true := by
  have hp := hb.probing_eq_false
  cases hs : b.state with
  | halfOpen => exact absurd hs hb.not_halfOpen
  | closed => simp [stateAt, allow_eq, hs, hp]
  | «open» =>
    by_cases hcool : now - b.openedAt < b.cooldown <;> simp [stateAt, allow_eq, hs, hcool]

/-- An idle breaker closed with some failures has fewer than its threshold. -/
theorem phase_closed_lt {k : Nat} (h : b.phase = .closed k) : k < b.threshold := by
  unfold phase at h
  cases hs : b.state with
  | closed =>
    rw [hs] at h
    cases h
    exact hb.sound.failures_lt hs
  | halfOpen | «open» =>
    rw [hs] at h
    cases h

/-- After at least its threshold of calls in a row that all failed, an idle breaker refuses
every call that asks before the cooldown has passed since the last of them was booked, without
running its function, and stays open since then. -/
theorem refuses_after_failures (fails later : List Attempt) {last : Attempt}
    (hfailed : (b.runCalls fails).1 = List.replicate fails.length .failed)
    (hmany : b.threshold ≤ fails.length) (hlast : fails.getLast? = some last)
    (hcool : ∀ a ∈ later, a.start < last.finish + b.cooldown) :
    ((b.runCalls fails).2.runCalls later).1 = List.replicate later.length .rejected ∧
      ((b.runCalls fails).2.runCalls later).2.phase = .open last.finish := by
  obtain ⟨hres, hphase, hidle, hT, hC⟩ := hb.runCalls fails
  have hopen : (b.runCalls fails).2.phase = .open last.finish := by
    rw [hres] at hfailed
    rcases Phase.runCalls_failed _ _ hfailed with hopen | ⟨k, -, hclosed⟩
    · rw [hphase]
      exact hopen last hlast
    · -- closed after them all would mean `k + fails.length` failures, at least the threshold
      have := hidle.phase_closed_lt (hphase.trans hclosed)
      rw [hT] at this
      omega
  obtain ⟨hres', hphase', -⟩ := hidle.runCalls later
  rw [hopen, hC, Phase.runCalls_cooling later hcool] at hres' hphase'
  exact ⟨hres', hphase'⟩

end Idle

-- Threshold 2, cooldown 10: the failures at 0 and 1 open the circuit, the calls at 5 and 10 are
-- refused, and the one at 11 is the probe.
example :
    ((create "e" 2 10).runCalls
        [⟨0, 0, false⟩, ⟨1, 1, false⟩, ⟨5, 5, true⟩, ⟨10, 10, true⟩, ⟨11, 12, true⟩]).1 =
      [.failed, .failed, .rejected, .rejected, .succeeded] := by decide

end BrowserSessions.Breaker
