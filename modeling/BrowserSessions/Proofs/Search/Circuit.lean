import BrowserSessions.Search.Suggest
import BrowserSessions.Proofs.Breaker.Sequential

/-!
# Lookups through an engine's circuit breaker

A lookup that gets past the suggester's own guards (a non-empty query, suggestions turned on, a
caller still waiting, an engine with a suggestion endpoint) makes exactly one call through its
engine's breaker, at the lookup's instant: it asks to go through and, if let through, books at
once whether the endpoint answered (`suggest_of_engine?_some`). Every other lookup leaves the
suggester as it was (`suggest_of_engine?_none`). What the lookups of one engine do to its
breaker is therefore a run of calls, the engine's own, with the other engines' lookups dropped
(`askAll_through_breaker`), and the theory of `Breaker.Sequential` carries over: after as many
failed lookups in a row as the breaker's threshold, the engine's endpoint is not asked again, and
each of its lookups fails with the open circuit, until the cooldown has passed since the last
failure (`engine_spared_after_failures`).

An answer that does not read as suggestions books a success: the breaker only sees whether the
endpoint answered.
-/

namespace BrowserSessions.Search

open Breaker (Attempt)

/-- Whether the endpoint's answer books a success on the engine's breaker: it is not worth
another try, and its status is below 400. -/
def UpstreamReply.answered (reply : UpstreamReply) : Bool :=
  !retryable reply.status && decide (reply.status ≤ 399)

/-- What a lookup that went through its engine's breaker came to there: refused while the
circuit was open, failed when the endpoint refused it or the tries ran out, and a success
otherwise, an answer that did not read as suggestions included. -/
def Lookup.outcome (l : Lookup) : Breaker.CallResult :=
  match l.result with
  | .error (.circuitOpen _) => .rejected
  | .error (.status _ _) | .error (.gaveUp _ _ _) => .failed
  | _ => .succeeded

/-- One lookup asked of the suggester: the engines, the user's choice, the query, whether the
caller had already given up, the instant, and what the endpoint answers. -/
structure Ask where
  engines : Manager
  enabled : Bool
  query : Bytes
  cancelled : Bool
  now : Nat
  reply : UpstreamReply

namespace Ask

/-- The engine whose breaker the lookup goes through: none for an empty query, with suggestions
turned off, for a caller that has given up, or when the default engine has no suggestion
endpoint. -/
def engine? (a : Ask) : Option Engine :=
  if a.query.isEmpty || !a.enabled || a.cancelled then none
  else a.engines.defaultEngine?.filter fun engine => !(engine.suggestUrlOf a.query).isEmpty

/-- Whether the lookup goes through the breaker of engine `e`. -/
def reaches (a : Ask) (e : String) : Bool := a.engine?.any (·.id == e)

theorem reaches_iff {a : Ask} {e : String} :
    a.reaches e = true ↔ ∃ engine, a.engine? = some engine ∧ engine.id = e := by
  unfold reaches
  cases a.engine? <;> simp

/-- The call the lookup makes through its engine's breaker: it asks and books at its instant. -/
def attempt (a : Ask) : Attempt := ⟨a.now, a.now, a.reply.answered⟩

end Ask

/-- What the lookups that went through engine `e`'s breaker came to there, in order. -/
def reachedOutcomes (e : String) (asks : List Ask) (lookups : List Lookup) : List Breaker.CallResult :=
  ((lookups.zip asks).filter (·.2.reaches e)).map (·.1.outcome)

namespace Suggester

/-- Lookups one after another, threading the suggester and the metrics. -/
def askAll (s : Suggester) (metrics : Option Metrics) : List Ask → List Lookup × Suggester × Option Metrics
  | [] => ([], s, metrics)
  | a :: as =>
    let r := s.suggest a.engines metrics a.enabled a.query a.cancelled a.now a.reply
    let rest := r.2.1.askAll r.2.2 as
    (r.1 :: rest.1, rest.2)

@[simp] theorem askAll_nil (s : Suggester) (metrics : Option Metrics) :
    s.askAll metrics [] = ([], s, metrics) := rfl

@[simp] theorem askAll_cons (s : Suggester) (metrics : Option Metrics) (a : Ask) (as : List Ask) :
    s.askAll metrics (a :: as) =
      let r := s.suggest a.engines metrics a.enabled a.query a.cancelled a.now a.reply
      ((r.1 :: (r.2.1.askAll r.2.2 as).1), (r.2.1.askAll r.2.2 as).2) := rfl

/-! ## The breakers by engine -/

@[simp] theorem name_breaker (s : Suggester) (y : String) : (s.breaker y).name = y := by
  unfold breaker
  cases h : s.breakers.find? (·.name == y) with
  | none => rfl
  | some b => simpa using List.find?_some h

@[simp] theorem config_withBreaker (s : Suggester) (b : Breaker) :
    (s.withBreaker b).config = s.config := by
  unfold withBreaker
  split <;> rfl

/-- Where an engine finds its breaker once one is replaced. -/
theorem find?_withBreaker (s : Suggester) (b : Breaker) (y : String) :
    (s.withBreaker b).breakers.find? (·.name == y) =
      if b.name = y then some b else s.breakers.find? (·.name == y) := by
  unfold withBreaker
  by_cases hany : s.breakers.any (·.name == b.name)
  · -- replaced in place: replacing keeps every name, so each name is found where it was
    have hpred : ((·.name == y) ∘ fun x : Breaker => if x.name == b.name then b else x) =
        (·.name == y) := by
      funext x
      by_cases hx : x.name = b.name <;> simp [hx]
    rw [if_pos hany, List.find?_map, hpred]
    by_cases hy : b.name = y
    · subst hy
      have hsome : (s.breakers.find? (·.name == b.name)).isSome := by
        rw [List.find?_isSome]
        simpa using hany
      obtain ⟨x, hx⟩ := Option.isSome_iff_exists.mp hsome
      have hxname : x.name = b.name := by simpa using List.find?_some hx
      simp [hx, hxname]
    · cases hf : s.breakers.find? (·.name == y) with
      | none => simp [hy]
      | some x =>
        have hx : x.name = y := by simpa using List.find?_some hf
        simp [hy, hx, Ne.symm hy]
  · -- added at the end: found only when nothing before it has its name
    rw [if_neg hany, List.find?_append]
    by_cases hy : b.name = y
    · subst hy
      have hnone : s.breakers.find? (·.name == b.name) = none := by
        simpa using hany
      simp [hnone]
    · cases s.breakers.find? (·.name == y) <;> simp [hy]

/-- Replacing an engine's breaker changes what that engine finds and nothing else. -/
theorem breaker_withBreaker (s : Suggester) (b : Breaker) (y : String) :
    (s.withBreaker b).breaker y = if b.name = y then b else s.breaker y := by
  unfold breaker
  rw [find?_withBreaker, config_withBreaker]
  by_cases hy : b.name = y <;> simp [hy]

/-! ## One lookup -/

/-- A fetch succeeds exactly when the endpoint's answer counts as one; otherwise the endpoint
refused it with its status or the tries ran out. -/
theorem fetch_cases (s : Suggester) (e url : String) (reply : UpstreamReply) :
    (reply.answered = true ∧ ∃ body, (s.fetch e url reply).1 = .ok body) ∨
      (reply.answered = false ∧ ((s.fetch e url reply).1 = .error (.status e reply.status) ∨
        ∃ u n, (s.fetch e url reply).1 = .error (.gaveUp e u n))) := by
  unfold fetch UpstreamReply.answered
  by_cases hretry : retryable reply.status = true
  · simp [hretry]
  · by_cases hbad : reply.status > 399
    · have : ¬ reply.status ≤ 399 := by omega
      simp [hretry, hbad, this]
    · have : reply.status ≤ 399 := by omega
      simp [hretry, hbad, this]

/-- A lookup that does not get as far as a breaker leaves the suggester as it was. -/
theorem suggest_of_engine?_none (s : Suggester) (metrics : Option Metrics) {a : Ask}
    (h : a.engine? = none) :
    (s.suggest a.engines metrics a.enabled a.query a.cancelled a.now a.reply).2.1 = s := by
  unfold Ask.engine? at h
  unfold suggest
  by_cases hg : (a.query.isEmpty || !a.enabled) = true
  · simp [hg]
  · rw [if_neg hg]
    cases hd : a.engines.defaultEngine? with
    | none => rfl
    | some engine =>
      by_cases he : (engine.suggestUrlOf a.query).isEmpty = true
      · simp [he]
      · -- the guards and the endpoint let it through, so the caller had given up
        have hc : a.cancelled = true := by
          simp_all [Option.filter]
        simp [he, hc]

/-- A lookup that gets as far as its engine's breaker makes one call through it, at its instant,
booking whether the endpoint answered; it comes to what the call comes to, and a refused call
fails with the open circuit without asking the endpoint. -/
theorem suggest_of_engine?_some (s : Suggester) (metrics : Option Metrics) {a : Ask}
    {engine : Engine} (h : a.engine? = some engine) :
    let r := s.suggest a.engines metrics a.enabled a.query a.cancelled a.now a.reply
    let c := (s.breaker engine.id).call a.now a.now a.reply.answered
    r.2.1 = s.withBreaker c.2.1 ∧ r.1.outcome = c.1 ∧
      (c.1 = .rejected → r.1.result = .error (.circuitOpen engine.id) ∧ r.1.calls = []) := by
  unfold Ask.engine? at h
  have hguard : (a.query.isEmpty || !a.enabled || a.cancelled) = false := by
    cases hx : (a.query.isEmpty || !a.enabled || a.cancelled) <;> simp_all
  rw [if_neg (by simp [hguard]), Option.filter_eq_some_iff] at h
  obtain ⟨hd, he⟩ := h
  have hg : (a.query.isEmpty || !a.enabled) = false := by simp_all
  have hc : a.cancelled = false := by simp_all
  have he' : (engine.suggestUrlOf a.query).isEmpty = false := by simpa using he
  unfold suggest
  simp only [hg, hd, hc, he', Bool.false_eq_true, if_false]
  cases hgo : ((s.breaker engine.id).allow a.now).1 with
  | false =>
    rw [Breaker.call_of_refused hgo]
    simp [Lookup.outcome]
  | true =>
    -- let through: the endpoint is asked and its answer booked at once
    rw [Breaker.call_of_allowed hgo]
    obtain ⟨hans, body, hf⟩ | ⟨hans, hf | ⟨u, n, hf⟩⟩ :=
      fetch_cases s engine.id (engine.suggestUrlOf a.query) a.reply
    · cases hread : readSuggestions body <;> simp [hf, hread, hans, Lookup.outcome, Except.toBool]
    · simp [hf, hans, Lookup.outcome, Except.toBool]
    · simp [hf, hans, Lookup.outcome, Except.toBool]

/-- A lookup that goes through engine `e`'s breaker makes the call `Ask.attempt` through it; it
comes to what the call comes to, and a refused call fails with the open circuit without asking
the endpoint. -/
theorem suggest_of_reaches (s : Suggester) (metrics : Option Metrics) {a : Ask} {e : String}
    (h : a.reaches e = true) :
    let r := s.suggest a.engines metrics a.enabled a.query a.cancelled a.now a.reply
    let c := (s.breaker e).call a.attempt.start a.attempt.finish a.attempt.success
    r.2.1.breaker e = c.2.1 ∧ r.1.outcome = c.1 ∧
      (c.1 = .rejected → r.1.result = .error (.circuitOpen e) ∧ r.1.calls = []) := by
  obtain ⟨engine, hengine, rfl⟩ := Ask.reaches_iff.mp h
  obtain ⟨hs, hout, hrefused⟩ := suggest_of_engine?_some s metrics hengine
  have hname := (Breaker.call_keeps_settings (s.breaker engine.id) a.now a.now a.reply.answered).1
  refine ⟨?_, hout, hrefused⟩
  rw [hs, breaker_withBreaker, if_pos (hname.trans (name_breaker s engine.id))]
  rfl

/-- A lookup that does not go through engine `e`'s breaker leaves it as it was. -/
theorem breaker_suggest_of_not_reaches (s : Suggester) (metrics : Option Metrics) {a : Ask}
    {e : String} (h : a.reaches e = false) :
    (s.suggest a.engines metrics a.enabled a.query a.cancelled a.now a.reply).2.1.breaker e =
      s.breaker e := by
  cases hengine : a.engine? with
  | none => rw [suggest_of_engine?_none s metrics hengine]
  | some engine =>
    have hid : engine.id ≠ e := fun hid => by
      simp [Ask.reaches_iff.mpr ⟨engine, hengine, hid⟩] at h
    obtain ⟨hs, -⟩ := suggest_of_engine?_some s metrics hengine
    have hname := (Breaker.call_keeps_settings (s.breaker engine.id) a.now a.now a.reply.answered).1
    rw [hs, breaker_withBreaker, if_neg (by rw [hname, name_breaker]; exact hid)]

/-! ## Runs of lookups -/

/-- Lookups one after another make, through engine `e`'s breaker, the run of the calls of those
that reach it: the breaker ends where that run ends, and those lookups come to what its calls
come to. -/
theorem askAll_through_breaker (s : Suggester) (metrics : Option Metrics) (e : String)
    (asks : List Ask) :
    let r := s.askAll metrics asks
    let run := (s.breaker e).runCalls ((asks.filter (·.reaches e)).map Ask.attempt)
    r.2.1.breaker e = run.2 ∧ reachedOutcomes e asks r.1 = run.1 := by
  induction asks generalizing s metrics with
  | nil => exact ⟨rfl, rfl⟩
  | cons a as ih =>
    obtain ⟨hb, houts⟩ := ih (s.suggest a.engines metrics a.enabled a.query a.cancelled a.now a.reply).2.1
      (s.suggest a.engines metrics a.enabled a.query a.cancelled a.now a.reply).2.2
    cases hr : a.reaches e with
    | true =>
      obtain ⟨hstep, hout, -⟩ := suggest_of_reaches s metrics hr
      rw [hstep] at hb houts
      simp only [askAll_cons, reachedOutcomes, List.zip_cons_cons, List.filter_cons, hr,
        if_true, List.map_cons, Breaker.runCalls_cons] at hb houts ⊢
      exact ⟨hb, by rw [hout, houts]⟩
    | false =>
      rw [breaker_suggest_of_not_reaches s metrics hr] at hb houts
      simp only [askAll_cons, reachedOutcomes, List.zip_cons_cons, List.filter_cons, hr,
        Bool.false_eq_true, if_false] at hb houts ⊢
      exact ⟨hb, houts⟩

/-- Every lookup of a run that reached engine `e`'s breaker and was refused there failed with
the open circuit, and the endpoint was not asked. -/
theorem askAll_refused (s : Suggester) (metrics : Option Metrics) (e : String) (asks : List Ask) :
    ∀ p ∈ (s.askAll metrics asks).1.zip asks, p.2.reaches e = true →
      p.1.outcome = .rejected → p.1.result = .error (.circuitOpen e) ∧ p.1.calls = [] := by
  induction asks generalizing s metrics with
  | nil => simp
  | cons a as ih =>
    intro p hp hr hrej
    simp only [askAll_cons, List.zip_cons_cons, List.mem_cons] at hp
    rcases hp with rfl | hp
    · obtain ⟨-, hout, hrefused⟩ := suggest_of_reaches s metrics hr
      exact hrefused (hout ▸ hrej)
    · exact ih _ _ p hp hr hrej

/-- A fresh suggester finds a new breaker for every engine. -/
theorem breaker_fresh (cfg : SuggestConfig) (e : String) :
    ({ config := cfg } : Suggester).breaker e =
      Breaker.create e cfg.breakerThreshold cfg.breakerCooldown := rfl

/-- Whatever lookups a fresh suggester has made, one at a time, each engine's breaker is idle and
keeps the threshold and cooldown it was made with. -/
theorem breaker_idle_after_lookups (cfg : SuggestConfig) (metrics : Option Metrics) (e : String)
    (pre : List Ask) :
    let b := Breaker.create e cfg.breakerThreshold cfg.breakerCooldown
    let s := (({ config := cfg } : Suggester).askAll metrics pre).2.1
    (s.breaker e).Idle ∧ (s.breaker e).threshold = b.threshold ∧
      (s.breaker e).cooldown = b.cooldown := by
  obtain ⟨hb, -⟩ := askAll_through_breaker { config := cfg } metrics e pre
  rw [breaker_fresh] at hb
  obtain ⟨-, -, hidle, hT, hC⟩ := (Breaker.idle_create e cfg.breakerThreshold cfg.breakerCooldown).runCalls
    ((pre.filter (·.reaches e)).map Ask.attempt)
  dsimp only
  rw [hb]
  exact ⟨hidle, hT, hC⟩

/-- After lookups of engine `e` that all failed at the endpoint, at least as many as its
breaker's threshold, the endpoint is not asked again and each lookup of the engine fails with the
open circuit, until the cooldown has passed since the last failure; whatever lookups came before,
and whatever lookups of other engines come between. -/
theorem engine_spared_after_failures (cfg : SuggestConfig) (metrics : Option Metrics) (e : String)
    (pre fails post : List Ask) (last : Ask) :
    let b := Breaker.create e cfg.breakerThreshold cfg.breakerCooldown
    let r₁ := ({ config := cfg } : Suggester).askAll metrics pre
    let r₂ := r₁.2.1.askAll r₁.2.2 fails
    let r₃ := r₂.2.1.askAll r₂.2.2 post
    (∀ x ∈ reachedOutcomes e fails r₂.1, x = .failed) →
    b.threshold ≤ (fails.filter (·.reaches e)).length →
    (fails.filter (·.reaches e)).getLast? = some last →
    (∀ a ∈ post, a.now < last.now + b.cooldown) →
    ∀ p ∈ r₃.1.zip post, p.2.reaches e = true →
      p.1.result = .error (.circuitOpen e) ∧ p.1.calls = [] := by
  intro b r₁ r₂ r₃ hfailed hmany hlast hcool p hp hr
  obtain ⟨hidle, hT, hC⟩ := breaker_idle_after_lookups cfg metrics e pre
  -- the failed lookups are a run of failed calls, the later ones a run of calls while cooling
  let failed := (fails.filter (·.reaches e)).map Ask.attempt
  let later := (post.filter (·.reaches e)).map Ask.attempt
  obtain ⟨hb₂, houts₂⟩ := askAll_through_breaker r₁.2.1 r₁.2.2 e fails
  have hrun : ((r₁.2.1.breaker e).runCalls failed).1 = List.replicate failed.length .failed := by
    rw [List.eq_replicate_iff, Breaker.length_runCalls]
    exact ⟨rfl, fun x hx => hfailed x (houts₂ ▸ hx)⟩
  have hlast' : failed.getLast? = some last.attempt := by
    simp [failed, List.getLast?_map, hlast]
  have hcool' : ∀ x ∈ later, x.start < last.attempt.finish + (r₁.2.1.breaker e).cooldown := by
    intro x hx
    obtain ⟨a, ha, rfl⟩ := List.mem_map.mp hx
    rw [hC]
    exact hcool a (List.mem_filter.mp ha).1
  obtain ⟨hrefused, -⟩ := hidle.refuses_after_failures failed later hrun
    (by rw [hT]; simpa [failed] using hmany) hlast' hcool'
  -- so every lookup of the engine after them was refused at the breaker
  obtain ⟨-, houts₃⟩ := askAll_through_breaker r₂.2.1 r₂.2.2 e post
  rw [hb₂] at houts₃
  have hout : p.1.outcome = .rejected := by
    have hmem : p.1.outcome ∈ reachedOutcomes e post r₃.1 :=
      List.mem_map.mpr ⟨p, List.mem_filter.mpr ⟨hp, hr⟩, rfl⟩
    rw [houts₃, hrefused] at hmem
    exact List.eq_of_mem_replicate hmem
  exact askAll_refused r₂.2.1 r₂.2.2 e post p hp hr hout

end Suggester

open Breaker in
/-- Calls made one at a time through a breaker follow the automaton `Phase` started closed with
no failures, whatever their outcomes and instants. After any such run, the breaker reports
half-open exactly when the next call would be let through as the probe, and once as many calls
in a row as its threshold have failed it refuses every call, without running it, until the
cooldown has passed since the last failure. Through the suggester, an engine whose lookups failed
at the endpoint that many times in a row is not asked again, and each of its lookups fails with
the open circuit, until the cooldown has passed. -/
theorem sequential_breaker_matches_automaton :
    (∀ (name : String) (threshold cooldown : Int) (as : List Attempt),
      let b := create name threshold cooldown
      (b.runCalls as).1 = ((Phase.closed 0).runCalls b.threshold b.cooldown as).1 ∧
        (b.runCalls as).2.phase = ((Phase.closed 0).runCalls b.threshold b.cooldown as).2) ∧
    (∀ (name : String) (threshold cooldown : Int) (pre : List Attempt),
      let b₀ := create name threshold cooldown
      let b := (b₀.runCalls pre).2
      (∀ now, b.stateAt now = .halfOpen ↔
        (b.allow now).1 = true ∧ (b.allow now).2.1.probing = true) ∧
      ∀ (fails later : List Attempt) (last : Attempt),
        (b.runCalls fails).1 = List.replicate fails.length .failed →
        b₀.threshold ≤ fails.length → fails.getLast? = some last →
        (∀ a ∈ later, a.start < last.finish + b₀.cooldown) →
        ((b.runCalls fails).2.runCalls later).1 = List.replicate later.length .rejected) ∧
    (∀ (cfg : SuggestConfig) (metrics : Option Metrics) (e : String) (pre fails post : List Ask)
      (last : Ask),
      let b := create e cfg.breakerThreshold cfg.breakerCooldown
      let r₁ := ({ config := cfg } : Suggester).askAll metrics pre
      let r₂ := r₁.2.1.askAll r₁.2.2 fails
      let r₃ := r₂.2.1.askAll r₂.2.2 post
      (∀ x ∈ reachedOutcomes e fails r₂.1, x = .failed) →
      b.threshold ≤ (fails.filter (·.reaches e)).length →
      (fails.filter (·.reaches e)).getLast? = some last →
      (∀ a ∈ post, a.now < last.now + b.cooldown) →
      ∀ p ∈ r₃.1.zip post, p.2.reaches e = true →
        p.1.result = .error (.circuitOpen e) ∧ p.1.calls = []) := by
  refine ⟨?_, ?_, Suggester.engine_spared_after_failures⟩
  · intro name threshold cooldown as
    obtain ⟨hres, hphase, -⟩ := (idle_create name threshold cooldown).runCalls as
    rw [phase_create] at hres hphase
    exact ⟨hres, hphase⟩
  · intro name threshold cooldown pre
    obtain ⟨-, -, hidle, hT, hC⟩ := (idle_create name threshold cooldown).runCalls pre
    refine ⟨hidle.stateAt_eq_halfOpen_iff, ?_⟩
    intro fails later last hfailed hmany hlast hcool
    rw [← hT] at hmany
    rw [← hC] at hcool
    exact (hidle.refuses_after_failures fails later hfailed hmany hlast hcool).1

end BrowserSessions.Search
