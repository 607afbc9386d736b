import BrowserSessions.Proofs.Loop.Protocol
import BrowserSessions.Proofs.Registry.WellFormed

/-!
# Tasks made of registry operations

A task the service hands to the loop calls registry operations one after another and ends with a
value or an error, or panics. An operation installs its new list, active identifier and version
before anyone observes it, so a panic of an observer comes between operations; an operation that
needs a search engine and finds none panics before it changes anything. `Script` writes such a
task down and `Script.run` is the task.

However a script ends, it leaves the registry where the operations it completed took it
(`Script.reachable_run`): a registry reached from an empty one stays reached, and so well formed,
as long as the sessions made get identifiers no session had before, which is what the
identifier generator is trusted with everywhere else (`Script.Fresh`).

`loop_runs_accepted_tasks_in_order` gathers the loop's guarantees over every interleaving of
callers, the loop and `Close`.
-/

namespace BrowserSessions.TaskLoop

open Registry

/-- A task written as registry operations: it ends with a value, an error or a panic, or runs an
action and goes on with the session that action made, if any. -/
inductive Script (α : Type) where
  | done (value : α)
  | fail (message : String)
  | panic (value : String)
  | act (a : Action) (next : Option Session → Script α)

namespace Script

variable {α : Type}

/-- Runs a script on the registry. An operation that finds no search engine panics before it
changes anything; every other panic comes between operations. -/
def run : Script α → Task α
  | .done a, r => (.done a, r)
  | .fail m, r => (.failed m, r)
  | .panic v, r => (.panicked v, r)
  | .act a next, r =>
    match a.run r with
    | .ok (made, r') => (next made).run r'
    | .error e => (.panicked e.message, r)

/-- Every session the script makes when run on `r`, whose history is `h`, gets an identifier no
session made before had. -/
def Fresh : Script α → Registry → List Entry → Prop
  | .act a next, r, h =>
    match a.run r with
    | .ok (made, r') => (∀ s ∈ made, s.id ∉ issued h) ∧ (next made).Fresh r' (record h r a made r')
    | .error _ => True
  | _, _, _ => True

/-- However a script ends, the registry it leaves is reached from the one it started on by the
operations it completed, so a reachable registry stays reachable. -/
theorem reachable_run {s : Script α} {r : Registry} {h : List Entry} (hr : Registry.Reachable r h)
    (hf : s.Fresh r h) : ∃ h', Registry.Reachable (s.run r).2 h' := by
  induction s generalizing r h with
  | done | fail | panic => exact ⟨h, hr⟩
  | act a next ih =>
    cases hrun : a.run r with
    | error e =>
      simp only [run, hrun]
      exact ⟨h, hr⟩
    | ok res =>
      obtain ⟨made, r'⟩ := res
      simp only [Fresh, hrun] at hf
      simp only [run, hrun]
      exact ih made (hr.step a hrun hf.1) hf.2

end Script


/-! ## The loop's guarantees -/

/-- Over every interleaving of callers, the loop and `Close`, from a loop started on `registry`:
the tasks taken are taken once each and run one at a time in the order taken; the registry is
where running them one after another leaves it, and each caller's reply is its task's answer in
that run, a panic caught as `panicMessage` of its value; a caller returns its reply, or that its
context ended when it had, or that the loop is closed when quit was signalled before its task was
taken; the loop stops only when asked; and once a `Close` has returned nothing runs again and every
later `Do` is refused. A task made of registry operations, however it ends, leaves a reachable
registry reachable, and so well formed. -/
theorem loop_runs_accepted_tasks_in_order {α : Type} {registry : Registry} {p : Machine α}
    (hp : p.Reachable registry) :
    p.Sound registry ∧ p.StaysClosed ∧
      ∀ (s : Script α) (r : Registry) (h : List Entry), Registry.Reachable r h → s.Fresh r h →
        ∃ h', Registry.Reachable (s.run r).2 h' ∧ (s.run r).2.WellFormed := by
  refine ⟨hp.sound, hp.staysClosed, fun s r h hr hf => ?_⟩
  obtain ⟨h', hr'⟩ := Script.reachable_run hr hf
  exact ⟨h', hr', hr'.wellFormed⟩

/-- A loop on an empty registry whose one caller handed it a task that panicked with `boom`, and
received the caught panic as its reply. -/
def panickedOnce : Machine Unit where
  loop := {}
  callers :=
    [{ task := fun r => (.panicked "boom", r)
       stage := .returned (.replied (.error (panicMessage "boom")))
       reply := some (.error (panicMessage "boom")) }]
  accepted := [0]
  ran := [0]

theorem reachable_panickedOnce : panickedOnce.Reachable {} := by
  let t : Task Unit := fun r => (.panicked "boom", r)
  -- the caller offers the task, the loop takes it, runs it, and the caller collects the reply
  have h₁ : Relation.ReflTransGen Machine.Step (Machine.start {} : Machine Unit) _ :=
    .tail .refl (Machine.Step.call _ t)
  have h₂ := h₁.tail (@Machine.Step.take Unit _ 0 _ rfl rfl rfl)
  have h₃ := h₂.tail (@Machine.Step.finish Unit _ 0 _ rfl rfl)
  exact (h₃.tail (@Machine.Step.collect Unit _ 0 _ _ rfl rfl rfl) :)

theorem loop_sound_after_caught_panic :
    panickedOnce.Reachable {} ∧ panickedOnce.Sound {} ∧ panickedOnce.StaysClosed ∧
      ∀ (s : Script Unit) (r : Registry) (h : List Entry), Registry.Reachable r h → s.Fresh r h →
        ∃ h', Registry.Reachable (s.run r).2 h' ∧ (s.run r).2.WellFormed :=
  ⟨reachable_panickedOnce, loop_runs_accepted_tasks_in_order reachable_panickedOnce⟩

end BrowserSessions.TaskLoop
