import Mathlib.Logic.Relation
import Mathlib.Data.List.Induction
import Mathlib.Data.List.Nodup
import BrowserSessions.TaskLoop

/-!
# The session loop as a protocol

The loop's own goroutine owns the registry. A caller's `Do` offers its task on an unbuffered
channel, racing the quit signal and the end of its context; once the task is taken it waits for
the reply, racing the end of its context again. The goroutine takes one task at a time, runs it
with panics caught, puts the reply in the caller's one-slot reply channel, and goes back to
waiting for a task or the quit signal. `Close` signals quit once and returns when the goroutine
has stopped.

`Machine` is the state all of them share and `Step` the atomic moves, one per channel operation
or select case, so that `Reachable` covers every interleaving. `accepted` and `ran` are kept for
the proofs only: the callers whose tasks were taken and those whose tasks have run.

What every reachable state satisfies (`Sound`):

* the tasks taken are those that ran and the one running, each once, so they run one at a time
  in the order they were taken (`Order`);
* the loop holds what submitting the tasks that ran one after another, as `TaskLoop.submit`
  does, would give, and each reply is that submission's answer; a caller that returned has its
  reply, or its context ended, or the loop was quitting before its task was taken (`Replies`);
* the goroutine stops only after quit was signalled, and the loop counts as closed exactly when a
  `Close` has returned, by which time the goroutine has stopped (`Shutdown`).

Once a `Close` has returned nothing runs any more (`Step.stopped`), so every `Do` begun later
returns that the loop is closed, or that its context ended (`Reachable.staysClosed`).
-/

namespace BrowserSessions.TaskLoop

/-- A task handed to the loop: what it does to the registry, and how it ends. -/
abbrev Task (α : Type) := Registry → TaskEnd α × Registry

/-! ## Running tasks one after another -/

section Sequential

variable {α : Type}

/-- Submits tasks one after another: their replies in order, and the loop after the last. -/
def submitAll (l : TaskLoop) (tasks : List (Task α)) : List (Except String α) × TaskLoop :=
  tasks.foldl (fun acc t => (acc.1 ++ [(acc.2.submit t).1], (acc.2.submit t).2)) ([], l)

theorem submitAll_append_singleton (l : TaskLoop) (tasks : List (Task α)) (t : Task α) :
    l.submitAll (tasks ++ [t]) =
      ((l.submitAll tasks).1 ++ [((l.submitAll tasks).2.submit t).1],
        ((l.submitAll tasks).2.submit t).2) := by
  simp [submitAll, List.foldl_append]

theorem length_submitAll (l : TaskLoop) (tasks : List (Task α)) :
    (l.submitAll tasks).1.length = tasks.length := by
  induction tasks using List.reverseRecOn with
  | nil => rfl
  | append_singleton tasks t ih => simp [submitAll_append_singleton, ih]

/-- An open loop runs the task and answers with its reply. -/
theorem submit_of_open {l : TaskLoop} (h : l.closed = false) (t : Task α) :
    l.submit t = (reply (t l.registry).1, { l with registry := (t l.registry).2 }) := by
  simp [submit, h]

@[simp] theorem closed_submit (l : TaskLoop) (t : Task α) : (l.submit t).2.closed = l.closed := by
  unfold submit
  split <;> rfl

@[simp] theorem closed_submitAll (l : TaskLoop) (tasks : List (Task α)) :
    (l.submitAll tasks).2.closed = l.closed := by
  induction tasks using List.reverseRecOn with
  | nil => rfl
  | append_singleton tasks t ih => simp [submitAll_append_singleton, ih]

end Sequential

/-! ## The protocol -/

/-- What a `Do` call returned. -/
inductive Outcome (α : Type) where
  /-- The reply of its task: its value, its error, or the text of its caught panic. -/
  | replied (result : Except String α)
  /-- The loop was quitting before it took the task. -/
  | closed
  /-- The caller's context ended first; the call returns the context's error. -/
  | ended

/-- Where a `Do` call is. -/
inductive Stage (α : Type) where
  /-- Offering its task on the task channel. -/
  | offering
  /-- Its task was taken; it waits for the reply. -/
  | waiting
  /-- It returned. -/
  | returned (outcome : Outcome α)

/-- A `Do` call: its task, whether its context has ended, where it is, and what its reply channel
holds. -/
structure Caller (α : Type) where
  task : Task α
  ended : Bool := false
  stage : Stage α := .offering
  reply : Option (Except String α) := none

/-- What the loop's goroutine is doing. -/
inductive Runner where
  /-- Waiting for a task or the quit signal. -/
  | idle
  /-- Running the task of a caller. -/
  | running (id : Nat)
  /-- Returned, having seen the quit signal. -/
  | stopped
  deriving DecidableEq

/-- The caller whose task is running, as a list. -/
def Runner.current : Runner → List Nat
  | .running id => [id]
  | _ => []

/-- The state the loop, its callers and its closers share. Callers and `Close` calls are numbered
in the order they began. -/
structure Machine (α : Type) where
  loop : TaskLoop
  callers : List (Caller α) := []
  runner : Runner := .idle
  /-- Whether the quit channel has been closed. -/
  quit : Bool := false
  /-- The `Close` calls, and whether each has returned. -/
  closers : List Bool := []
  /-- The callers whose tasks were taken, in order. -/
  accepted : List Nat := []
  /-- The callers whose tasks have run, in order. -/
  ran : List Nat := []

namespace Machine

variable {α : Type}

/-- A loop just started on a registry. -/
def start (registry : Registry) : Machine α := { loop := { registry } }

/-- The task of a caller. -/
def taskOf? (p : Machine α) (id : Nat) : Option (Task α) := (p.callers[id]?).map (·.task)

/-- The tasks that have run, in order. -/
def ranTasks (p : Machine α) : List (Task α) := p.ran.filterMap p.taskOf?

/-- The atomic moves, one per channel operation or select case. -/
inductive Step : Machine α → Machine α → Prop where
  /-- A caller begins `Do` with a task. -/
  | call (p : Machine α) (task : Task α) : Step p { p with callers := p.callers ++ [{ task }] }
  /-- A caller's context ends. -/
  | endContext (p : Machine α) {id : Nat} {c : Caller α} (hc : p.callers[id]? = some c) :
      Step p { p with callers := p.callers.set id { c with ended := true } }
  /-- The idle goroutine takes an offered task: the hand-off on the unbuffered channel. -/
  | take (p : Machine α) {id : Nat} {c : Caller α} (hr : p.runner = .idle)
      (hc : p.callers[id]? = some c) (hs : c.stage = .offering) :
      Step p
        { p with
          runner := .running id
          callers := p.callers.set id { c with stage := .waiting }
          accepted := p.accepted ++ [id] }
  /-- The goroutine runs the task it took, catching a panic, puts the reply in the caller's
  channel and goes back to waiting. -/
  | finish (p : Machine α) {id : Nat} {c : Caller α} (hr : p.runner = .running id)
      (hc : p.callers[id]? = some c) :
      Step p
        { p with
          loop := (p.loop.submit c.task).2
          runner := .idle
          callers := p.callers.set id { c with reply := some (p.loop.submit c.task).1 }
          ran := p.ran ++ [id] }
  /-- A waiting caller receives its reply. -/
  | collect (p : Machine α) {id : Nat} {c : Caller α} {r : Except String α}
      (hc : p.callers[id]? = some c) (hs : c.stage = .waiting) (hreply : c.reply = some r) :
      Step p { p with callers := p.callers.set id { c with stage := .returned (.replied r) } }
  /-- A caller whose context ended gives up, before or after its task was taken. -/
  | giveUp (p : Machine α) {id : Nat} {c : Caller α} (hc : p.callers[id]? = some c)
      (he : c.ended = true) (hs : c.stage = .offering ∨ c.stage = .waiting) :
      Step p { p with callers := p.callers.set id { c with stage := .returned .ended } }
  /-- An offering caller sees the quit signal. -/
  | refuse (p : Machine α) {id : Nat} {c : Caller α} (hc : p.callers[id]? = some c)
      (hq : p.quit = true) (hs : c.stage = .offering) :
      Step p { p with callers := p.callers.set id { c with stage := .returned .closed } }
  /-- `Close` begins: quit is signalled, once, and the call waits for the goroutine to stop. -/
  | close (p : Machine α) : Step p { p with quit := true, closers := p.closers ++ [false] }
  /-- The idle goroutine sees the quit signal and returns. -/
  | stop (p : Machine α) (hr : p.runner = .idle) (hq : p.quit = true) :
      Step p { p with runner := .stopped }
  /-- A waiting `Close` sees the goroutine stopped and returns; the loop is closed from now on. -/
  | closeReturns (p : Machine α) {k : Nat} (hk : p.closers[k]? = some false)
      (hr : p.runner = .stopped) :
      Step p { p with closers := p.closers.set k true, loop := p.loop.close }

/-- The states some interleaving reaches from a loop started on `registry`. -/
def Reachable (registry : Registry) (p : Machine α) : Prop :=
  Relation.ReflTransGen Step (start registry) p


/-! ## What a step leaves alone -/

section Frame

variable {p p' : Machine α}

/-- No step changes the task of a caller that exists. -/
theorem Step.taskOf? (h : Step p p') {id : Nat} (hid : id < p.callers.length) :
    p'.taskOf? id = p.taskOf? id := by
  cases h with
  | call => simp [taskOf?, List.getElem?_append_left hid]
  | endContext hc | take _ hc | finish _ hc | collect hc | giveUp hc | refuse hc =>
    simp only [taskOf?, List.getElem?_set]
    split <;> simp_all
  | close | stop | closeReturns => rfl

/-- The tasks that ran are those of callers. -/
theorem length_ranTasks {p : Machine α} (h : ∀ id ∈ p.ran, id < p.callers.length) :
    p.ranTasks.length = p.ran.length := by
  refine List.filterMap_length_eq_length.mpr fun id hid => ?_
  simp [taskOf?, List.getElem?_eq_getElem (h id hid)]

/-- A step that runs no task keeps the tasks that ran. -/
theorem Step.ranTasks_eq (h : Step p p') (hran : p'.ran = p.ran)
    (hlt : ∀ id ∈ p.ran, id < p.callers.length) : p'.ranTasks = p.ranTasks := by
  unfold ranTasks
  rw [hran]
  exact List.filterMap_congr fun id hid => h.taskOf? (hlt id hid)

end Frame


/-! ## Each task taken once, and run in the order taken -/

/-- The tasks taken are those that ran followed by the one running, no caller's twice, and a
caller whose task was taken offers it no more. -/
structure Order (p : Machine α) : Prop where
  accepted_eq : p.accepted = p.ran ++ p.runner.current
  nodup : p.accepted.Nodup
  taken : ∀ id ∈ p.accepted, ∃ c, p.callers[id]? = some c ∧ c.stage ≠ .offering

theorem order_start (registry : Registry) : Order (start registry : Machine α) :=
  ⟨rfl, List.nodup_nil, by simp [start]⟩

/-- Changing one caller keeps the taken callers from offering, if the change makes no caller
offer again. -/
theorem taken_set {acc : List Nat} {callers : List (Caller α)} {id : Nat} {c c' : Caller α}
    (ht : ∀ x ∈ acc, ∃ d, callers[x]? = some d ∧ d.stage ≠ .offering)
    (hc : callers[id]? = some c) (hs : c.stage ≠ .offering → c'.stage ≠ .offering) :
    ∀ x ∈ acc, ∃ d, (callers.set id c')[x]? = some d ∧ d.stage ≠ .offering := by
  intro x hx
  obtain ⟨d, hd, hds⟩ := ht x hx
  by_cases hxid : id = x
  · subst hxid
    rw [hc] at hd
    cases hd
    exact ⟨c', by simp [(List.getElem?_eq_some_iff.mp hc).1], hs hds⟩
  · exact ⟨d, by rw [List.getElem?_set_ne hxid, hd], hds⟩

/-- A caller found in the list keeps its place when callers are added. -/
theorem getElem?_callers_append {callers : List (Caller α)} {id : Nat} {c : Caller α}
    (hc : callers[id]? = some c) (more : List (Caller α)) : (callers ++ more)[id]? = some c := by
  rw [List.getElem?_append_left (List.getElem?_eq_some_iff.mp hc).1, hc]

/-- A caller still offering its task was not taken. -/
theorem Order.not_accepted {p : Machine α} (ho : Order p) {id : Nat} {c : Caller α}
    (hc : p.callers[id]? = some c) (hs : c.stage = .offering) : id ∉ p.accepted := fun hmem => by
  obtain ⟨d, hd, hds⟩ := ho.taken id hmem
  rw [hc] at hd
  cases hd
  exact hds hs

theorem Order.step {p p' : Machine α} (ho : Order p) (h : Step p p') : Order p' := by
  cases h with
  | call task =>
    refine ⟨ho.accepted_eq, ho.nodup, fun x hx => ?_⟩
    obtain ⟨d, hd, hds⟩ := ho.taken x hx
    exact ⟨d, getElem?_callers_append hd _, hds⟩
  | endContext hc => exact ⟨ho.accepted_eq, ho.nodup, taken_set ho.taken hc id⟩
  | @take id c hr hc hs =>
    -- the caller offered its task, so it was not taken before
    have hnot : id ∉ p.accepted := ho.not_accepted hc hs
    refine ⟨by simp [ho.accepted_eq, hr, Runner.current], ?_, ?_⟩
    · refine List.nodup_append.mpr ⟨ho.nodup, List.nodup_singleton id, fun a ha b hb hab => ?_⟩
      rw [List.mem_singleton.mp hb] at hab
      exact hnot (hab ▸ ha)
    · intro x hx
      rcases List.mem_append.mp hx with hx | hx
      · exact taken_set ho.taken hc (fun _ => by simp) x hx
      · rw [List.mem_singleton.mp hx]
        exact ⟨{ c with stage := .waiting }, by simp [(List.getElem?_eq_some_iff.mp hc).1], by simp⟩
  | finish hr hc =>
    exact ⟨by simp [ho.accepted_eq, hr, Runner.current], ho.nodup, taken_set ho.taken hc id⟩
  | collect hc => exact ⟨ho.accepted_eq, ho.nodup, taken_set ho.taken hc (fun _ => by simp)⟩
  | giveUp hc => exact ⟨ho.accepted_eq, ho.nodup, taken_set ho.taken hc (fun _ => by simp)⟩
  | refuse hc => exact ⟨ho.accepted_eq, ho.nodup, taken_set ho.taken hc (fun _ => by simp)⟩
  | close => exact ⟨ho.accepted_eq, ho.nodup, ho.taken⟩
  | stop hr => exact ⟨by simp [ho.accepted_eq, hr, Runner.current], ho.nodup, ho.taken⟩
  | closeReturns => exact ⟨ho.accepted_eq, ho.nodup, ho.taken⟩

/-- The tasks that ran belong to callers. -/
theorem Order.ran_lt {p : Machine α} (ho : Order p) : ∀ x ∈ p.ran, x < p.callers.length := by
  intro x hx
  obtain ⟨d, hd, -⟩ := ho.taken x (by rw [ho.accepted_eq]; exact List.mem_append_left _ hx)
  exact (List.getElem?_eq_some_iff.mp hd).1

/-- The task running has not run before. -/
theorem Order.running_not_ran {p : Machine α} (ho : Order p) {id : Nat}
    (hr : p.runner = .running id) : id ∉ p.ran := by
  have hacc : p.accepted = p.ran ++ [id] := by simp [ho.accepted_eq, hr, Runner.current]
  intro hmem
  exact (List.nodup_append.mp (hacc ▸ ho.nodup)).2.2 id hmem id (List.mem_singleton_self id) rfl


/-! ## Stopping and closing -/

/-- The goroutine stops only after quit was signalled; the loop counts as closed exactly when a
`Close` has returned, and by then the goroutine has stopped. -/
structure Shutdown (p : Machine α) : Prop where
  stopped_quit : p.runner = .stopped → p.quit = true
  closed_iff : p.loop.closed = true ↔ true ∈ p.closers
  closed_stopped : p.loop.closed = true → p.runner = .stopped

theorem shutdown_start (registry : Registry) : Shutdown (start registry : Machine α) :=
  ⟨by simp [start], by simp [start], by simp [start]⟩

/-- Until the goroutine stops, the loop is open. -/
theorem Shutdown.open_of_ne {p : Machine α} (hs : Shutdown p) (h : p.runner ≠ .stopped) :
    p.loop.closed = false :=
  Bool.eq_false_iff.mpr fun hc => h (hs.closed_stopped hc)

theorem Shutdown.step {p p' : Machine α} (hs : Shutdown p) (h : Step p p') : Shutdown p' := by
  cases h with
  | call | endContext | collect | giveUp | refuse =>
    exact ⟨hs.stopped_quit, hs.closed_iff, hs.closed_stopped⟩
  | take hr =>
    exact ⟨by simp, hs.closed_iff, fun hc => absurd (hs.closed_stopped hc) (by simp [hr])⟩
  | finish hr =>
    -- a running task runs on an open loop, and running it keeps the loop open
    have hopen := hs.open_of_ne (by simp [hr])
    refine ⟨by simp, ?_, by simp [hopen]⟩
    simpa [hopen] using hs.closed_iff
  | close => exact ⟨fun _ => rfl, by simpa using hs.closed_iff, hs.closed_stopped⟩
  | stop hr hq => exact ⟨fun _ => hq, hs.closed_iff, fun _ => rfl⟩
  | closeReturns hk hr =>
    -- the returning `Close` is marked returned, and the loop is closed
    have hlt := (List.getElem?_eq_some_iff.mp hk).1
    refine ⟨hs.stopped_quit, iff_of_true rfl ?_, fun _ => hr⟩
    exact List.mem_iff_getElem?.mpr ⟨_, List.getElem?_set_self hlt⟩


/-! ## The tasks run as if one after another -/

/-- A caller of the list after one caller was changed is that caller changed, or was there
before. -/
theorem getElem?_set_cases {callers : List (Caller α)} {i id : Nat} {c' d : Caller α}
    (h : (callers.set i c')[id]? = some d) :
    (id = i ∧ d = c') ∨ (id ≠ i ∧ callers[id]? = some d) := by
  by_cases hid : id = i
  · subst hid
    rw [List.getElem?_set_self'] at h
    cases hc : callers[id]? with
    | none => simp [hc] at h
    | some x =>
      simp only [hc, Option.map_eq_map, Option.map_some, Function.const_apply, Option.some.injEq] at h
      exact .inl ⟨rfl, h.symm⟩
  · rw [List.getElem?_set_ne (Ne.symm hid)] at h
    exact .inr ⟨hid, h⟩

/-- A caller of the list after one was added is the new one, or was there before. -/
theorem getElem?_append_cases {callers : List (Caller α)} {x d : Caller α} {id : Nat}
    (h : (callers ++ [x])[id]? = some d) : callers[id]? = some d ∨ d = x := by
  rw [List.getElem?_append] at h
  split at h
  · exact .inl h
  · rw [List.getElem?_singleton] at h
    split at h
    · exact .inr (Option.some.inj h).symm
    · cases h

/-- What running the tasks that ran one after another, from the loop started on `registry`,
gives: their replies in order, and the loop after them. -/
def replayed (registry : Registry) (p : Machine α) : List (Except String α) × TaskLoop :=
  ({ registry } : TaskLoop).submitAll p.ranTasks

/-- The registry is where the tasks that ran, run one after another, leave it; the reply channel
of the `k`-th caller whose task ran holds the `k`-th reply of that run, and a caller whose task has
not run has no reply. -/
structure Serial (registry : Registry) (p : Machine α) : Prop where
  registry_eq : p.loop.registry = (replayed registry p).2.registry
  reply_eq : ∀ k id : Nat, p.ran[k]? = some id →
    ∃ c : Caller α, p.callers[id]? = some c ∧ c.reply = (replayed registry p).1[k]?
  reply_none : ∀ id (c : Caller α), p.callers[id]? = some c → id ∉ p.ran → c.reply = none

theorem serial_start (registry : Registry) : Serial registry (start registry : Machine α) :=
  ⟨rfl, by simp [start], by simp [start]⟩

/-- A step that runs no task and changes no reply keeps the run as it was. -/
theorem Serial.of_replies {registry : Registry} {p p' : Machine α} (hs : Serial registry p)
    (hran : p'.ran = p.ran) (htasks : p'.ranTasks = p.ranTasks)
    (hloop : p'.loop.registry = p.loop.registry)
    (hfwd : ∀ (id : Nat) (c : Caller α), p.callers[id]? = some c →
      ∃ d : Caller α, p'.callers[id]? = some d ∧ d.reply = c.reply)
    (hback : ∀ (id : Nat) (d : Caller α), p'.callers[id]? = some d →
      d.reply = none ∨ ∃ c : Caller α, p.callers[id]? = some c ∧ d.reply = c.reply) :
    Serial registry p' where
  registry_eq := by rw [hloop, hs.registry_eq, replayed, replayed, htasks]
  reply_eq k id hk := by
    obtain ⟨c, hc, hreply⟩ := hs.reply_eq k id (hran ▸ hk)
    obtain ⟨d, hd, hdr⟩ := hfwd id c hc
    exact ⟨d, hd, by rw [hdr, hreply, replayed, replayed, htasks]⟩
  reply_none id d hd hid := by
    rcases hback id d hd with hnone | ⟨c, hc, hdr⟩
    · exact hnone
    · rw [hdr, hs.reply_none id c hc (hran ▸ hid)]

/-- Changing a caller but not its reply changes no reply. -/
theorem replies_set {callers : List (Caller α)} {i : Nat} {c c' : Caller α}
    (hc : callers[i]? = some c) (hr : c'.reply = c.reply) :
    (∀ (id : Nat) (x : Caller α), callers[id]? = some x →
      ∃ d : Caller α, (callers.set i c')[id]? = some d ∧ d.reply = x.reply) ∧
      ∀ (id : Nat) (d : Caller α), (callers.set i c')[id]? = some d →
        d.reply = none ∨ ∃ x : Caller α, callers[id]? = some x ∧ d.reply = x.reply := by
  refine ⟨fun id x hx => ?_, fun id d hd => ?_⟩
  · by_cases hid : i = id
    · subst hid
      rw [hc] at hx
      cases hx
      exact ⟨c', by simp [(List.getElem?_eq_some_iff.mp hc).1], hr⟩
    · exact ⟨x, by rw [List.getElem?_set_ne hid, hx], rfl⟩
  · rcases getElem?_set_cases hd with ⟨rfl, rfl⟩ | ⟨-, hd⟩
    · exact .inr ⟨c, hc, hr⟩
    · exact .inr ⟨d, hd, rfl⟩

/-- A step that changes one caller but not its reply, and runs no task, keeps the run as it was. -/
theorem Serial.set {registry : Registry} {p p' : Machine α} {i : Nat} {c c' : Caller α}
    (hs : Serial registry p) (hran : p'.ran = p.ran) (htasks : p'.ranTasks = p.ranTasks)
    (hloop : p'.loop.registry = p.loop.registry) (hcallers : p'.callers = p.callers.set i c')
    (hc : p.callers[i]? = some c) (hr : c'.reply = c.reply) : Serial registry p' := by
  have hset := replies_set hc hr
  rw [← hcallers] at hset
  exact hs.of_replies hran htasks hloop hset.1 hset.2

/-- Running the task taken appends its reply to the run, and puts it in the caller's channel. -/
theorem Serial.finish {registry : Registry} {p : Machine α} {id : Nat} {c : Caller α}
    (hs : Serial registry p) (ho : Order p) (hopen : p.loop.closed = false)
    (hr : p.runner = .running id) (hc : p.callers[id]? = some c) :
    Serial registry
      { p with
        loop := (p.loop.submit c.task).2
        runner := .idle
        callers := p.callers.set id { c with reply := some (p.loop.submit c.task).1 }
        ran := p.ran ++ [id] } := by
  have hnot : id ∉ p.ran := ho.running_not_ran hr
  have hlen : p.ranTasks.length = p.ran.length := length_ranTasks ho.ran_lt
  -- the tasks that ran before are unchanged, and the new one is the caller's
  have htasks : ranTasks
      { p with
        loop := (p.loop.submit c.task).2
        runner := .idle
        callers := p.callers.set id { c with reply := some (p.loop.submit c.task).1 }
        ran := p.ran ++ [id] } = p.ranTasks ++ [c.task] := by
    unfold ranTasks
    rw [List.filterMap_append]
    refine congrArg₂ (· ++ ·) (List.filterMap_congr fun x hx => ?_) ?_
    · have hne : id ≠ x := fun h => hnot (h ▸ hx)
      simp [taskOf?, List.getElem?_set_ne hne]
    · simp [taskOf?, (List.getElem?_eq_some_iff.mp hc).1]
  -- the loop before the task is the sequential run so far, and it is open
  have hopen' : (replayed registry p).2.closed = false := by simp [replayed]
  have hsubmit : p.loop.submit c.task = (replayed registry p).2.submit c.task := by
    rw [submit_of_open hopen, submit_of_open hopen', hs.registry_eq, hopen, hopen']
  constructor
  · simp only [replayed] at hsubmit ⊢
    rw [htasks, submitAll_append_singleton, ← hsubmit]
  · intro k x hk
    rw [List.getElem?_append] at hk
    split at hk
    · -- an earlier task: its caller and reply are as they were
      rename_i hklt
      obtain ⟨d, hd, hdr⟩ := hs.reply_eq k x hk
      have hne : id ≠ x := fun h => hnot (h ▸ List.mem_of_getElem? hk)
      refine ⟨d, by simp [List.getElem?_set_ne hne, hd], ?_⟩
      simp only [replayed] at hdr ⊢
      rw [hdr, htasks, submitAll_append_singleton, List.getElem?_append_left (by
        rw [length_submitAll, hlen]; exact hklt)]
    · -- the task just run: the last reply
      rename_i hkge
      rw [List.getElem?_singleton] at hk
      split at hk
      · rename_i hk0
        cases hk
        refine ⟨{ c with reply := some (p.loop.submit c.task).1 },
          by simp [(List.getElem?_eq_some_iff.mp hc).1], ?_⟩
        simp only [replayed] at hsubmit ⊢
        rw [htasks, submitAll_append_singleton, List.getElem?_append_right (by
          rw [length_submitAll, hlen]; omega), length_submitAll, hlen, hsubmit]
        simp [show k - p.ran.length = 0 by omega]
      · cases hk
  · intro x d hd hx
    have hne : x ≠ id := fun h => hx (by simp [h])
    rcases getElem?_set_cases hd with ⟨h, -⟩ | ⟨-, hd⟩
    · exact absurd h hne
    · exact hs.reply_none x d hd fun h => hx (List.mem_append_left _ h)


theorem Serial.step {registry : Registry} {p p' : Machine α} (hs : Serial registry p) (ho : Order p)
    (hsd : Shutdown p) (h : Step p p') : Serial registry p' := by
  have htasks : p'.ran = p.ran → p'.ranTasks = p.ranTasks := fun hran => h.ranTasks_eq hran ho.ran_lt
  have hsame : ∀ (id : Nat) (c : Caller α), p.callers[id]? = some c →
      ∃ d : Caller α, p.callers[id]? = some d ∧ d.reply = c.reply := fun _ c hc => ⟨c, hc, rfl⟩
  have hsame' : ∀ (id : Nat) (d : Caller α), p.callers[id]? = some d →
      d.reply = none ∨ ∃ c : Caller α, p.callers[id]? = some c ∧ d.reply = c.reply :=
    fun _ d hd => .inr ⟨d, hd, rfl⟩
  cases h with
  | call task =>
    refine hs.of_replies rfl (htasks rfl) rfl (fun _ c hc => ⟨c, getElem?_callers_append hc _, rfl⟩)
      fun _ d hd => ?_
    -- the new caller has no reply yet
    rcases getElem?_append_cases hd with hd | rfl
    · exact .inr ⟨d, hd, rfl⟩
    · exact .inl rfl
  | endContext hc => exact hs.set rfl (htasks rfl) rfl rfl hc (by rfl)
  | take _ hc => exact hs.set rfl (htasks rfl) rfl rfl hc (by rfl)
  | finish hr hc => exact hs.finish ho (hsd.open_of_ne (by simp [hr])) hr hc
  | collect hc => exact hs.set rfl (htasks rfl) rfl rfl hc (by rfl)
  | giveUp hc => exact hs.set rfl (htasks rfl) rfl rfl hc (by rfl)
  | refuse hc => exact hs.set rfl (htasks rfl) rfl rfl hc (by rfl)
  | close => exact hs.of_replies rfl (htasks rfl) rfl hsame hsame'
  | stop => exact hs.of_replies rfl (htasks rfl) rfl hsame hsame'
  | closeReturns => exact hs.of_replies rfl (htasks rfl) rfl hsame hsame'

/-! ## What callers return -/

/-- What a caller can have returned: the reply in its channel; that its context ended, when it
had; or that the loop was closed, when quit had been signalled and its task was not taken. -/
def Answered (p : Machine α) (id : Nat) (c : Caller α) : Prop :=
  (∀ r, c.stage = .returned (.replied r) → c.reply = some r) ∧
    (c.stage = .returned .ended → c.ended = true) ∧
    (c.stage = .returned .closed → p.quit = true ∧ id ∉ p.accepted)

/-- Every caller that returned returned what it could. -/
def Answers (p : Machine α) : Prop :=
  ∀ (id : Nat) (c : Caller α), p.callers[id]? = some c → p.Answered id c

/-- A caller still offering or waiting has returned nothing. -/
theorem answered_of_not_returned {p : Machine α} {id : Nat} {c : Caller α}
    (h : ∀ o, c.stage ≠ .returned o) : p.Answered id c :=
  ⟨fun _ hr => absurd hr (h _), fun hr => absurd hr (h _), fun hr => absurd hr (h _)⟩

theorem Answered.mono {p q : Machine α} {id : Nat} {c : Caller α} (h : p.Answered id c)
    (hq : p.quit = true → q.quit = true) (hacc : id ∉ p.accepted → id ∉ q.accepted) :
    q.Answered id c :=
  ⟨h.1, h.2.1, fun hc => ⟨hq (h.2.2 hc).1, hacc (h.2.2 hc).2⟩⟩

/-- A step that changes one caller keeps every other caller's answer. -/
theorem answers_set {p q : Machine α} {i : Nat} {c' : Caller α} (ha : p.Answers)
    (hcallers : q.callers = p.callers.set i c') (hq : p.quit = true → q.quit = true)
    (hacc : ∀ x, x ≠ i → x ∉ p.accepted → x ∉ q.accepted) (hnew : q.Answered i c') :
    q.Answers := by
  intro x d hd
  rw [hcallers] at hd
  rcases getElem?_set_cases hd with ⟨rfl, rfl⟩ | ⟨hne, hd⟩
  · exact hnew
  · exact (ha x d hd).mono hq (hacc x hne)

theorem answers_start (registry : Registry) : Answers (start registry : Machine α) := by
  simp [Answers, start]

theorem Answers.step {registry : Registry} {p p' : Machine α} (ha : Answers p) (ho : Order p)
    (hs : Serial registry p) (h : Step p p') : Answers p' := by
  cases h with
  | call task =>
    intro x d hd
    rcases getElem?_append_cases hd with hd | rfl
    · exact ha x d hd
    · exact answered_of_not_returned fun _ => by simp
  | endContext hc =>
    refine answers_set ha rfl (fun h => h) (fun _ _ h => h) ?_
    obtain ⟨h₁, h₂, h₃⟩ := ha _ _ hc
    exact ⟨h₁, fun _ => rfl, h₃⟩
  | @take id c hr hc hs' =>
    refine answers_set ha rfl (fun h => h) (fun x hne hx hmem => ?_) (answered_of_not_returned fun _ => by simp)
    rcases List.mem_append.mp hmem with hmem | hmem
    · exact hx hmem
    · exact hne (List.mem_singleton.mp hmem)
  | @finish id c hr hc =>
    refine answers_set ha rfl (fun h => h) (fun _ _ h => h) ?_
    -- the task running has not run yet, so its caller has received no reply
    have hnone : c.reply = none := hs.reply_none id c hc (ho.running_not_ran hr)
    obtain ⟨h₁, h₂, h₃⟩ := ha _ _ hc
    refine ⟨fun r hr => ?_, h₂, h₃⟩
    rw [h₁ r hr] at hnone
    cases hnone
  | collect hc hs' hreply =>
    refine answers_set ha rfl (fun h => h) (fun _ _ h => h) ⟨fun r hr => ?_, by simp, by simp⟩
    simp only [Stage.returned.injEq, Outcome.replied.injEq] at hr
    rw [← hr]
    exact hreply
  | giveUp hc he =>
    exact answers_set ha rfl (fun h => h) (fun _ _ h => h) ⟨by simp, fun _ => he, by simp⟩
  | @refuse id c hc hq hs' =>
    -- an offering caller's task was not taken
    exact answers_set ha rfl (fun h => h) (fun _ _ h => h)
      ⟨by simp, by simp, fun _ => ⟨hq, ho.not_accepted hc hs'⟩⟩
  | close => exact fun x d hd => (ha x d hd).mono (fun _ => rfl) id
  | stop => exact ha
  | closeReturns => exact ha

/-! ## Every interleaving -/

/-- What every reachable state satisfies. -/
structure Sound (registry : Registry) (p : Machine α) : Prop where
  order : Order p
  serial : Serial registry p
  answers : Answers p
  shutdown : Shutdown p

theorem Sound.step {registry : Registry} {p p' : Machine α} (hs : Sound registry p) (h : Step p p') :
    Sound registry p' :=
  ⟨hs.order.step h, hs.serial.step hs.order hs.shutdown h, hs.answers.step hs.order hs.serial h,
    hs.shutdown.step h⟩

/-- Every state some interleaving reaches is sound. -/
theorem Reachable.sound {registry : Registry} {p : Machine α} (hp : p.Reachable registry) :
    Sound registry p := by
  induction hp with
  | refl => exact ⟨order_start registry, serial_start registry, answers_start registry,
      shutdown_start registry⟩
  | tail _ h ih => exact ih.step h

/-! ## After `Close` -/

/-- Once the goroutine has stopped nothing runs: the tasks taken and run, and the registry, stay
as they are. -/
theorem Step.stopped {p p' : Machine α} (h : Step p p') (hs : p.runner = .stopped) :
    p'.runner = .stopped ∧ p'.ran = p.ran ∧ p'.accepted = p.accepted ∧
      p'.loop.registry = p.loop.registry := by
  cases h with
  | take hr | stop hr | finish hr => simp [hs] at hr
  | closeReturns => exact ⟨hs, rfl, rfl, rfl⟩
  | call | endContext | collect | giveUp | refuse | close => exact ⟨hs, rfl, rfl, rfl⟩

theorem stopped_of_steps {p p' : Machine α} (h : Relation.ReflTransGen Step p p')
    (hs : p.runner = .stopped) :
    p'.runner = .stopped ∧ p'.ran = p.ran ∧ p'.accepted = p.accepted ∧
      p'.loop.registry = p.loop.registry := by
  induction h with
  | refl => exact ⟨hs, rfl, rfl, rfl⟩
  | tail _ h ih =>
    obtain ⟨h₁, h₂, h₃, h₄⟩ := h.stopped ih.1
    exact ⟨h₁, h₂.trans ih.2.1, h₃.trans ih.2.2.1, h₄.trans ih.2.2.2⟩


/-- What holds once a `Close` has returned, over every continuation: no task runs again and the
registry stays as it is, and every `Do` begun later returns that the loop is closed, or that its
context ended. -/
def StaysClosed (p : Machine α) : Prop :=
  true ∈ p.closers → ∀ p', Relation.ReflTransGen Step p p' →
    p'.ran = p.ran ∧ p'.loop.registry = p.loop.registry ∧
      ∀ (id : Nat) (c : Caller α) (o : Outcome α), p.callers.length ≤ id →
        p'.callers[id]? = some c → c.stage = .returned o →
          o = .closed ∨ (o = .ended ∧ c.ended = true)

theorem Reachable.staysClosed {registry : Registry} {p : Machine α} (hp : p.Reachable registry) :
    p.StaysClosed := by
  intro hc p' h
  have hs := hp.sound
  have hstop : p.runner = .stopped := hs.shutdown.closed_stopped (hs.shutdown.closed_iff.mpr hc)
  obtain ⟨-, hran, -, hreg⟩ := stopped_of_steps h hstop
  have hs' : Sound registry p' := Reachable.sound (Relation.ReflTransGen.trans hp h)
  refine ⟨hran, hreg, fun id c o hid hc' hst => ?_⟩
  obtain ⟨hreplied, hended, -⟩ := hs'.answers id c hc'
  cases o with
  | replied r =>
    -- a reply means the task ran, and every task that ran is of a caller begun before
    have hin : id ∈ p'.ran := by
      by_contra hnot
      have hnone := hs'.serial.reply_none id c hc' hnot
      rw [hreplied r hst] at hnone
      cases hnone
    rw [hran] at hin
    exact absurd (hs.order.ran_lt id hin) (by omega)
  | closed => exact .inl rfl
  | ended => exact .inr ⟨rfl, hended hst⟩

end Machine

end BrowserSessions.TaskLoop
