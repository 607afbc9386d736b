import BrowserSessions.Proofs.Registry.Frame
import BrowserSessions.Proofs.Registry.Quiet

/-!
# Delivery to observers that change the registry

Every published snapshot is handed to the subscribers in the order they subscribed, and a
subscriber's callback may itself change the registry. That change publishes and delivers a newer
snapshot before the older one has reached everyone, and the older delivery then stops. The main
statement, `deliveries_ordered_and_current`, covers any run of actions from an empty registry and
any callbacks, nested to any depth:

* the versions each subscription receives strictly increase;
* after an action that published, every subscription that stood through it has last received
  exactly the registry's current snapshot, and after one that did not, the current one or nothing
  at all;
* the version is the number of publications.

A callback is a `Reaction`: given its subscriber, the snapshot and the world it is called in, a
list of steps, each choosing an action from the world as it then is. `observer react depth` is
every subscriber's callback, allowed `depth` levels of nested delivery. The log of a world records
every delivery, so what a subscription received is read off the log.

The proof is a rely/guarantee argument. `Orderly` holds between any two steps, inside callbacks
too. `Follows w w'` is what a callback guarantees about the world it returns, and delivery relies
on it of every callback (`Sound`). Delivering a snapshot to a list of subscribers then behaves as
if they all received it at once, followed by a callback (`deliver_sound`). Performing an action
is such a callback (`perform_sound`), hence so is every callback of any depth
(`observer_sound`).
-/

namespace BrowserSessions.Registry

/-! ## Worlds and callbacks -/

/-- A registry with the log of every delivery so far: which subscriber received which snapshot,
oldest first. -/
abbrev World := Registry × List (Nat × Snapshot)

/-- The snapshots delivered to a subscriber, oldest first. -/
def received (log : List (Nat × Snapshot)) (sub : Nat) : List Snapshot :=
  (log.filter (·.1 == sub)).map (·.2)

/-- The snapshot a subscriber received last, if any. -/
def lastReceived (log : List (Nat × Snapshot)) (sub : Nat) : Option Snapshot :=
  (received log sub).getLast?

/-- The registry an action leaves. An action that fails, a search with no engine to search, leaves
the registry as it was. -/
def Action.apply (a : Action) (r : Registry) : Registry :=
  match a.run r with
  | .ok (_, r') => r'
  | .error _ => r

/-- Runs an action and hands what it published to the subscribers, with `observe` as every
subscriber's callback. -/
def perform (observe : Nat → Snapshot → World → World) (a : Action) (w : World) : World :=
  settle observe w.1.version (a.apply w.1, w.2)

/-- What a subscriber's callback does when handed a snapshot in a world: its steps, each choosing
an action from the world as it is when the step is taken. -/
def Reaction := Nat → Snapshot → World → List (World → Action)

/-- Every subscriber's callback, allowed `depth` levels of nested delivery. It records the
snapshot it was handed, then takes its reaction's steps, each delivered to callbacks one level
shallower; at depth zero it only records. -/
def observer (react : Reaction) : Nat → Nat → Snapshot → World → World
  | 0, sub, snap, w => (w.1, w.2 ++ [(sub, snap)])
  | depth + 1, sub, snap, w =>
    let w' := (w.1, w.2 ++ [(sub, snap)])
    (react sub snap w').foldl (fun w step => perform (observer react depth) (step w) w) w'

/-- Performs actions one after another. -/
def performAll (observe : Nat → Snapshot → World → World) (acts : List Action) (w : World) :
    World :=
  acts.foldl (fun w a => perform observe a w) w

/-! ## What a subscriber received -/

section Received

variable (log log' : List (Nat × Snapshot)) (sub : Nat)

@[simp] theorem received_nil : received [] sub = [] := rfl

@[simp] theorem received_append :
    received (log ++ log') sub = received log sub ++ received log' sub := by
  simp [received]

theorem lastReceived_append :
    lastReceived (log ++ log') sub = (lastReceived log' sub).or (lastReceived log sub) := by
  simp [lastReceived, List.getLast?_append]

theorem lastReceived_singleton (t : Nat) (snap : Snapshot) :
    lastReceived [(t, snap)] sub = if t = sub then some snap else none := by
  by_cases ht : t = sub <;> simp [lastReceived, received, ht]

/-- Handing one snapshot to a list of subscribers makes it the last one each of them received. -/
theorem lastReceived_deliveries (rest : List Nat) (snap : Snapshot) :
    lastReceived (rest.map fun t => (t, snap)) sub = if sub ∈ rest then some snap else none := by
  induction rest with
  | nil => rfl
  | cons t rest ih =>
    rw [List.map_cons, ← List.singleton_append, lastReceived_append, ih, lastReceived_singleton]
    by_cases ht : t = sub
    · subst ht
      by_cases hs : t ∈ rest <;> simp [hs]
    · have ht' : sub ≠ t := fun h => ht h.symm
      by_cases hs : sub ∈ rest <;> simp [ht, ht', hs]

/-- A subscriber numbered past everyone in a log has received nothing from it. -/
theorem lastReceived_eq_none {log : List (Nat × Snapshot)} {n sub : Nat}
    (hlog : ∀ e ∈ log, e.1 < n) (hle : n ≤ sub) : lastReceived log sub = none := by
  have hnil : received log sub = [] := by
    simp only [received, List.map_eq_nil_iff, List.filter_eq_nil_iff, beq_iff_eq]
    intro e he h
    have := hlog e he
    omega
  simp [lastReceived, hnil]

end Received

/-! ## Actions -/

section Actions

variable {r : Registry}

theorem Action.apply_of_run {a : Action} {made : Option Session} {r' : Registry}
    (h : a.run r = .ok (made, r')) : a.apply r = r' := by
  simp [Action.apply, h]

/-- An action either leaves the subscriptions alone and keeps the version in step with the
publications, or it subscribes, or it cancels. -/
theorem Action.apply_cases (a : Action) (r : Registry) :
    Framed r (a.apply r) ∨ a.apply r = r.subscribe.2 ∨ ∃ sub, a.apply r = r.unsubscribe sub := by
  cases a with
  | call c =>
    left
    cases h : c.run r with
    | error e =>
      have happly : (Action.call c).apply r = r := by simp [Action.apply, Action.run, h]
      rw [happly]
      exact .refl r
    | ok res =>
      obtain ⟨made, r'⟩ := res
      have hrun : (Action.call c).run r = .ok (made, r') := h
      rw [Action.apply_of_run hrun]
      exact Call.framed h
  | subscribe => exact .inr (.inl rfl)
  | cancel sub => exact .inr (.inr ⟨sub, rfl⟩)

/-- An action publishes at most once: either nothing a snapshot shows changed, or the version
went up by one. -/
theorem Action.apply_quiet_or_publishes (a : Action) (r : Registry) :
    (a.apply r).snapshot = r.snapshot ∨ (a.apply r).version = r.version + 1 := by
  cases h : a.run r with
  | error e =>
    left
    simp [Action.apply, h]
  | ok res =>
    obtain ⟨made, r'⟩ := res
    rw [Action.apply_of_run h]
    rcases (Action.effect h).quiet_or_publishes with ⟨h₁, h₂, h₃⟩ | h₃
    · exact .inl (by simp [snapshot, h₁, h₂, h₃])
    · exact .inr h₃

theorem Action.version_le_apply (a : Action) (r : Registry) : r.version ≤ (a.apply r).version := by
  rcases a.apply_quiet_or_publishes r with h | h
  · exact Nat.le_of_eq (congrArg Snapshot.version h).symm
  · omega

/-- An action that publishes neither subscribes nor cancels. -/
theorem Action.framed_of_publishes {a : Action} (h : (a.apply r).version = r.version + 1) :
    Framed r (a.apply r) := by
  rcases a.apply_cases r with hf | hs | ⟨sub, hs⟩
  · exact hf
  · rw [hs] at h
    exact absurd h (Nat.succ_ne_self _).symm
  · rw [hs] at h
    exact absurd h (Nat.succ_ne_self _).symm

theorem Action.apply_version_add (a : Action) (r : Registry) :
    (a.apply r).version + r.publishes = r.version + (a.apply r).publishes := by
  rcases a.apply_cases r with hf | hs | ⟨sub, hs⟩
  · exact hf.version_add
  · rw [hs]
    rfl
  · rw [hs]
    rfl

theorem Action.next_le_apply (a : Action) (r : Registry) :
    r.nextSubscriber ≤ (a.apply r).nextSubscriber := by
  rcases a.apply_cases r with hf | hs | ⟨sub, hs⟩
  · exact Nat.le_of_eq hf.nextSubscriber_eq.symm
  · rw [hs]
    exact Nat.le_succ _
  · rw [hs]
    exact Nat.le_refl _

/-- No action brings back a subscription it did not make. -/
theorem Action.mem_of_mem_apply (a : Action) {sub : Nat}
    (hsub : sub ∈ (a.apply r).subscribers) (hlt : sub < r.nextSubscriber) :
    sub ∈ r.subscribers := by
  rcases a.apply_cases r with hf | hs | ⟨t, hs⟩
  · rwa [hf.subscribers_eq] at hsub
  · rw [hs] at hsub
    rcases List.mem_append.mp hsub with h | h
    · exact h
    · rw [List.mem_singleton.mp h] at hlt
      exact absurd hlt (Nat.lt_irrefl _)
  · rw [hs] at hsub
    exact List.mem_of_mem_erase hsub

/-- Subscriptions stay distinct numbers below the next one. -/
theorem Action.subscriptions_apply (a : Action) (hnd : r.subscribers.Nodup)
    (hlt : ∀ sub ∈ r.subscribers, sub < r.nextSubscriber) :
    (a.apply r).subscribers.Nodup ∧
      ∀ sub ∈ (a.apply r).subscribers, sub < (a.apply r).nextSubscriber := by
  rcases a.apply_cases r with hf | hs | ⟨t, hs⟩
  · rw [hf.subscribers_eq, hf.nextSubscriber_eq]
    exact ⟨hnd, hlt⟩
  · rw [hs]
    have hout : r.nextSubscriber ∉ r.subscribers := fun h => Nat.lt_irrefl _ (hlt _ h)
    refine ⟨List.nodup_append.mpr ⟨hnd, by simp, ?_⟩, fun sub h => ?_⟩
    · intro x hx y hy hxy
      rw [List.mem_singleton.mp hy] at hxy
      exact hout (hxy ▸ hx)
    rcases List.mem_append.mp h with h | h
    · exact Nat.lt_succ_of_lt (hlt sub h)
    · rw [List.mem_singleton.mp h]
      exact Nat.lt_succ_self _
  · rw [hs]
    exact ⟨hnd.erase t, fun sub h => hlt sub (List.mem_of_mem_erase h)⟩

end Actions

/-! ## Orderly worlds -/

/-- What holds of a world between any two steps of a run, inside callbacks too: nothing in the
log is newer than the registry or went to a subscription not yet made, the versions each
subscriber received strictly increase, subscriptions are distinct numbers below the next one,
and the version counts the publications. -/
structure Orderly (w : World) : Prop where
  log_le : ∀ e ∈ w.2, e.2.version ≤ w.1.version ∧ e.1 < w.1.nextSubscriber
  ordered : ∀ sub, ((received w.2 sub).map (·.version)).Pairwise (· < ·)
  subscribers_nodup : w.1.subscribers.Nodup
  subscribers_lt : ∀ sub ∈ w.1.subscribers, sub < w.1.nextSubscriber
  version_eq : w.1.version = w.1.publishes

namespace Orderly

variable {w : World}

theorem empty : Orderly ({}, []) where
  log_le := by simp
  ordered := by simp
  subscribers_nodup := List.nodup_nil
  subscribers_lt := by simp
  version_eq := rfl

/-- A subscription made after the whole log has received nothing. -/
theorem lastReceived_eq_none (hw : Orderly w) {sub : Nat} (hle : w.1.nextSubscriber ≤ sub) :
    lastReceived w.2 sub = none :=
  Registry.lastReceived_eq_none (fun e he => (hw.log_le e he).2) hle

/-- Recording a delivery of the current snapshot keeps a world orderly when the subscriber has
only received older ones. -/
theorem record (hw : Orderly w) {sub : Nat} (hlt : sub < w.1.nextSubscriber)
    (hnew : ∀ e ∈ w.2, e.1 = sub → e.2.version < w.1.version) :
    Orderly (w.1, w.2 ++ [(sub, w.1.snapshot)]) where
  log_le := by
    intro e he
    rcases List.mem_append.mp he with he | he
    · exact hw.log_le e he
    · rw [List.mem_singleton.mp he]
      exact ⟨Nat.le_refl _, hlt⟩
  ordered := by
    intro t
    rw [received_append, List.map_append, List.pairwise_append]
    refine ⟨hw.ordered t, ?_, ?_⟩
    · by_cases ht : sub = t <;> simp [received, ht]
    · intro v hv v' hv'
      by_cases ht : sub = t
      · subst ht
        have hv'' : v' = w.1.version := by simpa [received, snapshot] using hv'
        obtain ⟨e, ⟨he, hes⟩, rfl⟩ : ∃ e, (e ∈ w.2 ∧ e.1 = sub) ∧ e.2.version = v := by
          simpa [received] using hv
        rw [hv'']
        exact hnew e he hes
      · simp [received, ht] at hv'
  subscribers_nodup := hw.subscribers_nodup
  subscribers_lt := hw.subscribers_lt
  version_eq := hw.version_eq

/-- An action keeps a world orderly. -/
theorem apply (hw : Orderly w) (a : Action) : Orderly (a.apply w.1, w.2) where
  log_le := fun e he =>
    ⟨Nat.le_trans (hw.log_le e he).1 (a.version_le_apply w.1),
      Nat.lt_of_lt_of_le (hw.log_le e he).2 (a.next_le_apply w.1)⟩
  ordered := hw.ordered
  subscribers_nodup := (a.subscriptions_apply hw.subscribers_nodup hw.subscribers_lt).1
  subscribers_lt := (a.subscriptions_apply hw.subscribers_nodup hw.subscribers_lt).2
  version_eq := by
    have := a.apply_version_add w.1
    have := hw.version_eq
    show (a.apply w.1).version = (a.apply w.1).publishes
    omega

end Orderly

/-! ## What a callback guarantees -/

/-- What a callback guarantees of the world `w'` it returns, given the world `w` it started in,
and what delivery relies on. Versions and subscription numbers only grow, and no subscription
comes back. If the version did not move, nothing a snapshot shows changed and nothing was
delivered. If it did, every earlier subscription still there has last received the current
snapshot. A subscription made meanwhile has last received the current snapshot, or nothing. -/
structure Follows (w w' : World) : Prop where
  version_le : w.1.version ≤ w'.1.version
  next_le : w.1.nextSubscriber ≤ w'.1.nextSubscriber
  kept : ∀ sub ∈ w'.1.subscribers, sub < w.1.nextSubscriber → sub ∈ w.1.subscribers
  quiet : w'.1.version = w.1.version → w'.1.snapshot = w.1.snapshot ∧ w'.2 = w.2
  synced : w'.1.version ≠ w.1.version → ∀ sub ∈ w'.1.subscribers, sub < w.1.nextSubscriber →
    lastReceived w'.2 sub = some w'.1.snapshot
  fresh : ∀ sub ∈ w'.1.subscribers, w.1.nextSubscriber ≤ sub →
    lastReceived w'.2 sub = none ∨ lastReceived w'.2 sub = some w'.1.snapshot

namespace Follows

variable {w w₁ w₂ w₃ : World}

protected theorem refl (hw : Orderly w) : Follows w w where
  version_le := Nat.le_refl _
  next_le := Nat.le_refl _
  kept := fun _ h _ => h
  quiet := fun _ => ⟨rfl, rfl⟩
  synced := fun h => absurd rfl h
  fresh := fun sub h hle => absurd (hw.subscribers_lt sub h) (Nat.not_lt.mpr hle)

protected theorem trans (h₁ : Follows w₁ w₂) (h₂ : Follows w₂ w₃) : Follows w₁ w₃ where
  version_le := Nat.le_trans h₁.version_le h₂.version_le
  next_le := Nat.le_trans h₁.next_le h₂.next_le
  kept := fun sub h hlt =>
    h₁.kept sub (h₂.kept sub h (Nat.lt_of_lt_of_le hlt h₁.next_le)) hlt
  quiet := by
    intro hv
    have hv₁ : w₂.1.version = w₁.1.version := by
      have := h₁.version_le
      have := h₂.version_le
      omega
    have hv₂ : w₃.1.version = w₂.1.version := hv₁ ▸ hv
    obtain ⟨hs₁, hl₁⟩ := h₁.quiet hv₁
    obtain ⟨hs₂, hl₂⟩ := h₂.quiet hv₂
    exact ⟨hs₂.trans hs₁, hl₂.trans hl₁⟩
  synced := by
    intro hv sub hsub hlt
    have hlt₂ : sub < w₂.1.nextSubscriber := Nat.lt_of_lt_of_le hlt h₁.next_le
    by_cases hv₂ : w₃.1.version = w₂.1.version
    · -- the first part published, and the second changed nothing
      obtain ⟨hs, hl⟩ := h₂.quiet hv₂
      rw [hs, hl]
      exact h₁.synced (hv₂ ▸ hv) sub (h₂.kept sub hsub hlt₂) hlt
    · exact h₂.synced hv₂ sub hsub hlt₂
  fresh := by
    intro sub hsub hle
    by_cases hlt₂ : sub < w₂.1.nextSubscriber
    · -- made during the first part
      have hsub₂ := h₂.kept sub hsub hlt₂
      by_cases hv₂ : w₃.1.version = w₂.1.version
      · obtain ⟨hs, hl⟩ := h₂.quiet hv₂
        rw [hs, hl]
        exact h₁.fresh sub hsub₂ hle
      · exact .inr (h₂.synced hv₂ sub hsub hlt₂)
    · exact h₂.fresh sub hsub (Nat.not_lt.mp hlt₂)

/-- Once the version has moved, the log of the starting world no longer matters. -/
theorem of_version_ne {r : Registry} {log log' : List (Nat × Snapshot)} (h : Follows (r, log) w')
    (hv : w'.1.version ≠ r.version) : Follows (r, log') w' where
  version_le := h.version_le
  next_le := h.next_le
  kept := h.kept
  quiet := fun h' => absurd h' hv
  synced := h.synced
  fresh := h.fresh

/-- A stretch in which the version did not move can be followed by deliveries to subscriptions
made before it. -/
theorem append {r r' : Registry} {log : List (Nat × Snapshot)} (h : Follows (r, log) (r', log))
    (hv : r'.version = r.version) (more : List (Nat × Snapshot))
    (hmore : ∀ e ∈ more, e.1 < r.nextSubscriber) : Follows (r, log ++ more) (r', log ++ more) where
  version_le := h.version_le
  next_le := h.next_le
  kept := h.kept
  quiet := fun _ => ⟨(h.quiet hv).1, rfl⟩
  synced := fun h' => absurd hv h'
  fresh := by
    intro sub hsub hle
    rw [lastReceived_append, lastReceived_eq_none hmore hle, Option.none_or]
    exact h.fresh sub hsub hle

end Follows

/-- What delivery relies on of a callback: handed the registry's current snapshot in an orderly
world, it returns an orderly world that follows the world with that delivery recorded. -/
def Sound (observe : Nat → Snapshot → World → World) : Prop :=
  ∀ sub (w : World), Orderly (w.1, w.2 ++ [(sub, w.1.snapshot)]) →
    Orderly (observe sub w.1.snapshot w) ∧
      Follows (w.1, w.2 ++ [(sub, w.1.snapshot)]) (observe sub w.1.snapshot w)

/-- Between two top-level actions, every subscription has last received the current snapshot, or
nothing yet. -/
def Settled (w : World) : Prop :=
  ∀ sub ∈ w.1.subscribers, lastReceived w.2 sub = none ∨ lastReceived w.2 sub = some w.1.snapshot

theorem Follows.settled {w w' : World} (h : Follows w w') (hs : Settled w) : Settled w' := by
  intro sub hsub
  by_cases hlt : sub < w.1.nextSubscriber
  · have hsub₀ := h.kept sub hsub hlt
    by_cases hv : w'.1.version = w.1.version
    · obtain ⟨hsnap, hlog⟩ := h.quiet hv
      rw [hsnap, hlog]
      exact hs sub hsub₀
    · exact .inr (h.synced hv sub hsub hlt)
  · exact h.fresh sub hsub (Nat.not_lt.mp hlt)

/-! ## Delivery -/

section Delivery

variable {observe : Nat → Snapshot → World → World}

/-- Delivery of a snapshot the registry has moved past hands it to no one. -/
theorem deliver_of_version_ne (snap : Snapshot) (rest : List Nat) {w : World}
    (hv : w.1.version ≠ snap.version) : deliver observe snap rest w = w := by
  cases rest with
  | nil => rfl
  | cons sub rest => simp [deliver, hv]

/-- Delivering the current snapshot to subscribers that have only received older ones behaves as
if all of them received it at once, followed by a callback. -/
theorem deliver_sound (hobs : Sound observe) (snap : Snapshot) (rest : List Nat) {w : World}
    (hw : Orderly w) (hsnap : w.1.snapshot = snap) (hnd : rest.Nodup)
    (hlt : ∀ sub ∈ rest, sub < w.1.nextSubscriber)
    (hnew : ∀ e ∈ w.2, e.1 ∈ rest → e.2.version < w.1.version) :
    Orderly (deliver observe snap rest w) ∧
      Follows (w.1, w.2 ++ rest.map fun sub => (sub, snap)) (deliver observe snap rest w) := by
  induction rest generalizing w with
  | nil =>
    simp only [deliver, List.map_nil, List.append_nil]
    exact ⟨hw, .refl hw⟩
  | cons sub rest ih =>
    subst hsnap
    obtain ⟨hsub, hnd⟩ := List.nodup_cons.mp hnd
    have hstep : deliver observe w.1.snapshot (sub :: rest) w =
        deliver observe w.1.snapshot rest (observe sub w.1.snapshot w) := by
      simp [deliver, snapshot]
    rw [hstep]
    have hrec : Orderly (w.1, w.2 ++ [(sub, w.1.snapshot)]) :=
      hw.record (hlt sub List.mem_cons_self) fun e he h =>
        hnew e he (h ▸ List.mem_cons_self)
    obtain ⟨hw₁, hf₁⟩ := hobs sub w hrec
    generalize observe sub w.1.snapshot w = w₁ at hw₁ hf₁
    by_cases hv : w₁.1.version = w.1.version
    · -- the callback changed nothing a snapshot shows: delivery goes on with the rest
      obtain ⟨hsnap₁, hlog₁⟩ := hf₁.quiet hv
      have hlt₁ : ∀ t ∈ rest, t < w₁.1.nextSubscriber := fun t ht =>
        Nat.lt_of_lt_of_le (hlt t (List.mem_cons_of_mem _ ht)) hf₁.next_le
      -- the one delivery the callback added went to `sub`, who is not among the rest
      have hnew₁ : ∀ e ∈ w₁.2, e.1 ∈ rest → e.2.version < w₁.1.version := by
        intro e he ht
        rw [hlog₁] at he
        rcases List.mem_append.mp he with he | he
        · rw [hv]
          exact hnew e he (List.mem_cons_of_mem _ ht)
        · rw [List.mem_singleton.mp he] at ht
          exact absurd ht hsub
      obtain ⟨hw', hf'⟩ := ih hw₁ hsnap₁ hnd hlt₁ hnew₁
      have hmore : ∀ e ∈ rest.map (fun t => (t, w.1.snapshot)), e.1 < w.1.nextSubscriber := by
        intro e he
        obtain ⟨t, ht, rfl⟩ := List.mem_map.mp he
        exact hlt t (List.mem_cons_of_mem _ ht)
      have hquiet : Follows (w.1, w.2 ++ [(sub, w.1.snapshot)]) (w₁.1, w₁.2) := hf₁
      rw [hlog₁] at hquiet hf'
      refine ⟨hw', ?_⟩
      have hjoin := (hquiet.append hv _ hmore).trans hf'
      simpa using hjoin
    · -- the callback published: the rest of this delivery is skipped
      rw [deliver_of_version_ne _ _ (by rwa [snapshot])]
      exact ⟨hw₁, hf₁.of_version_ne hv⟩

/-- An action that changed nothing a snapshot shows is followed by the world it leaves. -/
theorem Follows.of_snapshot_eq {w : World} (hw : Orderly w) (a : Action)
    (h : (a.apply w.1).snapshot = w.1.snapshot) : Follows w (a.apply w.1, w.2) where
  version_le := a.version_le_apply w.1
  next_le := a.next_le_apply w.1
  kept := fun _ hsub hlt => a.mem_of_mem_apply hsub hlt
  quiet := fun _ => ⟨h, rfl⟩
  synced := fun hv => absurd (congrArg Snapshot.version h) hv
  fresh := fun _ _ hle => .inl (hw.lastReceived_eq_none hle)

/-- A publication delivered to every subscriber, in a world that follows the delivery, is
followed from the world before it. -/
theorem Follows.of_publish {w w' : World} {r : Registry} (hf : Framed w.1 r)
    (hp : r.version = w.1.version + 1)
    (h : Follows (r, w.2 ++ r.subscribers.map fun sub => (sub, r.snapshot)) w') :
    Follows w w' := by
  -- the publication put the version past the one before, and versions only grow after it
  have hgt : w.1.version < w'.1.version := by
    have := h.version_le
    simp only at this
    omega
  exact {
    version_le := Nat.le_of_lt hgt
    next_le := hf.nextSubscriber_eq ▸ h.next_le
    kept := fun sub hsub hlt =>
      hf.subscribers_eq ▸ h.kept sub hsub (hf.nextSubscriber_eq ▸ hlt)
    quiet := fun hv => absurd hv (Nat.ne_of_gt hgt)
    synced := by
      intro _ sub hsub hlt
      have hlt' : sub < r.nextSubscriber := hf.nextSubscriber_eq ▸ hlt
      by_cases hv : w'.1.version = r.version
      · -- nobody published again: the subscriber received this publication
        obtain ⟨hsnap, hlog⟩ := h.quiet hv
        rw [hsnap, hlog, lastReceived_append, lastReceived_deliveries,
          if_pos (h.kept sub hsub hlt')]
        rfl
      · exact h.synced hv sub hsub hlt'
    fresh := fun sub hsub hle => h.fresh sub hsub (hf.nextSubscriber_eq ▸ hle) }

/-- Performing an action, with sound callbacks, keeps the world orderly and is followed by the
world it leaves. -/
theorem perform_sound (hobs : Sound observe) (a : Action) {w : World} (hw : Orderly w) :
    Orderly (perform observe a w) ∧ Follows w (perform observe a w) := by
  have hw₁ := hw.apply a
  rcases a.apply_quiet_or_publishes w.1 with hq | hp
  · -- nothing to deliver
    have hv : (a.apply w.1).version = w.1.version := congrArg Snapshot.version hq
    rw [perform, settle_of_version_eq observe hv]
    exact ⟨hw₁, .of_snapshot_eq hw a hq⟩
  · -- the publication goes to every subscriber, none of whom has received it
    have hf := Action.framed_of_publishes hp
    have hsettle : perform observe a w = deliver observe (a.apply w.1).snapshot
        (a.apply w.1).subscribers (a.apply w.1, w.2) := by
      simp [perform, settle, hp]
    rw [hsettle]
    obtain ⟨hw', hf'⟩ := deliver_sound hobs _ _ hw₁ rfl hw₁.subscribers_nodup
      hw₁.subscribers_lt fun e he _ => by
        have := (hw.log_le e he).1
        show e.2.version < (a.apply w.1).version
        omega
    exact ⟨hw', .of_publish hf hp hf'⟩

/-- Steps each of which keeps a world orderly and is followed by what it leaves do so in turn. -/
theorem foldl_sound {α : Type} (f : α → World → World)
    (hf : ∀ x w, Orderly w → Orderly (f x w) ∧ Follows w (f x w)) (l : List α) {w : World}
    (hw : Orderly w) :
    Orderly (l.foldl (fun w x => f x w) w) ∧ Follows w (l.foldl (fun w x => f x w) w) := by
  induction l generalizing w with
  | nil => exact ⟨hw, .refl hw⟩
  | cons x l ih =>
    obtain ⟨hw₁, h₁⟩ := hf x w hw
    obtain ⟨hw₂, h₂⟩ := ih hw₁
    exact ⟨hw₂, h₁.trans h₂⟩

end Delivery

/-- Every subscriber's callback, at any depth, is sound. -/
theorem observer_sound (react : Reaction) (depth : Nat) : Sound (observer react depth) := by
  induction depth with
  | zero => exact fun _ _ hw => ⟨hw, .refl hw⟩
  | succ depth ih =>
    intro sub w hw
    exact foldl_sound (fun (step : World → Action) w => perform (observer react depth) (step w) w)
      (fun step _ hw => perform_sound ih (step _) hw) _ hw

/-! ## Runs -/

/-- Over any run of actions from an empty registry, with callbacks that change the registry at
any depth, followed by one more action: the versions each subscription received strictly
increase; a subscription that stood through the action (subscription numbers are never reused)
has last received the current snapshot, or nothing at all if the action published nothing; and
the version is the number of publications. -/
theorem deliveries_ordered_and_current (react : Reaction) (depth : Nat) (acts : List Action)
    (a : Action) :
    let w := performAll (observer react depth) acts ({}, [])
    let w' := perform (observer react depth) a w
    (∀ sub, ((received w'.2 sub).map (·.version)).Pairwise (· < ·)) ∧
      (∀ sub ∈ w.1.subscribers, sub ∈ w'.1.subscribers →
        lastReceived w'.2 sub = some w'.1.snapshot ∨
          (w'.1.version = w.1.version ∧ lastReceived w'.2 sub = none)) ∧
      w'.1.version = w'.1.publishes := by
  intro w w'
  have hsound := observer_sound react depth
  have hrun : Orderly w ∧ Follows ({}, []) w :=
    foldl_sound (fun a w => perform (observer react depth) a w)
      (fun a _ hw => perform_sound hsound a hw) acts Orderly.empty
  obtain ⟨hw, hfrom⟩ := hrun
  have hsettled : Settled w := hfrom.settled fun _ h => by simp at h
  have hstep : Orderly w' ∧ Follows w w' := perform_sound hsound a hw
  obtain ⟨hw', hf⟩ := hstep
  refine ⟨hw'.ordered, fun sub hsub hsub' => ?_, hw'.version_eq⟩
  by_cases hv : w'.1.version = w.1.version
  · -- nothing was published: what the subscription last received is unchanged
    obtain ⟨hsnap, hlog⟩ := hf.quiet hv
    rcases hsettled sub hsub with h | h
    · exact .inr ⟨hv, hlog ▸ h⟩
    · exact .inl (by rw [hlog, hsnap]; exact h)
  · exact .inl (hf.synced hv sub hsub' (hw.subscribers_lt sub hsub))

-- two subscribers, the first of which makes `a` active again the first time it is handed a
-- snapshot with `b` active: the second never sees that snapshot
example :
    let a := ({} : Registry).create 0 "menu" "https://a.test"
    let b := a.2.create 0 "menu" "https://b.test"
    let react : Reaction := fun sub snap w =>
      if sub = 0 ∧ snap.currentId = b.1.id ∧
          ((received w.2 0).filter (·.currentId == b.1.id)).length = 1
      then [fun _ => .call (.select a.1.id)] else []
    let w := performAll (observer react 1)
      [.call (.create 0 "menu" "https://a.test"), .call (.create 0 "menu" "https://b.test"),
        .subscribe, .subscribe, .call (.select b.1.id),
        .call (.create 0 "menu" "https://c.test")] ({}, [])
    ((received w.2 0).map (·.version), (received w.2 1).map (·.version)) =
      ([3, 4, 5], [4, 5]) := by
  decide +kernel

end BrowserSessions.Registry
