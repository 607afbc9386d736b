import BrowserSessions.Proofs.Registry.Delivery

/-!
# Cancelled subscriptions

Cancelling a subscription takes its number out of the list of subscribers and leaves the rest of
the list in order (`unsubscribe_subscribers`); cancelling again, or cancelling a number that is
not subscribed, changes nothing (`unsubscribe_of_not_mem`).

A cancelled subscription is `Cancelled`: its number was handed out and is no longer subscribed.
It stays so, since numbers are never handed out twice, and no later action hands it anything:
an action publishes to the subscribers of the moment, and every callback of any depth spares it
(`observer_spares`, `perform_spares`). Delivery of a snapshot already under way is another
matter: it goes to the subscribers as they were when the snapshot was published, so a
subscription cancelled by the callback of a subscriber before it in that list is still handed
that one snapshot, and nothing more (`deliver_cancelled`; `cancelled_during_delivery_still_called`
is a run where it happens). Main statement: `cancel_stops_later_deliveries`.
-/

namespace BrowserSessions.Registry

/-! ## The list of subscribers -/

section List

variable {r : Registry} {c : Nat}

/-- Cancelling takes exactly that subscription out and keeps the others in their order. -/
theorem unsubscribe_subscribers (h : r.subscribers.Nodup) :
    (r.unsubscribe c).subscribers = r.subscribers.filter (· ≠ c) := by
  simp only [unsubscribe]
  rw [h.erase_eq_filter]
  congr 1
  funext sub
  rw [Bool.eq_iff_iff]
  simp

/-- Cancelling a subscription that is not there changes nothing. -/
theorem unsubscribe_of_not_mem (h : c ∉ r.subscribers) : r.unsubscribe c = r := by
  simp [unsubscribe, List.erase_of_not_mem h]

/-- Cancelling twice is cancelling once. -/
theorem unsubscribe_unsubscribe (h : r.subscribers.Nodup) :
    (r.unsubscribe c).unsubscribe c = r.unsubscribe c := by
  apply unsubscribe_of_not_mem
  rw [unsubscribe_subscribers h]
  simp

end List

/-! ## A cancelled subscription stays cancelled -/

/-- A subscription that was made and is no longer subscribed. -/
def Cancelled (c : Nat) (r : Registry) : Prop := c < r.nextSubscriber ∧ c ∉ r.subscribers

theorem cancelled_unsubscribe {c : Nat} {r : Registry} (h : c < r.nextSubscriber)
    (hnd : r.subscribers.Nodup) : Cancelled c (r.unsubscribe c) :=
  ⟨h, hnd.not_mem_erase⟩

/-- No action brings a cancelled subscription back: numbers are never handed out twice. -/
theorem Cancelled.apply {c : Nat} {r : Registry} (hc : Cancelled c r) (a : Action) :
    Cancelled c (a.apply r) := by
  refine ⟨Nat.lt_of_lt_of_le hc.1 (a.next_le_apply r), fun hmem => hc.2 ?_⟩
  exact a.mem_of_mem_apply hmem hc.1

/-! ## Nothing reaches a cancelled subscription -/

/-- What a callback guarantees about a cancelled subscription: called for another subscriber, it
leaves it cancelled and hands it nothing. -/
def Spares (c : Nat) (observe : Nat → Snapshot → World → World) : Prop :=
  ∀ sub snap (w : World), sub ≠ c → Cancelled c w.1 →
    Cancelled c (observe sub snap w).1 ∧ received (observe sub snap w).2 c = received w.2 c

section Spares

variable {c : Nat} {observe : Nat → Snapshot → World → World}

/-- Delivery to a list without the cancelled subscription hands it nothing. -/
theorem deliver_spares_of_not_mem (hobs : Spares c observe) (snap : Snapshot) {rest : List Nat}
    (hrest : c ∉ rest) {w : World} (hc : Cancelled c w.1) :
    Cancelled c (deliver observe snap rest w).1 ∧
      received (deliver observe snap rest w).2 c = received w.2 c := by
  induction rest generalizing w with
  | nil => exact ⟨hc, rfl⟩
  | cons sub rest ih =>
    have hsub : sub ≠ c := fun h => hrest (h ▸ List.mem_cons_self)
    have hrest' : c ∉ rest := fun h => hrest (List.mem_cons_of_mem _ h)
    by_cases hv : w.1.version = snap.version
    · -- the subscriber's callback spares the cancelled one, and so does the rest of the delivery
      have hstep : deliver observe snap (sub :: rest) w =
          deliver observe snap rest (observe sub snap w) := by
        simp [deliver, hv]
      obtain ⟨hc₁, hr₁⟩ := hobs sub snap w hsub hc
      obtain ⟨hc₂, hr₂⟩ := ih hrest' hc₁
      rw [hstep]
      exact ⟨hc₂, hr₂.trans hr₁⟩
    · rw [deliver_of_version_ne snap _ hv]
      exact ⟨hc, rfl⟩

/-- An action, with callbacks that spare the cancelled subscription, hands it nothing: what it
publishes goes to the subscribers of the moment. -/
theorem perform_spares (hobs : Spares c observe) (a : Action) {w : World} (hc : Cancelled c w.1) :
    Cancelled c (perform observe a w).1 ∧ received (perform observe a w).2 c = received w.2 c := by
  have hc₁ : Cancelled c (a.apply w.1) := hc.apply a
  unfold perform settle
  split
  · exact ⟨hc₁, rfl⟩
  · exact deliver_spares_of_not_mem hobs _ hc₁.2 hc₁

/-- Actions one after another, with callbacks that spare the cancelled subscription, hand it
nothing. -/
theorem foldl_perform_spares {α : Type} (hobs : Spares c observe) (step : α → World → Action)
    (l : List α) {w : World} (hc : Cancelled c w.1) :
    let w' := l.foldl (fun w x => perform observe (step x w) w) w
    Cancelled c w'.1 ∧ received w'.2 c = received w.2 c := by
  induction l generalizing w with
  | nil => exact ⟨hc, rfl⟩
  | cons x l ih =>
    obtain ⟨hc₁, hr₁⟩ := perform_spares hobs (step x w) hc
    obtain ⟨hc₂, hr₂⟩ := ih hc₁
    exact ⟨hc₂, hr₂.trans hr₁⟩

end Spares

/-- A subscriber's callback, at any depth, hands a cancelled subscription nothing beyond the
delivery it records for its own subscriber, and leaves it cancelled: each of its steps is an
action whose callbacks, one level shallower, do the same. -/
theorem observer_received (react : Reaction) (depth sub : Nat) (snap : Snapshot) {c : Nat}
    {w : World} (hc : Cancelled c w.1) :
    Cancelled c (observer react depth sub snap w).1 ∧
      received (observer react depth sub snap w).2 c = received (w.2 ++ [(sub, snap)]) c := by
  induction depth generalizing sub snap w with
  | zero => exact ⟨hc, rfl⟩
  | succ depth ih =>
    have hspares : Spares c (observer react depth) := by
      intro t snap' w' ht hc'
      obtain ⟨hc₁, hr₁⟩ := ih t snap' hc'
      exact ⟨hc₁, by simpa [received, ht] using hr₁⟩
    exact foldl_perform_spares hspares (fun step w => step w)
      (react sub snap (w.1, w.2 ++ [(sub, snap)])) (w := (w.1, w.2 ++ [(sub, snap)])) hc

/-- Every subscriber's callback, at any depth, spares a cancelled subscription. -/
theorem observer_spares (react : Reaction) (depth c : Nat) : Spares c (observer react depth) := by
  intro sub snap w hsub hc
  obtain ⟨hc₁, hr₁⟩ := observer_received react depth sub snap hc
  exact ⟨hc₁, by simpa [received, hsub] using hr₁⟩

/-- A delivery under way hands a cancelled subscription at most the snapshot it delivers, once. -/
theorem deliver_cancelled (react : Reaction) (depth : Nat) (snap : Snapshot) {c : Nat}
    {rest : List Nat} (hnd : rest.Nodup) {w : World} (hc : Cancelled c w.1) :
    let w' := deliver (observer react depth) snap rest w
    Cancelled c w'.1 ∧
      (received w'.2 c = received w.2 c ∨ received w'.2 c = received w.2 c ++ [snap]) := by
  induction rest generalizing w with
  | nil => exact ⟨hc, .inl rfl⟩
  | cons sub rest ih =>
    obtain ⟨hsub, hnd'⟩ := List.nodup_cons.mp hnd
    by_cases hv : w.1.version = snap.version
    · have hstep : deliver (observer react depth) snap (sub :: rest) w =
          deliver (observer react depth) snap rest (observer react depth sub snap w) := by
        simp [deliver, hv]
      show Cancelled c (deliver _ snap (sub :: rest) w).1 ∧ _
      rw [hstep]
      by_cases hsc : sub = c
      · -- the cancelled subscription's own turn: it is handed the snapshot, and its callback
        -- and the rest of the list, which it is not in, hand it nothing more
        subst hsc
        obtain ⟨hc₁, hr₁⟩ := observer_received react depth sub snap hc
        obtain ⟨hc₂, hr₂⟩ := deliver_spares_of_not_mem (observer_spares react depth sub) snap hsub hc₁
        refine ⟨hc₂, .inr ?_⟩
        rw [hr₂, hr₁]
        simp [received]
      · obtain ⟨hc₁, hr₁⟩ := observer_spares react depth c sub snap w hsc hc
        obtain ⟨hc₂, hr₂⟩ := ih hnd' hc₁
        rw [hr₁] at hr₂
        exact ⟨hc₂, hr₂⟩
    · show Cancelled c (deliver _ snap (sub :: rest) w).1 ∧ _
      rw [deliver_of_version_ne snap _ hv]
      exact ⟨hc, .inl rfl⟩

/-! ## Cancelling stops later deliveries -/

/-- Cancelling takes exactly that subscription out of the list, the others keeping their order;
cancelling again changes nothing; a subscription made and cancelled stays cancelled. From any
world in which a subscription is cancelled, the actions that follow, at top level or from
callbacks of any depth, hand it nothing. A delivery already under way when it was cancelled
hands it at most the snapshot being delivered, once. -/
theorem cancel_stops_later_deliveries (react : Reaction) (depth : Nat) :
    (∀ (r : Registry) (c : Nat), r.subscribers.Nodup →
      (r.unsubscribe c).subscribers = r.subscribers.filter (· ≠ c) ∧
        (r.unsubscribe c).unsubscribe c = r.unsubscribe c ∧
        (c < r.nextSubscriber → Cancelled c (r.unsubscribe c))) ∧
      (∀ (c : Nat) (w : World) (acts : List Action), Cancelled c w.1 →
        let w' := performAll (observer react depth) acts w
        Cancelled c w'.1 ∧ received w'.2 c = received w.2 c) ∧
      (∀ (c : Nat) (w : World) (snap : Snapshot) (rest : List Nat), rest.Nodup →
        Cancelled c w.1 →
        let w' := deliver (observer react depth) snap rest w
        Cancelled c w'.1 ∧
          (received w'.2 c = received w.2 c ∨ received w'.2 c = received w.2 c ++ [snap])) := by
  refine ⟨fun r c hnd => ⟨unsubscribe_subscribers hnd, unsubscribe_unsubscribe hnd,
    fun hlt => cancelled_unsubscribe hlt hnd⟩, fun c w acts hc => ?_,
    fun c w snap rest hnd hc => deliver_cancelled react depth snap hnd hc⟩
  exact foldl_perform_spares (observer_spares react depth c) (fun a _ => a) acts hc

/-- The first subscriber's callback cancels the second subscription. -/
def cancelSecond : Reaction := fun sub _ _ => if sub = 0 then [fun _ => .cancel 1] else []

/-- Two subscriptions, then every session removed. The removal's snapshot goes to the first
subscriber, whose callback cancels the second subscription; the delivery then goes on to the
second subscriber and hands it the snapshot all the same. -/
theorem cancelled_during_delivery_still_called :
    let w₀ := performAll (observer cancelSecond 1) [.subscribe, .subscribe] ({}, [])
    let r₁ := (Action.call .removeAll).apply w₀.1
    let w₁ := observer cancelSecond 1 0 r₁.snapshot (r₁, w₀.2)
    Cancelled 1 w₁.1 ∧
      perform (observer cancelSecond 1) (.call .removeAll) w₀ =
        deliver (observer cancelSecond 1) r₁.snapshot [1] w₁ ∧
      received (deliver (observer cancelSecond 1) r₁.snapshot [1] w₁).2 1 =
        received w₁.2 1 ++ [r₁.snapshot] :=
  ⟨⟨by decide, by decide⟩, rfl, rfl⟩

end BrowserSessions.Registry
