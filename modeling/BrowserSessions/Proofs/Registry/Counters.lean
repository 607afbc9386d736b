import BrowserSessions.Proofs.Metrics.Series
import BrowserSessions.Proofs.Registry.Delivery
import BrowserSessions.Proofs.Search.Default

/-!
# Counters that watch the registry

The registry records what each change did as events, and the service counts them into its
metrics: a session made counts for its source, sessions removed count by their number, every
publication sets the gauge of open sessions and counts a snapshot, and every intent counts for its
action and outcome. `Registry.metrics` is what metrics attached from the start read after all the
events so far; counting the events of each call as it ends, as the service does, reads the same
(`metrics_eq_of_events`).

First what one event and then many do to the counters (`countOf_recordEvents_created` and the
rest), read back as counts over the registry's events (`countOf_metrics_created` and the rest).
Then what each call records (`Counted`): the events it puts in front count the sessions it made
under their source and, as removed, the sessions that left the list, and the last publication
among them shows the list it leaves. Over every run from an empty registry the events therefore
add up to what the registry holds (`Tally`, `Reachable.tally`), and the counters agree with it
(`counters_agree_with_registry`): the gauge of open sessions shows the number of sessions, the
sessions made less those removed is that number, each source counts the sessions made from it,
and the snapshots counted are the version. Handling an intent, with a catalog that has engines as
the service's always has, returns and counts exactly one action and outcome, the outcome `created`
exactly when it opened a session.
-/
namespace BrowserSessions

namespace Registry

/-- Whether an event records a session made. -/
def RegistryEvent.isCreated : RegistryEvent → Bool
  | .created _ => true
  | _ => false

/-- How many sessions an event records as removed. -/
def RegistryEvent.removedCount : RegistryEvent → Nat
  | .removed n => n
  | _ => 0

/-- The number of sessions a publication showed. -/
def RegistryEvent.shown? : RegistryEvent → Option Nat
  | .published n => some n
  | _ => none

end Registry

namespace Metrics

open Registry (RegistryEvent.isCreated RegistryEvent.removedCount RegistryEvent.shown?
  RegistryEvent.isPublished)

/-! ## Counting what the registry recorded -/

section Events

variable (m : Metrics)

theorem Keyed.recordEvent {m : Metrics} (hk : m.Keyed) (e : RegistryEvent) : (m.recordEvent e).Keyed := by
  cases e with
  | created source => exact hk.add _ _ _
  | removed n => exact hk.add _ _ _
  | published active => exact (hk.set _ _).add _ _ _
  | intent action outcome => exact hk.add _ _ _

theorem countOf_recordEvent_created (e : RegistryEvent) (source : String) :
    (m.recordEvent e).countOf "browser_sessions_created_total" [("source", source)] =
      m.countOf "browser_sessions_created_total" [("source", source)] +
        if e = .created source then 1 else 0 := by
  cases e with
  | created s =>
    simp [recordEvent, inc, countOf_add, SameSeries, eq_comm]
  | removed n => simp [recordEvent, countOf_add]
  | published active => simp [recordEvent, inc, countOf_add, countOf_set]
  | intent action outcome => simp [recordEvent, inc, countOf_add]

theorem countOf_recordEvent_removed (e : RegistryEvent) :
    (m.recordEvent e).countOf "browser_sessions_removed_total" [] =
      m.countOf "browser_sessions_removed_total" [] + RegistryEvent.removedCount e := by
  cases e with
  | created s => simp [recordEvent, inc, countOf_add, RegistryEvent.removedCount]
  | removed n => simp [recordEvent, countOf_add, RegistryEvent.removedCount]
  | published active =>
    simp [recordEvent, inc, countOf_add, countOf_set, RegistryEvent.removedCount]
  | intent action outcome => simp [recordEvent, inc, countOf_add, RegistryEvent.removedCount]

theorem countOf_recordEvent_snapshots (e : RegistryEvent) :
    (m.recordEvent e).countOf "browser_session_snapshots_total" [] =
      m.countOf "browser_session_snapshots_total" [] + if RegistryEvent.isPublished e then 1 else 0 := by
  cases e with
  | created s => simp [recordEvent, inc, countOf_add, RegistryEvent.isPublished]
  | removed n => simp [recordEvent, countOf_add, RegistryEvent.isPublished]
  | published active =>
    simp [recordEvent, inc, countOf_add, countOf_set, RegistryEvent.isPublished]
  | intent action outcome => simp [recordEvent, inc, countOf_add, RegistryEvent.isPublished]

theorem countOf_recordEvent_intents (e : RegistryEvent) (action outcome : String) :
    (m.recordEvent e).countOf "browser_intents_total" [("action", action), ("outcome", outcome)] =
      m.countOf "browser_intents_total" [("action", action), ("outcome", outcome)] +
        if e = .intent action outcome then 1 else 0 := by
  cases e with
  | created s => simp [recordEvent, inc, countOf_add]
  | removed n => simp [recordEvent, countOf_add]
  | published active => simp [recordEvent, inc, countOf_add, countOf_set]
  | intent a o =>
    simp [recordEvent, inc, countOf_add, SameSeries, sortLabels_intent, eq_comm]

theorem total_recordEvent_created {m : Metrics} (hk : m.Keyed) (e : RegistryEvent) :
    (m.recordEvent e).total "browser_sessions_created_total" =
      m.total "browser_sessions_created_total" + if RegistryEvent.isCreated e then 1 else 0 := by
  cases e with
  | created s => simp [recordEvent, inc, total_add _ _ _ hk, RegistryEvent.isCreated]
  | removed n => simp [recordEvent, total_add _ _ _ hk, RegistryEvent.isCreated]
  | published active =>
    simp [recordEvent, inc, total_add _ _ _ (hk.set _ _), total_set, RegistryEvent.isCreated]
  | intent action outcome => simp [recordEvent, inc, total_add _ _ _ hk, RegistryEvent.isCreated]

theorem valueOf?_recordEvent_active (e : RegistryEvent) :
    (m.recordEvent e).valueOf? "browser_sessions_active" [] =
      ((RegistryEvent.shown? e).map Float.ofNat).or (m.valueOf? "browser_sessions_active" []) := by
  cases e with
  | created s => simp [recordEvent, inc, valueOf?_add_of_ne, RegistryEvent.shown?]
  | removed n => simp [recordEvent, valueOf?_add_of_ne, RegistryEvent.shown?]
  | published active =>
    simp [recordEvent, inc, valueOf?_add_of_ne, valueOf?_set, RegistryEvent.shown?]
  | intent action outcome => simp [recordEvent, inc, valueOf?_add_of_ne, RegistryEvent.shown?]

theorem activeSessions_recordEvent (e : RegistryEvent) :
    (m.recordEvent e).activeSessions =
      ((RegistryEvent.shown? e).map (fun n : Nat => (n : Int))).getD m.activeSessions := by
  cases e <;> simp [recordEvent, inc, add, set, RegistryEvent.shown?]

end Events

/-! ## Counting many events -/

section Runs

variable (m : Metrics)

theorem recordEvents_cons (e : RegistryEvent) (l : List RegistryEvent) :
    m.recordEvents (e :: l) = (m.recordEvent e).recordEvents l := rfl

theorem Keyed.recordEvents {m : Metrics} (hk : m.Keyed) (l : List RegistryEvent) :
    (m.recordEvents l).Keyed := by
  induction l generalizing m with
  | nil => exact hk
  | cons e l ih => exact ih (hk.recordEvent e)

theorem countOf_recordEvents_created (l : List RegistryEvent) (source : String) :
    (m.recordEvents l).countOf "browser_sessions_created_total" [("source", source)] =
      m.countOf "browser_sessions_created_total" [("source", source)] + l.count (.created source) := by
  induction l generalizing m with
  | nil => rfl
  | cons e l ih =>
    rw [recordEvents_cons, ih, countOf_recordEvent_created, List.count_cons]
    simp only [beq_iff_eq]
    omega

theorem countOf_recordEvents_removed (l : List RegistryEvent) :
    (m.recordEvents l).countOf "browser_sessions_removed_total" [] =
      m.countOf "browser_sessions_removed_total" [] + (l.map RegistryEvent.removedCount).sum := by
  induction l generalizing m with
  | nil => rfl
  | cons e l ih =>
    rw [recordEvents_cons, ih, countOf_recordEvent_removed, List.map_cons, List.sum_cons]
    omega

theorem countOf_recordEvents_snapshots (l : List RegistryEvent) :
    (m.recordEvents l).countOf "browser_session_snapshots_total" [] =
      m.countOf "browser_session_snapshots_total" [] + l.countP RegistryEvent.isPublished := by
  induction l generalizing m with
  | nil => rfl
  | cons e l ih =>
    rw [recordEvents_cons, ih, countOf_recordEvent_snapshots, List.countP_cons]
    omega

theorem countOf_recordEvents_intents (l : List RegistryEvent) (action outcome : String) :
    (m.recordEvents l).countOf "browser_intents_total" [("action", action), ("outcome", outcome)] =
      m.countOf "browser_intents_total" [("action", action), ("outcome", outcome)] +
        l.count (.intent action outcome) := by
  induction l generalizing m with
  | nil => rfl
  | cons e l ih =>
    rw [recordEvents_cons, ih, countOf_recordEvent_intents, List.count_cons]
    simp only [beq_iff_eq]
    omega

theorem total_recordEvents_created {m : Metrics} (hk : m.Keyed) (l : List RegistryEvent) :
    (m.recordEvents l).total "browser_sessions_created_total" =
      m.total "browser_sessions_created_total" + l.countP RegistryEvent.isCreated := by
  induction l generalizing m with
  | nil => rfl
  | cons e l ih =>
    rw [recordEvents_cons, ih (hk.recordEvent e), total_recordEvent_created hk, List.countP_cons]
    omega

/-- The gauge of open sessions shows the last publication among the events, when there is one. -/
theorem valueOf?_recordEvents_active (l : List RegistryEvent) :
    (m.recordEvents l).valueOf? "browser_sessions_active" [] =
      ((l.reverse.findSome? RegistryEvent.shown?).map Float.ofNat).or
        (m.valueOf? "browser_sessions_active" []) := by
  induction l generalizing m with
  | nil => simp [recordEvents]
  | cons e l ih =>
    rw [recordEvents_cons, ih, valueOf?_recordEvent_active, List.reverse_cons, List.findSome?_append]
    cases l.reverse.findSome? RegistryEvent.shown? <;> simp

theorem activeSessions_recordEvents (l : List RegistryEvent) :
    (m.recordEvents l).activeSessions =
      ((l.reverse.findSome? RegistryEvent.shown?).map (fun n : Nat => (n : Int))).getD
        m.activeSessions := by
  induction l generalizing m with
  | nil => simp [recordEvents]
  | cons e l ih =>
    rw [recordEvents_cons, ih, activeSessions_recordEvent, List.reverse_cons, List.findSome?_append]
    cases l.reverse.findSome? RegistryEvent.shown? <;> simp

end Runs

end Metrics

namespace Registry

open Metrics

/-! ## Metrics attached from the start -/

/-- The metrics of a registry that had them attached from its creation: fresh metrics that
counted every event the registry recorded, oldest first. -/
def metrics (r : Registry) : Metrics := Metrics.fresh.recordEvents r.events.reverse

/-- Counting the events a change put in front of the registry's, as the service does when the
change ends, gives the metrics of the registry after it. -/
theorem metrics_eq_of_events {r r' : Registry} {new : List RegistryEvent}
    (h : r'.events = new ++ r.events) : r'.metrics = r.metrics.recordEvents new.reverse := by
  simp only [metrics, h, List.reverse_append, recordEvents, List.foldl_append]

section Readings

variable (r : Registry)

theorem countOf_metrics_created (source : String) :
    r.metrics.countOf "browser_sessions_created_total" [("source", source)] =
      r.events.count (.created source) := by
  simp [metrics, countOf_recordEvents_created]

theorem countOf_metrics_removed :
    r.metrics.countOf "browser_sessions_removed_total" [] =
      (r.events.map RegistryEvent.removedCount).sum := by
  simp [metrics, countOf_recordEvents_removed, List.map_reverse, List.sum_reverse]

theorem countOf_metrics_snapshots :
    r.metrics.countOf "browser_session_snapshots_total" [] = r.publishes := by
  simp [metrics, countOf_recordEvents_snapshots, publishes]

theorem countOf_metrics_intents (action outcome : String) :
    r.metrics.countOf "browser_intents_total" [("action", action), ("outcome", outcome)] =
      r.events.count (.intent action outcome) := by
  simp [metrics, countOf_recordEvents_intents]

theorem total_metrics_created :
    r.metrics.total "browser_sessions_created_total" = r.events.countP RegistryEvent.isCreated := by
  simp [metrics, total_recordEvents_created keyed_fresh]

/-- The gauge of open sessions shows the last publication, zero before the first. -/
theorem valueOf?_metrics_active :
    r.metrics.valueOf? "browser_sessions_active" [] =
      some (Float.ofNat ((r.events.findSome? RegistryEvent.shown?).getD 0)) := by
  rw [metrics, valueOf?_recordEvents_active, List.reverse_reverse, valueOf?_fresh_active]
  cases r.events.findSome? RegistryEvent.shown? <;> rfl

theorem activeSessions_metrics :
    r.metrics.activeSessions = ((r.events.findSome? RegistryEvent.shown?).getD 0 : Nat) := by
  rw [metrics, activeSessions_recordEvents, List.reverse_reverse]
  cases r.events.findSome? RegistryEvent.shown? <;> rfl

end Readings


/-! ## What one call records -/

/-- What a change from `r` to `r'` that made `made` recorded in front of the registry's events:
the events `new`, which count each session made under its source, count as removed every session
that left the list, and, whenever the list changed, publish last the list as it is left. -/
structure Counted (new : List RegistryEvent) (r : Registry) (made : Option Session) (r' : Registry) :
    Prop where
  events_eq : r'.events = new ++ r.events
  created_eq : ∀ source, new.count (.created source) = made.toList.countP (·.source = source)
  balance : new.countP RegistryEvent.isCreated + r.length =
    (new.map RegistryEvent.removedCount).sum + r'.length
  shown_eq : (new.findSome? RegistryEvent.shown?).getD r.length = r'.length

theorem counted_refl (r : Registry) : Counted [] r none r :=
  ⟨rfl, fun _ => rfl, rfl, rfl⟩

/-- A change counts only through its events, the list and the sessions it made. -/
theorem Counted.congr {new : List RegistryEvent} {r₀ r r' : Registry} {made : Option Session}
    (h : Counted new r₀ made r') (he : r₀.events = r.events) (hs : r₀.sessions = r.sessions) :
    Counted new r made r' where
  events_eq := he ▸ h.events_eq
  created_eq := h.created_eq
  balance := by simpa [length, hs] using h.balance
  shown_eq := by simpa [length, hs] using h.shown_eq

/-- A change that records `pre` on the registry and then publishes `next` counts what it did when
`pre` counts the sessions it made and those that left the list. -/
theorem counted_publish {r r₁ : Registry} {pre : List RegistryEvent} {made : Option Session}
    (next : List Session) (he : r₁.events = pre ++ r.events)
    (hc : ∀ source, pre.count (.created source) = made.toList.countP (·.source = source))
    (hb : pre.countP RegistryEvent.isCreated + r.length =
      (pre.map RegistryEvent.removedCount).sum + next.length) :
    Counted (.published next.length :: pre) r made (r₁.publish next) where
  events_eq := by simp [publish, he]
  created_eq source := by simp [hc]
  balance := by simpa [RegistryEvent.isCreated, RegistryEvent.removedCount, length] using hb
  shown_eq := by simp [List.findSome?_cons, RegistryEvent.shown?, length]

theorem Counted.recordIntent {new : List RegistryEvent} {r r' : Registry} {made : Option Session}
    (h : Counted new r made r') (action outcome : String) :
    Counted (.intent action outcome :: new) r made (r'.recordIntent action outcome) where
  events_eq := by simp [Registry.recordIntent, h.events_eq]
  created_eq source := by simp [h.created_eq]
  balance := by simpa [RegistryEvent.isCreated, RegistryEvent.removedCount, length] using h.balance
  shown_eq := by simpa [List.findSome?_cons, RegistryEvent.shown?, length] using h.shown_eq

theorem events_recordRemoved (r : Registry) (n : Nat) :
    (r.recordRemoved n).events = (if n = 0 then [] else [.removed n]) ++ r.events := by
  unfold recordRemoved
  split <;> simp_all

section Operations

variable {r r' : Registry}

/-- Adding a session counts it under its source and publishes the longer list; the registry it is
added to may differ from `r` in what no count reads. -/
theorem counted_add (s : Session) {r₀ : Registry} (he : r₀.events = r.events)
    (hs : r₀.sessions = r.sessions) :
    Counted [.published (r.length + 1), .created s.source] r (some s) (r₀.add s).2 := by
  have h : Counted [.published (r₀.sessions ++ [s]).length, .created s.source] r₀ (some s)
      (r₀.add s).2 :=
    counted_publish _ rfl (fun source => by by_cases hs : s.source = source <;> simp [hs])
      (by simp [RegistryEvent.isCreated, RegistryEvent.removedCount, length]; omega)
  simpa [length, hs] using h.congr he hs

theorem counted_create (r : Registry) (now : Nat) (source url : String) :
    Counted [.published (r.length + 1), .created source] r (some (r.create now source url).1)
      (r.create now source url).2 :=
  counted_add (r.create now source url).1 (by rfl) (by rfl)

theorem counted_createSearch (r : Registry) (now : Nat) (source url terms : String) :
    Counted [.published (r.length + 1), .created source] r
      (some (r.createSearch now source url terms).1) (r.createSearch now source url terms).2 :=
  counted_add (r.createSearch now source url terms).1 (by rfl) (by rfl)

theorem counted_select {id : String} (h : r.select id = .ok r') :
    Counted [.published r.length] r none r' := by
  obtain ⟨-, -, rfl⟩ := select_eq_ok h
  exact counted_publish _ rfl (fun _ => rfl) rfl

theorem counted_remove (r : Registry) (id : String) : ∃ new, Counted new r none (r.remove id) := by
  cases hpos : r.indexOf? id with
  | none =>
    rw [remove_of_indexOf?_none hpos]
    exact ⟨[], counted_refl r⟩
  | some pos =>
    rw [remove_of_indexOf?_some hpos]
    -- the session found is removed and counted as one removal
    obtain ⟨-, hlt, -⟩ := indexOf?_eq_some_iff.mp hpos
    refine ⟨_, counted_publish _ (events_recordRemoved _ 1) (fun _ => by simp) ?_⟩
    simp [RegistryEvent.isCreated, RegistryEvent.removedCount, length, List.length_eraseIdx_of_lt hlt]
    omega

theorem counted_removeCurrent (r : Registry) : ∃ new, Counted new r none r.removeCurrent := by
  rw [removeCurrent_eq_remove]
  exact counted_remove r _

theorem counted_removeAll (r : Registry) : ∃ new, Counted new r none r.removeAll := by
  refine ⟨_, counted_publish _ (events_recordRemoved _ r.sessions.length) (fun _ => ?_) ?_⟩
  · split <;> simp
  · -- every listed session is counted as removed, in one event when there were any
    split <;> simp_all [RegistryEvent.isCreated, RegistryEvent.removedCount, length]

theorem counted_updateUrl {id url : String} {s : Session} (h : r.updateUrl id url = .ok (s, r')) :
    ∃ new, Counted new r none r' := by
  obtain ⟨pos, s₀, -, -, ⟨-, -, rfl⟩ | ⟨-, -, rfl⟩⟩ := updateUrl_eq_ok h
  · exact ⟨[], counted_refl _⟩
  · exact ⟨_, counted_publish _ (List.nil_append _).symm (fun _ => rfl) (by simp [length])⟩

theorem counted_openView {services : LaunchServices} {now : Nat} {i : Intent} {s : Session}
    (h : r.openView services now i = some (s, r')) :
    Counted [.published (r.length + 1), .created s.source] r (some s) r' := by
  obtain ⟨-, -, ids, rfl⟩ := openView_eq_some h
  exact counted_add s rfl rfl

theorem counted_openShare {services : LaunchServices} {now : Nat} {i : Intent} {s : Session}
    (h : r.openShare services now i = .ok (some (s, r'))) :
    Counted [.published (r.length + 1), .created s.source] r (some s) r' := by
  obtain ⟨-, ⟨-, rfl, rfl⟩ | ⟨-, m, url, -, -, rfl, rfl⟩⟩ := openShare_eq_some h
  · exact counted_create r now _ _
  · exact counted_createSearch r now _ _ _

theorem counted_openIntent {services : LaunchServices} {now : Nat} {i : Intent}
    {made : Option Session} (h : r.openIntent services now i = .ok (made, r')) :
    ∃ new, Counted new r made r' := by
  obtain ⟨r₁, outcome, rfl, ⟨rfl, rfl⟩ | ⟨s, rfl, hv | hs⟩⟩ := openIntent_cases h
  · exact ⟨_, (counted_refl _).recordIntent _ _⟩
  · exact ⟨_, (counted_openView hv).recordIntent _ _⟩
  · exact ⟨_, (counted_openShare hs).recordIntent _ _⟩

/-- Every call that returns records what it did to the list. -/
theorem Call.counted {c : Call} {made : Option Session} (h : c.run r = .ok (made, r')) :
    ∃ new, Counted new r made r' := by
  cases c with
  | create now source url =>
    cases h
    exact ⟨_, counted_create r now source url⟩
  | createSearch now source url terms =>
    cases h
    exact ⟨_, counted_createSearch r now source url terms⟩
  | launch services now i restoring =>
    rcases launch_cases h with ⟨outcome, -, rfl, rfl⟩ | h
    · exact ⟨_, (counted_refl r).recordIntent _ _⟩
    · exact counted_openIntent h
  | openIntent services now i => exact counted_openIntent h
  | select id =>
    simp only [Call.run] at h
    split at h
    · rename_i r₁ hsel
      cases h
      exact ⟨_, counted_select hsel⟩
    · cases h
      exact ⟨[], counted_refl r⟩
  | remove id =>
    cases h
    exact counted_remove r id
  | removeCurrent =>
    cases h
    exact counted_removeCurrent r
  | removeAll =>
    cases h
    exact counted_removeAll r
  | updateUrl id url =>
    simp only [Call.run] at h
    split at h
    · rename_i s r₁ hup
      cases h
      exact counted_updateUrl hup
    · cases h
      exact ⟨[], counted_refl r⟩

/-- Subscribing and cancelling record nothing. -/
theorem Action.counted {a : Action} {made : Option Session} (h : a.run r = .ok (made, r')) :
    ∃ new, Counted new r made r' := by
  cases a with
  | call c => exact Call.counted h
  | subscribe =>
    cases h
    exact ⟨[], (counted_refl _).congr rfl rfl⟩
  | cancel sub =>
    cases h
    exact ⟨[], (counted_refl _).congr rfl rfl⟩

end Operations


/-! ## Every run -/

/-- What the events of a registry reached with history `h` add up to: each session made is
counted under its source, the sessions made less those removed are the ones listed, there is one
publication per version, and the last publication showed the list as it is. -/
structure Tally (r : Registry) (h : List Entry) : Prop where
  created_eq : ∀ source, r.events.count (.created source) = h.countP (·.made.source = source)
  balance : r.events.countP RegistryEvent.isCreated =
    (r.events.map RegistryEvent.removedCount).sum + r.length
  published_eq : r.publishes = r.version
  shown_eq : (r.events.findSome? RegistryEvent.shown?).getD 0 = r.length

theorem tally_empty : Tally {} [] := ⟨fun _ => rfl, rfl, rfl, rfl⟩

/-- History entries keep the session they were made as, so an action adds to a source exactly the
sessions it made from it. -/
theorem countP_record_source (h : List Entry) (r r' : Registry) (a : Action) (made : Option Session)
    (source : String) :
    (record h r a made r').countP (·.made.source = source) =
      h.countP (·.made.source = source) + made.toList.countP (·.source = source) := by
  simp only [record, List.countP_append, List.countP_map, Function.comp_def, Entry.made_update]
  rfl

theorem Tally.step {r r' : Registry} {h : List Entry} {new : List RegistryEvent}
    {made : Option Session} {a : Action} (ht : Tally r h) (hc : Counted new r made r')
    (hrun : a.run r = .ok (made, r')) : Tally r' (record h r a made r') where
  created_eq source := by
    rw [hc.events_eq, List.count_append, hc.created_eq, ht.created_eq, countP_record_source]
    omega
  balance := by
    have hnew := hc.balance
    have hold := ht.balance
    rw [hc.events_eq, List.countP_append, List.map_append, List.sum_append]
    omega
  published_eq := by
    -- the version goes up with each publication the action records
    have hv := Action.apply_version_add a r
    rw [Action.apply_of_run hrun] at hv
    have hold := ht.published_eq
    omega
  shown_eq := by
    rw [hc.events_eq, List.findSome?_append]
    have hnew := hc.shown_eq
    cases hn : new.findSome? RegistryEvent.shown? with
    | none => simpa [hn, ht.shown_eq] using hnew
    | some n => simpa [hn] using hnew

/-- The events of every registry reached from an empty one add up to what it holds. -/
theorem Reachable.tally {r : Registry} {h : List Entry} (hr : Reachable r h) : Tally r h := by
  induction hr with
  | empty => exact tally_empty
  | step a _ hrun _ ih =>
    obtain ⟨new, hc⟩ := Action.counted hrun
    exact ih.step hc hrun

/-- Counted in a 64-bit unsigned word, one more per publication, the version wraps to zero after
`2 ^ 64 - 1` publications. In every registry reached from an empty one the version is the number
of publications, so the word reads it exactly while fewer than `2 ^ 64` snapshots have been
published; the version as a natural number assumes no more. -/
theorem Reachable.toUInt64_publishes_toNat {r : Registry} {h : List Entry} (hr : Reachable r h) :
    r.publishes.toUInt64.toNat = r.version ↔ r.version < Nat.pow 2 64 := by
  rw [hr.tally.published_eq, Nat.toUInt64_eq, UInt64.toNat_ofNat', Nat.mod_eq_iff_lt (by decide)]

/-! ## Intents -/

/-- A call that handles the intent `i` on `r` returns, and the metrics count it once: under the
intent's action and an outcome that is `created` exactly when a session was opened. -/
def CountsIntent (r : Registry) (i : Intent)
    (result : Except SearchPanic (Option Session × Registry)) : Prop :=
  ∃ made r' outcome, result = .ok (made, r') ∧ (outcome = "created" ↔ made.isSome) ∧
    ∀ a o, r'.metrics.countOf "browser_intents_total" [("action", a), ("outcome", o)] =
      r.metrics.countOf "browser_intents_total" [("action", a), ("outcome", o)] +
        if a = i.action ∧ o = outcome then 1 else 0

section Intents

variable {r r' : Registry} {services : LaunchServices} {now : Nat} {i : Intent}
  {made : Option Session}

theorem count_intent_recordIntent (r : Registry) (action outcome a o : String) :
    (r.recordIntent action outcome).events.count (.intent a o) =
      r.events.count (.intent a o) + if a = action ∧ o = outcome then 1 else 0 := by
  by_cases h : a = action ∧ o = outcome
  · obtain ⟨rfl, rfl⟩ := h
    simp [Registry.recordIntent]
  · simp only [Registry.recordIntent, List.count_cons, if_neg h, beq_iff_eq,
      RegistryEvent.intent.injEq]
    rw [if_neg fun h' => h ⟨h'.1.symm, h'.2.symm⟩]

/-- Handling an intent records one outcome and no other intent: the sessions it opens record only
their making and publication. -/
theorem intents_openIntent (h : r.openIntent services now i = .ok (made, r')) :
    ∃ outcome, (outcome = "created" ↔ made.isSome) ∧ ∀ a o,
      r'.events.count (.intent a o) =
        r.events.count (.intent a o) + if a = i.action ∧ o = outcome then 1 else 0 := by
  obtain ⟨r₁, outcome, rfl, hout, ⟨-, rfl⟩ | ⟨s, -, hv | hs⟩⟩ := openIntent_recorded h
  · exact ⟨outcome, hout, count_intent_recordIntent _ _ _⟩
  · refine ⟨outcome, hout, fun a o => ?_⟩
    simp [count_intent_recordIntent, (counted_openView hv).events_eq]
  · refine ⟨outcome, hout, fun a o => ?_⟩
    simp [count_intent_recordIntent, (counted_openShare hs).events_eq]

theorem intents_launch {restoring : Bool} (h : r.launch services now i restoring = .ok (made, r')) :
    ∃ outcome, (outcome = "created" ↔ made.isSome) ∧ ∀ a o,
      r'.events.count (.intent a o) =
        r.events.count (.intent a o) + if a = i.action ∧ o = outcome then 1 else 0 := by
  rcases launch_cases h with ⟨outcome, hout, rfl, rfl⟩ | h
  · exact ⟨outcome, by simp [hout], count_intent_recordIntent _ _ _⟩
  · exact intents_openIntent h

/-- A call that returned, having recorded one outcome for the intent and no other intent, is
counted once. -/
theorem countsIntent_of_events {result : Except SearchPanic (Option Session × Registry)}
    (h : result = .ok (made, r'))
    (hi : ∃ outcome, (outcome = "created" ↔ made.isSome) ∧ ∀ a o,
      r'.events.count (.intent a o) =
        r.events.count (.intent a o) + if a = i.action ∧ o = outcome then 1 else 0) :
    CountsIntent r i result := by
  obtain ⟨outcome, hout, hcount⟩ := hi
  refine ⟨made, r', outcome, h, hout, fun a o => ?_⟩
  rw [countOf_metrics_intents, countOf_metrics_intents, hcount]

/-- Engines over a catalog with an engine never panic: the catalog has a default engine to
search with. -/
theorem neverPanics_urlBuilder {m : Search.Manager} (h : m.catalog.engines ≠ []) :
    m.urlBuilder.NeverPanics := by
  intro terms
  obtain ⟨e, he⟩ := Option.isSome_iff_exists.mp (Search.Manager.defaultEngine?_isSome h)
  exact ⟨e.searchUrl terms,
    Search.Manager.urlBuilder_build_eq_ok.mpr (by simp [Search.Manager.createSearchUrl?, he])⟩

variable (hbuild : ∀ b ∈ services.searchUrls, b.NeverPanics)
include hbuild

/-- With a builder that never panics, shared text always opens something or nothing, never a
failure. -/
theorem openShare_ok : ∃ opened, r.openShare services now i = .ok opened := by
  unfold openShare
  dsimp only
  split
  · exact ⟨_, rfl⟩
  · split
    · exact ⟨_, rfl⟩
    · cases hb : services.searchUrls with
      | none => exact ⟨_, rfl⟩
      | some b =>
        obtain ⟨url, hurl⟩ := hbuild b hb (i.stringExtra Intent.extraText)
        simp only [hurl]
        exact ⟨_, rfl⟩

theorem openIntent_ok : ∃ made r', r.openIntent services now i = .ok (made, r') := by
  obtain ⟨opened, hshare⟩ : ∃ opened, r.openShare services now i = .ok opened := openShare_ok hbuild
  unfold openIntent
  -- whatever the action opened, the outcome is recorded and the call returns
  by_cases hv : (i.action == Intent.actionView) = true
  · rw [if_pos hv]
    rcases r.openView services now i with _ | ⟨s, r₁⟩
    · exact ⟨_, _, rfl⟩
    · exact ⟨_, _, rfl⟩
  · rw [if_neg hv]
    by_cases hs : (i.action == Intent.actionSend) = true
    · rw [if_pos hs, hshare]
      rcases opened with _ | ⟨s, r₁⟩
      · exact ⟨_, _, rfl⟩
      · exact ⟨_, _, rfl⟩
    · rw [if_neg hs]
      exact ⟨_, _, rfl⟩

theorem launch_ok (restoring : Bool) :
    ∃ made r', r.launch services now i restoring = .ok (made, r') := by
  unfold launch
  split
  · exact ⟨_, _, rfl⟩
  · split
    · exact ⟨_, _, rfl⟩
    · exact openIntent_ok hbuild

theorem countsIntent_openIntent : CountsIntent r i (r.openIntent services now i) := by
  obtain ⟨made, r', h⟩ : ∃ made r', r.openIntent services now i = .ok (made, r') :=
    openIntent_ok hbuild
  exact countsIntent_of_events h (intents_openIntent h)

theorem countsIntent_launch (restoring : Bool) :
    CountsIntent r i (r.launch services now i restoring) := by
  obtain ⟨made, r', h⟩ : ∃ made r', r.launch services now i restoring = .ok (made, r') :=
    launch_ok hbuild restoring
  exact countsIntent_of_events h (intents_launch h)

end Intents

/-! ## The counters agree with the registry -/

/-- What metrics attached to a registry from the start read, for a registry `r` reached with
history `h`. -/
structure MetricsAgree (r : Registry) (h : List Entry) : Prop where
  /-- The gauge of open sessions shows the number of sessions. -/
  active_eq : r.metrics.valueOf? "browser_sessions_active" [] = some (Float.ofNat r.length)
  /-- So does the health report. -/
  health_eq : r.metrics.activeSessions = r.length
  /-- The sessions made, over all sources, less those removed are the sessions listed. -/
  made_eq_removed_add : r.metrics.total "browser_sessions_created_total" =
    r.metrics.countOf "browser_sessions_removed_total" [] + r.length
  /-- Each source counts the sessions ever made from it. -/
  source_eq : ∀ source, r.metrics.countOf "browser_sessions_created_total" [("source", source)] =
    h.countP (·.made.source = source)
  /-- The snapshots counted are the version. -/
  snapshots_eq : r.metrics.countOf "browser_session_snapshots_total" [] = r.version
  /-- With a search URL builder that never panics, handling an intent returns and is counted
  once. -/
  intents_counted : ∀ services now i, (∀ b ∈ services.searchUrls, b.NeverPanics) →
    (∀ restoring, CountsIntent r i (r.launch services now i restoring)) ∧
      CountsIntent r i (r.openIntent services now i)

/-- Over every run of calls from an empty registry, metrics attached from the start agree with
the registry: the counters read what the events add up to (`Reachable.tally`). -/
theorem counters_agree_with_registry {r : Registry} {h : List Entry} (hr : Reachable r h) :
    MetricsAgree r h := by
  have ht := hr.tally
  refine ⟨?_, ?_, ?_, fun source => ?_, ?_, fun services now i hbuild => ⟨?_, ?_⟩⟩
  · rw [valueOf?_metrics_active, ht.shown_eq]
  · rw [activeSessions_metrics, ht.shown_eq]
  · rw [total_metrics_created, countOf_metrics_removed, ht.balance]
  · rw [countOf_metrics_created, ht.created_eq]
  · rw [countOf_metrics_snapshots, ht.published_eq]
  · exact fun restoring => countsIntent_launch hbuild restoring
  · exact countsIntent_openIntent hbuild

theorem metrics_agree_after_removing_first :
    let a := ({} : Registry).create 0 "menu" "https://example.org"
    let b := a.2.create 0 "share" "https://example.net"
    let r := b.2.remove a.1.id
    let h := record (record (record [] {} (.call (.create 0 "menu" "https://example.org"))
      (some a.1) a.2) a.2 (.call (.create 0 "share" "https://example.net")) (some b.1) b.2)
      b.2 (.call (.remove a.1.id)) none r
    Reachable r h ∧ MetricsAgree r h := by
  intro a b r h
  have ha : Reachable a.2 _ :=
    .step (.call (.create 0 "menu" "https://example.org")) .empty rfl (by simp [issued])
  have hb : Reachable b.2 _ :=
    .step (.call (.create 0 "share" "https://example.net")) ha rfl (by simp [issued]; decide)
  have hr : Reachable r h := .step (.call (.remove a.1.id)) hb rfl (by simp)
  exact ⟨hr, counters_agree_with_registry hr⟩

end Registry

end BrowserSessions
