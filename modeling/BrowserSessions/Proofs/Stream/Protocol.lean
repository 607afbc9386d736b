import Mathlib.Logic.Relation
import Mathlib.Logic.Function.Basic
import Mathlib.Data.List.Nodup
import BrowserSessions.Stream
import BrowserSessions.Proofs.Registry.Delivery

/-!
# The stream hub as a protocol

The hub fans snapshots out to its clients through one bounded queue per client, with room for the
buffer size the hub was made with, and at least one frame. Three kinds of goroutine touch a queue.
The session loop hands the hub every snapshot a registry change published; a client's handler
registers it, and its reader answers each of its messages with a control frame; its writer
receives frames, oldest first, and sends them. A frame enters a queue only under the hub's lock,
by an enqueue of three selects: a send if there is room, else a receive that drops the oldest
frame, then a last send that gives the frame up if the queue is still full. The writer's receive
is the only move on a queue made without the lock.

`Machine` is the state they share and `Step` the atomic moves: a registry change on the loop, the
hub taking the lock to publish, to register a client or to answer one, the lock holder going on to
a client, in any order, or running one select, the lock released, and a writer's receive. So
`Reachable` covers every interleaving of them, from a hub just started on a registry. A client
record keeps, for the proofs only, the frames its writer received, the version of the hub's latest
snapshot when it registered, and the frames an enqueue gave up.

What every reachable state satisfies (`Sound`): every client's queue holds at most its room of
frames; the snapshot versions a client was handed and kept, received or still queued, strictly
increase, none older than its first; the last send of an enqueue finds room, so no frame is ever
given up. The main statement, `client_frames_ordered_and_bounded`, reads it for one client.
-/

namespace BrowserSessions.Hub

/-- The room of a client's queue, for the buffer size the hub was made with: at least one frame. -/
def capacityOf (bufferSize : Int) : Nat := if bufferSize < 1 then 1 else bufferSize.toNat

theorem capacityOf_pos (bufferSize : Int) : 0 < capacityOf bufferSize := by
  unfold capacityOf
  split <;> omega

/-! ## Frames, clients and enqueues -/

/-- A frame queued for a client, kept as what it encodes: a snapshot, sent as `snapshotFrame`, or
a control frame. -/
inductive Frame where
  | snapshot (snap : Snapshot)
  | control (json : Json)

/-- The version a frame carries: a snapshot's, and none for a control frame. -/
def Frame.version? : Frame → Option Nat
  | .snapshot snap => some snap.version
  | .control _ => none

/-- The versions of the snapshot frames among some frames, in order. -/
def versions (frames : List Frame) : List Nat := frames.filterMap Frame.version?

@[simp] theorem versions_nil : versions [] = [] := rfl

@[simp] theorem versions_append (a b : List Frame) :
    versions (a ++ b) = versions a ++ versions b :=
  List.filterMap_append

@[simp] theorem versions_snapshot (snap : Snapshot) : versions [.snapshot snap] = [snap.version] :=
  rfl

@[simp] theorem versions_control (json : Json) : versions [.control json] = [] := rfl

theorem versions_sublist {a b : List Frame} (h : a.Sublist b) : (versions a).Sublist (versions b) :=
  h.filterMap _

/-- The three selects of an enqueue, in order. -/
inductive Select where
  /-- Sends the frame, if there is room. -/
  | send
  /-- Receives the oldest frame, if there is one, and drops it. -/
  | drop
  /-- Sends the frame, if there is room, or gives it up. -/
  | final
  deriving DecidableEq

/-- A client of the hub: whether the hub lists it, and its queue, oldest first. The frames its
writer received, the version of the hub's latest snapshot when it registered, and the frames an
enqueue gave up are kept for the proofs only. -/
structure Client where
  listed : Bool := false
  queue : List Frame := []
  taken : List Frame := []
  joined : Nat := 0
  lost : List Frame := []

namespace Client

/-- The frames the client was handed and kept: those its writer received, then those queued. -/
def seen (c : Client) : List Frame := c.taken ++ c.queue

/-- Runs one select of an enqueue of a frame, on a queue with room for `cap` frames: the client
after it, and the select that follows, if any. -/
def select (cap : Nat) (f : Frame) (c : Client) : Select → Client × Option Select
  | .send =>
    if c.queue.length < cap then ({ c with queue := c.queue ++ [f] }, none) else (c, some .drop)
  | .drop => ({ c with queue := c.queue.tail }, some .final)
  | .final =>
    if c.queue.length < cap then ({ c with queue := c.queue ++ [f] }, none)
    else ({ c with lost := c.lost ++ [f] }, none)

/-- The writer receives the oldest frame, if there is one. -/
def receive (c : Client) : Client :=
  match c.queue with
  | [] => c
  | f :: rest => { c with queue := rest, taken := c.taken ++ [f] }

/-- A select sends the frame into a queue with room, goes on to drop when a first send finds the
queue full, drops the oldest frame, or gives the frame up when the last send finds it full. -/
theorem select_cases (cap : Nat) (f : Frame) (c : Client) (s : Select) :
    (c.select cap f s = ({ c with queue := c.queue ++ [f] }, none) ∧ c.queue.length < cap) ∨
    c.select cap f s = (c, some .drop) ∨
    c.select cap f s = ({ c with queue := c.queue.tail }, some .final) ∨
    (c.select cap f s = ({ c with lost := c.lost ++ [f] }, none) ∧ s = .final ∧
      cap ≤ c.queue.length) := by
  cases s with
  | send =>
    by_cases h : c.queue.length < cap
    · exact .inl ⟨by simp [select, h], h⟩
    · exact .inr (.inl (by simp [select, h]))
  | drop => exact .inr (.inr (.inl rfl))
  | final =>
    by_cases h : c.queue.length < cap
    · exact .inl ⟨by simp [select, h], h⟩
    · exact .inr (.inr (.inr ⟨by simp [select, h], rfl, by omega⟩))

theorem seen_receive (c : Client) : c.receive.seen = c.seen := by
  unfold receive
  split <;> simp_all [seen]

theorem length_queue_receive_le (c : Client) : c.receive.queue.length ≤ c.queue.length := by
  unfold receive
  split <;> simp_all

@[simp] theorem joined_receive (c : Client) : c.receive.joined = c.joined := by
  unfold receive
  split <;> rfl

@[simp] theorem lost_receive (c : Client) : c.receive.lost = c.lost := by
  unfold receive
  split <;> rfl

end Client

/-! ## The machine -/

/-- What the session loop is doing for the hub. -/
inductive Publisher where
  /-- Running registry changes, or waiting for one. -/
  | idle
  /-- A change published a snapshot; the hub's callback waits for the lock. -/
  | waiting (snap : Snapshot)
  /-- The callback holds the lock, handing the snapshot to the clients. -/
  | delivering

/-- The loop after the hub's lock is released: a callback that held it returns. -/
def Publisher.released : Publisher → Publisher
  | .delivering => .idle
  | p => p

/-- What the loop does after a registry change: hand the snapshot to the hub if it published. -/
def Publisher.afterChange (before after : Registry) : Publisher :=
  if after.version = before.version then .idle else .waiting after.snapshot

/-- A frame being handed to some clients under the hub's lock. -/
structure Delivery where
  frame : Frame
  /-- The clients still to be handed the frame. -/
  rest : List Nat
  /-- The client whose enqueue is running, and the select it is at. -/
  current : Option (Nat × Select) := none

/-- The clients a delivery has still to hand its frame, the one being handed it first. -/
def Delivery.pending (d : Delivery) : List Nat := (d.current.map Prod.fst).toList ++ d.rest

/-- The state the hub, the session loop and the clients' goroutines share. Clients are numbered in
the order they registered. -/
structure Machine where
  capacity : Nat
  registry : Registry
  /-- The hub's latest snapshot. -/
  latest : Snapshot
  publisher : Publisher := .idle
  clients : Nat → Client := fun _ => {}
  next : Nat := 0
  /-- The delivery holding the hub's lock, if any. -/
  lock : Option Delivery := none

namespace Machine

/-- A hub made with a buffer size and started on a registry: its latest snapshot is the
registry's. -/
def start (bufferSize : Int) (registry : Registry) : Machine :=
  { capacity := capacityOf bufferSize, registry, latest := registry.snapshot }

/-- The clients the hub lists. -/
def listed (p : Machine) : List Nat := (List.range p.next).filter fun id => (p.clients id).listed

/-- The atomic moves. -/
inductive Step : Machine → Machine → Prop where
  /-- The session loop runs an action on the registry; a snapshot it publishes waits for the
  hub's callback. -/
  | change (p : Machine) (a : Registry.Action) (hp : p.publisher = .idle) :
      Step p { p with
        registry := a.apply p.registry
        publisher := .afterChange p.registry (a.apply p.registry) }
  /-- The hub's callback takes the lock: the snapshot becomes the latest, for every listed
  client. -/
  | publish (p : Machine) {snap : Snapshot} (hp : p.publisher = .waiting snap)
      (hl : p.lock = none) :
      Step p { p with
        latest := snap
        publisher := .delivering
        lock := some { frame := .snapshot snap, rest := p.listed } }
  /-- A client registers: under the lock it is listed, and the latest snapshot is for it. -/
  | register (p : Machine) (hl : p.lock = none) :
      Step p { p with
        clients := Function.update p.clients p.next { listed := true, joined := p.latest.version }
        next := p.next + 1
        lock := some { frame := .snapshot p.latest, rest := [p.next] } }
  /-- A client's reader stops, and the hub no longer lists it. -/
  | unregister (p : Machine) (id : Nat) (hl : p.lock = none) :
      Step p { p with
        clients := Function.update p.clients id { p.clients id with listed := false } }
  /-- A message of a listed client is answered with a control frame. -/
  | reply (p : Machine) (id : Nat) (text : String) (seconds : Int) (hl : p.lock = none)
      (hid : (p.clients id).listed = true) :
      Step p { p with lock := some { frame := .control (replyTo text seconds), rest := [id] } }
  /-- The lock holder goes on to a client it has not handed the frame yet, in any order. -/
  | pick (p : Machine) {d : Delivery} {id : Nat} (hl : p.lock = some d) (hc : d.current = none)
      (hid : id ∈ d.rest) :
      Step p { p with lock := some { d with rest := d.rest.erase id, current := some (id, .send) } }
  /-- One select of the enqueue that is running. -/
  | select (p : Machine) {d : Delivery} {id : Nat} {s : Select} (hl : p.lock = some d)
      (hc : d.current = some (id, s)) :
      Step p { p with
        clients := Function.update p.clients id ((p.clients id).select p.capacity d.frame s).1
        lock := some
          { d with current := ((p.clients id).select p.capacity d.frame s).2.map (id, ·) } }
  /-- Every client handed the frame, the lock is released. -/
  | release (p : Machine) {d : Delivery} (hl : p.lock = some d) (hc : d.current = none)
      (hr : d.rest = []) :
      Step p { p with lock := none, publisher := p.publisher.released }
  /-- A client's writer receives the oldest frame of its queue, without the lock. -/
  | receive (p : Machine) (id : Nat) :
      Step p { p with clients := Function.update p.clients id (p.clients id).receive }

/-- The states some interleaving reaches from a hub made with `bufferSize` and started on
`registry`. -/
def Reachable (bufferSize : Int) (registry : Registry) (p : Machine) : Prop :=
  Relation.ReflTransGen Step (start bufferSize registry) p

theorem Step.capacity_eq {p p' : Machine} (h : Step p p') : p'.capacity = p.capacity := by
  cases h <;> rfl

theorem Reachable.capacity_eq {bufferSize : Int} {registry : Registry} {p : Machine}
    (h : Reachable bufferSize registry p) : p.capacity = capacityOf bufferSize := by
  induction h with
  | refl => rfl
  | tail _ step ih => rw [step.capacity_eq, ih]

end Machine

/-! ## What holds of a client -/

/-- What holds of a client, for a queue room of `cap` and the hub's latest version `latest`: the
queue fits, the snapshot versions it was handed and kept strictly increase, from the version it
registered at to the latest one, and no frame was given up. -/
structure ClientOk (cap latest : Nat) (c : Client) : Prop where
  queue_le : c.queue.length ≤ cap
  increasing : (versions c.seen).Pairwise (· < ·)
  joined_le : ∀ v ∈ versions c.seen, c.joined ≤ v
  le_latest : ∀ v ∈ versions c.seen, v ≤ latest
  joined_le_latest : c.joined ≤ latest
  lost_eq : c.lost = []

namespace ClientOk

variable {cap latest : Nat} {c : Client}

/-- A client that kept some of what it had, and no more frames queued, is as it was. -/
theorem of_sublist (hc : ClientOk cap latest c) {c' : Client} (hs : c'.seen.Sublist c.seen)
    (hq : c'.queue.length ≤ c.queue.length) (hj : c'.joined = c.joined) (hl : c'.lost = c.lost) :
    ClientOk cap latest c' := by
  have hv := versions_sublist hs
  exact ⟨by have := hc.queue_le; omega, hc.increasing.sublist hv,
    fun v h => hj ▸ hc.joined_le v (hv.subset h), fun v h => hc.le_latest v (hv.subset h),
    hj ▸ hc.joined_le_latest, hl ▸ hc.lost_eq⟩

theorem of_latest_le (hc : ClientOk cap latest c) {latest' : Nat} (h : latest ≤ latest') :
    ClientOk cap latest' c :=
  ⟨hc.queue_le, hc.increasing, hc.joined_le, fun v hv => Nat.le_trans (hc.le_latest v hv) h,
    Nat.le_trans hc.joined_le_latest h, hc.lost_eq⟩

/-- Queueing a frame into a queue with room keeps a client as it was, when the frame is a control
frame or the latest snapshot, newer than every snapshot the client holds. -/
theorem append (hc : ClientOk cap latest c) {f : Frame} (hroom : c.queue.length < cap)
    (hf : ∀ v ∈ versions [f], v = latest ∧ ∀ w ∈ versions c.seen, w < v) :
    ClientOk cap latest { c with queue := c.queue ++ [f] } := by
  have hseen : Client.seen { c with queue := c.queue ++ [f] } = c.seen ++ [f] := by
    simp [Client.seen]
  refine ⟨by simp; omega, ?_, ?_, ?_, hc.joined_le_latest, hc.lost_eq⟩
  · rw [hseen, versions_append, List.pairwise_append]
    refine ⟨hc.increasing, ?_, fun w hw v hv => (hf v hv).2 w hw⟩
    cases f <;> simp
  · rw [hseen, versions_append]
    intro v hv
    rcases List.mem_append.mp hv with hv | hv
    · exact hc.joined_le v hv
    · exact (hf v hv).1 ▸ hc.joined_le_latest
  · rw [hseen, versions_append]
    intro v hv
    rcases List.mem_append.mp hv with hv | hv
    · exact hc.le_latest v hv
    · exact Nat.le_of_eq (hf v hv).1

end ClientOk

/-- A client that holds no frame yet. -/
theorem clientOk_fresh (cap latest : Nat) (listed : Bool) {joined : Nat} (h : joined ≤ latest) :
    ClientOk cap latest { listed, joined } :=
  ⟨by simp, by simp [Client.seen], by simp [Client.seen], by simp [Client.seen], h, rfl⟩

/-! ## The invariant -/

/-- What a delivery under the lock keeps: it hands each client its frame once; a snapshot it
hands is the latest, newer than every snapshot a client still to be handed it holds; and the last
send of the running enqueue finds room. -/
structure DeliveryOk (p : Machine) (d : Delivery) : Prop where
  rest_nodup : d.rest.Nodup
  current_not_mem : ∀ id s, d.current = some (id, s) → id ∉ d.rest
  latest_eq : ∀ snap, d.frame = .snapshot snap → snap = p.latest
  fresh : ∀ snap, d.frame = .snapshot snap →
    ∀ id ∈ d.pending, ∀ v ∈ versions (p.clients id).seen, v < snap.version
  room : ∀ id, d.current = some (id, .final) → (p.clients id).queue.length < p.capacity

/-- The hub's latest snapshot is the registry's, or, while the loop's callback waits for the lock,
the one before the snapshot it holds, which is the registry's. -/
def Publisher.Tracks (registry : Registry) (latest : Snapshot) : Publisher → Prop
  | .idle => latest.version = registry.version
  | .waiting snap => snap.version = registry.version ∧ latest.version < snap.version
  | .delivering => latest.version = registry.version

/-- A callback that releases the lock leaves the loop as it tracked the hub. -/
theorem Publisher.Tracks.released {pub : Publisher} {registry : Registry} {latest : Snapshot}
    (h : pub.Tracks registry latest) : pub.released.Tracks registry latest := by
  cases pub <;> exact h

/-- What every reachable state satisfies. -/
structure Sound (p : Machine) : Prop where
  capacity_pos : 0 < p.capacity
  clients_ok : ∀ id, ClientOk p.capacity p.latest.version (p.clients id)
  tracks : p.publisher.Tracks p.registry p.latest
  lock_ok : ∀ d, p.lock = some d → DeliveryOk p d

section Invariant

variable {p : Machine}

open Machine

theorem sound_start (bufferSize : Int) (registry : Registry) :
    Sound (Machine.start bufferSize registry) :=
  ⟨capacityOf_pos bufferSize, fun _ => clientOk_fresh _ _ false (Nat.zero_le _), rfl,
    by simp [Machine.start]⟩

/-- Replacing one client's record keeps every client as it was, if the new record is. -/
theorem clientsOk_update {cap latest : Nat} {clients : Nat → Client}
    (h : ∀ j, ClientOk cap latest (clients j)) {id : Nat} {c : Client}
    (hc : ClientOk cap latest c) :
    ∀ j, ClientOk cap latest (Function.update clients id c j) := by
  intro j
  rcases eq_or_ne j id with rfl | hne
  · simpa using hc
  · simpa [Function.update_of_ne hne] using h j

/-- What a delivery keeps reads only the clients, the latest snapshot and the room of a queue. -/
theorem DeliveryOk.congr {d : Delivery} (hd : DeliveryOk p d) {q : Machine}
    (hc : q.clients = p.clients) (hl : q.latest = p.latest) (hcap : q.capacity = p.capacity) :
    DeliveryOk q d where
  rest_nodup := hd.rest_nodup
  current_not_mem := hd.current_not_mem
  latest_eq snap h := by rw [hl]; exact hd.latest_eq snap h
  fresh snap h j hj := by rw [hc]; exact hd.fresh snap h j hj
  room j h := by rw [hc, hcap]; exact hd.room j h

/-- Moving the running enqueue on to another select keeps what a delivery keeps, if a last send
would find room. -/
theorem DeliveryOk.advance {d : Delivery} (hd : DeliveryOk p d) {id : Nat} {s s' : Select}
    (hc : d.current = some (id, s))
    (hroom : s' = .final → (p.clients id).queue.length < p.capacity) :
    DeliveryOk p { d with current := some (id, s') } where
  rest_nodup := hd.rest_nodup
  current_not_mem _ _ h := by
    cases h
    exact hd.current_not_mem id s hc
  latest_eq := hd.latest_eq
  -- the clients still to be handed the frame are the same ones
  fresh snap hf j hj := hd.fresh snap hf j (by simpa [Delivery.pending, hc] using hj)
  room _ h := by
    cases h
    exact hroom rfl

/-- A delivery keeps what it keeps when a client kept some of what it had and queued no more. -/
theorem DeliveryOk.update_of_sublist {d : Delivery} (hd : DeliveryOk p d) {id : Nat} {c : Client}
    (hs : c.seen.Sublist (p.clients id).seen)
    (hq : c.queue.length ≤ (p.clients id).queue.length) :
    DeliveryOk { p with clients := Function.update p.clients id c } d := by
  refine ⟨hd.rest_nodup, hd.current_not_mem, hd.latest_eq, ?_, ?_⟩
  · intro snap hf j hj v hv
    rcases eq_or_ne j id with rfl | hne
    · simp only [Function.update_self] at hv
      exact hd.fresh snap hf j hj v ((versions_sublist hs).subset hv)
    · simp only [Function.update_of_ne hne] at hv
      exact hd.fresh snap hf j hj v hv
  · intro j hj
    rcases eq_or_ne j id with rfl | hne
    · simp only [Function.update_self]
      exact Nat.lt_of_le_of_lt hq (hd.room j hj)
    · simpa [Function.update_of_ne hne] using hd.room j hj

/-! ### One lemma per move -/

theorem Sound.change (hs : Sound p) (a : Registry.Action) (hp : p.publisher = .idle) :
    Sound { p with
      registry := a.apply p.registry
      publisher := .afterChange p.registry (a.apply p.registry) } := by
  refine ⟨hs.capacity_pos, hs.clients_ok, ?_, fun d hl => (hs.lock_ok d hl).congr rfl rfl rfl⟩
  -- the hub held the registry's snapshot, and a change only moves the version up
  have hnow : p.latest.version = p.registry.version := by
    simpa [hp, Publisher.Tracks] using hs.tracks
  have hle := a.version_le_apply p.registry
  unfold Publisher.afterChange
  split
  · simp only [Publisher.Tracks]
    omega
  · exact ⟨rfl, by simp only [Registry.snapshot]; omega⟩

theorem Sound.publish (hs : Sound p) {snap : Snapshot} (hp : p.publisher = .waiting snap) :
    Sound { p with
      latest := snap
      publisher := .delivering
      lock := some { frame := .snapshot snap, rest := p.listed } } := by
  obtain ⟨hreg, hnewer⟩ :
      snap.version = p.registry.version ∧ p.latest.version < snap.version := by
    simpa [hp, Publisher.Tracks] using hs.tracks
  refine ⟨hs.capacity_pos, fun id => (hs.clients_ok id).of_latest_le (Nat.le_of_lt hnewer), hreg,
    ?_⟩
  rintro d ⟨⟩
  refine ⟨List.nodup_range.filter _, by simp, (fun _ h => by cases h; rfl), ?_, by simp⟩
  -- every snapshot a client holds is at most the old latest one, older than the published one
  rintro _ ⟨⟩ id _ v hv
  exact Nat.lt_of_le_of_lt ((hs.clients_ok id).le_latest v hv) hnewer

theorem Sound.register (hs : Sound p) :
    Sound { p with
      clients := Function.update p.clients p.next { listed := true, joined := p.latest.version }
      next := p.next + 1
      lock := some { frame := .snapshot p.latest, rest := [p.next] } } := by
  refine ⟨hs.capacity_pos,
    clientsOk_update hs.clients_ok (clientOk_fresh _ _ true (Nat.le_refl _)), hs.tracks, ?_⟩
  rintro d ⟨⟩
  refine ⟨List.nodup_singleton _, by simp, (fun _ h => by cases h; rfl), ?_, by simp⟩
  -- the only client to be handed the frame is the new one, which holds nothing yet
  rintro _ ⟨⟩ id hid v hv
  simp only [Delivery.pending, Option.map_none, Option.toList_none, List.nil_append,
    List.mem_singleton] at hid
  subst hid
  simp [Client.seen] at hv

theorem Sound.unregister (hs : Sound p) (hl : p.lock = none) (id : Nat) :
    Sound { p with
      clients := Function.update p.clients id { p.clients id with listed := false } } := by
  have hc := hs.clients_ok id
  refine ⟨hs.capacity_pos, clientsOk_update hs.clients_ok ?_, hs.tracks, by simp [hl]⟩
  exact hc.of_sublist (List.Sublist.refl _) (Nat.le_refl _) rfl rfl

theorem Sound.reply (hs : Sound p) (id : Nat) (text : String) (seconds : Int) :
    Sound { p with lock := some { frame := .control (replyTo text seconds), rest := [id] } } := by
  refine ⟨hs.capacity_pos, hs.clients_ok, hs.tracks, ?_⟩
  rintro d ⟨⟩
  exact ⟨List.nodup_singleton _, by simp, (fun _ h => by cases h), (fun _ h => by cases h),
    by simp⟩

theorem Sound.pick (hs : Sound p) {d : Delivery} {id : Nat} (hl : p.lock = some d)
    (hc : d.current = none) (hid : id ∈ d.rest) :
    Sound { p with
      lock := some { d with rest := d.rest.erase id, current := some (id, .send) } } := by
  have hd := hs.lock_ok d hl
  refine ⟨hs.capacity_pos, hs.clients_ok, hs.tracks, ?_⟩
  rintro d' ⟨⟩
  refine ⟨hd.rest_nodup.erase id, ?_, hd.latest_eq, ?_, by simp⟩
  · rintro _ _ ⟨⟩
    exact hd.rest_nodup.not_mem_erase
  · -- the clients still to be handed the frame are the same ones
    intro snap hf j hj
    have hj' : j ∈ d.pending := by
      simp only [Delivery.pending, hc, Option.map_none, Option.toList_none, List.nil_append]
      simp only [Delivery.pending, Option.map_some, Option.toList_some, List.cons_append,
        List.nil_append, List.mem_cons] at hj
      rcases hj with rfl | hj
      · exact hid
      · exact List.mem_of_mem_erase hj
    exact hd.fresh snap hf j hj'

theorem Sound.select (hs : Sound p) {d : Delivery} {id : Nat} {s : Select} (hl : p.lock = some d)
    (hc : d.current = some (id, s)) :
    Sound { p with
      clients := Function.update p.clients id ((p.clients id).select p.capacity d.frame s).1
      lock := some
        { d with current := ((p.clients id).select p.capacity d.frame s).2.map (id, ·) } } := by
  have hd := hs.lock_ok d hl
  have hok := hs.clients_ok id
  have hnot : id ∉ d.rest := hd.current_not_mem id s hc
  have hpend : id ∈ d.pending := by simp [Delivery.pending, hc]
  rcases (p.clients id).select_cases p.capacity d.frame s with
    ⟨hres, hroom⟩ | hres | hres | ⟨hres, rfl, hfull⟩
  · -- the frame is queued, and the enqueue is over
    rw [hres]
    have hfits : ∀ v ∈ versions [d.frame], v = p.latest.version ∧
        ∀ w ∈ versions (p.clients id).seen, w < v := by
      cases hf : d.frame with
      | snapshot snap =>
        simp only [versions_snapshot, List.mem_singleton]
        rintro v rfl
        exact ⟨by rw [hd.latest_eq snap hf], hd.fresh snap hf id hpend⟩
      | control json => simp
    refine ⟨hs.capacity_pos, clientsOk_update hs.clients_ok (hok.append hroom hfits), hs.tracks,
      ?_⟩
    rintro d' ⟨⟩
    refine ⟨hd.rest_nodup, by simp, hd.latest_eq, ?_, by simp⟩
    -- the clients still to be handed the frame are the others, whose records did not change
    intro snap hf j hj
    have hj' : j ∈ d.rest := by simpa [Delivery.pending] using hj
    have hne : j ≠ id := fun h => hnot (h ▸ hj')
    simp only [Function.update_of_ne hne]
    exact hd.fresh snap hf j (by simp [Delivery.pending, hc, hj'])
  · -- the queue was full: nothing changes but the select
    rw [hres]
    have hsame : Function.update p.clients id (p.clients id) = p.clients :=
      Function.update_eq_self _ _
    rw [hsame]
    refine ⟨hs.capacity_pos, hs.clients_ok, hs.tracks, ?_⟩
    rintro d' ⟨⟩
    refine (hd.advance hc ?_).congr rfl rfl rfl
    nofun
  · -- the oldest frame is dropped, so the last send will find room
    rw [hres]
    have hsub : (Client.seen { p.clients id with queue := (p.clients id).queue.tail }).Sublist
        (p.clients id).seen :=
      List.Sublist.append_left (List.tail_sublist _) _
    have hshorter : (p.clients id).queue.tail.length ≤ (p.clients id).queue.length := by simp
    refine ⟨hs.capacity_pos,
      clientsOk_update hs.clients_ok (hok.of_sublist hsub hshorter rfl rfl), hs.tracks, ?_⟩
    rintro d' ⟨⟩
    refine ((hd.update_of_sublist hsub hshorter).advance hc fun _ => ?_).congr rfl rfl rfl
    have hcap := hs.capacity_pos
    have hq := hok.queue_le
    simp only [Function.update_self, List.length_tail]
    omega
  · -- the last send always finds room
    exact absurd (hd.room id hc) (Nat.not_lt.mpr hfull)

theorem Sound.release (hs : Sound p) :
    Sound { p with lock := none, publisher := p.publisher.released } :=
  ⟨hs.capacity_pos, hs.clients_ok, hs.tracks.released, by simp⟩

theorem Sound.receive (hs : Sound p) (id : Nat) :
    Sound { p with clients := Function.update p.clients id (p.clients id).receive } := by
  have hsub : (p.clients id).receive.seen.Sublist (p.clients id).seen := by
    rw [Client.seen_receive]
  have hshorter := Client.length_queue_receive_le (p.clients id)
  have hok := (hs.clients_ok id).of_sublist hsub hshorter (Client.joined_receive _)
    (Client.lost_receive _)
  refine ⟨hs.capacity_pos, clientsOk_update hs.clients_ok hok, hs.tracks, ?_⟩
  intro d hl
  exact (hs.lock_ok d hl).update_of_sublist hsub hshorter

theorem Sound.step (hs : Sound p) {p' : Machine} (h : Step p p') : Sound p' := by
  cases h with
  | change a hp => exact hs.change a hp
  | publish hp => exact hs.publish hp
  | register => exact hs.register
  | unregister id hl => exact hs.unregister hl id
  | reply id text seconds => exact hs.reply id text seconds
  | pick hl hc hid => exact hs.pick hl hc hid
  | select hl hc => exact hs.select hl hc
  | release => exact hs.release
  | receive id => exact hs.receive id

theorem Machine.Reachable.sound {bufferSize : Int} {registry : Registry}
    (h : Reachable bufferSize registry p) : Sound p := by
  induction h with
  | refl => exact sound_start bufferSize registry
  | tail _ step ih => exact ih.step step

end Invariant

/-- In every state some interleaving reaches, from a hub made with `bufferSize` and started on a
registry, for every client: the snapshot versions its writer received, followed by those still
queued, strictly increase, none older than the hub's latest snapshot when the client registered;
its queue holds at most `capacityOf bufferSize` frames; the last send of an enqueue to it finds
room, and no enqueue ever gave its frame up. -/
theorem client_frames_ordered_and_bounded {bufferSize : Int} {registry : Registry} {p : Machine}
    (hp : Machine.Reachable bufferSize registry p) (id : Nat) :
    (versions ((p.clients id).taken ++ (p.clients id).queue)).Pairwise (· < ·) ∧
    (∀ v ∈ versions ((p.clients id).taken ++ (p.clients id).queue),
      (p.clients id).joined ≤ v) ∧
    (p.clients id).queue.length ≤ capacityOf bufferSize ∧
    (∀ d, p.lock = some d → d.current = some (id, .final) →
      (p.clients id).queue.length < capacityOf bufferSize) ∧
    (p.clients id).lost = [] := by
  have hs := hp.sound
  have hcap := hp.capacity_eq
  have hc := hs.clients_ok id
  exact ⟨hc.increasing, hc.joined_le, hcap ▸ hc.queue_le,
    fun d hl hd => hcap ▸ (hs.lock_ok d hl).room id hd, hc.lost_eq⟩

/-- A client registers with a hub of one-frame queues started on an empty registry, is handed the
latest snapshot, and its writer receives it. -/
theorem registered_client_receives_latest :
    ∃ p, Machine.Reachable 1 {} p ∧ versions (p.clients 0).taken = [0] ∧
      ((versions ((p.clients 0).taken ++ (p.clients 0).queue)).Pairwise (· < ·) ∧
      (∀ v ∈ versions ((p.clients 0).taken ++ (p.clients 0).queue),
        (p.clients 0).joined ≤ v) ∧
      (p.clients 0).queue.length ≤ capacityOf 1 ∧
      (∀ d, p.lock = some d → d.current = some (0, .final) →
        (p.clients 0).queue.length < capacityOf 1) ∧
      (p.clients 0).lost = []) := by
  have h₁ := Relation.ReflTransGen.single (Machine.Step.register (Machine.start 1 {}) rfl)
  have h₂ := h₁.tail (Machine.Step.pick _ rfl rfl (List.mem_singleton_self 0))
  have h₃ := h₂.tail (Machine.Step.select _ rfl rfl)
  have h₄ := h₃.tail (Machine.Step.release _ rfl rfl rfl)
  have h₅ : Machine.Reachable 1 {} _ := h₄.tail (Machine.Step.receive _ 0)
  exact ⟨_, h₅, rfl, client_frames_ordered_and_bounded h₅ 0⟩

/-- Drop-oldest does not spare the newest snapshot: with queues of one frame, a listed client whose
writer has not yet received the latest snapshot, when its message is answered, holds the reply and
no snapshot at all. -/
theorem reply_drops_latest_snapshot :
    ∃ p, Machine.Reachable 1 {} p ∧ p.lock = none ∧ (p.clients 0).listed = true ∧
      (p.clients 0).joined = p.latest.version ∧ versions (p.clients 0).seen = [] := by
  -- the client registers and is handed the latest snapshot, which fills its queue
  have h₁ := Relation.ReflTransGen.single (Machine.Step.register (Machine.start 1 {}) rfl)
  have h₂ := h₁.tail (Machine.Step.pick _ rfl rfl (List.mem_singleton_self 0))
  have h₃ := h₂.tail (Machine.Step.select _ rfl rfl)
  have h₄ := h₃.tail (Machine.Step.release _ rfl rfl rfl)
  -- its message is answered: the first send finds the queue full, the snapshot is dropped
  have h₅ := h₄.tail (Machine.Step.reply _ 0 "ping" 0 rfl rfl)
  have h₆ := h₅.tail (Machine.Step.pick _ rfl rfl (List.mem_singleton_self 0))
  have h₇ := h₆.tail (Machine.Step.select _ rfl rfl)
  have h₈ := h₇.tail (Machine.Step.select _ rfl rfl)
  have h₉ := h₈.tail (Machine.Step.select _ rfl rfl)
  have h₁₀ : Machine.Reachable 1 {} _ := h₉.tail (Machine.Step.release _ rfl rfl rfl)
  exact ⟨_, h₁₀, rfl, rfl, rfl, rfl⟩

end BrowserSessions.Hub
