import BrowserSessions.Proofs.Stream.Protocol

/-!
# The runtime hub runs the protocol

The hub of `BrowserSessions.Stream` keeps, for each client, the frames sent to it that it has not
taken yet, with no bound. It is the protocol machine `Hub.Machine` run under one schedule: the
hub's lock is held for one operation at a time, the clients are handed a frame in the order they
connected, and each client's writer receives a frame as soon as it is queued. Every queue is then
empty between operations, so the first send of every enqueue finds room and nothing is dropped or
given up; the frames the hub keeps for a client are the last frames its writer received.

`Refines h p` reads a hub `h` as the machine state `p`. A hub just started on a registry is read as
the machine started on the registry it subscribed to (`refines_start`), and each operation of the
hub is a run of machine steps from a state the hub is read as to one its result is read as: a
registry change handing the hub the snapshot it published (`Refines.change`), a client connecting
(`Refines.connect`), a client's message answered (`Refines.receive`) and a client's frames taken
(`Refines.drain`). So every hub the service reaches is a state some interleaving of the protocol
reaches (`served_refines_reachable`), and what the protocol guarantees holds of it: the snapshot
frames a client holds carry strictly increasing versions (`served_snapshot_versions_increase`).
-/

namespace BrowserSessions.Hub

/-! ## The hub's operations on its clients -/

/-- A client with a frame appended, when it has a given number. -/
def appendFrame (id : Nat) (f : Json) (c : StreamClient) : StreamClient :=
  if c.id = id then { c with frames := c.frames ++ [f] } else c

/-- Appending a frame for a number that no client has changes no client. -/
theorem map_appendFrame_of_forall_ne {cs : List StreamClient} {id : Nat} (f : Json)
    (hne : ∀ c ∈ cs, c.id ≠ id) : cs.map (appendFrame id f) = cs := by
  have hall : ∀ c ∈ cs, appendFrame id f c = c := fun c hc => by simp [appendFrame, hne c hc]
  rw [List.map_congr_left hall, List.map_id']

/-- Sending appends the frame to the client with the number, and changes nothing else. -/
theorem send_fst (h : Hub) (m : Option Metrics) (id : Nat) (f : Json) :
    (h.send m id f).1 = { h with clients := h.clients.map (appendFrame id f) } := by
  unfold send
  split
  · simp [appendFrame]
  · rename_i hnone
    -- no client has the number
    rw [map_appendFrame_of_forall_ne f fun c hc he =>
      hnone (List.any_eq_true.mpr ⟨c, hc, by simp [he]⟩)]

/-- Sending a frame to some clients with distinct numbers, one after another, appends it once to
each of them. -/
theorem foldl_send_fst (f : Json) : ∀ (cs : List StreamClient) (acc : Hub × Option Metrics),
    (cs.map (·.id)).Nodup →
    (cs.foldl (fun (acc : Hub × Option Metrics) c => acc.1.send acc.2 c.id f) acc).1 =
      { acc.1 with clients := acc.1.clients.map fun c =>
          if c.id ∈ cs.map (·.id) then { c with frames := c.frames ++ [f] } else c }
  | [], acc, _ => by simp
  | c :: cs, acc, hnd => by
    rw [List.foldl_cons, foldl_send_fst f cs _ (List.nodup_cons.mp hnd).2, send_fst]
    have hc : c.id ∉ cs.map (·.id) := (List.nodup_cons.mp hnd).1
    simp only [List.map_map]
    congr 2
    funext x
    by_cases hx : x.id = c.id
    · -- the client handed the frame first gets it once: no later client has its number
      simp [appendFrame, hx]
      exact fun y hy he => hc (List.mem_map.mpr ⟨y, hy, he⟩)
    · simp [appendFrame, hx]

/-- Publishing hands the snapshot's frame to every client, each once. -/
theorem publish_fst (h : Hub) (m : Option Metrics) (snap : Snapshot)
    (hids : (h.clients.map (·.id)).Nodup) :
    (h.publish m snap).1 =
      { h with
        latest := some (snapshotFrame snap)
        clients := h.clients.map fun c => { c with frames := c.frames ++ [snapshotFrame snap] } } := by
  unfold publish
  rw [foldl_send_fst _ _ _ hids]
  simp only
  congr 1
  exact List.map_congr_left fun c hc => if_pos (List.mem_map_of_mem hc)

/-- Connecting a client lists it last, with the latest snapshot frame to take. -/
theorem connect_fst (h : Hub) (m : Option Metrics) {frame : Json} (hl : h.latest = some frame)
    (hlt : ∀ c ∈ h.clients, c.id < h.nextClient) :
    (h.connect m).2.1 =
      { h with
        clients := h.clients ++ [{ id := h.nextClient, frames := [frame] }]
        nextClient := h.nextClient + 1 } := by
  unfold connect
  simp only [hl, send_fst, List.map_append, List.map_cons, List.map_nil]
  congr 2
  · -- the clients before it have smaller numbers
    exact map_appendFrame_of_forall_ne frame fun c hc => Nat.ne_of_lt (hlt c hc)
  · simp [appendFrame]

/-! ## The machine, every writer draining at once -/

namespace Machine

/-- The clients the hub lists depend only on which records are listed. -/
theorem listed_congr {p q : Machine} (hn : q.next = p.next)
    (hc : ∀ id, (q.clients id).listed = (p.clients id).listed) : q.listed = p.listed := by
  simp only [listed, hn, hc]

theorem nodup_listed (p : Machine) : p.listed.Nodup := List.nodup_range.filter _

theorem lt_next_of_mem_listed {p : Machine} {id : Nat} (h : id ∈ p.listed) : id < p.next := by
  simp only [listed, List.mem_filter, List.mem_range] at h
  exact h.1

theorem listed_of_mem_listed {p : Machine} {id : Nat} (h : id ∈ p.listed) :
    (p.clients id).listed = true := by
  simp only [listed, List.mem_filter] at h
  exact h.2

/-- Handing the frame of the delivery holding the lock to the next client, whose queue is empty:
the first send finds room, and the client's writer receives the frame at once. -/
theorem handOne {p : Machine} (hcap : 0 < p.capacity) {f : Frame} {id : Nat} {rest : List Nat}
    (hl : p.lock = some { frame := f, rest := id :: rest }) (hq : (p.clients id).queue = []) :
    Relation.ReflTransGen Step p
      { p with
        clients :=
          Function.update p.clients id { p.clients id with taken := (p.clients id).taken ++ [f] }
        lock := some { frame := f, rest } } := by
  have hpick := Step.pick p hl rfl (List.mem_cons_self ..)
  let d : Delivery := { frame := f, rest := (id :: rest).erase id, current := some (id, .send) }
  have hsel := Step.select { p with lock := some d } (d := d) rfl rfl
  have hrun := ((Relation.ReflTransGen.single hpick).tail hsel).tail (Step.receive _ id)
  -- the first send finds room in the empty queue, and the writer takes the frame
  have hsend : (p.clients id).select p.capacity f .send =
      ({ p.clients id with queue := [f] }, none) := by
    simp [Client.select, hq, hcap]
  convert hrun using 2
  · funext j
    by_cases hj : j = id
    · subst hj
      simp [d, hsend, Client.receive, hq]
    · simp [Function.update_of_ne hj]
  · simp [d, hsend]

/-- Handing the frame of the delivery holding the lock to each of its clients in turn, every queue
being empty: each client's writer receives the frame at once, and the delivery has no client
left. Induction on the clients still to be handed the frame; every queue stays empty. -/
theorem handAll {f : Frame} : ∀ (ids : List Nat) (p : Machine), 0 < p.capacity → ids.Nodup →
    p.lock = some { frame := f, rest := ids } → (∀ id, (p.clients id).queue = []) →
    Relation.ReflTransGen Step p
      { p with
        clients := fun id =>
          if id ∈ ids then { p.clients id with taken := (p.clients id).taken ++ [f] }
          else p.clients id
        lock := some { frame := f, rest := [] } }
  | [], p, _, _, hl, _ => by
    convert Relation.ReflTransGen.refl using 2
    · simp
    · exact hl.symm
  | id :: ids, p, hcap, hnd, hl, hq => by
    have hout : id ∉ ids := (List.nodup_cons.mp hnd).1
    have hone := handOne hcap hl (hq id)
    -- the client handed the frame keeps an empty queue
    have hq₁ : ∀ j, ((Function.update p.clients id
        { p.clients id with taken := (p.clients id).taken ++ [f] }) j).queue = [] := by
      intro j
      by_cases hj : j = id
      · subst hj
        simpa using hq j
      · simpa [Function.update_of_ne hj] using hq j
    have hrest := handAll ids { p with
      clients :=
        Function.update p.clients id { p.clients id with taken := (p.clients id).taken ++ [f] }
      lock := some { frame := f, rest := ids } } hcap (List.nodup_cons.mp hnd).2 rfl hq₁
    convert hone.trans hrest using 2
    funext j
    by_cases hj : j = id
    · subst hj
      simp [hout]
    · simp [hj]

end Machine

/-! ## Reading the hub as a machine state -/

/-- The JSON a queued frame is sent as. -/
def Frame.toJson : Frame → Json
  | .snapshot snap => snapshotFrame snap
  | .control json => json

/-- A hub read as a state of the protocol machine whose writers drain their queues at once: no
delivery holds the lock and the loop hands the hub no snapshot, the clients connected are the
clients listed, in order, every queue is empty, the frames the hub keeps for a client are the last
frames its writer received, and the latest snapshot frame is the machine's. -/
structure Refines (h : Hub) (p : Machine) : Prop where
  capacity_pos : 0 < p.capacity
  unlocked : p.lock = none
  idle : p.publisher = .idle
  latest_eq : h.latest = some (snapshotFrame p.latest)
  next_eq : h.nextClient = p.next
  ids_eq : h.clients.map (·.id) = p.listed
  drained : ∀ id, (p.clients id).queue = []
  frames_suffix : ∀ c ∈ h.clients, c.frames <:+ (p.clients c.id).taken.map Frame.toJson

namespace Refines

open Machine

variable {h : Hub} {p : Machine}

theorem mem_listed (hr : Refines h p) {c : StreamClient} (hc : c ∈ h.clients) : c.id ∈ p.listed := by
  rw [← hr.ids_eq]
  exact List.mem_map_of_mem hc

theorem nodup_ids (hr : Refines h p) : (h.clients.map (·.id)).Nodup := by
  rw [hr.ids_eq]
  exact nodup_listed p

/-- A frame handed to some listed clients under the lock, each writer receiving it at once, and
the lock released: the hub with the frame appended to those clients is read as the result. -/
theorem deliver (hr : Refines h p) {q : Machine} {f : Frame} {ids : List Nat} (hids : ids.Nodup)
    (hq : q.lock = some { frame := f, rest := ids }) (hcap : q.capacity = p.capacity)
    (hclients : q.clients = p.clients) (hnext : q.next = p.next)
    (hpub : q.publisher.released = .idle) (h' : Hub)
    (hlatest : h'.latest = some (snapshotFrame q.latest)) (hnext' : h'.nextClient = h.nextClient)
    (hclients' : h'.clients =
      h.clients.map fun c => if c.id ∈ ids then { c with frames := c.frames ++ [f.toJson] } else c) :
    ∃ p', Relation.ReflTransGen Step q p' ∧ Refines h' p' ∧ p'.registry = q.registry := by
  have hall := handAll ids q (hcap ▸ hr.capacity_pos) hids hq (hclients ▸ hr.drained)
  refine ⟨_, hall.tail (Step.release _ rfl rfl rfl), ⟨hcap ▸ hr.capacity_pos, rfl, hpub, hlatest,
    hnext'.trans (hr.next_eq.trans hnext.symm), ?_, ?_, ?_⟩, rfl⟩
  · -- appending frames keeps the numbers and the listed flags
    rw [hclients', List.map_map]
    refine Eq.trans ?_ (hr.ids_eq.trans (listed_congr hnext.symm fun id => ?_))
    · exact List.map_congr_left fun c _ => by by_cases hc : c.id ∈ ids <;> simp [hc]
    · simp only [hclients]
      split <;> rfl
  · intro id
    simp only [hclients]
    split <;> simp [hr.drained id]
  · intro c' hc'
    rw [hclients', List.mem_map] at hc'
    obtain ⟨c, hc, rfl⟩ := hc'
    have hsuf := hr.frames_suffix c hc
    by_cases hin : c.id ∈ ids
    · simp only [hin, if_true, hclients, List.map_append, List.map_singleton]
      obtain ⟨t, ht⟩ := hsuf
      exact ⟨t, by rw [← List.append_assoc, ht]⟩
    · simpa [hin, hclients] using hsuf

/-- A registry change on the loop, handing the hub the snapshot it published when it published
one: the loop's change, then the hub's callback taking the lock and handing the snapshot to every
client in the order they connected. -/
theorem change (hr : Refines h p) (a : Registry.Action) (m : Option Metrics) :
    ∃ p', Relation.ReflTransGen Step p p' ∧
      Refines (if (a.apply p.registry).version = p.registry.version then h
        else (h.publish m (a.apply p.registry).snapshot).1) p' ∧
      p'.registry = a.apply p.registry := by
  have hchange := Step.change p a hr.idle
  by_cases hv : (a.apply p.registry).version = p.registry.version
  · -- nothing was published, and the loop waits for the next change
    rw [if_pos hv]
    exact ⟨_, .single hchange, ⟨hr.capacity_pos, hr.unlocked, by simp [Publisher.afterChange, hv],
      hr.latest_eq, hr.next_eq, hr.ids_eq, hr.drained, hr.frames_suffix⟩, rfl⟩
  · rw [if_neg hv]
    have hwait : (Publisher.afterChange p.registry (a.apply p.registry)) =
        .waiting (a.apply p.registry).snapshot := by
      simp [Publisher.afterChange, hv]
    have hpublish := Step.publish
      { p with
        registry := a.apply p.registry
        publisher := .afterChange p.registry (a.apply p.registry) } hwait hr.unlocked
    obtain ⟨p', hrun, hr', hreg⟩ := hr.deliver (nodup_listed p)
      (q := { p with
        registry := a.apply p.registry
        latest := (a.apply p.registry).snapshot
        publisher := .delivering
        lock := some { frame := .snapshot (a.apply p.registry).snapshot, rest := p.listed } })
      rfl rfl rfl rfl rfl (h.publish m (a.apply p.registry).snapshot).1
      (by rw [publish_fst _ _ _ hr.nodup_ids]) (by rw [publish_fst _ _ _ hr.nodup_ids])
      (by
        rw [publish_fst _ _ _ hr.nodup_ids]
        exact List.map_congr_left fun c hc => (if_pos (hr.mem_listed hc)).symm)
    exact ⟨p', ((Relation.ReflTransGen.single hchange).tail hpublish).trans hrun, hr', hreg⟩

/-- The clients the hub lists after one registers: those before, then the new one. -/
theorem listed_register (p : Machine) {c : Client} (hc : c.listed = true) :
    ({ p with clients := Function.update p.clients p.next c, next := p.next + 1 } : Machine).listed =
      p.listed ++ [p.next] := by
  simp only [Machine.listed, List.range_succ, List.filter_append, Function.update_self, hc,
    List.filter_cons_of_pos, List.filter_nil]
  congr 1
  -- the clients registered before have smaller numbers
  exact List.filter_congr fun j hj => by
    rw [Function.update_of_ne (Nat.ne_of_lt (List.mem_range.mp hj))]

/-- A client connecting: it registers under the lock, is handed the latest snapshot, and its
writer receives it. Its number is the machine's next one. -/
theorem connect (hr : Refines h p) (m : Option Metrics) :
    ∃ p', Relation.ReflTransGen Step p p' ∧ Refines (h.connect m).2.1 p' ∧
      (h.connect m).1 = p.next ∧ p'.registry = p.registry := by
  have hregister := Step.register p hr.unlocked
  have hlt : ∀ c ∈ h.clients, c.id < h.nextClient := fun c hc =>
    hr.next_eq ▸ lt_next_of_mem_listed (hr.mem_listed hc)
  -- the hub with the client listed and nothing handed to it yet
  let h₁ : Hub := { h with clients := h.clients ++ [{ id := h.nextClient }], nextClient := h.nextClient + 1 }
  let p₁ : Machine := { p with
    clients := Function.update p.clients p.next { listed := true, joined := p.latest.version }
    next := p.next + 1 }
  have hr₁ : Refines h₁ p₁ := by
    refine ⟨hr.capacity_pos, hr.unlocked, hr.idle, hr.latest_eq, by simp [h₁, p₁, hr.next_eq], ?_,
      ?_, ?_⟩
    · simp only [h₁, p₁, List.map_append, List.map_singleton, hr.ids_eq, hr.next_eq]
      exact (listed_register p rfl).symm
    · intro j
      by_cases hj : j = p.next
      · subst hj
        simp [p₁]
      · simp [p₁, Function.update_of_ne hj, hr.drained j]
    · intro c hc
      rcases List.mem_append.mp hc with hc | hc
      · have hne : c.id ≠ p.next := Nat.ne_of_lt (hr.next_eq ▸ hlt c hc)
        simpa [p₁, Function.update_of_ne hne] using hr.frames_suffix c hc
      · simp only [List.mem_singleton] at hc
        subst hc
        exact List.nil_suffix
  obtain ⟨p', hrun, hr', hreg⟩ := hr₁.deliver (List.nodup_singleton p.next)
    (q := { p₁ with lock := some { frame := .snapshot p.latest, rest := [p.next] } })
    rfl rfl rfl rfl (by simp [p₁, hr.idle, Publisher.released]) (h.connect m).2.1
    (by rw [connect_fst h m hr.latest_eq hlt]; exact hr.latest_eq)
    (by rw [connect_fst h m hr.latest_eq hlt])
    (by
      rw [connect_fst h m hr.latest_eq hlt]
      simp only [h₁, List.map_append, List.map_singleton, List.mem_singleton, hr.next_eq]
      congr 1
      -- the clients connected before have smaller numbers
      exact (map_appendFrame_of_forall_ne _ fun c hc => Nat.ne_of_lt (hr.next_eq ▸ hlt c hc)).symm)
  exact ⟨p', (Relation.ReflTransGen.single hregister).trans hrun, hr', hr.next_eq, hreg⟩

/-- A client's message answered: the reply is handed to the client under the lock and its writer
receives it; a message for no connected client changes nothing. -/
theorem receive (hr : Refines h p) (m : Option Metrics) (client : Nat) (text : String)
    (seconds : Int) :
    ∃ p', Relation.ReflTransGen Step p p' ∧ Refines (h.receive m client text seconds).1 p' ∧
      p'.registry = p.registry := by
  have hsend : (h.receive m client text seconds).1 =
      { h with clients := h.clients.map (appendFrame client (replyTo text seconds)) } :=
    send_fst _ _ _ _
  by_cases hin : client ∈ p.listed
  · have hreply := Step.reply p client text seconds hr.unlocked (listed_of_mem_listed hin)
    obtain ⟨p', hrun, hr', hreg⟩ := hr.deliver (List.nodup_singleton client)
      (q := { p with lock := some { frame := .control (replyTo text seconds), rest := [client] } })
      rfl rfl rfl rfl (by simp [hr.idle, Publisher.released])
      (h.receive m client text seconds).1 (by rw [hsend]; exact hr.latest_eq)
      (by rw [hsend])
      (by
        rw [hsend]
        exact List.map_congr_left fun c _ => by simp [appendFrame, Frame.toJson])
    exact ⟨p', (Relation.ReflTransGen.single hreply).trans hrun, hr', hreg⟩
  · -- no client connected has the number, so no client is handed anything
    refine ⟨p, .refl, ?_, rfl⟩
    rw [hsend, map_appendFrame_of_forall_ne _ fun c hc (he : c.id = client) =>
      hin (he ▸ hr.mem_listed hc)]
    exact hr

/-- A client's frames taken: nothing happens to the machine, and the frames taken are the last
frames the client's writer received. -/
theorem drain (hr : Refines h p) (client : Nat) :
    Refines (h.drain client).2 p ∧ (h.drain client).1 <:+ (p.clients client).taken.map Frame.toJson := by
  unfold Hub.drain
  split
  · rename_i c hfind
    have hc : c ∈ h.clients := List.mem_of_find?_eq_some hfind
    have hid : c.id = client := by simpa using List.find?_some hfind
    refine ⟨⟨hr.capacity_pos, hr.unlocked, hr.idle, hr.latest_eq, hr.next_eq, ?_, hr.drained, ?_⟩,
      hid ▸ hr.frames_suffix c hc⟩
    · rw [List.map_map, ← hr.ids_eq]
      exact List.map_congr_left fun x _ => by by_cases hx : x.id = client <;> simp [hx]
    · intro x hx
      obtain ⟨y, hy, rfl⟩ := List.mem_map.mp hx
      by_cases hy' : y.id = client
      · simp [hy']
      · simpa [hy'] using hr.frames_suffix y hy
  · exact ⟨hr, List.nil_suffix⟩

end Refines

/-- A hub just started on a registry is read as the machine started on the registry it subscribed
to, with queues of any room. -/
theorem refines_start (bufferSize : Int) (r : Registry) :
    Refines (({} : Hub).start r).1 (Machine.start bufferSize (({} : Hub).start r).2) := by
  refine ⟨capacityOf_pos bufferSize, rfl, rfl, rfl, rfl, ?_, fun _ => rfl, by simp [Hub.start]⟩
  -- no client has connected, and none is listed
  simp [Hub.start, Machine.start, Machine.listed]

/-- The hubs the service reaches, with the registry each is subscribed to: a hub started on a
registry, then, in any order, registry changes handing the hub the snapshot they published, clients
connecting, clients' messages answered and clients' frames taken. -/
inductive Served : Hub → Registry → Prop where
  | start (r : Registry) : Served (({} : Hub).start r).1 (({} : Hub).start r).2
  | change {h : Hub} {r : Registry} (a : Registry.Action) (m : Option Metrics) : Served h r →
      Served (if (a.apply r).version = r.version then h else (h.publish m (a.apply r).snapshot).1)
        (a.apply r)
  | connect {h : Hub} {r : Registry} (m : Option Metrics) : Served h r → Served (h.connect m).2.1 r
  | receive {h : Hub} {r : Registry} (m : Option Metrics) (client : Nat) (text : String)
      (seconds : Int) : Served h r → Served (h.receive m client text seconds).1 r
  | drain {h : Hub} {r : Registry} (client : Nat) : Served h r → Served (h.drain client).2 r

/-- Every hub the service reaches is read as a state that some interleaving of the protocol
reaches, from the hub started on the registry it subscribed to, with the registry the hub is
subscribed to. Induction on the service's operations, each a run of machine steps. -/
theorem served_refines_reachable (bufferSize : Int) {h : Hub} {r : Registry} (hs : Served h r) :
    ∃ r₀ p, Machine.Reachable bufferSize r₀ p ∧ Refines h p ∧ p.registry = r := by
  induction hs with
  | start r => exact ⟨_, _, .refl, refines_start bufferSize r, rfl⟩
  | change a m _ ih =>
    obtain ⟨r₀, p, hreach, hr, rfl⟩ := ih
    obtain ⟨p', hrun, hr', hreg⟩ := hr.change a m
    exact ⟨r₀, p', hreach.trans hrun, hr', hreg⟩
  | connect m _ ih =>
    obtain ⟨r₀, p, hreach, hr, rfl⟩ := ih
    obtain ⟨p', hrun, hr', -, hreg⟩ := hr.connect m
    exact ⟨r₀, p', hreach.trans hrun, hr', hreg⟩
  | receive m client text seconds _ ih =>
    obtain ⟨r₀, p, hreach, hr, rfl⟩ := ih
    obtain ⟨p', hrun, hr', hreg⟩ := hr.receive m client text seconds
    exact ⟨r₀, p', hreach.trans hrun, hr', hreg⟩
  | drain client _ ih =>
    obtain ⟨r₀, p, hreach, hr, rfl⟩ := ih
    exact ⟨r₀, p, hreach, (hr.drain client).1, rfl⟩

/-- The frames a hub the service reaches keeps for a client are frames of the protocol, and the
snapshot frames among them carry strictly increasing versions. -/
theorem served_snapshot_versions_increase {h : Hub} {r : Registry} (hs : Served h r) :
    ∀ c ∈ h.clients, ∃ fs : List Frame, c.frames = fs.map Frame.toJson ∧
      (versions fs).Pairwise (· < ·) := by
  intro c hc
  obtain ⟨r₀, p, hreach, hr, -⟩ := served_refines_reachable 1 hs
  obtain ⟨t, ht⟩ := hr.frames_suffix c hc
  -- the frames kept are the last ones the client's writer received
  obtain ⟨before, fs, htaken, -, hfs⟩ := List.map_eq_append_iff.mp ht.symm
  have hinc := (client_frames_ordered_and_bounded hreach c.id).1
  rw [htaken, List.append_assoc, versions_append] at hinc
  exact ⟨fs, hfs.symm, (List.pairwise_append.mp hinc).2.1 |>.sublist
    (by rw [versions_append]; exact List.sublist_append_left _ _)⟩

end BrowserSessions.Hub
