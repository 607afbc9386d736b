import BrowserSessions.Proofs.Registry.Call

/-!
# Registry history

The sessions a registry has made, kept as a history that only grows. An entry is a session as it
was made, the address a published change last gave it, and whether it is still listed. Entries
are never dropped or reordered: a session leaves the list only by name (removing its identifier,
removing the active session, removing all), and its address changes only when a change to it is
published.

`Reachable r h` says that the registry `r` is reached from an empty one by some run of actions
whose history is `h`. The one thing assumed of the identifier generator is in its step: a call
that makes a session gives it an identifier that no session made before had.
-/

namespace BrowserSessions.Registry

/-- A session the registry has made, as its history keeps it. -/
structure Entry where
  /-- The session as it was made. -/
  made : Session
  /-- Its address: the one it was made with, or the last one a published change gave it. -/
  url : String
  /-- Whether it is still listed. -/
  live : Bool

namespace Entry

/-- The entry of a session just made. -/
def ofMade (s : Session) : Entry := { made := s, url := s.url, live := true }

/-- Removes the entry when it has the identifier. -/
def removeId (id : String) (e : Entry) : Entry :=
  if e.made.id = id then { e with live := false } else e

/-- Moves the entry to an address when it has the identifier. -/
def moveId (id url : String) (e : Entry) : Entry :=
  if e.made.id = id then { e with url } else e

/-- What an action on `r` that left `r'` does to an entry already made. -/
def update (r r' : Registry) : Action → Entry → Entry
  | .call (.remove id) => removeId id
  | .call .removeCurrent => removeId r.currentId
  | .call .removeAll => fun e => { e with live := false }
  | .call (.updateUrl id url) => if r'.version = r.version then fun e => e else moveId id url
  | _ => fun e => e

/-- The session as the list should show the entry: as made, at its current address; nothing
for a removed entry. -/
def shown? (e : Entry) : Option Session :=
  if e.live then some { e.made with url := e.url } else none

@[simp] theorem made_removeId (id : String) (e : Entry) : (removeId id e).made = e.made := by
  unfold removeId
  split <;> rfl

@[simp] theorem made_moveId (id url : String) (e : Entry) : (moveId id url e).made = e.made := by
  unfold moveId
  split <;> rfl

/-- No action changes the session an entry was made as. -/
@[simp] theorem made_update (r r' : Registry) (a : Action) (e : Entry) :
    (update r r' a e).made = e.made := by
  unfold update
  split
  all_goals try split
  all_goals simp

end Entry

/-- The history after an action on `r` that returned having made `made` and left `r'`: the
entries made before, updated by the action, then the new session. -/
def record (h : List Entry) (r : Registry) (a : Action) (made : Option Session) (r' : Registry) :
    List Entry :=
  h.map (Entry.update r r' a) ++ made.toList.map Entry.ofMade

/-- The identifiers handed out so far, in the order the sessions were made. -/
def issued (h : List Entry) : List String := h.map (·.made.id)

@[simp] theorem issued_record (h : List Entry) (r : Registry) (a : Action) (made : Option Session)
    (r' : Registry) : issued (record h r a made r') = issued h ++ made.toList.map (·.id) := by
  simp [issued, record, Entry.ofMade, Function.comp_def]

/-- The registries reached from an empty one by a run of actions, with the history of that run.
A call that makes a session gives it an identifier no session made before had. -/
inductive Reachable : Registry → List Entry → Prop where
  | empty : Reachable {} []
  | step {r r' : Registry} {h : List Entry} {made : Option Session} (a : Action) :
      Reachable r h → a.run r = .ok (made, r') → (∀ s ∈ made, s.id ∉ issued h) →
      Reachable r' (record h r a made r')

/-! ## Identifiers handed out -/

/-- No identifier is handed out twice. -/
theorem Reachable.issued_nodup {r : Registry} {h : List Entry} (hr : Reachable r h) :
    (issued h).Nodup := by
  induction hr with
  | empty => simp [issued]
  | @step _ _ _ made a _ _ hfresh ih =>
    rw [issued_record, List.nodup_append]
    refine ⟨ih, ?_, ?_⟩
    · cases made <;> simp
    · intro x hx y hy hxy
      cases made with
      | none => simp at hy
      | some s =>
        simp only [Option.toList_some, List.map_cons, List.map_nil, List.mem_singleton] at hy
        rw [hxy, hy] at hx
        exact hfresh s rfl hx

/-- Every session listed has an identifier that was handed out. -/
theorem Reachable.id_mem_issued {r : Registry} {h : List Entry} (hr : Reachable r h) :
    ∀ s ∈ r.sessions, s.id ∈ issued h := by
  induction hr with
  | empty => simp
  | step a _ hrun _ ih =>
    intro s hs
    rw [issued_record]
    cases Action.effect hrun with
    | quiet h₁ _ _ => exact List.mem_append_left _ (ih s (h₁ ▸ hs))
    | add n _ h₁ _ _ =>
      rw [h₁, List.mem_append, List.mem_singleton] at hs
      rcases hs with hs | rfl
      · exact List.mem_append_left _ (ih s hs)
      · simp
    | select _ _ h₁ _ _ => exact List.mem_append_left _ (ih s (h₁ ▸ hs))
    | remove _ _ h₁ _ _ =>
      rw [h₁] at hs
      exact List.mem_append_left _ (ih s (List.mem_of_mem_eraseIdx hs))
    | clear h₁ _ _ => simp [h₁] at hs
    | setUrl n url hn h₁ _ _ =>
      rw [h₁] at hs
      rcases List.mem_or_eq_of_mem_set hs with hs | rfl
      · exact List.mem_append_left _ (ih s hs)
      · exact List.mem_append_left _ (ih n (List.mem_of_getElem? hn))

end BrowserSessions.Registry
