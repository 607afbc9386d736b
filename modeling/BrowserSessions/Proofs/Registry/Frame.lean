import BrowserSessions.Proofs.Registry.Call

/-!
# Call frames

What every call leaves alone: the subscriptions. And what every call keeps in step: the version
and the number of publications the registry has recorded among its events. A call publishes by
raising the version by one and recording one publication; everything else it records (a session
made, sessions removed, an intent's outcome) is not a publication and leaves the version as it is.

`Framed r r'` says both, and is proved once for each building block and then for each call by
composing them (`Call.framed`).
-/

namespace BrowserSessions.Registry

/-- Whether an event records a publication. -/
def RegistryEvent.isPublished : RegistryEvent → Bool
  | .published _ => true
  | _ => false

/-- The number of snapshots the registry has published, as its events record them. -/
def publishes (r : Registry) : Nat := r.events.countP RegistryEvent.isPublished

/-- A change that leaves the subscriptions alone and raises the version exactly as often as it
records a publication. -/
structure Framed (r r' : Registry) : Prop where
  subscribers_eq : r'.subscribers = r.subscribers
  nextSubscriber_eq : r'.nextSubscriber = r.nextSubscriber
  version_add : r'.version + r.publishes = r.version + r'.publishes

namespace Framed

theorem refl (r : Registry) : Framed r r := ⟨rfl, rfl, rfl⟩

theorem trans {r₁ r₂ r₃ : Registry} (h₁ : Framed r₁ r₂) (h₂ : Framed r₂ r₃) : Framed r₁ r₃ where
  subscribers_eq := h₂.subscribers_eq.trans h₁.subscribers_eq
  nextSubscriber_eq := h₂.nextSubscriber_eq.trans h₁.nextSubscriber_eq
  version_add := by
    have := h₁.version_add
    have := h₂.version_add
    omega

end Framed

/-! ## Building blocks -/

section Blocks

variable (r : Registry)

theorem framed_publish (next : List Session) : Framed r (r.publish next) where
  subscribers_eq := rfl
  nextSubscriber_eq := rfl
  version_add := by
    simp [publishes, publish, List.countP_cons, RegistryEvent.isPublished]
    omega

theorem framed_recordRemoved (n : Nat) : Framed r (r.recordRemoved n) := by
  unfold recordRemoved
  split
  · exact .refl r
  · exact ⟨rfl, rfl, by simp [publishes, RegistryEvent.isPublished]⟩

theorem framed_recordIntent (action outcome : String) : Framed r (r.recordIntent action outcome) :=
  ⟨rfl, rfl, by simp [publishes, recordIntent, RegistryEvent.isPublished]⟩

theorem framed_currentId (currentId : String) : Framed r { r with currentId } := ⟨rfl, rfl, rfl⟩

theorem framed_ids (ids : Identifier.Monotonic) : Framed r { r with ids } := ⟨rfl, rfl, rfl⟩

theorem framed_add (s : Session) : Framed r (r.add s).2 := by
  -- the creation event is recorded first, then the new list is published
  have hcreated : Framed r { r with currentId := s.id, events := .created s.source :: r.events } :=
    ⟨rfl, rfl, by simp [publishes, RegistryEvent.isPublished]⟩
  exact hcreated.trans (framed_publish _ _)

theorem framed_create (now : Nat) (source url : String) : Framed r (r.create now source url).2 :=
  (framed_ids r _).trans (framed_add _ _)

theorem framed_createSearch (now : Nat) (source url terms : String) :
    Framed r (r.createSearch now source url terms).2 :=
  (framed_ids r _).trans (framed_add _ _)

end Blocks

/-! ## Every call -/

section Calls

variable {r r' : Registry}

theorem framed_openView {services : LaunchServices} {now : Nat} {i : Intent} {s : Session}
    (h : r.openView services now i = some (s, r')) : Framed r r' := by
  obtain ⟨-, -, ids, rfl⟩ := openView_eq_some h
  exact (framed_ids r ids).trans (framed_add _ s)

theorem framed_openShare {services : LaunchServices} {now : Nat} {i : Intent} {s : Session}
    (h : r.openShare services now i = .ok (some (s, r'))) : Framed r r' := by
  obtain ⟨-, ⟨-, -, rfl⟩ | ⟨-, m, url, -, -, -, rfl⟩⟩ := openShare_eq_some h
  · exact framed_create r now _ _
  · exact framed_createSearch r now _ _ _

theorem framed_openIntent {services : LaunchServices} {now : Nat} {i : Intent}
    {made : Option Session} (h : r.openIntent services now i = .ok (made, r')) : Framed r r' := by
  obtain ⟨r₁, outcome, rfl, ⟨-, rfl⟩ | ⟨s, -, hv | hs⟩⟩ := openIntent_cases h
  · exact framed_recordIntent _ _ _
  · exact (framed_openView hv).trans (framed_recordIntent _ _ _)
  · exact (framed_openShare hs).trans (framed_recordIntent _ _ _)

theorem framed_remove (id : String) : Framed r (r.remove id) := by
  cases hpos : r.indexOf? id with
  | none =>
    rw [remove_of_indexOf?_none hpos]
    exact .refl r
  | some pos =>
    rw [remove_of_indexOf?_some hpos]
    exact ((framed_currentId r _).trans (framed_recordRemoved _ 1)).trans (framed_publish _ _)

theorem framed_updateUrl {id url : String} {s : Session}
    (h : r.updateUrl id url = .ok (s, r')) : Framed r r' := by
  obtain ⟨pos, s₀, -, -, ⟨-, -, rfl⟩ | ⟨-, -, rfl⟩⟩ := updateUrl_eq_ok h
  · exact .refl _
  · exact framed_publish r _

/-- Every call that returns leaves the subscriptions alone and keeps the version in step with the
publications recorded. -/
theorem Call.framed {c : Call} {made : Option Session} (h : c.run r = .ok (made, r')) :
    Framed r r' := by
  cases c with
  | create now source url =>
    cases h
    exact framed_create r now source url
  | createSearch now source url terms =>
    cases h
    exact framed_createSearch r now source url terms
  | launch services now i restoring =>
    rcases launch_cases h with ⟨outcome, -, -, rfl⟩ | h
    · exact framed_recordIntent r _ _
    · exact framed_openIntent h
  | openIntent services now i => exact framed_openIntent h
  | select id =>
    simp only [Call.run] at h
    split at h
    · rename_i r₁ hsel
      cases h
      obtain ⟨-, -, rfl⟩ := select_eq_ok hsel
      exact (framed_currentId r id).trans (framed_publish _ _)
    · cases h
      exact .refl r
  | remove id =>
    cases h
    exact framed_remove id
  | removeCurrent =>
    cases h
    rw [removeCurrent_eq_remove]
    exact framed_remove _
  | removeAll =>
    cases h
    exact ((framed_currentId r "").trans (framed_recordRemoved _ _)).trans (framed_publish _ _)
  | updateUrl id url =>
    simp only [Call.run] at h
    split at h
    · rename_i s r₁ hup
      cases h
      exact framed_updateUrl hup
    · cases h
      exact .refl r

end Calls

end BrowserSessions.Registry
