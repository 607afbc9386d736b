import BrowserSessions.Proofs.Registry.WellFormed

/-!
# Quiet calls

Which calls change nothing. Removing an identifier that names no session, removing the active
session of an empty registry, selecting or re-addressing an unknown identifier, re-addressing a
session to the internal error page or to its own address up to a trailing slash, and handling an
intent that opens nothing leave the list, the active identifier and the version as they were, so
the delivery that follows the call hands nothing to any observer. Every other call publishes
exactly once: the version goes up by one.

Each call publishes at most once (`Effect.quiet_or_publishes`), so the whole statement comes down
to the version: it stays exactly for the quiet calls (`version_eq_iff_quiet`). Removing the active
session of a registry that does not list it would change nothing either; that cannot happen in a
well-formed registry, which is why the statement is about reachable ones.
-/

namespace BrowserSessions.Registry

/-- The calls that change nothing, given the registry before the call and the session the call
made. -/
def Call.Quiet (r : Registry) (made : Option Session) : Call → Prop
  | .create .. => False
  | .createSearch .. => False
  | .launch .. => made = none
  | .openIntent .. => made = none
  | .select id => r.select id = .error .notFound
  | .remove id => r.hasId id = false
  | .removeCurrent => r.sessions = []
  | .removeAll => False
  | .updateUrl id url =>
    r.updateUrl id url = .error .notFound ∨
      ∃ s, r.byId id = .ok s ∧
        (Url.isInternalError url = true ∨ Url.matchExceptTrailingSlash s.url url = true)

/-! ## Lookups by identifier -/

section Lookup

variable {r : Registry} {id : String}

theorem byId_of_indexOf?_some {pos : Nat} {s : Session} (h : r.indexOf? id = some pos)
    (hs : r.sessions[pos]? = some s) : r.byId id = .ok s := by
  obtain ⟨hid, -⟩ := indexOf?_eq_some_iff.mp h
  have hidx : r.sessions.findIdx (·.id == id) = pos := by
    have h' := h
    simp only [indexOf?, String.isEmpty_iff, hid, if_false] at h'
    exact (List.findIdx?_eq_some_iff_findIdx_eq.mp h').2
  have hne : id.isEmpty = false := String.isEmpty_eq_false_iff.mpr hid
  have hfind : r.sessions.find? (fun s => !id.isEmpty && s.id == id) = some s := by
    simp only [hne, Bool.not_false, Bool.true_and]
    rw [List.find?_eq_getElem?_findIdx, hidx, hs]
  simp [byId, hfind]

theorem hasId_eq_false_iff : r.hasId id = false ↔ r.indexOf? id = none := by
  simp [hasId]

theorem updateUrl_of_indexOf?_none {url : String} (h : r.indexOf? id = none) :
    r.updateUrl id url = .error .notFound := by
  unfold updateUrl
  rw [h]

theorem updateUrl_of_indexOf?_some {url : String} {pos : Nat} {s : Session}
    (h : r.indexOf? id = some pos) (hs : r.sessions[pos]? = some s) :
    r.updateUrl id url =
      if Url.isInternalError url || Url.matchExceptTrailingSlash s.url url then .ok (s, r)
      else .ok ({ s with url }, r.publish (r.sessions.set pos { s with url })) := by
  unfold updateUrl
  rw [h]
  simp only [hs]

end Lookup

/-! ## The version decides -/

/-- A call publishes at most once: either nothing a snapshot shows changed, or the version went up
by one. -/
theorem Effect.quiet_or_publishes {r r' : Registry} {made : Option Session}
    (he : Effect r made r') :
    (r'.sessions = r.sessions ∧ r'.currentId = r.currentId ∧ r'.version = r.version) ∨
      r'.version = r.version + 1 := by
  cases he with
  | quiet h₁ h₂ h₃ => exact .inl ⟨h₁, h₂, h₃⟩
  | add _ _ _ _ h₃ | select _ _ _ _ h₃ | remove _ _ _ _ h₃ | clear _ _ h₃
  | setUrl _ _ _ _ _ h₃ => exact .inr h₃

/-- Delivery after a call that kept the version hands nothing to anyone. -/
theorem settle_of_version_eq {σ : Type}
    (observe : Nat → Snapshot → Registry × σ → Registry × σ) {before : Nat}
    {st : Registry × σ} (h : st.1.version = before) :
    settle observe before st = st := by
  simp [settle, h]

section Calls

variable {r r' : Registry} {made : Option Session}

theorem version_eq_iff_quiet_remove {id : String} :
    (r.remove id).version = r.version ↔ (Call.remove id).Quiet r none := by
  simp only [Call.Quiet, hasId_eq_false_iff]
  cases hpos : r.indexOf? id with
  | none => simp [remove_of_indexOf?_none hpos]
  | some pos => simp [remove_of_indexOf?_some hpos]

theorem version_eq_iff_quiet_removeCurrent (hw : r.WellFormed) :
    r.removeCurrent.version = r.version ↔ Call.removeCurrent.Quiet r none := by
  simp only [Call.Quiet]
  by_cases hnil : r.sessions = []
  · simp [removeCurrent, hw.currentId_eq_empty.mpr hnil, hnil]
  · -- a non-empty list has a listed active session, and removing it publishes
    have hc : r.currentId ≠ "" := fun h => hnil (hw.currentId_eq_empty.mp h)
    obtain ⟨pos, hpos, -⟩ := indexOf?_of_mem hc (hw.currentId_mem hc)
    have hne : r.currentId.isEmpty = false := String.isEmpty_eq_false_iff.mpr hc
    simp [removeCurrent, hne, remove_of_indexOf?_some hpos, hnil]

theorem version_select {id : String} {r₁ : Registry} (h : r.select id = .ok r₁) :
    r₁.version = r.version + 1 := by
  obtain ⟨-, -, rfl⟩ := select_eq_ok h
  rfl

/-- Selection fails only for an unknown identifier. -/
theorem select_error {id : String} {e : RegistryError} (h : r.select id = .error e) :
    e = .notFound := by
  unfold select at h
  split at h
  · cases h
  · cases h
    rfl

theorem version_eq_iff_quiet_select {id : String} (hrun : (Call.select id).run r = .ok (made, r')) :
    r'.version = r.version ↔ (Call.select id).Quiet r made := by
  simp only [Call.run] at hrun
  simp only [Call.Quiet]
  split at hrun
  · rename_i r₁ hsel
    cases hrun
    simp [hsel, version_select hsel]
  · rename_i e hsel
    cases hrun
    simp [hsel, select_error hsel]

theorem version_eq_iff_quiet_updateUrl {id url : String}
    (hrun : (Call.updateUrl id url).run r = .ok (made, r')) :
    r'.version = r.version ↔ (Call.updateUrl id url).Quiet r made := by
  simp only [Call.run] at hrun
  simp only [Call.Quiet]
  cases hpos : r.indexOf? id with
  | none =>
    rw [updateUrl_of_indexOf?_none hpos] at hrun ⊢
    cases hrun
    simp
  | some pos =>
    obtain ⟨s, hs, -⟩ := getElem?_of_indexOf? hpos
    rw [updateUrl_of_indexOf?_some hpos hs] at hrun ⊢
    rw [byId_of_indexOf?_some hpos hs]
    by_cases hnoop : (Url.isInternalError url || Url.matchExceptTrailingSlash s.url url) = true
    · simp only [hnoop, if_true] at hrun ⊢
      cases hrun
      simpa using hnoop
    · simp only [hnoop] at hrun ⊢
      cases hrun
      simpa using hnoop

theorem version_eq_iff_quiet_opens (h : Opens r made r') :
    r'.version = r.version ↔ made = none := by
  cases h with
  | nothing _ _ h₃ => simp [h₃]
  | session s he =>
    cases he with
    | add _ _ _ _ h₃ => simp [h₃]

/-- A call keeps the version exactly when it is quiet. -/
theorem version_eq_iff_quiet {c : Call} (hw : r.WellFormed) (hrun : c.run r = .ok (made, r')) :
    r'.version = r.version ↔ c.Quiet r made := by
  cases c with
  | create now source url =>
    cases hrun
    simp [Call.Quiet]
  | createSearch now source url terms =>
    cases hrun
    simp [Call.Quiet]
  | launch services now i restoring => exact version_eq_iff_quiet_opens (opens_launch hrun)
  | openIntent services now i => exact version_eq_iff_quiet_opens (opens_openIntent hrun)
  | select id => exact version_eq_iff_quiet_select hrun
  | remove id =>
    cases hrun
    exact version_eq_iff_quiet_remove
  | removeCurrent =>
    cases hrun
    exact version_eq_iff_quiet_removeCurrent hw
  | removeAll =>
    cases hrun
    simp [Call.Quiet, removeAll]
  | updateUrl id url => exact version_eq_iff_quiet_updateUrl hrun

end Calls

/-! ## Quiet calls and publishing calls -/

/-- In a reachable registry, a quiet call leaves the list, the active identifier and the version
as they were, and the delivery after it calls no observer; every other call publishes once. -/
theorem quiet_calls_change_nothing {r r' : Registry} {h : List Entry} {c : Call}
    {made : Option Session} (hr : Reachable r h) (hrun : c.run r = .ok (made, r')) :
    (c.Quiet r made →
      r'.sessions = r.sessions ∧ r'.currentId = r.currentId ∧ r'.version = r.version ∧
        ∀ {σ : Type} (observe : Nat → Snapshot → Registry × σ → Registry × σ)
          (st : σ), settle observe r.version (r', st) = (r', st)) ∧
    (¬ c.Quiet r made → r'.version = r.version + 1) := by
  have hiff := version_eq_iff_quiet hr.wellFormed hrun
  rcases (Call.effect hrun).quiet_or_publishes with ⟨h₁, h₂, h₃⟩ | hv
  · refine ⟨fun _ => ⟨h₁, h₂, h₃, fun observe _ => settle_of_version_eq observe h₃⟩,
      ?_⟩
    intro hq
    exact absurd (hiff.mp h₃) hq
  · refine ⟨fun hq => ?_, fun _ => hv⟩
    have := hiff.mpr hq
    omega

/-- Removing an identifier that no session has, after one session was opened, is quiet. -/
theorem quiet_removal_of_unknown_identifier :
    let a := ({} : Registry).create 0 "menu" "https://example.org"
    let h := record [] {} (.call (.create 0 "menu" "https://example.org")) (some a.1) a.2
    let c := Call.remove "sess_unknown"
    Reachable a.2 h ∧ c.run a.2 = .ok (none, a.2) ∧
      (c.Quiet a.2 none →
        a.2.sessions = a.2.sessions ∧ a.2.currentId = a.2.currentId ∧
          a.2.version = a.2.version ∧
          ∀ {σ : Type} (observe : Nat → Snapshot → Registry × σ → Registry × σ)
            (st : σ), settle observe a.2.version (a.2, st) = (a.2, st)) ∧
      (¬ c.Quiet a.2 none → a.2.version = a.2.version + 1) := by
  intro a h c
  have ha : Reachable a.2 h :=
    .step (.call (.create 0 "menu" "https://example.org")) .empty rfl (by simp [issued])
  have hrun : c.run a.2 = .ok (none, a.2) := by
    have hpos : a.2.indexOf? "sess_unknown" = none := by decide +kernel
    simp only [c, Call.run, remove_of_indexOf?_none hpos]
  exact ⟨ha, hrun, quiet_calls_change_nothing ha hrun⟩

end BrowserSessions.Registry
