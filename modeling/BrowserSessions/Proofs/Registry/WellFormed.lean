import BrowserSessions.Proofs.Registry.History

/-!
# Registry invariant

Every registry reached from an empty one is well formed: session identifiers are non-empty and
pairwise distinct, the active identifier is empty exactly when the list is, and otherwise it is
the identifier of exactly one listed session.

Each of the six effects of a call keeps this (`WellFormed.effect`), a new session needing only
that its identifier is not already listed, which the history of a reachable registry provides.
From the invariant, the readers agree with one another: the active session can be read exactly
when some session exists, the active position is `-1` exactly for an empty list and otherwise a
position of the list, a snapshot's active session is the registry's, and exactly one view of a
non-empty list is marked current.
-/

namespace BrowserSessions.Registry

/-- The identifiers of the listed sessions, in order. -/
def sessionIds (r : Registry) : List String := r.sessions.map (·.id)

/-- The registry invariant. -/
structure WellFormed (r : Registry) : Prop where
  /-- No session has the empty identifier. -/
  empty_not_mem : "" ∉ r.sessionIds
  /-- No two sessions share an identifier. -/
  ids_nodup : r.sessionIds.Nodup
  /-- The active identifier is empty exactly when the list is. -/
  currentId_eq_empty : r.currentId = "" ↔ r.sessions = []
  /-- A non-empty active identifier is the identifier of a listed session. -/
  currentId_mem : r.currentId ≠ "" → r.currentId ∈ r.sessionIds

theorem wellFormed_empty : WellFormed {} where
  empty_not_mem := by simp [sessionIds]
  ids_nodup := by simp [sessionIds]
  currentId_eq_empty := by simp
  currentId_mem := by simp

/-! ## The six effects keep the invariant -/

section Effects

variable {r r' : Registry}

/-- A change that keeps the identifiers in order and the active one keeps the invariant. -/
theorem WellFormed.of_ids_eq (hw : r.WellFormed) (hids : r'.sessionIds = r.sessionIds)
    (hc : r'.currentId = r.currentId) : r'.WellFormed where
  empty_not_mem := hids ▸ hw.empty_not_mem
  ids_nodup := hids ▸ hw.ids_nodup
  currentId_eq_empty := by
    have hlen : r'.sessions.length = r.sessions.length := by
      simpa [sessionIds] using congrArg List.length hids
    rw [hc, ← List.length_eq_zero_iff, hlen, List.length_eq_zero_iff]
    exact hw.currentId_eq_empty
  currentId_mem := hc ▸ hids ▸ hw.currentId_mem

theorem WellFormed.add (hw : r.WellFormed) {s : Session} (hs : s.id ≠ "")
    (hfresh : s.id ∉ r.sessionIds) (h₁ : r'.sessions = r.sessions ++ [s])
    (h₂ : r'.currentId = s.id) : r'.WellFormed := by
  have hids : r'.sessionIds = r.sessionIds ++ [s.id] := by simp [sessionIds, h₁]
  refine ⟨?_, ?_, ?_, ?_⟩
  · rw [hids, List.mem_append, List.mem_singleton]
    rintro (h | h)
    · exact hw.empty_not_mem h
    · exact hs h.symm
  · rw [hids, List.nodup_append]
    refine ⟨hw.ids_nodup, by simp, ?_⟩
    intro a ha b hb hab
    rw [List.mem_singleton] at hb
    rw [hab, hb] at ha
    exact hfresh ha
  · simp [h₁, h₂, hs]
  · intro _
    simp [hids, h₂]

theorem WellFormed.select (hw : r.WellFormed) {id : String} {pos : Nat}
    (hpos : r.indexOf? id = some pos) (h₁ : r'.sessions = r.sessions) (h₂ : r'.currentId = id) :
    r'.WellFormed := by
  obtain ⟨hid, hlt, hat, -⟩ := indexOf?_eq_some_iff.mp hpos
  have hids : r'.sessionIds = r.sessionIds := by simp [sessionIds, h₁]
  refine ⟨hids ▸ hw.empty_not_mem, hids ▸ hw.ids_nodup, ?_, ?_⟩
  · rw [h₂, h₁]
    simp only [hid, false_iff]
    exact List.ne_nil_of_length_pos (Nat.lt_of_le_of_lt (Nat.zero_le _) hlt)
  · intro _
    rw [hids, h₂, ← hat]
    exact List.mem_map_of_mem (List.getElem_mem hlt)

/-- A listed session whose identifier differs from the one at a position outlives the removal of
that position. -/
theorem mem_eraseIdx_of_id_ne {l : List Session} {pos : Nat} {x : Session} (hx : x ∈ l)
    (hlt : pos < l.length) (hne : x.id ≠ l[pos].id) : x ∈ l.eraseIdx pos := by
  obtain ⟨i, hi, rfl⟩ := List.getElem_of_mem hx
  refine List.mem_eraseIdx_iff_getElem.mpr ⟨i, hi, ?_, rfl⟩
  rintro rfl
  exact hne rfl

/-- After a removal, the active identifier is empty with nothing left, or names a session that is
left: the promoted successor, or the active session when another one was removed. -/
theorem WellFormed.currentId_after_remove (hw : r.WellFormed) {id : String} {pos : Nat}
    (hpos : r.indexOf? id = some pos)
    (h₂ : r'.currentId =
      if r.currentId = id then successorId (r.sessions.eraseIdx pos) pos else r.currentId) :
    (r'.currentId = "" ∧ r.sessions.eraseIdx pos = []) ∨
      ∃ x ∈ r.sessions.eraseIdx pos, x.id = r'.currentId := by
  obtain ⟨-, hlt, hat, -⟩ := indexOf?_eq_some_iff.mp hpos
  by_cases hcur : r.currentId = id
  · rw [if_pos hcur] at h₂
    by_cases hnil : r.sessions.eraseIdx pos = []
    · exact .inl ⟨by rw [h₂, hnil, successorId_nil], hnil⟩
    · exact .inr (h₂ ▸ successorId_mem hnil pos)
  · rw [if_neg hcur] at h₂
    -- the active session is not the one removed, so it is still listed
    have hne : r.currentId ≠ "" := fun h => by
      have := hw.currentId_eq_empty.mp h
      simp [this] at hlt
    obtain ⟨x, hx, hxid⟩ := List.mem_map.mp (hw.currentId_mem hne)
    refine .inr ⟨x, mem_eraseIdx_of_id_ne hx hlt ?_, hxid.trans h₂.symm⟩
    rw [hxid, hat]
    exact hcur

theorem WellFormed.remove (hw : r.WellFormed) {id : String} {pos : Nat}
    (hpos : r.indexOf? id = some pos) (h₁ : r'.sessions = r.sessions.eraseIdx pos)
    (h₂ : r'.currentId =
      if r.currentId = id then successorId (r.sessions.eraseIdx pos) pos else r.currentId) :
    r'.WellFormed := by
  have hsub : r'.sessionIds.Sublist r.sessionIds := by
    rw [sessionIds, sessionIds, h₁]
    exact (List.eraseIdx_sublist _ _).map _
  have hne : ∀ x ∈ r'.sessionIds, x ≠ "" := fun x hx h =>
    hw.empty_not_mem (h ▸ hsub.subset hx)
  refine ⟨fun h => hne "" h rfl, hw.ids_nodup.sublist hsub, ?_, ?_⟩
  · rcases hw.currentId_after_remove hpos h₂ with ⟨hc, hnil⟩ | ⟨x, hx, hxid⟩
    · simp [hc, h₁, hnil]
    · have hmem : x.id ∈ r'.sessionIds := by
        rw [sessionIds, h₁]
        exact List.mem_map_of_mem hx
      simp only [h₁, ← hxid]
      exact iff_of_false (hne _ hmem) (List.ne_nil_of_mem hx)
  · intro hc
    rcases hw.currentId_after_remove hpos h₂ with ⟨hc', -⟩ | ⟨x, hx, hxid⟩
    · exact absurd hc' hc
    · rw [← hxid, sessionIds, h₁]
      exact List.mem_map_of_mem hx

theorem WellFormed.clear (h₁ : r'.sessions = []) (h₂ : r'.currentId = "") : r'.WellFormed where
  empty_not_mem := by simp [sessionIds, h₁]
  ids_nodup := by simp [sessionIds, h₁]
  currentId_eq_empty := by simp [h₁, h₂]
  currentId_mem := by simp [h₂]

theorem WellFormed.setUrl (hw : r.WellFormed) {pos : Nat} {s : Session} {url : String}
    (hs : r.sessions[pos]? = some s) (h₁ : r'.sessions = r.sessions.set pos { s with url })
    (h₂ : r'.currentId = r.currentId) : r'.WellFormed := by
  refine hw.of_ids_eq ?_ h₂
  obtain ⟨hlt, rfl⟩ := List.getElem?_eq_some_iff.mp hs
  have hlt' : pos < (r.sessions.map (·.id)).length := by simpa using hlt
  rw [sessionIds, sessionIds, h₁, List.map_set]
  simpa using List.set_getElem_self hlt'

/-- Every effect keeps the invariant, given that a new session's identifier is not listed. -/
theorem WellFormed.effect (hw : r.WellFormed) {made : Option Session} (he : Effect r made r')
    (hfresh : ∀ s ∈ made, s.id ∉ r.sessionIds) : r'.WellFormed := by
  cases he with
  | quiet h₁ h₂ _ => exact hw.of_ids_eq (by rw [sessionIds, sessionIds, h₁]) h₂
  | add s hs h₁ h₂ _ => exact hw.add hs (hfresh s rfl) h₁ h₂
  | select id hpos h₁ h₂ _ => exact hw.select hpos h₁ h₂
  | remove id hpos h₁ h₂ _ => exact hw.remove hpos h₁ h₂
  | clear h₁ h₂ _ => exact WellFormed.clear h₁ h₂
  | setUrl s url hs h₁ h₂ _ => exact hw.setUrl hs h₁ h₂

end Effects

/-- Every reachable registry is well formed. -/
theorem Reachable.wellFormed {r : Registry} {h : List Entry} (hr : Reachable r h) :
    r.WellFormed := by
  induction hr with
  | empty => exact wellFormed_empty
  | step a hprev hrun hfresh ih =>
    refine ih.effect (Action.effect hrun) ?_
    intro s hs hlisted
    -- a listed identifier was handed out before, and the new one was not
    obtain ⟨x, hx, hxid⟩ := List.mem_map.mp hlisted
    exact hfresh s hs (hxid ▸ hprev.id_mem_issued x hx)

/-! ## What the readers report -/

section Readers

variable {r : Registry}

/-- A non-empty identifier of a listed session is found at a position of the list. -/
theorem indexOf?_of_mem {id : String} (hid : id ≠ "") (hmem : id ∈ r.sessionIds) :
    ∃ pos, r.indexOf? id = some pos ∧ pos < r.sessions.length := by
  obtain ⟨x, hx, rfl⟩ := List.mem_map.mp hmem
  have hsome : (r.sessions.findIdx? (·.id == x.id)).isSome := by
    rw [List.findIdx?_isSome, List.any_eq_true]
    exact ⟨x, hx, by simp⟩
  obtain ⟨pos, hpos⟩ := Option.isSome_iff_exists.mp hsome
  have hfound : r.indexOf? x.id = some pos := by
    simp [indexOf?, String.isEmpty_iff, hid, hpos]
  exact ⟨pos, hfound, (indexOf?_eq_some_iff.mp hfound).2.1⟩

/-- The number of listed sessions with an identifier, when identifiers are distinct. -/
theorem WellFormed.countP_id (hw : r.WellFormed) (id : String) :
    r.sessions.countP (·.id == id) = if id ∈ r.sessionIds then 1 else 0 := by
  rw [← hw.ids_nodup.count, List.count_eq_countP, sessionIds, List.countP_map]
  rfl

theorem WellFormed.countP_current (hw : r.WellFormed) (hc : r.currentId ≠ "") :
    r.sessions.countP (·.id == r.currentId) = 1 := by
  rw [hw.countP_id, if_pos (hw.currentId_mem hc)]

theorem WellFormed.isOk_current (hw : r.WellFormed) : r.current.isOk = r.hasSession := by
  by_cases hnil : r.sessions = []
  · have hc : r.currentId = "" := hw.currentId_eq_empty.mpr hnil
    simp [current, byId, hnil, hasSession, Except.isOk, Except.toBool]
  · have hc : r.currentId ≠ "" := fun h => hnil (hw.currentId_eq_empty.mp h)
    obtain ⟨x, hx, hxid⟩ := List.mem_map.mp (hw.currentId_mem hc)
    have hsome :
        (r.sessions.find? fun s => !r.currentId.isEmpty && s.id == r.currentId).isSome := by
      rw [List.find?_isSome]
      exact ⟨x, hx, by simp [hc, hxid]⟩
    obtain ⟨y, hy⟩ := Option.isSome_iff_exists.mp hsome
    simp [current, byId, hy, hasSession, hnil, Except.isOk, Except.toBool]

theorem WellFormed.currentPosition_eq_neg_one (hw : r.WellFormed) :
    (r.currentPosition = -1 ↔ r.length = 0) ∧
      (r.length ≠ 0 → 0 ≤ r.currentPosition ∧ r.currentPosition < r.length) := by
  by_cases hnil : r.sessions = []
  · have hc : r.currentId = "" := hw.currentId_eq_empty.mpr hnil
    simp [currentPosition, indexOf?, hc, length, hnil]
  · have hc : r.currentId ≠ "" := fun h => hnil (hw.currentId_eq_empty.mp h)
    obtain ⟨pos, hpos, hlt⟩ := indexOf?_of_mem hc (hw.currentId_mem hc)
    have hlen : r.length ≠ 0 := by simpa [length] using hnil
    simp only [currentPosition, hpos, length] at hlen ⊢
    omega

/-- A snapshot reports the same active session as the registry, whatever the registry. -/
theorem snapshot_current? (r : Registry) : r.snapshot.current? = r.current.toOption := by
  by_cases hc : r.currentId = ""
  · have he : "".isEmpty = true := rfl
    have hnone : r.sessions.find? (fun _ => false) = none := List.find?_eq_none.mpr (by simp)
    simp [snapshot, Snapshot.current?, current, byId, hc, he, hnone, Except.toOption]
  · have hne : r.currentId.isEmpty = false := String.isEmpty_eq_false_iff.mpr hc
    cases hf : r.sessions.find? (·.id == r.currentId) <;>
      simp [snapshot, Snapshot.current?, current, byId, hne, hf, Except.toOption]

/-- A view says whether it is the active session's in its `current` field. -/
theorem getBool_view_current (s : Session) (current : Bool) :
    (s.view current).getBool "current" = current := by
  simp [Session.view, Json.getBool, Json.get?]

theorem WellFormed.views_current (hw : r.WellFormed) :
    r.snapshot.views.countP (·.getBool "current") = 1 ↔ r.hasSession := by
  have hcount : r.snapshot.views.countP (·.getBool "current") =
      r.sessions.countP (·.id == r.currentId) := by
    simp [snapshot, Snapshot.views, List.countP_map, Function.comp_def, getBool_view_current]
  rw [hcount, hw.countP_id]
  by_cases hnil : r.sessions = []
  · have hc : r.currentId = "" := hw.currentId_eq_empty.mpr hnil
    simp [hasSession, hnil, sessionIds]
  · have hc : r.currentId ≠ "" := fun h => hnil (hw.currentId_eq_empty.mp h)
    simp [hasSession, hnil, hw.currentId_mem hc]

/-- How the readers of a registry agree with its list. -/
structure ReadersAgree (r : Registry) : Prop where
  /-- Exactly one listed session has the active identifier, when it is not empty. -/
  countP_current : r.currentId ≠ "" → r.sessions.countP (·.id == r.currentId) = 1
  /-- The active session can be read exactly when some session exists. -/
  isOk_current : r.current.isOk = r.hasSession
  /-- The active position is `-1` exactly for an empty list, -/
  currentPosition_eq_neg_one : r.currentPosition = -1 ↔ r.length = 0
  /-- and a position of the list otherwise. -/
  currentPosition_lt : r.length ≠ 0 → 0 ≤ r.currentPosition ∧ r.currentPosition < r.length
  /-- A snapshot reports the registry's active session. -/
  snapshot_current : r.snapshot.current? = r.current.toOption
  /-- Exactly one view is marked current exactly when there are sessions. -/
  views_current : r.snapshot.views.countP (·.getBool "current") = 1 ↔ r.hasSession

theorem WellFormed.readersAgree (hw : r.WellFormed) : r.ReadersAgree where
  countP_current := hw.countP_current
  isOk_current := hw.isOk_current
  currentPosition_eq_neg_one := hw.currentPosition_eq_neg_one.1
  currentPosition_lt := hw.currentPosition_eq_neg_one.2
  snapshot_current := snapshot_current? r
  views_current := hw.views_current

end Readers

/-! ## Every reachable registry -/

/-- Every registry reached from an empty one, each new session getting an identifier never
handed out before, is well formed, and its readers agree with its list. -/
theorem reachable_consistent {r : Registry} {h : List Entry} (hr : Reachable r h) :
    r.WellFormed ∧ r.ReadersAgree :=
  ⟨hr.wellFormed, hr.wellFormed.readersAgree⟩

/-- Two sessions opened and the active one removed: the first is promoted. -/
theorem reachable_consistent_after_removing_active :
    let a := ({} : Registry).create 0 "menu" "https://example.org"
    let b := a.2.create 0 "share" "https://example.net"
    let r := b.2.remove b.1.id
    let h := record (record (record [] {} (.call (.create 0 "menu" "https://example.org"))
      (some a.1) a.2) a.2 (.call (.create 0 "share" "https://example.net")) (some b.1) b.2)
      b.2 (.call (.remove b.1.id)) none r
    Reachable r h ∧ r.WellFormed ∧ r.ReadersAgree := by
  intro a b r h
  have ha : Reachable a.2 _ :=
    .step (.call (.create 0 "menu" "https://example.org")) .empty rfl (by simp [issued])
  have hb : Reachable b.2 _ :=
    .step (.call (.create 0 "share" "https://example.net")) ha rfl (by simp [issued]; decide)
  have hr : Reachable r h := .step (.call (.remove b.1.id)) hb rfl (by simp)
  exact ⟨hr, reachable_consistent hr⟩

end BrowserSessions.Registry
