import BrowserSessions.Proofs.Registry.WellFormed

/-!
# Removing a session

Removing a session deletes its position from the list and keeps every other session in order.
When the removed session was the active one, the registry promotes a successor, computed on the
shortened list as the session now at the removed position, or the last one when the removed
position was the end (`successorId`). Read on the list before the removal, that is the next
session when there is one, the one before when the last session was removed, and none when the
only session was removed.

In a reachable registry identifiers are distinct, so the identifier of the session at a position
names that position and no other (`WellFormed.indexOf?_getElem`); the main statement,
`remove_deletes_position_and_promotes`, is then the removal read at that position.
-/

namespace BrowserSessions.Registry

/-! ## The successor, read before the removal -/

section Successor

variable {next : List Session} {pos : Nat}

/-- A successor inside the shortened list is the session at the removed position. -/
theorem successorId_of_lt (h : pos < next.length) : successorId next pos = next[pos].id := by
  obtain ⟨last, hlast⟩ : ∃ last, next.getLast? = some last :=
    Option.isSome_iff_exists.mp (List.getLast?_isSome.mpr (List.ne_nil_of_length_pos (by omega)))
  simp [successorId, hlast, List.head?_drop, List.getElem?_eq_getElem h]

/-- Past the end of the shortened list the successor is its last session. -/
theorem successorId_of_length_le (h : next.length ≤ pos) (hpos : 0 < next.length) :
    successorId next pos = next[next.length - 1].id := by
  have hlast : next.getLast? = some next[next.length - 1] := by
    rw [List.getLast?_eq_getElem?, List.getElem?_eq_getElem (by omega)]
  simp [successorId, hlast, List.drop_eq_nil_of_le h]

variable {L : List Session} {p : Nat}

/-- Removing a position before the end promotes the session after it. -/
theorem successorId_eraseIdx_of_lt (hp : p + 1 < L.length) :
    successorId (L.eraseIdx p) p = L[p + 1].id := by
  have hlen : (L.eraseIdx p).length = L.length - 1 := List.length_eraseIdx_of_lt (by omega)
  rw [successorId_of_lt (by omega)]
  simp [List.getElem_eraseIdx_of_ge]

/-- Removing the last of several sessions promotes the one before it. -/
theorem successorId_eraseIdx_of_last (hp : p + 1 = L.length) (htwo : 2 ≤ L.length) :
    successorId (L.eraseIdx p) p = L[L.length - 2].id := by
  have hlen : (L.eraseIdx p).length = L.length - 1 := List.length_eraseIdx_of_lt (by omega)
  rw [successorId_of_length_le (by omega) (by omega)]
  -- the new last session sits before the removed position, where nothing moved
  have hsub : L.length - 1 - 1 = L.length - 2 := by omega
  simp only [hlen, hsub]
  rw [List.getElem_eraseIdx_of_lt]
  omega

/-- Removing the only session promotes none. -/
theorem successorId_eraseIdx_of_single (hone : L.length = 1) (hp : p < L.length) :
    successorId (L.eraseIdx p) p = "" := by
  have hnil : L.eraseIdx p = [] := by
    rw [← List.length_eq_zero_iff, List.length_eraseIdx_of_lt hp]
    omega
  rw [hnil, successorId_nil]

end Successor

/-! ## Removal at a position of a well-formed registry -/

section Removal

variable {r : Registry}

/-- With distinct identifiers, the identifier of the session at a position is found there. -/
theorem WellFormed.indexOf?_getElem (hw : r.WellFormed) {p : Nat} (hp : p < r.sessions.length) :
    r.indexOf? r.sessions[p].id = some p := by
  have hmem : r.sessions[p].id ∈ r.sessionIds := List.mem_map_of_mem (List.getElem_mem hp)
  refine indexOf?_eq_some_iff.mpr ⟨fun h => hw.empty_not_mem (h ▸ hmem), hp, rfl, ?_⟩
  intro j hj heq
  -- identifiers are distinct, so the identifier at `j` is not the one at `p`
  have hlen : r.sessionIds.length = r.sessions.length := List.length_map _
  have hsame : r.sessionIds[j] = r.sessionIds[p] := by simpa [sessionIds] using heq
  have := (List.getElem_inj hw.ids_nodup).mp hsame
  omega

/-- Removing the active session is removing the session with its identifier. -/
theorem removeCurrent_of_ne (hc : r.currentId ≠ "") : r.removeCurrent = r.remove r.currentId := by
  simp [removeCurrent, String.isEmpty_iff, hc]

end Removal

/-- Removing the session at position `p` of a registry reached from an empty one deletes exactly
that position, the other sessions keeping their order. When the removed session was active, the
next session becomes active, or the one before it when the last session was removed, or none
when it was the only one; otherwise the active session stays. Removing the active session is
removing the session with the active identifier. -/
theorem remove_deletes_position_and_promotes {r : Registry} {h : List Entry} (hr : Reachable r h)
    {p : Nat} (hp : p < r.sessions.length) :
    (r.remove r.sessions[p].id).sessions = r.sessions.eraseIdx p ∧
    (r.currentId = r.sessions[p].id →
      (r.sessions.length = 1 → (r.remove r.sessions[p].id).currentId = "") ∧
      (∀ hnext : p + 1 < r.sessions.length,
        (r.remove r.sessions[p].id).currentId = r.sessions[p + 1].id) ∧
      (p + 1 = r.sessions.length → ∀ htwo : 2 ≤ r.sessions.length,
        (r.remove r.sessions[p].id).currentId = r.sessions[r.sessions.length - 2].id)) ∧
    (r.currentId ≠ r.sessions[p].id → (r.remove r.sessions[p].id).currentId = r.currentId) ∧
    (r.currentId ≠ "" → r.removeCurrent = r.remove r.currentId) := by
  have hrm := remove_of_indexOf?_some (hr.wellFormed.indexOf?_getElem hp)
  refine ⟨by simp [hrm], fun hcur => ⟨?_, ?_, ?_⟩, fun hcur => by simp [hrm, hcur],
    removeCurrent_of_ne⟩
  · intro hone
    simp [hrm, hcur, successorId_eraseIdx_of_single hone hp]
  · intro hnext
    simp [hrm, hcur, successorId_eraseIdx_of_lt hnext]
  · intro hlast htwo
    simp [hrm, hcur, successorId_eraseIdx_of_last hlast htwo]

/-- Two sessions opened, the second one active: removing it promotes the first. -/
theorem removing_active_last_promotes_previous :
    let a := ({} : Registry).create 0 "menu" "https://a.test"
    let b := a.2.create 0 "menu" "https://b.test"
    let h := record (record [] {} (.call (.create 0 "menu" "https://a.test")) (some a.1) a.2) a.2
      (.call (.create 0 "menu" "https://b.test")) (some b.1) b.2
    Reachable b.2 h ∧ ∃ hp : 1 < b.2.sessions.length,
      (b.2.remove b.2.sessions[1].id).sessions = b.2.sessions.eraseIdx 1 ∧
      (b.2.currentId = b.2.sessions[1].id →
        (b.2.sessions.length = 1 → (b.2.remove b.2.sessions[1].id).currentId = "") ∧
        (∀ hnext : 1 + 1 < b.2.sessions.length,
          (b.2.remove b.2.sessions[1].id).currentId = b.2.sessions[1 + 1].id) ∧
        (1 + 1 = b.2.sessions.length → ∀ htwo : 2 ≤ b.2.sessions.length,
          (b.2.remove b.2.sessions[1].id).currentId = b.2.sessions[b.2.sessions.length - 2].id)) ∧
      (b.2.currentId ≠ b.2.sessions[1].id →
        (b.2.remove b.2.sessions[1].id).currentId = b.2.currentId) ∧
      (b.2.currentId ≠ "" → b.2.removeCurrent = b.2.remove b.2.currentId) := by
  intro a b h
  have ha : Reachable a.2 _ :=
    .step (.call (.create 0 "menu" "https://a.test")) .empty rfl (by simp [issued])
  have hb : Reachable b.2 h :=
    .step (.call (.create 0 "menu" "https://b.test")) ha rfl (by simp [issued]; decide)
  have hp : 1 < b.2.sessions.length := by decide
  exact ⟨hb, hp, remove_deletes_position_and_promotes hb hp⟩

end BrowserSessions.Registry
