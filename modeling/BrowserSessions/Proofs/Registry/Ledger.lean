import BrowserSessions.Proofs.Registry.WellFormed
import BrowserSessions.Proofs.Registry.Quiet

/-!
# The list as a view of the history

The registry's list is exactly the history's live entries, in the order the sessions were made,
each shown as it was made but at its current address. So no call reorders, duplicates or brings
back a session, removing all sessions empties the list, and a listed session keeps its
identifier, source, blocking flag, creation time and payload, while its address is the one it was
made with or the one the last published change of that identifier gave it.

The registry rebuilds its list by appending, erasing a position and setting a position; the
history instead marks entries by identifier. The two agree because listed identifiers are
distinct (`WellFormed`): erasing the position of an identifier is filtering it out, and setting
it is mapping over the list.
-/

namespace BrowserSessions.Registry

/-! ## What the history shows -/

section Shown

variable (h : List Entry)

@[simp] theorem shown?_ofMade (s : Session) : (Entry.ofMade s).shown? = some s := by
  simp [Entry.ofMade, Entry.shown?]

theorem shown_removeId (id : String) :
    (h.map (Entry.removeId id)).filterMap Entry.shown? =
      (h.filterMap Entry.shown?).filter (·.id != id) := by
  induction h with
  | nil => rfl
  | cons e h ih =>
    by_cases he : e.made.id = id <;> cases hl : e.live <;>
      simp [Entry.removeId, Entry.shown?, he, hl, ih]

theorem shown_moveId (id url : String) :
    (h.map (Entry.moveId id url)).filterMap Entry.shown? =
      (h.filterMap Entry.shown?).map fun s => if s.id = id then { s with url } else s := by
  induction h with
  | nil => rfl
  | cons e h ih =>
    by_cases he : e.made.id = id <;> cases hl : e.live <;>
      simp [Entry.moveId, Entry.shown?, he, hl, ih]

end Shown

/-! ## Positions of distinct identifiers -/

section Distinct

variable {l : List Session} {pos : Nat} {s : Session}

/-- With distinct identifiers, erasing the position of an identifier filters it out. -/
theorem eraseIdx_eq_filter (hnd : (l.map (·.id)).Nodup) (hs : l[pos]? = some s) :
    l.eraseIdx pos = l.filter (·.id != s.id) := by
  induction l generalizing pos with
  | nil => simp at hs
  | cons x l ih =>
    rw [List.map_cons, List.nodup_cons] at hnd
    cases pos with
    | zero =>
      simp only [List.getElem?_cons_zero, Option.some.injEq] at hs
      subst hs
      have hout : ∀ y ∈ l, (y.id != x.id) = true := fun y hy => by
        have hne : y.id ≠ x.id := fun h => hnd.1 (h ▸ List.mem_map_of_mem hy)
        simpa using hne
      simp [List.filter_eq_self.mpr hout]
    | succ pos =>
      simp only [List.getElem?_cons_succ] at hs
      have hne : x.id ≠ s.id := fun h =>
        hnd.1 (h ▸ List.mem_map_of_mem (List.mem_of_getElem? hs))
      simp [ih hnd.2 hs, hne]

/-- With distinct identifiers, changing the address at the position of an identifier changes it
wherever the identifier occurs. -/
theorem set_eq_map (hnd : (l.map (·.id)).Nodup) (hs : l[pos]? = some s) (url : String) :
    l.set pos { s with url } = l.map fun x => if x.id = s.id then { x with url } else x := by
  induction l generalizing pos with
  | nil => simp at hs
  | cons x l ih =>
    rw [List.map_cons, List.nodup_cons] at hnd
    cases pos with
    | zero =>
      simp only [List.getElem?_cons_zero, Option.some.injEq] at hs
      subst hs
      have hout : ∀ y ∈ l, y.id ≠ x.id := fun y hy h => hnd.1 (h ▸ List.mem_map_of_mem hy)
      have hkeep : (l.map fun y => if y.id = x.id then { y with url } else y) = l :=
        (List.map_congr_left fun y hy => if_neg (hout y hy)).trans (List.map_id' l)
      simp [hkeep]
    | succ pos =>
      simp only [List.getElem?_cons_succ] at hs
      have hne : x.id ≠ s.id := fun h =>
        hnd.1 (h ▸ List.mem_map_of_mem (List.mem_of_getElem? hs))
      simp [ih hnd.2 hs, hne]

end Distinct

/-! ## Each action, in the list and in the history -/

section Steps

variable {r r' : Registry} {h : List Entry} {made : Option Session}

theorem shown_made (made : Option Session) :
    (made.toList.map Entry.ofMade).filterMap Entry.shown? = made.toList := by
  cases made <;> simp

/-- Opening appends the session opened, if any. -/
theorem Opens.sessions_eq (ho : Opens r made r') : r'.sessions = r.sessions ++ made.toList := by
  cases ho with
  | nothing h₁ _ _ => simp [h₁]
  | session s he =>
    cases he with
    | add _ _ h₁ _ _ => simp [h₁]

/-- Removing an identifier from the list is marking it removed in the history. -/
theorem shown_after_remove (hw : r.WellFormed) (ih : r.sessions = h.filterMap Entry.shown?)
    (id : String) :
    (r.remove id).sessions = (h.map (Entry.removeId id)).filterMap Entry.shown? := by
  rw [shown_removeId, ← ih]
  cases hpos : r.indexOf? id with
  | none =>
    rw [remove_of_indexOf?_none hpos]
    -- no listed session has the identifier: the empty one is never listed
    refine (List.filter_eq_self.mpr fun x hx => ?_).symm
    have hne : x.id ≠ id := by
      rcases indexOf?_eq_none_iff.mp hpos with rfl | hall
      · exact fun h => hw.empty_not_mem (h ▸ List.mem_map_of_mem hx)
      · exact hall x hx
    simpa using hne
  | some pos =>
    obtain ⟨s, hs, rfl⟩ := getElem?_of_indexOf? hpos
    rw [remove_of_indexOf?_some hpos]
    simpa using eraseIdx_eq_filter hw.ids_nodup hs

/-- Re-addressing a session in the list is moving its entry in the history, when it publishes. -/
theorem shown_after_updateUrl (hw : r.WellFormed) (ih : r.sessions = h.filterMap Entry.shown?)
    {id url : String} (hrun : (Call.updateUrl id url).run r = .ok (made, r')) :
    r'.sessions =
      (h.map (Entry.update r r' (.call (.updateUrl id url)))).filterMap Entry.shown? := by
  simp only [Call.run] at hrun
  cases hpos : r.indexOf? id with
  | none =>
    rw [updateUrl_of_indexOf?_none hpos] at hrun
    cases hrun
    simp [Entry.update, ih]
  | some pos =>
    obtain ⟨s, hs, rfl⟩ := getElem?_of_indexOf? hpos
    rw [updateUrl_of_indexOf?_some hpos hs] at hrun
    by_cases hnoop : (Url.isInternalError url || Url.matchExceptTrailingSlash s.url url) = true
    · simp only [hnoop, if_true] at hrun
      cases hrun
      simp [Entry.update, ih]
    · simp only [hnoop] at hrun
      cases hrun
      simp only [Entry.update, version_publish, Nat.succ_ne_self, if_false, sessions_publish]
      rw [shown_moveId, ← ih]
      exact set_eq_map hw.ids_nodup hs url

end Steps

/-- In every registry reached from an empty one, each new session getting an identifier never
handed out before, the list is the live entries of the history in the order the sessions were
made, each as it was made but at the address its last published change gave it. -/
theorem Reachable.sessions_eq_shown {r : Registry} {h : List Entry} (hr : Reachable r h) :
    r.sessions = h.filterMap Entry.shown? := by
  induction hr with
  | empty => rfl
  | @step r r' h made a hprev hrun _ ih =>
    have hw := hprev.wellFormed
    rw [record, List.filterMap_append, shown_made]
    cases a with
    | subscribe =>
      cases hrun
      simp [Entry.update, subscribe, ih]
    | cancel sub =>
      cases hrun
      simp [Entry.update, unsubscribe, ih]
    | call c =>
      cases c with
      | create now source url =>
        cases hrun
        simp [Entry.update, ← ih]
      | createSearch now source url terms =>
        cases hrun
        simp [Entry.update, ← ih]
      | launch services now i restoring =>
        simp [Entry.update, ← ih, (opens_launch hrun).sessions_eq]
      | openIntent services now i =>
        simp [Entry.update, ← ih, (opens_openIntent hrun).sessions_eq]
      | select id =>
        have hsame : made = none ∧ r'.sessions = r.sessions := by
          simp only [Action.run, Call.run] at hrun
          split at hrun
          · rename_i r₁ hsel
            cases hrun
            unfold select at hsel
            split at hsel <;> cases hsel
            exact ⟨rfl, rfl⟩
          · cases hrun
            exact ⟨rfl, rfl⟩
        obtain ⟨rfl, hsame⟩ := hsame
        simp [Entry.update, ← ih, hsame]
      | remove id =>
        cases hrun
        simpa [Entry.update] using shown_after_remove hw ih id
      | removeCurrent =>
        cases hrun
        -- removing the active session is removing its identifier, the empty one included
        have hcur : r.removeCurrent = r.remove r.currentId := by
          unfold removeCurrent
          split
          · rename_i hc
            rw [remove_of_indexOf?_none (by simp [indexOf?, hc])]
          · rfl
        simpa [Entry.update, hcur] using shown_after_remove hw ih r.currentId
      | removeAll =>
        cases hrun
        simp [Entry.update, removeAll, Entry.shown?]
      | updateUrl id url =>
        have hmade : made = none := by
          simp only [Action.run, Call.run] at hrun
          split at hrun <;> cases hrun <;> rfl
        subst hmade
        simpa using shown_after_updateUrl hw ih hrun

/-- Two sessions opened and the first removed: the list is the second one. -/
theorem sessions_eq_shown_after_removing_first :
    let a := ({} : Registry).create 0 "menu" "https://example.org"
    let b := a.2.create 0 "share" "https://example.net"
    let r := b.2.remove a.1.id
    let h := record (record (record [] {} (.call (.create 0 "menu" "https://example.org"))
      (some a.1) a.2) a.2 (.call (.create 0 "share" "https://example.net")) (some b.1) b.2)
      b.2 (.call (.remove a.1.id)) none r
    Reachable r h ∧ r.sessions = h.filterMap Entry.shown? := by
  intro a b r h
  have ha : Reachable a.2 _ :=
    .step (.call (.create 0 "menu" "https://example.org")) .empty rfl (by simp [issued])
  have hb : Reachable b.2 _ :=
    .step (.call (.create 0 "share" "https://example.net")) ha rfl (by simp [issued]; decide)
  have hr : Reachable r h := .step (.call (.remove a.1.id)) hb rfl (by simp)
  exact ⟨hr, hr.sessions_eq_shown⟩

end BrowserSessions.Registry
