import BrowserSessions.Launch

/-!
# Registry calls

The calls a client makes on the session registry, gathered into one type so that a run of the
registry is a sequence of them, and what each call does to the three things a snapshot shows:
the list of sessions, the active identifier and the version.

`Effect` says once, for every call, which of six things happened:

1. nothing a snapshot shows changed;
2. a session with a non-empty identifier was appended and made active;
3. a listed session was made active;
4. a listed session was removed, its successor promoted when it was the active one;
5. the list was cleared;
6. one listed session's address was replaced.

`Call.effect` proves that every call that returns does one of these, so the invariants of the
registry are case analyses over `Effect`, not over the code of nine operations.
-/

namespace BrowserSessions.Registry

/-- A call a client makes on the registry, with its arguments. -/
inductive Call where
  /-- Open a plain session for an address. -/
  | create (now : Nat) (source url : String)
  /-- Open a session for a search. -/
  | createSearch (now : Nat) (source url terms : String)
  /-- Handle a launch intent, possibly seen while saved state is restored. -/
  | launch (services : LaunchServices) (now : Nat) (i : Intent) (restoring : Bool)
  /-- Handle an intent delivered to a running browser. -/
  | openIntent (services : LaunchServices) (now : Nat) (i : Intent)
  /-- Make the session with an identifier active. -/
  | select (id : String)
  /-- Remove the session with an identifier. -/
  | remove (id : String)
  /-- Remove the active session. -/
  | removeCurrent
  /-- Remove every session. -/
  | removeAll
  /-- Replace a session's address after navigation. -/
  | updateUrl (id url : String)

/-- Runs a call: the session it made, if any, and the registry after it. A refused selection or
address change hands its error to the caller and leaves the registry as it was; only a search
URL builder that panics on shared text fails the call itself. -/
def Call.run : Call → Registry → Except SearchPanic (Option Session × Registry)
  | .create now source url, r =>
    let (s, r) := r.create now source url
    .ok (some s, r)
  | .createSearch now source url terms, r =>
    let (s, r) := r.createSearch now source url terms
    .ok (some s, r)
  | .launch services now i restoring, r => r.launch services now i restoring
  | .openIntent services now i, r => r.openIntent services now i
  | .select id, r =>
    match r.select id with
    | .ok r' => .ok (none, r')
    | .error _ => .ok (none, r)
  | .remove id, r => .ok (none, r.remove id)
  | .removeCurrent, r => .ok (none, r.removeCurrent)
  | .removeAll, r => .ok (none, r.removeAll)
  | .updateUrl id url, r =>
    match r.updateUrl id url with
    | .ok (_, r') => .ok (none, r')
    | .error _ => .ok (none, r)

/-- Anything a caller does with the registry: a call, subscribing, or cancelling a
subscription. -/
inductive Action where
  | call (c : Call)
  | subscribe
  | cancel (sub : Nat)

/-- Runs an action; subscribing and cancelling make no session. -/
def Action.run : Action → Registry → Except SearchPanic (Option Session × Registry)
  | .call c, r => c.run r
  | .subscribe, r => .ok (none, r.subscribe.2)
  | .cancel sub, r => .ok (none, r.unsubscribe sub)

/-! ## Positions and identifiers -/

/-- The identifier that becomes active when the active session at `pos` is removed and `next` is
what is left: the session now at `pos`, or the last one when the removed one was at the end. -/
def successorId (next : List Session) (pos : Nat) : String :=
  match next.getLast? with
  | none => ""
  | some last => ((next.drop pos).head?.getD last).id

/-- The successor of a removed session is a session that is left, unless none is left. -/
theorem successorId_mem {next : List Session} (h : next ≠ []) (pos : Nat) :
    ∃ s ∈ next, s.id = successorId next pos := by
  obtain ⟨last, hlast⟩ := List.getLast?_isSome.mpr h |> Option.isSome_iff_exists.mp
  have hmem : last ∈ next := List.mem_of_getLast? hlast
  unfold successorId
  rw [hlast]
  cases hd : (next.drop pos).head? with
  | none => exact ⟨last, hmem, rfl⟩
  | some s => exact ⟨s, List.mem_of_mem_drop (List.mem_of_mem_head? hd), rfl⟩

theorem successorId_nil (pos : Nat) : successorId [] pos = "" := rfl

theorem indexOf?_eq_some_iff {r : Registry} {id : String} {pos : Nat} :
    r.indexOf? id = some pos ↔
      id ≠ "" ∧ ∃ h : pos < r.sessions.length, r.sessions[pos].id = id ∧
        ∀ j (hj : j < pos), r.sessions[j].id ≠ id := by
  simp [indexOf?, List.findIdx?_eq_some_iff_getElem, String.isEmpty_iff]

theorem indexOf?_eq_none_iff {r : Registry} {id : String} :
    r.indexOf? id = none ↔ id = "" ∨ ∀ s ∈ r.sessions, s.id ≠ id := by
  by_cases hid : id = ""
  · simp [indexOf?, hid]
  · simp [indexOf?, hid, List.findIdx?_eq_none_iff, String.isEmpty_iff]

/-- A found position holds a session with the identifier. -/
theorem getElem?_of_indexOf? {r : Registry} {id : String} {pos : Nat}
    (h : r.indexOf? id = some pos) :
    ∃ s, r.sessions[pos]? = some s ∧ s.id = id := by
  obtain ⟨-, hlt, hid, -⟩ := indexOf?_eq_some_iff.mp h
  exact ⟨r.sessions[pos], List.getElem?_eq_getElem hlt, hid⟩

/-- Session identifiers carry the session prefix, so none is empty. -/
theorem sessionId_ne_empty (v : Ulid.Value) :
    Identifier.withPrefix Identifier.sessionPrefix v ≠ "" := by
  simp [Identifier.withPrefix, Identifier.sessionPrefix, String.append_eq_empty_iff]

/-! ## Field lemmas of the building blocks -/

section Fields

variable (r : Registry)

@[simp] theorem sessions_publish (next : List Session) : (r.publish next).sessions = next := rfl
@[simp] theorem currentId_publish (next : List Session) :
    (r.publish next).currentId = r.currentId := rfl
@[simp] theorem version_publish (next : List Session) :
    (r.publish next).version = r.version + 1 := rfl
@[simp] theorem subscribers_publish (next : List Session) :
    (r.publish next).subscribers = r.subscribers := rfl
@[simp] theorem nextSubscriber_publish (next : List Session) :
    (r.publish next).nextSubscriber = r.nextSubscriber := rfl

@[simp] theorem sessions_recordIntent (a o : String) :
    (r.recordIntent a o).sessions = r.sessions := rfl
@[simp] theorem currentId_recordIntent (a o : String) :
    (r.recordIntent a o).currentId = r.currentId := rfl
@[simp] theorem version_recordIntent (a o : String) :
    (r.recordIntent a o).version = r.version := rfl

/-- Recording removals touches only the events. -/
theorem recordRemoved_eq (n : Nat) :
    ∃ events, r.recordRemoved n = { r with events } := by
  unfold recordRemoved
  split
  · exact ⟨r.events, rfl⟩
  · exact ⟨_, rfl⟩

@[simp] theorem sessions_recordRemoved (n : Nat) : (r.recordRemoved n).sessions = r.sessions := by
  obtain ⟨events, h⟩ := r.recordRemoved_eq n
  rw [h]
@[simp] theorem currentId_recordRemoved (n : Nat) :
    (r.recordRemoved n).currentId = r.currentId := by
  obtain ⟨events, h⟩ := r.recordRemoved_eq n
  rw [h]
@[simp] theorem version_recordRemoved (n : Nat) : (r.recordRemoved n).version = r.version := by
  obtain ⟨events, h⟩ := r.recordRemoved_eq n
  rw [h]

end Fields

/-! ## Effects -/

/-- What a call did to the list, the active identifier and the version, given the registry
`r` before it, the session it made and the registry after it. -/
inductive Effect (r : Registry) : Option Session → Registry → Prop where
  /-- Nothing a snapshot shows changed. -/
  | quiet {r' : Registry} : r'.sessions = r.sessions → r'.currentId = r.currentId →
      r'.version = r.version → Effect r none r'
  /-- A session with a non-empty identifier was appended and made active. -/
  | add {r' : Registry} (s : Session) : s.id ≠ "" → r'.sessions = r.sessions ++ [s] →
      r'.currentId = s.id → r'.version = r.version + 1 → Effect r (some s) r'
  /-- A listed session was made active. -/
  | select {r' : Registry} {pos : Nat} (id : String) : r.indexOf? id = some pos →
      r'.sessions = r.sessions → r'.currentId = id → r'.version = r.version + 1 →
      Effect r none r'
  /-- The session at a found position was removed; when it was active its successor is. -/
  | remove {r' : Registry} {pos : Nat} (id : String) : r.indexOf? id = some pos →
      r'.sessions = r.sessions.eraseIdx pos →
      r'.currentId =
        (if r.currentId = id then successorId (r.sessions.eraseIdx pos) pos else r.currentId) →
      r'.version = r.version + 1 → Effect r none r'
  /-- Every session was removed. -/
  | clear {r' : Registry} : r'.sessions = [] → r'.currentId = "" →
      r'.version = r.version + 1 → Effect r none r'
  /-- The address of the listed session at a position was replaced. -/
  | setUrl {r' : Registry} {pos : Nat} (s : Session) (url : String) : r.sessions[pos]? = some s →
      r'.sessions = r.sessions.set pos { s with url } → r'.currentId = r.currentId →
      r'.version = r.version + 1 → Effect r none r'

/-- An effect depends on the registry after it only through what a snapshot shows. -/
theorem Effect.congr {r r₁ r₂ : Registry} {made : Option Session} (h : Effect r made r₁)
    (hs : r₂.sessions = r₁.sessions) (hc : r₂.currentId = r₁.currentId)
    (hv : r₂.version = r₁.version) : Effect r made r₂ := by
  cases h with
  | quiet h₁ h₂ h₃ => exact .quiet (hs.trans h₁) (hc.trans h₂) (hv.trans h₃)
  | add s hid h₁ h₂ h₃ => exact .add s hid (hs.trans h₁) (hc.trans h₂) (hv.trans h₃)
  | select id hpos h₁ h₂ h₃ =>
    exact .select id hpos (hs.trans h₁) (hc.trans h₂) (hv.trans h₃)
  | remove id hpos h₁ h₂ h₃ =>
    exact .remove id hpos (hs.trans h₁) (hc.trans h₂) (hv.trans h₃)
  | clear h₁ h₂ h₃ => exact .clear (hs.trans h₁) (hc.trans h₂) (hv.trans h₃)
  | setUrl s url hs' h₁ h₂ h₃ =>
    exact .setUrl s url hs' (hs.trans h₁) (hc.trans h₂) (hv.trans h₃)

theorem Effect.recordIntent {r r' : Registry} {made : Option Session} (h : Effect r made r')
    (action outcome : String) : Effect r made (r'.recordIntent action outcome) :=
  h.congr rfl rfl rfl

/-- The registry itself is a quiet effect. -/
theorem Effect.refl (r : Registry) : Effect r none r := .quiet rfl rfl rfl

/-! ## The effect of each operation -/

theorem effect_create (r : Registry) (now : Nat) (source url : String) :
    Effect r (some (r.create now source url).1) (r.create now source url).2 :=
  .add _ (sessionId_ne_empty _) rfl rfl rfl

theorem effect_createSearch (r : Registry) (now : Nat) (source url terms : String) :
    Effect r (some (r.createSearch now source url terms).1)
      (r.createSearch now source url terms).2 :=
  .add _ (sessionId_ne_empty _) rfl rfl rfl

/-! ## What an intent can open

Every fact about the sessions intents open goes through these two inversions, so the code of
`openView` and `openShare` is split once. -/

section Opening

variable {r r' : Registry} {services : LaunchServices} {now : Nat} {i : Intent} {s : Session}

/-- A view that opens a session adds it, with its fresh non-empty identifier, to the registry
whose identifier generator made it. -/
theorem openView_eq_some (h : r.openView services now i = some (s, r')) :
    i.data ≠ "" ∧ s.id ≠ "" ∧ ∃ ids, r' = (({ r with ids } : Registry).add s).2 := by
  unfold openView at h
  split at h
  · cases h
  · rename_i hne
    have hdata : i.data ≠ "" := by simpa [String.isEmpty_iff] using hne
    -- a custom tab and a plain view differ only in the session's source and payload
    split at h
    · cases h
      exact ⟨hdata, sessionId_ne_empty _, _, rfl⟩
    · cases h
      exact ⟨hdata, sessionId_ne_empty _, _, rfl⟩

/-- Shared text that opens a session is not empty, and opens a plain session at the text when
the classifier takes it for an address, and otherwise a search for it at the address the
builder made. -/
theorem openShare_eq_some (h : r.openShare services now i = .ok (some (s, r'))) :
    i.stringExtra Intent.extraText ≠ "" ∧
      (services.isUrl (i.stringExtra Intent.extraText) = true ∧
          s = (r.create now "share" (i.stringExtra Intent.extraText)).1 ∧
          r' = (r.create now "share" (i.stringExtra Intent.extraText)).2 ∨
        services.isUrl (i.stringExtra Intent.extraText) = false ∧
          ∃ b url, services.searchUrls = some b ∧
            b.build (i.stringExtra Intent.extraText) = .ok url ∧
            s = (r.createSearch now "share" url (i.stringExtra Intent.extraText)).1 ∧
            r' = (r.createSearch now "share" url (i.stringExtra Intent.extraText)).2) := by
  unfold openShare at h
  dsimp only at h
  split at h
  · cases h
  · rename_i hne
    have htext : i.stringExtra Intent.extraText ≠ "" := by simpa [String.isEmpty_iff] using hne
    split at h
    · rename_i hl
      cases h
      exact ⟨htext, .inl ⟨hl, rfl, rfl⟩⟩
    · rename_i hl
      split at h
      · cases h
      · rename_i b hb
        split at h
        · rename_i url hurl
          cases h
          exact ⟨htext, .inr ⟨by simpa using hl, b, url, hb, hurl, rfl, rfl⟩⟩
        · cases h

theorem effect_openView (h : r.openView services now i = some (s, r')) : Effect r (some s) r' := by
  obtain ⟨-, hid, ids, rfl⟩ := openView_eq_some h
  exact .add s hid rfl rfl rfl

theorem effect_openShare (h : r.openShare services now i = .ok (some (s, r'))) :
    Effect r (some s) r' := by
  obtain ⟨-, ⟨-, rfl, rfl⟩ | ⟨-, b, url, -, -, rfl, rfl⟩⟩ := openShare_eq_some h
  · exact effect_create r now _ _
  · exact effect_createSearch r now _ _ _

end Opening

/-- What handling an intent does: nothing a snapshot shows changes and no session is made, or
one session is opened. -/
inductive Opens (r : Registry) : Option Session → Registry → Prop where
  | nothing {r' : Registry} : r'.sessions = r.sessions → r'.currentId = r.currentId →
      r'.version = r.version → Opens r none r'
  | session {r' : Registry} (s : Session) : Effect r (some s) r' → Opens r (some s) r'

theorem Opens.effect {r r' : Registry} {made : Option Session} (h : Opens r made r') :
    Effect r made r' := by
  cases h with
  | nothing h₁ h₂ h₃ => exact .quiet h₁ h₂ h₃
  | session s he => exact he

theorem Opens.recordIntent {r r' : Registry} {made : Option Session} (h : Opens r made r')
    (action outcome : String) : Opens r made (r'.recordIntent action outcome) := by
  cases h with
  | nothing h₁ h₂ h₃ => exact .nothing h₁ h₂ h₃
  | session s he => exact .session s (he.recordIntent action outcome)

/-- An intent handled without opening anything leaves the registry as a snapshot shows it. -/
theorem opens_ignored (r : Registry) (action outcome : String) :
    Opens r none (r.recordIntent action outcome) :=
  .nothing rfl rfl rfl

/-- How the session an intent opened, if any, becomes the call's result: the outcome is recorded
on the registry the session was added to, or on the registry before when nothing was opened, and
it is `created` exactly when a session was opened. -/
theorem recorded_cases {r : Registry} {a : String} {opened : Option (Session × Registry)}
    {made : Option Session} {r' : Registry}
    (h : (match opened with
      | some (s, r₁) =>
        (Except.ok (some s, r₁.recordIntent a "created") : Except SearchPanic _)
      | none =>
        .ok (none, r.recordIntent a (if a == Intent.actionMain then "launcher" else "ignored"))) =
        .ok (made, r')) :
    ∃ r₁ outcome, r' = r₁.recordIntent a outcome ∧ (outcome = "created" ↔ made.isSome) ∧
      ((made = none ∧ r₁ = r ∧ opened = none) ∨ ∃ s, made = some s ∧ opened = some (s, r₁)) := by
  cases opened with
  | none =>
    cases h
    -- neither outcome of an intent that opened nothing reads `created`
    refine ⟨r, _, rfl, ?_, .inl ⟨rfl, rfl, rfl⟩⟩
    split <;> simp
  | some p =>
    obtain ⟨s, r₁⟩ := p
    cases h
    exact ⟨r₁, _, rfl, by simp, .inr ⟨s, rfl, rfl⟩⟩

/-- Handling an intent records one outcome on the registry it leaves: the one before, when it
opened nothing, or the one the opened session was added to; the outcome is `created` exactly
when a session was opened. -/
theorem openIntent_recorded {r r' : Registry} {services : LaunchServices} {now : Nat} {i : Intent}
    {made : Option Session} (h : r.openIntent services now i = .ok (made, r')) :
    ∃ r₁ outcome, r' = r₁.recordIntent i.action outcome ∧ (outcome = "created" ↔ made.isSome) ∧
      ((made = none ∧ r₁ = r) ∨
        ∃ s, made = some s ∧
          (r.openView services now i = some (s, r₁) ∨
            r.openShare services now i = .ok (some (s, r₁)))) := by
  unfold openIntent at h
  by_cases hview : i.action == Intent.actionView
  · simp only [hview, if_true] at h
    obtain ⟨r₁, outcome, rfl, hout, ⟨hm, hr, -⟩ | ⟨s, hm, hv⟩⟩ := recorded_cases h
    · exact ⟨r₁, outcome, rfl, hout, .inl ⟨hm, hr⟩⟩
    · exact ⟨r₁, outcome, rfl, hout, .inr ⟨s, hm, .inl hv⟩⟩
  · simp only [hview, Bool.false_eq_true, if_false] at h
    by_cases hsend : i.action == Intent.actionSend
    · simp only [hsend, if_true] at h
      cases hs : r.openShare services now i with
      | error e => simp [hs, bind, Except.bind] at h
      | ok opened =>
        simp only [hs, bind, Except.bind] at h
        obtain ⟨r₁, outcome, rfl, hout, ⟨hm, hr, -⟩ | ⟨s, hm, hopened⟩⟩ := recorded_cases h
        · exact ⟨r₁, outcome, rfl, hout, .inl ⟨hm, hr⟩⟩
        · exact ⟨r₁, outcome, rfl, hout, .inr ⟨s, hm, .inr (by rw [hopened])⟩⟩
    · simp only [hsend, Bool.false_eq_true, if_false, bind, Except.bind] at h
      cases h
      exact ⟨r, _, rfl, by split <;> simp, .inl ⟨rfl, rfl⟩⟩

/-- Handling an intent records its outcome on the registry it leaves: the one before, when it
opened nothing, or the one the opened session was added to. -/
theorem openIntent_cases {r r' : Registry} {services : LaunchServices} {now : Nat} {i : Intent}
    {made : Option Session} (h : r.openIntent services now i = .ok (made, r')) :
    ∃ r₁ outcome, r' = r₁.recordIntent i.action outcome ∧
      ((made = none ∧ r₁ = r) ∨
        ∃ s, made = some s ∧
          (r.openView services now i = some (s, r₁) ∨
            r.openShare services now i = .ok (some (s, r₁)))) := by
  obtain ⟨r₁, outcome, hr, -, hcases⟩ := openIntent_recorded h
  exact ⟨r₁, outcome, hr, hcases⟩

/-- A launch intent is either ignored, with its outcome recorded, or handled as a new intent. -/
theorem launch_cases {r r' : Registry} {services : LaunchServices} {now : Nat} {i : Intent}
    {restoring : Bool} {made : Option Session}
    (h : r.launch services now i restoring = .ok (made, r')) :
    (∃ outcome, outcome ≠ "created" ∧ made = none ∧ r' = r.recordIntent i.action outcome) ∨
      r.openIntent services now i = .ok (made, r') := by
  unfold launch at h
  split at h
  · cases h
    exact .inl ⟨_, by decide, rfl, rfl⟩
  · split at h
    · cases h
      exact .inl ⟨_, by decide, rfl, rfl⟩
    · exact .inr h

theorem opens_openIntent {r r' : Registry} {services : LaunchServices} {now : Nat} {i : Intent}
    {made : Option Session} (h : r.openIntent services now i = .ok (made, r')) :
    Opens r made r' := by
  obtain ⟨r₁, outcome, rfl, ⟨rfl, rfl⟩ | ⟨s, rfl, hv | hs⟩⟩ := openIntent_cases h
  · exact opens_ignored _ _ _
  · exact .session s ((effect_openView hv).recordIntent _ _)
  · exact .session s ((effect_openShare hs).recordIntent _ _)

theorem opens_launch {r r' : Registry} {services : LaunchServices} {now : Nat} {i : Intent}
    {restoring : Bool} {made : Option Session}
    (h : r.launch services now i restoring = .ok (made, r')) : Opens r made r' := by
  rcases launch_cases h with ⟨outcome, -, rfl, rfl⟩ | h
  · exact opens_ignored r _ _
  · exact opens_openIntent h

/-- A selection that succeeds found the identifier, made it active and published the list
unchanged. -/
theorem select_eq_ok {r r' : Registry} {id : String} (h : r.select id = .ok r') :
    ∃ pos, r.indexOf? id = some pos ∧
      r' = ({ r with currentId := id } : Registry).publish r.sessions := by
  unfold select at h
  split at h
  · rename_i hid
    cases h
    obtain ⟨pos, hpos⟩ := Option.isSome_iff_exists.mp hid
    exact ⟨pos, hpos, rfl⟩
  · cases h

theorem effect_select {r r' : Registry} {id : String} (h : r.select id = .ok r') :
    Effect r none r' := by
  obtain ⟨pos, hpos, rfl⟩ := select_eq_ok h
  exact .select id hpos rfl rfl rfl

theorem remove_of_indexOf?_none {r : Registry} {id : String} (h : r.indexOf? id = none) :
    r.remove id = r := by
  unfold remove
  rw [h]

theorem remove_of_indexOf?_some {r : Registry} {id : String} {pos : Nat}
    (h : r.indexOf? id = some pos) :
    r.remove id =
      ({ r with currentId :=
          if r.currentId = id then successorId (r.sessions.eraseIdx pos) pos
          else r.currentId }.recordRemoved 1).publish (r.sessions.eraseIdx pos) := by
  unfold remove
  rw [h]
  simp only [beq_iff_eq]
  rfl

theorem effect_remove (r : Registry) (id : String) : Effect r none (r.remove id) := by
  cases hpos : r.indexOf? id with
  | none =>
    rw [remove_of_indexOf?_none hpos]
    exact .refl r
  | some pos =>
    rw [remove_of_indexOf?_some hpos]
    exact .remove id hpos (by simp) (by simp) (by simp)

/-- Removing the active session is removing its identifier: when no session is active that
identifier is the empty one, which no session has. -/
theorem removeCurrent_eq_remove (r : Registry) : r.removeCurrent = r.remove r.currentId := by
  unfold removeCurrent
  split
  · rename_i hc
    rw [remove_of_indexOf?_none (by simp [indexOf?, hc])]
  · rfl

theorem effect_removeCurrent (r : Registry) : Effect r none r.removeCurrent := by
  rw [removeCurrent_eq_remove]
  exact effect_remove r _

theorem effect_removeAll (r : Registry) : Effect r none r.removeAll :=
  .clear (by simp [removeAll]) (by simp [removeAll]) (by simp [removeAll])

/-- An address change that succeeds found the session. It leaves the registry as it was when the
new address is an internal error page or differs from the old one only by a trailing slash, and
otherwise publishes the list with that session's address replaced. -/
theorem updateUrl_eq_ok {r r' : Registry} {id url : String} {s : Session}
    (h : r.updateUrl id url = .ok (s, r')) :
    ∃ pos s₀, r.indexOf? id = some pos ∧ r.sessions[pos]? = some s₀ ∧
      ((Url.isInternalError url || Url.matchExceptTrailingSlash s₀.url url) = true ∧
          s = s₀ ∧ r' = r ∨
        (Url.isInternalError url || Url.matchExceptTrailingSlash s₀.url url) = false ∧
          s = { s₀ with url } ∧ r' = r.publish (r.sessions.set pos { s₀ with url })) := by
  unfold updateUrl at h
  split at h
  · cases h
  · rename_i pos hpos
    split at h
    · cases h
    · rename_i s₀ hs₀
      split at h
      · rename_i hsame
        obtain ⟨hs, hr⟩ := Prod.mk.inj (Except.ok.inj h)
        exact ⟨pos, s₀, hpos, hs₀, .inl ⟨hsame, hs.symm, hr.symm⟩⟩
      · rename_i hsame
        cases h
        exact ⟨pos, s₀, hpos, hs₀, .inr ⟨by simpa using hsame, rfl, rfl⟩⟩

theorem effect_updateUrl {r r' : Registry} {id url : String} {s : Session}
    (h : r.updateUrl id url = .ok (s, r')) : Effect r none r' := by
  obtain ⟨pos, s₀, -, hs₀, ⟨-, -, rfl⟩ | ⟨-, -, rfl⟩⟩ := updateUrl_eq_ok h
  · exact .refl _
  · exact .setUrl s₀ url hs₀ rfl rfl rfl

/-- Every call that returns has one of the six effects. -/
theorem Call.effect {c : Call} {r r' : Registry} {made : Option Session}
    (h : c.run r = .ok (made, r')) : Effect r made r' := by
  cases c with
  | create now source url =>
    cases h
    exact effect_create r now source url
  | createSearch now source url terms =>
    cases h
    exact effect_createSearch r now source url terms
  | launch services now i restoring => exact (opens_launch h).effect
  | openIntent services now i => exact (opens_openIntent h).effect
  | select id =>
    simp only [Call.run] at h
    split at h
    · rename_i r₁ hsel
      cases h
      exact effect_select hsel
    · cases h
      exact .refl r
  | remove id =>
    cases h
    exact effect_remove r id
  | removeCurrent =>
    cases h
    exact effect_removeCurrent r
  | removeAll =>
    cases h
    exact effect_removeAll r
  | updateUrl id url =>
    simp only [Call.run] at h
    split at h
    · rename_i s r₁ hup
      cases h
      exact effect_updateUrl hup
    · cases h
      exact .refl r

/-- Subscribing and cancelling change nothing a snapshot shows. -/
theorem Action.effect {a : Action} {r r' : Registry} {made : Option Session}
    (h : a.run r = .ok (made, r')) : Effect r made r' := by
  cases a with
  | call c => exact Call.effect h
  | subscribe =>
    cases h
    exact .quiet rfl rfl rfl
  | cancel sub =>
    cases h
    exact .quiet rfl rfl rfl

end BrowserSessions.Registry
