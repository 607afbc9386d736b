import BrowserSessions.Api.App

/-!
# What the layers leave to the routes

A request reaches the service's state only through its route. Registry work changes nothing
but the registry, the hub and the metrics (`Service.submit_snd`), and handing snapshots to the
hub keeps the sessions the work left (`Service.sessions_commit`); the layers in front of the
routes answer some requests themselves, never with `200`, and otherwise hand the route's answer
on unchanged but for its headers, with the route's service counted in the metrics
(`App.inner_cases`, `App.pass_cases`). So serving a request leaves the service as its route
leaves it, once the clock is set and the request counted, or as it was (`App.serve_cases`).
-/

namespace BrowserSessions.Api

open Http

/-! ## Registry work -/

/-- Delivery to observers that leave the registry alone leaves it as it was. -/
theorem deliver_fst {σ : Type} {observe : Nat → Snapshot → Registry × σ → Registry × σ}
    (hobs : ∀ sub snap st, (observe sub snap st).1 = st.1) (snap : Snapshot) :
    ∀ (subs : List Nat) (st : Registry × σ), (Registry.deliver observe snap subs st).1 = st.1
  | [], _ => rfl
  | sub :: rest, st => by
    simp only [Registry.deliver]
    split
    · rfl
    · rw [deliver_fst hobs snap rest, hobs]

namespace Service

variable {α : Type} (svc : Service) (c : Bool) (task : Registry → Except CallError (α × Registry))

@[simp] theorem catalog_commit (before : Nat) (r : Registry) :
    (svc.commit before r).catalog = svc.catalog := rfl

@[simp] theorem settings_commit (before : Nat) (r : Registry) :
    (svc.commit before r).settings = svc.settings := rfl

/-- The hub is handed snapshots without touching the registry, so committing keeps the sessions
    the work left. -/
@[simp] theorem sessions_commit (before : Nat) (r : Registry) :
    (svc.commit before r).loop.registry.sessions = r.sessions := by
  unfold commit Registry.settle
  dsimp only
  split
  · rfl
  · rw [deliver_fst]
    intro sub snap st
    split <;> rfl

/-- Work on the registry leaves the service as it was, or commits what the registry became. -/
theorem submit_snd :
    (svc.submit c task).2 = svc ∨
      ∃ a r, task svc.loop.registry = .ok (a, r) ∧
        (svc.submit c task).2 = svc.commit svc.loop.registry.version r := by
  unfold submit
  split
  · exact .inl rfl
  · split
    · exact .inl rfl
    · split
      · exact .inl rfl
      · rename_i a r htask
        exact .inr ⟨a, r, htask, rfl⟩

@[simp] theorem catalog_submit : (svc.submit c task).2.catalog = svc.catalog := by
  rcases submit_snd svc c task with h | ⟨a, r, -, h⟩ <;> simp [h]

@[simp] theorem settings_submit : (svc.submit c task).2.settings = svc.settings := by
  rcases submit_snd svc c task with h | ⟨a, r, -, h⟩ <;> simp [h]

@[simp] theorem catalog_call (op : String) : (svc.call c op task).2.catalog = svc.catalog :=
  catalog_submit svc c task

@[simp] theorem settings_call (op : String) : (svc.call c op task).2.settings = svc.settings :=
  settings_submit svc c task

/-- Work on the registry leaves its sessions as they were, or as the work left them. -/
theorem sessions_submit :
    (svc.submit c task).2.loop.registry.sessions = svc.loop.registry.sessions ∨
      ∃ a r, task svc.loop.registry = .ok (a, r) ∧
        (svc.submit c task).2.loop.registry.sessions = r.sessions := by
  rcases submit_snd svc c task with h | ⟨a, r, htask, h⟩
  · exact .inl (by rw [h])
  · exact .inr ⟨a, r, htask, by rw [h, sessions_commit]⟩

theorem sessions_call (op : String) :
    (svc.call c op task).2.loop.registry.sessions = svc.loop.registry.sessions ∨
      ∃ a r, task svc.loop.registry = .ok (a, r) ∧
        (svc.call c op task).2.loop.registry.sessions = r.sessions :=
  sessions_submit svc c task

end Service

@[simp] theorem answer_snd {α : Type} (result : Except CallError α) (svc : Service)
    (ok : α → Response) : (answer result svc ok).2 = svc := by
  cases result <;> rfl

/-! ## Headers -/

/-- Setting headers changes neither the status nor the body. -/
theorem foldl_setValues (hs : List (String × List String)) (r : Response) :
    (hs.foldl (fun acc h => acc.setValues h.1 h.2) r).status = r.status ∧
      (hs.foldl (fun acc h => acc.setValues h.1 h.2) r).body = r.body := by
  induction hs generalizing r with
  | nil => exact ⟨rfl, rfl⟩
  | cons h hs ih =>
    obtain ⟨hst, hbody⟩ := ih (r.setValues h.1 h.2)
    have hset : (r.setValues h.1 h.2).status = r.status ∧ (r.setValues h.1 h.2).body = r.body := by
      unfold Response.setValues
      dsimp only
      split <;> exact ⟨rfl, rfl⟩
    exact ⟨hst.trans hset.1, hbody.trans hset.2⟩

@[simp] theorem status_withHeaders (hs : List (String × List String)) (r : Response) :
    (withHeaders hs r).status = r.status :=
  (foldl_setValues r.headers _).1

@[simp] theorem body_withHeaders (hs : List (String × List String)) (r : Response) :
    (withHeaders hs r).body = r.body :=
  (foldl_setValues r.headers _).2

/-! ## The layers -/

namespace App

variable {app : App} {req : Request} {now : Nat}

@[simp] theorem service_throttle (app : App) (req : Request) (now : Nat) :
    (app.throttle req now).2.service = app.service := by
  unfold throttle
  split <;> rfl

@[simp] theorem service_identify (app : App) (req : Request) (now : Nat) :
    (app.identify req now).2.service = app.service := by
  unfold identify
  split
  · rfl
  · dsimp only
    split <;> rfl

/-- The layers below monitoring answer themselves, never with `200`, and keep the service; or
    they run the route. -/
theorem inner_cases (app : App) (req : Request) (route : Option (Endpoint × List (String × Bytes)))
    (now : Nat) :
    ((app.inner req route now).2.2.service = app.service ∧
      ∀ r ∈ (app.inner req route now).1, r.status ≠ 200) ∨
    ∃ e params, route = some (e, params) ∧
      (app.inner req route now).1 = some (runEndpoint e app.service req params).1 ∧
      (app.inner req route now).2.2.service = (runEndpoint e app.service req params).2 := by
  unfold App.inner
  simp only
  -- refused and preflight requests, then the request limit, then the route
  split
  · exact .inl ⟨rfl, by simp⟩
  · exact .inl ⟨rfl, by simp⟩
  · split
    · exact .inl ⟨by simp, by simp [rateLimited, Response.ofJson]⟩
    · split
      · exact .inr ⟨_, _, rfl, by simp, by simp⟩
      · exact .inl ⟨by simp, by simp⟩

/-- Passing a request through the layers answers as the route does and leaves the service as the
    route does, or answers without `200` and keeps the service; monitoring then counts the
    request in the metrics. -/
theorem pass_cases (app : App) (req : Request)
    (route : Option (Endpoint × String × List (String × Bytes))) (now : Nat) :
    ((app.pass req route now).2.service =
        { app.service with metrics := (app.pass req route now).2.service.metrics } ∧
      (app.pass req route now).1.status ≠ 200) ∨
    ∃ e pattern params, route = some (e, pattern, params) ∧
      (app.pass req route now).1.status = (runEndpoint e app.service req params).1.status ∧
      (app.pass req route now).1.body = (runEndpoint e app.service req params).1.body ∧
      (app.pass req route now).2.service =
        { (runEndpoint e app.service req params).2 with
          metrics := (app.pass req route now).2.service.metrics } := by
  unfold pass
  dsimp only
  have hid := service_identify app req now
  generalize app.identify req now = ids at hid ⊢
  generalize hr : Option.map (fun x => (x.fst, x.2.snd)) route = route'
  rcases inner_cases ids.2 req route' now with ⟨hsvc, hst⟩ | ⟨e, params, rfl, hw, hsvc⟩
  · generalize ids.2.inner req route' now = res at hsvc hst ⊢
    refine .inl ⟨by simp only [hsvc, hid], ?_⟩
    rw [status_withHeaders]
    cases hres : res.1 with
    | none => simp [notFound]
    | some r => exact hst r hres
  · obtain ⟨⟨e', pattern, params'⟩, hroute, heq⟩ := Option.map_eq_some_iff.1 hr
    cases heq
    refine .inr ⟨e', pattern, params', hroute, ?_, ?_, ?_⟩
    · simp [hw, hid]
    · simp [hw, hid]
    · simp only [hsvc, hid]

/-- A request without a route is answered without `200` and keeps the service. -/
theorem pass_unrouted (app : App) (req : Request) (now : Nat) :
    (app.pass req none now).2.service =
        { app.service with metrics := (app.pass req none now).2.service.metrics } ∧
      (app.pass req none now).1.status ≠ 200 := by
  rcases pass_cases app req none now with h | ⟨_, _, _, h, -⟩
  · exact h
  · cases h

/-- Whether the app sends a request to an endpoint. -/
def Routes (app : App) (req : Request) (e : Endpoint) : Prop :=
  ∃ m pattern, app.router.find req.method req.path = some m ∧ m.handler = some (e, pattern)

theorem Routes.unique {e₁ e₂ : Endpoint} (h₁ : app.Routes req e₁) (h₂ : app.Routes req e₂) :
    e₁ = e₂ := by
  obtain ⟨m₁, p₁, hfind₁, hm₁⟩ := h₁
  obtain ⟨m₂, p₂, hfind₂, hm₂⟩ := h₂
  obtain rfl : m₁ = m₂ := Option.some.inj (hfind₁.symm.trans hfind₂)
  rw [hm₁] at hm₂
  exact (Prod.mk.inj (Option.some.inj hm₂)).1

/-- Serving a request answers as the route it is sent to does and leaves the service as that
    route does, or answers without `200` and keeps the service; either way with the clock set
    and the request counted. -/
theorem serve_cases (app : App) (req : Request) (now : Nat) :
    ((app.serve req now).2.service =
        { app.service with clock := now, metrics := (app.serve req now).2.service.metrics } ∧
      (app.serve req now).1.status ≠ 200) ∨
    ∃ e, app.Routes req e ∧ ∃ params,
      (app.serve req now).1.status =
        (runEndpoint e { app.service with clock := now } req params).1.status ∧
      (app.serve req now).1.body = (runEndpoint e { app.service with clock := now } req params).1.body ∧
      (app.serve req now).2.service =
        { (runEndpoint e { app.service with clock := now } req params).2 with
          metrics := (app.serve req now).2.service.metrics } := by
  unfold serve
  dsimp only
  split
  · rename_i e pattern params _ hfind
    rcases pass_cases { app with service := { app.service with clock := now } } req
        (some (e, pattern, params)) now with ⟨h1, h2⟩ | ⟨e', pattern', params', hroute, h1, h2, h3⟩
    · exact .inl ⟨h1, h2⟩
    · cases hroute
      exact .inr ⟨e, ⟨_, pattern, hfind, rfl⟩, params, h1, h2, h3⟩
  · split
    · -- the redirect to the path with its trailing slash changed
      refine .inl ⟨rfl, ?_⟩
      simp only [slashRedirect]
      split <;> simp_all
    · exact .inl (pass_unrouted _ req now)
  · exact .inl (pass_unrouted _ req now)

/-- One request served, at some instant. -/
def Serves (app app' : App) : Prop := ∃ req now, app' = (app.serve req now).2

end App

end BrowserSessions.Api
