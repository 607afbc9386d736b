import Mathlib.Logic.Relation
import BrowserSessions.Proofs.Search.Default
import BrowserSessions.Proofs.Api.Layers

/-!
# The engine in use

Searches go to the default engine of the service's engines (`Service.engines`): the catalog
with the name the user picked as preference. No route changes the catalog, and no route but the
engine setting changes the preference (`runEndpoint_engines`). The engine setting either refuses
with `400` and changes nothing, or finds the engine the name stands for, records that engine's
name and answers with it (`setSearchEngine_cases`). The layers in front of the routes (request
identifiers, cross-origin policy, request limit, monitoring, redirects) touch neither
(`App.serve_cases`).

So serving requests changes the engine in use only through a request that the engine setting
answers with `200` (`App.PicksEngine`). After such a pick the engine in use is the first engine
answering to the picked engine's name, until the next pick (`default_engine_resolution`); it is
the picked engine when no other engine answers to its name, and then also the catalog's default
engine is the one its default names. When names overlap, both fail
(`engine_in_use_of_overlapping_names`).
-/

namespace BrowserSessions.Api

open Http

/-! ## Routes -/

/-- No route but the engine setting changes the engines. -/
theorem runEndpoint_engines {e : Endpoint} (he : e ≠ .setSearchEngine) (svc : Service)
    (req : Request) (params : List (String × Bytes)) :
    (runEndpoint e svc req params).2.engines = svc.engines := by
  -- every other route answers without work, changes fields besides the catalog and the
  -- settings, or hands its work to the registry
  cases e
  case setSearchEngine => exact absurd rfl he
  all_goals simp only [runEndpoint, health, listSessions, createSession, removeAllSessions,
    currentSession, removeCurrentSession, createSearchSession, loadInput, getSession, removeSession,
    selectSession, updateUrl, handleIntent, suggestions, setSearchSuggestions, addDomain,
    removeDomains, moveDomain, logLevel]
  all_goals repeat' split
  all_goals simp [Service.engines, Settings.setSuggestions]

/-- The body the engine setting answers with when it picks an engine. -/
def engineAnswer (e : Search.Engine) : Json :=
  .obj [("success", .bool true), ("engine", e.toJson)]

/-- The engine setting refuses with `400` and changes nothing, or finds the engine the name
    stands for, records that engine's name and answers with the engine. -/
theorem setSearchEngine_cases (svc : Service) (req : Request) :
    (setSearchEngine svc req).1.status = 400 ∧ (setSearchEngine svc req).2 = svc ∨
    ∃ name e, svc.engines.engine? name = some e ∧
      (setSearchEngine svc req).1 = Response.ofJson 200 (engineAnswer e) ∧
      (setSearchEngine svc req).2 = { svc with settings := svc.settings.setDefaultEngine e.name } := by
  unfold setSearchEngine
  split
  · exact .inl ⟨rfl, rfl⟩
  · dsimp only
    split
    · exact .inl ⟨rfl, rfl⟩
    · rename_i e he
      exact .inr ⟨_, e, he, rfl, rfl⟩

namespace App

variable {app : App} {req : Request} {now : Nat}

/-- Whether serving a request picked an engine: the request went to the engine setting, which
    answered `200`. -/
def PicksEngine (app : App) (req : Request) (now : Nat) : Prop :=
  app.Routes req .setSearchEngine ∧ (app.serve req now).1.status = 200

/-- A request that picks no engine leaves the engines alone. -/
theorem serve_engines_of_not_picksEngine (h : ¬ app.PicksEngine req now) :
    (app.serve req now).2.service.engines = app.service.engines := by
  rcases serve_cases app req now with ⟨hkeep, -⟩ | ⟨e, hroute, params, hst, -, hsvc'⟩
  · rw [hkeep]
    rfl
  · rw [hsvc']
    by_cases he : e = .setSearchEngine
    · subst he
      rcases setSearchEngine_cases { app.service with clock := now } req with
        ⟨-, hsvc⟩ | ⟨name, e, -, hresp, -⟩
      · simp only [runEndpoint, hsvc]
        rfl
      · -- a successful pick answers `200`
        exact absurd ⟨hroute, by simp [hst, runEndpoint, hresp, Response.ofJson]⟩ h
    · exact runEndpoint_engines he _ req params

/-- A pick answers with an engine of the catalog, found by a name, and makes that engine's name
    the preference. -/
theorem serve_of_picksEngine (h : app.PicksEngine req now) :
    ∃ name e, app.service.engines.engine? name = some e ∧
      (app.serve req now).1.body = .json (engineAnswer e) ∧
      (app.serve req now).2.service.engines =
        { catalog := app.service.catalog, preference := some e.name } := by
  obtain ⟨hroute, hok⟩ := h
  rcases serve_cases app req now with ⟨-, hst⟩ | ⟨e, hroute', params, hst, hbody, hsvc'⟩
  · exact absurd hok hst
  · obtain rfl := hroute'.unique hroute
    rcases setSearchEngine_cases { app.service with clock := now } req with
      ⟨h400, -⟩ | ⟨name, e, hfind, hresp, hsvc⟩
    · -- a refusal answers `400`
      have h400' : (400 : Nat) = 200 := by
        rw [← h400, ← hok, hst]
        rfl
      omega
    · refine ⟨name, e, hfind, ?_, ?_⟩
      · simp [hbody, runEndpoint, hresp, Response.ofJson]
      · rw [hsvc']
        simp only [runEndpoint, hsvc]
        rfl

/-- Serving one more request that picks no engine. -/
def ServesWithoutPick (app app' : App) : Prop :=
  ∃ req now, ¬ app.PicksEngine req now ∧ app' = (app.serve req now).2

/-- Requests that pick no engine leave the engines alone. -/
theorem engines_of_servesWithoutPick {app' : App}
    (h : Relation.ReflTransGen ServesWithoutPick app app') :
    app'.service.engines = app.service.engines := by
  induction h with
  | refl => rfl
  | tail _ hstep ih =>
    obtain ⟨req, now, hno, rfl⟩ := hstep
    rw [serve_engines_of_not_picksEngine hno, ih]

end App

/-! ## The engine in use -/

/-- With a preference that names an engine, the default engine is the first engine answering to
    it. -/
theorem defaultEngine?_of_preference {c : Search.Catalog} {e : Search.Engine}
    (he : e ∈ c.engines) :
    ({ catalog := c, preference := some e.name } : Search.Manager).defaultEngine? =
      ({ catalog := c } : Search.Manager).engine? e.name := by
  obtain ⟨e', hfind⟩ := Option.isSome_iff_exists.1
    (Search.Manager.engine?_isSome (m := { catalog := c }) he e.answersTo_name)
  have hfind' : ({ catalog := c, preference := some e.name } : Search.Manager).engine? e.name =
      some e' := hfind
  simp [Search.Manager.defaultEngine?_eq, hfind', hfind]

/-- Default engine resolution. Without a preference, a checked catalog's default engine is the
    first engine answering to the catalog's default, or the first engine without a default; when
    no engine answers to another's identifier or name, it is the engine the default names. After
    a request picks an engine, which it answers with, the engine in use is the first engine
    answering to the picked engine's name for as long as no request picks another; when no other
    engine answers to that name, it is the picked engine. -/
theorem default_engine_resolution (c c' : Search.Catalog) (app : App) (req : Request) (now : Nat) :
    (c.validate = .ok c' →
      ({ catalog := c } : Search.Manager).defaultEngine? =
          (if c.default = "" then c.engines.head?
            else ({ catalog := c } : Search.Manager).engine? c.default) ∧
      (c.Unambiguous → (({ catalog := c } : Search.Manager).defaultEngine?.map (·.id)) =
          if c.default = "" then c.engines.head?.map (·.id) else some c.default)) ∧
    (app.PicksEngine req now →
      ∃ e ∈ app.service.catalog.engines, (app.serve req now).1.body = .json (engineAnswer e) ∧
        ∀ app', Relation.ReflTransGen App.ServesWithoutPick (app.serve req now).2 app' →
          app'.service.engines.defaultEngine? = app.service.engines.engine? e.name ∧
          (app.service.catalog.Unambiguous → app'.service.engines.defaultEngine? = some e)) := by
  refine ⟨fun hc => ?_, fun hpick => ?_⟩
  · have hvalid := Search.Catalog.valid_of_validate hc
    exact ⟨Search.defaultEngine?_of_valid hvalid,
      Search.defaultEngine?_id_of_unambiguous hvalid⟩
  · obtain ⟨name, e, hfind, hbody, hengines⟩ := App.serve_of_picksEngine hpick
    have he : e ∈ app.service.catalog.engines := Search.Manager.mem_of_engine? hfind
    refine ⟨e, he, hbody, fun app' hrun => ?_⟩
    have hin : app'.service.engines.defaultEngine? = app.service.engines.engine? e.name := by
      rw [App.engines_of_servesWithoutPick hrun, hengines]
      exact defaultEngine?_of_preference he
    refine ⟨hin, fun hu => ?_⟩
    rw [hin]
    exact Search.Manager.engine?_of_unambiguous hu he (Or.inr rfl)

/-! ## Overlapping names -/

/-- A catalog whose two engines have the same name up to case. -/
def sharedNameCatalog : Search.Catalog :=
  { default := "",
    engines := [⟨"x", "Foo", "https://x.test/?q=\x7bsearchTerms\x7d", ""⟩,
      ⟨"y", "FOO", "https://y.test/?q=\x7bsearchTerms\x7d", ""⟩] }

/-- The engine setting alone, over the catalog with a shared name. -/
def pickingApp : App :=
  { service := { catalog := sharedNameCatalog },
    router := Router.build [("PUT", "/settings/search-engine", .setSearchEngine)] }

/-- A request picking the engine `y`. -/
def pickY : Request :=
  { method := "PUT", target := "/settings/search-engine", body := some "\x7b\"name\":\"y\"\x7d" }

theorem pickingApp_picksEngine : pickingApp.PicksEngine pickY 0 :=
  ⟨⟨_, _, rfl, rfl⟩, by decide +kernel⟩

/-- Picking `y` in the catalog with a shared name: the catalog passes its check, the pick is
    answered, and until the next pick the engine in use is the first engine answering to `FOO`. -/
theorem engine_in_use_after_picking_y :
    sharedNameCatalog.validate = .ok sharedNameCatalog ∧
    ({ catalog := sharedNameCatalog } : Search.Manager).defaultEngine? =
      (if sharedNameCatalog.default = "" then sharedNameCatalog.engines.head?
        else ({ catalog := sharedNameCatalog } : Search.Manager).engine? sharedNameCatalog.default) ∧
    pickingApp.PicksEngine pickY 0 ∧
    ∃ e ∈ pickingApp.service.catalog.engines,
      (pickingApp.serve pickY 0).1.body = .json (engineAnswer e) ∧
      ∀ app', Relation.ReflTransGen App.ServesWithoutPick (pickingApp.serve pickY 0).2 app' →
        app'.service.engines.defaultEngine? = pickingApp.service.engines.engine? e.name ∧
        (pickingApp.service.catalog.Unambiguous → app'.service.engines.defaultEngine? = some e) :=
  ⟨rfl, ((default_engine_resolution sharedNameCatalog sharedNameCatalog pickingApp pickY 0).1 rfl).1,
    pickingApp_picksEngine,
    (default_engine_resolution sharedNameCatalog sharedNameCatalog pickingApp pickY 0).2
      pickingApp_picksEngine⟩

/-- A catalog whose first engine is named `B` and whose default is `b`, the identifier of the
    second engine. -/
def ambiguousCatalog : Search.Catalog :=
  { default := "b",
    engines := [⟨"a", "B", "https://a.test/?q=\x7bsearchTerms\x7d", ""⟩,
      ⟨"b", "Beta", "https://b.test/?q=\x7bsearchTerms\x7d", ""⟩] }

/-- Where names overlap, the engine in use is not the intended one: a checked catalog whose
    default is `b` has the engine `a` as default engine, and after a pick answered with the
    engine `y`, the engine in use is `x`. -/
theorem engine_in_use_of_overlapping_names :
    (ambiguousCatalog.validate = .ok ambiguousCatalog ∧
      (({ catalog := ambiguousCatalog } : Search.Manager).defaultEngine?.map (·.id)) = some "a") ∧
    (sharedNameCatalog.validate = .ok sharedNameCatalog ∧ pickingApp.PicksEngine pickY 0 ∧
      (pickingApp.serve pickY 0).1.body =
        .json (engineAnswer ⟨"y", "FOO", "https://y.test/?q=\x7bsearchTerms\x7d", ""⟩) ∧
      (((pickingApp.serve pickY 0).2.service.engines.defaultEngine?.map (·.id)) = some "x")) :=
by
  refine ⟨⟨rfl, by decide +kernel⟩, rfl, pickingApp_picksEngine, ?_, by decide +kernel⟩
  -- the answer names the engine whose name the pick recorded, `FOO`
  obtain ⟨name, e, hfind, hbody, hengines⟩ := App.serve_of_picksEngine pickingApp_picksEngine
  have hpref := congrArg Search.Manager.preference hengines
  dsimp only at hpref
  have hname : some e.name = some "FOO" := by
    rw [← hpref]
    decide +kernel
  have he : e ∈ sharedNameCatalog.engines := Search.Manager.mem_of_engine? hfind
  simp only [sharedNameCatalog, List.mem_cons, List.not_mem_nil, or_false] at he
  rcases he with rfl | rfl
  · exact absurd hname (by decide)
  · exact hbody

end BrowserSessions.Api
