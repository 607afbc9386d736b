import BrowserSessions.Search.Manager

/-!
# The default engine

Where the engine that searches go to comes from: the user's choice when it names an engine, then
the catalog's default, then the first engine (`defaultEngine?_eq`). So the default engine is
always one of the catalog's engines (`mem_of_defaultEngine?`), and a catalog with engines always
has one (`defaultEngine?_isSome`), whatever the user's choice names.

A name is looked up like any text the user gives: the first engine whose identifier is the text
or whose name is the text up to case (`Engine.answersTo`). A catalog that passes its check
(`Catalog.Valid`) can still hold an engine whose name is another engine's identifier, and then
the catalog's default names the wrong engine. Without a choice, the default engine is the first
engine answering to the catalog's default, or the first engine when there is no default
(`defaultEngine?_of_valid`); when no engine answers to another's identifier or name
(`Catalog.Unambiguous`), its identifier is the catalog's default
(`defaultEngine?_id_of_unambiguous`).
-/

namespace BrowserSessions.Search

/-! ## Answering to a text -/

/-- Whether an engine answers to a text: by its identifier, or by its name up to case. -/
def Engine.answersTo (e : Engine) (k : String) : Bool :=
  e.id == k || Text.equalFoldChars e.name.toList k.toList

theorem Engine.answersTo_id (e : Engine) : e.answersTo e.id = true := by
  simp [Engine.answersTo]

theorem Engine.answersTo_name (e : Engine) : e.answersTo e.name = true := by
  simp [Engine.answersTo, Text.equalFoldChars_refl]

/-- An engine with an identifier and a name answers to no empty text. -/
theorem Engine.answersTo_empty {e : Engine} (hid : e.id ≠ "") (hname : e.name ≠ "") :
    e.answersTo "" = false := by
  obtain ⟨c, cs, hcs⟩ := List.exists_cons_of_ne_nil (mt String.toList_eq_nil_iff.1 hname)
  simp [Engine.answersTo, hid, hcs, Text.equalFoldChars]

namespace Manager

variable {m : Manager} {e : Engine}

theorem engine?_eq (m : Manager) (k : String) :
    m.engine? k = m.catalog.engines.find? (·.answersTo k) := rfl

/-- The default engine, as a chain of fallbacks. -/
theorem defaultEngine?_eq (m : Manager) :
    m.defaultEngine? =
      ((m.preference.bind m.engine?).or (m.engine? m.catalog.default)).or
        m.catalog.engines.head? := by
  simp only [defaultEngine?]
  cases m.preference.bind m.engine? <;> cases m.engine? m.catalog.default <;> rfl

theorem mem_of_engine? {k : String} (h : m.engine? k = some e) : e ∈ m.catalog.engines :=
  List.mem_of_find?_eq_some h

/-- An engine that answers to a text is found for it. -/
theorem engine?_isSome {k : String} (he : e ∈ m.catalog.engines) (hk : e.answersTo k = true) :
    (m.engine? k).isSome := by
  rw [engine?_eq, List.find?_isSome]
  exact ⟨e, he, hk⟩

/-- The default engine is one of the catalog's engines. -/
theorem mem_of_defaultEngine? (h : m.defaultEngine? = some e) : e ∈ m.catalog.engines := by
  rw [defaultEngine?_eq] at h
  rcases Option.or_eq_some_iff.1 h with h | ⟨-, h⟩
  · rcases Option.or_eq_some_iff.1 h with h | ⟨-, h⟩
    · obtain ⟨k, -, hk⟩ := Option.bind_eq_some_iff.1 h
      exact mem_of_engine? hk
    · exact mem_of_engine? h
  · exact List.mem_of_mem_head? h

/-- A catalog with engines always has a default engine. -/
theorem defaultEngine?_isSome (h : m.catalog.engines ≠ []) : m.defaultEngine?.isSome := by
  obtain ⟨first, rest, hc⟩ := List.exists_cons_of_ne_nil h
  simp [defaultEngine?_eq, hc]

end Manager

/-! ## Checked catalogs -/

/-- What a catalog's check makes sure of: it has engines, each with an identifier, a name and a
    placeholder in its search template; identifiers are distinct; and the default, when given,
    is an identifier. -/
structure Catalog.Valid (c : Catalog) : Prop where
  engines_ne : c.engines ≠ []
  named : ∀ e ∈ c.engines, e.id ≠ "" ∧ e.name ≠ ""
  placeholder : ∀ e ∈ c.engines,
    Bytes.containsBytes (Bytes.ofString e.search) (Bytes.ofString termsPlaceholder) = true
  ids_nodup : (c.engines.map (·.id)).Nodup
  default_mem : c.default ≠ "" → c.default ∈ c.engines.map (·.id)

/-- Checking engines after identifiers `seen` gives back those identifiers and the engines'
    own, all distinct, and every engine checked has an identifier, a name and a placeholder. -/
theorem checkEngines_ok {seen ids : List String} {i : Nat} {es : List Engine} (hseen : seen.Nodup)
    (h : checkEngines seen i es = .ok ids) :
    ids = seen ++ es.map (·.id) ∧ ids.Nodup ∧ ∀ e ∈ es, (e.id ≠ "" ∧ e.name ≠ "") ∧
      Bytes.containsBytes (Bytes.ofString e.search) (Bytes.ofString termsPlaceholder) = true := by
  induction es generalizing seen i with
  | nil =>
    simp only [checkEngines, Except.ok.injEq] at h
    subst h
    simpa using hseen
  | cons e es ih =>
    simp only [checkEngines] at h
    split at h
    · cases h
    · rename_i hnamed
      split at h
      · cases h
      · rename_i hfresh
        split at h
        · cases h
        · rename_i hph
          have hnot : e.id ∉ seen := by simpa using hfresh
          have hseen' : (seen ++ [e.id]).Nodup := by
            simp only [List.nodup_append, List.mem_singleton]
            refine ⟨hseen, by simp, fun a ha b hb hab => hnot ?_⟩
            rw [← hb, ← hab]
            exact ha
          obtain ⟨hids, hnodup, hes⟩ := ih hseen' h
          refine ⟨by simp [hids], hnodup, ?_⟩
          simp only [List.mem_cons, forall_eq_or_imp]
          exact ⟨⟨by simpa using hnamed, by simpa using hph⟩, hes⟩

/-- A catalog that passes its check is valid. -/
theorem Catalog.valid_of_validate {c c' : Catalog} (h : c.validate = .ok c') : c.Valid := by
  unfold Catalog.validate at h
  split at h
  · cases h
  · rename_i hne
    split at h
    · cases h
    · rename_i ids hcheck
      split at h
      · cases h
      · rename_i hdef
        obtain ⟨rfl, hnodup, hes⟩ := checkEngines_ok List.nodup_nil hcheck
        exact
          { engines_ne := by simpa using hne
            named := fun e he => (hes e he).1
            placeholder := fun e he => (hes e he).2
            ids_nodup := by simpa using hnodup
            default_mem := fun hd => by simpa [hd] using hdef }

/-! ## The default engine of a checked catalog -/

/-- No engine answers to another engine's identifier or name. -/
def Catalog.Unambiguous (c : Catalog) : Prop :=
  ∀ e₁ ∈ c.engines, ∀ e₂ ∈ c.engines,
    (e₁.answersTo e₂.id || e₁.answersTo e₂.name) = true → e₁ = e₂

/-- In an unambiguous catalog an engine is found by its identifier and by its name. -/
theorem Manager.engine?_of_unambiguous {m : Manager} {e : Engine} (hu : m.catalog.Unambiguous)
    (he : e ∈ m.catalog.engines) {k : String} (hk : k = e.id ∨ k = e.name) :
    m.engine? k = some e := by
  have hans : e.answersTo k = true := by
    rcases hk with rfl | rfl
    · exact e.answersTo_id
    · exact e.answersTo_name
  obtain ⟨e', hfind⟩ := Option.isSome_iff_exists.1 (Manager.engine?_isSome he hans)
  have hmem := Manager.mem_of_engine? hfind
  have hfind' := hfind
  rw [Manager.engine?_eq] at hfind'
  have hans' : e'.answersTo k = true := by simpa using List.find?_some hfind'
  rw [hfind, hu e' hmem e he (by rcases hk with rfl | rfl <;> simp [hans'])]

/-- Without a choice, the default engine of a checked catalog is the first engine answering to
    the catalog's default, or the first engine when there is no default. -/
theorem defaultEngine?_of_valid {c : Catalog} (hc : c.Valid) :
    ({ catalog := c } : Manager).defaultEngine? =
      if c.default = "" then c.engines.head? else ({ catalog := c } : Manager).engine? c.default := by
  rw [Manager.defaultEngine?_eq]
  by_cases hd : c.default = ""
  · have hnone : ({ catalog := c } : Manager).engine? "" = none := by
      rw [Manager.engine?_eq, List.find?_eq_none]
      intro e he
      simp [Engine.answersTo_empty (hc.named e he).1 (hc.named e he).2]
    simp [hd, hnone]
  · obtain ⟨e, he, hid⟩ := List.mem_map.1 (hc.default_mem hd)
    obtain ⟨e', hfind⟩ := Option.isSome_iff_exists.1
      (Manager.engine?_isSome (m := { catalog := c }) he (hid ▸ e.answersTo_id))
    simp [hd, hfind]

/-- Without a choice, the default engine of a checked, unambiguous catalog has the catalog's
    default as its identifier, or is the first engine when there is no default. -/
theorem defaultEngine?_id_of_unambiguous {c : Catalog} (hc : c.Valid) (hu : c.Unambiguous) :
    (({ catalog := c } : Manager).defaultEngine?.map (·.id)) =
      if c.default = "" then c.engines.head?.map (·.id) else some c.default := by
  rw [defaultEngine?_of_valid hc]
  by_cases hd : c.default = ""
  · simp [hd]
  · obtain ⟨e, he, hid⟩ := List.mem_map.1 (hc.default_mem hd)
    rw [if_neg hd, if_neg hd,
      Manager.engine?_of_unambiguous (m := { catalog := c }) hu he (Or.inl hid.symm)]
    simp [hid]

end BrowserSessions.Search
