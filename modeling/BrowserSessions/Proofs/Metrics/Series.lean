import Mathlib.Data.List.Nodup
import Mathlib.Tactic.Ring
import BrowserSessions.Metrics

/-!
# Reading metric series

What a reader of the metrics sees: the series of a family with some labels (`seriesOf?`), a
counter's whole increments (`countOf`), a gauge's value (`valueOf?`) and a family's increments
summed over its series (`total`). Series are found by their labels in sorted order, and `Keyed`
says that no two series share a family and labels.

The service changes one series at a time (`update`): it changes the series it finds or appends a
zero one. A change leaves every other series as it was (`seriesOf?_update_of_ne`), keeps series
apart (`Keyed.update`), and adding to a counter adds to its own count and to its family's total
and to nothing else (`countOf_add`, `total_add`). Setting a gauge counts nothing (`countOf_set`,
`total_set`), and the gauge then reads what it was set to (`valueOf?_set`).
-/

namespace BrowserSessions

namespace Metrics

/-! ## Reading the counters -/

/-- The series of a family with the given labels, once something was recorded for it. -/
def seriesOf? (m : Metrics) (family : String) (labels : List (String × String)) : Option Series :=
  m.series.find? fun s => s.family == family && s.labels == sortLabels labels

/-- The whole increments a counter series has counted; a series never touched counts none. -/
def countOf (m : Metrics) (family : String) (labels : List (String × String)) : Nat :=
  ((m.seriesOf? family labels).map (·.count)).getD 0

/-- The value of a gauge series. -/
def valueOf? (m : Metrics) (family : String) (labels : List (String × String)) : Option Float :=
  (m.seriesOf? family labels).map (·.value)

/-- A family's whole increments summed over all its series. -/
def total (m : Metrics) (family : String) : Nat :=
  ((m.series.filter (·.family == family)).map (·.count)).sum

/-- No two series share a family and labels. -/
def Keyed (m : Metrics) : Prop := (m.series.map fun s => (s.family, s.labels)).Nodup

/-! ## One change at a time -/

section Update

variable (m : Metrics) (family : String) (labels : List (String × String)) {f : Series → Series}

/-- Whether a change to `family` with `labels` is a change to the series of `family'` with
`labels'`. -/
abbrev SameSeries (family' : String) (labels' : List (String × String)) : Prop :=
  family' = family ∧ sortLabels labels' = sortLabels labels

theorem update_of_exists (h : m.series.any fun s => s.family == family && s.labels == sortLabels labels) :
    m.update family labels f =
      { m with series := m.series.map fun s =>
          if s.family == family && s.labels == sortLabels labels then f s else s } := by
  simp only [update, h, if_true]

theorem update_of_not_exists
    (h : (m.series.any fun s => s.family == family && s.labels == sortLabels labels) = false) :
    ∃ s₀ : Series, s₀.family = family ∧ s₀.labels = sortLabels labels ∧ s₀.count = 0 ∧
      s₀.value = 0 ∧ m.update family labels f = { m with series := m.series ++ [f s₀] } := by
  simp only [update, h, Bool.false_eq_true, if_false]
  refine ⟨_, ?_, ?_, ?_, ?_, rfl⟩
  all_goals rfl

variable (hf : ∀ s, (f s).family = s.family ∧ (f s).labels = s.labels)
include hf

/-- A change to one series leaves every other series as it was. -/
theorem seriesOf?_update_of_ne {family' : String} {labels' : List (String × String)}
    (hne : ¬ SameSeries family labels family' labels') :
    (m.update family labels f).seriesOf? family' labels' = m.seriesOf? family' labels' := by
  have hkey : ∀ s : Series, s.family = family' → s.labels = sortLabels labels' →
      ¬ (s.family = family ∧ s.labels = sortLabels labels) := by
    rintro s h₁ h₂ ⟨h₃, h₄⟩
    exact hne ⟨h₁ ▸ h₃, h₂ ▸ h₄⟩
  unfold seriesOf?
  cases hany : m.series.any fun s => s.family == family && s.labels == sortLabels labels with
  | true =>
    rw [update_of_exists m family labels hany, List.find?_map]
    -- the changed series keep their family and labels, so the search finds the same series, and
    -- it is not one of the changed ones
    have hp : ((fun s : Series => s.family == family' && s.labels == sortLabels labels') ∘
        fun s => if s.family == family && s.labels == sortLabels labels then f s else s) =
        fun s => s.family == family' && s.labels == sortLabels labels' := by
      funext s
      simp only [Function.comp]
      split <;> simp [hf]
    rw [hp]
    cases hfind : m.series.find? (fun s => s.family == family' && s.labels == sortLabels labels') with
    | none => rfl
    | some s =>
      have hs := List.find?_some hfind
      simp only [Bool.and_eq_true, beq_iff_eq] at hs
      simp [hkey s hs.1 hs.2]
  | false =>
    obtain ⟨s₀, h₁, h₂, -, -, heq⟩ := update_of_not_exists (f := f) m family labels hany
    rw [heq]
    -- the series made for the change is not the one asked for
    have hnot : ((f s₀).family == family' && (f s₀).labels == sortLabels labels') = false := by
      rw [(hf s₀).1, (hf s₀).2, h₁, h₂, Bool.eq_false_iff]
      intro h
      simp only [Bool.and_eq_true, beq_iff_eq] at h
      exact hne ⟨h.1.symm, h.2.symm⟩
    rw [List.find?_append, List.find?_singleton, hnot]
    simp

/-- The changed series: the one found before, or a zero one made for the change. -/
theorem seriesOf?_update_self :
    ∃ s, (m.update family labels f).seriesOf? family labels = some (f s) ∧
      (m.seriesOf? family labels = some s ∨
        (m.seriesOf? family labels = none ∧ s.count = 0 ∧ s.value = 0)) := by
  unfold seriesOf?
  cases hany : m.series.any fun s => s.family == family && s.labels == sortLabels labels with
  | true =>
    rw [update_of_exists m family labels hany, List.find?_map]
    obtain ⟨s, hfind⟩ := Option.isSome_iff_exists.mp (List.find?_isSome.mpr
      (List.any_eq_true.mp hany))
    have hp : ((fun s : Series => s.family == family && s.labels == sortLabels labels) ∘
        fun s => if s.family == family && s.labels == sortLabels labels then f s else s) =
        fun s => s.family == family && s.labels == sortLabels labels := by
      funext s
      simp only [Function.comp]
      split <;> simp [hf]
    rw [hp, hfind]
    have hs := List.find?_some hfind
    simp only [Bool.and_eq_true, beq_iff_eq] at hs
    exact ⟨s, by simp [hs], .inl rfl⟩
  | false =>
    obtain ⟨s₀, h₁, h₂, hc, hv, heq⟩ := update_of_not_exists (f := f) m family labels hany
    rw [heq]
    have hnone : m.series.find? (fun s => s.family == family && s.labels == sortLabels labels) =
        none := by
      simpa [List.find?_eq_none] using hany
    refine ⟨s₀, ?_, .inr ⟨hnone, hc, hv⟩⟩
    simp [List.find?_append, hnone, (hf s₀).1, (hf s₀).2, h₁, h₂]

end Update

section Counters

variable (m : Metrics) (family : String) (labels : List (String × String))

/-- Series are found by their labels in sorted order. -/
theorem seriesOf?_congr {labels' : List (String × String)} (h : sortLabels labels' = sortLabels labels) :
    m.seriesOf? family labels' = m.seriesOf? family labels := by
  simp only [seriesOf?, h]

/-- Adding to a counter raises its series and no other. -/
theorem countOf_add (n : Nat) (family' : String) (labels' : List (String × String)) :
    (m.add family labels n).countOf family' labels' =
      m.countOf family' labels' + if SameSeries family labels family' labels' then n else 0 := by
  unfold add
  by_cases hsame : SameSeries family labels family' labels'
  · obtain ⟨rfl, hl⟩ := hsame
    obtain ⟨s, hafter, hbefore⟩ := seriesOf?_update_self (f := fun s => { s with count := s.count + n })
      m family' labels (fun _ => ⟨rfl, rfl⟩)
    simp only [countOf, seriesOf?_congr _ _ _ hl, hafter, if_pos (And.intro rfl hl)]
    rcases hbefore with hs | ⟨hs, hc, -⟩
    · simp [hs]
    · simp [hs, hc]
  · rw [countOf, countOf, seriesOf?_update_of_ne (f := fun s => { s with count := s.count + n }) _ _ _
      (fun _ => ⟨rfl, rfl⟩) hsame, if_neg hsame, Nat.add_zero]

/-- Setting a gauge counts nothing. -/
theorem countOf_set (x : Float) (family' : String) (labels' : List (String × String)) :
    (m.set family x).countOf family' labels' = m.countOf family' labels' := by
  unfold set
  by_cases hsame : SameSeries family [] family' labels'
  · obtain ⟨rfl, hl⟩ := hsame
    obtain ⟨s, hafter, hbefore⟩ := seriesOf?_update_self (f := fun s => { s with value := x })
      m family' [] (fun _ => ⟨rfl, rfl⟩)
    simp only [countOf, seriesOf?_congr _ _ _ hl, hafter]
    rcases hbefore with hs | ⟨hs, hc, -⟩
    · simp [hs]
    · simp [hs, hc]
  · rw [countOf, countOf, seriesOf?_update_of_ne (f := fun s => { s with value := x }) _ _ _
      (fun _ => ⟨rfl, rfl⟩) hsame]

/-- A gauge reads what it was last set to. -/
theorem valueOf?_set (x : Float) : (m.set family x).valueOf? family [] = some x := by
  unfold set
  obtain ⟨s, hafter, -⟩ := seriesOf?_update_self (f := fun s => { s with value := x })
    m family [] (fun _ => ⟨rfl, rfl⟩)
  simp [valueOf?, hafter]

theorem valueOf?_set_of_ne {family' : String} (hne : family' ≠ family) (x : Float)
    (labels' : List (String × String)) :
    (m.set family x).valueOf? family' labels' = m.valueOf? family' labels' := by
  unfold set valueOf?
  rw [seriesOf?_update_of_ne (f := fun s => { s with value := x }) _ _ _ (fun _ => ⟨rfl, rfl⟩)
    (fun h => hne h.1)]

theorem valueOf?_add_of_ne {family' : String} (hne : family' ≠ family) (n : Nat)
    (labels' : List (String × String)) :
    (m.add family labels n).valueOf? family' labels' = m.valueOf? family' labels' := by
  unfold add valueOf?
  rw [seriesOf?_update_of_ne (f := fun s => { s with count := s.count + n }) _ _ _
    (fun _ => ⟨rfl, rfl⟩) (fun h => hne h.1)]

/-- Counting every series of a family: a change keeps series apart, so adding to a counter adds
to exactly one series of its family. -/
theorem Keyed.update {f : Series → Series} (hf : ∀ s, (f s).family = s.family ∧ (f s).labels = s.labels)
    (hk : m.Keyed) : (m.update family labels f).Keyed := by
  unfold Keyed at *
  cases hany : m.series.any fun s => s.family == family && s.labels == sortLabels labels with
  | true =>
    rw [update_of_exists m family labels hany, List.map_map]
    -- the change keeps every family and labels, so the keys are the same list
    have hkeys : ((fun s : Series => (s.family, s.labels)) ∘
        fun s => if s.family == family && s.labels == sortLabels labels then f s else s) =
        fun s => (s.family, s.labels) := by
      funext s
      simp only [Function.comp]
      split <;> simp [hf]
    rwa [hkeys]
  | false =>
    obtain ⟨s₀, h₁, h₂, -, -, heq⟩ := update_of_not_exists (f := f) m family labels hany
    rw [heq, List.map_append, List.nodup_append]
    refine ⟨hk, by simp, ?_⟩
    -- the series made for the change has a family and labels no series had
    intro a ha b hb hab
    simp only [List.map_cons, List.map_nil, List.mem_singleton] at hb
    obtain ⟨s, hs, rfl⟩ := List.mem_map.mp ha
    rw [hb, (hf s₀).1, (hf s₀).2, h₁, h₂, Prod.mk.injEq] at hab
    simp only [List.any_eq_false, Bool.and_eq_true, beq_iff_eq, not_and] at hany
    exact hany s hs hab.1 hab.2

variable {m} in
theorem Keyed.add (hk : m.Keyed) (n : Nat) : (m.add family labels n).Keyed :=
  Keyed.update m family labels (fun _ => ⟨rfl, rfl⟩) hk

variable {m} in
theorem Keyed.set (hk : m.Keyed) (x : Float) : (m.set family x).Keyed :=
  Keyed.update m family [] (fun _ => ⟨rfl, rfl⟩) hk

/-- With series kept apart, exactly one series answers to a family and labels that some series has. -/
theorem Keyed.countP_eq_one (hk : m.Keyed)
    (hany : m.series.any (fun s => s.family == family && s.labels == sortLabels labels) = true) :
    m.series.countP (fun s => s.family == family && s.labels == sortLabels labels) = 1 := by
  have hcount : m.series.countP (fun s => s.family == family && s.labels == sortLabels labels) =
      (m.series.map fun s => (s.family, s.labels)).count (family, sortLabels labels) := by
    rw [List.count_eq_countP, List.countP_map]
    refine List.countP_congr fun s _ => ?_
    simp [Prod.ext_iff]
  obtain ⟨s, hs, hp⟩ := List.any_eq_true.mp hany
  simp only [Bool.and_eq_true, beq_iff_eq] at hp
  rw [hcount]
  exact List.count_eq_one_of_mem hk (List.mem_map.mpr ⟨s, hs, by rw [hp.1, hp.2]⟩)

/-- Raising the series that answer to `p` by `n` raises a family's total by `n` for each of
them. -/
theorem sum_count_map_raise (l : List Series) (p : Series → Bool) (n : Nat) (family' : String) :
    (((l.map fun s => if p s then { s with count := s.count + n } else s).filter
        (·.family == family')).map (·.count)).sum =
      ((l.filter (·.family == family')).map (·.count)).sum +
        n * (l.filter (·.family == family')).countP p := by
  induction l with
  | nil => simp
  | cons s l ih =>
    by_cases hp : p s <;> by_cases hfam : s.family = family' <;> simp [hp, hfam, ih] <;> ring

/-- A change that keeps every series' family and count keeps every total. -/
theorem sum_count_map_keep (l : List Series) {g : Series → Series}
    (hg : ∀ s, (g s).family = s.family ∧ (g s).count = s.count) (family' : String) :
    (((l.map g).filter (·.family == family')).map (·.count)).sum =
      ((l.filter (·.family == family')).map (·.count)).sum := by
  induction l with
  | nil => rfl
  | cons s l ih => by_cases hfam : s.family = family' <;> simp [hg, hfam, ih]

/-- Adding to a counter adds to its family's total, with series kept apart. -/
theorem total_add (hk : m.Keyed) (n : Nat) (family' : String) :
    (m.add family labels n).total family' = m.total family' + if family' = family then n else 0 := by
  unfold add total
  cases hany : m.series.any fun s => s.family == family && s.labels == sortLabels labels with
  | true =>
    rw [update_of_exists m family labels hany]
    simp only
    rw [sum_count_map_raise]
    -- the raised series all belong to the family, and there is exactly one of them
    have hfilter : (m.series.filter (·.family == family')).countP
        (fun s => s.family == family && s.labels == sortLabels labels) =
        if family' = family then 1 else 0 := by
      rw [List.countP_filter]
      split
      · rename_i hfam
        subst hfam
        rw [← Keyed.countP_eq_one m family' labels hk hany]
        congr 1
        funext s
        cases s.family == family' <;> simp
      · rename_i hfam
        rw [List.countP_eq_zero]
        intro s _ hs
        simp only [Bool.and_eq_true, beq_iff_eq] at hs
        obtain ⟨⟨h₁, -⟩, h₂⟩ := hs
        exact hfam (h₂.symm.trans h₁)
    rw [hfilter]
    split <;> simp
  | false =>
    obtain ⟨s₀, h₁, -, hc, -, heq⟩ :=
      update_of_not_exists (f := fun s => { s with count := s.count + n }) m family labels hany
    rw [heq]
    by_cases hfam : family' = family
    · subst hfam
      simp [List.filter_append, h₁, hc]
    · have hne : (family == family') = false := by simpa using Ne.symm hfam
      simp [List.filter_append, h₁, hne, hfam]

/-- Setting a gauge leaves every total as it was. -/
theorem total_set (x : Float) (family' : String) : (m.set family x).total family' = m.total family' := by
  unfold set total
  cases hany : m.series.any fun s => s.family == family && s.labels == sortLabels [] with
  | true =>
    rw [update_of_exists m family [] hany]
    exact sum_count_map_keep _ (fun s => by split <;> exact ⟨rfl, rfl⟩) family'
  | false =>
    obtain ⟨s₀, h₁, -, hc, -, heq⟩ :=
      update_of_not_exists (f := fun s => { s with value := x }) m family [] hany
    rw [heq]
    by_cases hfam : family = family' <;> simp [List.filter_append, h₁, hc, hfam]

end Counters

/-! ## Labels and fields that no reading sees -/

section Fields

variable (m : Metrics)

@[simp] theorem sortLabels_nil : sortLabels [] = [] := List.mergeSort_nil

@[simp] theorem sortLabels_singleton (l : String × String) : sortLabels [l] = [l] :=
  List.mergeSort_singleton l

theorem sortLabels_intent (action outcome : String) :
    sortLabels [("action", action), ("outcome", outcome)] = [("action", action), ("outcome", outcome)] :=
  List.mergeSort_of_pairwise (by simp)

@[simp] theorem countOf_activeSessions (x : Int) (family : String) (labels : List (String × String)) :
    ({ m with activeSessions := x } : Metrics).countOf family labels = m.countOf family labels := rfl

@[simp] theorem valueOf?_activeSessions (x : Int) (family : String) (labels : List (String × String)) :
    ({ m with activeSessions := x } : Metrics).valueOf? family labels = m.valueOf? family labels := rfl

@[simp] theorem total_activeSessions (x : Int) (family : String) :
    ({ m with activeSessions := x } : Metrics).total family = m.total family := rfl

/-- Changing a series leaves the health report's count of open sessions alone. -/
@[simp] theorem activeSessions_update (family : String) (labels : List (String × String))
    (f : Series → Series) : (m.update family labels f).activeSessions = m.activeSessions := by
  unfold update
  dsimp only
  split_ifs <;> rfl

end Fields

/-! ## Fresh metrics -/

section Fresh

variable (m : Metrics)

theorem countOf_of_count_eq_zero (h : ∀ s ∈ m.series, s.count = 0) (family : String)
    (labels : List (String × String)) : m.countOf family labels = 0 := by
  unfold countOf
  cases hs : m.seriesOf? family labels with
  | none => rfl
  | some s => simp [h s (List.mem_of_find?_eq_some hs)]

theorem total_of_count_eq_zero (h : ∀ s ∈ m.series, s.count = 0) (family : String) :
    m.total family = 0 := by
  unfold total
  refine List.sum_eq_zero_iff_forall_eq_nat.mpr fun n hn => ?_
  obtain ⟨s, hs, rfl⟩ := List.mem_map.mp hn
  exact h s (List.mem_of_mem_filter hs)

/-- Fresh metrics hold one zero series for each family without labels. -/
theorem count_eq_zero_of_mem_fresh : ∀ s ∈ fresh.series, s.count = 0 := by
  intro s hs
  obtain ⟨f, -, rfl⟩ := List.mem_map.mp hs
  rfl

@[simp] theorem countOf_fresh (family : String) (labels : List (String × String)) :
    fresh.countOf family labels = 0 :=
  countOf_of_count_eq_zero _ count_eq_zero_of_mem_fresh family labels

@[simp] theorem total_fresh (family : String) : fresh.total family = 0 :=
  total_of_count_eq_zero _ count_eq_zero_of_mem_fresh family

theorem keyed_fresh : fresh.Keyed := by
  unfold Keyed
  decide

/-- The gauge of open sessions starts at zero. -/
theorem valueOf?_fresh_active : fresh.valueOf? "browser_sessions_active" [] = some 0 := by
  simp [valueOf?, seriesOf?, fresh, families]

end Fresh

end Metrics

end BrowserSessions
