import BrowserSessions.Domains
import Mathlib.Data.List.InsertIdx

/-!
# Editing the list of custom domains

The list of custom domains changes by three calls: `DomainList.add`, `DomainList.remove` and
`DomainList.move`. `DomainList.Edit` names a call and `DomainList.apply` is the list after it; a
refused call leaves the list as it was. A list seeded with domains is the empty list after one
addition per seed (`seeded_eq_applyAll`), so every list the program holds is a seeded list after
some calls.

* An addition appends the stored form of the domain at the end, or is refused: as invalid when
  the text has no stored form, as a duplicate when its stored form is listed (`add_cases`).
* A removal keeps, in their order, the entries whose stored form was not asked for, and answers
  how many of the others it took out (`remove_eq`).
* A move within range takes the entry out and puts it back at the target position, the others
  keeping their order (`move_eq_ok`); moving it back restores the list (`move_move`); a move
  with an index out of range is refused (`move_out_of_range`).
* No list reached this way lists a domain twice (`applyAll_nodup`).

Main statement: `domain_edits_follow_their_specs`.
-/

namespace BrowserSessions.DomainList

open Domains

/-! ## Calls on the list -/

/-- A call that changes the list of custom domains. -/
inductive Edit where
  | add (raw : String)
  | remove (raws : List String)
  | move (src dst : Int)

/-- The list after a call; a refused call leaves it as it was. -/
def apply (d : DomainList) : Edit → DomainList
  | .add raw =>
    match d.add raw with
    | .ok (_, d') => d'
    | .error _ => d
  | .remove raws => (d.remove raws).2
  | .move src dst =>
    match d.move src dst with
    | .ok d' => d'
    | .error _ => d

/-- The list after calls made one after another. -/
def applyAll (d : DomainList) (es : List Edit) : DomainList := es.foldl apply d

@[simp] theorem applyAll_nil (d : DomainList) : d.applyAll [] = d := rfl

@[simp] theorem applyAll_cons (d : DomainList) (e : Edit) (es : List Edit) :
    d.applyAll (e :: es) = (d.apply e).applyAll es := rfl

/-- Seeding adds the seeds in turn. -/
theorem seeded_eq_applyAll (seeds : List String) :
    seeded seeds = applyAll {} (seeds.map .add) := by
  simp only [seeded, applyAll, List.foldl_map]
  rfl

/-! ## Adding -/

/-- A text has no stored form only because it is no valid domain. -/
theorem eq_invalid_of_normalize {raw : String} {e : DomainError} (h : normalize raw = .error e) :
    e = .invalid := by
  simp only [Domains.normalize, Except.bind] at h
  split at h
  · -- reading the host failed: the text has `://` but is no address
    rename_i hhost
    cases h
    split at hhost
    · split at hhost <;> cases hhost
      rfl
    · cases hhost
  · -- the host was read, and the check of its form failed
    repeat' split at h
    all_goals simp_all

/-- An addition appends the stored form at the end, or is refused: as invalid when the text has
no stored form, as a duplicate when its stored form is listed already. -/
theorem add_cases (d : DomainList) (raw : String) :
    (∃ x, normalize raw = .ok x ∧ x ∉ d.items ∧ d.add raw = .ok (x, ⟨d.items ++ [x]⟩)) ∨
      (normalize raw = .error .invalid ∧ d.add raw = .error .invalid) ∨
      (∃ x, normalize raw = .ok x ∧ x ∈ d.items ∧ d.add raw = .error .duplicate) := by
  cases h : normalize raw with
  | error e =>
    obtain rfl := eq_invalid_of_normalize h
    exact .inr (.inl ⟨rfl, by simp [add, h, Except.bind]⟩)
  | ok x =>
    by_cases hx : x ∈ d.items
    · exact .inr (.inr ⟨x, rfl, hx, by simp [add, h, hx, Except.bind]⟩)
    · exact .inl ⟨x, rfl, hx, by simp [add, h, hx, Except.bind]⟩

/-- A refused addition leaves the list as it was. -/
theorem apply_add_of_error {d : DomainList} {raw : String} {e : DomainError}
    (h : d.add raw = .error e) : d.apply (.add raw) = d := by
  simp [apply, h]

/-! ## Removing -/

/-- A stored form that a removal asks for: the stored form of one of its texts. -/
def Asked (raws : List String) (x : Bytes) : Prop := ∃ r ∈ raws, normalize r = .ok x

theorem toOption_normalize_eq_some {r : String} {x : Bytes} :
    (normalize r).toOption = some x ↔ normalize r = .ok x := by
  cases normalize r <;> simp [Except.toOption]

theorem mem_stored_iff {raws : List String} {x : Bytes} :
    x ∈ raws.filterMap (fun r => (normalize r).toOption) ↔ Asked raws x := by
  simp [Asked, toOption_normalize_eq_some]

instance (raws : List String) : DecidablePred (Asked raws) := fun _ =>
  decidable_of_iff _ mem_stored_iff

/-- A removal keeps, in their order, the entries whose stored form was not asked for, and
answers how many of the others it took out. -/
theorem remove_eq (d : DomainList) (raws : List String) :
    d.remove raws =
      ((d.items.filter (Asked raws ·)).length, ⟨d.items.filter (¬ Asked raws ·)⟩) := by
  have hkept : (d.items.filter fun x => !(raws.filterMap fun r => (normalize r).toOption).contains x)
      = d.items.filter (¬ Asked raws ·) := by
    congr 1
    funext x
    rw [Bool.eq_iff_iff, Bool.not_eq_true', decide_eq_true_eq, ← mem_stored_iff]
    simp
  have hlen := List.length_eq_countP_add_countP (fun x => decide (Asked raws x)) (l := d.items)
  simp only [List.countP_eq_length_filter, decide_eq_true_eq] at hlen
  simp only [remove, hkept, Prod.mk.injEq, and_true]
  omega

/-! ## Moving -/

theorem take_append_cons_drop {α : Type} {l : List α} {i : Nat} (h : i ≤ l.length) (x : α) :
    l.take i ++ x :: l.drop i = l.insertIdx i x := by
  induction l generalizing i with
  | nil =>
    obtain rfl : i = 0 := by simpa using h
    rfl
  | cons y l ih =>
    cases i with
    | zero => rfl
    | succ i => simp [ih (by simpa using h)]

/-- A move within range takes the entry out and puts it back at the target position; the other
entries keep their order. -/
theorem move_eq_ok (d : DomainList) {i j : Nat} (hi : i < d.items.length)
    (hj : j < d.items.length) :
    d.move i j = .ok ⟨(d.items.eraseIdx i).insertIdx j d.items[i]⟩ := by
  have hrest : j ≤ (d.items.eraseIdx i).length := by
    rw [List.length_eraseIdx_of_lt hi]
    omega
  have hin : ¬ ((i : Int) < 0 || (i : Int) ≥ d.items.length || (j : Int) < 0 ||
      (j : Int) ≥ d.items.length) := by
    simp only [Bool.or_eq_true, decide_eq_true_eq, not_or]
    omega
  simp only [move, hin, Bool.false_eq_true, if_false, Int.toNat_natCast,
    List.getElem?_eq_getElem hi]
  rw [take_append_cons_drop hrest]

/-- A move with an index out of range is refused. -/
theorem move_out_of_range (d : DomainList) {src dst : Int}
    (h : ¬ (0 ≤ src ∧ src < d.items.length ∧ 0 ≤ dst ∧ dst < d.items.length)) :
    d.move src dst = .error .outOfRange := by
  have hout : (src < 0 || src ≥ d.items.length || dst < 0 || dst ≥ d.items.length) = true := by
    simp only [Bool.or_eq_true, decide_eq_true_eq]
    omega
  simp [move, hout]

/-- Moving an entry back to where it came from restores the list. -/
theorem move_move (d : DomainList) {i j : Nat} (hi : i < d.items.length)
    (hj : j < d.items.length) :
    ∃ d', d.move i j = .ok d' ∧ d'.move j i = .ok d := by
  let moved : DomainList := ⟨(d.items.eraseIdx i).insertIdx j d.items[i]⟩
  have hlen : moved.items.length = d.items.length := by
    simp only [moved, List.length_insertIdx, List.length_eraseIdx_of_lt hi]
    split <;> omega
  refine ⟨moved, move_eq_ok d hi hj, ?_⟩
  rw [move_eq_ok moved (hlen ▸ hj) (hlen ▸ hi)]
  -- the entry sits at `j`, and taking it out there leaves the list without it
  have hj' : j < moved.items.length := hlen ▸ hj
  have hat : moved.items[j] = d.items[i] := List.getElem_insertIdx_self _
  simp only [hat, moved, List.eraseIdx_insertIdx_self, List.insertIdx_eraseIdx_getElem hi]

/-- A move is one within range, or it is refused. -/
theorem move_cases (d : DomainList) (src dst : Int) :
    (∃ i j, ∃ hi : i < d.items.length, j < d.items.length ∧
        d.move src dst = .ok ⟨(d.items.eraseIdx i).insertIdx j d.items[i]⟩) ∨
      d.move src dst = .error .outOfRange := by
  by_cases h : 0 ≤ src ∧ src < d.items.length ∧ 0 ≤ dst ∧ dst < d.items.length
  · obtain ⟨i, rfl⟩ := Int.eq_ofNat_of_zero_le h.1
    obtain ⟨j, rfl⟩ := Int.eq_ofNat_of_zero_le h.2.2.1
    have hi : i < d.items.length := by omega
    have hj : j < d.items.length := by omega
    exact .inl ⟨i, j, hi, hj, move_eq_ok d hi hj⟩
  · exact .inr (move_out_of_range d h)

/-! ## No domain twice -/

open List in
/-- Taking an entry out and putting it back anywhere keeps the entries. -/
theorem perm_insertIdx_eraseIdx {α : Type} {l : List α} {i j : Nat} (hi : i < l.length)
    (hj : j ≤ (l.eraseIdx i).length) :
    ((l.eraseIdx i).insertIdx j l[i]).Perm l := by
  have hback : (l.eraseIdx i).insertIdx i l[i] = l := List.insertIdx_eraseIdx_getElem hi
  have hi' : i ≤ (l.eraseIdx i).length := by
    rw [List.length_eraseIdx_of_lt hi]
    omega
  calc (l.eraseIdx i).insertIdx j l[i]
      _ ~ l[i] :: l.eraseIdx i := perm_insertIdx _ _ hj
      _ ~ (l.eraseIdx i).insertIdx i l[i] := (perm_insertIdx _ _ hi').symm
      _ = l := hback

/-- A move keeps the entries, in some order. -/
theorem perm_apply_move (d : DomainList) (src dst : Int) :
    (d.apply (.move src dst)).items.Perm d.items := by
  rcases move_cases d src dst with ⟨i, j, hi, hj, hmove⟩ | hmove
  · simp only [DomainList.apply, hmove]
    have hj' : j ≤ (d.items.eraseIdx i).length := by
      rw [List.length_eraseIdx_of_lt hi]
      omega
    exact perm_insertIdx_eraseIdx hi hj'
  · simp only [DomainList.apply, hmove]
    exact List.Perm.refl _

/-- No call makes the list hold a domain twice. -/
theorem nodup_apply {d : DomainList} (h : d.items.Nodup) (e : Edit) : (d.apply e).items.Nodup := by
  cases e with
  | add raw =>
    rcases add_cases d raw with ⟨x, -, hx, hadd⟩ | ⟨-, hadd⟩ | ⟨x, -, -, hadd⟩
    · simp only [DomainList.apply, hadd]
      refine List.nodup_append.mpr ⟨h, by simp, ?_⟩
      rintro y hy z hz rfl
      have hyx : y = x := by simpa using hz
      exact hx (hyx ▸ hy)
    · rwa [apply_add_of_error hadd]
    · rwa [apply_add_of_error hadd]
  | remove raws =>
    simp only [DomainList.apply, remove_eq]
    exact h.filter _
  | move src dst => exact (perm_apply_move d src dst).symm.nodup h

theorem applyAll_nodup {d : DomainList} (h : d.items.Nodup) (es : List Edit) :
    (d.applyAll es).items.Nodup := by
  induction es generalizing d with
  | nil => exact h
  | cons e es ih => exact ih (nodup_apply h e)

/-! ## Every list the program holds -/

/-- Over any calls from a seeded list: the list never holds a domain twice; an addition appends
the stored form of its text or is refused, as invalid or as a duplicate, leaving the list as it
was; a removal keeps the entries not asked for in their order and answers how many it took out;
a move within range takes the entry out and puts it back at the target position, and moving it
back restores the list; a move with an index out of range is refused and changes nothing. -/
theorem domain_edits_follow_their_specs (seeds : List String) (es : List Edit) :
    let d := (seeded seeds).applyAll es
    d.items.Nodup ∧
      (∀ raw, (∃ x, normalize raw = .ok x ∧ x ∉ d.items ∧ d.add raw = .ok (x, ⟨d.items ++ [x]⟩)) ∨
        ((d.add raw = .error .invalid ∨ d.add raw = .error .duplicate) ∧ d.apply (.add raw) = d)) ∧
      (∀ raws, d.remove raws =
        ((d.items.filter (Asked raws ·)).length, ⟨d.items.filter (¬ Asked raws ·)⟩)) ∧
      (∀ i j : Nat, ∀ hi : i < d.items.length, j < d.items.length →
        d.move i j = .ok ⟨(d.items.eraseIdx i).insertIdx j d.items[i]⟩ ∧
          ∃ d', d.move i j = .ok d' ∧ d'.move j i = .ok d) ∧
      (∀ src dst : Int, ¬ (0 ≤ src ∧ src < d.items.length ∧ 0 ≤ dst ∧ dst < d.items.length) →
        d.move src dst = .error .outOfRange ∧ d.apply (.move src dst) = d) := by
  intro d
  have hseeded : (seeded seeds).items.Nodup := by
    rw [seeded_eq_applyAll]
    exact applyAll_nodup List.nodup_nil _
  refine ⟨applyAll_nodup hseeded es, fun raw => ?_, remove_eq d, fun i j hi hj =>
    ⟨move_eq_ok d hi hj, move_move d hi hj⟩, fun src dst h => ?_⟩
  · rcases add_cases d raw with hok | ⟨-, hadd⟩ | ⟨-, -, -, hadd⟩
    · exact .inl hok
    · exact .inr ⟨.inl hadd, apply_add_of_error hadd⟩
    · exact .inr ⟨.inr hadd, apply_add_of_error hadd⟩
  · have hmove := move_out_of_range d h
    exact ⟨hmove, by simp [DomainList.apply, hmove]⟩

end BrowserSessions.DomainList
