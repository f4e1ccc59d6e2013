import Mathlib.Data.List.Nodup
import Mathlib.Data.Option.Basic

/-!
# Keyed tables

A table is a list of rows under distinct keys, in the order in which they were inserted.
The operations are the statements a relational program issues: insert under a new key,
update the rows that satisfy a condition, delete the rows that satisfy a condition, select,
test and count. Each comes with the equation of `get?` after it.

`Evolves R` says that two tables have the same keys and that the rows under one key are
related: what rewriting rows can do, as a relation that composes.
-/

structure Table (κ ρ : Type*) where
  entries : List (κ × ρ)
  nodup : (entries.map Prod.fst).Nodup

namespace Table

variable {κ ρ : Type*}

def empty : Table κ ρ := ⟨[], List.nodup_nil⟩

/-- The rows that satisfy `p`, in insertion order. -/
def select (t : Table κ ρ) (p : κ → ρ → Bool) : List (κ × ρ) :=
  t.entries.filter fun e ↦ p e.1 e.2

def any (t : Table κ ρ) (p : κ → ρ → Bool) : Bool :=
  t.entries.any fun e ↦ p e.1 e.2

def count (t : Table κ ρ) (p : κ → ρ → Bool) : ℕ :=
  t.entries.countP fun e ↦ p e.1 e.2

def find? (t : Table κ ρ) (p : κ → ρ → Bool) : Option (κ × ρ) :=
  t.entries.find? fun e ↦ p e.1 e.2

/-- The better of two entries, the later one only when it comes before the earlier one. -/
def pick (before : κ × ρ → κ × ρ → Bool) (best : Option (κ × ρ)) (entry : κ × ρ) :
    Option (κ × ρ) :=
  match best with
  | none => some entry
  | some first => if before entry first then some entry else some first

/-- The first row that satisfies `p`, in the order `before`: `ORDER BY … LIMIT 1`. -/
def first? (t : Table κ ρ) (p : κ → ρ → Bool) (before : κ × ρ → κ × ρ → Bool) :
    Option (κ × ρ) :=
  (t.select p).foldl (pick before) none

/-- Rewrites the rows that satisfy `p`. -/
def updateWhere (t : Table κ ρ) (p : κ → ρ → Bool) (f : ρ → ρ) : Table κ ρ where
  entries := t.entries.map fun e ↦ (e.1, if p e.1 e.2 then f e.2 else e.2)
  nodup := by simpa [List.map_map, Function.comp_def] using t.nodup

def deleteWhere (t : Table κ ρ) (p : κ → ρ → Bool) : Table κ ρ where
  entries := t.entries.filter fun e ↦ !p e.1 e.2
  nodup := t.nodup.sublist (List.filter_sublist.map _)

variable [DecidableEq κ]

def get? (t : Table κ ρ) (k : κ) : Option ρ := t.entries.lookup k

/-- Inserts a row; there is no result when the key is already taken. -/
def insert? (t : Table κ ρ) (k : κ) (r : ρ) : Option (Table κ ρ) :=
  if h : k ∈ t.entries.map Prod.fst then none
  else some ⟨t.entries ++ [(k, r)], by
    simpa [List.nodup_append, t.nodup] using fun a b hab hak ↦ h (by
      subst hak
      exact List.mem_map_of_mem (f := Prod.fst) hab)⟩

/-- Rewrites the row with the given key. -/
def updateKey (t : Table κ ρ) (k : κ) (f : ρ → ρ) : Table κ ρ :=
  t.updateWhere (fun k' _ ↦ decide (k' = k)) f

@[simp] theorem get?_empty (k : κ) : (empty : Table κ ρ).get? k = none := rfl

theorem mem_entries_iff {t : Table κ ρ} {k : κ} {r : ρ} :
    (k, r) ∈ t.entries ↔ t.get? k = some r := by
  obtain ⟨entries, nodup⟩ := t
  simp only [get?]
  induction entries with
  | nil => simp
  | cons e es ih =>
      obtain ⟨k', r'⟩ := e
      simp only [List.map_cons, List.nodup_cons] at nodup
      rw [List.mem_cons, List.lookup_cons, ih nodup.2]
      by_cases hk : k = k'
      · subst hk
        have hnone : es.lookup k = none := by
          rw [List.lookup_eq_none_iff]
          intro e he
          simpa using fun hke : k = e.1 ↦ nodup.1 (hke ▸ List.mem_map_of_mem (f := Prod.fst) he)
        simp [hnone, eq_comm]
      · simp [hk, beq_false_of_ne hk]

theorem get?_eq_none_iff {t : Table κ ρ} {k : κ} :
    t.get? k = none ↔ k ∉ t.entries.map Prod.fst := by
  simp only [get?, List.lookup_eq_none_iff, List.mem_map, not_exists, not_and, bne_iff_ne]
  exact ⟨fun h e he hek ↦ h e he hek.symm, fun h e he hek ↦ h e he hek.symm⟩

theorem any_eq_true_iff {t : Table κ ρ} {p : κ → ρ → Bool} :
    t.any p = true ↔ ∃ k r, t.get? k = some r ∧ p k r = true := by
  simp only [any, List.any_eq_true, Prod.exists, mem_entries_iff]

theorem any_eq_false_iff {t : Table κ ρ} {p : κ → ρ → Bool} :
    t.any p = false ↔ ∀ k r, t.get? k = some r → p k r = false := by
  rw [← Bool.not_eq_true, any_eq_true_iff]
  simp

theorem get?_of_find? {t : Table κ ρ} {p : κ → ρ → Bool} {k : κ} {r : ρ}
    (h : t.find? p = some (k, r)) : t.get? k = some r ∧ p k r = true := by
  have hp := List.find?_some h
  exact ⟨mem_entries_iff.1 (List.mem_of_find?_eq_some h), hp⟩

theorem find?_eq_none_iff {t : Table κ ρ} {p : κ → ρ → Bool} :
    t.find? p = none ↔ ∀ k r, t.get? k = some r → p k r = false := by
  simp only [find?, List.find?_eq_none, Prod.forall, mem_entries_iff, Bool.not_eq_true]

theorem mem_select_iff {t : Table κ ρ} {p : κ → ρ → Bool} {k : κ} {r : ρ} :
    (k, r) ∈ t.select p ↔ t.get? k = some r ∧ p k r = true := by
  simp [select, List.mem_filter, mem_entries_iff]

omit [DecidableEq κ] in
theorem mem_of_foldl_pick {before : κ × ρ → κ × ρ → Bool} {entries : List (κ × ρ)}
    {best : Option (κ × ρ)} {entry : κ × ρ} (h : entries.foldl (pick before) best = some entry) :
    best = some entry ∨ entry ∈ entries := by
  induction entries generalizing best with
  | nil => exact .inl h
  | cons head tail ih =>
      rcases ih h with hhead | htail
      · cases best with
        | none => exact .inr (List.mem_cons.2 (.inl (Option.some.inj hhead).symm))
        | some first =>
            simp only [pick] at hhead
            split_ifs at hhead with hbefore
            · exact .inr (List.mem_cons.2 (.inl (Option.some.inj hhead).symm))
            · exact .inl hhead
      · exact .inr (List.mem_cons_of_mem _ htail)

theorem get?_of_first? {t : Table κ ρ} {p : κ → ρ → Bool} {before : κ × ρ → κ × ρ → Bool} {k : κ}
    {r : ρ} (h : t.first? p before = some (k, r)) : t.get? k = some r ∧ p k r = true := by
  rcases mem_of_foldl_pick h with hnone | hmem
  · cases hnone
  · exact mem_select_iff.1 hmem

@[simp] theorem get?_updateWhere (t : Table κ ρ) (p : κ → ρ → Bool) (f : ρ → ρ) (k : κ) :
    (t.updateWhere p f).get? k = (t.get? k).map fun r ↦ if p k r then f r else r := by
  obtain ⟨entries, nodup⟩ := t
  simp only [get?, updateWhere]
  clear nodup
  induction entries with
  | nil => rfl
  | cons e es ih =>
      obtain ⟨k', r'⟩ := e
      rw [List.map_cons, List.lookup_cons, List.lookup_cons, ih]
      by_cases hk : k = k'
      · subst hk
        simp
      · simp [beq_false_of_ne hk]

theorem updateWhere_eq_self {t : Table κ ρ} {p : κ → ρ → Bool} {f : ρ → ρ}
    (h : ∀ k r, t.get? k = some r → p k r = false) : t.updateWhere p f = t := by
  obtain ⟨entries, nodup⟩ := t
  have hsame : (entries.map fun e ↦ (e.1, if p e.1 e.2 then f e.2 else e.2)) = entries := by
    refine (List.map_congr_left fun e he ↦ ?_).trans (List.map_id entries)
    have hp := h e.1 e.2 (mem_entries_iff.1 he)
    simp [hp]
  simp only [updateWhere, hsame]

theorem select_eq_nil {t : Table κ ρ} {p : κ → ρ → Bool}
    (h : ∀ k r, t.get? k = some r → p k r = false) : t.select p = [] := by
  refine List.filter_eq_nil_iff.2 fun e he ↦ ?_
  simpa using h e.1 e.2 (mem_entries_iff.1 he)

@[simp] theorem get?_deleteWhere (t : Table κ ρ) (p : κ → ρ → Bool) (k : κ) :
    (t.deleteWhere p).get? k = (t.get? k).filter fun r ↦ !p k r := by
  ext r
  rw [← mem_entries_iff]
  simp [deleteWhere, List.mem_filter, mem_entries_iff, Option.filter_eq_some_iff]

@[simp] theorem get?_updateKey (t : Table κ ρ) (k k' : κ) (f : ρ → ρ) :
    (t.updateKey k f).get? k' = if k' = k then (t.get? k').map f else t.get? k' := by
  rw [updateKey, get?_updateWhere]
  by_cases hk : k' = k <;> simp [hk]

theorem get?_insert? {t u : Table κ ρ} {k : κ} {r : ρ} (h : t.insert? k r = some u) (k' : κ) :
    u.get? k' = if k' = k then some r else t.get? k' := by
  unfold insert? at h
  split_ifs at h with hk
  obtain rfl := Option.some.inj h
  have hnone : t.entries.lookup k = none := get?_eq_none_iff.2 hk
  simp only [get?, List.lookup_append]
  by_cases hk' : k' = k
  · subst hk'
    simp [hnone]
  · simp [hk', List.lookup_cons, beq_false_of_ne hk']

theorem get?_eq_none_of_insert? {t u : Table κ ρ} {k : κ} {r : ρ} (h : t.insert? k r = some u) :
    t.get? k = none := by
  unfold insert? at h
  split_ifs at h with hk
  exact get?_eq_none_iff.2 hk

theorem exists_of_insert?_eq_none {t : Table κ ρ} {k : κ} {r : ρ} (h : t.insert? k r = none) :
    ∃ old, t.get? k = some old := by
  rw [← Option.ne_none_iff_exists', ne_eq, get?_eq_none_iff]
  intro hk
  rw [insert?, dif_neg hk] at h
  contradiction

/-- A row that was inserted is deleted again. -/
theorem deleteWhere_insert? {t u : Table κ ρ} {k : κ} {r : ρ} (h : t.insert? k r = some u) :
    u.deleteWhere (fun id _ ↦ id = k) = t := by
  unfold insert? at h
  split_ifs at h with hk
  obtain rfl := Option.some.inj h
  have hkeep : ∀ entry ∈ t.entries, entry.1 ≠ k := by
    rintro entry hentry rfl
    exact hk (List.mem_map_of_mem hentry)
  have hfilter : t.entries.filter (fun entry ↦ !decide (entry.1 = k)) = t.entries :=
    List.filter_eq_self.2 fun entry hentry ↦ by simpa using hkeep entry hentry
  cases t
  simp only [deleteWhere, List.filter_append, mk.injEq]
  simpa using hfilter

/-! ### Counts -/

theorem count_eq_countP_keys (t : Table κ ρ) (p : κ → ρ → Bool) :
    t.count p = (t.entries.map Prod.fst).countP fun k ↦ (t.get? k).any (p k) := by
  rw [count, List.countP_map]
  refine List.countP_congr fun e he ↦ ?_
  have hget : t.get? e.1 = some e.2 := mem_entries_iff.1 he
  simp [hget]

theorem mem_keys_iff {t : Table κ ρ} {k : κ} :
    k ∈ t.entries.map Prod.fst ↔ (t.get? k).isSome := by
  rw [← not_iff_not, ← get?_eq_none_iff, Option.not_isSome_iff_eq_none]

theorem count_insert? {t u : Table κ ρ} {k : κ} {r : ρ} (h : t.insert? k r = some u)
    (p : κ → ρ → Bool) : u.count p = t.count p + if p k r then 1 else 0 := by
  unfold insert? at h
  split_ifs at h
  obtain rfl := Option.some.inj h
  simp [count, List.countP_append]

theorem count_eq_zero_iff {t : Table κ ρ} {p : κ → ρ → Bool} :
    t.count p = 0 ↔ ∀ k r, t.get? k = some r → p k r = false := by
  simp only [count, List.countP_eq_zero, Prod.forall, mem_entries_iff, Bool.not_eq_true]

/-! ### Evolution of the rows -/

/-- The same keys, and `R k` relates the old and the new row under the key `k`. -/
def Evolves (R : κ → ρ → ρ → Prop) (t u : Table κ ρ) : Prop :=
  ∀ k, Option.Rel (R k) (t.get? k) (u.get? k)

variable {R S : κ → ρ → ρ → Prop} {t u v : Table κ ρ}

theorem Evolves.exists_new (h : Evolves R t u) {k : κ} {r : ρ} (hr : t.get? k = some r) :
    ∃ r', u.get? k = some r' ∧ R k r r' := by
  have hk := h k
  rw [hr] at hk
  cases hu : u.get? k with
  | none => rw [hu] at hk; cases hk
  | some r' =>
      rw [hu] at hk
      cases hk with
      | some hR => exact ⟨r', rfl, hR⟩

theorem Evolves.exists_old (h : Evolves R t u) {k : κ} {r' : ρ} (hr : u.get? k = some r') :
    ∃ r, t.get? k = some r ∧ R k r r' := by
  have hk := h k
  rw [hr] at hk
  cases ht : t.get? k with
  | none => rw [ht] at hk; cases hk
  | some r =>
      rw [ht] at hk
      cases hk with
      | some hR => exact ⟨r, rfl, hR⟩

theorem Evolves.get?_eq_none_iff (h : Evolves R t u) {k : κ} :
    u.get? k = none ↔ t.get? k = none := by
  constructor
  · intro hu
    by_contra hne
    obtain ⟨r, hr⟩ := Option.ne_none_iff_exists'.1 hne
    obtain ⟨r', hr', -⟩ := h.exists_new hr
    simp [hu] at hr'
  · intro ht
    by_contra hne
    obtain ⟨r', hr'⟩ := Option.ne_none_iff_exists'.1 hne
    obtain ⟨r, hr, -⟩ := h.exists_old hr'
    simp [ht] at hr

theorem Evolves.refl (hR : ∀ k r, R k r r) (t : Table κ ρ) : Evolves R t t := by
  intro k
  cases t.get? k with
  | none => exact .none
  | some r => exact .some (hR k r)

theorem Evolves.comp {T : κ → ρ → ρ → Prop} (h : Evolves R t u) (h' : Evolves S u v)
    (hT : ∀ {k r s w}, R k r s → S k s w → T k r w) : Evolves T t v := by
  intro k
  cases ht : t.get? k with
  | none =>
      rw [h'.get?_eq_none_iff.2 (h.get?_eq_none_iff.2 ht)]
      exact .none
  | some r =>
      obtain ⟨s, hs, hrs⟩ := h.exists_new ht
      obtain ⟨w, hw, hsw⟩ := h'.exists_new hs
      rw [hw]
      exact .some (hT hrs hsw)

theorem Evolves.trans (hR : ∀ {k r s w}, R k r s → R k s w → R k r w) (h : Evolves R t u)
    (h' : Evolves R u v) : Evolves R t v := h.comp h' hR

theorem Evolves.mono (hRS : ∀ {k r s}, R k r s → S k r s) (h : Evolves R t u) :
    Evolves S t u := by
  intro k
  have hk := h k
  cases ht : t.get? k with
  | none =>
      rw [h.get?_eq_none_iff.2 ht]
      exact .none
  | some r =>
      obtain ⟨s, hs, hrs⟩ := h.exists_new ht
      rw [hs]
      exact .some (hRS hrs)

theorem evolves_updateWhere {p : κ → ρ → Bool} {f : ρ → ρ}
    (h : ∀ k r, t.get? k = some r → R k r (if p k r then f r else r)) :
    Evolves R t (t.updateWhere p f) := by
  intro k
  rw [get?_updateWhere]
  cases ht : t.get? k with
  | none => exact .none
  | some r => exact .some (h k r ht)

theorem evolves_updateWhere_of_forall {p : κ → ρ → Bool} {f : ρ → ρ} (hR : ∀ k r, R k r r)
    (h : ∀ k r, R k r (f r)) : Evolves R t (t.updateWhere p f) := by
  refine evolves_updateWhere fun k r _ ↦ ?_
  split_ifs
  · exact h k r
  · exact hR k r

theorem evolves_updateKey {k : κ} {f : ρ → ρ} (hR : ∀ k r, R k r r)
    (h : ∀ r, t.get? k = some r → R k r (f r)) : Evolves R t (t.updateKey k f) := by
  refine evolves_updateWhere fun k' r hr ↦ ?_
  by_cases hk : k' = k
  · subst hk
    simpa using h r hr
  · simpa [hk] using hR k' r

/-- Tables that evolve by a relation which keeps a condition on the rows have as many of them. -/
theorem Evolves.count_eq (h : Evolves R t u) {p q : κ → ρ → Bool}
    (hpq : ∀ {k r s}, R k r s → p k r = q k s) : t.count p = u.count q := by
  have hkeys : (t.entries.map Prod.fst).Perm (u.entries.map Prod.fst) := by
    refine (List.perm_ext_iff_of_nodup t.nodup u.nodup).2 fun k ↦ ?_
    rw [mem_keys_iff, mem_keys_iff, ← not_iff_not, Option.not_isSome_iff_eq_none,
      Option.not_isSome_iff_eq_none]
    exact h.get?_eq_none_iff.symm
  rw [count_eq_countP_keys, count_eq_countP_keys, hkeys.countP_eq]
  refine List.countP_congr fun k _ ↦ ?_
  have hk := h k
  cases ht : t.get? k with
  | none => simp [h.get?_eq_none_iff.2 ht]
  | some r =>
      obtain ⟨s, hs, hrs⟩ := h.exists_new ht
      simp [hs, hpq hrs]

/-! ### Growth -/

/-- Every row is still there, related to what it was; rows may have been added. -/
def Extends (R : κ → ρ → ρ → Prop) (t u : Table κ ρ) : Prop :=
  ∀ k r, t.get? k = some r → ∃ r', u.get? k = some r' ∧ R k r r'

theorem Evolves.extends (h : Evolves R t u) : Extends R t u := fun _ _ hr ↦ h.exists_new hr

theorem Extends.refl (hR : ∀ k r, R k r r) (t : Table κ ρ) : Extends R t t :=
  fun k r hr ↦ ⟨r, hr, hR k r⟩

theorem Extends.comp {T : κ → ρ → ρ → Prop} (h : Extends R t u) (h' : Extends S u v)
    (hT : ∀ {k r s w}, R k r s → S k s w → T k r w) : Extends T t v := by
  intro k r hr
  obtain ⟨s, hs, hrs⟩ := h k r hr
  obtain ⟨w, hw, hsw⟩ := h' k s hs
  exact ⟨w, hw, hT hrs hsw⟩

theorem Extends.mono (hRS : ∀ {k r s}, R k r s → S k r s) (h : Extends R t u) : Extends S t u := by
  intro k r hr
  obtain ⟨s, hs, hrs⟩ := h k r hr
  exact ⟨s, hs, hRS hrs⟩

theorem extends_insert? (hR : ∀ k r, R k r r) {k : κ} {r : ρ} (h : t.insert? k r = some u) :
    Extends R t u := by
  intro k' r' hr'
  have hne : k' ≠ k := by
    rintro rfl
    rw [get?_eq_none_of_insert? h] at hr'
    contradiction
  exact ⟨r', by rw [get?_insert? h, if_neg hne]; exact hr', hR k' r'⟩

end Table
