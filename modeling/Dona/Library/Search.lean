import Mathlib.Data.List.Basic
import Mathlib.Data.List.Infix

/-!
# The first match in a list

A pattern says of a list whether it begins with a match, and what the match is. The search finds
the first suffix that does.
-/

section

variable {α β : Type}

/-- The first suffix that begins with a match: its position, and the match. -/
def search (pattern : List α → Option β) : List α → Option (ℕ × β)
  | [] => (pattern []).map fun found ↦ (0, found)
  | x :: xs =>
      match pattern (x :: xs) with
      | some found => some (0, found)
      | none => (search pattern xs).map fun entry ↦ (entry.1 + 1, entry.2)

variable {pattern : List α → Option β} {xs ys : List α}

theorem search_eq_none : search pattern xs = none ↔ ∀ i, pattern (xs.drop i) = none := by
  induction xs with
  | nil => simp [search]
  | cons x xs ih =>
      rw [search]
      cases hhead : pattern (x :: xs) with
      | some found =>
          refine iff_of_false nofun fun h ↦ ?_
          have hzero := h 0
          simp [hhead] at hzero
      | none =>
          simp only [Option.map_eq_none_iff, ih]
          constructor
          · intro h i
            cases i with
            | zero => exact hhead
            | succ i => exact h i
          · exact fun h i ↦ h (i + 1)

theorem search_eq_some {i : ℕ} {found : β} :
    search pattern xs = some (i, found) ↔
      i ≤ xs.length ∧ pattern (xs.drop i) = some found ∧ ∀ j < i, pattern (xs.drop j) = none := by
  induction xs generalizing i with
  | nil =>
      simp only [search, Option.map_eq_some_iff, Prod.mk.injEq, List.length_nil, Nat.le_zero,
        List.drop_nil]
      constructor
      · rintro ⟨found', hfound, rfl, rfl⟩
        exact ⟨rfl, hfound, by omega⟩
      · rintro ⟨rfl, hfound, -⟩
        exact ⟨found, hfound, rfl, rfl⟩
  | cons x xs ih =>
      rw [search]
      cases hhead : pattern (x :: xs) with
      | some first =>
          simp only [Option.some.injEq, Prod.mk.injEq]
          constructor
          · rintro ⟨rfl, rfl⟩
            exact ⟨Nat.zero_le _, hhead, by omega⟩
          · rintro ⟨-, hfound, hbefore⟩
            cases i with
            | zero =>
                rw [List.drop_zero, hhead] at hfound
                exact ⟨rfl, Option.some.inj hfound⟩
            | succ i =>
                have hzero := hbefore 0 (by omega)
                simp [hhead] at hzero
      | none =>
          simp only [Option.map_eq_some_iff, Prod.exists, Prod.mk.injEq]
          constructor
          · rintro ⟨j, found', hj, rfl, rfl⟩
            obtain ⟨hle, hfound, hbefore⟩ := ih.mp hj
            refine ⟨by simpa using hle, hfound, fun k hk ↦ ?_⟩
            cases k with
            | zero => exact hhead
            | succ k => exact hbefore k (by omega)
          · rintro ⟨hle, hfound, hbefore⟩
            cases i with
            | zero =>
                rw [List.drop_zero, hhead] at hfound
                contradiction
            | succ i =>
                refine ⟨i, found, ih.mpr ⟨by simpa using hle, hfound, fun j hj ↦ ?_⟩, rfl, rfl⟩
                exact hbefore (j + 1) (by omega)

/-- Elements at which no match begins are passed over. -/
theorem search_append (h : ∀ i < xs.length, pattern (xs.drop i ++ ys) = none) :
    search pattern (xs ++ ys) =
      (search pattern ys).map fun entry ↦ (entry.1 + xs.length, entry.2) := by
  induction xs with
  | nil => simp
  | cons x xs ih =>
      have hhead := h 0 (by simp)
      rw [List.drop_zero, List.cons_append] at hhead
      have htail : ∀ i < xs.length, pattern (xs.drop i ++ ys) = none :=
        fun i hi ↦ h (i + 1) (by simpa using hi)
      rw [List.cons_append, search, hhead]
      simp only [ih htail, Option.map_map, List.length_cons]
      congr 1

end

/-! ### A word in a list -/

section

variable {α : Type} [DecidableEq α]

/-- The position of the first occurrence of a word. -/
def indexOf (word xs : List α) : Option ℕ :=
  (search (fun ys ↦ if word.isPrefixOf ys then some () else none) xs).map (·.1)

variable {word xs ys : List α} {i : ℕ}

theorem indexOf_eq_none : indexOf word xs = none ↔ ∀ i, ¬word <+: xs.drop i := by
  simp [indexOf, search_eq_none]

theorem indexOf_eq_some :
    indexOf word xs = some i ↔
      i ≤ xs.length ∧ word <+: xs.drop i ∧ ∀ j < i, ¬word <+: xs.drop j := by
  simp [indexOf, search_eq_some]

theorem length_of_indexOf (h : indexOf word xs = some i) : i + word.length ≤ xs.length := by
  obtain ⟨hle, hstart, -⟩ := indexOf_eq_some.mp h
  have hlength := hstart.length_le
  rw [List.length_drop] at hlength
  omega

omit [DecidableEq α] in
/-- A prefix that ends inside the first of two lists is a prefix of that list. -/
theorem prefix_drop_append (h : word <+: (xs ++ ys).drop i) (hle : i + word.length ≤ xs.length) :
    word <+: xs.drop i := by
  rw [List.drop_append_of_le_length (by omega)] at h
  refine List.prefix_of_prefix_length_le h (List.prefix_append _ _) ?_
  rw [List.length_drop]
  omega

/-- More behind the first occurrence does not move it. -/
theorem indexOf_append (h : indexOf word xs = some i) : indexOf word (xs ++ ys) = some i := by
  obtain ⟨hle, hstart, hbefore⟩ := indexOf_eq_some.mp h
  have hlength := length_of_indexOf h
  refine indexOf_eq_some.mpr ⟨by simp; omega, ?_, fun j hj hstart' ↦ ?_⟩
  · rw [List.drop_append_of_le_length hle]
    exact hstart.trans (List.prefix_append _ _)
  · exact hbefore j hj (prefix_drop_append hstart' (by omega))

/-- An occurrence that is not in the first of two lists ends in the second. -/
theorem lt_of_indexOf_append (hnone : indexOf word xs = none)
    (h : indexOf word (xs ++ ys) = some i) : xs.length < i + word.length := by
  by_contra hle
  obtain ⟨-, hstart, -⟩ := indexOf_eq_some.mp h
  exact indexOf_eq_none.mp hnone i (prefix_drop_append hstart (by omega))

/-- What ends before the first occurrence does holds none. -/
theorem indexOf_eq_none_of_start (h : indexOf word ys = some i) (hstart : xs <+: ys)
    (hlt : xs.length < i + word.length) : indexOf word xs = none := by
  cases hfound : indexOf word xs with
  | none => rfl
  | some j =>
      obtain ⟨rest, rfl⟩ := hstart
      have hj := length_of_indexOf hfound
      obtain rfl : i = j := Option.some.inj (h.symm.trans (indexOf_append hfound))
      omega

/-- The first occurrence is found in every beginning of the list that holds it. -/
theorem indexOf_take {n : ℕ} (h : indexOf word xs = some i) (hn : i + word.length ≤ n) :
    indexOf word (xs.take n) = some i := by
  have hlength := length_of_indexOf h
  cases hfound : indexOf word (xs.take n) with
  | none =>
      obtain ⟨-, hstart, -⟩ := indexOf_eq_some.mp h
      rw [← List.take_append_drop n xs] at hstart
      refine absurd (prefix_drop_append hstart ?_) (indexOf_eq_none.mp hfound i)
      rw [List.length_take]
      omega
  | some j =>
      have happend : indexOf word (xs.take n ++ xs.drop n) = some j := indexOf_append hfound
      rw [List.take_append_drop, h] at happend
      exact congrArg some (Option.some.inj happend).symm

/-- What is found in a beginning of the list is the first occurrence in the list. -/
theorem indexOf_of_take {n : ℕ} (h : indexOf word (xs.take n) = some i) :
    indexOf word xs = some i ∧ i + word.length ≤ n := by
  have hlength := length_of_indexOf h
  rw [List.length_take] at hlength
  refine ⟨?_, by omega⟩
  rw [← List.take_append_drop n xs]
  exact indexOf_append h

end
