import Mathlib.Data.List.Basic

/-!
# Positions in a list

The first entry of a list that satisfies a predicate, with its position, and the first one behind
a position, as ways to take the list apart.
-/

namespace Positions

variable {α : Type} {p : α → Bool} {xs : List α} {x : α} {i n : ℕ}

theorem find?_zipIdx_eq_some :
    ((xs.zipIdx n).find? fun entry ↦ p entry.1) = some (x, i) ↔
      ∃ before after, xs = before ++ x :: after ∧ i = n + before.length ∧ p x = true ∧
        ∀ y ∈ before, p y = false := by
  induction xs generalizing n with
  | nil => simp
  | cons head tail ih =>
      rw [List.zipIdx_cons, List.find?_cons]
      by_cases hhead : p head = true
      · simp only [hhead]
        constructor
        · intro h
          obtain ⟨rfl, rfl⟩ := Prod.mk.inj (Option.some.inj h)
          exact ⟨[], tail, rfl, rfl, hhead, by simp⟩
        · rintro ⟨before, after, heq, rfl, hx, hbefore⟩
          cases before with
          | nil =>
              obtain ⟨rfl, rfl⟩ := List.cons.inj heq
              rfl
          | cons y before =>
              obtain ⟨rfl, rfl⟩ := List.cons.inj heq
              rw [hbefore head List.mem_cons_self] at hhead
              cases hhead
      · simp only [hhead]
        rw [ih]
        constructor
        · rintro ⟨before, after, rfl, rfl, hx, hbefore⟩
          refine ⟨head :: before, after, rfl, ?_, hx, ?_⟩
          · rw [List.length_cons]
            omega
          · exact List.forall_mem_cons.mpr ⟨Bool.eq_false_iff.mpr hhead, hbefore⟩
        · rintro ⟨before, after, heq, rfl, hx, hbefore⟩
          cases before with
          | nil =>
              obtain ⟨rfl, rfl⟩ := List.cons.inj heq
              exact absurd hx hhead
          | cons y before =>
              obtain ⟨rfl, rfl⟩ := List.cons.inj heq
              refine ⟨before, after, rfl, ?_, hx, fun z hz ↦ hbefore z (List.mem_cons_of_mem _ hz)⟩
              rw [List.length_cons]
              omega

theorem find?_eq_of_forall {p q : α → Bool} (h : ∀ y ∈ xs, p y = q y) : xs.find? p = xs.find? q := by
  induction xs with
  | nil => rfl
  | cons head tail ih =>
      rw [List.find?_cons, List.find?_cons, h head List.mem_cons_self,
        ih fun y hy ↦ h y (List.mem_cons_of_mem _ hy)]

/-- Behind a position only the rest of the list is looked at. -/
theorem find?_behind (before after : List α) :
    ((before ++ x :: after).zipIdx.find? fun entry ↦ before.length < entry.2 ∧ p entry.1) =
      (after.zipIdx (before.length + 1)).find? fun entry ↦ p entry.1 := by
  have hbefore : (before.zipIdx.find? fun entry ↦ before.length < entry.2 ∧ p entry.1) = none := by
    rw [List.find?_eq_none]
    intro entry hentry
    have hlt := List.snd_lt_of_mem_zipIdx hentry
    simp only [decide_eq_true_eq, not_and]
    omega
  rw [List.zipIdx_append, List.find?_append, hbefore, Option.none_or, List.zipIdx_cons,
    List.find?_cons]
  simp only [Nat.zero_add, Nat.lt_irrefl, false_and, decide_false]
  apply find?_eq_of_forall
  intro entry hentry
  have hlt := List.le_snd_of_mem_zipIdx hentry
  simp only [show before.length < entry.2 by omega, true_and, Bool.decide_eq_true]

/-- The first entry behind the position of `x` that satisfies `p`. -/
theorem find?_behind_eq_some {before after : List α} {y : α} :
    ((before ++ x :: after).zipIdx.find? fun entry ↦ before.length < entry.2 ∧ p entry.1) =
        some (y, i) ↔
      ∃ middle rest, after = middle ++ y :: rest ∧ i = before.length + 1 + middle.length ∧
        p y = true ∧ ∀ z ∈ middle, p z = false := by
  rw [find?_behind, find?_zipIdx_eq_some]

end Positions
