import Mathlib.Tactic.SplitIfs

/-!
# Bisection

The search for the place in a range of indices from which on a condition holds.
-/

/-- The first index from `low` on, and before `high`, at which `p` holds, and `high` if there is
none, for a condition that keeps holding. -/
def bisect (p : Nat → Bool) (low high : Nat) : Nat :=
  if low < high then
    let mid := (low + high) / 2
    if p mid then bisect p low mid else bisect p (mid + 1) high
  else low
termination_by high - low

theorem bisect_spec {p : Nat → Bool} (hp : ∀ {i j}, i ≤ j → p i = true → p j = true)
    {low high : Nat} (h : low ≤ high) :
    low ≤ bisect p low high ∧ bisect p low high ≤ high ∧
      (∀ i, low ≤ i → i < bisect p low high → p i = false) ∧
        (bisect p low high < high → p (bisect p low high) = true) := by
  fun_induction bisect p low high with
  | case1 low high hlt mid hmid ih =>
      obtain ⟨hlow, hhigh, hbefore, hat⟩ := ih (by omega)
      refine ⟨hlow, by omega, hbefore, fun _ ↦ ?_⟩
      by_cases hend : bisect p low mid < mid
      · exact hat hend
      · exact hp (show mid ≤ bisect p low mid by omega) hmid
  | case2 low high hlt mid hmid ih =>
      obtain ⟨hlow, hhigh, hbefore, hat⟩ := ih (by omega)
      refine ⟨by omega, hhigh, fun i hi hlt ↦ ?_, hat⟩
      by_cases himid : i ≤ mid
      · exact Bool.eq_false_iff.mpr fun hpi ↦ hmid (hp himid hpi)
      · exact hbefore i (by omega) hlt
  | case3 low high hge =>
      exact ⟨Nat.le_refl low, h, fun i hi hlt ↦ absurd hlt (by omega), fun hlt ↦ absurd hlt hge⟩
