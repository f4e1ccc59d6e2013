import Mathlib.Tactic.SplitIfs

/-!
# Transactions that may throw

A transaction body computes a result and a new state, or throws. `transaction` runs it: a
throw rolls the state back. The simp lemmas turn "the body succeeded" into the guards that
it passed, so that a proof about a transaction reads its guards and never unfolds a bind.
-/

namespace Fallible

variable {ε α β σ : Type}

/-- `if (c) throw e` -/
def throwIf (c : Prop) [Decidable c] (e : ε) : Except ε Unit :=
  if c then .error e else .ok ()

/-- A throw when there is a row, with a message about it. -/
def throwIfSome (o : Option α) (e : α → ε) : Except ε Unit :=
  match o with
  | some a => .error (e a)
  | none => .ok ()

/-- The value of a row that was looked up, or a throw when there is none. -/
def orThrow (o : Option α) (e : ε) : Except ε α :=
  match o with
  | some a => .ok a
  | none => .error e

@[simp] theorem ok_bind (a : α) (f : α → Except ε β) : (Except.ok a >>= f) = f a := rfl

@[simp] theorem error_bind (e : ε) (f : α → Except ε β) :
    ((Except.error e : Except ε α) >>= f) = .error e := rfl

theorem bind_eq_ok {x : Except ε α} {f : α → Except ε β} {b : β} :
    (x >>= f) = .ok b ↔ ∃ a, x = .ok a ∧ f a = .ok b := by
  cases x <;> simp

theorem bind_eq_error {x : Except ε α} {f : α → Except ε β} {e : ε} :
    (x >>= f) = .error e ↔ x = .error e ∨ ∃ a, x = .ok a ∧ f a = .error e := by
  cases x <;> simp

theorem map_eq_ok {x : Except ε α} {f : α → β} {b : β} :
    x.map f = .ok b ↔ ∃ a, x = .ok a ∧ f a = b := by
  cases x <;> simp [Except.map]

@[simp] theorem throwIf_eq_ok {c : Prop} [Decidable c] {e : ε} {a : Unit} :
    throwIf c e = .ok a ↔ ¬c := by
  unfold throwIf
  split_ifs with h <;> simp [h]

theorem throwIf_eq_error {c : Prop} [Decidable c] {e e' : ε} :
    throwIf c e = .error e' ↔ c ∧ e = e' := by
  unfold throwIf
  split_ifs with h <;> simp [h]

@[simp] theorem throwIf_bind_eq_ok {c : Prop} [Decidable c] {e : ε} {f : Unit → Except ε β}
    {b : β} : (throwIf c e >>= f) = .ok b ↔ ¬c ∧ f () = .ok b := by
  unfold throwIf
  split_ifs with h <;> simp [h]

@[simp] theorem throwIfSome_eq_ok {o : Option α} {e : α → ε} {u : Unit} :
    throwIfSome o e = .ok u ↔ o = none := by
  cases o <;> simp [throwIfSome]

@[simp] theorem throwIfSome_bind_eq_ok {o : Option α} {e : α → ε} {f : Unit → Except ε β} {b : β} :
    (throwIfSome o e >>= f) = .ok b ↔ o = none ∧ f () = .ok b := by
  cases o <;> simp [throwIfSome]

@[simp] theorem orThrow_eq_ok {o : Option α} {e : ε} {a : α} :
    orThrow o e = .ok a ↔ o = some a := by
  cases o <;> simp [orThrow]

theorem orThrow_eq_error {o : Option α} {e e' : ε} :
    orThrow o e = .error e' ↔ o = none ∧ e = e' := by
  cases o <;> simp [orThrow]

@[simp] theorem orThrow_bind_eq_ok {o : Option α} {e : ε} {f : α → Except ε β} {b : β} :
    (orThrow o e >>= f) = .ok b ↔ ∃ a, o = some a ∧ f a = .ok b := by
  cases o <;> simp [orThrow]

/-- Runs a transaction body; a throw leaves the state as it was. -/
def transaction (body : σ → Except ε (α × σ)) (s : σ) : Except ε α × σ :=
  match body s with
  | .ok (a, t) => (.ok a, t)
  | .error e => (.error e, s)

/-- The state a transaction leaves. -/
def commit (body : σ → Except ε (α × σ)) (s : σ) : σ := (transaction body s).2

theorem commit_of_ok {body : σ → Except ε (α × σ)} {s t : σ} {a : α} (h : body s = .ok (a, t)) :
    commit body s = t := by
  simp [commit, transaction, h]

theorem commit_of_error {body : σ → Except ε (α × σ)} {s : σ} {e : ε} (h : body s = .error e) :
    commit body s = s := by
  simp [commit, transaction, h]

/-- What holds of the state before, and of the state after whenever the body succeeds, holds
of the state a transaction leaves. -/
theorem commit_induction {body : σ → Except ε (α × σ)} {P : σ → Prop} {s : σ} (hs : P s)
    (h : ∀ a t, body s = .ok (a, t) → P t) : P (commit body s) := by
  rcases hbody : body s with e | ⟨a, t⟩
  · rwa [commit_of_error hbody]
  · rw [commit_of_ok hbody]
    exact h a t hbody

/-- What one round of a loop relates, the loop relates. -/
theorem foldlM_relates {R : σ → σ → Prop} (hrefl : ∀ s, R s s)
    (htrans : ∀ {s t u}, R s t → R t u → R s u) {f : σ → α → Except ε σ}
    (hf : ∀ {s a t}, f s a = .ok t → R s t) {as : List α} {s t : σ}
    (h : as.foldlM f s = .ok t) : R s t := by
  induction as generalizing s with
  | nil =>
      obtain rfl := Except.ok.inj h
      exact hrefl s
  | cons a as ih =>
      rw [List.foldlM_cons, bind_eq_ok] at h
      obtain ⟨r, hr, h⟩ := h
      exact htrans (hf hr) (ih h)

/-- Every element has a result, or the first that has none throws. -/
theorem mapM_orThrow {g : α → Option β} {e : ε} (as : List α) :
    as.mapM (fun a ↦ orThrow (g a) e) =
      if as.all fun a ↦ (g a).isSome then .ok (as.filterMap g) else .error e := by
  induction as with
  | nil => rfl
  | cons a as ih =>
      rw [List.mapM_cons, ih]
      cases hg : g a with
      | none => simp [orThrow, hg]
      | some b =>
          simp only [orThrow, ok_bind, List.all_cons, hg, Option.isSome_some, Bool.true_and,
            List.filterMap_cons_some hg]
          split_ifs <;> rfl

/-- Calls that all succeed give their results together. -/
theorem exists_mapM_eq_ok {f : α → Except ε β} {P : α → β → Prop} {as : List α}
    (h : ∀ a ∈ as, ∃ b, f a = .ok b ∧ P a b) :
    ∃ bs, as.mapM f = .ok bs ∧ (∀ b ∈ bs, ∃ a ∈ as, P a b) ∧ ∀ a ∈ as, ∃ b ∈ bs, P a b := by
  induction as with
  | nil => exact ⟨[], rfl, by simp⟩
  | cons a as ih =>
      obtain ⟨b, hb, hP⟩ := h a List.mem_cons_self
      obtain ⟨bs, hbs, hleft, hright⟩ := ih fun a' ha' ↦ h a' (List.mem_cons_of_mem a ha')
      refine ⟨b :: bs, ?_, fun b' hb' ↦ ?_, fun a' ha' ↦ ?_⟩
      · rw [List.mapM_cons, hb, hbs]
        rfl
      · rcases List.mem_cons.mp hb' with rfl | hb'
        · exact ⟨a, List.mem_cons_self, hP⟩
        · obtain ⟨a', ha', hP'⟩ := hleft b' hb'
          exact ⟨a', List.mem_cons_of_mem a ha', hP'⟩
      · rcases List.mem_cons.mp ha' with rfl | ha'
        · exact ⟨b, List.mem_cons_self, hP⟩
        · obtain ⟨b', hb', hP'⟩ := hright a' ha'
          exact ⟨b', List.mem_cons_of_mem b hb', hP'⟩

end Fallible
