import Mathlib.Data.List.Induction

/-!
# Labelled transition systems

A labelled step relation, its finite runs and its reachable states. An invariant or an
order is preserved by a run as soon as one step preserves it; `restrict` keeps only the
steps which meet a condition, and `ofFun` is the system of a total step function.
-/

/-- A labelled transition system. A label carries everything a step is free to choose:
the operation, its arguments, the clock it reads, the identifiers it draws. -/
structure TransitionSystem (σ ι : Type*) where
  initial : σ → Prop
  step : σ → ι → σ → Prop

namespace TransitionSystem

variable {σ ι : Type*}

/-- `S.Run s is t` says that the labels `is`, taken in order, lead from `s` to `t`. -/
inductive Run (S : TransitionSystem σ ι) : σ → List ι → σ → Prop
  | nil (s : σ) : Run S s [] s
  | snoc {s t u : σ} {is : List ι} {i : ι} : Run S s is t → S.step t i u → Run S s (is ++ [i]) u

def Reachable (S : TransitionSystem σ ι) (t : σ) : Prop :=
  ∃ s is, S.initial s ∧ S.Run s is t

/-- The system in which only the steps that meet `P` are taken. -/
def restrict (S : TransitionSystem σ ι) (P : σ → ι → Prop) : TransitionSystem σ ι where
  initial := S.initial
  step s i t := P s i ∧ S.step s i t

/-- The system of a total step function. -/
def ofFun (initial : σ → Prop) (next : σ → ι → σ) : TransitionSystem σ ι where
  initial := initial
  step s i t := t = next s i

variable {S : TransitionSystem σ ι}

theorem Run.trans {s t u : σ} {is js : List ι} (h : S.Run s is t) (h' : S.Run t js u) :
    S.Run s (is ++ js) u := by
  induction h' with
  | nil => simpa using h
  | snoc _ hstep ih =>
      rw [← List.append_assoc]
      exact ih.snoc hstep

theorem Reachable.of_initial {s : σ} (h : S.initial s) : S.Reachable s :=
  ⟨s, [], h, .nil s⟩

theorem Reachable.run {s t : σ} {is : List ι} (h : S.Reachable s) (hrun : S.Run s is t) :
    S.Reachable t := by
  obtain ⟨r, js, hr, hjs⟩ := h
  exact ⟨r, js ++ is, hr, hjs.trans hrun⟩

theorem Reachable.step {s t : σ} {i : ι} (h : S.Reachable s) (hstep : S.step s i t) :
    S.Reachable t :=
  h.run (Run.snoc (.nil s) hstep)

/-- What every step preserves, a run preserves. -/
theorem Run.preserves {I : σ → Prop} {s t : σ} {is : List ι} (h : S.Run s is t)
    (hstep : ∀ {s i t}, S.step s i t → I s → I t) (hs : I s) : I t := by
  induction h with
  | nil => exact hs
  | snoc _ hi ih => exact hstep hi ih

/-- The invariant rule: an invariant holds in every reachable state. -/
theorem Reachable.invariant {I : σ → Prop} {t : σ} (h : S.Reachable t)
    (hinit : ∀ {s}, S.initial s → I s) (hstep : ∀ {s i t}, S.step s i t → I s → I t) : I t := by
  obtain ⟨s, is, hs, hrun⟩ := h
  exact hrun.preserves hstep (hinit hs)

/-- A preorder which every step respects, from states that meet an invariant, relates the
two ends of every run. -/
theorem Run.relates {I : σ → Prop} {r : σ → σ → Prop} (hrefl : ∀ s, r s s)
    (htrans : ∀ {s t u}, r s t → r t u → r s u)
    (hI : ∀ {s i t}, S.step s i t → I s → I t) (hr : ∀ {s i t}, S.step s i t → I s → r s t)
    {s t : σ} {is : List ι} (h : S.Run s is t) (hs : I s) : r s t := by
  induction h with
  | nil => exact hrefl s
  | snoc hrun hi ih => exact htrans ih (hr hi (hrun.preserves hI hs))

theorem Run.of_restrict {P : σ → ι → Prop} {s t : σ} {is : List ι}
    (h : (S.restrict P).Run s is t) : S.Run s is t := by
  induction h with
  | nil => exact .nil s
  | snoc _ hi ih => exact ih.snoc hi.2

/-- Two conditions on the steps are one. -/
theorem Run.restrict_restrict {P Q : σ → ι → Prop} {s t : σ} {is : List ι}
    (h : (S.restrict fun s i ↦ Q s i ∧ P s i).Run s is t) :
    ((S.restrict P).restrict Q).Run s is t := by
  induction h with
  | nil => exact .nil _
  | snoc _ hi ih => exact ih.snoc ⟨hi.1.1, hi.1.2, hi.2⟩

theorem run_ofFun (initial : σ → Prop) (next : σ → ι → σ) (s : σ) (is : List ι) :
    (ofFun initial next).Run s is (is.foldl next s) := by
  induction is using List.reverseRecOn with
  | nil => exact .nil s
  | append_singleton is i ih =>
      rw [List.foldl_append]
      exact ih.snoc rfl

theorem Run.eq_foldl {initial : σ → Prop} {next : σ → ι → σ} {s t : σ} {is : List ι}
    (h : (ofFun initial next).Run s is t) : t = is.foldl next s := by
  induction h with
  | nil => rfl
  | snoc _ hi ih => rw [List.foldl_append, ← ih]; exact hi

/-- Every step of a run of `next` from `s` meets `P` in the state it is taken from. -/
def StepsMeet (P : σ → ι → Prop) (next : σ → ι → σ) : σ → List ι → Prop
  | _, [] => True
  | s, i :: is => P s i ∧ StepsMeet P next (next s i) is

theorem run_restrict_ofFun {P : σ → ι → Prop} {next : σ → ι → σ} (initial : σ → Prop) {s : σ}
    {is : List ι} (h : StepsMeet P next s is) :
    ((ofFun initial next).restrict P).Run s is (is.foldl next s) := by
  induction is generalizing s with
  | nil => exact .nil s
  | cons i is ih =>
      have hfirst : ((ofFun initial next).restrict P).Run s [i] (next s i) :=
        Run.snoc (.nil s) ⟨h.1, rfl⟩
      exact hfirst.trans (ih h.2)

end TransitionSystem
