import Mathlib.Data.List.Nodup
import Mathlib.Logic.Relation

/-!
# Closure under edges

What can be reached over the edges of a finite graph, by passes over the list of edges until a pass
adds nothing. Every pass that adds something leaves fewer edges whose target is missing, so the
passes come to an end; a pass that adds nothing finds the list closed.
-/

namespace Closure

open Relation

variable {α : Type} [DecidableEq α]

/-- An edge whose source is there adds its target. -/
def follow (ids : List α) (edge : α × α) : List α :=
  if edge.1 ∈ ids ∧ edge.2 ∉ ids then ids ++ [edge.2] else ids

def pass (edges : List (α × α)) (ids : List α) : List α := edges.foldl follow ids

/-- The edges whose target is missing. -/
def missing (edges : List (α × α)) (ids : List α) : ℕ := edges.countP fun edge ↦ edge.2 ∉ ids

/-- There is an edge from the first to the second. -/
def Edge (edges : List (α × α)) (a b : α) : Prop := (a, b) ∈ edges

variable {edges : List (α × α)} {edge : α × α} {ids : List α} {a b : α}

theorem isPrefix_follow (ids : List α) (edge : α × α) : ids <+: follow ids edge := by
  unfold follow
  split_ifs
  · exact List.prefix_append ids _
  · exact List.prefix_rfl

theorem follow_nodup (h : ids.Nodup) : (follow ids edge).Nodup := by
  unfold follow
  split_ifs with hedge
  · refine h.append (List.nodup_singleton _) ?_
    intro a ha hsingle
    rw [List.mem_singleton] at hsingle
    exact hedge.2 (hsingle ▸ ha)
  · exact h

theorem isPrefix_pass (edges : List (α × α)) (ids : List α) : ids <+: pass edges ids := by
  induction edges generalizing ids with
  | nil => exact List.prefix_rfl
  | cons edge edges ih => exact (isPrefix_follow ids edge).trans (ih _)

theorem pass_nodup (h : ids.Nodup) : (pass edges ids).Nodup := by
  induction edges generalizing ids with
  | nil => exact h
  | cons edge edges ih => exact ih (follow_nodup h)

/-- A pass adds only what an edge leads to. -/
theorem exists_of_mem_pass (h : b ∈ pass edges ids) :
    ∃ a ∈ ids, ReflTransGen (Edge edges) a b := by
  suffices ∀ others ⊆ edges, b ∈ pass others ids → ∃ a ∈ ids, ReflTransGen (Edge edges) a b from
    this edges (List.Subset.refl _) h
  clear h
  intro others hothers hb
  induction others generalizing ids with
  | nil => exact ⟨b, hb, .refl⟩
  | cons edge others ih =>
      rw [List.cons_subset] at hothers
      obtain ⟨a, ha, hreach⟩ := ih hothers.2 hb
      unfold follow at ha
      split_ifs at ha with hedge
      · rcases List.mem_append.1 ha with hold | hnew
        · exact ⟨a, hold, hreach⟩
        · rw [List.mem_singleton] at hnew
          subst hnew
          exact ⟨edge.1, hedge.1, .head hothers.1 hreach⟩
      · exact ⟨a, ha, hreach⟩

/-- A pass that adds nothing has found every target there. -/
theorem closed_of_pass (h : (pass edges ids).length = ids.length) :
    ∀ edge ∈ edges, edge.1 ∈ ids → edge.2 ∈ ids := by
  induction edges generalizing ids with
  | nil =>
      intro edge hedge
      cases hedge
  | cons edge edges ih =>
      have hle := (isPrefix_follow ids edge).length_le
      have hle' := (isPrefix_pass edges (follow ids edge)).length_le
      have hpass : (pass edges (follow ids edge)).length = ids.length := h
      have hfollow : follow ids edge = ids := by
        have hlength : (follow ids edge).length = ids.length := by omega
        exact ((isPrefix_follow ids edge).eq_of_length hlength.symm).symm
      rw [hfollow] at hpass
      intro other hother hsource
      rcases List.mem_cons.1 hother with rfl | hmem
      · by_contra htarget
        rw [follow, if_pos ⟨hsource, htarget⟩] at hfollow
        exact absurd (congrArg List.length hfollow) (by simp)
      · exact ih hpass other hmem hsource

theorem missing_mono {ids' : List α} (h : ids ⊆ ids') : missing edges ids' ≤ missing edges ids := by
  refine List.countP_mono_left fun edge _ hedge ↦ ?_
  rw [decide_eq_true_eq] at hedge ⊢
  exact fun htarget ↦ hedge (h htarget)

theorem missing_lt {ids' : List α} (h : ids ⊆ ids') (hedge : edge ∈ edges) (hold : edge.2 ∉ ids)
    (hnew : edge.2 ∈ ids') : missing edges ids' < missing edges ids := by
  obtain ⟨before, after, rfl⟩ := List.append_of_mem hedge
  have hbefore : missing before ids' ≤ missing before ids := missing_mono h
  have hafter : missing after ids' ≤ missing after ids := missing_mono h
  unfold missing at hbefore hafter ⊢
  rw [List.countP_append, List.countP_append, List.countP_cons_of_neg (by simpa using hnew),
    List.countP_cons_of_pos (by simpa using hold)]
  omega

theorem exists_added (h : (pass edges ids).length ≠ ids.length) :
    ∃ edge ∈ edges, edge.2 ∉ ids ∧ edge.2 ∈ pass edges ids := by
  induction edges generalizing ids with
  | nil => exact absurd rfl h
  | cons edge edges ih =>
      by_cases hedge : edge.1 ∈ ids ∧ edge.2 ∉ ids
      · refine ⟨edge, List.mem_cons_self, hedge.2, ?_⟩
        apply (isPrefix_pass edges (follow ids edge)).subset
        rw [follow, if_pos hedge]
        exact List.mem_append_right _ (List.mem_singleton_self _)
      · have hsame : follow ids edge = ids := if_neg hedge
        have hpass : pass (edge :: edges) ids = pass edges ids := by
          rw [pass, List.foldl_cons, hsame]
          rfl
        rw [hpass] at h ⊢
        obtain ⟨other, hother, hadded⟩ := ih h
        exact ⟨other, List.mem_cons_of_mem _ hother, hadded⟩

/-- A pass that adds something leaves fewer targets missing. -/
theorem missing_pass_lt (h : (pass edges ids).length ≠ ids.length) :
    missing edges (pass edges ids) < missing edges ids := by
  obtain ⟨edge, hedge, hold, hnew⟩ := exists_added h
  exact missing_lt (isPrefix_pass edges ids).subset hedge hold hnew

/-- Passes until one of them adds nothing. -/
def closure (edges : List (α × α)) (ids : List α) : List α :=
  if (pass edges ids).length = ids.length then ids else closure edges (pass edges ids)
termination_by missing edges ids
decreasing_by exact missing_pass_lt ‹_›

theorem closure_nodup (h : ids.Nodup) : (closure edges ids).Nodup := by
  induction ids using closure.induct edges with
  | case1 ids hsame =>
      rw [closure, if_pos hsame]
      exact h
  | case2 ids hmore ih =>
      rw [closure, if_neg hmore]
      exact ih (pass_nodup h)

/-- The closure is what can be reached. -/
theorem mem_closure_edges : b ∈ closure edges ids ↔ ∃ a ∈ ids, ReflTransGen (Edge edges) a b := by
  induction ids using closure.induct edges with
  | case1 ids hsame =>
      rw [closure, if_pos hsame]
      refine ⟨fun hb ↦ ⟨b, hb, .refl⟩, ?_⟩
      rintro ⟨a, ha, hreach⟩
      induction hreach with
      | refl => exact ha
      | tail _ hedge ih => exact closed_of_pass hsame _ hedge ih
  | case2 ids hmore ih =>
      rw [closure, if_neg hmore, ih]
      constructor
      · rintro ⟨a, ha, hreach⟩
        obtain ⟨c, hc, hreach'⟩ := exists_of_mem_pass ha
        exact ⟨c, hc, hreach'.trans hreach⟩
      · rintro ⟨a, ha, hreach⟩
        exact ⟨a, (isPrefix_pass edges ids).subset ha, hreach⟩

end Closure
