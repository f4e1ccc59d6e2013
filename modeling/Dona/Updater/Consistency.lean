import Dona.Updater.Exclusion

/-!
# Consistency of the request rows

The columns `completed_at`, `lease_owner`, `lease_expires_at` and `fence` of a request agree
with its state, and the active slot of the controller names a request that is still open.
Every operation of the database keeps this but one: `claim` reads neither the state nor
`completed_at`, so a request that was completed since the controller chose it is leased again.
-/

namespace Dona.Updater

open Fallible

/-- The columns which the controller passes to `transition`: the generation of an activation,
and the error for which it rolls back. -/
def MutationFields.IsIssued (fields : MutationFields) : Prop :=
  ∃ generation code message,
    fields = { activationGeneration := generation, lastErrorCode := code, lastErrorMessage := message }

namespace Operation

/-- The operations the updater issues. -/
def IsIssued : Operation → Prop
  | transition _ _ _ fields _ => fields.IsIssued
  | _ => True

/-- The operations which may reopen the request `id`. -/
def Reopens (id : RequestId) : Operation → Prop
  | beginOperatorRollback requestId _ _ _ _ => requestId = id
  | completeEvidenceReconcile requestId _ _ _ => requestId = id
  | _ => False

/-- The claims that keep the rows consistent: a claim of a request that is still open. -/
def ClaimsOpen (db : UpdateDb) : Operation → Prop
  | claim requestId _ _ _ =>
      ∀ row, db.requests.get? requestId = some row → row.state.isTerminal = false
  | _ => True

end Operation

/-- A request is completed exactly when its state is terminal, and then nobody leases it. -/
structure UpdateRow.Consistent (row : UpdateRow) : Prop where
  completed : row.completedAt ≠ none ↔ row.state.isTerminal = true
  unleased : row.state.isTerminal = true → row.leaseOwner = none ∧ row.leaseExpiresAt = none

theorem UpdateRow.consistent_of_open {row : UpdateRow} (hcompleted : row.completedAt = none)
    (hstate : row.state.isTerminal = false) : row.Consistent := by
  constructor
  · simp [hcompleted, hstate]
  · intro hterminal
    rw [hstate] at hterminal
    contradiction

namespace UpdateDb

variable {db db' : UpdateDb} {id : RequestId} {row : UpdateRow}

structure Consistent (db : UpdateDb) : Prop where
  rows : ∀ {id row}, db.requests.get? id = some row → row.Consistent
  active : ∀ {id}, db.activeRequestId = some id →
    ∃ row, db.requests.get? id = some row ∧ row.state.isTerminal = false

/-- No request loses its row or lowers its fence, and a terminal one keeps its fence unless
`reopened` allows it to be reopened. -/
def FencesKept (reopened : RequestId → Prop) (db db' : UpdateDb) : Prop :=
  ∀ id row, db.requests.get? id = some row → ∃ row', db'.requests.get? id = some row' ∧
    row.fence ≤ row'.fence ∧
      (row.state.isTerminal = true → row'.fence = row.fence ∨ reopened id)

theorem FencesKept.of_eq {reopened : RequestId → Prop} (h : db'.requests = db.requests) :
    FencesKept reopened db db' := by
  intro id row hrow
  exact ⟨row, h ▸ hrow, Nat.le_refl _, fun _ ↦ .inl rfl⟩

theorem FencesKept.rewrites {reopened : RequestId → Prop} {old : UpdateRow}
    (hold : db.requests.get? id = some old) (hrewrites : db.Rewrites id row db')
    (hfence : old.fence ≤ row.fence)
    (hterminal : old.state.isTerminal = true → row.fence = old.fence ∨ reopened id) :
    FencesKept reopened db db' := by
  intro k r hr
  by_cases hk : k = id
  · subst hk
    obtain rfl : old = r := Option.some.inj (hold.symm.trans hr)
    exact ⟨row, by rw [hrewrites, if_pos rfl], hfence, hterminal⟩
  · exact ⟨r, by rw [hrewrites, if_neg hk, hr], Nat.le_refl _, fun _ ↦ .inl rfl⟩

/-- What a step of the updater does to the rows. -/
def StepsTo (reopened : RequestId → Prop) (db db' : UpdateDb) : Prop :=
  db'.Consistent ∧ FencesKept reopened db db'

/-! ### How an operation keeps consistency -/

theorem consistent_fresh : fresh.Consistent := by
  constructor
  · intro id row hrow
    simp [fresh] at hrow
  · intro id hid
    simp [fresh] at hid

theorem Consistent.stepsTo_self (h : db.Consistent) {reopened : RequestId → Prop} :
    StepsTo reopened db db :=
  ⟨h, .of_eq rfl⟩

theorem Consistent.of_eq (h : db.Consistent) (hrequests : db'.requests = db.requests)
    (hactive : db'.activeRequestId = db.activeRequestId) : db'.Consistent := by
  constructor
  · rw [hrequests]
    exact h.rows
  · rw [hrequests, hactive]
    exact h.active

/-- One request is rewritten to a consistent row; the active slot names it only while it is
open, and names another request only if it did before. -/
theorem Consistent.rewrites (h : db.Consistent) (hrewrites : db.Rewrites id row db')
    (hrow : row.Consistent)
    (hself : db'.activeRequestId = some id → row.state.isTerminal = false)
    (hothers : ∀ k, k ≠ id → db'.activeRequestId = some k → db.activeRequestId = some k) :
    db'.Consistent := by
  constructor
  · intro k r hr
    rw [hrewrites k] at hr
    split_ifs at hr
    · obtain rfl := Option.some.inj hr
      exact hrow
    · exact h.rows hr
  · intro k hk
    by_cases heq : k = id
    · subst heq
      exact ⟨row, by rw [hrewrites, if_pos rfl], hself hk⟩
    · obtain ⟨r, hr, hopen⟩ := h.active (hothers k heq hk)
      exact ⟨r, by rw [hrewrites, if_neg heq, hr], hopen⟩

/-- A request keeps its state, its completion and its fence; if its lease changes, it is open. -/
theorem Consistent.stepsTo_of_sameState (h : db.Consistent) {reopened : RequestId → Prop}
    {old : UpdateRow} (hold : db.requests.get? id = some old)
    (hrewrites : db.Rewrites id row db') (hactive : db'.activeRequestId = db.activeRequestId)
    (hstate : row.state = old.state) (hcompleted : row.completedAt = old.completedAt)
    (hfence : row.fence = old.fence)
    (hlease : old.completedAt = none ∨
      (row.leaseOwner = old.leaseOwner ∧ row.leaseExpiresAt = old.leaseExpiresAt)) :
    StepsTo reopened db db' := by
  have hrow : row.Consistent := by
    constructor
    · rw [hstate, hcompleted]
      exact (h.rows hold).completed
    · intro hterminal
      rw [hstate] at hterminal
      rcases hlease with hopen | ⟨howner, hexpires⟩
      · exact absurd hopen ((h.rows hold).completed.2 hterminal)
      · rw [howner, hexpires]
        exact (h.rows hold).unleased hterminal
  refine ⟨h.rewrites hrewrites hrow (fun hid ↦ ?_) (fun k _ hk ↦ hactive ▸ hk),
    .rewrites hold hrewrites (Nat.le_of_eq hfence.symm) fun _ ↦ .inl hfence⟩
  obtain ⟨r, hr, hopen⟩ := h.active (hactive ▸ hid)
  obtain rfl : old = r := Option.some.inj (hold.symm.trans hr)
  rw [hstate]
  exact hopen

theorem Consistent.updateFencedOrThrow (h : db.Consistent) {reopened : RequestId → Prop}
    {fence : ℕ} {p : UpdateRow → Bool} {f : UpdateRow → UpdateRow} {error : String} {u : Unit}
    (hok : db.updateFencedOrThrow id fence p f error = .ok (u, db'))
    (hf : ∀ row, p row = true → (f row).state = row.state ∧
      (f row).completedAt = row.completedAt ∧ (f row).fence = row.fence ∧
        (row.completedAt = none ∨
          ((f row).leaseOwner = row.leaseOwner ∧ (f row).leaseExpiresAt = row.leaseExpiresAt))) :
    StepsTo reopened db db' := by
  obtain ⟨row, hrow, -, hp, hrewrites, hactive, -⟩ := updateFencedOrThrow_spec hok
  obtain ⟨hstate, hcompleted, hfence, hlease⟩ := hf row hp
  exact h.stepsTo_of_sameState hrow hrewrites hactive hstate hcompleted hfence hlease

theorem Consistent.completeInternal (h : db.Consistent) {reopened : RequestId → Prop}
    {target : TerminalState} {fields : MutationFields} {now : Time} {result : UpdateRow}
    (hok : db.completeInternal id row target fields now = .ok (result, db')) :
    StepsTo reopened db db' := by
  obtain ⟨-, hresult, ⟨old, hold, hfence⟩, hrewrites, hactive⟩ := completeInternal_spec hok
  have hterminal : result.state.isTerminal = true := by
    rw [hresult.state]
    exact target.2
  have hrow : result.Consistent := by
    constructor
    · simp [hresult.completedAt, hterminal]
    · intro _
      exact ⟨hresult.leaseOwner, hresult.leaseExpiresAt⟩
  have hsame : result.fence = old.fence := hresult.fence.trans hfence.symm
  refine ⟨h.rewrites hrewrites hrow (fun hid ↦ ?_) (fun k _ hk ↦ ?_),
    .rewrites hold hrewrites (Nat.le_of_eq hsame.symm) fun _ ↦ .inl hsame⟩
  · rw [hactive] at hid
    split_ifs at hid
    contradiction
  · rw [hactive] at hk
    split_ifs at hk
    exact hk

/-! ### Every operation keeps it -/

theorem Consistent.createPlan (h : db.Consistent) {reopened : RequestId → Prop}
    {request : PlanRequest} {material : PlanMaterial} {planId : String} {now : Time}
    {result : PlanResult} (hok : db.createPlan request material id planId now = .ok (result, db')) :
    StepsTo reopened db db' := by
  unfold UpdateDb.createPlan at hok
  split at hok
  · simp only [throwIf_bind_eq_ok, Except.ok.injEq, Prod.mk.injEq] at hok
    obtain ⟨-, -, rfl⟩ := hok
    exact h.stepsTo_self
  · simp only [throwIfSome_bind_eq_ok, throwIf_bind_eq_ok, orThrow_bind_eq_ok, Except.ok.injEq,
      Prod.mk.injEq] at hok
    obtain ⟨-, -, -, requests, hinsert, -, rfl⟩ := hok
    have hnew : db.requests.get? id = none := Table.get?_eq_none_of_insert? hinsert
    have hget := Table.get?_insert? hinsert
    constructor
    · refine h.rewrites hget (UpdateRow.consistent_of_open rfl rfl) (fun _ ↦ rfl) fun k _ hk ↦ hk
    · intro k r hr
      have hk : k ≠ id := by
        rintro rfl
        simp [hnew] at hr
      exact ⟨r, by rw [hget, if_neg hk, hr], Nat.le_refl _, fun _ ↦ .inl rfl⟩

theorem Consistent.approve (h : db.Consistent) {reopened : RequestId → Prop} {input : ApplyRequest}
    {now : Time} {b : Bool} (hok : db.approve input now = .ok (b, db')) :
    StepsTo reopened db db' := by
  simp only [UpdateDb.approve, orThrow_bind_eq_ok, throwIf_bind_eq_ok, Prod.exists] at hok
  obtain ⟨id, row, hfind, -, hok⟩ := hok
  split at hok
  · simp only [throwIf_bind_eq_ok, Except.ok.injEq, Prod.mk.injEq] at hok
    obtain ⟨-, -, rfl⟩ := hok
    exact h.stepsTo_self
  · simp only [bind_eq_ok, Except.ok.injEq, Prod.mk.injEq] at hok
    obtain ⟨db₁, htransition, -, rfl⟩ := hok
    obtain ⟨hmove, old, hold, -, hrewrites, hactive, -⟩ := transitionInternal_spec htransition
    obtain rfl : row = old := Option.some.inj ((Table.get?_of_find? hfind).1.symm.trans hold)
    have hopen := UpdateState.not_isTerminal_of_approved hmove
    have hcompleted : row.completedAt = none := by
      by_contra hne
      simp [(h.rows hold).completed.1 hne] at hopen
    exact ⟨h.rewrites hrewrites (UpdateRow.consistent_of_open hcompleted rfl) (fun _ ↦ rfl)
      fun k _ hk ↦ hactive ▸ hk, .rewrites hold hrewrites (Nat.le_refl _) fun _ ↦ .inl rfl⟩

theorem Consistent.requestCancellation (h : db.Consistent) {reopened : RequestId → Prop}
    {sourceEventId : String} {replyTarget : ReplyTarget} {reason : String} {now : Time}
    {result : UpdateRow}
    (hok : db.requestCancellation id sourceEventId replyTarget reason now = .ok (result, db')) :
    StepsTo reopened db db' := by
  simp only [UpdateDb.requestCancellation, bind_eq_ok, throwIf_eq_ok] at hok
  obtain ⟨row, -, -, -, hok⟩ := hok
  split_ifs at hok
  · obtain ⟨-, rfl⟩ := Prod.mk.inj (Except.ok.inj hok)
    exact h.stepsTo_self
  · exact h.completeInternal hok
  · exact h.completeInternal hok

theorem Consistent.terminal (h : db.Consistent) {reopened : RequestId → Prop} {fence : ℕ}
    {target : TerminalState} {fields : MutationFields} {now : Time} {result : UpdateRow}
    (hok : db.terminal id fence target fields now = .ok (result, db')) :
    StepsTo reopened db db' := by
  simp only [UpdateDb.terminal, bind_eq_ok] at hok
  obtain ⟨row, -, -, -, hcomplete⟩ := hok
  exact h.completeInternal hcomplete

/-- An operator takes up a request under review: the only requests an operator reopens. -/
theorem Consistent.beginOperatorRollback (h : db.Consistent) {reopened : RequestId → Prop}
    (hreopened : reopened id) {planHash : CanonicalPlan} {owner : String} {leaseMs : Int}
    {now : Time} {u : Unit}
    (hok : db.beginOperatorRollback id planHash owner leaseMs now = .ok (u, db')) :
    StepsTo reopened db db' := by
  simp only [UpdateDb.beginOperatorRollback, bind_eq_ok, throwIf_eq_ok, Except.ok.injEq,
    Prod.mk.injEq, Prod.exists] at hok
  obtain ⟨row, hrow, -, -, -, hfree, _, db₁, hupdate, -, rfl⟩ := hok
  rw [getRequired_eq_ok] at hrow
  obtain ⟨old, hold, -, -, hrewrites, -⟩ := updateFencedOrThrow_spec hupdate
  obtain rfl : row = old := Option.some.inj (hrow.symm.trans hold)
  constructor
  · refine h.rewrites hrewrites (UpdateRow.consistent_of_open rfl rfl) (fun _ ↦ rfl) ?_
    intro k hk hkactive
    exact absurd (Option.some.inj hkactive).symm hk
  · exact .rewrites hold hrewrites (Nat.le_succ _) fun _ ↦ .inr hreopened

theorem Consistent.completeEvidenceReconcile (h : db.Consistent) {reopened : RequestId → Prop}
    (hreopened : reopened id) {status : EvidenceStatus} {activeSha : String} {now : Time}
    {result : UpdateRow}
    (hok : db.completeEvidenceReconcile id status activeSha now = .ok (result, db')) :
    StepsTo reopened db db' := by
  simp only [UpdateDb.completeEvidenceReconcile, bind_eq_ok, throwIf_eq_ok, Prod.exists] at hok
  obtain ⟨row, hrow, -, -, -, -, -, -, -, hfree, -, -, _, db₁, hupdate, reopenedRow, hreopen,
    hcomplete⟩ := hok
  rw [getRequired_eq_ok] at hrow hreopen
  obtain ⟨old, hold, -, -, hrewrites, -⟩ := updateFencedOrThrow_spec hupdate
  obtain rfl : row = old := Option.some.inj (hrow.symm.trans hold)
  have hopened : ({ db₁ with activeRequestId := some id } : UpdateDb).Consistent := by
    refine h.rewrites hrewrites (UpdateRow.consistent_of_open rfl ?_) (fun _ ↦ ?_) ?_
    · cases status <;> rfl
    · cases status <;> rfl
    · intro k hk hkactive
      exact absurd (Option.some.inj hkactive).symm hk
  have hdone : StepsTo reopened { db₁ with activeRequestId := some id } db' :=
    hopened.completeInternal hcomplete
  obtain ⟨hconsistent, hfences⟩ := hdone
  refine ⟨hconsistent, fun k r hr ↦ ?_⟩
  by_cases hk : k = id
  · subst hk
    obtain rfl : row = r := Option.some.inj (hrow.symm.trans hr)
    obtain ⟨r', hr', hle, -⟩ := hfences k _ (by rw [hrewrites, if_pos rfl])
    exact ⟨r', hr', Nat.le_trans (Nat.le_succ _) hle, fun _ ↦ .inr hreopened⟩
  · exact hfences k r (by rw [hrewrites, if_neg hk, hr])

/-- A transition of the controller starts in an open state: a review is left only through the
fenced check, which a completed row does not pass. -/
theorem Consistent.controllerTransition_spec (h : db.Consistent) {fence : ℕ}
    {target : ControllerTarget} {fields : MutationFields} {now : Time} {u : Unit}
    (hok : db.controllerTransition id fence target fields now = .ok (u, db')) :
    ∃ row, db.requests.get? id = some row ∧ row.state.isTerminal = false ∧
      db.Rewrites id (movedRow target.state now fields row) db' ∧
      db'.activeRequestId = db.activeRequestId ∧ db'.outbox = db.outbox := by
  simp only [UpdateDb.controllerTransition, UpdateDb.transition, bind_eq_ok, throwIf_eq_ok,
    getRequired_eq_ok, Except.ok.injEq, Prod.mk.injEq] at hok
  obtain ⟨row, hrow, -, hcheck, row', hrow', -, -, db₁, htransition, -, rfl⟩ := hok
  obtain rfl : row = row' := Option.some.inj (hrow.symm.trans hrow')
  obtain ⟨hmove, old, hold, -, hrewrites, hactive, houtbox⟩ := transitionInternal_spec htransition
  obtain rfl : row = old := Option.some.inj (hrow.symm.trans hold)
  refine ⟨row, hrow, ?_, hrewrites, hactive, houtbox⟩
  by_contra hterminal
  have hterminal : row.state.isTerminal = true := by simpa using hterminal
  have hne := (h.rows hrow).completed.2 hterminal
  cases target with
  | verifying => simp [ControllerTarget.fencedCheck, hne] at hcheck
  | rollingBack => simp [ControllerTarget.fencedCheck, hne] at hcheck
  | _ =>
      revert hmove hterminal
      cases row.state <;> decide

theorem Consistent.controllerTransition (h : db.Consistent) {reopened : RequestId → Prop}
    {fence : ℕ} {target : ControllerTarget} {fields : MutationFields} (hfields : fields.IsIssued)
    {now : Time} {u : Unit}
    (hok : db.controllerTransition id fence target fields now = .ok (u, db')) :
    StepsTo reopened db db' := by
  obtain ⟨row, hrow, hopen, hrewrites, hactive, -⟩ := h.controllerTransition_spec hok
  have hcompleted : row.completedAt = none := by
    by_contra hne
    simp [(h.rows hrow).completed.1 hne] at hopen
  have htarget : target.state.isTerminal = false := by
    cases target <;> rfl
  obtain ⟨generation, code, message, rfl⟩ := hfields
  exact ⟨h.rewrites hrewrites (UpdateRow.consistent_of_open hcompleted htarget) (fun _ ↦ htarget)
    fun k _ hk ↦ hactive ▸ hk, .rewrites hrow hrewrites (Nat.le_refl _) fun _ ↦ .inl rfl⟩

theorem Consistent.prepareRuntimeOperation (h : db.Consistent) {reopened : RequestId → Prop}
    {fence : ℕ} {kind : RuntimeOperationKind} {targetRef : String}
    {expectedSha previousSessionId : Option String} {now : Time} {result : RuntimeOperationRow}
    (hok : db.prepareRuntimeOperation id fence kind targetRef expectedSha previousSessionId now =
      .ok (result, db')) : StepsTo reopened db db' := by
  simp only [UpdateDb.prepareRuntimeOperation, bind_eq_ok, Except.ok.injEq, Prod.mk.injEq,
    Prod.exists] at hok
  obtain ⟨_, db₁, hupdate, operation, -, -, -, -, rfl⟩ := hok
  have hfenced : StepsTo reopened db db₁ :=
    h.updateFencedOrThrow hupdate fun _ _ ↦ ⟨rfl, rfl, rfl, .inr ⟨rfl, rfl⟩⟩
  exact ⟨hfenced.1.of_eq rfl rfl, hfenced.2⟩

theorem Consistent.recordRuntimeOperation (h : db.Consistent) {reopened : RequestId → Prop}
    {fence : ℕ} {kind : RuntimeOperationKind} {phase : RuntimeOperationPhase}
    {observedSessionId : Option String} {now : Time} {u : Unit}
    (hok : db.recordRuntimeOperation id fence kind phase observedSessionId now = .ok (u, db')) :
    StepsTo reopened db db' := by
  simp only [UpdateDb.recordRuntimeOperation, bind_eq_ok, Except.ok.injEq, Prod.mk.injEq] at hok
  obtain ⟨operation, -, row, -, -, -, -, rfl⟩ := hok
  exact ⟨h.of_eq rfl rfl, .of_eq rfl⟩

/-- A claim that hands a lease of a request which is still open. -/
theorem Consistent.claim (h : db.Consistent) {reopened : RequestId → Prop} {owner : String}
    {leaseMs : Int} {now : Time}
    (hopen : ∀ row, db.requests.get? id = some row → row.state.isTerminal = false)
    {result : Option UpdateRow} (hok : db.claim id owner leaseMs now = .ok (result, db')) :
    StepsTo reopened db db' := by
  rcases claim_spec hok with ⟨-, rfl⟩ | ⟨-, hid, -, old, hold, hrewrites⟩
  · exact h.stepsTo_self
  · have hstate := hopen old hold
    have hclaimed : (claimedRow owner leaseMs now old).state.isTerminal = false := by
      simp only [claimedRow]
      split_ifs
      · rfl
      · exact hstate
    have hcompleted : old.completedAt = none := by
      by_contra hne
      simp [(h.rows hold).completed.1 hne] at hstate
    constructor
    · refine h.rewrites hrewrites (UpdateRow.consistent_of_open hcompleted hclaimed)
        (fun _ ↦ hclaimed) fun k hk hkactive ↦ ?_
      exact absurd (Option.some.inj (hid.symm.trans hkactive)).symm hk
    · refine .rewrites hold hrewrites (Nat.le_succ _) fun hterminal ↦ ?_
      rw [hstate] at hterminal
      contradiction

/-- A claim that hands a lease of a terminal request makes it the active one. -/
theorem not_consistent_of_claim {owner : String} {leaseMs : Int} {now : Time} {claimed : UpdateRow}
    (hok : db.claim id owner leaseMs now = .ok (some claimed, db'))
    (hrow : db.requests.get? id = some row) (hterminal : row.state.isTerminal = true) :
    ¬db'.Consistent := by
  intro hconsistent
  rcases claim_spec hok with ⟨hnone, -⟩ | ⟨-, hid, -, old, hold, hrewrites⟩
  · contradiction
  · obtain rfl : row = old := Option.some.inj (hrow.symm.trans hold)
    obtain ⟨r, hr, hopen⟩ := hconsistent.active hid
    rw [hrewrites, if_pos rfl, Option.some.injEq] at hr
    subst hr
    have happroved : row.state ≠ .approved := by
      intro heq
      rw [heq] at hterminal
      contradiction
    simp only [claimedRow, if_neg happroved, hterminal] at hopen
    contradiction

end UpdateDb

open UpdateDb in
theorem Operation.next_stepsTo {db : UpdateDb} {op : Operation} (h : db.Consistent)
    (hissued : op.IsIssued) (hclaim : op.ClaimsOpen db) :
    StepsTo (fun id ↦ op.Reopens id) db (op.next db) := by
  have hself : StepsTo (fun id ↦ op.Reopens id) db db := h.stepsTo_self
  cases op with
  | createPlan => exact commit_induction hself fun _ _ hok ↦ h.createPlan hok
  | approve => exact commit_induction hself fun _ _ hok ↦ h.approve hok
  | requestCancellation => exact commit_induction hself fun _ _ hok ↦ h.requestCancellation hok
  | claim => exact commit_induction hself fun _ _ hok ↦ h.claim hclaim hok
  | beginOperatorRollback =>
      exact commit_induction hself fun _ _ hok ↦ h.beginOperatorRollback rfl hok
  | completeEvidenceReconcile =>
      exact commit_induction hself fun _ _ hok ↦ h.completeEvidenceReconcile rfl hok
  | transition => exact commit_induction hself fun _ _ hok ↦ h.controllerTransition hissued hok
  | terminal => exact commit_induction hself fun _ _ hok ↦ h.terminal hok
  | renewLease =>
      refine commit_induction hself fun _ _ hok ↦ h.updateFencedOrThrow hok fun row hp ↦ ?_
      exact ⟨rfl, rfl, rfl, .inl (by simpa using (of_decide_eq_true hp).2)⟩
  | recordActivationGeneration =>
      exact commit_induction hself fun _ _ hok ↦
        h.updateFencedOrThrow hok fun _ _ ↦ ⟨rfl, rfl, rfl, .inr ⟨rfl, rfl⟩⟩
  | incrementRestartAttempts =>
      exact commit_induction hself fun _ _ hok ↦
        h.updateFencedOrThrow hok fun _ _ ↦ ⟨rfl, rfl, rfl, .inr ⟨rfl, rfl⟩⟩
  | deferReconcile =>
      exact commit_induction hself fun _ _ hok ↦
        h.updateFencedOrThrow hok fun _ hp ↦ ⟨rfl, rfl, rfl, .inl (of_decide_eq_true hp)⟩
  | clearReconcile =>
      exact commit_induction hself fun _ _ hok ↦
        h.updateFencedOrThrow hok fun _ _ ↦ ⟨rfl, rfl, rfl, .inr ⟨rfl, rfl⟩⟩
  | prepareRuntimeOperation =>
      exact commit_induction hself fun _ _ hok ↦ h.prepareRuntimeOperation hok
  | recordRuntimeOperation =>
      exact commit_induction hself fun _ _ hok ↦ h.recordRuntimeOperation hok
  | markOutbox => exact ⟨h.of_eq rfl rfl, .of_eq rfl⟩

/-- Every run of the operations the updater issues. -/
def controllers : TransitionSystem UpdateDb Operation :=
  updater.restrict fun _ op ↦ op.IsIssued

theorem controllers_consistent {db : UpdateDb}
    (h : (controllers.restrict fun db op ↦ op.ClaimsOpen db).Reachable db) : db.Consistent := by
  refine h.invariant ?_ ?_
  · rintro _ rfl
    exact UpdateDb.consistent_fresh
  · rintro db op _ ⟨hclaim, hissued, rfl⟩ hdb
    exact (Operation.next_stepsTo hdb hissued hclaim).1

/-- In a run whose claims are of open requests, the rows are consistent in every state, no step
lowers a fence, and only the two operations which reopen a request move the fence of a terminal
one; a claim that hands a lease there keeps the rows consistent exactly when the request it
claims is open. -/
theorem update_rows_consistent {db : UpdateDb}
    (h : (controllers.restrict fun db op ↦ op.ClaimsOpen db).Reachable db) :
    db.Consistent ∧
      (∀ op db', (controllers.restrict fun db op ↦ op.ClaimsOpen db).step db op db' →
        UpdateDb.FencesKept (fun id ↦ op.Reopens id) db db') ∧
      ∀ requestId owner leaseMs now claimed db',
        db.claim requestId owner leaseMs now = .ok (some claimed, db') →
          (db'.Consistent ↔ Operation.ClaimsOpen db (.claim requestId owner leaseMs now)) := by
  have hdb := controllers_consistent h
  refine ⟨hdb, ?_, ?_⟩
  · rintro op _ ⟨hclaim, hissued, rfl⟩
    exact (Operation.next_stepsTo hdb hissued hclaim).2
  · intro requestId owner leaseMs now claimed db' hok
    constructor
    · intro hconsistent row hrow
      by_contra hterminal
      exact UpdateDb.not_consistent_of_claim hok hrow (by simpa using hterminal) hconsistent
    · intro hclaim
      have hstep : UpdateDb.StepsTo (fun _ ↦ False) db db' := hdb.claim hclaim hok
      exact hstep.1

/-! ### A cancellation between the choice and the claim -/

section CancelledCandidate

theorem update_rows_consistent_claimed :
    claimedUpdate.Consistent ∧
      (∀ op db', (controllers.restrict fun db op ↦ op.ClaimsOpen db).step claimedUpdate op db' →
        UpdateDb.FencesKept (fun id ↦ op.Reopens id) claimedUpdate db') ∧
      ∀ requestId owner leaseMs now claimed db',
        claimedUpdate.claim requestId owner leaseMs now = .ok (some claimed, db') →
          (db'.Consistent ↔
            Operation.ClaimsOpen claimedUpdate (.claim requestId owner leaseMs now)) := by
  have hplan : Operation.ClaimsOpen
      ((planAndApprove "upd_1" "plan_1" 0).foldl Operation.next .fresh)
      (.claim "upd_1" "controller" 60000 2) := by
    intro row hrow
    obtain rfl := Option.some.inj hrow
    rfl
  have hmeet : TransitionSystem.StepsMeet (fun db op ↦ op.ClaimsOpen db ∧ op.IsIssued)
      Operation.next .fresh
      (planAndApprove "upd_1" "plan_1" 0 ++ [.claim "upd_1" "controller" 60000 2]) :=
    ⟨⟨trivial, trivial⟩, ⟨trivial, trivial⟩, ⟨hplan, trivial⟩, trivial⟩
  have hrun : (controllers.restrict fun db op ↦ op.ClaimsOpen db).Reachable claimedUpdate :=
    ⟨_, _, rfl, (TransitionSystem.run_restrict_ofFun _ hmeet).restrict_restrict⟩
  exact update_rows_consistent hrun

/-- A plan is approved, and cancelled after the controller has chosen it. -/
def cancelledCandidate : List Operation :=
  planAndApprove "upd_1" "plan_1" 0 ++
    [.requestCancellation "upd_1" "cancel_event" sampleThread "stop" 2]

/-- The controller chooses the approved request and waits for its approval event; the claim
which follows the cancellation is granted, and the cancelled request becomes the active one. -/
theorem claim_of_cancelled_request :
    ¬∀ db, controllers.Reachable db → db.Consistent := by
  intro h
  have hrun : controllers.Reachable
      ((cancelledCandidate ++ [Operation.claim "upd_1" "controller" 60000 3]).foldl
        Operation.next .fresh) :=
    ⟨_, _, rfl, TransitionSystem.run_restrict_ofFun _ ⟨trivial, trivial, trivial, trivial, trivial⟩⟩
  have hactive : ((cancelledCandidate ++ [Operation.claim "upd_1" "controller" 60000 3]).foldl
      Operation.next .fresh).activeRequestId = some "upd_1" := rfl
  obtain ⟨row, hrow, hopen⟩ := (h _ hrun).active hactive
  obtain rfl := Option.some.inj hrow
  exact absurd hopen (by decide)

example : ((((planAndApprove "upd_1" "plan_1" 0).foldl Operation.next .fresh).nextRunnable 2).map
    Prod.fst) = some "upd_1" := by
  rfl

end CancelledCandidate

end Dona.Updater
