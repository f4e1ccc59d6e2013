import Dona.Library.TransitionSystem
import Dona.Updater.Database

/-!
# Mutual exclusion of updates

The system of all runs of the update database under any number of controllers and operators,
and the invariant that carries exclusion: a request in a mutating state is the active request
of the controller. `claim` alone can break it, when it passes an active request that gave up
its lease in the middle of its work.
-/

namespace Dona.Updater

open Fallible

/-- The states the controller asks `transition` for. -/
inductive ControllerTarget
  | staged | quiescing | activating | restarting | verifying | rollingBack

def ControllerTarget.state : ControllerTarget → UpdateState
  | staged => .staged
  | quiescing => .quiescing
  | activating => .activating
  | restarting => .restarting
  | verifying => .verifying
  | rollingBack => .rollingBack

theorem ControllerTarget.state_ne (target : ControllerTarget) :
    target.state ≠ .preparing ∧ target.state ≠ .needsReview := by
  cases target <;> decide

/-- The check `fence = ? AND completed_at IS NULL` which the controller passes right before it
asks for a verification or a rollback, without an await in between. -/
def ControllerTarget.fencedCheck (target : ControllerTarget) (fence : ℕ) (row : UpdateRow) : Bool :=
  match target with
  | verifying | rollingBack => row.fence = fence ∧ row.completedAt = none
  | _ => true

namespace UpdateDb

def controllerTransition (requestId : RequestId) (fence : ℕ) (target : ControllerTarget)
    (fields : MutationFields) (now : Time) (db : UpdateDb) : Except String (Unit × UpdateDb) := do
  let row ← db.getRequired requestId
  throwIf (target.fencedCheck fence row = false) "Lease assertion rejected by fencing token"
  db.transition requestId fence target.state fields now

end UpdateDb

/-- One committed or refused database operation of a controller, an operator or the plan API. -/
inductive Operation
  | createPlan (request : PlanRequest) (material : PlanMaterial) (requestId : RequestId)
      (planId : String) (now : Time)
  | approve (input : ApplyRequest) (now : Time)
  | requestCancellation (requestId : RequestId) (sourceEventId : String)
      (replyTarget : ReplyTarget) (reason : String) (now : Time)
  | claim (requestId : RequestId) (owner : String) (leaseMs : Int) (now : Time)
  | beginOperatorRollback (requestId : RequestId) (planHash : CanonicalPlan) (owner : String)
      (leaseMs : Int) (now : Time)
  | completeEvidenceReconcile (requestId : RequestId) (status : UpdateDb.EvidenceStatus)
      (activeSha : String) (now : Time)
  | renewLease (requestId : RequestId) (fence : ℕ) (owner : String) (leaseMs : Int) (now : Time)
  | transition (requestId : RequestId) (fence : ℕ) (target : ControllerTarget)
      (fields : MutationFields) (now : Time)
  | terminal (requestId : RequestId) (fence : ℕ) (target : TerminalState)
      (fields : MutationFields) (now : Time)
  | recordActivationGeneration (requestId : RequestId) (fence generation : ℕ) (now : Time)
  | incrementRestartAttempts (requestId : RequestId) (fence : ℕ) (now : Time)
  | deferReconcile (requestId : RequestId) (fence : ℕ) (errorCode errorMessage : String)
      (after deadline now : Time)
  | clearReconcile (requestId : RequestId) (fence : ℕ) (now : Time)
  | prepareRuntimeOperation (requestId : RequestId) (fence : ℕ) (kind : RuntimeOperationKind)
      (targetRef : String) (expectedSha previousSessionId : Option String) (now : Time)
  | recordRuntimeOperation (requestId : RequestId) (fence : ℕ) (kind : RuntimeOperationKind)
      (phase : RuntimeOperationPhase) (observedSessionId : Option String) (now : Time)
  | markOutbox (outboxId : RequestId × ℕ) (update : UpdateDb.OutboxUpdate) (now : Time)

namespace Operation

open UpdateDb in
/-- The database after an operation; a throw leaves it as it was. -/
def next (db : UpdateDb) : Operation → UpdateDb
  | createPlan request material requestId planId now =>
      commit (UpdateDb.createPlan request material requestId planId now) db
  | approve input now => commit (UpdateDb.approve input now) db
  | requestCancellation requestId sourceEventId replyTarget reason now =>
      commit (UpdateDb.requestCancellation requestId sourceEventId replyTarget reason now) db
  | claim requestId owner leaseMs now => commit (UpdateDb.claim requestId owner leaseMs now) db
  | beginOperatorRollback requestId planHash owner leaseMs now =>
      commit (UpdateDb.beginOperatorRollback requestId planHash owner leaseMs now) db
  | completeEvidenceReconcile requestId status activeSha now =>
      commit (UpdateDb.completeEvidenceReconcile requestId status activeSha now) db
  | renewLease requestId fence owner leaseMs now =>
      commit (UpdateDb.renewLease requestId fence owner leaseMs now) db
  | transition requestId fence target fields now =>
      commit (controllerTransition requestId fence target fields now) db
  | terminal requestId fence target fields now =>
      commit (UpdateDb.terminal requestId fence target fields now) db
  | recordActivationGeneration requestId fence generation now =>
      commit (UpdateDb.recordActivationGeneration requestId fence generation now) db
  | incrementRestartAttempts requestId fence now =>
      commit (UpdateDb.incrementRestartAttempts requestId fence now) db
  | deferReconcile requestId fence errorCode errorMessage after deadline now =>
      commit (UpdateDb.deferReconcile requestId fence errorCode errorMessage after deadline now) db
  | clearReconcile requestId fence now => commit (UpdateDb.clearReconcile requestId fence now) db
  | prepareRuntimeOperation requestId fence kind targetRef expectedSha previousSessionId now =>
      commit (UpdateDb.prepareRuntimeOperation requestId fence kind targetRef expectedSha
        previousSessionId now) db
  | recordRuntimeOperation requestId fence kind phase observedSessionId now =>
      commit (UpdateDb.recordRuntimeOperation requestId fence kind phase observedSessionId now) db
  | markOutbox outboxId update now => UpdateDb.markOutbox outboxId update now db

end Operation

/-- Every run of the updater, from the database of the first migration. -/
def updater : TransitionSystem UpdateDb Operation :=
  .ofFun (· = UpdateDb.fresh) Operation.next

/-! ### What the shared helpers do -/

namespace UpdateDb

variable {db db' : UpdateDb} {id : RequestId} {row : UpdateRow}

/-- `db'` differs from `db` in no request but `id`, which it maps to `row`. -/
def Rewrites (db : UpdateDb) (id : RequestId) (row : UpdateRow) (db' : UpdateDb) : Prop :=
  ∀ k, db'.requests.get? k = if k = id then some row else db.requests.get? k

theorem Rewrites.trans {row' : UpdateRow} {db'' : UpdateDb} (h : db.Rewrites id row db')
    (h' : db'.Rewrites id row' db'') : db.Rewrites id row' db'' := by
  intro k
  rw [h' k, h k]
  split_ifs <;> rfl

@[simp] theorem getRequired_eq_ok :
    db.getRequired id = .ok row ↔ db.requests.get? id = some row := orThrow_eq_ok

theorem assertMove_eq_ok {source target : UpdateState} {u : Unit} :
    assertMove source target = .ok u ↔ source = target ∨ source.canTransition target = true := by
  unfold assertMove assertTransition
  split_ifs with h <;> simp [h]

theorem rewrites_updateFenced {f : UpdateRow → UpdateRow} (hrow : db.requests.get? id = some row) :
    db.Rewrites id (f row) (db.updateFenced id row.fence f) := by
  intro k
  by_cases hk : k = id
  · subst hk
    simp [updateFenced, hrow]
  · simp [updateFenced, hk]

theorem updateFencedOrThrow_spec {fence : ℕ} {p : UpdateRow → Bool} {f : UpdateRow → UpdateRow}
    {error : String} {u : Unit} (h : db.updateFencedOrThrow id fence p f error = .ok (u, db')) :
    ∃ row, db.requests.get? id = some row ∧ row.fence = fence ∧ p row = true ∧
      db.Rewrites id (f row) db' ∧ db'.activeRequestId = db.activeRequestId ∧
      db'.outbox = db.outbox := by
  simp only [updateFencedOrThrow, orThrow_bind_eq_ok, throwIf_bind_eq_ok, not_or, not_not,
    Bool.not_eq_false, Except.ok.injEq, Prod.mk.injEq] at h
  obtain ⟨row, hrow, ⟨rfl, hp⟩, -, rfl⟩ := h
  exact ⟨row, hrow, rfl, hp, rewrites_updateFenced hrow, rfl, rfl⟩

/-- The row that a transition leaves. -/
def movedRow (target : UpdateState) (now : Time) (fields : MutationFields) (row : UpdateRow) :
    UpdateRow :=
  { fields.assign row with state := target, updatedAt := now }

theorem transitionInternal_spec {target : UpdateState} {now : Time} {fields : MutationFields}
    (h : db.transitionInternal id row target now fields = .ok db') :
    (row.state = target ∨ row.state.canTransition target = true) ∧
      ∃ old, db.requests.get? id = some old ∧ old.fence = row.fence ∧
        db.Rewrites id (movedRow target now fields old) db' ∧
        db'.activeRequestId = db.activeRequestId ∧ db'.outbox = db.outbox := by
  simp only [transitionInternal, bind_eq_ok, Except.ok.injEq, Prod.exists] at h
  obtain ⟨_, hmove, _, db₁, hupdate, rfl⟩ := h
  obtain ⟨old, hold, hfence, -, hrewrites, hactive, houtbox⟩ := updateFencedOrThrow_spec hupdate
  exact ⟨assertMove_eq_ok.1 hmove, old, hold, hfence, hrewrites, hactive, houtbox⟩

theorem insertOutbox_spec {now : Time} (h : db.insertOutbox id row now = .ok db') :
    db'.requests = db.requests ∧ db'.activeRequestId = db.activeRequestId := by
  simp only [insertOutbox, throwIf_bind_eq_ok, Except.ok.injEq] at h
  obtain ⟨-, rfl⟩ := h
  exact ⟨rfl, rfl⟩

/-- What completing a request leaves in its row, however it ended. -/
structure IsCompletion (row : UpdateRow) (target : TerminalState) (now : Time)
    (result : UpdateRow) : Prop where
  state : result.state = target.1
  completedAt : result.completedAt = some now
  leaseOwner : result.leaseOwner = none
  leaseExpiresAt : result.leaseExpiresAt = none
  fence : result.fence = row.fence

theorem completeInternal_spec {target : TerminalState} {fields : MutationFields} {now : Time}
    {result : UpdateRow} (h : db.completeInternal id row target fields now = .ok (result, db')) :
    (row.state = target.1 ∨ row.state.canTransition target.1 = true) ∧
      IsCompletion row target now result ∧
      (∃ old, db.requests.get? id = some old ∧ old.fence = row.fence) ∧
      db.Rewrites id result db' ∧
      db'.activeRequestId =
        if db.activeRequestId = some id then none else db.activeRequestId := by
  simp only [completeInternal, bind_eq_ok, Except.ok.injEq, Prod.mk.injEq,
    getRequired_eq_ok] at h
  obtain ⟨db₁, htransition, completed, hcompleted, db₂, houtbox, rfl, rfl⟩ := h
  obtain ⟨hmove, old, hold, hfence, hrewrites, hactive, -⟩ := transitionInternal_spec htransition
  obtain ⟨hrequests, hactive'⟩ := insertOutbox_spec houtbox
  have hresult := hrewrites id
  rw [hcompleted, if_pos rfl, Option.some.injEq] at hresult
  subst hresult
  refine ⟨hmove, ⟨rfl, rfl, rfl, rfl, hfence⟩, ⟨old, hold, hfence⟩, ?_, ?_⟩
  · intro k
    rw [hrequests]
    exact hrewrites k
  · rw [hactive', hactive]

/-! ### The invariant -/

/-- At most one request is in a mutating state. -/
def AtMostOneMutating (db : UpdateDb) : Prop :=
  ∀ id id' row row', db.requests.get? id = some row → db.requests.get? id' = some row' →
    row.state.isMutating = true → row'.state.isMutating = true → id = id'

/-- No request but `id` is in a mutating state. -/
def NoOtherMutating (db : UpdateDb) (id : RequestId) : Prop :=
  ∀ other row, other ≠ id → db.requests.get? other = some row → row.state.isMutating = false

/-- A mutating request is the active request of the controller, and a request under review has
been completed. -/
structure Exclusive (db : UpdateDb) : Prop where
  active : ∀ {id row}, db.requests.get? id = some row → row.state.isMutating = true →
    db.activeRequestId = some id
  completed : ∀ {id row}, db.requests.get? id = some row → row.state = .needsReview →
    row.completedAt ≠ none

theorem Exclusive.atMostOneMutating (h : db.Exclusive) : db.AtMostOneMutating := by
  intro id id' row row' hrow hrow' hmutating hmutating'
  exact Option.some.inj ((h.active hrow hmutating).symm.trans (h.active hrow' hmutating'))

theorem Exclusive.noOtherMutating (h : db.Exclusive)
    (hactive : ∀ activeId row, db.activeRequestId = some activeId → activeId ≠ id →
      db.requests.get? activeId = some row → row.state.isMutating = false) :
    db.NoOtherMutating id := by
  intro other row hne hrow
  by_contra hmutating
  have hmutating : row.state.isMutating = true := by simpa using hmutating
  exact absurd hmutating (by simp [hactive other row (h.active hrow hmutating) hne hrow])

/-- How one operation keeps the invariant: it rewrites one request, and it takes the active
slot away from no other mutating request. -/
theorem Exclusive.rewrites (h : db.Exclusive) (hrewrites : db.Rewrites id row db')
    (hmutating : row.state.isMutating = true → db'.activeRequestId = some id)
    (hreview : row.state = .needsReview → row.completedAt ≠ none)
    (hothers : ∀ k, k ≠ id → db.activeRequestId = some k → db'.activeRequestId = some k ∨
      db.NoOtherMutating id) : db'.Exclusive := by
  refine ⟨?_, ?_⟩
  · intro k r hr hk
    rw [hrewrites k] at hr
    split_ifs at hr with heq
    · obtain rfl := Option.some.inj hr
      subst heq
      exact hmutating hk
    · rcases hothers k heq (h.active hr hk) with hactive | hnone
      · exact hactive
      · exact absurd hk (by simp [hnone k r heq hr])
  · intro k r hr hk
    rw [hrewrites k] at hr
    split_ifs at hr with heq
    · obtain rfl := Option.some.inj hr
      exact hreview hk
    · exact h.completed hr hk

/-- An operation that keeps the active slot and moves a request along its state. -/
theorem Exclusive.rewrites_same (h : db.Exclusive) {old : UpdateRow}
    (hold : db.requests.get? id = some old) (hrewrites : db.Rewrites id row db')
    (hactive : db'.activeRequestId = db.activeRequestId)
    (hmutating : row.state.isMutating = true → old.state.isMutating = true)
    (hreview : row.state = .needsReview → row.completedAt ≠ none) : db'.Exclusive :=
  h.rewrites hrewrites (fun hrow ↦ hactive.trans (h.active hold (hmutating hrow))) hreview
    fun _ _ hk ↦ .inl (hactive.trans hk)

theorem Exclusive.of_eq (h : db.Exclusive) (hrequests : db'.requests = db.requests)
    (hactive : db'.activeRequestId = db.activeRequestId) : db'.Exclusive :=
  ⟨by rw [hrequests, hactive]; exact h.active, by rw [hrequests]; exact h.completed⟩

theorem exclusive_fresh : fresh.Exclusive := by
  refine ⟨?_, ?_⟩ <;> intro id row hrow <;> simp [fresh] at hrow

/-! ### Every operation keeps it -/

theorem Exclusive.updateFencedOrThrow (h : db.Exclusive) {fence : ℕ} {p : UpdateRow → Bool}
    {f : UpdateRow → UpdateRow} {error : String} {u : Unit}
    (hok : db.updateFencedOrThrow id fence p f error = .ok (u, db'))
    (hf : ∀ row, (f row).state = row.state ∧ (f row).completedAt = row.completedAt) :
    db'.Exclusive := by
  obtain ⟨row, hrow, -, -, hrewrites, hactive, -⟩ := updateFencedOrThrow_spec hok
  obtain ⟨hstate, hcompleted⟩ := hf row
  refine h.rewrites_same hrow hrewrites hactive (by rw [hstate]; exact fun hm ↦ hm) ?_
  rw [hstate, hcompleted]
  exact h.completed hrow

theorem Exclusive.completeInternal (h : db.Exclusive) {target : TerminalState}
    {fields : MutationFields} {now : Time} {result : UpdateRow}
    (hok : db.completeInternal id row target fields now = .ok (result, db')) :
    db'.Exclusive := by
  obtain ⟨-, hresult, -, hrewrites, hactive⟩ := completeInternal_spec hok
  refine h.rewrites hrewrites ?_ (by simp [hresult.completedAt]) ?_
  · intro hmutating
    rw [hresult.state, UpdateState.not_isMutating_of_isTerminal target.2] at hmutating
    contradiction
  · intro k hk hkactive
    left
    rw [hactive, if_neg (by simp [hkactive, hk]), hkactive]

theorem Exclusive.createPlan (h : db.Exclusive) {request : PlanRequest} {material : PlanMaterial}
    {planId : String} {now : Time} {result : PlanResult}
    (hok : db.createPlan request material id planId now = .ok (result, db')) :
    db'.Exclusive := by
  unfold UpdateDb.createPlan at hok
  split at hok
  · simp only [throwIf_bind_eq_ok, Except.ok.injEq, Prod.mk.injEq] at hok
    obtain ⟨-, -, rfl⟩ := hok
    exact h
  · simp only [throwIfSome_bind_eq_ok, throwIf_bind_eq_ok, orThrow_bind_eq_ok, Except.ok.injEq,
      Prod.mk.injEq] at hok
    obtain ⟨-, -, -, requests, hinsert, -, rfl⟩ := hok
    -- the new row waits for its approval
    refine h.rewrites (Table.get?_insert? hinsert) (fun hm ↦ ?_) (fun hr ↦ ?_)
      fun k _ hk ↦ .inl hk
    · simp [UpdateState.isMutating] at hm
    · simp at hr

theorem Exclusive.approve (h : db.Exclusive) {input : ApplyRequest} {now : Time} {b : Bool}
    (hok : db.approve input now = .ok (b, db')) : db'.Exclusive := by
  simp only [UpdateDb.approve, orThrow_bind_eq_ok, throwIf_bind_eq_ok, Prod.exists] at hok
  obtain ⟨id, row, -, -, hok⟩ := hok
  split at hok
  · simp only [throwIf_bind_eq_ok, Except.ok.injEq, Prod.mk.injEq] at hok
    obtain ⟨-, -, rfl⟩ := hok
    exact h
  · simp only [bind_eq_ok, Except.ok.injEq, Prod.mk.injEq] at hok
    obtain ⟨db₁, htransition, -, rfl⟩ := hok
    obtain ⟨-, old, hold, -, hrewrites, hactive, -⟩ := transitionInternal_spec htransition
    refine h.rewrites_same hold hrewrites hactive (fun hm ↦ ?_) (fun hr ↦ ?_)
    · simp [movedRow, UpdateState.isMutating] at hm
    · simp [movedRow] at hr

theorem Exclusive.requestCancellation (h : db.Exclusive) {sourceEventId : String}
    {replyTarget : ReplyTarget} {reason : String} {now : Time} {result : UpdateRow}
    (hok : db.requestCancellation id sourceEventId replyTarget reason now = .ok (result, db')) :
    db'.Exclusive := by
  simp only [UpdateDb.requestCancellation, bind_eq_ok, throwIf_eq_ok] at hok
  obtain ⟨row, -, -, -, hok⟩ := hok
  split_ifs at hok
  · obtain ⟨-, rfl⟩ := Prod.mk.inj (Except.ok.inj hok)
    exact h
  · exact h.completeInternal hok
  · exact h.completeInternal hok

theorem Exclusive.beginOperatorRollback (h : db.Exclusive) {planHash : CanonicalPlan}
    {owner : String} {leaseMs : Int} {now : Time} {u : Unit}
    (hok : db.beginOperatorRollback id planHash owner leaseMs now = .ok (u, db')) :
    db'.Exclusive := by
  simp only [UpdateDb.beginOperatorRollback, bind_eq_ok, throwIf_eq_ok, Except.ok.injEq,
    Prod.mk.injEq, Prod.exists] at hok
  obtain ⟨row, -, -, -, -, hfree, _, db₁, hupdate, -, rfl⟩ := hok
  obtain ⟨old, -, -, -, hrewrites, -⟩ := updateFencedOrThrow_spec hupdate
  refine h.rewrites hrewrites (fun _ ↦ rfl) (fun hr ↦ by simp at hr) ?_
  intro k hk hkactive
  simp [hkactive, hk] at hfree

theorem Exclusive.completeEvidenceReconcile (h : db.Exclusive) {status : EvidenceStatus}
    {activeSha : String} {now : Time} {result : UpdateRow}
    (hok : db.completeEvidenceReconcile id status activeSha now = .ok (result, db')) :
    db'.Exclusive := by
  simp only [UpdateDb.completeEvidenceReconcile, bind_eq_ok, throwIf_eq_ok, Prod.exists] at hok
  obtain ⟨row, -, -, -, -, -, -, -, -, hfree, -, -, _, db₁, hupdate, reopened, -, hcomplete⟩ := hok
  obtain ⟨old, -, -, -, hrewrites, -⟩ := updateFencedOrThrow_spec hupdate
  have hopened : ({ db₁ with activeRequestId := some id } : UpdateDb).Exclusive := by
    refine h.rewrites hrewrites (fun _ ↦ rfl) (fun hr ↦ ?_) fun k hk hkactive ↦ ?_
    · cases status <;> simp [EvidenceStatus.intermediate] at hr
    · simp [hkactive, hk] at hfree
  exact hopened.completeInternal hcomplete

theorem Exclusive.terminal (h : db.Exclusive) {fence : ℕ} {target : TerminalState}
    {fields : MutationFields} {now : Time} {result : UpdateRow}
    (hok : db.terminal id fence target fields now = .ok (result, db')) : db'.Exclusive := by
  simp only [UpdateDb.terminal, bind_eq_ok] at hok
  obtain ⟨row, -, -, -, hcomplete⟩ := hok
  exact h.completeInternal hcomplete

/-- A transition of the controller starts in a mutating state: the only other way into its
targets is from a review, which the fenced check excludes. -/
theorem Exclusive.controllerTransition (h : db.Exclusive) {fence : ℕ} {target : ControllerTarget}
    {fields : MutationFields} {now : Time} {u : Unit}
    (hok : db.controllerTransition id fence target fields now = .ok (u, db')) :
    db'.Exclusive := by
  simp only [UpdateDb.controllerTransition, UpdateDb.transition, bind_eq_ok, throwIf_eq_ok,
    getRequired_eq_ok, Except.ok.injEq, Prod.mk.injEq] at hok
  obtain ⟨row, hrow, -, hcheck, row', hrow', -, -, db₁, htransition, -, rfl⟩ := hok
  obtain rfl : row = row' := Option.some.inj (hrow.symm.trans hrow')
  obtain ⟨hsource, old, hold, -, hrewrites, hactive, -⟩ := transitionInternal_spec htransition
  obtain rfl : row = old := Option.some.inj (hrow.symm.trans hold)
  have hstate : (movedRow target.state now fields row).state = target.state := rfl
  refine h.rewrites_same hrow hrewrites hactive (fun hmutating ↦ ?_) (fun hreview ↦ ?_)
  · rw [hstate] at hmutating
    rcases hsource with heq | hcan
    · rw [heq]
      exact hmutating
    · rcases UpdateState.source_of_canTransition hcan hmutating with hm | ⟨-, hp⟩ | ⟨hr, ht⟩
      · exact hm
      · exact absurd hp target.state_ne.1
      · have hcompleted := h.completed hrow hr
        cases target <;> simp_all [ControllerTarget.state, ControllerTarget.fencedCheck]
  · exact absurd (hstate.symm.trans hreview) target.state_ne.2

theorem Exclusive.prepareRuntimeOperation (h : db.Exclusive) {fence : ℕ}
    {kind : RuntimeOperationKind} {targetRef : String} {expectedSha previousSessionId : Option String}
    {now : Time} {result : RuntimeOperationRow}
    (hok : db.prepareRuntimeOperation id fence kind targetRef expectedSha previousSessionId now =
      .ok (result, db')) : db'.Exclusive := by
  simp only [UpdateDb.prepareRuntimeOperation, bind_eq_ok, Except.ok.injEq, Prod.mk.injEq,
    Prod.exists] at hok
  obtain ⟨_, db₁, hupdate, operation, -, -, -, -, rfl⟩ := hok
  exact (h.updateFencedOrThrow hupdate fun _ ↦ ⟨rfl, rfl⟩).of_eq rfl rfl

theorem Exclusive.recordRuntimeOperation (h : db.Exclusive) {fence : ℕ}
    {kind : RuntimeOperationKind} {phase : RuntimeOperationPhase}
    {observedSessionId : Option String} {now : Time} {u : Unit}
    (hok : db.recordRuntimeOperation id fence kind phase observedSessionId now = .ok (u, db')) :
    db'.Exclusive := by
  simp only [UpdateDb.recordRuntimeOperation, bind_eq_ok, Except.ok.injEq, Prod.mk.injEq] at hok
  obtain ⟨operation, -, row, -, -, -, -, rfl⟩ := hok
  exact h.of_eq rfl rfl

/-- A claim that hands no lease changes nothing; one that does makes its request active. -/
theorem claim_spec {owner : String} {leaseMs : Int} {now : Time} {result : Option UpdateRow}
    (hok : db.claim id owner leaseMs now = .ok (result, db')) :
    (result = none ∧ db' = db) ∨
      (db.activeLeaseValid id now = false ∧ db'.activeRequestId = some id ∧
        db'.outbox = db.outbox ∧ ∃ old, db.requests.get? id = some old ∧
          db.Rewrites id (claimedRow owner leaseMs now old) db') := by
  simp only [UpdateDb.claim, bind_eq_ok, getRequired_eq_ok] at hok
  obtain ⟨old, hold, hok⟩ := hok
  by_cases hactive : db.activeLeaseValid id now = true
  · rw [if_pos hactive] at hok
    obtain ⟨rfl, rfl⟩ := Prod.mk.inj (Except.ok.inj hok)
    exact .inl ⟨rfl, rfl⟩
  rw [if_neg hactive] at hok
  by_cases hleased : leasedToOther old owner now = true
  · rw [if_pos hleased] at hok
    obtain ⟨rfl, rfl⟩ := Prod.mk.inj (Except.ok.inj hok)
    exact .inl ⟨rfl, rfl⟩
  rw [if_neg hleased] at hok
  simp only [bind_eq_ok, Except.ok.injEq, Prod.mk.injEq] at hok
  obtain ⟨_, -, claimed, -, -, rfl⟩ := hok
  exact .inr ⟨by simpa using hactive, rfl, rfl, old, hold, rewrites_updateFenced hold⟩

end UpdateDb

/-! ### The condition on claims -/

/-- The claims under which exclusion holds: a controller claims no request while another one,
active and in the middle of its mutation, is left without an unexpired lease. -/
def Operation.KeepsExclusion (db : UpdateDb) : Operation → Prop
  | .claim requestId _ _ now =>
      ∀ activeId row, db.activeRequestId = some activeId → activeId ≠ requestId →
        db.requests.get? activeId = some row → row.state.isMutating = true →
          row.leaseExpiresAt.any (now < ·) = true
  | _ => True

namespace UpdateDb

variable {db db' : UpdateDb} {id : RequestId} {owner : String} {leaseMs : Int} {now : Time}

/-- Under the condition, a claim that passes the lease of the active request passes no
mutating request. -/
theorem Exclusive.noOtherMutating_of_claim (h : db.Exclusive)
    (hcond : Operation.KeepsExclusion db (.claim id owner leaseMs now))
    (hactive : db.activeLeaseValid id now = false) : db.NoOtherMutating id := by
  refine h.noOtherMutating fun activeId row hid hne hrow ↦ ?_
  by_contra hmutating
  have hmutating : row.state.isMutating = true := by simpa using hmutating
  have hlease := hcond activeId row hid hne hrow hmutating
  have hterminal : row.state.isTerminal = false := by
    by_contra hterminal
    have := UpdateState.not_isMutating_of_isTerminal (by simpa using hterminal)
    simp [this] at hmutating
  simp [activeLeaseValid, hid, hne, hrow, leaseValid, hlease, hterminal] at hactive

theorem Exclusive.claim (h : db.Exclusive)
    (hcond : Operation.KeepsExclusion db (.claim id owner leaseMs now))
    {result : Option UpdateRow} (hok : db.claim id owner leaseMs now = .ok (result, db')) :
    db'.Exclusive := by
  rcases claim_spec hok with ⟨-, rfl⟩ | ⟨hactive, hid, -, old, hold, hrewrites⟩
  · exact h
  · refine h.rewrites hrewrites (fun _ ↦ hid) (fun hreview ↦ ?_) fun k _ _ ↦
      .inr (h.noOtherMutating_of_claim hcond hactive)
    have hstate : old.state = .needsReview := by
      simp only [claimedRow] at hreview
      split_ifs at hreview
      exact hreview
    have hcompleted : old.completedAt ≠ none := h.completed hold hstate
    exact hcompleted

end UpdateDb

open UpdateDb in
theorem Operation.next_exclusive {db : UpdateDb} {op : Operation} (h : db.Exclusive)
    (hcond : op.KeepsExclusion db) : (op.next db).Exclusive := by
  cases op with
  | createPlan => exact commit_induction h fun _ _ hok ↦ h.createPlan hok
  | approve => exact commit_induction h fun _ _ hok ↦ h.approve hok
  | requestCancellation => exact commit_induction h fun _ _ hok ↦ h.requestCancellation hok
  | claim => exact commit_induction h fun _ _ hok ↦ h.claim hcond hok
  | beginOperatorRollback => exact commit_induction h fun _ _ hok ↦ h.beginOperatorRollback hok
  | completeEvidenceReconcile => exact commit_induction h fun _ _ hok ↦ h.completeEvidenceReconcile hok
  | transition => exact commit_induction h fun _ _ hok ↦ h.controllerTransition hok
  | terminal => exact commit_induction h fun _ _ hok ↦ h.terminal hok
  | renewLease => exact commit_induction h fun _ _ hok ↦ h.updateFencedOrThrow hok fun _ ↦ ⟨rfl, rfl⟩
  | recordActivationGeneration =>
      exact commit_induction h fun _ _ hok ↦ h.updateFencedOrThrow hok fun _ ↦ ⟨rfl, rfl⟩
  | incrementRestartAttempts =>
      exact commit_induction h fun _ _ hok ↦ h.updateFencedOrThrow hok fun _ ↦ ⟨rfl, rfl⟩
  | deferReconcile =>
      exact commit_induction h fun _ _ hok ↦ h.updateFencedOrThrow hok fun _ ↦ ⟨rfl, rfl⟩
  | clearReconcile =>
      exact commit_induction h fun _ _ hok ↦ h.updateFencedOrThrow hok fun _ ↦ ⟨rfl, rfl⟩
  | prepareRuntimeOperation => exact commit_induction h fun _ _ hok ↦ h.prepareRuntimeOperation hok
  | recordRuntimeOperation => exact commit_induction h fun _ _ hok ↦ h.recordRuntimeOperation hok
  | markOutbox => exact h.of_eq rfl rfl

theorem updater_exclusive {db : UpdateDb}
    (h : (updater.restrict fun db op ↦ op.KeepsExclusion db).Reachable db) : db.Exclusive := by
  refine h.invariant ?_ ?_
  · rintro _ rfl
    exact UpdateDb.exclusive_fresh
  · rintro db op _ ⟨hcond, rfl⟩ hdb
    exact Operation.next_exclusive hdb hcond

/-- In a run whose claims meet the condition at most one request is ever in a mutating state,
and a claim that hands a lease there meets the condition exactly when no other request is. -/
theorem update_mutual_exclusion {db : UpdateDb}
    (h : (updater.restrict fun db op ↦ op.KeepsExclusion db).Reachable db) :
    db.AtMostOneMutating ∧
      ∀ requestId owner leaseMs now row db',
        db.claim requestId owner leaseMs now = .ok (some row, db') →
          (db.NoOtherMutating requestId ↔
            Operation.KeepsExclusion db (.claim requestId owner leaseMs now)) := by
  have hdb := updater_exclusive h
  refine ⟨hdb.atMostOneMutating, ?_⟩
  intro requestId owner leaseMs now row db' hok
  constructor
  · intro hnone activeId active _ hne hactive hmutating
    simp [hnone activeId active hne hactive] at hmutating
  · intro hcond
    rcases UpdateDb.claim_spec hok with ⟨hresult, -⟩ | ⟨hvalid, -⟩
    · contradiction
    · exact hdb.noOtherMutating_of_claim hcond hvalid

/-! ### A run that breaks exclusion -/

section DeferredRollback

/-- One plan, of a release that can be rolled back. -/
def samplePlan (planId : String) (now : Time) : CanonicalPlan where
  planId := planId
  policyVersion := "2026-09-03.2"
  currentSha := "a1"
  targetSha := "b2"
  previousSha := none
  compatibility := ⟨1, 1, 3, 3, 3, true⟩
  rollbackCompatible := true
  compatibilityTransition := none
  createdAt := now

def sampleThread : ReplyTarget := ⟨"T1", "C1", "1700000000.000100"⟩

/-- Plans and approves an update, each from an event of its own. -/
def planAndApprove (requestId planId : String) (now : Time) : List Operation :=
  [.createPlan ⟨planId ++ ":plan", sampleThread⟩ ⟨"a1", "b2", none, "2026-09-03.2",
      ⟨1, 1, 3, 3, 3, true⟩, true, none⟩ requestId planId now,
    .approve ⟨planId ++ ":apply", sampleThread, planId, samplePlan planId now, planId ++ ":receipt"⟩
      (now + 1)]

/-- The database after the first plan, its approval and its claim. -/
def claimedUpdate : UpdateDb :=
  (planAndApprove "upd_1" "plan_1" 0 ++ [Operation.claim "upd_1" "controller" 60000 2]).foldl
    Operation.next .fresh

theorem update_mutual_exclusion_claimed :
    claimedUpdate.AtMostOneMutating ∧
      ∀ requestId owner leaseMs now row db',
        claimedUpdate.claim requestId owner leaseMs now = .ok (some row, db') →
          (claimedUpdate.NoOtherMutating requestId ↔
            Operation.KeepsExclusion claimedUpdate (.claim requestId owner leaseMs now)) := by
  have hclaim : ∀ db : UpdateDb, db.activeRequestId = none →
      Operation.KeepsExclusion db (.claim "upd_1" "controller" 60000 2) := by
    intro db hdb activeId row hactive
    simp [hdb] at hactive
  exact update_mutual_exclusion ⟨_, _, rfl, TransitionSystem.run_restrict_ofFun _
    ⟨trivial, trivial, hclaim _ rfl, trivial⟩⟩

/-- The first update is cancelled while it restarts the services, its notice is reported, a
second update is planned and approved, and an operator rolls the first one back. The rollback
cannot observe the main agent and is deferred, which gives up its lease. -/
def deferredRollback : List Operation :=
  planAndApprove "upd_1" "plan_1" 0 ++
    [.claim "upd_1" "controller" 60000 2,
      .transition "upd_1" 1 .staged {} 3,
      .transition "upd_1" 1 .quiescing {} 4,
      .transition "upd_1" 1 .activating {} 5,
      .transition "upd_1" 1 .restarting { activationGeneration := some 1 } 6,
      .requestCancellation "upd_1" "cancel_event" sampleThread "stop" 7,
      .markOutbox ("upd_1", 1) .delivering 8,
      .markOutbox ("upd_1", 1) (.delivered "evt_1") 9,
      .markOutbox ("upd_1", 1) .reported 10] ++
    planAndApprove "upd_2" "plan_2" 20 ++
    [.beginOperatorRollback "upd_1" (samplePlan "plan_1" 0) "controller" 60000 30,
      .transition "upd_1" 2 .rollingBack {} 31,
      .deferReconcile "upd_1" 2 "rollback_activation_unconfirmed" "not observed" 1030 5030 32]

/-- The next claim of the controller is one for the second update, which is the only runnable
request, and it is granted while the first update is rolling back. -/
theorem deferred_rollback_breaks_exclusion :
    ¬∀ db, updater.Reachable db → db.AtMostOneMutating := by
  intro h
  have hrun : updater.Reachable
      ((deferredRollback ++ [Operation.claim "upd_2" "controller" 60000 33]).foldl
        Operation.next .fresh) :=
    ⟨_, _, rfl, TransitionSystem.run_ofFun _ _ _ _⟩
  exact absurd (h _ hrun "upd_1" "upd_2" _ _ rfl rfl rfl rfl) (by decide)

example : (((deferredRollback.foldl Operation.next .fresh).nextRunnable 33).map Prod.fst) =
    some "upd_2" := by
  rfl

end DeferredRollback

end Dona.Updater
