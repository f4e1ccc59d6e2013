import Dona.Updater.Consistency
import Mathlib.Data.List.Sort

/-!
# The terminal notifications and their delivery

`deliverOutbox` reads a list of candidates and then works through it, with an await for each
of them; cancellations, reconciliations and the runs of the controller go on meanwhile. The
startup lock admits one updater process, and its service loop awaits one `deliverOutbox` before
it starts the next, so there is at most one list at a time. A crash drops it.
-/

namespace Dona.Updater

open Fallible

abbrev OutboxId := RequestId × ℕ

abbrev Candidate := OutboxId × OutboxRow

namespace UpdateDb

/-- `ORDER BY created_at LIMIT ?` of the notifications which are due. -/
def pendingOutbox (db : UpdateDb) (limit : ℕ) (now : Time) : List Candidate :=
  ((db.outbox.select fun _ row ↦
      (row.status = .pending ∨ row.status = .delivering ∨
          (row.status = .delivered ∧ row.slackReportedAt = none)) ∧
        row.supersededByOutboxId = none ∧ row.nextAttemptAt.all (· ≤ now)).insertionSort
    fun a b ↦ a.2.createdAt ≤ b.2.createdAt).take limit

end UpdateDb

/-- The answers to a lookup of the event of a notification. -/
inductive CompletionLookup
  | exists (eventId status : String)
  | absent
  | conflict (errorCode : String)
  | unavailable (errorCode : String)

/-- The outcomes of a delivery of the event of a notification. -/
inductive CompletionDelivery
  | accepted (eventId : String)
  | definitiveRejection (errorCode : String)
  | acceptanceUnknown (errorCode : String)
  | unavailable (errorCode : String)

/-- The await in which `deliverOutbox` is suspended. -/
inductive OutboxAwait
  | lookup (candidate : Candidate)
  | delivery (outboxId : OutboxId)

def OutboxAwait.outboxId : OutboxAwait → OutboxId
  | lookup candidate => candidate.1
  | delivery outboxId => outboxId

/-- The database with the delivery loop over it. `mayAccept` holds the notifications that were
sent to the Dispatcher and of which no later answer excludes that it accepted them. -/
structure DeliveryState where
  db : UpdateDb
  remaining : List Candidate
  awaiting : Option OutboxAwait
  mayAccept : OutboxId → Bool

namespace DeliveryState

def fresh : DeliveryState where
  db := .fresh
  remaining := []
  awaiting := none
  mayAccept := fun _ ↦ false

/-- `for (const candidate of this.database.pendingOutbox(100, now))` -/
def list (s : DeliveryState) (now : Time) : DeliveryState :=
  if s.remaining = [] ∧ s.awaiting.isNone then
    { s with remaining := s.db.pendingOutbox 100 now }
  else s

/-- The next candidate: a lookup when its event may exist already, a delivery otherwise. -/
def take (s : DeliveryState) (now : Time) : DeliveryState :=
  match s.awaiting, s.remaining with
  | none, candidate :: rest =>
      if candidate.2.status = .delivering ∨ candidate.2.status = .delivered then
        { s with remaining := rest, awaiting := some (.lookup candidate) }
      else
        { s with
          db := s.db.markOutbox candidate.1 .delivering now
          remaining := rest
          awaiting := some (.delivery candidate.1)
          mayAccept := Function.update s.mayAccept candidate.1 true }
  | _, _ => s

/-- What the answer to a lookup does to the notification. -/
def lookupUpdates (candidate : Candidate) : CompletionLookup → List UpdateDb.OutboxUpdate
  | .exists eventId status =>
      (if candidate.2.status = .delivered then [] else [.delivered eventId]) ++
        [if status = "completed" then .reported
          else if ["needs_review", "dead_letter"].contains status then
            .needsReview s!"Dispatcher notification event entered {status}"
          else .deferReport "Slack terminal report is still pending" 1000]
  | .absent => [.pending "Dispatcher authoritatively reported the event absent" 1000]
  | .conflict errorCode => [.needsReview errorCode]
  | .unavailable errorCode => [.deferLookup errorCode 1000]

/-- What the outcome of a delivery does to the notification. -/
def deliveryUpdate : CompletionDelivery → UpdateDb.OutboxUpdate
  | .accepted eventId => .delivered eventId
  | .definitiveRejection errorCode => .needsReview errorCode
  | .acceptanceUnknown errorCode => .deferLookup errorCode 1000
  | .unavailable errorCode => .pending errorCode 1000

/-- The lookups after which the Dispatcher has not accepted the event. -/
def CompletionLookup.refutes : CompletionLookup → Bool
  | .absent => true
  | _ => false

/-- The outcomes after which the Dispatcher has not accepted the event. -/
def CompletionDelivery.refutes : CompletionDelivery → Bool
  | .definitiveRejection _ | .unavailable _ => true
  | _ => false

def markAll (db : UpdateDb) (outboxId : OutboxId) (updates : List UpdateDb.OutboxUpdate)
    (now : Time) : UpdateDb :=
  updates.foldl (fun db update ↦ db.markOutbox outboxId update now) db

def lookupAnswered (s : DeliveryState) (answer : CompletionLookup) (now : Time) : DeliveryState :=
  match s.awaiting with
  | some (.lookup candidate) =>
      { s with
        db := markAll s.db candidate.1 (lookupUpdates candidate answer) now
        awaiting := none
        mayAccept := if CompletionLookup.refutes answer
          then Function.update s.mayAccept candidate.1 false else s.mayAccept }
  | _ => s

def deliveryAnswered (s : DeliveryState) (outcome : CompletionDelivery) (now : Time) :
    DeliveryState :=
  match s.awaiting with
  | some (.delivery outboxId) =>
      { s with
        db := s.db.markOutbox outboxId (deliveryUpdate outcome) now
        awaiting := none
        mayAccept := if CompletionDelivery.refutes outcome
          then Function.update s.mayAccept outboxId false else s.mayAccept }
  | _ => s

/-- The process dies; a notification that was being sent may still be accepted. -/
def crash (s : DeliveryState) : DeliveryState :=
  { s with remaining := [], awaiting := none }

end DeliveryState

inductive DeliveryStep
  | operate (op : Operation)
  | list (now : Time)
  | take (now : Time)
  | lookupAnswered (answer : CompletionLookup) (now : Time)
  | deliveryAnswered (outcome : CompletionDelivery) (now : Time)
  | crash

namespace DeliveryStep

def next (s : DeliveryState) : DeliveryStep → DeliveryState
  | operate op => { s with db := op.next s.db }
  | list now => s.list now
  | take now => s.take now
  | lookupAnswered answer now => s.lookupAnswered answer now
  | deliveryAnswered outcome now => s.deliveryAnswered outcome now
  | crash => s.crash

/-- The operations of the updater next to `deliverOutbox`, which alone marks notifications. -/
def IsIssued : DeliveryStep → Prop
  | operate (.markOutbox _ _ _) => False
  | operate op => op.IsIssued
  | _ => True

end DeliveryStep

/-- Every run of the updater together with its delivery loop. -/
def deliveries : TransitionSystem DeliveryState DeliveryStep :=
  (TransitionSystem.ofFun (· = DeliveryState.fresh) DeliveryStep.next).restrict
    fun _ step ↦ step.IsIssued

/-! ### What a notification reports -/

/-- The verdict on a request which its notification carries. -/
structure Report where
  updateStatus : UpdateState
  activeSha : Option String
  error : Option UpdateEventError

def UpdateRow.report (row : UpdateRow) : Report :=
  ⟨row.state, row.observedActiveSha, UpdateDb.eventError row.lastErrorCode row.lastErrorMessage⟩

def UpdateEvent.report (event : UpdateEvent) : Report :=
  ⟨event.updateStatus, event.activeSha, event.error⟩

/-- The verdict with which a run completes a request. -/
def MutationFields.report (fields : MutationFields) (target : TerminalState) (row : UpdateRow) :
    Report where
  updateStatus := target.1
  activeSha := (fields.observedActiveSha.join).or
    (if target.1 = .succeeded then some row.targetSha
      else if target.1 = .rolledBack then some row.currentSha else none)
  error :=
    if target.1 = .succeeded then none
    else UpdateDb.eventError (fields.lastErrorCode.getD row.lastErrorCode)
      (fields.lastErrorMessage.getD row.lastErrorMessage)

namespace Operation

/-- The request an operation completes if the database accepts it. -/
def completes (db : UpdateDb) : Operation → Option RequestId
  | requestCancellation requestId _ _ _ _ =>
      if (db.requests.get? requestId).any (·.state.isTerminal) then none else some requestId
  | completeEvidenceReconcile requestId _ _ _ => some requestId
  | terminal requestId _ _ _ _ => some requestId
  | _ => none

/-- A run completes a request which is still open, or with the verdict the request has. -/
def ReportsOnce (db : UpdateDb) : Operation → Prop
  | terminal requestId fence target fields _ =>
      ∀ row, db.requests.get? requestId = some row → row.fence = fence →
        row.state.isTerminal = true → row.state = target.1 → fields.report target row = row.report
  | _ => True

end Operation

/-- The steps under which notifications agree with their requests: a claim is of an open
request, a run does not complete a request anew with another verdict, and a request is not
completed while the delivery loop still has a pending notification of it ahead. -/
def DeliveryStep.KeepsReports (s : DeliveryState) : DeliveryStep → Prop
  | operate op => op.ClaimsOpen s.db ∧ op.ReportsOnce s.db ∧
      ∀ id, op.completes s.db = some id →
        ∀ candidate ∈ s.remaining, candidate.1.1 = id → candidate.2.status ≠ .pending
  | _ => True

/-! ### What an operation does to requests and notifications -/

/-- What becomes of a row which no operation completes. -/
structure UpdateRow.Proceeds (row row' : UpdateRow) : Prop where
  fence : row.fence ≤ row'.fence
  terminal : row'.state.isTerminal = true →
    row.state.isTerminal = true ∧ row'.fence = row.fence ∧ row'.report = row.report
  reopened : row'.state.isTerminal = false → row.state.isTerminal = true → row.fence < row'.fence

theorem UpdateRow.Proceeds.refl (row : UpdateRow) : row.Proceeds row := by
  refine ⟨Nat.le_refl _, fun h ↦ ⟨h, rfl, rfl⟩, fun hopen hterminal ↦ ?_⟩
  rw [hopen] at hterminal
  contradiction

theorem UpdateRow.Proceeds.of_report_eq {row row' : UpdateRow} (hfence : row'.fence = row.fence)
    (hreport : row'.report = row.report) : row.Proceeds row' := by
  have hstate : row'.state = row.state := congrArg Report.updateStatus hreport
  refine ⟨Nat.le_of_eq hfence.symm, fun h ↦ ⟨hstate ▸ h, hfence, hreport⟩, fun hopen hterminal ↦ ?_⟩
  rw [hstate, hterminal] at hopen
  contradiction

/-- A row that stays open, or that is reopened under a new fence. -/
theorem UpdateRow.Proceeds.of_open {row row' : UpdateRow} (hopen : row'.state.isTerminal = false)
    (hfence : row.fence ≤ row'.fence)
    (hreopened : row.state.isTerminal = true → row.fence < row'.fence) : row.Proceeds row' := by
  refine ⟨hfence, fun h ↦ ?_, fun _ ↦ hreopened⟩
  rw [hopen] at h
  contradiction

namespace UpdateDb

variable {db db' : UpdateDb} {id : RequestId} {row : UpdateRow}

/-- What an operation does that completes no request. -/
structure Proceeds (db db' : UpdateDb) : Prop where
  outbox : db'.outbox = db.outbox
  rows : ∀ {id row'}, db'.requests.get? id = some row' →
    (∃ row, db.requests.get? id = some row ∧ row.Proceeds row') ∨
      (db.requests.get? id = none ∧ row'.state.isTerminal = false)
  kept : ∀ {id row}, db.requests.get? id = some row → ∃ row', db'.requests.get? id = some row'

theorem Proceeds.of_eq (hrequests : db'.requests = db.requests) (houtbox : db'.outbox = db.outbox) :
    db.Proceeds db' := by
  refine ⟨houtbox, fun {k r'} hr' ↦ ?_, fun {k r} hr ↦ ?_⟩
  · rw [hrequests] at hr'
    exact .inl ⟨r', hr', .refl r'⟩
  · exact ⟨r, by rw [hrequests, hr]⟩

theorem Proceeds.refl (db : UpdateDb) : db.Proceeds db := .of_eq rfl rfl

theorem Proceeds.rewrites {old : UpdateRow} (hold : db.requests.get? id = some old)
    (hrewrites : db.Rewrites id row db') (hrow : old.Proceeds row)
    (houtbox : db'.outbox = db.outbox) : db.Proceeds db' := by
  refine ⟨houtbox, fun {k r'} hr' ↦ ?_, fun {k r} hr ↦ ?_⟩
  · rw [hrewrites k] at hr'
    split_ifs at hr' with hk
    · obtain rfl := Option.some.inj hr'
      exact .inl ⟨old, hk ▸ hold, hrow⟩
    · exact .inl ⟨r', hr', .refl r'⟩
  · by_cases hk : k = id
    · exact ⟨row, by rw [hrewrites, if_pos hk]⟩
    · exact ⟨r, by rw [hrewrites, if_neg hk, hr]⟩

/-- An operation that completes the request `id`, after it may have reopened it. A request
that was terminal already keeps its verdict. -/
def CompletesTo (db : UpdateDb) (id : RequestId) (db' : UpdateDb) : Prop :=
  ∃ opened row target fields now result, db.Proceeds opened ∧
    opened.requests.get? id = some row ∧
      opened.completeInternal id row target fields now = .ok (result, db') ∧
        (row.state.isTerminal = true → row.state = target.1 → fields.report target row = row.report)

/-- An operation that completes no request but, perhaps, the one it names. -/
def Follows (db : UpdateDb) (completed : Option RequestId) (db' : UpdateDb) : Prop :=
  db.Proceeds db' ∨ ∃ id, completed = some id ∧ db.CompletesTo id db'

theorem updateFencedOrThrow_proceeds {fence : ℕ} {p : UpdateRow → Bool} {f : UpdateRow → UpdateRow}
    {error : String} {u : Unit} (hok : db.updateFencedOrThrow id fence p f error = .ok (u, db'))
    (hf : ∀ row, p row = true → row.Proceeds (f row)) : db.Proceeds db' := by
  obtain ⟨row, hrow, -, hp, hrewrites, -, houtbox⟩ := updateFencedOrThrow_spec hok
  exact .rewrites hrow hrewrites (hf row hp) houtbox

theorem createPlan_proceeds {request : PlanRequest} {material : PlanMaterial} {planId : String}
    {now : Time} {result : PlanResult}
    (hok : db.createPlan request material id planId now = .ok (result, db')) :
    db.Proceeds db' := by
  unfold UpdateDb.createPlan at hok
  split at hok
  · simp only [throwIf_bind_eq_ok, Except.ok.injEq, Prod.mk.injEq] at hok
    obtain ⟨-, -, rfl⟩ := hok
    exact .refl db
  · simp only [throwIfSome_bind_eq_ok, throwIf_bind_eq_ok, orThrow_bind_eq_ok, Except.ok.injEq,
      Prod.mk.injEq] at hok
    obtain ⟨-, -, -, requests, hinsert, -, rfl⟩ := hok
    have hnew : db.requests.get? id = none := Table.get?_eq_none_of_insert? hinsert
    have hget := Table.get?_insert? hinsert
    refine ⟨rfl, fun {k r'} hr' ↦ ?_, fun {k r} hr ↦ ?_⟩
    · rw [hget] at hr'
      split_ifs at hr' with hk
      · obtain rfl := Option.some.inj hr'
        exact .inr ⟨hk ▸ hnew, rfl⟩
      · exact .inl ⟨r', hr', .refl r'⟩
    · have hk : k ≠ id := by
        rintro rfl
        simp [hnew] at hr
      exact ⟨r, by rw [hget, if_neg hk, hr]⟩

theorem approve_proceeds {input : ApplyRequest} {now : Time} {b : Bool}
    (hok : db.approve input now = .ok (b, db')) : db.Proceeds db' := by
  simp only [UpdateDb.approve, orThrow_bind_eq_ok, throwIf_bind_eq_ok, Prod.exists] at hok
  obtain ⟨id, row, hfind, -, hok⟩ := hok
  split at hok
  · simp only [throwIf_bind_eq_ok, Except.ok.injEq, Prod.mk.injEq] at hok
    obtain ⟨-, -, rfl⟩ := hok
    exact .refl db
  · simp only [bind_eq_ok, Except.ok.injEq, Prod.mk.injEq] at hok
    obtain ⟨db₁, htransition, -, rfl⟩ := hok
    obtain ⟨hmove, old, hold, -, hrewrites, -, houtbox⟩ := transitionInternal_spec htransition
    obtain rfl : row = old := Option.some.inj ((Table.get?_of_find? hfind).1.symm.trans hold)
    refine .rewrites hold hrewrites (.of_open rfl (Nat.le_refl _) fun hterminal ↦ ?_) houtbox
    rw [UpdateState.not_isTerminal_of_approved hmove] at hterminal
    contradiction

theorem claim_proceeds {owner : String} {leaseMs : Int} {now : Time} {result : Option UpdateRow}
    (hopen : ∀ row, db.requests.get? id = some row → row.state.isTerminal = false)
    (hok : db.claim id owner leaseMs now = .ok (result, db')) : db.Proceeds db' := by
  rcases claim_spec hok with ⟨-, rfl⟩ | ⟨-, -, houtbox, old, hold, hrewrites⟩
  · exact .refl _
  · refine .rewrites hold hrewrites (.of_open ?_ (Nat.le_succ _) fun _ ↦ Nat.lt_succ_self _) houtbox
    simp only [claimedRow]
    split_ifs
    · rfl
    · exact hopen old hold

theorem beginOperatorRollback_proceeds {planHash : CanonicalPlan} {owner : String} {leaseMs : Int}
    {now : Time} {u : Unit}
    (hok : db.beginOperatorRollback id planHash owner leaseMs now = .ok (u, db')) :
    db.Proceeds db' := by
  simp only [UpdateDb.beginOperatorRollback, bind_eq_ok, throwIf_eq_ok, Except.ok.injEq,
    Prod.mk.injEq, Prod.exists, getRequired_eq_ok] at hok
  obtain ⟨row, hrow, -, -, -, -, _, db₁, hupdate, -, rfl⟩ := hok
  obtain ⟨old, hold, -, -, hrewrites, -, houtbox⟩ := updateFencedOrThrow_spec hupdate
  obtain rfl : row = old := Option.some.inj (hrow.symm.trans hold)
  exact .rewrites hold hrewrites
    (.of_open rfl (Nat.le_succ _) fun _ ↦ Nat.lt_succ_self _) houtbox

/-- A transition of the controller leads from an open state to an open state. -/
theorem Consistent.controllerTransition_proceeds (h : db.Consistent) {fence : ℕ}
    {target : ControllerTarget} {fields : MutationFields} {now : Time} {u : Unit}
    (hok : db.controllerTransition id fence target fields now = .ok (u, db')) :
    db.Proceeds db' := by
  obtain ⟨row, hrow, hopen, hrewrites, -, houtbox⟩ := h.controllerTransition_spec hok
  refine .rewrites hrow hrewrites (.of_open ?_ (Nat.le_refl _) fun hterminal ↦ ?_) houtbox
  · cases target <;> rfl
  · rw [hopen] at hterminal
    contradiction

theorem prepareRuntimeOperation_proceeds {fence : ℕ} {kind : RuntimeOperationKind}
    {targetRef : String} {expectedSha previousSessionId : Option String} {now : Time}
    {result : RuntimeOperationRow}
    (hok : db.prepareRuntimeOperation id fence kind targetRef expectedSha previousSessionId now =
      .ok (result, db')) : db.Proceeds db' := by
  simp only [UpdateDb.prepareRuntimeOperation, bind_eq_ok, Except.ok.injEq, Prod.mk.injEq,
    Prod.exists] at hok
  obtain ⟨_, db₁, hupdate, operation, -, -, -, -, rfl⟩ := hok
  obtain ⟨houtbox, hrows, hkept⟩ := updateFencedOrThrow_proceeds hupdate fun row _ ↦ .refl row
  exact ⟨houtbox, hrows, hkept⟩

theorem recordRuntimeOperation_proceeds {fence : ℕ} {kind : RuntimeOperationKind}
    {phase : RuntimeOperationPhase} {observedSessionId : Option String} {now : Time} {u : Unit}
    (hok : db.recordRuntimeOperation id fence kind phase observedSessionId now = .ok (u, db')) :
    db.Proceeds db' := by
  simp only [UpdateDb.recordRuntimeOperation, bind_eq_ok, Except.ok.injEq, Prod.mk.injEq] at hok
  obtain ⟨operation, -, row, -, -, -, -, rfl⟩ := hok
  exact .of_eq rfl rfl

theorem requestCancellation_completes {sourceEventId : String} {replyTarget : ReplyTarget}
    {reason : String} {now : Time} {result : UpdateRow}
    (hok : db.requestCancellation id sourceEventId replyTarget reason now = .ok (result, db')) :
    db' = db ∨ ((db.requests.get? id).any (·.state.isTerminal) = false ∧ db.CompletesTo id db') := by
  simp only [UpdateDb.requestCancellation, bind_eq_ok, throwIf_eq_ok, getRequired_eq_ok] at hok
  obtain ⟨row, hrow, -, -, hok⟩ := hok
  by_cases hterminal : row.state.isTerminal = true
  · rw [if_pos hterminal] at hok
    obtain ⟨-, rfl⟩ := Prod.mk.inj (Except.ok.inj hok)
    exact .inl rfl
  · rw [if_neg hterminal] at hok
    have hopen : (db.requests.get? id).any (·.state.isTerminal) = false := by
      simpa [hrow] using hterminal
    split_ifs at hok
    · exact .inr ⟨hopen, db, row, _, _, _, _, .refl db, hrow, hok, fun h ↦ absurd h hterminal⟩
    · exact .inr ⟨hopen, db, row, _, _, _, _, .refl db, hrow, hok, fun h ↦ absurd h hterminal⟩

theorem terminal_completes {fence : ℕ} {target : TerminalState} {fields : MutationFields}
    {now : Time} {result : UpdateRow}
    (hcond : Operation.ReportsOnce db (.terminal id fence target fields now))
    (hok : db.terminal id fence target fields now = .ok (result, db')) : db.CompletesTo id db' := by
  simp only [UpdateDb.terminal, bind_eq_ok, throwIf_eq_ok, getRequired_eq_ok, not_not] at hok
  obtain ⟨row, hrow, -, hfence, hcomplete⟩ := hok
  exact ⟨db, row, target, fields, now, result, .refl db, hrow, hcomplete, hcond row hrow hfence⟩

theorem completeEvidenceReconcile_completes {status : EvidenceStatus} {activeSha : String}
    {now : Time} {result : UpdateRow}
    (hok : db.completeEvidenceReconcile id status activeSha now = .ok (result, db')) :
    db.CompletesTo id db' := by
  simp only [UpdateDb.completeEvidenceReconcile, bind_eq_ok, throwIf_eq_ok, Prod.exists,
    getRequired_eq_ok] at hok
  obtain ⟨row, hrow, -, -, -, -, -, -, -, -, -, -, _, db₁, hupdate, reopened, hreopened,
    hcomplete⟩ := hok
  obtain ⟨old, hold, -, -, hrewrites, -, houtbox⟩ := updateFencedOrThrow_spec hupdate
  obtain rfl : row = old := Option.some.inj (hrow.symm.trans hold)
  have hintermediate : status.intermediate.isTerminal = false := by
    cases status <;> rfl
  have hproceeds : db.Proceeds { db₁ with activeRequestId := some id } :=
    .rewrites hold hrewrites
      (.of_open hintermediate (Nat.le_succ _) fun _ ↦ Nat.lt_succ_self _) houtbox
  refine ⟨_, reopened, _, _, _, _, hproceeds, hreopened, hcomplete, fun hterminal ↦ ?_⟩
  have hrow' : reopened.state = status.intermediate := by
    have hget : db₁.requests.get? id = some reopened := hreopened
    rw [hrewrites, if_pos rfl] at hget
    rw [← Option.some.inj hget]
  rw [hrow', hintermediate] at hterminal
  contradiction

end UpdateDb

open UpdateDb in
theorem Operation.next_follows {db : UpdateDb} {op : Operation} (h : db.Consistent)
    (hissued : (DeliveryStep.operate op).IsIssued) (hclaim : op.ClaimsOpen db)
    (honce : op.ReportsOnce db) :
    db.Follows (op.completes db) (op.next db) := by
  have hself : db.Proceeds db := .refl db
  have hfollows : ∀ completed, db.Follows completed db := fun _ ↦ .inl hself
  cases op with
  | createPlan => exact .inl (commit_induction hself fun _ _ hok ↦ createPlan_proceeds hok)
  | approve => exact .inl (commit_induction hself fun _ _ hok ↦ approve_proceeds hok)
  | requestCancellation id =>
      refine commit_induction (hfollows _) fun _ _ hok ↦ ?_
      rcases requestCancellation_completes hok with rfl | ⟨hopen, hcompletes⟩
      · exact .inl hself
      · exact .inr ⟨id, by simp [completes, hopen], hcompletes⟩
  | claim => exact .inl (commit_induction hself fun _ _ hok ↦ claim_proceeds hclaim hok)
  | beginOperatorRollback =>
      exact .inl (commit_induction hself fun _ _ hok ↦ beginOperatorRollback_proceeds hok)
  | completeEvidenceReconcile id =>
      exact commit_induction (hfollows _) fun _ _ hok ↦
        .inr ⟨id, rfl, completeEvidenceReconcile_completes hok⟩
  | transition =>
      exact .inl (commit_induction hself fun _ _ hok ↦ h.controllerTransition_proceeds hok)
  | terminal id =>
      exact commit_induction (hfollows _) fun _ _ hok ↦ .inr ⟨id, rfl, terminal_completes honce hok⟩
  | renewLease =>
      exact .inl (commit_induction hself fun _ _ hok ↦
        updateFencedOrThrow_proceeds hok fun _ _ ↦ .of_report_eq rfl rfl)
  | recordActivationGeneration =>
      exact .inl (commit_induction hself fun _ _ hok ↦
        updateFencedOrThrow_proceeds hok fun _ _ ↦ .of_report_eq rfl rfl)
  | incrementRestartAttempts =>
      exact .inl (commit_induction hself fun _ _ hok ↦
        updateFencedOrThrow_proceeds hok fun _ _ ↦ .of_report_eq rfl rfl)
  | deferReconcile =>
      refine .inl (commit_induction hself fun _ _ hok ↦ ?_)
      obtain ⟨row, hrow, -, hp, hrewrites, -, houtbox⟩ := updateFencedOrThrow_spec hok
      have hopen : row.state.isTerminal = false := by
        by_contra hterminal
        exact (h.rows hrow).completed.2 (by simpa using hterminal) (of_decide_eq_true hp)
      refine .rewrites hrow hrewrites (.of_open hopen (Nat.le_refl _) fun hterminal ↦ ?_) houtbox
      rw [hopen] at hterminal
      contradiction
  | clearReconcile =>
      exact .inl (commit_induction hself fun _ _ hok ↦
        updateFencedOrThrow_proceeds hok fun _ _ ↦ .of_report_eq rfl rfl)
  | prepareRuntimeOperation =>
      exact .inl (commit_induction hself fun _ _ hok ↦ prepareRuntimeOperation_proceeds hok)
  | recordRuntimeOperation =>
      exact .inl (commit_induction hself fun _ _ hok ↦ recordRuntimeOperation_proceeds hok)
  | markOutbox => exact absurd hissued fun h ↦ h

end Dona.Updater
