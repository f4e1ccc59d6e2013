import Dona.Library.Fallible
import Dona.Library.Table
import Dona.Updater.StateMachine

/-!
# The updater database

The tables of `updater/src/database.ts` that the update protocol reads, and its operations.
Every operation is the body of one transaction: a throw leaves the database unchanged.
Digests and canonical JSON stand for the values they are computed from, the audit trail is
left out, and an instant is its number of milliseconds.
-/

namespace Dona.Updater

open Fallible

abbrev RequestId := String

abbrev Time := Int

structure Compatibility where
  protocol : ℕ
  config : ℕ
  appSchemaReadMin : ℕ
  appSchemaReadMax : ℕ
  appSchemaWrite : ℕ
  rollbackSafe : Bool
  deriving DecidableEq

structure CompatibilityTransition where
  fromSha : String
  source : Compatibility
  target : Compatibility
  previousReleaseContract : String
  requiredControlPlaneCapability : String
  deriving DecidableEq

structure ReplyTarget where
  workspaceId : String
  channelId : String
  threadTs : String
  deriving DecidableEq

structure PlanRequest where
  sourceEventId : String
  replyTarget : ReplyTarget

structure PlanMaterial where
  currentSha : String
  targetSha : String
  previousSha : Option String
  policyVersion : String
  compatibility : Compatibility
  rollbackCompatible : Bool
  compatibilityTransition : Option CompatibilityTransition

/-- The canonical plan. `plan_hash` is the digest of its JSON text, so the plan stands for
its hash. -/
structure CanonicalPlan where
  planId : String
  policyVersion : String
  currentSha : String
  targetSha : String
  previousSha : Option String
  compatibility : Compatibility
  rollbackCompatible : Bool
  compatibilityTransition : Option CompatibilityTransition
  createdAt : Time
  deriving DecidableEq

structure ApplyRequest where
  sourceEventId : String
  replyTarget : ReplyTarget
  planId : String
  planHash : CanonicalPlan
  approvalId : String

structure UpdateRow where
  sourceEventId : String
  replyTarget : ReplyTarget
  state : UpdateState
  currentSha : String
  targetSha : String
  previousSha : Option String
  planId : String
  planHash : CanonicalPlan
  policyVersion : String
  compatibility : Compatibility
  transition : Option CompatibilityTransition
  rollbackCompatible : Bool
  approvalId : Option String := none
  approvalEventId : Option String := none
  attempt : ℕ := 0
  activationGeneration : ℕ := 0
  restartAttempts : ℕ := 0
  leaseOwner : Option String := none
  leaseExpiresAt : Option Time := none
  fence : ℕ := 0
  cancellationRequested : Bool := false
  cancellationEventId : Option String := none
  lastErrorCode : Option String := none
  lastErrorMessage : Option String := none
  createdAt : Time
  updatedAt : Time
  completedAt : Option Time := none
  reconcileAfter : Option Time := none
  reconcileDeadline : Option Time := none
  lastReconciledAt : Option Time := none
  observedActiveSha : Option String := none

inductive OutboxStatus
  | pending | delivering | delivered | needsReview
  deriving DecidableEq

structure UpdateEventError where
  code : String
  message : Option String
  deriving DecidableEq

/-- The event that reports a completed request; `externalEventId` stands for the text
`update:<request>:terminal:<fence>`. -/
structure UpdateEvent where
  externalEventId : RequestId × ℕ
  type : String
  occurredAt : Time
  subject : RequestId
  requestId : RequestId
  updateStatus : UpdateState
  currentSha : String
  targetSha : String
  previousSha : Option String
  planHash : CanonicalPlan
  policyVersion : String
  rollbackCompatible : Bool
  activeSha : Option String
  error : Option UpdateEventError
  replyTarget : ReplyTarget

/-- One terminal notification; its key is the request and the fence it completed at. -/
structure OutboxRow where
  payload : UpdateEvent
  status : OutboxStatus
  attemptCount : ℕ := 0
  lastError : Option String := none
  createdAt : Time
  updatedAt : Time
  dispatcherEventId : Option String := none
  dispatcherAcceptedAt : Option Time := none
  slackReportedAt : Option Time := none
  nextAttemptAt : Option Time := none
  supersededByOutboxId : Option (RequestId × ℕ) := none

inductive RuntimeOperationKind
  | stopMainAgent | stopSlack | stopDispatcher | startTargetMainAgent | startTargetDispatcher
  | startTargetSlack | restartCurrentDispatcher | restartCurrentSlack
  | restartTargetDispatcherAfterDrain | restartTargetSlackAfterDrain
  | restartTargetMainAgentAfterDrain | stopTargetSlack | stopTargetDispatcher
  | stopTargetMainAgent | startPreviousMainAgent | startPreviousDispatcher
  | startPreviousSlack | legacyConfirmation
  deriving DecidableEq

def RuntimeOperationKind.text : RuntimeOperationKind → String
  | stopMainAgent => "stop_main_agent"
  | stopSlack => "stop_slack"
  | stopDispatcher => "stop_dispatcher"
  | startTargetMainAgent => "start_target_main_agent"
  | startTargetDispatcher => "start_target_dispatcher"
  | startTargetSlack => "start_target_slack"
  | restartCurrentDispatcher => "restart_current_dispatcher"
  | restartCurrentSlack => "restart_current_slack"
  | restartTargetDispatcherAfterDrain => "restart_target_dispatcher_after_drain"
  | restartTargetSlackAfterDrain => "restart_target_slack_after_drain"
  | restartTargetMainAgentAfterDrain => "restart_target_main_agent_after_drain"
  | stopTargetSlack => "stop_target_slack"
  | stopTargetDispatcher => "stop_target_dispatcher"
  | stopTargetMainAgent => "stop_target_main_agent"
  | startPreviousMainAgent => "start_previous_main_agent"
  | startPreviousDispatcher => "start_previous_dispatcher"
  | startPreviousSlack => "start_previous_slack"
  | legacyConfirmation => "legacy_confirmation"

instance : ToString RuntimeOperationKind := ⟨RuntimeOperationKind.text⟩

inductive RuntimeOperationPhase
  | prepared | accepted | observed | rejected | acceptanceUnknown
  deriving DecidableEq

structure RuntimeOperationRow where
  fence : ℕ
  phase : RuntimeOperationPhase
  targetRef : String
  expectedSha : Option String
  previousSessionId : Option String
  observedSessionId : Option String := none
  createdAt : Time
  updatedAt : Time

structure UpdateDb where
  requests : Table RequestId UpdateRow
  activeRequestId : Option RequestId
  outbox : Table (RequestId × ℕ) OutboxRow
  runtimeOperations : Table (RequestId × RuntimeOperationKind) RuntimeOperationRow

namespace UpdateDb

/-- The database that the first migration creates. -/
def fresh : UpdateDb where
  requests := .empty
  activeRequestId := none
  outbox := .empty
  runtimeOperations := .empty

end UpdateDb

/-- The columns a mutation may set; `none` leaves a column as it is. -/
structure MutationFields where
  approvalId : Option (Option String) := none
  approvalEventId : Option (Option String) := none
  cancellationRequested : Option Bool := none
  cancellationEventId : Option (Option String) := none
  lastErrorCode : Option (Option String) := none
  lastErrorMessage : Option (Option String) := none
  completedAt : Option (Option Time) := none
  leaseOwner : Option (Option String) := none
  leaseExpiresAt : Option (Option Time) := none
  activationGeneration : Option ℕ := none
  restartAttempts : Option ℕ := none
  reconcileAfter : Option (Option Time) := none
  reconcileDeadline : Option (Option Time) := none
  lastReconciledAt : Option (Option Time) := none
  observedActiveSha : Option (Option String) := none

def MutationFields.assign (fields : MutationFields) (row : UpdateRow) : UpdateRow :=
  { row with
    approvalId := fields.approvalId.getD row.approvalId
    approvalEventId := fields.approvalEventId.getD row.approvalEventId
    cancellationRequested := fields.cancellationRequested.getD row.cancellationRequested
    cancellationEventId := fields.cancellationEventId.getD row.cancellationEventId
    lastErrorCode := fields.lastErrorCode.getD row.lastErrorCode
    lastErrorMessage := fields.lastErrorMessage.getD row.lastErrorMessage
    completedAt := fields.completedAt.getD row.completedAt
    leaseOwner := fields.leaseOwner.getD row.leaseOwner
    leaseExpiresAt := fields.leaseExpiresAt.getD row.leaseExpiresAt
    activationGeneration := fields.activationGeneration.getD row.activationGeneration
    restartAttempts := fields.restartAttempts.getD row.restartAttempts
    reconcileAfter := fields.reconcileAfter.getD row.reconcileAfter
    reconcileDeadline := fields.reconcileDeadline.getD row.reconcileDeadline
    lastReconciledAt := fields.lastReconciledAt.getD row.lastReconciledAt
    observedActiveSha := fields.observedActiveSha.getD row.observedActiveSha }

namespace UpdateDb

/-! ### Helpers shared by the operations -/

def getRequired (db : UpdateDb) (requestId : RequestId) : Except String UpdateRow :=
  orThrow (db.requests.get? requestId) s!"Update request {requestId} was not found"

def assertTransition (source target : UpdateState) : Except String Unit :=
  throwIf (source.canTransition target = false) s!"Invalid update transition: {source} -> {target}"

/-- `if (source !== target) assertTransition(source, target)` -/
def assertMove (source target : UpdateState) : Except String Unit :=
  if source = target then .ok () else assertTransition source target

/-- `UPDATE update_requests SET … WHERE request_id = ? AND fence = ?` -/
def updateFenced (db : UpdateDb) (requestId : RequestId) (fence : ℕ) (f : UpdateRow → UpdateRow) :
    UpdateDb :=
  { db with
    requests := db.requests.updateWhere (fun id row ↦ id = requestId ∧ row.fence = fence) f }

/-- The same statement under a further condition, with a throw unless it changed the row. -/
def updateFencedOrThrow (db : UpdateDb) (requestId : RequestId) (fence : ℕ)
    (p : UpdateRow → Bool) (f : UpdateRow → UpdateRow) (error : String) :
    Except String (Unit × UpdateDb) := do
  let row ← orThrow (db.requests.get? requestId) error
  throwIf (row.fence ≠ fence ∨ p row = false) error
  .ok ((), db.updateFenced requestId fence f)

def transitionInternal (db : UpdateDb) (requestId : RequestId) (row : UpdateRow)
    (target : UpdateState) (now : Time) (fields : MutationFields) : Except String UpdateDb := do
  assertMove row.state target
  let (_, db) ← db.updateFencedOrThrow requestId row.fence (fun _ ↦ true)
    (fun row ↦ { fields.assign row with state := target, updatedAt := now })
    "Update transition rejected by fencing token"
  .ok db

/-- `last_error_code ? { code: last_error_code, message: last_error_message } : null` -/
def eventError (lastErrorCode lastErrorMessage : Option String) : Option UpdateEventError :=
  match lastErrorCode with
  | none => none
  | some code => if code = "" then none else some ⟨code, lastErrorMessage⟩

def updateEvent (requestId : RequestId) (row : UpdateRow) (now : Time) : UpdateEvent where
  externalEventId := (requestId, row.fence)
  type := "update_" ++ row.state.text
  occurredAt := now
  subject := requestId
  requestId := requestId
  updateStatus := row.state
  currentSha := row.currentSha
  targetSha := row.targetSha
  previousSha := row.previousSha
  planHash := row.planHash
  policyVersion := row.policyVersion
  rollbackCompatible := row.rollbackCompatible
  activeSha := row.observedActiveSha
  error := eventError row.lastErrorCode row.lastErrorMessage
  replyTarget := row.replyTarget

def insertOutbox (db : UpdateDb) (requestId : RequestId) (row : UpdateRow) (now : Time) :
    Except String UpdateDb := do
  throwIf (row.state.isTerminal = false) "Outbox requires terminal state"
  let outboxId := (requestId, row.fence)
  let inserted := (db.outbox.insert? outboxId
    { payload := updateEvent requestId row now
      status := .pending
      createdAt := now
      updatedAt := now }).getD db.outbox
  .ok { db with
    outbox := inserted.updateWhere
      (fun id row ↦ id.1 = requestId ∧ id ≠ outboxId ∧ row.status = .pending ∧
        row.supersededByOutboxId = none)
      (fun row ↦ { row with supersededByOutboxId := some outboxId, updatedAt := now }) }

def completeInternal (db : UpdateDb) (requestId : RequestId) (row : UpdateRow)
    (target : TerminalState) (fields : MutationFields) (now : Time) :
    Except String (UpdateRow × UpdateDb) := do
  let observed := (fields.observedActiveSha.join).or
    (if target.1 = .succeeded then some row.targetSha
      else if target.1 = .rolledBack then some row.currentSha else none)
  let db ← db.transitionInternal requestId row target.1 now
    { fields with
      observedActiveSha := some observed
      completedAt := some (some now)
      leaseOwner := some none
      leaseExpiresAt := some none
      reconcileAfter := some none
      reconcileDeadline := some none
      lastErrorCode := if target.1 = .succeeded then some none else fields.lastErrorCode
      lastErrorMessage := if target.1 = .succeeded then some none else fields.lastErrorMessage }
  let completed ← db.getRequired requestId
  let db := { db with
    activeRequestId := if db.activeRequestId = some requestId then none else db.activeRequestId }
  let db ← db.insertOutbox requestId completed now
  .ok (completed, db)

/-- `ORDER BY created_at LIMIT 1` -/
def oldest (entries : List (RequestId × UpdateRow)) : Option (RequestId × UpdateRow) :=
  entries.foldl
    (fun best entry ↦
      match best with
      | none => some entry
      | some first => if first.2.createdAt ≤ entry.2.createdAt then some first else some entry)
    none

def openRequest (db : UpdateDb) : Option (RequestId × UpdateRow) :=
  oldest (db.requests.select fun _ row ↦ !row.state.isTerminal)

def hasUnreportedTerminalNotification (db : UpdateDb) : Bool :=
  db.outbox.any fun _ row ↦
    row.supersededByOutboxId = none ∧
      (row.status = .pending ∨ row.status = .delivering ∨
        (row.status = .delivered ∧ row.slackReportedAt = none))

/-- The newest notification of a request: the greatest `created_at`, then the last row. -/
def outboxFor (db : UpdateDb) (requestId : RequestId) : Option OutboxRow :=
  (db.outbox.select fun id _ ↦ id.1 = requestId).foldl
    (fun best entry ↦
      match best with
      | none => some entry.2
      | some row => if row.createdAt ≤ entry.2.createdAt then some entry.2 else some row)
    none

def terminalOutboxSettledForCorrection (db : UpdateDb) (requestId : RequestId) : Bool :=
  match db.outboxFor requestId with
  | none => false
  | some outbox =>
      outbox.supersededByOutboxId = none ∧
        ((outbox.status = .pending ∧ outbox.attemptCount = 0) ∨ outbox.status = .needsReview ∨
          (outbox.status = .delivered ∧ outbox.slackReportedAt ≠ none))

def reconcilableNeedsReviewCodes : List String :=
  ["main_agent_start_failed", "dispatcher_start_acceptance_unknown",
    "dispatcher_target_health_unavailable", "slack_start_acceptance_unknown",
    "slack_workspace_readiness_unavailable", "main_agent_stop_acceptance_unknown",
    "main_agent_start_acceptance_unknown", "main_agent_start_observation_timeout",
    "activation_evidence_mismatch", "ambiguous_runtime_observation",
    "stop_slack_acceptance_unknown", "stop_slack_observation_timeout",
    "stop_dispatcher_acceptance_unknown", "stop_dispatcher_observation_timeout",
    "start_target_dispatcher_acceptance_unknown", "start_target_dispatcher_health_unavailable",
    "start_target_slack_acceptance_unknown", "start_target_slack_health_unavailable",
    "rollback_pointer_observation_mismatch", "rollback_activation_evidence_mismatch",
    "rollback_stop_evidence_incomplete", "rollback_activation_unconfirmed",
    "rollback_previous_health_failed", "rollback_main_agent_stop_acceptance_unknown",
    "rollback_main_agent_start_acceptance_unknown", "stop_target_slack_acceptance_unknown",
    "stop_target_slack_observation_timeout", "stop_target_dispatcher_acceptance_unknown",
    "stop_target_dispatcher_observation_timeout",
    "start_previous_dispatcher_acceptance_unknown",
    "start_previous_dispatcher_health_unavailable", "start_previous_slack_acceptance_unknown",
    "start_previous_slack_health_unavailable"]

def reconcilableNeedsReview (db : UpdateDb) : List (RequestId × UpdateRow) :=
  db.requests.select fun _ row ↦
    row.state = .needsReview ∧ row.lastErrorCode.any reconcilableNeedsReviewCodes.contains

/-! ### The operations -/

structure PlanResult where
  requestId : RequestId
  row : UpdateRow
  duplicate : Bool

/-- `requestId` and `planId` are the identifiers drawn for the new plan. -/
def createPlan (request : PlanRequest) (material : PlanMaterial) (requestId : RequestId)
    (planId : String) (now : Time) (db : UpdateDb) : Except String (PlanResult × UpdateDb) := do
  match db.requests.find? fun _ row ↦ row.sourceEventId = request.sourceEventId with
  | some (existingId, existing) =>
      throwIf (existing.replyTarget ≠ request.replyTarget ∨
          existing.currentSha ≠ material.currentSha ∨ existing.targetSha ≠ material.targetSha ∨
          existing.policyVersion ≠ material.policyVersion ∨
          existing.compatibility ≠ material.compatibility ∨
          existing.transition ≠ material.compatibilityTransition)
        "A plan for this source event already exists with different material"
      .ok (⟨existingId, existing, true⟩, db)
  | none =>
      throwIfSome db.openRequest fun entry ↦
        s!"Another self-update plan is still open: {entry.1}"
      throwIf (db.hasUnreportedTerminalNotification = true)
        "The previous self-update terminal notification is not settled"
      let row : UpdateRow :=
        { sourceEventId := request.sourceEventId
          replyTarget := request.replyTarget
          state := .awaitingApproval
          currentSha := material.currentSha
          targetSha := material.targetSha
          previousSha := material.previousSha
          planId := planId
          planHash :=
            { planId := planId
              policyVersion := material.policyVersion
              currentSha := material.currentSha
              targetSha := material.targetSha
              previousSha := material.previousSha
              compatibility := material.compatibility
              rollbackCompatible := material.rollbackCompatible
              compatibilityTransition := material.compatibilityTransition
              createdAt := now }
          policyVersion := material.policyVersion
          compatibility := material.compatibility
          transition := material.compatibilityTransition
          rollbackCompatible := material.rollbackCompatible
          createdAt := now
          updatedAt := now }
      throwIf (db.requests.any fun _ row ↦ row.planId = planId)
        "UNIQUE constraint failed: update_requests.plan_id"
      let requests ← orThrow (db.requests.insert? requestId row)
        "UNIQUE constraint failed: update_requests.request_id"
      .ok (⟨requestId, row, false⟩, { db with requests := requests })

def approve (input : ApplyRequest) (now : Time) (db : UpdateDb) :
    Except String (Bool × UpdateDb) := do
  let (requestId, row) ← orThrow (db.requests.find? fun _ row ↦ row.planId = input.planId)
    s!"Plan {input.planId} was not found"
  throwIf (row.replyTarget ≠ input.replyTarget ∨ row.planHash ≠ input.planHash)
    "Apply request does not match the persisted exact plan"
  match row.approvalId with
  | some approvalId =>
      throwIf (approvalId ≠ input.approvalId ∨ row.approvalEventId ≠ some input.sourceEventId)
        "Plan was already approved with a different approval receipt or event"
      .ok (true, db)
  | none =>
      let db ← db.transitionInternal requestId row .approved now
        { approvalId := some (some input.approvalId)
          approvalEventId := some (some input.sourceEventId) }
      .ok (false, db)

def requestCancellation (requestId : RequestId) (sourceEventId : String)
    (replyTarget : ReplyTarget) (reason : String) (now : Time) (db : UpdateDb) :
    Except String (UpdateRow × UpdateDb) := do
  let row ← db.getRequired requestId
  throwIf (row.replyTarget ≠ replyTarget) "Cancellation event is not in the planned reply target"
  if row.state.isTerminal then .ok (row, db)
  else if [UpdateState.requested, .planning, .awaitingApproval, .approved, .preparing,
      .staged].contains row.state then
    db.completeInternal requestId row ⟨.cancelled, rfl⟩
      { cancellationRequested := some true
        cancellationEventId := some (some sourceEventId)
        lastErrorCode := some (some "cancelled_by_operator")
        lastErrorMessage := some (some reason) } now
  else
    db.completeInternal requestId row ⟨.needsReview, rfl⟩
      { cancellationRequested := some true
        cancellationEventId := some (some sourceEventId)
        lastErrorCode := some (some "cancellation_after_external_mutation")
        lastErrorMessage := some
          (some "Cancellation was requested after runtime mutation began; reconcile is required") }
      now

/-- The next request the controller works on: the oldest one that is runnable now. -/
def nextRunnable (db : UpdateDb) (now : Time) : Option (RequestId × UpdateRow) :=
  oldest (db.requests.select fun _ row ↦
    (row.state = .approved ∨ row.state.isMutating) ∧ row.reconcileAfter.all (· ≤ now))

/-- An unexpired lease, of a request that is not terminal. -/
def leaseValid (row : UpdateRow) (now : Time) : Bool :=
  row.leaseExpiresAt.any (now < ·) ∧ row.state.isTerminal = false

/-- Another request holds the controller: it is the active one and its lease is valid. -/
def activeLeaseValid (db : UpdateDb) (requestId : RequestId) (now : Time) : Bool :=
  match db.activeRequestId with
  | none => false
  | some activeId =>
      activeId ≠ requestId ∧ (db.requests.get? activeId).any (leaseValid · now)

def leasedToOther (row : UpdateRow) (owner : String) (now : Time) : Bool :=
  row.leaseOwner.any (· ≠ owner) ∧ row.leaseExpiresAt.any (now < ·)

/-- The row that a claim leaves: `approved` becomes `preparing`, and the fence moves on. -/
def claimedRow (owner : String) (leaseMs : Int) (now : Time) (row : UpdateRow) : UpdateRow :=
  { row with
    state := if row.state = .approved then .preparing else row.state
    attempt := row.attempt + if row.state = .approved then 1 else 0
    leaseOwner := some owner
    leaseExpiresAt := some (now + leaseMs)
    fence := row.fence + 1
    updatedAt := now }

def claim (requestId : RequestId) (owner : String) (leaseMs : Int) (now : Time) (db : UpdateDb) :
    Except String (Option UpdateRow × UpdateDb) := do
  let row ← db.getRequired requestId
  if db.activeLeaseValid requestId now then .ok (none, db)
  else if leasedToOther row owner now then .ok (none, db)
  else
    assertMove row.state (claimedRow owner leaseMs now row).state
    let db := db.updateFenced requestId row.fence (claimedRow owner leaseMs now)
    let db := { db with activeRequestId := some requestId }
    let claimed ← db.getRequired requestId
    .ok (some claimed, db)

def beginOperatorRollback (requestId : RequestId) (planHash : CanonicalPlan) (owner : String)
    (leaseMs : Int) (now : Time) (db : UpdateDb) : Except String (Unit × UpdateDb) := do
  let row ← db.getRequired requestId
  throwIf (row.state ≠ .needsReview ∨ row.planHash ≠ planHash ∨ row.rollbackCompatible = false)
    "Operator rollback requires a matching needs_review plan with compatible previous release"
  throwIf (db.activeRequestId.any (· ≠ requestId)) "Another update is active"
  let (_, db) ← db.updateFencedOrThrow requestId row.fence (fun row ↦ row.state = .needsReview)
    (fun row ↦
      { row with
        state := .rollingBack
        completedAt := none
        leaseOwner := some owner
        leaseExpiresAt := some (now + leaseMs)
        fence := row.fence + 1
        updatedAt := now })
    "Operator rollback was rejected by CAS"
  .ok ((), { db with activeRequestId := some requestId })

inductive EvidenceStatus
  | succeeded | rolledBack

def EvidenceStatus.state : EvidenceStatus → TerminalState
  | succeeded => ⟨.succeeded, rfl⟩
  | rolledBack => ⟨.rolledBack, rfl⟩

def EvidenceStatus.intermediate : EvidenceStatus → UpdateState
  | succeeded => .verifying
  | rolledBack => .rollingBack

def completeEvidenceReconcile (requestId : RequestId) (terminalStatus : EvidenceStatus)
    (activeSha : String) (now : Time) (db : UpdateDb) :
    Except String (UpdateRow × UpdateDb) := do
  let row ← db.getRequired requestId
  throwIf (row.state ≠ .needsReview) "Evidence reconcile requires needs_review state"
  throwIf (¬((db.reconcilableNeedsReview.any fun candidate ↦ candidate.1 = requestId) ∨
      (db.runtimeOperations.get? (requestId, .legacyConfirmation)).any (·.phase = .observed)))
    "This needs_review reason is not eligible for evidence reconciliation"
  throwIf (db.terminalOutboxSettledForCorrection requestId = false)
    "Prior terminal notification acceptance is not settled"
  throwIf (db.activeRequestId.any (· ≠ requestId)) "Another update is active"
  assertTransition row.state terminalStatus.intermediate
  let (_, db) ← db.updateFencedOrThrow requestId row.fence (fun row ↦ row.state = .needsReview)
    (fun row ↦
      { row with
        state := terminalStatus.intermediate
        completedAt := none
        leaseOwner := none
        leaseExpiresAt := none
        fence := row.fence + 1
        reconcileAfter := none
        reconcileDeadline := none
        lastReconciledAt := some now
        updatedAt := now })
    "Evidence reconcile was rejected by CAS"
  let db := { db with activeRequestId := some requestId }
  let reopened ← db.getRequired requestId
  db.completeInternal requestId reopened terminalStatus.state
    { observedActiveSha := some (some activeSha)
      lastErrorCode := some none
      lastErrorMessage := some none } now

def renewLease (requestId : RequestId) (fence : ℕ) (owner : String) (leaseMs : Int) (now : Time)
    (db : UpdateDb) : Except String (Unit × UpdateDb) :=
  db.updateFencedOrThrow requestId fence
    (fun row ↦ row.leaseOwner = some owner ∧ row.completedAt = none)
    (fun row ↦ { row with leaseExpiresAt := some (now + leaseMs), updatedAt := now })
    "Lease renewal rejected by fencing token"

def transition (requestId : RequestId) (fence : ℕ) (target : UpdateState) (fields : MutationFields)
    (now : Time) (db : UpdateDb) : Except String (Unit × UpdateDb) := do
  let row ← db.getRequired requestId
  throwIf (row.fence ≠ fence) "Mutation rejected by stale fencing token"
  let db ← db.transitionInternal requestId row target now fields
  .ok ((), db)

def terminal (requestId : RequestId) (fence : ℕ) (target : TerminalState) (fields : MutationFields)
    (now : Time) (db : UpdateDb) : Except String (UpdateRow × UpdateDb) := do
  let row ← db.getRequired requestId
  throwIf (row.fence ≠ fence) "Terminal mutation rejected by stale fencing token"
  db.completeInternal requestId row target fields now

def recordActivationGeneration (requestId : RequestId) (fence generation : ℕ) (now : Time)
    (db : UpdateDb) : Except String (Unit × UpdateDb) :=
  db.updateFencedOrThrow requestId fence (fun _ ↦ true)
    (fun row ↦ { row with activationGeneration := generation, updatedAt := now })
    "Activation generation rejected by fencing token"

def incrementRestartAttempts (requestId : RequestId) (fence : ℕ) (now : Time) (db : UpdateDb) :
    Except String (Unit × UpdateDb) :=
  db.updateFencedOrThrow requestId fence (fun _ ↦ true)
    (fun row ↦ { row with restartAttempts := row.restartAttempts + 1, updatedAt := now })
    "Restart attempt rejected by fencing token"

def deferReconcile (requestId : RequestId) (fence : ℕ) (errorCode errorMessage : String)
    (after deadline now : Time) (db : UpdateDb) : Except String (Unit × UpdateDb) :=
  db.updateFencedOrThrow requestId fence (fun row ↦ row.completedAt = none)
    (fun row ↦
      { row with
        reconcileAfter := some after
        reconcileDeadline := some (row.reconcileDeadline.getD deadline)
        lastReconciledAt := some now
        lastErrorCode := some errorCode
        lastErrorMessage := some errorMessage
        leaseOwner := none
        leaseExpiresAt := none
        updatedAt := now })
    "Reconcile deferral rejected by fencing token"

def clearReconcile (requestId : RequestId) (fence : ℕ) (now : Time) (db : UpdateDb) :
    Except String (Unit × UpdateDb) :=
  db.updateFencedOrThrow requestId fence (fun _ ↦ true)
    (fun row ↦
      { row with
        reconcileAfter := none
        reconcileDeadline := none
        lastReconciledAt := some now
        updatedAt := now })
    "Reconcile clear rejected by fencing token"

/-- `completed_at IS NULL OR (state = 'needs_review' AND kind = 'legacy_confirmation')` -/
def acceptsRuntimeOperation (row : UpdateRow) (kind : RuntimeOperationKind) : Bool :=
  row.completedAt = none ∨ (row.state = .needsReview ∧ kind = .legacyConfirmation)

def prepareRuntimeOperation (requestId : RequestId) (fence : ℕ) (kind : RuntimeOperationKind)
    (targetRef : String) (expectedSha previousSessionId : Option String) (now : Time)
    (db : UpdateDb) : Except String (RuntimeOperationRow × UpdateDb) := do
  let (_, db) ← db.updateFencedOrThrow requestId fence (acceptsRuntimeOperation · kind) id
    s!"Runtime operation {kind} was rejected by fencing token"
  let db := { db with
    runtimeOperations := (db.runtimeOperations.insert? (requestId, kind)
      { fence := fence
        phase := .prepared
        targetRef := targetRef
        expectedSha := expectedSha
        previousSessionId := previousSessionId
        createdAt := now
        updatedAt := now }).getD db.runtimeOperations }
  let mismatch := s!"Runtime operation {kind} does not match its persisted intent"
  let row ← orThrow (db.runtimeOperations.get? (requestId, kind)) mismatch
  throwIf (row.targetRef ≠ targetRef ∨ row.expectedSha ≠ expectedSha ∨
    row.previousSessionId ≠ previousSessionId) mismatch
  .ok (row, db)

def recordRuntimeOperation (requestId : RequestId) (fence : ℕ) (kind : RuntimeOperationKind)
    (phase : RuntimeOperationPhase) (observedSessionId : Option String) (now : Time)
    (db : UpdateDb) : Except String (Unit × UpdateDb) := do
  let error := s!"Runtime operation {kind} was not prepared or was rejected by fencing token"
  let _ ← orThrow (db.runtimeOperations.get? (requestId, kind)) error
  let row ← orThrow (db.requests.get? requestId) error
  throwIf (row.fence ≠ fence ∨ acceptsRuntimeOperation row kind = false) error
  .ok ((), { db with
    runtimeOperations := db.runtimeOperations.updateKey (requestId, kind) fun operation ↦
      { operation with
        fence := fence
        phase := phase
        observedSessionId := observedSessionId
        updatedAt := now } })

/-! ### The terminal notifications -/

inductive OutboxUpdate
  | delivering
  | delivered (dispatcherEventId : String)
  | reported
  | needsReview (error : String)
  | pending (error : String) (delayMs : Int)
  | deferLookup (error : String) (delayMs : Int)
  | deferReport (error : String) (delayMs : Int)

/-- The rows the statement of a notification update matches. -/
def OutboxUpdate.applies : OutboxUpdate → OutboxRow → Bool
  | delivering, row => row.status = .pending ∨ row.status = .delivering
  | reported, row => row.status = .delivered
  | _, _ => true

def OutboxUpdate.assign (now : Time) : OutboxUpdate → OutboxRow → OutboxRow
  | delivering, row =>
      { row with
        status := .delivering
        attemptCount := row.attemptCount + 1
        lastError := none
        nextAttemptAt := none
        updatedAt := now }
  | delivered dispatcherEventId, row =>
      { row with
        status := .delivered
        dispatcherEventId := some dispatcherEventId
        dispatcherAcceptedAt := some (row.dispatcherAcceptedAt.getD now)
        nextAttemptAt := some (now + 1000)
        lastError := none
        updatedAt := now }
  | reported, row =>
      { row with
        slackReportedAt := some now
        nextAttemptAt := none
        lastError := none
        updatedAt := now }
  | needsReview error, row =>
      { row with
        status := .needsReview
        nextAttemptAt := none
        lastError := some error
        updatedAt := now }
  | pending error delayMs, row =>
      { row with
        status := .pending
        nextAttemptAt := some (now + delayMs)
        lastError := some error
        updatedAt := now }
  | deferLookup error delayMs, row =>
      { row with
        status := .delivering
        nextAttemptAt := some (now + delayMs)
        lastError := some error
        updatedAt := now }
  | deferReport error delayMs, row =>
      { row with
        status := .delivered
        nextAttemptAt := some (now + delayMs)
        lastError := some error
        updatedAt := now }

/-- `markOutboxDelivering`, `markOutboxDelivered`, `markOutboxReported`,
`markOutboxNeedsReview`, `markOutboxPending`, `deferOutboxLookup` and `deferOutboxReport`. -/
def markOutbox (outboxId : RequestId × ℕ) (update : OutboxUpdate) (now : Time) (db : UpdateDb) :
    UpdateDb :=
  { db with
    outbox := db.outbox.updateWhere (fun id row ↦ id = outboxId ∧ update.applies row)
      (update.assign now) }

end UpdateDb

end Dona.Updater
