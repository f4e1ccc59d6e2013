import Dona.Dispatcher.Notifications

/-!
# Results of notices

What the agent reports about a notice, what an operator decides about it, and the proof of a
delivery. File system checks are arguments: `files` says which paths exist.
-/

namespace Dona

open Fallible

/-- `notificationText` -/
def JobNotice.text (notice : JobNotice) : String :=
  match notice.result, notice.errorMessage with
  | some summary, _ => summary
  | none, some message => message
  | none, none =>
      if notice.jobStatus = .cancelled then "ジョブは中止されました"
      else if notice.jobStatus = .blocked then "ジョブは入力待ちです"
      else "ジョブの確認が必要です"

/-- The text of a payload that a purge has replaced by `{}` is that of no notice. -/
def EventPayload.notificationText : EventPayload → String
  | jobNotice notice => notice.text
  | _ => "ジョブの確認が必要です"

/-- What the Slack adapter has verified about a post. -/
structure JobNotificationEvidence where
  eventId : EventId
  workspaceId : String
  channelId : String
  threadTs : Option String
  messageTs : String
  bodySha256 : String
  postedAt : Timestamp
  replyBroadcast : Bool
  identityBlockVerified : Bool

def Target.threadTs? : Target → Option String
  | thread _ _ threadTs => some threadTs
  | _ => Option.none

namespace ResultAction

/-- `tool.endsWith(".post_message")` -/
def isPost (action : ResultAction) : Bool :=
  ".post_message".toList.reverse.isPrefixOf action.tool.toList.reverse

end ResultAction

/-- What the tools of a notice are checked against. -/
structure DeliveryContext where
  eventId : EventId
  jobStatus : JobStatus
  target : Option Target
  ownerId : Option String

namespace DeliveryContext

def workspaceId? (context : DeliveryContext) : Option String :=
  context.target.bind Target.workspaceId?

def channelId? (context : DeliveryContext) : Option String :=
  context.target.bind Target.channelId?

def threadTs? (context : DeliveryContext) : Option String :=
  context.target.bind Target.threadTs?

def isAuthorization (context : DeliveryContext) (action : ResultAction) : Bool :=
  action.tool = "dona_dispatcher.authorize_job_notification" ∧ action.authorized = some true ∧
    action.eventId = some context.eventId

def isReauthorization (context : DeliveryContext) (action : ResultAction) : Bool :=
  context.isAuthorization action ∧ action.accessReceiptVerified = some true

def isAccess (context : DeliveryContext) (action : ResultAction) : Bool :=
  action.tool = "dona_slack.check_user_channel_access" ∧ action.authorized = some true ∧
    action.workspaceId = context.workspaceId? ∧ action.channelId = context.channelId? ∧
    action.userId = context.ownerId

/-- The session statuses that the agent may set for a job in this status. -/
def sessionStatuses (context : DeliveryContext) : List String :=
  if [JobStatus.blocked, .needsReview].contains context.jobStatus then ["processing", "suspended"]
  else if context.jobStatus = .failed then ["processing", "active", "suspended"]
  else ["processing", "active"]

def allowedAction (context : DeliveryContext) (accessWorkspace : Option String)
    (action : ResultAction) : Bool :=
  if action.tool = "dona_dispatcher.authorize_job_notification" then
    action.eventId = some context.eventId ∧ action.authorized = some true ∧
      action.success ≠ some false ∧ action.ok ≠ some false ∧ action.hasError = false
  else if action.tool = "dona_slack.check_user_channel_access" then context.isAccess action
  else if action.tool = "dona_slack.post_message" then true
  else
    context.threadTs?.isSome ∧ action.tool = "dona_slack.set_agent_session_status" ∧
      action.workspace = accessWorkspace ∧ action.channelId = context.channelId? ∧
      action.threadTs = context.threadTs? ∧ action.status.any context.sessionStatuses.contains

def validPost (context : DeliveryContext) (body : String) (accessWorkspace : Option String)
    (action : ResultAction) : Bool :=
  action.tool = "dona_slack.post_message" ∧ action.bodySha256 = some body ∧
    action.mrkdwn = some false ∧ action.parse = some "none" ∧ action.workspace.isSome ∧
    action.workspace = accessWorkspace ∧ action.messageTs.any isThreadTs ∧
    action.success ≠ some false ∧ action.ok ≠ some false ∧ action.ambiguous ≠ some true ∧
    action.hasError = false ∧ action.channelId = context.channelId? ∧
    action.threadTs = context.threadTs? ∧ action.hasOddThreadTs = false ∧
    (context.threadTs?.isSome → action.replyBroadcast = some false)

/-- The evidence is about the post of the notice. -/
def receiptValid (context : DeliveryContext) (body : String) (messageTs : Option String)
    (evidence : JobNotificationEvidence) : Bool :=
  evidence.eventId = context.eventId ∧ some evidence.workspaceId = context.workspaceId? ∧
    some evidence.channelId = context.channelId? ∧ evidence.threadTs = context.threadTs? ∧
    some evidence.messageTs = messageTs ∧ evidence.bodySha256 = body ∧
    evidence.replyBroadcast = false ∧ evidence.identityBlockVerified = true

end DeliveryContext

/-- The first action after a position that satisfies `p`, with its own position. -/
def firstAfter (actions : List (ResultAction × ℕ)) (position : Option ℕ)
    (p : ResultAction → Bool) : Option (ResultAction × ℕ) :=
  position.bind fun start ↦ actions.find? fun entry ↦ start < entry.2 ∧ p entry.1

namespace Db

def completionOf (db : Db) (eventId : EventId) :
    Option ((JobId × JobStatus) × CompletionResult) :=
  db.completions.find? fun _ completion ↦ reports eventId completion

/-- The revision under which the run of the notice was materialized. -/
def noticeRevision? (db : Db) (completion : CompletionResult) : Option Revision := do
  let runId ← completion.owner.runId?
  let run ← db.runs.get? runId
  db.revision? run.scheduleId run.revision

/-- The post was made in time: before the deadline of the notice and the end of the
authorization, and while the capability was fresh. -/
def postedInTime (db : Db) (completion : CompletionResult) (postedAt : Timestamp) : Bool :=
  postedAt.millis ≤ completion.materializedAt.millis + 900000 ∧
    ((db.noticeRevision? completion).any (postedAt.millis < ·.expiresAt.millis)) ∧
    completion.notificationWriteAuthorizedAt.any fun authorizedAt ↦
      authorizedAt.millis - 5000 ≤ postedAt.millis ∧ postedAt.millis ≤ authorizedAt.millis + 120000

/-- The sequence of the actions: authorization, access check, authorization, one post. Entries
that are no objects count as positions only. -/
def postDelivered (context : DeliveryContext) (body : String) (reported : List ResultAction)
    (evidence : JobNotificationEvidence) : Bool :=
  let actions := reported.zipIdx.filter (·.1.isObject)
  let authorized := actions.find? fun entry ↦ context.isAuthorization entry.1
  let access := firstAfter actions (authorized.map (·.2)) context.isAccess
  let reauthorized := firstAfter actions (access.map (·.2)) context.isReauthorization
  let workspace := access.bind (·.1.workspace)
  let posts := actions.filter (·.1.isPost)
  let validPost := posts.find? fun entry ↦ reauthorized.map (·.2 + 1) = some entry.2 ∧
    context.validPost body workspace entry.1
  context.receiptValid body (validPost.bind (·.1.messageTs)) evidence ∧
    (actions.all fun entry ↦ context.allowedAction workspace entry.1) ∧ posts.length = 1 ∧
    (posts.all fun entry ↦ entry.1.ambiguous ≠ some true) ∧ validPost.isSome

/-- Whether the notice was delivered, and the run that it reports. -/
def notificationDelivered (env : Env) (db : Db) (eventId : EventId) (event : EventRow)
    (result : ResultEnvelope) (evidence : Option JobNotificationEvidence) : Bool × Option Uuid :=
  match db.completionOf eventId with
  | none => (false, none)
  | some ((_, jobStatus), completion) =>
      let body := completion.notificationBodySha256.getD
        (env.digest event.payload.notificationText)
      let context : DeliveryContext :=
        ⟨eventId, jobStatus, completion.destination.target?, completion.owner.ownerId?⟩
      (evidence.any fun evidence ↦ postDelivered context body result.actions evidence ∧
          db.postedInTime completion evidence.postedAt ∧
          completion.notificationState = .needsReview ∧
          completion.notificationAuthorizationPhase = .write,
        completion.owner.runId?)

/-! ### Results of the agent -/

/-- The codes of a notice that was closed before the agent answered. -/
def isClosed (event : EventRow) : Bool :=
  (event.status = .completed ∧ event.lastErrorCode.any fun code ↦
    ["schedule_suppressed", "schedule_notification_suppressed",
      "job_result_superseded"].contains code) ∨
    (event.status = .needsReview ∧ event.source = .donaJob)

/-- `last_error_code?.startsWith("delegation_rejected:")` -/
def delegationRejected (event : EventRow) : Bool :=
  event.lastErrorCode.any fun code ↦ "delegation_rejected:".toList.isPrefixOf code.toList

def isAmbiguous (result : ResultEnvelope) : Bool :=
  result.actions.any fun action ↦ action.isPost ∧ action.ambiguous = some true

def hasPosted (result : ResultEnvelope) : Bool :=
  result.actions.any fun action ↦ action.isPost ∧ action.messageTs.isSome

/-- The due event has no run, or its run has no job yet. -/
def isUndelegated (db : Db) (eventId : EventId) : Bool :=
  match db.runs.find? fun _ run ↦ run.eventId = some eventId with
  | none => true
  | some (_, run) => run.jobId = none ∨ run.status = .materialized

/-- The columns of an event that the result of the agent fills. -/
def withResult (result : ResultEnvelope) (resultPath : String) (code message : Option String)
    (event : EventRow) : EventRow :=
  { event with
    result := some result
    resultPath := some resultPath
    completedAt := some result.completedAt
    lastErrorCode := code
    lastErrorMessage := message }

/-- A due event that ends without a job: a rejected delegation, or a missing one. -/
def endUndelegated (eventId : EventId) (event : EventRow) (result : ResultEnvelope)
    (resultPath : String) (now : Int) (db : Db) : Except String Db := do
  let failed := delegationRejected event && !(isAmbiguous result || hasPosted result)
  let db ← db.transitionEvent eventId [.waitingAgent]
    (if failed then .deadLetter else .needsReview)
    (withResult result resultPath
      (if delegationRejected event then event.lastErrorCode else some "schedule_job_not_delegated")
      (if delegationRejected event then event.lastErrorMessage
        else some "Scheduled work completed without a bound job")) now
  db.settleUndelegated eventId (if failed then .failed else .needsReview)
    result.completedAt.millis

def saveCompleted (env : Env) (eventId : EventId) (result : ResultEnvelope) (resultPath : String)
    (now : Int) (evidence : Option JobNotificationEvidence) (db : Db) :
    Except String (Unit × Db) := do
  throwIf (now < result.completedAt.millis) "completed_at_is_in_the_future"
  let event ← db.getRequired eventId
  if isClosed event then .ok ((), db)
  else if event.source = .donaSchedule ∧ db.isUndelegated eventId then do
    let db ← db.endUndelegated eventId event result resultPath now
    .ok ((), db)
  else do
    let db ← db.transitionEvent eventId [.waitingAgent] .completed
      (withResult result resultPath none none) now
    let (delivered, runId) := notificationDelivered env db eventId event result evidence
    let db ← (if runId.isSome then
        db.setNotificationState eventId (if delivered then .accepted else .needsReview)
          result.completedAt.millis none
      else .ok db)
    let db ← (if event.source = .donaJob then db.handoffResolvedAttention eventId now else .ok db)
    .ok ((), db)

/-- The failure of an agent that has not delivered the notice. -/
def failUndelivered (eventId : EventId) (event : EventRow) (result : ResultEnvelope)
    (resultPath : String) (now : Int) (db : Db) : Except String Db := do
  let needsReview := isAmbiguous result || hasPosted result
  let db ← db.transitionEvent eventId [.waitingAgent]
    (if needsReview then .needsReview else .deadLetter)
    (withResult result resultPath
      (some (if isAmbiguous result then "ambiguous_external_write"
        else if hasPosted result then "incomplete_delivery_after_post"
        else "agent_reported_failure"))
      (some (result.summary.getD "Agent reported failure"))) now
  let db ← db.settleUndelegated eventId
    (if needsReview = true ∨ event.source = .donaSchedule then .needsReview else .failed)
    result.completedAt.millis
  db.setNotificationState eventId (if needsReview then .needsReview else .failed)
    result.completedAt.millis none

def saveFailedResult (env : Env) (eventId : EventId) (result : ResultEnvelope)
    (resultPath : String) (now : Int) (evidence : Option JobNotificationEvidence) (db : Db) :
    Except String (Unit × Db) := do
  throwIf (now < result.completedAt.millis) "completed_at_is_in_the_future"
  let event ← db.getRequired eventId
  if isClosed event then .ok ((), db)
  else if event.source = .donaSchedule ∧ db.isUndelegated eventId ∧ delegationRejected event then do
    let db ← db.endUndelegated eventId event result resultPath now
    .ok ((), db)
  else if (notificationDelivered env db eventId event result evidence).1 then do
    let db ← db.transitionEvent eventId [.waitingAgent] .completed
      (withResult result resultPath (some "agent_failed_after_delivery")
        (some (result.summary.getD "Agent failed after confirmed delivery"))) now
    let db ← db.setNotificationState eventId .accepted result.completedAt.millis none
    .ok ((), db)
  else do
    let db ← db.failUndelivered eventId event result resultPath now
    .ok ((), db)

/-! ### Decisions of an operator -/

/-- The notice may be sent again: nothing has been authorized to be written. -/
def isRetryable (completion : CompletionResult) : Bool :=
  [NotificationState.failed, .needsReview].contains completion.notificationState ∧
    [AuthorizationPhase.none, .preflight].contains completion.notificationAuthorizationPhase

def resetPhase (completion : CompletionResult) : CompletionResult :=
  { completion with
    notificationState := .pending
    notificationAuthorizationPhase := .none
    notificationPreflightAuthorizedAt := none
    notificationWriteAuthorizedAt := none }

/-- The notice whose phase the update of `manualRetry` resets. -/
def isReset (eventId : EventId) (completion : CompletionResult) : Bool :=
  reports eventId completion ∧ (completion.notificationState = .failed ∨
    (completion.notificationState = .needsReview ∧
      [AuthorizationPhase.none, .preflight].contains completion.notificationAuthorizationPhase))

def requeue (now : Int) (event : EventRow) : EventRow :=
  { event with
    status := .queued
    attemptCount := 0
    availableAt := .toIso now
    dispatchStartedAt := none
    promptAcceptedAt := none
    completedAt := none
    result := none
    resultPath := none
    lastErrorCode := none
    lastErrorMessage := none
    scheduleAccessCheckedAt := none
    scheduleAccessConsumedAt := none
    updatedAt := .toIso now }

/-- The backup of the result file is deleted as soon as the event is queued again. -/
def manualRetry (eventId : EventId) (force : Bool) (now : Int) (files : String → Bool) (db : Db) :
    Except String (Unit × Db) := do
  let event ← db.getRequired eventId
  throwIf ([EventStatus.blocked, .needsReview].contains event.status ∧ force = false)
    s!"{event.status.text} may already have side effects; repeat with --force after review"
  throwIf ([EventStatus.blocked, .needsReview, .deadLetter, .retryableFailed].contains
    event.status = false) s!"Event in status {event.status.text} cannot be retried"
  let notification := (db.completionOf eventId).map (·.2)
  let reportedPost := event.result.any fun result ↦ result.actions.any (isPostMessage ·.tool)
  throwIf (notification.isSome ∧ (reportedPost = true ∨ event.resultPath.any files = true ∨
    notification.all isRetryable = false)) "scheduled_notification_retry_requires_reconciliation"
  throwIf (event.source = .donaSchedule ∧
    ((db.runs.find? fun _ run ↦ run.eventId = some eventId).any fun entry ↦
      entry.2.jobId = none ∧ entry.2.status ≠ .materialized) = true)
    "schedule_event_retry_requires_reconciliation"
  throwIf (event.resultPath.any (fun path ↦ files path ∧ files (path ++ ".retry-backup")) = true)
    "retry_result_backup_exists"
  .ok ((), { db with
    events := db.events.updateKey eventId (requeue now)
    completions := db.completions.updateWhere (fun _ completion ↦ isReset eventId completion)
      resetPhase })

def manualComplete (eventId : EventId) (now : Int) (db : Db) : Except String (Unit × Db) := do
  let event ← db.getRequired eventId
  throwIf (event.source = .donaSchedule) "scheduled_event_completion_requires_reconciliation"
  throwIf ((db.completions.any fun _ completion ↦ reports eventId completion ∧
    completion.owner.isSchedule ∧ completion.notificationState ≠ .accepted) = true)
    "scheduled_notification_receipt_required"
  let db : Db := if event.status = .completed then db else { db with
    events := db.events.updateKey eventId fun event ↦
      { event with
        status := .completed
        result := some
          { eventId := eventId
            status := .completed
            summary := some "Manually marked completed after operator review"
            actions := []
            completedAt := .toIso now }
        completedAt := some (.toIso now)
        lastErrorCode := none
        lastErrorMessage := none
        updatedAt := .toIso now } }
  let db ← (db.sealJobGroupIfPresent eventId (.toIso now)).setNotificationState eventId .accepted
    now none
  .ok ((), db)

def manualDeadLetter (eventId : EventId) (now : Int) (db : Db) : Except String (Unit × Db) := do
  let _ ← db.getRequired eventId
  if ((db.completionOf eventId).any (·.2.notificationState = .accepted)) then .ok ((), db)
  else do
    let db : Db := { db with
      events := db.events.updateKey eventId fun event ↦
        { event with
          status := .deadLetter
          lastErrorCode := some "operator_dead_letter"
          lastErrorMessage := some "Moved to dead letter by operator"
          updatedAt := .toIso now } }
    let db ← db.settleUndelegated eventId .failed now
    let db ← (db.sealJobGroupIfPresent eventId (.toIso now)).setNotificationState eventId .failed
      now none
    .ok ((), db)

/-! ### Reconciliation -/

def reconcileClaimed : Option String := some "operator_notification_reconcile_claimed"

/-- The operator who reconciles a notice draws a token, or takes up the stored one. -/
def claimNotificationReconciliation (eventId : EventId) (resume : Bool) (db : Db) :
    Except String (String × Db) := do
  let current ← db.getRequired eventId
  if current.lastErrorCode = reconcileClaimed then do
    throwIf (resume = false) "scheduled_notification_reconcile_requires_explicit_resume"
    let token ← orThrow current.lastErrorMessage
      "scheduled_notification_reconcile_requires_explicit_resume"
    .ok (token, db)
  else do
    throwIf ((db.completions.any fun _ completion ↦ reports eventId completion ∧
      [NotificationState.failed, .needsReview].contains completion.notificationState) = false)
      "scheduled_notification_not_reconcilable"
    let token := s!"{db.nextUuid}"
    .ok (token, { db with
      events := db.events.updateKey eventId fun event ↦
        { event with lastErrorCode := reconcileClaimed, lastErrorMessage := some token }
      nextUuid := db.nextUuid + 1 })

def assertNotificationReconciliationClaim (db : Db) (eventId : EventId) (token : Option String) :
    Except String Unit := do
  let event ← db.getRequired eventId
  throwIf (event.lastErrorCode = reconcileClaimed ∧ event.lastErrorMessage ≠ token)
    "scheduled_notification_reconcile_claim_conflict"

/-- The notice of a scheduled job that waits for an operator. -/
def reconcilable (db : Db) (eventId : EventId) : Except String CompletionResult := do
  let (_, completion) ← orThrow (db.completions.find? fun _ completion ↦
    reports eventId completion ∧ completion.owner.isSchedule)
    "scheduled_notification_not_reconcilable"
  throwIf ([NotificationState.failed, .needsReview].contains completion.notificationState = false)
    "scheduled_notification_not_reconcilable"
  .ok completion

def reconciledEvent (result : ResultEnvelope) (code : Option String) (now : Int)
    (event : EventRow) : EventRow :=
  { event with
    status := .completed
    result := some result
    completedAt := some (.toIso now)
    lastErrorCode := code
    lastErrorMessage := none
    updatedAt := .toIso now }

structure PostReceipt where
  workspaceId : String
  channelId : String
  messageTs : String
  threadTs : Option String

def postMismatch (completion : CompletionResult) (receipt : PostReceipt) : Bool :=
  match completion.destination.target? with
  | none => true
  | some target =>
      target.workspaceId? ≠ some receipt.workspaceId ∨ target.channelId? ≠ some receipt.channelId ∨
        isThreadTs receipt.messageTs = false ∨ target.threadTs? ≠ receipt.threadTs

def reconcileScheduledNotification (eventId : EventId) (receipt : PostReceipt) (now : Int)
    (claimToken : Option String) (db : Db) : Except String (Unit × Db) := do
  db.assertNotificationReconciliationClaim eventId claimToken
  let completion ← db.reconcilable eventId
  throwIf (postMismatch completion receipt = true) "scheduled_notification_receipt_mismatch"
  let result : ResultEnvelope :=
    { eventId := eventId
      status := .completed
      summary := some "Operator reconciled a verified scheduled notification receipt"
      actions :=
        [{ tool := "operator.reconcile_job_notification"
           workspaceId := some receipt.workspaceId
           channelId := some receipt.channelId
           messageTs := some receipt.messageTs
           threadTs := receipt.threadTs }]
      completedAt := .toIso now }
  let db : Db := { db with
    events := db.events.updateKey eventId (reconciledEvent result none now) }
  let db ← db.setNotificationState eventId .accepted now (some [.failed, .needsReview])
  .ok ((), db)

def reconcileScheduledNotificationNotSent (eventId : EventId) (now : Int)
    (claimToken : Option String) (db : Db) : Except String (Unit × Db) := do
  db.assertNotificationReconciliationClaim eventId claimToken
  let completion ← db.reconcilable eventId
  let result : ResultEnvelope :=
    { eventId := eventId
      status := .completed
      summary := some "Operator confirmed the scheduled notification was not sent"
      actions := [{ tool := "operator.reconcile_job_notification" }]
      completedAt := .toIso now }
  let db : Db := { db with
    events := db.events.updateKey eventId
      (reconciledEvent result (some "notification_confirmed_not_sent") now) }
  let db ← db.setNotificationState eventId .none now (some [.failed, .needsReview])
  match completion.owner.runId? with
  | none => .ok ((), db)
  | some runId => do
      let (_, db) ← db.reconcileWorkNotificationNotSent runId (.floorSecond now)
      .ok ((), db)

def markNotificationSessionNeedsReview (eventId : EventId) (now : Int) (db : Db) :
    Except String (Unit × Db) := do
  let db ← db.setNotificationState eventId .needsReview now none
  .ok ((), db)

/-- The statements by which a job takes its notice back before it goes out. -/
def supersedeNotice (eventId : EventId) (timestamp : Timestamp) (db : Db) :
    Except String (Unit × Db) :=
  .ok ((), { db with
    events := db.events.updateWhere
      (fun id event ↦ id = eventId ∧ [EventStatus.queued, .retryableFailed].contains event.status)
      (completeEvent timestamp "job_result_superseded")
    completions := db.completions.updateWhere
      (fun _ completion ↦ reports eventId completion ∧ completion.notificationState = .pending)
      (withState .none) })

end Db

end Dona
