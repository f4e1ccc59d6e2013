import Dona.Library.Fallible
import Dona.Library.Table
import Dona.Timestamp

/-!
# The tables of the dispatcher database

The rows of `dispatcher/src/database.ts`, `job-routing.ts` and `scheduler/schema.ts`. JSON
columns are the values they encode and random identifiers are drawn from a counter. Of the
audit trail only the `event_needs_review` entries are kept: retention reads no others.
-/

namespace Dona

abbrev ScheduleId := String

abbrev EventId := String

abbrev JobId := String

/-- A `randomUUID()` or `ulid()`; two draws never agree. -/
abbrev Uuid := ℕ

/-! ### Schedules -/

inductive ScheduleState
  | active | paused | expired | needsReview | cancelled | completed
  deriving DecidableEq

inductive Action
  | reminderPost | workReadOnly
  deriving DecidableEq

inductive Target
  | none
  | thread (workspaceId channelId threadTs : String)
  | channel (workspaceId channelId : String)
  | ownerDm (workspaceId channelId ownerId : String)
  deriving DecidableEq

inductive RecurrenceKind
  | once | daily | weekly | monthly
  deriving DecidableEq

/-- A recurrence document: its kind, the metadata that is projected from it, and its rule. -/
structure Recurrence where
  kind : RecurrenceKind
  timezone : Option String
  tzdbVersion : Option String
  rule : String
  deriving DecidableEq

structure Schedule where
  tenantId : String
  ownerId : String
  state : ScheduleState
  revision : ℕ
  nextDue : Option Timestamp
  highWatermark : Option Timestamp := none
  createdAt : Timestamp
  updatedAt : Timestamp
  terminalAt : Option Timestamp := none

structure Revision where
  recurrence : Recurrence
  policy : String
  policyVersion : ℕ
  timezone : Option String
  tzdbVersion : Option String
  authorizationId : String
  authorizationRevision : ℕ
  approverId : String
  approvedAt : Timestamp
  expiresAt : Timestamp
  action : Action
  target : Target
  content : Option String
  contentHash : String
  contentDeleteAt : Option Timestamp := none
  createdAt : Timestamp
  terminalAt : Option Timestamp := none

inductive RunStatus
  | materialized | started | completed | failed | cancelled | skipped | needsReview
  deriving DecidableEq

inductive RunReason
  | misfire | overlap | authorizationExpired | cancelled | revisionReplaced | ambiguousWrite
  deriving DecidableEq

/-- The key a claim gives its occurrence, or the instant of the occurrence. -/
inductive OccurrenceKey
  | text (key : String)
  | instant (scheduledFor : Timestamp)
  deriving DecidableEq

structure ScheduleRun where
  scheduleId : ScheduleId
  revision : ℕ
  occurrenceKey : OccurrenceKey
  scheduledFor : Timestamp
  status : RunStatus
  reason : Option RunReason
  eventId : Option EventId := none
  jobId : Option JobId := none
  createdAt : Timestamp
  startedAt : Option Timestamp := none
  terminalAt : Option Timestamp

inductive OutboxKind
  | reminderPost | workResultPost
  deriving DecidableEq

inductive OutboxStatus
  | pending | claimed | requestStarted | sent | failed | cancelled | needsReview
  deriving DecidableEq

structure ScheduleClaim where
  claimOwner : Option String
  claimUntil : Option Timestamp
  claimFence : ℕ

/-! ### Events and jobs -/

inductive EventStatus
  | queued | dispatching | waitingAgent | completed | retryableFailed | blocked | needsReview
  | deadLetter
  deriving DecidableEq

inductive JobStatus
  | queued | preparing | dispatching | running | retryableFailed | blocked | completed | failed
  | cancelling | cancelled | needsReview
  deriving DecidableEq

inductive EventSource
  | slack | donaJob | donaUpdate | donaSchedule
  deriving DecidableEq

structure SlackThread where
  workspaceId : String
  channelId : String
  threadTs : String
  deriving DecidableEq

inductive JobOwner
  | slackThread (thread : SlackThread)
  | schedule (tenantId ownerId : String) (scheduleId : ScheduleId) (runId : Option Uuid)
      (revision : ℕ)
  deriving DecidableEq

def JobOwner.scheduleId? : JobOwner → Option ScheduleId
  | slackThread _ => none
  | schedule _ _ scheduleId _ _ => some scheduleId

/-- `json_extract(owner_json, '$.run_id')`; a purge has replaced it by `deleted`. -/
def JobOwner.runId? : JobOwner → Option Uuid
  | slackThread _ => none
  | schedule _ _ _ runId _ => runId

inductive JobDestination
  | none
  | slackThread (thread : SlackThread)
  | workResult (target : Target)
  deriving DecidableEq

structure JobBinding where
  owner : JobOwner
  destination : JobDestination
  deriving DecidableEq

inductive GroupTransition
  | progress | attention | allTerminal
  deriving DecidableEq

/-- What follows the job and its status in the external identifier of a notice. -/
inductive NoticeSuffix
  | none | attentionReplacement | allTerminal
  deriving DecidableEq

inductive ExternalEventId
  | text (id : String)
  | schedule (scheduleId : ScheduleId) (scheduledFor : Timestamp)
  | job (jobId : JobId) (status : JobStatus) (suffix : NoticeSuffix)
  deriving DecidableEq

inductive ReplyTarget
  | slackThread (thread : SlackThread)
  | target (target : Target)
  deriving DecidableEq

inductive AttentionState
  | unresolved | resolved | notRequired
  deriving DecidableEq

/-- What the notice of a job says of the group of the job. -/
structure JobGroupSnapshot where
  attentionResolution : AttentionState
  total : ℕ
  pending : ℕ
  statusCounts : List (JobStatus × ℕ)
  jobs : List (JobId × String × JobStatus × Option Uuid)
  deriving DecidableEq

/-- The payload of the notice of a job: what it reports, and the transition of its group. -/
structure JobNotice where
  jobId : JobId
  jobKey : Option String := none
  jobStatus : JobStatus
  transition : Option GroupTransition := none
  groupSourceEventId : Option EventId := none
  result : Option String
  errorCode : Option String
  errorMessage : Option String
  snapshot : Option JobGroupSnapshot := none
  deriving DecidableEq

inductive EventPayload
  | text (json : String)
  | scheduleDue (runId : Uuid) (revision : ℕ) (occurrenceKey : OccurrenceKey)
      (objective : Option String) (resultDestination : Target)
      (authorizationTarget : Option (String × String))
  | jobNotice (notice : JobNotice)
  deriving DecidableEq

inductive EventSubject
  | text (json : String)
  | schedule (tenantId ownerId : String) (scheduleId : ScheduleId)
  | job (jobId : JobId) (sourceEventId : EventId) (thread : Option SlackThread)
      (actorId : Option String)
  deriving DecidableEq

structure EventEnvelope where
  source : EventSource
  externalEventId : ExternalEventId
  type : String
  occurredAt : Timestamp
  subject : EventSubject
  payload : EventPayload
  replyTarget : Option ReplyTarget

/-- An action the agent reports; a field that is absent or of another type is `none`. An entry
that is no object has no fields. -/
structure ResultAction where
  isObject : Bool := true
  tool : String
  workspace : Option String := none
  workspaceId : Option String := none
  channelId : Option String := none
  threadTs : Option String := none
  /-- `thread_ts` is there, but no string. -/
  hasOddThreadTs : Bool := false
  userId : Option String := none
  eventId : Option String := none
  messageTs : Option String := none
  status : Option String := none
  ambiguous : Option Bool := none
  success : Option Bool := none
  ok : Option Bool := none
  authorized : Option Bool := none
  accessReceiptVerified : Option Bool := none
  replyBroadcast : Option Bool := none
  bodySha256 : Option String := none
  mrkdwn : Option Bool := none
  parse : Option String := none
  hasError : Bool := false
  deriving DecidableEq

inductive ResultStatus
  | completed | failed
  deriving DecidableEq

structure ResultEnvelope where
  eventId : EventId
  status : ResultStatus
  summary : Option String := none
  actions : List ResultAction
  completedAt : Timestamp
  deriving DecidableEq

structure EventRow where
  source : EventSource
  externalEventId : ExternalEventId
  eventType : String
  occurredAt : Timestamp
  subject : EventSubject
  payload : EventPayload
  replyTarget : Option ReplyTarget
  status : EventStatus := .queued
  attemptCount : ℕ := 0
  availableAt : Timestamp
  dispatchStartedAt : Option Timestamp := none
  promptAcceptedAt : Option Timestamp := none
  completedAt : Option Timestamp := none
  result : Option ResultEnvelope := none
  resultPath : Option String := none
  lastErrorCode : Option String := none
  lastErrorMessage : Option String := none
  scheduleAccessCheckedAt : Option Timestamp := none
  scheduleAccessConsumedAt : Option Timestamp := none
  createdAt : Timestamp
  updatedAt : Timestamp

/-- The result document of a job. -/
structure JobResult where
  jobId : JobId
  status : ResultStatus
  summary : String
  outputText : Option String := none
  actions : List ResultAction := []
  completedAt : Timestamp
  deriving DecidableEq

inductive SteerState
  | dispatching | accepted
  deriving DecidableEq

structure JobRow where
  sourceEventId : EventId
  jobKey : String
  thread : Option SlackThread := none
  actorId : Option String := none
  objective : String
  status : JobStatus := .queued
  attemptCount : ℕ := 0
  availableAt : Timestamp
  herdrWorkspaceId : Option String := none
  dispatchStartedAt : Option Timestamp := none
  promptAcceptedAt : Option Timestamp := none
  completedAt : Option Timestamp := none
  result : Option JobResult := none
  completionEventId : Option EventId := none
  steerEventId : Option EventId := none
  steerState : Option SteerState := none
  lastErrorCode : Option String := none
  lastErrorMessage : Option String := none
  createdAt : Timestamp
  updatedAt : Timestamp
  deriving DecidableEq

/-! ### Job groups -/

inductive NotificationMode
  | grouped | legacy
  deriving DecidableEq

/-- The jobs of one source event; its key is that event. -/
structure JobGroupRow where
  sealedAt : Option Timestamp := none
  notificationMode : NotificationMode
  attentionEventId : Option EventId := none
  allTerminalEventId : Option EventId := none
  createdAt : Timestamp
  updatedAt : Timestamp

inductive ResolutionKind
  | validatedResult | operatorReconcile
  deriving DecidableEq

/-- How the job that needed attention ended; its key is the job. -/
structure AttentionResolution where
  sourceEventId : EventId
  attentionEventId : EventId
  statusAtResolution : JobStatus
  resolutionKind : ResolutionKind
  resolvedAt : Timestamp

/-- An operator verifies the delivery of an attention notice; its key is that notice. -/
structure AttentionClaim where
  sourceEventId : EventId
  claimToken : Uuid
  expectedEventUpdatedAt : Timestamp
  messageTs : String
  bodySha256 : String

structure AttentionReceipt where
  sourceEventId : EventId
  thread : SlackThread
  messageTs : String
  bodySha256 : String
  verifiedAt : Timestamp

/-- An operator has found that an attention notice was not posted. -/
structure AttentionNoPost where
  sourceEventId : EventId
  jobId : JobId
  expectedEventUpdatedAt : Timestamp
  thread : SlackThread
  result : ResultEnvelope
  reconciledAt : Timestamp

/-! ### Completions and writes -/

inductive NotificationState
  | none | pending | accepted | failed | needsReview
  deriving DecidableEq

inductive AuthorizationPhase
  | none | preflight | write
  deriving DecidableEq

/-- One row of `job_completion_results`; its key is the job and the status it reports. -/
structure CompletionResult where
  sourceEventId : EventId
  owner : JobOwner
  destination : JobDestination
  notificationState : NotificationState
  notificationAuthorizationPhase : AuthorizationPhase := .none
  notificationPreflightAuthorizedAt : Option Timestamp := none
  notificationWriteAuthorizedAt : Option Timestamp := none
  notificationEventId : Option EventId := none
  notificationBodySha256 : Option String := none
  materializedAt : Timestamp
  contentDeleteAt : Timestamp

structure Outbox where
  runId : Uuid
  kind : OutboxKind
  target : Target
  content : Option String
  contentHash : String
  status : OutboxStatus := .pending
  attempt : ℕ := 0
  availableAt : Timestamp
  claimToken : Option Uuid := none
  leaseUntil : Option Timestamp := none
  requestStartedAt : Option Timestamp := none
  receiptId : Option String := none
  createdAt : Timestamp
  updatedAt : Timestamp
  terminalAt : Option Timestamp := none
  contentDeleteAt : Option Timestamp := none
  completionJobStatus : Option JobStatus := none

structure Db where
  schedules : Table ScheduleId Schedule
  revisions : Table (ScheduleId × ℕ) Revision
  runs : Table Uuid ScheduleRun
  outbox : Table Uuid Outbox
  claims : Table ScheduleId ScheduleClaim
  events : Table EventId EventRow
  jobs : Table JobId JobRow
  completions : Table (JobId × JobStatus) CompletionResult
  eventBindings : Table EventId JobBinding
  ownerBindings : Table JobId (EventId × JobBinding)
  accessNonces : Table String (EventId × Timestamp)
  jobGroups : Table EventId JobGroupRow
  attentionResolutions : Table JobId AttentionResolution
  attentionClaims : Table EventId AttentionClaim
  attentionReceipts : Table EventId AttentionReceipt
  attentionNoPosts : Table EventId AttentionNoPost
  eventReviews : List (EventId × Timestamp)
  nextUuid : Uuid

/-- The tables as the first migration creates them. -/
def Db.fresh : Db where
  schedules := .empty
  revisions := .empty
  runs := .empty
  outbox := .empty
  claims := .empty
  events := .empty
  jobs := .empty
  completions := .empty
  eventBindings := .empty
  ownerBindings := .empty
  accessNonces := .empty
  jobGroups := .empty
  attentionResolutions := .empty
  attentionClaims := .empty
  attentionReceipts := .empty
  attentionNoPosts := .empty
  eventReviews := []
  nextUuid := 0

end Dona
