import Dona.Schema

/-!
# Checks and shared updates of the scheduler repository

The private methods of `SchedulerRepository` that several operations use: input checks, the
suppression of unsent writes, the retirement of revisions, expiry and completion. A missing
row where the source asserts one (`this.get(id)!`) leaves the tables as they are; foreign
keys exclude it.
-/

namespace Dona

open Fallible

/-- The code the repository is given or imports: the digest, the redaction patterns, and the
codecs that make a recurrence or policy document canonical. -/
structure Codecs where
  recurrence : Recurrence → Recurrence
  policy : String → String

structure Env where
  digest : String → String
  hasCredentialPattern : String → Bool
  hasSensitiveContentPattern : String → Bool
  /-- The text names a path of the host or of the job. -/
  reportsLocalPath : String → String → Bool
  codecs : Option Codecs

/-! ### Input checks -/

def utc (value : Timestamp) : Except String Unit :=
  throwIf (value.ms ≠ none) "invalid_timestamp"

/-- `/^[A-Za-z0-9_:-]{1,160}$/` -/
def isIdentity (value : String) : Bool :=
  1 ≤ value.length ∧ value.length ≤ 160 ∧
    value.toList.all fun c ↦ c.isAlphanum || ['_', ':', '-'].contains c

def identity (value : String) : Except String Unit :=
  throwIf (isIdentity value = false) "invalid_identity"

/-- `/^[A-Za-z0-9_.:-]{1,160}$/`, and no credential. -/
def validateReceipt (env : Env) (value : String) : Except String Unit :=
  throwIf (¬(1 ≤ value.length ∧ value.length ≤ 160 ∧
      (value.toList.all fun c ↦ c.isAlphanum || ['_', '.', ':', '-'].contains c) = true ∧
      env.hasCredentialPattern value = false))
    "invalid_receipt"

/-- `/^\d{1,20}\.\d{6}$/` -/
def isThreadTs (value : String) : Bool :=
  let seconds := value.toList.takeWhile Char.isDigit
  let rest := value.toList.dropWhile Char.isDigit
  1 ≤ seconds.length ∧ seconds.length ≤ 20 ∧ rest.length = 7 ∧ rest.head? = some '.' ∧
    rest.tail.all Char.isDigit

/-- The white space that `String.prototype.trim` removes. -/
def isBlankChar (c : Char) : Bool :=
  [0x9, 0xa, 0xb, 0xc, 0xd, 0x20, 0xa0, 0x1680, 0x2028, 0x2029, 0x202f, 0x205f, 0x3000,
    0xfeff].contains c.toNat || (0x2000 ≤ c.toNat && c.toNat ≤ 0x200a)

def safeContent (env : Env) (value : String) (limit : ℕ) : Except String Unit :=
  throwIf (value = "" ∨ limit < value.length ∨ env.hasCredentialPattern value = true ∨
    env.hasSensitiveContentPattern value = true) "content_requires_redaction"

/-- Keeps 2000 code points, the last one an ellipsis when the text is longer. -/
def truncateResultContent (env : Env) (value : String) : Except String String := do
  throwIf (value = "" ∨ env.hasCredentialPattern value = true ∨
    env.hasSensitiveContentPattern value = true) "content_requires_redaction"
  .ok (if value.length ≤ 2000 then value else String.ofList (value.toList.take 1999) ++ "…")

/-- `authorization_id.replace(/:\d+$/, "")` -/
def authorizationEventId (authorizationId : String) : EventId :=
  let reversed := authorizationId.toList.reverse
  let digits := reversed.takeWhile Char.isDigit
  match digits, reversed.dropWhile Char.isDigit with
  | _ :: _, ':' :: rest => String.ofList rest.reverse
  | _, _ => authorizationId

/-! ### Actors and revisions -/

inductive Role
  | owner | admin
  deriving DecidableEq

structure Actor where
  tenantId : String
  actorId : String
  role : Role
  sourceEventId : Option EventId

structure RevisionInput where
  recurrence : Recurrence
  policy : String
  policyVersion : ℕ
  timezone : Option String
  tzdbVersion : Option String
  authorizationId : String
  authorizationRevision : ℕ
  approverId : String
  approvedAt : Timestamp
  expiresAt : Timestamp
  action : Action
  target : Target
  content : String

def Target.workspaceId? : Target → Option String
  | none => Option.none
  | thread workspaceId _ _ => some workspaceId
  | channel workspaceId _ => some workspaceId
  | ownerDm workspaceId _ _ => some workspaceId

def Target.channelId? : Target → Option String
  | none => Option.none
  | thread _ channelId _ => some channelId
  | channel _ channelId => some channelId
  | ownerDm _ channelId _ => some channelId

def validateTarget (env : Env) (target : Target) (action : Action) (owner tenant : String) :
    Except String Unit :=
  match target with
  | .none => throwIf (action ≠ .workReadOnly) "invalid_target"
  | .thread workspaceId channelId threadTs => do
      identity workspaceId
      identity channelId
      throwIf (env.hasCredentialPattern workspaceId = true ∨
        env.hasCredentialPattern channelId = true ∨ workspaceId ≠ tenant ∨
        isThreadTs threadTs = false) "invalid_target"
  | .channel workspaceId channelId => do
      identity workspaceId
      identity channelId
      throwIf (env.hasCredentialPattern workspaceId = true ∨
        env.hasCredentialPattern channelId = true ∨ workspaceId ≠ tenant) "invalid_target"
  | .ownerDm workspaceId channelId ownerId => do
      identity workspaceId
      identity channelId
      throwIf (env.hasCredentialPattern workspaceId = true ∨
        env.hasCredentialPattern channelId = true ∨ env.hasCredentialPattern ownerId = true ∨
        workspaceId ≠ tenant ∨ ownerId ≠ owner) "invalid_target"

def maxSafeInteger : ℕ := 2 ^ 53 - 1

def validateRevision (env : Env) (input : RevisionInput) (owner tenant : String)
    (now : Timestamp) : Except String Unit := do
  utc now
  utc input.approvedAt
  utc input.expiresAt
  identity input.authorizationId
  identity input.approverId
  throwIf (env.hasCredentialPattern input.authorizationId = true) "invalid_authorization"
  throwIf (maxSafeInteger < input.authorizationRevision ∨ input.authorizationRevision < 1)
    "invalid_authorization"
  throwIf (input.policyVersion ≠ 1 ∨ input.approverId ≠ owner ∨ now < input.approvedAt ∨
    input.expiresAt ≤ now ∨ 2592000000 < input.expiresAt.millis - input.approvedAt.millis)
    "invalid_authorization"
  throwIf (input.action = .workReadOnly ∧ input.content.toList.all isBlankChar = true)
    "invalid_content"
  safeContent env input.content (if input.action = .workReadOnly then 4000 else 2000)
  validateTarget env input.target input.action owner tenant
  let codecs ← orThrow env.codecs "domain_codecs_required"
  throwIf (codecs.recurrence input.recurrence ≠ input.recurrence ∨
    codecs.policy input.policy ≠ input.policy) "noncanonical_domain_document"
  throwIf (input.timezone ≠ input.recurrence.timezone ∨
    input.tzdbVersion ≠ input.recurrence.tzdbVersion) "domain_metadata_conflict"

/-- The row of a new revision. -/
def RevisionInput.row (env : Env) (input : RevisionInput) (now : Timestamp) : Revision where
  recurrence := input.recurrence
  policy := input.policy
  policyVersion := input.policyVersion
  timezone := input.timezone
  tzdbVersion := input.tzdbVersion
  authorizationId := input.authorizationId
  authorizationRevision := input.authorizationRevision
  approverId := input.approverId
  approvedAt := input.approvedAt
  expiresAt := input.expiresAt
  action := input.action
  target := input.target
  content := some input.content
  contentHash := env.digest input.content
  createdAt := now

namespace Db

def revision? (db : Db) (scheduleId : ScheduleId) (revision : ℕ) : Option Revision :=
  db.revisions.get? (scheduleId, revision)

def insertRevision (db : Db) (scheduleId : ScheduleId) (revision : ℕ) (row : Revision) :
    Except String Db := do
  let revisions ← orThrow (db.revisions.insert? (scheduleId, revision) row)
    "UNIQUE constraint failed: schedule_revisions.schedule_id, schedule_revisions.revision"
  .ok { db with revisions := revisions }

def checked (db : Db) (scheduleId : ScheduleId) (revision : ℕ) (actor : Actor)
    (ownerOnly : Bool) : Except String Schedule := do
  let row ← orThrow (db.schedules.get? scheduleId) "schedule_not_found"
  throwIf (row.revision ≠ revision) "revision_conflict"
  identity actor.actorId
  identity actor.tenantId
  (actor.sourceEventId.elim (.ok ()) identity)
  throwIf (actor.tenantId ≠ row.tenantId ∨
    (actor.actorId ≠ row.ownerId ∧ (ownerOnly = true ∨ actor.role ≠ .admin))) "unauthorized"
  .ok row

/-- The schedules that count against the limits of a tenant. -/
def countsForQuota (tenant : String) (row : Schedule) : Bool :=
  row.tenantId = tenant ∧ row.state ≠ .cancelled ∧ row.state ≠ .completed

def quota (db : Db) (tenant owner : String) : Except String Unit :=
  throwIf (100 ≤ db.schedules.count (fun _ row ↦ countsForQuota tenant row) ∨
    20 ≤ db.schedules.count fun _ row ↦ countsForQuota tenant row ∧ row.ownerId = owner)
    "quota_exceeded"

/-! ### Writes to the outbox -/

/-- What the trigger `job_completion_outbox_update` makes of an outbox status. -/
def notificationStateOf : OutboxStatus → NotificationState
  | .sent => .accepted
  | .failed => .failed
  | .needsReview => .needsReview
  | .cancelled => .none
  | _ => .pending

/-- The effect of the outbox triggers, for one row, on the completion it reports. -/
def syncCompletion (runs : Table Uuid ScheduleRun)
    (completions : Table (JobId × JobStatus) CompletionResult) (row : Outbox) :
    Table (JobId × JobStatus) CompletionResult :=
  match row.kind, row.completionJobStatus, (runs.get? row.runId).bind (·.jobId) with
  | .workResultPost, some jobStatus, some jobId =>
      completions.updateKey (jobId, jobStatus) fun completion ↦
        { completion with notificationState := notificationStateOf row.status }
  | _, _, _ => completions

/-- `UPDATE connector_outbox SET status = … WHERE p`, with its trigger. -/
def updateOutbox (db : Db) (p : Uuid → Outbox → Bool) (f : Outbox → Outbox) : Db :=
  { db with
    outbox := db.outbox.updateWhere p f
    completions := (db.outbox.select p).foldl
      (fun completions entry ↦ syncCompletion db.runs completions (f entry.2)) db.completions }

/-- The same statement for the row with one key. -/
def updateOutboxRow (db : Db) (outboxId : Uuid) (f : Outbox → Outbox) : Db :=
  db.updateOutbox (fun id _ ↦ id = outboxId) f

def insertOutbox (env : Env) (runId : Uuid) (kind : OutboxKind) (target : Target)
    (content : String) (now : Timestamp) (db : Db) : Except String Db := do
  throwIf (db.outbox.any fun _ row ↦ row.runId = runId ∧ row.kind = kind)
    "UNIQUE constraint failed: connector_outbox.idempotency_key"
  let row : Outbox :=
    { runId := runId
      kind := kind
      target := target
      content := some content
      contentHash := env.digest content
      availableAt := now
      createdAt := now
      updatedAt := now
      completionJobStatus :=
        (((db.runs.get? runId).bind (·.jobId)).bind db.jobs.get?).map (·.status) }
  let outbox ← orThrow (db.outbox.insert? db.nextUuid row)
    "UNIQUE constraint failed: connector_outbox.outbox_id"
  .ok { db with
    outbox := outbox
    completions := syncCompletion db.runs db.completions row
    nextUuid := db.nextUuid + 1 }

def isUnsent (row : Outbox) : Bool := row.status = .pending ∨ row.status = .claimed

/-- Cancels a row that has not been sent. -/
def cancelUnsent (now : Timestamp) (row : Outbox) : Outbox :=
  { row with
    status := .cancelled
    terminalAt := some now
    contentDeleteAt := some (now.add 604800)
    updatedAt := now
    claimToken := none
    leaseUntil := none }

def runOf (db : Db) (scheduleId : ScheduleId) (runId : Uuid) : Bool :=
  (db.runs.get? runId).any (·.scheduleId = scheduleId)

/-- The instant by which the text of a write goes when its authorization has expired. -/
def expiryDeadline (db : Db) (row : Outbox) : Option Timestamp := do
  let run ← db.runs.get? row.runId
  let revision ← db.revision? run.scheduleId run.revision
  some (revision.expiresAt.add 604800)

/-- `content_delete_at = MIN(COALESCE(content_delete_at, ?), ?)` -/
def capContentDeleteAt (deadline : Timestamp) (row : Outbox) : Outbox :=
  { row with contentDeleteAt := some (min (row.contentDeleteAt.getD deadline) deadline) }

def capExpiringContent (db : Db) (scheduleId : ScheduleId) : Db :=
  { db with
    outbox := db.outbox.updateWhere
      (fun _ row ↦ db.runOf scheduleId row.runId ∧
        (row.status = .cancelled ∨ row.status = .requestStarted))
      (fun row ↦ ((db.expiryDeadline row).map (capContentDeleteAt · row)).getD row) }

/-! ### Suppression -/

/-- A write of the run has been started, sent or left under review. -/
def hasStartedWrite (db : Db) (runId : Uuid) : Bool :=
  db.outbox.any fun _ row ↦ row.runId = runId ∧
    (row.status = .requestStarted ∨ row.status = .needsReview ∨ row.status = .sent)

def suppressRuns (db : Db) (scheduleId : ScheduleId) (now : Timestamp) (reason : RunReason) : Db :=
  { db with
    runs := db.runs.updateWhere
      (fun runId run ↦ run.scheduleId = scheduleId ∧ run.status = .materialized ∧
        db.hasStartedWrite runId = false)
      (fun run ↦
        { run with status := .cancelled, reason := some reason, terminalAt := some now }) }

def completeEvent (now : Timestamp) (code : String) (event : EventRow) : EventRow :=
  { event with
    status := .completed
    completedAt := some now
    updatedAt := now
    lastErrorCode := some code
    lastErrorMessage := none }

/-- Closes the events of cancelled runs that no job has taken up. -/
def suppressEvents (db : Db) (scheduleId : ScheduleId) (now : Timestamp) : Db :=
  { db with
    events := db.events.updateWhere
      (fun eventId event ↦
        (db.runs.any fun _ run ↦ run.eventId = some eventId ∧ run.scheduleId = scheduleId ∧
          run.status = .cancelled ∧ run.jobId = none) ∧
        event.source = .donaSchedule ∧
        [EventStatus.queued, .retryableFailed, .dispatching, .waitingAgent,
          .blocked].contains event.status)
      (completeEvent now "schedule_suppressed") }

/-- Closes the result notices that nobody has been authorized to post yet. -/
def suppressNotifications (db : Db) (scheduleId : ScheduleId) (now : Timestamp) : Db :=
  let unauthorized := fun completion : CompletionResult ↦
    completion.owner.scheduleId? = some scheduleId ∧ completion.notificationState = .pending ∧
      completion.notificationAuthorizationPhase = .none
  let events := db.events.updateWhere
    (fun eventId event ↦
      (db.completions.any fun _ completion ↦
        completion.notificationEventId = some eventId ∧ unauthorized completion) ∧
      event.source = .donaJob ∧
      [EventStatus.queued, .retryableFailed, .blocked].contains event.status)
    (completeEvent now "schedule_notification_suppressed")
  { db with
    events := events
    completions := db.completions.updateWhere
      (fun _ completion ↦ unauthorized completion ∧
        completion.notificationEventId.any fun eventId ↦ (events.get? eventId).any fun event ↦
          event.status = .completed ∧
            event.lastErrorCode = some "schedule_notification_suppressed")
      (fun completion ↦ { completion with notificationState := .none }) }

def suppress (db : Db) (scheduleId : ScheduleId) (now : Timestamp) (reason : RunReason) : Db :=
  let db := db.updateOutbox (fun _ row ↦ db.runOf scheduleId row.runId ∧ isUnsent row)
    (cancelUnsent now)
  let db := if reason = .authorizationExpired then db.capExpiringContent scheduleId else db
  let db := db.suppressRuns scheduleId now reason
  let db := db.suppressEvents scheduleId now
  db.suppressNotifications scheduleId now

/-! ### Retirement, expiry and completion -/

def retiredRevision (now : Timestamp) (row : Revision) : Revision :=
  let endedAt := row.terminalAt.getD (max (min row.expiresAt now) row.createdAt)
  let deadline := endedAt.add 604800
  { row with
    terminalAt := some endedAt
    contentDeleteAt := some
      (match row.contentDeleteAt with
        | some deleteAt => if deleteAt < deadline then deleteAt else deadline
        | none => deadline) }

/-- Retires one revision of a schedule, or all of them. -/
def retireRevisions (db : Db) (scheduleId : ScheduleId) (now : Timestamp)
    (revision : Option ℕ) : Db :=
  { db with
    revisions := db.revisions.updateWhere
      (fun key _ ↦ key.1 = scheduleId ∧ revision.all (· = key.2)) (retiredRevision now) }

def updateSchedule (db : Db) (scheduleId : ScheduleId) (f : Schedule → Schedule) : Db :=
  { db with schedules := db.schedules.updateKey scheduleId f }

def updateRun (db : Db) (runId : Uuid) (f : ScheduleRun → ScheduleRun) : Db :=
  { db with runs := db.runs.updateKey runId f }

/-- The same for a run that has not ended. -/
def updateLiveRun (db : Db) (runId : Uuid) (f : ScheduleRun → ScheduleRun) : Db :=
  { db with
    runs := db.runs.updateWhere
      (fun id run ↦ id = runId ∧ [RunStatus.materialized, .started].contains run.status) f }

/-- A result notice of the run is not settled. -/
def noticeIn (db : Db) (runId : Uuid) (states : List NotificationState) : Bool :=
  db.completions.any fun _ completion ↦
    completion.owner.runId? = some runId ∧ states.contains completion.notificationState

/-- A write of the run is unfinished or under review. -/
def writeUnsettled (db : Db) (runId : Uuid) : Bool :=
  db.outbox.any fun _ row ↦ row.runId = runId ∧
    [OutboxStatus.pending, .claimed, .requestStarted, .needsReview].contains row.status

def unsettledRun (db : Db) (states : List NotificationState) (runId : Uuid)
    (run : ScheduleRun) : Bool :=
  [RunStatus.materialized, .started, .needsReview].contains run.status ∨
    db.writeUnsettled runId ∨ db.noticeIn runId states

/-- The latest end of the runs of a schedule: `MAX(terminal_at)`. -/
def lastRunEnd (db : Db) (scheduleId : ScheduleId) : Option Timestamp :=
  (db.runs.select fun _ run ↦ run.scheduleId = scheduleId).foldl
    (fun best entry ↦
      match best, entry.2.terminalAt with
      | some a, some b => some (max a b)
      | none, b => b
      | a, none => a)
    none

def isDrainable (before : Schedule) (revision : Revision) : Bool :=
  [ScheduleState.active, .paused, .expired, .needsReview].contains before.state ∧
    before.nextDue = none ∧ before.highWatermark ≠ none ∧ revision.recurrence.kind = .once ∧
    ¬(before.state = .paused ∧ revision.terminalAt ≠ none)

def completeIfDrained (db : Db) (scheduleId : ScheduleId) (now : Timestamp) : Db :=
  match db.schedules.get? scheduleId with
  | none => db
  | some before =>
      match db.revision? scheduleId before.revision with
      | none => db
      | some revision =>
          if isDrainable before revision = false then db
          else if db.runs.any fun runId run ↦ run.scheduleId = scheduleId ∧
              db.unsettledRun [.pending, .failed, .needsReview] runId run then db
          else
            let completedAt := Timestamp.latest now
              [before.createdAt, before.updatedAt, before.terminalAt.getD before.createdAt,
                (db.lastRunEnd scheduleId).getD before.createdAt]
            (db.updateSchedule scheduleId fun row ↦
              { row with
                state := .completed
                terminalAt := some completedAt
                updatedAt := completedAt }).retireRevisions scheduleId completedAt none

/-- `before` is the row of the schedule that the caller has read. -/
def expireSchedule (db : Db) (scheduleId : ScheduleId) (before : Schedule) (now : Timestamp) :
    Db :=
  let expiredAt := Timestamp.latest now
    [before.createdAt, before.updatedAt, before.terminalAt.getD before.createdAt]
  let db := db.suppress scheduleId expiredAt .authorizationExpired
  let db := db.updateSchedule scheduleId fun row ↦
    { row with
      state := .expired
      updatedAt := expiredAt
      terminalAt := some (row.terminalAt.getD expiredAt) }
  let db := db.retireRevisions scheduleId expiredAt (some before.revision)
  db.completeIfDrained scheduleId expiredAt

/-- The current authorization of a schedule has expired while it could still be used. -/
def expireCurrent (db : Db) (scheduleId : ScheduleId) (current : Schedule)
    (now expiredAt : Timestamp) : Db :=
  if [ScheduleState.active, .paused].contains current.state ∧
      (db.revision? scheduleId current.revision).any (·.expiresAt ≤ now) then
    db.expireSchedule scheduleId current expiredAt
  else db

end Db

end Dona
