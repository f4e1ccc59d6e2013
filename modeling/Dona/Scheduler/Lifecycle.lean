import Dona.Dispatcher.Events
import Dona.Scheduler.Support

/-!
# The life of a schedule

Creation, update, pause, resume and cancellation of schedules, the claims of the scheduler
loop, and the materialization of occurrences.
-/

namespace Dona

open Fallible

namespace Db

def create (env : Env) (scheduleId : ScheduleId) (input : RevisionInput) (nextDue : Timestamp)
    (actor : Actor) (now : Timestamp) (db : Db) : Except String (Schedule × Db) := do
  identity scheduleId
  identity actor.actorId
  identity actor.tenantId
  utc nextDue
  utc now
  (actor.sourceEventId.elim (.ok ()) identity)
  throwIf (actor.role ≠ .owner ∨ nextDue ≤ now) "invalid_creation"
  validateRevision env input actor.actorId actor.tenantId now
  throwIf (input.authorizationRevision ≠ 1) "authorization_revision_conflict"
  db.quota actor.tenantId actor.actorId
  let row : Schedule :=
    { tenantId := actor.tenantId
      ownerId := actor.actorId
      state := .active
      revision := 1
      nextDue := some nextDue
      createdAt := now
      updatedAt := now }
  let schedules ← orThrow (db.schedules.insert? scheduleId row)
    "UNIQUE constraint failed: schedules.schedule_id"
  let db ← ({ db with schedules := schedules } : Db).insertRevision scheduleId 1
    (input.row env now)
  .ok (row, db)

/-- A run of the schedule, its job, its write or its notice waits for an operator. -/
def updateBlocked (db : Db) (scheduleId : ScheduleId) : Bool :=
  db.runs.any fun runId run ↦ run.scheduleId = scheduleId ∧
    (run.status = .needsReview ∨
      ((run.jobId.bind db.jobs.get?).any (·.status = .needsReview)) ∨
      (db.outbox.any fun _ row ↦ row.runId = runId ∧ row.status = .needsReview) ∨
      db.noticeIn runId [.pending, .failed, .needsReview])

def authorizationReused (db : Db) (scheduleId : ScheduleId) (sourceEventId : EventId) : Bool :=
  db.revisions.any fun key row ↦ key.1 = scheduleId ∧
    (row.authorizationId = sourceEventId ∨
      (sourceEventId.toList ++ [':']).isPrefixOf row.authorizationId.toList)

/-- An updated schedule fires again, under its next revision. -/
def updatedRow (nextDue updateAt : Timestamp) (row : Schedule) : Schedule :=
  { row with
    revision := row.revision + 1
    state := .active
    nextDue := some nextDue
    updatedAt := updateAt
    terminalAt := none }

def update (env : Env) (scheduleId : ScheduleId) (expectedRevision : ℕ) (input : RevisionInput)
    (nextDue : Timestamp) (actor : Actor) (now : Timestamp) (db : Db) :
    Except String (Unit × Db) := do
  utc now
  utc nextDue
  let before ← db.checked scheduleId expectedRevision actor true
  let updateAt := Timestamp.latest now
    [before.createdAt, before.updatedAt, before.terminalAt.getD before.createdAt]
  throwIf ([ScheduleState.active, .paused, .expired, .needsReview].contains before.state = false ∨
    nextDue ≤ updateAt) "invalid_transition"
  throwIf (before.highWatermark.any (nextDue ≤ ·) = true) "invalid_next_due"
  throwIf (db.updateBlocked scheduleId = true) "reconcile_required"
  validateRevision env input before.ownerId before.tenantId updateAt
  throwIf (input.authorizationRevision ≠ expectedRevision + 1 ∨
    db.authorizationReused scheduleId (authorizationEventId input.authorizationId) = true)
    "authorization_revision_conflict"
  let db := db.suppress scheduleId updateAt .revisionReplaced
  let db := db.retireRevisions scheduleId updateAt (some expectedRevision)
  let db ← db.insertRevision scheduleId (expectedRevision + 1) (input.row env updateAt)
  .ok ((), db.updateSchedule scheduleId (updatedRow nextDue updateAt))

/-! ### Pause, resume and cancel -/

inductive TransitionOperation
  | pause | resume | cancel
  deriving DecidableEq

/-- `tool LIKE '%.post_message'` -/
def isPostMessage (tool : String) : Bool :=
  let suffix := (tool.toList.map Char.toLower).reverse.take 13
  suffix.drop 8 = ['t', 's', 'o', 'p', '.'] ∧
    suffix.take 7 = ['e', 'g', 'a', 's', 's', 'e', 'm']

/-- A result notice of the schedule may have been posted and nobody has settled it. -/
def postUnsettled (db : Db) (scheduleId : ScheduleId) : Bool :=
  db.completions.any fun _ completion ↦
    (completion.owner.runId?.any (db.runOf scheduleId)) ∧
      completion.notificationState = .needsReview ∧
      ((completion.notificationEventId.bind db.events.get?).any fun event ↦
        completion.notificationAuthorizationPhase = .write ∨
          event.result.any fun result ↦ result.actions.any (isPostMessage ·.tool))

/-- The notice is one of the schedule, in one of the states, and not yet authorized to post. -/
def unpostedNotice (db : Db) (scheduleId : ScheduleId) (states : List NotificationState)
    (completion : CompletionResult) : Bool :=
  completion.owner.runId?.any (db.runOf scheduleId) ∧
    states.contains completion.notificationState ∧
    completion.notificationAuthorizationPhase ≠ .write

def updateEventsOfNotices (db : Db) (p : CompletionResult → Bool) (q : EventStatus → Bool)
    (f : EventRow → EventRow) : Db :=
  { db with
    events := db.events.updateWhere
      (fun eventId event ↦
        (db.completions.any fun _ completion ↦
          completion.notificationEventId = some eventId ∧ p completion) ∧ q event.status) f }

/-- Rewrites the state of the notices that satisfy `p` and whose event satisfies `q`. -/
def updateNotices (db : Db) (p : CompletionResult → Bool) (q : EventRow → Bool)
    (state : NotificationState) : Db :=
  { db with
    completions := db.completions.updateWhere
      (fun _ completion ↦ p completion ∧
        (completion.notificationEventId.bind db.events.get?).any q)
      (fun completion ↦ { completion with notificationState := state }) }

/-- What a pause or a cancellation does to the notices: an unposted notice that is not being
dispatched is closed, one that is being dispatched is left for review. -/
def closeNotices (db : Db) (scheduleId : ScheduleId) (now : Timestamp) : Db :=
  let db := db.updateEventsOfNotices (db.unpostedNotice scheduleId [.needsReview])
    (fun status ↦ [EventStatus.queued, .retryableFailed, .blocked].contains status)
    (completeEvent now "schedule_notification_suppressed")
  let db := db.updateNotices (db.unpostedNotice scheduleId [.needsReview])
    (fun event ↦ event.status = .completed ∧
      event.lastErrorCode = some "schedule_notification_suppressed") .none
  let db := db.updateEventsOfNotices (db.unpostedNotice scheduleId [.pending, .needsReview])
    (fun status ↦ [EventStatus.dispatching, .waitingAgent, .needsReview].contains status)
    (fun event ↦
      { event with
        status := .needsReview
        updatedAt := now
        lastErrorCode := some "notification_delivery_ambiguous"
        lastErrorMessage := none })
  db.updateNotices
    (fun completion ↦ completion.owner.runId?.any (db.runOf scheduleId) ∧
      completion.notificationState = .pending)
    (fun event ↦ event.status = .needsReview ∧
      event.lastErrorCode = some "notification_delivery_ambiguous") .needsReview

/-- The authorization of a revision has expired, or its text is gone. -/
def unusable (revision : Revision) (now : Timestamp) : Bool :=
  revision.expiresAt ≤ now ∨ revision.content = none ∨ revision.contentDeleteAt.any (· ≤ now)

/-- The instant of a transition: not before anything the schedule has recorded. -/
def transitionInstant (db : Db) (scheduleId : ScheduleId) (before : Schedule) (now : Timestamp) :
    Timestamp :=
  let runs := db.runs.select fun _ run ↦ run.scheduleId = scheduleId
  let outboxes := db.outbox.select fun _ row ↦ db.runOf scheduleId row.runId
  Timestamp.latest now
    ([before.createdAt, before.updatedAt, before.terminalAt.getD before.createdAt] ++
      runs.flatMap (fun entry ↦ [entry.2.createdAt, entry.2.startedAt.getD entry.2.createdAt,
        entry.2.terminalAt.getD entry.2.createdAt]) ++
      outboxes.flatMap fun entry ↦ [entry.2.createdAt, entry.2.updatedAt,
        entry.2.requestStartedAt.getD entry.2.createdAt,
        entry.2.terminalAt.getD entry.2.createdAt, entry.2.leaseUntil.getD entry.2.createdAt])

def releaseClaim (db : Db) (scheduleId : ScheduleId) : Db :=
  { db with
    claims := db.claims.updateKey scheduleId fun claim ↦
      { claim with claimOwner := none, claimUntil := none } }

def TransitionOperation.state : TransitionOperation → ScheduleState
  | pause => .paused
  | resume => .active
  | cancel => .cancelled

/-- A cancellation under an authorization that has expired keeps the revision. -/
def cancelUnusable (db : Db) (scheduleId : ScheduleId) (transitionAt : Timestamp) : Db :=
  let db := db.suppress scheduleId transitionAt .cancelled
  let db := db.updateSchedule scheduleId fun row ↦
    { row with
      state := .cancelled
      updatedAt := transitionAt
      terminalAt := some transitionAt }
  let db := db.retireRevisions scheduleId transitionAt none
  db.completeIfDrained scheduleId transitionAt

def advancedRow (operation : TransitionOperation) (revision : ℕ) (transitionAt : Timestamp)
    (row : Schedule) : Schedule :=
  { row with
    state := operation.state
    revision := revision + 1
    updatedAt := transitionAt
    terminalAt := if operation = .cancel then some transitionAt else none }

/-- Every other transition copies the revision under the next number. -/
def advanceRevision (db : Db) (scheduleId : ScheduleId) (old : Revision) (revision : ℕ)
    (operation : TransitionOperation) (transitionAt : Timestamp) : Except String Db := do
  let db ← db.insertRevision scheduleId (revision + 1) { old with createdAt := transitionAt }
  let db := db.retireRevisions scheduleId transitionAt (some revision)
  let db := db.updateSchedule scheduleId (advancedRow operation revision transitionAt)
  let db := db.releaseClaim scheduleId
  let db := if operation = .resume then db else db.suppress scheduleId transitionAt .cancelled
  let db := if operation = .cancel then db.retireRevisions scheduleId transitionAt none else db
  .ok (db.completeIfDrained scheduleId transitionAt)

def transition (scheduleId : ScheduleId) (expectedRevision : ℕ)
    (operation : TransitionOperation) (actor : Actor) (now : Timestamp) (db : Db) :
    Except String (Unit × Db) := do
  utc now
  let before ← db.checked scheduleId expectedRevision actor (operation = .resume)
  throwIf (db.postUnsettled scheduleId = true) "reconcile_required"
  throwIf ((operation = .pause ∧ before.state ≠ .active) ∨
    (operation = .resume ∧ before.state ≠ .paused) ∨
    (operation = .cancel ∧ (before.state = .cancelled ∨ before.state = .completed)))
    "invalid_transition"
  let old ← orThrow (db.revision? scheduleId before.revision) "schedule_revision_missing"
  let transitionAt := db.transitionInstant scheduleId before now
  let db := if operation = .resume then db else db.closeNotices scheduleId transitionAt
  throwIf (operation = .resume ∧ (old.terminalAt ≠ none ∨ unusable old now = true))
    "authorization_expired"
  if unusable old now then
    if operation = .cancel then .ok ((), db.cancelUnusable scheduleId transitionAt)
    else .ok ((), db.expireSchedule scheduleId before transitionAt)
  else do
    let db ← db.advanceRevision scheduleId old expectedRevision operation transitionAt
    .ok ((), db)

/-! ### The scheduler loop -/

/-- `ORDER BY next_due, schedule_id` -/
def dueBefore (a b : ScheduleId × Schedule) : Bool :=
  a.2.nextDue.any fun due ↦ b.2.nextDue.any fun otherDue ↦
    due < otherDue ∨ (due = otherDue ∧ a.1 < b.1)

def claimDue (owner : String) (now : Timestamp) (leaseSeconds : ℕ)
    (excludedScheduleIds : List ScheduleId) (db : Db) :
    Except String (Option ScheduleId × Db) := do
  identity owner
  utc now
  throwIf (leaseSeconds < 1 ∨ 300 < leaseSeconds) "invalid_lease"
  throwIf (100 < excludedScheduleIds.length) "invalid_limit"
  let isDue : ScheduleId → Schedule → Bool := fun scheduleId row ↦
    row.state = .active ∧ row.nextDue.any (· ≤ now) ∧
      (((db.claims.get? scheduleId).bind (·.claimUntil)).all (· ≤ now)) ∧
      excludedScheduleIds.contains scheduleId = false
  match db.schedules.first? isDue dueBefore with
  | none => .ok (none, db)
  | some (scheduleId, _) =>
      let held : ScheduleClaim := ⟨some owner, some (now.add leaseSeconds), 1⟩
      let claims := (db.claims.insert? scheduleId held).getD
        (db.claims.updateWhere
          (fun id claim ↦ id = scheduleId ∧ claim.claimUntil.all (· ≤ now))
          (fun claim ↦ { held with claimFence := claim.claimFence + 1 }))
      .ok (some scheduleId, { db with claims := claims })

def releaseClaims (owner : String) (now : Timestamp) (db : Db) : Except String (Unit × Db) := do
  identity owner
  utc now
  .ok ((), { db with
    claims := db.claims.updateWhere (fun _ claim ↦ claim.claimOwner = some owner)
      (fun claim ↦ { claim with claimOwner := none, claimUntil := none }) })

/-- Expires the schedules of a list, with the rows the caller has read. -/
def expireAll (db : Db) (now : Timestamp) (rows : List (ScheduleId × Schedule)) : Db :=
  rows.foldl (fun db entry ↦ db.expireSchedule entry.1 entry.2 now) db

def expireDue (now : Timestamp) (limit : ℕ) (db : Db) : Except String (Unit × Db) := do
  utc now
  throwIf (limit < 1 ∨ 100 < limit) "invalid_limit"
  let due := db.schedules.select fun scheduleId row ↦
    row.state = .active ∧ row.nextDue.any (· ≤ now) ∧
      (db.revision? scheduleId row.revision).any (·.expiresAt ≤ now)
  .ok ((), db.expireAll now ((due.mergeSort fun a b ↦ !dueBefore b a).take limit))

/-! ### Materialization -/

structure MaterializeClaim where
  owner : String
  fence : ℕ
  occurrenceKey : String

structure CompactSkip where
  first : Timestamp
  through : Timestamp
  count : ℕ

inductive SkipReason
  | misfire | overlap
  deriving DecidableEq

def SkipReason.runReason : SkipReason → RunReason
  | misfire => .misfire
  | overlap => .overlap

structure MaterializeResult where
  runId : Uuid
  duplicate : Bool

def claimConflict (db : Db) (scheduleId : ScheduleId) (claim : MaterializeClaim)
    (now : Timestamp) : Bool :=
  match db.claims.get? scheduleId with
  | none => true
  | some stored =>
      stored.claimOwner ≠ some claim.owner ∨ stored.claimFence ≠ claim.fence ∨
        stored.claimUntil.all (· ≤ now)

def releaseIfClaimed (db : Db) (scheduleId : ScheduleId) (claim : Option MaterializeClaim) : Db :=
  if claim.isSome then db.releaseClaim scheduleId else db

/-- A compact skip covers the missed occurrences from the due one to the one before
`scheduledFor`. -/
def checkCompactSkip (before : Schedule) (revision : Revision) (scheduledFor : Timestamp)
    (compactSkip : Option CompactSkip) (materializedAt : Timestamp) : Except String Unit :=
  if before.nextDue = some scheduledFor then
    throwIf (compactSkip.isSome = true) "invalid_compact_skip"
  else do
    throwIf (revision.recurrence.kind = .once) "compact_skip_required"
    let skip ← orThrow compactSkip "compact_skip_required"
    utc skip.first
    utc skip.through
    throwIf (some skip.first ≠ before.nextDue ∨ skip.through < skip.first ∨
      scheduledFor ≤ skip.through ∨
      materializedAt.millis - skip.through.millis ≤ 900000 ∨ maxSafeInteger < skip.count ∨
      skip.count < 1) "invalid_compact_skip"

end Db

/-- The workspace and the channel of a reply target. -/
def ReplyTarget.channel? : ReplyTarget → Option (String × String)
  | slackThread thread => some (thread.workspaceId, thread.channelId)
  | target .none => none
  | target (.thread workspaceId channelId _) => some (workspaceId, channelId)
  | target (.channel workspaceId channelId) => some (workspaceId, channelId)
  | target (.ownerDm workspaceId channelId _) => some (workspaceId, channelId)

namespace Db

/-- The due event of a work run, and the binding of its job to the schedule. -/
def enqueueDue (scheduleId : ScheduleId) (before : Schedule) (revision : Revision) (runId : Uuid)
    (expectedRevision : ℕ) (occurrenceKey : OccurrenceKey) (scheduledFor materializedAt : Timestamp)
    (db : Db) : Except String Db := do
  let authorizationTarget :=
    ((db.events.get? (authorizationEventId revision.authorizationId)).bind (·.replyTarget)).bind
      ReplyTarget.channel?
  let (result, db) ← db.enqueue
    { source := .donaSchedule
      externalEventId := .schedule scheduleId scheduledFor
      type := "schedule_due"
      occurredAt := scheduledFor
      subject := .schedule before.tenantId before.ownerId scheduleId
      payload := .scheduleDue runId expectedRevision occurrenceKey revision.content
        revision.target authorizationTarget
      replyTarget := none } (.toIso materializedAt.millis)
  throwIf (result.duplicate = true ∨ result.payloadMismatch = true) "event_idempotency_conflict"
  let db := db.updateRun runId fun run ↦ { run with eventId := some result.eventId }
  db.insertEventJobBinding result.eventId
    { owner := .schedule before.tenantId before.ownerId scheduleId (some runId) expectedRevision
      destination := if revision.target = .none then .none else .workResult revision.target }

/-- The write or the event of a run that is not skipped. -/
def startOccurrence (env : Env) (scheduleId : ScheduleId) (before : Schedule)
    (revision : Revision) (runId : Uuid) (expectedRevision : ℕ) (occurrenceKey : OccurrenceKey)
    (scheduledFor materializedAt : Timestamp) (db : Db) : Except String Db :=
  match revision.action with
  | .reminderPost =>
      db.insertOutbox env runId .reminderPost revision.target (revision.content.getD "")
        materializedAt
  | .workReadOnly =>
      db.enqueueDue scheduleId before revision runId expectedRevision occurrenceKey scheduledFor
        materializedAt

/-- Why an occurrence is skipped: it is too late, or an earlier run is not settled. -/
def skipReason (db : Db) (scheduleId : ScheduleId) (scheduledFor materializedAt : Timestamp) :
    Option SkipReason :=
  if 900000 < materializedAt.millis - scheduledFor.millis then some .misfire
  else if db.runs.any fun runId run ↦ run.scheduleId = scheduleId ∧
      db.unsettledRun [.pending, .needsReview] runId run then some .overlap
  else none

/-- The schedule after an occurrence: its watermark and its next date. -/
def occurredRow (scheduledFor : Timestamp) (nextDue : Option Timestamp)
    (materializedAt : Timestamp) (row : Schedule) : Schedule :=
  { row with
    highWatermark := some scheduledFor
    nextDue := nextDue
    updatedAt := materializedAt }

/-- Records the run of an occurrence and starts it unless it is skipped. -/
def recordOccurrence (env : Env) (scheduleId : ScheduleId) (before : Schedule)
    (revision : Revision) (expectedRevision : ℕ) (scheduledFor : Timestamp)
    (nextDue : Option Timestamp) (materializedAt : Timestamp) (skip : Option SkipReason)
    (claim : Option MaterializeClaim) (db : Db) : Except String (MaterializeResult × Db) := do
  let reason := db.skipReason scheduleId scheduledFor materializedAt
  throwIf (skip.isSome ∧ skip ≠ reason) "invalid_skip_reason"
  let runId := db.nextUuid
  let occurrenceKey := (claim.map fun held ↦ OccurrenceKey.text held.occurrenceKey).getD
    (.instant scheduledFor)
  throwIf (db.runs.any fun _ run ↦ run.scheduleId = scheduleId ∧
    run.occurrenceKey = occurrenceKey)
    "UNIQUE constraint failed: schedule_runs.schedule_id, schedule_runs.occurrence_key"
  let runs ← orThrow (db.runs.insert? runId
    { scheduleId := scheduleId
      revision := expectedRevision
      occurrenceKey := occurrenceKey
      scheduledFor := scheduledFor
      status := if reason.isSome then .skipped else .materialized
      reason := reason.map (·.runReason)
      createdAt := materializedAt
      terminalAt := if reason.isSome then some materializedAt else none })
    "UNIQUE constraint failed: schedule_runs.run_id"
  let db : Db := { db with runs := runs, nextUuid := db.nextUuid + 1 }
  let db ← (if reason.isSome then .ok db
    else db.startOccurrence env scheduleId before revision runId expectedRevision occurrenceKey
      scheduledFor materializedAt)
  let db := db.updateSchedule scheduleId (occurredRow scheduledFor nextDue materializedAt)
  let db := db.releaseIfClaimed scheduleId claim
  .ok (⟨runId, false⟩, db.completeIfDrained scheduleId materializedAt)

/-- An occurrence that has no run yet. -/
def materializeNew (env : Env) (scheduleId : ScheduleId) (before : Schedule)
    (expectedRevision : ℕ) (scheduledFor : Timestamp) (nextDue : Option Timestamp)
    (materializedAt : Timestamp) (skip : Option SkipReason) (compactSkip : Option CompactSkip)
    (claim : Option MaterializeClaim) (db : Db) :
    Except String (Option MaterializeResult × Db) := do
  throwIf (before.revision ≠ expectedRevision) "revision_conflict"
  throwIf (nextDue.any (fun due ↦ due ≤ scheduledFor ∨ due ≤ materializedAt) = true)
    "invalid_next_due"
  throwIf (before.state ≠ .active ∨ materializedAt < scheduledFor ∨
    before.nextDue.all (scheduledFor < ·) = true ∨
    before.highWatermark.any (scheduledFor ≤ ·) = true) "invalid_occurrence"
  let revision ← orThrow (db.revision? scheduleId before.revision) "schedule_revision_missing"
  throwIf (nextDue = none ∧ revision.recurrence.kind ≠ .once) "invalid_next_due"
  checkCompactSkip before revision scheduledFor compactSkip materializedAt
  if revision.expiresAt ≤ materializedAt ∨ revision.content = none then
    .ok (none, db.expireSchedule scheduleId before materializedAt)
  else do
    let (result, db) ← db.recordOccurrence env scheduleId before revision expectedRevision
      scheduledFor nextDue materializedAt skip claim
    .ok (some result, db)

/-- `none` is the refusal `authorization_expired`, thrown after the expiry is committed. -/
def materialize (env : Env) (scheduleId : ScheduleId) (expectedRevision : ℕ)
    (scheduledFor : Timestamp) (nextDue : Option Timestamp) (now : Timestamp) (actor : Actor)
    (skip : Option SkipReason) (compactSkip : Option CompactSkip)
    (claim : Option MaterializeClaim) (db : Db) :
    Except String (Option MaterializeResult × Db) := do
  utc now
  utc scheduledFor
  (nextDue.elim (.ok ()) utc)
  let current ← orThrow (db.schedules.get? scheduleId) "schedule_not_found"
  let before ← db.checked scheduleId current.revision actor false
  let materializedAt := Timestamp.latest now
    [before.createdAt, before.updatedAt, before.terminalAt.getD before.createdAt]
  throwIf (claim.any (db.claimConflict scheduleId · now) = true) "claim_conflict"
  match db.runs.find? fun _ run ↦
      run.scheduleId = scheduleId ∧ run.scheduledFor = scheduledFor with
  | some (runId, _) => .ok (some ⟨runId, true⟩, db.releaseIfClaimed scheduleId claim)
  | none =>
      db.materializeNew env scheduleId before expectedRevision scheduledFor nextDue
        materializedAt skip compactSkip claim

end Db

end Dona
