import Dona.Scheduler.Lifecycle

/-!
# Retention

`purge` expires what is over, deletes texts, redacts what a finished run has left in the
tables of the dispatcher, and at last deletes runs, schedules and revisions. The files it
deletes afterwards are not modelled.
-/

namespace Dona

open Fallible

/-- `{"kind":"schedule","owner_id":"deleted",…}` -/
def deletedOwner : JobOwner := .schedule "deleted" "deleted" "deleted" none 1

/-- `json_set(payload_json, '$.work.objective', '[deleted]')` -/
def EventPayload.redactObjective : EventPayload → EventPayload
  | scheduleDue runId revision occurrenceKey _ resultDestination authorizationTarget =>
      scheduleDue runId revision occurrenceKey (some "[deleted]") resultDestination
        authorizationTarget
  | payload => payload

/-- `json_remove(json_remove(payload_json, '$.result'), '$.error_message')` -/
def EventPayload.dropResult : EventPayload → EventPayload
  | jobNotice notice => jobNotice { notice with result := none, errorMessage := none }
  | payload => payload

def JobOwner.isSchedule : JobOwner → Bool
  | slackThread _ => false
  | schedule _ _ _ _ _ => true

namespace Db

/-- The rows whose current authorization has expired, in the order of the query. -/
def currentExpired (db : Db) (now : Timestamp) : List (ScheduleId × Schedule) :=
  db.schedules.select fun scheduleId row ↦
    [ScheduleState.active, .paused].contains row.state ∧
      (db.revision? scheduleId row.revision).any (·.expiresAt ≤ now)

def retireExpired (db : Db) (now : Timestamp) : Db :=
  { db with
    revisions := db.revisions.updateWhere
      (fun _ row ↦ row.expiresAt ≤ now ∧ row.terminalAt = none) (retiredRevision now) }

/-- Deletes the texts of revisions and writes that are due. -/
def purgeContents (db : Db) (now : Timestamp) : Db :=
  { db with
    revisions := db.revisions.updateWhere
      (fun _ row ↦ row.contentDeleteAt.any (· ≤ now) ∨ row.expiresAt ≤ now.add (-604800))
      (fun row ↦ { row with content := none })
    outbox := db.outbox.updateWhere (fun _ row ↦ row.contentDeleteAt.any (· ≤ now))
      (fun row ↦ { row with content := none }) }

/-- Some completion of the kind is due to be deleted, and none is kept longer. -/
def completionsDue (db : Db) (now : Timestamp) (scheduled : Bool)
    (ofKind : JobId → CompletionResult → Bool) : Bool :=
  (db.completions.any fun key completion ↦ ofKind key.1 completion ∧
      completion.contentDeleteAt ≤ now ∧ (scheduled = true → completion.owner.isSchedule)) ∧
    ¬db.completions.any fun key completion ↦ ofKind key.1 completion ∧
      now < completion.contentDeleteAt

def purgeJobContents (db : Db) (now : Timestamp) : Db :=
  { db with
    jobs := db.jobs.updateWhere
      (fun jobId _ ↦ db.completionsDue now true fun id _ ↦ id = jobId)
      (fun job ↦
        { job with result := none, objective := "[deleted]", lastErrorMessage := none }) }

def sourceIs (eventId : EventId) (_ : JobId) (completion : CompletionResult) : Bool :=
  completion.sourceEventId = eventId

def noticeIs (eventId : EventId) (_ : JobId) (completion : CompletionResult) : Bool :=
  completion.notificationEventId = some eventId

/-- The run of the event ended a week ago, or its review is a week old. -/
def eventRunOver (db : Db) (now : Timestamp) (eventId : EventId) (run : ScheduleRun) : Bool :=
  run.eventId = some eventId ∧
    (run.terminalAt.any (· ≤ now.add (-604800)) ∨
      db.eventReviews.any fun review ↦ review.1 = eventId ∧ review.2 ≤ now.add (-604800))

def redactObjective (event : EventRow) : EventRow :=
  { event with payload := event.payload.redactObjective, lastErrorMessage := none }

def dropResult (event : EventRow) : EventRow :=
  { event with
    payload := event.payload.dropResult
    result := none
    lastErrorMessage :=
      if event.lastErrorCode = some "operator_notification_reconcile_claimed" then
        event.lastErrorMessage
      else none }

def purgeEventContents (db : Db) (now : Timestamp) : Db :=
  { db with
    events :=
      (((db.events.updateWhere
        (fun eventId event ↦ event.source = .donaSchedule ∧
          db.completionsDue now true (sourceIs eventId)) redactObjective).updateWhere
        (fun eventId event ↦ event.source = .donaSchedule ∧
          db.runs.any fun _ run ↦ db.eventRunOver now eventId run) redactObjective).updateWhere
        (fun eventId _ ↦ db.runs.any fun _ run ↦ run.eventId = some eventId ∧
          (db.eventRunOver now eventId run ∨ db.completionsDue now false (sourceIs eventId)))
        (fun event ↦ { event with result := none })).updateWhere
        (fun eventId _ ↦ db.completionsDue now false (noticeIs eventId)) dropResult }

/-- The completion reports a run that ended a month ago, and its notice is settled. -/
def metadataDue (db : Db) (now : Timestamp) (completion : CompletionResult) : Bool :=
  ((completion.owner.runId?.bind db.runs.get?).any fun run ↦
      run.terminalAt.any (· ≤ now.add (-2592000))) ∧
    [NotificationState.pending, .failed, .needsReview].contains completion.notificationState = false

def redactMetadata (event : EventRow) : EventRow :=
  { event with subject := .text "{}", payload := .text "{}", replyTarget := none }

/-- Deletes the bindings of old runs, and what their events and completions say of them. -/
def purgeMetadata (db : Db) (now : Timestamp) : Db :=
  let ownerBindings := db.ownerBindings.deleteWhere fun jobId _ ↦
    db.completions.any fun key completion ↦ key.1 = jobId ∧ db.metadataDue now completion
  let eventBindings := db.eventBindings.deleteWhere fun eventId _ ↦
    db.completions.any fun _ completion ↦
      completion.sourceEventId = eventId ∧ db.metadataDue now completion
  let events := db.events.updateWhere
    (fun eventId _ ↦ db.completions.any fun _ completion ↦
      (completion.sourceEventId = eventId ∨ completion.notificationEventId = some eventId) ∧
        db.metadataDue now completion)
    redactMetadata
  let completions := db.completions.updateWhere
    (fun _ completion ↦ db.metadataDue now completion)
    (fun completion ↦ { completion with destination := .none })
  { db with
    ownerBindings := ownerBindings
    eventBindings := eventBindings
    events := events
    completions := completions.updateWhere
      (fun key completion ↦ db.metadataDue now completion ∧
        (db.jobs.get? key.1).all (·.herdrWorkspaceId = none))
      (fun completion ↦ { completion with owner := deletedOwner }) }

/-- A run may be deleted: nothing it started is open, unresolved or younger than a month. -/
def runDue (db : Db) (now : Timestamp) (runId : Uuid) (run : ScheduleRun) : Bool :=
  run.terminalAt.any (· ≤ now.add (-2592000)) ∧
    (¬db.outbox.any fun _ row ↦ row.runId = runId ∧
      row.terminalAt.all (now.add (-2592000) < ·)) ∧
    db.noticeIn runId [.pending, .failed, .needsReview] = false ∧
    ¬db.completions.any fun key completion ↦ completion.owner.runId? = some runId ∧
      (db.jobs.get? key.1).any (·.herdrWorkspaceId ≠ none)

/-- Deletes the runs that are due; their writes go with them. -/
def purgeRuns (db : Db) (now : Timestamp) : Db :=
  { db with
    runs := db.runs.deleteWhere fun runId run ↦ db.runDue now runId run
    outbox := db.outbox.deleteWhere fun _ row ↦
      (db.runs.get? row.runId).any fun run ↦ db.runDue now row.runId run }

/-- A schedule without runs may be deleted a month after its end. -/
def scheduleDue (db : Db) (now : Timestamp) (scheduleId : ScheduleId) (row : Schedule) : Bool :=
  row.terminalAt.any (· ≤ now.add (-2592000)) ∧
    ¬db.runs.any fun _ run ↦ run.scheduleId = scheduleId

/-- Deletes the schedules that are due; their claims and revisions go with them. -/
def purgeSchedules (db : Db) (now : Timestamp) : Db :=
  let isDue : ScheduleId → Bool := fun scheduleId ↦
    (db.schedules.get? scheduleId).any fun row ↦ db.scheduleDue now scheduleId row
  { db with
    schedules := db.schedules.deleteWhere fun scheduleId row ↦ db.scheduleDue now scheduleId row
    claims := db.claims.deleteWhere fun scheduleId _ ↦ isDue scheduleId
    revisions := db.revisions.deleteWhere fun key _ ↦ isDue key.1 }

def purgeRevisions (db : Db) (now : Timestamp) : Db :=
  { db with
    revisions := db.revisions.deleteWhere fun key row ↦
      row.content = none ∧ row.terminalAt.any (· ≤ now.add (-2592000)) ∧
        ((db.schedules.get? key.1).all (·.revision ≠ key.2)) ∧
        ¬db.runs.any fun _ run ↦ run.scheduleId = key.1 ∧ run.revision = key.2 }

/-- Old reviews leave the audit trail, and old nonces their table. -/
def purgeTrails (db : Db) (now : Timestamp) : Db :=
  { db with
    eventReviews := db.eventReviews.filter fun review ↦ now.add (-7776000) < review.2
    accessNonces := db.accessNonces.deleteWhere fun _ nonce ↦ nonce.2 ≤ now.add (-86400) }

def purge (now : Timestamp) (db : Db) : Except String (Unit × Db) := do
  utc now
  let db := ((db.expireAll now (db.currentExpired now)).retireExpired now).purgeContents now
  let db := (db.purgeJobContents now).purgeEventContents now
  let db := (db.purgeMetadata now).purgeTrails now
  .ok ((), ((db.purgeRuns now).purgeSchedules now).purgeRevisions now)

end Db

end Dona
