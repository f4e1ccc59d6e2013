import Dona.Scheduler.Lifecycle

/-!
# The runs of a schedule

The state of a run, and the operations the dispatcher calls when a job result is saved or a
result notice is settled: they take a run out of review, resume its schedule, or leave both
for an operator.
-/

namespace Dona

open Fallible

namespace Db

inductive RunTarget
  | started | completed | failed | cancelled
  deriving DecidableEq

def RunTarget.status : RunTarget → RunStatus
  | started => .started
  | completed => .completed
  | failed => .failed
  | cancelled => .cancelled

def validRunTransition (expected : RunStatus) (next : RunTarget) : Bool :=
  match expected with
  | .materialized => [RunTarget.started, .cancelled, .failed].contains next
  | .started => [RunTarget.completed, .failed, .cancelled].contains next
  | _ => false

/-- Why a run may not be started any more, if there is a reason. -/
def startRefusal (current : Schedule) (run : ScheduleRun) (snapshot : Revision)
    (transitionAt : Timestamp) : Option RunReason :=
  if current.state ≠ .active ∨ current.revision ≠ run.revision then some .cancelled
  else if snapshot.expiresAt ≤ transitionAt then some .authorizationExpired
  else if 900000 < transitionAt.millis - run.scheduledFor.millis then some .misfire
  else none

/-- Cancels the writes of a run that have not been sent. -/
def cancelUnsentOf (db : Db) (runId : Uuid) (now : Timestamp) : Db :=
  db.updateOutbox (fun _ row ↦ row.runId = runId ∧ isUnsent row) (cancelUnsent now)

def refuseStart (db : Db) (runId : Uuid) (run : ScheduleRun) (current : Schedule)
    (reason : RunReason) (now transitionAt : Timestamp) : Db :=
  let db := if reason = .authorizationExpired then db.expireSchedule run.scheduleId current now
    else db
  let db := db.updateRun runId fun run ↦
    { run with
      status := if reason = .misfire then .skipped else .cancelled
      reason := some reason
      terminalAt := some transitionAt }
  (db.cancelUnsentOf runId transitionAt).completeIfDrained run.scheduleId transitionAt

def checkJobReference (db : Db) (run : ScheduleRun) (jobId : Option JobId) : Except String Unit :=
  match jobId with
  | none => .ok ()
  | some jobId => do
      let job ← orThrow (db.jobs.get? jobId) "job_reference_conflict"
      throwIf (run.eventId ≠ some job.sourceEventId ∨ run.jobId.any (· ≠ jobId) = true)
        "job_reference_conflict"

/-- The direct notice of a completed run. -/
def notifyResult (env : Env) (runId : Uuid) (target : Target) (resultContent : Option String)
    (now : Timestamp) (db : Db) : Except String Db := do
  let result ← orThrow resultContent "result_content_required"
  let content ← truncateResultContent env result
  db.insertOutbox env runId .workResultPost target content now

def failureNotice : String := "scheduled workが失敗しました"

/-- The unsent writes of a run that a failure or a cancellation of the run cancels. -/
def suppressedOf (db : Db) (runId : Uuid) (next : RunTarget) : List (Uuid × Outbox) :=
  if next = .cancelled ∨ next = .failed then
    db.outbox.select fun _ row ↦ row.runId = runId ∧ isUnsent row
  else []

/-- The run in its new state, and what its schedule becomes. -/
def settleRunState (db : Db) (runId : Uuid) (run : ScheduleRun) (current : Schedule)
    (next : RunTarget) (jobId : Option JobId) (operationAt : Timestamp) : Db :=
  let db := db.updateRun runId fun run ↦
    { run with
      status := next.status
      reason := if next = .cancelled then some .cancelled else run.reason
      jobId := jobId.or run.jobId
      startedAt := if next = .started then some operationAt else run.startedAt
      terminalAt := if next = .started then none else some operationAt }
  (db.expireCurrent run.scheduleId current operationAt operationAt).completeIfDrained
    run.scheduleId operationAt

/-- An accepted change of the state of a run. -/
def applyRunState (env : Env) (runId : Uuid) (run : ScheduleRun) (current : Schedule)
    (snapshot : Revision) (next : RunTarget) (transitionAt : Timestamp) (jobId : Option JobId)
    (resultContent : Option String) (notificationAt : Option Timestamp)
    (routeResultViaDona : Bool) (db : Db) : Except String Db := do
  db.checkJobReference run jobId
  throwIf (next = .started ∧ jobId = none) "job_reference_required"
  let notifies : Bool := snapshot.target ≠ .none ∧ transitionAt < snapshot.expiresAt ∧
    current.state = .active ∧ current.revision = run.revision ∧ routeResultViaDona = false
  let workCompletion : Bool := next = .completed ∧ snapshot.action = .workReadOnly
  throwIf (resultContent.isSome ∧ workCompletion = false) "result_not_authorized"
  let db ← (if workCompletion ∧ notifies then
      db.notifyResult env runId snapshot.target resultContent (notificationAt.getD transitionAt)
    else .ok db)
  let suppressed := db.suppressedOf runId next
  let operationAt := Timestamp.latest transitionAt (suppressed.flatMap fun entry ↦
    [entry.2.createdAt, entry.2.updatedAt, entry.2.leaseUntil.getD entry.2.createdAt])
  let db := if suppressed.isEmpty then db else db.cancelUnsentOf runId operationAt
  let db ← (if next = .failed ∧ snapshot.action = .workReadOnly ∧ notifies then
      db.insertOutbox env runId .workResultPost snapshot.target failureNotice
        (notificationAt.getD operationAt)
    else .ok db)
  .ok (db.settleRunState runId run current next jobId operationAt)

/-- `none` is the refusal `run_not_authorized`, thrown after the run has been ended. -/
def setRunState (env : Env) (runId : Uuid) (expected : RunStatus) (next : RunTarget)
    (actor : Actor) (now : Timestamp) (jobId : Option JobId) (resultContent : Option String)
    (notificationAt : Option Timestamp) (routeResultViaDona : Bool) (db : Db) :
    Except String (Option Unit × Db) := do
  utc now
  (jobId.elim (.ok ()) identity)
  let run ← orThrow (db.runs.get? runId) "run_conflict"
  throwIf (run.status ≠ expected) "run_conflict"
  let current ← orThrow (db.schedules.get? run.scheduleId) "schedule_missing"
  let _ ← db.checked run.scheduleId current.revision actor false
  throwIf (validRunTransition expected next = false) "invalid_transition"
  let snapshot ← orThrow (db.revision? run.scheduleId run.revision) "schedule_revision_missing"
  let transitionAt := Timestamp.latest now
    [run.createdAt, run.startedAt.getD run.createdAt, run.terminalAt.getD run.createdAt,
      current.createdAt, current.updatedAt, current.terminalAt.getD current.createdAt]
  throwIf ((next = .started ∨ next = .completed) ∧ snapshot.action ≠ .workReadOnly)
    "invalid_transition"
  match (if next = .started then startRefusal current run snapshot transitionAt else none) with
  | some reason => .ok (none, db.refuseStart runId run current reason now transitionAt)
  | none => do
      let db ← db.applyRunState env runId run current snapshot next transitionAt jobId
        resultContent notificationAt routeResultViaDona
      .ok (some (), db)

/-! ### Reviews of work runs -/

def markWorkRunNeedsReview (runId : Uuid) (jobId : JobId) (now : Timestamp)
    (sourceEventId : EventId) (db : Db) : Except String (Unit × Db) := do
  utc now
  identity jobId
  identity sourceEventId
  let run ← orThrow (db.runs.get? runId) "job_reference_conflict"
  throwIf ([RunStatus.started, .needsReview].contains run.status = false ∨
    run.jobId ≠ some jobId ∨ run.eventId ≠ some sourceEventId) "job_reference_conflict"
  if run.status = .needsReview then .ok ((), db)
  else do
    let before ← orThrow (db.schedules.get? run.scheduleId) "schedule_missing"
    let reviewAt := Timestamp.latest now
      [run.createdAt, run.startedAt.getD run.createdAt, before.createdAt, before.updatedAt]
    let db := db.updateRun runId fun run ↦
      { run with status := .needsReview, reason := some .ambiguousWrite }
    if run.revision = before.revision then
      let db := db.suppress run.scheduleId reviewAt .cancelled
      let db := db.updateSchedule run.scheduleId fun row ↦
        if row.revision = run.revision ∧
            [ScheduleState.completed, .cancelled, .expired].contains row.state = false then
          { row with state := .needsReview, updatedAt := reviewAt, terminalAt := none }
        else row
      .ok ((), db.retireRevisions run.scheduleId reviewAt none)
    else .ok ((), db)

/-- The text of a revision has not been deleted, and is not due to be. -/
def contentAvailable (revision : Revision) (now : Timestamp) : Bool :=
  revision.content.isSome ∧ revision.contentDeleteAt.all (now < ·)

/-- A schedule under review fires again, with its revision in force; `changes` of the source
says whether it was under review at that revision. -/
def activateReviewed (db : Db) (scheduleId : ScheduleId) (schedule : Schedule) (now : Timestamp) :
    Db :=
  if schedule.state = .needsReview then
    let db := db.updateSchedule scheduleId fun row ↦
      { row with state := .active, terminalAt := none, updatedAt := now }
    { db with
      revisions := db.revisions.updateKey (scheduleId, schedule.revision) fun row ↦
        { row with terminalAt := none, contentDeleteAt := none } }
  else db

def recoverWorkRunForResult (runId : Uuid) (jobId : JobId) (sourceEventId : EventId)
    (now : Timestamp) (db : Db) : Except String (Unit × Db) := do
  utc now
  identity jobId
  identity sourceEventId
  match db.runs.get? runId with
  | none => .ok ((), db)
  | some run =>
      if run.status ≠ .needsReview ∨ run.jobId ≠ some jobId ∨ run.eventId ≠ some sourceEventId then
        .ok ((), db)
      else
        let db := db.updateRun runId fun run ↦
          { run with status := .started, reason := none, terminalAt := none }
        match db.schedules.get? run.scheduleId, db.revision? run.scheduleId run.revision with
        | some schedule, some revision =>
            if schedule.revision ≠ run.revision then .ok ((), db)
            else if revision.expiresAt ≤ now then
              .ok ((), db.expireSchedule run.scheduleId schedule now)
            else if contentAvailable revision now then
              .ok ((), db.activateReviewed run.scheduleId schedule now)
            else .ok ((), db)
        | _, _ => .ok ((), db)

def markWorkNotificationNeedsReview (runId : Uuid) (now : Timestamp) (db : Db) :
    Except String (Unit × Db) :=
  match db.runs.get? runId with
  | none => .ok ((), db)
  | some run => do
      let schedule ← orThrow (db.schedules.get? run.scheduleId) "schedule_missing"
      if run.revision = schedule.revision ∧ schedule.state = .active then
        let db := db.updateSchedule run.scheduleId fun row ↦
          { row with state := .needsReview, updatedAt := now }
        .ok ((), db.retireRevisions run.scheduleId now none)
      else .ok ((), db)

def resumeAfterWorkNotification (runId : Uuid) (now : Timestamp) (db : Db) :
    Except String (Unit × Db) := do
  utc now
  match db.runs.get? runId with
  | none => .ok ((), db)
  | some run =>
      match db.schedules.get? run.scheduleId, db.revision? run.scheduleId run.revision with
      | some schedule, some revision =>
          if run.revision ≠ schedule.revision ∨
              [RunStatus.completed, .failed, .cancelled].contains run.status = false then
            .ok ((), db)
          else if revision.expiresAt ≤ now then
            .ok ((), db.expireSchedule run.scheduleId schedule now)
          else
            let db := if contentAvailable revision now then
                db.activateReviewed run.scheduleId schedule now
              else db
            .ok ((), db.completeIfDrained run.scheduleId now)
      | _, _ => .ok ((), db)

def reconcileWorkNotificationNotSent (runId : Uuid) (now : Timestamp) (db : Db) :
    Except String (Unit × Db) :=
  db.resumeAfterWorkNotification runId now

def settleWorkNotification (runId : Uuid) (now : Timestamp) (db : Db) :
    Except String (Unit × Db) :=
  db.resumeAfterWorkNotification runId now

inductive UndelegatedOutcome
  | failed | needsReview
  deriving DecidableEq

/-- The audit entry `event_needs_review`. -/
def recordEventReview (db : Db) (eventId : EventId) (reviewAt : Timestamp) : Db :=
  { db with eventReviews := db.eventReviews ++ [(eventId, reviewAt)] }

/-- The due event of a run ended without a job. -/
def settleUndelegatedWorkEvent (eventId : EventId) (outcome : UndelegatedOutcome)
    (now : Timestamp) (db : Db) : Except String (Unit × Db) := do
  utc now
  identity eventId
  match db.runs.find? fun _ run ↦ run.eventId = some eventId with
  | none => .ok ((), db)
  | some (runId, run) =>
      if run.status ≠ .materialized ∨ run.jobId ≠ none then .ok ((), db)
      else do
        let before ← orThrow (db.schedules.get? run.scheduleId) "schedule_missing"
        let settledAt := Timestamp.latest now
          [run.createdAt, before.createdAt, before.updatedAt]
        let db := db.updateRun runId fun run ↦
          { run with
            status := if outcome = .needsReview then .needsReview else .failed
            reason := if outcome = .needsReview then some .ambiguousWrite else none
            terminalAt := if outcome = .failed then some settledAt else none }
        let db := if outcome = .needsReview then
            ((db.updateSchedule run.scheduleId fun row ↦
              { row with state := .needsReview, updatedAt := settledAt }).retireRevisions
                run.scheduleId settledAt none).recordEventReview eventId settledAt
          else db
        .ok ((), db.completeIfDrained run.scheduleId settledAt)

inductive WorkRunOutcome
  | failed | cancelled
  deriving DecidableEq

def reconcileWorkRun (runId : Uuid) (outcome : WorkRunOutcome) (actor : Actor) (now : Timestamp)
    (db : Db) : Except String (Unit × Db) := do
  utc now
  throwIf (actor.role ≠ .admin) "admin_required"
  let run ← orThrow (db.runs.get? runId) "invalid_transition"
  throwIf (run.status ≠ .needsReview) "invalid_transition"
  let before ← orThrow (db.schedules.get? run.scheduleId) "schedule_missing"
  let _ ← db.checked run.scheduleId before.revision actor false
  let reconciledAt := Timestamp.latest now
    [run.createdAt, run.startedAt.getD run.createdAt, before.createdAt, before.updatedAt]
  let db := db.updateRun runId fun run ↦
    { run with
      status := if outcome = .failed then .failed else .cancelled
      reason := if outcome = .cancelled then some .cancelled else none
      terminalAt := some reconciledAt }
  .ok ((), db.completeIfDrained run.scheduleId reconciledAt)

end Db

end Dona
