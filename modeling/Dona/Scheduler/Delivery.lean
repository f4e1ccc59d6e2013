import Dona.Scheduler.Lifecycle

/-!
# Delivery of connector writes

The outbox operations of the repository: claims and leases, the start of a request, its
outcome, recovery after a crash, and the reconciliation of an ambiguous write.
-/

namespace Dona

open Fallible

namespace Db

/-- The status of the run lets a write of this kind go out. -/
def runCanSend (row : Outbox) (run : ScheduleRun) : Bool :=
  match row.kind with
  | .reminderPost => [RunStatus.materialized, .started].contains run.status
  | .workResultPost => [RunStatus.completed, .failed, .needsReview].contains run.status

/-- `getOutbox`: a row whose text has passed its deadline is read without it. -/
def getOutbox (db : Db) (outboxId : Uuid) (now : Timestamp) : Option Outbox :=
  (db.outbox.get? outboxId).map fun row ↦
    if row.contentDeleteAt.any (· ≤ now) then { row with content := none } else row

inductive UnsentReason
  | cancelled | authorizationExpired | retryExpired | misfire
  deriving DecidableEq

def UnsentReason.runReason : UnsentReason → RunReason
  | authorizationExpired => .authorizationExpired
  | misfire => .misfire
  | _ => .cancelled

/-- The notice of a run under review may be sent while its schedule is under review. -/
def isReviewNotification (row : Outbox) (run : ScheduleRun) (schedule : Schedule) : Bool :=
  row.kind = .workResultPost ∧ run.status = .needsReview ∧ schedule.state = .needsReview

/-- Why an unsent row may not be sent any more, if there is a reason. -/
def unsentReason (row : Outbox) (run : ScheduleRun) (schedule : Schedule) (snapshot : Revision)
    (terminalAt effectiveAt : Timestamp) : Option UnsentReason :=
  let reviewNotification := isReviewNotification row run schedule
  if (reviewNotification = false ∧ schedule.state ≠ .active) ∨
      (reviewNotification = false ∧ schedule.revision ≠ run.revision) ∨
      runCanSend row run = false then some .cancelled
  else if snapshot.expiresAt ≤ effectiveAt then some .authorizationExpired
  else if row.kind = .workResultPost ∧ 900000 < terminalAt.millis - row.createdAt.millis then
    some .retryExpired
  else if row.kind = .reminderPost ∧ 900000 < effectiveAt.millis - run.scheduledFor.millis then
    some .misfire
  else if row.content = none ∨ row.contentDeleteAt.any (· ≤ effectiveAt) then some .cancelled
  else none

/-- Ends an unsent row, and the run of a reminder with it. -/
def endUnsent (db : Db) (outboxId : Uuid) (row : Outbox) (run : ScheduleRun)
    (reason : UnsentReason) (terminalAt : Timestamp) : Db :=
  let db := db.updateOutboxRow outboxId fun row ↦
    { cancelUnsent terminalAt row with
      status := if reason = .retryExpired then .failed else .cancelled }
  let db := if row.kind = .reminderPost ∧
      [RunStatus.materialized, .started].contains run.status then
    db.updateRun row.runId fun run ↦
      { run with
        status := if reason = .misfire then .skipped else .cancelled
        reason := some reason.runReason
        terminalAt := some terminalAt }
    else db
  db.completeIfDrained run.scheduleId terminalAt

/-- `row` is the row the caller has read; the result says whether it has been ended. -/
def expireUnsent (db : Db) (outboxId : Uuid) (row : Outbox) (now : Timestamp)
    (eligibilityAt : Option Timestamp) : Bool × Db :=
  if isUnsent row = false then (false, db)
  else match db.runs.get? row.runId with
    | none => (false, db)
    | some run =>
        match db.schedules.get? run.scheduleId, db.revision? run.scheduleId run.revision with
        | some schedule, some snapshot =>
            let terminalAt := Timestamp.latest now
              [row.createdAt, row.updatedAt, row.requestStartedAt.getD row.createdAt,
                run.createdAt, run.startedAt.getD run.createdAt, schedule.createdAt,
                schedule.updatedAt]
            match unsentReason row run schedule snapshot terminalAt
                (eligibilityAt.getD terminalAt) with
            | none => (false, db)
            | some .authorizationExpired =>
                (true, db.expireSchedule run.scheduleId schedule terminalAt)
            | some reason => (true, db.endUnsent outboxId row run reason terminalAt)
        | _, _ => (false, db)

/-- Leaves a started write for review, and its schedule with it. -/
def markAmbiguous (db : Db) (outboxId : Uuid) (row : Outbox) (now : Timestamp) : Db :=
  match db.runs.get? row.runId with
  | none => db
  | some run =>
      match db.schedules.get? run.scheduleId with
      | none => db
      | some before =>
          let ambiguousAt := Timestamp.latest now
            [row.createdAt, row.updatedAt, row.requestStartedAt.getD row.createdAt,
              run.createdAt, run.startedAt.getD run.createdAt, before.createdAt,
              before.updatedAt, before.terminalAt.getD before.createdAt]
          let db := db.updateOutboxRow outboxId fun row ↦
            { row with
              status := .needsReview
              contentDeleteAt := some (ambiguousAt.add 604800)
              updatedAt := ambiguousAt }
          let db := db.suppress run.scheduleId ambiguousAt .cancelled
          let db := if row.kind = .reminderPost then
            db.updateRun row.runId fun run ↦
              { run with status := .needsReview, reason := some .ambiguousWrite }
            else db
          let db := db.updateSchedule run.scheduleId fun schedule ↦
            if schedule.state = .cancelled ∨ schedule.state = .completed then schedule
            else { schedule with state := .needsReview, updatedAt := ambiguousAt }
          db.retireRevisions run.scheduleId ambiguousAt none

/-! ### Recovery and claims -/

/-- The lease of a row is over, or every row is recovered after a restart. -/
def leaseOver (row : Outbox) (now : Timestamp) (recoverAllStarted : Bool) : Bool :=
  recoverAllStarted ∨ row.leaseUntil.any (· ≤ now)

/-- Claims whose request has not been started go back to the queue. -/
def requeueClaims (db : Db) (now : Timestamp) (recoverAllStarted : Bool) : Db :=
  db.updateOutbox
    (fun _ row ↦ row.status = .claimed ∧ leaseOver row now recoverAllStarted ∧
      row.requestStartedAt = none)
    (fun row ↦
      { row with
        status := .pending
        claimToken := none
        leaseUntil := none
        updatedAt := max row.updatedAt now })

def recover (now : Timestamp) (recoverAllStarted : Bool) (db : Db) : Except String (Unit × Db) := do
  utc now
  let ambiguous := db.outbox.select fun _ row ↦
    row.status = .requestStarted ∧ leaseOver row now recoverAllStarted
  let db := ambiguous.foldl (fun db entry ↦ db.markAmbiguous entry.1 entry.2 now) db
  let db := db.requeueClaims now recoverAllStarted
  let unsent := db.outbox.select fun _ row ↦ isUnsent row
  .ok ((), unsent.foldl (fun db entry ↦ (db.expireUnsent entry.1 entry.2 now none).2) db)

/-- The rows a claim may take at `now`. -/
def isClaimable (db : Db) (kind : Option OutboxKind) (now : Timestamp) (row : Outbox) : Bool :=
  match db.runs.get? row.runId with
  | none => false
  | some run =>
      match db.schedules.get? run.scheduleId, db.revision? run.scheduleId run.revision with
      | some schedule, some revision =>
          let reviewNotification := isReviewNotification row run schedule
          row.status = .pending ∧ row.availableAt ≤ now ∧ row.content.isSome ∧
            kind.all (· = row.kind) ∧ (schedule.state = .active ∨ reviewNotification) ∧
            runCanSend row run ∧ (schedule.revision = run.revision ∨ reviewNotification) ∧
            now < revision.expiresAt ∧ row.contentDeleteAt.all (now < ·)
      | _, _ => false

/-- The writes in flight of the tenant of a row, by which claims are shared out. -/
def tenantLoad (db : Db) (row : Outbox) : ℕ :=
  let tenant := fun row : Outbox ↦
    ((db.runs.get? row.runId).bind fun run ↦ db.schedules.get? run.scheduleId).map (·.tenantId)
  db.outbox.count fun _ other ↦
    (other.status = .claimed ∨ other.status = .requestStarted) ∧ tenant other = tenant row

/-- `ORDER BY` the load of the tenant, then `available_at, outbox_id`. -/
def claimedBefore (db : Db) (a b : Uuid × Outbox) : Bool :=
  let load := db.tenantLoad a.2
  let otherLoad := db.tenantLoad b.2
  load < otherLoad ∨ (load = otherLoad ∧ (a.2.availableAt < b.2.availableAt ∨
    (a.2.availableAt = b.2.availableAt ∧ a.1 < b.1)))

def nextClaimable (db : Db) (kind : Option OutboxKind) (now : Timestamp) : Option (Uuid × Outbox) :=
  db.outbox.first? (fun _ row ↦ db.isClaimable kind now row) db.claimedBefore

/-- One row of a batch: the claim draws a token for it. -/
def claimOne (db : Db) (outboxId : Uuid) (now : Timestamp) (leaseSeconds : ℕ) : Db :=
  let token := db.nextUuid
  { db.updateOutboxRow outboxId fun row ↦
      { row with
        status := .claimed
        claimToken := some token
        leaseUntil := some (now.add leaseSeconds)
        updatedAt := now } with
    nextUuid := db.nextUuid + 1 }

/-- Claims up to `limit` rows, each with its token. -/
def claimRows (kind : Option OutboxKind) (now : Timestamp) (leaseSeconds : ℕ) :
    ℕ → Db → List (Uuid × Uuid) × Db
  | 0, db => ([], db)
  | limit + 1, db =>
      match db.nextClaimable kind now with
      | none => ([], db)
      | some (outboxId, _) =>
          let (claimed, db') := claimRows kind now leaseSeconds limit
            (db.claimOne outboxId now leaseSeconds)
          ((outboxId, db.nextUuid) :: claimed, db')

def claimBatch (now : Timestamp) (leaseSeconds : ℕ) (kind : Option OutboxKind) (limit : ℕ)
    (db : Db) : Except String (List (Uuid × Uuid) × Db) := do
  utc now
  throwIf (leaseSeconds < 1 ∨ 300 < leaseSeconds) "invalid_lease"
  throwIf (limit < 1 ∨ 100 < limit) "invalid_limit"
  let (_, db) ← db.recover now false
  .ok (claimRows kind now leaseSeconds limit db)

/-! ### The request -/

/-- `none` is the refusal `write_not_authorized`, thrown after the row has been ended. -/
def requestStarted (outboxId token : Uuid) (now : Timestamp) (db : Db) :
    Except String (Option Unit × Db) := do
  utc now
  let row ← orThrow (db.getOutbox outboxId now) "claim_conflict"
  throwIf (row.status ≠ .claimed ∨ row.claimToken ≠ some token ∨ row.leaseUntil.any (· ≤ now))
    "claim_conflict"
  if (db.expireUnsent outboxId row now none).1 then
    .ok (none, (db.expireUnsent outboxId row now none).2)
  else do
    let run ← orThrow (db.runs.get? row.runId) "schedule_run_missing"
    throwIf (runCanSend row run = false) "write_not_authorized"
    throwIf (3 ≤ row.attempt) "attempt_limit"
    let startedAt := Timestamp.latest now
      [row.createdAt, row.updatedAt, row.requestStartedAt.getD row.createdAt]
    .ok (some (), db.updateOutboxRow outboxId fun row ↦
      { row with
        status := .requestStarted
        requestStartedAt := some startedAt
        attempt := row.attempt + 1
        updatedAt := startedAt })

/-- The first attempt is refused before anything is written. -/
def rejectClaimBeforeWrite (outboxId token : Uuid) (now : Timestamp) (db : Db) :
    Except String (Unit × Db) := do
  utc now
  let row ← orThrow (db.getOutbox outboxId now) "claim_conflict"
  throwIf (row.status ≠ .claimed ∨ row.claimToken ≠ some token ∨ row.requestStartedAt ≠ none)
    "claim_conflict"
  let run ← orThrow (db.runs.get? row.runId) "schedule_run_missing"
  let schedule ← orThrow (db.schedules.get? run.scheduleId) "schedule_missing"
  let finishedAt := Timestamp.latest now
    [row.createdAt, row.updatedAt, schedule.createdAt, schedule.updatedAt,
      schedule.terminalAt.getD schedule.createdAt]
  let db := db.updateOutboxRow outboxId fun row ↦
    { row with
      status := .failed
      claimToken := none
      leaseUntil := none
      terminalAt := some finishedAt
      contentDeleteAt := some (finishedAt.add 604800)
      updatedAt := finishedAt }
  let db := db.updateLiveRun row.runId fun run ↦
    { run with status := .failed, reason := none, terminalAt := some finishedAt }
  .ok ((), db.completeIfDrained run.scheduleId finishedAt)

inductive WriteOutcome
  | sent | notAccepted | authorizationUnavailable | unavailable | rejected | revoked | misfire
  | ambiguous
  deriving DecidableEq

/-- The outcomes after which the write is attempted again. -/
def WriteOutcome.isRetryable (outcome : WriteOutcome) : Bool :=
  [notAccepted, authorizationUnavailable, unavailable].contains outcome

/-- The run and the schedule still permit the write. -/
def writeAuthorized (row : Outbox) (run : ScheduleRun) (schedule : Schedule) (revision : Revision)
    (now : Timestamp) : Bool :=
  let reviewNotification := isReviewNotification row run schedule
  runCanSend row run ∧ (schedule.state = .active ∨ reviewNotification) ∧
    (schedule.revision = run.revision ∨ reviewNotification) ∧ now < revision.expiresAt

def retryDelay (row : Outbox) (retryAfterSeconds : ℕ) : ℕ :=
  max retryAfterSeconds (if row.attempt = 1 then 1 else 5)

/-- The outcome of a live, authorized write asks for another attempt. -/
def retries (row : Outbox) (run : ScheduleRun) (outcome : WriteOutcome) (authorized : Bool)
    (now : Timestamp) (delay : ℕ) : Bool :=
  let withinWorkRetryDeadline := row.kind ≠ .workResultPost ∨
    (now.add delay).millis ≤ (row.createdAt.add 900).millis
  let withinReminderGrace := row.kind ≠ .reminderPost ∨
    (now.add delay).millis ≤ (run.scheduledFor.add 900).millis
  outcome.isRetryable ∧ (outcome = .unavailable ∨ row.attempt < 3) ∧ authorized ∧
    withinWorkRetryDeadline ∧ (outcome ≠ .authorizationUnavailable ∨ withinReminderGrace)

/-- The row after an unambiguous outcome. -/
def finishedRow (outcome : WriteOutcome) (retry authorized : Bool) (now finishedAt : Timestamp)
    (delay : ℕ) (receiptId : Option String) (row : Outbox) : Outbox :=
  { row with
    status :=
      if outcome = .sent then .sent
      else if retry then .pending
      else if authorized then .failed else .cancelled
    availableAt := now.add delay
    requestStartedAt := if retry then none else row.requestStartedAt
    receiptId := receiptId
    claimToken := none
    leaseUntil := none
    terminalAt := if retry then none else some finishedAt
    contentDeleteAt := if retry then none else some (finishedAt.add 604800)
    updatedAt := finishedAt
    attempt := if outcome = .unavailable ∧ retry then row.attempt - 1 else row.attempt }

/-- A revoked authorization pauses the schedule that still uses it. -/
def pauseRevoked (db : Db) (run : ScheduleRun) (schedule : Schedule) (finishedAt : Timestamp) :
    Db :=
  match db.revision? run.scheduleId run.revision,
      db.revision? run.scheduleId schedule.revision with
  | some runAuthorization, some currentAuthorization =>
      if runAuthorization.authorizationId = currentAuthorization.authorizationId ∧
          runAuthorization.authorizationRevision = currentAuthorization.authorizationRevision ∧
          [ScheduleState.active, .paused].contains schedule.state then
        let db := db.updateSchedule run.scheduleId fun row ↦
          if row.state = .active then { row with state := .paused, updatedAt := finishedAt }
          else row
        let db := db.suppress run.scheduleId finishedAt .cancelled
        db.retireRevisions run.scheduleId finishedAt (some schedule.revision)
      else db
  | _, _ => db

/-- A write that came too late is cancelled, and its run skipped. -/
def skipMisfired (db : Db) (outboxId : Uuid) (row : Outbox) (finishedAt : Timestamp) : Db :=
  (db.updateOutboxRow outboxId fun row ↦ { row with status := .cancelled }).updateRun row.runId
    fun run ↦
      { run with status := .skipped, reason := some .misfire, terminalAt := some finishedAt }

/-- The write may have lost its authorization in the meantime. -/
def expireFinished (db : Db) (outboxId : Uuid) (now finishedAt : Timestamp) : Db :=
  match db.getOutbox outboxId finishedAt with
  | some current => (db.expireUnsent outboxId current finishedAt (some now)).2
  | none => db

/-- The run of a reminder ends with its write. -/
def endReminderRun (db : Db) (outboxId : Uuid) (row : Outbox) (finishedAt : Timestamp) : Db :=
  match db.getOutbox outboxId finishedAt with
  | some finished =>
      if row.kind = .reminderPost ∧ finished.terminalAt ≠ none then
        db.updateLiveRun row.runId fun run ↦
          { run with
            status :=
              if finished.status = .sent then .completed
              else if finished.status = .cancelled then .cancelled else .failed
            reason := if finished.status = .cancelled then some .cancelled else none
            terminalAt := some finishedAt }
      else db
  | none => db

/-- An unambiguous outcome of a started write. -/
def settleOutcome (db : Db) (outboxId : Uuid) (row : Outbox) (run : ScheduleRun)
    (schedule : Schedule) (authorized : Bool) (outcome : WriteOutcome)
    (now finishedAt : Timestamp) (receiptId : Option String) (retryAfterSeconds : ℕ) : Db :=
  let delay := retryDelay row retryAfterSeconds
  let retry := retries row run outcome authorized now delay
  let db := db.updateOutboxRow outboxId
    (finishedRow outcome retry authorized now finishedAt delay receiptId)
  let authorizationFailedWhileActive :=
    outcome = .authorizationUnavailable ∧ schedule.state = .active ∧ retry = false
  let db := if outcome = .revoked ∨ authorizationFailedWhileActive then
    db.pauseRevoked run schedule finishedAt else db
  let db := if outcome = .misfire ∧ authorized then db.skipMisfired outboxId row finishedAt else db
  (db.expireFinished outboxId now finishedAt).endReminderRun outboxId row finishedAt

def expireOver (db : Db) (scheduleId : ScheduleId) (now finishedAt : Timestamp) : Db :=
  match db.schedules.get? scheduleId with
  | none => db
  | some current => db.expireCurrent scheduleId current now finishedAt

/-- What ends every write: completion, or the expiry of an authorization that is over. -/
def afterWrite (db : Db) (scheduleId : ScheduleId) (now finishedAt : Timestamp) : Db :=
  ((db.completeIfDrained scheduleId finishedAt).expireOver scheduleId now
    finishedAt).completeIfDrained scheduleId finishedAt

def finishWrite (env : Env) (outboxId token : Uuid) (outcome : WriteOutcome) (now : Timestamp)
    (receiptId : Option String) (retryAfterSeconds : ℕ) (db : Db) :
    Except String (Unit × Db) := do
  utc now
  (receiptId.elim (.ok ()) (validateReceipt env))
  throwIf (2592000 < retryAfterSeconds) "invalid_retry_after"
  let row ← orThrow (db.getOutbox outboxId now) "claim_conflict"
  throwIf (row.status ≠ .requestStarted ∨ row.claimToken ≠ some token) "claim_conflict"
  let run ← orThrow (db.runs.get? row.runId) "schedule_run_missing"
  let schedule ← orThrow (db.schedules.get? run.scheduleId) "schedule_missing"
  let revision ← orThrow (db.revision? run.scheduleId run.revision) "schedule_revision_missing"
  let finishedAt := Timestamp.latest now
    [row.createdAt, row.updatedAt, row.requestStartedAt.getD row.createdAt,
      row.terminalAt.getD row.createdAt, schedule.createdAt, schedule.updatedAt,
      schedule.terminalAt.getD schedule.createdAt]
  throwIf (outcome = .sent ∧ receiptId = none) "receipt_required"
  let authorized := writeAuthorized row run schedule revision now
  let db := if outcome = .ambiguous then db.markAmbiguous outboxId row finishedAt
    else db.settleOutcome outboxId row run schedule authorized outcome now finishedAt receiptId
      retryAfterSeconds
  .ok ((), db.afterWrite run.scheduleId now finishedAt)

/-- The outcomes a preflight can refuse a write with. -/
inductive PreflightOutcome
  | authorizationUnavailable | unavailable | rejected | revoked | misfire
  deriving DecidableEq

def PreflightOutcome.outcome : PreflightOutcome → WriteOutcome
  | authorizationUnavailable => .authorizationUnavailable
  | unavailable => .unavailable
  | rejected => .rejected
  | revoked => .revoked
  | misfire => .misfire

/-- The row was cancelled during its preflight; a revocation still reaches its schedule. -/
def revokeAfterCancel (db : Db) (current : Outbox) (now : Timestamp) : Db :=
  match db.runs.get? current.runId with
  | none => db
  | some run =>
      match db.schedules.get? run.scheduleId with
      | none => db
      | some schedule =>
          let revokedAt := Timestamp.latest now
            [current.createdAt, current.updatedAt, current.terminalAt.getD current.createdAt,
              run.createdAt, run.startedAt.getD run.createdAt,
              run.terminalAt.getD run.createdAt, schedule.createdAt, schedule.updatedAt,
              schedule.terminalAt.getD schedule.createdAt]
          match db.revision? run.scheduleId run.revision,
              db.revision? run.scheduleId schedule.revision with
          | some runAuthorization, some currentAuthorization =>
              if runAuthorization.authorizationId = currentAuthorization.authorizationId ∧
                  runAuthorization.authorizationRevision =
                    currentAuthorization.authorizationRevision then
                let db := if schedule.state = .active then
                    (db.updateSchedule run.scheduleId fun row ↦
                      if row.state = .active then
                        { row with state := .paused, updatedAt := revokedAt }
                      else row).suppress run.scheduleId revokedAt .cancelled
                  else db
                db.retireRevisions run.scheduleId revokedAt (some schedule.revision)
              else db
          | _, _ => db

def finishWriteAfterPreflight (env : Env) (outboxId token : Uuid) (outcome : PreflightOutcome)
    (now : Timestamp) (retryAfterSeconds : ℕ) (db : Db) : Except String (Unit × Db) := do
  utc now
  match db.getOutbox outboxId now with
  | some current =>
      if current.status = .cancelled ∧ current.claimToken = none then
        .ok ((), if outcome = .revoked then db.revokeAfterCancel current now else db)
      else do
        let (started, db) ← db.requestStarted outboxId token now
        let _ ← orThrow started "write_not_authorized"
        let (_, db) ← db.finishWrite env outboxId token outcome.outcome now none retryAfterSeconds
        .ok ((), { db with
          outbox := db.outbox.updateKey outboxId fun row ↦ { row with requestStartedAt := none } })
  | none => .error "claim_conflict"

/-! ### Reconciliation -/

inductive ReconcileOutcome
  | sent | failed
  deriving DecidableEq

def reconciledRow (outcome : ReconcileOutcome) (receiptId : String) (reconciledAt : Timestamp)
    (row : Outbox) : Outbox :=
  { capContentDeleteAt (reconciledAt.add 604800) row with
    status := if outcome = .sent then .sent else .failed
    receiptId := some receiptId
    terminalAt := some reconciledAt
    updatedAt := reconciledAt
    claimToken := none
    leaseUntil := none }

/-- The notice of a run under review leaves the run to its own reconciliation. -/
def keepsReviewedRun (row : Outbox) : Bool :=
  row.kind = .workResultPost ∧
    row.completionJobStatus.all fun status ↦ [JobStatus.blocked, .needsReview].contains status

def endReviewedRun (db : Db) (runId : Uuid) (outcome : ReconcileOutcome)
    (reconciledAt : Timestamp) : Db :=
  { db with
    runs := db.runs.updateWhere (fun id run ↦ id = runId ∧ run.status = .needsReview)
      (fun run ↦
        { run with
          status := if outcome = .sent then .completed else .failed
          terminalAt := some reconciledAt }) }

def reconcile (env : Env) (outboxId : Uuid) (outcome : ReconcileOutcome) (receiptId : String)
    (actor : Actor) (now : Timestamp) (db : Db) : Except String (Unit × Db) := do
  utc now
  validateReceipt env receiptId
  throwIf (actor.role ≠ .admin) "admin_required"
  let row ← orThrow (db.getOutbox outboxId now) "invalid_transition"
  throwIf (row.status ≠ .needsReview) "invalid_transition"
  let run ← orThrow (db.runs.get? row.runId) "schedule_run_missing"
  let schedule ← orThrow (db.schedules.get? run.scheduleId) "schedule_missing"
  let reconciledAt := Timestamp.latest now
    [row.createdAt, row.updatedAt, row.requestStartedAt.getD row.createdAt,
      row.terminalAt.getD row.createdAt, run.createdAt, run.startedAt.getD run.createdAt,
      schedule.createdAt, schedule.updatedAt, schedule.terminalAt.getD schedule.createdAt]
  let _ ← db.checked run.scheduleId schedule.revision actor false
  let db := db.updateOutboxRow outboxId (reconciledRow outcome receiptId reconciledAt)
  let db := if keepsReviewedRun row then db else db.endReviewedRun row.runId outcome reconciledAt
  .ok ((), db.completeIfDrained run.scheduleId reconciledAt)

end Db

end Dona
