import Dona.Dispatcher.NotificationResults

/-!
# Completions of scheduled jobs

`materializeJobCompletion`: the row that reports what became of a scheduled job, the end of
its run, and the notice that goes to the destination of the job.
-/

namespace Dona

open Fallible

/-- `renderJobResult` -/
def JobResult.render (result : JobResult) : String :=
  match result.outputText with
  | some text => if text.toList.all isBlankChar then result.summary
      else result.summary ++ "\n\n" ++ text
  | none => result.summary

def JobStatus.text : JobStatus → String
  | queued => "queued"
  | preparing => "preparing"
  | dispatching => "dispatching"
  | running => "running"
  | retryableFailed => "retryable_failed"
  | blocked => "blocked"
  | completed => "completed"
  | failed => "failed"
  | cancelling => "cancelling"
  | cancelled => "cancelled"
  | needsReview => "needs_review"

/-- `jobNotificationStatuses` -/
def JobStatus.isReported (status : JobStatus) : Bool :=
  [blocked, completed, failed, cancelled, needsReview].contains status

namespace Db

/-- The two owners are the same, a Slack thread up to its channel. -/
def sameOwner : JobOwner → JobOwner → Bool
  | .slackThread a, .slackThread b => a.workspaceId = b.workspaceId ∧ a.channelId = b.channelId
  | a, b => a = b

def sourceOwner? (db : Db) (sourceEventId : EventId) : Option JobOwner :=
  ((db.eventBindings.get? sourceEventId).map (·.owner)).or
    ((db.completionOf sourceEventId).map (·.2.owner))

def assertJobSourceMatchesThread (db : Db) (jobId : JobId) (sourceEventId : EventId) :
    Except String Unit :=
  let jobOwner := (db.ownerBindings.get? jobId).map (·.2.owner)
  throwIf (((db.sourceOwner? sourceEventId).any fun source ↦ jobOwner.any (sameOwner source)) = false)
    s!"Event {sourceEventId} does not belong to job {jobId}'s owner"

/-- The run that the owner of a scheduled job names is the run of that job. -/
def runMatches (db : Db) (jobId : JobId) (sourceEventId : EventId) : JobOwner → Bool
  | .slackThread _ => true
  | .schedule tenantId ownerId scheduleId runId revision =>
      (runId.bind db.runs.get?).any fun run ↦
        run.scheduleId = scheduleId ∧ run.revision = revision ∧
          run.eventId = some sourceEventId ∧ run.jobId = some jobId ∧
          (db.schedules.get? scheduleId).any fun schedule ↦
            schedule.tenantId = tenantId ∧ schedule.ownerId = ownerId

def assertJobCompletionBinding (db : Db) (jobId : JobId) (job : JobRow) : Except String Unit := do
  db.assertJobSourceMatchesThread jobId job.sourceEventId
  let binding ← orThrow (db.eventBindings.get? job.sourceEventId) "Unknown completion owner"
  let (sourceEventId, owner) ← orThrow (db.ownerBindings.get? jobId) "Unknown completion owner"
  throwIf (sourceEventId ≠ job.sourceEventId ∨ owner.destination ≠ binding.destination)
    "job_completion_binding_mismatch"
  throwIf (db.runMatches jobId job.sourceEventId binding.owner = false)
    "job_completion_run_mismatch"

/-- `safeNotificationError` of a scheduled job. -/
def safeNotificationError (env : Env) (jobId : JobId) (message : String) : String :=
  let omitted := "実行エラーの詳細は安全上省略されました"
  if env.reportsLocalPath jobId message then omitted
  else match truncateResultContent env message with
    | .ok text => text
    | .error _ => omitted

/-- How the run of a scheduled job ends when its job has this status. -/
def runTargetOf : JobStatus → RunTarget
  | .completed => .completed
  | .cancelled => .cancelled
  | _ => .failed

/-- The actor that the dispatcher acts as for the schedule of an owner. -/
def schedulerActor (tenantId actorId : String) (sourceEventId : Option EventId) : Actor :=
  ⟨tenantId, actorId, .admin, sourceEventId⟩

/-- Leaves the run of the job, and its completion, for an operator. -/
def reviewRun (runId : Uuid) (jobId : JobId) (job : JobRow) (scheduleAt : Timestamp) (db : Db) :
    Except String Db := do
  let (_, db) ← db.markWorkRunNeedsReview runId jobId scheduleAt job.sourceEventId
  .ok db

/-- Ends the run of the job; a result that must not be stored leaves the run for review. -/
def endRun (env : Env) (runId : Uuid) (tenantId : String) (jobId : JobId) (job : JobRow)
    (scheduleAt : Timestamp) (db : Db) : Except String Db :=
  let next := runTargetOf job.status
  let content := if next = .completed then some ((job.result.map (·.render)).getD "完了") else none
  match db.setRunState env runId .started next
      (schedulerActor tenantId "scheduler" (some job.sourceEventId)) scheduleAt (some jobId) content
      (some scheduleAt) true with
  | .ok (some _, db) => .ok db
  | .ok (none, _) => .error "run_not_authorized"
  | .error message =>
      if message = "content_requires_redaction" then
        ({ db with
          completions := db.completions.updateKey (jobId, job.status)
            (withState .needsReview) } : Db).reviewRun runId jobId job scheduleAt
      else .error message

/-- What the status of a scheduled job means for its run. -/
def settleRun (env : Env) (runId : Uuid) (tenantId : String) (jobId : JobId) (job : JobRow)
    (scheduleAt : Timestamp) (db : Db) : Except String Db :=
  let runStatus := (db.runs.get? runId).map (·.status)
  if job.status = .needsReview ∨ job.status = .blocked then
    db.reviewRun runId jobId job scheduleAt
  else if job.status = .cancelled ∧ runStatus = some .needsReview then do
    let (_, db) ← db.reconcileWorkRun runId .cancelled
      (schedulerActor tenantId "scheduler" (some job.sourceEventId)) scheduleAt
    .ok db
  else if runStatus = some (runTargetOf job.status).status then .ok db
  else db.endRun env runId tenantId jobId job scheduleAt

/-- `settleRun` for an owner that is a schedule. -/
def settleOwnerRun (env : Env) (owner : JobOwner) (jobId : JobId) (job : JobRow)
    (completedAt : Timestamp) (db : Db) : Except String Db :=
  match owner with
  | .slackThread _ => .ok db
  | .schedule _ _ _ none _ => .error "job_completion_run_mismatch"
  | .schedule tenantId _ _ (some runId) _ =>
      db.settleRun env runId tenantId jobId job (.floorSecond completedAt.millis)

/-- What the notice says of the result: the rendered text when the owner is a schedule. -/
def noticeResult (env : Env) (owner : JobOwner) (result : Option JobResult) :
    Except String (Option String) :=
  match result with
  | none => .ok none
  | some result =>
      if owner.isSchedule then do
        let text ← truncateResultContent env result.render
        .ok (some text)
      else .ok (some result.summary)

def noticeTarget : JobDestination → Option ReplyTarget
  | .none => Option.none
  | .slackThread thread => some (.slackThread thread)
  | .workResult target => some (.target target)

/-- The payload of the notice of a completion. -/
def completionNotice (env : Env) (owner : JobOwner) (jobId : JobId) (job : JobRow) :
    Except String JobNotice := do
  let result ← noticeResult env owner job.result
  .ok
    { jobId := jobId
      jobStatus := job.status
      result := result
      errorCode := job.lastErrorCode
      errorMessage := job.lastErrorMessage.map fun message ↦
        if owner.isSchedule then safeNotificationError env jobId message else message }

/-- Links an enqueued notice with its job and its completion. -/
def linkNotice (env : Env) (jobId : JobId) (job : JobRow) (notice : JobNotice) (eventId : EventId)
    (now : Int) (db : Db) : Db :=
  { db with
    jobs := db.jobs.updateKey jobId fun job ↦
      { job with completionEventId := some eventId, updatedAt := .toIso now }
    completions := db.completions.updateKey (jobId, job.status) fun completion ↦
      { completion with
        notificationEventId := some eventId
        notificationBodySha256 := some (env.digest notice.text) } }

/-- The notice of a completion that has a destination. -/
def notifyCompletion (env : Env) (binding : JobBinding) (jobId : JobId) (job : JobRow) (now : Int)
    (db : Db) : Except String (Unit × Db) := do
  let notice ← completionNotice env binding.owner jobId job
  let (enqueued, db) ← db.enqueue
    { source := .donaJob
      externalEventId := .job jobId job.status .none
      type := s!"job_{job.status.text}"
      occurredAt := .toIso now
      subject := .job jobId job.sourceEventId job.thread job.actorId
      payload := .jobNotice notice
      replyTarget := noticeTarget binding.destination } (.toIso now)
  throwIf (enqueued.payloadMismatch = true) "job_notification_payload_mismatch"
  .ok ((), db.linkNotice env jobId job notice enqueued.eventId now)

/-- The row of a completion. -/
def completionRow (binding : JobBinding) (job : JobRow) (completedAt : Timestamp) :
    CompletionResult :=
  { sourceEventId := job.sourceEventId
    owner := binding.owner
    destination := binding.destination
    notificationState := if binding.destination = .none then .none else .pending
    materializedAt := completedAt
    contentDeleteAt := .toIso (completedAt.millis + 604800000) }

def materializeJobCompletion (env : Env) (jobId : JobId) (now : Int) (db : Db) :
    Except String (Unit × Db) := do
  let job ← db.getJobRequired jobId
  db.assertJobCompletionBinding jobId job
  throwIf (job.status.isReported = false) "job_not_ready_for_completion"
  match job.completionEventId with
  | some eventId => do
      let _ ← orThrow (db.events.get? eventId) s!"Job {jobId} references a missing completion event"
      .ok ((), db)
  | none => do
      let _ ← db.getRequired job.sourceEventId
      let binding ← orThrow (db.eventBindings.get? job.sourceEventId) "Unknown completion owner"
      let completedAt := if binding.owner.isSchedule then .toIso now
        else job.completedAt.getD job.updatedAt
      match db.completions.insert? (jobId, job.status) (completionRow binding job completedAt) with
      -- The status has been reported already.
      | none => .ok ((), db)
      | some completions => do
          let db ← ({ db with completions := completions } : Db).settleOwnerRun env binding.owner
            jobId job completedAt
          if binding.destination = .none then .ok ((), db)
          else db.notifyCompletion env binding jobId job now

end Db

end Dona
