import Dona.Jobs.Store
import Mathlib.Data.List.DropRight

/-!
# Operations on jobs

The methods of `DispatcherDatabase` that write the status, the result or the steering of a job.
An operation reads the clock once. `files` says which jobs have a result file.
-/

namespace Dona

open Fallible

/-! ### Requests -/

/-- `String.prototype.trim` -/
def trimmed (text : String) : String :=
  String.ofList (((text.toList.dropWhile isBlankChar).reverse.dropWhile isBlankChar).reverse)

theorem trimmed_trimmed (text : String) : trimmed (trimmed text) = trimmed text := by
  have hfront : ((text.toList.dropWhile isBlankChar).rdropWhile isBlankChar).dropWhile isBlankChar =
      (text.toList.dropWhile isBlankChar).rdropWhile isBlankChar := by
    refine List.dropWhile_eq_self_iff.2 fun hlength ↦ ?_
    have hstarts := List.rdropWhile_prefix isBlankChar (text.toList.dropWhile isBlankChar)
    rw [hstarts.getElem hlength]
    exact text.toList.dropWhile_get_zero_not isBlankChar _
  have hback := (text.toList.dropWhile isBlankChar).rdropWhile_idempotent isBlankChar
  have htext : (trimmed text).toList = (text.toList.dropWhile isBlankChar).rdropWhile isBlankChar :=
    String.toList_ofList
  change String.ofList (((trimmed text).toList.dropWhile isBlankChar).rdropWhile isBlankChar) =
    String.ofList ((text.toList.dropWhile isBlankChar).rdropWhile isBlankChar)
  rw [htext, hfront, hback]

/-- `[a-z0-9]` -/
def isLowerAlphanum (c : Char) : Bool := c.isLower || c.isDigit

/-- `/^[a-z0-9](?:[a-z0-9._-]{0,63})$/` -/
def isJobKey (key : String) : Bool :=
  match key.toList with
  | [] => false
  | c :: cs => isLowerAlphanum c && cs.length ≤ 63 &&
      cs.all fun c ↦ isLowerAlphanum c || ['.', '_', '-'].contains c

def legacyJobKey : String := "legacy-default"

def jobObjectiveCharacterMax : ℕ := 100000

/-- `[A-Za-z0-9](?:[A-Za-z0-9_.-]{0,99})` -/
def isRepositoryPart (part : List Char) : Bool :=
  match part with
  | [] => false
  | c :: cs => c.isAlphanum && cs.length ≤ 99 &&
      cs.all fun c ↦ c.isAlphanum || ['_', '.', '-'].contains c

def isRepository (text : String) : Bool :=
  let owner := text.toList.takeWhile (· ≠ '/')
  isRepositoryPart owner && isRepositoryPart ((text.toList.drop owner.length).tail) &&
    (text.toList.drop owner.length).head? = some '/'

/-- `!value.startsWith("-") && !value.includes("..")`, and no character that is unsafe in a ref. -/
def isGitRef (text : String) : Bool :=
  1 ≤ text.length && text.length ≤ 255 && text.toList.head? ≠ some '-' &&
    (text.toList.zip text.toList.tail).all (· ≠ ('.', '.')) &&
    text.toList.all fun c ↦ 0x20 < c.toNat && c.toNat ≠ 0x7f &&
      !(['~', '^', ':', '?', '*', '[', '\\'].contains c)

def JobWorkspace.accepted : JobWorkspace → Bool
  | scratch => true
  | github repository baseRef => isRepository (trimmed repository) &&
      baseRef.all fun ref ↦ isGitRef (trimmed ref)

def JobWorkspace.normalized : JobWorkspace → JobWorkspace
  | scratch => scratch
  | github repository baseRef => github (trimmed repository) (baseRef.map trimmed)

/-- `parseCreateJobRequest` -/
def CreateJobRequest.parse (request : CreateJobRequest) : Except String CreateJobRequest := do
  throwIf (trimmed request.sourceEventId = "") "source_event_id: is invalid"
  throwIf ((request.jobKey.all fun key ↦ isJobKey (trimmed key)) = false)
    "job_key: must be 1-64 lowercase key characters"
  throwIf (request.jobKey.any (trimmed · = legacyJobKey))
    "job_key: legacy-default is reserved and must be omitted"
  throwIf (trimmed request.objective = "" ∨
    jobObjectiveCharacterMax < (trimmed request.objective).length)
    "objective: must be at most 100000 characters"
  throwIf (request.workspace.accepted = false) "workspace: is invalid"
  .ok { request with
    sourceEventId := trimmed request.sourceEventId
    jobKey := request.jobKey.map trimmed
    objective := trimmed request.objective
    workspace := request.workspace.normalized }

/-! ### Guarded transitions -/

/-- The columns that a transition writes besides the status. -/
structure JobValues where
  availableAt : Option Timestamp := none
  dispatchStartedAt : Option Timestamp := none
  promptAcceptedAt : Option Timestamp := none
  completedAt : Option Timestamp := none
  lastErrorCode : Option (Option String) := none
  lastErrorMessage : Option (Option String) := none
  result : Option JobResult := none
  clearsCompletion : Bool := false
  clearsSteer : Bool := false

def JobValues.assign (values : JobValues) (job : JobRow) : JobRow :=
  { job with
    availableAt := values.availableAt.getD job.availableAt
    dispatchStartedAt := values.dispatchStartedAt.or job.dispatchStartedAt
    promptAcceptedAt := values.promptAcceptedAt.or job.promptAcceptedAt
    completedAt := values.completedAt.or job.completedAt
    lastErrorCode := values.lastErrorCode.getD job.lastErrorCode
    lastErrorMessage := values.lastErrorMessage.getD job.lastErrorMessage
    result := values.result.or job.result
    completionEventId := if values.clearsCompletion then none else job.completionEventId
    steerState := if values.clearsSteer then none else job.steerState }

/-- `retryDelaysMs` -/
def jobRetryDelaysMs : List Int := [5000, 30000, 120000, 600000]

/-- `retryAt` -/
def retryAt (attemptCount : ℕ) (now : Int) : Timestamp :=
  .toIso (now + jobRetryDelaysMs.getD (min (attemptCount - 1) 3) 600000)

namespace Store

variable (jobs : JobsEnv)

/-- The error message of a scheduled job is made safe. -/
def persisted (s : Store) (jobId : JobId) (job : JobRow) (values : JobValues) : JobValues :=
  if s.ofSchedule job.sourceEventId then
    { values with
      lastErrorMessage := values.lastErrorMessage.map fun message ↦
        message.map (Db.safeNotificationError jobs.env jobId) }
  else values

def updateJob (jobId : JobId) (source : List JobStatus) (target : JobStatus) (values : JobValues)
    (now : Int) (s : Store) : Except String Store := do
  let job ← s.db.getJobRequired jobId
  throwIf (source.contains job.status = false)
    s!"Invalid status transition for job {jobId} to {target.text}"
  .ok (s.setStatus jobId fun row ↦
    { (s.persisted jobs jobId job values).assign row with
      status := target, updatedAt := .toIso now })

/-! ### Creation -/

/-- The jobs that count against the limits of an event: those that are no later attempts. -/
def admitted (s : Store) (eventId : EventId) : List (JobId × JobRow) :=
  s.db.jobs.select fun jobId job ↦
    job.sourceEventId = eventId ∧ (s.attempts.get? jobId).all (·.number = 1)

/-- `COALESCE(t.objective, j.objective)` -/
def objectiveOf (s : Store) (jobId : JobId) (job : JobRow) : String :=
  ((s.forAttempt jobId).map (·.2.objective)).getD job.objective

def creationBytes (s : Store) (jobId : JobId) (job : JobRow) : ℕ :=
  ((s.workspaces.get? jobId).map (·.objective.utf8ByteSize)).getD
    (s.objectiveOf jobId job).utf8ByteSize

/-- Whether the group of the event admits one more job, and the group when there is none yet. -/
def admitMessage (eventId : EventId) (event : EventRow) (jobKey : Option String) (objective : String)
    (now : Int) (s : Store) : Except String Store := do
  throwIf ([EventStatus.completed, .blocked, .needsReview, .deadLetter].contains event.status = true)
    "job_group_closed"
  let group := s.db.jobGroups.get? eventId
  throwIf (group.any (·.sealedAt.isSome)) "job_group_closed"
  throwIf (group.any (·.notificationMode = .grouped) ∧ jobKey = none) "job_group_closed"
  throwIf (group.any (·.notificationMode = .legacy) ∧ jobKey.getD legacyJobKey ≠ legacyJobKey)
    "job_group_closed"
  let admitted := s.admitted eventId
  throwIf (jobs.limits.jobsPerEventMax ≤ admitted.length) "job_group_limit_exceeded"
  throwIf (jobs.limits.jobObjectiveTotalMaxBytes <
    (admitted.map fun entry ↦ s.creationBytes entry.1 entry.2).sum + objective.utf8ByteSize)
    "job_group_limit_exceeded"
  throwIf (jobs.limits.jobObjectiveTotalMaxBytes <
    (admitted.map fun entry ↦ (s.objectiveOf entry.1 entry.2).utf8ByteSize).sum +
      objective.utf8ByteSize) "job_group_limit_exceeded"
  match group with
  | some _ => .ok s
  | none => do
      let groups ← orThrow (s.db.jobGroups.insert? eventId
          { notificationMode := if jobKey.getD legacyJobKey = legacyJobKey then .legacy else .grouped
            createdAt := .toIso now
            updatedAt := .toIso now }) "UNIQUE constraint failed: job_groups.source_event_id"
      .ok (s.updateDb fun db ↦ { db with jobGroups := groups })

/-- `payload.work` matches the request, and the schedule is checked for access. -/
def admitScheduled (eventId : EventId) (event : EventRow) (request : CreateJobRequest) (now : Int)
    (s : Store) : Except String Store := do
  throwIf (request.workspace ≠ .scratch) "scheduled_workspace_mismatch"
  match event.payload with
  | .scheduleDue _ _ _ objective _ authorizationTarget => do
      throwIf (request.jobKey ≠ none ∨ request.display ≠ none ∨ objective ≠ some request.objective)
        "scheduled_scope_mismatch"
      throwIf (event.status.isAgentOwned = false) "scheduled_event_not_dispatching"
      throwIf (authorizationTarget = none) "scheduled_authorization_target_missing"
      throwIf ((event.scheduleAccessCheckedAt.any fun checkedAt ↦
          Timestamp.toIso (now - 120000) ≤ checkedAt ∧ checkedAt ≤ .toIso now) = false ∨
        event.scheduleAccessConsumedAt ≠ none) "scheduled_access_receipt_unavailable"
      .ok (s.updateDb fun db ↦
        { db with
          events := db.events.updateKey eventId fun event ↦
            { event with scheduleAccessConsumedAt := some (.toIso now) } })
  | _ => .error "scheduled_scope_mismatch"

/-- The statements that insert a job. -/
def insertJob (jobId : JobId) (job : JobRow) (document : WorkspaceDocument)
    (owner : EventId × JobBinding) (s : Store) : Except String Store := do
  let rows ← orThrow (s.db.jobs.insert? jobId job) "UNIQUE constraint failed: jobs.job_id"
  let cleanups ← orThrow (s.cleanups.insert? jobId { updatedAt := job.createdAt })
    "UNIQUE constraint failed: job_terminal_worker_cleanups.job_id"
  let owners ← orThrow (s.db.ownerBindings.insert? jobId owner)
    "UNIQUE constraint failed: job_owner_bindings.job_id"
  let workspaces ← orThrow (s.workspaces.insert? jobId document)
    "UNIQUE constraint failed: jobs.job_id"
  .ok { s with
    db := { s.db with jobs := rows, ownerBindings := owners }
    cleanups := cleanups
    workspaces := workspaces }

/-- The run of a scheduled job starts, or is refused and ended. -/
def startRun (binding : JobBinding) (eventId : EventId) (jobId : JobId) (now : Int) (s : Store) :
    Except String (Option Unit × Store) :=
  match binding.owner with
  | .slackThread _ => .ok (some (), s)
  | .schedule _ _ _ none _ => .error "run_conflict"
  | .schedule tenantId _ _ (some runId) _ =>
      s.onDb (Db.setRunState jobs.env runId .materialized .started
        (Db.schedulerActor tenantId "scheduler" (some eventId)) (.floorSecond now) (some jobId) none
        none false)

/-- Deletes a job, with the rows that refer to it. -/
def deleteJob (jobId : JobId) (s : Store) : Store :=
  { s with
    db := { s.db with
      jobs := s.db.jobs.deleteWhere fun id _ ↦ id = jobId
      ownerBindings := s.db.ownerBindings.deleteWhere fun id _ ↦ id = jobId }
    cleanups := s.cleanups.deleteWhere fun id _ ↦ id = jobId
    workspaces := s.workspaces.deleteWhere fun id _ ↦ id = jobId }

structure CreateJobResult where
  jobId : JobId
  duplicate : Bool

/-- The run of the job has started, and its schedule is in force at that revision. -/
def runAuthorized (s : Store) (owner : JobOwner) (jobId : JobId) (now : Int) : Bool :=
  match owner with
  | .schedule _ _ _ (some runId) revision =>
      (s.db.runs.get? runId).any fun run ↦
        run.jobId = some jobId ∧ run.revision = revision ∧ run.status = .started ∧
          ((s.db.schedules.get? run.scheduleId).any fun schedule ↦
            schedule.state = .active ∧ schedule.revision = revision) ∧
          (s.db.revision? run.scheduleId revision).any fun row ↦ now < row.expiresAt.millis
  | _ => false

/-- A request with the key of a job that exists. -/
def reuseJob (jobId : JobId) (owner : JobOwner) (event : EventRow) (request : CreateJobRequest)
    (now : Int) (s : Store) : Except String (Option CreateJobResult × Store) := do
  throwIf ((s.workspaces.get? jobId).any fun document ↦
    document.objective ≠ request.objective ∨ document.workspace ≠ request.workspace)
    "job_idempotency_conflict"
  throwIf (owner.isSchedule = true ∧
    (event.status.isAgentOwned = false ∨ s.runAuthorized owner jobId now = false))
    "scheduled_run_not_authorized"
  .ok (some ⟨jobId, true⟩, s)

/-- The row of a job as it is created. -/
def newJob (eventId : EventId) (event : EventRow) (request : CreateJobRequest) (now : Int) :
    JobRow where
  sourceEventId := eventId
  jobKey := request.jobKey.getD legacyJobKey
  thread := event.replyTarget.bind ReplyTarget.thread?
  actorId := actorOf jobs event
  objective := request.objective
  availableAt := .toIso now
  createdAt := .toIso now
  updatedAt := .toIso now

/-- `none` is the refusal of a scheduled run, thrown after the transaction has committed. -/
def createJob (request : CreateJobRequest) (now : Int) (s : Store) :
    Except String (Option CreateJobResult × Store) := do
  let parsed ← request.parse
  let eventId := parsed.sourceEventId
  let event ← s.db.getRequired eventId
  let parsed := if event.source = .donaSchedule then { parsed with objective := request.objective }
    else parsed
  let binding ← orThrow (s.binding? eventId) s!"Event {eventId} does not have an authorized job owner"
  match s.db.jobs.find? fun _ job ↦
      job.sourceEventId = eventId ∧ job.jobKey = parsed.jobKey.getD legacyJobKey with
  | some (jobId, _) => s.reuseJob jobId binding.owner event parsed now
  | none => do
      let s ← (if binding.owner.isSchedule then s.admitScheduled eventId event parsed now
        else s.admitMessage jobs eventId event parsed.jobKey parsed.objective now)
      let jobId := s!"job_{s.db.nextUuid}"
      let s ← s.draw.insertJob jobId (newJob jobs eventId event parsed now)
        ⟨parsed.workspace, parsed.objective, none⟩ (eventId, binding)
      let (started, s) ← s.startRun jobs binding eventId jobId now
      match started with
      | some _ => .ok (some ⟨jobId, false⟩, s)
      | none => .ok (none, s.deleteJob jobId)

/-! ### Preparation and dispatch -/

def beginJobPreparation (jobId : JobId) (now : Int) (s : Store) : Except String (Unit × Store) := do
  let job ← orThrow (s.db.jobs.get? jobId) s!"Job {jobId} is no longer ready to prepare"
  throwIf (¬([JobStatus.queued, .retryableFailed].contains job.status = true ∧
    job.availableAt ≤ .toIso now)) s!"Job {jobId} is no longer ready to prepare"
  .ok ((), s.setStatus jobId fun job ↦
    { job with
      status := .preparing
      attemptCount := job.attemptCount + 1
      lastErrorCode := none
      lastErrorMessage := none
      steerEventId := none
      steerState := none
      updatedAt := .toIso now })

def setPane (jobId : JobId) (pane : String) (s : Store) : Store :=
  match s.panes.insert? jobId pane with
  | some panes => { s with panes := panes }
  | none => { s with panes := s.panes.updateKey jobId fun _ ↦ pane }

def setJobRuntime (jobId : JobId) (herdrWorkspaceId herdrPaneId : String) (s : Store) :
    Except String (Unit × Store) := do
  let job ← orThrow (s.db.jobs.get? jobId) s!"Job {jobId} is no longer preparing or cancelling"
  throwIf ([JobStatus.preparing, .cancelling].contains job.status = false)
    s!"Job {jobId} is no longer preparing or cancelling"
  .ok ((), (s.updateJobRow jobId fun job ↦
    { job with herdrWorkspaceId := some herdrWorkspaceId }).setPane jobId herdrPaneId)

def beginJobDispatch (jobId : JobId) (now : Int) (s : Store) : Except String (Unit × Store) := do
  let s ← s.updateJob jobs jobId [.preparing] .dispatching
    { dispatchStartedAt := some (.toIso now) } now
  .ok ((), s)

def markJobRunning (jobId : JobId) (now : Int) (s : Store) : Except String (Unit × Store) := do
  let s ← s.updateJob jobs jobId [.dispatching] .running
    { promptAcceptedAt := some (.toIso now), lastErrorCode := some none
      lastErrorMessage := some none } now
  .ok ((), s)

/-- `recordJobPreparationFailure` and `recordJobSafePromptFailure`, from their own status. -/
def recordFailure (expected : JobStatus) (jobId : JobId) (code message : String)
    (maxAttempts : ℕ) (now : Int) (s : Store) : Except String (Unit × Store) := do
  let job ← s.db.getJobRequired jobId
  throwIf (job.status ≠ expected) s!"Job {jobId} is not {expected.text}"
  let failed : Bool := maxAttempts ≤ job.attemptCount
  let s ← s.updateJob jobs jobId [expected] (if failed then .failed else .retryableFailed)
    { availableAt := some (if failed then .toIso now else retryAt job.attemptCount now)
      lastErrorCode := some (some code)
      lastErrorMessage := some (some message)
      completedAt := if failed then some (.toIso now) else none } now
  .ok ((), s)

def recordJobPreparationFailure : JobId → String → String → ℕ → Int → Store →
    Except String (Unit × Store) := recordFailure jobs .preparing

def recordJobSafePromptFailure : JobId → String → String → ℕ → Int → Store →
    Except String (Unit × Store) := recordFailure jobs .dispatching

def markJobNeedsReview (jobId : JobId) (code message : String) (now : Int) (s : Store) :
    Except String (Unit × Store) := do
  let job ← s.db.getJobRequired jobId
  if job.status.isTerminal then .ok ((), s)
  else do
    let s ← s.updateJob jobs jobId [job.status] .needsReview
      { lastErrorCode := some (some code), lastErrorMessage := some (some message)
        clearsSteer := true } now
    .ok ((), s)

def markJobBlocked (jobId : JobId) (message : String) (source : List JobStatus) (now : Int)
    (s : Store) : Except String (Unit × Store) := do
  let s ← s.updateJob jobs jobId source .blocked
    { lastErrorCode := some (some "agent_blocked"), lastErrorMessage := some (some message) } now
  .ok ((), s)

/-- `recordInvalidResultAgentStopFailure` and `recordInvalidResultAgentStopped` -/
def recordInvalidResult (jobId : JobId) (code message : String) (now : Int) (s : Store) : Store :=
  s.updateJobRow jobId fun job ↦
    if job.status = .needsReview then
      { job with
        lastErrorCode := some code, lastErrorMessage := some message, updatedAt := .toIso now }
    else job

/-- `recoverStaleJobs`. Neither statement writes a status that a trigger observes. -/
def recoverStaleJobs (now : Int) (s : Store) : Store :=
  (s.updateDb fun db ↦
    { db with
      jobs := db.jobs.updateWhere (fun _ job ↦ job.status = .preparing) fun job ↦
        { job with
          status := .retryableFailed
          availableAt := .toIso now
          lastErrorCode := some "stale_preparing"
          lastErrorMessage := some "Dispatcher restarted before the job prompt was attempted"
          updatedAt := .toIso now } }).updateDb fun db ↦
    { db with
      jobs := db.jobs.updateWhere
        (fun jobId job ↦ (job.status = .dispatching ∨ job.status = .cancelling ∨
            job.steerState = some .dispatching) ∧
          (s.handoffs.get? jobId).all (·.state ≠ .claimed)) fun job ↦
        { job with
          status := .needsReview
          lastErrorCode := some (
            if job.status = .cancelling then "ambiguous_cancel_acceptance"
            else if job.status = .dispatching then "ambiguous_prompt_acceptance"
            else "ambiguous_steer_acceptance")
          lastErrorMessage := some
            "Dispatcher restarted while job prompt, steer, or cancellation acceptance was unknown"
          steerState := none
          updatedAt := .toIso now } }

/-! ### Results -/

/-- What a scheduled job may report. -/
def checkScheduledResult (jobId : JobId) (result : JobResult) : Except String Unit := do
  throwIf (jobs.env.hasCredentialPattern (jobs.serialize result) = true ∨
    jobs.env.hasSensitiveContentPattern (jobs.serialize result) = true) "content_requires_redaction"
  throwIf (jobs.env.reportsLocalPath jobId (jobs.serialize result) = true)
    "scheduled_work_local_path_reported"
  let _ ← truncateResultContent jobs.env result.render
  throwIf (jobs.env.reportsLocalPath jobId result.render = true)
    "scheduled_work_local_path_reported"
  throwIf (result.actions ≠ []) "scheduled_work_external_write_reported"

/-- When a scheduled job may report. -/
def checkScheduledTimes (job : JobRow) (result : JobResult) (now : Int) : Except String Unit := do
  throwIf (now < result.completedAt.millis) "completed_at_is_in_the_future"
  throwIf ((job.promptAcceptedAt.or job.dispatchStartedAt).any (·.millis + 3600000 < now))
    "scheduled_work_result_deadline_exceeded"
  throwIf (job.dispatchStartedAt.any (result.completedAt.millis < ·.millis))
    "completed_at_precedes_prompt_dispatch"

/-- `automaticReasons` -/
def automaticReasons : List String :=
  ["result_missing", "agent_wait_failed", "transport_failure", "agent_not_found",
    "agent_not_running", "prompt_acceptance_unknown", "prompt_interrupted",
    "prompt_acceptance_unproven", "prompt_reconcile_timeout",
    "prompt_reconcile_transient_failures", "prompt_reconcile_transport_failure",
    "ambiguous_prompt_acceptance"]

/-- `taskMayAcceptLateResult` -/
def taskMayAcceptLateResult (job : JobRow) : Bool :=
  job.dispatchStartedAt.isSome &&
    (job.lastErrorCode.any automaticReasons.contains ||
      job.lastErrorCode = some "task_stop_pending")

/-- The reviews from which a job that is no task attempt may still report. -/
def recoverableReasons : List String :=
  ["ambiguous_prompt_acceptance", "prompt_acceptance_unknown", "prompt_interrupted",
    "cancel_acceptance_unknown", "cancel_exit_unknown", "ambiguous_cancel_acceptance",
    "agent_wait_observation_unknown", "invalid_result_agent_stopped"]

/-- `recoverAmbiguous` -/
def recoversAmbiguous (s : Store) (jobId : JobId) (job : JobRow) (operatorLate : Bool) : Bool :=
  job.status = .needsReview ∧ (operatorLate = true ∨
    if (s.forAttempt jobId).any fun entry ↦ entry.2.currentAttemptId = jobId then
      taskMayAcceptLateResult job
    else job.lastErrorCode.any recoverableReasons.contains ||
      (job.lastErrorCode = some "legacy_agent_sandbox_unknown" &&
        (s.legacyAgentsStopped.get? jobId).isSome))

/-- `lateProgressNotificationSettled` -/
def lateProgressSettled (eventId : EventId) (event : EventRow) (jobId : JobId) : Bool :=
  event.source = .donaJob ∧ event.status = .completed ∧
    (event.payload.notice?.any fun notice ↦
      notice.jobId = jobId ∧ notice.transition = some .progress) ∧
    event.result.any fun result ↦
      result.eventId = eventId ∧ result.status = .completed ∧ result.actions = []

/-- The statements that take back a notice which the agent does not have yet. -/
def closeNotice (eventId : EventId) (timestamp : Timestamp) (db : Db) : Db :=
  { db with
    events := db.events.updateWhere
      (fun id event ↦ id = eventId ∧ [EventStatus.queued, .retryableFailed].contains event.status)
      (Db.completeEvent timestamp "job_result_superseded") }

def freeAttention (sourceEventId eventId : EventId) (db : Db) : Db :=
  db.updateGroup sourceEventId fun group ↦
    if group.attentionEventId = some eventId then { group with attentionEventId := none }
    else group

def closeCompletion (eventId : EventId) (db : Db) : Db :=
  { db with
    completions := db.completions.updateWhere
      (fun _ completion ↦ Db.reports eventId completion ∧ completion.notificationState = .pending)
      (Db.withState .none) }

/-- The notice of a job that was under review is taken back for its late result. -/
def supersedeReview (eventId : EventId) (jobId : JobId) (job : JobRow) (completedAt : Timestamp)
    (operatorLate : Bool) (s : Store) : Except String Store := do
  let prior ← s.db.getRequired eventId
  let open' : Bool := [EventStatus.queued, .retryableFailed].contains prior.status
  throwIf (s.ofSlackThread job.sourceEventId = true ∧ open' = false ∧ prior.status ≠ .completed)
    "prior_notification_requires_reconciliation"
  throwIf ((s.db.completionOf eventId).any (·.2.notificationState ≠ .pending))
    "prior_notification_requires_reconciliation"
  throwIf (operatorLate = true ∧ prior.status = .completed ∧
    s.db.attentionNotificationSettled eventId prior = false ∧
    lateProgressSettled eventId prior jobId = false) "prior_notification_requires_reconciliation"
  .ok ((s.updateDb fun db ↦
    let db := closeNotice eventId completedAt db
    let db := if s.ofSlackThread job.sourceEventId = true ∧ open' = true then
        freeAttention job.sourceEventId eventId db else db
    closeCompletion eventId db).updateJobRow jobId fun job ↦
      { job with completionEventId := none })

/-- The review of a scheduled run ends with its result. -/
def recoverRun (jobId : JobId) (job : JobRow) (now : Int) (s : Store) : Except String Store :=
  match (s.binding? job.sourceEventId).map JobBinding.owner with
  | some (.schedule _ _ _ (some runId) _) => do
      let (_, s) ← s.onDb (Db.recoverWorkRunForResult runId jobId job.sourceEventId
        (.floorSecond now))
      .ok s
  | _ => .ok s

def JobResult.jobStatus (result : JobResult) : JobStatus :=
  match result.status with
  | .completed => .completed
  | .failed => .failed

/-- The error code of a job that has a result. -/
def resultErrorCode (job : JobRow) (result : JobResult) : Option String :=
  if job.status = .cancelling ∧ job.lastErrorCode ≠ some "cancel_worker_stopped" then
    some "cancel_worker_unverified"
  else if job.steerState.isSome then some "terminal_steer_worker_unverified"
  else if result.status = .failed then some "agent_reported_failure" else none

/-- A late result resolves the attention notice of the job. -/
def resolveAttention (jobId : JobId) (attentionEventId : Option EventId) (status : JobStatus)
    (kind : ResolutionKind) (now : Int) (s : Store) : Except String Store :=
  match attentionEventId with
  | none => .ok s
  | some eventId => do
      let attention ← s.db.getRequired eventId
      if (attention.payload.notice?.map (·.jobId)) = some jobId then
        s.modifyDb (Db.recordAttentionResolution jobId eventId status kind now)
      else .ok s

/-- `groups.attention_event_id` of the group of a job that belongs to a Slack thread. -/
def threadAttention? (s : Store) (sourceEventId : EventId) : Option EventId :=
  if s.ofSlackThread sourceEventId then
    (s.db.jobGroups.get? sourceEventId).bind (·.attentionEventId)
  else none

/-- The statements of `saveJobResultInternal`. -/
def storeResult (jobId : JobId) (job : JobRow) (result : JobResult) (operatorLate : Bool)
    (now : Int) (s : Store) : Except String Store := do
  let recovers := s.recoversAmbiguous jobId job operatorLate
  let attentionEventId := s.threadAttention? job.sourceEventId
  let s ← (if recovers then
      match job.completionEventId with
      | some eventId => s.supersedeReview eventId jobId job result.completedAt operatorLate
      | none => .ok s
    else .ok s)
  let s ← (if recovers then s.recoverRun jobId job now else .ok s)
  let s ← s.updateJob jobs jobId (if recovers then [.needsReview] else [.running, .cancelling])
    (JobResult.jobStatus result)
    { result := some result
      completedAt := some result.completedAt
      lastErrorCode := some (resultErrorCode job result)
      lastErrorMessage := some (if result.status = .failed then some result.summary else none) } now
  let s ← (if recovers then
      s.resolveAttention jobId attentionEventId (JobResult.jobStatus result) .validatedResult now
    else .ok s)
  if s.ofSchedule job.sourceEventId then do
    let (_, s) ← s.onDb (Db.materializeJobCompletion jobs.env jobId now)
    .ok s
  else .ok s

def saveJobResultInternal (jobId : JobId) (result : JobResult) (operatorLate : Bool) (now : Int)
    (s : Store) : Except String (Unit × Store) := do
  let job ← s.db.getJobRequired jobId
  s.assertCurrent jobId
  s.db.assertJobCompletionBinding jobId job
  throwIf (result.jobId ≠ jobId) "job_result_identity_mismatch"
  if job.result = some result ∧ job.status = JobResult.jobStatus result then .ok ((), s)
  else do
    if s.ofSchedule job.sourceEventId then checkScheduledResult jobs jobId result else .ok ()
    if s.ofSchedule job.sourceEventId then checkScheduledTimes job result now else .ok ()
    let s ← s.storeResult jobs jobId job result operatorLate now
    .ok ((), s)

def saveJobResult (jobId : JobId) (result : JobResult) (now : Int) (s : Store) :
    Except String (Unit × Store) := s.saveJobResultInternal jobs jobId result false now

/-- The statement by which an operator fails a job under review, without a result. -/
def failReviewed (jobId : JobId) (expectedUpdatedAt : Timestamp) (code : String)
    (message : Option String) (now : Int) (s : Store) : Except String (Unit × Store) := do
  let job ← s.db.getJobRequired jobId
  throwIf (job.status ≠ .needsReview ∨ job.updatedAt ≠ expectedUpdatedAt ∨ job.result ≠ none)
    "job_changed_since_review"
  .ok ((), s.setStatus jobId fun job ↦
    { job with
      status := .failed
      completedAt := some (.toIso now)
      updatedAt := .toIso now
      completionEventId := none
      lastErrorCode := some code
      lastErrorMessage := message })

/-! ### Steering -/

/-- `assertJobSteerAllowed` -/
def assertJobSteerAllowed (s : Store) (jobId : JobId) : Except String Unit :=
  throwIf ((s.db.ownerBindings.get? jobId).any fun owner ↦ owner.2.owner.isSchedule)
    "Scheduled jobs cannot be steered"

/-- The event comes from the owner of the job, in Slack. -/
def assertControl (s : Store) (jobId : JobId) (sourceEventId : EventId) (error : String) :
    Except String Unit := do
  s.db.assertJobSourceMatchesThread jobId sourceEventId
  s.assertJobSteerAllowed jobId
  let event ← s.db.getRequired sourceEventId
  throwIf (event.source ≠ .slack) error

def controlRequiresSlack : String := "Job control requires a Slack source event"

/-- The result says whether the event was applied before. -/
def appendQueuedJobInstruction (jobId : JobId) (sourceEventId : EventId) (instruction : String)
    (now : Int) (s : Store) : Except String (Bool × Store) := do
  s.assertControl jobId sourceEventId controlRequiresSlack
  let row ← s.db.getJobRequired jobId
  if (s.queuedSteers.get? (jobId, sourceEventId)).isSome then .ok (true, s)
  else do
    throwIf ([JobStatus.queued, .retryableFailed].contains row.status = false)
      s!"Job {jobId} is not waiting to start"
    let addition := "\n\n[DONA_FOLLOW_UP]\n" ++ instruction ++ "\n[/DONA_FOLLOW_UP]"
    throwIf (jobObjectiveCharacterMax < (row.objective ++ addition).length)
      "Effective job objective character limit exceeded"
    let siblings := s.db.jobs.select fun _ job ↦ job.sourceEventId = row.sourceEventId
    throwIf (jobs.limits.jobObjectiveTotalMaxBytes <
      (siblings.map (·.2.objective.utf8ByteSize)).sum + addition.utf8ByteSize)
      "job_group_limit_exceeded"
    let receipts ← orThrow (s.queuedSteers.insert? (jobId, sourceEventId) ())
      "UNIQUE constraint failed: job_queued_steer_receipts.job_id"
    .ok (false, { s.updateJobRow jobId fun job ↦
      { job with
        objective := row.objective ++ addition
        steerEventId := some sourceEventId
        steerState := some .accepted
        updatedAt := .toIso now } with queuedSteers := receipts })

/-- The result says whether the event was applied before. -/
def beginJobSteer (jobId : JobId) (sourceEventId : EventId) (now : Int) (s : Store) :
    Except String (Bool × Store) := do
  s.assertControl jobId sourceEventId controlRequiresSlack
  let row ← s.db.getJobRequired jobId
  if (s.queuedSteers.get? (jobId, sourceEventId)).isSome ∨
      (row.steerEventId = some sourceEventId ∧ row.steerState = some .accepted) then .ok (true, s)
  else do
    throwIf (¬(row.status = .running ∨ (s.pendingSteer jobId sourceEventId = true ∧
      (row.status = .blocked ∨ row.status = .needsReview))))
      s!"Job {jobId} in status {row.status.text} cannot be steered"
    .ok (false, s.updateJobRow jobId fun job ↦
      { job with
        steerEventId := some sourceEventId
        steerState := some .dispatching
        updatedAt := .toIso now })

/-- A steer prompt of this event is under way. -/
def steering (job : JobRow) (sourceEventId : EventId) : Bool :=
  job.steerEventId = some sourceEventId ∧ job.steerState = some .dispatching

def markJobSteerAccepted (jobId : JobId) (sourceEventId : EventId) (now : Int) (s : Store) :
    Except String (Unit × Store) := do
  let job ← orThrow (s.db.jobs.get? jobId) s!"Job {jobId} steer state changed unexpectedly"
  throwIf (steering job sourceEventId = false) s!"Job {jobId} steer state changed unexpectedly"
  let s := s.updateJobRow jobId fun job ↦
    { job with
      steerState := some .accepted
      lastErrorCode := if job.status.isTerminal then some "terminal_steer_worker_unverified"
        else job.lastErrorCode
      updatedAt := .toIso now }
  if s.pendingSteer jobId sourceEventId ∧ (job.status = .blocked ∨ job.status = .needsReview) then
    .ok ((), s.setStatus jobId fun job ↦
      { job with status := .running, lastErrorCode := none, lastErrorMessage := none })
  else .ok ((), s)

def clearJobSteer (jobId : JobId) (sourceEventId : EventId) (now : Int) (s : Store) : Store :=
  s.updateJobRow jobId fun job ↦
    if steering job sourceEventId then
      { job with steerEventId := none, steerState := none, updatedAt := .toIso now }
    else job

/-! ### Cancellation -/

/-- One notice of the group, before a job of the group is cancelled. -/
def withdrawNotice (sourceEventId : EventId) (now : Int) (s : Store) (eventId : EventId) :
    Except String Store := do
  let previous ← s.db.getRequired eventId
  if [EventStatus.queued, .retryableFailed].contains previous.status then
    .ok (s.updateDb fun db ↦
      { (closeNotice eventId (.toIso now) db).updateGroup sourceEventId fun group ↦
          { group with
            attentionEventId := if group.attentionEventId = some eventId then none
              else group.attentionEventId
            allTerminalEventId := if group.allTerminalEventId = some eventId then none
              else group.allTerminalEventId } with
        jobs := db.jobs.updateWhere
          (fun _ job ↦ job.sourceEventId = sourceEventId ∧ job.completionEventId = some eventId)
          fun job ↦ { job with completionEventId := none } })
  else do
    throwIf (previous.status ≠ .completed) "prior_notification_requires_reconciliation"
    .ok s

/-- The notice of a scheduled job, before the job is cancelled or reconciled. -/
def withdrawCompletion (eventId : EventId) (timestamp : Timestamp) (unauthorizedOnly : Bool)
    (missingFails : Bool) (s : Store) : Except String Store := do
  match s.db.completionOf eventId with
  | none => do
      throwIf (missingFails = true) "prior_notification_requires_reconciliation"
      .ok s
  | some (_, completion) =>
      if completion.notificationState = .pending ∧ (unauthorizedOnly = true →
          completion.notificationAuthorizationPhase = .none) then do
        throwIf ((s.db.events.get? eventId).all fun event ↦
          [EventStatus.queued, .retryableFailed].contains event.status = false)
          "prior_notification_requires_reconciliation"
        .ok (s.updateDb fun db ↦ closeCompletion eventId (closeNotice eventId timestamp db))
      else do
        throwIf ([NotificationState.none, .accepted].contains completion.notificationState = false)
          "prior_notification_requires_reconciliation"
        .ok s

/-- The notices that a cancellation takes back. -/
def withdrawNotices (job : JobRow) (now : Int) (s : Store) : Except String Store :=
  if s.ofSlackThread job.sourceEventId then
    let group := s.db.jobGroups.get? job.sourceEventId
    ([job.completionEventId, group.bind (·.attentionEventId), group.bind (·.allTerminalEventId)]
      |>.reduceOption.dedup).foldlM (withdrawNotice job.sourceEventId now) s
  else
    match job.completionEventId with
    | some eventId => s.withdrawCompletion eventId (.toIso now) true false
    | none => .ok s

def unknownCancellation (job : JobRow) : Bool :=
  job.status = .needsReview ∧ job.lastErrorCode.any fun code ↦
    ["cancel_acceptance_unknown", "cancel_exit_unknown", "ambiguous_cancel_acceptance"].contains code

def beginJobCancellation (jobId : JobId) (sourceEventId : EventId) (now : Int) (s : Store) :
    Except String (Unit × Store) := do
  s.db.assertJobSourceMatchesThread jobId sourceEventId
  throwIf ((s.handoffs.get? jobId).any (·.state = .claimed)) "handoff_retirement_pending"
  let row ← s.db.getJobRequired jobId
  if row.status = .cancelled then .ok ((), s)
  else do
    throwIf (unknownCancellation row = true) "cancellation_requires_reconciliation"
    throwIf ([JobStatus.queued, .retryableFailed, .preparing, .dispatching, .running, .blocked,
      .needsReview].contains row.status = false)
      s!"Job {jobId} in status {row.status.text} cannot be cancelled"
    let s ← s.withdrawNotices row now
    let s := s.updateDb fun db ↦ db.updateGroup row.sourceEventId fun group ↦
      { group with allTerminalEventId := none }
    let s ← s.updateJob jobs jobId [row.status] .cancelling { clearsCompletion := true } now
    .ok ((), s.updateJobRow jobId fun job ↦
      { job with lastErrorCode := some "cancel_worker_unverified" })

def markJobCancelled (jobId : JobId) (reason : String) (now : Int) (s : Store) :
    Except String (Unit × Store) := do
  let s ← s.updateJob jobs jobId [.cancelling] .cancelled
    { completedAt := some (.toIso now)
      lastErrorCode := some (some "cancelled")
      lastErrorMessage := some (some reason) } now
  let job ← s.db.getJobRequired jobId
  let s ← s.resolveAttention jobId (s.threadAttention? job.sourceEventId) .cancelled
    .operatorReconcile now
  .ok ((), s)

/-- The notice of a scheduled job is withdrawn, and the job forgets it. -/
def unlinkCompletion (jobId : JobId) (completionEventId : Option EventId) (timestamp : Timestamp)
    (unauthorizedOnly missingFails : Bool) (s : Store) : Except String Store :=
  match completionEventId with
  | some eventId => do
      let s ← s.withdrawCompletion eventId timestamp unauthorizedOnly missingFails
      .ok (s.updateJobRow jobId fun job ↦ { job with completionEventId := none })
  | none => .ok s

def settleAmbiguousCancellation (jobId : JobId) (reason : String) (now : Int) (s : Store) :
    Except String (Unit × Store) := do
  let job ← s.db.getJobRequired jobId
  match (s.binding? job.sourceEventId).map JobBinding.owner with
  | some (.schedule tenantId _ _ (some runId) _) => do
      let s ← s.unlinkCompletion jobId job.completionEventId (.toIso now) false true
      let (_, s) ← s.onDb (Db.markWorkRunNeedsReview runId jobId (.floorSecond now)
        job.sourceEventId)
      let (_, s) ← s.onDb (Db.reconcileWorkRun runId .cancelled
        (Db.schedulerActor tenantId "dispatcher-admin" none) (.floorSecond now))
      let s ← s.updateJob jobs jobId [.needsReview] .cancelled
        { completedAt := some (.toIso now)
          lastErrorCode := some (some "cancelled")
          lastErrorMessage := some (some reason) } now
      .ok ((), s)
  | _ => .error "scheduled_job_binding_required"

/-- The error code of a scheduled job after the reconciliation of its run. -/
def reconciledCode (s : Store) (jobId : JobId) (job : JobRow) : Option String :=
  if (job.dispatchStartedAt.isSome ∨ job.promptAcceptedAt.isSome ∨ job.herdrWorkspaceId.isSome ∨
      job.lastErrorCode.any fun code ↦
        ["stale_preparing_agent_unverified", "legacy_agent_sandbox_unknown"].contains code) ∧
    (job.lastErrorCode.all fun code ↦
      !(["invalid_result_agent_stopped", "agent_not_found", "agent_not_running"].contains code)) ∧
    (s.legacyAgentsStopped.get? jobId).isNone then some "schedule_reconcile_worker_unverified"
  else none

def reconcileScheduledRun (runId : Uuid) (outcome : Db.WorkRunOutcome) (now : Int) (s : Store) :
    Except String (Unit × Store) := do
  let run ← orThrow (s.db.runs.get? runId) s!"Run {runId} was not found"
  let schedule ← orThrow (s.db.schedules.get? run.scheduleId) s!"Run {runId} was not found"
  let reconcile : Store → Except String (Unit × Store) := fun s ↦ s.onDb
    (Db.reconcileWorkRun runId outcome (Db.schedulerActor schedule.tenantId "dispatcher-admin" none)
      (.floorSecond now))
  match run.jobId with
  | none => reconcile s
  | some jobId => do
      let job ← s.db.getJobRequired jobId
      let s ← s.unlinkCompletion jobId job.completionEventId (.floorSecond now) true false
      let (_, s) ← reconcile s
      if job.status = .needsReview ∨ job.status = .blocked then
        .ok ((), s.setStatus jobId fun job ↦
          { job with
            status := if outcome = .failed then .failed else .cancelled
            completedAt := some (.floorSecond now)
            lastErrorCode := s.reconciledCode jobId job
            lastErrorMessage := none
            updatedAt := .floorSecond now })
      else .ok ((), s)

end Store

end Dona
