import Dona.Jobs.Handoffs

/-!
# Tasks

`TaskRepository` of `task-execution.ts`. A task is controlled by its owner in Slack, observed by
the supervisor and moved by the triggers on its current attempt. The supervisor acts on the row
of a task that it read earlier, and the statements check what must not have changed since.
-/

namespace Dona

open Fallible

/-! ### Requests -/

/-- `[\w.-]+` -/
def isWordPath (text : List Char) : Bool :=
  text ≠ [] && text.all fun c ↦ c.isAlphanum || ['_', '.', '-'].contains c

/-- `/^[\w.-]+\/[\w.-]+$/` -/
def isTaskRepository (text : String) : Bool :=
  let owner := text.toList.takeWhile (· ≠ '/')
  isWordPath owner && isWordPath ((text.toList.drop owner.length).tail) &&
    (text.toList.drop owner.length).head? = some '/'

def acceptsTaskWorkspace : JobWorkspace → Bool
  | .scratch => true
  | .github repository baseRef => isTaskRepository repository &&
      baseRef.all fun ref ↦ 1 ≤ ref.length && ref.length ≤ 255

def JobWorkspace.repository? : JobWorkspace → Option String
  | scratch => none
  | github repository _ => some repository

/-- `taskRequestSchema` -/
def TaskRequest.parse (request : TaskRequest) : Except String TaskRequest := do
  throwIf (isJobKey request.taskKey = false) "task_key: Invalid string"
  throwIf (trimmed request.objective = "" ∨ 100000 < (trimmed request.objective).length)
    "objective: Invalid string"
  throwIf (acceptsTaskWorkspace request.workspace = false) "workspace: Invalid input"
  throwIf (request.issueNumber.any (· = 0)) "issue_number: Invalid input"
  throwIf (request.project.any fun project ↦ project.number = 0 ∨ project.owner = "" ∨
    project.owner.toList.all (fun c ↦ c.isAlphanum || ['_', '-'].contains c) = false)
    "project: Invalid input"
  throwIf (¬(1 ≤ request.policy.maxAttempts ∧ request.policy.maxAttempts ≤ 10))
    "policy.max_attempts: Invalid input"
  throwIf (¬(1000 ≤ request.policy.retryDelayMs ∧ request.policy.retryDelayMs ≤ 86400000))
    "policy.retry_delay_ms: Invalid input"
  throwIf (request.issueNumber ≠ none ∧ request.workspace.repository? = none)
    "Issue requires a GitHub workspace"
  throwIf (request.project ≠ none ∧ request.issueNumber = none) "Project requires an Issue"
  .ok { request with objective := trimmed request.objective }

namespace Store

variable (jobs : JobsEnv)

/-! ### Ownership -/

/-- The event and the event the task was created from speak of one thread and one actor. -/
def sameSpeaker (original event : EventRow) : Bool :=
  (original.replyTarget.bind ReplyTarget.thread?).any (fun thread ↦
    event.replyTarget.bind ReplyTarget.thread? = some thread) ∧
  (actorOf jobs original).any fun actor ↦ actorOf jobs event = some actor

def assertOwner (taskId : TaskId) (eventId : EventId) (s : Store) : Except String TaskRow := do
  let task ← orThrow (s.tasks.get? taskId) "task_owner_mismatch"
  s.db.assertJobSourceMatchesThread task.currentAttemptId eventId
  let event ← orThrow (s.db.events.get? eventId) "task_owner_mismatch"
  throwIf (event.source ≠ .slack ∧ event.source ≠ .donaJob) "task_owner_mismatch"
  throwIf (event.source = .donaJob ∧ subjectSource? event ≠ some task.sourceEventId)
    "task_owner_mismatch"
  let original ← orThrow (s.db.events.get? task.sourceEventId) "task_owner_mismatch"
  throwIf (sameSpeaker jobs original event = false) "task_owner_mismatch"
  .ok task

/-- The owner of the task asks for a control in Slack. -/
def assertTaskControl (taskId : TaskId) (eventId : EventId) (s : Store) : Except String TaskRow := do
  let task ← s.assertOwner jobs taskId eventId
  throwIf ((s.db.events.get? eventId).all (·.source ≠ .slack)) "task_control_requires_slack"
  .ok task

def insertControl (taskId : TaskId) (eventId : EventId) (control : TaskControl) (s : Store) :
    Except String Store := do
  let controls ← orThrow (s.controls.insert? (taskId, eventId) control)
    "UNIQUE constraint failed: task_controls.task_id, task_controls.source_event_id"
  .ok { s with controls := controls }

/-! ### Creation -/

inductive CreateOutcome
  | created | reused
  deriving DecidableEq

/-- The issue that was verified is the one of the request. -/
def issueMatches (request : TaskRequest) (issue : Option VerifiedTaskIssue) : Bool :=
  issue.any fun issue ↦ some issue.number = request.issueNumber ∧
    request.workspace.repository?.any fun repository ↦
      issue.repository.toLower = repository.toLower

def jobRequest (request : TaskRequest) : CreateJobRequest where
  sourceEventId := request.sourceEventId
  jobKey := if request.taskKey = legacyJobKey then none else some request.taskKey
  objective := request.objective
  workspace := request.workspace
  display := request.display

def insertAttempt (jobId : JobId) (attempt : TaskAttempt) (s : Store) : Except String Store := do
  throwIf (s.attempts.any (fun _ other ↦
    other.taskId = attempt.taskId ∧ other.number = attempt.number))
    "UNIQUE constraint failed: task_attempts.task_id, task_attempts.number"
  let attempts ← orThrow (s.attempts.insert? jobId attempt)
    "UNIQUE constraint failed: task_attempts.attempt_id"
  .ok { s with attempts := attempts }

def insertTask (taskId : TaskId) (task : TaskRow) (s : Store) : Except String Store := do
  throwIf (s.tasks.any (fun _ other ↦ other.currentAttemptId = task.currentAttemptId))
    "UNIQUE constraint failed: tasks.current_attempt_id"
  let tasks ← orThrow (s.tasks.insert? taskId task) "UNIQUE constraint failed: tasks.task_id"
  .ok { s with tasks := tasks }

/-- The row of a task as it is created. -/
def newTask (request : TaskRequest) (issue : Option VerifiedTaskIssue) (jobId : JobId) (now : Int) :
    TaskRow where
  sourceEventId := request.sourceEventId
  taskKey := request.taskKey
  request := request
  resourceId := issue.map fun issue ↦ "github:" ++ issue.nodeId
  currentAttemptId := jobId
  maxAttempts := request.policy.maxAttempts
  retryDelayMs := request.policy.retryDelayMs
  objective := request.objective
  project := issue.bind (·.project)
  createdAt := .toIso now
  updatedAt := .toIso now

/-- Creates the first attempt of a task, then the task. -/
def createFirst (request : TaskRequest) (issue : Option VerifiedTaskIssue) (now : Int) (s : Store) :
    Except String ((CreateOutcome × TaskId) × Store) := do
  throwIf (request.issueNumber ≠ none ∧ issueMatches request issue = false)
    "task_issue_identity_unverified"
  throwIf (request.project ≠ none ∧ (issue.bind (·.project)) = none)
    "task_project_identity_unverified"
  throwIf (issue.any fun issue ↦ s.tasks.any fun _ task ↦
    task.resourceId = some ("github:" ++ issue.nodeId)) "task_resource_already_claimed"
  let (created, s) ← s.createJob jobs (jobRequest request) now
  let created ← orThrow created "scheduled_run_not_authorized"
  throwIf (created.duplicate = true) "task_attempt_identity_conflict"
  let taskId := s.db.nextUuid
  let s ← s.draw.insertTask taskId (newTask request issue created.jobId now)
  let s ← s.insertAttempt created.jobId
    { taskId := taskId, number := 1, createdAt := .toIso now }
  .ok ((.created, taskId), s)

def create (request : TaskRequest) (issue : Option VerifiedTaskIssue) (now : Int) (s : Store) :
    Except String ((CreateOutcome × TaskId) × Store) := do
  let parsed ← request.parse
  let event ← orThrow (s.db.events.get? parsed.sourceEventId) "task_slack_owner_required"
  throwIf (event.source ≠ .slack ∨ actorOf jobs event = none) "task_slack_owner_required"
  match s.tasks.find? fun _ task ↦
      task.sourceEventId = parsed.sourceEventId ∧ task.taskKey = parsed.taskKey with
  | some (taskId, previous) => do
      throwIf (previous.request ≠ parsed) "task_idempotency_conflict"
      let _ ← s.assertOwner jobs taskId parsed.sourceEventId
      .ok ((.reused, taskId), s)
  | none => s.createFirst jobs parsed issue now

/-! ### Controls -/

def TaskAction.desired : TaskAction → DesiredState
  | .pause => .paused
  | .resume => .running
  | .cancel => .cancelled

def TaskAction.requested : TaskAction → WaitReason
  | .pause => .pauseRequested
  | .resume => .resumeRequested
  | .cancel => .cancelRequested

/-- The task asks for the action. -/
def requested (action : TaskAction) (now : Int) (task : TaskRow) : TaskRow :=
  { task with
    state := if action = .pause then .paused else .waiting
    desiredState := TaskAction.desired action
    waitReason := some (TaskAction.requested action)
    nextCheckAt := some (.toIso now)
    revision := task.revision + 1
    updatedAt := .toIso now }

/-- The job was never prepared, so that the action needs no worker. -/
def isUndispatched (s : Store) (jobId : JobId) (job : JobRow) : Bool :=
  job.dispatchStartedAt = none ∧ (s.panes.get? jobId) = none ∧
    (job.status = .queued ∨ job.status = .blocked)

/-- The action on a job that was never prepared. -/
def controlUndispatched (taskId : TaskId) (jobId : JobId) (action : TaskAction) (now : Int)
    (s : Store) : Store :=
  match action with
  | .cancel => s.setStatus jobId fun job ↦
      { job with status := .cancelled, completedAt := some (.toIso now) }
  | .pause => (s.setStatus jobId fun job ↦
      { job with status := .blocked, lastErrorCode := some "task_paused" }).updateTask taskId
        fun task ↦
          { task with state := .paused, waitReason := some .paused, nextCheckAt := none }
  | .resume => (s.setStatus jobId fun job ↦
      { job with status := .queued, lastErrorCode := none }).updateTask taskId fun task ↦
        { task with state := .active, waitReason := none, nextCheckAt := none }

def control (taskId : TaskId) (eventId : EventId) (revision : ℕ) (action : TaskAction) (now : Int)
    (s : Store) : Except String (Unit × Store) := do
  let task ← s.assertTaskControl jobs taskId eventId
  match s.controls.get? (taskId, eventId) with
  | some old => do
      throwIf (old.request ≠ .control revision action) "task_control_conflict"
      .ok ((), s)
  | none => do
      throwIf (task.revision ≠ revision) "task_revision_conflict"
      throwIf (task.state.isTerminal = true) "task_terminal"
      throwIf (action = .resume ∧ task.state ≠ .paused) "task_resume_requires_paused"
      throwIf (action = .pause ∧
        (s.db.jobs.get? task.currentAttemptId).any (·.status = .blocked))
        "task_human_input_pending"
      let job ← s.db.getJobRequired task.currentAttemptId
      let s := s.updateTask taskId (requested action now)
      let s := if s.isUndispatched task.currentAttemptId job then
          s.controlUndispatched taskId task.currentAttemptId action now
        else s
      let s ← s.insertControl taskId eventId { request := .control revision action }
      .ok ((), s)

def steerNote (instruction : String) : String :=
  "\n\n利用者の追加指示（既存の承認境界を維持）:\n" ++ instruction

/-- A task that a steer may address: it is active, or waits for an answer. -/
def maySteer (task : TaskRow) : Bool :=
  (task.state = .active ∨ (task.state = .waiting ∧ task.waitReason = some .humanInput)) ∧
    task.desiredState = .running ∧ task.stopState = .none

/-- The result says whether the steer is new. -/
def prepareSteer (taskId : TaskId) (eventId : EventId) (revision : ℕ) (instruction : String)
    (s : Store) : Except String (Bool × Store) := do
  let task ← s.assertTaskControl jobs taskId eventId
  match s.controls.get? (taskId, eventId) with
  | some prior => do
      throwIf (prior.request ≠ .steer revision instruction) "task_control_conflict"
      .ok (false, s)
  | none => do
      throwIf (task.revision ≠ revision ∨ maySteer task = false) "task_control_conflict"
      let objective := task.objective ++ steerNote instruction
      throwIf (100000 < objective.length) "task_objective_limit"
      let attempt ← s.getAttempt task.currentAttemptId
      let s ← (s.updateTask taskId fun task ↦
        { task with
          objective := objective
          revision := task.revision + 1
          state := .waiting
          waitReason := some .steerAcceptanceUnknown
          steerPendingEventId := some eventId }).insertControl taskId eventId
            ⟨.steer revision instruction, attempt.checkpoint.map (·.sequence)⟩
      .ok (true, s)

/-- The task goes on, when its steer was accepted. -/
def steerFinished (task : TaskRow) : TaskRow :=
  if task.desiredState = .running ∧ task.waitReason = some .steerAcceptanceUnknown then
    { task with
      state := .active, waitReason := none, nextCheckAt := none, steerPendingEventId := none }
  else task

def finishSteer (taskId : TaskId) (eventId : EventId) (s : Store) :
    Except String (Unit × Store) := do
  let task ← s.getTask taskId
  let job ← s.db.getJobRequired task.currentAttemptId
  if task.steerPendingEventId ≠ some eventId ∨ job.steerEventId ≠ some eventId ∨
      job.steerState ≠ some .accepted then .ok ((), s)
  else
    let sequence := ((s.controls.get? (taskId, eventId)).bind (·.checkpointSequence)).getD 0
    .ok ((), (s.updateAttempt task.currentAttemptId fun attempt ↦
      { attempt with
        checkpointAckSequence := max attempt.checkpointAckSequence sequence }).updateTask taskId
          steerFinished)

def retry (taskId : TaskId) (eventId : EventId) (revision maxAttempts : ℕ) (now : Int) (s : Store) :
    Except String (Unit × Store) := do
  let task ← s.assertTaskControl jobs taskId eventId
  match s.controls.get? (taskId, eventId) with
  | some prior => do
      throwIf (prior.request ≠ .retry revision maxAttempts) "task_control_conflict"
      .ok ((), s)
  | none => do
      throwIf (task.revision ≠ revision) "task_revision_conflict"
      throwIf (task.waitReason ≠ some .retryExhausted ∨ task.stopState ≠ .stopped ∨
        task.desiredState ≠ .running) "task_retry_requires_exhausted_stopped_attempt"
      throwIf (maxAttempts ≤ task.attemptNumber ∨ 10 < maxAttempts) "task_retry_budget_invalid"
      let s ← (s.updateTask taskId fun task ↦
        { task with
          maxAttempts := maxAttempts
          state := .waiting
          waitReason := some .resumeRequested
          nextCheckAt := some (.toIso now)
          revision := task.revision + 1 }).insertControl taskId eventId
            { request := .retry revision maxAttempts }
      .ok ((), s)

/-! ### Observations of the supervisor -/

/-- The two reasons that count towards `worker_unknown`. -/
def countsFailure (reason : WaitReason) : Bool :=
  reason = .observationUnknown ∨ reason = .workerStopPending

def countFailure (seen : TaskRow) (reason : WaitReason) (task : TaskRow) : TaskRow :=
  if countsFailure reason ∧ task.currentAttemptId = seen.currentAttemptId then
    { task with observationFailures := task.observationFailures + 1 }
  else task

/-- The wait is recorded unless the task has changed since it was seen. -/
def waited (seen : TaskRow) (reason : WaitReason) (delayMs : Int) (now : Int) (task : TaskRow) :
    TaskRow :=
  if task.currentAttemptId = seen.currentAttemptId ∧ task.revision = seen.revision ∧
      task.state.isTerminal = false then
    { task with
      state := if task.state = .paused then .paused else .waiting
      waitReason := some reason
      nextCheckAt := some (.toIso (now + delayMs))
      updatedAt := .toIso now }
  else task

def wait (taskId : TaskId) (seen : TaskRow) (reason : WaitReason) (delayMs : Int) (now : Int)
    (s : Store) : Except String (Unit × Store) := do
  let s := s.updateTask taskId (countFailure seen reason)
  let task ← s.getTask taskId
  let exhausted : Bool := countsFailure reason ∧ 3 ≤ task.observationFailures
  .ok ((), s.updateTask taskId (waited seen (if exhausted then .workerUnknown else reason)
    (if exhausted then max delayMs 60000 else delayMs) now))

def reconnect (taskId : TaskId) (seen : TaskRow) (s : Store) : Except String (Unit × Store) := do
  let fresh ← s.getTask taskId
  if fresh.revision ≠ seen.revision ∨ fresh.currentAttemptId ≠ seen.currentAttemptId ∨
      fresh.desiredState ≠ .running ∨ (fresh.stopState ≠ .none ∧ fresh.stopState ≠ .notSent) then
    .ok ((), s)
  else
    let s := if (s.db.jobs.get? seen.currentAttemptId).any fun job ↦
          job.status = .needsReview ∨ job.status = .blocked then
        s.setStatus seen.currentAttemptId fun job ↦
          { job with status := .running, lastErrorCode := none, lastErrorMessage := none }
      else s
    .ok ((), s.updateTask taskId fun task ↦
      { task with
        state := .active
        waitReason := none
        nextCheckAt := none
        stopState := .none
        stopEvidence := none
        observationFailures := 0 })

/-- What the worker may look like when it is to be stopped. -/
def stoppable (desired : DesiredState) (evidence : WorkerObservation) : Bool :=
  evidence.processIds ≠ [] ∧ evidence.processGroups ≠ [] ∧
    (if desired ≠ .running then [WorkerActivity.working, .waiting, .inactive, .stopped]
      else [.inactive, .stopped]).contains evidence.state

def claimStop (taskId : TaskId) (seen : TaskRow) (evidence : WorkerObservation)
    (files : JobId → Bool) (s : Store) : Except String (TaskRow × Store) := do
  let fresh ← s.getTask taskId
  throwIf (fresh.revision ≠ seen.revision ∨ fresh.currentAttemptId ≠ seen.currentAttemptId)
    "task_revision_conflict"
  if fresh.stopState ≠ .none then .ok (fresh, s)
  else do
    throwIf (stoppable fresh.desiredState evidence = false) "task_stop_evidence_missing"
    let job ← s.db.getJobRequired seen.currentAttemptId
    throwIf (job.result ≠ none ∨ files seen.currentAttemptId = true ∨
      job.steerState = some .dispatching) "task_reconciliation_required"
    let s := (s.setStatus seen.currentAttemptId fun job ↦
      { job with status := .needsReview, lastErrorCode := some "task_stop_pending" }).updateTask
        taskId fun task ↦
          { task with
            stopState := .notSent
            stopEvidence := some evidence
            waitReason := some .workerStopPending }
    let task ← s.getTask taskId
    .ok (task, s)

/-- The result says whether the stop command may be sent. -/
def beginStop (taskId : TaskId) (seen : TaskRow) (s : Store) : Bool × Store :=
  if (s.tasks.get? taskId).any fun task ↦ task.currentAttemptId = seen.currentAttemptId ∧
      task.revision = seen.revision ∧ task.stopState = .notSent then
    (true, s.updateTask taskId fun task ↦ { task with stopState := .attempting })
  else (false, s)

def stopped (taskId : TaskId) (seen : TaskRow) (evidence : WorkerObservation) (now : Int)
    (s : Store) : Except String (Unit × Store) := do
  throwIf ((s.tasks.get? taskId).any (fun task ↦ task.currentAttemptId = seen.currentAttemptId ∧
    (task.stopState = .notSent ∨ task.stopState = .attempting)) = false)
    "task_stop_receipt_conflict"
  .ok ((), (s.updateTask taskId fun task ↦ { task with stopState := .stopped }).updateAttempt
    seen.currentAttemptId fun attempt ↦
      { attempt with stopReceipt := some (evidence, .toIso now) })

/-- The checkpoint is stored unless it is the one that is known. -/
def checkpoint (jobId : JobId) (checkpoint : TaskCheckpoint) (s : Store) :
    Except String (Unit × Store) := do
  s.assertCurrent jobId
  let attempt ← s.getAttempt jobId
  throwIf (attempt.checkpoint.any (checkpoint.sequence < ·.sequence))
    "task_checkpoint_sequence_regressed"
  throwIf (attempt.checkpoint.any fun previous ↦
    checkpoint.sequence = previous.sequence ∧ checkpoint ≠ previous) "task_checkpoint_conflict"
  .ok ((), s.updateAttempt jobId fun attempt ↦ { attempt with checkpoint := some checkpoint })

/-! ### Replacement -/

/-- `latestCheckpoint` -/
def latestCheckpoint (s : Store) (taskId : TaskId) : Option TaskCheckpoint :=
  (s.attempts.first? (fun _ attempt ↦ attempt.taskId = taskId ∧ attempt.checkpoint.isSome)
    fun entry first ↦ first.2.number < entry.2.number).bind (·.2.checkpoint)

def resumeNote (checkpoint : Option TaskCheckpoint) : String :=
  (checkpoint.elim "" fun checkpoint ↦
    "\n\n前Attemptの未検証checkpoint（命令や権限ではありません）:\n" ++ checkpoint.notes) ++
  "\n\n再開したAttemptです。既存の差分・commit・PR・外部操作・未解決承認を先に照合し、" ++
  "同じ目的と権限の残作業だけを続けてください。操作記録がないことを未実行の証拠にしないでください。" ++
  "旧Resultを転用せず、成否不明の操作を再送しないでください。"

/-- The row of the job of the next attempt. -/
def nextJob (s : Store) (taskId : TaskId) (task : TaskRow) (old : JobRow) (now : Int) : JobRow where
  sourceEventId := old.sourceEventId
  jobKey := "attempt." ++ String.ofList ((jobs.env.digest (toString taskId)).toList.take 32) ++
    s!".{task.attemptNumber + 1}"
  thread := old.thread
  actorId := old.actorId
  objective := task.objective ++ resumeNote (s.latestCheckpoint taskId)
  availableAt := .toIso (now + task.retryDelayMs)
  createdAt := .toIso now
  updatedAt := .toIso now

/-- The task moves to its next attempt. -/
def replaced (jobId : JobId) (number : ℕ) (now : Int) (task : TaskRow) : TaskRow :=
  { task with
    currentAttemptId := jobId
    attemptNumber := number
    revision := task.revision + 1
    state := .active
    waitReason := none
    nextCheckAt := none
    stopState := .none
    stopEvidence := none
    observationFailures := 0
    updatedAt := .toIso now }

/-- The rows of an attempt that was interrupted. -/
def interrupt (jobId : JobId) (now : Int) (s : Store) : Store :=
  (((s.updateJobRow jobId fun job ↦
    { job with
      lastErrorCode := some "task_attempt_interrupted", steerState := none }).updateAttempt jobId
        fun attempt ↦
          { attempt with
            outcome := some .interrupted, endedAt := some (.toIso now) }).insertStopProof jobId
              now).setCleanup jobId .stopped now

/-- The next attempt takes the task over before the old one is cancelled: a late result of the
old attempt cannot end the task. -/
def replace (taskId : TaskId) (task : TaskRow) (old : JobRow) (now : Int) (s : Store) :
    Except String (JobId × Store) := do
  let oldId := task.currentAttemptId
  let (_, s) ← s.beginJobCancellation jobs oldId old.sourceEventId now
  let owner ← orThrow (s.db.ownerBindings.get? oldId) "Unknown job owner"
  let document ← orThrow (s.workspaces.get? oldId) "workspace: is invalid"
  let jobId := s!"job_{s.db.nextUuid}"
  let s ← s.draw.insertJob jobId (s.nextJob jobs taskId task old now)
    { document with handoff := some ⟨oldId, workspaceJobId oldId document⟩ } owner
  let s ← s.insertAttempt jobId
    { taskId := taskId, number := task.attemptNumber + 1, createdAt := .toIso now }
  let s := s.updateTask taskId (replaced jobId (task.attemptNumber + 1) now)
  let (_, s) ← s.markJobCancelled jobs oldId
    "Interrupted attempt replaced after verified worker stop" now
  .ok (jobId, s.interrupt oldId now)

/-- The result is the replacement, when there is one. -/
def replaceStopped (taskId : TaskId) (files : JobId → Bool) (now : Int) (s : Store) :
    Except String (Option JobId × Store) := do
  let task ← s.getTask taskId
  throwIf (task.stopState ≠ .stopped ∨ task.state.isTerminal = true) "task_stop_required"
  let old ← s.db.getJobRequired task.currentAttemptId
  throwIf (old.result ≠ none ∨ files task.currentAttemptId = true)
    "task_result_requires_reconciliation"
  match task.desiredState with
  | .paused => .ok (none, s.updateTask taskId fun task ↦
      { task with waitReason := some .paused, nextCheckAt := none })
  | .cancelled => do
      let (_, s) ← s.beginJobCancellation jobs task.currentAttemptId old.sourceEventId now
      let (_, s) ← s.markJobCancelled jobs task.currentAttemptId
        "Task cancellation after verified worker stop" now
      .ok (none, s)
  | .running =>
      if task.maxAttempts ≤ task.attemptNumber then do
        let (_, s) ← s.wait taskId task .retryExhausted 86400000 now
        .ok (none, s)
      else do
        let (jobId, s) ← s.replace jobs taskId task old now
        .ok (some jobId, s)

end Store

end Dona
