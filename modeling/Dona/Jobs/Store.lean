import Dona.Dispatcher.Completions

/-!
# Jobs and tasks

The tables that `task-execution.ts` and `job-handoff.ts` add to the dispatcher database, with
the two triggers on the status of a job. A task is carried out by its attempts, which are jobs;
requests are stored themselves, not their digests.
-/

namespace Dona

open Fallible

abbrev TaskId := Uuid

/-! ### Requests -/

inductive JobWorkspace
  | scratch
  | github (repository : String) (baseRef : Option String)
  deriving DecidableEq

structure CreateJobRequest where
  sourceEventId : EventId
  jobKey : Option String := none
  objective : String
  workspace : JobWorkspace
  display : Option String := none
  deriving DecidableEq

/-- The project of a task as it was verified; only `completion_status` is read. -/
structure TaskProject where
  completionStatus : Option String
  document : String
  deriving DecidableEq

inductive CompletionStatus
  | inProgress | mergeReady
  deriving DecidableEq

structure ProjectRequest where
  owner : String
  number : ℕ
  completionStatus : CompletionStatus := .inProgress
  deriving DecidableEq

structure TaskPolicy where
  maxAttempts : ℕ := 3
  retryDelayMs : ℕ := 60000
  deriving DecidableEq

structure TaskRequest where
  sourceEventId : EventId
  taskKey : String
  objective : String
  workspace : JobWorkspace
  display : Option String := none
  issueNumber : Option ℕ := none
  project : Option ProjectRequest := none
  policy : TaskPolicy := {}
  deriving DecidableEq

structure VerifiedTaskIssue where
  nodeId : String
  repository : String
  number : ℕ
  project : Option TaskProject

/-! ### Rows -/

inductive TaskState
  | active | waiting | paused | completed | failed | cancelled
  deriving DecidableEq

inductive TaskProgress
  | todo | inProgress | mergeReady | completed | cancelled
  deriving DecidableEq

inductive DesiredState
  | running | paused | cancelled
  deriving DecidableEq

inductive StopState
  | none | notSent | attempting | stopped
  deriving DecidableEq

inductive ProjectState
  | pending | attempting | unknown | conflict | synced
  deriving DecidableEq

inductive WaitReason
  | humanInput | cancellationUnknown | resultConflict | observationUnknown | workerUnknown
  | externalEffectUnknown | steerAcceptanceUnknown | retryExhausted | capacityWait
  | workerStopPending | cancelRequested | pauseRequested | resumeRequested | paused
  deriving DecidableEq

inductive WorkerActivity
  | working | waiting | inactive | stopped | unknown
  deriving DecidableEq

structure WorkerObservation where
  state : WorkerActivity
  reason : String
  observedAt : Timestamp
  processIds : List ℕ
  processGroups : List ℕ
  deriving DecidableEq

inductive CheckpointWaiting
  | none | usageLimit | network | humanInput | externalEffectUnknown
  deriving DecidableEq

/-- What a worker writes down of its progress; `notes` is the part that is only passed on. -/
structure TaskCheckpoint where
  sequence : ℕ
  waiting : CheckpointWaiting := .none
  retryAfter : Option Timestamp := none
  notes : String
  deriving DecidableEq

structure TaskRow where
  sourceEventId : EventId
  taskKey : String
  request : TaskRequest
  resourceId : Option String
  currentAttemptId : JobId
  revision : ℕ := 1
  progress : TaskProgress := .todo
  state : TaskState := .active
  desiredState : DesiredState := .running
  waitReason : Option WaitReason := none
  observationFailures : ℕ := 0
  nextCheckAt : Option Timestamp := none
  attemptNumber : ℕ := 1
  maxAttempts : ℕ
  retryDelayMs : ℕ
  stopState : StopState := .none
  stopEvidence : Option WorkerObservation := none
  objective : String
  steerPendingEventId : Option EventId := none
  project : Option TaskProject
  projectState : ProjectState := .pending
  createdAt : Timestamp
  updatedAt : Timestamp
  deriving DecidableEq

inductive AttemptOutcome
  | completed | failed | cancelled | interrupted
  deriving DecidableEq

/-- An attempt at a task; its key is its job. -/
structure TaskAttempt where
  taskId : TaskId
  number : ℕ
  outcome : Option AttemptOutcome := none
  stopReceipt : Option (WorkerObservation × Timestamp) := none
  checkpoint : Option TaskCheckpoint := none
  checkpointAckSequence : ℕ := 0
  createdAt : Timestamp
  endedAt : Option Timestamp := none

inductive TaskAction
  | pause | resume | cancel
  deriving DecidableEq

inductive ControlRequest
  | control (revision : ℕ) (action : TaskAction)
  | steer (revision : ℕ) (instruction : String)
  | retry (revision : ℕ) (maxAttempts : ℕ)
  deriving DecidableEq

/-- A control that was carried out; its key is the task and the event that asked for it. -/
structure TaskControl where
  request : ControlRequest
  checkpointSequence : Option ℕ := none

inductive HandoffState
  | claimed | accepted
  deriving DecidableEq

inductive RetirementState
  | notSent | attempting
  deriving DecidableEq

/-- The handoff of the work of a job to a successor; its key is that job. The job is expected
with its pane. -/
structure HandoffRecord where
  sourceEventId : EventId
  instruction : String
  expectedJob : JobRow × Option String
  observation : WorkerObservation
  state : HandoffState := .claimed
  retirementState : RetirementState := .notSent
  successorJobId : Option JobId := none
  createdAt : Timestamp

/-- `_dona_handoff`: the job whose work this one continues, and the job whose workspace it uses. -/
structure HandoffMark where
  predecessorJobId : JobId
  workspaceJobId : JobId

/-- What `workspace_json` records: the workspace, the objective that the job was created with,
and the job whose work it continues. -/
structure WorkspaceDocument where
  workspace : JobWorkspace
  objective : String
  handoff : Option HandoffMark := none

inductive CleanupOutcome
  | pending | attempting | stopped | unknown | rejected
  deriving DecidableEq

structure WorkerCleanup where
  outcome : CleanupOutcome := .pending
  agentName : Option String := none
  updatedAt : Timestamp

structure Store where
  db : Db
  panes : Table JobId String
  workspaces : Table JobId WorkspaceDocument
  tasks : Table TaskId TaskRow
  attempts : Table JobId TaskAttempt
  controls : Table (TaskId × EventId) TaskControl
  handoffs : Table JobId HandoffRecord
  queuedSteers : Table (JobId × EventId) Unit
  cleanups : Table JobId WorkerCleanup
  stopProofs : Table JobId Timestamp
  legacyAgentsStopped : Table JobId Timestamp

def Store.fresh : Store where
  db := .fresh
  panes := .empty
  workspaces := .empty
  tasks := .empty
  attempts := .empty
  controls := .empty
  handoffs := .empty
  queuedSteers := .empty
  cleanups := .empty
  stopProofs := .empty
  legacyAgentsStopped := .empty

structure JobAdmissionLimits where
  jobsPerEventMax : ℕ
  jobObjectiveTotalMaxBytes : ℕ

/-- The configuration, the texts that are parsed elsewhere and the checks on documents. -/
structure JobsEnv where
  env : Env
  limits : JobAdmissionLimits
  /-- `actor_id` of a subject, when it is a text. -/
  actorId? : String → Option String
  /-- The document of a result as `stableStringify` renders it. -/
  serialize : JobResult → String

/-! ### Statuses -/

namespace JobStatus

/-- `'completed','failed','cancelled'` -/
def isTerminal (status : JobStatus) : Bool := [completed, failed, cancelled].contains status

def taskState? : JobStatus → Option TaskState
  | completed => some .completed
  | failed => some .failed
  | cancelled => some .cancelled
  | _ => none

def outcome? : JobStatus → Option AttemptOutcome
  | completed => some .completed
  | failed => some .failed
  | cancelled => some .cancelled
  | _ => none

end JobStatus

def TaskState.isTerminal (state : TaskState) : Bool :=
  [completed, failed, cancelled].contains state

namespace TaskRow

/-- `CASE WHEN project_state IN ('attempting','unknown') THEN project_state ELSE 'pending' END` -/
def reprojected (task : TaskRow) : ProjectState :=
  if task.projectState = .attempting ∨ task.projectState = .unknown then task.projectState
  else .pending

/-- The progress of a task whose current attempt ends with this status. -/
def progressAt (task : TaskRow) (status : JobStatus) : TaskProgress :=
  match status with
  | .completed =>
      if (task.project.bind (·.completionStatus)) = some "Merge Ready" then .mergeReady
      else .completed
  | .cancelled => .cancelled
  | _ => task.progress

/-- The task ends with the job. -/
def ended (state : TaskState) (job : JobRow) (task : TaskRow) : TaskRow :=
  { task with
    state := state
    progress := task.progressAt job.status
    waitReason := none
    nextCheckAt := none
    revision := task.revision + 1
    projectState := task.reprojected
    updatedAt := job.updatedAt }

def started (task : TaskRow) : TaskRow :=
  { task with
    progress := .inProgress
    revision := task.revision + 1
    projectState := task.reprojected }

end TaskRow

namespace Store

/-! ### Statements -/

def updateDb (s : Store) (f : Db → Db) : Store := { s with db := f s.db }

/-- A statement on one job that does not write its status. -/
def updateJobRow (s : Store) (jobId : JobId) (f : JobRow → JobRow) : Store :=
  s.updateDb fun db ↦ { db with jobs := db.jobs.updateKey jobId f }

def updateTask (s : Store) (taskId : TaskId) (f : TaskRow → TaskRow) : Store :=
  { s with tasks := s.tasks.updateKey taskId f }

def updateAttempt (s : Store) (jobId : JobId) (f : TaskAttempt → TaskAttempt) : Store :=
  { s with attempts := s.attempts.updateKey jobId f }

/-- The tasks whose current attempt is the job. -/
def updateTasksOf (s : Store) (jobId : JobId) (f : TaskRow → TaskRow) : Store :=
  { s with tasks := s.tasks.updateWhere (fun _ task ↦ task.currentAttemptId = jobId) f }

/-- The trigger `task_attempt_completion`. -/
def attemptCompletion (s : Store) (jobId : JobId) (job : JobRow) : Store :=
  match job.status.taskState?, job.status.outcome? with
  | some state, some outcome =>
      if s.tasks.any fun _ task ↦ task.currentAttemptId = jobId then
        (s.updateAttempt jobId fun attempt ↦
          if attempt.outcome = none then
            { attempt with outcome := some outcome, endedAt := job.completedAt }
          else attempt).updateTasksOf jobId (.ended state job)
      else s
  | _, _ => s

/-- The trigger `task_attempt_started`. -/
def attemptStarted (s : Store) (jobId : JobId) (job : JobRow) : Store :=
  if job.status = .preparing then s.updateTasksOf jobId .started else s

def fireTriggers (s : Store) (jobId : JobId) (job : JobRow) : Store :=
  (s.attemptCompletion jobId job).attemptStarted jobId job

/-- A statement on one job that writes its status. -/
def setStatus (s : Store) (jobId : JobId) (f : JobRow → JobRow) : Store :=
  match s.db.jobs.get? jobId with
  | some job => (s.updateJobRow jobId f).fireTriggers jobId (f job)
  | none => s

/-- The identifier `nextUuid` has been drawn. -/
def draw (s : Store) : Store := s.updateDb fun db ↦ { db with nextUuid := db.nextUuid + 1 }

/-- Runs an operation of the dispatcher's other tables. -/
def onDb {α : Type} (s : Store) (f : Db → Except String (α × Db)) : Except String (α × Store) := do
  let (a, db) ← f s.db
  .ok (a, { s with db := db })

def modifyDb (s : Store) (f : Db → Except String Db) : Except String Store := do
  let db ← f s.db
  .ok { s with db := db }

/-! ### Lookups -/

def binding? (s : Store) (eventId : EventId) : Option JobBinding := s.db.eventBindings.get? eventId

/-- The jobs of the event belong to a schedule. -/
def ofSchedule (s : Store) (eventId : EventId) : Bool :=
  (s.binding? eventId).any fun binding ↦ binding.owner.isSchedule

def ofSlackThread (s : Store) (eventId : EventId) : Bool :=
  (s.binding? eventId).any fun binding ↦ !binding.owner.isSchedule

/-- `forAttempt` -/
def forAttempt (s : Store) (jobId : JobId) : Option (TaskId × TaskRow) := do
  let attempt ← s.attempts.get? jobId
  let task ← s.tasks.get? attempt.taskId
  some (attempt.taskId, task)

def assertCurrent (s : Store) (jobId : JobId) : Except String Unit :=
  throwIf ((s.forAttempt jobId).any fun (_, task) ↦ task.currentAttemptId ≠ jobId)
    "task_attempt_superseded"

def getTask (s : Store) (taskId : TaskId) : Except String TaskRow :=
  orThrow (s.tasks.get? taskId) "Cannot read properties of undefined"

def getAttempt (s : Store) (jobId : JobId) : Except String TaskAttempt :=
  orThrow (s.attempts.get? jobId) "Cannot read properties of undefined"

/-- `actor_id` of the subject of an event. -/
def actorOf (jobs : JobsEnv) (event : EventRow) : Option String :=
  match event.subject with
  | .text json => jobs.actorId? json
  | .schedule _ _ _ => none
  | .job _ _ _ actorId => actorId

/-- `source_event_id` of the subject of an event. -/
def subjectSource? (event : EventRow) : Option EventId :=
  match event.subject with
  | .job _ sourceEventId _ _ => some sourceEventId
  | _ => none

/-- `pendingSteer` -/
def pendingSteer (s : Store) (jobId : JobId) (eventId : EventId) : Bool :=
  (s.forAttempt jobId).any fun (taskId, task) ↦
    task.currentAttemptId = jobId ∧ task.steerPendingEventId = some eventId ∧
      task.waitReason = some .steerAcceptanceUnknown ∧ task.stopState = .none ∧
      (s.controls.get? (taskId, eventId)).isSome

end Store

end Dona
