import Dona.Jobs.TaskEffects
import Dona.Library.Coroutine

/-!
# The operations as a system

One operation is one call of a method of the database. A world executes operations one by one and
keeps what it has executed, newest first. `reconcileTasks` of the supervisor is a program whose
awaits other operations cross; a crash ends it anywhere, and leaves the tables as they are.
-/

namespace Dona.Jobs

open Coroutine Fallible

/-! ### Operations -/

inductive Operation
  | createJob (request : CreateJobRequest)
  | beginJobPreparation (jobId : JobId)
  | setJobRuntime (jobId : JobId) (herdrWorkspaceId herdrPaneId : String)
  | beginJobDispatch (jobId : JobId)
  | markJobRunning (jobId : JobId)
  | recordJobPreparationFailure (jobId : JobId) (code message : String) (maxAttempts : ℕ)
  | recordJobSafePromptFailure (jobId : JobId) (code message : String) (maxAttempts : ℕ)
  | markJobNeedsReview (jobId : JobId) (code message : String)
  | markJobBlocked (jobId : JobId) (message : String) (fromDispatching : Bool)
  | recordInvalidResult (jobId : JobId) (code message : String)
  | recoverStaleJobs
  | saveJobResult (jobId : JobId) (result : JobResult) (operatorLate : Bool)
  | failReviewed (jobId : JobId) (expectedUpdatedAt : Timestamp) (code : String)
      (message : Option String)
  | appendQueuedJobInstruction (jobId : JobId) (sourceEventId : EventId) (instruction : String)
  | beginJobSteer (jobId : JobId) (sourceEventId : EventId)
  | markJobSteerAccepted (jobId : JobId) (sourceEventId : EventId)
  | clearJobSteer (jobId : JobId) (sourceEventId : EventId)
  | beginJobCancellation (jobId : JobId) (sourceEventId : EventId)
  | markJobCancelled (jobId : JobId) (reason : String)
  | settleAmbiguousCancellation (jobId : JobId) (reason : String)
  | reconcileScheduledRun (runId : Uuid) (outcome : Db.WorkRunOutcome)
  | markTerminalAcceptedSteerStopped (jobId : JobId)
  | markTerminalWorkerStopProof (jobId : JobId)
  | markTerminalJobWorkerStopped (jobId : JobId) (expectedCode : String)
  | markJobRuntimeCleaned (jobId : JobId)
  | claimTerminalWorkerCleanup (jobId : JobId) (agentName : String)
  | finishTerminalWorkerCleanup (jobId : JobId) (expected outcome : CleanupOutcome)
  | claimJobHandoff (jobId : JobId) (expected : JobRow × Option String) (sourceEventId : EventId)
      (instruction : String) (observation : WorkerObservation)
  | beginHandoffRetirement (jobId : JobId) (sourceEventId : EventId)
  | finishJobHandoff (jobId : JobId) (sourceEventId : EventId)
  | enqueueJobNotification (jobId : JobId)
  | sealJobGroup (sourceEventId : EventId)
  | create (request : TaskRequest) (issue : Option VerifiedTaskIssue)
  | control (taskId : TaskId) (eventId : EventId) (revision : ℕ) (action : TaskAction)
  | prepareSteer (taskId : TaskId) (eventId : EventId) (revision : ℕ) (instruction : String)
  | finishSteer (taskId : TaskId) (eventId : EventId)
  | retry (taskId : TaskId) (eventId : EventId) (revision maxAttempts : ℕ)
  | wait (taskId : TaskId) (seen : TaskRow) (reason : WaitReason) (delayMs : Int)
  | reconnect (taskId : TaskId) (seen : TaskRow)
  | claimStop (taskId : TaskId) (seen : TaskRow) (evidence : WorkerObservation)
  | beginStop (taskId : TaskId) (seen : TaskRow)
  | stopped (taskId : TaskId) (seen : TaskRow) (evidence : WorkerObservation)
  | checkpoint (jobId : JobId) (written : TaskCheckpoint)
  | replaceStopped (taskId : TaskId)

namespace Operation

def Reply : Operation → Type
  | createJob _ => Option Store.CreateJobResult
  | appendQueuedJobInstruction _ _ _ => Bool
  | beginJobSteer _ _ => Bool
  | claimTerminalWorkerCleanup _ _ => Bool
  | beginHandoffRetirement _ _ => Bool
  | finishJobHandoff _ _ => JobId
  | create _ _ => Store.CreateOutcome × TaskId
  | prepareSteer _ _ _ _ => Bool
  | claimStop _ _ _ => TaskRow
  | beginStop _ _ => Bool
  | replaceStopped _ => Option JobId
  | _ => Unit

end Operation

/-- What an operation reads besides the tables: the clock, and which result files exist. -/
structure Moment where
  now : Int
  files : JobId → Bool

/-- The statuses from which a blocked job is reported. -/
def blockedFrom (fromDispatching : Bool) : List JobStatus :=
  if fromDispatching then [.dispatching] else [.running]

def Operation.run (jobs : JobsEnv) (moment : Moment) (op : Operation) (s : Store) :
    Except String (op.Reply × Store) :=
  match op with
  | createJob request => s.createJob jobs request moment.now
  | beginJobPreparation jobId => s.beginJobPreparation jobId moment.now
  | setJobRuntime jobId workspace pane => s.setJobRuntime jobId workspace pane
  | beginJobDispatch jobId => s.beginJobDispatch jobs jobId moment.now
  | markJobRunning jobId => s.markJobRunning jobs jobId moment.now
  | recordJobPreparationFailure jobId code message maxAttempts =>
      Store.recordJobPreparationFailure jobs jobId code message maxAttempts moment.now s
  | recordJobSafePromptFailure jobId code message maxAttempts =>
      Store.recordJobSafePromptFailure jobs jobId code message maxAttempts moment.now s
  | markJobNeedsReview jobId code message => s.markJobNeedsReview jobs jobId code message moment.now
  | markJobBlocked jobId message fromDispatching =>
      s.markJobBlocked jobs jobId message (blockedFrom fromDispatching) moment.now
  | recordInvalidResult jobId code message =>
      .ok ((), s.recordInvalidResult jobId code message moment.now)
  | recoverStaleJobs => .ok ((), s.recoverStaleJobs moment.now)
  | saveJobResult jobId result operatorLate =>
      s.saveJobResultInternal jobs jobId result operatorLate moment.now
  | failReviewed jobId expectedUpdatedAt code message =>
      s.failReviewed jobId expectedUpdatedAt code message moment.now
  | appendQueuedJobInstruction jobId sourceEventId instruction =>
      s.appendQueuedJobInstruction jobs jobId sourceEventId instruction moment.now
  | beginJobSteer jobId sourceEventId => s.beginJobSteer jobId sourceEventId moment.now
  | markJobSteerAccepted jobId sourceEventId => s.markJobSteerAccepted jobId sourceEventId moment.now
  | clearJobSteer jobId sourceEventId => .ok ((), s.clearJobSteer jobId sourceEventId moment.now)
  | beginJobCancellation jobId sourceEventId =>
      s.beginJobCancellation jobs jobId sourceEventId moment.now
  | markJobCancelled jobId reason => s.markJobCancelled jobs jobId reason moment.now
  | settleAmbiguousCancellation jobId reason =>
      s.settleAmbiguousCancellation jobs jobId reason moment.now
  | reconcileScheduledRun runId outcome => s.reconcileScheduledRun runId outcome moment.now
  | markTerminalAcceptedSteerStopped jobId =>
      .ok ((), s.markTerminalAcceptedSteerStopped jobId moment.now)
  | markTerminalWorkerStopProof jobId => .ok ((), s.markTerminalWorkerStopProof jobId moment.now)
  | markTerminalJobWorkerStopped jobId expectedCode =>
      .ok ((), s.markTerminalJobWorkerStopped jobId expectedCode moment.now)
  | markJobRuntimeCleaned jobId => .ok ((), s.markJobRuntimeCleaned jobId moment.now)
  | claimTerminalWorkerCleanup jobId agentName =>
      .ok (s.claimTerminalWorkerCleanup jobId agentName moment.now)
  | finishTerminalWorkerCleanup jobId expected outcome =>
      .ok ((), s.finishTerminalWorkerCleanup jobId expected outcome moment.now)
  | claimJobHandoff jobId expected sourceEventId instruction observation =>
      s.claimJobHandoff jobs jobId expected sourceEventId instruction observation moment.now
  | beginHandoffRetirement jobId sourceEventId =>
      s.beginHandoffRetirement jobId sourceEventId moment.files
  | finishJobHandoff jobId sourceEventId =>
      s.finishJobHandoff jobs jobId sourceEventId moment.files moment.now
  | enqueueJobNotification jobId => s.enqueueJobNotification jobs jobId moment.now
  | sealJobGroup sourceEventId => s.sealJobGroup sourceEventId moment.now
  | create request issue => s.create jobs request issue moment.now
  | control taskId eventId revision action => s.control jobs taskId eventId revision action moment.now
  | prepareSteer taskId eventId revision instruction =>
      s.prepareSteer jobs taskId eventId revision instruction
  | finishSteer taskId eventId => s.finishSteer taskId eventId
  | retry taskId eventId revision maxAttempts =>
      s.retry jobs taskId eventId revision maxAttempts moment.now
  | wait taskId seen reason delayMs => s.wait taskId seen reason delayMs moment.now
  | reconnect taskId seen => s.reconnect taskId seen
  | claimStop taskId seen evidence => s.claimStop taskId seen evidence moment.files
  | beginStop taskId seen => .ok (s.beginStop taskId seen)
  | stopped taskId seen evidence => s.stopped taskId seen evidence moment.now
  | checkpoint jobId written => s.checkpoint jobId written
  | replaceStopped taskId => s.replaceStopped jobs taskId moment.files moment.now

/-! ### Worlds -/

/-- An operation that succeeded, with the tables before and after it. -/
structure Executed where
  before : Store
  moment : Moment
  operation : Operation
  after : Store

/-- `job_worker_observations` identifies a worker by its workspace and its pane. -/
abbrev WorkerIdentity := Option String × Option String

structure World where
  store : Store
  moment : Moment
  observations : Table JobId (WorkerIdentity × WorkerObservation)
  executed : List Executed

namespace World

/-- The world after an operation that led to `t`. -/
def record (w : World) (op : Operation) (t : Store) : World :=
  { w with store := t, executed := ⟨w.store, w.moment, op, t⟩ :: w.executed }

/-- All tables that the world has seen. -/
def stores (w : World) : List Store :=
  w.store :: w.executed.flatMap fun executed ↦ [executed.before, executed.after]

/-! ### Observations of workers -/

def identityOf (seen : JobRow × Option String) : WorkerIdentity :=
  (seen.1.herdrWorkspaceId, seen.2)

def getWorkerObservation (w : World) (jobId : JobId) (seen : JobRow × Option String) :
    Option WorkerObservation :=
  (w.observations.get? jobId).bind fun row ↦
    if row.1 = identityOf seen then some row.2 else none

/-- What was seen before is still counted. -/
def merged (prior : Option WorkerObservation) (observation : WorkerObservation) :
    WorkerObservation :=
  match prior with
  | none => observation
  | some prior =>
      { observation with
        processIds := (prior.processIds ++ observation.processIds).dedup
        processGroups := (prior.processGroups ++ observation.processGroups).dedup }

def recordWorkerObservation (jobId : JobId) (seen : JobRow × Option String)
    (observation : WorkerObservation) (w : World) : World :=
  if w.store.snapshot? jobId ≠ some seen ∨ observation.processIds = [] then w
  else
    let row := (identityOf seen, merged (w.getWorkerObservation jobId seen) observation)
    { w with
      observations := (w.observations.insert? jobId row).getD
        (w.observations.updateKey jobId fun _ ↦ row) }

end World

/-! ### The supervisor -/

inductive ReadFailure
  | notFound | invalid

inductive Call
  | turn (jobId : JobId)
  | readJobResult (jobId : JobId)
  | readCheckpoint (jobId : JobId)
  | observeWorker (jobId : JobId)
  | workerRetired (jobId : JobId) (evidence : WorkerObservation)
  | retireWorker (jobId : JobId)
  | lstatResult (jobId : JobId)
  | delay

abbrev Call.Reply : Call → Type
  | .turn _ => Unit
  | .readJobResult _ => Except ReadFailure JobResult
  | .readCheckpoint _ => Except String (Option TaskCheckpoint)
  | .observeWorker _ => Except String WorkerObservation
  | .workerRetired _ _ => Except String Bool
  | .retireWorker _ => Except String Unit
  | .lstatResult _ => Except ReadFailure Unit
  | .delay => Except String Unit

abbrev Program (α : Type) : Type := Coroutine World Call.Reply String α

section

variable (jobs : JobsEnv)

/-- A call of the database: a throw leaves the tables as they were. -/
def execute (op : Operation) : Program op.Reply := transact fun w ↦ do
  let (r, t) ← op.run jobs w.moment w.store
  .ok (r, w.record op t)

/-- `await` on a promise that may be rejected. -/
def settled {α : Type} : Except String α → Program α
  | .ok a => pure a
  | .error e => throw e

def required {α : Type} (a : Option α) : Program α :=
  match a with
  | some a => pure a
  | none => throw "Cannot read properties of undefined"

/-- `observeWorker` of the supervisor. -/
def observeWorker (jobId : JobId) (seen : JobRow × Option String) : Program WorkerObservation := do
  let r : Except String WorkerObservation ← call (Call.observeWorker jobId)
  let observation ← settled r
  let prior ← read (·.getWorkerObservation jobId seen)
  let retired ← (match prior with
    | some prior =>
        if observation.state = .unknown then do
          let r : Except String Bool ← call (Call.workerRetired jobId prior)
          let retired ← settled r
          pure (if retired then some prior else none)
        else pure none
    | none => pure none)
  let now ← read (·.moment.now)
  let observation := match retired with
    | some prior =>
        { prior with
          state := .stopped
          reason := "recorded_processes_and_pane_absent"
          observedAt := .toIso now }
    | none => observation
  write (World.recordWorkerObservation jobId seen observation)
  pure observation

/-- The default delay of `wait`. -/
def defaultDelayMs : Int := 30000

def waitFor (taskId : TaskId) (task : TaskRow) (reason : WaitReason) : Program Unit :=
  execute jobs (.wait taskId task reason defaultDelayMs)

/-- The result file of the attempt is taken up; the reply says whether that ended the round. -/
def takeResult (taskId : TaskId) (task : TaskRow) : Program Bool := do
  let r : Except ReadFailure JobResult ← call (Call.readJobResult task.currentAttemptId)
  match r with
  | .error .notFound => pure false
  | .error .invalid => do
      waitFor jobs taskId task .resultConflict
      pure true
  | .ok result => do
      let saved ← attempt (execute jobs (.saveJobResult task.currentAttemptId result false))
      match saved with
      | .ok _ => pure true
      | .error _ => do
          waitFor jobs taskId task .resultConflict
          pure true

/-- `String.prototype.includes` -/
def includesText (text part : String) : Bool :=
  text.toList.tails.any (part.toList.isPrefixOf ·)

/-- `taskRecoveryReason` -/
def taskRecoveryReason (job : JobRow) : WaitReason :=
  let code := job.lastErrorCode.getD ""
  if job.status = .blocked then .humanInput
  else if includesText code "cancel" then .cancellationUnknown
  else if job.steerState = some .dispatching ∨ includesText code "steer" then .humanInput
  else if includesText code "invalid_result" then .resultConflict
  else if Store.automaticReasons.contains code then .observationUnknown
  else .humanInput

/-- `checkpointAnswered` -/
def checkpointAnswered (w : World) (jobId : JobId) (checkpoint : TaskCheckpoint) : Bool :=
  (w.store.attempts.get? jobId).any (checkpoint.sequence ≤ ·.checkpointAckSequence)

def waitsForHuman (waiting : CheckpointWaiting) : Option WaitReason :=
  match waiting with
  | .humanInput => some .humanInput
  | .externalEffectUnknown => some .externalEffectUnknown
  | _ => none

/-- The checkpoint of the attempt is stored; the reply is whether the worker waits for capacity,
or `none` when that ended the round. -/
def takeCheckpoint (taskId : TaskId) (task : TaskRow) : Program (Option Bool) := do
  let r : Except String (Option TaskCheckpoint) ← call (Call.readCheckpoint task.currentAttemptId)
  match ← settled r with
  | none => pure (some false)
  | some checkpoint => do
      execute jobs (.checkpoint task.currentAttemptId checkpoint)
      let answered ← read fun w ↦ checkpointAnswered w task.currentAttemptId checkpoint
      let now ← read (·.moment.now)
      let capacityWait : Bool := checkpoint.waiting = .usageLimit ∧ answered = false
      match (if task.desiredState = .running ∧ answered = false then
          waitsForHuman checkpoint.waiting else none) with
      | some reason => do
          waitFor jobs taskId task reason
          pure none
      | none =>
          match (if task.desiredState = .running ∧ capacityWait then
              (checkpoint.retryAfter.map (·.millis)).filter (now < ·) else none) with
          | some retryAfter => do
              execute jobs (.wait taskId task .capacityWait (min (retryAfter - now) 86400000))
              pure none
          | none => pure (some capacityWait)

/-- The stop is claimed and, when the worker still runs, commanded. -/
def commandStop (taskId : TaskId) (task : TaskRow) (seen : JobRow × Option String)
    (observed : WorkerObservation) : Program TaskRow := do
  let recorded ← read (·.getWorkerObservation task.currentAttemptId seen)
  let claimed : TaskRow ← (if task.stopState = .none then
      execute jobs (.claimStop taskId task (recorded.getD observed))
    else pure task)
  if observed.state ≠ .stopped then do
    let may : Bool ← execute jobs (.beginStop taskId claimed)
    if may then do
      -- A failure is reconciled without sending the command again.
      let _ : Except String Unit ← call (Call.retireWorker task.currentAttemptId)
      pure claimed
    else pure claimed
  else pure claimed

def sameProcesses (a b : WorkerObservation) : Bool :=
  a.processIds = b.processIds ∧ a.processGroups = b.processGroups

/-- The worker looks as it did, when the task is to go on. -/
def confirmInactive (taskId : TaskId) (task : TaskRow) (seen : JobRow × Option String)
    (observed : WorkerObservation) : Program Bool :=
  if task.stopState = .none ∧ task.desiredState = .running then do
    let fresh ← observeWorker task.currentAttemptId seen
    if Store.isIdle fresh = false ∨ sameProcesses fresh observed = false then do
      waitFor jobs taskId task .observationUnknown
      pure false
    else pure true
  else pure true

/-- What the state of the worker means; `none` ends the round. -/
def stopWorker (taskId : TaskId) (task : TaskRow) (seen : JobRow × Option String)
    (capacityWait : Bool) : Program (Option TaskRow) := do
  let observed ← observeWorker task.currentAttemptId seen
  if observed.state = .working ∧ task.desiredState = .running then do
    execute jobs (.reconnect taskId task)
    pure none
  else if observed.state = .waiting ∧ task.desiredState = .running then do
    execute jobs (.wait taskId task (if capacityWait then .capacityWait else .humanInput)
      (if capacityWait then task.retryDelayMs else defaultDelayMs))
    pure none
  else if observed.state = .unknown then do
    waitFor jobs taskId task .observationUnknown
    pure none
  else do
    let updatedAt ← read fun w ↦ (w.store.db.jobs.get? task.currentAttemptId).map (·.updatedAt)
    if updatedAt ≠ some seen.1.updatedAt then pure none
    else do
      let confirmed ← confirmInactive jobs taskId task seen observed
      if confirmed then do
        let claimed ← commandStop jobs taskId task seen observed
        pure (some claimed)
      else pure none

/-- The stop is verified, and the next attempt created. -/
def verifyStop (taskId : TaskId) (task : TaskRow) : Program Unit := do
  let evidence ← required task.stopEvidence
  let r : Except String Bool ← call (Call.workerRetired task.currentAttemptId evidence)
  let retired ← settled r
  if retired then do
    execute jobs (.stopped taskId task evidence)
    let _ : Option JobId ← execute jobs (.replaceStopped taskId)
    pure ()
  else waitFor jobs taskId task .workerStopPending

/-- The worker of a task that has no result and no steer under way. -/
def reconcileWorker (observes : Bool) (taskId : TaskId) (task : TaskRow)
    (seen : JobRow × Option String) (capacityWait : Bool) : Program Unit := do
  let reason := taskRecoveryReason seen.1
  if task.desiredState = .running ∧ task.stopState = .none ∧ reason ≠ .observationUnknown ∧
      task.waitReason ≠ some .resumeRequested ∧ capacityWait = false then
    waitFor jobs taskId task reason
  else if observes = false then waitFor jobs taskId task .observationUnknown
  else if task.stopState = .none ∨ task.stopState = .notSent then do
    match ← stopWorker jobs taskId task seen capacityWait with
    | some claimed => verifyStop jobs taskId claimed
    | none => pure ()
  else verifyStop jobs taskId task

/-- The event of a steer of the task that the worker has accepted. -/
def acceptedSteer? (task : TaskRow) (job : JobRow) : Option EventId :=
  if task.waitReason = some .steerAcceptanceUnknown ∧ job.steerState = some .accepted ∧
      task.steerPendingEventId = job.steerEventId then job.steerEventId else none

/-- `reconcileTask`; `observes` says whether the runtime can observe workers. -/
def reconcileTask (observes : Bool) (taskId : TaskId) (snapshot : TaskRow) : Program Unit := do
  let w ← read id
  let task ← required (w.store.tasks.get? taskId)
  if task.revision ≠ snapshot.revision ∨ task.currentAttemptId ≠ snapshot.currentAttemptId then
    pure ()
  else do
    let seen ← required (w.store.snapshot? task.currentAttemptId)
    match acceptedSteer? task seen.1 with
    | some eventId => execute jobs (.finishSteer taskId eventId)
    | none => do
        let ended ← takeResult jobs taskId task
        if ended then pure ()
        else if task.waitReason = some .steerAcceptanceUnknown then
          execute jobs (.wait taskId task .steerAcceptanceUnknown 60000)
        else do
          match ← takeCheckpoint jobs taskId task with
          | none => pure ()
          | some capacityWait =>
              if task.stopState = .stopped then do
                let _ : Option JobId ← execute jobs (.replaceStopped taskId)
                pure ()
              else reconcileWorker jobs observes taskId task seen capacityWait

end

/-! ### Candidates -/

def isCandidate (w : World) (task : TaskRow) : Bool :=
  [TaskState.active, .waiting, .paused].contains task.state ∧
    ¬(task.state = .paused ∧ task.waitReason = some .paused) ∧
    task.nextCheckAt.all (· ≤ .toIso w.moment.now) ∧
    (w.store.db.jobs.get? task.currentAttemptId).any fun job ↦
      job.status = .needsReview ∨ job.status = .blocked ∨ task.desiredState ≠ .running ∨
        task.waitReason.any fun reason ↦
          [WaitReason.cancelRequested, .pauseRequested, .resumeRequested, .workerStopPending,
            .steerAcceptanceUnknown].contains reason

/-- `ORDER BY COALESCE(next_check_at, created_at), task_id` -/
def candidateBefore (a b : TaskId × TaskRow) : Bool :=
  let due : TaskRow → Timestamp := fun task ↦ task.nextCheckAt.getD task.createdAt
  due a.2 < due b.2 ∨ (due a.2 = due b.2 ∧ a.1 < b.1)

def candidate? (w : World) : Option (TaskId × TaskRow) :=
  w.store.tasks.first? (fun _ task ↦ isCandidate w task) candidateBefore

/-- `reconcileTasks` takes the first candidate, when its turn has come. -/
def reconcileTasks (jobs : JobsEnv) (observes : Bool) : Program Unit := do
  match ← read candidate? with
  | none => pure ()
  | some (taskId, snapshot) => do
      call (Call.turn snapshot.currentAttemptId)
      let r ← attempt (reconcileTask jobs observes taskId snapshot)
      match r with
      | .ok _ => pure ()
      | .error _ => waitFor jobs taskId snapshot .externalEffectUnknown

end Dona.Jobs
