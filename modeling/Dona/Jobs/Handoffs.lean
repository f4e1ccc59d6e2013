import Dona.Jobs.Operations

/-!
# Handoffs and the ends of workers

The work of a job that stopped without a result is handed to a new job. The rows that record
whether the worker of a finished job is gone.
-/

namespace Dona

open Fallible

namespace Store

variable (jobs : JobsEnv)

/-- `jobSnapshot` -/
def snapshot? (s : Store) (jobId : JobId) : Option (JobRow × Option String) :=
  (s.db.jobs.get? jobId).map fun job ↦ (job, s.panes.get? jobId)

/-! ### Workers of finished jobs -/

/-- A finished job whose worker may still take input. -/
def mayStillTakeInput (job : JobRow) : Bool :=
  job.status.isTerminal ∧ job.steerState ≠ some .dispatching

def markTerminalAcceptedSteerStopped (jobId : JobId) (now : Int) (s : Store) : Store :=
  s.updateJobRow jobId fun job ↦
    if job.status.isTerminal ∧ job.steerState = some .accepted then
      { job with steerState := none, updatedAt := .toIso now }
    else job

def insertStopProof (jobId : JobId) (now : Int) (s : Store) : Store :=
  match s.stopProofs.insert? jobId (.toIso now) with
  | some proofs => { s with stopProofs := proofs }
  | none => s

def markTerminalWorkerStopProof (jobId : JobId) (now : Int) (s : Store) : Store :=
  if (s.db.jobs.get? jobId).any fun job ↦ mayStillTakeInput job ∧ job.herdrWorkspaceId.isSome then
    s.insertStopProof jobId now
  else s

def unverifiedCodes : List String := ["terminal_steer_worker_unverified", "cancel_worker_unverified"]

def markTerminalJobWorkerStopped (jobId : JobId) (expectedCode : String) (now : Int) (s : Store) :
    Store :=
  s.updateJobRow jobId fun job ↦
    if mayStillTakeInput job ∧ job.lastErrorCode = some expectedCode ∧
        (unverifiedCodes.contains expectedCode ∨
          (expectedCode = "schedule_reconcile_worker_unverified" ∧ job.herdrWorkspaceId = none)) then
      { job with
        lastErrorCode :=
          if job.lastErrorCode = some "schedule_reconcile_worker_unverified" ∧
              job.status = .failed then some "schedule_reconciled_failed"
          else if job.status = .failed then some "agent_reported_failure" else none
        lastErrorMessage := none
        steerState := none
        updatedAt := .toIso now }
    else job

/-- The error code of a job whose runtime is cleaned. -/
def cleanedCode : Option String → Option String
  | some "workspace_cleanup_failed" => some "workspace_cleanup_agent_stopped"
  | some "schedule_reconcile_worker_unverified" => none
  | some "terminal_steer_worker_unverified" => none
  | some "cancel_worker_unverified" => none
  | code => code

def isCleanable (job : JobRow) : Bool :=
  job.herdrWorkspaceId.isSome ∧ (job.status.isTerminal = true ∨
    (job.status = .needsReview ∧ job.lastErrorCode = some "workspace_cleanup_failed"))

def markJobRuntimeCleaned (jobId : JobId) (now : Int) (s : Store) : Store :=
  if (s.db.jobs.get? jobId).any isCleanable then
    { s.updateJobRow jobId fun job ↦
      { job with
        herdrWorkspaceId := none
        lastErrorCode := cleanedCode job.lastErrorCode
        updatedAt := .toIso now } with panes := s.panes.deleteWhere fun id _ ↦ id = jobId }
  else s

/-- The result says whether the cleanup was claimed. -/
def claimTerminalWorkerCleanup (jobId : JobId) (agentName : String) (now : Int) (s : Store) :
    Bool × Store :=
  if ((s.cleanups.get? jobId).any (·.outcome = .pending)) ∧ agentName = jobId ∧
      (s.db.jobs.get? jobId).any (fun job ↦ (job.status = .completed ∨ job.status = .failed) ∧
        job.result.isSome ∧ job.steerState ≠ some .dispatching) then
    (true, { s with
      cleanups := s.cleanups.updateKey jobId fun cleanup ↦
        { cleanup with
          outcome := .attempting, agentName := some agentName, updatedAt := .toIso now } })
  else (false, s)

def setCleanup (jobId : JobId) (outcome : CleanupOutcome) (now : Int) (s : Store) : Store :=
  { s with
    cleanups := s.cleanups.updateKey jobId fun cleanup ↦
      { cleanup with outcome := outcome, updatedAt := .toIso now } }

def finishTerminalWorkerCleanup (jobId : JobId) (expected outcome : CleanupOutcome) (now : Int)
    (s : Store) : Store :=
  if (s.cleanups.get? jobId).any (·.outcome = expected) then s.setCleanup jobId outcome now else s

/-! ### Handoffs -/

/-- `assertHandoffOwner` -/
def assertHandoffOwner (s : Store) (jobId : JobId) (sourceEventId : EventId) : Except String Unit :=
  s.assertControl jobId sourceEventId "handoff_requires_slack_event"

/-- The worker does no work any more, as far as it was seen. -/
def isIdle (observation : WorkerObservation) : Bool :=
  observation.state = .inactive ∨ observation.state = .stopped

def insertHandoff (jobId : JobId) (record : HandoffRecord) (s : Store) : Except String Store := do
  let handoffs ← orThrow (s.handoffs.insert? jobId record)
    "UNIQUE constraint failed: job_handoffs.job_id"
  .ok { s with handoffs := handoffs }

def claimJobHandoff (jobId : JobId) (expected : JobRow × Option String) (sourceEventId : EventId)
    (instruction : String) (observation : WorkerObservation) (now : Int) (s : Store) :
    Except String (Unit × Store) := do
  s.assertHandoffOwner jobId sourceEventId
  throwIf (s.handoffs.get? jobId).isSome "handoff_already_claimed"
  let current ← s.db.getJobRequired jobId
  throwIf (s.snapshot? jobId ≠ some expected ∨
    [JobStatus.running, .blocked, .needsReview].contains current.status = false ∨
    current.result ≠ none ∨ current.steerState = some .dispatching ∨ isIdle observation = false ∨
    observation.processIds = []) "handoff_job_changed_or_not_inactive"
  let (_, s) ← s.beginJobCancellation jobs jobId sourceEventId now
  let s := s.updateJobRow jobId fun job ↦
    { job with lastErrorCode := some "handoff_retirement_pending", lastErrorMessage := none }
  let expected ← orThrow (s.snapshot? jobId) s!"Job {jobId} was not found"
  let s ← s.insertHandoff jobId
    { sourceEventId := sourceEventId
      instruction := instruction
      expectedJob := expected
      observation := observation
      createdAt := .toIso now }
  .ok ((), s)

/-- The job is as the claim of its handoff left it, and there is no result file. -/
def assertUnchanged (s : Store) (jobId : JobId) (record : HandoffRecord) (hasFile : Bool) :
    Except String Unit := do
  throwIf (s.snapshot? jobId ≠ some record.expectedJob) "handoff_job_changed"
  throwIf (hasFile = true) "handoff_result_requires_reconciliation"

/-- The result says whether the retirement may be sent. -/
def beginHandoffRetirement (jobId : JobId) (sourceEventId : EventId) (files : JobId → Bool)
    (s : Store) : Except String (Bool × Store) := do
  s.assertHandoffOwner jobId sourceEventId
  let record ← orThrow (s.handoffs.get? jobId) "handoff_job_changed"
  s.assertUnchanged jobId record (files jobId)
  if record.state = .claimed ∧ record.retirementState = .notSent then
    .ok (true, { s with
      handoffs := s.handoffs.updateKey jobId fun record ↦
        { record with retirementState := .attempting } })
  else .ok (false, s)

def handoffNote (instruction : String) : String :=
  "\n\n[DONA_HANDOFF]\n旧workerは停止確認済みです。既存のcommit、未commit差分、ファイル、PRと外部操作の" ++
    "受理状況を先に照合し、重複実行せず残作業を続けてください。旧Resultを新しいResultへ転用せず、" ++
    "未解決の承認を承認済みと解釈しないでください。\n" ++ instruction ++ "\n[/DONA_HANDOFF]"

/-- `handoffKey` -/
def handoffKey (jobId : JobId) : String :=
  "resume." ++ String.ofList ((jobs.env.digest jobId).toList.take 40)

def handoffRequest (jobId : JobId) (old : JobRow) (document : WorkspaceDocument)
    (sourceEventId : EventId) (instruction : String) : CreateJobRequest where
  sourceEventId := sourceEventId
  jobKey := some (handoffKey jobs jobId)
  objective := old.objective ++ handoffNote instruction
  workspace := document.workspace

/-- `workspaceJobId` -/
def workspaceJobId (jobId : JobId) (document : WorkspaceDocument) : JobId :=
  (document.handoff.map (·.workspaceJobId)).getD jobId

/-- `assertHandoffAdmission`: a successor could be created; the transaction is rolled back. -/
def assertHandoffAdmission (jobId : JobId) (old : JobRow) (sourceEventId : EventId)
    (instruction : String) (now : Int) (s : Store) : Except String Unit := do
  let document ← orThrow (s.workspaces.get? jobId) "workspace: is invalid"
  let (created, _) ← s.createJob jobs (handoffRequest jobs jobId old document sourceEventId
    instruction) now
  let created ← orThrow created "scheduled_run_not_authorized"
  throwIf (created.duplicate = true) "handoff_successor_key_conflict"

/-- The successor of a job is created, and the job ends. -/
def acceptHandoff (jobId : JobId) (record : HandoffRecord) (sourceEventId : EventId) (now : Int)
    (s : Store) : Except String (JobId × Store) := do
  let old ← s.db.getJobRequired jobId
  let document ← orThrow (s.workspaces.get? jobId) "workspace: is invalid"
  let (created, s) ← s.createJob jobs
    (handoffRequest jobs jobId old document sourceEventId record.instruction) now
  let created ← orThrow created "scheduled_run_not_authorized"
  throwIf (created.duplicate = true) "handoff_successor_key_conflict"
  let s := { s with
    workspaces := s.workspaces.updateKey created.jobId fun row ↦
      { row with handoff := some ⟨jobId, workspaceJobId jobId document⟩ } }
  let (_, s) ← s.markJobCancelled jobs jobId s!"Work handed off to {created.jobId}" now
  let s := (s.markTerminalAcceptedSteerStopped jobId now).updateJobRow jobId fun job ↦
    { job with lastErrorCode := some "handed_off" }
  let s := (s.markTerminalWorkerStopProof jobId now).setCleanup jobId .stopped now
  .ok (created.jobId, { s with
    handoffs := s.handoffs.updateKey jobId fun record ↦
      { record with state := .accepted, successorJobId := some created.jobId } })

def finishJobHandoff (jobId : JobId) (sourceEventId : EventId) (files : JobId → Bool) (now : Int)
    (s : Store) : Except String (JobId × Store) := do
  s.assertHandoffOwner jobId sourceEventId
  let record ← orThrow (s.handoffs.get? jobId) "handoff_not_claimed"
  match record.successorJobId with
  | some successor => .ok (successor, s)
  | none => do
      s.assertUnchanged jobId record (files jobId)
      s.acceptHandoff jobs jobId record sourceEventId now

end Store

end Dona
