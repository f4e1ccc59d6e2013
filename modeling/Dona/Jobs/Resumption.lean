import Dona.Jobs.Supervisor

/-!
# Inspecting and resuming a job

`inspectWorker` and `resumeJob` of the supervisor. The work of a job whose worker is gone is handed
to a new job in four durable steps: the handoff is claimed, the retirement of the worker is
authorised once, the worker is seen to be retired, and the successor is created.
-/

namespace Dona.Jobs

open Coroutine Fallible

section

variable (jobs : JobsEnv)

/-- What is told of a handoff. -/
abbrev HandoffSummary := HandoffState × RetirementState × Option JobId

def HandoffRecord.summary (record : HandoffRecord) : HandoffSummary :=
  (record.state, record.retirementState, record.successorJobId)

/-- The observation of a job that changed meanwhile. -/
def changedDuringObservation (observation : WorkerObservation) : WorkerObservation :=
  { observation with
    state := .unknown
    reason := "job_changed_during_observation"
    processIds := []
    processGroups := [] }

def assertHandoffOwner (jobId : JobId) (sourceEventId : EventId) : Program Unit := do
  let owned ← read fun w ↦ w.store.assertHandoffOwner jobId sourceEventId
  settled owned

def inspectWorker (jobId : JobId) (sourceEventId : EventId) :
    Program (JobStatus × WorkerObservation × Option HandoffSummary) := do
  assertHandoffOwner jobId sourceEventId
  let before ← read (·.store.snapshot? jobId)
  let before ← required before
  let observation ← observeWorker jobId before
  assertHandoffOwner jobId sourceEventId
  let current ← read (·.store.snapshot? jobId)
  let current ← required current
  let record ← read (·.store.handoffs.get? jobId)
  pure (current.1.status,
    if current ≠ before then changedDuringObservation observation else observation,
    record.map HandoffRecord.summary)

/-! ### Resuming -/

/-- The reply to a request to resume a job. -/
inductive Resumption
  | reused (successor : JobId)
  | notResumed (worker : WorkerObservation)
  | retirementPending
  | created (successor : JobId)

/-- The worker is idle, with the processes that it had. -/
def sameIdle (fresh observation : WorkerObservation) : Bool :=
  Store.isIdle fresh ∧ sameProcesses fresh observation

/-- A result that exists is taken up first. -/
def assertNoResult (jobId : JobId) : Program Unit := do
  let r : Except ReadFailure Unit ← call (Call.lstatResult jobId)
  match r with
  | .ok _ => throw "handoff_result_requires_reconciliation"
  | .error .notFound => pure ()
  | .error .invalid => throw "lstat"

def assertAdmission (jobId : JobId) (old : JobRow) (sourceEventId : EventId) (instruction : String) :
    Program Unit := do
  let accepted ← read fun w ↦
    w.store.assertHandoffAdmission jobs jobId old sourceEventId instruction w.moment.now
  settled accepted

/-- The handoff is claimed when the worker was idle twice; the reply is the record, or what the
worker looks like. -/
def claimHandoff (jobId : JobId) (sourceEventId : EventId) (instruction : String) :
    Program (WorkerObservation ⊕ HandoffRecord) := do
  let before ← read (·.store.snapshot? jobId)
  let before ← required before
  if [JobStatus.running, .blocked, .needsReview].contains before.1.status = false then
    throw "handoff_job_not_resumable"
  else do
    assertNoResult jobId
    let observation ← observeWorker jobId before
    if Store.isIdle observation = false then pure (.inl observation)
    else do
      let fresh ← observeWorker jobId before
      if sameIdle fresh observation = false then pure (.inl fresh)
      else do
        assertAdmission jobs jobId before.1 sourceEventId instruction
        execute jobs (.claimJobHandoff jobId before sourceEventId instruction fresh)
        let record ← read (·.store.handoffs.get? jobId)
        let record ← required record
        pure (.inr record)

/-- The retirement is sent when it was not sent before; the reply is what the worker looks like
when it is not as it was. -/
def retire (jobId : JobId) (sourceEventId : EventId) (instruction : String) (record : HandoffRecord) :
    Program (Option WorkerObservation) :=
  if record.retirementState = .notSent then do
    let fresh ← observeWorker jobId record.expectedJob
    if sameIdle fresh record.observation = false then pure (some fresh)
    else do
      assertAdmission jobs jobId record.expectedJob.1 sourceEventId instruction
      if fresh.state ≠ .stopped then do
        let may : Bool ← execute jobs (.beginHandoffRetirement jobId sourceEventId)
        if may then do
          -- The outcome is established by the reads that follow.
          let _ : Except String Unit ← call (Call.retireWorker jobId)
          pure none
        else pure none
      else pure none
  else pure none

/-- The worker is asked for until it is retired, or until the time is up. -/
def awaitRetired (jobId : JobId) (evidence : WorkerObservation) : ℕ → Program Bool
  | 0 => do
      let r : Except String Bool ← call (Call.workerRetired jobId evidence)
      settled r
  | polls + 1 => do
      let r : Except String Bool ← call (Call.workerRetired jobId evidence)
      let retired ← settled r
      if retired then pure true
      else do
        let r : Except String Unit ← call Call.delay
        settled r
        awaitRetired jobId evidence polls

/-- What happens in the turn of the job; `observes` says whether the runtime can observe and
retire workers. -/
def resumeInTurn (observes : Bool) (jobId : JobId) (sourceEventId : EventId) (instruction : String)
    (polls : ℕ) : Program Resumption := do
  assertHandoffOwner jobId sourceEventId
  let record ← read (·.store.handoffs.get? jobId)
  if record.any (·.instruction ≠ instruction) then throw "handoff_instruction_conflict"
  else
    match record.bind (·.successorJobId) with
    | some successor => pure (.reused successor)
    | none =>
        if observes = false then throw "handoff_runtime_unavailable"
        else do
          let claimed ← (match record with
            | some record => pure (.inr record)
            | none => claimHandoff jobs jobId sourceEventId instruction)
          match claimed with
          | .inl worker => pure (.notResumed worker)
          | .inr record => do
              match ← retire jobs jobId sourceEventId instruction record with
              | some worker => pure (.notResumed worker)
              | none => do
                  let retired ← awaitRetired jobId record.observation polls
                  if retired then do
                    let successor : JobId ← execute jobs (.finishJobHandoff jobId sourceEventId)
                    pure (.created successor)
                  else pure .retirementPending

def resumeJob (observes : Bool) (jobId : JobId) (sourceEventId : EventId) (instruction : String)
    (polls : ℕ) : Program Resumption := do
  let attempt ← read (·.store.forAttempt jobId)
  if attempt.isSome then throw "task_control_required"
  else do
    call (Call.turn jobId)
    resumeInTurn jobs observes jobId sourceEventId instruction polls

end

end Dona.Jobs
