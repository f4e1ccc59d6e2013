import Dona.Dispatcher.Worker
import Dona.Jobs.Tasks

/-!
# Steering a task

A request to steer a task is admitted by one transaction, handed to the supervisor, which appends
it to the job that still waits or submits it to the worker, and settled by a third one. What has
been committed stays, whatever fails afterwards.
-/

namespace Dona

open DispatcherWorker Fallible

/-! ### Requests -/

/-- What a request leaves: its answer, and the prompt that it issued with the outcome. -/
structure Steered (ε α : Type) where
  reply : Except ε α
  prompted : Option HerdrCommandResult := none
  store : Store

namespace Steered

variable {ε α β : Type}

def done (a : α) (s : Store) : Steered ε α := { reply := .ok a, store := s }

def fail (e : ε) (s : Store) : Steered ε α := { reply := .error e, store := s }

/-- One transaction of the request. -/
def commit (body : Store → Except ε (α × Store)) (s : Store) : Steered ε α :=
  { reply := (transaction body s).1, store := (transaction body s).2 }

/-- What comes next, unless the request has failed. What it has committed stays. -/
def andThen (x : Steered ε α) (next : α → Store → Steered ε β) : Steered ε β :=
  match x.reply with
  | .ok a => { next a x.store with prompted := x.prompted.or (next a x.store).prompted }
  | .error e => { reply := .error e, prompted := x.prompted, store := x.store }

end Steered

def steerBlockedMessage : String := "Background agent is waiting for approval or human input"

namespace Store

variable (jobs : JobsEnv)

/-- The job ended with a steer that nobody has verified. -/
def keepsStopFence (s : Store) (jobId : JobId) : Bool :=
  (s.db.jobs.get? jobId).any fun job ↦
    job.status.isTerminal ∧ job.lastErrorCode = some "terminal_steer_worker_unverified"

/-- What `steer` does with the outcome of the prompt. -/
def answerSteer (jobId : JobId) (eventId : EventId) (prompted : HerdrCommandResult) (now : Int)
    (s : Store) : Steered String Bool :=
  if prompted.ok then
    (Steered.commit (markJobSteerAccepted jobId eventId now) s).andThen fun _ ↦ .done false
  else if prompted.timedOut = false ∧ prompted.errorCode = some "agent_blocked" then
    (Steered.commit (markJobBlocked jobs jobId steerBlockedMessage [.running] now)
      (s.clearJobSteer jobId eventId now)).andThen fun _ ↦
        .fail s!"Job {jobId} is blocked and could not accept steer input"
  else if prompted.timedOut = false ∧ prompted.errorCode.any unavailableAgentErrors.contains then
    let s := s.clearJobSteer jobId eventId now
    if s.keepsStopFence jobId then .fail (commandMessage prompted) s
    else (Steered.commit (markJobNeedsReview jobs jobId (prompted.errorCode.getD "")
      (commandMessage prompted) now) s).andThen fun _ ↦ .fail (commandMessage prompted)
  else
    (Steered.commit (markJobNeedsReview jobs jobId
      (prompted.errorCode.getD "steer_acceptance_unknown") (commandMessage prompted) now)
        s).andThen fun _ ↦ .fail s!"Job {jobId} steer acceptance is unknown and requires review"

/-- `steer` of the supervisor; `answer` is the outcome of the prompt, if one is issued. -/
def steer (jobId : JobId) (eventId : EventId) (instruction : String) (answer : HerdrCommandResult)
    (now later : Int) (s : Store) : Steered String Bool :=
  match s.db.jobs.get? jobId with
  | none => .fail s!"Job {jobId} was not found" s
  | some current =>
    if [JobStatus.queued, .retryableFailed].contains current.status then
      Steered.commit (appendQueuedJobInstruction jobs jobId eventId instruction now) s
    else
      (Steered.commit (beginJobSteer jobId eventId now) s).andThen fun duplicate s ↦
        if duplicate then .done true s
        else { s.answerSteer jobs jobId eventId answer later with prompted := some answer }

end Store

/-! ### All or nothing -/

/-- What a steer adds to the objective of a job that still waits. -/
def followUp (instruction : String) : String :=
  "\n\n[DONA_FOLLOW_UP]\n" ++ instruction ++ "\n[/DONA_FOLLOW_UP]"

namespace Steered

variable {ε α : Type}

/-- The instruction went into the objective of the job. -/
def Appended (jobId : JobId) (instruction : String) (s : Store) (outcome : Steered ε α) : Prop :=
  ∃ job job', s.db.jobs.get? jobId = some job ∧ outcome.store.db.jobs.get? jobId = some job' ∧
    job'.objective = job.objective ++ followUp instruction

/-- The columns of a task that a steer writes. -/
def columns (task : TaskRow) : String × TaskState × Option WaitReason × Option EventId :=
  (task.objective, task.state, task.waitReason, task.steerPendingEventId)

end Steered

/-! ### When the job takes the instruction -/

end Dona
