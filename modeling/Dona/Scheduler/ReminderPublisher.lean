import Dona.Scheduler.Occurrences

/-!
# The reminder publisher

Publishers claim reminders, ask the connector for a preflight, record the start of the
request, let the connector post, and record its answer. Any number of them work on one
database, and each of their tasks may be lost between two steps.
-/

namespace Dona

open Fallible

/-! ### Commands -/

/-- The command the connector is sent. -/
structure ReminderCommand where
  outboxId : Uuid
  runId : Uuid
  ownerId : String
  expiresAt : Timestamp
  misfireAt : Timestamp
  leaseUntil : Option Timestamp
  target : Target
  text : String

namespace Db

/-- The owner, the expiry and the misfire of a reminder whose text is the approved one. -/
def reminderConstraints (env : Env) (db : Db) (outboxId : Uuid) :
    Option (String × Timestamp × Timestamp) := do
  let row ← db.outbox.get? outboxId
  let run ← db.runs.get? row.runId
  let schedule ← db.schedules.get? run.scheduleId
  let revision ← db.revision? run.scheduleId run.revision
  let content ← row.content
  if row.kind = .reminderPost ∧ revision.action = .reminderPost ∧ row.target = revision.target ∧
      row.contentHash = revision.contentHash ∧ env.digest content = row.contentHash then
    some (schedule.ownerId, revision.expiresAt, run.scheduledFor.add 900)
  else none

def command (env : Env) (db : Db) (outboxId : Uuid) (row : Outbox) :
    Except String ReminderCommand := do
  let content ← orThrow row.content "invalid_reminder_outbox"
  throwIf (row.kind ≠ .reminderPost) "invalid_reminder_outbox"
  throwIf (row.target.workspaceId?.all (· = "") = true ∨ row.target.channelId?.all (· = "") = true)
    "invalid_reminder_target"
  let (ownerId, expiresAt, misfireAt) ← orThrow (db.reminderConstraints env outboxId)
    "invalid_reminder_owner"
  .ok
    { outboxId := outboxId
      runId := row.runId
      ownerId := ownerId
      expiresAt := expiresAt
      misfireAt := misfireAt
      leaseUntil := row.leaseUntil
      target := row.target
      text := content }

end Db

/-! ### Tasks -/

/-- The answer does not exclude that the post has been accepted. -/
def Db.WriteOutcome.mayBeAccepted : Db.WriteOutcome → Bool
  | .sent | .ambiguous => true
  | _ => false

/-- How far the publication of one claim has come. -/
inductive TaskStage
  | claimed
  | prepared (command : ReminderCommand)
  /-- The start of the request is committed and the connector posts. -/
  | posting (command : ReminderCommand)
  | answered (outcome : Db.WriteOutcome)
  | settled (outcome : Db.WriteOutcome)
  /-- The task was lost after the start of its request had been committed. -/
  | lost
  | closed

structure Task where
  outboxId : Uuid
  stage : TaskStage

namespace TaskStage

/-- A post has been requested from the connector. -/
def isPosted : TaskStage → Bool
  | posting _ | answered _ | settled _ | lost => true
  | claimed | prepared _ | closed => false

/-- The post of the task may have been accepted. -/
def mayBeAccepted : TaskStage → Bool
  | answered outcome | settled outcome => outcome.mayBeAccepted
  | lost => true
  | _ => false

/-- The post of the task may have been accepted, or its request is not settled. -/
def isLive : TaskStage → Bool
  | posting _ | answered _ | lost => true
  | settled outcome => outcome.mayBeAccepted
  | _ => false

theorem isLive_of_mayBeAccepted {stage : TaskStage} (h : stage.mayBeAccepted = true) :
    stage.isLive = true := by
  cases stage <;> simp_all [mayBeAccepted, isLive]

end TaskStage

/-- The database and the tasks of all publishers, by the token of their claim. -/
structure Publishing where
  db : Db
  tasks : Table Uuid Task

/-! ### Steps -/

inductive PublisherOp
  /-- Any other call of the repository. -/
  | repository (op : SchedulerOp)
  | claimBatch (now : Timestamp) (leaseSeconds limit : ℕ)
  | inspect (token : Uuid) (now : Timestamp)
  /-- The connector refuses the preflight. -/
  | refuse (token : Uuid) (outcome : Db.PreflightOutcome) (now : Timestamp)
      (retryAfterSeconds : ℕ)
  | deliver (token : Uuid) (now : Timestamp)
  | answer (token : Uuid) (outcome : Db.WriteOutcome)
  | settle (token : Uuid) (now : Timestamp) (receiptId : String) (retryAfterSeconds : ℕ)
  | crash (token : Uuid)

/-- The call settles the claim of a reminder, which only its publisher does. -/
def SchedulerOp.isPublisherCall (db : Db) : SchedulerOp → Bool
  | requestStarted outboxId .. | rejectClaimBeforeWrite outboxId .. | finishWrite outboxId ..
  | finishWriteAfterPreflight outboxId .. => (db.outbox.get? outboxId).any (·.kind = .reminderPost)
  | _ => false

namespace Publishing

def setStage (s : Publishing) (token : Uuid) (stage : TaskStage) : Table Uuid Task :=
  s.tasks.updateKey token fun task ↦ { task with stage := stage }

def launch (tasks : Table Uuid Task) (claim : Uuid × Uuid) : Table Uuid Task :=
  (tasks.insert? claim.2 ⟨claim.1, .claimed⟩).getD tasks

def claimBatch (s : Publishing) (now : Timestamp) (leaseSeconds limit : ℕ) : Publishing :=
  match s.db.claimBatch now leaseSeconds (some .reminderPost) limit with
  | .ok (claimed, db) => ⟨db, claimed.foldl launch s.tasks⟩
  | .error _ => s

/-- The command of a claim, or the rejection of the claim. -/
def inspect (env : Env) (s : Publishing) (token : Uuid) (outboxId : Uuid) (now : Timestamp) :
    Publishing :=
  match (s.db.getOutbox outboxId now).map (s.db.command env outboxId) with
  | some (.ok command) => ⟨s.db, s.setStage token (.prepared command)⟩
  | _ => ⟨commit (Db.rejectClaimBeforeWrite outboxId token now) s.db, s.setStage token .closed⟩

/-- The post is only requested once the start of the request is committed. -/
def deliver (s : Publishing) (token : Uuid) (outboxId : Uuid) (command : ReminderCommand)
    (now : Timestamp) : Publishing :=
  match s.db.requestStarted outboxId token now with
  | .ok (some (), db) => ⟨db, s.setStage token (.posting command)⟩
  | .ok (none, db) => ⟨db, s.setStage token .closed⟩
  | .error _ => ⟨s.db, s.setStage token .closed⟩

def settle (env : Env) (s : Publishing) (token : Uuid) (outboxId : Uuid)
    (outcome : Db.WriteOutcome) (now : Timestamp) (receiptId : String) (retryAfterSeconds : ℕ) :
    Publishing :=
  ⟨commit (Db.finishWrite env outboxId token outcome now
      (if outcome = .sent then some receiptId else none) retryAfterSeconds) s.db,
    s.setStage token (.settled outcome)⟩

end Publishing

open Publishing in
/-- The step of a publisher that holds the task with the token. -/
def PublisherOp.task (env : Env) (s : Publishing) (task : Task) : PublisherOp → Publishing
  | inspect token now =>
      match task.stage with
      | .claimed => s.inspect env token task.outboxId now
      | _ => s
  | refuse token outcome now retryAfterSeconds =>
      match task.stage with
      | .prepared _ =>
          ⟨commit (Db.finishWriteAfterPreflight env task.outboxId token outcome now
            retryAfterSeconds) s.db, s.setStage token .closed⟩
      | _ => s
  | deliver token now =>
      match task.stage with
      | .prepared command => s.deliver token task.outboxId command now
      | _ => s
  | answer token outcome =>
      match task.stage with
      | .posting _ => ⟨s.db, s.setStage token (.answered outcome)⟩
      | _ => s
  | settle token now receiptId retryAfterSeconds =>
      match task.stage with
      | .answered outcome => s.settle env token task.outboxId outcome now receiptId retryAfterSeconds
      | _ => s
  | crash token =>
      match task.stage with
      | .claimed | .prepared _ => ⟨s.db, s.setStage token .closed⟩
      | .posting _ | .answered _ => ⟨s.db, s.setStage token .lost⟩
      | _ => s
  | _ => s

/-- The token of the task whose publisher takes the step. -/
def PublisherOp.token? : PublisherOp → Option Uuid
  | repository _ | claimBatch .. => none
  | inspect token _ | refuse token .. | deliver token _ | answer token _ | settle token ..
  | crash token => some token

/-- A step on a task that nobody holds does nothing. -/
def PublisherOp.onTask (env : Env) (s : Publishing) (op : PublisherOp) : Publishing :=
  match op.token?.bind s.tasks.get? with
  | none => s
  | some task => op.task env s task

def PublisherOp.next (env : Env) (s : Publishing) : PublisherOp → Publishing
  | repository op => if op.isPublisherCall s.db then s else ⟨op.next env s.db, s.tasks⟩
  | claimBatch now leaseSeconds limit => s.claimBatch now leaseSeconds limit
  | op => op.onTask env s

/-- Publishers over the scheduler, from an empty database. -/
def publishing (env : Env) : TransitionSystem Publishing PublisherOp :=
  .ofFun (· = ⟨.fresh, .empty⟩) (PublisherOp.next env)

end Dona
