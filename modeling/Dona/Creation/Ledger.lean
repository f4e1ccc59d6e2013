import Dona.Creation.WorkspaceJson
import Dona.Scheduler.EventRows
import Dona.Jobs.Effects

/-!
# Creating events and jobs

`enqueue` and `createJob` on rows that hold their documents: the columns that a repeated event is
compared with, and the `workspace_json` that a repeated job is recognised by. The other statements
on `workspace_json` add members to it.
-/

namespace Dona

open Json Fallible

/-! ### Rows with their documents -/

/-- The tables of the dispatcher, with the columns of the events and of the jobs that hold
documents. -/
structure Ledger (N : Type) where
  store : Store
  columns : Table EventId Dispatcher.EventColumns
  workspaceJson : Table JobId (Members N)

variable {N : Type}

/-- An event as it comes in. -/
structure Envelope (N : Type) where
  source : EventSource
  externalEventId : ExternalEventId
  compared : Dispatcher.EventEnvelope N

/-- The event with its documents as they are read later. -/
def Envelope.typed (env : CreationEnv N) (envelope : Envelope N) : EventEnvelope :=
  let view := env.view (envelope.compared.columns env.collation env.numerals)
  { source := envelope.source
    externalEventId := envelope.externalEventId
    type := envelope.compared.type
    occurredAt := view.occurredAt
    subject := view.subject
    payload := view.payload
    replyTarget := view.replyTarget }

namespace Ledger

variable (env : CreationEnv N)

/-! ### Events -/

/-- The event that a source knows by this name. -/
def event? (s : Ledger N) (envelope : Envelope N) : Option (EventId × EventRow) :=
  s.store.db.events.find? fun _ event ↦
    event.source = envelope.source ∧ event.externalEventId = envelope.externalEventId

def enqueue (envelope : Envelope N) (now : Timestamp) (s : Ledger N) :
    Except String (EnqueueResult × Ledger N) :=
  match s.event? envelope with
  | some (eventId, existing) => do
      let columns ← orThrow (s.columns.get? eventId) s!"Event {eventId} was not found"
      let mismatch := Dispatcher.EventEnvelope.payloadMismatch env.collation env.numerals columns
        envelope.compared
      let db ← s.store.db.bindSlackEvent eventId existing
      .ok (⟨eventId, true, mismatch⟩, { s with store := { s.store with db := db } })
  | none => do
      let (result, db) ← s.store.db.enqueue (envelope.typed env) now
      let columns ← orThrow
        (s.columns.insert? result.eventId (envelope.compared.columns env.collation env.numerals))
        "UNIQUE constraint failed: events.event_id"
      .ok (result, { s with store := { s.store with db := db }, columns := columns })

/-! ### Jobs -/

/-- A request that has been checked, with its event and the owner of the jobs of the event. -/
structure Prepared where
  request : CreateJobRequest
  event : EventRow
  binding : JobBinding

/-- A schedule permits the work that it recorded, and nothing else. -/
def checkScheduled (event : EventRow) (request : CreateJobRequest) : Except String Unit :=
  match event.payload with
  | .scheduleDue _ _ _ objective _ _ => do
      throwIf (request.workspace ≠ .scratch) "scheduled_workspace_mismatch"
      throwIf (request.jobKey ≠ none ∨ request.display ≠ none ∨ objective ≠ some request.objective)
        "scheduled_scope_mismatch"
  | _ => .error "scheduled_scope_mismatch"

/-- What `createJob` does before its transaction. -/
def prepare (request : CreateJobRequest) (s : Ledger N) : Except String Prepared := do
  let parsed ← request.parse
  let event ← s.store.db.getRequired parsed.sourceEventId
  let parsed := if event.source = .donaSchedule then { parsed with objective := request.objective }
    else parsed
  let binding ← orThrow (s.store.binding? parsed.sourceEventId)
    s!"Event {parsed.sourceEventId} does not have an authorized job owner"
  let _ ← (if binding.owner.isSchedule then checkScheduled event parsed else .ok ())
  .ok ⟨parsed, event, binding⟩

/-- The job that the event has under the key of the request. -/
def job? (s : Ledger N) (request : CreateJobRequest) : Option (JobId × JobRow) :=
  s.store.db.jobs.find? fun _ job ↦
    job.sourceEventId = request.sourceEventId ∧ job.jobKey = request.jobKey.getD legacyJobKey

/-- The digest that the row of a job holds. -/
def storedDigest? (s : Ledger N) (jobId : JobId) : Option Text :=
  (s.workspaceJson.get? jobId).bind jobCreationPayloadSha256FromWorkspace

/-- The payload of a row that may have no digest is the payload of the request. -/
def exactLegacyPayload (job : JobRow) (document : Members N) (request : CreateJobRequest) :
    Except String Bool :=
  if job.objective = request.objective then do
    let workspace ← parseJobWorkspace document
    .ok (Dispatcher.stableStringify env.collation env.numerals (.object workspace.members.entries) =
      Dispatcher.stableStringify env.collation env.numerals
        (.object request.workspace.members.entries))
  else .ok false

/-- `legacyWorkspaceJson` replaces the document of the row. -/
def attachDigest (jobId : JobId) (request : CreateJobRequest) (s : Ledger N) : Ledger N :=
  let document : WorkspaceDocument := ⟨request.workspace, request.objective, none⟩
  { s with
    store := { s.store with
      workspaces := match s.store.workspaces.insert? jobId document with
        | some workspaces => workspaces
        | none => s.store.workspaces.updateKey jobId fun _ ↦ document }
    workspaceJson := s.workspaceJson.updateKey jobId fun _ ↦
      serializeJobWorkspace env request.workspace (canonicalJobPayloadSha256 env request)
        (some request.objective.utf8ByteSize) none }

/-- A request with the key of a job that exists. -/
def reuseJob (prepared : Prepared) (jobId : JobId) (job : JobRow) (now : Int) (s : Ledger N) :
    Except String (Option Store.CreateJobResult × Ledger N) := do
  let request := prepared.request
  let document ← orThrow (s.workspaceJson.get? jobId) s!"Job {jobId} was not found"
  let stored := jobCreationPayloadSha256FromWorkspace document
  throwIf (stored.any (· ≠ canonicalJobPayloadSha256 env request) = true)
    "job_idempotency_conflict"
  let exact ← exactLegacyPayload env job document request
  throwIf (stored = none ∧ exact = false) "job_idempotency_conflict"
  let s := if stored = none then s.attachDigest env jobId request else s
  throwIf (prepared.binding.owner.isSchedule = true ∧
    (prepared.event.status.isAgentOwned = false ∨
      s.store.runAuthorized prepared.binding.owner jobId now = false))
    "scheduled_run_not_authorized"
  .ok (some ⟨jobId, true⟩, s)

/-- A job that is new is admitted, inserted and started as the tables without documents say. -/
def createJob (request : CreateJobRequest) (now : Int) (s : Ledger N) :
    Except String (Option Store.CreateJobResult × Ledger N) := do
  let prepared ← s.prepare request
  match s.job? prepared.request with
  | some (jobId, job) => s.reuseJob env prepared jobId job now
  | none => do
      let (created, store) ← s.store.createJob env.jobs request now
      match created with
      | none => .ok (none, { s with store := store })
      | some created => do
          let parsed := prepared.request
          let documents ← orThrow (s.workspaceJson.insert? created.jobId
            (serializeJobWorkspace env parsed.workspace (canonicalJobPayloadSha256 env parsed)
              (some parsed.objective.utf8ByteSize)
              (env.createJobDisplayLabel parsed.display parsed.workspace)))
            "UNIQUE constraint failed: jobs.job_id"
          .ok (some created, { s with store := store, workspaceJson := documents })

/-! ### Later statements -/

def updateWorkspaceJson (jobId : JobId) (f : Members N → Members N) (s : Ledger N) : Ledger N :=
  { s with workspaceJson := s.workspaceJson.updateKey jobId f }

/-- `_dona_task` -/
def taskStamp (taskId attemptId : Text) (attemptNumber : ℕ) : Json N :=
  .object [(unitsOf "task_id", .string taskId), (unitsOf "attempt_id", .string attemptId),
    (unitsOf "attempt_number", .number (env.natural attemptNumber))]

/-- `_dona_handoff` -/
def handoffMark (predecessorJobId workspaceJobId : Text) : Json N :=
  .object [(unitsOf "predecessor_job_id", .string predecessorJobId),
    (unitsOf "workspace_job_id", .string workspaceJobId)]

def stampAttempt (jobId : JobId) (taskId : Text) (attemptNumber : ℕ) (s : Ledger N) : Ledger N :=
  s.updateWorkspaceJson jobId fun document ↦
    document.assign (unitsOf "_dona_task") (taskStamp env taskId (utf16 jobId) attemptNumber)

/-- The statement of `finishJobHandoff` on the successor. -/
def markHandoff (jobId : JobId) (predecessorJobId workspaceJobId : Text) (s : Ledger N) :
    Ledger N :=
  s.updateWorkspaceJson jobId fun document ↦
    (document.assign (unitsOf "_dona_handoff")
      (handoffMark predecessorJobId workspaceJobId)).sortedBy env.collation

/-- The statement of `replaceStopped` that inserts the next attempt at a task. -/
def insertAttempt (oldJobId jobId : JobId) (job : JobRow) (taskId workspaceJobId : Text)
    (attemptNumber : ℕ) (s : Ledger N) : Except String (Unit × Ledger N) := do
  let document ← orThrow (s.workspaceJson.get? oldJobId) s!"Job {oldJobId} was not found"
  throwIf (s.store.db.jobs.any fun _ row ↦
      row.sourceEventId = job.sourceEventId ∧ row.jobKey = job.jobKey)
    "UNIQUE constraint failed: jobs.source_event_id, jobs.job_key"
  let jobs ← orThrow (s.store.db.jobs.insert? jobId job) "UNIQUE constraint failed: jobs.job_id"
  let documents ← orThrow (s.workspaceJson.insert? jobId
      ((document.assign (unitsOf "_dona_task")
        (taskStamp env taskId (utf16 jobId) attemptNumber)).assign (unitsOf "_dona_handoff")
          (handoffMark (utf16 oldJobId) workspaceJobId))) "UNIQUE constraint failed: jobs.job_id"
  .ok ((), { s with
    store := s.store.updateDb fun db ↦ { db with jobs := jobs }
    workspaceJson := documents })

/-! ### Runs -/

/-- What the rest of the dispatcher does: it neither adds events or jobs nor renames them, and it
leaves `workspace_json` and the owners of the jobs of Slack events. -/
structure Elsewhere (s t : Ledger N) : Prop where
  jobs : s.store.db.jobs.Evolves (fun _ job job' ↦
    job'.sourceEventId = job.sourceEventId ∧ job'.jobKey = job.jobKey) t.store.db.jobs
  events : s.store.db.events.Evolves (fun _ event event' ↦
    event'.source = event.source ∧ event'.externalEventId = event.externalEventId ∧
      ∀ binding, Db.legacySlackBinding event' = some binding →
        Db.legacySlackBinding event = some binding) t.store.db.events
  columns : s.columns.Evolves (fun _ _ _ ↦ True) t.columns
  workspaceJson : t.workspaceJson = s.workspaceJson
  bindings : ∀ eventId event binding, t.store.db.events.get? eventId = some event →
    Db.legacySlackBinding event = some binding →
      t.store.db.eventBindings.get? eventId = s.store.db.eventBindings.get? eventId

inductive Act (N : Type)
  | enqueue (envelope : Envelope N) (now : Timestamp)
  | createJob (request : CreateJobRequest) (now : Int)
  | stampAttempt (jobId : JobId) (taskId : Text) (attemptNumber : ℕ)
  | markHandoff (jobId : JobId) (predecessorJobId workspaceJobId : Text)
  | insertAttempt (oldJobId jobId : JobId) (job : JobRow) (taskId workspaceJobId : Text)
      (attemptNumber : ℕ)
  | elsewhere

def Step (s : Ledger N) : Act N → Ledger N → Prop
  | .enqueue envelope now, t => t = commit (enqueue env envelope now) s
  | .createJob request now, t => t = commit (createJob env request now) s
  | .stampAttempt jobId taskId attemptNumber, t => t = s.stampAttempt env jobId taskId attemptNumber
  | .markHandoff jobId predecessorJobId workspaceJobId, t =>
      t = s.markHandoff env jobId predecessorJobId workspaceJobId
  | .insertAttempt oldJobId jobId job taskId workspaceJobId attemptNumber, t =>
      t = commit (insertAttempt env oldJobId jobId job taskId workspaceJobId attemptNumber) s
  | .elsewhere, t => Elsewhere s t

end Ledger

end Dona
