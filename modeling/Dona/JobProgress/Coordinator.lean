import Dona.JobProgress.Store
import Dona.Library.Coroutine

/-!
# The job progress coordinator

`JobProgressCoordinator` of `dispatcher/src/job-progress.ts`: it takes the progress of the jobs
in, reports it to the Slack Adapter, and reconciles it when jobs end. Between two awaits it runs
undisturbed. The rest of the dispatcher changes the jobs and the groups at any await, and a crash
keeps the databases only.
-/

namespace Dona.JobProgress

open Coroutine

/-- The columns of a job that the coordinator reads. -/
structure JobRow where
  source : EventSource
  sourceEventId : EventId
  status : JobStatus
  workspaceId : Option String := none
  channelId : Option String := none
  threadTs : Option String := none
  createdAt : Int
  deriving DecidableEq

def terminalStatuses (status : JobStatus) : Bool :=
  [.blocked, .completed, .failed, .cancelled, .needsReview].contains status

/-- A column that is neither null nor empty. -/
def present (column : Option String) : Option String := column.filter (· ≠ "")

/-- The thread of a job whose progress is reported. -/
def JobRow.thread (job : JobRow) : Option SlackThread := do
  let workspaceId ← present job.workspaceId
  let channelId ← present job.channelId
  let threadTs ← present job.threadTs
  if job.source = .donaSchedule ∨ terminalStatuses job.status then none
  else some ⟨workspaceId, channelId, threadTs⟩

theorem source_of_thread {job : JobRow} {thread : SlackThread} (h : job.thread = some thread) :
    job.source ≠ .donaSchedule := by
  intro hsource
  simp [JobRow.thread, hsource] at h

/-- A progress id is a job and a sequence. -/
abbrev ProgressId : Type := JobId × ℕ

abbrev Token : Type := ℕ

/-- One delivery attempt: the row that it found, and the promise that its end resolves. -/
structure Delivery where
  jobId : JobId
  sequence : ℕ
  workspaceId : String
  operation : ℕ

inductive Outcome
  | delivered | retry | unknown
  deriving DecidableEq

/-- The end of a delivery attempt, with the row before it and after it, and the attempt that the
row was under. -/
structure Settlement where
  delivery : Delivery
  outcome : Outcome
  before : Option ProgressStatus
  startedBy : Option ℕ
  after : Option ProgressStatus

/-- A requeue: the job that ended, and its siblings which had not. -/
structure Requeue where
  jobId : JobId
  row : JobRow
  running : List JobId

/-- The two databases, the clock and the memory of the coordinator. The last six fields are what
the proofs keep of the past: the attempts that are not settled, the attempt that last began a row,
the tokens that were issued, the attempts that were settled, the requeues, and the attempts whose
rows a recovery took. -/
structure World where
  store : Store
  jobs : Table JobId JobRow
  groups : Table EventId JobGroupRow
  now : Int
  deliveryClaims : ProgressId → Option Token
  deliveryOperations : JobId → Option ℕ
  unresolved : List ℕ
  terminalReconciliations : List EventId
  backgroundRecovery : Bool
  aborted : Bool
  nextToken : Token
  nextOperation : ℕ
  underWay : ℕ → Option Delivery
  startedBy : JobId → Option ℕ
  tokens : List (ProgressId × Token)
  settlements : List Settlement
  requeues : List Requeue
  recoveries : List (List JobId)

/-! ### Awaits -/

inductive Call
  | drainDeliveries (operations : List ℕ)
  | removeProgress
  | readProgress (jobId : JobId)
  | readPrivateToken
  | postProgress
  | postDrain
  | delay
  | never

/-- What the Slack Adapter answered, or how the request failed. -/
inductive PostReply
  | answered (statusCode : ℕ) (retryAfterSeconds : Option Int)
  | failed (message : String) (code : Option String) (requestStarted : Bool)

abbrev Call.Reply : Call → Type
  | .drainDeliveries _ => Unit
  | .removeProgress => Unit
  | .readProgress _ => Option JobProgressEnvelope
  | .readPrivateToken => Bool
  | .postProgress => PostReply
  | .postDrain => Except String ℕ
  | .delay => Unit
  | .never => Empty

/-- The deliveries that were waited for have ended, and a progress that was read is one of its
job. -/
inductive Performs : (c : Call) → World → c.Reply → World → Prop
  | drainDeliveries {w : World} {operations : List ℕ} :
      (∀ operation ∈ operations, operation ∉ w.unresolved) →
        Performs (.drainDeliveries operations) w () w
  | removeProgress (w : World) : Performs .removeProgress w () w
  | readProgress {w : World} {jobId : JobId} {progress : Option JobProgressEnvelope} :
      (∀ p ∈ progress, p.jobId = jobId ∧ 1 ≤ p.sequence) →
        Performs (.readProgress jobId) w progress w
  | readPrivateToken (w : World) (valid : Bool) : Performs .readPrivateToken w valid w
  | postProgress (w : World) (reply : PostReply) : Performs .postProgress w reply w
  | postDrain (w : World) (reply : Except String ℕ) : Performs .postDrain w reply w
  | delay (w : World) : Performs .delay w () w

abbrev Program (α : Type) : Type := Coroutine World Call.Reply String α

/-! ### Ingestion -/

namespace World

def setStore (store : Store) (w : World) : World := { w with store := store }

def terminal (jobId : JobId) (w : World) : World := w.setStore (w.store.terminal jobId)

def ofEvent (sourceEventId : EventId) (_ : JobId) (job : JobRow) : Bool :=
  job.sourceEventId = sourceEventId

/-- `ORDER BY created_at, job_id` -/
def listedBefore (a b : JobId × JobRow) : Bool :=
  a.2.createdAt < b.2.createdAt || (a.2.createdAt = b.2.createdAt && a.1 ≤ b.1)

def listEventJobs (w : World) (sourceEventId : EventId) : List (JobId × JobRow) :=
  (w.jobs.select (ofEvent sourceEventId)).insertionSort (listedBefore · ·)

def operationsOf (w : World) (jobIds : List JobId) : List ℕ :=
  jobIds.filterMap w.deliveryOperations

def isDelivering (w : World) (jobId : JobId) : Bool :=
  (w.store.get jobId).any (·.status = .delivering)

/-- Ends the row of a job, unless a sibling is under delivery. -/
def endRow (jobId : JobId) (siblings : List JobId) (w : World) : Bool × World :=
  if siblings.any w.isDelivering then (false, w) else (true, w.terminal jobId)

def requeue (jobId : JobId) (row : JobRow) (running : List JobId) (w : World) : World :=
  { w with
    store := w.store.requeueLatestAndMarkTerminal jobId running w.now
    requeues := ⟨jobId, row, running⟩ :: w.requeues }

def ingest (progress : JobProgressEnvelope) (w : World) : World :=
  w.setStore (w.store.ingest progress w.now).2

/-- `jobNotificationReady` -/
def jobNotificationReady (w : World) (jobId : JobId) : Bool :=
  (w.store.get jobId).any (·.terminalChecked) && (w.deliveryOperations jobId).isNone

end World

/-- `transact` for an update that never throws. -/
def update {α : Type} (f : World → α × World) : Program α := transact fun w ↦ .ok (f w)

def drainDeliveries (jobIds : List JobId) : Program Unit := do
  let operations ← read (·.operationsOf jobIds)
  call (Call.drainDeliveries operations)

def runningSiblings (siblings : List (JobId × JobRow)) : List JobId :=
  (siblings.filter fun sibling ↦ !terminalStatuses sibling.2.status).map Prod.fst

def ingestTerminal (jobId : JobId) (row : JobRow) : Program Unit := do
  let siblings ← read (·.listEventJobs row.sourceEventId)
  drainDeliveries (siblings.map Prod.fst)
  let ended ← update (·.endRow jobId (siblings.map Prod.fst))
  if ended = false then pure ()
  else do
    call Call.removeProgress
    write (·.requeue jobId row (runningSiblings siblings))

/-- A progress file that is missing or invalid is left alone. -/
def ingest (jobId : JobId) (row : JobRow) : Program Unit := do
  if row.source = .donaSchedule then write (·.terminal jobId)
  else if terminalStatuses row.status then ingestTerminal jobId row
  else
    let progress : Option JobProgressEnvelope ← call (Call.readProgress jobId)
    match progress with
    | none => pure ()
    | some progress => write (·.ingest progress)

/-! ### Draining the Slack Adapter -/

/-- No adapter, or one that does not know the request, has nothing under way. -/
def drainAdapter : Program Unit := do
  let token : Bool ← call Call.readPrivateToken
  if token = false then throw "missing internal token for progress drain"
  else
    let reply : Except String ℕ ← call Call.postDrain
    match reply with
    | .ok statusCode =>
        if [200, 404, 503].contains statusCode then pure ()
        else throw s!"progress drain HTTP {statusCode}"
    | .error code => if ["ENOENT", "ECONNREFUSED"].contains code then pure () else throw code

/-- One round: whether the drain has ended, and how. -/
def drainRound : Program (Unit ⊕ Bool) := do
  if (← read (·.aborted)) = true then pure (.inr false)
  else
    match ← attempt drainAdapter with
    | .ok () => pure (.inr true)
    | .error _ =>
        if (← read (·.aborted)) = true then pure (.inr false)
        else
          call Call.delay
          pure (.inl ())

/-- Suspends for ever. -/
def hang {α : Type} : Program α := do
  let nothing : Empty ← call Call.never
  nothing.elim

def drainAdapterUntilSettled (rounds : ℕ) : Program Bool :=
  iterate (fun () ↦ drainRound) hang rounds ()

/-! ### Recovery -/

namespace World

/-- The rows that a recovery takes from deliveries of this process. -/
def interrupted (w : World) : List JobId :=
  (w.store.rows.select fun jobId row ↦
    row.status = .delivering && (w.deliveryOperations jobId).isSome).map Prod.fst

def recoverDeliveries (w : World) : World :=
  { w with
    store := w.store.recoverDeliveries
    recoveries := w.interrupted :: w.recoveries }

def terminalJob? (w : World) (jobId : JobId) : Option JobRow :=
  (w.jobs.get? jobId).filter fun job ↦ terminalStatuses job.status

/-- Takes the background recovery, unless there is one. -/
def claimBackgroundRecovery (w : World) : Bool × World :=
  if w.backgroundRecovery then (false, w) else (true, { w with backgroundRecovery := true })

def endBackgroundRecovery (w : World) : World := { w with backgroundRecovery := false }

end World

def ingestBatch : List JobId → Program Unit
  | [] => pure ()
  | jobId :: jobIds => do
      match ← read (·.terminalJob? jobId) with
      | some row => ingest jobId row
      | none => pure ()
      ingestBatch jobIds

/-- One batch of `finishRecovery`. -/
def recoverBatch (afterJobId : JobId) : Program (JobId ⊕ Unit) := do
  let batch ← read (·.store.recoverable afterJobId 500)
  ingestBatch batch
  match batch.getLast? with
  | some last => if batch.length < 500 then pure (.inr ()) else pure (.inl last)
  | none => pure (.inr ())

def finishRecovery (rounds : ℕ) : Program Unit := do
  write (·.recoverDeliveries)
  iterate recoverBatch hang rounds ""

def recover (rounds : ℕ) : Program Unit := do
  if (← read (·.store.hasDelivering)) = true then drainAdapter else pure ()
  finishRecovery rounds

/-- The operation that `recoverInBackground` starts. -/
def backgroundOperation (rounds : ℕ) : Program Unit := do
  let drained ← (do
    if (← read (·.store.hasDelivering)) = true then drainAdapterUntilSettled rounds
    else pure true : Program Bool)
  if drained = false then pure () else finishRecovery rounds

def recoverInBackground (rounds : ℕ) : Program Unit := do
  let claimed ← update (·.claimBackgroundRecovery)
  if claimed = false then pure ()
  else
    let _ ← attempt (backgroundOperation rounds)
    write (·.endBackgroundRecovery)

/-! ### Reports -/

/-- An attempt of the program `i`, for the row that it found. -/
def World.beginDelivery (i : ℕ) (jobId : JobId) (sequence : ℕ) (workspaceId : String) (w : World) :
    World :=
  { w with
    store := w.store.begin jobId
    deliveryOperations := Function.update w.deliveryOperations jobId (some w.nextOperation)
    unresolved := w.nextOperation :: w.unresolved
    nextOperation := w.nextOperation + 1
    underWay := Function.update w.underWay i
      (some ⟨jobId, sequence, workspaceId, w.nextOperation⟩)
    startedBy := Function.update w.startedBy jobId (some w.nextOperation) }

def isNonterminalOf (workspaceId : String) (_ : JobId) (job : JobRow) : Bool :=
  job.workspaceId = some workspaceId && !terminalStatuses job.status

/-- All pending rows of a workspace wait for its throttle. -/
def World.deferWorkspaceJobs (workspaceId : String) (availableAt : Int) (w : World) : World :=
  w.setStore (w.store.deferJobs ((w.jobs.select (isNonterminalOf workspaceId)).map Prod.fst)
    availableAt)

/-- The group of an event was told that a job needs attention. -/
def World.isClaimedForAttention (w : World) (sourceEventId : EventId) : Bool :=
  (w.groups.get? sourceEventId).any fun group ↦
    group.notificationMode = .grouped ∧ group.attentionEventId ≠ none

/-- `report` up to its first await. -/
def World.startReport (i : ℕ) (w : World) : Option Delivery × World :=
  match w.store.pending w.now with
  | none => (none, w)
  | some (jobId, progress) =>
      match (w.jobs.get? jobId).bind fun job ↦ job.thread.map fun thread ↦ (job, thread) with
      | none => (none, w.terminal jobId)
      | some (job, thread) =>
          match (w.store.workspaceAvailableAt thread.workspaceId).filter (w.now < ·) with
          | some availableAt => (none, w.deferWorkspaceJobs thread.workspaceId availableAt)
          | none =>
              if w.isClaimedForAttention job.sourceEventId then (none, w.terminal jobId)
              else
                (some ⟨jobId, progress.sequence, thread.workspaceId, w.nextOperation⟩,
                  w.beginDelivery i jobId progress.sequence thread.workspaceId)

namespace World

/-- A token of its own for the delivery. -/
def claim (delivery : Delivery) (w : World) : World :=
  { w with
    deliveryClaims := Function.update w.deliveryClaims (delivery.jobId, delivery.sequence)
      (some w.nextToken)
    nextToken := w.nextToken + 1
    tokens := ((delivery.jobId, delivery.sequence), w.nextToken) :: w.tokens }

def dropClaim (delivery : Delivery) (w : World) : World :=
  { w with
    deliveryClaims := Function.update w.deliveryClaims (delivery.jobId, delivery.sequence) none }

def statusOf (store : Store) (jobId : JobId) : Option ProgressStatus :=
  (store.get jobId).map (·.status)

/-- The outcome of an attempt goes to the row of its job. -/
def settle (i : ℕ) (delivery : Delivery) (outcome : Outcome) (store : Store) (w : World) : World :=
  { w with
    store := store
    underWay := Function.update w.underWay i none
    settlements :=
      { delivery := delivery
        outcome := outcome
        before := statusOf w.store delivery.jobId
        startedBy := w.startedBy delivery.jobId
        after := statusOf store delivery.jobId } :: w.settlements }

def settleDelivered (i : ℕ) (delivery : Delivery) (w : World) : World :=
  w.settle i delivery .delivered (w.store.delivered delivery.jobId w.now)

/-- The workspace waits as long as the answer asked for. -/
def throttled (workspaceId : String) (retryAfterSeconds : Option Int) (w : World) : Store :=
  match retryAfterSeconds with
  | some seconds => w.store.deferWorkspace workspaceId (w.now + Store.retryDelay seconds)
  | none => w.store

def settleRetry (i : ℕ) (delivery : Delivery) (message : String) (retryAfterSeconds : Option Int)
    (w : World) : World :=
  w.settle i delivery .retry
    ((w.throttled delivery.workspaceId retryAfterSeconds).retry delivery.jobId message w.now
      (retryAfterSeconds.getD 5))

def settleUnknown (i : ℕ) (delivery : Delivery) (message : String) (w : World) : World :=
  w.settle i delivery .unknown (w.store.unknown delivery.jobId message)

/-- The attempt ends, and those who wait for it go on. -/
def finishDelivery (i : ℕ) (delivery : Delivery) (w : World) : World :=
  { w with
    deliveryOperations := Function.update w.deliveryOperations delivery.jobId none
    unresolved := w.unresolved.filter (· ≠ delivery.operation)
    underWay := Function.update w.underWay i none }

end World

structure PostError where
  message : String
  definitelyUnsent : Bool
  retryAfterSeconds : Option Int := none

/-- Only a `200` is a success; some failures show that nothing was posted. -/
def PostReply.result : PostReply → Except PostError Unit
  | answered statusCode retryAfterSeconds =>
      if statusCode = 200 then .ok ()
      else .error
        { message := s!"HTTP {statusCode}"
          definitelyUnsent := [400, 401, 403, 404, 429].contains statusCode
          retryAfterSeconds := retryAfterSeconds }
  | failed message code requestStarted => .error
      { message := message
        definitelyUnsent := !requestStarted && code.any ["ENOENT", "ECONNREFUSED"].contains }

/-- The answer of the Slack Adapter settles the attempt. -/
def settlePost (i rounds : ℕ) (delivery : Delivery) (reply : PostReply) : Program Unit := do
  match reply.result with
  | .ok () =>
      write (·.settleDelivered i delivery)
      write (·.dropClaim delivery)
  | .error error =>
      write (·.dropClaim delivery)
      if error.definitelyUnsent = true then
        write (·.settleRetry i delivery error.message error.retryAfterSeconds)
      else
        let drained ← drainAdapterUntilSettled rounds
        if drained = true then write (·.settleUnknown i delivery error.message) else pure ()

/-- `report` from its first await on. -/
def deliver (i rounds : ℕ) (delivery : Delivery) : Program Unit := do
  let token : Bool ← call Call.readPrivateToken
  if token = false then write (·.settleRetry i delivery "missing internal token" none)
  else
    write (·.claim delivery)
    let reply : PostReply ← call Call.postProgress
    settlePost i rounds delivery reply

def report (i rounds : ℕ) : Program Unit := do
  match ← update (·.startReport i) with
  | none => pure ()
  | some delivery =>
      deliver i rounds delivery
      write (·.finishDelivery i delivery)

/-! ### Terminal reconciliation -/

namespace World

/-- Takes the reconciliation of an event, unless there is one. -/
def claimReconciliation (sourceEventId : EventId) (w : World) : Bool × World :=
  if sourceEventId ∈ w.terminalReconciliations then (false, w)
  else
    (true, { w with terminalReconciliations := sourceEventId :: w.terminalReconciliations })

def endReconciliation (sourceEventId : EventId) (w : World) : World :=
  { w with terminalReconciliations := w.terminalReconciliations.filter (· ≠ sourceEventId) }

/-- A job that ended and whose row is not reconciled. -/
def unreconciledJob? (w : World) (jobId : JobId) : Option JobRow :=
  if w.jobNotificationReady jobId then none else w.terminalJob? jobId

end World

def reconcileItems : List JobId → Program Unit
  | [] => pure ()
  | jobId :: jobIds => do
      match ← read (·.unreconciledJob? jobId) with
      | some row => ingest jobId row
      | none => pure ()
      reconcileItems jobIds

def reconcileTerminal (sourceEventId : EventId) : Program Unit := do
  let claimed ← update (·.claimReconciliation sourceEventId)
  if claimed = false then pure ()
  else
    let items ← read (·.listEventJobs sourceEventId)
    let _ ← attempt (do
      drainDeliveries (items.map Prod.fst)
      reconcileItems (items.map Prod.fst) : Program Unit)
    write (·.endReconciliation sourceEventId)

/-! ### Targets -/

structure Target where
  progressId : ProgressId
  thread : SlackThread
  status : String
  deriving DecidableEq

/-- The status of one job among its siblings. -/
def statusText (siblings : List JobId) (jobId : JobId) (phase : Phase) : String :=
  if 1 < siblings.length then
    s!"{siblings.length}件中{siblings.idxOf jobId + 1}件目: {phaseLabels phase}"
  else phaseLabels phase

/-- The group holds its deliveries back. -/
def World.isHeldBack (w : World) (sourceEventId : EventId) : Bool :=
  (w.groups.get? sourceEventId).any fun group ↦
    group.notificationMode = .grouped ∧ (group.sealedAt = none ∨ group.attentionEventId ≠ none)

def World.resolveDelivery (w : World) (progressId : ProgressId) (deliveryToken : Token) :
    Option Target := do
  let progress ← w.store.get progressId.1
  let job ← w.jobs.get? progressId.1
  let thread ← job.thread
  if w.deliveryClaims progressId ≠ some deliveryToken ∨ progress.status ≠ .delivering ∨
      progress.sequence ≠ progressId.2 ∨ w.isHeldBack job.sourceEventId then none
  else
    some
      { progressId := progressId
        thread := thread
        status := statusText ((w.listEventJobs job.sourceEventId).map Prod.fst) progressId.1
          progress.phase }

/-! ### The system -/

/-- A job keeps its source and its event. -/
def SameOrigin (_ : JobId) (job job' : JobRow) : Prop :=
  job'.source = job.source ∧ job'.sourceEventId = job.sourceEventId

/-- What happens around the coordinator. -/
inductive Happens : World → World → Prop
  | elsewhere {w : World} {jobs : Table JobId JobRow} (groups : Table EventId JobGroupRow)
      (now : Int) : Table.Extends SameOrigin w.jobs jobs →
        Happens w { w with jobs := jobs, groups := groups, now := now }
  | stop (w : World) : Happens w { w with aborted := true }

/-- A crash leaves the databases. -/
def World.crash (w : World) : World :=
  { w with
    deliveryClaims := fun _ ↦ none
    deliveryOperations := fun _ ↦ none
    unresolved := []
    terminalReconciliations := []
    backgroundRecovery := false
    aborted := false
    underWay := fun _ ↦ none }

/-- The coordinator as it starts, over any rows. -/
def World.Initial (w : World) : Prop :=
  (∀ id, w.deliveryClaims id = none) ∧ (∀ jobId, w.deliveryOperations jobId = none) ∧
    (∀ i, w.underWay i = none) ∧ w.tokens = [] ∧ w.settlements = [] ∧ w.requeues = [] ∧
      w.recoveries = []

/-- The programs that the rest of the dispatcher starts. -/
inductive Starts (i : ℕ) (w : World) : Program Unit → Prop
  | ingest {jobId : JobId} {row : JobRow} (h : w.jobs.get? jobId = some row) :
      Starts i w (ingest jobId row)
  | report (rounds : ℕ) : Starts i w (report i rounds)
  | reconcileTerminal (sourceEventId : EventId) : Starts i w (reconcileTerminal sourceEventId)
  | recover (rounds : ℕ) : Starts i w (recover rounds)
  | recoverInBackground (rounds : ℕ) : Starts i w (recoverInBackground rounds)

def surroundings : Pool.Surroundings World Call.Reply String ℕ where
  initial := World.Initial
  perform := Performs
  programs i w p := Starts i w p
  kill _ _ _ := False
  environment := Happens

end Dona.JobProgress
