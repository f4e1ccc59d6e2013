import Dona.Library.Table
import Dona.Schema
import Mathlib.Data.List.Sort

/-!
# The job progress store

`JobProgressStore` of `dispatcher/src/job-progress.ts`. A row holds the latest progress of a job
and how far its delivery is; every update is keyed by the job and by the status. Times are
milliseconds.
-/

namespace Dona.JobProgress

inductive Phase
  | preparing | implementing | testing | reviewing | waitingCi | reconciling
  deriving DecidableEq

def phaseLabels : Phase → String
  | .preparing => "準備中"
  | .implementing => "実装中"
  | .testing => "テスト中"
  | .reviewing => "レビュー中"
  | .waitingCi => "CI待ち"
  | .reconciling => "状態を照合中"

/-- What a worker reports; its summary is never stored. -/
structure JobProgressEnvelope where
  jobId : JobId
  sequence : ℕ
  phase : Phase

inductive ProgressStatus
  | pending | delivering | delivered | unknown
  deriving DecidableEq

/-- The summary of a row is the label of its phase. -/
structure ProgressRow where
  sequence : ℕ
  phase : Phase
  status : ProgressStatus
  availableAt : Int
  deliveredAt : Option Int := none
  lastError : Option String := none
  terminalChecked : Bool := false

structure Store where
  rows : Table JobId ProgressRow
  throttles : Table String Int

namespace Store

def get (s : Store) (jobId : JobId) : Option ProgressRow := s.rows.get? jobId

/-- `UPDATE job_progress SET … WHERE …` -/
def updateWhere (s : Store) (p : JobId → ProgressRow → Bool) (f : ProgressRow → ProgressRow) :
    Store :=
  { s with rows := s.rows.updateWhere p f }

/-- `UPDATE job_progress SET … WHERE job_id=? AND …` -/
def update (s : Store) (jobId : JobId) (p : ProgressRow → Bool) (f : ProgressRow → ProgressRow) :
    Store :=
  s.updateWhere (fun other row ↦ other = jobId && p row) f

/-- `INSERT INTO job_progress(…) VALUES(…) ON CONFLICT(job_id) DO UPDATE SET … WHERE …` -/
def upsert (s : Store) (jobId : JobId) (row : ProgressRow) (p : ProgressRow → Bool)
    (f : ProgressRow → ProgressRow) : Store :=
  match s.rows.insert? jobId row with
  | some rows => { s with rows := rows }
  | none => s.update jobId p f

/-! ### Deliveries -/

def recoverDeliveries (s : Store) : Store :=
  s.updateWhere (fun _ row ↦ row.status = .delivering) fun row ↦
    { row with status := .unknown, lastError := some "recovered ambiguous delivery" }

def hasDelivering (s : Store) : Bool := s.rows.any fun _ row ↦ row.status = .delivering

def begin (s : Store) (jobId : JobId) : Store :=
  s.update jobId (·.status = .pending) fun row ↦ { row with status := .delivering }

def delivered (s : Store) (jobId : JobId) (now : Int) : Store :=
  s.update jobId (·.status = .delivering) fun row ↦
    { row with status := .delivered, deliveredAt := some now }

def unknown (s : Store) (jobId : JobId) (error : String) : Store :=
  s.update jobId (·.status = .delivering) fun row ↦
    { row with status := .unknown, lastError := some error }

/-- The wait before a retry, in milliseconds. -/
def retryDelay (retryAfterSeconds : Int) : Int := max 5 retryAfterSeconds * 1000

def retry (s : Store) (jobId : JobId) (error : String) (now : Int) (retryAfterSeconds : Int) :
    Store :=
  s.update jobId (·.status = .delivering) fun row ↦
    { row with
      status := .pending
      availableAt := now + retryDelay retryAfterSeconds
      lastError := some error }

/-! ### Progress -/

/-- A delivery keeps thirty seconds between itself and the next one of its job. -/
def afterDelivery (now : Int) (deliveredAt : Option Int) : Int :=
  match deliveredAt with
  | some deliveredAt => max now (deliveredAt + 30000)
  | none => now

/-- The row that a new phase leaves: a later deadline of a pending row stands. -/
def advanced (progress : JobProgressEnvelope) (availableAt : Int) (row : ProgressRow) :
    ProgressRow where
  sequence := progress.sequence
  phase := progress.phase
  status := .pending
  availableAt :=
    if row.status = .pending ∧ availableAt < row.availableAt then row.availableAt else availableAt

def ingest (s : Store) (progress : JobProgressEnvelope) (now : Int) : Bool × Store :=
  let existing := s.get progress.jobId
  if existing.any (progress.sequence ≤ ·.sequence) then (false, s)
  else if existing.any (·.phase = progress.phase) then
    (false, s.update progress.jobId (fun row ↦ row.status ≠ .delivering ∧ row.status ≠ .unknown)
      fun row ↦ { row with sequence := progress.sequence })
  else
    let availableAt := afterDelivery now (existing.bind (·.deliveredAt))
    let s := s.upsert progress.jobId
      { sequence := progress.sequence
        phase := progress.phase
        status := .pending
        availableAt := availableAt }
      (fun row ↦
        row.sequence < progress.sequence ∧ row.status ≠ .unknown ∧ row.status ≠ .delivering)
      (advanced progress availableAt)
    ((s.get progress.jobId).any (·.sequence = progress.sequence), s)

def earlierAvailable (a b : JobId × ProgressRow) : Bool := a.2.availableAt < b.2.availableAt

def pending (s : Store) (now : Int) : Option (JobId × ProgressRow) :=
  s.rows.first? (fun _ row ↦ row.status = .pending ∧ row.availableAt ≤ now) earlierAvailable

/-! ### Throttles -/

def deferJobs (s : Store) (jobIds : List JobId) (availableAt : Int) : Store :=
  s.updateWhere
    (fun jobId row ↦
      jobIds.contains jobId && row.status = .pending && row.availableAt < availableAt)
    fun row ↦ { row with availableAt := availableAt }

def deferWorkspace (s : Store) (workspaceId : String) (availableAt : Int) : Store :=
  match s.throttles.insert? workspaceId availableAt with
  | some throttles => { s with throttles := throttles }
  | none =>
      { s with
        throttles := s.throttles.updateKey workspaceId fun current ↦ max current availableAt }

def workspaceAvailableAt (s : Store) (workspaceId : String) : Option Int :=
  s.throttles.get? workspaceId

/-! ### Terminal jobs -/

def terminal (s : Store) (jobId : JobId) : Store :=
  let s := s.update jobId (·.status = .delivering) fun row ↦
    { row with status := .unknown, lastError := some "job terminated during delivery" }
  s.update jobId (·.status = .pending) fun row ↦ { row with status := .delivered }

def markTerminalChecked (s : Store) (jobId : JobId) (now : Int) : Store :=
  s.upsert jobId
    { sequence := 0
      phase := .preparing
      status := .delivered
      availableAt := now
      terminalChecked := true }
    (fun _ ↦ true) fun row ↦ { row with terminalChecked := true }

/-- `ORDER BY delivered_at DESC,job_id DESC`, where NULL comes last. -/
def laterDelivered (a b : JobId × ProgressRow) : Bool :=
  match a.2.deliveredAt, b.2.deliveredAt with
  | some x, some y => y < x || (x = y && b.1 < a.1)
  | some _, none => true
  | none, some _ => false
  | none, none => b.1 < a.1

def requeueLatest (s : Store) (jobIds : List JobId) (now : Int) : Bool × Store :=
  match s.rows.first? (fun jobId row ↦ jobIds.contains jobId && row.status = .delivered)
      laterDelivered with
  | some (jobId, latest) =>
      (true, s.update jobId (·.status = .delivered) fun row ↦
        { row with status := .pending, availableAt := afterDelivery now latest.deliveredAt })
  | none => (false, s)

def queuePreparing (s : Store) (jobId : JobId) (now : Int) : Store :=
  s.upsert jobId { sequence := 0, phase := .preparing, status := .pending, availableAt := now }
    (·.status = .unknown) fun row ↦
      { row with
        phase := .preparing
        status := .pending
        availableAt := now
        deliveredAt := none
        lastError := none
        terminalChecked := false }

/-- The running siblings of a job that ended get one more delivery, so that the status of the
thread names a job that still runs. -/
def requeue (s : Store) (jobIds : List JobId) (now : Int) : Store :=
  match jobIds with
  | [] => s
  | first :: _ =>
      if s.rows.any fun jobId row ↦ jobIds.contains jobId && row.status = .pending then s
      else match s.requeueLatest jobIds now with
        | (true, s) => s
        | (false, s) => s.queuePreparing first now

def requeueLatestAndMarkTerminal (s : Store) (jobId : JobId) (jobIds : List JobId) (now : Int) :
    Store :=
  (s.requeue jobIds now).markTerminalChecked jobId now

/-- The next rows behind `afterJobId`, at most `limit`. -/
def recoverable (s : Store) (afterJobId : JobId) (limit : ℕ) : List JobId :=
  let unchecked := s.rows.select fun jobId row ↦ !row.terminalChecked && afterJobId < jobId
  ((unchecked.map Prod.fst).insertionSort (· ≤ ·)).take limit

end Store

end Dona.JobProgress
