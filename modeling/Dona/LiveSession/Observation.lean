import Dona.Library.Coroutine
import Dona.LiveSession.Receipts

/-!
# Observing live sessions

`observeLiveSession` of the supervisor reads the identity of a job, queries Herdr and appends a
receipt. The dispatcher and the command line observe from processes of their own, so that
statements of the other process may come between any two statements of an observation. The jobs
are rewritten by the rest of the dispatcher, and by older versions of it, in any way.
-/

namespace Dona.LiveSession

open Coroutine Fallible

/-- A receipt that was appended, with what it was appended against: the identity that the
observation has used, the identity of the job, and the highest sequence known of it. -/
structure Appended where
  receipt : LiveSessionReceipt
  used : Option LiveSessionIdentityRow
  current : Option LiveSessionIdentityRow
  maximum : Option ℕ

/-- The database, the clock, and the receipts that were ever appended, newest first. Receipts of
the database are deleted in the end. -/
structure World where
  store : Store
  agentName : JobId → String
  identities : Table JobId LiveSessionIdentityRow
  receipts : List LiveSessionReceipt
  nextUuid : Uuid
  now : Int
  appended : List Appended

namespace World

/-! ### The database -/

def runtimeOf (w : World) (jobId : JobId) : Option JobRuntime :=
  (w.store.snapshot? jobId).map fun seen ↦
    ⟨seen.1.herdrWorkspaceId, seen.2, w.agentName jobId⟩

/-- `SELECT generation` of the identity that the job has now. -/
def currentGeneration (w : World) (jobId : JobId) : Option GenerationSha256 :=
  (w.runtimeOf jobId).bind fun job ↦
    liveSessionIdentityGenerationSha256 job (w.identities.get? jobId)

/-- The identity is of this session in this runtime. -/
def isIdentityOf (session herdrWorkspaceId herdrPaneId agentName : String)
    (identity : LiveSessionIdentityRow) : Bool :=
  identity.herdrAgentSessionId = session ∧ identity.herdrWorkspaceId = some herdrWorkspaceId ∧
    identity.herdrPaneId = some herdrPaneId ∧ identity.agentName = some agentName

def deleteIdentity (jobId : JobId) (w : World) : World :=
  { w with identities := w.identities.deleteWhere fun other _ ↦ other = jobId }

/-- An identity under a generation of its own. -/
def insertIdentity (jobId : JobId) (session herdrWorkspaceId herdrPaneId : String) (w : World) :
    Except String World := do
  let identity : LiveSessionIdentityRow :=
    { herdrAgentSessionId := session
      herdrWorkspaceId := some herdrWorkspaceId
      herdrPaneId := some herdrPaneId
      agentName := some (w.agentName jobId)
      recordedAt := .toIso w.now
      generationNonce := some w.nextUuid }
  let identities ← orThrow (w.identities.insert? jobId identity)
    "UNIQUE constraint failed: job_live_session_identities.job_id"
  .ok { w with identities := identities, nextUuid := w.nextUuid + 1 }

def setJobRuntime (jobId : JobId) (herdrWorkspaceId herdrPaneId : String)
    (agentSessionId : Option String) (w : World) : Except String World := do
  throwIf (agentSessionId.any fun session ↦ session.length < 1 ∨ 512 < session.length)
    "Herdr agent session identity is invalid"
  let (_, store) ← w.store.setJobRuntime jobId herdrWorkspaceId herdrPaneId
  let w := { w with store := store }
  let sameIdentity := agentSessionId.any fun session ↦ (w.identities.get? jobId).any
    (isIdentityOf session herdrWorkspaceId herdrPaneId (w.agentName jobId))
  if sameIdentity then .ok w
  else match agentSessionId with
    | some session =>
        (w.deleteIdentity jobId).insertIdentity jobId session herdrWorkspaceId herdrPaneId
    | none => .ok (w.deleteIdentity jobId)

def markJobRuntimeCleaned (jobId : JobId) (w : World) : World :=
  let w' := { w with store := w.store.markJobRuntimeCleaned jobId w.now }
  if (w.store.db.jobs.get? jobId).any Store.isCleanable then w'.deleteIdentity jobId else w'

/-- The migration gives a row of the first writer a nonce. -/
def assignNonce (jobId : JobId) (w : World) : World :=
  { w with
    identities := w.identities.updateWhere
      (fun other identity ↦ other = jobId ∧ identity.generationNonce = none)
      fun identity ↦ { identity with generationNonce := some w.nextUuid }
    nextUuid := w.nextUuid + 1 }

/-- The row that a statement keyed by the visible fields of an identity finds. -/
def isRowOf (identity row : LiveSessionIdentityRow) : Bool :=
  row.recordedAt = identity.recordedAt ∧
    row.herdrAgentSessionId = identity.herdrAgentSessionId ∧
    row.herdrWorkspaceId = identity.herdrWorkspaceId ∧ row.herdrPaneId = identity.herdrPaneId ∧
    row.agentName = identity.agentName

/-- Receipts that count for the highest sequence of a generation. -/
def countsFor (jobId : JobId) (recordedAt : Timestamp) (generation : Option GenerationSha256)
    (receipt : LiveSessionReceipt) : Bool :=
  receipt.jobId = jobId ∧ recordedAt ≤ receipt.observedAt ∧ receipt.queryStatus = .observed ∧
    receipt.identityMatch = some true ∧ receipt.reconciliation.state ≠ .unknown ∧
    generation.isSome ∧ receipt.identityGenerationSha256 = generation

/-- `Math.max`, when there is a value. -/
def highest (values : List ℕ) : Option ℕ := values.max?

def latestLiveSessionStateChangeSeq (jobId : JobId) (identity : LiveSessionIdentityRow)
    (w : World) : Option ℕ :=
  let current := ((w.identities.get? jobId).filter (isRowOf identity)).bind (·.maxStateChangeSeq)
  let generation := (w.runtimeOf jobId).bind fun job ↦
    liveSessionIdentityGenerationSha256 job (some identity)
  let received := (w.receipts.filter (countsFor jobId identity.recordedAt generation)).filterMap
    (·.stateChangeSeq)
  highest (current.toList ++ received)

/-- `CASE WHEN max IS NULL OR max<? THEN ? ELSE max END` -/
def raised (sequence : ℕ) (identity : LiveSessionIdentityRow) : LiveSessionIdentityRow :=
  { identity with
    maxStateChangeSeq := some (match identity.maxStateChangeSeq with
      | some maximum => if maximum < sequence then sequence else maximum
      | none => sequence) }

/-- The observation used another generation than the job has. -/
def generationMismatch (job : JobRuntime) (identity current : Option LiveSessionIdentityRow)
    (receipt : LiveSessionReceipt) : Bool :=
  let observed := liveSessionIdentityGenerationSha256 job identity
  (identity.isSome ∨ receipt.reconciliation.state = .sessionAbsent) ∧
    (observed = none ∨ observed ≠ liveSessionIdentityGenerationSha256 job current)

/-- The answer came from the expected agent. -/
def isExpected (receipt : LiveSessionReceipt) : Bool :=
  receipt.queryStatus = .observed ∧ receipt.identityMatch = some true

/-- The sequence of the receipt, when it is one of the generation that the job has. -/
def sequenceOf (mismatch : Bool) (identity : Option LiveSessionIdentityRow)
    (receipt : LiveSessionReceipt) : Option (LiveSessionIdentityRow × ℕ) :=
  if mismatch = false ∧ isExpected receipt then
    identity.bind fun identity ↦ receipt.stateChangeSeq.map fun sequence ↦ (identity, sequence)
  else none

/-- The receipt as it is appended. -/
def audited (job : JobRuntime) (identity current : Option LiveSessionIdentityRow)
    (receipt : LiveSessionReceipt) (w : World) : LiveSessionReceipt :=
  let mismatch := generationMismatch job identity current receipt
  let codes := receipt.reconciliation.reasonCodes
  let receipt :=
    { receipt with
      identityGenerationSha256 :=
        if mismatch then none else liveSessionIdentityGenerationSha256 job identity
      reconciliation := if mismatch then
          failClosed .unknown (codes ++ ["identity_generation_changed_during_query"]).eraseDups
        else receipt.reconciliation }
  match sequenceOf mismatch identity receipt with
  | some (identity, sequence) =>
      if (w.latestLiveSessionStateChangeSeq receipt.jobId identity).any (sequence < ·) then
        { receipt with
          reconciliation := failClosed .unknown
            (codes ++ ["same_identity", "state_sequence_regressed"]).eraseDups }
      else receipt
  | none => receipt

/-- The highest sequence of the identity follows the receipt. -/
def raise (jobId : JobId) (sequence : Option (LiveSessionIdentityRow × ℕ)) (w : World) :
    Except String World :=
  match sequence with
  | some (identity, sequence) => do
      throwIf ((w.identities.get? jobId).any (isRowOf identity) = false)
        "Live session identity generation changed before audit append"
      .ok { w with identities := w.identities.updateKey jobId (raised sequence) }
  | none => .ok w

/-- The event that asked for the observation is stored and never read. `used` is the identity that
the observation has used, which the caller withholds when it has seen it change. -/
def appendLiveSessionReceipt (receipt : LiveSessionReceipt)
    (identity used : Option LiveSessionIdentityRow) (w : World) :
    Except String (LiveSessionReceipt × World) := do
  let job ← orThrow (w.runtimeOf receipt.jobId) s!"Job {receipt.jobId} was not found"
  let current := w.identities.get? receipt.jobId
  let appended := audited job identity current receipt w
  let entry : Appended := ⟨appended, used, current,
    current.bind (w.latestLiveSessionStateChangeSeq receipt.jobId)⟩
  let w := { w with receipts := w.receipts ++ [appended], appended := entry :: w.appended }
  let mismatch := generationMismatch job identity current receipt
  let w ← w.raise receipt.jobId (sequenceOf mismatch identity appended)
  .ok (appended, w)

def assertLiveSessionStopProof (jobId : JobId) (receipt : LiveSessionReceipt) (w : World) :
    Except String Unit :=
  throwIf (receipt.reconciliation.state ≠ .sessionAbsent ∨ w.currentGeneration jobId = none ∨
    receipt.identityGenerationSha256 ≠ w.currentGeneration jobId)
    "late_result_worker_stop_unproven"

def purgeLiveSessionReceipts (isKept : LiveSessionReceipt → Bool) (cutoff : Timestamp) (w : World) :
    World :=
  { w with receipts := w.receipts.filter fun receipt ↦ cutoff < receipt.observedAt || isKept receipt }

end World

/-! ### Observations -/

inductive Call
  /-- Another process may execute statements. -/
  | statement
  | get (agentName : String)

abbrev Call.Reply : Call → Type
  | .statement => Unit
  | .get _ => Except Unit HerdrCommandResult

abbrev Program (α : Type) : Type := Coroutine World Call.Reply String α

/-- A statement that reads the database. -/
def statement {α : Type} (f : World → α) : Program α := do
  call Call.statement
  read f

def getJob (jobId : JobId) (message : String) : Program (JobRow × JobRuntime) := do
  let row ← statement fun w ↦ (w.store.db.jobs.get? jobId).bind fun job ↦
    (w.runtimeOf jobId).map fun runtime ↦ (job, runtime)
  match row with
  | some row => pure row
  | none => throw message

/-- The visible fields of an identity. -/
def identityGenerationKey (identity : Option LiveSessionIdentityRow) :
    Option (String × Option String × Option String × Option String × Timestamp) :=
  identity.map fun identity ↦ (identity.herdrAgentSessionId, identity.herdrWorkspaceId,
    identity.herdrPaneId, identity.agentName, identity.recordedAt)

/-- A rejected query. -/
def unavailable : HerdrCommandResult where
  ok := false
  errorCode := some "transport_unavailable"

def observeLiveSession (bootId : String) (jobId : JobId) : Program LiveSessionReceipt := do
  let before ← getJob jobId s!"Job {jobId} was not found"
  let startedAt ← read (·.now)
  let storedIdentity ← statement (·.identities.get? jobId)
  let expectedIdentity := expectedLiveSessionIdentity before.2 storedIdentity
  let result ← (if expectedIdentity.isSome then do
      let r : Except Unit HerdrCommandResult ← call (Call.get before.2.agentName)
      match r with
      | .ok result => pure (some result)
      | .error _ => pure (some unavailable)
    else pure none : Program (Option HerdrCommandResult))
  let after ← getJob jobId s!"Job {jobId} disappeared during live observation"
  let storedIdentityAfter ← statement (·.identities.get? jobId)
  let identityGenerationChanged : Bool :=
    identityGenerationKey storedIdentityAfter ≠ identityGenerationKey storedIdentity ∨
      expectedLiveSessionIdentity after.2 storedIdentityAfter ≠ expectedIdentity
  let completedAt ← read (·.now)
  let previousStateChangeSeq ← statement fun w ↦
    if identityGenerationChanged then none
    else storedIdentity.bind (w.latestLiveSessionStateChangeSeq jobId)
  let receipt := buildLiveSessionReceipt
    { jobId := jobId
      before := before.1
      after := after.1
      bootId := bootId
      startedAt := .toIso startedAt
      completedAt := .toIso completedAt
      expectedIdentity := expectedIdentity
      identityGenerationChanged := identityGenerationChanged
      previousStateChangeSeq := previousStateChangeSeq
      result := result }
  call Call.statement
  transact (World.appendLiveSessionReceipt receipt
    (if identityGenerationChanged then none else storedIdentity) storedIdentity)

/-! ### The system -/

/-- What happens around the observations. The jobs change in any way, and so does the clock. -/
inductive Happens : World → World → Prop
  | setJobRuntime {w w' : World} {jobId : JobId} {herdrWorkspaceId herdrPaneId : String}
      {agentSessionId : Option String} :
      w.setJobRuntime jobId herdrWorkspaceId herdrPaneId agentSessionId = .ok w' → Happens w w'
  | markJobRuntimeCleaned {w : World} (jobId : JobId) : Happens w (w.markJobRuntimeCleaned jobId)
  | assignNonce {w : World} (jobId : JobId) : Happens w (w.assignNonce jobId)
  | purgeLiveSessionReceipts {w : World} (isKept : LiveSessionReceipt → Bool) (cutoff : Timestamp) :
      Happens w (w.purgeLiveSessionReceipts isKept cutoff)
  | elsewhere {w : World} (store : Store) (now : Int) :
      Happens w { w with store := store, now := now }

/-- Herdr may answer anything. -/
def surroundings : Pool.Surroundings World Call.Reply String ℕ where
  initial w := w.receipts = [] ∧ w.appended = [] ∧
    ∀ jobId identity, w.identities.get? jobId = some identity →
      ∀ nonce, identity.generationNonce = some nonce → nonce < w.nextUuid
  perform _ w _ w' := w' = w
  programs _ _ p := ∃ bootId jobId, p = do
    let _ ← observeLiveSession bootId jobId
    pure ()
  kill _ w w' := w' = w
  environment := Happens

def system : TransitionSystem (Pool World Call.Reply String ℕ) (Pool.Event ℕ) :=
  Pool.system surroundings

end Dona.LiveSession
