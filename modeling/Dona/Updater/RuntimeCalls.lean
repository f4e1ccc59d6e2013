import Dona.Library.Coroutine
import Dona.Updater.Exclusion

/-!
# The world of the update controller

What the controller of `updater/src/controller.ts` shares with its other runs and with the
outside: the database, and the release files, which are the two pointers and the receipt of the
last activation. Every request to git, to the services or to the main agent is an await that may
be answered in any way. A write of a file is one rename, which may also report a failure after it
took effect. `holder`, the run that claimed the request last, and `activator`, the run that began
its activation, are for the proofs only.
-/

namespace Dona.UpdateController

open Coroutine Fallible Updater

/-! ### What the outside answers -/

inductive Service
  | dispatcher | slackAdapter
  deriving DecidableEq

def Service.text : Service → String
  | dispatcher => "dispatcher"
  | slackAdapter => "slack_adapter"

def Service.label : Service → String
  | dispatcher => "Dispatcher"
  | slackAdapter => "Slack Adapter"

structure HealthSnapshot where
  live : Bool
  observed : Option Bool
  ready : Bool
  buildSha : Option String
  protocol : Option ℕ
  appSchema : Option ℕ
  appSchemaReadMin : Option ℕ
  appSchemaReadMax : Option ℕ
  appSchemaWrite : Option ℕ
  config : Option ℕ
  updateNotificationProtocol : Option ℕ
  workspacesReady : Option Bool

structure DrainSnapshot where
  service : Service
  quiescing : Bool
  drained : Bool
  inFlight : ℕ
  unsafeStates : List String

inductive MainAgentStatus
  | idle | done | working | blocked | unknown
  deriving DecidableEq

structure MainAgentObservation where
  present : Bool
  name : Option String
  kind : Option String
  paneId : Option String
  status : Option MainAgentStatus
  interactiveReady : Bool
  sessionId : Option String
  matchesRelease : Bool

inductive CommandOutcome
  | done | rejected | acceptedUnknown
  deriving DecidableEq

structure MainAgentStopResult where
  outcome : CommandOutcome
  paneId : Option String
  errorCode : Option String

structure MainAgentStartResult where
  outcome : CommandOutcome
  observation : MainAgentObservation
  errorCode : Option String

structure CommandResult where
  exitCode : Option Int
  timedOut : Bool
  outputTruncated : Bool

def CommandResult.succeeded (result : CommandResult) : Bool :=
  result.exitCode = some 0 ∧ result.timedOut = false

/-- The phase in which a command that did not succeed leaves its operation. -/
def CommandResult.failurePhase (result : CommandResult) : RuntimeOperationPhase :=
  if result.timedOut ∨ result.outputTruncated ∨ result.exitCode = none then .acceptanceUnknown
  else .rejected

structure WorkerSafety where
  safe : Bool
  errorCode : Option String

structure AppSchemaState where
  userVersion : ℕ
  integrityOk : Bool
  foreignKeyViolations : ℕ

/-- The evidence column of a recovery operation, where its JSON has the three fields. -/
structure RecoveryEvidence where
  causeCode : String
  dispatcherQuiesced : Bool
  slackQuiesced : Bool

/-- What the evidence column of an operation of the stop says, where its JSON has the fields. -/
structure QuiesceEvidence where
  causeCode : Option String
  errorCode : Option String
  dispatcherQuiesced : Option Bool
  slackQuiesced : Option Bool

def QuiesceEvidence.cause (evidence : QuiesceEvidence) : String :=
  (evidence.causeCode.or evidence.errorCode).getD "main_agent_stop_rejected"

structure ControlPlaneCapability where
  ready : Bool
  buildSha : Option String

/-! ### The release files -/

structure ActivationReceipt where
  requestId : RequestId
  fence : ℕ
  generation : ℕ
  fromSha : String
  toSha : String
  pointerSwitchedAt : Time
  deriving DecidableEq

inductive Pointer
  | current | previous
  deriving DecidableEq

/-- A pointer is the SHA of the release it names, if there is one. -/
structure ReleaseFiles where
  current : Option String
  previous : Option String
  receipt : Option ActivationReceipt
  deriving DecidableEq

def ReleaseFiles.pointer (files : ReleaseFiles) : Pointer → Option String
  | .current => files.current
  | .previous => files.previous

def ReleaseFiles.setPointer (files : ReleaseFiles) (pointer : Pointer) (sha : String) :
    ReleaseFiles :=
  match pointer with
  | .current => { files with current := some sha }
  | .previous => { files with previous := some sha }

def ReleaseFiles.setReceipt (files : ReleaseFiles) (receipt : ActivationReceipt) : ReleaseFiles :=
  { files with receipt := some receipt }

structure World where
  db : UpdateDb
  files : ReleaseFiles
  now : Time
  holder : Option ℕ
  activator : Option ℕ

/-! ### Awaits -/

inductive Call
  | readPointer (pointer : Pointer)
  | readReceipt
  | renamePointer (pointer : Pointer) (sha : String)
  | writeReceipt (receipt : ActivationReceipt)
  | readsPreviousFirst
  | validateRelease (sha : String)
  | releaseManifest (sha : String)
  | eventTerminal (eventId : String)
  | prepareRelease (targetSha : String)
  | workerSafety
  | quiesce (service : Service)
  | drainStatus (service : Service)
  | stopService (service : Service)
  | startService (service : Service)
  | registered (service : Service)
  | health (service : Service)
  | waitForHealth (service : Service) (sha : String)
  | waitForStopped (service : Service)
  | waitForMainAgentIdle
  | mainAgentStatus (sha : String)
  | stopMainAgent (expected : MainAgentObservation)
  | startMainAgent (paneId sha : String) (previousSessionId : Option String)
  | appSchemaState
  | recoveryEvidence (kind : RuntimeOperationKind)
  | quiesceEvidence (kind : RuntimeOperationKind)
  | schemaMigrationCapability (capability : String)
  | migrateAppSchema (targetSha : String) (source target : Compatibility)

namespace Call

def Answer : Call → Type
  | readPointer _ => Option String
  | readReceipt => Option ActivationReceipt
  | readsPreviousFirst => Bool
  | releaseManifest _ => Option Compatibility
  | eventTerminal _ => Bool
  | workerSafety => WorkerSafety
  | quiesce _ => DrainSnapshot
  | drainStatus _ => DrainSnapshot
  | stopService _ => CommandResult
  | startService _ => CommandResult
  | registered _ => Bool
  | health _ => HealthSnapshot
  | waitForHealth _ _ => HealthSnapshot
  | waitForStopped _ => HealthSnapshot
  | waitForMainAgentIdle => MainAgentObservation
  | mainAgentStatus _ => MainAgentObservation
  | stopMainAgent _ => MainAgentStopResult
  | startMainAgent _ _ _ => MainAgentStartResult
  | appSchemaState => AppSchemaState
  | recoveryEvidence _ => Option RecoveryEvidence
  | quiesceEvidence _ => QuiesceEvidence
  | schemaMigrationCapability _ => ControlPlaneCapability
  | migrateAppSchema _ _ _ => CommandResult
  | _ => Unit

/-- An await of which the release files neither decide the answer nor change. -/
def isOutside : Call → Bool
  | readPointer _ | readReceipt | renamePointer _ _ | writeReceipt _ => false
  | _ => true

def Reply (c : Call) : Type := Except String c.Answer

end Call

/-- What an await does: it reads a file, it writes one, or the outside answers it. -/
inductive Performs : (c : Call) → World → c.Reply → World → Prop
  | readPointer {w : World} (pointer : Pointer) :
      Performs (.readPointer pointer) w (.ok (w.files.pointer pointer)) w
  | readReceipt {w : World} : Performs .readReceipt w (.ok w.files.receipt) w
  | renamePointer {w : World} (pointer : Pointer) (sha : String) (reply : Except String Unit) :
      Performs (.renamePointer pointer sha) w reply
        { w with files := w.files.setPointer pointer sha }
  | writeReceipt {w : World} (receipt : ActivationReceipt) (reply : Except String Unit) :
      Performs (.writeReceipt receipt) w reply { w with files := w.files.setReceipt receipt }
  | outside {c : Call} {w : World} (answer : c.Answer) :
      c.isOutside = true → Performs c w (.ok answer) w
  | fails {c : Call} {w : World} (error : String) : Performs c w (.error error) w

abbrev Program := Coroutine World Call.Reply String

def settled {α : Type} : Except String α → Program α
  | .ok a => pure a
  | .error e => throw e

def ask (c : Call) : Program c.Answer := do
  settled (← call c)

/-- One transaction of the database, at the time of the clock. -/
def database {α : Type} (f : Time → UpdateDb → Except String (α × UpdateDb)) : Program α :=
  transact fun w ↦ do
    let (a, db) ← f w.now w.db
    .ok (a, { w with db := db })

/-- The same for a transaction that moves the fence of the request, where `hands` says so. -/
def claiming {α : Type} (run : ℕ) (hands : α → Bool)
    (f : Time → UpdateDb → Except String (α × UpdateDb)) : Program α :=
  transact fun w ↦ do
    let (a, db) ← f w.now w.db
    .ok (a, { w with db := db, holder := if hands a then some run else w.holder })

/-- The result of a transaction together with the row of the request that it leaves. -/
def withRow (requestId : RequestId) (f : UpdateDb → Except String (Unit × UpdateDb))
    (db : UpdateDb) : Except String (UpdateRow × UpdateDb) := do
  let (_, db) ← f db
  let row ← db.getRequired requestId
  .ok (row, db)

/-! ### The release store -/

section

variable (requestId : RequestId)

/-- `resolvePointer(pointer, true)` -/
def resolvePointer (pointer : Pointer) : Program String := do
  match ← ask (.readPointer pointer) with
  | some sha => pure sha
  | none => throw "ENOENT"

structure Observation where
  currentSha : Option String
  previousSha : Option String
  receipt : Option ActivationReceipt

/-- The two pointers are read side by side, so that either read may come first. -/
def readPointers : Program (Option String × Option String) := do
  let previousFirst : Bool ← ask .readsPreviousFirst
  if previousFirst then
    let previous ← ask (.readPointer .previous)
    let current ← ask (.readPointer .current)
    pure (current, previous)
  else
    let current ← ask (.readPointer .current)
    let previous ← ask (.readPointer .previous)
    pure (current, previous)

def observe : Program Observation := do
  let (current, previous) ← readPointers
  let receipt ← ask .readReceipt
  pure ⟨current, previous, receipt⟩

def switchReceipt (row : UpdateRow) (fromSha toSha : String) (now : Time) : ActivationReceipt where
  requestId := requestId
  fence := row.fence
  generation := row.activationGeneration + 1
  fromSha := fromSha
  toSha := toSha
  pointerSwitchedAt := now

/-- `ReleaseStore.activate` -/
def activate (row : UpdateRow) : Program ActivationReceipt := do
  ask (.validateRelease row.targetSha)
  let current ← resolvePointer .current
  if current ≠ row.currentSha then throw "current_pointer_cas_mismatch"
  else
    ask (.renamePointer .previous current)
    ask (.renamePointer .current row.targetSha)
    let now ← read World.now
    let receipt := switchReceipt requestId row row.currentSha row.targetSha now
    ask (.writeReceipt receipt)
    pure receipt

/-- The receipt of this request's activation, in the generation that its row records. -/
def isActivation (row : UpdateRow) (receipt : Option ActivationReceipt) : Bool :=
  receipt.any fun receipt ↦
    receipt.requestId = requestId ∧ receipt.fromSha = row.currentSha ∧
      receipt.toSha = row.targetSha ∧ receipt.generation = row.activationGeneration ∧
      receipt.fence ≤ row.fence

/-- `ReleaseStore.rollback` -/
def rollbackFiles (row : UpdateRow) : Program ActivationReceipt := do
  let current ← resolvePointer .current
  let previous ← resolvePointer .previous
  let receipt ← ask .readReceipt
  let untouched := current = row.targetSha ∧ previous = row.currentSha
  let resumable := current = row.currentSha ∧
    (previous = row.currentSha ∨ previous = row.targetSha)
  if isActivation requestId row receipt = false ∨ (¬untouched ∧ ¬resumable) then
    throw "rollback_pointer_cas_mismatch"
  else
    ask (.validateRelease row.targetSha)
    (if untouched then ask (.renamePointer .current previous) else pure ())
    (if previous ≠ row.targetSha then ask (.renamePointer .previous row.targetSha) else pure ())
    let now ← read World.now
    let receipt := switchReceipt requestId row row.targetSha row.currentSha now
    ask (.writeReceipt receipt)
    pure receipt

end

end Dona.UpdateController
