import Dona.Dispatcher.EventFrames
import Dona.Library.Coroutine

/-!
# The worker of the Dispatcher

`DispatcherWorker` of `dispatcher/src/worker.ts`: it takes the events up one by one, prompts the
agent and waits for the result. A worker has run some number of rounds; a crash ends it anywhere.
The log is what an observer of the worker notes down, newest entry first.
-/

namespace Dona.DispatcherWorker

open Coroutine Fallible

/-! ### Commands -/

inductive AgentStatus
  | idle | done | working | blocked | unknown
  deriving DecidableEq

structure HerdrCommandResult where
  ok : Bool
  stdout : String := ""
  stderr : String := ""
  timedOut : Bool := false
  aborted : Bool := false
  errorCode : Option String := none
  agentStatus : Option AgentStatus := none

/-- `result.stderr || result.stdout || "Herdr command failed"`, cut after 2000 characters. -/
def commandMessage (result : HerdrCommandResult) : String :=
  if result.aborted then "Herdr command was interrupted during shutdown"
  else if result.timedOut then "Herdr command timed out"
  else
    let text := if result.stderr ≠ "" then result.stderr
      else if result.stdout ≠ "" then result.stdout
      else "Herdr command failed"
    String.ofList (text.toList.take 2000)

def unavailableAgentErrors : List String := ["agent_not_found", "agent_not_running"]

inductive DesiredSessionStatus
  | active | suspended
  deriving DecidableEq

structure JobNotificationVerificationRequest where
  eventId : EventId
  workspaceId : String
  channelId : String
  threadTs : Option String
  messageTs : String
  bodySha256 : String
  desiredSessionStatus : Option DesiredSessionStatus

/-- What the worker catches: a missing file, a missing result, another error. -/
inductive Failure
  | noEntry (message : String)
  | resultNotFound (message : String)
  | other (message : String)

def Failure.message : Failure → String
  | noEntry message => message
  | resultNotFound message => message
  | other message => message

inductive Call
  | get
  | access (resultPath : String)
  | prompt (eventId : EventId) (resultPath : String) (row : EventRow)
  | wait
  | readResultEnvelope (resultPath : String) (eventId : EventId)
  | settle (verification : JobNotificationVerificationRequest)
  | wakeSignal

abbrev Reply : Call → Type
  | .get => HerdrCommandResult
  | .access _ => Except Failure Unit
  | .prompt _ _ _ => HerdrCommandResult
  | .wait => HerdrCommandResult
  | .readResultEnvelope _ _ => Except Failure ResultEnvelope
  | .settle _ => Except Failure JobNotificationEvidence
  | .wakeSignal => Unit

/-! ### The process -/

structure Config where
  env : Env
  resultsDir : String
  maxAttempts : ℕ
  agentMissingGraceMs : Int
  hasNotificationVerifier : Bool

/-- What an observer notes down: the dispatch of an event began, its prompt was sent, an operator
retried it, the agent that was to take it was not there. -/
inductive Entry
  | begun (eventId : EventId)
  | prompted (eventId : EventId)
  | retried (eventId : EventId)
  | refused (eventId : EventId)
  deriving DecidableEq

structure World where
  db : Db
  now : Int
  stopping : Bool := false
  quiescing : Bool := false
  log : List Entry := []

abbrev Program (α : Type) := Coroutine World Reply Failure α

def World.status? (w : World) (eventId : EventId) : Option EventStatus :=
  (w.db.events.get? eventId).map (·.status)

def note (entry : Entry) : Program Unit := write fun w ↦ { w with log := entry :: w.log }

/-- An operation of the database, which reads the clock once; an error is thrown after what it
has committed. -/
def database {α : Type} (f : Int → Db → Except String α × Db) : Program α :=
  .get fun w ↦ .put { w with db := (f w.now w.db).2 }
    (.done ((f w.now w.db).1.mapError Failure.other))

def transact {α : Type} (body : Int → Db → Except String (α × Db)) : Program α :=
  database fun now ↦ transaction (body now)

/-- A question to the database after the suppression of the notices without authority. -/
def query {α : Type} (f : Int → Db → α) : Program α :=
  database fun now ↦ Db.afterSuppression now fun db ↦ .ok (f now db, db)

def settled {α : Type} : Except Failure α → Program α
  | .ok a => pure a
  | .error e => throw e

/-! ### The database -/

def hasBlockedEvent : Program Bool :=
  query fun _ db ↦ db.events.any fun _ event ↦ event.status = .blocked

def nextWaiting : Program (Option (EventId × EventRow)) :=
  query fun _ db ↦ db.events.find? fun _ event ↦ event.status = .waitingAgent

/-- The head of the queue, if its time has come. -/
def nextAvailable : Program (Option (EventId × EventRow)) :=
  query fun now db ↦
    (db.events.find? fun _ event ↦
      event.status.isDispatchable ∧ event.source ≠ .donaUpdate).filter
        fun head ↦ head.2.availableAt ≤ .toIso now

variable (cfg : Config)

def markNeedsReview (eventId : EventId) (code message : String) : Program Unit :=
  transact fun now db ↦ db.markNeedsReview eventId code message now

def markBlocked (eventId : EventId) (message : String) (source : List EventStatus) : Program Unit :=
  transact fun now db ↦ db.markBlocked eventId message source now

def recordWaitingError (eventId : EventId) (code message : String) : Program Unit :=
  transact fun now db ↦ db.recordWaitingError eventId code message now

def recordPreDispatchFailure (eventId : EventId) (code message : String) : Program Unit :=
  transact fun now db ↦ db.recordPreDispatchFailure eventId code message cfg.maxAttempts now

/-- Only an agent that was not there refuses an event. -/
def recordSafePromptFailure (eventId : EventId) (code message : String) : Program Unit :=
  Coroutine.transact fun w ↦
    match w.db.recordSafePromptFailure eventId code message cfg.maxAttempts w.now with
    | .ok ((), db) => .ok ((), { w with db := db, log := .refused eventId :: w.log })
    | .error message => .error (.other message)

/-- The status of the row that `beginDispatch` returns. -/
def beginDispatch (eventId : EventId) (resultPath : String) : Program (Option EventStatus) := do
  database fun now db ↦ db.beginDispatch eventId resultPath now
  let status ← read (·.status? eventId)
  if status = some .completed then pure status
  else do
    note (.begun eventId)
    pure status

def notificationVerificationRequest (env : Env) (eventId : EventId) (result : ResultEnvelope)
    (db : Db) : Except String (Option JobNotificationVerificationRequest) :=
  match db.completionOf eventId with
  | none => .ok none
  | some ((_, jobStatus), completion) =>
      if completion.owner.runId? = none then .ok none
      else do
        let event ← db.getRequired eventId
        let post := result.actions.find? (·.tool = "dona_slack.post_message")
        match completion.destination.target?, post.bind (·.messageTs) with
        | some target, some messageTs =>
            let suspended :=
              [JobStatus.blocked, .needsReview].contains jobStatus ∨
                (jobStatus = .failed ∧ result.actions.any (·.status = some "suspended") = true)
            .ok (some
              { eventId := eventId
                workspaceId := target.workspaceId?.getD ""
                channelId := target.channelId?.getD ""
                threadTs := target.threadTs?
                messageTs := messageTs
                bodySha256 := env.digest event.payload.notificationText
                desiredSessionStatus := target.threadTs?.map fun _ ↦
                  if suspended then .suspended else .active })
        | _, _ => .ok none

/-! ### Completion -/

/-- The evidence for the post that a result reports. -/
def verify (eventId : EventId) (result : ResultEnvelope) :
    Program (Option JobNotificationEvidence) := do
  let verification ← transact fun _ db ↦
    (notificationVerificationRequest cfg.env eventId result db).map fun request ↦ (request, db)
  match verification with
  | none => pure none
  | some verification =>
      if cfg.hasNotificationVerifier then do
        let evidence ← settled (← call (.settle verification))
        pure (some evidence)
      else pure none

def saveResult (eventId : EventId) (resultPath : String) : Program Unit := do
  let result ← settled (← call (.readResultEnvelope resultPath eventId))
  let evidence ← verify cfg eventId result
  match result.status with
  | .completed => transact fun now db ↦
      db.saveCompleted cfg.env eventId result resultPath now evidence
  | .failed => transact fun now db ↦
      db.saveFailedResult cfg.env eventId result resultPath now evidence

/-- The codes of an event that was closed while its agent worked. -/
def closedCodes : List String :=
  ["schedule_suppressed", "schedule_notification_suppressed", "job_result_superseded"]

def Failure.isResultNotFound : Failure → Bool
  | resultNotFound _ => true
  | _ => false

/-- What `tryComplete` does with an error. -/
def recover (eventId : EventId) (terminalAgentState : Bool) (error : Failure) : Program Bool := do
  if error.isResultNotFound = true ∧ terminalAgentState = false then pure false
  else do
    let current ← read (·.db.events.get? eventId)
    if (current.any fun event ↦ (event.status = .completed ∧
        event.lastErrorCode.any closedCodes.contains) ∨ event.status = .needsReview) = true then
      pure true
    else do
      markNeedsReview eventId
        (if error.isResultNotFound then "result_missing" else "invalid_result") error.message
      pure true

def tryComplete (eventId : EventId) (resultPath : String) (terminalAgentState : Bool) :
    Program Bool := do
  match ← attempt (saveResult cfg eventId resultPath) with
  | .ok () => pure true
  | .error error => recover eventId terminalAgentState error

/-! ### Waiting for the agent -/

def isUnavailable (code : Option String) : Bool := code.any unavailableAgentErrors.contains

/-- The agent that has the event is not there. -/
def resumeUnavailable (eventId : EventId) (row : EventRow) (errorCode : String)
    (waited : HerdrCommandResult) : Program Unit := do
  let now ← read (·.now)
  let unavailableSince := if isUnavailable row.lastErrorCode then row.updatedAt.millis else now
  let unavailableDurationMs := now - unavailableSince
  if cfg.agentMissingGraceMs ≤ unavailableDurationMs then
    markNeedsReview eventId "agent_unavailable_after_prompt"
      s!"Agent remained unavailable for {unavailableDurationMs}ms after accepting the prompt; prompt was not resent"
  else if isUnavailable row.lastErrorCode = false then
    recordWaitingError eventId errorCode (commandMessage waited)
  else pure ()

def waitErrorCode (waited : HerdrCommandResult) : String :=
  waited.errorCode.getD (if waited.timedOut then "agent_wait_timeout" else "agent_wait_failed")

def resumeAfterWait (eventId : EventId) (row : EventRow) (resultPath : String)
    (waited : HerdrCommandResult) : Program Unit := do
  let w ← read id
  if w.status? eventId ≠ some .waitingAgent then pure ()
  else if waited.aborted = true ∨ w.stopping = true then pure ()
  else if waited.ok = false then
    if isUnavailable (some (waitErrorCode waited)) then
      resumeUnavailable cfg eventId row (waitErrorCode waited) waited
    else recordWaitingError eventId (waitErrorCode waited) (commandMessage waited)
  else if waited.agentStatus = some .blocked then
    markBlocked eventId "dona-main is waiting for human input" [.waitingAgent]
  else if waited.agentStatus ≠ some .idle ∧ waited.agentStatus ≠ some .done then
    recordWaitingError eventId "unknown_agent_state" "Agent state could not be classified"
  else do
    let _ ← tryComplete cfg eventId resultPath true

def resumeWaiting (eventId : EventId) (row : EventRow) : Program Unit := do
  match row.resultPath with
  | none => markNeedsReview eventId "missing_result_path" "waiting_agent event has no result path"
  | some resultPath => do
      let existing ← tryComplete cfg eventId resultPath false
      if existing then pure ()
      else do
        let waited : HerdrCommandResult ← call Call.wait
        resumeAfterWait cfg eventId row resultPath waited

/-! ### Dispatch -/

/-- The prompt was not accepted. -/
def rejectPrompt (eventId : EventId) (prompted : HerdrCommandResult) (status : EventStatus) :
    Program Unit :=
  if prompted.errorCode = some "agent_blocked" then
    markBlocked eventId (commandMessage prompted) [.dispatching, .waitingAgent]
  else if isUnavailable prompted.errorCode then
    if status = .waitingAgent then
      markNeedsReview eventId "prompt_acceptance_unknown"
        "Agent became unavailable after the event advanced during prompt submission"
    else
      recordSafePromptFailure cfg eventId (prompted.errorCode.getD "agent_not_found")
        (commandMessage prompted)
  else
    markNeedsReview eventId
      (prompted.errorCode.getD (if prompted.timedOut then "prompt_timeout" else "prompt_unknown"))
      (commandMessage prompted)

/-- The row is read again. -/
def resumeAccepted (eventId : EventId) : Program Unit := do
  match ← read (·.db.events.get? eventId) with
  | some waiting => resumeWaiting cfg eventId waiting
  | none => throw (.other s!"Event {eventId} was not found")

/-- The prompt was accepted; the event may have advanced meanwhile. -/
def acceptPrompt (eventId : EventId) (status : EventStatus) : Program Unit := do
  (if status = .dispatching then transact fun now db ↦
      (db.markWaiting eventId now).map fun db ↦ ((), db)
    else pure ())
  resumeAccepted cfg eventId

def afterPrompt (eventId : EventId) (prompted : HerdrCommandResult) : Program Unit := do
  let w ← read id
  match w.status? eventId with
  | none => pure ()
  | some status =>
      if status.isAgentOwned = false then pure ()
      else if prompted.aborted = true ∨ w.stopping = true then
        markNeedsReview eventId "prompt_interrupted"
          "Dispatcher stopped while prompt acceptance was unknown"
      else if prompted.ok = false then rejectPrompt cfg eventId prompted status
      else acceptPrompt cfg eventId status

/-- The prompt follows the begin of the dispatch without an await between them. -/
def submit (eventId : EventId) (row : EventRow) (resultPath : String) : Program Unit := do
  let status ← beginDispatch eventId resultPath
  if status = some .completed then pure ()
  else do
    note (.prompted eventId)
    let prompted : HerdrCommandResult ← call (Call.prompt eventId resultPath row)
    afterPrompt cfg eventId prompted

/-- The `try` of `dispatch`: there is a result file already. -/
def rejectExistingResult (eventId : EventId) (row : EventRow) (resultPath : String) :
    Program Unit := do
  settled (← call (.access resultPath))
  let current ← read (·.status? eventId)
  if current ≠ some row.status then pure ()
  else do
    let status ← beginDispatch eventId resultPath
    if status = some .completed then pure ()
    else
      markNeedsReview eventId "result_path_exists"
        "A result file already existed before prompt submission"

def checkResultPath (eventId : EventId) (row : EventRow) (resultPath : String) : Program Unit := do
  match ← attempt (rejectExistingResult eventId row resultPath) with
  | .ok () => pure ()
  | .error error => do
      let current ← read (·.status? eventId)
      if current ≠ some row.status then pure ()
      else
        match error with
        | .noEntry _ => submit cfg eventId row resultPath
        | error =>
            recordPreDispatchFailure cfg eventId "result_path_unavailable" error.message

def dispatch (eventId : EventId) (row : EventRow) : Program Unit := do
  let preflight : HerdrCommandResult ← call Call.get
  let w ← read id
  if w.stopping = true ∨ preflight.aborted = true then pure ()
  else if w.status? eventId ≠ some row.status then pure ()
  else if preflight.ok = false ∨ preflight.agentStatus = none then
    recordPreDispatchFailure cfg eventId (preflight.errorCode.getD "herdr_unavailable")
      (commandMessage preflight)
  else if preflight.agentStatus = some .blocked then
    markBlocked eventId "dona-main was blocked before prompt submission"
      [.queued, .retryableFailed, .dispatching, .waitingAgent]
  else if preflight.agentStatus ≠ some .idle ∧ preflight.agentStatus ≠ some .done then pure ()
  else checkResultPath cfg eventId row s!"{cfg.resultsDir}/{eventId}.json"

/-! ### The loop -/

/-- The event whose turn it is. -/
def handleNext : Program Bool := do
  let blocked ← hasBlockedEvent
  if blocked then pure false
  else
    match ← nextWaiting with
    | some (eventId, waiting) => do
        resumeWaiting cfg eventId waiting
        pure true
    | none =>
        match ← nextAvailable with
        | some (eventId, queued) => do
            dispatch cfg eventId queued
            pure true
        | none => pure false

/-- One round of `loop`; `Sum.inr` ends the loop. -/
def round : Program (Unit ⊕ Unit) := do
  let w ← read id
  if w.stopping = true ∨ w.quiescing = true then pure (.inr ())
  else do
    let handled ← handleNext cfg
    let w ← read id
    if w.quiescing = true then pure (.inr ())
    else do
      (if handled = false ∨ w.stopping = false then call Call.wakeSignal else pure ())
      pure (.inl ())

/-- `start`, and a number of rounds. -/
def start (rounds : ℕ) : Program Unit := do
  transact fun now db ↦ db.recoverStaleDispatching now
  iterate (fun () ↦ round cfg) (pure ()) rounds ()

end Dona.DispatcherWorker
