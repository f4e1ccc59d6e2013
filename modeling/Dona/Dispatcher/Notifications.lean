import Dona.Dispatcher.Attention
import Dona.Scheduler.Purge
import Dona.Scheduler.Runs

/-!
# Notices of scheduled jobs

The events that report a scheduled job, on their way to the agent, and the three phases of
the capability to post: nothing, the preflight, the write. An operation reads the clock once.
-/

namespace Dona

open Fallible

def EventStatus.text : EventStatus → String
  | queued => "queued"
  | dispatching => "dispatching"
  | waitingAgent => "waiting_agent"
  | completed => "completed"
  | retryableFailed => "retryable_failed"
  | blocked => "blocked"
  | needsReview => "needs_review"
  | deadLetter => "dead_letter"

/-- The agent has the event. -/
def EventStatus.isAgentOwned (status : EventStatus) : Bool :=
  [dispatching, waitingAgent].contains status

def JobOwner.ownerId? : JobOwner → Option String
  | slackThread _ => none
  | schedule _ ownerId _ _ _ => some ownerId

/-- `destination.kind === "slack" ? destination.target : undefined` -/
def JobDestination.target? : JobDestination → Option Target
  | workResult target => some target
  | _ => Option.none

/-- What the Slack adapter confirms about an access, with the claims of the signed receipt. -/
structure AccessReceipt where
  workspaceId : String
  channelId : String
  userId : String
  issuedAt : Timestamp
  nonce : String
  channelKind : String
  channelUserId : Option String
  deriving DecidableEq

namespace Db

/-- `transition`: an event that leaves the agent, or ends, seals its job group. -/
def transitionEvent (eventId : EventId) (source : List EventStatus) (target : EventStatus)
    (values : EventRow → EventRow) (now : Int) (db : Db) : Except String Db := do
  let current ← db.getRequired eventId
  throwIf (source.contains current.status = false)
    s!"Invalid status transition for event {eventId} to {target.text}"
  let leftAgentOwnedState := current.status.isAgentOwned && !target.isAgentOwned
  let db : Db := { db with
    events := db.events.updateKey eventId fun event ↦
      { values event with status := target, updatedAt := .toIso now } }
  .ok (if leftAgentOwnedState = true ∨
      [EventStatus.completed, .blocked, .needsReview, .deadLetter].contains target then
    db.sealJobGroupIfPresent eventId (.toIso now) else db)

/-! ### The state of a notice -/

/-- A notice of a scheduled job with its run and its schedule. -/
structure NoticeRun where
  runId : Uuid
  completion : CompletionResult
  run : ScheduleRun
  schedule : Schedule

def noticeRun? (db : Db) (completion : CompletionResult) : Option NoticeRun := do
  let runId ← completion.owner.runId?
  let run ← db.runs.get? runId
  let schedule ← db.schedules.get? run.scheduleId
  some ⟨runId, completion, run, schedule⟩

def reports (eventId : EventId) (completion : CompletionResult) : Bool :=
  completion.notificationEventId = some eventId

def noticeRuns (db : Db) (eventId : EventId) : List NoticeRun :=
  (db.completions.select fun _ completion ↦
    reports eventId completion ∧ completion.owner.isSchedule).filterMap fun entry ↦
      db.noticeRun? entry.2

/-- The latest of the instants that the notice and its run have recorded, and `now`. -/
def NoticeRun.settledAt (row : NoticeRun) (now : Int) : Timestamp :=
  Timestamp.latest (.floorSecond now)
    ([row.completion.materializedAt, row.run.createdAt] ++ row.run.startedAt.toList ++
      row.run.terminalAt.toList ++ [row.schedule.updatedAt])

def markForReview (now : Int) (db : Db) (row : NoticeRun) : Except String Db := do
  let (_, db) ← db.markWorkNotificationNeedsReview row.runId (row.settledAt now)
  .ok db

def settleNotice (now : Int) (db : Db) (row : NoticeRun) : Except String Db := do
  let (_, db) ← db.settleWorkNotification row.runId (row.settledAt now)
  .ok db

def withState (state : NotificationState) (completion : CompletionResult) : CompletionResult :=
  { completion with notificationState := state }

/-- `expectedStates` restricts the states that the notice may be in. -/
def setNotificationState (eventId : EventId) (state : NotificationState) (now : Int)
    (expectedStates : Option (List NotificationState)) (db : Db) : Except String Db := do
  let rows := db.noticeRuns eventId
  let db ← (if state = .failed ∨ state = .needsReview then rows.foldlM (markForReview now) db
    else .ok db)
  let updated : JobId × JobStatus → CompletionResult → Bool := fun _ completion ↦
    reports eventId completion ∧
      expectedStates.all fun states ↦ states.contains completion.notificationState
  throwIf (expectedStates.isSome ∧ db.completions.count updated ≠ 1)
    "scheduled_notification_not_reconcilable"
  let db : Db := { db with completions := db.completions.updateWhere updated (withState state) }
  if state = .accepted then rows.foldlM (settleNotice now) db else .ok db

/-! ### Authority over a notice -/

/-- The schedule, the bound revision and its row, for a notice of a scheduled job. -/
def authority? (db : Db) (completion : CompletionResult) :
    Option (ScheduleId × Schedule × ℕ × Revision) :=
  match completion.owner with
  | .slackThread _ => none
  | .schedule _ _ scheduleId _ revision => do
      let schedule ← db.schedules.get? scheduleId
      let row ← db.revision? scheduleId revision
      some (scheduleId, schedule, revision, row)

/-- At `now` the schedule still stands behind the notice. -/
def withinAuthority (completion : CompletionResult) (schedule : Schedule) (revision : ℕ)
    (row : Revision) (now : Int) : Bool :=
  now ≤ completion.materializedAt.millis + 900000 ∧
    [ScheduleState.active, .needsReview].contains schedule.state ∧
    schedule.revision = revision ∧ now < row.expiresAt.millis

/-- The statuses in which an event has not ended. -/
def isOpen (status : EventStatus) : Bool :=
  [EventStatus.queued, .retryableFailed, .dispatching, .waitingAgent, .blocked].contains status

/-- A notice whose authority is gone, with its event. -/
structure Unauthorized where
  eventId : EventId
  status : EventStatus
  notificationState : NotificationState
  phase : AuthorizationPhase
  scheduleId : ScheduleId

def unauthorized? (db : Db) (now : Int) (completion : CompletionResult) :
    Option Unauthorized := do
  let eventId ← completion.notificationEventId
  let event ← db.events.get? eventId
  let (scheduleId, schedule, revision, row) ← db.authority? completion
  if event.source = .donaJob ∧ isOpen event.status ∧
      withinAuthority completion schedule revision row now = false then
    some ⟨eventId, event.status, completion.notificationState,
      completion.notificationAuthorizationPhase, scheduleId⟩
  else none

/-- The post may have happened: the agent has the event, or may write. -/
def Unauthorized.mayHavePosted (row : Unauthorized) : Bool :=
  row.status.isAgentOwned ∨ (row.status = .blocked ∧ row.phase = .write) ∨
    (row.notificationState = .needsReview ∧ row.phase = .write)

def updateOpenEvent (db : Db) (eventId : EventId) (f : EventRow → EventRow) : Db :=
  { db with
    events := db.events.updateWhere (fun id event ↦ id = eventId ∧ isOpen event.status) f }

def suppressUnauthorized (now : Int) (db : Db) (row : Unauthorized) : Except String Db :=
  if row.mayHavePosted then
    (db.updateOpenEvent row.eventId fun event ↦
      { event with
        status := .needsReview
        updatedAt := .toIso now
        lastErrorCode := some "notification_delivery_ambiguous"
        lastErrorMessage := none }).setNotificationState row.eventId .needsReview now none
  else do
    let db ← (db.updateOpenEvent row.eventId
      (completeEvent (.toIso now) "schedule_notification_suppressed")).setNotificationState
        row.eventId .none now none
    .ok (db.completeIfDrained row.scheduleId (.toIso now))

def suppressUnauthorizedScheduledNotifications (now : Int) (db : Db) :
    Except String (Unit × Db) := do
  let rows := db.completions.entries.filterMap fun entry ↦ db.unauthorized? now entry.2
  let db ← rows.foldlM (suppressUnauthorized now) db
  .ok ((), db)

/-- Runs a transaction after the suppression, which has its own. -/
def afterSuppression {α : Type} (now : Int) (body : Db → Except String (α × Db)) (db : Db) :
    Except String α × Db :=
  match suppressUnauthorizedScheduledNotifications now db with
  | .error e => (.error e, db)
  | .ok (_, db) => transaction body db

/-! ### The capability to post -/

/-- The phases from which a notice can be authorized further. -/
def isGrantable (completion : CompletionResult) : Bool :=
  (completion.notificationState = .pending ∧ completion.notificationAuthorizationPhase = .none) ∨
    (completion.notificationState = .needsReview ∧
      completion.notificationAuthorizationPhase = .preflight)

def isAuthorizable (db : Db) (eventId : EventId) (now : Int) (completion : CompletionResult) :
    Bool :=
  reports eventId completion ∧ isGrantable completion ∧
    (db.authority? completion).any fun (_, schedule, revision, row) ↦
      withinAuthority completion schedule revision row now

/-- The receipt does not prove the access of the owner to the destination of the notice. -/
def receiptMismatch (completion : CompletionResult) (receipt : AccessReceipt) (now : Int) : Bool :=
  receipt.nonce = "" ∨ completion.destination.target? = none ∨
    (completion.destination.target?.bind Target.workspaceId?) ≠ some receipt.workspaceId ∨
    (completion.destination.target?.bind Target.channelId?) ≠ some receipt.channelId ∨
    completion.owner.ownerId? ≠ some receipt.userId ∨
    completion.notificationPreflightAuthorizedAt.all (receipt.issuedAt.millis < ·.millis) ∨
    120000 < |now - receipt.issuedAt.millis|

def isOwnerDm : Target → Bool
  | .ownerDm _ _ _ => true
  | _ => false

/-- A direct message is only for the owner. -/
def directMessageMismatch (completion : CompletionResult) (receipt : AccessReceipt) : Bool :=
  completion.destination.target?.any isOwnerDm ∧
    (receipt.channelKind ≠ "im" ∨ receipt.channelUserId ≠ completion.owner.ownerId?)

def consumeNonce (nonce : String) (eventId : EventId) (now : Int) (error : String) (db : Db) :
    Except String Db := do
  let nonces ← orThrow (db.accessNonces.insert? nonce (eventId, .toIso now)) error
  .ok { db with accessNonces := nonces }

/-- The preflight needs no receipt; the write needs one that nobody has used. -/
def checkReceipt (eventId : EventId) (completion : CompletionResult)
    (receipt : Option AccessReceipt) (now : Int) (db : Db) : Except String Db :=
  if completion.notificationAuthorizationPhase = .none then do
    throwIf (receipt.isSome = true) "schedule_notification_receipt_unexpected"
    .ok db
  else do
    let receipt ← orThrow receipt "schedule_notification_access_receipt_invalid"
    throwIf (receiptMismatch completion receipt now = true)
      "schedule_notification_access_receipt_invalid"
    throwIf (directMessageMismatch completion receipt = true)
      "schedule_notification_access_receipt_invalid"
    db.consumeNonce receipt.nonce eventId now "schedule_notification_access_receipt_already_consumed"

def markWaiting (eventId : EventId) (now : Int) (db : Db) : Except String Db :=
  db.transitionEvent eventId [.dispatching] .waitingAgent
    (fun event ↦
      { event with
        promptAcceptedAt := some (.toIso now)
        lastErrorCode := none
        lastErrorMessage := none }) now

def nextPhase : AuthorizationPhase → AuthorizationPhase
  | .none => .preflight
  | _ => .write

def grantPhase (phase : AuthorizationPhase) (now : Int) (completion : CompletionResult) :
    CompletionResult :=
  { completion with
    notificationState := .needsReview
    notificationAuthorizationPhase := phase
    notificationPreflightAuthorizedAt :=
      if phase = .preflight then some (.toIso now)
      else completion.notificationPreflightAuthorizedAt
    notificationWriteAuthorizedAt := if phase = .write then some (.toIso now) else none }

/-- The transaction of `authorizeJobNotification`; the result is the phase it grants. -/
def authorizeNotice (eventId : EventId) (now : Int) (receipt : Option AccessReceipt) (db : Db) :
    Except String (AuthorizationPhase × Db) := do
  let event ← orThrow (db.events.get? eventId) "schedule_notification_not_authorized"
  throwIf (event.source ≠ .donaJob ∨ event.status.isAgentOwned = false)
    "schedule_notification_not_authorized"
  let (_, completion) ← orThrow
    (db.completions.find? fun _ completion ↦ db.isAuthorizable eventId now completion)
    "schedule_notification_not_authorized"
  let db ← db.checkReceipt eventId completion receipt now
  let db ← (if event.status = .dispatching then db.markWaiting eventId now else .ok db)
  let phase := nextPhase completion.notificationAuthorizationPhase
  .ok (phase, { db with
    completions := db.completions.updateWhere (fun _ completion ↦ reports eventId completion)
      (grantPhase phase now) })

def authorizeJobNotification (eventId : EventId) (now : Int) (receipt : Option AccessReceipt)
    (db : Db) : Except String AuthorizationPhase × Db :=
  afterSuppression now (authorizeNotice eventId now receipt) db

/-- `payload.work?.authorization_target` -/
def authorizationTarget? : EventPayload → Option (String × String)
  | .scheduleDue _ _ _ _ _ authorizationTarget => authorizationTarget
  | _ => none

def recordScheduleJobAccess (eventId : EventId) (receipt : AccessReceipt) (now : Int) (db : Db) :
    Except String (Unit × Db) := do
  let event ← db.getRequired eventId
  let owner := (db.eventBindings.get? eventId).bind (·.owner.ownerId?)
  throwIf (event.source ≠ .donaSchedule ∨ event.status.isAgentOwned = false ∨ owner = none ∨
    receipt.nonce = "" ∨ some receipt.userId ≠ owner ∨
    authorizationTarget? event.payload ≠ some (receipt.workspaceId, receipt.channelId) ∨
    event.scheduleAccessConsumedAt ≠ none ∨ 120000 < |now - receipt.issuedAt.millis|)
    "schedule_access_receipt_mismatch"
  let db ← (if event.status = .dispatching then db.markWaiting eventId now else .ok db)
  let db ← db.consumeNonce receipt.nonce eventId now "schedule_access_receipt_already_consumed"
  throwIf (event.scheduleAccessCheckedAt ≠ none) "schedule_access_receipt_already_recorded"
  .ok ((), { db with
    events := db.events.updateKey eventId fun event ↦
      { event with scheduleAccessCheckedAt := some receipt.issuedAt } })

/-! ### Dispatch -/

/-- The statement of `beginDispatch`; a suppressed event is returned as it is. -/
def startDispatch (eventId : EventId) (resultPath : String) (now : Int) (db : Db) :
    Except String (Unit × Db) := do
  let event ← db.getRequired eventId
  if [EventStatus.queued, .retryableFailed].contains event.status then
    .ok ((), { db with
      events := db.events.updateKey eventId fun event ↦
        { event with
          status := .dispatching
          attemptCount := event.attemptCount + 1
          dispatchStartedAt := some (.toIso now)
          promptAcceptedAt := none
          resultPath := some resultPath
          lastErrorCode := none
          lastErrorMessage := none
          updatedAt := .toIso now } })
  else do
    throwIf (¬(event.status = .completed ∧
      (event.lastErrorCode = some "schedule_suppressed" ∨
        event.lastErrorCode = some "schedule_notification_suppressed")))
      s!"Event {eventId} is no longer dispatchable"
    .ok ((), db)

def beginDispatch (eventId : EventId) (resultPath : String) (now : Int) (db : Db) :
    Except String Unit × Db :=
  afterSuppression now (startDispatch eventId resultPath now) db

/-- The due event of a run ended without a job, as of `now`. -/
def settleUndelegated (eventId : EventId) (outcome : UndelegatedOutcome) (now : Int) (db : Db) :
    Except String Db := do
  let (_, db) ← db.settleUndelegatedWorkEvent eventId outcome (.floorSecond now)
  .ok db

def markBlocked (eventId : EventId) (message : String) (source : List EventStatus) (now : Int)
    (db : Db) : Except String (Unit × Db) := do
  let event ← db.getRequired eventId
  let db ← db.transitionEvent eventId source
    (if event.source = .donaSchedule then .needsReview else .blocked)
    (fun event ↦
      { event with lastErrorCode := some "agent_blocked", lastErrorMessage := some message }) now
  let db ← db.settleUndelegated eventId .needsReview now
  let db ← db.setNotificationState eventId .needsReview now none
  .ok ((), db)

def markNeedsReview (eventId : EventId) (code message : String) (now : Int) (db : Db) :
    Except String (Unit × Db) := do
  let db ← db.transitionEvent eventId [.dispatching, .waitingAgent] .needsReview
    (fun event ↦
      { event with lastErrorCode := some code, lastErrorMessage := some message }) now
  let db ← db.settleUndelegated eventId .needsReview now
  let db ← db.setNotificationState eventId .needsReview now none
  .ok ((), db)

/-- `retryDelaysMs` -/
def retryDelaysMs : List Int := [5000, 30000, 120000, 600000]

def retryAt (attemptCount : ℕ) (now : Int) : Timestamp :=
  .toIso (now + (retryDelaysMs.getD (min (attemptCount - 1) (retryDelaysMs.length - 1)) 0))

/-- What a dead letter settles. -/
def settleDeadLetter (eventId : EventId) (now : Int) (db : Db) : Except String Db := do
  let db ← (db.sealJobGroupIfPresent eventId (.toIso now)).settleUndelegated eventId .failed now
  db.setNotificationState eventId .failed now none

/-- A failed attempt: another one later, or a dead letter. -/
def failAttempt (eventId : EventId) (attemptCount : ℕ) (code message : String) (maxAttempts : ℕ)
    (now : Int) (db : Db) : Except String Db := do
  let dead : Bool := maxAttempts ≤ attemptCount
  let db : Db := { db with
    events := db.events.updateKey eventId fun event ↦
      { event with
        status := if dead then .deadLetter else .retryableFailed
        attemptCount := attemptCount
        availableAt := if dead then .toIso now else retryAt attemptCount now
        lastErrorCode := some code
        lastErrorMessage := some message
        updatedAt := .toIso now } }
  if dead then db.settleDeadLetter eventId now else .ok db

def recordPreDispatchFailure (eventId : EventId) (code message : String) (maxAttempts : ℕ)
    (now : Int) (db : Db) : Except String (Unit × Db) := do
  let event ← orThrow (db.events.get? eventId) s!"Event {eventId} is no longer dispatchable"
  throwIf ([EventStatus.queued, .retryableFailed].contains event.status = false)
    s!"Event {eventId} is no longer dispatchable"
  let db ← db.failAttempt eventId (event.attemptCount + 1) code message maxAttempts now
  .ok ((), db)

def recordSafePromptFailure (eventId : EventId) (code message : String) (maxAttempts : ℕ)
    (now : Int) (db : Db) : Except String (Unit × Db) := do
  let event ← orThrow (db.events.get? eventId) s!"Event {eventId} is not dispatching"
  throwIf (event.status ≠ .dispatching) s!"Event {eventId} is not dispatching"
  let db ← db.failAttempt eventId event.attemptCount code message maxAttempts now
  .ok ((), db.sealJobGroupIfPresent eventId (.toIso now))

def recordWaitingError (eventId : EventId) (code message : String) (now : Int) (db : Db) :
    Except String (Unit × Db) :=
  .ok ((), { db with
    events := db.events.updateWhere (fun id event ↦ id = eventId ∧ event.status = .waitingAgent)
      fun event ↦
        { event with
          lastErrorCode := some code
          lastErrorMessage := some message
          updatedAt := .toIso now } })

def staleEvent (now : Int) (event : EventRow) : EventRow :=
  { event with
    status := .needsReview
    lastErrorCode := some "stale_dispatching"
    lastErrorMessage := some "Dispatcher restarted while prompt acceptance was unknown"
    updatedAt := .toIso now }

/-- After a restart nobody knows whether a prompt that was being dispatched was accepted. -/
def recoverStaleDispatching (now : Int) (db : Db) : Except String (Unit × Db) := do
  let dispatching := db.events.select fun _ event ↦ event.status = .dispatching
  let scheduled := dispatching.filter fun entry ↦ entry.2.source = .donaSchedule
  let notifications := dispatching.filter fun entry ↦ entry.2.source = .donaJob ∧
    db.completions.any fun _ completion ↦ reports entry.1 completion
  let db := dispatching.foldl (fun db entry ↦ db.sealJobGroupIfPresent entry.1 (.toIso now)) db
  let db : Db := { db with
    events := db.events.updateWhere (fun _ event ↦ event.status = .dispatching) (staleEvent now) }
  let db ← scheduled.foldlM (fun db entry ↦ db.settleUndelegated entry.1 .needsReview now) db
  let db ← notifications.foldlM
    (fun db entry ↦ db.setNotificationState entry.1 .needsReview now none) db
  .ok ((), db)

end Db

end Dona
