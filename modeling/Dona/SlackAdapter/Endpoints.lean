import Dona.UpdateNotification.Reporter
import Mathlib.Data.Finset.Card

/-!
# What the Slack Adapter has under way

The in-flight set and the stopping flag of `SlackSocketAdapter`, the endpoints of
`SlackHealthServer` that write to Slack, and the envelopes of Socket Mode, each with its checks
and awaits where `socket-adapter.ts` and `health-server.ts` have them. A scan that only reads
Slack is one await. Whether a reminder holds the ticket of its preflight is left to the
surroundings, so every clock and every throttle of the connector is among them.
-/

namespace Dona.SlackAdapter

open Coroutine
open UpdateNotification (DeliveryError SessionStatus AgentSessionStatus AgentSessionResult
  PostStatus SlackConnection UpdateNotificationRequest UpdateNotificationResult HttpResponse
  errorResponse)

/-! ### Requests -/

structure SlackApiError where
  errorCode : String
  retryAfterSeconds : Option ℕ := none

/-- An error thrown in the adapter: whether it is an `UpdateNotificationPermanentError` or a
`SlackApiError`, and the marks that `job-progress.ts` puts on it. -/
structure Failure where
  message : String
  permanent : Option (String × Option UpdateNotificationResult) := none
  slackApiError : Option SlackApiError := none
  definitelyUnsent : Bool := false
  progressPermanent : Bool := false

def Failure.deliveryError (failure : Failure) : DeliveryError :=
  match failure.permanent with
  | some (code, receipt) => .permanent code failure.message receipt
  | none => .failed failure.message

structure Response where
  statusCode : ℕ
  outcome : Option String := none
  code : Option String := none
  retryAfterSeconds : Option ℕ := none

/-- A Socket Mode envelope; `normalized` is what `normalizeSlackEvent` makes of its body. -/
structure SocketEnvelope where
  type : String
  normalized : Except String (Option String)

structure SlackReminderCommand where
  outboxId : String
  workspaceId : String
  channelId : String
  threadTs : Option String

structure PostedMessage where
  channelId : String
  threadTs : Option String
  messageTs : String

structure JobDeliveryConfirmationRequest where
  eventId : String
  workspaceId : String
  channelId : String
  messageTs : String
  threadTs : Option String
  desiredSessionStatus : Option SessionStatus

structure JobSessionSettlementRequest where
  workspaceId : String
  channelId : String
  threadTs : String
  desiredSessionStatus : SessionStatus

structure ScheduleAccessConfirmationRequest where
  workspaceId : String
  channelId : String
  userId : String

structure JobProgressRequest where
  progressId : String
  deliveryToken : String

structure ResolvedProgress where
  workspaceId : String
  channelId : String
  threadTs : String
  status : String

structure QuiesceRequest where
  operationId : String
  targetSha : String

/-- What the health server is built with. -/
structure Ports where
  updateInternalTokenPath : Bool
  updateNotifications : Bool
  reminders : Bool
  jobProgress : Bool
  registry : String → Option SlackConnection

/-! ### The state of the adapter -/

/-- A write of the adapter. An acknowledged envelope is neither a Slack write nor a post to the
Dispatcher, but it counts among what is in progress. -/
inductive Write
  | message | session | progress | event | ack
  deriving DecidableEq

/-- The requests that were past their last look at the stopping flag when it was set and could
still begin a write: update notifications, and the others. -/
structure Crossing where
  updates : Finset ℕ
  deferred : Finset ℕ
  deriving DecidableEq

/-- The two promises of a progress request. -/
inductive ProgressPromise
  | admission | operation
  deriving DecidableEq

/-- The state of the adapter and its health server. The stopping flag keeps which requests it
crossed; `writing` and `late` record the writes under way and those begun behind the flag. -/
structure Adapter where
  quiesced : Option Crossing := none
  inFlight : Finset ℕ := ∅
  quiesceOperationId : Option String := none
  progressOperations : Finset (ℕ × ProgressPromise) := ∅
  progressDrains : ℕ := 0
  tickets : String → Bool := fun _ ↦ false
  updates : Finset ℕ := ∅
  deferred : Finset ℕ := ∅
  writing : ℕ → Option Write := fun _ ↦ none
  late : List (ℕ × Write) := []

namespace Adapter

def isStopping (s : Adapter) : Bool := s.quiesced.isSome

structure DrainStatus where
  quiescing : Bool
  drained : Bool
  inFlight : ℕ
  deriving DecidableEq

def drainStatus (s : Adapter) : DrainStatus where
  quiescing := s.isStopping
  drained := s.isStopping && s.inFlight.card = 0
  inFlight := s.inFlight.card

/-- `this.stopping = true` -/
def stop (s : Adapter) : Adapter :=
  { s with quiesced := s.quiesced.or (some ⟨s.updates, s.deferred⟩) }

def track (k : ℕ) (s : Adapter) : Adapter := { s with inFlight := insert k s.inFlight }

def untrack (k : ℕ) (s : Adapter) : Adapter := { s with inFlight := s.inFlight.erase k }

/-- An update notification passes its only look at the stopping flag, or ends. -/
def passUpdate (k : ℕ) (s : Adapter) : Adapter := { s with updates := insert k s.updates }

def endUpdate (k : ℕ) (s : Adapter) : Adapter := { s with updates := s.updates.erase k }

/-- Another request passes its last look at the flag before it awaits, or ends. -/
def passDeferred (k : ℕ) (s : Adapter) : Adapter := { s with deferred := insert k s.deferred }

def endDeferred (k : ℕ) (s : Adapter) : Adapter := { s with deferred := s.deferred.erase k }

def begin (k : ℕ) (w : Write) (s : Adapter) : Adapter :=
  { s with
    writing := Function.update s.writing k (some w)
    late := if s.isStopping then (k, w) :: s.late else s.late }

def finish (k : ℕ) (s : Adapter) : Adapter :=
  { s with writing := Function.update s.writing k none }

def addProgress (k : ℕ) (promise : ProgressPromise) (s : Adapter) : Adapter :=
  { s with progressOperations := insert (k, promise) s.progressOperations }

def deleteProgress (k : ℕ) (promise : ProgressPromise) (s : Adapter) : Adapter :=
  { s with progressOperations := s.progressOperations.erase (k, promise) }

def setTicket (outboxId : String) (held : Bool) (s : Adapter) : Adapter :=
  { s with tickets := Function.update s.tickets outboxId held }

end Adapter

/-! ### Awaits -/

inductive Call
  | authorized
  | readUpdateNotification
  | readReminder
  | readJobDeliveryConfirmation
  | readJobSessionSettlement
  | readScheduleAccess
  | readJobProgress
  | readQuiesce
  | existingMessage
  | postMessage
  | setAgentSessionStatus (channelId threadTs : String) (status : SessionStatus)
  | preflight (command : SlackReminderCommand)
  | deliveredMessage (input : JobDeliveryConfirmationRequest)
  | scheduleAccess (input : ScheduleAccessConfirmationRequest)
  | resolveProgress (input : JobProgressRequest)
  | setAssistantThreadProgress (progress : ResolvedProgress)
  | postEvent (event : String)
  | ack
  | progressSettled (promises : Finset (ℕ × ProgressPromise))
  | inFlightSettledOrGrace
  | disconnect

/-- What an await returns; a rejected promise is an error. -/
abbrev Call.Reply : Call → Type
  | authorized => Bool
  | readUpdateNotification => Except Failure UpdateNotificationRequest
  | readReminder => Except Failure (Option SlackReminderCommand)
  | readJobDeliveryConfirmation => Except Failure JobDeliveryConfirmationRequest
  | readJobSessionSettlement => Except Failure JobSessionSettlementRequest
  | readScheduleAccess => Except Failure ScheduleAccessConfirmationRequest
  | readJobProgress => Except Failure JobProgressRequest
  | readQuiesce => Option QuiesceRequest
  | existingMessage => Except Failure (Option String)
  | postMessage => Except Failure PostedMessage
  | setAgentSessionStatus _ _ _ => Except Failure AgentSessionResult
  | preflight _ => Response
  | deliveredMessage _ => Except Failure Unit
  | scheduleAccess _ => Except Failure Unit
  | resolveProgress _ => Except Failure ResolvedProgress
  | setAssistantThreadProgress _ => Except Failure Unit
  | postEvent _ => Except Failure ℕ
  | ack => Except Failure Unit
  | progressSettled _ => Unit
  | inFlightSettledOrGrace => Unit
  | disconnect => Unit

abbrev Program := Coroutine Adapter Call.Reply Failure

variable {α : Type}

/-- A rejected promise throws. -/
def settled : Except Failure α → Program α
  | .ok a => pure a
  | .error failure => throw failure

/-- A write, from the moment it is begun to the moment its promise settles. -/
def external (k : ℕ) (w : Write) (c : Call) : Program c.Reply := do
  write (·.begin k w)
  let reply ← call c
  write (·.finish k)
  pure reply

/-- `trackOperation`, `trackExternal` and `track` -/
def tracked (k : ℕ) (operation : Program α) : Program α := do
  write (·.track k)
  let result ← attempt operation
  write (·.untrack k)
  settled result

/-- What follows the last look at the stopping flag of a request that awaits before it writes. -/
def deferring (k : ℕ) (operation : Program α) : Program α := do
  write (·.passDeferred k)
  let result ← attempt operation
  write (·.endDeferred k)
  settled result

/-- `rejectStopping`, and the check of the reminder endpoint -/
def unlessStopping (rejection : Response) (next : Program Response) : Program Response := do
  if (← read (·.isStopping)) = true then pure rejection
  else next

variable (ports : Ports) (k : ℕ)

/-! ### Update notifications -/

def existingMessage : Program (Option String) := do
  let found : Except Failure (Option String) ← call Call.existingMessage
  settled found

def permanentError (code message : String) (receipt : Option UpdateNotificationResult := none) :
    Failure where
  message := message
  permanent := some (code, receipt)

/-- The post, and the scan after a post that failed. -/
def postUpdateNotification : Program String := do
  let posted : Except Failure PostedMessage ← external k .message .postMessage
  match posted with
  | .ok posted => pure posted.messageTs
  | .error _ =>
      match ← attempt existingMessage with
      | .ok (some messageTs) => pure messageTs
      | .ok none =>
          throw (permanentError "ambiguous_update_notification"
            "Slack post acceptance is unknown and the exact identity block was not observed")
      | .error failure =>
          if failure.permanent.isSome then throw failure
          else
            throw (permanentError "ambiguous_update_notification"
              "Slack post acceptance and identity block could not be reconciled")

def messageToReport : Program (String × PostStatus) := do
  match ← existingMessage with
  | some messageTs => pure (messageTs, .existing)
  | none =>
      let messageTs ← postUpdateNotification k
      pure (messageTs, .created)

/-- `setAgentSessionStatus`, which has to reach the requested status. -/
def settleSession (mismatch : String) (channelId threadTs : String) (desired : SessionStatus) :
    Program AgentSessionStatus := do
  let reply : Except Failure AgentSessionResult ←
    external k .session (.setAgentSessionStatus channelId threadTs desired)
  let session ← settled reply
  if session.status ≠ desired.agentStatus ∨ session.agentStatus ≠ desired.agentStatus then
    throw { message := mismatch }
  else pure session.status

def deliverUpdateNotification (input : UpdateNotificationRequest) :
    Program UpdateNotificationResult := do
  match ports.registry input.workspaceId with
  | none =>
      throw (permanentError "unknown_workspace" s!"Unknown Slack workspace ID: {input.workspaceId}")
  | some connection =>
      let (messageTs, postStatus) ← messageToReport k
      let sessionStatus ← settleSession k "Slack Agent Session did not reach the requested status"
        input.channelId input.threadTs input.desiredSessionStatus
      let result : UpdateNotificationResult :=
        { notificationId := input.notificationId
          workspaceId := connection.teamId
          channelId := input.channelId
          threadTs := input.threadTs
          messageTs := messageTs
          postStatus := postStatus
          sessionStatus := sessionStatus }
      if postStatus = .created then
        let observed ← existingMessage
        if observed ≠ some messageTs then
          throw (permanentError "identity_block_not_persisted"
            "Slack posted the notification without the exact identity block" (some result))
        else pure result
      else pure result

/-- The endpoint looks at the stopping flag once, before it reads its body, and nothing tracks
its promise. -/
def handleUpdateNotification : Program HttpResponse := do
  if (ports.updateNotifications && ports.updateInternalTokenPath) = false then
    pure { statusCode := 503, errorCode := some "reporter_unavailable",
           errorMessage := some "Update reporter is not configured" }
  else if (← call Call.authorized) = false then
    pure { statusCode := 403, errorCode := some "forbidden",
           errorMessage := some "Internal authentication failed" }
  else if (← read (·.isStopping)) = true then
    pure { statusCode := 503, errorCode := some "shutting_down",
           errorMessage := some "Slack Adapter is stopping" }
  else
    write (·.passUpdate k)
    let delivered ← attempt do
      let body : Except Failure UpdateNotificationRequest ← call Call.readUpdateNotification
      deliverUpdateNotification ports k (← settled body)
    write (·.endUpdate k)
    match delivered with
    | .ok result => pure { statusCode := 200, receipt := some result }
    | .error failure => pure (errorResponse failure.deliveryError)

/-! ### Reminders -/

def revokedSlackErrors : List String :=
  ["channel_not_found", "user_not_found", "missing_scope", "not_in_channel", "thread_not_found",
    "is_archived", "token_revoked", "account_inactive", "invalid_auth", "not_authed",
    "not_allowed_token_type", "restricted_action_read_only_channel",
    "restricted_action_thread_locked"]

def postOutcome (command : SlackReminderCommand) : Except Failure PostedMessage → Response
  | .ok posted =>
      if posted.channelId ≠ command.channelId ∨
          (command.threadTs ≠ none ∧ posted.threadTs ≠ command.threadTs) then
        { statusCode := 200, outcome := "acceptance_unknown", code := "receipt_mismatch" }
      else { statusCode := 200, outcome := "accepted", code := posted.messageTs }
  | .error failure =>
      match failure.slackApiError with
      | none => { statusCode := 200, outcome := "acceptance_unknown", code := "unexpected_error" }
      | some error =>
          if revokedSlackErrors.contains error.errorCode then
            { statusCode := 200, outcome := "revoked", code := error.errorCode }
          else if error.errorCode = "rate_limited" then
            { statusCode := 200, outcome := "not_accepted", code := error.errorCode,
              retryAfterSeconds := some (error.retryAfterSeconds.getD 1) }
          else if error.errorCode = "slack_server_error_before_send" then
            { statusCode := 200, outcome := "not_accepted", code := error.errorCode,
              retryAfterSeconds := some 1 }
          else if ["slack_transport_error", "slack_http_error", "slack_api_error",
              "invalid_slack_response"].contains error.errorCode then
            { statusCode := 200, outcome := "acceptance_unknown", code := error.errorCode }
          else { statusCode := 200, outcome := "rejected", code := error.errorCode }

/-- `SlackReminderConnector.deliver` -/
def deliverReminder (preflightOnly : Bool) (body : Option SlackReminderCommand) :
    Program Response := do
  match body with
  | none => pure { statusCode := 200, outcome := "rejected", code := "invalid_command" }
  | some command =>
      if preflightOnly = true then
        if (ports.registry command.workspaceId).isNone then
          pure { statusCode := 200, outcome := "revoked", code := "workspace_not_allowed" }
        else
          let response : Response ← call (Call.preflight command)
          if response.outcome = some "prepared" then do
            write (·.setTicket command.outboxId true)
            pure response
          else pure response
      else if (← read (·.tickets command.outboxId)) = false then
        pure { statusCode := 200, outcome := "not_accepted", code := "preflight_required",
               retryAfterSeconds := some 0 }
      else
        write (·.setTicket command.outboxId false)
        if (ports.registry command.workspaceId).isNone then
          pure { statusCode := 200, outcome := "revoked", code := "workspace_not_allowed" }
        else
          let posted : Except Failure PostedMessage ← external k .message .postMessage
          pure (postOutcome command posted)

def reminderShuttingDown : Response where
  statusCode := 503
  outcome := "unavailable"
  code := "shutting_down"
  retryAfterSeconds := some 1

def handleReminder (preflightOnly : Bool) : Program Response := do
  if (ports.reminders && ports.updateInternalTokenPath) = false then
    pure { statusCode := 503, code := "connector_unavailable" }
  else if (← call Call.authorized) = false then pure { statusCode := 403, code := "forbidden" }
  else
    unlessStopping reminderShuttingDown do
      let body : Except Failure (Option SlackReminderCommand) ← call Call.readReminder
      match body with
      | .error _ => pure { statusCode := 400, outcome := "rejected", code := "invalid_command" }
      | .ok body => unlessStopping reminderShuttingDown (deliverReminder ports k preflightOnly body)

/-! ### Deliveries, sessions and access -/

def unknownWorkspace : Failure where
  message := "unknown_workspace"

def confirmJobDelivery (input : JobDeliveryConfirmationRequest) : Program Unit := do
  if (ports.registry input.workspaceId).isNone then throw unknownWorkspace
  else
    let found : Except Failure Unit ← call (Call.deliveredMessage input)
    settled found
    match input.threadTs, input.desiredSessionStatus with
    | some threadTs, some desired =>
        let _ ← settleSession k "job_delivery_session_not_settled" input.channelId threadTs desired
    | _, _ => pure ()

def settleJobSession (input : JobSessionSettlementRequest) : Program Unit := do
  if (ports.registry input.workspaceId).isNone then throw unknownWorkspace
  else
    let _ ← settleSession k "job_session_not_settled" input.channelId input.threadTs
      input.desiredSessionStatus

def confirmScheduleAccess (input : ScheduleAccessConfirmationRequest) : Program Unit := do
  if (ports.registry input.workspaceId).isNone then throw unknownWorkspace
  else
    let confirmed : Except Failure Unit ← call (Call.scheduleAccess input)
    settled confirmed

def shuttingDown : Response where
  statusCode := 503
  code := "shutting_down"

/-- What the three endpoints of `handleScheduledInternal` share. -/
def scheduledInternal {Input : Type} (unavailable unconfirmed : String)
    (readJson : Program (Except Failure Input)) (operation : Input → Program Unit) :
    Program Response :=
  unlessStopping shuttingDown do
    if (ports.updateNotifications && ports.updateInternalTokenPath) = false then
      pure { statusCode := 503, code := unavailable }
    else if (← call Call.authorized) = false then pure { statusCode := 403, code := "forbidden" }
    else
      let answer ← attempt do
        let input ← settled (← readJson)
        unlessStopping shuttingDown do
          operation input
          pure { statusCode := 200 }
      match answer with
      | .ok response => pure response
      | .error _ => pure { statusCode := 409, code := unconfirmed }

def handleJobDeliveryConfirmation : Program Response :=
  scheduledInternal ports "reporter_unavailable" "job_delivery_not_confirmed"
    (call Call.readJobDeliveryConfirmation) fun input ↦
      deferring k (confirmJobDelivery ports k input)

def handleJobSessionSettlement : Program Response :=
  scheduledInternal ports "reporter_unavailable" "job_session_not_settled"
    (call Call.readJobSessionSettlement) (settleJobSession ports k)

def handleScheduleAccessConfirmation : Program Response :=
  scheduledInternal ports "reporter_unavailable" "schedule_access_not_confirmed"
    (call Call.readScheduleAccess) (confirmScheduleAccess ports)

/-! ### Job progress -/

/-- `SlackJobProgressReporter.deliver` -/
def deliverJobProgress (input : JobProgressRequest) : Program Unit := do
  let reply : Except Failure ResolvedProgress ← call (Call.resolveProgress input)
  match reply with
  | .error failure => throw { failure with definitelyUnsent := true }
  | .ok resolved =>
      if (ports.registry resolved.workspaceId).isNone then
        throw { unknownWorkspace with definitelyUnsent := true, progressPermanent := true }
      else
        let sent : Except Failure Unit ←
          external k .progress (.setAssistantThreadProgress resolved)
        settled sent

def permanentSlackCodes : List String :=
  ["invalid_auth", "account_inactive", "token_revoked", "not_authed", "missing_scope",
    "not_allowed_token_type", "invalid_arguments", "invalid_arg_name", "invalid_array_arg",
    "invalid_charset", "invalid_form_data", "invalid_post_type", "channel_not_found",
    "not_in_channel", "thread_not_found", "method_not_supported_for_channel_type"]

def ambiguousSlackCodes : List String :=
  ["slack_transport_error", "slack_http_error", "slack_api_error", "invalid_slack_response"]

def progressFailure (failure : Failure) : Response :=
  let permanentRejection :=
    failure.slackApiError.any (permanentSlackCodes.contains ·.errorCode)
  let retryableRejection :=
    failure.slackApiError.any fun error ↦
      !permanentSlackCodes.contains error.errorCode && !ambiguousSlackCodes.contains error.errorCode
  let definitelyUnsent := retryableRejection || failure.definitelyUnsent
  { statusCode :=
      if permanentRejection || failure.progressPermanent then 409
      else if definitelyUnsent then 429
      else 503
    code :=
      match failure.slackApiError with
      | some error => some error.errorCode
      | none => some (if definitelyUnsent then "progress_not_sent" else "job_progress_failed")
    retryAfterSeconds := failure.slackApiError.bind (·.retryAfterSeconds) }

def progressShuttingDown : Response where
  statusCode := 429
  code := "shutting_down"

/-- The operation is tracked and counts among the progress operations. -/
def progressOperation (input : JobProgressRequest) : Program Response :=
  tracked k do
    write (·.addProgress k .operation)
    let sent ← attempt (deferring k (deliverJobProgress ports k input))
    write (·.deleteProgress k .operation)
    settled sent
    pure { statusCode := 200 }

/-- A progress request that was admitted. -/
def admittedProgress : Program Response := do
  if (← call Call.authorized) = false then pure { statusCode := 403, code := "forbidden" }
  else
    unlessStopping progressShuttingDown do
      let answer ← attempt do
        let body : Except Failure JobProgressRequest ← call Call.readJobProgress
        let input ← settled body
        unlessStopping progressShuttingDown (progressOperation ports k input)
      match answer with
      | .ok response => pure response
      | .error failure => pure (progressFailure failure)

def handleJobProgress : Program Response := do
  if (ports.jobProgress && ports.updateInternalTokenPath) = false then
    pure { statusCode := 503, code := "reporter_unavailable" }
  else if 0 < (← read (·.progressDrains)) then
    pure { statusCode := 429, code := "progress_draining" }
  else
    write (·.addProgress k .admission)
    let response ← attempt (admittedProgress ports k)
    write (·.deleteProgress k .admission)
    settled response

def handleJobProgressDrain : Program Response := do
  if (ports.jobProgress && ports.updateInternalTokenPath) = false then
    pure { statusCode := 503, code := "reporter_unavailable" }
  else
    write fun s ↦ { s with progressDrains := s.progressDrains + 1 }
    let response ← attempt do
      if (← call Call.authorized) = false then pure { statusCode := 403, code := "forbidden" }
      else
        call (Call.progressSettled (← read (·.progressOperations)))
        pure { statusCode := 200 }
    write fun s ↦ { s with progressDrains := s.progressDrains - 1 }
    settled response

/-! ### Envelopes -/

def ackEnvelope : Program Unit := do
  let _ ← external k .ack .ack

def handleEnvelope (envelope : SocketEnvelope) : Program Unit := do
  if (← read (·.isStopping)) = true then pure ()
  else if envelope.type ≠ "events_api" then ackEnvelope k
  else
    match envelope.normalized with
    | .error _ => pure ()
    | .ok none => ackEnvelope k
    | .ok (some event) =>
        let response : Except Failure ℕ ← external k .event (.postEvent event)
        match response with
        | .error _ => pure ()
        | .ok statusCode =>
            if statusCode ≠ 200 ∧ statusCode ≠ 202 then pure ()
            else ackEnvelope k

/-! ### Quiescing -/

/-- Waits for the operations in flight, at most for the grace period. -/
def settleInFlight : Program Unit := do
  if 0 < (← read (·.inFlight.card)) then call Call.inFlightSettledOrGrace

/-- `SlackSocketAdapter.quiesce`, which `stop` is as well -/
def quiesce : Program Unit := do
  write (·.stop)
  settleInFlight
  call Call.disconnect
  settleInFlight

def handleQuiesce : Program Response := do
  match ← call Call.readQuiesce with
  | none => pure { statusCode := 400, code := "invalid_request" }
  | some input =>
      let current ← read (·.quiesceOperationId)
      if current.any (· ≠ input.operationId) then
        pure { statusCode := 409, code := "already_quiescing" }
      else
        write fun s ↦ { s with quiesceOperationId := some input.operationId }
        quiesce
        let status ← read (·.drainStatus)
        pure { statusCode := if status.drained then 200 else 202 }

/-! ### The adapter -/

/-- What an await may do and return; none of them touches the state of the adapter. -/
inductive Performs : (c : Call) → Adapter → c.Reply → Adapter → Prop
  | progressSettled (s : Adapter) (promises : Finset (ℕ × ProgressPromise))
      (hsettled : Disjoint promises s.progressOperations) :
      Performs (.progressSettled promises) s () s
  | replies (s : Adapter) (c : Call) (reply : c.Reply)
      (hc : ∀ promises, c ≠ .progressSettled promises) : Performs c s reply s

/-- Nothing is known of a request that has not arrived. -/
structure Adapter.Fresh (k : ℕ) (s : Adapter) : Prop where
  writing : s.writing k = none
  inFlight : k ∉ s.inFlight
  updates : k ∉ s.updates
  deferred : k ∉ s.deferred

/-- The promises that the adapter may start, each for a new request. -/
inductive Starts : ℕ → Adapter → Program Unit → Prop
  | envelope {k : ℕ} {s : Adapter} (hk : s.Fresh k) (envelope : SocketEnvelope) :
      Starts k s (tracked k (handleEnvelope k envelope))
  | updateNotification {k : ℕ} {s : Adapter} (hk : s.Fresh k) :
      Starts k s (discard (handleUpdateNotification ports k))
  | reminder {k : ℕ} {s : Adapter} (hk : s.Fresh k) (preflightOnly : Bool) :
      Starts k s (discard (tracked k (handleReminder ports k preflightOnly)))
  | jobDeliveryConfirmation {k : ℕ} {s : Adapter} (hk : s.Fresh k) :
      Starts k s (discard (tracked k (handleJobDeliveryConfirmation ports k)))
  | jobSessionSettlement {k : ℕ} {s : Adapter} (hk : s.Fresh k) :
      Starts k s (discard (tracked k (handleJobSessionSettlement ports k)))
  | scheduleAccessConfirmation {k : ℕ} {s : Adapter} (hk : s.Fresh k) :
      Starts k s (discard (tracked k (handleScheduleAccessConfirmation ports)))
  | jobProgress {k : ℕ} {s : Adapter} (hk : s.Fresh k) :
      Starts k s (discard (handleJobProgress ports k))
  | jobProgressDrain {k : ℕ} {s : Adapter} (hk : s.Fresh k) :
      Starts k s (discard (handleJobProgressDrain ports))
  | quiesceRequest {k : ℕ} {s : Adapter} (hk : s.Fresh k) :
      Starts k s (discard handleQuiesce)
  | stop {k : ℕ} {s : Adapter} (hk : s.Fresh k) : Starts k s quiesce

/-- The tickets of reminders come and go with the clock and with the preflights. -/
inductive Happens : Adapter → Adapter → Prop
  | tickets (s : Adapter) (tickets : String → Bool) : Happens s { s with tickets := tickets }

def surroundings : Pool.Surroundings Adapter Call.Reply Failure ℕ where
  initial s := s = {}
  perform := Performs
  programs := Starts ports
  kill _ _ _ := False
  environment := Happens

/-- All interleavings of envelopes, requests and quiescing in one adapter process. -/
def adapter : TransitionSystem (Pool Adapter Call.Reply Failure ℕ) (Pool.Event ℕ) :=
  Pool.system (surroundings ports)

end Dona.SlackAdapter
