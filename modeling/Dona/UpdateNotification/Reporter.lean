import Dona.UpdateNotification.World

/-!
# The reporter of the Slack Adapter

`SlackUpdateNotificationReporter.deliver` of `sources/slack/src/update-notification.ts` and the
endpoint of `health-server.ts` that calls it. A scan of the thread takes as many pages as there
are; `fuel` bounds them, and a scan that needs more stays suspended.
-/

namespace Dona.UpdateNotification

open Coroutine

inductive DeliveryError
  | permanent (code message : String) (receipt : Option UpdateNotificationResult)
  | failed (message : String)

def DeliveryError.message : DeliveryError → String
  | permanent _ message _ => message
  | failed message => message

abbrev Program := Coroutine World Call.Reply DeliveryError

/-- A rejected promise throws. -/
def settled {α : Type} : Except String α → Program α
  | .ok a => pure a
  | .error message => throw (.failed message)

/-- An await that does not return. -/
def never {α : Type} : Program α := do
  let reply ← call .never
  nomatch reply

variable (S : Setting)

/-! ### `existingMessage` -/

/-- Where a scan of the thread stands. -/
structure Scan where
  cursor : Option ℕ := none
  found : Option String := none
  seenCursors : List ℕ := []

def scanPage (connection : SlackConnection) (scan : Scan) : Program (Scan ⊕ Option String) := do
  let thread ← settled (← call (.getThread 200 scan.cursor))
  let matching := thread.messages.filter (·.blockIds.contains (identityBlockId S.input))
  if matching.any (!authoredByReporter · connection.botId connection.botUserId) then
    throw (.permanent "conflicting_update_notification"
      "an update notification identity block exists on a message from another author" none)
  else if 1 < matching.length ∨ (scan.found ≠ none ∧ matching.length = 1) then
    throw (.permanent "duplicate_update_notification" "duplicate update notifications already exist"
      none)
  else
    let found := (matching.head?.map (·.ts)).or scan.found
    if thread.hasMore ∧ thread.nextCursor = none then
      throw (.failed "Slack thread pagination ended before all identity blocks could be checked")
    else
      match thread.nextCursor with
      | none => pure (.inr found)
      | some cursor =>
          if scan.seenCursors.contains cursor then
            throw (.failed "Slack thread pagination cursor repeated")
          else pure (.inl ⟨some cursor, found, cursor :: scan.seenCursors⟩)

/-- `!botId && !botUserId` -/
def SlackConnection.unidentified (connection : SlackConnection) : Bool :=
  connection.botId.getD "" = "" ∧ connection.botUserId.getD "" = ""

def existingMessage (fuel : ℕ) (connection : SlackConnection) : Program (Option String) := do
  if connection.unidentified then
    throw (.permanent "ambiguous_update_notification"
      "Slack bot identity is unavailable for update notification reconciliation" none)
  else iterate (scanPage S connection) never fuel {}

/-! ### `deliver` -/

/-- The post, and the scan after a post that failed. -/
def postMessage (fuel : ℕ) (connection : SlackConnection) : Program String := do
  let posted : Except String String ← call Call.postMessage
  match posted with
  | .ok messageTs => pure messageTs
  | .error _ =>
      match ← attempt (existingMessage S fuel connection) with
      | .ok (some messageTs) => pure messageTs
      | .ok none =>
          throw (.permanent "ambiguous_update_notification"
            "Slack post acceptance is unknown and the exact identity block was not observed" none)
      | .error (.permanent code message receipt) => throw (.permanent code message receipt)
      | .error (.failed _) =>
          throw (.permanent "ambiguous_update_notification"
            "Slack post acceptance and identity block could not be reconciled" none)

def messageToReport (fuel : ℕ) (connection : SlackConnection) : Program (String × PostStatus) := do
  match ← existingMessage S fuel connection with
  | some messageTs => pure (messageTs, .existing)
  | none =>
      let messageTs ← postMessage S fuel connection
      pure (messageTs, .created)

/-- The session of the thread follows the notification. -/
def settleSession : Program AgentSessionResult := do
  let desired := S.input.desiredSessionStatus
  let session ← settled (← call (.setAgentSessionStatus desired))
  if session.status ≠ desired.agentStatus ∨ session.agentStatus ≠ desired.agentStatus then
    throw (.failed "Slack Agent Session did not reach the requested status")
  else pure session

def deliver (fuel : ℕ) : Program UpdateNotificationResult := do
  match S.registry S.input.workspaceId with
  | none =>
      throw (.permanent "unknown_workspace" s!"Unknown Slack workspace ID: {S.input.workspaceId}" none)
  | some connection =>
      let (messageTs, postStatus) ← messageToReport S fuel connection
      let session ← settleSession S
      let result : UpdateNotificationResult :=
        { notificationId := S.input.notificationId
          workspaceId := connection.teamId
          channelId := S.input.channelId
          threadTs := S.input.threadTs
          messageTs := messageTs
          postStatus := postStatus
          sessionStatus := session.status }
      if postStatus = .created then
        let observed ← existingMessage S fuel connection
        if observed ≠ some messageTs then
          throw (.permanent "identity_block_not_persisted"
            "Slack posted the notification without the exact identity block" (some result))
        else pure result
      else pure result

/-! ### The endpoint -/

/-- The answer to a delivery that threw. -/
def errorResponse (error : DeliveryError) : HttpResponse :=
  if "notification ".toList.isPrefixOf error.message.toList then
    { statusCode := 400
      receipt := match error with
        | .permanent _ _ receipt => receipt
        | .failed _ => none
      errorCode := some "invalid_update_notification"
      errorMessage := some error.message }
  else
    match error with
    | .permanent code message receipt =>
        { statusCode := 409
          receipt := receipt
          errorCode := some code
          errorMessage := some message }
    | .failed _ =>
        { statusCode := 503
          errorCode := some "update_notification_failed"
          errorMessage := some "Slack update notification could not be completed" }

def handleUpdateNotification (fuel : ℕ) : Program HttpResponse := do
  if S.configured = false then
    pure { statusCode := 503, errorCode := some "reporter_unavailable",
           errorMessage := some "Update reporter is not configured" }
  else if (← call .authorized) = false then
    pure { statusCode := 403, errorCode := some "forbidden",
           errorMessage := some "Internal authentication failed" }
  else if (← read (·.stopping)) = true then
    pure { statusCode := 503, errorCode := some "shutting_down",
           errorMessage := some "Slack Adapter is stopping" }
  else
    let delivery : Program UpdateNotificationResult := do
      settled (← call .readJson)
      settled (parseUpdateNotificationRequest S.input)
      deliver S fuel
    match ← attempt delivery with
    | .ok result => pure { statusCode := 200, receipt := some result }
    | .error error => pure (errorResponse error)

/-- The adapter takes a request. -/
def World.accept (w : World) (request : ℕ) : World :=
  { w with requests := w.requests.erase request, handling := request :: w.handling }

/-- The adapter answers a request. -/
def World.respond (w : World) (request : ℕ) (response : HttpResponse) : World :=
  { w with
    handling := w.handling.erase request
    responses := (request, response) :: w.responses }

def handle (request fuel : ℕ) : Program Unit := do
  write (·.accept request)
  let response ← handleUpdateNotification S fuel
  write (·.respond request response)

end Dona.UpdateNotification
