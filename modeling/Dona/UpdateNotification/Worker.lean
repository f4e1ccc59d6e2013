import Dona.UpdateNotification.Reporter

/-!
# The notification worker of the Dispatcher

`UpdateNotificationDatabase`, `SlackAdapterNotificationClient` and `UpdateNotificationWorker` of
`dispatcher/src/update-notification.ts`, for one notification. A stopped worker has run some
number of rounds; a crash ends it anywhere.
-/

namespace Dona.UpdateNotification

open Coroutine

variable (S : Setting)

/-! ### `UpdateNotificationDatabase` -/

/-- `UPDATE update_notifications SET … WHERE event_id = ? AND …` -/
def World.updateRow (w : World) (p : NotificationRow → Bool) (f : NotificationRow → NotificationRow) :
    World :=
  { w with row := w.row.map fun row ↦ if p row then f row else row }

def World.ensure (w : World) : World :=
  match w.row with
  | some _ => w
  | none => { w with row := some { availableAt := w.now, createdAt := w.now, updatedAt := w.now } }

def World.recoverDelivering (w : World) : World :=
  w.updateRow (·.status = .delivering) fun row ↦
    { row with
      status := .pending
      availableAt := w.now
      lastErrorCode := some "recovered_ambiguous_delivery"
      lastErrorMessage := some "Delivery will be reconciled by Slack metadata before posting"
      updatedAt := w.now }

def World.nextAvailable (w : World) : Option NotificationRow :=
  w.row.filter fun row ↦
    (row.status = .pending ∨ row.status = .posted) ∧ row.availableAt ≤ w.now

/-- What is left of the earlier attempts. -/
def World.left (w : World) : Attempt where
  requests := w.requests
  handling := w.handling
  posts := w.posts

def begunRow (now : Int) (row : NotificationRow) : NotificationRow :=
  { row with
    status := .delivering
    attemptCount := row.attemptCount + 1
    postStartedAt := some (row.postStartedAt.getD now)
    lastErrorCode := none
    lastErrorMessage := none
    updatedAt := now }

def World.beginDelivery (w : World) : Except DeliveryError (NotificationRow × World) :=
  match w.row with
  | some row =>
      if row.status = .pending then
        .ok (begunRow w.now row,
          { w with row := some (begunRow w.now row), attempts := w.attempts ++ [w.left] })
      else .error (.failed "notification is no longer pending")
  | none => .error (.failed "notification is no longer pending")

def retryDelaysMs : List Int := [5000, 30000, 120000, 600000]

def retryAt (attempt : ℕ) (now : Int) : Int := now + retryDelaysMs.getD (min (attempt - 1) 3) 0

def World.markPending (w : World) (code message : String) : World :=
  w.updateRow (fun _ ↦ true) fun row ↦
    { row with
      status := .pending
      availableAt := retryAt row.attemptCount w.now
      lastErrorCode := some code
      lastErrorMessage := some message
      updatedAt := w.now }

def World.markReported (w : World) (messageTs : String) : World :=
  w.updateRow (fun _ ↦ true) fun row ↦
    { row with
      status := .reported
      messageTs := some messageTs
      completedAt := some w.now
      lastErrorCode := none
      lastErrorMessage := none
      updatedAt := w.now }

/-- `markPosted` and `markPermanentPosted`: only a row under delivery is marked. -/
def World.mark (w : World) (f : NotificationRow → NotificationRow) :
    Except DeliveryError (NotificationRow × World) :=
  match w.row with
  | some row =>
      if row.status = .delivering then .ok (f row, { w with row := some (f row) })
      else .error (.failed "notification is no longer delivering")
  | none => .error (.failed "notification is no longer delivering")

def World.markPosted (w : World) (receipt : UpdateNotificationResult) :
    Except DeliveryError (NotificationRow × World) :=
  w.mark fun row ↦
    { row with
      status := .posted
      messageTs := some receipt.messageTs
      postStatus := some receipt.postStatus
      completedAt := some (row.completedAt.getD w.now)
      lastErrorCode := none
      lastErrorMessage := none
      updatedAt := w.now }

def World.markPermanentPosted (w : World) (code message : String)
    (receipt : Option UpdateNotificationResult) : Except DeliveryError (NotificationRow × World) :=
  w.mark fun row ↦
    { row with
      status := .posted
      messageTs := (receipt.map (·.messageTs)).or row.messageTs
      postStatus := (receipt.map (·.postStatus)).or row.postStatus
      completedAt := some (row.completedAt.getD w.now)
      lastErrorCode := some code
      lastErrorMessage := some message
      updatedAt := w.now }

def World.markNeedsReview (w : World) (code message : String) : World :=
  w.updateRow (fun _ ↦ true) fun row ↦
    { row with
      status := .needsReview
      lastErrorCode := some code
      lastErrorMessage := some message
      completedAt := some (row.completedAt.getD w.now)
      updatedAt := w.now }

/-! ### The event -/

def NotificationEvent.pending (event : NotificationEvent) : Bool :=
  event.status = .queued ∨ event.status = .retryableFailed

/-- `saveDeterministicCompleted` and `saveDeterministicFailure`: an event in `done` is left alone,
and only a pending event is completed. -/
def World.saveDeterministic (w : World) (done : List EventStatus) (status : EventStatus)
    (code message : Option String) : Except DeliveryError (Unit × World) :=
  match w.event with
  | none => .error (.failed "Event was not found")
  | some event =>
      if done.contains event.status then .ok ((), w)
      else if event.pending then
        .ok ((), { w with event := some ⟨status, true, code, message⟩ })
      else .error (.failed "Invalid status transition for event")

def World.saveDeterministicCompleted (w : World) : Except DeliveryError (Unit × World) :=
  w.saveDeterministic [.completed] .completed none none

def World.saveDeterministicFailure (w : World) (code summary : String) :
    Except DeliveryError (Unit × World) :=
  w.saveDeterministic [.needsReview, .completed] .needsReview (some code) (some summary)

def World.quarantineUpdateNotification (w : World) (code message : String) :
    Except DeliveryError (Unit × World) :=
  match w.event with
  | none => .error (.failed "Event was not found")
  | some event =>
      if event.pending then
        .ok ((), { w with event := some { event with
          status := .deadLetter
          lastErrorCode := some code
          lastErrorMessage := some message } })
      else .error (.failed "Event is not a pending update notification")

/-! ### `SlackAdapterNotificationClient.deliver` -/

inductive Outcome
  | reported (receipt : UpdateNotificationResult)
  | retryable (code message : String)
  | permanent (code message : String) (receipt : Option UpdateNotificationResult)

/-- A receipt that is bound to the request. -/
def boundReceipt (receipt : Option UpdateNotificationResult) : Option UpdateNotificationResult :=
  receipt.filter fun receipt ↦
    (receipt.sessionStatus = .active ∨ receipt.sessionStatus = .suspended) ∧
      receipt.notificationId = S.input.notificationId ∧
      receipt.workspaceId = S.input.workspaceId ∧
      receipt.channelId = S.input.channelId ∧ receipt.threadTs = S.input.threadTs

def classify (response : HttpResponse) : Outcome :=
  if response.statusCode = 200 then
    match boundReceipt S response.receipt with
    | some receipt => .reported receipt
    | none => .retryable "invalid_slack_adapter_response" "Slack Adapter response was invalid"
  else
    let code := response.errorCode.getD s!"slack_adapter_http_{response.statusCode}"
    let message := response.errorMessage.getD "Slack Adapter rejected the notification"
    if [400, 401, 403, 409].contains response.statusCode then
      .permanent code message
        (if response.statusCode = 409 then boundReceipt S response.receipt else none)
    else .retryable code message

def udsRequest : Program HttpResponse := do
  let request ← settled (← call .sendRequest)
  settled (← call (.response request))

def requestDelivery : Program Outcome := do
  if (← call .readPrivateToken) = false then
    pure (.permanent "missing_internal_token" "Internal token could not be read" none)
  else
    match ← attempt udsRequest with
    | .ok response => pure (classify S response)
    | .error error => pure (.retryable "slack_adapter_unavailable" error.message)

/-! ### `UpdateNotificationWorker` -/

def finalizeReported (row : NotificationRow) (messageTs : String) : Program Unit := do
  if row.completedAt = none then
    throw (.failed "Posted notification has no deterministic completion time")
  else
    settled (← call .publishResult)
    transact (·.saveDeterministicCompleted)
    write (·.markReported messageTs)

def finalizePermanent (row : NotificationRow) : Program Unit := do
  match row.completedAt, row.lastErrorCode with
  | some _, some code =>
      settled (← call .publishResult)
      transact (·.saveDeterministicFailure code s!"Slack最終報告を完了できませんでした: {code}")
      write (·.markNeedsReview code
        (row.lastErrorMessage.getD "Slack Adapter permanently rejected the notification"))
  | _, _ => throw (.failed "Permanent notification failure is incomplete")

/-- A row whose post was recorded. -/
def deliverPosted (candidate : NotificationRow) : Program Unit := do
  if candidate.lastErrorCode ≠ none then finalizePermanent candidate
  else
    match candidate.messageTs, candidate.postStatus, candidate.completedAt with
    | some messageTs, some _, some _ => finalizeReported candidate messageTs
    | _, _, _ =>
        write (·.markNeedsReview "invalid_posted_receipt" "Persisted Slack receipt is incomplete")

/-- A row that was not posted. -/
def deliverPending : Program Unit := do
  let _ ← transact (·.beginDelivery)
  match ← requestDelivery S with
  | .retryable code message => write (·.markPending code message)
  | .permanent code message receipt => do
      let permanent ← transact (·.markPermanentPosted code message receipt)
      finalizePermanent permanent
  | .reported receipt => do
      let posted ← transact (·.markPosted receipt)
      finalizeReported posted receipt.messageTs

def deliverCandidate (candidate : NotificationRow) : Program Unit := do
  match ← read (·.event) with
  | none => write (·.markNeedsReview "missing_update_event" "Dispatcher event no longer exists")
  | some event =>
      if event.hasResult = true ∧ event.status = .completed then
        write (·.markReported (candidate.messageTs.getD "unknown"))
      else if event.hasResult = true ∧ event.status = .needsReview then
        write (·.markNeedsReview (event.lastErrorCode.getD "update_notification_failed")
          (event.lastErrorMessage.getD "Update notification requires review"))
      else if candidate.status = .posted then deliverPosted candidate
      else deliverPending S

/-- Takes the pending event over, if there is one. -/
def ensureNotification : Program Unit := do
  match ← read (·.event) with
  | none => pure ()
  | some event =>
      if event.pending then
        match renderUpdateNotification S.envelope with
        | .error message =>
            transact (·.quarantineUpdateNotification "invalid_update_notification" message)
        | .ok _ => write (·.ensure)
      else pure ()

/-- One round of `loop`. -/
def round : Program Unit := do
  let delivery : Program Unit := do
    ensureNotification S
    match ← read (·.nextAvailable) with
    | none => pure ()
    | some row => deliverCandidate S row
  match ← attempt delivery with
  | .ok () => pure ()
  | .error _ => write (·.recoverDelivering)
  call Call.wait

/-- `start`, and a number of rounds. -/
def worker (rounds : ℕ) : Program Unit := do
  write (·.recoverDelivering)
  iterate (fun () ↦ do
    round S
    pure (.inl ())) (pure ()) rounds ()

end Dona.UpdateNotification
