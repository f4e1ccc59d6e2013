import Dona.SlackAdapter.Endpoints

/-!
# The reminder connector of the Slack Adapter

`SlackReminderConnector` of `sources/slack/src/reminder-connector.ts`. A preflight reserves the
slot of its channel, asks Slack whether the owner may still post there, and leaves a ticket for
one second. A delivery of the same command takes the ticket and posts. The calls interleave at
their awaits, and timers clear the maps.
-/

namespace Dona.ReminderConnector

open Coroutine
open SlackAdapter (SlackApiError PostedMessage revokedSlackErrors)

/-! ### Commands and answers -/

inductive TargetKind
  | channel
  | thread (threadTs : String)
  | ownerDm (ownerId : String)
  deriving DecidableEq

structure ReminderTarget where
  workspaceId : String
  channelId : String
  kind : TargetKind
  deriving DecidableEq

structure SlackReminderCommand where
  outboxId : String
  runId : String
  idempotencyKey : String
  ownerId : String
  expiresAt : String
  misfireAt : String
  leaseUntil : String
  target : ReminderTarget
  text : String
  deriving DecidableEq

def ReminderTarget.key (target : ReminderTarget) : String :=
  target.workspaceId ++ ":" ++ target.channelId

inductive SlackReminderResult
  | prepared
  | accepted (receiptId : String)
  | notAccepted (code : String) (retryAfterSeconds : ℤ)
  | unavailable (code : String) (retryAfterSeconds : ℤ)
  | authorizationUnavailable (code : String) (retryAfterSeconds : ℤ)
  | rejected (code : String)
  | revoked (code : String)
  | misfire (code : String)
  | acceptanceUnknown (code : String)

structure SlackChannel where
  isArchived : Bool
  isMember : Bool
  isIm : Bool := false
  isMpim : Bool := false
  userId : Option String := none

structure SlackUser where
  isBot : Bool
  isAppUser : Bool
  isDeleted : Bool

/-- What the connector reads of a `SlackWorkspaceConnection`. -/
structure Connection where
  botUserId : Option String
  hasChannelMember : Bool

/-- The workspaces, which do not change once they are loaded, and `Date.parse`. -/
structure Setting where
  registry : String → Option Connection
  parseDate : String → ℤ

/-! ### The maps -/

inductive Method
  | channel | user | members
  deriving DecidableEq

/-- An authorization under way, with the call that it belongs to and the time of its start. -/
structure Flight where
  run : ℕ
  startedAt : ℤ

/-- A ticket. Two tickets for equal commands differ in the number of their preflight. -/
structure Prepared where
  serialized : SlackReminderCommand
  ticketExpiresAt : ℤ
  authorizationExpiresAt : ℤ
  misfireAt : ℤ
  ticket : ℕ

inductive Cleanup
  | slot (key : String) (next : ℤ)
  | blocked (key : String × Method) (deadline : ℤ)
  | ticket (outboxId key : String) (ticketExpiresAt : ℤ)

structure Timer where
  due : ℤ
  cleanup : Cleanup

/-- What Slack answered to a question. -/
inductive Observation
  | channel (workspaceId channelId : String) (channel : SlackChannel)
  | user (workspaceId userId : String) (user : SlackUser)
  | member (workspaceId channelId userId : String) (isMember : Bool)

structure Preflight where
  command : SlackReminderCommand
  startedAt : ℤ
  finishedAt : ℤ

structure Post where
  command : SlackReminderCommand
  startedAt : ℤ
  ticket : ℕ

/-- The maps of the connector, its pending timers and the clock. The last three fields are what
the proofs keep of the past: the answers of Slack, the preflights that prepared a ticket, and the
posts. -/
structure World where
  now : ℤ
  nextPostAt : String → Option ℤ
  authorizationInFlight : String → Option Flight
  authorizationMethodInFlight : String × Method → Bool
  authorizationBlockedUntil : String × Method → Option ℤ
  channelTicket : String → Option String
  prepared : String → Option Prepared
  timers : List Timer
  observations : List (ℤ × Observation)
  preflights : List Preflight
  posts : List Post

/-! ### Awaits -/

inductive Call
  | getChannel (workspaceId channelId : String)
  | getUser (workspaceId userId : String)
  | hasChannelMember (workspaceId channelId userId : String)
  | postMessage (command : SlackReminderCommand)

/-- An error that a client throws: a `SlackApiError` or another one. -/
inductive SlackFailure
  | api (error : SlackApiError)
  | other

abbrev Call.Answer : Call → Type
  | getChannel _ _ => SlackChannel
  | getUser _ _ => SlackUser
  | hasChannelMember _ _ _ => Bool
  | postMessage _ => PostedMessage

abbrev Call.Reply (c : Call) : Type := Except SlackFailure c.Answer

def World.observe (w : World) (observation : Observation) : World :=
  { w with observations := w.observations ++ [(w.now, observation)] }

inductive Performs : (c : Call) → World → c.Reply → World → Prop
  | getChannel (w : World) (workspaceId channelId : String) (channel : SlackChannel) :
      Performs (.getChannel workspaceId channelId) w (.ok channel)
        (w.observe (.channel workspaceId channelId channel))
  | getUser (w : World) (workspaceId userId : String) (user : SlackUser) :
      Performs (.getUser workspaceId userId) w (.ok user)
        (w.observe (.user workspaceId userId user))
  | hasChannelMember (w : World) (workspaceId channelId userId : String) (isMember : Bool) :
      Performs (.hasChannelMember workspaceId channelId userId) w (.ok isMember)
        (w.observe (.member workspaceId channelId userId isMember))
  | postMessage (w : World) (command : SlackReminderCommand) (posted : PostedMessage) :
      Performs (.postMessage command) w (.ok posted) w
  | failed (w : World) (c : Call) (failure : SlackFailure) : Performs c w (.error failure) w

/-- An early return out of the authorization, or an error with the method that was asked. -/
inductive Interruption
  | returned (result : SlackReminderResult)
  | failed (failure : SlackFailure) (method : Method)

abbrev Program (α : Type) : Type := Coroutine World Call.Reply Interruption α

/-! ### Slots and timers -/

namespace World

variable (w : World)

/-- `Math.ceil(milliseconds / 1_000)` -/
def ceilSeconds (milliseconds : ℤ) : ℤ := (milliseconds + 999) / 1000

/-- `Math.floor(date / 1_000) * 1_000` -/
def floorSecond (date : ℤ) : ℤ := date / 1000 * 1000

/-- A timer that is set for a date, or for now when the date is past. -/
def setTimeout (cleanup : Cleanup) (date : ℤ) : World :=
  { w with timers := w.timers ++ [⟨max w.now date, cleanup⟩] }

/-- Sets the slot of a channel, with the timer that clears it. -/
def setSlot (key : String) (next : ℤ) : World :=
  { w with nextPostAt := Function.update w.nextPostAt key (some next) }.setTimeout
    (.slot key next) next

def setBlocked (key : String × Method) (deadline : ℤ) : World :=
  { w with authorizationBlockedUntil :=
    Function.update w.authorizationBlockedUntil key (some deadline) }.setTimeout
      (.blocked key deadline) deadline

/-- `Math.max(this.nextPostAt.get(key) ?? 0, next)` -/
def raiseSlot (key : String) (next : ℤ) : World :=
  w.setSlot key (max ((w.nextPostAt key).getD 0) next)

def clearSlot (key : String) (slot : Option ℤ) : World :=
  if w.nextPostAt key = slot then
    { w with nextPostAt := Function.update w.nextPostAt key none }
  else w

def clearTicket (outboxId key : String) : World :=
  if w.channelTicket key = some outboxId then
    { w with channelTicket := Function.update w.channelTicket key none }
  else w

/-- What a timer does. -/
def clean : Cleanup → World
  | .slot key next => w.clearSlot key (some next)
  | .blocked key deadline =>
      if w.authorizationBlockedUntil key = some deadline then
        { w with authorizationBlockedUntil :=
          Function.update w.authorizationBlockedUntil key none }
      else w
  | .ticket outboxId key ticketExpiresAt =>
      (if (w.prepared outboxId).map (·.ticketExpiresAt) = some ticketExpiresAt then
        { w with prepared := Function.update w.prepared outboxId none }
      else w).clearTicket outboxId key

/-! ### The authorization -/

/-- `reservePost`, as far as it refuses. -/
def slotDelay (key : String) : ℤ :=
  let slot := (w.nextPostAt key).getD w.now
  if w.now < slot then ceilSeconds (slot - w.now) else 0

def flightRefusal (key : String) : Option SlackReminderResult :=
  if (w.authorizationInFlight key).isSome ∨ (w.channelTicket key).isSome then
    some (.unavailable "authorization_throttled" 1)
  else if 0 < w.slotDelay key then some (.unavailable "channel_throttled" (w.slotDelay key))
  else none

def startFlight (run : ℕ) (key : String) : World :=
  let reserved := w.setSlot key (w.now + 1000)
  { reserved with authorizationInFlight :=
    Function.update reserved.authorizationInFlight key (some ⟨run, w.now⟩) }

def endFlight (key : String) : World :=
  { w with authorizationInFlight := Function.update w.authorizationInFlight key none }

def blockedRefusal (key : String × Method) : Option SlackReminderResult :=
  let blocked := (w.authorizationBlockedUntil key).getD 0
  if w.now < blocked then
    some (.authorizationUnavailable "authorization_rate_limited" (ceilSeconds (blocked - w.now)))
  else none

def busyRefusal (key : String × Method) : Option SlackReminderResult :=
  if w.authorizationMethodInFlight key = true then
    some (.unavailable "authorization_throttled" 1)
  else none

def enterMethod (key : String × Method) : World :=
  { w with authorizationMethodInFlight := Function.update w.authorizationMethodInFlight key true }

def leaveMethod (key : String × Method) : World :=
  { w with authorizationMethodInFlight := Function.update w.authorizationMethodInFlight key false }

/-- A method over its rate is blocked for the time that Slack asks for. -/
def noteFailure (key : String × Method) : SlackFailure → World
  | .api error =>
      if error.errorCode = "rate_limited" then
        w.setBlocked key (max ((w.authorizationBlockedUntil key).getD 0)
          (w.now + (error.retryAfterSeconds.getD 1) * 1000))
      else w
  | .other => w

/-- The end of an authorization that failed; its slot is free again. -/
def failAuthorization (workspaceId key : String) (reservedUntil : Option ℤ) (method : Method)
    (failure : SlackFailure) : World :=
  ((w.clearSlot key reservedUntil).noteFailure (workspaceId, method) failure).endFlight key

/-- A new ticket. Its timer takes it away with the first of its limits. -/
def issueTicket (setting : Setting) (command : SlackReminderCommand) (startedAt : ℤ) : World :=
  let ticketExpiresAt := w.now + 1000
  let authorizationExpiresAt := setting.parseDate command.expiresAt
  let misfireAt := setting.parseDate command.misfireAt
  let issued : World :=
    { w with
      prepared := Function.update w.prepared command.outboxId (some
        { serialized := command
          ticketExpiresAt := ticketExpiresAt
          authorizationExpiresAt := authorizationExpiresAt
          misfireAt := misfireAt
          ticket := w.preflights.length })
      channelTicket := Function.update w.channelTicket command.target.key (some command.outboxId)
      preflights := w.preflights ++ [⟨command, startedAt, w.now⟩] }
  issued.setTimeout (.ticket command.outboxId command.target.key ticketExpiresAt)
    (min ticketExpiresAt (min authorizationExpiresAt (misfireAt + 1000)))

/-- The dates of a command are checked again after the answers of Slack. -/
def dateRefusal (setting : Setting) (command : SlackReminderCommand) :
    Option SlackReminderResult :=
  let current := floorSecond w.now
  if setting.parseDate command.expiresAt ≤ current then some (.revoked "authorization_expired")
  else if setting.parseDate command.misfireAt < current then some (.misfire "misfire")
  else none

/-! ### The post -/

/-- The ticket of a delivery. -/
def ticketFor (command : SlackReminderCommand) : Option Prepared :=
  (w.prepared command.outboxId).filter fun prepared ↦
    prepared.serialized = command ∧ w.now < prepared.ticketExpiresAt ∧
      floorSecond w.now < prepared.authorizationExpiresAt ∧
        floorSecond w.now ≤ prepared.misfireAt

def dropPrepared (outboxId : String) : World :=
  { w with prepared := Function.update w.prepared outboxId none }

def takeTicket (command : SlackReminderCommand) : World :=
  (w.dropPrepared command.outboxId).clearTicket command.outboxId command.target.key

def startPost (command : SlackReminderCommand) (ticket : ℕ) : World :=
  let reserved := w.raiseSlot command.target.key (w.now + 1000)
  { reserved with posts := reserved.posts ++ [⟨command, w.now, ticket⟩] }

end World

/-! ### The questions to Slack -/

/-- Returns early with the result, if there is one. -/
def returnIf (refusal : World → Option SlackReminderResult) : Program Unit := do
  match ← read refusal with
  | some result => throw (.returned result)
  | none => pure ()

/-- Returns early on a condition. -/
def returnWhen (c : Bool) (result : SlackReminderResult) : Program Unit :=
  if c = true then throw (.returned result) else pure ()

/-- One question under the guard of its method. -/
def ask (workspaceId : String) (method : Method) (c : Call) : Program c.Answer := do
  write (·.enterMethod (workspaceId, method))
  let reply ← call c
  write (·.leaveMethod (workspaceId, method))
  match reply with
  | .ok answer => pure answer
  | .error failure => throw (.failed failure method)

/-- A question whose method is neither blocked nor under way. -/
def askUnblocked (workspaceId : String) (method : Method) (c : Call) : Program c.Answer := do
  returnIf (·.blockedRefusal (workspaceId, method))
  returnIf (·.busyRefusal (workspaceId, method))
  ask workspaceId method c

/-- Whether the owner is a member of the channel; nobody asks for a direct message. -/
def ownerMembership (connection : Connection) (command : SlackReminderCommand)
    (channel : SlackChannel) : Program Bool := do
  let workspaceId := command.target.workspaceId
  if channel.isIm = true then pure true
  else if connection.hasChannelMember = true then
    askUnblocked workspaceId .members
      (.hasChannelMember workspaceId command.target.channelId command.ownerId)
  else do
    returnIf (·.blockedRefusal (workspaceId, .members))
    returnIf (·.busyRefusal (workspaceId, .members))
    pure false

/-- The bot has to be a member of a group message. -/
def botMembership (connection : Connection) (command : SlackReminderCommand)
    (channel : SlackChannel) : Program Unit := do
  let workspaceId := command.target.workspaceId
  if channel.isMpim = true then
    match connection.botUserId.filter (· ≠ "") with
    | none => throw (.returned (.revoked "target_not_allowed"))
    | some botUserId => do
        returnWhen (!connection.hasChannelMember) (.revoked "target_not_allowed")
        returnIf (·.busyRefusal (workspaceId, .members))
        let botMember ← ask workspaceId .members
          (.hasChannelMember workspaceId command.target.channelId botUserId)
        returnWhen (!botMember) (.revoked "target_not_allowed")
  else pure ()

def SlackUser.isBarred (owner : SlackUser) : Bool :=
  owner.isDeleted || owner.isBot || owner.isAppUser

/-- The `try` block of a preflight. -/
def authorize (connection : Connection) (command : SlackReminderCommand) :
    Program SlackChannel := do
  let workspaceId := command.target.workspaceId
  let channel ← askUnblocked workspaceId .channel
    (.getChannel workspaceId command.target.channelId)
  let owner ← askUnblocked workspaceId .user (.getUser workspaceId command.ownerId)
  let ownerMember ← ownerMembership connection command channel
  returnWhen (owner.isBarred || !ownerMember) (.revoked "owner_not_authorized")
  botMembership connection command channel
  pure channel

def authorizationFailure : SlackFailure → SlackReminderResult
  | .other => .authorizationUnavailable "authorization_check_failed" 1
  | .api error =>
      if error.errorCode = "rate_limited" then
        .authorizationUnavailable "authorization_rate_limited" (error.retryAfterSeconds.getD 1)
      else if revokedSlackErrors.contains error.errorCode then .revoked error.errorCode
      else .authorizationUnavailable error.errorCode (error.retryAfterSeconds.getD 1)

def TargetKind.isOwnerDm : TargetKind → Bool
  | ownerDm _ => true
  | _ => false

def targetAllowed (command : SlackReminderCommand) (channel : SlackChannel) : Bool :=
  !channel.isArchived &&
    (channel.isIm || channel.isMpim || command.target.kind.isOwnerDm || channel.isMember) &&
    (!channel.isIm || channel.userId = some command.ownerId) &&
    (!command.target.kind.isOwnerDm ||
      (channel.isIm && channel.userId = some command.ownerId))

variable (setting : Setting)

/-- `deliver` with `preflightOnly`, in the call `run`. -/
def preflight (run : ℕ) (command : SlackReminderCommand) (connection : Connection) :
    Program SlackReminderResult := do
  let key := command.target.key
  match ← read (·.flightRefusal key) with
  | some refusal => pure refusal
  | none => do
      let startedAt ← read World.now
      write (·.startFlight run key)
      let reservedUntil ← read (·.nextPostAt key)
      match ← attempt (authorize connection command) with
      | .error (.returned result) => do
          write (·.endFlight key)
          pure result
      | .error (.failed failure method) => do
          write (·.failAuthorization command.target.workspaceId key reservedUntil method failure)
          pure (authorizationFailure failure)
      | .ok channel => do
          write (·.endFlight key)
          if targetAllowed command channel = true then
            match ← read (·.dateRefusal setting command) with
            | some refusal => pure refusal
            | none => do
                write (·.issueTicket setting command startedAt)
                pure .prepared
          else pure (.revoked "target_not_allowed")

/-! ### The post to Slack -/

def TargetKind.threadTs : TargetKind → Option String
  | thread threadTs => some threadTs
  | _ => none

def postOutcome (command : SlackReminderCommand) :
    Except SlackFailure PostedMessage → SlackReminderResult
  | .ok posted =>
      if posted.channelId ≠ command.target.channelId ∨
          (command.target.kind.threadTs ≠ none ∧
            posted.threadTs ≠ command.target.kind.threadTs) then
        .acceptanceUnknown "receipt_mismatch"
      else .accepted posted.messageTs
  | .error .other => .acceptanceUnknown "unexpected_error"
  | .error (.api error) =>
      if revokedSlackErrors.contains error.errorCode then .revoked error.errorCode
      else if error.errorCode = "rate_limited" then
        .notAccepted "rate_limited" (error.retryAfterSeconds.getD 1)
      else if error.errorCode = "slack_server_error_before_send" then
        .notAccepted error.errorCode 1
      else if ["slack_transport_error", "slack_http_error", "slack_api_error",
          "invalid_slack_response"].contains error.errorCode then
        .acceptanceUnknown error.errorCode
      else .rejected error.errorCode

/-- A post over the rate of its channel puts the slot off. -/
def World.notePost (w : World) (command : SlackReminderCommand) :
    Except SlackFailure PostedMessage → World
  | .error (.api error) =>
      if error.errorCode = "rate_limited" then
        w.raiseSlot command.target.key (w.now + (error.retryAfterSeconds.getD 1) * 1000)
      else w
  | _ => w

/-- `deliver` without `preflightOnly`. The lookup of the workspace changes nothing, so it is made
before the ticket is taken. -/
def post (command : SlackReminderCommand) : Program SlackReminderResult := do
  match ← read (·.ticketFor command) with
  | none => do
      write (·.dropPrepared command.outboxId)
      pure (.notAccepted "preflight_required" 0)
  | some prepared =>
      match setting.registry command.target.workspaceId with
      | none => do
          write (·.takeTicket command)
          pure (.revoked "workspace_not_allowed")
      | some _ => do
          write fun w ↦ (w.takeTicket command).startPost command prepared.ticket
          let reply ←
            (call (Call.postMessage command) : Program (Except SlackFailure PostedMessage))
          write (·.notePost command reply)
          pure (postOutcome command reply)

/-- `SlackReminderConnector.deliver`; a body that is not a command is `none`. -/
def deliver (run : ℕ) (body : Option SlackReminderCommand) (preflightOnly : Bool) :
    Program SlackReminderResult :=
  match body with
  | none => pure (.rejected "invalid_command")
  | some command =>
      if preflightOnly = true then
        match setting.registry command.target.workspaceId with
        | none => pure (.revoked "workspace_not_allowed")
        | some connection => preflight setting run command connection
      else post setting command

/-! ### The surroundings -/

/-- The clock goes on, and a timer that is due runs. When timers are timely, the clock does not
pass a pending one. -/
inductive Happens (timely : Prop) : World → World → Prop
  | tick {w : World} {time : ℤ} : w.now ≤ time →
      (timely → ∀ timer ∈ w.timers, time ≤ timer.due) → Happens timely w { w with now := time }
  | fire {w : World} {timer : Timer} {before after : List Timer} :
      w.timers = before ++ timer :: after → timer.due ≤ w.now →
        Happens timely w ({ w with timers := before ++ after }.clean timer.cleanup)

def World.start (time : ℤ) : World where
  now := time
  nextPostAt _ := none
  authorizationInFlight _ := none
  authorizationMethodInFlight _ := false
  authorizationBlockedUntil _ := none
  channelTicket _ := none
  prepared _ := none
  timers := []
  observations := []
  preflights := []
  posts := []

inductive Starts : ℕ → World → Coroutine World Call.Reply Interruption Unit → Prop
  | deliver {run : ℕ} {w : World} (body : Option SlackReminderCommand) (preflightOnly : Bool) :
      Starts run w (deliver setting run body preflightOnly >>= fun _ ↦ pure ())

def surroundings (timely : Prop) : Pool.Surroundings World Call.Reply Interruption ℕ where
  initial w := ∃ time, w = .start time
  perform := Performs
  programs := Starts setting
  kill _ _ _ := False
  environment := Happens timely

/-- All interleavings of the calls of a connector. -/
def connector (timely : Prop) :
    TransitionSystem (Pool World Call.Reply Interruption ℕ) (Pool.Event ℕ) :=
  Pool.system (surroundings setting timely)

end Dona.ReminderConnector
