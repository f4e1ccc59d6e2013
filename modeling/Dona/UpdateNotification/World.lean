import Dona.Library.Coroutine
import Dona.Schema
import Dona.UpdateNotification.Request

/-!
# One update notification, its Dispatcher, its Slack Adapter and its thread

What `UpdateNotificationWorker` and the Slack Adapter share while they deliver one notification:
the notification row and its event, the requests between the two processes, the posts under way,
and the thread that the reply target names. A page of the thread is read at one moment, a post
lands at one moment, and the sender of a post may see an error although the post lands.
-/

namespace Dona.UpdateNotification

/-! ### The Slack side -/

structure SlackConnection where
  teamId : String
  botId : Option String
  botUserId : Option String

structure SlackThreadMessage where
  ts : String
  userId : Option String
  botId : Option String
  blockIds : List String

/-- A page of a thread; a cursor is the position of the next page. -/
structure SlackThread where
  messages : List SlackThreadMessage
  hasMore : Bool
  nextCursor : Option ℕ

inductive AgentSessionStatus
  | active | processing | suspended | closed
  deriving DecidableEq

def SessionStatus.agentStatus : SessionStatus → AgentSessionStatus
  | active => .active
  | suspended => .suspended

structure AgentSessionResult where
  status : AgentSessionStatus
  agentStatus : AgentSessionStatus

inductive PostStatus
  | created | existing
  deriving DecidableEq

structure UpdateNotificationResult where
  notificationId : String
  workspaceId : String
  channelId : String
  threadTs : String
  messageTs : String
  postStatus : PostStatus
  sessionStatus : AgentSessionStatus

structure HttpResponse where
  statusCode : ℕ
  receipt : Option UpdateNotificationResult := none
  errorCode : Option String := none
  errorMessage : Option String := none

/-! ### The Dispatcher side -/

inductive NotificationStatus
  | pending | delivering | posted | reported | needsReview
  deriving DecidableEq

/-- A row of `update_notifications`. The columns that `ensure` fills from the event are those
of the request and never change. -/
structure NotificationRow where
  status : NotificationStatus := .pending
  attemptCount : ℕ := 0
  availableAt : Int
  postStartedAt : Option Int := none
  messageTs : Option String := none
  postStatus : Option PostStatus := none
  lastErrorCode : Option String := none
  lastErrorMessage : Option String := none
  createdAt : Int
  updatedAt : Int
  completedAt : Option Int := none

/-- The columns of the event that the notification worker reads and writes. -/
structure NotificationEvent where
  status : EventStatus
  hasResult : Bool
  lastErrorCode : Option String
  lastErrorMessage : Option String

/-- One delivery attempt of the worker: what was left of the earlier ones when it began. -/
structure Attempt where
  requests : List ℕ
  handling : List ℕ
  posts : ℕ

/-- Nothing of an earlier attempt is left. -/
def Attempt.Quiet (attempt : Attempt) : Prop :=
  attempt.requests = [] ∧ attempt.handling = [] ∧ attempt.posts = 0

instance (attempt : Attempt) : Decidable attempt.Quiet := by
  unfold Attempt.Quiet
  infer_instance

structure World where
  now : Int
  stopping : Bool
  event : Option NotificationEvent
  row : Option NotificationRow
  /-- Requests on their way to the adapter, and requests which it handles. -/
  requests : List ℕ
  handling : List ℕ
  responses : List (ℕ × HttpResponse)
  nextRequest : ℕ
  /-- Posts on their way to Slack, whose sender already saw an error. -/
  posts : ℕ
  thread : List SlackThreadMessage
  attempts : List Attempt

/-- The event, its rendering, and the configuration of the adapter. -/
structure Setting where
  envelope : EventEnvelope
  rendered : RenderedNotification
  rendered_eq : renderUpdateNotification envelope = .ok rendered
  registry : String → Option SlackConnection
  configured : Bool

/-- The request of every delivery attempt. -/
def Setting.input (S : Setting) : UpdateNotificationRequest := notificationRequest S.envelope S.rendered

def identityBlockId (input : UpdateNotificationRequest) : String :=
  "dona_update_notification:" ++ input.notificationId

def authoredByReporter (message : SlackThreadMessage) (botId botUserId : Option String) : Bool :=
  (botId ≠ none ∧ message.botId = botId) ∨ (botUserId ≠ none ∧ message.userId = botUserId)

/-- The connection to the workspace of the notification. -/
def Setting.connection (S : Setting) : Option SlackConnection := S.registry S.input.workspaceId

/-- The message that a post of the notification leaves in the thread. -/
def noticeMessage (S : Setting) (ts : String) : SlackThreadMessage where
  ts := ts
  userId := S.connection.bind (·.botUserId)
  botId := S.connection.bind (·.botId)
  blockIds := [identityBlockId S.input]

/-- A message of the reporter which carries the identity block. -/
def isNotice (S : Setting) (message : SlackThreadMessage) : Bool :=
  message.blockIds.contains (identityBlockId S.input) &&
    S.connection.any fun connection ↦
      authoredByReporter message connection.botId connection.botUserId

/-- How often the notification stands in its thread. -/
def World.notices (S : Setting) (w : World) : ℕ := w.thread.countP (isNotice S)

/-! ### Awaits -/

inductive Call
  | authorized
  | readJson
  | getThread (limit : ℕ) (cursor : Option ℕ)
  | postMessage
  | setAgentSessionStatus (status : SessionStatus)
  | readPrivateToken
  | sendRequest
  | response (request : ℕ)
  | publishResult
  | wait
  | never

/-- What an await returns; a rejected promise is an error. -/
abbrev Call.Reply : Call → Type
  | authorized => Bool
  | readJson => Except String Unit
  | getThread _ _ => Except String SlackThread
  | postMessage => Except String String
  | setAgentSessionStatus _ => Except String AgentSessionResult
  | readPrivateToken => Bool
  | sendRequest => Except String ℕ
  | response _ => Except String HttpResponse
  | publishResult => Except String Unit
  | wait => Unit
  | never => Empty

/-- The page of at most `limit` messages that starts at `cursor` and has `size` messages. -/
def page (thread : List SlackThreadMessage) (cursor : Option ℕ) (size : ℕ) (hasMore : Bool) :
    SlackThread where
  messages := (thread.drop (cursor.getD 0)).take size
  hasMore := hasMore
  nextCursor := if cursor.getD 0 + size < thread.length then some (cursor.getD 0 + size) else none

/-- What an await may do and return. -/
inductive Performs (S : Setting) : (c : Call) → World → c.Reply → World → Prop
  | authorized (w : World) (valid : Bool) : Performs S .authorized w valid w
  | readJson (w : World) (reply : Except String Unit) : Performs S .readJson w reply w
  | getThread (w : World) {limit size : ℕ} (cursor : Option ℕ) (hasMore : Bool) (hsize : size ≤ limit) :
      Performs S (.getThread limit cursor) w (.ok (page w.thread cursor size hasMore)) w
  | getThreadFails (w : World) (limit : ℕ) (cursor : Option ℕ) (error : String) :
      Performs S (.getThread limit cursor) w (.error error) w
  | postLands (w : World) (ts : String) :
      Performs S .postMessage w (.ok ts) { w with thread := w.thread ++ [noticeMessage S ts] }
  | postLandsUnseen (w : World) (ts error : String) :
      Performs S .postMessage w (.error error)
        { w with thread := w.thread ++ [noticeMessage S ts] }
  | postOutstanding (w : World) (error : String) :
      Performs S .postMessage w (.error error) { w with posts := w.posts + 1 }
  | postFails (w : World) (error : String) : Performs S .postMessage w (.error error) w
  | setAgentSessionStatus (w : World) (status : SessionStatus)
      (reply : Except String AgentSessionResult) :
      Performs S (.setAgentSessionStatus status) w reply w
  | readPrivateToken (w : World) (readable : Bool) : Performs S .readPrivateToken w readable w
  | sendRequest (w : World) :
      Performs S .sendRequest w (.ok w.nextRequest)
        { w with requests := w.requests ++ [w.nextRequest], nextRequest := w.nextRequest + 1 }
  | sendRequestFails (w : World) (error : String) : Performs S .sendRequest w (.error error) w
  | response (w : World) (request : ℕ) (response : HttpResponse)
      (hresponse : (request, response) ∈ w.responses) :
      Performs S (.response request) w (.ok response) w
  | responseFails (w : World) (request : ℕ) (error : String) :
      Performs S (.response request) w (.error error) w
  | publishResult (w : World) (reply : Except String Unit) : Performs S .publishResult w reply w
  | wait (w : World) : Performs S .wait w () w

/-- What else happens: the clock moves, operators and the adapter's shutdown act, others write
to the thread, and what is on its way between the processes arrives or is lost. -/
inductive Happens (S : Setting) : World → World → Prop
  | clock (w : World) (now : Int) : Happens S w { w with now := now }
  | stopping (w : World) (stopping : Bool) : Happens S w { w with stopping := stopping }
  | event (w : World) (event : Option NotificationEvent) : Happens S w { w with event := event }
  | message (w : World) (message : SlackThreadMessage) (hmessage : isNotice S message = false) :
      Happens S w { w with thread := w.thread ++ [message] }
  | land (w : World) (ts : String) (n : ℕ) (hn : w.posts = n + 1) :
      Happens S w { w with posts := n, thread := w.thread ++ [noticeMessage S ts] }
  | lose (w : World) (n : ℕ) (hn : w.posts = n + 1) : Happens S w { w with posts := n }
  | drop (w : World) (request : ℕ) : Happens S w { w with requests := w.requests.erase request }

/-- The promise of the adapter or of the worker that may be under way. -/
inductive Process
  | worker
  | handler (request : ℕ)
  deriving DecidableEq

end Dona.UpdateNotification
