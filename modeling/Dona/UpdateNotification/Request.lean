import Dona.Library.Fallible
import Dona.Timestamp
import Dona.Updater.StateMachine
import Mathlib.Data.List.Basic

/-!
# The messages of a terminal update notification

The event which reports a completed update, with the checks of `dispatcher/src/validation.ts`,
its rendering in `dispatcher/src/update-notification.ts`, and the request to the Slack Adapter
with the checks of `sources/slack/src/update-notification.ts`. A field whose type already
excludes a value is not checked again, and a length counts UTF-16 code units.
-/

namespace Dona.UpdateNotification

open Fallible

/-! ### Texts -/

/-- `value.length` -/
def utf16Length (value : String) : ℕ :=
  (value.toList.map fun c ↦ if c.toNat < 0x10000 then 1 else 2).sum

/-- `[0-9a-f]` -/
def isHexDigit (c : Char) : Bool := c.isDigit || ('a' ≤ c && c ≤ 'f')

/-- `[0-9a-hjkmnp-tv-z]` -/
def isBase32Digit (c : Char) : Bool :=
  c.isDigit || ('a' ≤ c && c ≤ 'z' && c != 'i' && c != 'l' && c != 'o' && c != 'u')

/-- `/^[…]{n}$/` -/
def isRun (p : Char → Bool) (n : ℕ) (value : List Char) : Bool := value.length = n && value.all p

/-- `/^upd_[0-9a-hjkmnp-tv-z]{26}$/` -/
def isRequestId (value : String) : Bool :=
  value.toList.take 4 = ['u', 'p', 'd', '_'] && isRun isBase32Digit 26 (value.toList.drop 4)

/-- `/^[0-9a-f]{40}$/` -/
def isSha (value : String) : Bool := isRun isHexDigit 40 value.toList

/-- `/^[0-9a-f]{64}$/` -/
def isHash (value : String) : Bool := isRun isHexDigit 64 value.toList

/-- `/^\d+\.\d+$/` -/
def isThreadTs (value : String) : Bool :=
  let seconds := value.toList.takeWhile Char.isDigit
  let rest := value.toList.dropWhile Char.isDigit
  seconds ≠ [] && rest.head? = some '.' && rest.tail ≠ [] && rest.tail.all Char.isDigit

/-- `/^\d{10,}\.?\d*$/` -/
def isTimestamp (value : String) : Bool :=
  let seconds := value.toList.takeWhile Char.isDigit
  let rest := value.toList.dropWhile Char.isDigit
  10 ≤ seconds.length && (rest = [] || (rest.head? = some '.' && rest.tail.all Char.isDigit))

/-- `/^[A-Z][A-Z0-9]{1,31}$/` -/
def isSlackId (value : String) : Bool :=
  value.toList.head?.any Char.isUpper && 2 ≤ value.toList.length && value.toList.length ≤ 32 &&
    value.toList.tail.all fun c ↦ c.isUpper || c.isDigit

/-- `update:<request>:terminal:<fence>` -/
def terminalId (requestId : String) (terminalFence : ℕ) : String :=
  "update:" ++ requestId ++ ":terminal:" ++ toString terminalFence

/-- `/^update:upd_[0-9a-hjkmnp-tv-z]{26}:terminal:\d+$/` -/
def isTerminalId (value : String) : Bool :=
  let text := value.toList
  text.take 7 = "update:".toList && isRequestId (String.ofList ((text.drop 7).take 30)) &&
    (text.drop 37).take 10 = ":terminal:".toList && text.drop 47 ≠ [] &&
    (text.drop 47).all Char.isDigit

def maxSafeInteger : ℕ := 2 ^ 53 - 1

/-- `Number(/:terminal:(\d+)$/.exec(value)?.[1])`, when that is a safe integer. -/
def terminalFence (value : String) : Option ℕ :=
  let digits := value.toList.drop 47
  let fence := Nat.ofDigitChars 10 digits 0
  if digits ≠ [] ∧ digits.all Char.isDigit ∧ fence ≤ maxSafeInteger then some fence else none

/-! ### The event -/

structure EventError where
  code : String
  message : Option String
  deriving DecidableEq

structure ReplyTarget where
  workspaceId : String
  channelId : String
  threadTs : String
  deriving DecidableEq

structure EventEnvelope where
  externalEventId : String
  type : String
  occurredAt : Timestamp
  subjectRequestId : String
  requestId : String
  updateStatus : Updater.UpdateState
  currentSha : String
  targetSha : String
  previousSha : Option String
  planHash : String
  policyVersion : String
  rollbackCompatible : Bool
  activeSha : Option String
  error : Option EventError
  replyTarget : ReplyTarget

/-- `updateEventEnvelopeSchema`; an error names the path it is about. -/
def parseInternalUpdateEventEnvelope (value : EventEnvelope) : Except String Unit := do
  throwIf (isTerminalId value.externalEventId = false) "external_event_id"
  throwIf (value.type ∉ ["update_succeeded", "update_failed", "update_rolled_back",
    "update_needs_review", "update_cancelled"]) "type"
  throwIf (isRequestId value.subjectRequestId = false) "subject.request_id"
  throwIf (isRequestId value.requestId = false) "payload.request_id"
  throwIf (value.updateStatus.isTerminal = false) "payload.update_status"
  throwIf (isSha value.currentSha = false) "payload.current_sha"
  throwIf (isSha value.targetSha = false) "payload.target_sha"
  throwIf (value.previousSha.any (isSha · = false)) "payload.previous_sha"
  throwIf (isHash value.planHash = false) "payload.plan_hash"
  throwIf (¬(1 ≤ utf16Length value.policyVersion ∧ utf16Length value.policyVersion ≤ 64))
    "payload.policy_version"
  throwIf (value.activeSha.any (isSha · = false)) "payload.active_sha"
  throwIf (value.error.any (128 < utf16Length ·.code)) "payload.error.code"
  throwIf (value.error.any (·.message.any (2000 < utf16Length ·))) "payload.error.message"
  throwIf (¬(1 ≤ utf16Length value.replyTarget.workspaceId ∧
    utf16Length value.replyTarget.workspaceId ≤ 64)) "reply_target.workspace_id"
  throwIf (¬(1 ≤ utf16Length value.replyTarget.channelId ∧
    utf16Length value.replyTarget.channelId ≤ 64)) "reply_target.channel_id"
  throwIf (isThreadTs value.replyTarget.threadTs = false) "reply_target.thread_ts"
  throwIf (value.subjectRequestId ≠ value.requestId) "request_id mismatch"
  throwIf (("update:" ++ value.requestId ++ ":terminal:").toList.isPrefixOf
    value.externalEventId.toList = false) "external_event_id mismatch"
  throwIf (value.type ≠ "update_" ++ value.updateStatus.text) "type/status mismatch"
  let fence ← orThrow (terminalFence value.externalEventId) "terminal fence is invalid"
  throwIf (fence = 0 ∧ (value.updateStatus ≠ .cancelled ∨ value.activeSha ≠ none ∨
      value.error.map (·.code) ≠ some "cancelled_by_operator"))
    "terminal fence 0 is reserved for an unclaimed operator cancellation"

/-! ### Rendering -/

inductive SessionStatus
  | active | suspended
  deriving DecidableEq

structure RenderedNotification where
  requestId : String
  terminalFence : ℕ
  text : String
  desiredSessionStatus : SessionStatus

/-- `` `理由コードは …` `` -/
def reasonText (error : Option EventError) : String :=
  match error with
  | some error => "理由コードは \x60" ++ error.code ++ "\x60 です。"
  | none => ""

/-- A SHA between backticks. -/
def quoted (sha : String) : String := "\x60" ++ sha ++ "\x60"

def renderUpdateNotification (envelope : EventEnvelope) : Except String RenderedNotification := do
  parseInternalUpdateEventEnvelope envelope
  let fence ← orThrow (terminalFence envelope.externalEventId) "terminal fence is invalid"
  match envelope.updateStatus, envelope.activeSha with
  | .succeeded, active => do
      let active ← orThrow active "succeeded update must report a confirmed active SHA"
      throwIf (fence = 1 ∧ active ≠ envelope.targetSha)
        "succeeded update must report a confirmed active SHA"
      let text :=
        if 1 < fence ∧ active ≠ envelope.targetSha then
          "確認の結果、対象のセルフアップデートは " ++ quoted envelope.targetSha ++
            " への切替を完了していました。現在の稼働SHAは " ++ quoted active ++ " です。"
        else if 1 < fence then
          "確認の結果、セルフアップデートは完了していました。稼働SHAは " ++ quoted active ++
            " です。Dispatcher、Slack Adapter、メインエージェントが対象releaseで稼働していることを確認しました。"
        else
          "セルフアップデートが完了しました。稼働SHAは " ++ quoted active ++
            " です。Dispatcher、Slack Adapter、メインエージェントが対象releaseで稼働していることを確認しました。"
      .ok ⟨envelope.requestId, fence, text, .active⟩
  | .rolledBack, active => do
      let active ← orThrow active "rolled_back update must report a confirmed active SHA"
      throwIf (fence = 1 ∧ active ≠ envelope.currentSha)
        "rolled_back update must report a confirmed active SHA"
      let text :=
        if 1 < fence ∧ active ≠ envelope.currentSha then
          "確認の結果、対象のセルフアップデートは " ++ quoted envelope.currentSha ++
            " へロールバックしていました。現在の稼働SHAは " ++ quoted active ++ " です。"
        else
          "セルフアップデートは完了せず、以前のreleaseへロールバックしました。稼働SHAは " ++
            quoted active ++ " です。"
      .ok ⟨envelope.requestId, fence, text, .active⟩
  | .cancelled, active =>
      let text :=
        match active with
        | some active =>
            "セルフアップデートを中止しました。確認できた稼働SHAは " ++ quoted active ++ " です。"
        | none => "セルフアップデートを中止しました。稼働SHAの確認を伴わない、切替前の中止です。"
      .ok ⟨envelope.requestId, fence, text, .active⟩
  | .failed, active => do
      let active ← orThrow active "failed update must report a confirmed active SHA"
      .ok ⟨envelope.requestId, fence,
        "セルフアップデートに失敗しました。稼働SHAは " ++ quoted active ++ " です。" ++
          reasonText envelope.error, .suspended⟩
  | .needsReview, active => do
      throwIf (active ≠ none) "needs_review update must not claim an active SHA"
      .ok ⟨envelope.requestId, fence,
        "セルフアップデートの完了状態を確定できず、確認が必要です。対象SHAは " ++
          quoted envelope.targetSha ++ " ですが、稼働SHAは確認できません。" ++
          reasonText envelope.error, .suspended⟩
  | _, _ => .error "payload.update_status"

/-! ### The request to the Slack Adapter -/

structure UpdateNotificationRequest where
  notificationId : String
  requestId : String
  terminalFence : ℕ
  terminalStatus : Updater.UpdateState
  workspaceId : String
  channelId : String
  threadTs : String
  text : String
  desiredSessionStatus : SessionStatus

/-- `UpdateNotificationDatabase.ensure` and the body that `UpdateNotificationWorker.deliver` sends. -/
def notificationRequest (envelope : EventEnvelope) (rendered : RenderedNotification) :
    UpdateNotificationRequest where
  notificationId := envelope.externalEventId
  requestId := rendered.requestId
  terminalFence := rendered.terminalFence
  terminalStatus := envelope.updateStatus
  workspaceId := envelope.replyTarget.workspaceId
  channelId := envelope.replyTarget.channelId
  threadTs := envelope.replyTarget.threadTs
  text := rendered.text
  desiredSessionStatus := rendered.desiredSessionStatus

def parseUpdateNotificationRequest (value : UpdateNotificationRequest) : Except String Unit := do
  throwIf (isTerminalId value.notificationId = false ∨ isRequestId value.requestId = false ∨
      maxSafeInteger < value.terminalFence ∨ value.terminalStatus.isTerminal = false ∨
      isSlackId value.workspaceId = false ∨ isSlackId value.channelId = false ∨
      isTimestamp value.threadTs = false ∨ utf16Length value.text < 1 ∨
      3000 < utf16Length value.text)
    "notification is invalid"
  throwIf (value.notificationId ≠ terminalId value.requestId value.terminalFence)
    "notification identity does not match request and fence"
  throwIf (value.terminalFence = 0 ∧
      (value.terminalStatus ≠ .cancelled ∨ value.desiredSessionStatus ≠ .active))
    "notification terminal fence 0 is reserved for an unclaimed cancellation"

end Dona.UpdateNotification
