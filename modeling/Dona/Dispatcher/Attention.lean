import Dona.Schema

/-!
# Attention notices of job groups

A group of jobs reports a job that needs attention in one notice at a time. When such a
notice counts as settled, how the job it reports is resolved, and when its slot is handed on.
-/

namespace Dona

open Fallible

/-- `/^\d+\.\d+$/` -/
def isMessageTs (value : String) : Bool :=
  let seconds := value.toList.takeWhile Char.isDigit
  let rest := value.toList.dropWhile Char.isDigit
  seconds ≠ [] ∧ rest.head? = some '.' ∧ rest.tail ≠ [] ∧ rest.tail.all Char.isDigit

namespace ReplyTarget

/-- The thread that the target names, if it names one. -/
def thread? : ReplyTarget → Option SlackThread
  | slackThread thread => some thread
  | target (.thread workspaceId channelId threadTs) => some ⟨workspaceId, channelId, threadTs⟩
  | target _ => none

end ReplyTarget

namespace EventPayload

def notice? : EventPayload → Option JobNotice
  | jobNotice notice => some notice
  | _ => none

end EventPayload

namespace ResultAction

def succeeded (action : ResultAction) : Bool :=
  action.ambiguous ≠ some true ∧ action.success ≠ some false ∧ action.ok ≠ some false ∧
    action.hasError = false

def inThread (action : ResultAction) (thread : SlackThread) : Bool :=
  action.workspaceId = some thread.workspaceId ∧ action.channelId = some thread.channelId ∧
    action.threadTs = some thread.threadTs

end ResultAction

namespace Db

def getRequired (db : Db) (eventId : EventId) : Except String EventRow :=
  orThrow (db.events.get? eventId) s!"Event {eventId} was not found"

def getJobRequired (db : Db) (jobId : JobId) : Except String JobRow :=
  orThrow (db.jobs.get? jobId) s!"Job {jobId} was not found"

def updateGroup (db : Db) (sourceEventId : EventId) (f : JobGroupRow → JobGroupRow) : Db :=
  { db with jobGroups := db.jobGroups.updateKey sourceEventId f }

def sealJobGroupIfPresent (db : Db) (sourceEventId : EventId) (timestamp : Timestamp) : Db :=
  db.updateGroup sourceEventId fun group ↦
    if group.sealedAt = none then { group with sealedAt := some timestamp, updatedAt := timestamp }
    else group

/-! ### Settled notices -/

/-- The finding of an operator that the notice was not posted still describes it. -/
def noPostStands (db : Db) (eventId : EventId) (event : EventRow) (result : ResultEnvelope)
    (noPost : AttentionNoPost) : Bool :=
  (db.attentionReceipts.get? eventId).isNone ∧
    event.updatedAt = noPost.expectedEventUpdatedAt ∧
    ((db.jobs.get? noPost.jobId).any fun job ↦
      job.sourceEventId = noPost.sourceEventId ∧ job.thread = some noPost.thread) ∧
    (db.eventBindings.get? noPost.sourceEventId).map (·.owner) =
      some (.slackThread noPost.thread) ∧
    event.replyTarget.bind ReplyTarget.thread? = some noPost.thread ∧ result = noPost.result ∧
    result.actions = [] ∧ (db.attentionClaims.get? eventId).isNone

/-- The result reports a post in the thread and a session that was suspended last. -/
def reportsDelivery (thread : SlackThread) (actions : List ResultAction) : Bool :=
  ¬(actions.any fun action ↦ action.ambiguous = some true) ∧
    (actions.any fun action ↦ action.tool = "dona_slack.post_message" ∧
      action.messageTs.any isMessageTs ∧ action.inThread thread ∧
      action.replyBroadcast ≠ some true ∧ action.succeeded) ∧
    ((actions.filter fun action ↦ action.tool = "dona_slack.set_agent_session_status" ∧
      action.inThread thread ∧ action.succeeded).getLast?).any (·.status = some "suspended")

def reportsDeliveryIn (target : Option ReplyTarget) (actions : List ResultAction) : Bool :=
  match target with
  | some (.slackThread thread) => reportsDelivery thread actions
  | _ => false

/-- What shows that the notice was delivered, or that it was not. -/
def deliverySettled (db : Db) (eventId : EventId) (event : EventRow) (result : ResultEnvelope) :
    Bool :=
  match db.attentionNoPosts.get? eventId with
  | some noPost => db.noPostStands eventId event result noPost
  | none =>
      (db.attentionReceipts.get? eventId).isSome || reportsDeliveryIn event.replyTarget result.actions

def attentionNotificationSettled (db : Db) (eventId : EventId) (event : EventRow) : Bool :=
  match event.result with
  | none => false
  | some result =>
      event.source = .donaJob ∧ event.status = .completed ∧
        (event.payload.notice?.bind (·.transition)) = some .attention ∧
        result.eventId = eventId ∧ result.status = .completed ∧
        db.deliverySettled eventId event result

/-! ### Resolutions -/

/-- The failure of the job has a recorded resolution in the group. -/
def failureResolved (db : Db) (jobId : JobId) (sourceEventId : EventId) : Bool :=
  (db.attentionResolutions.get? jobId).any fun resolution ↦
    resolution.sourceEventId = sourceEventId ∧ resolution.statusAtResolution = .failed

def jobAttentionResolved (db : Db) (jobId : JobId) (job : JobRow) : Bool :=
  job.status = .failed ∧ db.failureResolved jobId job.sourceEventId

/-- The job needs attention: it is blocked, under review, or failed without a resolution. -/
def needsAttention (db : Db) (jobId : JobId) (job : JobRow) : Bool :=
  job.status = .blocked ∨ job.status = .needsReview ∨
    (job.status = .failed ∧ db.failureResolved jobId job.sourceEventId = false)

/-- The job of the notice is over, and the notice has been delivered. -/
def attentionOver (db : Db) (attentionEventId : EventId) (attention : EventRow)
    (notice : JobNotice) (sourceEventId : EventId) : Bool :=
  ((db.jobGroups.get? sourceEventId).bind (·.attentionEventId)) = some attentionEventId ∧
    db.attentionNotificationSettled attentionEventId attention ∧
    (db.attentionClaims.get? attentionEventId).isNone ∧
    (db.jobs.get? notice.jobId).any fun cause ↦ cause.sourceEventId = sourceEventId ∧
      (cause.status = .completed ∨ cause.status = .cancelled ∨
        db.jobAttentionResolved notice.jobId cause)

/-- Frees the slot of a settled notice whose job is over, when another job needs attention. -/
def handoffResolvedAttention (attentionEventId : EventId) (now : Int) (db : Db) :
    Except String Db := do
  let attention ← db.getRequired attentionEventId
  match attention.payload.notice? with
  | some notice =>
      match notice.transition, notice.groupSourceEventId with
      | some .attention, some sourceEventId =>
          if db.attentionOver attentionEventId attention notice sourceEventId ∧
              (db.jobs.any fun jobId job ↦ job.sourceEventId = sourceEventId ∧
                jobId ≠ notice.jobId ∧ db.needsAttention jobId job) then
            .ok (db.updateGroup sourceEventId fun group ↦
              if group.attentionEventId = some attentionEventId ∧ group.allTerminalEventId = none then
                { group with attentionEventId := none, updatedAt := .toIso now }
              else group)
          else .ok db
      | _, _ => .ok db
  | none => .ok db

/-- Records how the job of an attention notice ended, once. -/
def recordAttentionResolution (jobId : JobId) (attentionEventId : EventId) (status : JobStatus)
    (kind : ResolutionKind) (now : Int) (db : Db) : Except String Db := do
  let job ← db.getJobRequired jobId
  let attention ← db.getRequired attentionEventId
  throwIf (job.status ≠ status ∨ attention.source ≠ .donaJob)
    "attention_resolution_binding_mismatch"
  throwIf ((attention.payload.notice?.any fun notice ↦ notice.transition = some .attention ∧
      notice.groupSourceEventId = some job.sourceEventId ∧ notice.jobId = jobId) = false)
    "attention_resolution_binding_mismatch"
  match db.attentionResolutions.get? jobId with
  | some existing => do
      throwIf (existing.attentionEventId ≠ attentionEventId ∨
        existing.statusAtResolution ≠ status ∨ existing.resolutionKind ≠ kind)
        "attention_resolution_conflict"
      .ok db
  | none => do
      let resolutions ← orThrow (db.attentionResolutions.insert? jobId
          { sourceEventId := job.sourceEventId
            attentionEventId := attentionEventId
            statusAtResolution := status
            resolutionKind := kind
            resolvedAt := .toIso now })
        "UNIQUE constraint failed: job_attention_resolutions.job_id"
      ({ db with attentionResolutions := resolutions } : Db).handoffResolvedAttention
        attentionEventId now

end Db

end Dona
