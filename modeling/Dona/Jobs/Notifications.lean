import Dona.Jobs.Handoffs

/-!
# Notices of job groups

The jobs that a notice is due for, the snapshot of the group that a notice carries, and the claim
of its transition. A group reports each need for attention, and at last that all jobs are over.
-/

namespace Dona

open Fallible

namespace Store

variable (jobs : JobsEnv)

/-! ### Handoffs of a group -/

/-- The groups that an accepted handoff connects. -/
def handoffLinks (s : Store) : List (EventId × EventId) :=
  s.handoffs.entries.filterMap fun (jobId, record) ↦
    if record.state = .accepted then do
      let predecessor ← s.db.jobs.get? jobId
      let successor ← record.successorJobId.bind s.db.jobs.get?
      some (predecessor.sourceEventId, successor.sourceEventId)
    else none

/-- One round of `linked_groups`. -/
def linkRound (links : List (EventId × EventId)) (groups : List EventId) : List EventId :=
  (groups ++ (links.filter (groups.contains ·.1)).map (·.2) ++
    (links.filter (groups.contains ·.2)).map (·.1)).dedup

/-- `linked_groups`: each round but the last adds a group. -/
def linkedGroups (s : Store) (sourceEventId : EventId) : List EventId :=
  (linkRound s.handoffLinks)^[s.handoffLinks.length] [sourceEventId]

/-- A job is not over: it has not ended, or it failed without a resolution. -/
def isOpen (s : Store) (jobId : JobId) (job : JobRow) : Bool :=
  job.status.isTerminal = false ∨
    (job.status = .failed ∧ s.db.failureResolved jobId job.sourceEventId = false)

/-- `pendingHandoffSql` -/
def pendingHandoff (s : Store) (sourceEventId : EventId) : Bool :=
  s.db.jobs.any fun jobId job ↦
    (s.linkedGroups sourceEventId).contains job.sourceEventId ∧ s.isOpen jobId job

/-! ### The group of a job -/

def getJobGroupRequired (s : Store) (sourceEventId : EventId) : Except String JobGroupRow :=
  orThrow (s.db.jobGroups.get? sourceEventId) s!"Job group {sourceEventId} was not found"

def attentionUnsettled (s : Store) (group : JobGroupRow) : Bool :=
  group.attentionEventId.any fun eventId ↦ (s.db.events.get? eventId).all fun event ↦
    s.db.attentionNotificationSettled eventId event = false

/-- `groupCanClaimAllTerminal` -/
def groupCanClaimAllTerminal (s : Store) (sourceEventId : EventId) (group : JobGroupRow) : Bool :=
  group.notificationMode = .grouped ∧ group.sealedAt.isSome ∧ group.allTerminalEventId = none ∧
    s.pendingHandoff sourceEventId = false ∧
    (s.db.attentionClaims.any fun _ claim ↦ claim.sourceEventId = sourceEventId) = false ∧
    s.attentionUnsettled group = false ∧
    (s.db.jobs.any fun jobId job ↦ job.sourceEventId = sourceEventId ∧ s.isOpen jobId job) = false

/-- The jobs of the group, but for attempts that were interrupted. -/
def reportedJobs (s : Store) (sourceEventId : EventId) : List (JobId × JobRow) :=
  s.db.jobs.select fun jobId job ↦ job.sourceEventId = sourceEventId ∧
    (s.attempts.get? jobId).all (·.outcome ≠ some .interrupted)

def JobStatus.all : List JobStatus :=
  [.queued, .preparing, .dispatching, .running, .retryableFailed, .blocked, .completed, .failed,
    .cancelling, .cancelled, .needsReview]

def isSettledStatus (status : JobStatus) : Bool :=
  [JobStatus.completed, .cancelled, .failed, .needsReview].contains status

/-- `jobAttentionStatuses` -/
def isAttentionStatus (status : JobStatus) : Bool :=
  [JobStatus.blocked, .needsReview, .failed].contains status

def jobGroupSnapshotJobLimit : ℕ := 32

/-- `ORDER BY created_at, job_id` -/
def createdBefore (a b : JobId × JobRow) : Bool :=
  a.2.createdAt < b.2.createdAt ∨ (a.2.createdAt = b.2.createdAt ∧ a.1 ≤ b.1)

/-- What the notice of the job means for its group. -/
def snapshotTransition (s : Store) (sourceEventId : EventId) (group : JobGroupRow) (jobId : JobId)
    (job : JobRow) : GroupTransition :=
  let reported := s.reportedJobs sourceEventId
  if isAttentionStatus job.status ∧ group.attentionEventId = none ∧
      s.db.jobAttentionResolved jobId job = false ∧
      s.groupCanClaimAllTerminal sourceEventId group = false then .attention
  else if reported ≠ [] ∧ reported.all (fun entry ↦ isSettledStatus entry.2.status) ∧
      group.allTerminalEventId = none ∧ s.groupCanClaimAllTerminal sourceEventId group then
    .allTerminal
  else .progress

/-- `buildJobGroupSnapshot` -/
def buildJobGroupSnapshot (s : Store) (sourceEventId : EventId) (group : JobGroupRow)
    (transition : GroupTransition) : JobGroupSnapshot :=
  let reported := s.reportedJobs sourceEventId
  let count : JobStatus → ℕ := fun status ↦ reported.countP (·.2.status = status)
  { attentionResolution :=
      if transition = .attention then .unresolved
      else if group.attentionEventId = none then
        (if count .failed = 0 then .notRequired else .resolved)
      else if s.groupCanClaimAllTerminal sourceEventId group then .resolved else .unresolved
    total := reported.length
    pending := reported.countP fun entry ↦ isSettledStatus entry.2.status = false
    statusCounts := (JobStatus.all.map fun status ↦ (status, count status)).filter (·.2 ≠ 0)
    jobs := ((reported.mergeSort createdBefore).take jobGroupSnapshotJobLimit).map fun entry ↦
      (entry.1, entry.2.jobKey, entry.2.status, (s.forAttempt entry.1).map (·.1)) }

/-! ### Enqueueing -/

/-- The job that has a notice already needs another one. -/
def needsAnotherNotice (s : Store) (jobId : JobId) (job : JobRow) (group : JobGroupRow) : Bool :=
  group.notificationMode = .grouped ∧ group.allTerminalEventId = none ∧
    (s.groupCanClaimAllTerminal job.sourceEventId group ∨
      (group.attentionEventId = none ∧ isAttentionStatus job.status ∧
        s.db.jobAttentionResolved jobId job = false))

/-- Links the job with its first notice. -/
def linkJob (jobId : JobId) (eventId : EventId) (now : Int) (s : Store) : Store :=
  s.updateJobRow jobId fun job ↦
    if job.completionEventId = none then
      { job with completionEventId := some eventId, updatedAt := .toIso now }
    else job

def groupNotice (s : Store) (jobId : JobId) (job : JobRow) (group : JobGroupRow)
    (transition : GroupTransition) : JobNotice :=
  { jobId := jobId
    jobKey := some job.jobKey
    jobStatus := job.status
    transition := if group.notificationMode = .grouped then some transition else none
    groupSourceEventId := if group.notificationMode = .grouped then some job.sourceEventId else none
    result := job.result.map jobs.serialize
    errorCode := job.lastErrorCode
    errorMessage := job.lastErrorMessage
    snapshot := if group.notificationMode = .grouped then
        some (s.buildJobGroupSnapshot job.sourceEventId group transition)
      else none }

def noticeSuffix (job : JobRow) (group : JobGroupRow) (transition : GroupTransition) : NoticeSuffix :=
  if job.completionEventId = none then .none
  else if group.notificationMode = .grouped ∧ transition = .attention then .attentionReplacement
  else .allTerminal

/-- The group takes the notice as the one of its transition. -/
def claimTransition (sourceEventId : EventId) (transition : GroupTransition) (eventId : EventId)
    (now : Int) (s : Store) : Except String Store := do
  let group ← s.getJobGroupRequired sourceEventId
  match transition with
  | .progress => .ok s
  | .attention => do
      throwIf (group.attentionEventId ≠ none) s!"Job group {sourceEventId} lost attention ownership"
      .ok (s.updateDb fun db ↦ db.updateGroup sourceEventId fun group ↦
        { group with attentionEventId := some eventId, updatedAt := .toIso now })
  | .allTerminal => do
      throwIf (s.groupCanClaimAllTerminal sourceEventId group = false)
        "job_group_attention_unresolved"
      .ok (s.updateDb fun db ↦ db.updateGroup sourceEventId fun group ↦
        { group with allTerminalEventId := some eventId, updatedAt := .toIso now })

/-- A new notice of a job that belongs to a Slack thread. -/
def enqueueNotice (jobId : JobId) (job : JobRow) (group : JobGroupRow) (now : Int) (s : Store) :
    Except String Store := do
  throwIf (job.status.isReported = false)
    s!"Job {jobId} in status {job.status.text} does not need a notification"
  throwIf (group.notificationMode = .grouped ∧ group.sealedAt = none)
    s!"Job group {job.sourceEventId} is not sealed"
  let sourceEvent ← s.db.getRequired job.sourceEventId
  let transition := s.snapshotTransition job.sourceEventId group jobId job
  let notice := s.groupNotice jobs jobId job group transition
  let (enqueued, s) ← s.onDb (Db.enqueue
    { source := .donaJob
      externalEventId := .job jobId job.status (noticeSuffix job group transition)
      type := s!"job_{job.status.text}"
      occurredAt := .toIso now
      subject := .job jobId job.sourceEventId job.thread job.actorId
      payload := .jobNotice notice
      replyTarget := sourceEvent.replyTarget } (.toIso now))
  throwIf (enqueued.payloadMismatch = true)
    s!"Job {jobId} notification conflicts with an existing completion event"
  let binding ← orThrow (s.binding? job.sourceEventId) "Unknown job owner"
  let s ← s.modifyDb (Db.insertEventJobBinding enqueued.eventId binding)
  let s ← (if group.notificationMode = .grouped then
      s.claimTransition job.sourceEventId transition enqueued.eventId now
    else .ok s)
  .ok (s.linkJob jobId enqueued.eventId now)

/-- `enqueueRegularJobNotification` -/
def enqueueRegularJobNotification (jobId : JobId) (now : Int) (s : Store) :
    Except String (Unit × Store) := do
  let job ← s.db.getJobRequired jobId
  throwIf ((s.handoffs.get? jobId).any (·.state = .accepted)) "job_notification_superseded_by_handoff"
  s.db.assertJobSourceMatchesThread jobId job.sourceEventId
  let group ← s.getJobGroupRequired job.sourceEventId
  let s ← (match group.attentionEventId with
    | some eventId =>
        if group.notificationMode = .grouped ∧ isAttentionStatus job.status then
          s.modifyDb (Db.handoffResolvedAttention eventId now)
        else .ok s
    | none => .ok s)
  let group ← s.getJobGroupRequired job.sourceEventId
  match (if group.notificationMode = .grouped then group.allTerminalEventId else none) with
  | some eventId => do
      let _ ← s.db.getRequired eventId
      .ok ((), s.linkJob jobId eventId now)
  | none =>
      match (if s.needsAnotherNotice jobId job group then none else job.completionEventId) with
      | some eventId => do
          let _ ← orThrow (s.db.events.get? eventId)
            s!"Job {jobId} references a missing completion event"
          .ok ((), s)
      | none => do
          let s ← s.enqueueNotice jobs jobId job group now
          .ok ((), s)

def enqueueJobNotification (jobId : JobId) (now : Int) (s : Store) :
    Except String (Unit × Store) := do
  let job ← s.db.getJobRequired jobId
  s.db.assertJobSourceMatchesThread jobId job.sourceEventId
  if s.ofSchedule job.sourceEventId then
    s.onDb (Db.materializeJobCompletion jobs.env jobId now)
  else s.enqueueRegularJobNotification jobs jobId now

def sealJobGroup (sourceEventId : EventId) (now : Int) (s : Store) : Except String (Unit × Store) := do
  let _ ← s.getJobGroupRequired sourceEventId
  .ok ((), s.updateDb fun db ↦ db.sealJobGroupIfPresent sourceEventId (.toIso now))

/-! ### The jobs that a notice is due for -/

/-- The jobs of a group that a handoff connects with another one. -/
def hasAcceptedHandoff (s : Store) (sourceEventId : EventId) : Bool :=
  s.db.jobs.any fun original job ↦ job.sourceEventId = sourceEventId ∧
    s.handoffs.any fun jobId record ↦ record.state = .accepted ∧
      (jobId = original ∨ record.successorJobId = some original)

/-- A job whose notice exists is listed again, for the last notice of its group or for an
attention notice that replaces an older one. -/
def isListedAgain (s : Store) (jobId : JobId) (job : JobRow) (group : JobGroupRow) : Bool :=
  group.notificationMode = .grouped ∧
    ((s.pendingHandoff job.sourceEventId = false ∧
        (group.attentionEventId.isSome ∨ s.hasAcceptedHandoff job.sourceEventId) ∧
        (s.db.jobs.any fun id other ↦
          other.sourceEventId = job.sourceEventId ∧ s.isOpen id other) = false) ∨
      (group.attentionEventId = none ∧ group.allTerminalEventId = none ∧
        isAttentionStatus job.status ∧
        (s.db.attentionResolutions.get? jobId).all fun resolution ↦
          resolution.sourceEventId ≠ job.sourceEventId ∨
            resolution.statusAtResolution ≠ job.status))

/-- The owner of the job is to hear of its status. -/
def isNoticeDue (s : Store) (jobId : JobId) (job : JobRow) (owner : JobOwner) : Bool :=
  if owner.isSchedule then
    job.completionEventId = none ∧ (s.db.completions.get? (jobId, job.status)).isNone
  else (s.db.jobGroups.get? job.sourceEventId).any fun group ↦
    (group.notificationMode = .legacy ∨
      (group.sealedAt.isSome ∧ group.allTerminalEventId = none)) ∧
    (job.completionEventId = none ∨ s.isListedAgain jobId job group)

/-- `listJobsNeedingNotification`, for one job. -/
def needsNotification (s : Store) (jobId : JobId) (job : JobRow) : Bool :=
  job.status.isReported ∧ (s.handoffs.get? jobId).all (·.state ≠ .accepted) ∧
    (s.db.ownerBindings.get? jobId).any fun owner ↦ s.isNoticeDue jobId job owner.2.owner

/-- `ORDER BY CASE … END, updated_at, job_id` -/
def notifiedBefore (a b : JobId × JobRow) : Bool :=
  let rank : JobRow → ℕ := fun job ↦ if isAttentionStatus job.status then 0 else 1
  rank a.2 < rank b.2 ∨ (rank a.2 = rank b.2 ∧ (a.2.updatedAt < b.2.updatedAt ∨
    (a.2.updatedAt = b.2.updatedAt ∧ a.1 ≤ b.1)))

def listJobsNeedingNotification (limit : ℕ) (s : Store) : List (JobId × JobRow) :=
  ((s.db.jobs.select s.needsNotification).mergeSort notifiedBefore).take limit

end Store

end Dona
