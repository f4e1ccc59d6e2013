import Dona.Library.TransitionSystem
import Dona.Scheduler.Rows

/-!
# The scheduler as a transition system

A step is one call of the repository, with everything it is free to choose as its label, or
a write of the dispatcher to tables of its own. A call that throws changes nothing.
-/

namespace Dona

open Fallible

/-- What the dispatcher writes: its own tables are those of `tables`, the scheduler keeps
the others; `drawn` counts the identifiers it draws. -/
structure DispatcherWrite where
  tables : Db
  drawn : ℕ

inductive SchedulerOp
  | create (scheduleId : ScheduleId) (input : RevisionInput) (nextDue : Timestamp)
      (actor : Actor) (now : Timestamp)
  | update (scheduleId : ScheduleId) (expectedRevision : ℕ) (input : RevisionInput)
      (nextDue : Timestamp) (actor : Actor) (now : Timestamp)
  | transition (scheduleId : ScheduleId) (expectedRevision : ℕ)
      (operation : Db.TransitionOperation) (actor : Actor) (now : Timestamp)
  | claimDue (owner : String) (now : Timestamp) (leaseSeconds : ℕ)
      (excludedScheduleIds : List ScheduleId)
  | releaseClaims (owner : String) (now : Timestamp)
  | expireDue (now : Timestamp) (limit : ℕ)
  | materialize (scheduleId : ScheduleId) (expectedRevision : ℕ) (scheduledFor : Timestamp)
      (nextDue : Option Timestamp) (now : Timestamp) (actor : Actor)
      (skip : Option Db.SkipReason) (compactSkip : Option Db.CompactSkip)
      (claim : Option Db.MaterializeClaim)
  | setRunState (runId : Uuid) (expected : RunStatus) (next : Db.RunTarget) (actor : Actor)
      (now : Timestamp) (jobId : Option JobId) (resultContent : Option String)
      (notificationAt : Option Timestamp) (routeResultViaDona : Bool)
  | markWorkRunNeedsReview (runId : Uuid) (jobId : JobId) (now : Timestamp)
      (sourceEventId : EventId)
  | recoverWorkRunForResult (runId : Uuid) (jobId : JobId) (sourceEventId : EventId)
      (now : Timestamp)
  | markWorkNotificationNeedsReview (runId : Uuid) (now : Timestamp)
  | reconcileWorkNotificationNotSent (runId : Uuid) (now : Timestamp)
  | settleWorkNotification (runId : Uuid) (now : Timestamp)
  | settleUndelegatedWorkEvent (eventId : EventId) (outcome : Db.UndelegatedOutcome)
      (now : Timestamp)
  | reconcileWorkRun (runId : Uuid) (outcome : Db.WorkRunOutcome) (actor : Actor)
      (now : Timestamp)
  | completeIfDrained (scheduleId : ScheduleId) (now : Timestamp)
  | claimBatch (now : Timestamp) (leaseSeconds : ℕ) (kind : Option OutboxKind) (limit : ℕ)
  | requestStarted (outboxId token : Uuid) (now : Timestamp)
  | rejectClaimBeforeWrite (outboxId token : Uuid) (now : Timestamp)
  | finishWrite (outboxId token : Uuid) (outcome : Db.WriteOutcome) (now : Timestamp)
      (receiptId : Option String) (retryAfterSeconds : ℕ)
  | finishWriteAfterPreflight (outboxId token : Uuid) (outcome : Db.PreflightOutcome)
      (now : Timestamp) (retryAfterSeconds : ℕ)
  | recover (now : Timestamp) (recoverAllStarted : Bool)
  | reconcile (outboxId : Uuid) (outcome : Db.ReconcileOutcome) (receiptId : String)
      (actor : Actor) (now : Timestamp)
  | purge (now : Timestamp)
  | dispatcher (write : DispatcherWrite)

def DispatcherWrite.apply (write : DispatcherWrite) (db : Db) : Db :=
  { write.tables with
    schedules := db.schedules
    revisions := db.revisions
    runs := db.runs
    outbox := db.outbox
    claims := db.claims
    eventReviews := db.eventReviews
    nextUuid := db.nextUuid + write.drawn }

/-- The tables after a step. -/
def SchedulerOp.next (env : Env) (db : Db) : SchedulerOp → Db
  | create scheduleId input nextDue actor now =>
      commit (Db.create env scheduleId input nextDue actor now) db
  | update scheduleId expectedRevision input nextDue actor now =>
      commit (Db.update env scheduleId expectedRevision input nextDue actor now) db
  | transition scheduleId expectedRevision operation actor now =>
      commit (Db.transition scheduleId expectedRevision operation actor now) db
  | claimDue owner now leaseSeconds excludedScheduleIds =>
      commit (Db.claimDue owner now leaseSeconds excludedScheduleIds) db
  | releaseClaims owner now => commit (Db.releaseClaims owner now) db
  | expireDue now limit => commit (Db.expireDue now limit) db
  | materialize scheduleId expectedRevision scheduledFor nextDue now actor skip compactSkip claim =>
      commit (Db.materialize env scheduleId expectedRevision scheduledFor nextDue now actor skip
        compactSkip claim) db
  | setRunState runId expected next actor now jobId resultContent notificationAt
      routeResultViaDona =>
      commit (Db.setRunState env runId expected next actor now jobId resultContent notificationAt
        routeResultViaDona) db
  | markWorkRunNeedsReview runId jobId now sourceEventId =>
      commit (Db.markWorkRunNeedsReview runId jobId now sourceEventId) db
  | recoverWorkRunForResult runId jobId sourceEventId now =>
      commit (Db.recoverWorkRunForResult runId jobId sourceEventId now) db
  | markWorkNotificationNeedsReview runId now =>
      commit (Db.markWorkNotificationNeedsReview runId now) db
  | reconcileWorkNotificationNotSent runId now =>
      commit (Db.reconcileWorkNotificationNotSent runId now) db
  | settleWorkNotification runId now => commit (Db.settleWorkNotification runId now) db
  | settleUndelegatedWorkEvent eventId outcome now =>
      commit (Db.settleUndelegatedWorkEvent eventId outcome now) db
  | reconcileWorkRun runId outcome actor now =>
      commit (Db.reconcileWorkRun runId outcome actor now) db
  | completeIfDrained scheduleId now => db.completeIfDrained scheduleId now
  | claimBatch now leaseSeconds kind limit => commit (Db.claimBatch now leaseSeconds kind limit) db
  | requestStarted outboxId token now => commit (Db.requestStarted outboxId token now) db
  | rejectClaimBeforeWrite outboxId token now =>
      commit (Db.rejectClaimBeforeWrite outboxId token now) db
  | finishWrite outboxId token outcome now receiptId retryAfterSeconds =>
      commit (Db.finishWrite env outboxId token outcome now receiptId retryAfterSeconds) db
  | finishWriteAfterPreflight outboxId token outcome now retryAfterSeconds =>
      commit (Db.finishWriteAfterPreflight env outboxId token outcome now retryAfterSeconds) db
  | recover now recoverAllStarted => commit (Db.recover now recoverAllStarted) db
  | reconcile outboxId outcome receiptId actor now =>
      commit (Db.reconcile env outboxId outcome receiptId actor now) db
  | purge now => commit (Db.purge now) db
  | dispatcher write => write.apply db

/-- The scheduler, from the tables of the first migration. -/
def scheduler (env : Env) : TransitionSystem Db SchedulerOp :=
  .ofFun (· = .fresh) (SchedulerOp.next env)

/-- The operations that insert or delete rows, or set a due date. -/
def SchedulerOp.isRoutine : SchedulerOp → Bool
  | create .. | update .. | materialize .. | purge .. => false
  | _ => true

/-- The scope an operation stays in. -/
def SchedulerOp.scope (db : Db) : SchedulerOp → Scope
  | setRunState runId .. => Db.completionScope runId
  | recoverWorkRunForResult runId jobId sourceEventId now =>
      db.resumeScope runId (Db.recoverable jobId sourceEventId) now
  | reconcileWorkNotificationNotSent runId now => db.resumeScope runId Db.resumable now
  | settleWorkNotification runId now => db.resumeScope runId Db.resumable now
  | settleUndelegatedWorkEvent eventId _ _ => db.undelegatedScope eventId
  | requestStarted outboxId _ _ => Db.requestScope outboxId
  | finishWrite outboxId _ outcome _ _ _ => Db.outcomeScope outboxId outcome
  | finishWriteAfterPreflight outboxId _ _ _ _ => Db.requestScope outboxId
  | dispatcher _ => { Scope.strict with mayRewrite := True }
  | _ => .strict

open Db in
theorem SchedulerOp.next_evolves {env : Env} {db : Db} {op : SchedulerOp}
    (h : op.isRoutine = true) : db.Evolves (op.scope db) (op.next env db) := by
  have hcommit : ∀ {α : Type} {scope : Scope} {body : Db → Except String (α × Db)},
      (∀ a db', body db = .ok (a, db') → db.Evolves scope db') →
        db.Evolves scope (commit body db) :=
    fun hbody ↦ commit_induction (.refl _ db) hbody
  cases op with
  | create => cases h
  | update => cases h
  | materialize => cases h
  | purge => cases h
  | transition => exact hcommit fun _ _ hok ↦ evolves_transition hok
  | claimDue => exact hcommit fun _ _ hok ↦ evolves_claimDue hok
  | releaseClaims => exact hcommit fun _ _ hok ↦ evolves_releaseClaims hok
  | expireDue => exact hcommit fun _ _ hok ↦ evolves_expireDue hok
  | setRunState =>
      refine hcommit fun _ _ hok ↦ ?_
      rcases setRunState_spec hok with hstrict | ⟨hwrite, -⟩
      · exact hstrict.of_strict
      · exact hwrite
  | markWorkRunNeedsReview => exact hcommit fun _ _ hok ↦ evolves_markWorkRunNeedsReview hok
  | recoverWorkRunForResult => exact hcommit fun _ _ hok ↦ evolves_recoverWorkRunForResult hok
  | markWorkNotificationNeedsReview =>
      exact hcommit fun _ _ hok ↦ evolves_markWorkNotificationNeedsReview hok
  | reconcileWorkNotificationNotSent =>
      exact hcommit fun _ _ hok ↦ evolves_resumeAfterWorkNotification hok
  | settleWorkNotification => exact hcommit fun _ _ hok ↦ evolves_resumeAfterWorkNotification hok
  | settleUndelegatedWorkEvent =>
      exact hcommit fun _ _ hok ↦ evolves_settleUndelegatedWorkEvent hok
  | reconcileWorkRun => exact hcommit fun _ _ hok ↦ evolves_reconcileWorkRun hok
  | completeIfDrained => exact evolves_completeIfDrained
  | claimBatch => exact hcommit fun _ _ hok ↦ evolves_claimBatch hok
  | requestStarted => exact hcommit fun _ _ hok ↦ (requestStarted_spec hok).2.1
  | rejectClaimBeforeWrite => exact hcommit fun _ _ hok ↦ evolves_rejectClaimBeforeWrite hok
  | finishWrite => exact hcommit fun _ _ hok ↦ (finishWrite_spec hok).2
  | finishWriteAfterPreflight =>
      refine hcommit fun _ _ hok ↦ ?_
      rcases finishWriteAfterPreflight_spec hok with hstrict | ⟨-, hwrite⟩
      · exact hstrict.of_strict
      · exact hwrite
  | recover => exact hcommit fun _ _ hok ↦ evolves_recover hok
  | reconcile => exact hcommit fun _ _ hok ↦ evolves_reconcile hok
  | dispatcher => exact .of_eq rfl rfl rfl (Nat.le_add_right _ _) (.inl trivial)

/-- The occurrence that an operation records: the schedule and the instant of a call of
`materialize` which succeeds and is not a duplicate. -/
def SchedulerOp.recorded? (env : Env) (db : Db) : SchedulerOp → Option (ScheduleId × Timestamp)
  | materialize scheduleId expectedRevision scheduledFor nextDue now actor skip compactSkip claim =>
      match Db.materialize env scheduleId expectedRevision scheduledFor nextDue now actor skip
        compactSkip claim db with
      | .ok (some result, _) =>
          if result.duplicate = false then some (scheduleId, scheduledFor) else none
      | _ => none
  | _ => none

open Db in
/-- Every step of the scheduler has one of the effects. -/
theorem SchedulerOp.effect (env : Env) (db : Db) (op : SchedulerOp) :
    Effect (op.scope db) db (op.next env db) (op.recorded? env db) := by
  have hrefused : ∀ {db' : Db}, db' = db → Effect (op.scope db) db db' none := by
    rintro _ rfl
    exact .frame (.refl _ _)
  by_cases hroutine : op.isRoutine = true
  · have hnone : op.recorded? env db = none := by
      cases op <;> first | rfl | cases hroutine
    rw [hnone]
    exact .frame (next_evolves hroutine)
  cases op with
  | create scheduleId input nextDue actor now =>
      rcases hbody : Db.create env scheduleId input nextDue actor now db with e | ⟨row, db'⟩
      · exact hrefused (commit_of_error hbody)
      obtain ⟨hfresh, hactive, hwatermark, hschedules, hruns, houtbox, hnext, -⟩ :=
        create_spec hbody
      rw [next, commit_of_ok hbody]
      exact .created hfresh hactive hwatermark hschedules hruns houtbox hnext
  | update scheduleId expectedRevision input nextDue actor now =>
      rcases hbody : Db.update env scheduleId expectedRevision input nextDue actor now db
        with e | ⟨u, db'⟩
      · exact hrefused (commit_of_error hbody)
      obtain ⟨before, db₁, updateAt, hfound, hlive, hpast, hevolves, hrenewed⟩ := update_spec hbody
      rw [next, commit_of_ok hbody]
      exact .updated hfound hlive hpast hevolves hrenewed
  | materialize scheduleId expectedRevision scheduledFor nextDue now actor skip compactSkip claim =>
      rcases hbody : Db.materialize env scheduleId expectedRevision scheduledFor nextDue now actor
        skip compactSkip claim db with e | ⟨result, db'⟩
      · simp only [recorded?, hbody]
        exact hrefused (commit_of_error hbody)
      rw [next, commit_of_ok hbody]
      rcases materialize_spec hbody with ⟨hduplicate, hevolves⟩ |
        ⟨recorded, before, run, db₁, rfl, hnew, hoccurs, hevolves⟩
      · cases result with
        | none =>
            simp only [recorded?, hbody]
            exact .frame hevolves.of_strict
        | some result =>
            have hresult : result.duplicate = true := hduplicate
            simp only [recorded?, hbody, hresult]
            exact .frame hevolves.of_strict
      · simp only [recorded?, hbody, hnew]
        exact .occurred hoccurs hevolves
  | purge now =>
      rcases hbody : Db.purge now db with e | ⟨u, db'⟩
      · exact hrefused (commit_of_error hbody)
      obtain ⟨db₁, hevolves, hschedules, hruns, houtbox, hnext, hwrites⟩ := purge_spec hbody
      rw [next, commit_of_ok hbody]
      exact .purged hevolves hschedules hruns houtbox hnext hwrites
  | _ => exact absurd rfl hroutine

/-- The row of the schedule is there after the operation. -/
def RowRemains (env : Env) (id : ScheduleId) (db : Db) (op : SchedulerOp) : Prop :=
  (op.next env db).schedules.get? id ≠ none

/-! ### A daily reminder -/

namespace DailyReminder

/-- No text is secret, and every document is canonical. -/
def plain : Env where
  digest := id
  hasCredentialPattern _ := false
  hasSensitiveContentPattern _ := false
  reportsLocalPath _ _ := false
  codecs := some ⟨id, id⟩

def owner : Actor := ⟨"T1", "U1", .owner, none⟩

def input : RevisionInput where
  recurrence := ⟨.daily, none, none, "09:00"⟩
  policy := "once-a-day"
  policyVersion := 1
  timezone := none
  tzdbVersion := none
  authorizationId := "E1"
  authorizationRevision := 1
  approverId := "U1"
  approvedAt := .ofSeconds 0
  expiresAt := .ofSeconds 2000000
  action := .reminderPost
  target := .channel "T1" "C1"
  content := "stand-up"

def created : SchedulerOp := .create "S1" input (.ofSeconds 100) owner (.ofSeconds 10)

def occursAt (due : Int) : SchedulerOp :=
  .materialize "S1" 1 (.ofSeconds due) (some (.ofSeconds (due + 86400))) (.ofSeconds (due + 1))
    owner none none none

def cancelled : SchedulerOp := .transition "S1" 1 .cancel owner (.ofSeconds 200)

theorem reachable_created : (scheduler plain).Reachable (created.next plain .fresh) :=
  (TransitionSystem.Reachable.of_initial rfl).step rfl

end DailyReminder

end Dona
