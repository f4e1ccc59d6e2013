import Dona.Dispatcher.NoticeFrames
import Mathlib.Algebra.Order.Group.Abs

/-!
# The authorization to post a notice

The system of the dispatcher, its scheduler and the Slack adapter that issues access receipts,
under one clock that never goes back. The state records the grants, with the tables as they
were then, and the nonces that were accepted. In every run the write phase is granted once for
an event, under the authority of the schedule, and no nonce is accepted twice.
-/

namespace Dona

open Fallible

/-- A grant of a phase, and the tables in which it was decided. -/
structure Grant where
  eventId : EventId
  phase : AuthorizationPhase
  instant : Int
  receipt : Option AccessReceipt
  before : Db

structure AuthorizationState where
  db : Db
  clock : Int
  /-- The receipts that the Slack adapter has signed, by their nonces. -/
  issued : Table String (EventId × Timestamp)
  grants : List Grant
  accepted : List String

def AuthorizationState.fresh (clock : Int) : AuthorizationState := ⟨.fresh, clock, .empty, [], []⟩

/-- The columns that no operation on notices reads, and the other columns of one event. -/
structure OtherWrite where
  tables : Db
  eventId : EventId
  event : EventRow → EventRow

def OtherWrite.apply (write : OtherWrite) (db : Db) : Db :=
  { write.tables with
    schedules := db.schedules
    revisions := db.revisions
    runs := db.runs
    outbox := db.outbox
    claims := db.claims
    events := db.events.updateKey write.eventId fun event ↦
      { write.event event with
        source := event.source, externalEventId := event.externalEventId }
    completions := db.completions
    accessNonces := db.accessNonces
    eventReviews := db.eventReviews
    nextUuid := db.nextUuid }

inductive NoticeOp
  | issueReceipt (nonce : String) (eventId : EventId) (issuedAt : Timestamp)
  | authorizeJobNotification (eventId : EventId) (receipt : Option AccessReceipt)
  | recordScheduleJobAccess (eventId : EventId) (receipt : AccessReceipt)
  | suppressUnauthorizedScheduledNotifications
  | beginDispatch (eventId : EventId) (resultPath : String)
  | markWaiting (eventId : EventId)
  | markBlocked (eventId : EventId) (message : String) (source : List EventStatus)
  | markNeedsReview (eventId : EventId) (code message : String)
  | recordPreDispatchFailure (eventId : EventId) (code message : String) (maxAttempts : ℕ)
  | recordSafePromptFailure (eventId : EventId) (code message : String) (maxAttempts : ℕ)
  | recordWaitingError (eventId : EventId) (code message : String)
  | recoverStaleDispatching
  | saveCompleted (eventId : EventId) (result : ResultEnvelope) (resultPath : String)
      (evidence : Option JobNotificationEvidence)
  | saveFailedResult (eventId : EventId) (result : ResultEnvelope) (resultPath : String)
      (evidence : Option JobNotificationEvidence)
  | manualRetry (eventId : EventId) (force : Bool) (files : String → Bool)
  | manualComplete (eventId : EventId)
  | manualDeadLetter (eventId : EventId)
  | claimNotificationReconciliation (eventId : EventId) (resume : Bool)
  | reconcileScheduledNotification (eventId : EventId) (receipt : Db.PostReceipt)
      (claimToken : Option String)
  | reconcileScheduledNotificationNotSent (eventId : EventId) (claimToken : Option String)
  | markNotificationSessionNeedsReview (eventId : EventId)
  | supersedeNotice (eventId : EventId)
  | enqueue (envelope : EventEnvelope)
  | materializeJobCompletion (jobId : JobId)
  | scheduler (op : SchedulerOp)
  | other (write : OtherWrite)

namespace NoticeOp

/-- The tables after an operation at an instant. -/
def tables (env : Env) (now : Int) (db : Db) : NoticeOp → Db
  | issueReceipt _ _ _ => db
  | authorizeJobNotification eventId receipt => (db.authorizeJobNotification eventId now receipt).2
  | recordScheduleJobAccess eventId receipt =>
      commit (Db.recordScheduleJobAccess eventId receipt now) db
  | suppressUnauthorizedScheduledNotifications =>
      commit (Db.suppressUnauthorizedScheduledNotifications now) db
  | beginDispatch eventId resultPath => (db.beginDispatch eventId resultPath now).2
  | markWaiting eventId =>
      commit (fun db ↦ db.markWaiting eventId now >>= fun db ↦ .ok ((), db)) db
  | markBlocked eventId message source => commit (Db.markBlocked eventId message source now) db
  | markNeedsReview eventId code message =>
      commit (Db.markNeedsReview eventId code message now) db
  | recordPreDispatchFailure eventId code message maxAttempts =>
      commit (Db.recordPreDispatchFailure eventId code message maxAttempts now) db
  | recordSafePromptFailure eventId code message maxAttempts =>
      commit (Db.recordSafePromptFailure eventId code message maxAttempts now) db
  | recordWaitingError eventId code message =>
      commit (Db.recordWaitingError eventId code message now) db
  | recoverStaleDispatching => commit (Db.recoverStaleDispatching now) db
  | saveCompleted eventId result resultPath evidence =>
      commit (Db.saveCompleted env eventId result resultPath now evidence) db
  | saveFailedResult eventId result resultPath evidence =>
      commit (Db.saveFailedResult env eventId result resultPath now evidence) db
  | manualRetry eventId force files => commit (Db.manualRetry eventId force now files) db
  | manualComplete eventId => commit (Db.manualComplete eventId now) db
  | manualDeadLetter eventId => commit (Db.manualDeadLetter eventId now) db
  | claimNotificationReconciliation eventId resume =>
      commit (Db.claimNotificationReconciliation eventId resume) db
  | reconcileScheduledNotification eventId receipt claimToken =>
      commit (Db.reconcileScheduledNotification eventId receipt now claimToken) db
  | reconcileScheduledNotificationNotSent eventId claimToken =>
      commit (Db.reconcileScheduledNotificationNotSent eventId now claimToken) db
  | markNotificationSessionNeedsReview eventId =>
      commit (Db.markNotificationSessionNeedsReview eventId now) db
  | supersedeNotice eventId => commit (Db.supersedeNotice eventId (.toIso now)) db
  | enqueue envelope => commit (Db.enqueue envelope (.toIso now)) db
  | materializeJobCompletion jobId => commit (Db.materializeJobCompletion env jobId now) db
  | scheduler op => op.next env db
  | other write => write.apply db

/-- The receipt that an operation presents, for its event. -/
def receipt? : NoticeOp → Option (EventId × AccessReceipt)
  | authorizeJobNotification eventId receipt => receipt.map (eventId, ·)
  | recordScheduleJobAccess eventId receipt => some (eventId, receipt)
  | _ => none

/-- A purge does not run ahead of the clock; what the dispatcher does has operations here. -/
def respects (now : Int) : NoticeOp → Prop
  | scheduler (.purge timestamp) => timestamp.millis ≤ now
  | scheduler (.dispatcher _) => False
  | _ => True

/-- The grant that an operation makes, if it makes one. -/
def grant? (now : Int) (db : Db) : NoticeOp → Option Grant
  | authorizeJobNotification eventId receipt =>
      match (db.authorizeJobNotification eventId now receipt).1 with
      | .ok phase => some
          { eventId := eventId
            phase := phase
            instant := now
            receipt := receipt
            before := commit (Db.suppressUnauthorizedScheduledNotifications now) db }
      | .error _ => none
  | _ => none

/-- The nonce that an operation accepts. -/
def accepted? (now : Int) (db : Db) : NoticeOp → Option String
  | authorizeJobNotification eventId receipt =>
      match (db.authorizeJobNotification eventId now receipt).1 with
      | .ok _ => receipt.map (·.nonce)
      | .error _ => none
  | recordScheduleJobAccess eventId receipt =>
      match db.recordScheduleJobAccess eventId receipt now with
      | .ok _ => some receipt.nonce
      | .error _ => none
  | _ => none

/-- A nonce is random: it is never that of another receipt. -/
def issued (table : Table String (EventId × Timestamp)) :
    NoticeOp → Table String (EventId × Timestamp)
  | issueReceipt nonce eventId issuedAt => (table.insert? nonce (eventId, issuedAt)).getD table
  | _ => table

end NoticeOp

/-- An operation, with the instant at which it reads the clock. -/
structure NoticeStep where
  now : Int
  op : NoticeOp

def NoticeStep.next (env : Env) (s : AuthorizationState) (step : NoticeStep) :
    AuthorizationState where
  db := step.op.tables env step.now s.db
  clock := step.now
  issued := step.op.issued s.issued
  grants := (step.op.grant? step.now s.db).toList ++ s.grants
  accepted := (step.op.accepted? step.now s.db).toList ++ s.accepted

/-- The clock does not go back, and a receipt that is presented is one that was signed. -/
def NoticeStep.Admitted (s : AuthorizationState) (step : NoticeStep) : Prop :=
  s.clock ≤ step.now ∧ step.op.respects step.now ∧
    ∀ eventId receipt, step.op.receipt? = some (eventId, receipt) →
      s.issued.get? receipt.nonce = some (eventId, receipt.issuedAt)

/-- The dispatcher with its scheduler, from the tables of the first migration. -/
def notices (env : Env) : TransitionSystem AuthorizationState NoticeStep :=
  (TransitionSystem.ofFun (fun s ↦ ∃ clock, s = .fresh clock) (NoticeStep.next env)).restrict
    NoticeStep.Admitted

/-! ### What a grant decides -/

namespace Db

variable {env : Env} {db db' : Db} {now : Int} {eventId : EventId} {u : Unit}

/-- A receipt that is used up: its nonce is new, and is recorded with the instant. -/
def Consumes (db db' : Db) (eventId : EventId) (now : Int) (receipt : AccessReceipt) : Prop :=
  db.accessNonces.insert? receipt.nonce (eventId, .toIso now) = some db'.accessNonces

/-- An accepted call of `authorizeJobNotification` on a completion. -/
structure Authorizes (db db' : Db) (eventId : EventId) (now : Int) (receipt : Option AccessReceipt)
    (phase : AuthorizationPhase) (event : EventRow) (key : JobId × JobStatus)
    (completion : CompletionResult) : Prop where
  found : db.events.get? eventId = some event
  owned : event.status.isAgentOwned = true
  completed : db.completions.get? key = some completion
  authorizable : db.isAuthorizable eventId now completion = true
  granted : phase = nextPhase completion.notificationAuthorizationPhase
  proved : (completion.notificationAuthorizationPhase = .none ∧ receipt = none ∧
      db'.accessNonces = db.accessNonces) ∨
    (completion.notificationAuthorizationPhase ≠ .none ∧ ∃ presented, receipt = some presented ∧
      receiptMismatch completion presented now = false ∧ db.Consumes db' eventId now presented)
  events : ∀ id event, db.events.get? id = some event →
    ∃ event', db'.events.get? id = some event' ∧ event.Keeps event'
  completions : db'.completions =
    db.completions.updateWhere (fun _ row ↦ reports eventId row) (grantPhase phase now)

theorem consumeNonce_spec {nonce error : String}
    (h : db.consumeNonce nonce eventId now error = .ok db') :
    db'.completions = db.completions ∧ db'.events = db.events ∧
      db.accessNonces.insert? nonce (eventId, .toIso now) = some db'.accessNonces := by
  simp only [consumeNonce, bind_eq_ok, orThrow_eq_ok, Except.ok.injEq] at h
  obtain ⟨nonces, hinsert, rfl⟩ := h
  exact ⟨rfl, rfl, hinsert⟩

theorem checkReceipt_spec {completion : CompletionResult} {receipt : Option AccessReceipt}
    (h : db.checkReceipt eventId completion receipt now = .ok db') :
    db'.completions = db.completions ∧ db'.events = db.events ∧
      ((completion.notificationAuthorizationPhase = .none ∧ receipt = none ∧
          db'.accessNonces = db.accessNonces) ∨
        (completion.notificationAuthorizationPhase ≠ .none ∧ ∃ presented,
          receipt = some presented ∧ receiptMismatch completion presented now = false ∧
            db.Consumes db' eventId now presented)) := by
  unfold checkReceipt at h
  split_ifs at h with hphase
  · simp only [throwIf_bind_eq_ok, Except.ok.injEq, Option.isSome_iff_ne_none, ne_eq,
      not_not] at h
    obtain ⟨hnone, rfl⟩ := h
    exact ⟨rfl, rfl, .inl ⟨hphase, hnone, rfl⟩⟩
  · simp only [bind_eq_ok, orThrow_eq_ok, throwIf_eq_ok, Bool.not_eq_true] at h
    obtain ⟨presented, hpresented, _, hmatch, _, -, hconsume⟩ := h
    obtain ⟨hcompletions, hevents, hnonces⟩ := consumeNonce_spec hconsume
    exact ⟨hcompletions, hevents, .inr ⟨hphase, presented, hpresented, hmatch, hnonces⟩⟩

theorem markWaiting_spec (h : db.markWaiting eventId now = .ok db') :
    db'.completions = db.completions ∧ db'.accessNonces = db.accessNonces := by
  simp only [markWaiting, transitionEvent, bind_eq_ok, throwIf_eq_ok, Except.ok.injEq] at h
  obtain ⟨current, -, _, -, rfl⟩ := h
  split_ifs <;> exact ⟨rfl, rfl⟩

theorem authorizeNotice_spec {receipt : Option AccessReceipt} {phase : AuthorizationPhase}
    (h : db.authorizeNotice eventId now receipt = .ok (phase, db')) :
    ∃ event key completion, db.Authorizes db' eventId now receipt phase event key completion := by
  simp only [authorizeNotice, bind_eq_ok, orThrow_eq_ok, throwIf_eq_ok, Prod.exists,
    Except.ok.injEq, Prod.mk.injEq] at h
  obtain ⟨event, hevent, _, howned, jobId, status, completion, hfind, db₁, hreceipt, db₂, hwaiting,
    rfl, rfl⟩ := h
  obtain ⟨hfound, hauthorizable⟩ := Table.get?_of_find? hfind
  obtain ⟨hcompletions, hevents, hproved⟩ := checkReceipt_spec hreceipt
  obtain ⟨hsame, hnonces, hkept⟩ : db₂.completions = db₁.completions ∧
      db₂.accessNonces = db₁.accessNonces ∧ db₁.KeepsNotices db₂ := by
    split_ifs at hwaiting
    · obtain ⟨hsame, hnonces⟩ := markWaiting_spec hwaiting
      exact ⟨hsame, hnonces, keepsNotices_markWaiting hwaiting⟩
    · obtain rfl := Except.ok.inj hwaiting
      exact ⟨rfl, rfl, .refl db₁⟩
  refine ⟨event, (jobId, status), completion, hevent, ?_, hfound, hauthorizable, rfl, ?_,
    fun id event hid ↦ hkept.events id event (hevents ▸ hid), ?_⟩
  · simpa using fun hother ↦ howned (.inr hother)
  · simp only [Consumes, hnonces]
    exact hproved
  · simp only [hsame, hcompletions]

/-- An accepted call of `recordScheduleJobAccess` uses up a fresh receipt. -/
theorem recordScheduleJobAccess_spec {receipt : AccessReceipt}
    (h : db.recordScheduleJobAccess eventId receipt now = .ok (u, db')) :
    db.Consumes db' eventId now receipt ∧ |now - receipt.issuedAt.millis| ≤ 120000 ∧
      db.KeepsNotices { db' with accessNonces := db.accessNonces } := by
  simp only [recordScheduleJobAccess, bind_eq_ok, throwIf_eq_ok, Except.ok.injEq,
    Prod.mk.injEq] at h
  obtain ⟨event, -, _, hmatch, db₁, hwaiting, db₂, hconsume, _, -, -, rfl⟩ := h
  simp only [not_or, not_lt] at hmatch
  obtain ⟨hcompletions, hevents, hinsert⟩ := consumeNonce_spec hconsume
  have hkept : db.KeepsNotices db₁ := by
    split_ifs at hwaiting
    · exact keepsNotices_markWaiting hwaiting
    · obtain rfl := Except.ok.inj hwaiting
      exact .refl db
  have hchecked : db₁.KeepsNotices { db₂ with
      events := db₂.events.updateKey eventId fun event ↦
        { event with scheduleAccessCheckedAt := some receipt.issuedAt }
      accessNonces := db.accessNonces } := by
    refine .of_rows ?_ ?_ hkept.nonces.symm
    · rw [hcompletions]
      exact .refl (fun _ ↦ .refl) _
    · rw [hevents]
      exact Table.evolves_updateKey (fun _ ↦ .refl) fun _ _ ↦ ⟨rfl, rfl⟩
  refine ⟨?_, hmatch.2.2.2.2.2.2.2, hkept.trans hchecked⟩
  rw [Consumes, ← hkept.nonces]
  exact hinsert

end Db

/-! ### What a step does -/

namespace NoticeOp

/-- The operations that keep notices and nonces. -/
def isRoutine : NoticeOp → Bool
  | authorizeJobNotification _ _ | recordScheduleJobAccess _ _ | scheduler (.purge _) => false
  | _ => true

open Db in
theorem keepsNotices (env : Env) {db : Db} {now : Int} {op : NoticeOp}
    (hlinked : db.NoticesLinked) (hrespects : op.respects now) (hroutine : op.isRoutine = true) :
    db.KeepsNotices (op.tables env now db) := by
  have hcommit : ∀ {α : Type} {body : Db → Except String (α × Db)},
      (∀ a db', body db = .ok (a, db') → db.KeepsNotices db') → db.KeepsNotices (commit body db) :=
    fun hbody ↦ commit_induction (.refl db) hbody
  cases op with
  | issueReceipt => exact .refl db
  | authorizeJobNotification => cases hroutine
  | recordScheduleJobAccess => cases hroutine
  | suppressUnauthorizedScheduledNotifications =>
      exact hcommit fun _ _ hok ↦ keepsNotices_suppressUnauthorized hok
  | beginDispatch eventId resultPath =>
      simp only [tables, Db.beginDispatch, afterSuppression]
      split
      · exact .refl db
      · rename_i hsuppress
        exact (keepsNotices_suppressUnauthorized hsuppress).trans
          (commit_induction (.refl _) fun _ _ hok ↦ keepsNotices_startDispatch hok)
  | markWaiting eventId =>
      refine hcommit fun _ db' hok ↦ ?_
      simp only [bind_eq_ok, Except.ok.injEq, Prod.mk.injEq] at hok
      obtain ⟨db₁, hwaiting, -, rfl⟩ := hok
      exact keepsNotices_markWaiting hwaiting
  | markBlocked => exact hcommit fun _ _ hok ↦ keepsNotices_markBlocked hok
  | markNeedsReview => exact hcommit fun _ _ hok ↦ keepsNotices_markNeedsReview hok
  | recordPreDispatchFailure =>
      exact hcommit fun _ _ hok ↦ keepsNotices_recordPreDispatchFailure hok
  | recordSafePromptFailure =>
      exact hcommit fun _ _ hok ↦ keepsNotices_recordSafePromptFailure hok
  | recordWaitingError => exact hcommit fun _ _ hok ↦ keepsNotices_recordWaitingError hok
  | recoverStaleDispatching =>
      exact hcommit fun _ _ hok ↦ keepsNotices_recoverStaleDispatching hok
  | saveCompleted => exact hcommit fun _ _ hok ↦ keepsNotices_saveCompleted hok
  | saveFailedResult => exact hcommit fun _ _ hok ↦ keepsNotices_saveFailedResult hok
  | manualRetry => exact hcommit fun _ _ hok ↦ keepsNotices_manualRetry hlinked hok
  | manualComplete => exact hcommit fun _ _ hok ↦ keepsNotices_manualComplete hok
  | manualDeadLetter => exact hcommit fun _ _ hok ↦ keepsNotices_manualDeadLetter hok
  | claimNotificationReconciliation =>
      exact hcommit fun _ _ hok ↦ keepsNotices_claimNotificationReconciliation hok
  | reconcileScheduledNotification =>
      exact hcommit fun _ _ hok ↦ keepsNotices_reconcileScheduledNotification hok
  | reconcileScheduledNotificationNotSent =>
      exact hcommit fun _ _ hok ↦ keepsNotices_reconcileScheduledNotificationNotSent hok
  | markNotificationSessionNeedsReview =>
      exact hcommit fun _ _ hok ↦ keepsNotices_markNotificationSessionNeedsReview hok
  | supersedeNotice => exact hcommit fun _ _ hok ↦ keepsNotices_supersedeNotice hok
  | enqueue => exact hcommit fun _ _ hok ↦ keepsNotices_enqueue hok
  | materializeJobCompletion =>
      exact hcommit fun _ _ hok ↦ keepsNotices_materializeJobCompletion hok
  | scheduler op =>
      refine keepsNotices_schedulerOp (fun timestamp hpurge ↦ ?_) fun write hwrite ↦ ?_
      · subst hpurge
        cases hroutine
      · subst hwrite
        exact hrespects
  | other write =>
      refine .of_rows (.refl (fun _ ↦ .refl) _) ?_ rfl
      exact Table.evolves_updateKey (fun _ ↦ .refl) fun _ _ ↦ ⟨rfl, rfl⟩

end NoticeOp

/-- What a step does to the nonces, recorded and accepted. -/
inductive NonceEffect (now : Int) (s t : AuthorizationState) : Prop
  | same (accepted : t.accepted = s.accepted) (nonces : t.db.accessNonces = s.db.accessNonces)
  | consumed {eventId : EventId} {receipt : AccessReceipt}
      (accepted : t.accepted = receipt.nonce :: s.accepted)
      (consumes : s.db.Consumes t.db eventId now receipt)
      (recent : |now - receipt.issuedAt.millis| ≤ 120000)
      (issued : s.issued.get? receipt.nonce = some (eventId, receipt.issuedAt))
  | purged {timestamp : Timestamp} (accepted : t.accepted = s.accepted)
      (past : timestamp.millis ≤ now)
      (nonces : t.db.accessNonces =
        s.db.accessNonces.deleteWhere fun _ nonce ↦ nonce.2 ≤ timestamp.add (-86400))

/-- What a step does to the notices: it keeps them, or it makes a grant. -/
inductive NoticeEffect (now : Int) (s t : AuthorizationState) : Prop
  | kept (grants : t.grants = s.grants)
      (notices : s.db.KeepsNotices { t.db with accessNonces := s.db.accessNonces })
  | granted {grant : Grant} {event : EventRow} {key : JobId × JobStatus}
      {completion : CompletionResult} (grants : t.grants = grant :: s.grants)
      (instant : grant.instant = now) (notices : s.db.KeepsNotices grant.before)
      (authorizes : grant.before.Authorizes t.db grant.eventId now grant.receipt grant.phase event
        key completion)

/-- A receipt that matches is a recent one. -/
theorem recent_of_match {completion : CompletionResult} {receipt : AccessReceipt} {now : Int}
    (h : Db.receiptMismatch completion receipt now = false) :
    |now - receipt.issuedAt.millis| ≤ 120000 := by
  simp only [Db.receiptMismatch, decide_eq_false_iff_not, not_or, not_lt] at h
  exact h.2.2.2.2.2.2

open Db in
theorem NoticeStep.effect (env : Env) {s : AuthorizationState} {step : NoticeStep}
    (hlinked : s.db.NoticesLinked) (hadmitted : step.Admitted s) :
    NonceEffect step.now s (step.next env s) ∧ NoticeEffect step.now s (step.next env s) := by
  obtain ⟨now, op⟩ := step
  obtain ⟨-, hrespects, hreceipt⟩ := hadmitted
  by_cases hroutine : op.isRoutine = true
  · have hkept := NoticeOp.keepsNotices env hlinked hrespects hroutine
    have hgrants : op.grant? now s.db = none := by
      cases op <;> first | rfl | cases hroutine
    have haccepted : op.accepted? now s.db = none := by
      cases op <;> first | rfl | cases hroutine
    refine ⟨.same (by simp [next, haccepted]) hkept.nonces, .kept (by simp [next, hgrants]) ?_⟩
    exact hkept.trans (.of_eq rfl rfl hkept.nonces.symm)
  cases op with
  | authorizeJobNotification eventId receipt =>
      simp only [next, NoticeOp.tables, NoticeOp.grant?, NoticeOp.accepted?,
        authorizeJobNotification, afterSuppression]
      cases hsuppress : suppressUnauthorizedScheduledNotifications now s.db with
      | error e => exact ⟨.same rfl rfl, .kept rfl (.of_eq rfl rfl rfl)⟩
      | ok result =>
          obtain ⟨u, db₁⟩ := result
          have hkept := keepsNotices_suppressUnauthorized hsuppress
          simp only [transaction, commit_of_ok hsuppress]
          cases hbody : authorizeNotice eventId now receipt db₁ with
          | error e =>
              exact ⟨.same rfl hkept.nonces, .kept rfl (hkept.trans (.of_eq rfl rfl hkept.nonces.symm))⟩
          | ok result =>
              obtain ⟨phase, db₂⟩ := result
              obtain ⟨event, key, completion, hauthorizes⟩ := authorizeNotice_spec hbody
              refine ⟨?_, .granted rfl rfl hkept hauthorizes⟩
              rcases hauthorizes.proved with ⟨-, rfl, hnonces⟩ | ⟨-, presented, rfl, hmatch, hconsumes⟩
              · exact .same rfl (hnonces.trans hkept.nonces)
              · refine .consumed rfl ?_ (recent_of_match hmatch) (hreceipt eventId presented rfl)
                rw [Consumes, ← hkept.nonces]
                exact hconsumes
  | recordScheduleJobAccess eventId receipt =>
      simp only [next, NoticeOp.tables, NoticeOp.grant?, NoticeOp.accepted?]
      cases hbody : Db.recordScheduleJobAccess eventId receipt now s.db with
      | error e =>
          rw [commit_of_error hbody]
          exact ⟨.same rfl rfl, .kept rfl (.of_eq rfl rfl rfl)⟩
      | ok result =>
          obtain ⟨u, db₁⟩ := result
          obtain ⟨hconsumes, hrecent, hkept⟩ := recordScheduleJobAccess_spec hbody
          rw [commit_of_ok hbody]
          exact ⟨.consumed rfl hconsumes hrecent (hreceipt eventId receipt rfl), .kept rfl hkept⟩
  | scheduler op =>
      cases op with
      | purge timestamp =>
          simp only [next, NoticeOp.tables, NoticeOp.grant?, NoticeOp.accepted?, SchedulerOp.next]
          cases hbody : Db.purge timestamp s.db with
          | error e =>
              rw [commit_of_error hbody]
              exact ⟨.same rfl rfl, .kept rfl (.of_eq rfl rfl rfl)⟩
          | ok result =>
              obtain ⟨u, db₁⟩ := result
              obtain ⟨db₂, hkept, hcompletions, hevents, hnonces⟩ := purge_notices hbody
              rw [commit_of_ok hbody]
              refine ⟨.purged rfl hrespects hnonces, .kept rfl (hkept.trans ?_)⟩
              exact .of_eq hcompletions hevents hkept.nonces.symm
      | _ => exact absurd rfl hroutine
  | _ => exact absurd rfl hroutine

/-! ### The authority behind a grant -/

/-- The schedule of the completion is in force at the revision it is bound to, its authorization
has not expired, and the completion is at most 900 seconds old. -/
def Db.InForce (db : Db) (completion : CompletionResult) (now : Int) : Prop :=
  ∃ tenantId ownerId scheduleId runId revision schedule row,
    completion.owner = .schedule tenantId ownerId scheduleId runId revision ∧
      db.schedules.get? scheduleId = some schedule ∧
      (schedule.state = .active ∨ schedule.state = .needsReview) ∧ schedule.revision = revision ∧
      db.revision? scheduleId revision = some row ∧ now < row.expiresAt.millis ∧
      now ≤ completion.materializedAt.millis + 900000

/-- The receipt names the owner of the completion, and the workspace and channel of its
destination. -/
def AccessReceipt.Names (receipt : AccessReceipt) (completion : CompletionResult) : Prop :=
  completion.owner.ownerId? = some receipt.userId ∧
    ∃ target, completion.destination = .workResult target ∧
      target.workspaceId? = some receipt.workspaceId ∧ target.channelId? = some receipt.channelId

/-- What the grant of the write phase rests on, after the grants in `earlier`: the last one for
its event is the preflight that its receipt follows. -/
def Grant.HasAuthority (grant : Grant) (earlier : List Grant) : Prop :=
  ∃ event key completion receipt preflight,
    grant.before.events.get? grant.eventId = some event ∧
      (event.status = .dispatching ∨ event.status = .waitingAgent) ∧
      grant.before.completions.get? key = some completion ∧
      completion.notificationEventId = some grant.eventId ∧
      grant.before.InForce completion grant.instant ∧
      grant.receipt = some receipt ∧ receipt.Names completion ∧
      |grant.instant - receipt.issuedAt.millis| ≤ 120000 ∧
      earlier.find? (·.eventId = grant.eventId) = some preflight ∧
      preflight.phase = .preflight ∧ preflight.instant ≤ receipt.issuedAt.millis ∧
      preflight.instant ≤ grant.instant

theorem names_of_match {completion : CompletionResult} {receipt : AccessReceipt} {now : Int}
    (h : Db.receiptMismatch completion receipt now = false) : receipt.Names completion := by
  simp only [Db.receiptMismatch, decide_eq_false_iff_not, not_or, ne_eq, not_not] at h
  obtain ⟨-, htarget, hworkspace, hchannel, howner, -, -⟩ := h
  cases hdestination : completion.destination with
  | none => simp [hdestination, JobDestination.target?] at htarget
  | slackThread => simp [hdestination, JobDestination.target?] at htarget
  | workResult target =>
      simp only [hdestination, JobDestination.target?, Option.bind_some] at hworkspace hchannel
      exact ⟨howner, target, hdestination, hworkspace, hchannel⟩

/-- A receipt that matches was issued after the preflight. -/
theorem preflight_le_of_match {completion : CompletionResult} {receipt : AccessReceipt}
    {now instant : Int} (h : Db.receiptMismatch completion receipt now = false)
    (hat : completion.notificationPreflightAuthorizedAt = some (.toIso instant)) :
    instant ≤ receipt.issuedAt.millis := by
  simp only [Db.receiptMismatch, decide_eq_false_iff_not, not_or, hat, Option.all_some,
    decide_eq_true_eq, not_lt, Timestamp.millis_toIso] at h
  exact h.2.2.2.2.2.1

namespace Db

variable {db db' : Db} {eventId : EventId} {now : Int} {completion : CompletionResult}

theorem inForce_of_isAuthorizable (h : db.isAuthorizable eventId now completion = true) :
    completion.notificationEventId = some eventId ∧
      completion.notificationAuthorizationPhase ≠ .write ∧ db.InForce completion now := by
  simp only [isAuthorizable, decide_eq_true_eq, Option.any_eq_true] at h
  obtain ⟨hreports, hgrantable, ⟨scheduleId, schedule, revision, row⟩, hauthority, hwithin⟩ := h
  refine ⟨by simpa [reports] using hreports, fun hwrite ↦ ?_, ?_⟩
  · simp [isGrantable, hwrite] at hgrantable
  simp only [withinAuthority, decide_eq_true_eq] at hwithin
  obtain ⟨hrecent, hstate, hrevision, hexpires⟩ := hwithin
  unfold authority? at hauthority
  split at hauthority
  · cases hauthority
  · rename_i tenantId ownerId id runId number howner
    simp only [Option.bind_eq_bind, Option.bind_eq_some_iff, Option.some.injEq,
      Prod.mk.injEq] at hauthority
    obtain ⟨_, hschedule, _, hrow, rfl, rfl, rfl, rfl⟩ := hauthority
    exact ⟨tenantId, ownerId, id, runId, number, _, _, howner, hschedule, by simpa using hstate,
      hrevision, hrow, hexpires, hrecent⟩

end Db

/-! ### Grants and phases -/

/-- The tables know the grants: a write that was granted is still the phase of its notice, and
a notice in the preflight phase had its preflight last. -/
structure Tracks (db : Db) (clock : Int) (grants : List Grant) : Prop where
  linked : db.NoticesLinked
  written : ∀ grant ∈ grants, grant.phase = .write →
    ∃ key row, db.completions.get? key = some row ∧
      row.notificationEventId = some grant.eventId ∧ row.notificationAuthorizationPhase = .write
  preflighted : ∀ key row eventId, db.completions.get? key = some row →
    row.notificationEventId = some eventId → row.notificationAuthorizationPhase = .preflight →
    ∃ grant, grants.find? (·.eventId = eventId) = some grant ∧ grant.phase = .preflight ∧
      grant.instant ≤ clock ∧ row.notificationPreflightAuthorizedAt = some (.toIso grant.instant)

theorem CompletionResult.Keeps.write {row row' : CompletionResult} (h : row.Keeps row')
    (hwrite : row.notificationAuthorizationPhase = .write) :
    row'.notificationAuthorizationPhase = .write := by
  rcases h.capability with ⟨hsame, -⟩ | ⟨hreset, -⟩
  · exact hsame.trans hwrite
  · exact absurd hwrite hreset

namespace Tracks

variable {db db' : Db} {clock now : Int} {grants : List Grant} {grant : Grant} {event : EventRow}
  {key : JobId × JobStatus} {completion : CompletionResult}

theorem of_eq (h : Tracks db clock grants) (hcompletions : db'.completions = db.completions)
    (hevents : db'.events = db.events) : Tracks db' clock grants where
  linked key row eventId hrow hevent := by
    rw [hcompletions] at hrow
    simpa only [Db.IsNoticeOf, hevents] using h.linked key row eventId hrow hevent
  written := by
    rw [hcompletions]
    exact h.written
  preflighted := by
    rw [hcompletions]
    exact h.preflighted

theorem kept (h : Tracks db clock grants) (hkeeps : db.KeepsNotices db') (hclock : clock ≤ now) :
    Tracks db' now grants where
  linked := hkeeps.linked h.linked
  written grant hgrant hphase := by
    obtain ⟨key, row, hrow, hevent, hwrite⟩ := h.written grant hgrant hphase
    obtain ⟨row', hrow', hrows⟩ := hkeeps.completions key row hrow
    exact ⟨key, row', hrow', hrows.event.trans hevent, hrows.write hwrite⟩
  preflighted key row' eventId hrow' hevent hphase := by
    cases hrow : db.completions.get? key with
    | none =>
        have hnone := (hkeeps.inserted key row' hrow' hrow).1
        rw [hphase] at hnone
        cases hnone
    | some row =>
        obtain ⟨other, hother, hrows⟩ := hkeeps.completions key row hrow
        obtain rfl : other = row' := Option.some.inj (hother.symm.trans hrow')
        rcases hrows.capability with ⟨hsame, hat⟩ | ⟨-, hreset⟩
        · obtain ⟨grant, hgrant, hpreflight, hle, hinstant⟩ := h.preflighted key row eventId hrow
            (hrows.event ▸ hevent) (hsame ▸ hphase)
          exact ⟨grant, hgrant, hpreflight, hle.trans hclock, hat.trans hinstant⟩
        · rw [hphase] at hreset
          cases hreset

/-- A grant is for the one completion that its event reports. -/
theorem row_eq (h : Tracks db clock grants)
    (hauthorizes : db.Authorizes db' grant.eventId now grant.receipt grant.phase event key
      completion) {key' : JobId × JobStatus} {row : CompletionResult}
    (hrow : db.completions.get? key' = some row)
    (hevent : row.notificationEventId = some grant.eventId) : row = completion :=
  (h.linked.unique hrow hauthorizes.completed hevent
    (Db.inForce_of_isAuthorizable hauthorizes.authorizable).1).2

theorem granted (h : Tracks db clock grants) (hclock : clock ≤ now) (hinstant : grant.instant = now)
    (hauthorizes : db.Authorizes db' grant.eventId now grant.receipt grant.phase event key
      completion) : Tracks db' now (grant :: grants) where
  linked key' row' eventId hrow' hevent := by
    rw [hauthorizes.completions, Table.get?_updateWhere, Option.map_eq_some_iff] at hrow'
    obtain ⟨row, hrow, rfl⟩ := hrow'
    have hlinked : row.notificationEventId = some eventId := by
      split_ifs at hevent <;> exact hevent
    obtain ⟨event, hfound, hsource, hid⟩ := h.linked key' row eventId hrow hlinked
    obtain ⟨event', hfound', hkeeps⟩ := hauthorizes.events eventId event hfound
    exact ⟨event', hfound', hkeeps.source.trans hsource, hkeeps.externalEventId.trans hid⟩
  written other hother hphase := by
    rcases List.mem_cons.1 hother with rfl | hold
    · have hreports := (Db.inForce_of_isAuthorizable hauthorizes.authorizable).1
      refine ⟨key, Db.grantPhase other.phase now completion, ?_, hreports, hphase⟩
      simp [hauthorizes.completions, hauthorizes.completed, Db.reports, hreports]
    · obtain ⟨key', row, hrow, hevent, hwrite⟩ := h.written other hold hphase
      have hne : row.notificationEventId ≠ some grant.eventId := by
        intro hsame
        have := h.row_eq hauthorizes hrow hsame
        exact (Db.inForce_of_isAuthorizable hauthorizes.authorizable).2.1 (this ▸ hwrite)
      refine ⟨key', row, ?_, hevent, hwrite⟩
      simp [hauthorizes.completions, hrow, Db.reports, hne]
  preflighted key' row' eventId hrow' hevent hphase := by
    rw [hauthorizes.completions, Table.get?_updateWhere, Option.map_eq_some_iff] at hrow'
    obtain ⟨row, hrow, rfl⟩ := hrow'
    split_ifs at hevent hphase ⊢ with hreports
    · have hsame : some grant.eventId = some eventId := by
        simp only [Db.reports, decide_eq_true_eq] at hreports
        exact hreports.symm.trans hevent
      have hpreflight : grant.phase = .preflight := hphase
      refine ⟨grant, by simp [Option.some.inj hsame], hpreflight, hinstant.le, ?_⟩
      simp [Db.grantPhase, hpreflight, hinstant]
    · obtain ⟨old, hold, hpreflight, hle, hat⟩ := h.preflighted key' row eventId hrow hevent hphase
      have hne : grant.eventId ≠ eventId := by
        rintro rfl
        exact hreports (by simp [Db.reports, hevent])
      exact ⟨old, by simp [hne, hold], hpreflight, hle.trans hclock, hat⟩

/-- A write is granted to an event that had none, with authority. -/
theorem write_granted (h : Tracks db clock grants) (hclock : clock ≤ now)
    (hbefore : grant.before = db) (hinstant : grant.instant = now)
    (hauthorizes : db.Authorizes db' grant.eventId now grant.receipt grant.phase event key
      completion) (hwrite : grant.phase = .write) :
    grant.HasAuthority grants ∧ ∀ other ∈ grants, other.phase = .write →
      other.eventId ≠ grant.eventId := by
  obtain ⟨hevent, hunwritten, hforce⟩ := Db.inForce_of_isAuthorizable hauthorizes.authorizable
  have hphase : completion.notificationAuthorizationPhase = .preflight := by
    have hgranted := hauthorizes.granted
    rw [hwrite] at hgranted
    cases hphase : completion.notificationAuthorizationPhase with
    | none => simp [hphase, Db.nextPhase] at hgranted
    | preflight => rfl
    | write => exact absurd hphase hunwritten
  refine ⟨?_, fun other hother hother' hsame ↦ ?_⟩
  · rcases hauthorizes.proved with ⟨hnone, -, -⟩ | ⟨-, receipt, hreceipt, hmatch, -⟩
    · rw [hphase] at hnone
      cases hnone
    obtain ⟨preflight, hfind, hpreflight, hle, hat⟩ := h.preflighted key completion grant.eventId
      hauthorizes.completed hevent hphase
    subst hbefore hinstant
    exact ⟨event, key, completion, receipt, preflight, hauthorizes.found,
      by simpa [EventStatus.isAgentOwned] using hauthorizes.owned, hauthorizes.completed, hevent,
      hforce, hreceipt, names_of_match hmatch, recent_of_match hmatch, hfind, hpreflight,
      preflight_le_of_match hmatch hat, hle.trans hclock⟩
  · obtain ⟨key', row, hrow, hreported, hwritten⟩ := h.written other hother hother'
    have hrow' := h.row_eq hauthorizes hrow (hsame ▸ hreported)
    exact hunwritten (hrow' ▸ hwritten)

end Tracks

/-! ### Nonces -/

/-- A nonce that was accepted close to the issue of its receipt: it is still recorded, or a day
has passed since. -/
def Spent (s : AuthorizationState) (nonce : String) : Prop :=
  ∃ eventId issuedAt instant, s.issued.get? nonce = some (eventId, issuedAt) ∧
    |instant - issuedAt.millis| ≤ 120000 ∧
    (s.db.accessNonces.get? nonce = some (eventId, .toIso instant) ∨
      instant + 86399001 ≤ s.clock)

/-- What a purge deletes was recorded a day before its instant, up to a second. -/
theorem day_le_of_purged {instant : Int} {timestamp : Timestamp}
    (h : Timestamp.toIso instant ≤ timestamp.add (-86400)) :
    instant + 86399001 ≤ timestamp.millis := by
  have hsec := Timestamp.sec_le_sec h
  rw [Timestamp.sec_add] at hsec
  simp only [Timestamp.toIso] at hsec
  omega

section Nonces

variable {s t : AuthorizationState} {now : Int}

theorem Spent.of_recorded {nonce : String} (h : Spent s nonce)
    (hissued : ∀ nonce receipt, s.issued.get? nonce = some receipt →
      t.issued.get? nonce = some receipt)
    (hclock : s.clock ≤ t.clock)
    (hnonces : ∀ eventId instant, s.db.accessNonces.get? nonce = some (eventId, .toIso instant) →
      t.db.accessNonces.get? nonce = some (eventId, .toIso instant) ∨
        instant + 86399001 ≤ t.clock) : Spent t nonce := by
  obtain ⟨eventId, issuedAt, instant, hreceipt, hrecent, hstored | hold⟩ := h
  · exact ⟨eventId, issuedAt, instant, hissued _ _ hreceipt, hrecent, hnonces _ _ hstored⟩
  · exact ⟨eventId, issuedAt, instant, hissued _ _ hreceipt, hrecent, .inr (hold.trans hclock)⟩

/-- A nonce that was accepted is not accepted again: it is recorded, or its receipt is old. -/
theorem not_consumes_of_spent {eventId : EventId} {receipt : AccessReceipt} {db' : Db}
    (h : Spent s receipt.nonce) (hclock : s.clock ≤ now)
    (hissued : s.issued.get? receipt.nonce = some (eventId, receipt.issuedAt))
    (hrecent : |now - receipt.issuedAt.millis| ≤ 120000) :
    ¬s.db.Consumes db' eventId now receipt := by
  intro hconsumes
  obtain ⟨eventId', issuedAt, instant, hissued', hinstant, hstored | hold⟩ := h
  · rw [Table.get?_eq_none_of_insert? hconsumes] at hstored
    cases hstored
  · rw [hissued] at hissued'
    obtain ⟨-, rfl⟩ := Prod.mk.inj (Option.some.inj hissued')
    rw [abs_le] at hrecent hinstant
    omega

theorem NonceEffect.spent (h : NonceEffect now s t) (hnow : t.clock = now) (hclock : s.clock ≤ now)
    (hissued : ∀ nonce receipt, s.issued.get? nonce = some receipt →
      t.issued.get? nonce = some receipt)
    (hspent : ∀ nonce ∈ s.accepted, Spent s nonce) : ∀ nonce ∈ t.accepted, Spent t nonce := by
  intro nonce hnonce
  cases h with
  | same haccepted hnonces =>
      rw [haccepted] at hnonce
      refine (hspent nonce hnonce).of_recorded hissued (hnow ▸ hclock) fun _ _ hstored ↦ ?_
      exact .inl (hnonces ▸ hstored)
  | @consumed eventId receipt haccepted hconsumes hrecent hreceipt =>
      have hget := Table.get?_insert? hconsumes
      rw [haccepted] at hnonce
      rcases List.mem_cons.1 hnonce with rfl | hold
      · exact ⟨eventId, receipt.issuedAt, now, hissued _ _ hreceipt, hrecent,
          .inl ((hget _).trans (if_pos rfl))⟩
      · refine (hspent nonce hold).of_recorded hissued (hnow ▸ hclock) fun _ _ hstored ↦ .inl ?_
        rw [hget, if_neg, hstored]
        rintro rfl
        rw [Table.get?_eq_none_of_insert? hconsumes] at hstored
        cases hstored
  | @purged timestamp haccepted hpast hnonces =>
      rw [haccepted] at hnonce
      refine (hspent nonce hnonce).of_recorded hissued (hnow ▸ hclock) fun _ instant hstored ↦ ?_
      rw [hnonces, Table.get?_deleteWhere, hstored, Option.filter_some]
      by_cases hdeleted : Timestamp.toIso instant ≤ timestamp.add (-86400)
      · exact .inr (hnow ▸ (day_le_of_purged hdeleted).trans hpast)
      · simp [hdeleted]

theorem NonceEffect.nodup (h : NonceEffect now s t) (hclock : s.clock ≤ now)
    (hspent : ∀ nonce ∈ s.accepted, Spent s nonce) (hnodup : s.accepted.Nodup) :
    t.accepted.Nodup := by
  cases h with
  | same haccepted => exact haccepted ▸ hnodup
  | consumed haccepted hconsumes hrecent hissued =>
      rw [haccepted, List.nodup_cons]
      exact ⟨fun hmem ↦ not_consumes_of_spent (hspent _ hmem) hclock hissued hrecent hconsumes,
        hnodup⟩
  | purged haccepted => exact haccepted ▸ hnodup

end Nonces

/-! ### Every run -/

/-- What holds in every state of a run. -/
structure Sound (s : AuthorizationState) : Prop where
  tracks : Tracks s.db s.clock s.grants
  once : ((s.grants.filter fun grant ↦ grant.phase = .write).map (·.eventId)).Nodup
  authority : ∀ later grant earlier, s.grants = later ++ grant :: earlier →
    grant.phase = .write → grant.HasAuthority earlier
  spent : ∀ nonce ∈ s.accepted, Spent s nonce
  accepted : s.accepted.Nodup

theorem sound_fresh (clock : Int) : Sound (.fresh clock) where
  tracks := by
    refine ⟨fun key row eventId hrow ↦ ?_, fun grant hgrant ↦ ?_, fun key row eventId hrow ↦ ?_⟩
    · cases hrow
    · cases hgrant
    · cases hrow
  once := List.nodup_nil
  authority later grant earlier h := by simp [AuthorizationState.fresh] at h
  spent nonce hnonce := by cases hnonce
  accepted := List.nodup_nil

theorem NoticeOp.issued_get? {table : Table String (EventId × Timestamp)} {op : NoticeOp}
    {nonce : String} {receipt : EventId × Timestamp} (h : table.get? nonce = some receipt) :
    (op.issued table).get? nonce = some receipt := by
  cases op with
  | issueReceipt drawn eventId issuedAt =>
      simp only [NoticeOp.issued]
      cases hinsert : table.insert? drawn (eventId, issuedAt) with
      | none => exact h
      | some table' =>
          rw [Option.getD_some, Table.get?_insert? hinsert, if_neg, h]
          rintro rfl
          rw [Table.get?_eq_none_of_insert? hinsert] at h
          cases h
  | _ => exact h

theorem Sound.step {env : Env} {s t : AuthorizationState} {step : NoticeStep}
    (hstep : (notices env).step s step t) (h : Sound s) : Sound t := by
  obtain ⟨hadmitted, rfl⟩ := hstep
  have hclock : s.clock ≤ step.now := hadmitted.1
  obtain ⟨hnonces, hnotices⟩ := NoticeStep.effect env h.tracks.linked hadmitted
  have hspent := hnonces.spent rfl hclock (fun _ _ ↦ NoticeOp.issued_get?) h.spent
  have haccepted := hnonces.nodup hclock h.spent h.accepted
  cases hnotices with
  | kept hgrants hkept =>
      refine ⟨?_, hgrants ▸ h.once, hgrants ▸ h.authority, hspent, haccepted⟩
      rw [hgrants]
      exact (h.tracks.kept hkept hclock).of_eq rfl rfl
  | @granted grant event key completion hgrants hinstant hkept hauthorizes =>
      have hbefore := h.tracks.kept hkept hclock
      have hwrite := hbefore.write_granted le_rfl rfl hinstant hauthorizes
      refine ⟨?_, ?_, fun later other earlier hsplit hphase ↦ ?_, hspent, haccepted⟩
      · rw [hgrants]
        exact hbefore.granted le_rfl hinstant hauthorizes
      · rw [hgrants, List.filter_cons]
        split_ifs with hphase
        · rw [List.map_cons, List.nodup_cons]
          refine ⟨fun hmem ↦ ?_, h.once⟩
          obtain ⟨other, hother, hsame⟩ := List.mem_map.1 hmem
          rw [List.mem_filter, decide_eq_true_eq] at hother
          exact (hwrite (by simpa using hphase)).2 other hother.1 hother.2 hsame
        · exact h.once
      · rw [hgrants] at hsplit
        cases later with
        | nil =>
            obtain ⟨rfl, rfl⟩ := List.cons.inj hsplit
            exact (hwrite hphase).1
        | cons head later =>
            exact h.authority later other earlier (List.cons.inj hsplit).2 hphase

theorem sound_of_reachable {env : Env} {s : AuthorizationState} (h : (notices env).Reachable s) :
    Sound s := by
  refine h.invariant (fun hinit ↦ ?_) Sound.step
  obtain ⟨clock, rfl⟩ := hinit
  exact sound_fresh clock

/-- No operation takes the write phase away from a notice. -/
theorem write_kept {env : Env} {s t : AuthorizationState} {step : NoticeStep}
    (hstep : (notices env).step s step t) (h : Sound s) {key : JobId × JobStatus}
    {row : CompletionResult} (hrow : s.db.completions.get? key = some row)
    (hwrite : row.notificationAuthorizationPhase = .write) :
    ∃ row', t.db.completions.get? key = some row' ∧
      row'.notificationEventId = row.notificationEventId ∧
      row'.notificationAuthorizationPhase = .write := by
  obtain ⟨hadmitted, rfl⟩ := hstep
  obtain ⟨-, hnotices⟩ := NoticeStep.effect env h.tracks.linked hadmitted
  cases hnotices with
  | kept hgrants hkept =>
      obtain ⟨row', hrow', hkeeps⟩ := hkept.completions key row hrow
      exact ⟨row', hrow', hkeeps.event, hkeeps.write hwrite⟩
  | @granted grant event key' completion hgrants hinstant hkept hauthorizes =>
      obtain ⟨row', hrow', hkeeps⟩ := hkept.completions key row hrow
      have hne : row'.notificationEventId ≠ some grant.eventId := by
        intro hsame
        have hcompletion := (h.tracks.kept hkept hadmitted.1).row_eq hauthorizes hrow' hsame
        exact (Db.inForce_of_isAuthorizable hauthorizes.authorizable).2.1
          (hcompletion ▸ hkeeps.write hwrite)
      refine ⟨row', ?_, hkeeps.event, hkeeps.write hwrite⟩
      simp [hauthorizes.completions, hrow', Db.reports, hne]

/-- In every state of a run the write phase has been granted at most once for an event, each
time with authority; it is never lost again; and no nonce has been accepted twice. -/
theorem write_authorized_once {env : Env} {s : AuthorizationState}
    (h : (notices env).Reachable s) :
    ((s.grants.filter fun grant ↦ grant.phase = .write).map (·.eventId)).Nodup ∧
      (∀ later grant earlier, s.grants = later ++ grant :: earlier → grant.phase = .write →
        grant.HasAuthority earlier) ∧
      (∀ steps t, (notices env).Run s steps t → ∀ key row,
        s.db.completions.get? key = some row → row.notificationAuthorizationPhase = .write →
        ∃ row', t.db.completions.get? key = some row' ∧
          row'.notificationEventId = row.notificationEventId ∧
          row'.notificationAuthorizationPhase = .write) ∧
      s.accepted.Nodup := by
  have hsound := sound_of_reachable h
  refine ⟨hsound.once, hsound.authority, fun steps t hrun key row hrow hwrite ↦ ?_,
    hsound.accepted⟩
  have hkept := hrun.preserves
    (I := fun t ↦ Sound t ∧ ∃ row', t.db.completions.get? key = some row' ∧
      row'.notificationEventId = row.notificationEventId ∧
      row'.notificationAuthorizationPhase = .write)
    (fun hstep ⟨hsound, row', hrow', hevent, hwrite'⟩ ↦ ?_) ⟨hsound, row, hrow, rfl, hwrite⟩
  · exact hkept.2
  · obtain ⟨row'', hrow'', hevent', hwrite''⟩ := write_kept hstep hsound hrow' hwrite'
    exact ⟨hsound.step hstep, row'', hrow'', hevent'.trans hevent, hwrite''⟩

/-! ### A reported job -/

namespace ReportedJob

open DailyReminder TransitionSystem

def input : RevisionInput := { DailyReminder.input with action := .workReadOnly }

def binding : JobBinding :=
  ⟨.schedule "T1" "U1" "S1" (some 0) 1, .workResult (.channel "T1" "C1")⟩

/-- The job that the due event has started, and that has completed. -/
def job : JobRow where
  sourceEventId := "evt_1"
  jobKey := "report"
  objective := "report"
  status := .completed
  availableAt := .ofSeconds 102
  createdAt := .ofSeconds 102
  updatedAt := .ofSeconds 103

def jobWrite : OtherWrite where
  tables := { Db.fresh with
    jobs := (Table.empty.insert? "J1" job).getD .empty
    eventBindings := (Table.empty.insert? "evt_1" binding).getD .empty
    ownerBindings := (Table.empty.insert? "J1" ("evt_1", binding)).getD .empty }
  eventId := "evt_1"
  event := id

def receipt : AccessReceipt := ⟨"T1", "C1", "U1", .ofSeconds 106, "n1", "channel", none⟩

/-- The notice of the job is authorized twice, the second time with a receipt. -/
def steps : List NoticeStep :=
  [⟨10000, .scheduler (.create "S1" input (.ofSeconds 100) owner (.ofSeconds 10))⟩,
    ⟨101000, .scheduler (occursAt 100)⟩,
    ⟨102000, .other jobWrite⟩,
    ⟨102000, .scheduler (.setRunState 0 .materialized .started owner (.ofSeconds 102) (some "J1")
      none none true)⟩,
    ⟨103000, .materializeJobCompletion "J1"⟩,
    ⟨104000, .beginDispatch "evt_2" "result.json"⟩,
    ⟨105000, .authorizeJobNotification "evt_2" none⟩,
    ⟨106000, .issueReceipt "n1" "evt_2" (.ofSeconds 106)⟩,
    ⟨107000, .authorizeJobNotification "evt_2" (some receipt)⟩]

def reported : AuthorizationState := steps.foldl (NoticeStep.next plain) (.fresh 0)

theorem admitted_of_none {s : AuthorizationState} {now : Int} {op : NoticeOp}
    (hclock : s.clock ≤ now) (hrespects : op.respects now) (hreceipt : op.receipt? = none) :
    NoticeStep.Admitted s ⟨now, op⟩ :=
  ⟨hclock, hrespects, fun _ _ h ↦ by rw [hreceipt] at h; cases h⟩

theorem reachable_reported : (notices plain).Reachable reported := by
  refine ⟨.fresh 0, steps, ⟨0, rfl⟩, run_restrict_ofFun _ ?_⟩
  refine ⟨admitted_of_none (by decide) trivial rfl, admitted_of_none (by decide) trivial rfl,
    admitted_of_none (by decide) trivial rfl, admitted_of_none (by decide) trivial rfl,
    admitted_of_none (by decide) trivial rfl, admitted_of_none (by decide) trivial rfl,
    admitted_of_none (by decide) trivial rfl, admitted_of_none (by decide) trivial rfl,
    ⟨by decide, trivial, fun eventId presented h ↦ ?_⟩, trivial⟩
  obtain ⟨rfl, rfl⟩ := Prod.mk.inj (Option.some.inj h)
  rfl

end ReportedJob

open ReportedJob in
theorem write_authorized_once_reported :
    (reported.grants.filter fun grant ↦ grant.phase = .write).map (·.eventId) = ["evt_2"] ∧
      ((reported.grants.filter fun grant ↦ grant.phase = .write).map (·.eventId)).Nodup ∧
      (∃ grant earlier, reported.grants = grant :: earlier ∧ grant.HasAuthority earlier) ∧
      reported.accepted = ["n1"] := by
  obtain ⟨hnodup, hauthority, -, -⟩ := write_authorized_once reachable_reported
  obtain ⟨grant, earlier, hgrants, hphase⟩ : ∃ grant earlier,
      reported.grants = grant :: earlier ∧ grant.phase = .write := ⟨_, _, rfl, by decide⟩
  exact ⟨by decide, hnodup, ⟨grant, earlier, hgrants, hauthority [] grant earlier hgrants hphase⟩,
    by decide⟩

end Dona
