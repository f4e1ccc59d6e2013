import Dona.Scheduler.System

/-!
# What an operation leaves standing

Most operations move neither a claim nor the revision of a schedule, and none changes what a
revision allows or which revision a run belongs to. `Db.Stands` says so for one operation; only
the runs in `starts` may be started by it.
-/

namespace Dona

open Fallible

structure Schedule.Stands (row row' : Schedule) : Prop where
  tenantId : row'.tenantId = row.tenantId
  ownerId : row'.ownerId = row.ownerId
  revision : row'.revision = row.revision
  createdAt : row'.createdAt = row.createdAt

structure Revision.Stands (row row' : Revision) : Prop where
  action : row'.action = row.action
  target : row'.target = row.target
  expiresAt : row'.expiresAt = row.expiresAt
  createdAt : row'.createdAt = row.createdAt

structure ScheduleRun.Stands (mayStart : Prop) (run run' : ScheduleRun) : Prop where
  scheduleId : run'.scheduleId = run.scheduleId
  revision : run'.revision = run.revision
  createdAt : run'.createdAt = run.createdAt
  started : mayStart ∨ (run'.status = .started → run.status = .started)

theorem Schedule.Stands.refl (row : Schedule) : row.Stands row := ⟨rfl, rfl, rfl, rfl⟩

theorem Schedule.Stands.trans {a b c : Schedule} (h : a.Stands b) (h' : b.Stands c) : a.Stands c :=
  ⟨h'.tenantId.trans h.tenantId, h'.ownerId.trans h.ownerId, h'.revision.trans h.revision,
    h'.createdAt.trans h.createdAt⟩

theorem Revision.Stands.refl (row : Revision) : row.Stands row := ⟨rfl, rfl, rfl, rfl⟩

theorem Revision.Stands.trans {a b c : Revision} (h : a.Stands b) (h' : b.Stands c) : a.Stands c :=
  ⟨h'.action.trans h.action, h'.target.trans h.target, h'.expiresAt.trans h.expiresAt,
    h'.createdAt.trans h.createdAt⟩

theorem ScheduleRun.Stands.refl (P : Prop) (run : ScheduleRun) : run.Stands P run :=
  ⟨rfl, rfl, rfl, .inr id⟩

theorem ScheduleRun.Stands.trans {P : Prop} {a b c : ScheduleRun} (h : a.Stands P b)
    (h' : b.Stands P c) : a.Stands P c := by
  refine ⟨h'.scheduleId.trans h.scheduleId, h'.revision.trans h.revision,
    h'.createdAt.trans h.createdAt, ?_⟩
  rcases h.started with hp | hab
  · exact .inl hp
  rcases h'.started with hp | hbc
  · exact .inl hp
  · exact .inr fun hc ↦ hab (hbc hc)

namespace Db

structure Stands (starts : Uuid → Prop) (db db' : Db) : Prop where
  claims : db'.claims = db.claims
  schedules : db.schedules.Evolves (fun _ ↦ Schedule.Stands) db'.schedules
  revisions : db.revisions.Evolves (fun _ ↦ Revision.Stands) db'.revisions
  runs : db.runs.Evolves (fun runId ↦ ScheduleRun.Stands (starts runId)) db'.runs

/-- No run is started. -/
def noStart : Uuid → Prop := fun _ ↦ False

section Statements

variable {starts : Uuid → Prop} {db db' db'' : Db} {scheduleId : ScheduleId} {runId : Uuid}
  {now : Timestamp}

theorem schedules_refl (rows : Table ScheduleId Schedule) :
    rows.Evolves (fun _ ↦ Schedule.Stands) rows := .refl (fun _ ↦ .refl) rows

theorem revisions_refl (rows : Table (ScheduleId × ℕ) Revision) :
    rows.Evolves (fun _ ↦ Revision.Stands) rows := .refl (fun _ ↦ .refl) rows

theorem runs_refl (starts : Uuid → Prop) (rows : Table Uuid ScheduleRun) :
    rows.Evolves (fun runId ↦ ScheduleRun.Stands (starts runId)) rows :=
  .refl (fun _ ↦ .refl _) rows

/-- An operation that changes none of these tables. -/
theorem Stands.of_eq (hclaims : db'.claims = db.claims) (hschedules : db'.schedules = db.schedules)
    (hrevisions : db'.revisions = db.revisions) (hruns : db'.runs = db.runs) :
    db.Stands starts db' := by
  refine ⟨hclaims, ?_, ?_, ?_⟩
  · rw [hschedules]
    exact schedules_refl _
  · rw [hrevisions]
    exact revisions_refl _
  · rw [hruns]
    exact runs_refl starts _

theorem Stands.refl (starts : Uuid → Prop) (db : Db) : db.Stands starts db := .of_eq rfl rfl rfl rfl

theorem Stands.trans (h : db.Stands starts db') (h' : db'.Stands starts db'') :
    db.Stands starts db'' where
  claims := h'.claims.trans h.claims
  schedules := h.schedules.trans (fun ha hb ↦ ha.trans hb) h'.schedules
  revisions := h.revisions.trans (fun ha hb ↦ ha.trans hb) h'.revisions
  runs := h.runs.trans (fun ha hb ↦ ha.trans hb) h'.runs

theorem Stands.mono {starts' : Uuid → Prop} (h : db.Stands starts db')
    (hstarts : ∀ runId, starts runId → starts' runId) : db.Stands starts' db' where
  claims := h.claims
  schedules := h.schedules
  revisions := h.revisions
  runs := h.runs.mono fun hrun ↦
    ⟨hrun.scheduleId, hrun.revision, hrun.createdAt, hrun.started.imp_left (hstarts _)⟩

theorem Stands.ite {c : Prop} [Decidable c] {db₁ db₂ : Db} (h₁ : db.Stands starts db₁)
    (h₂ : db.Stands starts db₂) : db.Stands starts (if c then db₁ else db₂) := by
  split_ifs
  · exact h₁
  · exact h₂

theorem stands_foldl {α : Type} {f : Db → α → Db} (h : ∀ (db : Db) a, db.Stands starts (f db a))
    (as : List α) : db.Stands starts (as.foldl f db) := by
  induction as generalizing db with
  | nil => exact .refl _ db
  | cons a as ih => exact (h db a).trans ih

/-! ### The statements -/

theorem stands_runsWhere {p : Uuid → ScheduleRun → Bool} {f : ScheduleRun → ScheduleRun}
    (h : ∀ runId run, db.runs.get? runId = some run → p runId run = true →
      run.Stands (starts runId) (f run)) :
    db.Stands starts { db with runs := db.runs.updateWhere p f } := by
  refine ⟨rfl, schedules_refl _, revisions_refl _, Table.evolves_updateWhere fun id run hrun ↦ ?_⟩
  split_ifs with hp
  · exact h id run hrun hp
  · exact .refl _ run

theorem stands_updateRun {f : ScheduleRun → ScheduleRun}
    (h : ∀ run : ScheduleRun, run.Stands (starts runId) (f run)) : db.Stands starts (db.updateRun runId f) := by
  refine stands_runsWhere fun id run _ hid ↦ ?_
  obtain rfl : id = runId := by simpa using hid
  exact h run

theorem stands_updateLiveRun {f : ScheduleRun → ScheduleRun}
    (h : ∀ run : ScheduleRun, run.Stands (starts runId) (f run)) :
    db.Stands starts (db.updateLiveRun runId f) := by
  refine stands_runsWhere fun id run _ hid ↦ ?_
  obtain ⟨rfl, -⟩ : id = runId ∧ _ := by simpa using hid
  exact h run

theorem stands_updateSchedule {f : Schedule → Schedule} (h : ∀ row : Schedule, row.Stands (f row)) :
    db.Stands starts (db.updateSchedule scheduleId f) := by
  refine ⟨rfl, ?_, revisions_refl _, runs_refl _ _⟩
  exact Table.evolves_updateKey (fun _ ↦ .refl) fun row _ ↦ h row

theorem stands_revisionsWhere {p : ScheduleId × ℕ → Revision → Bool} {f : Revision → Revision}
    (h : ∀ row : Revision, row.Stands (f row)) :
    db.Stands starts { db with revisions := db.revisions.updateWhere p f } := by
  refine ⟨rfl, schedules_refl _, ?_, runs_refl _ _⟩
  exact Table.evolves_updateWhere_of_forall (fun _ ↦ .refl) fun _ row ↦ h row

theorem stands_retireRevisions {revision : Option ℕ} :
    db.Stands starts (db.retireRevisions scheduleId now revision) :=
  stands_revisionsWhere fun _ ↦ ⟨rfl, rfl, rfl, rfl⟩

theorem stands_updateOutbox {p : Uuid → Outbox → Bool} {f : Outbox → Outbox} :
    db.Stands starts (db.updateOutbox p f) := .of_eq rfl rfl rfl rfl

theorem stands_suppress {reason : RunReason} :
    db.Stands starts (db.suppress scheduleId now reason) := by
  have hcancel : db.Stands starts (db.updateOutbox
      (fun _ row ↦ db.runOf scheduleId row.runId ∧ isUnsent row) (cancelUnsent now)) :=
    stands_updateOutbox
  have hcap : ∀ db : Db, db.Stands starts
      (if reason = .authorizationExpired then db.capExpiringContent scheduleId else db) := by
    intro db
    split_ifs <;> exact .of_eq rfl rfl rfl rfl
  have hruns : ∀ db : Db, db.Stands starts (db.suppressRuns scheduleId now reason) := fun db ↦
    stands_runsWhere fun _ run _ _ ↦ ⟨rfl, rfl, rfl, .inr fun h ↦ by cases h⟩
  have hclosed : ∀ db : Db, db.Stands starts
      ((db.suppressEvents scheduleId now).suppressNotifications scheduleId now) := fun db ↦
    .of_eq rfl rfl rfl rfl
  exact ((hcancel.trans (hcap _)).trans (hruns _)).trans (hclosed _)

theorem stands_completeIfDrained : db.Stands starts (db.completeIfDrained scheduleId now) := by
  unfold completeIfDrained
  split
  · exact .refl _ db
  split
  · exact .refl _ db
  split_ifs
  · exact .refl _ db
  · exact .refl _ db
  · refine Stands.trans ?_ stands_retireRevisions
    exact stands_updateSchedule fun row ↦ ⟨rfl, rfl, rfl, rfl⟩

theorem stands_expireSchedule {before : Schedule} :
    db.Stands starts (db.expireSchedule scheduleId before now) := by
  refine ((stands_suppress.trans (stands_updateSchedule fun row ↦ ?_)).trans
    stands_retireRevisions).trans stands_completeIfDrained
  exact ⟨rfl, rfl, rfl, rfl⟩

theorem stands_expireCurrent {current : Schedule} {expiredAt : Timestamp} :
    db.Stands starts (db.expireCurrent scheduleId current now expiredAt) :=
  .ite stands_expireSchedule (.refl _ db)

theorem stands_expireAll {rows : List (ScheduleId × Schedule)} :
    db.Stands starts (db.expireAll now rows) :=
  stands_foldl (fun _ _ ↦ stands_expireSchedule) rows

/-! ### Deliveries -/

theorem stands_endUnsent {outboxId : Uuid} {row : Outbox} {run : ScheduleRun}
    {reason : UnsentReason} : db.Stands starts (db.endUnsent outboxId row run reason now) := by
  have hrow : db.Stands starts (db.updateOutboxRow outboxId fun row ↦
      { cancelUnsent now row with
        status := if reason = .retryExpired then .failed else .cancelled }) := stands_updateOutbox
  refine Stands.trans ?_ stands_completeIfDrained
  refine hrow.trans (.ite (stands_updateRun fun run ↦ ⟨rfl, rfl, rfl, .inr fun h ↦ ?_⟩) (.refl _ _))
  dsimp only at h
  split_ifs at h

theorem stands_expireUnsent {outboxId : Uuid} {row : Outbox} {eligibilityAt : Option Timestamp} :
    db.Stands starts (db.expireUnsent outboxId row now eligibilityAt).2 := by
  unfold expireUnsent
  split_ifs
  · exact .refl _ db
  split
  · exact .refl _ db
  split
  · dsimp only
    split
    · exact .refl _ db
    · exact stands_expireSchedule
    · exact stands_endUnsent
  · exact .refl _ db

theorem stands_markAmbiguous {outboxId : Uuid} {row : Outbox} :
    db.Stands starts (db.markAmbiguous outboxId row now) := by
  unfold markAmbiguous
  split
  · exact .refl _ db
  split
  · exact .refl _ db
  refine Stands.trans ?_ stands_retireRevisions
  refine Stands.trans ?_ (stands_updateSchedule fun row ↦ ?_)
  · refine Stands.trans ?_ (.ite (stands_updateRun fun run ↦ ⟨rfl, rfl, rfl, .inr fun h ↦ ?_⟩)
      (.refl _ _))
    · exact Stands.trans stands_updateOutbox stands_suppress
    · cases h
  · split_ifs
    · exact .refl row
    · exact ⟨rfl, rfl, rfl, rfl⟩

theorem stands_recover {recoverAllStarted : Bool} {u : Unit}
    (h : db.recover now recoverAllStarted = .ok (u, db')) : db.Stands starts db' := by
  simp only [recover, bind_eq_ok, Except.ok.injEq, Prod.mk.injEq] at h
  obtain ⟨_, -, -, rfl⟩ := h
  refine Stands.trans ?_ (stands_foldl (fun db entry ↦ stands_expireUnsent) _)
  exact Stands.trans (stands_foldl (fun db entry ↦ stands_markAmbiguous) _) stands_updateOutbox

theorem stands_claimRows {kind : Option OutboxKind} {leaseSeconds limit : ℕ} {db : Db} :
    db.Stands starts (db.claimRows kind now leaseSeconds limit).2 := by
  induction limit generalizing db with
  | zero => exact .refl _ db
  | succ limit ih =>
      rw [claimRows]
      cases db.nextClaimable kind now with
      | none => exact .refl _ db
      | some entry =>
          have hclaim : db.Stands starts (db.claimOne entry.1 now leaseSeconds) :=
            .of_eq rfl rfl rfl rfl
          exact hclaim.trans ih

theorem stands_claimBatch {kind : Option OutboxKind} {leaseSeconds limit : ℕ}
    {claimed : List (Uuid × Uuid)}
    (h : db.claimBatch now leaseSeconds kind limit = .ok (claimed, db')) :
    db.Stands starts db' := by
  simp only [claimBatch, bind_eq_ok, throwIf_eq_ok, Prod.exists, Except.ok.injEq] at h
  obtain ⟨_, -, _, -, _, -, _, db₁, hrecover, hclaim⟩ := h
  rw [show db' = (db₁.claimRows kind now leaseSeconds limit).2 by rw [hclaim]]
  exact (stands_recover hrecover).trans stands_claimRows

theorem stands_requestStarted {outboxId token : Uuid} {started : Option Unit}
    (h : db.requestStarted outboxId token now = .ok (started, db')) : db.Stands starts db' := by
  simp only [requestStarted, bind_eq_ok, orThrow_eq_ok, throwIf_eq_ok] at h
  obtain ⟨_, -, row, -, _, -, h⟩ := h
  split_ifs at h
  · obtain ⟨-, rfl⟩ := Prod.mk.inj (Except.ok.inj h)
    exact stands_expireUnsent
  · simp only [bind_eq_ok, orThrow_eq_ok, throwIf_eq_ok, Except.ok.injEq, Prod.mk.injEq] at h
    obtain ⟨run, -, _, -, _, -, -, rfl⟩ := h
    exact stands_updateOutbox

theorem stands_rejectClaimBeforeWrite {outboxId token : Uuid} {u : Unit}
    (h : db.rejectClaimBeforeWrite outboxId token now = .ok (u, db')) : db.Stands starts db' := by
  simp only [rejectClaimBeforeWrite, bind_eq_ok, orThrow_eq_ok, throwIf_eq_ok, Except.ok.injEq,
    Prod.mk.injEq] at h
  obtain ⟨_, -, row, -, _, -, run, -, schedule, -, -, rfl⟩ := h
  refine Stands.trans ?_ stands_completeIfDrained
  refine Stands.trans stands_updateOutbox (stands_updateLiveRun fun run ↦ ?_)
  exact ⟨rfl, rfl, rfl, .inr fun hstatus ↦ by cases hstatus⟩

theorem stands_pauseActive :
    db.Stands starts (db.updateSchedule scheduleId fun row ↦
      if row.state = .active then { row with state := .paused, updatedAt := now } else row) := by
  refine stands_updateSchedule fun row ↦ ?_
  split_ifs
  · exact ⟨rfl, rfl, rfl, rfl⟩
  · exact .refl row

theorem stands_pauseRevoked {run : ScheduleRun} {schedule : Schedule} :
    db.Stands starts (db.pauseRevoked run schedule now) := by
  unfold pauseRevoked
  split
  · split_ifs
    · exact (stands_pauseActive.trans stands_suppress).trans stands_retireRevisions
    · exact .refl _ db
  · exact .refl _ db

theorem stands_skipMisfired {outboxId : Uuid} {row : Outbox} :
    db.Stands starts (db.skipMisfired outboxId row now) := by
  refine Stands.trans stands_updateOutbox (stands_updateRun fun run ↦ ?_)
  exact ⟨rfl, rfl, rfl, .inr fun hstatus ↦ by cases hstatus⟩

theorem stands_expireFinished {outboxId : Uuid} {finishedAt : Timestamp} :
    db.Stands starts (db.expireFinished outboxId now finishedAt) := by
  unfold expireFinished
  split
  · exact stands_expireUnsent
  · exact .refl _ db

theorem stands_endReminderRun {outboxId : Uuid} {row : Outbox} :
    db.Stands starts (db.endReminderRun outboxId row now) := by
  unfold endReminderRun
  split
  · refine .ite (stands_updateLiveRun fun run ↦ ⟨rfl, rfl, rfl, .inr fun hstatus ↦ ?_⟩) (.refl _ db)
    dsimp only at hstatus
    split_ifs at hstatus
  · exact .refl _ db

theorem stands_settleOutcome {outboxId : Uuid} {row : Outbox} {run : ScheduleRun}
    {schedule : Schedule} {authorized : Bool} {outcome : WriteOutcome} {finishedAt : Timestamp}
    {receiptId : Option String} {retryAfterSeconds : ℕ} :
    db.Stands starts (db.settleOutcome outboxId row run schedule authorized outcome now finishedAt
      receiptId retryAfterSeconds) := by
  refine Stands.trans (Stands.trans ?_ stands_expireFinished) stands_endReminderRun
  refine Stands.trans ?_ (.ite stands_skipMisfired (.refl _ _))
  refine Stands.trans ?_ (.ite stands_pauseRevoked (.refl _ _))
  exact stands_updateOutbox

theorem stands_afterWrite {finishedAt : Timestamp} :
    db.Stands starts (db.afterWrite scheduleId now finishedAt) := by
  have hexpire : ∀ db : Db, db.Stands starts (db.expireOver scheduleId now finishedAt) := by
    intro db
    unfold expireOver
    split
    · exact .refl _ db
    · exact stands_expireCurrent
  exact (stands_completeIfDrained.trans (hexpire _)).trans stands_completeIfDrained

theorem stands_finishWrite {env : Env} {outboxId token : Uuid} {outcome : WriteOutcome}
    {receiptId : Option String} {retryAfterSeconds : ℕ} {u : Unit}
    (h : db.finishWrite env outboxId token outcome now receiptId retryAfterSeconds = .ok (u, db')) :
    db.Stands starts db' := by
  simp only [finishWrite, bind_eq_ok, orThrow_eq_ok, throwIf_eq_ok, Except.ok.injEq,
    Prod.mk.injEq] at h
  obtain ⟨_, -, _, -, _, -, row, -, _, -, run, -, schedule, -, revision, -, _, -, -, rfl⟩ := h
  exact Stands.trans (.ite stands_markAmbiguous stands_settleOutcome) stands_afterWrite

theorem stands_revokeAfterCancel {current : Outbox} :
    db.Stands starts (db.revokeAfterCancel current now) := by
  unfold revokeAfterCancel
  split
  · exact .refl _ db
  split
  · exact .refl _ db
  dsimp only
  split
  · split_ifs
    · exact (stands_pauseActive.trans stands_suppress).trans stands_retireRevisions
    · exact stands_retireRevisions
    · exact .refl _ db
  · exact .refl _ db

theorem stands_finishWriteAfterPreflight {env : Env} {outboxId token : Uuid}
    {outcome : PreflightOutcome} {retryAfterSeconds : ℕ} {u : Unit}
    (h : db.finishWriteAfterPreflight env outboxId token outcome now retryAfterSeconds =
      .ok (u, db')) : db.Stands starts db' := by
  simp only [finishWriteAfterPreflight, bind_eq_ok] at h
  obtain ⟨_, -, h⟩ := h
  split at h
  · split_ifs at h
    · obtain ⟨-, rfl⟩ := Prod.mk.inj (Except.ok.inj h)
      exact stands_revokeAfterCancel
    · obtain ⟨-, rfl⟩ := Prod.mk.inj (Except.ok.inj h)
      exact .refl _ db
    · simp only [bind_eq_ok, orThrow_eq_ok, Prod.exists, Except.ok.injEq, Prod.mk.injEq] at h
      obtain ⟨_, db₁, hstarted, _, -, _, db₂, hfinish, -, rfl⟩ := h
      have hclear : db₂.Stands starts { db₂ with
          outbox := db₂.outbox.updateKey outboxId fun row ↦ { row with requestStartedAt := none } } :=
        .of_eq rfl rfl rfl rfl
      exact ((stands_requestStarted hstarted).trans (stands_finishWrite hfinish)).trans hclear
  · cases h

theorem stands_reconcile {env : Env} {outboxId : Uuid} {outcome : ReconcileOutcome}
    {receiptId : String} {actor : Actor} {u : Unit}
    (h : db.reconcile env outboxId outcome receiptId actor now = .ok (u, db')) :
    db.Stands starts db' := by
  simp only [reconcile, bind_eq_ok, orThrow_eq_ok, throwIf_eq_ok, Except.ok.injEq,
    Prod.mk.injEq] at h
  obtain ⟨_, -, _, -, _, -, row, -, _, -, run, -, schedule, -, _, -, -, rfl⟩ := h
  refine Stands.trans ?_ stands_completeIfDrained
  refine Stands.trans stands_updateOutbox (.ite (.refl _ _) ?_)
  refine stands_runsWhere fun _ run _ _ ↦ ⟨rfl, rfl, rfl, .inr fun hstatus ↦ ?_⟩
  dsimp only at hstatus
  split_ifs at hstatus

/-! ### Runs -/

theorem stands_insertOutbox {env : Env} {kind : OutboxKind} {target : Target} {content : String}
    (h : db.insertOutbox env runId kind target content now = .ok db') : db.Stands starts db' := by
  simp only [insertOutbox, throwIf_bind_eq_ok, orThrow_bind_eq_ok, Except.ok.injEq] at h
  obtain ⟨-, outbox, -, rfl⟩ := h
  exact .of_eq rfl rfl rfl rfl

theorem stands_refuseStart {run : ScheduleRun} {current : Schedule} {reason : RunReason}
    {transitionAt : Timestamp} :
    db.Stands starts (db.refuseStart runId run current reason now transitionAt) := by
  refine Stands.trans ?_ stands_completeIfDrained
  refine Stands.trans ?_ stands_updateOutbox
  refine Stands.trans (.ite stands_expireSchedule (.refl _ db)) (stands_updateRun fun run ↦ ?_)
  refine ⟨rfl, rfl, rfl, .inr fun hstatus ↦ ?_⟩
  dsimp only at hstatus
  split_ifs at hstatus

theorem stands_settleRunState {run : ScheduleRun} {current : Schedule} {next : RunTarget}
    {jobId : Option JobId} (h : next = .started → starts runId) :
    db.Stands starts (db.settleRunState runId run current next jobId now) := by
  have hrun : db.Stands starts (db.updateRun runId fun run ↦
      { run with
        status := next.status
        reason := if next = .cancelled then some .cancelled else run.reason
        jobId := jobId.or run.jobId
        startedAt := if next = .started then some now else run.startedAt
        terminalAt := if next = .started then none else some now }) := by
    refine stands_updateRun fun run ↦ ⟨rfl, rfl, rfl, ?_⟩
    by_cases hnext : next = .started
    · exact .inl (h hnext)
    · refine .inr fun hstatus ↦ ?_
      cases next <;> first | exact absurd rfl hnext | cases hstatus
  exact (hrun.trans stands_expireCurrent).trans stands_completeIfDrained

theorem stands_applyRunState {env : Env} {run : ScheduleRun} {current : Schedule}
    {snapshot : Revision} {next : RunTarget} {transitionAt : Timestamp} {jobId : Option JobId}
    {resultContent : Option String} {notificationAt : Option Timestamp}
    {routeResultViaDona : Bool} (hstarts : next = .started → starts runId)
    (h : db.applyRunState env runId run current snapshot next transitionAt jobId resultContent
      notificationAt routeResultViaDona = .ok db') : db.Stands starts db' := by
  simp only [applyRunState, bind_eq_ok, throwIf_eq_ok, Except.ok.injEq] at h
  obtain ⟨_, -, _, -, _, -, db₁, hresult, db₂, hfailure, rfl⟩ := h
  have hnotified : db.Stands starts db₁ := by
    split_ifs at hresult
    · simp only [notifyResult, bind_eq_ok, orThrow_eq_ok] at hresult
      obtain ⟨_, -, _, -, hinsert⟩ := hresult
      exact stands_insertOutbox hinsert
    · obtain rfl := Except.ok.inj hresult
      exact .refl _ db
  have hcancelled : ∀ (suppressed : List (Uuid × Outbox)) operationAt, db₁.Stands starts
      (if suppressed.isEmpty then db₁ else db₁.cancelUnsentOf runId operationAt) :=
    fun _ _ ↦ .ite (.refl _ _) stands_updateOutbox
  have hfailed : ∀ {db₁ : Db} {c : Prop} [Decidable c] {target : Target} {content : String}
      {at' : Timestamp}, (if c then db₁.insertOutbox env runId .workResultPost target content at'
        else .ok db₁) = .ok db₂ → db₁.Stands starts db₂ := by
    intro db₁ c _ target content at' hinsert
    split_ifs at hinsert
    · exact stands_insertOutbox hinsert
    · obtain rfl := Except.ok.inj hinsert
      exact .refl _ db₁
  exact ((hnotified.trans (hcancelled _ _)).trans (hfailed hfailure)).trans
    (stands_settleRunState hstarts)

/-- A run is started while its schedule is active at the revision of the run. -/
theorem setRunState_stands {env : Env} {expected : RunStatus} {next : RunTarget} {actor : Actor}
    {jobId : Option JobId} {resultContent : Option String} {notificationAt : Option Timestamp}
    {routeResultViaDona : Bool} {accepted : Option Unit}
    (h : db.setRunState env runId expected next actor now jobId resultContent notificationAt
      routeResultViaDona = .ok (accepted, db')) :
    db.Stands noStart db' ∨ db.Stands (· = runId) db' ∧ next = .started ∧
      ∃ run current, db.runs.get? runId = some run ∧ run.status = .materialized ∧
        db.schedules.get? run.scheduleId = some current ∧ current.state = .active ∧
        current.revision = run.revision := by
  simp only [setRunState, bind_eq_ok, orThrow_eq_ok, throwIf_eq_ok, not_not,
    Bool.not_eq_false] at h
  obtain ⟨_, -, _, -, run, hrun, _, hexpected, current, hcurrent, _, -, _, hvalid, snapshot, -, _,
    -, h⟩ := h
  split at h
  · obtain ⟨-, rfl⟩ := Prod.mk.inj (Except.ok.inj h)
    exact .inl stands_refuseStart
  · rename_i hreason
    simp only [bind_eq_ok, Except.ok.injEq, Prod.mk.injEq] at h
    obtain ⟨db₁, happly, -, rfl⟩ := h
    by_cases hnext : next = .started
    · have hmaterialized : run.status = .materialized := by
        subst hnext
        cases hstatus : run.status <;> rw [← hexpected, hstatus] at hvalid <;>
          first | rfl | cases hvalid
      rw [if_pos hnext, startRefusal] at hreason
      split_ifs at hreason with hauthorized
      rw [not_or, not_not, not_not] at hauthorized
      exact .inr ⟨stands_applyRunState (fun _ ↦ rfl) happly, hnext, run, current, hrun,
        hmaterialized, hcurrent, hauthorized.1, hauthorized.2⟩
    · exact .inl (stands_applyRunState (fun h ↦ absurd h hnext) happly)

theorem stands_markWorkRunNeedsReview {jobId : JobId} {eventId : EventId} {u : Unit}
    (h : db.markWorkRunNeedsReview runId jobId now eventId = .ok (u, db')) :
    db.Stands starts db' := by
  simp only [markWorkRunNeedsReview, bind_eq_ok, orThrow_eq_ok, throwIf_eq_ok] at h
  obtain ⟨_, -, _, -, _, -, run, -, _, -, h⟩ := h
  have hrun : ∀ db : Db, db.Stands starts (db.updateRun runId fun run ↦
      { run with status := .needsReview, reason := some .ambiguousWrite }) := fun db ↦
    stands_updateRun fun run ↦ ⟨rfl, rfl, rfl, .inr fun hstatus ↦ by cases hstatus⟩
  split_ifs at h
  · obtain ⟨-, rfl⟩ := Prod.mk.inj (Except.ok.inj h)
    exact .refl _ db
  simp only [bind_eq_ok, orThrow_eq_ok] at h
  obtain ⟨before, -, h⟩ := h
  split_ifs at h
  · obtain ⟨-, rfl⟩ := Prod.mk.inj (Except.ok.inj h)
    refine Stands.trans ?_ stands_retireRevisions
    refine ((hrun db).trans stands_suppress).trans (stands_updateSchedule fun row ↦ ?_)
    split_ifs
    · exact ⟨rfl, rfl, rfl, rfl⟩
    · exact .refl row
  · obtain ⟨-, rfl⟩ := Prod.mk.inj (Except.ok.inj h)
    exact hrun db

theorem stands_activateReviewed {schedule : Schedule} :
    db.Stands starts (db.activateReviewed scheduleId schedule now) := by
  unfold activateReviewed
  split_ifs
  · have hactive : db.Stands starts (db.updateSchedule scheduleId fun row ↦
        { row with state := .active, terminalAt := none, updatedAt := now }) :=
      stands_updateSchedule fun row ↦ ⟨rfl, rfl, rfl, rfl⟩
    exact hactive.trans (stands_revisionsWhere fun row ↦ ⟨rfl, rfl, rfl, rfl⟩)
  · exact .refl _ db

/-- A run comes out of review as started, whatever has become of its revision. -/
theorem recoverWorkRunForResult_stands {jobId : JobId} {eventId : EventId} {u : Unit}
    (h : db.recoverWorkRunForResult runId jobId eventId now = .ok (u, db')) :
    db' = db ∨ db.Stands (· = runId) db' ∧
      ∃ run, db.runs.get? runId = some run ∧ run.status = .needsReview := by
  simp only [recoverWorkRunForResult, bind_eq_ok] at h
  obtain ⟨_, -, _, -, _, -, h⟩ := h
  cases hrun : db.runs.get? runId with
  | none =>
      rw [hrun] at h
      exact .inl (Prod.mk.inj (Except.ok.inj h)).2.symm
  | some run =>
      simp only [hrun] at h
      split_ifs at h with hguard
      · exact .inl (Prod.mk.inj (Except.ok.inj h)).2.symm
      simp only [not_or, not_not] at hguard
      refine .inr ⟨?_, run, rfl, hguard.1⟩
      have hstart : db.Stands (· = runId) (db.updateRun runId fun run ↦
          { run with status := .started, reason := none, terminalAt := none }) :=
        stands_updateRun fun run ↦ ⟨rfl, rfl, rfl, .inl rfl⟩
      refine hstart.trans ?_
      split at h
      · split_ifs at h <;> obtain ⟨-, rfl⟩ := Prod.mk.inj (Except.ok.inj h)
        · exact .refl _ _
        · exact stands_expireSchedule
        · exact stands_activateReviewed
        · exact .refl _ _
      · obtain ⟨-, rfl⟩ := Prod.mk.inj (Except.ok.inj h)
        exact .refl _ _

theorem stands_markWorkNotificationNeedsReview {u : Unit}
    (h : db.markWorkNotificationNeedsReview runId now = .ok (u, db')) : db.Stands starts db' := by
  unfold markWorkNotificationNeedsReview at h
  split at h
  · obtain ⟨-, rfl⟩ := Prod.mk.inj (Except.ok.inj h)
    exact .refl _ db
  simp only [bind_eq_ok, orThrow_eq_ok] at h
  obtain ⟨schedule, -, h⟩ := h
  split_ifs at h <;> obtain ⟨-, rfl⟩ := Prod.mk.inj (Except.ok.inj h)
  · refine Stands.trans (stands_updateSchedule fun row ↦ ?_) stands_retireRevisions
    exact ⟨rfl, rfl, rfl, rfl⟩
  · exact .refl _ db

theorem stands_resumeAfterWorkNotification {u : Unit}
    (h : db.resumeAfterWorkNotification runId now = .ok (u, db')) : db.Stands starts db' := by
  simp only [resumeAfterWorkNotification, bind_eq_ok] at h
  obtain ⟨_, -, h⟩ := h
  split at h
  · obtain ⟨-, rfl⟩ := Prod.mk.inj (Except.ok.inj h)
    exact .refl _ db
  split at h
  · split_ifs at h <;> obtain ⟨-, rfl⟩ := Prod.mk.inj (Except.ok.inj h)
    · exact .refl _ db
    · exact stands_expireSchedule
    · exact stands_activateReviewed.trans stands_completeIfDrained
    · exact stands_completeIfDrained
  · obtain ⟨-, rfl⟩ := Prod.mk.inj (Except.ok.inj h)
    exact .refl _ db

theorem stands_recordEventReview {eventId : EventId} :
    db.Stands starts (db.recordEventReview eventId now) := .of_eq rfl rfl rfl rfl

theorem stands_settleUndelegatedWorkEvent {eventId : EventId} {outcome : UndelegatedOutcome}
    {u : Unit} (h : db.settleUndelegatedWorkEvent eventId outcome now = .ok (u, db')) :
    db.Stands starts db' := by
  simp only [settleUndelegatedWorkEvent, bind_eq_ok] at h
  obtain ⟨_, -, _, -, h⟩ := h
  split at h
  · obtain ⟨-, rfl⟩ := Prod.mk.inj (Except.ok.inj h)
    exact .refl _ db
  rename_i runId run hfind
  by_cases hstatus : run.status ≠ .materialized ∨ run.jobId ≠ none
  · rw [if_pos hstatus] at h
    obtain ⟨-, rfl⟩ := Prod.mk.inj (Except.ok.inj h)
    exact .refl _ db
  rw [if_neg hstatus] at h
  simp only [bind_eq_ok, orThrow_eq_ok, Except.ok.injEq, Prod.mk.injEq] at h
  obtain ⟨before, -, -, rfl⟩ := h
  refine Stands.trans ?_ stands_completeIfDrained
  refine Stands.trans ?_ (.ite ?_ (.refl _ _))
  · refine stands_updateRun fun run ↦ ⟨rfl, rfl, rfl, .inr fun hstarted ↦ ?_⟩
    cases outcome <;> cases hstarted
  · refine Stands.trans (Stands.trans ?_ stands_retireRevisions) stands_recordEventReview
    exact stands_updateSchedule fun row ↦ ⟨rfl, rfl, rfl, rfl⟩

theorem stands_reconcileWorkRun {outcome : WorkRunOutcome} {actor : Actor} {u : Unit}
    (h : db.reconcileWorkRun runId outcome actor now = .ok (u, db')) : db.Stands starts db' := by
  simp only [reconcileWorkRun, bind_eq_ok, orThrow_eq_ok, throwIf_eq_ok, Except.ok.injEq,
    Prod.mk.injEq] at h
  obtain ⟨_, -, _, -, run, -, _, -, before, -, _, -, -, rfl⟩ := h
  refine Stands.trans (stands_updateRun fun run ↦ ?_) stands_completeIfDrained
  refine ⟨rfl, rfl, rfl, .inr fun hstatus ↦ ?_⟩
  dsimp only at hstatus
  split_ifs at hstatus

/-! ### The life of a schedule -/

theorem stands_closeNotices : db.Stands starts (db.closeNotices scheduleId now) :=
  .of_eq rfl rfl rfl rfl

theorem stands_cancelUnusable : db.Stands starts (db.cancelUnusable scheduleId now) := by
  refine Stands.trans ?_ stands_completeIfDrained
  refine Stands.trans (Stands.trans stands_suppress (stands_updateSchedule fun row ↦ ?_))
    stands_retireRevisions
  exact ⟨rfl, rfl, rfl, rfl⟩

theorem stands_expireDue {limit : ℕ} {u : Unit} (h : db.expireDue now limit = .ok (u, db')) :
    db.Stands starts db' := by
  simp only [expireDue, bind_eq_ok, throwIf_eq_ok, Except.ok.injEq, Prod.mk.injEq] at h
  obtain ⟨_, -, _, -, -, rfl⟩ := h
  exact stands_expireAll

/-! ### Materialization -/

theorem stands_insertEventJobBinding {eventId : EventId} {binding : JobBinding}
    (h : db.insertEventJobBinding eventId binding = .ok db') : db.Stands starts db' := by
  simp only [insertEventJobBinding, bind_eq_ok] at h
  obtain ⟨_, -, h⟩ := h
  split at h
  · simp only [bind_eq_ok, Except.ok.injEq] at h
    obtain ⟨_, -, rfl⟩ := h
    exact .refl _ db
  · simp only [bind_eq_ok, orThrow_eq_ok, Except.ok.injEq] at h
    obtain ⟨bindings, -, rfl⟩ := h
    exact .of_eq rfl rfl rfl rfl

theorem stands_bindSlackEvent {eventId : EventId} {event : EventRow}
    (h : db.bindSlackEvent eventId event = .ok db') : db.Stands starts db' := by
  unfold bindSlackEvent at h
  split at h
  · exact stands_insertEventJobBinding h
  · obtain rfl := Except.ok.inj h
    exact .refl _ db

theorem stands_enqueue {envelope : EventEnvelope} {result : EnqueueResult}
    (h : db.enqueue envelope now = .ok (result, db')) : db.Stands starts db' := by
  unfold enqueue at h
  split at h
  · simp only [bind_eq_ok, Except.ok.injEq, Prod.mk.injEq] at h
    obtain ⟨db₁, hbind, -, rfl⟩ := h
    exact stands_bindSlackEvent hbind
  · simp only [bind_eq_ok, orThrow_eq_ok, Except.ok.injEq, Prod.mk.injEq] at h
    obtain ⟨events, -, db₁, hbind, -, rfl⟩ := h
    have hdrawn : db.Stands starts { db with events := events, nextUuid := db.nextUuid + 1 } :=
      .of_eq rfl rfl rfl rfl
    exact hdrawn.trans (stands_bindSlackEvent hbind)

theorem stands_startOccurrence {env : Env} {before : Schedule} {revision : Revision}
    {expectedRevision : ℕ} {occurrenceKey : OccurrenceKey} {scheduledFor materializedAt : Timestamp}
    (h : db.startOccurrence env scheduleId before revision runId expectedRevision occurrenceKey
      scheduledFor materializedAt = .ok db') : db.Stands starts db' := by
  unfold startOccurrence at h
  split at h
  · exact stands_insertOutbox h
  · simp only [enqueueDue, bind_eq_ok, Prod.exists, throwIf_eq_ok] at h
    obtain ⟨result, db₁, henqueue, _, -, hbind⟩ := h
    refine (stands_enqueue henqueue).trans (Stands.trans ?_ (stands_insertEventJobBinding hbind))
    exact stands_updateRun fun run ↦ ⟨rfl, rfl, rfl, .inr id⟩

end Statements

end Db

end Dona
