import Dona.Scheduler.Preflights

/-!
# The attempts of a write

A request adds one to the attempts of a write, and the outcome `unavailable` takes one back where
the write is tried again. No other statement changes the count. A write returns to the queue with
two attempts at most: a retry of another kind asks for fewer than three, and `unavailable`, which
does not, takes back the attempt it has made. So there is always a request left for a claimed write.
-/

namespace Dona

open Fallible TransitionSystem

/-- The write keeps its attempts. It does not enter its request or come back from it. -/
structure Outbox.KeepsAttempt (row row' : Outbox) : Prop where
  attempt : row'.attempt = row.attempt
  unsent : Db.isUnsent row' = true → Db.isUnsent row = true
  started : row'.status = .requestStarted → row.status = .requestStarted

/-- A claimed write has a request left, and a write in its request has made one. -/
structure Outbox.AttemptBounded (row : Outbox) : Prop where
  bound : row.attempt ≤ 3
  unsent : Db.isUnsent row = true → row.attempt ≤ 2
  started : row.status = .requestStarted → 1 ≤ row.attempt

namespace Outbox

variable {a b c : Outbox}

theorem KeepsAttempt.refl (row : Outbox) : row.KeepsAttempt row := ⟨rfl, id, id⟩

theorem KeepsAttempt.trans (h : a.KeepsAttempt b) (h' : b.KeepsAttempt c) : a.KeepsAttempt c :=
  ⟨h'.attempt.trans h.attempt, fun hc ↦ h.unsent (h'.unsent hc),
    fun hc ↦ h.started (h'.started hc)⟩

/-- A write may always come to its end. -/
theorem KeepsAttempt.of_isOver (hattempt : b.attempt = a.attempt) (h : b.status.isOver = true) :
    a.KeepsAttempt b := by
  refine ⟨hattempt, fun hunsent ↦ ?_, fun hstarted ↦ ?_⟩
  · cases hstatus : b.status <;> simp_all [Db.isUnsent, OutboxStatus.isOver]
  · rw [hstarted] at h
    cases h

theorem KeepsAttempt.of_status (hattempt : b.attempt = a.attempt) (h : b.status = a.status) :
    a.KeepsAttempt b := by
  refine ⟨hattempt, fun hunsent ↦ ?_, fun hstarted ↦ h ▸ hstarted⟩
  rw [Db.isUnsent, h] at hunsent
  exact hunsent

/-- The queue and its claims exchange their writes. -/
theorem KeepsAttempt.of_isUnsent (hattempt : b.attempt = a.attempt)
    (ha : Db.isUnsent a = true) (hb : b.status ≠ .requestStarted) : a.KeepsAttempt b :=
  ⟨hattempt, fun _ ↦ ha, fun hstarted ↦ absurd hstarted hb⟩

theorem Rests.keepsAttempt (h : a.Rests b) : a.KeepsAttempt b := by
  rcases h.status with hstatus | hover
  · exact .of_status h.attempt hstatus
  · exact .of_isOver h.attempt hover

theorem AttemptBounded.of_keeps (ha : a.AttemptBounded) (h : a.KeepsAttempt b) :
    b.AttemptBounded := by
  constructor
  · rw [h.attempt]
    exact ha.bound
  · intro hunsent
    rw [h.attempt]
    exact ha.unsent (h.unsent hunsent)
  · intro hstarted
    rw [h.attempt]
    exact ha.started (h.started hstarted)

end Outbox

namespace Db

variable {db db' db'' : Db} {env : Env} {scheduleId : ScheduleId} {runId outboxId : Uuid}
  {now : Timestamp} {u : Unit}

/-- Every write is one from before with its attempts, or a new one. -/
def KeepsAttempts (db db' : Db) : Prop :=
  ∀ id row', db'.outbox.get? id = some row' →
    (∃ row, db.outbox.get? id = some row ∧ row.KeepsAttempt row') ∨
      row'.attempt = 0 ∧ row'.status ≠ .requestStarted

def AttemptsBounded (db : Db) : Prop :=
  ∀ id row, db.outbox.get? id = some row → row.AttemptBounded

theorem KeepsAttempts.of_eq (h : db'.outbox = db.outbox) : db.KeepsAttempts db' := by
  intro id row' hrow'
  rw [h] at hrow'
  exact .inl ⟨row', hrow', .refl row'⟩

theorem KeepsAttempts.refl (db : Db) : db.KeepsAttempts db := .of_eq rfl

theorem KeepsAttempts.trans (h : db.KeepsAttempts db') (h' : db'.KeepsAttempts db'') :
    db.KeepsAttempts db'' := by
  intro id row'' hrow''
  rcases h' id row'' hrow'' with ⟨row', hrow', hkeeps'⟩ | hnew
  · rcases h id row' hrow' with ⟨row, hrow, hkeeps⟩ | ⟨hattempt, hstatus⟩
    · exact .inl ⟨row, hrow, hkeeps.trans hkeeps'⟩
    · exact .inr ⟨hkeeps'.attempt.trans hattempt, fun hstarted ↦ hstatus (hkeeps'.started hstarted)⟩
  · exact .inr hnew

theorem KeepsAttempts.ite {c : Prop} [Decidable c] {db₁ db₂ : Db} (h₁ : db.KeepsAttempts db₁)
    (h₂ : db.KeepsAttempts db₂) : db.KeepsAttempts (if c then db₁ else db₂) := by
  split_ifs
  · exact h₁
  · exact h₂

theorem Rests.keepsAttempts (h : db.Rests db') : db.KeepsAttempts db' := by
  intro id row' hrow'
  obtain ⟨row, hrow, hrests⟩ := h.outbox.exists_old hrow'
  exact .inl ⟨row, hrow, hrests.keepsAttempt⟩

theorem keepsAttempts_foldl {α : Type} {f : Db → α → Db}
    (h : ∀ (db : Db) a, db.KeepsAttempts (f db a)) (as : List α) :
    db.KeepsAttempts (as.foldl f db) := by
  induction as generalizing db with
  | nil => exact .refl db
  | cons a as ih => exact (h db a).trans ih

theorem AttemptsBounded.of_keeps (hdb : db.AttemptsBounded) (h : db.KeepsAttempts db') :
    db'.AttemptsBounded := by
  intro id row' hrow'
  rcases h id row' hrow' with ⟨row, hrow, hkeeps⟩ | ⟨hattempt, hstatus⟩
  · exact (hdb id row hrow).of_keeps hkeeps
  · refine ⟨by omega, fun _ ↦ by omega, fun hstarted ↦ absurd hstarted hstatus⟩

/-! ### The statements -/

theorem keepsAttempts_updateOutbox {p : Uuid → Outbox → Bool} {f : Outbox → Outbox}
    (h : ∀ id row, db.outbox.get? id = some row → p id row = true → row.KeepsAttempt (f row)) :
    db.KeepsAttempts (db.updateOutbox p f) := by
  intro id row' hrow'
  simp only [updateOutbox, Table.get?_updateWhere, Option.map_eq_some_iff] at hrow'
  obtain ⟨row, hrow, rfl⟩ := hrow'
  refine .inl ⟨row, hrow, ?_⟩
  split_ifs with hp
  · exact h id row hrow hp
  · exact .refl row

theorem keepsAttempts_updateOutboxRow {f : Outbox → Outbox}
    (h : ∀ row, db.outbox.get? outboxId = some row → row.KeepsAttempt (f row)) :
    db.KeepsAttempts (db.updateOutboxRow outboxId f) := by
  refine keepsAttempts_updateOutbox fun id row hrow hid ↦ ?_
  obtain rfl : id = outboxId := by simpa using hid
  exact h row hrow

theorem keepsAttempts_updateSchedule {f : Schedule → Schedule} :
    db.KeepsAttempts (db.updateSchedule scheduleId f) := .of_eq rfl

theorem keepsAttempts_retireRevisions {revision : Option ℕ} :
    db.KeepsAttempts (db.retireRevisions scheduleId now revision) := .of_eq rfl

theorem keepsAttempts_updateRun {f : ScheduleRun → ScheduleRun} :
    db.KeepsAttempts (db.updateRun runId f) := .of_eq rfl

theorem keepsAttempts_updateLiveRun {f : ScheduleRun → ScheduleRun} :
    db.KeepsAttempts (db.updateLiveRun runId f) := .of_eq rfl

theorem keepsAttempts_cancelUnsent {p : Uuid → Outbox → Bool} :
    db.KeepsAttempts (db.updateOutbox p (cancelUnsent now)) :=
  keepsAttempts_updateOutbox fun _ _ _ _ ↦ .of_isOver rfl rfl

theorem keepsAttempts_suppress {reason : RunReason} :
    db.KeepsAttempts (db.suppress scheduleId now reason) := rests_suppress.keepsAttempts

theorem keepsAttempts_completeIfDrained :
    db.KeepsAttempts (db.completeIfDrained scheduleId now) := .of_eq outbox_completeIfDrained

theorem keepsAttempts_expireSchedule {before : Schedule} :
    db.KeepsAttempts (db.expireSchedule scheduleId before now) :=
  rests_expireSchedule.keepsAttempts

theorem keepsAttempts_expireCurrent {current : Schedule} {expiredAt : Timestamp} :
    db.KeepsAttempts (db.expireCurrent scheduleId current now expiredAt) :=
  .ite keepsAttempts_expireSchedule (.refl db)

theorem keepsAttempts_expireAll {rows : List (ScheduleId × Schedule)} :
    db.KeepsAttempts (db.expireAll now rows) :=
  keepsAttempts_foldl (fun _ _ ↦ keepsAttempts_expireSchedule) rows

/-- A new write has not been attempted. -/
theorem keepsAttempts_insertOutbox {kind : OutboxKind} {target : Target} {content : String}
    (h : db.insertOutbox env runId kind target content now = .ok db') : db.KeepsAttempts db' := by
  simp only [insertOutbox, throwIf_bind_eq_ok, orThrow_bind_eq_ok, Except.ok.injEq] at h
  obtain ⟨-, outbox, hinsert, rfl⟩ := h
  intro id row' hrow'
  replace hrow' : outbox.get? id = some row' := hrow'
  rw [Table.get?_insert? hinsert] at hrow'
  split_ifs at hrow'
  · obtain rfl := Option.some.inj hrow'
    exact .inr ⟨rfl, fun hstarted ↦ by cases hstarted⟩
  · exact .inl ⟨row', hrow', .refl row'⟩

/-! ### Recovery and claims -/

theorem keepsAttempts_expireUnsent {row : Outbox} {eligibilityAt : Option Timestamp} :
    db.KeepsAttempts (db.expireUnsent outboxId row now eligibilityAt).2 :=
  rests_expireUnsent.keepsAttempts

theorem keepsAttempts_markAmbiguous {row : Outbox} :
    db.KeepsAttempts (db.markAmbiguous outboxId row now) := by
  unfold markAmbiguous
  split
  · exact .refl db
  split
  · exact .refl db
  rename_i _ run _ _ before _
  set ambiguousAt := now.latest _
  have hreviewed : db.KeepsAttempts (db.updateOutboxRow outboxId fun row ↦
      { row with
        status := .needsReview
        contentDeleteAt := some (ambiguousAt.add 604800)
        updatedAt := ambiguousAt }) :=
    keepsAttempts_updateOutboxRow fun _ _ ↦ .of_isOver rfl rfl
  have hsuppressed : ∀ db : Db,
      db.KeepsAttempts (db.suppress run.scheduleId ambiguousAt .cancelled) :=
    fun _ ↦ keepsAttempts_suppress
  refine (hreviewed.trans (hsuppressed _)).trans (.of_eq ?_)
  dsimp only
  split_ifs <;> rfl

theorem keepsAttempts_requeueClaims {recoverAllStarted : Bool} :
    db.KeepsAttempts (db.requeueClaims now recoverAllStarted) := by
  refine keepsAttempts_updateOutbox fun id row hrow hclaimed ↦ ?_
  have hstatus : row.status = .claimed := by
    simp only [decide_eq_true_eq] at hclaimed
    exact hclaimed.1
  refine .of_isUnsent rfl ?_ fun hstarted ↦ by cases hstarted
  rw [isUnsent, hstatus]
  rfl

theorem keepsAttempts_recover {recoverAllStarted : Bool}
    (h : db.recover now recoverAllStarted = .ok (u, db')) : db.KeepsAttempts db' := by
  simp only [recover, bind_eq_ok, Except.ok.injEq, Prod.mk.injEq] at h
  obtain ⟨_, -, -, rfl⟩ := h
  refine KeepsAttempts.trans ?_ (keepsAttempts_foldl (fun _ _ ↦ keepsAttempts_expireUnsent) _)
  refine KeepsAttempts.trans ?_ keepsAttempts_requeueClaims
  exact keepsAttempts_foldl (fun _ _ ↦ keepsAttempts_markAmbiguous) _

theorem keepsAttempts_claimOne {row : Outbox} {leaseSeconds : ℕ}
    (hrow : db.outbox.get? outboxId = some row) (hpending : row.status = .pending) :
    db.KeepsAttempts (db.claimOne outboxId now leaseSeconds) := by
  have hclaimed : db.KeepsAttempts (db.updateOutboxRow outboxId fun row ↦
      { row with
        status := .claimed
        claimToken := some db.nextUuid
        leaseUntil := some (now.add leaseSeconds)
        updatedAt := now }) := by
    refine keepsAttempts_updateOutboxRow fun other hother ↦ ?_
    obtain rfl : row = other := Option.some.inj (hrow.symm.trans hother)
    refine .of_isUnsent rfl ?_ fun hstarted ↦ by cases hstarted
    rw [isUnsent, hpending]
    rfl
  exact hclaimed.trans (.of_eq rfl)

theorem keepsAttempts_claimRows {kind : Option OutboxKind} {leaseSeconds limit : ℕ} {db : Db} :
    db.KeepsAttempts (db.claimRows kind now leaseSeconds limit).2 := by
  induction limit generalizing db with
  | zero => exact .refl db
  | succ limit ih =>
      rw [claimRows]
      cases hnext : db.nextClaimable kind now with
      | none => exact .refl db
      | some entry =>
          obtain ⟨hrow, hpending, -⟩ := nextClaimable_spec hnext
          exact (keepsAttempts_claimOne hrow hpending).trans ih

theorem keepsAttempts_claimBatch {kind : Option OutboxKind} {leaseSeconds limit : ℕ}
    {claimed : List (Uuid × Uuid)}
    (h : db.claimBatch now leaseSeconds kind limit = .ok (claimed, db')) :
    db.KeepsAttempts db' := by
  simp only [claimBatch, bind_eq_ok, throwIf_eq_ok, Prod.exists, Except.ok.injEq] at h
  obtain ⟨_, -, _, -, _, -, _, db₁, hrecover, hclaim⟩ := h
  rw [show db' = (db₁.claimRows kind now leaseSeconds limit).2 by rw [hclaim]]
  exact (keepsAttempts_recover hrecover).trans keepsAttempts_claimRows

theorem keepsAttempts_rejectClaimBeforeWrite {token : Uuid}
    (h : db.rejectClaimBeforeWrite outboxId token now = .ok (u, db')) : db.KeepsAttempts db' := by
  simp only [rejectClaimBeforeWrite, bind_eq_ok, orThrow_eq_ok, throwIf_eq_ok, Except.ok.injEq,
    Prod.mk.injEq] at h
  obtain ⟨_, -, row, -, _, -, run, -, schedule, -, -, rfl⟩ := h
  refine KeepsAttempts.trans ?_ keepsAttempts_completeIfDrained
  refine KeepsAttempts.trans ?_ keepsAttempts_updateLiveRun
  exact keepsAttempts_updateOutboxRow fun _ _ ↦ .of_isOver rfl rfl

theorem keepsAttempts_revokeAfterCancel {current : Outbox} :
    db.KeepsAttempts (db.revokeAfterCancel current now) := by
  unfold revokeAfterCancel
  split
  · exact .refl db
  split
  · exact .refl db
  dsimp only
  split
  · split_ifs
    · refine KeepsAttempts.trans ?_ keepsAttempts_retireRevisions
      exact keepsAttempts_updateSchedule.trans keepsAttempts_suppress
    · exact keepsAttempts_retireRevisions
    · exact .refl db
  · exact .refl db

theorem keepsAttempts_reconcile {outcome : ReconcileOutcome} {receiptId : String} {actor : Actor}
    (h : db.reconcile env outboxId outcome receiptId actor now = .ok (u, db')) :
    db.KeepsAttempts db' := by
  simp only [reconcile, bind_eq_ok, orThrow_eq_ok, throwIf_eq_ok, Except.ok.injEq,
    Prod.mk.injEq] at h
  obtain ⟨_, -, _, -, _, -, row, -, _, -, run, -, schedule, -, _, -, -, rfl⟩ := h
  refine KeepsAttempts.trans ?_ keepsAttempts_completeIfDrained
  refine KeepsAttempts.trans (keepsAttempts_updateOutboxRow fun row _ ↦ ?_)
    (.ite (.refl _) (.of_eq rfl))
  refine .of_isOver rfl ?_
  cases outcome <;> rfl

/-! ### The request and its outcome -/

theorem exists_of_getOutbox {row : Outbox} (h : db.getOutbox outboxId now = some row) :
    ∃ stored, db.outbox.get? outboxId = some stored ∧ row.status = stored.status ∧
      row.attempt = stored.attempt := by
  obtain ⟨stored, hstored, rfl⟩ := Option.map_eq_some_iff.1 h
  refine ⟨stored, hstored, ?_, ?_⟩ <;> split_ifs <;> rfl

theorem requestStarted_left {token : Uuid}
    (h : db.requestStarted outboxId token now = .ok (some (), db')) :
    ∃ row, db.outbox.get? outboxId = some row ∧ row.attempt + 1 ≤ 3 := by
  simp only [requestStarted, bind_eq_ok, orThrow_eq_ok, throwIf_eq_ok] at h
  obtain ⟨_, -, row, hrow, _, -, h⟩ := h
  obtain ⟨stored, hstored, -, hread⟩ := exists_of_getOutbox hrow
  split_ifs at h
  · cases (Prod.mk.inj (Except.ok.inj h)).1
  simp only [bind_eq_ok, orThrow_eq_ok, throwIf_eq_ok, not_le] at h
  obtain ⟨run, -, _, -, _, hattempt, -⟩ := h
  exact ⟨stored, hstored, hread ▸ hattempt⟩

/-- A write is requested from its claim. -/
theorem requestStarted_attempts {token : Uuid} {started : Option Unit} (hdb : db.AttemptsBounded)
    (h : db.requestStarted outboxId token now = .ok (started, db')) : db'.AttemptsBounded := by
  simp only [requestStarted, bind_eq_ok, orThrow_eq_ok, throwIf_eq_ok] at h
  obtain ⟨_, -, row, hrow, _, -, h⟩ := h
  split_ifs at h
  · obtain ⟨-, rfl⟩ := Prod.mk.inj (Except.ok.inj h)
    exact hdb.of_keeps keepsAttempts_expireUnsent
  simp only [bind_eq_ok, orThrow_eq_ok, throwIf_eq_ok, not_le, Except.ok.injEq,
    Prod.mk.injEq] at h
  obtain ⟨run, -, _, -, _, hattempt, -, rfl⟩ := h
  obtain ⟨stored, hstored, -, hread⟩ := exists_of_getOutbox hrow
  rw [hread] at hattempt
  intro id row' hrow'
  rw [get?_updateOutboxRow] at hrow'
  split_ifs at hrow' with hid
  · subst hid
    rw [hstored, Option.map_some, Option.some.injEq] at hrow'
    subst hrow'
    refine ⟨hattempt, fun hunsent ↦ ?_, fun _ ↦ Nat.le_add_left 1 _⟩
    cases hunsent
  · exact hdb id row' hrow'

/-- A write that comes back from its request keeps a request for the next claim. -/
theorem attemptBounded_finishedRow {row read : Outbox} {run : ScheduleRun} {outcome : WriteOutcome}
    {authorized : Bool} {finishedAt : Timestamp} {delay : ℕ} {receiptId : Option String}
    (hrow : row.AttemptBounded) (hread : read.attempt = row.attempt) :
    (finishedRow outcome (retries read run outcome authorized now delay) authorized now finishedAt
      delay receiptId row).AttemptBounded := by
  have hbound := hrow.bound
  by_cases hretry : retries read run outcome authorized now delay = true
  · have hleft : outcome = .unavailable ∨ row.attempt < 3 := by
      simp only [retries, decide_eq_true_eq] at hretry
      rw [hread] at hretry
      exact hretry.2.1
    have hsent : outcome ≠ .sent := by
      rintro rfl
      simp only [retries, decide_eq_true_eq] at hretry
      exact absurd hretry.1 (by decide)
    have hattempt : (finishedRow outcome true authorized now finishedAt delay receiptId
        row).attempt ≤ 2 := by
      dsimp only [finishedRow]
      split_ifs with hunavailable
      · omega
      · have hlt := hleft.resolve_left fun h ↦ hunavailable ⟨h, rfl⟩
        omega
    rw [hretry]
    refine ⟨hattempt.trans (by decide), fun _ ↦ hattempt, fun hstarted ↦ ?_⟩
    simp only [finishedRow, if_neg hsent, if_true] at hstarted
    cases hstarted
  · rw [Bool.not_eq_true] at hretry
    rw [hretry]
    refine ⟨?_, fun hunsent ↦ ?_, fun hstarted ↦ ?_⟩
    · simpa [finishedRow] using hbound
    · simp only [finishedRow, isUnsent] at hunsent
      split_ifs at hunsent <;> simp_all
    · simp only [finishedRow] at hstarted
      split_ifs at hstarted

theorem settleOutcome_attempts {row : Outbox} {run : ScheduleRun} {schedule : Schedule}
    {authorized : Bool} {outcome : WriteOutcome} {finishedAt : Timestamp}
    {receiptId : Option String} {retryAfterSeconds : ℕ} (hdb : db.AttemptsBounded)
    (hread : ∀ stored, db.outbox.get? outboxId = some stored → row.attempt = stored.attempt) :
    (db.settleOutcome outboxId row run schedule authorized outcome now finishedAt receiptId
      retryAfterSeconds).AttemptsBounded := by
  have hfinished : (db.updateOutboxRow outboxId (finishedRow outcome
      (retries row run outcome authorized now (retryDelay row retryAfterSeconds)) authorized now
      finishedAt (retryDelay row retryAfterSeconds) receiptId)).AttemptsBounded := by
    intro id row' hrow'
    rw [get?_updateOutboxRow] at hrow'
    split_ifs at hrow' with hid
    · subst hid
      obtain ⟨stored, hstored, rfl⟩ := Option.map_eq_some_iff.1 hrow'
      exact attemptBounded_finishedRow (hdb id stored hstored) (hread stored hstored)
    · exact hdb id row' hrow'
  refine hfinished.of_keeps ?_
  have hpaused : ∀ (db : Db) (c : Prop) [Decidable c],
      db.Rests (if c then db.pauseRevoked run schedule finishedAt else db) :=
    fun db c _ ↦ .ite rests_pauseRevoked (.refl db)
  have hskipped : ∀ (db : Db) (c : Prop) [Decidable c],
      db.Rests (if c then db.skipMisfired outboxId row finishedAt else db) :=
    fun db c _ ↦ .ite rests_skipMisfired (.refl db)
  exact ((((hpaused _ _).trans (hskipped _ _)).trans rests_expireFinished).trans
    rests_endReminderRun).keepsAttempts

/-- A write whose outcome is known has made a request: the attempt that an outcome may take back
is there. -/
theorem finishWrite_attempts {token : Uuid} {outcome : WriteOutcome} {receiptId : Option String}
    {retryAfterSeconds : ℕ} (hdb : db.AttemptsBounded)
    (h : db.finishWrite env outboxId token outcome now receiptId retryAfterSeconds =
      .ok (u, db')) :
    db'.AttemptsBounded ∧
      ∃ row, db.outbox.get? outboxId = some row ∧ 1 ≤ row.attempt ∧ row.attempt ≤ 3 := by
  simp only [finishWrite, bind_eq_ok, orThrow_eq_ok, throwIf_eq_ok, Except.ok.injEq, Prod.mk.injEq,
    not_or, not_not] at h
  obtain ⟨_, -, _, -, _, -, row, hrow, _, ⟨hstatus, -⟩, run, -, schedule, -, revision, -, _, -, -,
    rfl⟩ := h
  obtain ⟨stored, hstored, hsame, hread⟩ := exists_of_getOutbox hrow
  have hbounded := hdb outboxId stored hstored
  refine ⟨?_, stored, hstored, hbounded.started (hsame ▸ hstatus), hbounded.bound⟩
  refine AttemptsBounded.of_keeps ?_ rests_afterWrite.keepsAttempts
  by_cases hambiguous : outcome = .ambiguous
  · rw [if_pos hambiguous]
    exact hdb.of_keeps keepsAttempts_markAmbiguous
  · rw [if_neg hambiguous]
    refine settleOutcome_attempts hdb fun other hother ↦ ?_
    obtain rfl : stored = other := Option.some.inj (hstored.symm.trans hother)
    exact hread

theorem finishWriteAfterPreflight_attempts {token : Uuid} {outcome : PreflightOutcome}
    {retryAfterSeconds : ℕ} (hdb : db.AttemptsBounded)
    (h : db.finishWriteAfterPreflight env outboxId token outcome now retryAfterSeconds =
      .ok (u, db')) : db'.AttemptsBounded := by
  simp only [finishWriteAfterPreflight, bind_eq_ok] at h
  obtain ⟨_, -, h⟩ := h
  split at h
  · split_ifs at h
    · obtain ⟨-, rfl⟩ := Prod.mk.inj (Except.ok.inj h)
      exact hdb.of_keeps keepsAttempts_revokeAfterCancel
    · obtain ⟨-, rfl⟩ := Prod.mk.inj (Except.ok.inj h)
      exact hdb
    · simp only [bind_eq_ok, Prod.exists, Except.ok.injEq, Prod.mk.injEq] at h
      obtain ⟨started, db₁, hrequest, _, -, u₁, db₂, hfinish, -, rfl⟩ := h
      have hfinished := (finishWrite_attempts (requestStarted_attempts hdb hrequest) hfinish).1
      refine hfinished.of_keeps (Rests.keepsAttempts ?_)
      constructor
      · exact Table.evolves_updateKey (fun _ ↦ .refl) fun row _ ↦ ⟨.inl rfl, rfl⟩
      · exact .refl (fun _ _ ↦ id) _
  · cases h

/-! ### The limit is not met -/

theorem requestStarted_ne_attemptLimit {token : Uuid} (hdb : db.AttemptsBounded) :
    db.requestStarted outboxId token now ≠ .error "attempt_limit" := by
  intro h
  simp only [requestStarted, utc, bind_eq_error, throwIf_eq_error, orThrow_eq_error] at h
  rcases h with ⟨-, h⟩ | ⟨_, -, ⟨-, h⟩ | ⟨row, hread, ⟨-, h⟩ | ⟨_, hclaimed, h⟩⟩⟩
  · exact absurd h (by decide)
  · exact absurd h (by decide)
  · exact absurd h (by decide)
  split_ifs at h
  simp only [bind_eq_error, throwIf_eq_error, orThrow_eq_error, reduceCtorEq, and_false,
    exists_const] at h
  rcases h with ⟨-, h⟩ | ⟨run, -, ⟨-, h⟩ | ⟨_, -, ⟨hlimit, -⟩ | h⟩⟩
  · exact absurd h (by decide)
  · exact absurd h (by decide)
  swap
  · exact h.elim
  -- The claim has a request left.
  simp only [throwIf_eq_ok, not_or, not_not, orThrow_eq_ok] at hclaimed hread
  obtain ⟨stored, hstored, hstatus, hattempt⟩ := exists_of_getOutbox hread
  have hunsent : isUnsent stored = true := by
    rw [isUnsent, ← hstatus, hclaimed.1]
    rfl
  have hleft := (hdb outboxId stored hstored).unsent hunsent
  omega

theorem finishWrite_ne_attemptLimit {token : Uuid} {outcome : WriteOutcome}
    {retryAfterSeconds : ℕ} :
    db.finishWrite env outboxId token outcome now none retryAfterSeconds ≠
      .error "attempt_limit" := by
  intro h
  simp only [finishWrite, utc, Option.elim_none, ok_bind, bind_eq_error, throwIf_eq_error,
    orThrow_eq_error, reduceCtorEq] at h
  rcases h with ⟨-, h⟩ | ⟨_, -, ⟨-, h⟩ | ⟨_, -, ⟨-, h⟩ | ⟨_, -, ⟨-, h⟩ | ⟨_, -, ⟨-, h⟩ |
    ⟨_, -, ⟨-, h⟩ | ⟨_, -, ⟨-, h⟩ | ⟨_, -, ⟨-, h⟩ | ⟨_, -, h⟩⟩⟩⟩⟩⟩⟩⟩
  all_goals exact absurd h (by decide)

theorem finishWriteAfterPreflight_ne_attemptLimit {token : Uuid} {outcome : PreflightOutcome}
    {retryAfterSeconds : ℕ} (hdb : db.AttemptsBounded) :
    db.finishWriteAfterPreflight env outboxId token outcome now retryAfterSeconds ≠
      .error "attempt_limit" := by
  intro h
  simp only [finishWriteAfterPreflight, utc, bind_eq_error, throwIf_eq_error] at h
  rcases h with ⟨-, h⟩ | ⟨_, -, h⟩
  · exact absurd h (by decide)
  split at h
  · split_ifs at h
    simp only [bind_eq_error, orThrow_eq_error, Prod.exists] at h
    rcases h with h | ⟨started, db₁, -, ⟨-, h⟩ | ⟨_, -, h | ⟨_, _, -, h⟩⟩⟩
    · exact requestStarted_ne_attemptLimit hdb h
    · exact absurd h (by decide)
    · exact finishWrite_ne_attemptLimit h
    · cases h
  · exact absurd (Except.error.inj h) (by decide)

/-! ### Schedules and runs -/

theorem keepsAttempts_insertRevision {revision : ℕ} {row : Revision}
    (h : db.insertRevision scheduleId revision row = .ok db') : db.KeepsAttempts db' := by
  simp only [insertRevision, orThrow_bind_eq_ok, Except.ok.injEq] at h
  obtain ⟨revisions, -, rfl⟩ := h
  exact .of_eq rfl

theorem keepsAttempts_update {expectedRevision : ℕ} {input : RevisionInput} {nextDue : Timestamp}
    {actor : Actor}
    (h : db.update env scheduleId expectedRevision input nextDue actor now = .ok (u, db')) :
    db.KeepsAttempts db' := by
  simp only [update, bind_eq_ok, throwIf_eq_ok, Except.ok.injEq, Prod.mk.injEq] at h
  obtain ⟨_, -, _, -, before, -, _, -, _, -, _, -, _, -, _, -, db₁, hinsert, -, rfl⟩ := h
  refine KeepsAttempts.trans ?_ keepsAttempts_updateSchedule
  refine KeepsAttempts.trans ?_ (keepsAttempts_insertRevision hinsert)
  exact keepsAttempts_suppress.trans keepsAttempts_retireRevisions

theorem keepsAttempts_transition {expectedRevision : ℕ} {operation : TransitionOperation}
    {actor : Actor}
    (h : db.transition scheduleId expectedRevision operation actor now = .ok (u, db')) :
    db.KeepsAttempts db' := by
  obtain ⟨before, old, closed, transitionAt, -, -, -, -, hclosed, hcases⟩ := transition_cases h
  have hsame : db.KeepsAttempts closed := by
    rcases hclosed with rfl | rfl <;> exact .of_eq rfl
  refine hsame.trans ?_
  rcases hcases with hadvance | ⟨-, -, rfl⟩ | ⟨-, -, rfl⟩
  · simp only [advanceRevision, bind_eq_ok, Except.ok.injEq] at hadvance
    obtain ⟨db₁, hinsert, rfl⟩ := hadvance
    have hadvanced : closed.KeepsAttempts (((db₁.retireRevisions scheduleId transitionAt
        (some expectedRevision)).updateSchedule scheduleId
          (advancedRow operation expectedRevision transitionAt)).releaseClaim scheduleId) :=
      (keepsAttempts_insertRevision hinsert).trans (.of_eq rfl)
    refine KeepsAttempts.trans ?_ keepsAttempts_completeIfDrained
    refine KeepsAttempts.trans ?_ (.ite keepsAttempts_retireRevisions (.refl _))
    exact hadvanced.trans (.ite (.refl _) keepsAttempts_suppress)
  · refine KeepsAttempts.trans ?_ keepsAttempts_completeIfDrained
    refine KeepsAttempts.trans ?_ keepsAttempts_retireRevisions
    exact keepsAttempts_suppress.trans keepsAttempts_updateSchedule
  · exact keepsAttempts_expireSchedule

theorem keepsAttempts_startOccurrence {before : Schedule} {revision : Revision}
    {expectedRevision : ℕ} {occurrenceKey : OccurrenceKey} {scheduledFor materializedAt : Timestamp}
    (h : db.startOccurrence env scheduleId before revision runId expectedRevision occurrenceKey
      scheduledFor materializedAt = .ok db') : db.KeepsAttempts db' := by
  unfold startOccurrence at h
  split at h
  · exact keepsAttempts_insertOutbox h
  · simp only [enqueueDue, bind_eq_ok, Prod.exists, throwIf_eq_ok] at h
    obtain ⟨result, db₁, henqueue, _, -, hbind⟩ := h
    have hevent := sameScheduler_enqueue henqueue
    have hbinding := sameScheduler_insertEventJobBinding hbind
    exact .of_eq (hbinding.outbox.trans hevent.outbox)

theorem keepsAttempts_materialize {expectedRevision : ℕ} {scheduledFor : Timestamp}
    {nextDue : Option Timestamp} {actor : Actor} {skip : Option SkipReason}
    {compactSkip : Option CompactSkip} {claim : Option MaterializeClaim}
    {result : Option MaterializeResult}
    (h : db.materialize env scheduleId expectedRevision scheduledFor nextDue now actor skip
      compactSkip claim = .ok (result, db')) : db.KeepsAttempts db' := by
  have hrelease : ∀ db : Db, db.KeepsAttempts (db.releaseIfClaimed scheduleId claim) :=
    fun db ↦ .ite (.of_eq rfl) (.refl db)
  simp only [materialize, bind_eq_ok, orThrow_eq_ok, throwIf_eq_ok] at h
  obtain ⟨_, -, _, -, _, -, current, -, before, -, _, -, h⟩ := h
  split at h
  · obtain ⟨-, rfl⟩ := Prod.mk.inj (Except.ok.inj h)
    exact hrelease db
  simp only [materializeNew, bind_eq_ok, throwIf_eq_ok, orThrow_eq_ok] at h
  obtain ⟨_, -, _, -, _, -, revision, -, _, -, _, -, h⟩ := h
  split_ifs at h
  · obtain ⟨-, rfl⟩ := Prod.mk.inj (Except.ok.inj h)
    exact keepsAttempts_expireSchedule
  simp only [bind_eq_ok, Prod.exists, Except.ok.injEq, Prod.mk.injEq, recordOccurrence,
    throwIf_eq_ok, orThrow_eq_ok] at h
  obtain ⟨recorded, db₁, ⟨_, -, _, -, runs, -, db₂, hstart, -, rfl⟩, -, rfl⟩ := h
  have hinserted : db.KeepsAttempts { db with runs := runs, nextUuid := db.nextUuid + 1 } :=
    .of_eq rfl
  have hstarted : db.KeepsAttempts db₂ := by
    split_ifs at hstart
    · obtain rfl := Except.ok.inj hstart
      exact hinserted
    · exact hinserted.trans (keepsAttempts_startOccurrence hstart)
  refine KeepsAttempts.trans ?_ keepsAttempts_completeIfDrained
  exact (hstarted.trans keepsAttempts_updateSchedule).trans (hrelease _)

theorem keepsAttempts_settleRunState {run : ScheduleRun} {current : Schedule} {next : RunTarget}
    {jobId : Option JobId} :
    db.KeepsAttempts (db.settleRunState runId run current next jobId now) :=
  (keepsAttempts_updateRun.trans keepsAttempts_expireCurrent).trans keepsAttempts_completeIfDrained

theorem keepsAttempts_applyRunState {run : ScheduleRun} {current : Schedule} {snapshot : Revision}
    {next : RunTarget} {transitionAt : Timestamp} {jobId : Option JobId}
    {resultContent : Option String} {notificationAt : Option Timestamp} {routeResultViaDona : Bool}
    (h : db.applyRunState env runId run current snapshot next transitionAt jobId resultContent
      notificationAt routeResultViaDona = .ok db') : db.KeepsAttempts db' := by
  simp only [applyRunState, bind_eq_ok, throwIf_eq_ok, Except.ok.injEq] at h
  obtain ⟨_, -, _, -, _, -, db₁, hresult, db₂, hfailure, rfl⟩ := h
  have hnotified : db.KeepsAttempts db₁ := by
    split_ifs at hresult
    · simp only [notifyResult, bind_eq_ok, orThrow_eq_ok] at hresult
      obtain ⟨_, -, _, -, hinsert⟩ := hresult
      exact keepsAttempts_insertOutbox hinsert
    · obtain rfl := Except.ok.inj hresult
      exact .refl db
  have hcancelled : ∀ (suppressed : List (Uuid × Outbox)) operationAt, db₁.KeepsAttempts
      (if suppressed.isEmpty then db₁ else db₁.cancelUnsentOf runId operationAt) :=
    fun _ _ ↦ .ite (.refl db₁) keepsAttempts_cancelUnsent
  have hfailed : ∀ {db₁ : Db} {c : Prop} [Decidable c] {target : Target} {content : String}
      {at' : Timestamp}, (if c then db₁.insertOutbox env runId .workResultPost target content at'
        else .ok db₁) = .ok db₂ → db₁.KeepsAttempts db₂ := by
    intro db₁ c _ target content at' hinsert
    split_ifs at hinsert
    · exact keepsAttempts_insertOutbox hinsert
    · obtain rfl := Except.ok.inj hinsert
      exact .refl db₁
  exact ((hnotified.trans (hcancelled _ _)).trans (hfailed hfailure)).trans
    keepsAttempts_settleRunState

theorem keepsAttempts_setRunState {expected : RunStatus} {next : RunTarget} {actor : Actor}
    {jobId : Option JobId} {resultContent : Option String} {notificationAt : Option Timestamp}
    {routeResultViaDona : Bool} {accepted : Option Unit}
    (h : db.setRunState env runId expected next actor now jobId resultContent notificationAt
      routeResultViaDona = .ok (accepted, db')) : db.KeepsAttempts db' := by
  simp only [setRunState, bind_eq_ok, orThrow_eq_ok, throwIf_eq_ok] at h
  obtain ⟨_, -, _, -, run, -, _, -, current, -, _, -, _, -, snapshot, -, _, -, h⟩ := h
  split at h
  · obtain ⟨-, rfl⟩ := Prod.mk.inj (Except.ok.inj h)
    refine KeepsAttempts.trans ?_ keepsAttempts_completeIfDrained
    refine KeepsAttempts.trans ?_ keepsAttempts_cancelUnsent
    exact KeepsAttempts.trans (.ite keepsAttempts_expireSchedule (.refl db)) keepsAttempts_updateRun
  · simp only [bind_eq_ok, Except.ok.injEq, Prod.mk.injEq] at h
    obtain ⟨db₁, happly, -, rfl⟩ := h
    exact keepsAttempts_applyRunState happly

theorem keepsAttempts_markWorkRunNeedsReview {jobId : JobId} {eventId : EventId}
    (h : db.markWorkRunNeedsReview runId jobId now eventId = .ok (u, db')) :
    db.KeepsAttempts db' := by
  simp only [markWorkRunNeedsReview, bind_eq_ok, orThrow_eq_ok, throwIf_eq_ok] at h
  obtain ⟨_, -, _, -, _, -, run, -, _, -, h⟩ := h
  split_ifs at h
  · obtain ⟨-, rfl⟩ := Prod.mk.inj (Except.ok.inj h)
    exact .refl db
  simp only [bind_eq_ok, orThrow_eq_ok] at h
  obtain ⟨before, -, h⟩ := h
  split_ifs at h
  · obtain ⟨-, rfl⟩ := Prod.mk.inj (Except.ok.inj h)
    refine KeepsAttempts.trans ?_ keepsAttempts_retireRevisions
    exact (keepsAttempts_updateRun.trans keepsAttempts_suppress).trans keepsAttempts_updateSchedule
  · obtain ⟨-, rfl⟩ := Prod.mk.inj (Except.ok.inj h)
    exact keepsAttempts_updateRun

theorem keepsAttempts_activateReviewed {schedule : Schedule} :
    db.KeepsAttempts (db.activateReviewed scheduleId schedule now) := .ite (.of_eq rfl) (.refl db)

theorem keepsAttempts_recoverWorkRunForResult {jobId : JobId} {eventId : EventId}
    (h : db.recoverWorkRunForResult runId jobId eventId now = .ok (u, db')) :
    db.KeepsAttempts db' := by
  simp only [recoverWorkRunForResult, bind_eq_ok] at h
  obtain ⟨_, -, _, -, _, -, h⟩ := h
  split at h
  · obtain ⟨-, rfl⟩ := Prod.mk.inj (Except.ok.inj h)
    exact .refl db
  split_ifs at h
  · obtain ⟨-, rfl⟩ := Prod.mk.inj (Except.ok.inj h)
    exact .refl db
  have hstart : db.KeepsAttempts (db.updateRun runId fun run ↦
      { run with status := .started, reason := none, terminalAt := none }) :=
    keepsAttempts_updateRun
  refine hstart.trans ?_
  split at h
  · split_ifs at h <;> obtain ⟨-, rfl⟩ := Prod.mk.inj (Except.ok.inj h)
    · exact .refl _
    · exact keepsAttempts_expireSchedule
    · exact keepsAttempts_activateReviewed
    · exact .refl _
  · obtain ⟨-, rfl⟩ := Prod.mk.inj (Except.ok.inj h)
    exact .refl _

theorem keepsAttempts_markWorkNotificationNeedsReview
    (h : db.markWorkNotificationNeedsReview runId now = .ok (u, db')) : db.KeepsAttempts db' := by
  unfold markWorkNotificationNeedsReview at h
  split at h
  · obtain ⟨-, rfl⟩ := Prod.mk.inj (Except.ok.inj h)
    exact .refl db
  simp only [bind_eq_ok, orThrow_eq_ok] at h
  obtain ⟨schedule, -, h⟩ := h
  split_ifs at h <;> obtain ⟨-, rfl⟩ := Prod.mk.inj (Except.ok.inj h)
  · exact .of_eq rfl
  · exact .refl db

theorem keepsAttempts_resumeAfterWorkNotification
    (h : db.resumeAfterWorkNotification runId now = .ok (u, db')) : db.KeepsAttempts db' := by
  simp only [resumeAfterWorkNotification, bind_eq_ok] at h
  obtain ⟨_, -, h⟩ := h
  split at h
  · obtain ⟨-, rfl⟩ := Prod.mk.inj (Except.ok.inj h)
    exact .refl db
  split at h
  · split_ifs at h <;> obtain ⟨-, rfl⟩ := Prod.mk.inj (Except.ok.inj h)
    · exact .refl db
    · exact keepsAttempts_expireSchedule
    · exact keepsAttempts_activateReviewed.trans keepsAttempts_completeIfDrained
    · exact keepsAttempts_completeIfDrained
  · obtain ⟨-, rfl⟩ := Prod.mk.inj (Except.ok.inj h)
    exact .refl db

theorem keepsAttempts_settleUndelegatedWorkEvent {eventId : EventId} {outcome : UndelegatedOutcome}
    (h : db.settleUndelegatedWorkEvent eventId outcome now = .ok (u, db')) :
    db.KeepsAttempts db' := by
  simp only [settleUndelegatedWorkEvent, bind_eq_ok] at h
  obtain ⟨_, -, _, -, h⟩ := h
  split at h
  · obtain ⟨-, rfl⟩ := Prod.mk.inj (Except.ok.inj h)
    exact .refl db
  rename_i runId run hfind
  by_cases hstatus : run.status ≠ .materialized ∨ run.jobId ≠ none
  · rw [if_pos hstatus] at h
    obtain ⟨-, rfl⟩ := Prod.mk.inj (Except.ok.inj h)
    exact .refl db
  rw [if_neg hstatus] at h
  simp only [bind_eq_ok, orThrow_eq_ok, Except.ok.injEq, Prod.mk.injEq] at h
  obtain ⟨before, -, -, rfl⟩ := h
  refine KeepsAttempts.trans ?_ keepsAttempts_completeIfDrained
  refine KeepsAttempts.trans keepsAttempts_updateRun (.ite ?_ (.refl _))
  exact .of_eq rfl

theorem keepsAttempts_reconcileWorkRun {outcome : WorkRunOutcome} {actor : Actor}
    (h : db.reconcileWorkRun runId outcome actor now = .ok (u, db')) : db.KeepsAttempts db' := by
  simp only [reconcileWorkRun, bind_eq_ok, orThrow_eq_ok, throwIf_eq_ok, Except.ok.injEq,
    Prod.mk.injEq] at h
  obtain ⟨_, -, _, -, run, -, _, -, before, -, _, -, -, rfl⟩ := h
  exact keepsAttempts_updateRun.trans keepsAttempts_completeIfDrained

theorem keepsAttempts_claimDue {owner : String} {leaseSeconds : ℕ} {excluded : List ScheduleId}
    {claimed : Option ScheduleId}
    (h : db.claimDue owner now leaseSeconds excluded = .ok (claimed, db')) :
    db.KeepsAttempts db' := by
  simp only [claimDue, bind_eq_ok, throwIf_eq_ok] at h
  obtain ⟨_, -, _, -, _, -, _, -, h⟩ := h
  split at h <;> obtain ⟨-, rfl⟩ := Prod.mk.inj (Except.ok.inj h)
  · exact .refl db
  · exact .of_eq rfl

theorem keepsAttempts_purge (h : db.purge now = .ok (u, db')) : db.KeepsAttempts db' := by
  simp only [purge, bind_eq_ok, Except.ok.injEq, Prod.mk.injEq] at h
  obtain ⟨_, -, -, rfl⟩ := h
  have hcontents : ∀ db : Db, db.KeepsAttempts ((db.retireExpired now).purgeContents now) := by
    intro db id row' hrow'
    simp only [purgeContents, retireExpired, Table.get?_updateWhere,
      Option.map_eq_some_iff] at hrow'
    obtain ⟨row, hrow, rfl⟩ := hrow'
    refine .inl ⟨row, hrow, ?_⟩
    split_ifs <;> exact .of_status rfl rfl
  have hevents : ∀ db : Db, db.KeepsAttempts ((((db.purgeJobContents now).purgeEventContents
      now).purgeMetadata now).purgeTrails now) := fun db ↦ .of_eq rfl
  have hdeleted : ∀ db : Db, db.KeepsAttempts (((db.purgeRuns now).purgeSchedules
      now).purgeRevisions now) := by
    intro db id row' hrow'
    exact .inl ⟨row', kept_deleteWhere id row' hrow', .refl row'⟩
  exact ((keepsAttempts_expireAll.trans (hcontents _)).trans (hevents _)).trans (hdeleted _)

end Db

/-! ### Runs of the scheduler -/

/-- Every count lies within its bounds, and so does every count that a request or an outcome is
about to write. -/
structure Db.RespectsAttempts (env : Env) (db : Db) : Prop where
  bound : ∀ id row, db.outbox.get? id = some row → row.attempt ≤ 3
  unsent : ∀ id row, db.outbox.get? id = some row →
    row.status = .pending ∨ row.status = .claimed → row.attempt ≤ 2
  requestable : ∀ outboxId token now,
    db.requestStarted outboxId token now ≠ .error "attempt_limit"
  settleable : ∀ outboxId token outcome now retryAfterSeconds,
    db.finishWriteAfterPreflight env outboxId token outcome now retryAfterSeconds ≠
      .error "attempt_limit"
  requested : ∀ outboxId token now db',
    db.requestStarted outboxId token now = .ok (some (), db') →
      ∃ row, db.outbox.get? outboxId = some row ∧ row.attempt + 1 ≤ 3
  returned : ∀ outboxId token outcome now receiptId retryAfterSeconds db',
    db.finishWrite env outboxId token outcome now receiptId retryAfterSeconds = .ok ((), db') →
      ∃ row, db.outbox.get? outboxId = some row ∧ 1 ≤ row.attempt ∧ row.attempt ≤ 3

section Steps

variable {env : Env} {db : Db}

open Db

theorem SchedulerOp.attemptsBounded_next {op : SchedulerOp} (hdb : db.AttemptsBounded) :
    (op.next env db).AttemptsBounded := by
  have hkeeps : ∀ {α : Type} {body : Db → Except String (α × Db)},
      (∀ a db', body db = .ok (a, db') → db.KeepsAttempts db') →
        (commit body db).AttemptsBounded := by
    intro α body hbody
    exact commit_induction hdb fun a db' hok ↦ hdb.of_keeps (hbody a db' hok)
  cases op with
  | create =>
      refine hkeeps fun _ _ hok ↦ .of_eq ?_
      exact (create_spec hok).2.2.2.2.2.1
  | update => exact hkeeps fun _ _ hok ↦ keepsAttempts_update hok
  | transition => exact hkeeps fun _ _ hok ↦ keepsAttempts_transition hok
  | claimDue => exact hkeeps fun _ _ hok ↦ keepsAttempts_claimDue hok
  | releaseClaims =>
      refine hkeeps fun _ _ hok ↦ ?_
      simp only [Db.releaseClaims, bind_eq_ok, Except.ok.injEq, Prod.mk.injEq] at hok
      obtain ⟨_, -, _, -, -, rfl⟩ := hok
      exact .of_eq rfl
  | expireDue =>
      refine hkeeps fun _ _ hok ↦ ?_
      simp only [Db.expireDue, bind_eq_ok, throwIf_eq_ok, Except.ok.injEq, Prod.mk.injEq] at hok
      obtain ⟨_, -, _, -, -, rfl⟩ := hok
      exact keepsAttempts_expireAll
  | materialize => exact hkeeps fun _ _ hok ↦ keepsAttempts_materialize hok
  | setRunState => exact hkeeps fun _ _ hok ↦ keepsAttempts_setRunState hok
  | markWorkRunNeedsReview => exact hkeeps fun _ _ hok ↦ keepsAttempts_markWorkRunNeedsReview hok
  | recoverWorkRunForResult => exact hkeeps fun _ _ hok ↦ keepsAttempts_recoverWorkRunForResult hok
  | markWorkNotificationNeedsReview =>
      exact hkeeps fun _ _ hok ↦ keepsAttempts_markWorkNotificationNeedsReview hok
  | reconcileWorkNotificationNotSent =>
      exact hkeeps fun _ _ hok ↦ keepsAttempts_resumeAfterWorkNotification hok
  | settleWorkNotification =>
      exact hkeeps fun _ _ hok ↦ keepsAttempts_resumeAfterWorkNotification hok
  | settleUndelegatedWorkEvent =>
      exact hkeeps fun _ _ hok ↦ keepsAttempts_settleUndelegatedWorkEvent hok
  | reconcileWorkRun => exact hkeeps fun _ _ hok ↦ keepsAttempts_reconcileWorkRun hok
  | completeIfDrained => exact hdb.of_keeps keepsAttempts_completeIfDrained
  | claimBatch => exact hkeeps fun _ _ hok ↦ keepsAttempts_claimBatch hok
  | requestStarted => exact commit_induction hdb fun _ _ hok ↦ requestStarted_attempts hdb hok
  | rejectClaimBeforeWrite => exact hkeeps fun _ _ hok ↦ keepsAttempts_rejectClaimBeforeWrite hok
  | finishWrite => exact commit_induction hdb fun _ _ hok ↦ (finishWrite_attempts hdb hok).1
  | finishWriteAfterPreflight =>
      exact commit_induction hdb fun _ _ hok ↦ finishWriteAfterPreflight_attempts hdb hok
  | recover => exact hkeeps fun _ _ hok ↦ keepsAttempts_recover hok
  | reconcile => exact hkeeps fun _ _ hok ↦ keepsAttempts_reconcile hok
  | purge => exact hkeeps fun _ _ hok ↦ keepsAttempts_purge hok
  | dispatcher => exact hdb.of_keeps (.of_eq rfl)

theorem attemptsBounded_of_reachable (hreach : (scheduler env).Reachable db) :
    db.AttemptsBounded := by
  refine hreach.invariant (fun hinit ↦ ?_) fun hstep hdb ↦ ?_
  · subst hinit
    intro id row hrow
    cases hrow
  · subst hstep
    exact SchedulerOp.attemptsBounded_next hdb

/-- The attempts of a write stay between none and three. -/
theorem attempts_bounded (hreach : (scheduler env).Reachable db) : db.RespectsAttempts env := by
  have hdb := attemptsBounded_of_reachable hreach
  constructor
  · intro id row hrow
    exact (hdb id row hrow).bound
  · intro id row hrow hstatus
    apply (hdb id row hrow).unsent
    rw [isUnsent, decide_eq_true_eq]
    exact hstatus
  · intro outboxId token now
    exact requestStarted_ne_attemptLimit hdb
  · intro outboxId token outcome now retryAfterSeconds
    exact finishWriteAfterPreflight_ne_attemptLimit hdb
  · intro outboxId token now db' hok
    exact requestStarted_left hok
  · intro outboxId token outcome now receiptId retryAfterSeconds db' hok
    exact (finishWrite_attempts hdb hok).2

end Steps

namespace DailyReminder

/-- The reminder is requested, is not available, and is requested once more. -/
def retried : List SchedulerOp :=
  [.claimBatch (.ofSeconds 300) 60 none 10, .requestStarted 1 2 (.ofSeconds 301),
    .finishWrite 1 2 .unavailable (.ofSeconds 302) none 1,
    .claimBatch (.ofSeconds 310) 60 none 10, .requestStarted 1 3 (.ofSeconds 311)]

end DailyReminder

open DailyReminder in
theorem attempts_bounded_retried :
    Db.RespectsAttempts plain (retried.foldl (SchedulerOp.next plain)
      ((occursAt 100).next plain (created.next plain .fresh))) := by
  have hdue : (scheduler plain).Reachable ((occursAt 100).next plain (created.next plain .fresh)) :=
    reachable_created.step rfl
  exact attempts_bounded (hdue.run (run_ofFun _ _ _ _))

end Dona
