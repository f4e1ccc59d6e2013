import Dona.Scheduler.Suppression
import Dona.Scheduler.Withdrawals

/-!
# The settlement of a refused preflight

`finishWriteAfterPreflight` starts the request of a claimed reminder and settles it at once, in
one transaction. Where the request is refused, the refusal is thrown after the row has been ended,
and the transaction takes the end of the row back with it: the row stays claimed. So the call
settles the row exactly where a request would be permitted.
-/

namespace Dona

open Fallible TransitionSystem

/-- The write keeps its status unless it is over, and its attempts are those it had. -/
structure Outbox.Rests (row row' : Outbox) : Prop where
  status : row'.status = row.status ∨ row'.status.isOver = true
  attempt : row'.attempt = row.attempt

theorem Outbox.Rests.refl (row : Outbox) : row.Rests row := ⟨.inl rfl, rfl⟩

theorem Outbox.Rests.trans {a b c : Outbox} (h : a.Rests b) (h' : b.Rests c) : a.Rests c := by
  constructor
  · rcases h'.status with hstatus | hover
    · rw [hstatus]
      exact h.status
    · exact .inr hover
  · exact h'.attempt.trans h.attempt

namespace Db

/-- No write goes back to its claim, and no schedule becomes active. -/
structure Rests (db db' : Db) : Prop where
  outbox : db.outbox.Evolves (fun _ ↦ Outbox.Rests) db'.outbox
  schedules : db.schedules.Evolves
    (fun _ row row' ↦ row'.state = .active → row.state = .active) db'.schedules

variable {db db' db'' : Db} {scheduleId : ScheduleId} {outboxId : Uuid} {now : Timestamp}

theorem Rests.of_eq (houtbox : db'.outbox = db.outbox) (hschedules : db'.schedules = db.schedules) :
    db.Rests db' := by
  constructor
  · rw [houtbox]
    exact .refl (fun _ ↦ .refl) _
  · rw [hschedules]
    exact .refl (fun _ _ ↦ id) _

theorem Rests.refl (db : Db) : db.Rests db := .of_eq rfl rfl

theorem Rests.trans (h : db.Rests db') (h' : db'.Rests db'') : db.Rests db'' where
  outbox := h.outbox.trans (fun ha hb ↦ ha.trans hb) h'.outbox
  schedules := h.schedules.trans (fun ha hb hc ↦ ha (hb hc)) h'.schedules

theorem Rests.ite {c : Prop} [Decidable c] {db₁ db₂ : Db} (h₁ : db.Rests db₁)
    (h₂ : db.Rests db₂) : db.Rests (if c then db₁ else db₂) := by
  split_ifs
  · exact h₁
  · exact h₂

/-! ### The statements -/

theorem rests_suppress {reason : RunReason} : db.Rests (db.suppress scheduleId now reason) where
  outbox := by
    intro id
    rw [get?_outbox_suppress]
    cases db.outbox.get? id with
    | none => exact .none
    | some row =>
        refine .some ⟨?_, suppressedWrite_attempt row⟩
        rw [suppressedWrite_status]
        split_ifs
        · exact .inr rfl
        · exact .inl rfl
  schedules := by
    rw [schedules_suppress]
    exact .refl (fun _ _ ↦ id) _

theorem rests_updateSchedule {f : Schedule → Schedule}
    (h : ∀ row : Schedule, (f row).state = .active → row.state = .active) :
    db.Rests (db.updateSchedule scheduleId f) where
  outbox := .refl (fun _ ↦ .refl) _
  schedules := Table.evolves_updateKey (fun _ _ ↦ id) fun row _ ↦ h row

theorem rests_updateOutboxRow {f : Outbox → Outbox} (h : ∀ row : Outbox, row.Rests (f row)) :
    db.Rests (db.updateOutboxRow outboxId f) where
  outbox := Table.evolves_updateKey (fun _ ↦ .refl) fun row _ ↦ h row
  schedules := .refl (fun _ _ ↦ id) _

theorem rests_completeIfDrained : db.Rests (db.completeIfDrained scheduleId now) := by
  unfold completeIfDrained
  split
  · exact .refl db
  split
  · exact .refl db
  split_ifs
  · exact .refl db
  · exact .refl db
  · have hcompleted : ∀ completedAt, db.Rests (db.updateSchedule scheduleId fun row ↦
        { row with state := .completed, terminalAt := some completedAt, updatedAt := completedAt })
        := fun _ ↦ rests_updateSchedule fun _ h ↦ by cases h
    exact (hcompleted _).trans (.of_eq rfl rfl)

theorem rests_expireSchedule {before : Schedule} :
    db.Rests (db.expireSchedule scheduleId before now) := by
  unfold expireSchedule
  set expiredAt := now.latest _
  have hexpired : (db.suppress scheduleId expiredAt .authorizationExpired).Rests
      ((db.suppress scheduleId expiredAt .authorizationExpired).updateSchedule scheduleId fun row ↦
        { row with
          state := .expired
          updatedAt := expiredAt
          terminalAt := some (row.terminalAt.getD expiredAt) }) :=
    rests_updateSchedule fun _ h ↦ by cases h
  have hretired : ∀ db : Db, db.Rests (db.retireRevisions scheduleId expiredAt
      (some before.revision)) := fun _ ↦ .of_eq rfl rfl
  exact ((rests_suppress.trans hexpired).trans (hretired _)).trans rests_completeIfDrained

theorem rests_endUnsent {row : Outbox} {run : ScheduleRun} {reason : UnsentReason} :
    db.Rests (db.endUnsent outboxId row run reason now) := by
  unfold endUnsent
  have hended : db.Rests (db.updateOutboxRow outboxId fun row ↦
      { cancelUnsent now row with
        status := if reason = .retryExpired then .failed else .cancelled }) := by
    refine rests_updateOutboxRow fun row ↦ ⟨.inr ?_, rfl⟩
    dsimp only
    split_ifs <;> rfl
  have hrun : ∀ (db : Db) f, db.Rests (if row.kind = .reminderPost ∧
      [RunStatus.materialized, .started].contains run.status then db.updateRun row.runId f else
      db) := fun db f ↦ .ite (.of_eq rfl rfl) (.refl db)
  exact (hended.trans (hrun _ _)).trans rests_completeIfDrained

theorem rests_expireUnsent {row : Outbox} {eligibilityAt : Option Timestamp} :
    db.Rests (db.expireUnsent outboxId row now eligibilityAt).2 := by
  unfold expireUnsent
  split_ifs
  · exact .refl db
  split
  · exact .refl db
  split
  · simp only
    split
    · exact .refl db
    · exact rests_expireSchedule
    · exact rests_endUnsent
  · exact .refl db

theorem rests_pauseRevoked {run : ScheduleRun} {schedule : Schedule} :
    db.Rests (db.pauseRevoked run schedule now) := by
  unfold pauseRevoked
  split
  · split_ifs
    · have hpaused : db.Rests (db.updateSchedule run.scheduleId fun row ↦
          if row.state = .active then { row with state := .paused, updatedAt := now } else row) := by
        refine rests_updateSchedule fun row h ↦ ?_
        split_ifs at h
        exact h
      have hretired : ∀ db : Db, db.Rests (db.retireRevisions run.scheduleId now
          (some schedule.revision)) := fun _ ↦ .of_eq rfl rfl
      exact (hpaused.trans rests_suppress).trans (hretired _)
    · exact .refl db
  · exact .refl db

theorem rests_skipMisfired {row : Outbox} : db.Rests (db.skipMisfired outboxId row now) := by
  have hcancelled : db.Rests (db.updateOutboxRow outboxId fun row ↦
      { row with status := .cancelled }) := rests_updateOutboxRow fun _ ↦ ⟨.inr rfl, rfl⟩
  exact hcancelled.trans (.of_eq rfl rfl)

theorem rests_expireFinished {finishedAt : Timestamp} :
    db.Rests (db.expireFinished outboxId now finishedAt) := by
  unfold expireFinished
  split
  · exact rests_expireUnsent
  · exact .refl db

theorem rests_endReminderRun {row : Outbox} : db.Rests (db.endReminderRun outboxId row now) := by
  unfold endReminderRun
  split
  · exact .ite (.of_eq rfl rfl) (.refl db)
  · exact .refl db

theorem rests_afterWrite {finishedAt : Timestamp} :
    db.Rests (db.afterWrite scheduleId now finishedAt) := by
  have hover : ∀ db : Db, db.Rests (db.expireOver scheduleId now finishedAt) := by
    intro db
    unfold expireOver
    split
    · exact .refl db
    · exact .ite rests_expireSchedule (.refl db)
  exact (rests_completeIfDrained.trans (hover _)).trans rests_completeIfDrained

/-! ### What a preflight needs -/

/-- The instant at which an unsent write is judged: not before anything recorded of it. -/
def unsentInstant (row : Outbox) (run : ScheduleRun) (schedule : Schedule) (now : Timestamp) :
    Timestamp :=
  now.latest [row.createdAt, row.updatedAt, row.requestStartedAt.getD row.createdAt, run.createdAt,
    run.startedAt.getD run.createdAt, schedule.createdAt, schedule.updatedAt]

/-- The request of the reminder would be permitted, and its delay is one the settlement takes. -/
structure SettlementPermitted (db : Db) (row : Outbox) (now : Timestamp) (retryAfterSeconds : ℕ)
    (run : ScheduleRun) (schedule : Schedule) (revision : Revision) : Prop where
  ofRun : db.runs.get? row.runId = some run
  ofSchedule : db.schedules.get? run.scheduleId = some schedule
  ofRevision : db.revision? run.scheduleId run.revision = some revision
  active : schedule.state = .active
  current : schedule.revision = run.revision
  live : [RunStatus.materialized, .started].contains run.status = true
  authorized : unsentInstant row run schedule now < revision.expiresAt
  punctual : (unsentInstant row run schedule now).millis - run.scheduledFor.millis ≤ 900000
  content : row.content ≠ none
  kept : row.contentDeleteAt.all (unsentInstant row run schedule now < ·) = true
  attempts : row.attempt < 3
  delay : retryAfterSeconds ≤ 2592000

theorem unsentReason_eq_none_iff {row : Outbox} {run : ScheduleRun} {schedule : Schedule}
    {snapshot : Revision} {terminalAt effectiveAt : Timestamp} (hkind : row.kind = .reminderPost) :
    unsentReason row run schedule snapshot terminalAt effectiveAt = none ↔
      schedule.state = .active ∧ schedule.revision = run.revision ∧
      [RunStatus.materialized, .started].contains run.status = true ∧
      effectiveAt < snapshot.expiresAt ∧
      effectiveAt.millis - run.scheduledFor.millis ≤ 900000 ∧ row.content ≠ none ∧
      row.contentDeleteAt.all (effectiveAt < ·) = true := by
  have hreview : isReviewNotification row run schedule = false := by
    simp [isReviewNotification, hkind]
  have hsend : runCanSend row run = [RunStatus.materialized, .started].contains run.status := by
    simp only [runCanSend, hkind]
  have hdeadline : row.contentDeleteAt.any (· ≤ effectiveAt) = true ↔
      ¬row.contentDeleteAt.all (effectiveAt < ·) = true := by
    cases row.contentDeleteAt <;> simp
  simp only [unsentReason, hreview, hsend, hkind, hdeadline, true_and, reduceCtorEq, false_and,
    if_false]
  constructor
  · intro h
    split_ifs at h with hauthorized hexpired hmisfired hgone
    rw [not_or, not_or, not_not, not_not, Bool.not_eq_false] at hauthorized
    rw [not_or, not_not] at hgone
    exact ⟨hauthorized.1, hauthorized.2.1, hauthorized.2.2, not_le.1 hexpired, not_lt.1 hmisfired,
      hgone.1, hgone.2⟩
  · rintro ⟨hactive, hcurrent, hlive, hauthorized, hpunctual, hcontent, hkept⟩
    have hlives : ¬(schedule.state ≠ .active ∨ schedule.revision ≠ run.revision ∨
        [RunStatus.materialized, .started].contains run.status = false) := by
      rw [not_or, not_or, not_not, not_not, Bool.not_eq_false]
      exact ⟨hactive, hcurrent, hlive⟩
    have hstays : ¬(row.content = none ∨
        ¬row.contentDeleteAt.all (effectiveAt < ·) = true) := by
      rw [not_or, not_not]
      exact ⟨hcontent, hkept⟩
    rw [if_neg hlives, if_neg (not_le.2 hauthorized), if_neg (not_lt.2 hpunctual), if_neg hstays]

/-- A row read from the outbox is the stored one, without its text when that is due. -/
theorem getOutbox_of_get? {row : Outbox} (now : Timestamp)
    (hrow : db.outbox.get? outboxId = some row) :
    ∃ read, db.getOutbox outboxId now = some read ∧
      read = { row with content := read.content } ∧
      ((row.content ≠ none ∧ ¬row.contentDeleteAt.any (· ≤ now) = true) ↔ read.content ≠ none) := by
  rw [getOutbox, hrow, Option.map_some]
  by_cases hdue : row.contentDeleteAt.any (· ≤ now) = true
  · refine ⟨_, rfl, ?_, ?_⟩ <;> simp [hdue]
  · refine ⟨_, rfl, ?_, ?_⟩ <;> simp [hdue]

/-- The request is not refused exactly where nothing ends the row. -/
theorem expireUnsent_eq_false_iff {row : Outbox} {run : ScheduleRun} {schedule : Schedule}
    {snapshot : Revision} (hrun : db.runs.get? row.runId = some run)
    (hschedule : db.schedules.get? run.scheduleId = some schedule)
    (hsnapshot : db.revision? run.scheduleId run.revision = some snapshot)
    (hunsent : isUnsent row = true) :
    (db.expireUnsent outboxId row now none).1 = false ↔
      unsentReason row run schedule snapshot (unsentInstant row run schedule now)
        (unsentInstant row run schedule now) = none := by
  unfold expireUnsent
  rw [if_neg (by rw [hunsent]; decide), hrun]
  simp only [hschedule, hsnapshot, Option.getD_none]
  rw [show now.latest _ = unsentInstant row run schedule now from rfl]
  cases unsentReason row run schedule snapshot (unsentInstant row run schedule now)
    (unsentInstant row run schedule now) with
  | none => simp
  | some reason => cases reason <;> simp

/-- A preflight that is settled has needed the permission of a request. -/
theorem settlementPermitted_of_ok {env : Env} {row : Outbox} {token : Uuid}
    {outcome : PreflightOutcome} {retryAfterSeconds : ℕ} {u : Unit}
    (hrow : db.outbox.get? outboxId = some row) (hkind : row.kind = .reminderPost)
    (hclaimed : row.status = .claimed)
    (h : db.finishWriteAfterPreflight env outboxId token outcome now retryAfterSeconds =
      .ok (u, db')) :
    ∃ run schedule revision,
      db.SettlementPermitted row now retryAfterSeconds run schedule revision := by
  obtain ⟨read, hread, hsame, hcontent⟩ := getOutbox_of_get? now hrow
  have hstatus : read.status = .claimed := by rw [hsame]; exact hclaimed
  simp only [finishWriteAfterPreflight, bind_eq_ok, hread, hstatus, reduceCtorEq, false_and,
    if_false, orThrow_eq_ok, Prod.exists] at h
  obtain ⟨_, -, started, db₁, hrequest, some_, rfl, u₁, db₂, hfinish, -⟩ := h
  simp only [requestStarted, bind_eq_ok, hread, orThrow_eq_ok, throwIf_eq_ok, Option.some.injEq,
    exists_eq_left', not_or] at hrequest
  obtain ⟨_, -, _, -, hrequest⟩ := hrequest
  split_ifs at hrequest with hexpires
  · cases (Prod.mk.inj (Except.ok.inj hrequest)).1
  rw [Bool.not_eq_true] at hexpires
  simp only [bind_eq_ok, orThrow_eq_ok, throwIf_eq_ok, Except.ok.injEq, Prod.mk.injEq,
    not_le] at hrequest
  obtain ⟨run, hrun, _, -, _, hattempt, -, rfl⟩ := hrequest
  simp only [finishWrite, bind_eq_ok, orThrow_eq_ok, throwIf_eq_ok, not_lt] at hfinish
  obtain ⟨_, -, _, -, _, hdelay, started, hstarted, _, -, run', hrun', schedule, hschedule,
    revision, hrevision, -⟩ := hfinish
  have hstartedId : started.runId = row.runId := by
    obtain ⟨stored, hstored, rfl⟩ := Option.map_eq_some_iff.1 hstarted
    rw [get?_updateOutboxRow, if_pos rfl, hrow, Option.map_some, Option.some.injEq] at hstored
    rw [← hstored]
    split_ifs <;> rfl
  have hrunId : read.runId = row.runId := by rw [hsame]
  rw [hstartedId] at hrun'
  rw [hrunId] at hrun
  obtain rfl : run = run' := Option.some.inj (hrun.symm.trans hrun')
  have hunsent : isUnsent read = true := by simp [isUnsent, hstatus]
  replace hschedule : db.schedules.get? run.scheduleId = some schedule := hschedule
  replace hrevision : db.revision? run.scheduleId run.revision = some revision := hrevision
  rw [expireUnsent_eq_false_iff (hrunId ▸ hrun) hschedule hrevision hunsent,
    unsentReason_eq_none_iff (by rw [hsame]; exact hkind)] at hexpires
  obtain ⟨hactive, hcurrent, hlive, hauthorized, hpunctual, htext, hkept⟩ := hexpires
  have hinstant : unsentInstant read run schedule now = unsentInstant row run schedule now := by
    rw [hsame]
    rfl
  rw [hinstant] at hauthorized hpunctual hkept
  refine ⟨run, schedule, revision, hrun, hschedule, hrevision, hactive, hcurrent, hlive,
    hauthorized, hpunctual, (hcontent.2 htext).1, ?_, ?_, hdelay⟩
  · rw [hsame] at hkept
    exact hkept
  · rw [hsame] at hattempt
    exact hattempt

/-! ### The settlement -/

/-- The row between its request and its settlement. -/
def startedRow (startedAt : Timestamp) (row : Outbox) : Outbox :=
  { row with
    status := .requestStarted
    requestStartedAt := some startedAt
    attempt := row.attempt + 1
    updatedAt := startedAt }

theorem getOutbox_of_kept {row : Outbox} (hrow : db.outbox.get? outboxId = some row)
    (hkept : row.contentDeleteAt.all (now < ·) = true) : db.getOutbox outboxId now = some row := by
  have hnot : ¬row.contentDeleteAt.any (· ≤ now) = true := by
    cases hdeadline : row.contentDeleteAt with
    | none => simp
    | some deadline =>
        rw [hdeadline] at hkept
        simpa using hkept
  rw [getOutbox, hrow, Option.map_some, if_neg hnot]

variable {row : Outbox} {token : Uuid} {outcome : PreflightOutcome}
  {retryAfterSeconds : ℕ} {run : ScheduleRun} {schedule : Schedule} {revision : Revision}

theorem SettlementPermitted.now_le
    (_ : db.SettlementPermitted row now retryAfterSeconds run schedule revision) :
    now ≤ unsentInstant row run schedule now :=
  Timestamp.le_latest _ _

theorem SettlementPermitted.kept_now
    (h : db.SettlementPermitted row now retryAfterSeconds run schedule revision) :
    row.contentDeleteAt.all (now < ·) = true := by
  have hkept := h.kept
  cases hdeadline : row.contentDeleteAt with
  | none => rfl
  | some deadline =>
      rw [hdeadline] at hkept
      simp only [Option.all_some, decide_eq_true_eq] at hkept ⊢
      exact h.now_le.trans_lt hkept

theorem requestStarted_of_permitted
    (h : db.SettlementPermitted row now retryAfterSeconds run schedule revision)
    (hutc : now.ms = none) (hrow : db.outbox.get? outboxId = some row)
    (hkind : row.kind = .reminderPost) (hclaimed : row.status = .claimed)
    (htoken : row.claimToken = some token) (hlease : row.leaseUntil.any (· ≤ now) = false) :
    ∃ startedAt, db.requestStarted outboxId token now =
      .ok (some (), db.updateOutboxRow outboxId (startedRow startedAt)) := by
  have hread : db.getOutbox outboxId now = some row := getOutbox_of_kept hrow h.kept_now
  have hunsent : isUnsent row = true := by simp [isUnsent, hclaimed]
  have hexpires : (db.expireUnsent outboxId row now none).1 = false := by
    rw [expireUnsent_eq_false_iff h.ofRun h.ofSchedule h.ofRevision hunsent,
      unsentReason_eq_none_iff hkind]
    exact ⟨h.active, h.current, h.live, h.authorized, h.punctual, h.content, h.kept⟩
  have hsend : runCanSend row run = true := by
    rw [runCanSend, hkind]
    exact h.live
  have hattempts := h.attempts
  refine ⟨now.latest [row.createdAt, row.updatedAt, row.requestStartedAt.getD row.createdAt], ?_⟩
  simp only [requestStarted, utc, throwIf, orThrow, hutc, hread, hclaimed, htoken, hlease, hexpires,
    h.ofRun, hsend, ne_eq, not_true_eq_false, Bool.false_eq_true, Bool.true_eq_false, or_self,
    if_false, not_le.2 hattempts, ok_bind]
  rfl

theorem finishWrite_of_permitted {startedAt : Timestamp} (env : Env)
    (h : db.SettlementPermitted row now retryAfterSeconds run schedule revision)
    (hutc : now.ms = none) (hrow : db.outbox.get? outboxId = some row)
    (hkind : row.kind = .reminderPost) (htoken : row.claimToken = some token) :
    ∃ finishedAt, (db.updateOutboxRow outboxId (startedRow startedAt)).finishWrite env outboxId token
        outcome.outcome now none retryAfterSeconds =
      .ok ((), ((db.updateOutboxRow outboxId (startedRow startedAt)).settleOutcome outboxId
        (startedRow startedAt row) run schedule true outcome.outcome now finishedAt none
        retryAfterSeconds).afterWrite run.scheduleId now finishedAt) := by
  set started := db.updateOutboxRow outboxId (startedRow startedAt)
  have hstarted : started.outbox.get? outboxId = some (startedRow startedAt row) := by
    rw [get?_updateOutboxRow, if_pos rfl, hrow, Option.map_some]
  have hread : started.getOutbox outboxId now = some (startedRow startedAt row) :=
    getOutbox_of_kept hstarted h.kept_now
  have hrun : started.runs.get? (startedRow startedAt row).runId = some run := h.ofRun
  have hschedule : started.schedules.get? run.scheduleId = some schedule := h.ofSchedule
  have hrevision : started.revision? run.scheduleId run.revision = some revision := h.ofRevision
  have hauthorized : writeAuthorized (startedRow startedAt row) run schedule revision now = true := by
    have hsend : runCanSend (startedRow startedAt row) run = true := by
      simp only [runCanSend, startedRow, hkind]
      exact h.live
    simp only [writeAuthorized, hsend, h.active, h.current, h.now_le.trans_lt h.authorized, true_or,
      and_self, decide_true]
  have houtcome : outcome.outcome ≠ .sent ∧ outcome.outcome ≠ .ambiguous := by
    cases outcome <;> decide
  refine ⟨now.latest [row.createdAt, startedAt, startedAt, row.terminalAt.getD row.createdAt,
    schedule.createdAt, schedule.updatedAt, schedule.terminalAt.getD schedule.createdAt], ?_⟩
  have hstatus : (startedRow startedAt row).status = .requestStarted := rfl
  have htoken' : (startedRow startedAt row).claimToken = some token := htoken
  simp only [finishWrite, utc, throwIf, orThrow, hutc, Option.elim_none, not_lt.2 h.delay, hread,
    hstatus, htoken', hrun, hschedule, hrevision, houtcome.1, houtcome.2, hauthorized, ne_eq,
    not_true_eq_false, false_and, or_self, if_false, ok_bind]
  rfl

theorem rests_settleOutcome {authorized : Bool} {outcome : WriteOutcome} {finishedAt : Timestamp}
    {receiptId : Option String} :
    (db.updateOutboxRow outboxId (finishedRow outcome
      (retries row run outcome authorized now (retryDelay row retryAfterSeconds)) authorized now
      finishedAt (retryDelay row retryAfterSeconds) receiptId)).Rests
        (db.settleOutcome outboxId row run schedule authorized outcome now finishedAt receiptId
          retryAfterSeconds) := by
  unfold settleOutcome
  dsimp only
  have hpaused : ∀ (c : Prop) [Decidable c] (db : Db),
      db.Rests (if c then db.pauseRevoked run schedule finishedAt else db) :=
    fun _ _ db ↦ .ite rests_pauseRevoked (.refl db)
  have hskipped : ∀ (c : Prop) [Decidable c] (db : Db),
      db.Rests (if c then db.skipMisfired outboxId row finishedAt else db) :=
    fun _ _ db ↦ .ite rests_skipMisfired (.refl db)
  exact (((hpaused _ _).trans (hskipped _ _)).trans rests_expireFinished).trans rests_endReminderRun

/-- A revoked authorization leaves its schedule inactive. -/
theorem inactive_pauseRevoked {finishedAt : Timestamp} {schedule' : Schedule}
    (hrevision : db.revision? run.scheduleId run.revision = some revision)
    (hactive : schedule.state = .active) (hcurrent : schedule.revision = run.revision)
    (h : (db.pauseRevoked run schedule finishedAt).schedules.get? run.scheduleId =
      some schedule') : schedule'.state ≠ .active := by
  have hstate : [ScheduleState.active, .paused].contains schedule.state = true := by
    rw [hactive]
    rfl
  simp only [pauseRevoked, hcurrent, hrevision, hstate, and_self, if_true, retireRevisions,
    schedules_suppress, updateSchedule, Table.get?_updateKey, Option.map_eq_some_iff] at h
  obtain ⟨row, -, rfl⟩ := h
  split_ifs with hwas
  · simp
  · exact hwas

/-- The run acts under the authorization that is the current one of its schedule. -/
def UsesCurrentAuthorization (db : Db) (run : ScheduleRun) : Prop :=
  ∃ schedule ofRun current, db.schedules.get? run.scheduleId = some schedule ∧
    db.revision? run.scheduleId run.revision = some ofRun ∧
    db.revision? run.scheduleId schedule.revision = some current ∧
    ofRun.authorizationId = current.authorizationId ∧
    ofRun.authorizationRevision = current.authorizationRevision

/-- The preflight of the write is settled: its row is not claimed any more and has no request, an
unavailable connector has cost no attempt, and a revoked authorization is not used any more. -/
structure PreflightSettled (db : Db) (outboxId : Uuid) (row : Outbox) (outcome : PreflightOutcome)
    (db' : Db) : Prop where
  ofRow : ∃ row', db'.outbox.get? outboxId = some row' ∧ row'.status ≠ .claimed ∧
    row'.requestStartedAt = none ∧ (outcome = .unavailable → row'.attempt ≤ row.attempt)
  ofSchedule : outcome = .revoked → ∀ run schedule', db.runs.get? row.runId = some run →
    db.UsesCurrentAuthorization run → db'.schedules.get? run.scheduleId = some schedule' →
      schedule'.state ≠ .active

theorem preflightSettled_of_permitted {env : Env}
    (h : db.SettlementPermitted row now retryAfterSeconds run schedule revision)
    (hutc : now.ms = none) (hrow : db.outbox.get? outboxId = some row)
    (hkind : row.kind = .reminderPost) (hclaimed : row.status = .claimed)
    (htoken : row.claimToken = some token) (hlease : row.leaseUntil.any (· ≤ now) = false) :
    ∃ db', db.finishWriteAfterPreflight env outboxId token outcome now retryAfterSeconds =
      .ok ((), db') ∧ db.PreflightSettled outboxId row outcome db' := by
  obtain ⟨startedAt, hrequest⟩ :=
    requestStarted_of_permitted h hutc hrow hkind hclaimed htoken hlease
  obtain ⟨finishedAt, hfinish⟩ := finishWrite_of_permitted env h hutc hrow hkind htoken
  have hread : db.getOutbox outboxId now = some row := getOutbox_of_kept hrow h.kept_now
  set started := db.updateOutboxRow outboxId (startedRow startedAt) with hstarted
  set settled := (started.settleOutcome outboxId (startedRow startedAt row) run schedule true
    outcome.outcome now finishedAt none retryAfterSeconds) with hsettled
  have hover : settled.Rests (settled.afterWrite run.scheduleId now finishedAt) := rests_afterWrite
  refine ⟨{ settled.afterWrite run.scheduleId now finishedAt with
    outbox := (settled.afterWrite run.scheduleId now finishedAt).outbox.updateKey outboxId fun row ↦
      { row with requestStartedAt := none } }, ?_, ?_, ?_⟩
  · simp only [finishWriteAfterPreflight, utc, throwIf, orThrow, hutc, hread, hclaimed, hrequest,
      hfinish, ne_eq, not_true_eq_false, reduceCtorEq, false_and, if_false, ok_bind]
  · set delay := retryDelay (startedRow startedAt row) retryAfterSeconds with hdelay
    set retry := retries (startedRow startedAt row) run outcome.outcome true now delay with hretry
    have hfinished : (started.updateOutboxRow outboxId (finishedRow outcome.outcome retry true now
        finishedAt delay none)).outbox.get? outboxId =
        some (finishedRow outcome.outcome retry true now finishedAt delay none
          (startedRow startedAt row)) := by
      rw [get?_updateOutboxRow, if_pos rfl, hstarted, get?_updateOutboxRow, if_pos rfl, hrow,
        Option.map_some, Option.map_some]
    obtain ⟨row', hrow', hrests⟩ := (rests_settleOutcome.trans hover).outbox.exists_new hfinished
    refine ⟨{ row' with requestStartedAt := none }, ?_, ?_, rfl, ?_⟩
    · rw [Table.get?_updateKey, if_pos rfl, hrow', Option.map_some]
    · rcases hrests.status with hstatus | hended
      · show row'.status ≠ .claimed
        rw [hstatus]
        simp only [finishedRow]
        split_ifs <;> simp
      · intro hagain
        replace hagain : row'.status = .claimed := hagain
        rw [hagain] at hended
        cases hended
    · rintro rfl
      have hagain : retry = true := by
        rw [hretry]
        simp [retries, PreflightOutcome.outcome, WriteOutcome.isRetryable, startedRow, hkind]
      show row'.attempt ≤ row.attempt
      rw [hrests.attempt]
      simp [finishedRow, hagain, PreflightOutcome.outcome, startedRow]
  · rintro rfl other schedule' hother - hschedule' hactive
    obtain rfl : run = other := Option.some.inj (h.ofRun.symm.trans hother)
    obtain ⟨last, hlast, hstill⟩ := hover.schedules.exists_old hschedule'
    have hrevision : ∀ f, (started.updateOutboxRow outboxId f).revision? run.scheduleId run.revision =
        some revision := fun _ ↦ h.ofRevision
    have hrest : ((started.updateOutboxRow outboxId (finishedRow .revoked
        (retries (startedRow startedAt row) run .revoked true now
          (retryDelay (startedRow startedAt row) retryAfterSeconds)) true now finishedAt
        (retryDelay (startedRow startedAt row) retryAfterSeconds) none)).pauseRevoked run schedule
          finishedAt).Rests settled := by
      rw [hsettled]
      simp only [settleOutcome, PreflightOutcome.outcome, true_or, if_true, reduceCtorEq, false_and,
        if_false]
      exact rests_expireFinished.trans rests_endReminderRun
    obtain ⟨paused, hpaused, hwas⟩ := hrest.schedules.exists_old hlast
    exact inactive_pauseRevoked (hrevision _) h.active h.current hpaused (hwas (hstill hactive))

end Db

/-- For a claimed reminder whose claim is held and whose lease has not run out, a refused preflight
is settled exactly where the request of the write would be permitted at the instant of the call,
the row has attempts left, and the delay is within the limit of the settlement. -/
theorem preflight_settled {env : Env} {db : Db} {outboxId token : Uuid} {row : Outbox}
    {outcome : Db.PreflightOutcome} {now : Timestamp} {retryAfterSeconds : ℕ}
    (hutc : now.ms = none) (hrow : db.outbox.get? outboxId = some row)
    (hkind : row.kind = .reminderPost) (hclaimed : row.status = .claimed)
    (htoken : row.claimToken = some token) (hlease : row.leaseUntil.any (· ≤ now) = false) :
    db.PreflightSettled outboxId row outcome
        ((SchedulerOp.finishWriteAfterPreflight outboxId token outcome now
          retryAfterSeconds).next env db) ↔
      ∃ run schedule revision,
        db.SettlementPermitted row now retryAfterSeconds run schedule revision := by
  constructor
  · intro hsettled
    rcases hbody : db.finishWriteAfterPreflight env outboxId token outcome now retryAfterSeconds
      with e | ⟨u, db'⟩
    · rw [SchedulerOp.next, commit_of_error hbody] at hsettled
      obtain ⟨row', hrow', hstatus, -⟩ := hsettled.ofRow
      obtain rfl : row = row' := Option.some.inj (hrow.symm.trans hrow')
      exact absurd hclaimed hstatus
    · exact Db.settlementPermitted_of_ok hrow hkind hclaimed hbody
  · rintro ⟨run, schedule, revision, h⟩
    obtain ⟨db', hbody, hsettled⟩ :=
      Db.preflightSettled_of_permitted h hutc hrow hkind hclaimed htoken hlease
    rw [SchedulerOp.next, commit_of_ok hbody]
    exact hsettled

/-! ### A busy connector, and a late one -/

namespace DailyReminder

def claimedAt (now : Int) : Db := (SchedulerOp.claimBatch (.ofSeconds now) 240 none 10).next plain due

theorem reachable_claimedAt (now : Int) : (scheduler plain).Reachable (claimedAt now) :=
  (reachable_created.step rfl).step rfl

def refused (outcome : Db.PreflightOutcome) (now : Int) : SchedulerOp :=
  .finishWriteAfterPreflight 1 2 outcome (.ofSeconds now) 5

end DailyReminder

open DailyReminder in
/-- A connector that is not available at once is asked again. -/
theorem preflight_settled_unavailable : ∃ row, (claimedAt 102).outbox.get? 1 = some row ∧
    (claimedAt 102).PreflightSettled 1 row .unavailable
      ((refused .unavailable 103).next plain (claimedAt 102)) := by
  refine ⟨_, rfl, (preflight_settled rfl rfl rfl rfl rfl (by decide)).2 ⟨_, _, _, rfl, rfl, rfl, ?_,
    ?_, ?_, ?_, ?_, ?_, ?_, ?_, ?_⟩⟩
  all_goals decide

open DailyReminder in
/-- A misfire that the connector reports leaves the row claimed. -/
theorem preflight_misfire_stays_claimed : (scheduler plain).Reachable (claimedAt 900) ∧
    ∃ row, (claimedAt 900).outbox.get? 1 = some row ∧ row.kind = .reminderPost ∧
      row.status = .claimed ∧ row.claimToken = some 2 ∧
      row.leaseUntil.any (· ≤ .ofSeconds 1001) = false ∧
      ¬(claimedAt 900).PreflightSettled 1 row .misfire
        ((refused .misfire 1001).next plain (claimedAt 900)) := by
  refine ⟨reachable_claimedAt 900, _, rfl, rfl, rfl, rfl, by decide, fun hsettled ↦ ?_⟩
  obtain ⟨row', hrow', hstatus, -⟩ := hsettled.ofRow
  have hclaimed : ((((refused .misfire 1001).next plain (claimedAt 900)).outbox.get? 1).map
      (·.status)) = some .claimed := by decide
  rw [hrow', Option.map_some, Option.some.injEq] at hclaimed
  exact hstatus hclaimed

end Dona
