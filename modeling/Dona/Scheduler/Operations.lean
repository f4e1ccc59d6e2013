import Dona.Scheduler.Frames

/-!
# The frames of the operations

Every operation of the repository stays in a scope: most in the strict one, a request and
its outcome in the scope of its write, a completion in the scope of its run.
-/

namespace Dona

open Fallible

namespace Db

variable {scope : Scope} {db db' : Db} {now : Timestamp} {outboxId : Uuid}

/-! ### Deliveries -/

theorem evolves_endUnsent {row : Outbox} {run : ScheduleRun} {reason : UnsentReason} :
    db.Evolves scope (db.endUnsent outboxId row run reason now) := by
  have hrow : db.Evolves scope (db.updateOutboxRow outboxId fun row ↦
      { cancelUnsent now row with
        status := if reason = .retryExpired then .failed else .cancelled }) := by
    refine evolves_updateOutboxRow (fun row _ ↦ ⟨rfl, rfl, .inr (.of_isOver ?_)⟩) fun _ ↦ .inr rfl
    dsimp only
    split_ifs <;> rfl
  refine Evolves.trans ?_ evolves_completeIfDrained
  refine hrow.trans (Evolves.ite (evolves_updateRun fun run ↦ ⟨rfl, rfl, rfl, fun h ↦ ?_⟩)
    (.refl _ _))
  dsimp only at h
  split_ifs at h

/-- A write that is still authorized belongs to a schedule that has not ended. -/
theorem state_of_unsentReason {row : Outbox} {run : ScheduleRun} {schedule : Schedule}
    {snapshot : Revision} {terminalAt effectiveAt : Timestamp}
    (h : unsentReason row run schedule snapshot terminalAt effectiveAt =
      some .authorizationExpired) : schedule.state.isAbsorbing = false := by
  simp only [unsentReason] at h
  split_ifs at h with hauth <;> try cases h
  cases hreview : isReviewNotification row run schedule with
  | true =>
      simp only [isReviewNotification, decide_eq_true_eq] at hreview
      rw [hreview.2.2]
      rfl
  | false =>
      have hactive : schedule.state = .active := by
        by_contra hne
        exact hauth (.inl ⟨hreview, hne⟩)
      rw [hactive]
      rfl

theorem evolves_expireUnsent {row : Outbox} {eligibilityAt : Option Timestamp} :
    db.Evolves scope (db.expireUnsent outboxId row now eligibilityAt).2 := by
  unfold expireUnsent
  split_ifs
  · exact .refl _ db
  cases db.runs.get? row.runId with
  | none => exact .refl _ db
  | some run =>
      simp only
      cases hschedule : db.schedules.get? run.scheduleId with
      | none => exact .refl _ db
      | some schedule =>
          cases db.revision? run.scheduleId run.revision with
          | none => exact .refl _ db
          | some snapshot =>
              simp only
              split
              · exact .refl _ db
              · rename_i hreason
                refine evolves_expireSchedule (.inr fun other hother ↦ ?_)
                obtain rfl : schedule = other := Option.some.inj (hschedule.symm.trans hother)
                exact state_of_unsentReason hreason
              · exact evolves_endUnsent

theorem evolves_markAmbiguous {row : Outbox} :
    db.Evolves scope (db.markAmbiguous outboxId row now) := by
  unfold markAmbiguous
  cases db.runs.get? row.runId with
  | none => exact .refl _ db
  | some run =>
      simp only
      cases db.schedules.get? run.scheduleId with
      | none => exact .refl _ db
      | some before =>
          simp only
          refine Evolves.trans (Evolves.trans ?_ (evolves_updateSchedule (fun row _ ↦ ?_) ?_))
            evolves_retireRevisions
          · refine Evolves.trans ?_ (Evolves.ite
              (evolves_updateRun fun run ↦ ⟨rfl, rfl, rfl, fun h ↦ by cases h⟩) (.refl _ _))
            refine Evolves.trans ?_ evolves_suppress
            exact evolves_updateOutboxRow (fun row _ ↦ ⟨rfl, rfl, .inr (.of_isOver (by rfl))⟩)
              fun _ ↦ .inl rfl
          · split_ifs with hstate
            · exact .refl _ row
            · refine ⟨rfl, rfl, .inr fun habsorbing ↦ ?_⟩
              cases hrow : row.state <;> simp_all [ScheduleState.isAbsorbing]
          · intro row _ habsorbing
            split_ifs at habsorbing
            · exact .inl habsorbing
            · cases habsorbing

theorem evolves_requeueClaims {recoverAllStarted : Bool} :
    db.Evolves scope (db.requeueClaims now recoverAllStarted) := by
  refine evolves_updateOutbox (fun id row _ hp ↦ ⟨rfl, rfl, .inr ?_⟩) fun _ ↦ .inr rfl
  have hclaimed : row.status = .claimed := by
    simp only [decide_eq_true_eq] at hp
    exact hp.1
  refine ⟨fun hover ↦ ?_, fun hstarted ↦ ?_, fun hstarted ↦ ?_⟩
  · rw [hclaimed] at hover
    cases hover
  · rw [hclaimed] at hstarted
    cases hstarted
  · cases hstarted

theorem evolves_recover {recoverAllStarted : Bool} {u : Unit}
    (h : db.recover now recoverAllStarted = .ok (u, db')) : db.Evolves scope db' := by
  simp only [recover, bind_eq_ok, Except.ok.injEq, Prod.mk.injEq] at h
  obtain ⟨_, -, -, rfl⟩ := h
  have hmarked : ∀ entries : List (Uuid × Outbox), db.Evolves scope
      (entries.foldl (fun db entry ↦ db.markAmbiguous entry.1 entry.2 now) db) :=
    evolves_foldl fun db entry ↦ evolves_markAmbiguous
  refine Evolves.trans ?_ (evolves_foldl (fun db entry ↦ evolves_expireUnsent) _)
  exact (hmarked _).trans evolves_requeueClaims

/-- The row a claim takes is pending and of the kind that is asked for. -/
theorem nextClaimable_spec {kind : Option OutboxKind} {row : Outbox}
    (h : db.nextClaimable kind now = some (outboxId, row)) :
    db.outbox.get? outboxId = some row ∧ row.status = .pending ∧
      kind.all (· = row.kind) = true := by
  obtain ⟨hrow, hclaimable⟩ := Table.get?_of_first? h
  refine ⟨hrow, ?_⟩
  simp only [isClaimable] at hclaimable
  split at hclaimable
  · cases hclaimable
  · split at hclaimable
    · simp only [decide_eq_true_eq] at hclaimable
      obtain ⟨hpending, -, -, hkind, -⟩ := hclaimable
      exact ⟨hpending, hkind⟩
    · cases hclaimable

theorem evolves_claimOne {row : Outbox} {leaseSeconds : ℕ}
    (hrow : db.outbox.get? outboxId = some row) (hpending : row.status = .pending) :
    db.Evolves scope (db.claimOne outboxId now leaseSeconds) := by
  have hget : ∀ id, (db.claimOne outboxId now leaseSeconds).outbox.get? id =
      if id = outboxId then some
        { row with
          status := .claimed
          claimToken := some db.nextUuid
          leaseUntil := some (now.add leaseSeconds)
          updatedAt := now }
      else db.outbox.get? id := by
    intro id
    by_cases hid : id = outboxId
    · subst hid
      simp [claimOne, updateOutboxRow, updateOutbox, hrow]
    · simp [claimOne, updateOutboxRow, updateOutbox, hid]
  refine ⟨.refl (fun _ ↦ .refl _) _, .refl (fun _ ↦ .refl) _, fun id old hold ↦ ?_,
    fun id row' hrow' hnone ↦ ?_, fun id row' token hrow' htoken ↦ ?_, Nat.le_succ _,
    fun id row' hrow' hstate ↦ .inl ⟨row', hrow', hstate⟩,
    .inr (db.keepsNotices_claimOne outboxId now leaseSeconds)⟩
  · rw [hget]
    split_ifs with hid
    · subst hid
      obtain rfl : row = old := Option.some.inj (hrow.symm.trans hold)
      refine ⟨_, rfl, rfl, rfl, .inr ⟨fun hover ↦ ?_, fun hstarted ↦ ?_, fun hstarted ↦ ?_⟩⟩
      · rw [hpending] at hover
        cases hover
      · rw [hpending] at hstarted
        cases hstarted
      · cases hstarted
    · exact ⟨old, hold, .refl _ old⟩
  · rw [hget] at hrow'
    split_ifs at hrow' with hid
    · subst hid
      rw [hrow] at hnone
      cases hnone
    · rw [hnone] at hrow'
      cases hrow'
  · rw [hget] at hrow'
    split_ifs at hrow' with hid
    · obtain rfl := Option.some.inj hrow'
      obtain rfl : db.nextUuid = token := Option.some.inj htoken
      exact .inr ⟨le_rfl, Nat.lt_succ_self _⟩
    · exact .inl ⟨row', hrow', htoken⟩

theorem evolves_claimRows {kind : Option OutboxKind} {leaseSeconds limit : ℕ} {db : Db} :
    db.Evolves scope (db.claimRows kind now leaseSeconds limit).2 := by
  induction limit generalizing db with
  | zero => exact .refl _ db
  | succ limit ih =>
      rw [claimRows]
      cases hnext : db.nextClaimable kind now with
      | none => exact .refl _ db
      | some entry =>
          obtain ⟨hrow, hpending, -⟩ := nextClaimable_spec hnext
          exact (evolves_claimOne hrow hpending).trans ih

theorem evolves_claimBatch {kind : Option OutboxKind} {leaseSeconds limit : ℕ}
    {claimed : List (Uuid × Uuid)}
    (h : db.claimBatch now leaseSeconds kind limit = .ok (claimed, db')) :
    db.Evolves scope db' := by
  simp only [claimBatch, bind_eq_ok, throwIf_eq_ok, Prod.exists, Except.ok.injEq] at h
  obtain ⟨_, -, _, -, _, -, _, db₁, hrecover, hclaim⟩ := h
  rw [show db' = (db₁.claimRows kind now leaseSeconds limit).2 by rw [hclaim]]
  exact (evolves_recover hrecover).trans evolves_claimRows

/-! ### Requests and outcomes -/

/-- The scope of a request for one write. -/
def requestScope (outboxId : Uuid) : Scope := ⟨False, (· = outboxId), fun _ ↦ False, False⟩

theorem getOutbox_eq_some {row : Outbox} (h : db.getOutbox outboxId now = some row) :
    ∃ stored, db.outbox.get? outboxId = some stored ∧ row.status = stored.status ∧
      row.claimToken = stored.claimToken := by
  obtain ⟨stored, hstored, rfl⟩ := Option.map_eq_some_iff.1 h
  refine ⟨stored, hstored, ?_⟩
  split_ifs <;> exact ⟨rfl, rfl⟩

/-- The row under the key is held by the claim with this token. -/
def HeldBy (db : Db) (outboxId token : Uuid) (status : OutboxStatus) : Prop :=
  ∃ row, db.outbox.get? outboxId = some row ∧ row.status = status ∧ row.claimToken = some token

theorem heldBy_updateOutboxRow {f : Outbox → Outbox} {row : Outbox} {token : Uuid}
    {status : OutboxStatus} (hrow : db.outbox.get? outboxId = some row)
    (hstatus : (f row).status = status) (htoken : (f row).claimToken = some token) :
    (db.updateOutboxRow outboxId f).HeldBy outboxId token status :=
  ⟨f row, by rw [get?_updateOutboxRow, if_pos rfl, hrow, Option.map_some], hstatus, htoken⟩

/-- A request is started by the holder of the claim, and the row is then held as started. A
refusal keeps to the frame. -/
theorem requestStarted_spec {token : Uuid} {started : Option Unit}
    (h : db.requestStarted outboxId token now = .ok (started, db')) :
    db.HeldBy outboxId token .claimed ∧ db.Evolves (requestScope outboxId) db' ∧
      (started = none → db.Evolves .strict db') ∧
      (started.isSome = true → db'.HeldBy outboxId token .requestStarted) := by
  simp only [requestStarted, bind_eq_ok, orThrow_eq_ok, throwIf_eq_ok, not_or, not_not] at h
  obtain ⟨_, -, row, hrow, _, ⟨hstatus, htoken, -⟩, h⟩ := h
  obtain ⟨stored, hstored, hstatus', htoken'⟩ := getOutbox_eq_some hrow
  rw [hstatus'] at hstatus
  rw [htoken'] at htoken
  refine ⟨⟨stored, hstored, hstatus, htoken⟩, ?_⟩
  split_ifs at h
  · obtain ⟨rfl, rfl⟩ := Prod.mk.inj (Except.ok.inj h)
    exact ⟨evolves_expireUnsent, fun _ ↦ evolves_expireUnsent, fun hsome ↦ by cases hsome⟩
  · simp only [bind_eq_ok, orThrow_eq_ok, throwIf_eq_ok, Except.ok.injEq, Prod.mk.injEq] at h
    obtain ⟨run, -, _, -, _, -, rfl, rfl⟩ := h
    refine ⟨?_, by simp, fun _ ↦ ?_⟩
    · exact evolves_updateOutboxRow (fun row _ ↦ ⟨rfl, rfl, .inl rfl⟩) fun _ ↦ .inl rfl
    · exact heldBy_updateOutboxRow hstored rfl htoken

theorem evolves_rejectClaimBeforeWrite {token : Uuid} {u : Unit}
    (h : db.rejectClaimBeforeWrite outboxId token now = .ok (u, db')) : db.Evolves scope db' := by
  simp only [rejectClaimBeforeWrite, bind_eq_ok, orThrow_eq_ok, throwIf_eq_ok, Except.ok.injEq,
    Prod.mk.injEq] at h
  obtain ⟨_, -, row, -, _, -, run, -, schedule, -, -, rfl⟩ := h
  refine Evolves.trans ?_ evolves_completeIfDrained
  refine Evolves.trans ?_
    (evolves_updateLiveRun fun run ↦ ⟨rfl, rfl, rfl, fun hstatus ↦ by cases hstatus⟩)
  exact evolves_updateOutboxRow (fun row _ ↦ ⟨rfl, rfl, .inr (.of_isOver (by rfl))⟩)
    fun _ ↦ .inr rfl

/-- An active schedule is paused: no schedule that has ended is touched. -/
theorem evolves_pauseActive {scheduleId : ScheduleId} :
    db.Evolves scope (db.updateSchedule scheduleId fun row ↦
      if row.state = .active then { row with state := .paused, updatedAt := now } else row) := by
  refine evolves_updateSchedule (fun row _ ↦ ?_) fun row _ habsorbing ↦ ?_
  · split_ifs with hactive
    · refine ⟨rfl, rfl, .inr fun habsorbing ↦ ?_⟩
      rw [hactive] at habsorbing
      cases habsorbing
    · exact .refl _ row
  · split_ifs at habsorbing
    · cases habsorbing
    · exact .inl habsorbing

theorem evolves_pauseRevoked {run : ScheduleRun} {schedule : Schedule} :
    db.Evolves scope (db.pauseRevoked run schedule now) := by
  unfold pauseRevoked
  split
  · split_ifs
    · exact (evolves_pauseActive.trans evolves_suppress).trans evolves_retireRevisions
    · exact .refl _ db
  · exact .refl _ db

/-- The outcome of a request settles its write for good, unless it is to be repeated. -/
theorem finishedRow_keeps {P : Prop} {outcome : WriteOutcome} {retry authorized : Bool}
    {finishedAt : Timestamp} {delay : ℕ} {receiptId : Option String} (row : Outbox)
    (h : outcome = .sent ∨ P) :
    row.Keeps P (finishedRow outcome retry authorized now finishedAt delay receiptId row) := by
  refine ⟨rfl, rfl, ?_⟩
  rcases h with hsent | hscope
  · exact .inr (.of_isOver (by simp [finishedRow, hsent, OutboxStatus.isOver]))
  · exact .inl hscope

theorem evolves_skipMisfired {row : Outbox} :
    db.Evolves scope (db.skipMisfired outboxId row now) := by
  refine Evolves.trans ?_
    (evolves_updateRun fun run ↦ ⟨rfl, rfl, rfl, fun hstatus ↦ by cases hstatus⟩)
  exact evolves_updateOutboxRow (fun row _ ↦ ⟨rfl, rfl, .inr (.of_isOver (by rfl))⟩)
    fun _ ↦ .inl rfl

theorem evolves_expireFinished {finishedAt : Timestamp} :
    db.Evolves scope (db.expireFinished outboxId now finishedAt) := by
  unfold expireFinished
  cases db.getOutbox outboxId finishedAt with
  | none => exact .refl _ db
  | some current => exact evolves_expireUnsent

theorem evolves_endReminderRun {row : Outbox} :
    db.Evolves scope (db.endReminderRun outboxId row now) := by
  unfold endReminderRun
  cases db.getOutbox outboxId now with
  | none => exact .refl _ db
  | some finished =>
      refine Evolves.ite (evolves_updateLiveRun fun run ↦ ⟨rfl, rfl, rfl, fun hstatus ↦ ?_⟩)
        (.refl _ db)
      dsimp only at hstatus
      split_ifs at hstatus

theorem evolves_settleOutcome {row : Outbox} {run : ScheduleRun} {schedule : Schedule}
    {authorized : Bool} {outcome : WriteOutcome} {finishedAt : Timestamp}
    {receiptId : Option String} {retryAfterSeconds : ℕ}
    (h : outcome = .sent ∨ scope.mayRestart outboxId) :
    db.Evolves scope (db.settleOutcome outboxId row run schedule authorized outcome now
      finishedAt receiptId retryAfterSeconds) := by
  refine Evolves.trans (Evolves.trans ?_ evolves_expireFinished) evolves_endReminderRun
  refine Evolves.trans ?_ (.ite evolves_skipMisfired (.refl _ _))
  refine Evolves.trans ?_ (.ite evolves_pauseRevoked (.refl _ _))
  refine evolves_updateOutboxRow (fun row _ ↦ finishedRow_keeps row h) fun row ↦ .inr rfl

theorem evolves_afterWrite {scheduleId : ScheduleId} {finishedAt : Timestamp} :
    db.Evolves scope (db.afterWrite scheduleId now finishedAt) := by
  have hexpire : ∀ db : Db, db.Evolves scope (db.expireOver scheduleId now finishedAt) := by
    intro db
    unfold expireOver
    cases hcurrent : db.schedules.get? scheduleId with
    | none => exact .refl _ db
    | some current => exact evolves_expireCurrent hcurrent
  exact (evolves_completeIfDrained.trans (hexpire _)).trans evolves_completeIfDrained

/-- The scope of the outcome of a request: its write may be repeated only when the outcome
says that nothing was accepted. -/
def outcomeScope (outboxId : Uuid) (outcome : WriteOutcome) : Scope :=
  ⟨False, fun id ↦ id = outboxId ∧ outcome ≠ .sent ∧ outcome ≠ .ambiguous, fun _ ↦ False, False⟩

theorem finishWrite_spec {env : Env} {token : Uuid} {outcome : WriteOutcome}
    {receiptId : Option String} {retryAfterSeconds : ℕ} {u : Unit}
    (h : db.finishWrite env outboxId token outcome now receiptId retryAfterSeconds =
      .ok (u, db')) :
    db.HeldBy outboxId token .requestStarted ∧ db.Evolves (outcomeScope outboxId outcome) db' := by
  simp only [finishWrite, bind_eq_ok, orThrow_eq_ok, throwIf_eq_ok, Except.ok.injEq,
    Prod.mk.injEq, not_or, not_not] at h
  obtain ⟨_, -, _, -, _, -, row, hrow, _, ⟨hstatus, htoken⟩, run, -, schedule, -, revision, -, _,
    -, -, rfl⟩ := h
  obtain ⟨stored, hstored, hstatus', htoken'⟩ := getOutbox_eq_some hrow
  refine ⟨⟨stored, hstored, hstatus'.symm.trans hstatus, htoken'.symm.trans htoken⟩, ?_⟩
  refine Evolves.trans ?_ evolves_afterWrite
  split_ifs with hambiguous
  · exact evolves_markAmbiguous
  · refine evolves_settleOutcome ?_
    by_cases hsent : outcome = .sent
    · exact .inl hsent
    · exact .inr ⟨rfl, hsent, hambiguous⟩

theorem evolves_revokeAfterCancel {current : Outbox} :
    db.Evolves scope (db.revokeAfterCancel current now) := by
  unfold revokeAfterCancel
  cases db.runs.get? current.runId with
  | none => exact .refl _ db
  | some run =>
      simp only
      cases db.schedules.get? run.scheduleId with
      | none => exact .refl _ db
      | some schedule =>
          simp only
          split
          · split_ifs
            · exact (evolves_pauseActive.trans evolves_suppress).trans evolves_retireRevisions
            · exact evolves_retireRevisions
            · exact .refl _ db
          · exact .refl _ db

/-- A preflight that refuses a write leaves it to its claim, which starts it and settles it at
once; a write that was cancelled during the preflight stays cancelled. -/
theorem finishWriteAfterPreflight_spec {env : Env} {token : Uuid} {outcome : PreflightOutcome}
    {retryAfterSeconds : ℕ} {u : Unit}
    (h : db.finishWriteAfterPreflight env outboxId token outcome now retryAfterSeconds =
      .ok (u, db')) :
    db.Evolves .strict db' ∨
      db.HeldBy outboxId token .claimed ∧ db.Evolves (requestScope outboxId) db' := by
  simp only [finishWriteAfterPreflight, bind_eq_ok] at h
  obtain ⟨_, -, h⟩ := h
  cases hcurrent : db.getOutbox outboxId now with
  | none =>
      rw [hcurrent] at h
      cases h
  | some current =>
      rw [hcurrent] at h
      simp only at h
      split_ifs at h
      · obtain ⟨-, rfl⟩ := Prod.mk.inj (Except.ok.inj h)
        exact .inl evolves_revokeAfterCancel
      · obtain ⟨-, rfl⟩ := Prod.mk.inj (Except.ok.inj h)
        exact .inl (.refl _ db)
      · simp only [bind_eq_ok, orThrow_eq_ok, Prod.exists, Except.ok.injEq, Prod.mk.injEq] at h
        obtain ⟨started, db₁, hstarted, _, -, _, db₂, hfinish, -, rfl⟩ := h
        obtain ⟨hheld, hstart, -⟩ := requestStarted_spec hstarted
        have hfinished : db₁.Evolves (requestScope outboxId) db₂ :=
          (finishWrite_spec hfinish).2.mono id (fun _ ↦ And.left) (fun _ ↦ id) id
        refine .inr ⟨hheld, (hstart.trans hfinished).trans ?_⟩
        exact evolves_updateWhere
          (fun _ row _ _ ↦ ⟨rfl, rfl, .inr ⟨id, fun h ↦ .inr ⟨h, rfl⟩, id⟩⟩) (fun _ ↦ .inl rfl)
          (.refl (fun _ ↦ .refl) _)

theorem evolves_endReviewedRun {runId : Uuid} {outcome : ReconcileOutcome} :
    db.Evolves scope (db.endReviewedRun runId outcome now) := by
  refine evolves_runsWhere fun run ↦ ⟨rfl, rfl, rfl, fun hstatus ↦ ?_⟩
  cases outcome <;> cases hstatus

theorem evolves_reconcile {env : Env} {outcome : ReconcileOutcome} {receiptId : String}
    {actor : Actor} {u : Unit}
    (h : db.reconcile env outboxId outcome receiptId actor now = .ok (u, db')) :
    db.Evolves scope db' := by
  simp only [reconcile, bind_eq_ok, orThrow_eq_ok, throwIf_eq_ok, Except.ok.injEq,
    Prod.mk.injEq] at h
  obtain ⟨_, -, _, -, _, -, row, -, _, -, run, -, schedule, -, _, -, -, rfl⟩ := h
  have hover : ∀ reconciledAt (row : Outbox),
      (reconciledRow outcome receiptId reconciledAt row).status.isOver = true := by
    intro reconciledAt row
    cases outcome <;> rfl
  refine Evolves.trans ?_ evolves_completeIfDrained
  refine Evolves.trans ?_ (.ite (.refl _ _) evolves_endReviewedRun)
  exact evolves_updateOutboxRow (fun row _ ↦ ⟨rfl, rfl, .inr (.of_isOver (hover _ row))⟩)
    fun _ ↦ .inr rfl

/-! ### Runs -/

variable {runId : Uuid} {jobId : JobId} {eventId : EventId} {u : Unit}

theorem evolves_refuseStart {run : ScheduleRun} {current : Schedule} {reason : RunReason}
    {transitionAt : Timestamp} (hcurrent : db.schedules.get? run.scheduleId = some current)
    (hreason : reason = .authorizationExpired → current.state.isAbsorbing = false) :
    db.Evolves scope (db.refuseStart runId run current reason now transitionAt) := by
  refine Evolves.trans (Evolves.trans ?_ evolves_cancelUnsent) evolves_completeIfDrained
  have hexpire : db.Evolves scope (if reason = .authorizationExpired then
      db.expireSchedule run.scheduleId current now else db) := by
    split_ifs with hexpired
    · refine evolves_expireSchedule (.inr fun row hrow ↦ ?_)
      obtain rfl : current = row := Option.some.inj (hcurrent.symm.trans hrow)
      exact hreason hexpired
    · exact .refl _ db
  refine hexpire.trans (evolves_updateRun fun run ↦ ⟨rfl, rfl, rfl, fun hstatus ↦ ?_⟩)
  dsimp only at hstatus
  split_ifs at hstatus

theorem state_of_startRefusal {current : Schedule} {run : ScheduleRun} {snapshot : Revision}
    {transitionAt : Timestamp}
    (h : startRefusal current run snapshot transitionAt = some .authorizationExpired) :
    current.state.isAbsorbing = false := by
  simp only [startRefusal] at h
  split_ifs at h with hactive <;> try cases h
  have hstate : current.state = .active := by
    by_contra hne
    exact hactive (.inl hne)
  rw [hstate]
  rfl

/-- The scope of a completed run: its notice may be written. -/
def completionScope (runId : Uuid) : Scope := ⟨False, fun _ ↦ False, (· = runId), False⟩

theorem insertOutbox_schedules {env : Env} {kind : OutboxKind} {target : Target}
    {content : String} (h : db.insertOutbox env runId kind target content now = .ok db') :
    db'.schedules = db.schedules := by
  simp only [insertOutbox, throwIf_bind_eq_ok, orThrow_bind_eq_ok, Except.ok.injEq] at h
  obtain ⟨-, outbox, -, rfl⟩ := h
  rfl

/-- The optional notice of a run: it leaves the schedules as they are. -/
theorem notify_spec {c : Prop} [Decidable c] {notify : Except String Db}
    (hnotify : notify = .ok db' → db.Evolves (completionScope runId) db' ∧
      db'.schedules = db.schedules)
    (h : (if c then notify else .ok db) = .ok db') :
    db.Evolves (completionScope runId) db' ∧ db'.schedules = db.schedules := by
  split_ifs at h
  · exact hnotify h
  · obtain rfl := Except.ok.inj h
    exact ⟨.refl _ _, rfl⟩

theorem settleRunState_spec {run : ScheduleRun} {current : Schedule} {next : RunTarget}
    {jobId : Option JobId} (hcurrent : db.schedules.get? run.scheduleId = some current) :
    db.Evolves scope (db.settleRunState runId run current next jobId now) ∧
      ∀ run', (db.settleRunState runId run current next jobId now).runs.get? runId = some run' →
        run'.status ≠ .materialized := by
  have hnext : next.status ≠ .materialized := by cases next <;> simp [RunTarget.status]
  unfold settleRunState
  extract_lets db₁
  have hrun : db.Evolves scope db₁ :=
    evolves_updateRun fun run ↦ ⟨rfl, rfl, rfl, fun hstatus ↦ absurd hstatus hnext⟩
  have hbefore : db₁.schedules.get? run.scheduleId = some current := hcurrent
  have hexpire : db₁.Evolves scope (db₁.expireCurrent run.scheduleId current now now) :=
    evolves_expireCurrent hbefore
  have hcomplete : (db₁.expireCurrent run.scheduleId current now now).Evolves scope
      ((db₁.expireCurrent run.scheduleId current now now).completeIfDrained run.scheduleId now) :=
    evolves_completeIfDrained
  have hrest := hexpire.trans hcomplete
  refine ⟨hrun.trans hrest, fun run' hrun' hstatus ↦ ?_⟩
  obtain ⟨run₁, hrun₁, hkeeps⟩ := hrest.runs.exists_old hrun'
  simp only [db₁, updateRun, Table.get?_updateKey, if_true, Option.map_eq_some_iff] at hrun₁
  obtain ⟨old, -, rfl⟩ := hrun₁
  exact hnext (hkeeps.status hstatus)

theorem applyRunState_spec {env : Env} {run : ScheduleRun} {current : Schedule}
    {snapshot : Revision} {next : RunTarget} {transitionAt : Timestamp} {jobId : Option JobId}
    {resultContent : Option String} {notificationAt : Option Timestamp}
    {routeResultViaDona : Bool} (hcurrent : db.schedules.get? run.scheduleId = some current)
    (h : db.applyRunState env runId run current snapshot next transitionAt jobId resultContent
      notificationAt routeResultViaDona = .ok db') :
    db.Evolves (completionScope runId) db' ∧
      ∀ run', db'.runs.get? runId = some run' → run'.status ≠ .materialized := by
  simp only [applyRunState, bind_eq_ok, throwIf_eq_ok, Except.ok.injEq] at h
  obtain ⟨_, -, _, -, _, -, db₁, hresult, db₂, hfailure, rfl⟩ := h
  obtain ⟨hevolves₁, hschedules₁⟩ := notify_spec (fun hnotify ↦ by
    simp only [notifyResult, bind_eq_ok, orThrow_eq_ok] at hnotify
    obtain ⟨_, -, _, -, hinsert⟩ := hnotify
    exact ⟨evolves_insertOutbox rfl hinsert, insertOutbox_schedules hinsert⟩) hresult
  obtain ⟨hevolves₂, hschedules₂⟩ := notify_spec
    (fun hinsert ↦ ⟨evolves_insertOutbox rfl hinsert, insertOutbox_schedules hinsert⟩) hfailure
  have hsuppressed : ∀ (suppressed : List (Uuid × Outbox)) operationAt,
      db₁.Evolves (completionScope runId)
      (if suppressed.isEmpty then db₁ else db₁.cancelUnsentOf runId operationAt) :=
    fun _ _ ↦ .ite (.refl _ _) evolves_cancelUnsent
  have hbefore : db₂.schedules.get? run.scheduleId = some current := by
    rw [hschedules₂, ← hcurrent, ← hschedules₁]
    split_ifs <;> rfl
  obtain ⟨hevolves₃, hrun⟩ := settleRunState_spec hbefore
  exact ⟨((hevolves₁.trans (hsuppressed _ _)).trans hevolves₂).trans hevolves₃, hrun⟩

/-- Either nothing is written, or a notice of the run, which then has left its first state. -/
theorem setRunState_spec {env : Env} {expected : RunStatus} {next : RunTarget} {actor : Actor}
    {jobId : Option JobId} {resultContent : Option String} {notificationAt : Option Timestamp}
    {routeResultViaDona : Bool} {accepted : Option Unit}
    (h : db.setRunState env runId expected next actor now jobId resultContent notificationAt
      routeResultViaDona = .ok (accepted, db')) :
    db.Evolves .strict db' ∨ db.Evolves (completionScope runId) db' ∧
      db.runs.get? runId ≠ none ∧
        ∀ run', db'.runs.get? runId = some run' → run'.status ≠ .materialized := by
  simp only [setRunState, bind_eq_ok, orThrow_eq_ok, throwIf_eq_ok] at h
  obtain ⟨_, -, _, -, run, hrun, _, -, current, hcurrent, _, -, _, -, snapshot, -, _, -, h⟩ := h
  split at h
  · rename_i reason hreason
    obtain ⟨-, rfl⟩ := Prod.mk.inj (Except.ok.inj h)
    refine .inl (evolves_refuseStart hcurrent fun hexpired ↦ ?_)
    split_ifs at hreason
    rw [hexpired] at hreason
    exact state_of_startRefusal hreason
  · simp only [bind_eq_ok, Except.ok.injEq, Prod.mk.injEq] at h
    obtain ⟨db₁, happly, -, rfl⟩ := h
    obtain ⟨hevolves, hleft⟩ := applyRunState_spec hcurrent happly
    exact .inr ⟨hevolves, by simp [hrun], hleft⟩

theorem evolves_markWorkRunNeedsReview
    (h : db.markWorkRunNeedsReview runId jobId now eventId = .ok (u, db')) :
    db.Evolves scope db' := by
  simp only [markWorkRunNeedsReview, bind_eq_ok, orThrow_eq_ok, throwIf_eq_ok] at h
  obtain ⟨_, -, _, -, _, -, run, -, _, -, h⟩ := h
  have hrun : ∀ db : Db, db.Evolves scope (db.updateRun runId fun run ↦
      { run with status := .needsReview, reason := some .ambiguousWrite }) := fun db ↦
    evolves_updateRun fun run ↦ ⟨rfl, rfl, rfl, fun hstatus ↦ by cases hstatus⟩
  split_ifs at h
  · obtain ⟨-, rfl⟩ := Prod.mk.inj (Except.ok.inj h)
    exact .refl _ db
  simp only [bind_eq_ok, orThrow_eq_ok] at h
  obtain ⟨before, -, h⟩ := h
  split_ifs at h
  · obtain ⟨-, rfl⟩ := Prod.mk.inj (Except.ok.inj h)
    refine Evolves.trans ?_ evolves_retireRevisions
    refine ((hrun db).trans evolves_suppress).trans (evolves_updateSchedule (fun row _ ↦ ?_) ?_)
    · split_ifs with hstate
      · refine ⟨rfl, rfl, .inr fun habsorbing ↦ ?_⟩
        cases hrow : row.state <;> simp_all [ScheduleState.isAbsorbing]
      · exact .refl _ row
    · intro row _ habsorbing
      split_ifs at habsorbing
      · cases habsorbing
      · exact .inl habsorbing
  · obtain ⟨-, rfl⟩ := Prod.mk.inj (Except.ok.inj h)
    exact hrun db

/-- A schedule under review may be reactivated: one that has ended is not. -/
theorem evolves_activateReviewed {scheduleId : ScheduleId} {schedule : Schedule}
    (h : db.schedules.get? scheduleId = some schedule) :
    db.Evolves scope (db.activateReviewed scheduleId schedule now) := by
  unfold activateReviewed
  split_ifs with hreview
  · have hactive : db.Evolves scope (db.updateSchedule scheduleId fun row ↦
        { row with state := .active, terminalAt := none, updatedAt := now }) := by
      refine evolves_updateSchedule (fun row hrow ↦ ⟨rfl, rfl, .inr fun habsorbing ↦ ?_⟩)
        fun row _ habsorbing ↦ by cases habsorbing
      obtain rfl : schedule = row := Option.some.inj (h.symm.trans hrow)
      rw [hreview] at habsorbing
      cases habsorbing
    exact hactive.trans (.of_same rfl rfl rfl rfl rfl rfl rfl)
  · exact .refl _ db

/-- The schedule of a run that passes the guard has ended at the revision of the run, whose
authorization has expired: the expiry that follows is not guarded, and it reopens the schedule
unless the schedule completes again at once. -/
def EndedExpired (db : Db) (runId : Uuid) (guard : ScheduleRun → Bool) (now : Timestamp) : Prop :=
  now.ms = none ∧ ∃ run schedule revision, db.runs.get? runId = some run ∧ guard run = true ∧
    db.schedules.get? run.scheduleId = some schedule ∧ schedule.revision = run.revision ∧
    schedule.state.isAbsorbing = true ∧ ¬db.StaysDrained run.scheduleId ∧
    db.revision? run.scheduleId run.revision = some revision ∧ revision.expiresAt ≤ now

/-- The run is under review for this job and this event. -/
def recoverable (jobId : JobId) (eventId : EventId) (run : ScheduleRun) : Bool :=
  isIdentity jobId ∧ isIdentity eventId ∧ run.status = .needsReview ∧ run.jobId = some jobId ∧ run.eventId = some eventId

/-- The run is over: its notice may be settled. -/
def resumable (run : ScheduleRun) : Bool :=
  [RunStatus.completed, .failed, .cancelled].contains run.status

/-- The scope of the operations that resume a schedule. -/
def resumeScope (db : Db) (runId : Uuid) (guard : ScheduleRun → Bool) (now : Timestamp) : Scope :=
  ⟨db.EndedExpired runId guard now, fun _ ↦ False, fun _ ↦ False, False⟩

/-- The unguarded expiry of the schedule of a run; the schedules are still those of `db₀`. -/
theorem evolves_expireUnguarded {db₀ : Db} {guard : ScheduleRun → Bool} {run : ScheduleRun}
    {schedule : Schedule} {revision : Revision} (hutc : now.ms = none)
    (hrun : db₀.runs.get? runId = some run) (hguard : guard run = true) (hschedule : db₀.schedules.get? run.scheduleId = some schedule)
    (hrevision : db₀.revision? run.scheduleId run.revision = some revision)
    (hcurrent : schedule.revision = run.revision) (hexpired : revision.expiresAt ≤ now)
    (hsame : db.schedules = db₀.schedules)
    (hdrained : db₀.StaysDrained run.scheduleId → db.StaysDrained run.scheduleId) :
    db.Evolves (db₀.resumeScope runId guard now)
      (db.expireSchedule run.scheduleId schedule now) := by
  by_cases hstays : db₀.StaysDrained run.scheduleId
  · exact evolves_expireDrained (hdrained hstays)
  refine evolves_expireSchedule ?_
  cases hstate : schedule.state.isAbsorbing with
  | true =>
      exact .inl ⟨hutc, run, schedule, revision, hrun, hguard, hschedule, hcurrent, hstate, hstays,
        hrevision, hexpired⟩
  | false =>
      refine .inr fun row hrow ↦ ?_
      rw [hsame, hschedule] at hrow
      obtain rfl := Option.some.inj hrow
      exact hstate

/-- A schedule with a run under review does not complete. -/
theorem not_staysDrained_of_review {run : ScheduleRun} (hrun : db.runs.get? runId = some run)
    (hreview : run.status = .needsReview) : ¬db.StaysDrained run.scheduleId := by
  rintro ⟨hsettled, -⟩
  have hopen := (unsettledRun_eq_false_iff.1 (hsettled runId run hrun rfl)).1
  rw [hreview] at hopen
  cases hopen

theorem evolves_recoverWorkRunForResult
    (h : db.recoverWorkRunForResult runId jobId eventId now = .ok (u, db')) :
    db.Evolves (db.resumeScope runId (recoverable jobId eventId) now) db' := by
  simp only [recoverWorkRunForResult, utc, identity, throwIf_bind_eq_ok, not_not,
    Bool.not_eq_false] at h
  obtain ⟨hutc, hjobId, heventId, h⟩ := h
  cases hrun : db.runs.get? runId with
  | none =>
      rw [hrun] at h
      obtain ⟨-, rfl⟩ := Prod.mk.inj (Except.ok.inj h)
      exact .refl _ db
  | some run =>
      rw [hrun] at h
      simp only at h
      split_ifs at h with hguard
      · obtain ⟨-, rfl⟩ := Prod.mk.inj (Except.ok.inj h)
        exact .refl _ db
      simp only [not_or, not_not] at hguard
      set db₁ := db.updateRun runId _ with hdb₁
      have hstarted : db.Evolves (db.resumeScope runId (recoverable jobId eventId) now) db₁ :=
        evolves_updateRun fun run ↦ ⟨rfl, rfl, rfl, fun hstatus ↦ by cases hstatus⟩
      split at h
      · rename_i schedule revision hschedule hrevision
        split_ifs at h with hrevised hexpired hcontent <;>
          obtain ⟨-, rfl⟩ := Prod.mk.inj (Except.ok.inj h)
        · exact hstarted
        · exact hstarted.trans (evolves_expireUnguarded hutc hrun
            (by simpa [recoverable, hjobId, heventId] using hguard) hschedule hrevision
            (not_not.1 hrevised) hexpired rfl fun hdrained ↦
              absurd hdrained (not_staysDrained_of_review hrun hguard.1))
        · exact hstarted.trans (evolves_activateReviewed hschedule)
        · exact hstarted
      · obtain ⟨-, rfl⟩ := Prod.mk.inj (Except.ok.inj h)
        exact hstarted

theorem evolves_markWorkNotificationNeedsReview
    (h : db.markWorkNotificationNeedsReview runId now = .ok (u, db')) : db.Evolves scope db' := by
  unfold markWorkNotificationNeedsReview at h
  cases hrun : db.runs.get? runId with
  | none =>
      rw [hrun] at h
      obtain ⟨-, rfl⟩ := Prod.mk.inj (Except.ok.inj h)
      exact .refl _ db
  | some run =>
      rw [hrun] at h
      simp only [bind_eq_ok, orThrow_eq_ok] at h
      obtain ⟨schedule, hschedule, h⟩ := h
      split_ifs at h with hactive <;> obtain ⟨-, rfl⟩ := Prod.mk.inj (Except.ok.inj h)
      · refine Evolves.trans (evolves_updateSchedule (fun row hrow ↦ ?_) ?_)
          evolves_retireRevisions
        · refine ⟨rfl, rfl, .inr fun habsorbing ↦ ?_⟩
          obtain rfl : schedule = row := Option.some.inj (hschedule.symm.trans hrow)
          rw [hactive.2] at habsorbing
          cases habsorbing
        · rintro row - habsorbing
          cases habsorbing
      · exact .refl _ db

theorem evolves_resumeAfterWorkNotification
    (h : db.resumeAfterWorkNotification runId now = .ok (u, db')) :
    db.Evolves (db.resumeScope runId resumable now) db' := by
  simp only [resumeAfterWorkNotification, utc, throwIf_bind_eq_ok, not_not] at h
  obtain ⟨hutc, h⟩ := h
  cases hrun : db.runs.get? runId with
  | none =>
      rw [hrun] at h
      obtain ⟨-, rfl⟩ := Prod.mk.inj (Except.ok.inj h)
      exact .refl _ db
  | some run =>
      rw [hrun] at h
      simp only at h
      split at h
      · rename_i schedule revision hschedule hrevision
        split_ifs at h with hover hexpired hcontent <;>
          obtain ⟨-, rfl⟩ := Prod.mk.inj (Except.ok.inj h)
        · exact .refl _ db
        · rw [not_or, not_not, Bool.not_eq_false] at hover
          exact evolves_expireUnguarded hutc hrun hover.2 hschedule hrevision hover.1.symm hexpired
            rfl id
        · exact (evolves_activateReviewed hschedule).trans evolves_completeIfDrained
        · exact evolves_completeIfDrained
      · obtain ⟨-, rfl⟩ := Prod.mk.inj (Except.ok.inj h)
        exact .refl _ db

/-- The event belongs to a materialized run of a schedule that has ended. -/
def EndedUndelegated (db : Db) (eventId : EventId) : Prop :=
  ∃ runId run schedule, db.runs.get? runId = some run ∧ run.eventId = some eventId ∧
    run.status = .materialized ∧ db.schedules.get? run.scheduleId = some schedule ∧
    schedule.state.isAbsorbing = true

def undelegatedScope (db : Db) (eventId : EventId) : Scope :=
  ⟨db.EndedUndelegated eventId, fun _ ↦ False, fun _ ↦ False, False⟩

theorem evolves_recordEventReview : db.Evolves scope (db.recordEventReview eventId now) :=
  .of_same rfl rfl rfl rfl rfl rfl rfl

theorem evolves_settleUndelegatedWorkEvent {outcome : UndelegatedOutcome}
    (h : db.settleUndelegatedWorkEvent eventId outcome now = .ok (u, db')) :
    db.Evolves (db.undelegatedScope eventId) db' := by
  simp only [settleUndelegatedWorkEvent, bind_eq_ok] at h
  obtain ⟨_, -, _, -, h⟩ := h
  split at h
  · obtain ⟨-, rfl⟩ := Prod.mk.inj (Except.ok.inj h)
    exact .refl _ db
  · rename_i runId run hfind
    obtain ⟨hrun, hevent⟩ := Table.get?_of_find? hfind
    by_cases hstatus : run.status ≠ .materialized ∨ run.jobId ≠ none
    · rw [if_pos hstatus] at h
      obtain ⟨-, rfl⟩ := Prod.mk.inj (Except.ok.inj h)
      exact .refl _ db
    rw [if_neg hstatus] at h
    simp only [bind_eq_ok, orThrow_eq_ok, Except.ok.injEq, Prod.mk.injEq] at h
    obtain ⟨before, hbefore, -, rfl⟩ := h
    rw [not_or, not_not] at hstatus
    refine Evolves.trans ?_ evolves_completeIfDrained
    refine Evolves.trans ?_ (.ite ?_ (.refl _ _))
    · refine evolves_updateRun fun run ↦ ⟨rfl, rfl, rfl, fun hstatus' ↦ ?_⟩
      cases outcome <;> cases hstatus'
    refine Evolves.trans (Evolves.trans ?_ evolves_retireRevisions) evolves_recordEventReview
    refine evolves_updateSchedule (fun row hrow ↦ ⟨rfl, rfl, ?_⟩) ?_
    · obtain rfl : before = row := Option.some.inj (hbefore.symm.trans hrow)
      cases hstate : before.state.isAbsorbing with
      | true =>
          exact .inl ⟨runId, run, before, hrun, by simpa using hevent, hstatus.1, hbefore, hstate⟩
      | false => exact .inr fun habsorbing ↦ by cases habsorbing
    · rintro row - habsorbing
      cases habsorbing

theorem evolves_reconcileWorkRun {outcome : WorkRunOutcome} {actor : Actor}
    (h : db.reconcileWorkRun runId outcome actor now = .ok (u, db')) : db.Evolves scope db' := by
  simp only [reconcileWorkRun, bind_eq_ok, orThrow_eq_ok, throwIf_eq_ok, Except.ok.injEq,
    Prod.mk.injEq] at h
  obtain ⟨_, -, _, -, run, -, _, -, before, -, _, -, -, rfl⟩ := h
  refine Evolves.trans ?_ evolves_completeIfDrained
  refine evolves_updateRun fun run ↦ ⟨rfl, rfl, rfl, fun hstatus ↦ ?_⟩
  cases outcome <;> cases hstatus

/-! ### The life of a schedule -/

variable {scheduleId : ScheduleId}

theorem checked_spec {revision : ℕ} {actor : Actor} {ownerOnly : Bool} {row : Schedule}
    (h : db.checked scheduleId revision actor ownerOnly = .ok row) :
    db.schedules.get? scheduleId = some row ∧ row.revision = revision := by
  simp only [checked, bind_eq_ok, orThrow_eq_ok, throwIf_eq_ok, Except.ok.injEq] at h
  obtain ⟨row, hrow, _, hrevision, _, -, _, -, _, -, _, -, rfl⟩ := h
  exact ⟨hrow, not_not.1 hrevision⟩

theorem evolves_closeNotices : db.Evolves scope (db.closeNotices scheduleId now) :=
  .of_eq rfl rfl rfl le_rfl (.inr keepsNotices_closeNotices)

theorem drained_suppressRuns {reason : RunReason} :
    (db.suppressRuns scheduleId now reason).Drained scheduleId := by
  intro runId run' hrun' hschedule hstatus
  simp only [suppressRuns, Table.get?_updateWhere, Option.map_eq_some_iff] at hrun'
  obtain ⟨run, -, hrun'⟩ := hrun'
  split_ifs at hrun' with hp
  · rw [← hrun'] at hstatus
    cases hstatus
  subst hrun'
  have hstarted : db.hasStartedWrite runId = true := by
    by_contra hne
    simp only [Bool.not_eq_true] at hne
    exact hp (by simp [hschedule, hstatus, hne])
  obtain ⟨outboxId, row, hrow, hp⟩ := Table.any_eq_true_iff.1 hstarted
  simp only [decide_eq_true_eq] at hp
  exact ⟨outboxId, row, hrow, hp.1⟩

/-- After a suppression every materialized run of the schedule has a write. -/
theorem drained_suppress {reason : RunReason} :
    (db.suppress scheduleId now reason).Drained scheduleId := by
  have hrest : ∀ db : Db, db.Evolves .strict
      ((db.suppressEvents scheduleId now).suppressNotifications scheduleId now) :=
    fun db ↦ evolves_suppressDispatcher
  exact (hrest _).drained drained_suppressRuns

theorem evolves_cancelUnusable {before : Schedule}
    (hbefore : db.schedules.get? scheduleId = some before)
    (hstate : before.state.isAbsorbing = false) :
    db.Evolves scope (db.cancelUnusable scheduleId now) := by
  refine Evolves.trans (Evolves.trans ?_ evolves_retireRevisions) evolves_completeIfDrained
  refine Evolves.trans evolves_suppress
    (evolves_updateSchedule (fun row hrow ↦ ⟨rfl, rfl, .inr fun habsorbing ↦ ?_⟩)
      fun _ _ _ ↦ .inr drained_suppress)
  obtain rfl : before = row := Option.some.inj (hbefore.symm.trans hrow)
  rw [hstate] at habsorbing
  cases habsorbing

theorem evolves_advanceRevision {before : Schedule} {old : Revision} {revision : ℕ}
    {operation : TransitionOperation} (hbefore : db.schedules.get? scheduleId = some before)
    (hstate : before.state.isAbsorbing = false)
    (h : db.advanceRevision scheduleId old revision operation now = .ok db') :
    db.Evolves scope db' := by
  simp only [advanceRevision, bind_eq_ok, Except.ok.injEq] at h
  obtain ⟨db₁, hinsert, rfl⟩ := h
  refine Evolves.trans ?_ evolves_completeIfDrained
  refine (evolves_insertRevision hinsert).trans ?_
  have hschedules : db₁.schedules = db.schedules := by
    simp only [insertRevision, orThrow_bind_eq_ok, Except.ok.injEq] at hinsert
    obtain ⟨revisions, -, rfl⟩ := hinsert
    rfl
  set retired := db₁.retireRevisions scheduleId now (some revision)
  have hretired : db₁.Evolves scope retired := evolves_retireRevisions
  have hupdate : ∀ db : Db, db.schedules = retired.schedules →
      (operation.state.isAbsorbing = true → db.Drained scheduleId) →
      db.Evolves scope (db.updateSchedule scheduleId (advancedRow operation revision now)) := by
    intro db hsame hended
    refine evolves_updateSchedule (fun row hrow ↦ ⟨rfl, rfl, .inr fun habsorbing ↦ ?_⟩)
      fun _ _ habsorbing ↦ .inr (hended habsorbing)
    rw [hsame] at hrow
    obtain rfl : before = row := Option.some.inj (hbefore.symm.trans (hschedules ▸ hrow))
    rw [hstate] at habsorbing
    cases habsorbing
  cases operation with
  | resume =>
      exact (hretired.trans (hupdate retired rfl (by simp [TransitionOperation.state,
        ScheduleState.isAbsorbing]))).trans evolves_releaseClaim
  | pause =>
      exact ((hretired.trans (hupdate retired rfl (by simp [TransitionOperation.state,
        ScheduleState.isAbsorbing]))).trans evolves_releaseClaim).trans evolves_suppress
  | cancel =>
      -- the suppression does not read the schedules, so it may as well come first
      have hsuppressed : db₁.Evolves scope (retired.suppress scheduleId now .cancelled) :=
        hretired.trans evolves_suppress
      exact ((hsuppressed.trans (hupdate _ rfl fun _ ↦ drained_suppress)).trans
        evolves_releaseClaim).trans evolves_retireRevisions

theorem evolves_transition {expectedRevision : ℕ} {operation : TransitionOperation} {actor : Actor}
    (h : db.transition scheduleId expectedRevision operation actor now = .ok (u, db')) :
    db.Evolves scope db' := by
  simp only [transition, bind_eq_ok, orThrow_eq_ok, throwIf_eq_ok] at h
  obtain ⟨_, -, before, hchecked, _, -, _, hvalid, old, -, _, -, h⟩ := h
  obtain ⟨hbefore, -⟩ := checked_spec hchecked
  have hstate : before.state.isAbsorbing = false := by
    cases hs : before.state <;> cases operation <;> simp_all [ScheduleState.isAbsorbing]
  set db₁ := if operation = .resume then db else
    db.closeNotices scheduleId (db.transitionInstant scheduleId before now) with hdb₁
  have hclosed : db.Evolves scope db₁ := .ite (.refl _ _) evolves_closeNotices
  have hbefore₁ : db₁.schedules.get? scheduleId = some before := by
    rw [hdb₁]
    split_ifs <;> exact hbefore
  refine hclosed.trans ?_
  split_ifs at h
  · obtain ⟨-, rfl⟩ := Prod.mk.inj (Except.ok.inj h)
    exact evolves_cancelUnusable hbefore₁ hstate
  · obtain ⟨-, rfl⟩ := Prod.mk.inj (Except.ok.inj h)
    refine evolves_expireSchedule (.inr fun row hrow ↦ ?_)
    obtain rfl : before = row := Option.some.inj (hbefore₁.symm.trans hrow)
    exact hstate
  · simp only [bind_eq_ok, Except.ok.injEq, Prod.mk.injEq] at h
    obtain ⟨db₂, hadvance, -, rfl⟩ := h
    exact evolves_advanceRevision hbefore₁ hstate hadvance

theorem evolves_claimDue {owner : String} {leaseSeconds : ℕ} {excluded : List ScheduleId}
    {claimed : Option ScheduleId}
    (h : db.claimDue owner now leaseSeconds excluded = .ok (claimed, db')) :
    db.Evolves scope db' := by
  simp only [claimDue, bind_eq_ok, throwIf_eq_ok] at h
  obtain ⟨_, -, _, -, _, -, _, -, h⟩ := h
  split at h <;> obtain ⟨-, rfl⟩ := Prod.mk.inj (Except.ok.inj h)
  · exact .refl _ db
  · exact .of_same rfl rfl rfl rfl rfl rfl rfl

theorem evolves_releaseClaims {owner : String} (h : db.releaseClaims owner now = .ok (u, db')) :
    db.Evolves scope db' := by
  simp only [releaseClaims, bind_eq_ok, Except.ok.injEq, Prod.mk.injEq] at h
  obtain ⟨_, -, _, -, -, rfl⟩ := h
  exact .of_same rfl rfl rfl rfl rfl rfl rfl

theorem get?_schedules_completeIfDrained {id : ScheduleId} (h : id ≠ scheduleId) :
    (db.completeIfDrained scheduleId now).schedules.get? id = db.schedules.get? id := by
  unfold completeIfDrained
  cases db.schedules.get? scheduleId with
  | none => rfl
  | some before =>
      simp only
      cases db.revision? scheduleId before.revision with
      | none => rfl
      | some revision =>
          simp only
          split_ifs
          · rfl
          · rfl
          · simp [retireRevisions, updateSchedule, h]

/-- The expiry of one schedule leaves the rows of the others as they are. -/
theorem get?_schedules_expireSchedule {before : Schedule} {id : ScheduleId} (h : id ≠ scheduleId) :
    (db.expireSchedule scheduleId before now).schedules.get? id = db.schedules.get? id := by
  unfold expireSchedule
  rw [get?_schedules_completeIfDrained h]
  simp [retireRevisions, updateSchedule, suppress, suppressNotifications, suppressEvents,
    suppressRuns, updateOutbox, capExpiringContent, h]

theorem evolves_expireAll {rows : List (ScheduleId × Schedule)}
    (hnodup : (rows.map Prod.fst).Nodup)
    (hrows : ∀ entry ∈ rows, ∀ row, db.schedules.get? entry.1 = some row →
      row.state.isAbsorbing = false) :
    db.Evolves scope (db.expireAll now rows) := by
  unfold expireAll
  induction rows generalizing db with
  | nil => exact .refl _ db
  | cons entry rows ih =>
      rw [List.map_cons, List.nodup_cons] at hnodup
      have hfirst : db.Evolves scope (db.expireSchedule entry.1 entry.2 now) :=
        evolves_expireSchedule (.inr (hrows entry List.mem_cons_self))
      refine hfirst.trans (ih hnodup.2 fun other hother row hrow ↦ ?_)
      have hne : other.1 ≠ entry.1 := by
        intro heq
        exact hnodup.1 (heq ▸ List.mem_map_of_mem hother)
      rw [get?_schedules_expireSchedule hne] at hrow
      exact hrows other (List.mem_cons_of_mem _ hother) row hrow

theorem nodup_keys_select {κ ρ : Type} (t : Table κ ρ) (p : κ → ρ → Bool) :
    ((t.select p).map Prod.fst).Nodup :=
  t.nodup.sublist (List.filter_sublist.map _)

/-- A list of schedules that the caller has selected, sorted and cut. -/
theorem evolves_expireSelected {p : ScheduleId → Schedule → Bool}
    {rows sorted : List (ScheduleId × Schedule)} (hperm : sorted.Perm (db.schedules.select p))
    (hsub : rows.Sublist sorted)
    (hp : ∀ id row, p id row = true → row.state.isAbsorbing = false) :
    db.Evolves scope (db.expireAll now rows) := by
  have hkeys : (sorted.map Prod.fst).Nodup :=
    (hperm.map Prod.fst).nodup_iff.2 (nodup_keys_select _ _)
  refine evolves_expireAll (hkeys.sublist (hsub.map _)) fun entry hentry row hrow ↦ ?_
  obtain ⟨hget, hp'⟩ := Table.mem_select_iff.1 (hperm.subset (hsub.subset hentry))
  rw [hget] at hrow
  obtain rfl := Option.some.inj hrow
  exact hp _ _ hp'

theorem evolves_expireDue {limit : ℕ} (h : db.expireDue now limit = .ok (u, db')) :
    db.Evolves scope db' := by
  simp only [expireDue, bind_eq_ok, throwIf_eq_ok, Except.ok.injEq, Prod.mk.injEq] at h
  obtain ⟨_, -, _, -, -, rfl⟩ := h
  refine evolves_expireSelected (List.mergeSort_perm _ _) (List.take_sublist _ _) fun id row hp ↦ ?_
  simp only [decide_eq_true_eq] at hp
  rw [hp.1]
  rfl

end Db

end Dona
