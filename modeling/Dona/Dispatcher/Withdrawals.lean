import Dona.Dispatcher.EventFrames

/-!
# Notices that are withdrawn

What the settlement of a notice does to the notices: it withdraws those that nobody has been
authorized to post, and those whose write has not left the outbox.
-/

namespace Dona

open Fallible

/-- A write of the outbox that has not been sent reports the completion. -/
def Outbox.ReportsUnsent (runs : Table Uuid ScheduleRun) (row : Outbox)
    (key : JobId × JobStatus) : Prop :=
  row.kind = .workResultPost ∧ Db.isUnsent row = true ∧ row.completionJobStatus = some key.2 ∧
    (runs.get? row.runId).bind (·.jobId) = some key.1

namespace Db

def HasUnsentWrite (db : Db) (key : JobId × JobStatus) : Prop :=
  ∃ id row, db.outbox.get? id = some row ∧ row.ReportsUnsent db.runs key

/-- A completion of these tables stays as it is, or is withdrawn. -/
def Withdrawn (db : Db) (key : JobId × JobStatus) (row row' : CompletionResult) : Prop :=
  row' = row ∨ (row'.notificationState = .none ∧
    (row.notificationState = .pending ∨ db.HasUnsentWrite key))

structure Withdraws (db db' : Db) : Prop where
  completions : db.completions.Evolves db.Withdrawn db'.completions
  unsent : ∀ key, db'.HasUnsentWrite key → db.HasUnsentWrite key

variable {db db' db'' : Db} {now : Int} {eventId : EventId} {scheduleId : ScheduleId}
  {timestamp : Timestamp} {u : Unit}

namespace Withdraws

theorem of_eq (hcompletions : db'.completions = db.completions) (houtbox : db'.outbox = db.outbox)
    (hruns : db'.runs = db.runs) : db.Withdraws db' where
  completions := by
    rw [hcompletions]
    exact .refl (fun _ _ ↦ .inl rfl) _
  unsent key h := by
    obtain ⟨id, row, hrow, hreports⟩ := h
    exact ⟨id, row, houtbox ▸ hrow, hruns ▸ hreports⟩

theorem refl (db : Db) : db.Withdraws db := of_eq rfl rfl rfl

theorem trans (h : db.Withdraws db') (h' : db'.Withdraws db'') : db.Withdraws db'' where
  completions := by
    refine h.completions.comp h'.completions fun {key row row' row''} hrow hrow' ↦ ?_
    rcases hrow' with rfl | ⟨hnone, hreason⟩
    · exact hrow
    rcases hrow with rfl | ⟨-, hreason'⟩
    · exact .inr ⟨hnone, hreason.imp_right (h.unsent key)⟩
    · exact .inr ⟨hnone, hreason'⟩
  unsent key hkey := h.unsent key (h'.unsent key hkey)

/-- A notice that counts as accepted afterwards counted before. -/
theorem accepted (h : db.Withdraws db') {key : JobId × JobStatus} {row' : CompletionResult}
    (hrow' : db'.completions.get? key = some row') (hstate : row'.notificationState = .accepted) :
    db.completions.get? key = some row' := by
  obtain ⟨row, hrow, rfl | ⟨hnone, -⟩⟩ := h.completions.exists_old hrow'
  · exact hrow
  · rw [hstate] at hnone
    cases hnone

/-- A notice that is not pending stays, unless its write has not been sent. -/
theorem kept (h : db.Withdraws db') {key : JobId × JobStatus} {row : CompletionResult}
    (hrow : db.completions.get? key = some row) (hstate : row.notificationState ≠ .pending)
    (hsent : ¬db.HasUnsentWrite key) : db'.completions.get? key = some row := by
  obtain ⟨row', hrow', rfl | ⟨-, hpending | hunsent⟩⟩ := h.completions.exists_new hrow
  · exact hrow'
  · exact absurd hpending hstate
  · exact absurd hunsent hsent

end Withdraws

theorem withdraws_foldlM {α : Type} {f : Db → α → Except String Db}
    (hf : ∀ {db a db'}, f db a = .ok db' → db.Withdraws db') {as : List α}
    (h : as.foldlM f db = .ok db') : db.Withdraws db' :=
  foldlM_relates (R := Withdraws) .refl .trans hf h

/-! ### The outbox -/

/-- What an update of the outbox does to a completion goes back to one of its rows. -/
theorem evolves_syncCompletions_of_forall {runs : Table Uuid ScheduleRun} {f : Outbox → Outbox}
    {R : JobId × JobStatus → CompletionResult → CompletionResult → Prop}
    {entries : List (Uuid × Outbox)}
    (hrefl : ∀ key row, R key row row) (htrans : ∀ {key a b c}, R key a b → R key b c → R key a c)
    (hrow : ∀ entry ∈ entries, ∀ jobStatus jobId, (f entry.2).kind = .workResultPost →
      (f entry.2).completionJobStatus = some jobStatus →
      (runs.get? (f entry.2).runId).bind (·.jobId) = some jobId → ∀ completion,
        R (jobId, jobStatus) completion
          (withState (notificationStateOf (f entry.2).status) completion))
    (completions : Table (JobId × JobStatus) CompletionResult) :
    completions.Evolves R (entries.foldl
      (fun completions entry ↦ syncCompletion runs completions (f entry.2)) completions) := by
  induction entries generalizing completions with
  | nil => exact .refl hrefl _
  | cons entry entries ih =>
      have hhead : completions.Evolves R (syncCompletion runs completions (f entry.2)) := by
        unfold syncCompletion
        split
        · rename_i jobStatus jobId hkind hstatus hjob
          refine Table.evolves_updateKey hrefl fun row _ ↦ ?_
          exact hrow entry List.mem_cons_self jobStatus jobId hkind hstatus hjob row
        · exact .refl hrefl _
      exact hhead.trans htrans (ih (fun e he ↦ hrow e (List.mem_cons_of_mem _ he)) _)

theorem withdraws_cancelUnsent (p : Uuid → Outbox → Bool)
    (hp : ∀ id row, p id row = true → isUnsent row = true) :
    db.Withdraws (db.updateOutbox p (cancelUnsent timestamp)) where
  completions := by
    refine evolves_syncCompletions_of_forall (fun _ _ ↦ .inl rfl) ?_ ?_ _
    · rintro key a b c hab (rfl | ⟨hnone, hreason⟩)
      · exact hab
      rcases hab with rfl | ⟨-, hreason'⟩
      · exact .inr ⟨hnone, hreason⟩
      · exact .inr ⟨hnone, hreason'⟩
    · rintro ⟨id, row⟩ hentry jobStatus jobId hkind hstatus hjob completion
      obtain ⟨hget, hunsent⟩ := Table.mem_select_iff.mp hentry
      exact .inr ⟨rfl, .inr ⟨id, row, hget, hkind, hp id row hunsent, hstatus, hjob⟩⟩
  unsent key h := by
    obtain ⟨id, row', hrow', hkind, hunsent, hstatus, hjob⟩ := h
    rw [updateOutbox, Table.get?_updateWhere, Option.map_eq_some_iff] at hrow'
    obtain ⟨row, hrow, rfl⟩ := hrow'
    split_ifs at hkind hunsent hstatus hjob
    · simp [cancelUnsent, isUnsent] at hunsent
    · exact ⟨id, row, hrow, hkind, hunsent, hstatus, hjob⟩

/-- A statement that leaves the completions alone, and the jobs and the unsent writes of runs. -/
theorem withdraws_capExpiringContent :
    db.Withdraws (db.capExpiringContent scheduleId) where
  completions := .refl (fun _ _ ↦ .inl rfl) _
  unsent key h := by
    obtain ⟨id, row', hrow', hreports⟩ := h
    rw [capExpiringContent, Table.get?_updateWhere, Option.map_eq_some_iff] at hrow'
    obtain ⟨row, hrow, rfl⟩ := hrow'
    refine ⟨id, row, hrow, ?_⟩
    split_ifs at hreports
    · cases hdeadline : db.expiryDeadline row with
      | none =>
          rw [hdeadline] at hreports
          exact hreports
      | some deadline =>
          rw [hdeadline] at hreports
          exact hreports
    · exact hreports

theorem withdraws_suppressRuns {reason : RunReason} :
    db.Withdraws (db.suppressRuns scheduleId timestamp reason) where
  completions := .refl (fun _ _ ↦ .inl rfl) _
  unsent key h := by
    obtain ⟨id, row, hrow, hkind, hunsent, hstatus, hjob⟩ := h
    refine ⟨id, row, hrow, hkind, hunsent, hstatus, ?_⟩
    rw [suppressRuns, Table.get?_updateWhere] at hjob
    cases hrun : db.runs.get? row.runId with
    | none =>
        rw [hrun] at hjob
        exact hjob
    | some run =>
        rw [hrun, Option.map_some, Option.bind_some] at hjob
        split_ifs at hjob <;> exact hjob

theorem withdraws_suppressNotifications :
    db.Withdraws (db.suppressNotifications scheduleId timestamp) where
  completions := by
    refine Table.evolves_updateWhere fun key row _ ↦ ?_
    split_ifs with hp
    · simp only [Bool.decide_and, Bool.and_eq_true, decide_eq_true_eq] at hp
      exact .inr ⟨rfl, .inl hp.1.2.1⟩
    · exact .inl rfl
  unsent _ h := h

/-! ### The settlement of a notice -/

theorem withdraws_suppress {reason : RunReason} :
    db.Withdraws (db.suppress scheduleId timestamp reason) := by
  unfold suppress
  extract_lets unsent capped suppressed closed
  have hunsent : db.Withdraws unsent := by
    refine withdraws_cancelUnsent _ fun id row hrow ↦ ?_
    simp only [decide_eq_true_eq] at hrow
    exact hrow.2
  have hcapped : unsent.Withdraws capped := by
    simp only [capped]
    split_ifs
    · exact withdraws_capExpiringContent
    · exact .refl unsent
  have hclosed : suppressed.Withdraws closed := .of_eq rfl rfl rfl
  exact (((hunsent.trans hcapped).trans withdraws_suppressRuns).trans hclosed).trans
    withdraws_suppressNotifications

theorem withdraws_completeIfDrained (db : Db) (scheduleId : ScheduleId) (timestamp : Timestamp) :
    db.Withdraws (db.completeIfDrained scheduleId timestamp) := by
  unfold completeIfDrained
  split
  · exact .refl db
  split
  · exact .refl db
  split_ifs
  · exact .refl db
  · exact .refl db
  · exact .of_eq rfl rfl rfl

theorem withdraws_expireSchedule {before : Schedule} :
    db.Withdraws (db.expireSchedule scheduleId before timestamp) := by
  unfold expireSchedule
  extract_lets expiredAt suppressed expired retired
  have hexpired : suppressed.Withdraws retired := .of_eq rfl rfl rfl
  exact (withdraws_suppress.trans hexpired).trans (withdraws_completeIfDrained ..)

theorem withdraws_activateReviewed {schedule : Schedule} :
    db.Withdraws (db.activateReviewed scheduleId schedule timestamp) := by
  unfold activateReviewed
  split_ifs
  · exact .of_eq rfl rfl rfl
  · exact .refl db

theorem withdraws_resumeAfterWorkNotification {runId : Uuid}
    (h : db.resumeAfterWorkNotification runId timestamp = .ok (u, db')) : db.Withdraws db' := by
  simp only [resumeAfterWorkNotification, bind_eq_ok] at h
  obtain ⟨_, -, h⟩ := h
  split at h
  · obtain ⟨-, rfl⟩ := Prod.mk.inj (Except.ok.inj h)
    exact .refl db
  split at h
  · split_ifs at h <;> obtain ⟨-, rfl⟩ := Prod.mk.inj (Except.ok.inj h)
    · exact .refl db
    · exact withdraws_expireSchedule
    · exact withdraws_activateReviewed.trans (withdraws_completeIfDrained ..)
    · exact withdraws_completeIfDrained ..
  · obtain ⟨-, rfl⟩ := Prod.mk.inj (Except.ok.inj h)
    exact .refl db

theorem withdraws_settleNotice {row : NoticeRun} (h : db.settleNotice now row = .ok db') :
    db.Withdraws db' := by
  simp only [settleNotice, bind_eq_ok, Prod.exists, Except.ok.injEq] at h
  obtain ⟨u, db₁, hsettle, rfl⟩ := h
  exact withdraws_resumeAfterWorkNotification hsettle

theorem withdraws_markForReview {row : NoticeRun} (h : db.markForReview now row = .ok db') :
    db.Withdraws db' := by
  simp only [markForReview, bind_eq_ok, Prod.exists, Except.ok.injEq] at h
  obtain ⟨u, db₁, hmark, rfl⟩ := h
  unfold markWorkNotificationNeedsReview at hmark
  split at hmark
  · obtain ⟨-, rfl⟩ := Prod.mk.inj (Except.ok.inj hmark)
    exact .refl db
  · simp only [orThrow_bind_eq_ok] at hmark
    obtain ⟨schedule, -, hmark⟩ := hmark
    split_ifs at hmark <;> obtain ⟨-, rfl⟩ := Prod.mk.inj (Except.ok.inj hmark)
    · exact .of_eq rfl rfl rfl
    · exact .refl db

/-- An update of a run that keeps its job. -/
theorem withdraws_updateRun {runId : Uuid} {f : ScheduleRun → ScheduleRun}
    (hf : ∀ run, (f run).jobId = run.jobId) : db.Withdraws (db.updateRun runId f) where
  completions := .refl (fun _ _ ↦ .inl rfl) _
  unsent key h := by
    obtain ⟨id, row, hrow, hkind, hunsent, hstatus, hjob⟩ := h
    refine ⟨id, row, hrow, hkind, hunsent, hstatus, ?_⟩
    rw [updateRun, Table.get?_updateKey] at hjob
    cases hrun : db.runs.get? row.runId with
    | none =>
        rw [hrun] at hjob
        split_ifs at hjob <;> exact hjob
    | some run =>
        rw [hrun] at hjob
        split_ifs at hjob
        · simpa [hf] using hjob
        · exact hjob

theorem withdraws_settleUndelegated {outcome : UndelegatedOutcome}
    (h : db.settleUndelegated eventId outcome now = .ok db') : db.Withdraws db' := by
  simp only [settleUndelegated, bind_eq_ok, Prod.exists, Except.ok.injEq] at h
  obtain ⟨u, db₁, h, rfl⟩ := h
  simp only [settleUndelegatedWorkEvent, bind_eq_ok] at h
  obtain ⟨_, -, _, -, h⟩ := h
  split at h
  · obtain ⟨-, rfl⟩ := Prod.mk.inj (Except.ok.inj h)
    exact .refl db
  rename_i runId run hfind
  by_cases hover : run.status ≠ .materialized ∨ run.jobId ≠ none
  · rw [if_pos hover] at h
    obtain ⟨-, rfl⟩ := Prod.mk.inj (Except.ok.inj h)
    exact .refl db
  · rw [if_neg hover] at h
    simp only [orThrow_bind_eq_ok] at h
    obtain ⟨before, -, h⟩ := h
    obtain ⟨-, rfl⟩ := Prod.mk.inj (Except.ok.inj h)
    refine Withdraws.trans ?_ (withdraws_completeIfDrained ..)
    have hreview : ∀ (db : Db) (f : Schedule → Schedule) (reviewAt : Timestamp), db.Withdraws
        (((db.updateSchedule run.scheduleId f).retireRevisions run.scheduleId reviewAt
          none).recordEventReview eventId reviewAt) := fun _ _ _ ↦ .of_eq rfl rfl rfl
    cases outcome with
    | failed => exact withdraws_updateRun fun _ ↦ rfl
    | needsReview =>
        refine Withdraws.trans ?_ (hreview _ _ _)
        exact withdraws_updateRun fun _ ↦ rfl

/-! ### The event of the notice -/

theorem transitionEvent_frame {source : List EventStatus} {target : EventStatus}
    {values : EventRow → EventRow}
    (h : db.transitionEvent eventId source target values now = .ok db') :
    db'.completions = db.completions ∧ db'.runs = db.runs ∧ db'.revisions = db.revisions ∧
      db'.outbox = db.outbox := by
  simp only [transitionEvent, bind_eq_ok, throwIf_eq_ok, Except.ok.injEq] at h
  obtain ⟨current, -, _, -, rfl⟩ := h
  split_ifs <;> exact ⟨rfl, rfl, rfl, rfl⟩

theorem withdraws_transitionEvent {source : List EventStatus} {target : EventStatus}
    {values : EventRow → EventRow}
    (h : db.transitionEvent eventId source target values now = .ok db') : db.Withdraws db' := by
  obtain ⟨hcompletions, hruns, -, houtbox⟩ := transitionEvent_frame h
  exact .of_eq hcompletions houtbox hruns

theorem withdraws_handoffResolvedAttention
    (h : db.handoffResolvedAttention eventId now = .ok db') : db.Withdraws db' := by
  simp only [handoffResolvedAttention, bind_eq_ok] at h
  obtain ⟨attention, -, h⟩ := h
  split at h
  · split at h
    · split_ifs at h <;> obtain rfl := Except.ok.inj h
      · exact .of_eq rfl rfl rfl
      · exact .refl db
    · obtain rfl := Except.ok.inj h
      exact .refl db
  · obtain rfl := Except.ok.inj h
    exact .refl db

end Db

end Dona
