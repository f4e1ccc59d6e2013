import Dona.Dispatcher.Completions
import Dona.Scheduler.System

/-!
# The dispatcher keeps the notices

Every operation of the dispatcher on a notice, except the one that authorizes a post, keeps
the notices and their capabilities. The proofs follow the statements of each operation.
-/

namespace Dona

open Fallible

namespace Db

variable {db db' : Db} {now : Int} {eventId : EventId} {u : Unit}

theorem Evolves.keepsNotices {scope : Scope} (h : db.Evolves scope db')
    (hscope : ¬scope.mayRewrite) : db.KeepsNotices db' :=
  h.notices.resolve_left hscope

theorem keepsNotices_of_strict (h : db.Evolves .strict db') : db.KeepsNotices db' :=
  h.keepsNotices id

theorem keepsNotices_foldlM {α : Type} {f : Db → α → Except String Db}
    (hf : ∀ {db a db'}, f db a = .ok db' → db.KeepsNotices db') {as : List α}
    (h : as.foldlM f db = .ok db') : db.KeepsNotices db' :=
  foldlM_relates (R := KeepsNotices) .refl .trans hf h

/-! ### Groups and transitions -/

theorem keepsNotices_sealJobGroup (db : Db) (eventId : EventId) (timestamp : Timestamp) :
    db.KeepsNotices (db.sealJobGroupIfPresent eventId timestamp) :=
  .of_eq rfl rfl rfl

theorem keepsNotices_handoffResolvedAttention
    (h : db.handoffResolvedAttention eventId now = .ok db') : db.KeepsNotices db' := by
  unfold handoffResolvedAttention at h
  simp only [bind_eq_ok] at h
  obtain ⟨attention, -, h⟩ := h
  split at h
  · split at h
    · split_ifs at h <;> obtain rfl := Except.ok.inj h
      · exact .of_eq rfl rfl rfl
      · exact .refl db
    · obtain rfl := Except.ok.inj h
      exact .refl db
  · obtain rfl := Except.ok.inj h
    exact .refl db

/-- A rewriting of the row of an event that does not make it another event. -/
theorem keepsNotices_updateEvent {f : EventRow → EventRow}
    (h : ∀ event : EventRow, event.Keeps (f event)) :
    db.KeepsNotices { db with events := db.events.updateKey eventId f } :=
  keepsNotices_updateEvents h

theorem keepsNotices_transitionEvent {source : List EventStatus} {target : EventStatus}
    {values : EventRow → EventRow}
    (h : db.transitionEvent eventId source target values now = .ok db')
    (hvalues : ∀ event : EventRow, event.Keeps (values event)) : db.KeepsNotices db' := by
  simp only [transitionEvent, bind_eq_ok, throwIf_eq_ok, Except.ok.injEq] at h
  obtain ⟨current, -, _, -, rfl⟩ := h
  have hupdate : db.KeepsNotices { db with
      events := db.events.updateKey eventId fun event ↦
        { values event with status := target, updatedAt := .toIso now } } :=
    keepsNotices_updateEvent fun event ↦ ⟨(hvalues event).source, (hvalues event).externalEventId⟩
  split_ifs
  · exact hupdate.trans (keepsNotices_sealJobGroup ..)
  · exact hupdate

/-! ### The state of a notice -/

theorem keepsNotices_markForReview {row : NoticeRun} (h : db.markForReview now row = .ok db') :
    db.KeepsNotices db' := by
  simp only [markForReview, bind_eq_ok, Prod.exists, Except.ok.injEq] at h
  obtain ⟨u, db₁, hmark, rfl⟩ := h
  exact keepsNotices_of_strict (evolves_markWorkNotificationNeedsReview hmark)

theorem keepsNotices_settleNotice {row : NoticeRun} (h : db.settleNotice now row = .ok db') :
    db.KeepsNotices db' := by
  simp only [settleNotice, bind_eq_ok, Prod.exists, Except.ok.injEq] at h
  obtain ⟨u, db₁, hsettle, rfl⟩ := h
  exact (evolves_resumeAfterWorkNotification hsettle).keepsNotices id

theorem keepsNotices_withState {p : JobId × JobStatus → CompletionResult → Bool}
    {state : NotificationState} :
    db.KeepsNotices { db with completions := db.completions.updateWhere p (withState state) } :=
  keepsNotices_updateCompletions fun _ _ _ _ ↦ ⟨rfl, .inl ⟨rfl, rfl⟩⟩

theorem keepsNotices_setNotificationState {state : NotificationState}
    {expectedStates : Option (List NotificationState)}
    (h : db.setNotificationState eventId state now expectedStates = .ok db') :
    db.KeepsNotices db' := by
  simp only [setNotificationState, bind_eq_ok, throwIf_eq_ok] at h
  obtain ⟨db₁, hreview, _, -, hsettle⟩ := h
  have hmarked : db.KeepsNotices db₁ := by
    split_ifs at hreview
    · exact keepsNotices_foldlM keepsNotices_markForReview hreview
    · obtain rfl := Except.ok.inj hreview
      exact .refl db
  split_ifs at hsettle
  · exact (hmarked.trans keepsNotices_withState).trans
      (keepsNotices_foldlM keepsNotices_settleNotice hsettle)
  · obtain rfl := Except.ok.inj hsettle
    exact hmarked.trans keepsNotices_withState

theorem keepsNotices_settleUndelegated {outcome : UndelegatedOutcome}
    (h : db.settleUndelegated eventId outcome now = .ok db') : db.KeepsNotices db' := by
  simp only [settleUndelegated, bind_eq_ok, Prod.exists, Except.ok.injEq] at h
  obtain ⟨u, db₁, hsettle, rfl⟩ := h
  exact (evolves_settleUndelegatedWorkEvent hsettle).keepsNotices id

/-! ### Suppression -/

theorem keepsNotices_updateOpenEvent {f : EventRow → EventRow}
    (h : ∀ event : EventRow, event.Keeps (f event)) :
    db.KeepsNotices (db.updateOpenEvent eventId f) :=
  keepsNotices_updateEvents h

theorem keepsNotices_suppressUnauthorizedRow {row : Unauthorized}
    (h : suppressUnauthorized now db row = .ok db') : db.KeepsNotices db' := by
  unfold suppressUnauthorized at h
  split_ifs at h
  · refine KeepsNotices.trans ?_ (keepsNotices_setNotificationState h)
    exact keepsNotices_updateOpenEvent fun _ ↦ ⟨rfl, rfl⟩
  · simp only [bind_eq_ok, Except.ok.injEq] at h
    obtain ⟨db₁, hstate, rfl⟩ := h
    refine KeepsNotices.trans ?_ (keepsNotices_of_strict evolves_completeIfDrained)
    refine KeepsNotices.trans ?_ (keepsNotices_setNotificationState hstate)
    exact keepsNotices_updateOpenEvent fun _ ↦ ⟨rfl, rfl⟩

theorem keepsNotices_suppressUnauthorized
    (h : suppressUnauthorizedScheduledNotifications now db = .ok (u, db')) :
    db.KeepsNotices db' := by
  simp only [suppressUnauthorizedScheduledNotifications, bind_eq_ok, Except.ok.injEq,
    Prod.mk.injEq] at h
  obtain ⟨db₁, hfold, -, rfl⟩ := h
  exact keepsNotices_foldlM keepsNotices_suppressUnauthorizedRow hfold

/-! ### Dispatch -/

theorem keepsNotices_markWaiting (h : db.markWaiting eventId now = .ok db') :
    db.KeepsNotices db' :=
  keepsNotices_transitionEvent h fun _ ↦ ⟨rfl, rfl⟩

theorem keepsNotices_startDispatch {resultPath : String}
    (h : db.startDispatch eventId resultPath now = .ok (u, db')) : db.KeepsNotices db' := by
  simp only [startDispatch, bind_eq_ok] at h
  obtain ⟨event, -, h⟩ := h
  split_ifs at h
  · obtain ⟨-, rfl⟩ := Prod.mk.inj (Except.ok.inj h)
    exact keepsNotices_updateEvent fun _ ↦ ⟨rfl, rfl⟩
  · simp only [throwIf_bind_eq_ok, Except.ok.injEq, Prod.mk.injEq] at h
    obtain ⟨-, -, rfl⟩ := h
    exact .refl db

theorem keepsNotices_markBlocked {message : String} {source : List EventStatus}
    (h : db.markBlocked eventId message source now = .ok (u, db')) : db.KeepsNotices db' := by
  simp only [markBlocked, bind_eq_ok, Except.ok.injEq, Prod.mk.injEq] at h
  obtain ⟨event, -, db₁, htransition, db₂, hsettle, db₃, hstate, -, rfl⟩ := h
  exact ((keepsNotices_transitionEvent htransition fun _ ↦ ⟨rfl, rfl⟩).trans
    (keepsNotices_settleUndelegated hsettle)).trans (keepsNotices_setNotificationState hstate)

theorem keepsNotices_markNeedsReview {code message : String}
    (h : db.markNeedsReview eventId code message now = .ok (u, db')) : db.KeepsNotices db' := by
  simp only [markNeedsReview, bind_eq_ok, Except.ok.injEq, Prod.mk.injEq] at h
  obtain ⟨db₁, htransition, db₂, hsettle, db₃, hstate, -, rfl⟩ := h
  exact ((keepsNotices_transitionEvent htransition fun _ ↦ ⟨rfl, rfl⟩).trans
    (keepsNotices_settleUndelegated hsettle)).trans (keepsNotices_setNotificationState hstate)

theorem keepsNotices_settleDeadLetter (h : db.settleDeadLetter eventId now = .ok db') :
    db.KeepsNotices db' := by
  simp only [settleDeadLetter, bind_eq_ok] at h
  obtain ⟨db₁, hsettle, hstate⟩ := h
  exact ((keepsNotices_sealJobGroup ..).trans (keepsNotices_settleUndelegated hsettle)).trans
    (keepsNotices_setNotificationState hstate)

theorem keepsNotices_failAttempt {attemptCount maxAttempts : ℕ} {code message : String}
    (h : db.failAttempt eventId attemptCount code message maxAttempts now = .ok db') :
    db.KeepsNotices db' := by
  unfold failAttempt at h
  extract_lets dead failed at h
  have hfailed : db.KeepsNotices failed := keepsNotices_updateEvent fun _ ↦ ⟨rfl, rfl⟩
  split_ifs at h
  · exact hfailed.trans (keepsNotices_settleDeadLetter h)
  · obtain rfl := Except.ok.inj h
    exact hfailed

theorem keepsNotices_recordPreDispatchFailure {code message : String} {maxAttempts : ℕ}
    (h : db.recordPreDispatchFailure eventId code message maxAttempts now = .ok (u, db')) :
    db.KeepsNotices db' := by
  simp only [recordPreDispatchFailure, bind_eq_ok, Except.ok.injEq, Prod.mk.injEq] at h
  obtain ⟨event, -, _, -, db₁, hfail, -, rfl⟩ := h
  exact keepsNotices_failAttempt hfail

theorem keepsNotices_recordSafePromptFailure {code message : String} {maxAttempts : ℕ}
    (h : db.recordSafePromptFailure eventId code message maxAttempts now = .ok (u, db')) :
    db.KeepsNotices db' := by
  simp only [recordSafePromptFailure, bind_eq_ok, Except.ok.injEq, Prod.mk.injEq] at h
  obtain ⟨event, -, _, -, db₁, hfail, -, rfl⟩ := h
  exact (keepsNotices_failAttempt hfail).trans (keepsNotices_sealJobGroup ..)

theorem keepsNotices_recordWaitingError {code message : String}
    (h : db.recordWaitingError eventId code message now = .ok (u, db')) : db.KeepsNotices db' := by
  obtain ⟨-, rfl⟩ := Prod.mk.inj (Except.ok.inj h)
  exact keepsNotices_updateEvents fun _ ↦ ⟨rfl, rfl⟩

theorem keepsNotices_foldl {α : Type} {f : Db → α → Db}
    (h : ∀ (db : Db) a, db.KeepsNotices (f db a)) (as : List α) :
    db.KeepsNotices (as.foldl f db) := by
  induction as generalizing db with
  | nil => exact .refl db
  | cons a as ih => exact (h db a).trans ih

theorem keepsNotices_recoverStaleDispatching
    (h : db.recoverStaleDispatching now = .ok (u, db')) : db.KeepsNotices db' := by
  simp only [recoverStaleDispatching, bind_eq_ok, Except.ok.injEq, Prod.mk.injEq] at h
  obtain ⟨db₁, hsettle, db₂, hstate, -, rfl⟩ := h
  refine KeepsNotices.trans ?_ (keepsNotices_foldlM keepsNotices_setNotificationState hstate)
  refine KeepsNotices.trans ?_ (keepsNotices_foldlM keepsNotices_settleUndelegated hsettle)
  refine KeepsNotices.trans ?_ (keepsNotices_updateEvents fun _ ↦ ⟨rfl, rfl⟩)
  exact keepsNotices_foldl (fun db (entry : EventId × EventRow) ↦
    db.keepsNotices_sealJobGroup entry.1 _) _

/-! ### Results -/

variable {env : Env} {event : EventRow} {result : ResultEnvelope} {resultPath : String}
  {evidence : Option JobNotificationEvidence}

theorem keepsNotices_endUndelegated
    (h : db.endUndelegated eventId event result resultPath now = .ok db') : db.KeepsNotices db' := by
  simp only [endUndelegated, bind_eq_ok] at h
  obtain ⟨db₁, htransition, hsettle⟩ := h
  exact (keepsNotices_transitionEvent htransition fun _ ↦ ⟨rfl, rfl⟩).trans
    (keepsNotices_settleUndelegated hsettle)

theorem keepsNotices_saveCompleted
    (h : db.saveCompleted env eventId result resultPath now evidence = .ok (u, db')) :
    db.KeepsNotices db' := by
  simp only [saveCompleted, bind_eq_ok] at h
  obtain ⟨_, -, event, -, h⟩ := h
  split at h
  · obtain ⟨-, rfl⟩ := Prod.mk.inj (Except.ok.inj h)
    exact .refl db
  split at h
  · simp only [bind_eq_ok, Except.ok.injEq, Prod.mk.injEq] at h
    obtain ⟨db₁, hend, -, rfl⟩ := h
    exact keepsNotices_endUndelegated hend
  simp only [bind_eq_ok, Except.ok.injEq, Prod.mk.injEq] at h
  obtain ⟨db₁, htransition, db₂, hstate, db₃, hhandoff, -, rfl⟩ := h
  refine (keepsNotices_transitionEvent htransition fun _ ↦ ⟨rfl, rfl⟩).trans
    (KeepsNotices.trans (?_ : db₁.KeepsNotices db₂) ?_)
  · split at hstate
    · exact keepsNotices_setNotificationState hstate
    · obtain rfl := Except.ok.inj hstate
      exact .refl _
  · split at hhandoff
    · exact keepsNotices_handoffResolvedAttention hhandoff
    · obtain rfl := Except.ok.inj hhandoff
      exact .refl _

theorem keepsNotices_failUndelivered
    (h : db.failUndelivered eventId event result resultPath now = .ok db') :
    db.KeepsNotices db' := by
  simp only [failUndelivered, bind_eq_ok] at h
  obtain ⟨db₁, htransition, db₂, hsettle, hstate⟩ := h
  exact ((keepsNotices_transitionEvent htransition fun _ ↦ ⟨rfl, rfl⟩).trans
    (keepsNotices_settleUndelegated hsettle)).trans (keepsNotices_setNotificationState hstate)

theorem keepsNotices_saveFailedResult
    (h : db.saveFailedResult env eventId result resultPath now evidence = .ok (u, db')) :
    db.KeepsNotices db' := by
  simp only [saveFailedResult, bind_eq_ok] at h
  obtain ⟨_, -, event, -, h⟩ := h
  split_ifs at h
  · obtain ⟨-, rfl⟩ := Prod.mk.inj (Except.ok.inj h)
    exact .refl db
  · simp only [bind_eq_ok, Except.ok.injEq, Prod.mk.injEq] at h
    obtain ⟨db₁, hend, -, rfl⟩ := h
    exact keepsNotices_endUndelegated hend
  · simp only [bind_eq_ok, Except.ok.injEq, Prod.mk.injEq] at h
    obtain ⟨db₁, htransition, db₂, hstate, -, rfl⟩ := h
    exact (keepsNotices_transitionEvent htransition fun _ ↦ ⟨rfl, rfl⟩).trans
      (keepsNotices_setNotificationState hstate)
  · simp only [bind_eq_ok, Except.ok.injEq, Prod.mk.injEq] at h
    obtain ⟨db₁, hfail, -, rfl⟩ := h
    exact keepsNotices_failUndelivered hfail

/-! ### Decisions of an operator -/

/-- Every linked event is the notice of its completion. -/
def NoticesLinked (db : Db) : Prop :=
  ∀ key row eventId, db.completions.get? key = some row → row.notificationEventId = some eventId →
    db.IsNoticeOf eventId key

/-- An event is the notice of one completion at most. -/
theorem NoticesLinked.unique (h : db.NoticesLinked) {key key' : JobId × JobStatus}
    {row row' : CompletionResult} (hrow : db.completions.get? key = some row)
    (hrow' : db.completions.get? key' = some row') (hevent : row.notificationEventId = some eventId)
    (hevent' : row'.notificationEventId = some eventId) : key = key' ∧ row = row' := by
  obtain ⟨event, hfound, -, hid⟩ := h key row eventId hrow hevent
  obtain ⟨other, hfound', -, hid'⟩ := h key' row' eventId hrow' hevent'
  obtain rfl : event = other := Option.some.inj (hfound.symm.trans hfound')
  have hkey : key = key' := by
    rw [hid, ExternalEventId.job.injEq] at hid'
    exact Prod.ext hid'.1 hid'.2.1
  subst hkey
  exact ⟨rfl, Option.some.inj (hrow.symm.trans hrow')⟩

theorem KeepsNotices.linked (h : db.KeepsNotices db') (hlinked : db.NoticesLinked) :
    db'.NoticesLinked := by
  intro key row' eventId hrow' hevent
  cases hrow : db.completions.get? key with
  | none => exact (h.inserted key row' hrow' hrow).2 eventId hevent
  | some row =>
      obtain ⟨other, hother, hkeeps⟩ := h.completions key row hrow
      obtain rfl : other = row' := Option.some.inj (hother.symm.trans hrow')
      exact h.isNoticeOf (hlinked key row eventId hrow (hkeeps.event ▸ hevent))

/-- A retry resets the capability of a notice that nobody may have posted. -/
theorem keepsNotices_manualRetry {force : Bool} {files : String → Bool} (hlinked : db.NoticesLinked)
    (h : db.manualRetry eventId force now files = .ok (u, db')) : db.KeepsNotices db' := by
  simp only [manualRetry, bind_eq_ok, throwIf_eq_ok, Except.ok.injEq, Prod.mk.injEq] at h
  obtain ⟨event, -, _, -, _, -, _, hretryable, _, -, _, -, -, rfl⟩ := h
  refine .of_rows (Table.evolves_updateWhere fun key row hrow ↦ ?_)
    (Table.evolves_updateWhere_of_forall (fun _ ↦ .refl) fun _ _ ↦ ⟨rfl, rfl⟩) rfl
  split_ifs with hreset
  · refine ⟨rfl, .inr ⟨fun hwrite ↦ hretryable ?_, rfl⟩⟩
    have hreports : reports eventId row = true := by
      simp only [isReset, decide_eq_true_eq] at hreset
      exact hreset.1
    -- the notice that is checked is the one that is reset
    obtain ⟨entry, hfound⟩ : ∃ entry, db.completionOf eventId = some entry := by
      refine Option.ne_none_iff_exists'.1 fun hnone ↦ ?_
      have := Table.find?_eq_none_iff.1 hnone key row hrow
      rw [hreports] at this
      cases this
    obtain ⟨hentry, hreported⟩ := Table.get?_of_find? hfound
    obtain ⟨-, hsame⟩ := hlinked.unique hrow hentry (by simpa [reports] using hreports)
      (by simpa [reports] using hreported)
    simp [hfound, ← hsame, isRetryable, hwrite]
  · exact .refl row

theorem keepsNotices_manualComplete (h : db.manualComplete eventId now = .ok (u, db')) :
    db.KeepsNotices db' := by
  simp only [manualComplete, bind_eq_ok, Except.ok.injEq, Prod.mk.injEq] at h
  obtain ⟨event, -, _, -, _, -, db₁, hstate, -, rfl⟩ := h
  refine KeepsNotices.trans ?_ (keepsNotices_setNotificationState hstate)
  refine KeepsNotices.trans ?_ (keepsNotices_sealJobGroup ..)
  split_ifs
  · exact .refl db
  · exact keepsNotices_updateEvent fun _ ↦ ⟨rfl, rfl⟩

theorem keepsNotices_manualDeadLetter (h : db.manualDeadLetter eventId now = .ok (u, db')) :
    db.KeepsNotices db' := by
  simp only [manualDeadLetter, bind_eq_ok] at h
  obtain ⟨event, -, h⟩ := h
  split_ifs at h
  · obtain ⟨-, rfl⟩ := Prod.mk.inj (Except.ok.inj h)
    exact .refl db
  · simp only [bind_eq_ok, Except.ok.injEq, Prod.mk.injEq] at h
    obtain ⟨db₁, hsettle, db₂, hstate, -, rfl⟩ := h
    refine KeepsNotices.trans ?_ (keepsNotices_setNotificationState hstate)
    refine KeepsNotices.trans ?_ (keepsNotices_sealJobGroup ..)
    refine KeepsNotices.trans ?_ (keepsNotices_settleUndelegated hsettle)
    exact keepsNotices_updateEvent fun _ ↦ ⟨rfl, rfl⟩

theorem keepsNotices_claimNotificationReconciliation {resume : Bool} {token : String}
    (h : db.claimNotificationReconciliation eventId resume = .ok (token, db')) :
    db.KeepsNotices db' := by
  simp only [claimNotificationReconciliation, bind_eq_ok] at h
  obtain ⟨current, -, h⟩ := h
  split_ifs at h
  · simp only [bind_eq_ok, Except.ok.injEq, Prod.mk.injEq] at h
    obtain ⟨_, -, stored, -, -, rfl⟩ := h
    exact .refl db
  · simp only [bind_eq_ok, Except.ok.injEq, Prod.mk.injEq] at h
    obtain ⟨_, -, -, rfl⟩ := h
    have hclaimed : db.KeepsNotices { db with
        events := db.events.updateKey eventId fun event ↦
          { event with
            lastErrorCode := reconcileClaimed
            lastErrorMessage := some s!"{db.nextUuid}" } } :=
      keepsNotices_updateEvent fun _ ↦ ⟨rfl, rfl⟩
    exact hclaimed.trans (.of_eq rfl rfl rfl)

theorem keepsNotices_reconcileScheduledNotification {receipt : PostReceipt}
    {claimToken : Option String}
    (h : db.reconcileScheduledNotification eventId receipt now claimToken = .ok (u, db')) :
    db.KeepsNotices db' := by
  simp only [reconcileScheduledNotification, bind_eq_ok, Except.ok.injEq, Prod.mk.injEq] at h
  obtain ⟨_, -, completion, -, _, -, db₁, hstate, -, rfl⟩ := h
  refine KeepsNotices.trans ?_ (keepsNotices_setNotificationState hstate)
  exact keepsNotices_updateEvent fun _ ↦ ⟨rfl, rfl⟩

theorem keepsNotices_reconcileScheduledNotificationNotSent {claimToken : Option String}
    (h : db.reconcileScheduledNotificationNotSent eventId now claimToken = .ok (u, db')) :
    db.KeepsNotices db' := by
  simp only [reconcileScheduledNotificationNotSent, bind_eq_ok] at h
  obtain ⟨_, -, completion, -, db₁, hstate, h⟩ := h
  have hreconciled : db.KeepsNotices db₁ := by
    refine KeepsNotices.trans ?_ (keepsNotices_setNotificationState hstate)
    exact keepsNotices_updateEvent fun _ ↦ ⟨rfl, rfl⟩
  split at h
  · obtain ⟨-, rfl⟩ := Prod.mk.inj (Except.ok.inj h)
    exact hreconciled
  · simp only [bind_eq_ok, Prod.exists, Except.ok.injEq, Prod.mk.injEq] at h
    obtain ⟨_, db₂, hresume, -, rfl⟩ := h
    exact hreconciled.trans ((evolves_resumeAfterWorkNotification hresume).keepsNotices id)

theorem keepsNotices_markNotificationSessionNeedsReview
    (h : db.markNotificationSessionNeedsReview eventId now = .ok (u, db')) :
    db.KeepsNotices db' := by
  simp only [markNotificationSessionNeedsReview, bind_eq_ok, Except.ok.injEq,
    Prod.mk.injEq] at h
  obtain ⟨db₁, hstate, -, rfl⟩ := h
  exact keepsNotices_setNotificationState hstate

theorem keepsNotices_supersedeNotice {timestamp : Timestamp}
    (h : db.supersedeNotice eventId timestamp = .ok (u, db')) : db.KeepsNotices db' := by
  obtain ⟨-, rfl⟩ := Prod.mk.inj (Except.ok.inj h)
  refine .of_rows (Table.evolves_updateWhere_of_forall (fun _ ↦ .refl) fun _ _ ↦ ?_)
    (Table.evolves_updateWhere_of_forall (fun _ ↦ .refl) fun _ _ ↦ ⟨rfl, rfl⟩) rfl
  exact ⟨rfl, .inl ⟨rfl, rfl⟩⟩

/-! ### Events and completions -/

theorem keepsNotices_enqueue {envelope : EventEnvelope} {enqueued : EnqueueResult}
    {timestamp : Timestamp} (h : db.enqueue envelope timestamp = .ok (enqueued, db')) :
    db.KeepsNotices db' :=
  (sameScheduler_enqueue h).notices

theorem insertEventJobBinding_events {binding : JobBinding}
    (h : db.insertEventJobBinding eventId binding = .ok db') : db'.events = db.events := by
  simp only [insertEventJobBinding, bind_eq_ok] at h
  obtain ⟨_, -, h⟩ := h
  split at h
  · simp only [throwIf_bind_eq_ok, Except.ok.injEq] at h
    rw [← h.2]
  · simp only [orThrow_bind_eq_ok, Except.ok.injEq] at h
    obtain ⟨bindings, -, rfl⟩ := h
    rfl

theorem bindSlackEvent_events {event : EventRow} (h : db.bindSlackEvent eventId event = .ok db') :
    db'.events = db.events := by
  unfold bindSlackEvent at h
  split at h
  · exact insertEventJobBinding_events h
  · rw [Except.ok.inj h]

/-- The event of an envelope has its source and its identifier there. -/
theorem enqueue_event {envelope : EventEnvelope} {enqueued : EnqueueResult} {timestamp : Timestamp}
    (h : db.enqueue envelope timestamp = .ok (enqueued, db')) :
    ∃ event, db'.events.get? enqueued.eventId = some event ∧ event.source = envelope.source ∧
      event.externalEventId = envelope.externalEventId := by
  unfold enqueue at h
  split at h
  · rename_i found existing hfind
    simp only [bind_eq_ok, Except.ok.injEq, Prod.mk.injEq] at h
    obtain ⟨db₁, hbind, rfl, rfl⟩ := h
    obtain ⟨hfound, hsame⟩ := Table.get?_of_find? hfind
    exact ⟨existing, by rw [bindSlackEvent_events hbind, hfound], by simpa using hsame⟩
  · simp only [bind_eq_ok, orThrow_eq_ok, Except.ok.injEq, Prod.mk.injEq] at h
    obtain ⟨events, hinsert, db₁, hbind, rfl, rfl⟩ := h
    have hevent := (Table.get?_insert? hinsert _).trans (if_pos rfl)
    have hevents : db₁.events = events := bindSlackEvent_events hbind
    rw [← hevents] at hevent
    exact ⟨_, hevent, rfl, rfl⟩

theorem keepsNotices_reviewRun {runId : Uuid} {jobId : JobId} {job : JobRow}
    {timestamp : Timestamp} (h : db.reviewRun runId jobId job timestamp = .ok db') :
    db.KeepsNotices db' := by
  simp only [reviewRun, bind_eq_ok, Prod.exists, Except.ok.injEq] at h
  obtain ⟨_, db₁, hreview, rfl⟩ := h
  exact keepsNotices_of_strict (evolves_markWorkRunNeedsReview hreview)

theorem keepsNotices_setRunState {runId : Uuid} {expected : RunStatus} {next : RunTarget}
    {actor : Actor} {timestamp : Timestamp} {jobId : Option JobId} {resultContent : Option String}
    {notificationAt : Option Timestamp} {routed : Bool} {a : Option Unit}
    (h : db.setRunState env runId expected next actor timestamp jobId resultContent notificationAt
      routed = .ok (a, db')) : db.KeepsNotices db' := by
  rcases setRunState_spec h with hstrict | ⟨hwrite, -⟩
  · exact hstrict.keepsNotices id
  · exact hwrite.keepsNotices id

theorem keepsNotices_settleOwnerRun {owner : JobOwner} {jobId : JobId} {job : JobRow}
    {timestamp : Timestamp}
    (h : db.settleOwnerRun env owner jobId job timestamp = .ok db') : db.KeepsNotices db' := by
  unfold settleOwnerRun at h
  split at h
  · obtain rfl := Except.ok.inj h
    exact .refl db
  · cases h
  unfold settleRun at h
  extract_lets runStatus at h
  split at h
  · exact keepsNotices_reviewRun h
  split at h
  · simp only [bind_eq_ok, Prod.exists, Except.ok.injEq] at h
    obtain ⟨_, db₁, hreconcile, rfl⟩ := h
    exact keepsNotices_of_strict (evolves_reconcileWorkRun hreconcile)
  split at h
  · obtain rfl := Except.ok.inj h
    exact .refl db
  unfold endRun at h
  extract_lets next content at h
  split at h
  · rename_i db₁ hstate
    obtain rfl := Except.ok.inj h
    exact keepsNotices_setRunState hstate
  · cases h
  · split at h
    · exact keepsNotices_withState.trans (keepsNotices_reviewRun h)
    · cases h

theorem keepsNotices_insertCompletion {key : JobId × JobStatus} {row : CompletionResult}
    {completions : Table (JobId × JobStatus) CompletionResult}
    (h : db.completions.insert? key row = some completions)
    (hphase : row.notificationAuthorizationPhase = .none) (hevent : row.notificationEventId = none) :
    db.KeepsNotices { db with completions := completions } where
  completions key' row' hrow' := by
    refine ⟨row', ?_, .refl row'⟩
    rw [Table.get?_insert? h, if_neg, hrow']
    rintro rfl
    rw [Table.get?_eq_none_of_insert? h] at hrow'
    cases hrow'
  inserted key' row' hrow' hnone := by
    rw [Table.get?_insert? h] at hrow'
    split_ifs at hrow'
    · obtain rfl := Option.some.inj hrow'
      exact ⟨hphase, fun eventId hsome ↦ by simp [hevent] at hsome⟩
    · rw [hnone] at hrow'
      cases hrow'
  events _ event hevent := ⟨event, hevent, .refl event⟩
  nonces := rfl

/-- A completion that is new is linked with its notice. -/
theorem keepsNotices_linkNotice {jobId : JobId} {job : JobRow} {notice : JobNotice}
    (h : db.KeepsNotices db') (hnew : db.completions.get? (jobId, job.status) = none)
    (hnotice : db'.IsNoticeOf eventId (jobId, job.status)) :
    db.KeepsNotices (db'.linkNotice env jobId job notice eventId now) where
  completions key row hrow := by
    obtain ⟨row', hrow', hkeeps⟩ := h.completions key row hrow
    refine ⟨row', ?_, hkeeps⟩
    have hne : key ≠ (jobId, job.status) := by
      rintro rfl
      rw [hnew] at hrow
      cases hrow
    simp only [linkNotice, Table.get?_updateKey, if_neg hne, hrow']
  inserted key row' hrow' hnone := by
    simp only [linkNotice, Table.get?_updateKey] at hrow'
    split_ifs at hrow' with hkey
    · subst hkey
      obtain ⟨row, hrow, rfl⟩ := Option.map_eq_some_iff.1 hrow'
      refine ⟨(h.inserted _ row hrow hnone).1, fun other hother ↦ ?_⟩
      obtain rfl : eventId = other := Option.some.inj hother
      exact hnotice
    · exact h.inserted key row' hrow' hnone
  events := h.events
  nonces := h.nonces

/-- A completion is new; its notice is the event that is enqueued for it. -/
theorem keepsNotices_materializeJobCompletion {jobId : JobId}
    (h : db.materializeJobCompletion env jobId now = .ok (u, db')) : db.KeepsNotices db' := by
  simp only [materializeJobCompletion, bind_eq_ok] at h
  obtain ⟨job, -, _, -, _, -, h⟩ := h
  split at h
  · simp only [bind_eq_ok, Except.ok.injEq, Prod.mk.injEq] at h
    obtain ⟨_, -, -, rfl⟩ := h
    exact .refl db
  simp only [bind_eq_ok] at h
  obtain ⟨_, -, binding, -, h⟩ := h
  split at h
  · obtain ⟨-, rfl⟩ := Prod.mk.inj (Except.ok.inj h)
    exact .refl db
  rename_i completions hinsert
  simp only [bind_eq_ok] at h
  obtain ⟨db₁, hsettle, h⟩ := h
  have hsettled : db.KeepsNotices db₁ :=
    (keepsNotices_insertCompletion hinsert rfl rfl).trans (keepsNotices_settleOwnerRun hsettle)
  split at h
  · obtain ⟨-, rfl⟩ := Prod.mk.inj (Except.ok.inj h)
    exact hsettled
  simp only [notifyCompletion, bind_eq_ok, Prod.exists, Except.ok.injEq, Prod.mk.injEq] at h
  obtain ⟨notice, -, enqueued, db₂, henqueue, _, -, -, rfl⟩ := h
  exact keepsNotices_linkNotice (hsettled.trans (keepsNotices_enqueue henqueue))
    (Table.get?_eq_none_of_insert? hinsert) (enqueue_event henqueue)

/-- The operations of the scheduler keep the notices; a purge deletes old nonces besides. -/
theorem keepsNotices_schedulerOp {op : SchedulerOp} (hpurge : ∀ timestamp, op ≠ .purge timestamp)
    (hwrite : ∀ write, op ≠ .dispatcher write) : db.KeepsNotices (op.next env db) := by
  by_cases hroutine : op.isRoutine = true
  · refine (SchedulerOp.next_evolves hroutine).keepsNotices ?_
    cases op <;> first | exact id | exact absurd rfl (hwrite _)
  cases op with
  | create scheduleId input nextDue actor now =>
      refine commit_induction (.refl db) fun row db' h ↦ ?_
      obtain ⟨-, -, -, -, -, -, -, hnotices⟩ := create_spec h
      exact hnotices
  | update scheduleId expectedRevision input nextDue actor now =>
      refine commit_induction (.refl db) fun u db' h ↦ ?_
      obtain ⟨before, db₁, updateAt, -, -, -, hevolves, rfl⟩ := update_spec h
      exact (hevolves.keepsNotices id).trans (.of_eq rfl rfl rfl)
  | materialize =>
      refine commit_induction (.refl db) fun result db' h ↦ ?_
      rcases materialize_spec h with ⟨-, hevolves⟩ | ⟨recorded, before, run, db₁, -, -, hoccurs, hevolves⟩
      · exact hevolves.keepsNotices id
      · exact hoccurs.notices.trans (hevolves.keepsNotices id)
  | purge timestamp => exact absurd rfl (hpurge timestamp)
  | _ => exact absurd rfl hroutine

end Db

end Dona
