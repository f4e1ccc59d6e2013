import Dona.Dispatcher.NoticeFrames

/-!
# Nothing but the worker and an operator takes an event up

Every operation of the dispatcher, except the start of a dispatch, a failed attempt and the
retry of an operator, lets the events end or leaves them where they are; an event that is being
dispatched may be found accepted. The runs keep their schedules meanwhile.
-/

namespace Dona

open Fallible

/-- The worker may take the event up. -/
def EventStatus.isDispatchable (status : EventStatus) : Bool :=
  [EventStatus.queued, .retryableFailed].contains status

/-- Nobody takes the event up but an operator. -/
def EventStatus.isAtRest (status : EventStatus) : Bool :=
  [EventStatus.completed, .blocked, .needsReview, .deadLetter].contains status

theorem EventStatus.not_dispatchable_of_atRest {status : EventStatus} (h : status.isAtRest = true) :
    status.isDispatchable = false := by
  cases status <;> first | rfl | contradiction

theorem EventStatus.not_agentOwned_of_atRest {status : EventStatus} (h : status.isAtRest = true) :
    status.isAgentOwned = false := by
  cases status <;> first | rfl | contradiction

theorem EventStatus.not_dispatchable_of_agentOwned {status : EventStatus}
    (h : status.isAgentOwned = true) : status.isDispatchable = false := by
  cases status <;> first | rfl | contradiction

/-- The event stays, comes to rest, or is found accepted. -/
def EventRow.Settles (event event' : EventRow) : Prop :=
  event'.status = event.status ∨ event'.status.isAtRest = true ∨
    (event.status = .dispatching ∧ event'.status = .waitingAgent)

namespace EventRow.Settles

variable {event event' event'' : EventRow}

theorem refl (event : EventRow) : event.Settles event := Or.inl rfl

theorem trans (h : event.Settles event') (h' : event'.Settles event'') : event.Settles event'' := by
  rcases h' with hsame | hrest | ⟨hdispatching, hwaiting⟩
  · unfold EventRow.Settles
    rw [hsame]
    exact h
  · exact Or.inr (Or.inl hrest)
  · rcases h with hsame | hrest | ⟨-, hwaiting'⟩
    · exact Or.inr (Or.inr ⟨hsame.symm.trans hdispatching, hwaiting⟩)
    · rw [hdispatching] at hrest
      contradiction
    · rw [hwaiting'] at hdispatching
      contradiction

theorem not_dispatchable (h : event.Settles event') (hevent : event.status.isDispatchable = false) :
    event'.status.isDispatchable = false := by
  rcases h with hsame | hrest | ⟨-, hwaiting⟩
  · rw [hsame]
    exact hevent
  · exact EventStatus.not_dispatchable_of_atRest hrest
  · rw [hwaiting]
    rfl

theorem status_eq (h : event.Settles event') (hevent' : event'.status.isDispatchable = true) :
    event'.status = event.status := by
  rcases h with hsame | hrest | ⟨-, hwaiting⟩
  · exact hsame
  · rw [EventStatus.not_dispatchable_of_atRest hrest] at hevent'
    contradiction
  · rw [hwaiting] at hevent'
    contradiction

theorem not_agentOwned (h : event.Settles event') (hevent : event.status.isAgentOwned = false) :
    event'.status.isAgentOwned = false := by
  rcases h with hsame | hrest | ⟨hdispatching, -⟩
  · rw [hsame]
    exact hevent
  · exact EventStatus.not_agentOwned_of_atRest hrest
  · rw [hdispatching] at hevent
    contradiction

theorem ne_dispatching (h : event.Settles event') (hevent : event.status ≠ .dispatching) :
    event'.status ≠ .dispatching := by
  rcases h with hsame | hrest | ⟨hdispatching, -⟩
  · rw [hsame]
    exact hevent
  · rintro hdispatching
    rw [hdispatching] at hrest
    contradiction
  · exact absurd hdispatching hevent

theorem agentOwned (h : event.Settles event') (hevent' : event'.status.isAgentOwned = true) :
    event.status.isAgentOwned = true := by
  by_contra hevent
  have hfree := h.not_agentOwned (eq_false_of_ne_true hevent)
  rw [hevent'] at hfree
  contradiction

theorem dispatching (h : event.Settles event') (hevent' : event'.status = .dispatching) :
    event.status = .dispatching := by
  by_contra hevent
  exact h.ne_dispatching hevent hevent'

end EventRow.Settles

namespace Db

variable {db db' : Db} {now : Int} {eventId : EventId} {u : Unit}

/-- Every run belongs to a schedule: the foreign key of `schedule_runs`. -/
def RunsScheduled (db : Db) : Prop :=
  ∀ runId run, db.runs.get? runId = some run → ∃ schedule,
    db.schedules.get? run.scheduleId = some schedule

structure Settles (db db' : Db) : Prop where
  events : db.events.Evolves (fun _ ↦ EventRow.Settles) db'.events
  runs : db.RunsScheduled → db'.RunsScheduled

namespace Settles

variable {db'' : Db}

theorem of_events (hevents : db.events.Evolves (fun _ ↦ EventRow.Settles) db'.events)
    (hruns : db'.runs = db.runs) (hschedules : db'.schedules = db.schedules) : db.Settles db' where
  events := hevents
  runs h := by
    intro runId run hrun
    rw [hruns] at hrun
    rw [hschedules]
    exact h runId run hrun

theorem of_evolves {scope : Scope} (h : db.Evolves scope db')
    (hevents : db.events.Evolves (fun _ ↦ EventRow.Settles) db'.events) : db.Settles db' where
  events := hevents
  runs hscheduled runId run hrun := by
    obtain ⟨run₀, hrun₀, hkeeps⟩ := h.runs.exists_old hrun
    obtain ⟨schedule, hschedule⟩ := hscheduled runId run₀ hrun₀
    obtain ⟨schedule', hschedule', -⟩ := h.schedules.exists_new hschedule
    rw [hkeeps.scheduleId]
    exact ⟨schedule', hschedule'⟩

theorem of_strict (h : db.Evolves .strict db')
    (hevents : db.events.Evolves (fun _ ↦ EventRow.Settles) db'.events) : db.Settles db' :=
  of_evolves h hevents

theorem events_refl (db : Db) : db.events.Evolves (fun _ ↦ EventRow.Settles) db.events :=
  .refl (fun _ ↦ EventRow.Settles.refl) _

theorem of_eq (hevents : db'.events = db.events) (hruns : db'.runs = db.runs)
    (hschedules : db'.schedules = db.schedules) : db.Settles db' :=
  of_events (by rw [hevents]; exact events_refl db) hruns hschedules

theorem refl (db : Db) : db.Settles db := of_eq rfl rfl rfl

theorem trans (h : db.Settles db') (h' : db'.Settles db'') : db.Settles db'' where
  events := h.events.trans EventRow.Settles.trans h'.events
  runs := h'.runs ∘ h.runs

end Settles

theorem settles_foldlM {α : Type} {f : Db → α → Except String Db}
    (hf : ∀ {db a db'}, f db a = .ok db' → db.Settles db') {as : List α}
    (h : as.foldlM f db = .ok db') : db.Settles db' :=
  foldlM_relates (R := Settles) .refl .trans hf h

/-- A statement that brings events to rest. -/
theorem settles_updateEvents {p : EventId → EventRow → Bool} {f : EventRow → EventRow}
    (h : ∀ event : EventRow, event.Settles (f event)) :
    db.Settles { db with events := db.events.updateWhere p f } :=
  .of_events (Table.evolves_updateWhere_of_forall (fun _ ↦ .refl) fun _ event ↦ h event) rfl rfl

theorem settles_updateEvent {f : EventRow → EventRow}
    (h : ∀ event : EventRow, event.Settles (f event)) :
    db.Settles { db with events := db.events.updateKey eventId f } :=
  settles_updateEvents h

theorem completeEvent_settles (timestamp : Timestamp) (code : String) (event : EventRow) :
    event.Settles (completeEvent timestamp code event) := Or.inr (Or.inl rfl)

/-! ### The scheduler -/

theorem settles_suppressEvents (db : Db) (scheduleId : ScheduleId) (timestamp : Timestamp) :
    db.Settles (db.suppressEvents scheduleId timestamp) :=
  settles_updateEvents (completeEvent_settles timestamp _)

theorem settles_suppressNotifications (db : Db) (scheduleId : ScheduleId) (timestamp : Timestamp) :
    db.Settles (db.suppressNotifications scheduleId timestamp) :=
  (settles_updateEvents (completeEvent_settles timestamp _)).trans (.of_eq rfl rfl rfl)

theorem settles_updateEventsOfNotices {p : CompletionResult → Bool} {q : EventStatus → Bool}
    {f : EventRow → EventRow} (h : ∀ event : EventRow, event.Settles (f event)) :
    db.Settles (db.updateEventsOfNotices p q f) := settles_updateEvents h

theorem settles_closeNotices (db : Db) (scheduleId : ScheduleId) (timestamp : Timestamp) :
    db.Settles (db.closeNotices scheduleId timestamp) := by
  have hstate : ∀ {db : Db} {p q state}, db.Settles (db.updateNotices p q state) :=
    .of_eq rfl rfl rfl
  have hclosed : ∀ {db : Db} {p q}, db.Settles (db.updateEventsOfNotices p q
      (completeEvent timestamp "schedule_notification_suppressed")) :=
    settles_updateEventsOfNotices (completeEvent_settles timestamp _)
  have hreview : ∀ {db : Db} {p q}, db.Settles (db.updateEventsOfNotices p q fun event ↦
      { event with
        status := .needsReview
        updatedAt := timestamp
        lastErrorCode := some "notification_delivery_ambiguous"
        lastErrorMessage := none }) :=
    settles_updateEventsOfNotices fun _ ↦ Or.inr (Or.inl rfl)
  exact ((hclosed.trans hstate).trans hreview).trans hstate

theorem settles_completeIfDrained (db : Db) (scheduleId : ScheduleId) (timestamp : Timestamp) :
    db.Settles (db.completeIfDrained scheduleId timestamp) :=
  Settles.of_strict evolves_completeIfDrained
    (by rw [events_completeIfDrained]; exact Settles.events_refl db)

theorem events_suppress (scheduleId : ScheduleId) (timestamp : Timestamp) (reason : RunReason) :
    db.events.Evolves (fun _ ↦ EventRow.Settles)
      (db.suppress scheduleId timestamp reason).events := by
  unfold suppress
  extract_lets unsent capped suppressed closed
  have hsuppressed : suppressed.events = db.events := by
    simp only [suppressed, capped, unsent, suppressRuns, capExpiringContent, updateOutbox]
    split_ifs <;> rfl
  have hclosed : suppressed.Settles closed := settles_suppressEvents ..
  have hevents := (hclosed.trans (settles_suppressNotifications closed scheduleId timestamp)).events
  rwa [hsuppressed] at hevents

theorem events_expireSchedule (scheduleId : ScheduleId) (before : Schedule)
    (timestamp : Timestamp) :
    db.events.Evolves (fun _ ↦ EventRow.Settles)
      (db.expireSchedule scheduleId before timestamp).events := by
  unfold expireSchedule
  extract_lets expiredAt suppressed expired retired
  rw [events_completeIfDrained]
  exact events_suppress scheduleId expiredAt .authorizationExpired

theorem events_activateReviewed (scheduleId : ScheduleId) (before : Schedule)
    (timestamp : Timestamp) :
    (db.activateReviewed scheduleId before timestamp).events = db.events := by
  unfold activateReviewed
  split_ifs <;> rfl

theorem settles_markWorkNotificationNeedsReview {runId : Uuid} {timestamp : Timestamp}
    (h : db.markWorkNotificationNeedsReview runId timestamp = .ok (u, db')) : db.Settles db' := by
  refine Settles.of_strict (evolves_markWorkNotificationNeedsReview h) ?_
  unfold markWorkNotificationNeedsReview at h
  split at h
  · obtain ⟨-, rfl⟩ := Prod.mk.inj (Except.ok.inj h)
    exact Settles.events_refl db
  · simp only [orThrow_bind_eq_ok] at h
    obtain ⟨schedule, -, h⟩ := h
    split_ifs at h <;> obtain ⟨-, rfl⟩ := Prod.mk.inj (Except.ok.inj h)
    · exact Settles.events_refl db
    · exact Settles.events_refl db

theorem settles_resumeAfterWorkNotification {runId : Uuid} {timestamp : Timestamp}
    (h : db.resumeAfterWorkNotification runId timestamp = .ok (u, db')) : db.Settles db' := by
  refine .of_evolves (evolves_resumeAfterWorkNotification h) ?_
  simp only [resumeAfterWorkNotification, bind_eq_ok] at h
  obtain ⟨_, -, h⟩ := h
  split at h
  · obtain ⟨-, rfl⟩ := Prod.mk.inj (Except.ok.inj h)
    exact Settles.events_refl db
  split at h
  · split_ifs at h
    · obtain ⟨-, rfl⟩ := Prod.mk.inj (Except.ok.inj h)
      exact Settles.events_refl db
    · obtain ⟨-, rfl⟩ := Prod.mk.inj (Except.ok.inj h)
      exact events_expireSchedule _ _ _
    · obtain ⟨-, rfl⟩ := Prod.mk.inj (Except.ok.inj h)
      rw [events_completeIfDrained, events_activateReviewed]
      exact Settles.events_refl db
    · obtain ⟨-, rfl⟩ := Prod.mk.inj (Except.ok.inj h)
      rw [events_completeIfDrained]
      exact Settles.events_refl db
  · obtain ⟨-, rfl⟩ := Prod.mk.inj (Except.ok.inj h)
    exact Settles.events_refl db

theorem settles_settleUndelegatedWorkEvent {outcome : UndelegatedOutcome} {timestamp : Timestamp}
    (h : db.settleUndelegatedWorkEvent eventId outcome timestamp = .ok (u, db')) :
    db.Settles db' := by
  refine .of_evolves (evolves_settleUndelegatedWorkEvent h) ?_
  simp only [settleUndelegatedWorkEvent, bind_eq_ok] at h
  obtain ⟨_, -, _, -, h⟩ := h
  split at h
  · obtain ⟨-, rfl⟩ := Prod.mk.inj (Except.ok.inj h)
    exact Settles.events_refl db
  rename_i runId run hfind
  by_cases hover : run.status ≠ .materialized ∨ run.jobId ≠ none
  · rw [if_pos hover] at h
    obtain ⟨-, rfl⟩ := Prod.mk.inj (Except.ok.inj h)
    exact Settles.events_refl db
  · rw [if_neg hover] at h
    simp only [orThrow_bind_eq_ok] at h
    obtain ⟨before, -, h⟩ := h
    obtain ⟨-, rfl⟩ := Prod.mk.inj (Except.ok.inj h)
    rw [events_completeIfDrained]
    cases outcome <;> exact Settles.events_refl db

/-! ### Groups, transitions and notices -/

theorem settles_sealJobGroup (db : Db) (eventId : EventId) (timestamp : Timestamp) :
    db.Settles (db.sealJobGroupIfPresent eventId timestamp) := .of_eq rfl rfl rfl

theorem settles_handoffResolvedAttention
    (h : db.handoffResolvedAttention eventId now = .ok db') : db.Settles db' := by
  simp only [handoffResolvedAttention, bind_eq_ok] at h
  obtain ⟨attention, -, h⟩ := h
  split at h
  · split at h
    · split_ifs at h <;> obtain rfl := Except.ok.inj h
      · exact .of_eq rfl rfl rfl
      · exact .refl db
    · obtain rfl := Except.ok.inj h
      exact .refl db
  · obtain rfl := Except.ok.inj h
    exact .refl db

theorem transitionEvent_spec {source : List EventStatus} {target : EventStatus}
    {values : EventRow → EventRow}
    (h : db.transitionEvent eventId source target values now = .ok db') :
    ∃ current, db.events.get? eventId = some current ∧ source.contains current.status = true ∧
      (target.isAtRest = true ∨ (current.status = .dispatching ∧ target = .waitingAgent) →
        db.Settles db') := by
  simp only [transitionEvent, getRequired, orThrow_bind_eq_ok, throwIf_bind_eq_ok,
    Except.ok.injEq] at h
  obtain ⟨current, hcurrent, hsource, rfl⟩ := h
  refine ⟨current, hcurrent, by simpa using hsource, fun htarget ↦ ?_⟩
  have hupdate : db.Settles { db with
      events := db.events.updateKey eventId fun event ↦
        { values event with status := target, updatedAt := .toIso now } } := by
    refine .of_events (Table.evolves_updateKey (fun _ ↦ .refl) fun event hevent ↦ ?_) rfl rfl
    obtain rfl : current = event := Option.some.inj (hcurrent.symm.trans hevent)
    exact Or.inr htarget
  split_ifs
  · exact hupdate.trans (settles_sealJobGroup ..)
  · exact hupdate

theorem get?_transitionEvent {source : List EventStatus} {target : EventStatus}
    {values : EventRow → EventRow}
    (h : db.transitionEvent eventId source target values now = .ok db') :
    ∃ event, db'.events.get? eventId = some event ∧ event.status = target := by
  simp only [transitionEvent, getRequired, orThrow_bind_eq_ok, throwIf_bind_eq_ok,
    Except.ok.injEq] at h
  obtain ⟨current, hcurrent, -, rfl⟩ := h
  refine ⟨{ values current with status := target, updatedAt := .toIso now }, ?_, rfl⟩
  have hupdated : (db.events.updateKey eventId fun event ↦
      { values event with status := target, updatedAt := .toIso now }).get? eventId =
        some { values current with status := target, updatedAt := .toIso now } := by
    rw [Table.get?_updateKey, if_pos rfl, hcurrent]
    rfl
  split_ifs <;> exact hupdated

theorem settles_transitionEvent {source : List EventStatus} {target : EventStatus}
    {values : EventRow → EventRow}
    (h : db.transitionEvent eventId source target values now = .ok db')
    (htarget : target.isAtRest = true) : db.Settles db' := by
  obtain ⟨current, -, -, hsettles⟩ := transitionEvent_spec h
  exact hsettles (Or.inl htarget)

theorem settles_markWaiting (h : db.markWaiting eventId now = .ok db') : db.Settles db' := by
  obtain ⟨current, -, hsource, hsettles⟩ := transitionEvent_spec h
  have hdispatching : current.status = .dispatching := by simpa using hsource
  exact hsettles (Or.inr ⟨hdispatching, rfl⟩)

theorem settles_markForReview {row : NoticeRun} (h : db.markForReview now row = .ok db') :
    db.Settles db' := by
  simp only [markForReview, bind_eq_ok, Prod.exists, Except.ok.injEq] at h
  obtain ⟨u, db₁, hmark, rfl⟩ := h
  exact settles_markWorkNotificationNeedsReview hmark

theorem settles_settleNotice {row : NoticeRun} (h : db.settleNotice now row = .ok db') :
    db.Settles db' := by
  simp only [settleNotice, bind_eq_ok, Prod.exists, Except.ok.injEq] at h
  obtain ⟨u, db₁, hsettle, rfl⟩ := h
  exact settles_resumeAfterWorkNotification hsettle

theorem settles_setNotificationState {state : NotificationState}
    {expectedStates : Option (List NotificationState)}
    (h : db.setNotificationState eventId state now expectedStates = .ok db') : db.Settles db' := by
  simp only [setNotificationState, bind_eq_ok, throwIf_eq_ok] at h
  obtain ⟨db₁, hreview, _, -, hsettle⟩ := h
  have hmarked : db.Settles db₁ := by
    split_ifs at hreview
    · exact settles_foldlM settles_markForReview hreview
    · obtain rfl := Except.ok.inj hreview
      exact .refl db
  have hstate : ∀ completions, db₁.Settles { db₁ with completions := completions } :=
    fun _ ↦ .of_eq rfl rfl rfl
  split_ifs at hsettle
  · exact (hmarked.trans (hstate _)).trans (settles_foldlM settles_settleNotice hsettle)
  · obtain rfl := Except.ok.inj hsettle
    exact hmarked.trans (hstate _)

theorem settles_settleUndelegated {outcome : UndelegatedOutcome}
    (h : db.settleUndelegated eventId outcome now = .ok db') : db.Settles db' := by
  simp only [settleUndelegated, bind_eq_ok, Prod.exists, Except.ok.injEq] at h
  obtain ⟨u, db₁, hsettle, rfl⟩ := h
  exact settles_settleUndelegatedWorkEvent hsettle

/-! ### Suppression and authorization -/

theorem settles_updateOpenEvent {f : EventRow → EventRow}
    (h : ∀ event : EventRow, event.Settles (f event)) :
    db.Settles (db.updateOpenEvent eventId f) := settles_updateEvents h

theorem settles_suppressUnauthorizedRow {row : Unauthorized}
    (h : suppressUnauthorized now db row = .ok db') : db.Settles db' := by
  unfold suppressUnauthorized at h
  split_ifs at h
  · have hreview : db.Settles (db.updateOpenEvent row.eventId fun event ↦
        { event with
          status := .needsReview
          updatedAt := .toIso now
          lastErrorCode := some "notification_delivery_ambiguous"
          lastErrorMessage := none }) :=
      settles_updateOpenEvent fun _ ↦ Or.inr (Or.inl rfl)
    exact hreview.trans (settles_setNotificationState h)
  · simp only [bind_eq_ok, Except.ok.injEq] at h
    obtain ⟨db₁, hstate, rfl⟩ := h
    have hclosed : db.Settles (db.updateOpenEvent row.eventId
        (completeEvent (.toIso now) "schedule_notification_suppressed")) :=
      settles_updateOpenEvent (completeEvent_settles _ _)
    exact (hclosed.trans (settles_setNotificationState hstate)).trans
      (settles_completeIfDrained db₁ _ _)

theorem settles_suppressUnauthorized
    (h : suppressUnauthorizedScheduledNotifications now db = .ok (u, db')) : db.Settles db' := by
  simp only [suppressUnauthorizedScheduledNotifications, bind_eq_ok, Except.ok.injEq,
    Prod.mk.injEq] at h
  obtain ⟨db₁, hfold, -, rfl⟩ := h
  exact settles_foldlM settles_suppressUnauthorizedRow hfold

/-- What follows a suppression may change more; the suppression itself settles. -/
theorem afterSuppression_spec {α : Type} {body : Db → Except String (α × Db)} {P : Db → Prop}
    (hkept : ∀ db₁, db.Settles db₁ → P db₁)
    (hbody : ∀ db₁ a db₂, db.Settles db₁ → body db₁ = .ok (a, db₂) → P db₂) :
    P (afterSuppression now body db).2 := by
  unfold afterSuppression
  split
  · exact hkept db (.refl db)
  · rename_i db₁ hsuppress
    have hsuppressed := settles_suppressUnauthorized hsuppress
    unfold transaction
    split
    · rename_i a db₂ hdb₂
      exact hbody db₁ a db₂ hsuppressed hdb₂
    · exact hkept db₁ hsuppressed

theorem settles_consumeNonce {nonce error : String}
    (h : db.consumeNonce nonce eventId now error = .ok db') : db.Settles db' := by
  simp only [consumeNonce, orThrow_bind_eq_ok, Except.ok.injEq] at h
  obtain ⟨nonces, -, rfl⟩ := h
  exact .of_eq rfl rfl rfl

theorem settles_markWaiting_ite {c : Prop} [Decidable c]
    (h : (if c then db.markWaiting eventId now else .ok db) = .ok db') : db.Settles db' := by
  split_ifs at h
  · exact settles_markWaiting h
  · obtain rfl := Except.ok.inj h
    exact .refl db

theorem settles_authorizeNotice {receipt : Option AccessReceipt} {phase : AuthorizationPhase}
    (h : db.authorizeNotice eventId now receipt = .ok (phase, db')) : db.Settles db' := by
  simp only [authorizeNotice, bind_eq_ok, Prod.exists, Except.ok.injEq, Prod.mk.injEq] at h
  obtain ⟨event, -, _, -, jobId, jobStatus, completion, -, db₁, hreceipt, db₂, hwaiting, -,
    rfl⟩ := h
  have hchecked : db.Settles db₁ := by
    unfold checkReceipt at hreceipt
    split_ifs at hreceipt
    · simp only [throwIf_bind_eq_ok, Except.ok.injEq] at hreceipt
      obtain ⟨-, rfl⟩ := hreceipt
      exact .refl db
    · simp only [orThrow_bind_eq_ok, throwIf_bind_eq_ok] at hreceipt
      obtain ⟨receipt, -, -, -, hconsume⟩ := hreceipt
      exact settles_consumeNonce hconsume
  exact (hchecked.trans (settles_markWaiting_ite hwaiting)).trans (.of_eq rfl rfl rfl)

theorem settles_authorizeJobNotification (db : Db) (eventId : EventId) (now : Int)
    (receipt : Option AccessReceipt) :
    db.Settles (db.authorizeJobNotification eventId now receipt).2 :=
  afterSuppression_spec (fun _ h ↦ h) fun _ _ _ h hbody ↦ h.trans (settles_authorizeNotice hbody)

theorem settles_recordScheduleJobAccess {receipt : AccessReceipt}
    (h : db.recordScheduleJobAccess eventId receipt now = .ok (u, db')) : db.Settles db' := by
  simp only [recordScheduleJobAccess, bind_eq_ok, throwIf_eq_ok, Except.ok.injEq,
    Prod.mk.injEq] at h
  obtain ⟨event, -, _, -, db₁, hwaiting, db₂, hconsume, _, -, -, rfl⟩ := h
  refine ((settles_markWaiting_ite hwaiting).trans (settles_consumeNonce hconsume)).trans ?_
  exact settles_updateEvent fun _ ↦ Or.inl rfl

/-! ### The worker -/

theorem settles_markBlocked {message : String} {source : List EventStatus}
    (h : db.markBlocked eventId message source now = .ok (u, db')) : db.Settles db' := by
  simp only [markBlocked, bind_eq_ok, Except.ok.injEq, Prod.mk.injEq] at h
  obtain ⟨event, -, db₁, htransition, db₂, hsettle, db₃, hstate, -, rfl⟩ := h
  have hblocked : db.Settles db₁ := by
    refine settles_transitionEvent htransition ?_
    split_ifs <;> rfl
  exact (hblocked.trans (settles_settleUndelegated hsettle)).trans
    (settles_setNotificationState hstate)

theorem settles_markNeedsReview {code message : String}
    (h : db.markNeedsReview eventId code message now = .ok (u, db')) : db.Settles db' := by
  simp only [markNeedsReview, bind_eq_ok, Except.ok.injEq, Prod.mk.injEq] at h
  obtain ⟨db₁, htransition, db₂, hsettle, db₃, hstate, -, rfl⟩ := h
  exact ((settles_transitionEvent htransition rfl).trans
    (settles_settleUndelegated hsettle)).trans (settles_setNotificationState hstate)

theorem settles_recordWaitingError {code message : String}
    (h : db.recordWaitingError eventId code message now = .ok (u, db')) : db.Settles db' := by
  obtain ⟨-, rfl⟩ := Prod.mk.inj (Except.ok.inj h)
  exact settles_updateEvents fun _ ↦ Or.inl rfl

theorem settles_settleDeadLetter (h : db.settleDeadLetter eventId now = .ok db') :
    db.Settles db' := by
  simp only [settleDeadLetter, bind_eq_ok] at h
  obtain ⟨db₁, hsettle, hstate⟩ := h
  exact ((settles_sealJobGroup ..).trans (settles_settleUndelegated hsettle)).trans
    (settles_setNotificationState hstate)

theorem settles_foldl {α : Type} {f : Db → α → Db} (h : ∀ (db : Db) a, db.Settles (f db a))
    (as : List α) : db.Settles (as.foldl f db) := by
  induction as generalizing db with
  | nil => exact .refl db
  | cons a as ih => exact (h db a).trans ih

theorem settles_endUndelegated {event : EventRow} {result : ResultEnvelope} {resultPath : String}
    (h : db.endUndelegated eventId event result resultPath now = .ok db') : db.Settles db' := by
  simp only [endUndelegated, bind_eq_ok] at h
  obtain ⟨db₁, htransition, hsettle⟩ := h
  refine Settles.trans (settles_transitionEvent htransition ?_) (settles_settleUndelegated hsettle)
  split_ifs <;> rfl

theorem settles_saveCompleted {env : Env} {result : ResultEnvelope} {resultPath : String}
    {evidence : Option JobNotificationEvidence}
    (h : db.saveCompleted env eventId result resultPath now evidence = .ok (u, db')) :
    db.Settles db' := by
  simp only [saveCompleted, bind_eq_ok] at h
  obtain ⟨_, -, event, -, h⟩ := h
  split at h
  · obtain ⟨-, rfl⟩ := Prod.mk.inj (Except.ok.inj h)
    exact .refl db
  split at h
  · simp only [bind_eq_ok, Except.ok.injEq, Prod.mk.injEq] at h
    obtain ⟨db₁, hend, -, rfl⟩ := h
    exact settles_endUndelegated hend
  simp only [bind_eq_ok, Except.ok.injEq, Prod.mk.injEq] at h
  obtain ⟨db₁, htransition, db₂, hstate, db₃, hhandoff, -, rfl⟩ := h
  have hended : db.Settles db₁ := settles_transitionEvent htransition rfl
  have hnotified : db₁.Settles db₂ := by
    split at hstate
    · exact settles_setNotificationState hstate
    · obtain rfl := Except.ok.inj hstate
      exact .refl _
  have hhanded : db₂.Settles db₃ := by
    split at hhandoff
    · exact settles_handoffResolvedAttention hhandoff
    · obtain rfl := Except.ok.inj hhandoff
      exact .refl _
  exact (hended.trans hnotified).trans hhanded

theorem settles_saveFailedResult {env : Env} {result : ResultEnvelope} {resultPath : String}
    {evidence : Option JobNotificationEvidence}
    (h : db.saveFailedResult env eventId result resultPath now evidence = .ok (u, db')) :
    db.Settles db' := by
  simp only [saveFailedResult, bind_eq_ok] at h
  obtain ⟨_, -, event, -, h⟩ := h
  split_ifs at h
  · obtain ⟨-, rfl⟩ := Prod.mk.inj (Except.ok.inj h)
    exact .refl db
  · simp only [bind_eq_ok, Except.ok.injEq, Prod.mk.injEq] at h
    obtain ⟨db₁, hend, -, rfl⟩ := h
    exact settles_endUndelegated hend
  · simp only [bind_eq_ok, Except.ok.injEq, Prod.mk.injEq] at h
    obtain ⟨db₁, htransition, db₂, hstate, -, rfl⟩ := h
    exact (settles_transitionEvent htransition rfl).trans (settles_setNotificationState hstate)
  · simp only [failUndelivered, bind_eq_ok, Except.ok.injEq, Prod.mk.injEq] at h
    obtain ⟨db₁, ⟨db₂, htransition, db₃, hsettle, hstate⟩, -, rfl⟩ := h
    refine Settles.trans ?_ (settles_setNotificationState hstate)
    refine Settles.trans ?_ (settles_settleUndelegated hsettle)
    refine settles_transitionEvent htransition ?_
    split_ifs <;> rfl

/-! ### Decisions of an operator -/

theorem settles_manualComplete (h : db.manualComplete eventId now = .ok (u, db')) :
    db.Settles db' := by
  simp only [manualComplete, bind_eq_ok, Except.ok.injEq, Prod.mk.injEq] at h
  obtain ⟨event, -, _, -, _, -, db₁, hstate, -, rfl⟩ := h
  refine Settles.trans ?_ (settles_setNotificationState hstate)
  refine Settles.trans ?_ (settles_sealJobGroup ..)
  split_ifs
  · exact .refl db
  · exact settles_updateEvent fun _ ↦ Or.inr (Or.inl rfl)

theorem settles_manualDeadLetter (h : db.manualDeadLetter eventId now = .ok (u, db')) :
    db.Settles db' := by
  simp only [manualDeadLetter, bind_eq_ok] at h
  obtain ⟨event, -, h⟩ := h
  split_ifs at h
  · obtain ⟨-, rfl⟩ := Prod.mk.inj (Except.ok.inj h)
    exact .refl db
  · simp only [bind_eq_ok, Except.ok.injEq, Prod.mk.injEq] at h
    obtain ⟨db₁, hsettle, db₂, hstate, -, rfl⟩ := h
    refine Settles.trans ?_ (settles_setNotificationState hstate)
    refine Settles.trans ?_ (settles_sealJobGroup ..)
    refine Settles.trans ?_ (settles_settleUndelegated hsettle)
    exact settles_updateEvent fun _ ↦ Or.inr (Or.inl rfl)

theorem settles_claimNotificationReconciliation {resume : Bool} {token : String}
    (h : db.claimNotificationReconciliation eventId resume = .ok (token, db')) :
    db.Settles db' := by
  simp only [claimNotificationReconciliation, bind_eq_ok] at h
  obtain ⟨current, -, h⟩ := h
  split_ifs at h
  · simp only [bind_eq_ok, Except.ok.injEq, Prod.mk.injEq] at h
    obtain ⟨_, -, stored, -, -, rfl⟩ := h
    exact .refl db
  · simp only [bind_eq_ok, Except.ok.injEq, Prod.mk.injEq] at h
    obtain ⟨_, -, -, rfl⟩ := h
    have hclaimed : db.Settles { db with
        events := db.events.updateKey eventId fun event ↦
          { event with
            lastErrorCode := reconcileClaimed
            lastErrorMessage := some s!"{db.nextUuid}" } } :=
      settles_updateEvent fun _ ↦ Or.inl rfl
    exact hclaimed.trans (.of_eq rfl rfl rfl)

theorem settles_reconcileScheduledNotification {receipt : PostReceipt} {claimToken : Option String}
    (h : db.reconcileScheduledNotification eventId receipt now claimToken = .ok (u, db')) :
    db.Settles db' := by
  simp only [reconcileScheduledNotification, bind_eq_ok, Except.ok.injEq, Prod.mk.injEq] at h
  obtain ⟨_, -, completion, -, _, -, db₁, hstate, -, rfl⟩ := h
  refine Settles.trans ?_ (settles_setNotificationState hstate)
  exact settles_updateEvent fun _ ↦ Or.inr (Or.inl rfl)

theorem settles_reconcileScheduledNotificationNotSent {claimToken : Option String}
    (h : db.reconcileScheduledNotificationNotSent eventId now claimToken = .ok (u, db')) :
    db.Settles db' := by
  simp only [reconcileScheduledNotificationNotSent, bind_eq_ok] at h
  obtain ⟨_, -, completion, -, db₁, hstate, h⟩ := h
  have hreconciled : db.Settles db₁ := by
    refine Settles.trans ?_ (settles_setNotificationState hstate)
    exact settles_updateEvent fun _ ↦ Or.inr (Or.inl rfl)
  split at h
  · obtain ⟨-, rfl⟩ := Prod.mk.inj (Except.ok.inj h)
    exact hreconciled
  · simp only [bind_eq_ok, Prod.exists, Except.ok.injEq, Prod.mk.injEq] at h
    obtain ⟨_, db₂, hresume, -, rfl⟩ := h
    exact hreconciled.trans (settles_resumeAfterWorkNotification hresume)

theorem settles_markNotificationSessionNeedsReview
    (h : db.markNotificationSessionNeedsReview eventId now = .ok (u, db')) : db.Settles db' := by
  simp only [markNotificationSessionNeedsReview, bind_eq_ok, Except.ok.injEq,
    Prod.mk.injEq] at h
  obtain ⟨db₁, hstate, -, rfl⟩ := h
  exact settles_setNotificationState hstate

theorem settles_supersedeNotice {timestamp : Timestamp}
    (h : db.supersedeNotice eventId timestamp = .ok (u, db')) : db.Settles db' := by
  obtain ⟨-, rfl⟩ := Prod.mk.inj (Except.ok.inj h)
  exact (settles_updateEvents (completeEvent_settles timestamp _)).trans (.of_eq rfl rfl rfl)

/-! ### Taking up and giving back -/

/-- The status of one event changes as `R` says, and the others settle. -/
structure Moves (eventId : EventId) (R : EventStatus → EventStatus → Prop) (db db' : Db) :
    Prop where
  events : db.events.Evolves (fun id event event' ↦
    if id = eventId then R event.status event'.status else event.Settles event') db'.events
  runs : db.RunsScheduled → db'.RunsScheduled

namespace Moves

variable {R : EventStatus → EventStatus → Prop} {db'' : Db}

theorem after_settles
    (hR : ∀ {event event' : EventRow} {status}, event.Settles event' → R event'.status status →
      R event.status status)
    (h : db.Settles db') (h' : Moves eventId R db' db'') : Moves eventId R db db'' where
  events := h.events.comp h'.events fun hsettles hmoves ↦ by
    split_ifs at hmoves ⊢
    · exact hR hsettles hmoves
    · exact hsettles.trans hmoves
  runs := h'.runs ∘ h.runs

theorem before_settles
    (hR : ∀ {status} {event event' : EventRow}, R status event.status → event.Settles event' →
      R status event'.status)
    (h : Moves eventId R db db') (h' : db'.Settles db'') : Moves eventId R db db'' where
  events := h.events.comp h'.events fun hmoves hsettles ↦ by
    split_ifs at hmoves ⊢
    · exact hR hmoves hsettles
    · exact hmoves.trans hsettles
  runs := h'.runs ∘ h.runs

end Moves

/-- The worker takes an event up. -/
def Takes (eventId : EventId) (db db' : Db) : Prop :=
  Moves eventId (fun status status' ↦ status.isDispatchable = true ∧ status' = .dispatching) db db'

/-- Nobody has the event any more. -/
def Releases (eventId : EventId) (db db' : Db) : Prop :=
  Moves eventId (fun _ status' ↦ status'.isAgentOwned = false) db db'

theorem Releases.settles {db'' : Db} (h : Releases eventId db db') (h' : db'.Settles db'') :
    Releases eventId db db'' :=
  Moves.before_settles (fun howned hsettles ↦ hsettles.not_agentOwned howned) h h'

theorem moves_updateEvent {R : EventStatus → EventStatus → Prop} {f : EventRow → EventRow}
    (h : ∀ event, db.events.get? eventId = some event → R event.status (f event).status) :
    Moves eventId R db { db with events := db.events.updateKey eventId f } where
  events := Table.evolves_updateWhere fun id event hevent ↦ by
    by_cases hid : id = eventId
    · subst hid
      simpa using h event hevent
    · simpa [hid] using EventRow.Settles.refl event
  runs := id

theorem startDispatch_spec {resultPath : String}
    (h : db.startDispatch eventId resultPath now = .ok (u, db')) :
    ∃ event', db'.events.get? eventId = some event' ∧
      ((event'.status = .completed ∧ db' = db) ∨
        (event'.status = .dispatching ∧ Takes eventId db db')) := by
  simp only [startDispatch, getRequired, orThrow_bind_eq_ok] at h
  obtain ⟨event, hevent, h⟩ := h
  by_cases hqueued : [EventStatus.queued, .retryableFailed].contains event.status = true
  · rw [if_pos hqueued] at h
    obtain ⟨-, rfl⟩ := Prod.mk.inj (Except.ok.inj h)
    refine ⟨_, by rw [Table.get?_updateKey, if_pos rfl, hevent]; rfl, Or.inr ⟨rfl, ?_⟩⟩
    refine moves_updateEvent fun event' hevent' ↦ ?_
    obtain rfl : event = event' := Option.some.inj (hevent.symm.trans hevent')
    exact ⟨hqueued, rfl⟩
  · rw [if_neg hqueued] at h
    simp only [throwIf_bind_eq_ok, Except.ok.injEq, Prod.mk.injEq, not_not] at h
    obtain ⟨hcompleted, -, rfl⟩ := h
    exact ⟨event, hevent, Or.inl ⟨hcompleted.1, rfl⟩⟩

/-- A dispatch that begins takes the event up; otherwise it settles what there was. -/
theorem beginDispatch_spec {resultPath : String} {result : Except String Unit}
    (h : db.beginDispatch eventId resultPath now = (result, db')) :
    (db.Settles db' ∧ (result = .ok () → ∃ event', db'.events.get? eventId = some event' ∧
        event'.status = .completed)) ∨
      (result = .ok () ∧ Takes eventId db db' ∧ ∃ event', db'.events.get? eventId = some event' ∧
        event'.status = .dispatching) := by
  unfold beginDispatch afterSuppression at h
  split at h
  · obtain ⟨rfl, rfl⟩ := Prod.mk.inj h
    exact Or.inl ⟨.refl db, fun hok ↦ by cases hok⟩
  · rename_i db₁ hsuppress
    have hsuppressed := settles_suppressUnauthorized hsuppress
    unfold transaction at h
    split at h
    · rename_i a db₂ hstart
      obtain ⟨rfl, rfl⟩ := Prod.mk.inj h
      obtain ⟨event', hevent', ⟨hcompleted, rfl⟩ | ⟨hdispatching, htakes⟩⟩ :=
        startDispatch_spec hstart
      · exact Or.inl ⟨hsuppressed, fun _ ↦ ⟨event', hevent', hcompleted⟩⟩
      · refine Or.inr ⟨rfl, ?_, event', hevent', hdispatching⟩
        refine Moves.after_settles (fun hsettles hmoved ↦ ?_) hsuppressed htakes
        rw [← hsettles.status_eq hmoved.1]
        exact hmoved
    · obtain ⟨rfl, rfl⟩ := Prod.mk.inj h
      exact Or.inl ⟨hsuppressed, fun hok ↦ by cases hok⟩

theorem releases_failAttempt {attemptCount maxAttempts : ℕ} {code message : String}
    (h : db.failAttempt eventId attemptCount code message maxAttempts now = .ok db') :
    Releases eventId db db' := by
  simp only [failAttempt] at h
  have hfailed : ∀ (f : EventRow → EventRow), (∀ event, (f event).status.isAgentOwned = false) →
      Releases eventId db { db with events := db.events.updateKey eventId f } :=
    fun f hf ↦ moves_updateEvent fun event _ ↦ hf event
  by_cases hdead : maxAttempts ≤ attemptCount
  · simp only [hdead, decide_true, if_true] at h
    exact (hfailed _ fun _ ↦ rfl).settles (settles_settleDeadLetter h)
  · simp only [hdead, decide_false, Bool.false_eq_true, if_false, Except.ok.injEq] at h
    subst h
    exact hfailed _ fun _ ↦ rfl

theorem recordPreDispatchFailure_spec {code message : String} {maxAttempts : ℕ}
    (h : db.recordPreDispatchFailure eventId code message maxAttempts now = .ok (u, db')) :
    ∃ event, db.events.get? eventId = some event ∧ event.status.isDispatchable = true ∧
      Releases eventId db db' := by
  simp only [recordPreDispatchFailure, bind_eq_ok, orThrow_eq_ok, throwIf_eq_ok,
    Except.ok.injEq, Prod.mk.injEq] at h
  obtain ⟨event, hevent, _, hqueued, db₁, hfail, -, rfl⟩ := h
  exact ⟨event, hevent, eq_true_of_ne_false hqueued, releases_failAttempt hfail⟩

theorem recordSafePromptFailure_spec {code message : String} {maxAttempts : ℕ}
    (h : db.recordSafePromptFailure eventId code message maxAttempts now = .ok (u, db')) :
    Releases eventId db db' := by
  simp only [recordSafePromptFailure, bind_eq_ok, Except.ok.injEq, Prod.mk.injEq] at h
  obtain ⟨event, -, _, -, db₁, hfail, -, rfl⟩ := h
  exact (releases_failAttempt hfail).settles (settles_sealJobGroup ..)

theorem releases_transitionEvent {source : List EventStatus} {target : EventStatus}
    {values : EventRow → EventRow}
    (h : db.transitionEvent eventId source target values now = .ok db')
    (htarget : target.isAgentOwned = false) : Releases eventId db db' := by
  simp only [transitionEvent, bind_eq_ok, Except.ok.injEq] at h
  obtain ⟨current, -, _, -, rfl⟩ := h
  have hupdate : Releases eventId db { db with
      events := db.events.updateKey eventId fun event ↦
        { values event with status := target, updatedAt := .toIso now } } :=
    moves_updateEvent fun _ _ ↦ htarget
  split_ifs
  · exact hupdate.settles (settles_sealJobGroup ..)
  · exact hupdate

theorem releases_markNeedsReview {code message : String}
    (h : db.markNeedsReview eventId code message now = .ok (u, db')) :
    Releases eventId db db' := by
  simp only [markNeedsReview, bind_eq_ok, Except.ok.injEq, Prod.mk.injEq] at h
  obtain ⟨db₁, htransition, db₂, hsettle, db₃, hstate, -, rfl⟩ := h
  have htransitioned := releases_transitionEvent htransition rfl
  exact (htransitioned.settles (settles_settleUndelegated hsettle)).settles
    (settles_setNotificationState hstate)

theorem releases_markBlocked {message : String} {source : List EventStatus}
    (h : db.markBlocked eventId message source now = .ok (u, db')) : Releases eventId db db' := by
  simp only [markBlocked, bind_eq_ok, Except.ok.injEq, Prod.mk.injEq] at h
  obtain ⟨event, -, db₁, htransition, db₂, hsettle, db₃, hstate, -, rfl⟩ := h
  have htransitioned : Releases eventId db db₁ := by
    refine releases_transitionEvent htransition ?_
    split_ifs <;> rfl
  exact (htransitioned.settles (settles_settleUndelegated hsettle)).settles
    (settles_setNotificationState hstate)

theorem releases_manualRetry {force : Bool} {files : String → Bool}
    (h : db.manualRetry eventId force now files = .ok (u, db')) : Releases eventId db db' := by
  simp only [manualRetry, bind_eq_ok, Except.ok.injEq, Prod.mk.injEq] at h
  obtain ⟨event, -, _, -, _, -, _, -, _, -, _, -, -, rfl⟩ := h
  have hqueued : Releases eventId db
      { db with events := db.events.updateKey eventId (requeue now) } :=
    moves_updateEvent fun _ _ ↦ rfl
  exact hqueued.settles (.of_eq rfl rfl rfl)

theorem recoverStaleDispatching_spec (h : db.recoverStaleDispatching now = .ok (u, db')) :
    db.Settles db' ∧ ∀ id event, db'.events.get? id = some event → event.status ≠ .dispatching := by
  simp only [recoverStaleDispatching, bind_eq_ok, Except.ok.injEq, Prod.mk.injEq] at h
  obtain ⟨db₂, hscheduled, db₃, hnotices, -, rfl⟩ := h
  have hsealed : db.Settles _ := settles_foldl
    (fun db (entry : EventId × EventRow) ↦ settles_sealJobGroup db entry.1 (.toIso now))
    (db.events.select fun _ event ↦ event.status = .dispatching)
  have hstale : ∀ db₁ : Db, db₁.Settles { db₁ with
      events := db₁.events.updateWhere (fun _ event ↦ event.status = .dispatching)
        (staleEvent now) } :=
    fun db₁ ↦ settles_updateEvents fun _ ↦ Or.inr (Or.inl rfl)
  have hrest := (settles_foldlM settles_settleUndelegated hscheduled).trans
    (settles_foldlM settles_setNotificationState hnotices)
  refine ⟨(hsealed.trans (hstale _)).trans hrest, fun id event hevent ↦ ?_⟩
  obtain ⟨event₁, hevent₁, hsettles⟩ := hrest.events.exists_old hevent
  refine hsettles.ne_dispatching ?_
  simp only [Table.get?_updateWhere, Option.map_eq_some_iff] at hevent₁
  obtain ⟨event₀, -, rfl⟩ := hevent₁
  by_cases hdispatching : event₀.status = .dispatching
  · simp [hdispatching, staleEvent]
  · simp [hdispatching]

/-! ### An event that the agent has can be marked for review -/

theorem settleUndelegated_isOk (outcome : UndelegatedOutcome) (now : Int)
    (hruns : db.RunsScheduled) (hid : isIdentity eventId = true) :
    ∃ db', db.settleUndelegated eventId outcome now = .ok db' := by
  have hsettle : ∃ db', db.settleUndelegatedWorkEvent eventId outcome (.floorSecond now)
      = .ok ((), db') := by
    have hutc : utc (.floorSecond now) = .ok () := by simp [utc, Timestamp.floorSecond,
      Timestamp.ofSeconds]
    have hidentity : identity eventId = .ok () := by simp [identity, hid]
    rw [settleUndelegatedWorkEvent, hutc, hidentity]
    simp only [ok_bind]
    split
    · exact ⟨db, rfl⟩
    · rename_i runId run hfind
      by_cases hover : run.status ≠ .materialized ∨ run.jobId ≠ none
      · rw [if_pos hover]
        exact ⟨db, rfl⟩
      · obtain ⟨schedule, hschedule⟩ := hruns runId run (Table.get?_of_find? hfind).1
        rw [if_neg hover, hschedule]
        exact ⟨_, rfl⟩
  obtain ⟨db', hdb'⟩ := hsettle
  exact ⟨db', by rw [settleUndelegated, hdb']; rfl⟩

theorem markForReview_isOk (now : Int) (row : NoticeRun) (hruns : db.RunsScheduled) :
    ∃ db', db.markForReview now row = .ok db' := by
  have hmark : ∃ db', db.markWorkNotificationNeedsReview row.runId (row.settledAt now)
      = .ok ((), db') := by
    unfold markWorkNotificationNeedsReview
    split
    · exact ⟨db, rfl⟩
    · rename_i run hrun
      obtain ⟨schedule, hschedule⟩ := hruns _ run hrun
      rw [hschedule]
      simp only [orThrow, ok_bind]
      split_ifs
      · exact ⟨_, rfl⟩
      · exact ⟨db, rfl⟩
  obtain ⟨db', hdb'⟩ := hmark
  exact ⟨db', by rw [markForReview, hdb']; rfl⟩

theorem setNeedsReview_isOk (eventId : EventId) (now : Int) (hruns : db.RunsScheduled) :
    ∃ db', db.setNotificationState eventId .needsReview now none = .ok db' := by
  have hmarks : ∀ (rows : List NoticeRun) {db : Db}, db.RunsScheduled →
      ∃ db', rows.foldlM (markForReview now) db = .ok db' := by
    intro rows
    induction rows with
    | nil => exact fun _ ↦ ⟨_, rfl⟩
    | cons row rows ih =>
        intro db hdb
        obtain ⟨db₁, hmark⟩ := markForReview_isOk now row hdb
        obtain ⟨db', hrest⟩ := ih ((settles_markForReview hmark).runs hdb)
        exact ⟨db', by rw [List.foldlM_cons, hmark, ok_bind, hrest]⟩
  obtain ⟨db₁, hmarked⟩ := hmarks (db.noticeRuns eventId) hruns
  rw [setNotificationState]
  simp only [reduceCtorEq, false_or, if_true, hmarked, ok_bind, Option.isSome_none,
    Bool.false_eq_true, false_and, throwIf, if_false]
  exact ⟨_, rfl⟩

theorem markNeedsReview_isOk {event : EventRow} (code message : String) (now : Int)
    (hevent : db.events.get? eventId = some event) (howned : event.status.isAgentOwned = true)
    (hruns : db.RunsScheduled) (hid : isIdentity eventId = true) :
    ∃ db', db.markNeedsReview eventId code message now = .ok ((), db') := by
  have htransition : ∃ db₁, db.transitionEvent eventId [.dispatching, .waitingAgent] .needsReview
      (fun event ↦
        { event with lastErrorCode := some code, lastErrorMessage := some message }) now
      = .ok db₁ := by
    have hsource : [EventStatus.dispatching, .waitingAgent].contains event.status = true := howned
    simp only [transitionEvent, getRequired, hevent, orThrow, ok_bind, throwIf, hsource,
      Bool.true_eq_false, if_false]
    exact ⟨_, rfl⟩
  obtain ⟨db₁, hdb₁⟩ := htransition
  have hruns₁ := (settles_transitionEvent hdb₁ rfl).runs hruns
  obtain ⟨db₂, hdb₂⟩ := settleUndelegated_isOk .needsReview now hruns₁ hid
  obtain ⟨db₃, hdb₃⟩ := setNeedsReview_isOk eventId now
    ((settles_settleUndelegated hdb₂).runs hruns₁)
  exact ⟨db₃, by rw [markNeedsReview, hdb₁, ok_bind, hdb₂, ok_bind, hdb₃]; rfl⟩

/-! ### New events -/

/-- The events settle, or are new: nobody has them yet, and their identifiers are identities. -/
structure Admits (db db' : Db) : Prop where
  old : ∀ {id event}, db.events.get? id = some event →
    ∃ event', db'.events.get? id = some event' ∧ event.Settles event'
  new : ∀ {id event'}, db.events.get? id = none → db'.events.get? id = some event' →
    event'.status.isAgentOwned = false ∧ isIdentity id = true
  runs : db.RunsScheduled → db'.RunsScheduled

theorem Admits.of_settles (h : db.Settles db') : db.Admits db' where
  old hevent := h.events.exists_new hevent
  new hnone hevent := by
    rw [h.events.get?_eq_none_iff.2 hnone] at hevent
    contradiction
  runs := h.runs

theorem settles_bindSlackEvent {event : EventRow}
    (h : db.bindSlackEvent eventId event = .ok db') : db.Settles db' := by
  unfold bindSlackEvent at h
  split at h
  · simp only [insertEventJobBinding, bind_eq_ok] at h
    obtain ⟨_, -, h⟩ := h
    split at h
    · simp only [throwIf_bind_eq_ok, Except.ok.injEq] at h
      obtain ⟨-, rfl⟩ := h
      exact .refl db
    · simp only [orThrow_bind_eq_ok, Except.ok.injEq] at h
      obtain ⟨bindings, -, rfl⟩ := h
      exact .of_eq rfl rfl rfl
  · obtain rfl := Except.ok.inj h
    exact .refl db

theorem Admits.settles {db'' : Db} (h : db.Admits db') (h' : db'.Settles db'') :
    db.Admits db'' where
  old hevent := by
    obtain ⟨event', hevent', hsettles⟩ := h.old hevent
    obtain ⟨event'', hevent'', hsettles'⟩ := h'.events.exists_new hevent'
    exact ⟨event'', hevent'', hsettles.trans hsettles'⟩
  new hnone hevent'' := by
    obtain ⟨event', hevent', hsettles⟩ := h'.events.exists_old hevent''
    obtain ⟨howned, hid⟩ := h.new hnone hevent'
    exact ⟨hsettles.not_agentOwned howned, hid⟩
  runs := h'.runs ∘ h.runs

theorem admits_enqueue {envelope : EventEnvelope} {timestamp : Timestamp} {result : EnqueueResult}
    (hid : isIdentity s!"evt_{db.nextUuid}" = true)
    (h : db.enqueue envelope timestamp = .ok (result, db')) : db.Admits db' := by
  unfold enqueue at h
  split at h
  · simp only [bind_eq_ok, Except.ok.injEq, Prod.mk.injEq] at h
    obtain ⟨db₁, hbound, -, rfl⟩ := h
    exact .of_settles (settles_bindSlackEvent hbound)
  · simp only [bind_eq_ok, orThrow_eq_ok, Except.ok.injEq, Prod.mk.injEq] at h
    obtain ⟨events, hinsert, db₁, hbound, -, rfl⟩ := h
    refine Admits.settles ?_ (settles_bindSlackEvent hbound)
    refine ⟨fun {id event} hevent ↦ ?_, fun {id event'} hnone hevent' ↦ ?_, id⟩
    · have hne : id ≠ s!"evt_{db.nextUuid}" := by
        rintro rfl
        rw [Table.get?_eq_none_of_insert? hinsert] at hevent
        contradiction
      refine ⟨event, ?_, .refl event⟩
      rw [Table.get?_insert? hinsert, if_neg hne]
      exact hevent
    · rw [Table.get?_insert? hinsert] at hevent'
      split_ifs at hevent' with hnew
      · obtain rfl := Option.some.inj hevent'
        rw [hnew]
        exact ⟨rfl, hid⟩
      · rw [hnone] at hevent'
        contradiction

end Db

end Dona
