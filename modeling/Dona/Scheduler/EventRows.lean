import Dona.Scheduler.Operations

/-!
# Events and the state of runs

When the state of a run changes, events are closed, but each of them stays the event that it was and
none is added.
-/

namespace Dona

open Fallible

/-- The event that a source knows by this name, with its reply target. -/
structure EventRow.Identified (event event' : EventRow) : Prop where
  source : event'.source = event.source
  externalEventId : event'.externalEventId = event.externalEventId
  replyTarget : event'.replyTarget = event.replyTarget

theorem EventRow.Identified.refl (event : EventRow) : event.Identified event := ⟨rfl, rfl, rfl⟩

theorem EventRow.Identified.trans {a b c : EventRow} (h : a.Identified b) (h' : b.Identified c) :
    a.Identified c :=
  ⟨h'.source.trans h.source, h'.externalEventId.trans h.externalEventId,
    h'.replyTarget.trans h.replyTarget⟩

namespace Db

variable {db db' db'' : Db} {env : Env} {runId : Uuid} {now : Timestamp} {actor : Actor}

/-- There are the same events as before, with the same owners of jobs. -/
structure SameEvents (db db' : Db) : Prop where
  events : db.events.Evolves (fun _ ↦ EventRow.Identified) db'.events
  bindings : db'.eventBindings = db.eventBindings

/-- Statements on other tables. -/
theorem SameEvents.of_eq (hevents : db'.events = db.events)
    (hbindings : db'.eventBindings = db.eventBindings) : SameEvents db db' := by
  refine ⟨?_, hbindings⟩
  rw [hevents]
  exact .refl (fun _ ↦ EventRow.Identified.refl) _

theorem SameEvents.refl (db : Db) : SameEvents db db := .of_eq rfl rfl

theorem SameEvents.trans (h : SameEvents db db') (h' : SameEvents db' db'') :
    SameEvents db db'' :=
  ⟨h.events.trans EventRow.Identified.trans h'.events, h'.bindings.trans h.bindings⟩

theorem identified_completeEvent (event : EventRow) (code : String) :
    event.Identified (completeEvent now code event) := ⟨rfl, rfl, rfl⟩

theorem evolves_completeEvents {events : Table EventId EventRow} {p : EventId → EventRow → Bool}
    {code : String} : events.Evolves (fun _ ↦ EventRow.Identified)
      (events.updateWhere p (completeEvent now code)) :=
  Table.evolves_updateWhere_of_forall (fun _ ↦ EventRow.Identified.refl) fun _ event ↦
    identified_completeEvent event code

theorem sameEvents_suppress (db : Db) (scheduleId : ScheduleId) (now : Timestamp)
    (reason : RunReason) : SameEvents db (db.suppress scheduleId now reason) := by
  have hnotices : ∀ db : Db, SameEvents db (db.suppressNotifications scheduleId now) :=
    fun db ↦ ⟨evolves_completeEvents, rfl⟩
  have hevents : ∀ db : Db, SameEvents db (db.suppressEvents scheduleId now) :=
    fun db ↦ ⟨evolves_completeEvents, rfl⟩
  unfold suppress
  extract_lets unsent capped ended closed
  have hended : SameEvents db ended := by
    by_cases hexpired : reason = .authorizationExpired
    · refine .of_eq ?_ ?_ <;> simp only [ended, capped, if_pos hexpired] <;> rfl
    · refine .of_eq ?_ ?_ <;> simp only [ended, capped, if_neg hexpired] <;> rfl
  exact hended.trans ((hevents _).trans (hnotices _))

theorem sameEvents_completeIfDrained (db : Db) (scheduleId : ScheduleId) (now : Timestamp) :
    SameEvents db (db.completeIfDrained scheduleId now) := by
  unfold completeIfDrained
  split
  · exact .refl db
  · split
    · exact .refl db
    · split_ifs <;> exact .of_eq rfl rfl

theorem sameEvents_updateSchedule (db : Db) (scheduleId : ScheduleId) (f : Schedule → Schedule) :
    SameEvents db (db.updateSchedule scheduleId f) := .of_eq rfl rfl

theorem sameEvents_updateRun (db : Db) (runId : Uuid) (f : ScheduleRun → ScheduleRun) :
    SameEvents db (db.updateRun runId f) := .of_eq rfl rfl

theorem sameEvents_cancelUnsentOf (db : Db) (runId : Uuid) (now : Timestamp) :
    SameEvents db (db.cancelUnsentOf runId now) := .of_eq rfl rfl

theorem sameEvents_retireRevisions (db : Db) (scheduleId : ScheduleId) (now : Timestamp)
    (revision : Option ℕ) : SameEvents db (db.retireRevisions scheduleId now revision) :=
  .of_eq rfl rfl

theorem sameEvents_expireSchedule (db : Db) (scheduleId : ScheduleId) (before : Schedule)
    (now : Timestamp) : SameEvents db (db.expireSchedule scheduleId before now) := by
  refine SameEvents.trans ?_ (sameEvents_completeIfDrained ..)
  refine SameEvents.trans ?_ (sameEvents_retireRevisions ..)
  exact (sameEvents_suppress ..).trans (sameEvents_updateSchedule ..)

theorem sameEvents_expireCurrent (db : Db) (scheduleId : ScheduleId) (current : Schedule)
    (now expiredAt : Timestamp) :
    SameEvents db (db.expireCurrent scheduleId current now expiredAt) := by
  unfold expireCurrent
  split_ifs
  · exact sameEvents_expireSchedule ..
  · exact .refl db

theorem sameEvents_insertOutbox {kind : OutboxKind} {target : Target} {content : String}
    (h : db.insertOutbox env runId kind target content now = .ok db') : SameEvents db db' := by
  simp only [insertOutbox, throwIf_bind_eq_ok, orThrow_bind_eq_ok, Except.ok.injEq] at h
  obtain ⟨-, -, -, rfl⟩ := h
  exact .of_eq rfl rfl

theorem sameEvents_notifyResult {target : Target} {content : Option String}
    (h : db.notifyResult env runId target content now = .ok db') : SameEvents db db' := by
  simp only [notifyResult, bind_eq_ok] at h
  obtain ⟨_, -, _, -, h⟩ := h
  exact sameEvents_insertOutbox h

theorem sameEvents_settleRunState (db : Db) (runId : Uuid) (run : ScheduleRun) (current : Schedule)
    (next : RunTarget) (jobId : Option JobId) (now : Timestamp) :
    SameEvents db (db.settleRunState runId run current next jobId now) := by
  refine SameEvents.trans ?_ (sameEvents_completeIfDrained ..)
  exact (sameEvents_updateRun ..).trans (sameEvents_expireCurrent ..)

theorem sameEvents_refuseStart (db : Db) (runId : Uuid) (run : ScheduleRun) (current : Schedule)
    (reason : RunReason) (now transitionAt : Timestamp) :
    SameEvents db (db.refuseStart runId run current reason now transitionAt) := by
  refine SameEvents.trans ?_ (sameEvents_completeIfDrained ..)
  refine SameEvents.trans ?_ (sameEvents_cancelUnsentOf ..)
  refine SameEvents.trans ?_ (sameEvents_updateRun ..)
  by_cases hexpired : reason = .authorizationExpired
  · rw [if_pos hexpired]
    exact sameEvents_expireSchedule ..
  · rw [if_neg hexpired]
    exact .refl db

theorem sameEvents_applyRunState {run : ScheduleRun} {current : Schedule} {snapshot : Revision}
    {next : RunTarget} {job : Option JobId} {content : Option String}
    {notificationAt : Option Timestamp} {routes : Bool}
    (h : db.applyRunState env runId run current snapshot next now job content notificationAt routes
      = .ok db') : SameEvents db db' := by
  simp only [applyRunState, bind_eq_ok, throwIf_eq_ok, Except.ok.injEq] at h
  obtain ⟨-, -, -, -, -, -, db₁, h₁, db₂, h₂, rfl⟩ := h
  have hnotify : SameEvents db db₁ := by
    split_ifs at h₁
    · exact sameEvents_notifyResult h₁
    · obtain rfl := Except.ok.inj h₁
      exact .refl db
  have hfailure : SameEvents db₁ db₂ := by
    split_ifs at h₂
    · exact sameEvents_insertOutbox h₂
    · exact (sameEvents_cancelUnsentOf ..).trans (sameEvents_insertOutbox h₂)
    · obtain rfl := Except.ok.inj h₂
      exact .refl db₁
    · obtain rfl := Except.ok.inj h₂
      exact sameEvents_cancelUnsentOf ..
  exact (hnotify.trans hfailure).trans (sameEvents_settleRunState ..)

theorem sameEvents_setRunState {expected : RunStatus} {next : RunTarget} {job : Option JobId}
    {content : Option String} {notificationAt : Option Timestamp} {routes : Bool} {r : Option Unit}
    (h : db.setRunState env runId expected next actor now job content notificationAt routes
      = .ok (r, db')) : SameEvents db db' := by
  simp only [setRunState, bind_eq_ok, throwIf_eq_ok, orThrow_eq_ok] at h
  obtain ⟨_, -, _, -, run, -, _, -, current, -, _, -, _, -, snapshot, -, _, -, h⟩ := h
  split at h
  · simp only [Except.ok.injEq, Prod.mk.injEq] at h
    obtain ⟨-, rfl⟩ := h
    exact sameEvents_refuseStart ..
  · simp only [bind_eq_ok, Except.ok.injEq, Prod.mk.injEq] at h
    obtain ⟨_, happly, -, rfl⟩ := h
    exact sameEvents_applyRunState happly

end Db

end Dona
