import Dona.Scheduler.Occurrences

/-!
# Schedules that have ended

No operation that checks the state of a schedule takes it out of its end. Two do not check
it, the recovery of a run and the resumption after a notice: they expire the schedule of the
run when its authorization has expired, and a cancellation under an expired authorization
has not advanced the revision which is their only guard. The due event of a run that ended
without a job is guarded in another way: its run has no write, and the runs which a
schedule leaves materialized at its end have one.
-/

namespace Dona

open Fallible TransitionSystem

namespace Db

variable {scope : Scope} {db db' : Db} {id : ScheduleId} {row row' : Schedule}

/-- A materialized run that waits for its event has no write, and its schedule has not ended. -/
structure Delegating (db : Db) : Prop where
  runs : ∀ outboxId row, db.outbox.get? outboxId = some row → db.runs.get? row.runId ≠ none
  unwritten : ∀ runId run, db.runs.get? runId = some run → run.status = .materialized →
    run.eventId ≠ none → ∀ outboxId row, db.outbox.get? outboxId = some row → row.runId ≠ runId
  live : ∀ runId run schedule, db.runs.get? runId = some run → run.status = .materialized →
    run.eventId ≠ none → db.schedules.get? run.scheduleId = some schedule →
    schedule.state.isAbsorbing = false

/-- A write is only inserted for a run that is no longer materialized. -/
def WritesSettledRuns (scope : Scope) (db db' : Db) : Prop :=
  ∀ runId, scope.mayWrite runId → db.runs.get? runId ≠ none ∧
    ∀ run', db'.runs.get? runId = some run' → run'.status ≠ .materialized

theorem Evolves.delegating (h : db.Evolves scope db') (hwrites : WritesSettledRuns scope db db')
    (hdb : db.Delegating) : db'.Delegating := by
  have hunwritten : ∀ runId run', db'.runs.get? runId = some run' → run'.status = .materialized →
      run'.eventId ≠ none → ∀ outboxId row', db'.outbox.get? outboxId = some row' →
      row'.runId ≠ runId := by
    intro runId run' hrun' hstatus hevent outboxId row' hrow'
    obtain ⟨run, hrun, hkeeps⟩ := h.runs.exists_old hrun'
    cases hrow : db.outbox.get? outboxId with
    | none =>
        rintro rfl
        obtain ⟨hscope, -⟩ := h.inserted outboxId row' hrow' hrow
        exact (hwrites _ hscope).2 run' hrun' hstatus
    | some row =>
        obtain ⟨other, hother, hsame⟩ := h.outbox outboxId row hrow
        obtain rfl : other = row' := Option.some.inj (hother.symm.trans hrow')
        rw [hsame.runId]
        exact hdb.unwritten runId run hrun (hkeeps.status hstatus) (hkeeps.eventId ▸ hevent)
          outboxId row hrow
  refine ⟨fun outboxId row' hrow' ↦ ?_, hunwritten,
    fun runId run' schedule' hrun' hstatus hevent hschedule' ↦ ?_⟩
  · rw [ne_eq, h.runs.get?_eq_none_iff]
    cases hrow : db.outbox.get? outboxId with
    | none => exact (hwrites _ (h.inserted outboxId row' hrow' hrow).1).1
    | some row =>
        obtain ⟨other, hother, hsame⟩ := h.outbox outboxId row hrow
        obtain rfl : other = row' := Option.some.inj (hother.symm.trans hrow')
        rw [hsame.runId]
        exact hdb.runs outboxId row hrow
  · by_contra hended
    rw [Bool.not_eq_false] at hended
    obtain ⟨run, hrun, hkeeps⟩ := h.runs.exists_old hrun'
    rcases h.ended run'.scheduleId schedule' hschedule' hended with ⟨schedule, hold, hstate⟩ |
      hdrained
    · rw [hkeeps.scheduleId] at hold
      have hlive := hdb.live runId run schedule hrun (hkeeps.status hstatus)
        (hkeeps.eventId ▸ hevent) hold
      rw [hstate] at hlive
      cases hlive
    · obtain ⟨outboxId, row', hrow', hrunId⟩ := hdrained runId run' hrun' rfl hstatus
      exact hunwritten runId run' hrun' hstatus hevent outboxId row' hrow' hrunId

theorem Evolves.delegating_of_strict (h : db.Evolves .strict db') (hdb : db.Delegating) :
    db'.Delegating :=
  h.delegating (fun _ ↦ False.elim) hdb

/-- A new run either waits for its event and has no write, or has the write and no event. -/
theorem Occurs.delegating {scheduledFor : Timestamp} {nextDue : Option Timestamp}
    {before : Schedule} {run : ScheduleRun} (h : db.Occurs id scheduledFor nextDue before run db')
    (hdb : db.Delegating) : db'.Delegating := by
  have hold : ∀ outboxId row, db.outbox.get? outboxId = some row → row.runId ≠ db.nextUuid := by
    intro outboxId row hrow heq
    exact hdb.runs outboxId row hrow (heq ▸ h.fresh)
  have hruns : ∀ runId, db.runs.get? runId ≠ none → db'.runs.get? runId ≠ none := by
    intro runId hrun
    rw [h.runs]
    split_ifs
    · simp
    · exact hrun
  have hstate : ∀ scheduleId schedule', db'.schedules.get? scheduleId = some schedule' →
      ∃ schedule, db.schedules.get? scheduleId = some schedule ∧
        schedule'.state = schedule.state := by
    obtain ⟨materializedAt, hschedules⟩ := h.schedules
    intro scheduleId schedule' hschedule'
    rw [hschedules, Table.get?_updateKey] at hschedule'
    split_ifs at hschedule' with hid
    · obtain ⟨schedule, hschedule, rfl⟩ := Option.map_eq_some_iff.1 hschedule'
      exact ⟨schedule, hid ▸ hschedule, rfl⟩
    · exact ⟨schedule', hschedule', rfl⟩
  refine ⟨fun outboxId row' hrow' ↦ ?_, fun runId run' hrun' hstatus hevent outboxId row' hrow' ↦ ?_,
    fun runId run' schedule' hrun' hstatus hevent hschedule' ↦ ?_⟩
  · rcases h.outbox with hsame | ⟨-, newId, new, -, -, -, hrunId, -, -, hget⟩
    · rw [hsame] at hrow'
      exact hruns _ (hdb.runs outboxId row' hrow')
    · rw [hget] at hrow'
      split_ifs at hrow' with hnew
      · obtain rfl := Option.some.inj hrow'
        rw [hrunId, h.runs, if_pos rfl]
        simp
      · exact hruns _ (hdb.runs outboxId row' hrow')
  · rw [h.runs] at hrun'
    rcases h.outbox with hsame | ⟨hnoEvent, newId, new, -, -, -, hrunId, -, -, hget⟩
    · rw [hsame] at hrow'
      split_ifs at hrun' with hrun
      · exact hrun ▸ hold outboxId row' hrow'
      · exact hdb.unwritten runId run' hrun' hstatus hevent outboxId row' hrow'
    · rw [hget] at hrow'
      split_ifs at hrun' with hrun
      · obtain rfl := Option.some.inj hrun'
        exact absurd hnoEvent hevent
      · split_ifs at hrow' with hnew
        · obtain rfl := Option.some.inj hrow'
          rw [hrunId]
          exact Ne.symm hrun
        · exact hdb.unwritten runId run' hrun' hstatus hevent outboxId row' hrow'
  · obtain ⟨schedule, hschedule, hsame⟩ := hstate _ schedule' hschedule'
    rw [hsame]
    rw [h.runs] at hrun'
    split_ifs at hrun' with hrun
    · obtain rfl := Option.some.inj hrun'
      rw [h.scheduleId, h.found] at hschedule
      obtain rfl := Option.some.inj hschedule
      rw [h.active]
      rfl
    · exact hdb.live runId run' schedule hrun' hstatus hevent hschedule

theorem Effect.delegating {recorded : Option (ScheduleId × Timestamp)}
    (h : Effect scope db db' recorded) (hwrites : WritesSettledRuns scope db db')
    (hdb : db.Delegating) : db'.Delegating := by
  cases h with
  | frame hevolves => exact hevolves.delegating hwrites hdb
  | @created scheduleId created fresh active watermark schedules runs outbox nextUuid =>
      refine ⟨by rw [outbox, runs]; exact hdb.runs, by rw [outbox, runs]; exact hdb.unwritten,
        fun runId run schedule hrun hstatus hevent hschedule ↦ ?_⟩
      rw [runs] at hrun
      rw [schedules] at hschedule
      split_ifs at hschedule
      · obtain rfl := Option.some.inj hschedule
        rw [active]
        rfl
      · exact hdb.live runId run schedule hrun hstatus hevent hschedule
  | @updated scheduleId before db₁ nextDue updateAt found live past evolves renewed =>
      have hdb₁ := evolves.delegating_of_strict hdb
      subst renewed
      refine ⟨hdb₁.runs, hdb₁.unwritten,
        fun runId run schedule hrun hstatus hevent hschedule ↦ ?_⟩
      simp only [updateSchedule, Table.get?_updateKey] at hschedule
      split_ifs at hschedule
      · obtain ⟨old, -, rfl⟩ := Option.map_eq_some_iff.1 hschedule
        rfl
      · exact hdb₁.live runId run schedule hrun hstatus hevent hschedule
  | occurred occurs evolves => exact evolves.delegating_of_strict (occurs.delegating hdb)
  | @purged db₁ evolves schedules runs outbox nextUuid writes =>
      have hdb₁ := evolves.delegating_of_strict hdb
      refine ⟨fun outboxId row hrow ↦ ?_, fun runId run hrun hstatus hevent outboxId row hrow ↦ ?_,
        fun runId run schedule hrun hstatus hevent hschedule ↦ ?_⟩
      · obtain ⟨run, hrun⟩ := Option.ne_none_iff_exists'.1
          (hdb₁.runs outboxId row (outbox outboxId row hrow))
        rw [writes outboxId row run hrow hrun]
        simp
      · exact hdb₁.unwritten runId run (runs runId run hrun) hstatus hevent outboxId row
          (outbox outboxId row hrow)
      · exact hdb₁.live runId run schedule (runs runId run hrun) hstatus hevent
          (schedules _ schedule hschedule)

/-- A schedule that has ended keeps its state, unless the scope lets it be reopened. -/
theorem Effect.keeps_state {recorded : Option (ScheduleId × Timestamp)}
    (h : Effect scope db db' recorded) (hscope : ¬scope.mayReopen)
    (hrow : db.schedules.get? id = some row) (hended : row.state.isAbsorbing = true)
    (hrow' : db'.schedules.get? id = some row') : row'.state = row.state := by
  have hstrict : ∀ {db' : Db} {row' : Schedule}, db.Evolves .strict db' →
      db'.schedules.get? id = some row' → row'.state = row.state := by
    intro db' row' hevolves h
    rcases (hevolves.keeps_schedule hrow h).state with hfalse | hkeeps
    · exact hfalse.elim
    · exact hkeeps hended
  cases h with
  | frame hevolves =>
      rcases (hevolves.keeps_schedule hrow hrow').state with hreopen | hkeeps
      · exact absurd hreopen hscope
      · exact hkeeps hended
  | created fresh active watermark schedules =>
      rw [schedules] at hrow'
      split_ifs at hrow' with hid
      · rw [hid, fresh] at hrow
        cases hrow
      · exact hstrict (.refl _ db) hrow'
  | @updated scheduleId before db₁ nextDue updateAt found live past evolves renewed =>
      subst renewed
      simp only [updateSchedule, Table.get?_updateKey] at hrow'
      split_ifs at hrow' with hid
      · rw [hid, found] at hrow
        obtain rfl := Option.some.inj hrow
        rw [live] at hended
        cases hended
      · exact hstrict evolves hrow'
  | @occurred scheduleId scheduledFor nextDue before run db₁ occurs evolves =>
      obtain ⟨middle, hmiddle, hkeeps⟩ := evolves.schedules.exists_old hrow'
      by_cases hid : id = scheduleId
      · rw [hid, occurs.found] at hrow
        obtain rfl := Option.some.inj hrow
        rw [occurs.active] at hended
        cases hended
      · rw [occurs.get?_schedules hid, hrow] at hmiddle
        obtain rfl := Option.some.inj hmiddle
        rcases hkeeps.state with hfalse | hsame
        · exact hfalse.elim
        · exact hsame hended
  | purged evolves schedules => exact hstrict evolves (schedules id row' hrow')

end Db

section Runs

variable {env : Env} {db : Db} {id : ScheduleId} {row : Schedule} {ops : List SchedulerOp}

theorem SchedulerOp.next_delegating {op : SchedulerOp} (hdb : db.Delegating) :
    (op.next env db).Delegating := by
  cases op with
  | setRunState =>
      refine commit_induction (P := Db.Delegating) hdb fun _ _ hok ↦ ?_
      rcases Db.setRunState_spec hok with hstrict | ⟨hevolves, hrun, hleft⟩
      · exact hstrict.delegating_of_strict hdb
      · refine hevolves.delegating (fun runId hrunId ↦ ?_) hdb
        obtain rfl : runId = _ := hrunId
        exact ⟨hrun, hleft⟩
  | _ => exact (SchedulerOp.effect env db _).delegating (fun _ ↦ False.elim) hdb

theorem delegating_of_reachable (h : (scheduler env).Reachable db) : db.Delegating := by
  refine h.invariant (fun hinit ↦ ?_) fun {db op db'} hstep hdb ↦ ?_
  · obtain rfl := hinit
    refine ⟨fun outboxId row hrow ↦ ?_, fun runId run hrun ↦ ?_, fun runId run schedule hrun ↦ ?_⟩
    · cases hrow
    · cases hrun
    · cases hrun
  · obtain rfl : db' = op.next env db := hstep
    exact SchedulerOp.next_delegating hdb

/-- The calls that take a schedule out of its end: they recover or resume a run of an ended
schedule, at the revision of the run, under an authorization which has expired. -/
def SchedulerOp.Reopens (db : Db) : SchedulerOp → Prop
  | recoverWorkRunForResult runId jobId sourceEventId now =>
      db.EndedExpired runId (Db.recoverable jobId sourceEventId) now
  | reconcileWorkNotificationNotSent runId now => db.EndedExpired runId Db.resumable now
  | settleWorkNotification runId now => db.EndedExpired runId Db.resumable now
  | _ => False

/-- The due event of an ended schedule has no materialized run: only the calls that reopen a
schedule leave the frame. -/
theorem SchedulerOp.reopens_of_mayReopen {op : SchedulerOp} (hdb : db.Delegating)
    (h : (op.scope db).mayReopen) : op.Reopens db := by
  cases op with
  | settleUndelegatedWorkEvent eventId outcome now =>
      obtain ⟨runId, run, schedule, hrun, hevent, hstatus, hschedule, hended⟩ := h
      have hlive := hdb.live runId run schedule hrun hstatus (by simp [hevent]) hschedule
      rw [hended] at hlive
      cases hlive
  | recoverWorkRunForResult => exact h
  | reconcileWorkNotificationNotSent => exact h
  | settleWorkNotification => exact h
  | _ => exact h.elim

/-- The unguarded expiry leaves a cancelled schedule expired or completed. -/
theorem exists_expired (before : Schedule) (now : Timestamp)
    (hrow : db.schedules.get? id = some row) :
    ∃ row', (db.expireSchedule id before now).schedules.get? id = some row' ∧
      row'.state ≠ .cancelled := by
  have hdrained : ∀ (db : Db) (row : Schedule) (now : Timestamp),
      db.schedules.get? id = some row → row.state ≠ .cancelled →
        ∃ row', (db.completeIfDrained id now).schedules.get? id = some row' ∧
          row'.state ≠ .cancelled := by
    intro db row now hrow hstate
    unfold Db.completeIfDrained
    rw [hrow]
    simp only
    cases db.revision? id row.revision with
    | none => exact ⟨row, hrow, hstate⟩
    | some revision =>
        simp only
        split_ifs
        · exact ⟨row, hrow, hstate⟩
        · exact ⟨row, hrow, hstate⟩
        · simp [Db.retireRevisions, Db.updateSchedule, hrow]
  have hsame : ∀ now, (db.suppress id now .authorizationExpired).schedules = db.schedules := by
    intro now
    simp only [Db.suppress, if_true]
    rfl
  refine hdrained _
    { row with
      state := .expired
      updatedAt := now.latest
        [before.createdAt, before.updatedAt, before.terminalAt.getD before.createdAt]
      terminalAt := some (row.terminalAt.getD (now.latest
        [before.createdAt, before.updatedAt, before.terminalAt.getD before.createdAt])) } _ ?_
    (by simp)
  simp only [Db.retireRevisions, Db.updateSchedule, Table.get?_updateKey, if_true, hsame, hrow,
    Option.map_some]

/-- A call that reopens a cancelled schedule does take it out of its state. -/
theorem SchedulerOp.state_of_reopens {op : SchedulerOp} (h : op.Reopens db) :
    ∃ id row row', db.schedules.get? id = some row ∧ row.state.isAbsorbing = true ∧
      (op.next env db).schedules.get? id = some row' ∧
      (row.state = .cancelled → row'.state ≠ .cancelled) := by
  have hresumed : ∀ {runId now}, db.EndedExpired runId Db.resumable now →
      ∃ id row row', db.schedules.get? id = some row ∧ row.state.isAbsorbing = true ∧
        (commit (Db.resumeAfterWorkNotification runId now) db).schedules.get? id = some row' ∧
        (row.state = .cancelled → row'.state ≠ .cancelled) := by
    rintro runId now ⟨hutc, run, schedule, revision, hrun, hguard, hschedule, hrevised, hended, -,
      hrevision, hexpired⟩
    obtain ⟨row', hrow', hstate⟩ := exists_expired schedule now hschedule
    refine ⟨run.scheduleId, schedule, row', hschedule, hended, ?_, fun _ ↦ hstate⟩
    have hover : ¬(run.revision ≠ schedule.revision ∨
        [RunStatus.completed, .failed, .cancelled].contains run.status = false) := by
      rw [not_or, not_not, Bool.not_eq_false]
      exact ⟨hrevised.symm, hguard⟩
    rw [commit_of_ok (t := db.expireSchedule run.scheduleId schedule now) (a := ())]
    · exact hrow'
    · simp only [Db.resumeAfterWorkNotification, utc, throwIf, hutc, ne_eq, not_true_eq_false,
        if_false, ok_bind, hrun, hschedule, hrevision]
      rw [if_neg hover, if_pos hexpired]
  cases op with
  | recoverWorkRunForResult runId jobId sourceEventId now =>
      obtain ⟨hutc, run, schedule, revision, hrun, hguard, hschedule, hrevised, hended, -,
        hrevision, hexpired⟩ := h
      simp only [Db.recoverable, decide_eq_true_eq] at hguard
      obtain ⟨hjobId, heventId, hstatus, hjob, hevent⟩ := hguard
      have hschedule' : ∀ f, (db.updateRun runId f).schedules.get? run.scheduleId = some schedule :=
        fun _ ↦ hschedule
      obtain ⟨row', hrow', hstate⟩ := exists_expired schedule now
        (hschedule' fun run ↦ { run with status := .started, reason := none, terminalAt := none })
      refine ⟨run.scheduleId, schedule, row', hschedule, hended, ?_, fun _ ↦ hstate⟩
      rw [SchedulerOp.next, commit_of_ok (a := ())]
      · exact hrow'
      · have hrevision' : ∀ f, (db.updateRun runId f).revision? run.scheduleId run.revision =
          some revision := fun _ ↦ hrevision
        simp only [Db.recoverWorkRunForResult, utc, identity, throwIf, hutc, hjobId, heventId, ne_eq,
          not_true_eq_false, Bool.true_eq_false, if_false, ok_bind, hrun, hstatus, hjob, hevent,
          or_self, hschedule', hrevision', hrevised]
        rw [if_pos hexpired]
  | reconcileWorkNotificationNotSent => exact hresumed h
  | settleWorkNotification => exact hresumed h
  | _ => exact h.elim

theorem run_keeps_state (hdb : db.Delegating) (hrow : db.schedules.get? id = some row)
    (hended : row.state.isAbsorbing = true)
    (hops : StepsMeet (fun db op ↦ ¬op.Reopens db ∧ RowRemains env id db op)
      (SchedulerOp.next env) db ops) :
    ∃ row', (ops.foldl (SchedulerOp.next env) db).schedules.get? id = some row' ∧
      row'.state = row.state := by
  induction ops generalizing db row with
  | nil => exact ⟨row, hrow, rfl⟩
  | cons op ops ih =>
      obtain ⟨⟨hguard, hremains⟩, hrest⟩ := hops
      obtain ⟨next, hnext⟩ := Option.ne_none_iff_exists'.1 hremains
      have hstate : next.state = row.state :=
        (SchedulerOp.effect env db op).keeps_state
          (fun hreopen ↦ hguard (SchedulerOp.reopens_of_mayReopen hdb hreopen)) hrow hended hnext
      obtain ⟨row', hrow', hsame⟩ :=
        ih (SchedulerOp.next_delegating hdb) hnext (by rw [hstate]; exact hended) hrest
      exact ⟨row', hrow', hsame.trans hstate⟩

theorem countsForQuota_of_isAbsorbing {tenant : String} (h : row.state.isAbsorbing = true) :
    Db.countsForQuota tenant row = false := by
  cases hstate : row.state <;> simp_all [Db.countsForQuota, ScheduleState.isAbsorbing]

/-- A schedule that has ended stays ended as long as its row exists, in every run without a
call that reopens a schedule; it is not counted against a quota, and no update of it succeeds. -/
theorem ended_schedule_absorbing (hreach : (scheduler env).Reachable db)
    (hrow : db.schedules.get? id = some row) (hended : row.state.isAbsorbing = true)
    (hops : StepsMeet (fun db op ↦ ¬op.Reopens db ∧ RowRemains env id db op)
      (SchedulerOp.next env) db ops) :
    ∃ row', (ops.foldl (SchedulerOp.next env) db).schedules.get? id = some row' ∧
      row'.state = row.state ∧ (∀ tenant, Db.countsForQuota tenant row' = false) ∧
      ∀ expectedRevision input nextDue actor now, ∃ message,
        (ops.foldl (SchedulerOp.next env) db).update env id expectedRevision input nextDue actor
          now = .error message := by
  obtain ⟨row', hrow', hstate⟩ :=
    run_keeps_state (delegating_of_reachable hreach) hrow hended hops
  rw [← hstate] at hended
  refine ⟨row', hrow', hstate, fun _ ↦ countsForQuota_of_isAbsorbing hended,
    fun expectedRevision input nextDue actor now ↦ ?_⟩
  rcases hbody : (ops.foldl (SchedulerOp.next env) db).update env id expectedRevision input nextDue
    actor now with message | ⟨u, db'⟩
  · exact ⟨message, rfl⟩
  · obtain ⟨before, -, -, hbefore, hlive, -⟩ := Db.update_spec hbody
    obtain rfl : before = row' := Option.some.inj (hbefore.symm.trans hrow')
    rw [hended] at hlive
    cases hlive

end Runs

open DailyReminder in
/-- A cancelled reminder stays cancelled after a tick of the loop and a purge of old rows. -/
theorem ended_schedule_absorbing_cancelled :
    ∃ row', ([SchedulerOp.claimDue "D1" (.ofSeconds 300) 60 [], .purge (.ofSeconds 400)].foldl
      (SchedulerOp.next plain) (cancelled.next plain (created.next plain .fresh))).schedules.get?
        "S1" = some row' ∧ row'.state = .cancelled := by
  obtain ⟨row, hrow, hstate⟩ : ∃ row, (cancelled.next plain
      (created.next plain .fresh)).schedules.get? "S1" = some row ∧ row.state = .cancelled :=
    ⟨_, rfl, by decide⟩
  have hops : StepsMeet (fun db op ↦ ¬op.Reopens db ∧ RowRemains plain "S1" db op)
      (SchedulerOp.next plain) (cancelled.next plain (created.next plain .fresh))
      [.claimDue "D1" (.ofSeconds 300) 60 [], .purge (.ofSeconds 400)] :=
    ⟨⟨id, by unfold RowRemains; decide⟩, ⟨id, by unfold RowRemains; decide⟩, trivial⟩
  obtain ⟨row', hrow', hsame, -⟩ := ended_schedule_absorbing (reachable_created.step rfl) hrow
    (by rw [hstate]; rfl) hops
  exact ⟨row', hrow', hsame.trans hstate⟩

/-! ### A late result -/

namespace LateResult

open DailyReminder

/-- A job has been created for the due event of the run. -/
def delegated (db : Db) : SchedulerOp :=
  .dispatcher
    { tables :=
        { db with
          jobs := (db.jobs.insert? "J1"
            { sourceEventId := "evt_1"
              jobKey := "legacy-default"
              objective := "summarize"
              status := .running
              availableAt := .ofSeconds 101
              createdAt := .ofSeconds 101
              updatedAt := .ofSeconds 101 }).getD db.jobs }
      drawn := 0 }

/-- The job of a daily summary needs review, the authorization expires, and the owner cancels. -/
def ops : List (Db → SchedulerOp) :=
  [fun _ ↦ .create "S1"
      { input with
        action := .workReadOnly, content := "summarize", expiresAt := .ofSeconds 1000 }
      (.ofSeconds 100) owner (.ofSeconds 10),
    fun _ ↦ occursAt 100,
    delegated,
    fun _ ↦ .setRunState 0 .materialized .started owner (.ofSeconds 102) (some "J1") none none true,
    fun _ ↦ .markWorkRunNeedsReview 0 "J1" (.ofSeconds 200) "evt_1",
    fun _ ↦ .transition "S1" 1 .cancel owner (.ofSeconds 2000)]

def cancelledDb : Db := ops.foldl (fun db op ↦ (op db).next plain db) .fresh

theorem reachable_foldl {ops : List (Db → SchedulerOp)} {db : Db}
    (h : (scheduler plain).Reachable db) :
    (scheduler plain).Reachable (ops.foldl (fun db op ↦ (op db).next plain db) db) := by
  induction ops generalizing db with
  | nil => exact h
  | cons op ops ih => exact ih (h.step rfl)

/-- The result of the job arrives after the cancellation. -/
def saved : SchedulerOp := .recoverWorkRunForResult 0 "J1" "evt_1" (.ofSeconds 3000)

end LateResult

open LateResult DailyReminder in
/-- The result of a job expires the schedule which its owner has cancelled. -/
theorem cancelled_schedule_expires : (scheduler plain).Reachable cancelledDb ∧
    (cancelledDb.schedules.get? "S1").map (·.state) = some .cancelled ∧
    ((saved.next plain cancelledDb).schedules.get? "S1").map (·.state) = some .expired :=
  ⟨reachable_foldl (Reachable.of_initial rfl), by decide, by decide⟩

end Dona
