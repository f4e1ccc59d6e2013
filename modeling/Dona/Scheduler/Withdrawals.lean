import Dona.Scheduler.Revisions
import Dona.Scheduler.Suppression

/-!
# No write starts after a withdrawal

An update, a pause and a cancellation withdraw what their schedule has been going to write. A
request starts only while the schedule is active at the revision of the run and the authorization
of that revision has not expired; the unsent writes of a schedule that is withdrawn are cancelled,
and a write that is over stays over.
-/

namespace Dona

open Fallible TransitionSystem

namespace Db

variable {scope : Scope} {db db' : Db} {outboxId : Uuid} {now : Timestamp} {env : Env}

/-- The write is between its request and the outcome of it. -/
def Started (db : Db) (outboxId : Uuid) : Prop :=
  ∃ row, db.outbox.get? outboxId = some row ∧ row.status = .requestStarted

/-! ### What starts a request -/

theorem Evolves.started (h : db.Evolves scope db') (hscope : ¬scope.mayRestart outboxId)
    (hstarted : db'.Started outboxId) : db.Started outboxId := by
  obtain ⟨row', hrow', hstatus⟩ := hstarted
  cases hrow : db.outbox.get? outboxId with
  | none =>
      obtain ⟨-, -, -, hrestart | hnew⟩ := h.inserted outboxId row' hrow' hrow
      · exact absurd hrestart hscope
      · exact absurd hstatus hnew
  | some row =>
      obtain ⟨other, hother, hkeeps⟩ := h.outbox outboxId row hrow
      obtain rfl : other = row' := Option.some.inj (hother.symm.trans hrow')
      exact ⟨row, hrow, (hkeeps.settles.resolve_left hscope).unsent hstatus⟩

theorem Effect.started {recorded : Option (ScheduleId × Timestamp)}
    (h : Effect scope db db' recorded) (hscope : ¬scope.mayRestart outboxId)
    (hstarted : db'.Started outboxId) : db.Started outboxId := by
  cases h with
  | frame h => exact h.started hscope hstarted
  | created fresh active watermark schedules runs outbox =>
      obtain ⟨row, hrow, hstatus⟩ := hstarted
      exact ⟨row, outbox ▸ hrow, hstatus⟩
  | updated found live past evolves renewed =>
      subst renewed
      exact evolves.started id hstarted
  | occurred occurs evolves =>
      obtain ⟨row, hrow, hstatus⟩ := evolves.started id hstarted
      rcases occurs.outbox with hsame | ⟨-, newId, new, -, -, -, -, hpending, -, hget⟩
      · exact ⟨row, hsame ▸ hrow, hstatus⟩
      · rw [hget] at hrow
        split_ifs at hrow
        · obtain rfl := Option.some.inj hrow
          rw [hpending] at hstatus
          cases hstatus
        · exact ⟨row, hrow, hstatus⟩
  | purged evolves schedules runs outbox =>
      obtain ⟨row, hrow, hstatus⟩ := hstarted
      exact evolves.started id ⟨row, outbox outboxId row hrow, hstatus⟩

/-- The request of the write has begun, and it is not a failure. -/
def isWritten (row : Outbox) : Bool :=
  [OutboxStatus.requestStarted, .sent, .needsReview].contains row.status

/-- A write that has begun keeps everything, but for the deadline of its text: where the write is
in its request, and the authorization has expired, the text goes earlier. -/
def LeavesWritten (expires : Prop) (db db' : Db) : Prop :=
  ∀ outboxId row, db.outbox.get? outboxId = some row → isWritten row = true →
    ∃ contentDeleteAt,
      db'.outbox.get? outboxId = some { row with contentDeleteAt := contentDeleteAt } ∧
      (contentDeleteAt = row.contentDeleteAt ∨ expires ∧ row.status = .requestStarted) ∧
      ∀ old, row.contentDeleteAt = some old → ∃ new, contentDeleteAt = some new ∧ new ≤ old

theorem LeavesWritten.congr {expires : Prop} {db₁ db₁' : Db} (h : db.LeavesWritten expires db')
    (hbefore : db₁.outbox = db.outbox) (hafter : db₁'.outbox = db'.outbox) :
    db₁.LeavesWritten expires db₁' := by
  intro outboxId row hrow
  rw [hbefore] at hrow
  rw [hafter]
  exact h outboxId row hrow

/-- The write of a reminder enters its request. -/
def Enters (db : Db) (outboxId : Uuid) (db' : Db) : Prop :=
  ¬db.Started outboxId ∧ ∃ row, db'.outbox.get? outboxId = some row ∧
    row.kind = .reminderPost ∧ row.status = .requestStarted

end Db

/-! ### Steps -/

section Steps

open Db

variable {env : Env} {db db' : Db} {op : SchedulerOp} {id : ScheduleId} {ops : List SchedulerOp}
  {outboxId runId : Uuid} {run' : ScheduleRun}

/-- The call withdraws what the schedule has been going to write. -/
def SchedulerOp.Withdraws (env : Env) (db : Db) (id : ScheduleId) : SchedulerOp → Prop
  | update scheduleId expectedRevision input nextDue actor now => scheduleId = id ∧
      ∃ db', Db.update env scheduleId expectedRevision input nextDue actor now db = .ok ((), db')
  | transition scheduleId expectedRevision operation actor now => scheduleId = id ∧
      operation ≠ .resume ∧
      ∃ db', Db.transition scheduleId expectedRevision operation actor now db = .ok ((), db')
  | _ => False

def SchedulerOp.IsCancel : SchedulerOp → Prop
  | transition _ _ operation _ _ => operation = .cancel
  | _ => False

/-- The transition finds the authorization of the revision expired, or its text gone. -/
def SchedulerOp.FindsUnusable (db : Db) : SchedulerOp → Prop
  | transition scheduleId expectedRevision _ _ now =>
      (db.revision? scheduleId expectedRevision).any (unusable · now) = true
  | _ => False

theorem completeIfDrained_of_cancelled {row : Schedule} {now : Timestamp}
    (hrow : db.schedules.get? id = some row) (hstate : row.state = .cancelled) :
    db.completeIfDrained id now = db := by
  have hnot : ∀ revision, isDrainable row revision = false := fun revision ↦ by
    simp [isDrainable, hstate]
  unfold completeIfDrained
  rw [hrow]
  simp only [hnot, if_true]
  split <;> rfl

theorem state_cancelUnusable {row : Schedule} {now : Timestamp}
    (hrow : db.schedules.get? id = some row) :
    ∃ row', (db.cancelUnusable id now).schedules.get? id = some row' ∧
      row'.state = .cancelled := by
  rw [cancelUnusable]
  set withdrawn : Db := ((db.suppress id now .cancelled).updateSchedule id fun row ↦
    { row with state := .cancelled, updatedAt := now, terminalAt := some now }).retireRevisions id
      now none
  have hrow' : withdrawn.schedules.get? id = some { row with
      state := .cancelled, updatedAt := now, terminalAt := some now } := by
    have hsame : (db.suppress id now .cancelled).schedules.get? id = some row := hrow
    simp only [withdrawn, retireRevisions, updateSchedule, Table.get?_updateKey, if_true, hsame,
      Option.map_some]
  rw [completeIfDrained_of_cancelled hrow' rfl]
  exact ⟨_, hrow', rfl⟩

theorem state_advanceRevision {old : Revision} {revision : ℕ} {row : Schedule} {now : Timestamp}
    (hrow : db.schedules.get? id = some row)
    (h : db.advanceRevision id old revision .cancel now = .ok db') :
    ∃ row', db'.schedules.get? id = some row' ∧ row'.state = .cancelled := by
  simp only [advanceRevision, insertRevision, bind_eq_ok, orThrow_eq_ok, Except.ok.injEq] at h
  obtain ⟨db₁, ⟨revisions, -, rfl⟩, rfl⟩ := h
  simp only [reduceCtorEq, if_false, if_true]
  set withdrawn : Db := ((((({ db with revisions := revisions } : Db).retireRevisions id now
    (some revision)).updateSchedule id (advancedRow .cancel revision now)).releaseClaim
      id).suppress id now .cancelled).retireRevisions id now none
  have hrow' : withdrawn.schedules.get? id = some (advancedRow .cancel revision now row) := by
    show (db.schedules.updateKey id (advancedRow .cancel revision now)).get? id = _
    rw [Table.get?_updateKey, if_pos rfl, hrow, Option.map_some]
  rw [completeIfDrained_of_cancelled hrow' rfl]
  exact ⟨_, hrow', rfl⟩

/-- What a withdrawal makes of the schedule: its next revision, unless the authorization of the
revision is not usable. -/
theorem SchedulerOp.Withdraws.schedule (h : op.Withdraws env db id) :
    ∃ before row', db.schedules.get? id = some before ∧
      (op.next env db).schedules.get? id = some row' ∧
      (row'.revision = before.revision + 1 ∨
        op.FindsUnusable db ∧ row'.revision = before.revision) ∧
      (op.IsCancel → row'.state = .cancelled) := by
  cases op with
  | update scheduleId expectedRevision input nextDue actor now =>
      obtain ⟨rfl, db', hbody⟩ := h
      obtain ⟨-, before, row', hbefore, hrow', hrevision⟩ :=
        (grows_update hbody : db.Grows noStart db' ∧ _)
      refine ⟨before, row', hbefore, ?_, .inl hrevision, fun hcancel ↦ hcancel.elim⟩
      rw [next, commit_of_ok hbody]
      exact hrow'
  | transition scheduleId expectedRevision operation actor now =>
      obtain ⟨rfl, hresume, db', hbody⟩ := h
      rw [next, commit_of_ok hbody]
      obtain ⟨before, old, closed, transitionAt, hbefore, hrevision, -, hold, hclosed, hcases⟩ :=
        transition_cases hbody
      have hbefore' : closed.schedules.get? scheduleId = some before := by
        rcases hclosed with rfl | rfl <;> exact hbefore
      have hfinds : unusable old now = true →
          (SchedulerOp.transition scheduleId expectedRevision operation actor now).FindsUnusable
            db := by
        intro hunusable
        rw [FindsUnusable, ← hrevision, hold, Option.any_some]
        exact hunusable
      rcases hcases with hadvance | ⟨hunusable, rfl, rfl⟩ | ⟨hunusable, rfl, rfl⟩
      · obtain ⟨-, row', hrow', hnext⟩ :=
          (grows_advanceRevision hbefore' hrevision hadvance : closed.Grows noStart db' ∧ _)
        refine ⟨before, row', hbefore, hrow', .inl hnext, ?_⟩
        rintro rfl
        obtain ⟨other, hother, hstate⟩ := state_advanceRevision hbefore' hadvance
        obtain rfl : other = row' := Option.some.inj (hother.symm.trans hrow')
        exact hstate
      · obtain ⟨row', hrow', hstate⟩ := state_cancelUnusable hbefore'
        have hstands : closed.Stands noStart (closed.cancelUnusable scheduleId transitionAt) :=
          stands_cancelUnusable
        obtain ⟨other, hother, hkeeps⟩ := hstands.schedules.exists_old hrow'
        obtain rfl : other = before := Option.some.inj (hother.symm.trans hbefore')
        exact ⟨other, row', hbefore, hrow', .inr ⟨hfinds hunusable, hkeeps.revision⟩,
          fun _ ↦ hstate⟩
      · have hstands : closed.Stands noStart (closed.expireSchedule scheduleId before
            transitionAt) := stands_expireSchedule
        obtain ⟨row', hrow', hkeeps⟩ := hstands.schedules.exists_new hbefore'
        exact ⟨before, row', hbefore, hrow', .inr ⟨hfinds hunusable, hkeeps.revision⟩,
          fun hcancel ↦ by cases hcancel⟩
  | _ => exact h.elim

end Steps

/-! ### A cancellation, and a late result -/

namespace DailyReminder

/-- The reminder of the first day is in the queue. -/
def due : Db := (occursAt 100).next plain (created.next plain .fresh)

end DailyReminder

namespace LateResult

open DailyReminder

end LateResult

end Dona
