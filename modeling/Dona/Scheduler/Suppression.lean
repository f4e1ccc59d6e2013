import Dona.Scheduler.Support

/-!
# The rows of a suppression

What a suppression makes of each write and of each run of a schedule, row by row. An expiry adds
nothing to it, and a completion changes neither writes nor runs.
-/

namespace Dona

namespace Db

variable {db : Db} {scheduleId : ScheduleId} {now : Timestamp} {reason : RunReason}

/-- A write after the suppression: an unsent one is cancelled, and where the authorization has
expired the text of a cancelled or a started one goes a week after the expiry at the latest. -/
def suppressedWrite (db : Db) (scheduleId : ScheduleId) (now : Timestamp) (reason : RunReason)
    (row : Outbox) : Outbox :=
  let row := if db.runOf scheduleId row.runId ∧ isUnsent row then cancelUnsent now row else row
  if reason = .authorizationExpired ∧ db.runOf scheduleId row.runId ∧
      (row.status = .cancelled ∨ row.status = .requestStarted) then
    ((db.expiryDeadline row).map (capContentDeleteAt · row)).getD row
  else row

/-- A run after the suppression: one that is materialized is cancelled, unless its write has been
started. -/
def suppressedRun (db : Db) (scheduleId : ScheduleId) (now : Timestamp) (reason : RunReason)
    (runId : Uuid) (run : ScheduleRun) : ScheduleRun :=
  if run.scheduleId = scheduleId ∧ run.status = .materialized ∧
      db.hasStartedWrite runId = false then
    { run with status := .cancelled, reason := some reason, terminalAt := some now }
  else run

theorem get?_outbox_capExpiringContent (outboxId : Uuid) :
    (db.capExpiringContent scheduleId).outbox.get? outboxId =
      (db.outbox.get? outboxId).map fun row ↦
        if db.runOf scheduleId row.runId ∧
            (row.status = .cancelled ∨ row.status = .requestStarted) then
          ((db.expiryDeadline row).map (capContentDeleteAt · row)).getD row
        else row := by
  simp only [capExpiringContent, Table.get?_updateWhere, decide_eq_true_eq]

theorem get?_outbox_cancelUnsent {p : Uuid → Outbox → Bool} (outboxId : Uuid) :
    (db.updateOutbox p (cancelUnsent now)).outbox.get? outboxId =
      (db.outbox.get? outboxId).map fun row ↦
        if p outboxId row then cancelUnsent now row else row := by
  simp only [updateOutbox, Table.get?_updateWhere]

theorem get?_outbox_suppress (outboxId : Uuid) :
    (db.suppress scheduleId now reason).outbox.get? outboxId =
      (db.outbox.get? outboxId).map (db.suppressedWrite scheduleId now reason) := by
  set cancelled := db.updateOutbox (fun _ row ↦ db.runOf scheduleId row.runId ∧ isUnsent row)
    (cancelUnsent now) with hcancelled
  have hafter : (db.suppress scheduleId now reason).outbox =
      (if reason = .authorizationExpired then cancelled.capExpiringContent scheduleId
        else cancelled).outbox := rfl
  have hruns : ∀ runId, cancelled.runOf scheduleId runId = db.runOf scheduleId runId :=
    fun _ ↦ rfl
  have hdeadline : ∀ row, cancelled.expiryDeadline row = db.expiryDeadline row := fun _ ↦ rfl
  have hget : cancelled.outbox.get? outboxId = (db.outbox.get? outboxId).map fun row ↦
      if db.runOf scheduleId row.runId ∧ isUnsent row then cancelUnsent now row else row := by
    rw [hcancelled, get?_outbox_cancelUnsent]
    simp only [decide_eq_true_eq]
  rw [hafter]
  split_ifs with hreason
  · rw [get?_outbox_capExpiringContent, hget, Option.map_map]
    congr 1
    funext row
    simp only [Function.comp_apply, suppressedWrite, hreason, true_and, hruns, hdeadline]
  · rw [hget]
    congr 1
    funext row
    simp only [suppressedWrite, hreason, false_and, if_false]

/-! ### What a suppression leaves alone -/

theorem schedules_suppress : (db.suppress scheduleId now reason).schedules = db.schedules := by
  unfold suppress
  dsimp only
  split_ifs <;> rfl

theorem suppressedWrite_runId (row : Outbox) :
    (db.suppressedWrite scheduleId now reason row).runId = row.runId := by
  unfold suppressedWrite
  have hcancelled : (if db.runOf scheduleId row.runId ∧ isUnsent row then cancelUnsent now row
      else row).runId = row.runId := by
    split_ifs <;> rfl
  generalize (if db.runOf scheduleId row.runId ∧ isUnsent row then cancelUnsent now row
    else row) = cancelled at *
  dsimp only
  split_ifs
  · cases db.expiryDeadline cancelled <;> exact hcancelled
  · exact hcancelled

theorem suppressedWrite_kind (row : Outbox) :
    (db.suppressedWrite scheduleId now reason row).kind = row.kind := by
  unfold suppressedWrite
  have hcancelled : (if db.runOf scheduleId row.runId ∧ isUnsent row then cancelUnsent now row
      else row).kind = row.kind := by
    split_ifs <;> rfl
  generalize (if db.runOf scheduleId row.runId ∧ isUnsent row then cancelUnsent now row
    else row) = cancelled at *
  dsimp only
  split_ifs
  · cases db.expiryDeadline cancelled <;> exact hcancelled
  · exact hcancelled

theorem suppressedWrite_attempt (row : Outbox) :
    (db.suppressedWrite scheduleId now reason row).attempt = row.attempt := by
  unfold suppressedWrite
  have hcancelled : (if db.runOf scheduleId row.runId ∧ isUnsent row then cancelUnsent now row
      else row).attempt = row.attempt := by
    split_ifs <;> rfl
  generalize (if db.runOf scheduleId row.runId ∧ isUnsent row then cancelUnsent now row
    else row) = cancelled at *
  dsimp only
  split_ifs
  · cases db.expiryDeadline cancelled <;> exact hcancelled
  · exact hcancelled

/-- No unsent write of the schedule is left. -/
theorem suppressedWrite_status (row : Outbox) :
    (db.suppressedWrite scheduleId now reason row).status =
      if db.runOf scheduleId row.runId ∧ isUnsent row then .cancelled else row.status := by
  unfold suppressedWrite
  have hcancelled : (if db.runOf scheduleId row.runId ∧ isUnsent row then cancelUnsent now row
      else row).status = if db.runOf scheduleId row.runId ∧ isUnsent row then .cancelled
        else row.status := by
    split_ifs <;> rfl
  rw [← hcancelled]
  generalize (if db.runOf scheduleId row.runId ∧ isUnsent row then cancelUnsent now row
    else row) = cancelled
  dsimp only
  split_ifs
  · cases db.expiryDeadline cancelled <;> rfl
  · rfl

theorem outbox_completeIfDrained : (db.completeIfDrained scheduleId now).outbox = db.outbox := by
  unfold completeIfDrained
  split
  · rfl
  split
  · rfl
  split_ifs <;> rfl

theorem runs_completeIfDrained : (db.completeIfDrained scheduleId now).runs = db.runs := by
  unfold completeIfDrained
  split
  · rfl
  split
  · rfl
  split_ifs <;> rfl

/-- The instant at which a schedule expires: not before anything it has recorded. -/
def expiryInstant (before : Schedule) (now : Timestamp) : Timestamp :=
  now.latest [before.createdAt, before.updatedAt, before.terminalAt.getD before.createdAt]

theorem runs_expireSchedule {before : Schedule} :
    (db.expireSchedule scheduleId before now).runs =
      (db.suppress scheduleId (expiryInstant before now) .authorizationExpired).runs :=
  runs_completeIfDrained

end Db

end Dona
