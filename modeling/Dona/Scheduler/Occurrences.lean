import Dona.Scheduler.Rows
import Dona.Scheduler.System

/-!
# Occurrences are never repeated

Every occurrence of a schedule lies past the watermark, and becomes the watermark. No other
operation moves the watermark, and none sets a next date that is not past it. So the
occurrences of a schedule increase for as long as its row exists, whatever happens to the
run ledger and to the clock.
-/

namespace Dona

open Fallible TransitionSystem

/-- The occurrence an operation records for one schedule. -/
def SchedulerOp.occurrence? (env : Env) (scheduleId : ScheduleId) (db : Db) (op : SchedulerOp) :
    Option Timestamp :=
  (op.recorded? env db).bind fun recorded ↦
    if recorded.1 = scheduleId then some recorded.2 else none

/-- The occurrences that a run records for a schedule, in order. -/
def occurrences (env : Env) (scheduleId : ScheduleId) : Db → List SchedulerOp → List Timestamp
  | _, [] => []
  | db, op :: ops =>
      (op.occurrence? env scheduleId db).toList ++ occurrences env scheduleId (op.next env db) ops

namespace Schedule

/-- The next date of a schedule is past its watermark. -/
def DatesOrdered (row : Schedule) : Prop :=
  ∀ due watermark, row.nextDue = some due → row.highWatermark = some watermark → watermark < due

/-- A step moves the watermark to the occurrence that it records, and only forward. -/
structure Advances (row : Schedule) (occurrence : Option Timestamp) (row' : Schedule) : Prop where
  past : ∀ instant watermark, occurrence = some instant → row.highWatermark = some watermark →
    watermark < instant
  watermark : row'.highWatermark = occurrence.or row.highWatermark
  ordered : row'.DatesOrdered

variable {row row' : Schedule} {scope : Prop}

theorem Keeps.datesOrdered (h : row.Keeps scope row') (hrow : row.DatesOrdered) :
    row'.DatesOrdered := by
  intro due watermark hdue hwatermark
  rw [h.nextDue] at hdue
  rw [h.highWatermark] at hwatermark
  exact hrow due watermark hdue hwatermark

theorem Keeps.advances (h : row.Keeps scope row') (hrow : row.DatesOrdered) :
    row.Advances none row' :=
  ⟨by simp, by simpa using h.highWatermark, h.datesOrdered hrow⟩

/-- The watermark has not gone back. -/
def WatermarkLe (row row' : Schedule) : Prop :=
  ∀ watermark, row.highWatermark = some watermark →
    ∃ watermark', row'.highWatermark = some watermark' ∧ watermark ≤ watermark'

theorem Advances.watermarkLe {occurrence : Option Timestamp} (h : row.Advances occurrence row') :
    row.WatermarkLe row' := by
  intro watermark hwatermark
  cases occurrence with
  | none => exact ⟨watermark, by simpa [hwatermark] using h.watermark, le_rfl⟩
  | some instant =>
      exact ⟨instant, by simpa using h.watermark, (h.past instant watermark rfl hwatermark).le⟩

end Schedule

namespace Db

variable {scope : Scope} {db db' : Db} {id : ScheduleId} {row row' : Schedule}

theorem Evolves.keeps_schedule (h : db.Evolves scope db') (hrow : db.schedules.get? id = some row)
    (hrow' : db'.schedules.get? id = some row') : row.Keeps scope.mayReopen row' := by
  obtain ⟨other, hother, hkeeps⟩ := h.schedules.exists_new hrow
  obtain rfl : other = row' := Option.some.inj (hother.symm.trans hrow')
  exact hkeeps

/-- An occurrence moves the watermark of its schedule to its instant. -/
theorem Occurs.advances {scheduledFor : Timestamp} {nextDue : Option Timestamp} {before : Schedule}
    {run : ScheduleRun} (h : db.Occurs id scheduledFor nextDue before run db')
    (hrow : db.schedules.get? id = some row) (hrow' : db'.schedules.get? id = some row') :
    row.Advances (some scheduledFor) row' := by
  obtain rfl : before = row := Option.some.inj (h.found.symm.trans hrow)
  obtain ⟨materializedAt, hschedules⟩ := h.schedules
  rw [hschedules, Table.get?_updateKey, if_pos rfl, hrow] at hrow'
  obtain rfl := Option.some.inj hrow'
  refine ⟨fun instant watermark hinstant hwatermark ↦ ?_, rfl, fun due watermark hdue hsome ↦ ?_⟩
  · obtain rfl := Option.some.inj hinstant
    exact h.past watermark hwatermark
  · obtain rfl : scheduledFor = watermark := Option.some.inj hsome
    exact h.next due hdue

/-- An occurrence does not touch the row of another schedule. -/
theorem Occurs.get?_schedules {scheduleId : ScheduleId} {scheduledFor : Timestamp}
    {nextDue : Option Timestamp} {before : Schedule} {run : ScheduleRun}
    (h : db.Occurs scheduleId scheduledFor nextDue before run db') (hid : id ≠ scheduleId) :
    db'.schedules.get? id = db.schedules.get? id := by
  obtain ⟨materializedAt, hschedules⟩ := h.schedules
  rw [hschedules, Table.get?_updateKey, if_neg hid]

/-- The next date of every schedule is past its watermark. -/
def DatesOrdered (db : Db) : Prop :=
  ∀ id row, db.schedules.get? id = some row → row.DatesOrdered

/-- A row that exists before and after a step advances by the occurrence that the step
records for it. -/
theorem Effect.advances {recorded : Option (ScheduleId × Timestamp)}
    (h : Effect scope db db' recorded) (hrow : db.schedules.get? id = some row)
    (hrow' : db'.schedules.get? id = some row') (hordered : row.DatesOrdered) :
    row.Advances (recorded.bind fun entry ↦ if entry.1 = id then some entry.2 else none) row' := by
  cases h with
  | frame hevolves => exact (hevolves.keeps_schedule hrow hrow').advances hordered
  | @created scheduleId created fresh active watermark schedules runs outbox nextUuid =>
      rw [schedules] at hrow'
      split_ifs at hrow' with hid
      · rw [hid, fresh] at hrow
        cases hrow
      · obtain rfl : row = row' := Option.some.inj (hrow.symm.trans hrow')
        exact (Schedule.Keeps.refl False row).advances hordered
  | @updated scheduleId before db₁ nextDue updateAt found live past evolves renewed =>
      subst renewed
      simp only [updateSchedule, Table.get?_updateKey] at hrow'
      split_ifs at hrow' with hid
      · subst hid
        obtain rfl : before = row := Option.some.inj (found.symm.trans hrow)
        obtain ⟨old, hold, rfl⟩ := Option.map_eq_some_iff.1 hrow'
        have hwatermark := (evolves.keeps_schedule hrow hold).highWatermark
        refine ⟨by simp, by simpa [updatedRow] using hwatermark, fun due watermark hdue hsome ↦ ?_⟩
        obtain rfl : nextDue = due := Option.some.inj hdue
        exact past watermark (hwatermark.symm.trans hsome)
      · exact (evolves.keeps_schedule hrow hrow').advances hordered
  | @occurred scheduleId scheduledFor nextDue before run db₁ occurs evolves =>
      obtain ⟨middle, hmiddle, hkeeps⟩ := evolves.schedules.exists_old hrow'
      by_cases hid : scheduleId = id
      · subst hid
        have hadvances := occurs.advances hrow hmiddle
        refine ⟨fun instant watermark hinstant ↦ ?_, ?_, hkeeps.datesOrdered hadvances.ordered⟩
        · simp only [Option.bind_some, if_true] at hinstant
          exact hadvances.past instant watermark hinstant
        · simpa using hkeeps.highWatermark.trans hadvances.watermark
      · rw [occurs.get?_schedules (Ne.symm hid)] at hmiddle
        obtain rfl : row = middle := Option.some.inj (hrow.symm.trans hmiddle)
        simpa [hid] using hkeeps.advances hordered
  | purged evolves schedules =>
      exact (evolves.keeps_schedule hrow (schedules id row' hrow')).advances hordered

theorem Effect.datesOrdered {recorded : Option (ScheduleId × Timestamp)}
    (h : Effect scope db db' recorded) (hdb : db.DatesOrdered) : db'.DatesOrdered := by
  intro id row' hrow'
  cases hrow : db.schedules.get? id with
  | some row => exact (h.advances hrow hrow' (hdb id row hrow)).ordered
  | none =>
      -- only a creation inserts a schedule, and its watermark is empty
      cases h with
      | frame hevolves =>
          obtain ⟨row, hold, -⟩ := hevolves.schedules.exists_old hrow'
          rw [hrow] at hold
          cases hold
      | created fresh active watermark schedules =>
          rw [schedules] at hrow'
          split_ifs at hrow' with hid
          · obtain rfl := Option.some.inj hrow'
            intro due instant _ hinstant
            rw [watermark] at hinstant
            cases hinstant
          · rw [hrow] at hrow'
            cases hrow'
      | @updated scheduleId before db₁ nextDue updateAt found live past evolves renewed =>
          subst renewed
          simp only [updateSchedule, Table.get?_updateKey] at hrow'
          have hnone : db₁.schedules.get? id = none := evolves.schedules.get?_eq_none_iff.2 hrow
          split_ifs at hrow' with hid
          · subst hid
            rw [hnone] at hrow'
            cases hrow'
          · rw [hnone] at hrow'
            cases hrow'
      | @occurred scheduleId scheduledFor nextDue before run db₁ occurs evolves =>
          obtain ⟨middle, hmiddle, -⟩ := evolves.schedules.exists_old hrow'
          by_cases hid : scheduleId = id
          · rw [← hid, occurs.found] at hrow
            cases hrow
          · rw [occurs.get?_schedules (Ne.symm hid), hrow] at hmiddle
            cases hmiddle
      | purged evolves schedules =>
          obtain ⟨row, hold, -⟩ := evolves.schedules.exists_old (schedules id row' hrow')
          rw [hrow] at hold
          cases hold

end Db

section Runs

variable {env : Env} {db : Db} {id : ScheduleId} {row : Schedule} {ops : List SchedulerOp}

theorem datesOrdered_of_reachable (h : (scheduler env).Reachable db) : db.DatesOrdered := by
  refine h.invariant (fun hinit id row hrow ↦ ?_) fun {db op db'} hstep hdb ↦ ?_
  · obtain rfl := hinit
    cases hrow
  · obtain rfl : db' = op.next env db := hstep
    exact (SchedulerOp.effect env db op).datesOrdered hdb

/-- An occurrence of a step is an instant of whole seconds. -/
theorem ms_of_occurrence? {op : SchedulerOp} {instant : Timestamp}
    (h : op.occurrence? env id db = some instant) : instant.ms = none := by
  have heffect := SchedulerOp.effect env db op
  simp only [SchedulerOp.occurrence?, Option.bind_eq_some_iff] at h
  obtain ⟨recorded, hrecorded, h⟩ := h
  rw [hrecorded] at heffect
  cases heffect with
  | occurred occurs evolves =>
      split_ifs at h
      obtain rfl := Option.some.inj h
      exact occurs.utc

theorem ms_of_mem_occurrences {instant : Timestamp} (h : instant ∈ occurrences env id db ops) :
    instant.ms = none := by
  induction ops generalizing db with
  | nil => cases h
  | cons op ops ih =>
      rw [occurrences, List.mem_append, Option.mem_toList] at h
      rcases h with hfirst | hlater
      · exact ms_of_occurrence? hfirst
      · exact ih hlater

/-- The run lemma: the row at the end of a run has advanced past every occurrence. -/
theorem run_advances (hdb : db.DatesOrdered) (hrow : db.schedules.get? id = some row)
    (hops : StepsMeet (RowRemains env id) (SchedulerOp.next env) db ops) :
    ∃ row', (ops.foldl (SchedulerOp.next env) db).schedules.get? id = some row' ∧
      row.WatermarkLe row' ∧ row'.DatesOrdered ∧
      (occurrences env id db ops).Pairwise (· < ·) ∧
      ∀ instant ∈ occurrences env id db ops,
        ∀ watermark, row.highWatermark = some watermark → watermark < instant := by
  induction ops generalizing db row with
  | nil =>
      refine ⟨row, hrow, fun watermark hsome ↦ ⟨watermark, hsome, le_rfl⟩, hdb id row hrow, .nil,
        fun instant hmem ↦ ?_⟩
      cases hmem
  | cons op ops ih =>
      obtain ⟨hremains, hrest⟩ := hops
      obtain ⟨next, hnext⟩ := Option.ne_none_iff_exists'.1 hremains
      have heffect := SchedulerOp.effect env db op
      have hadvances : row.Advances (op.occurrence? env id db) next :=
        heffect.advances hrow hnext (hdb id row hrow)
      obtain ⟨row', hrow', hle, hordered, hpairwise, hpast⟩ :=
        ih (heffect.datesOrdered hdb) hnext hrest
      refine ⟨row', hrow', fun watermark hsome ↦ ?_, hordered, ?_,
        fun instant hmem watermark hsome ↦ ?_⟩
      · obtain ⟨middle, hmiddle, hle₁⟩ := hadvances.watermarkLe watermark hsome
        obtain ⟨last, hlast, hle₂⟩ := hle middle hmiddle
        exact ⟨last, hlast, hle₁.trans hle₂⟩
      · rw [occurrences, List.pairwise_append]
        refine ⟨by cases op.occurrence? env id db <;> simp, hpairwise,
          fun instant hmem later hlater ↦ ?_⟩
        rw [Option.mem_toList] at hmem
        exact hpast later hlater instant (by rw [hadvances.watermark, hmem]; rfl)
      · rw [occurrences, List.mem_append, Option.mem_toList] at hmem
        rcases hmem with hfirst | hlater
        · exact hadvances.past instant watermark hfirst hsome
        · obtain ⟨middle, hmiddle, hle₁⟩ := hadvances.watermarkLe watermark hsome
          exact hle₁.trans_lt (hpast instant hlater middle hmiddle)

/-- While the row of a schedule exists, its occurrences increase, none of them is repeated and
its watermark never goes back, across revisions, deleted runs and a clock that rewinds. -/
theorem occurrences_unique (hreach : (scheduler env).Reachable db)
    (hrow : db.schedules.get? id = some row)
    (hops : StepsMeet (RowRemains env id) (SchedulerOp.next env) db ops) :
    (occurrences env id db ops).Pairwise (· < ·) ∧
      ((occurrences env id db ops).map Timestamp.millis).Nodup ∧
      ∃ row', (ops.foldl (SchedulerOp.next env) db).schedules.get? id = some row' ∧
        (∀ watermark, row.highWatermark = some watermark →
          (∃ watermark', row'.highWatermark = some watermark' ∧ watermark ≤ watermark') ∧
          ∀ instant ∈ occurrences env id db ops, watermark < instant) ∧
        ∀ due watermark, row'.nextDue = some due → row'.highWatermark = some watermark →
          watermark < due := by
  obtain ⟨row', hrow', hle, hordered, hpairwise, hpast⟩ :=
    run_advances (datesOrdered_of_reachable hreach) hrow hops
  refine ⟨hpairwise, ?_, row', hrow', fun watermark hsome ↦ ⟨hle watermark hsome,
    fun instant hmem ↦ hpast instant hmem watermark hsome⟩, hordered⟩
  rw [List.Nodup, List.pairwise_map]
  refine hpairwise.imp_of_mem fun hmem hmem' hlt ↦ ?_
  exact (Timestamp.millis_lt_millis (ms_of_mem_occurrences hmem) (ms_of_mem_occurrences hmem')
    hlt).ne

end Runs

open DailyReminder in
theorem occurrences_unique_daily :
    ∃ row', ([occursAt 100, occursAt 86500].foldl (SchedulerOp.next plain)
      (created.next plain .fresh)).schedules.get? "S1" = some row' ∧
      occurrences plain "S1" (created.next plain .fresh)
        [occursAt 100, occursAt 86500] = [.ofSeconds 100, .ofSeconds 86500] := by
  obtain ⟨row, hrow⟩ := Option.ne_none_iff_exists'.1
    (show (created.next plain .fresh).schedules.get? "S1" ≠ none by decide)
  have hops : StepsMeet (RowRemains plain "S1") (SchedulerOp.next plain)
      (created.next plain .fresh) [occursAt 100, occursAt 86500] :=
    ⟨by unfold RowRemains; decide, by unfold RowRemains; decide, trivial⟩
  obtain ⟨-, -, row', hrow', -⟩ := occurrences_unique reachable_created hrow hops
  exact ⟨row', hrow', by decide⟩

end Dona
