import Dona.Scheduler.AtMostOnce
import Dona.Scheduler.Endings
import Dona.Scheduler.Standing

/-!
# Runs belong to revisions

The revision of a schedule only grows, and a run keeps the revision it was recorded under. So a
run whose revision lags behind its schedule lags behind for good, and the rows that a run refers
to are there for as long as the run is.
-/

namespace Dona

open Fallible TransitionSystem

namespace Db

/-- The revision of the run is there, and its schedule is at least `gap` revisions past it. -/
structure Lags (db : Db) (gap : ℕ) (run : ScheduleRun) : Prop where
  schedule : ∃ row, db.schedules.get? run.scheduleId = some row ∧ run.revision + gap ≤ row.revision
  revision : ∃ row, db.revision? run.scheduleId run.revision = some row

/-- What an operation that deletes nothing does to the rows a run refers to. -/
structure Grows (starts : Uuid → Prop) (db db' : Db) : Prop where
  schedules : db.schedules.Extends (fun _ row row' ↦ row.revision ≤ row'.revision) db'.schedules
  revisions : db.revisions.Extends (fun _ ↦ Revision.Stands) db'.revisions
  runs : db.runs.Extends (fun runId ↦ ScheduleRun.Stands (starts runId)) db'.runs
  inserted : ∀ runId run', db'.runs.get? runId = some run' → db.runs.get? runId = none →
    run'.status ≠ .started ∧ db'.Lags 0 run'

variable {starts : Uuid → Prop} {db db' db'' : Db} {scheduleId : ScheduleId} {runId : Uuid}
  {now : Timestamp} {env : Env} {u : Unit} {gap : ℕ}

theorem Lags.of_grows {run run' : ScheduleRun} {P : Prop} (h : db.Lags gap run)
    (hgrows : db.Grows starts db') (hrun : run.Stands P run') : db'.Lags gap run' := by
  obtain ⟨⟨row, hrow, hle⟩, revision, hrevision⟩ := h
  obtain ⟨row', hrow', hle'⟩ := hgrows.schedules _ _ hrow
  obtain ⟨revision', hrevision', -⟩ := hgrows.revisions _ _ hrevision
  constructor
  · exact ⟨row', hrun.scheduleId ▸ hrow', hrun.revision ▸ hle.trans hle'⟩
  · refine ⟨revision', ?_⟩
    rw [hrun.scheduleId, hrun.revision]
    exact hrevision'

theorem Lags.mono {run : ScheduleRun} {gap' : ℕ} (h : db.Lags gap run) (hle : gap' ≤ gap) :
    db.Lags gap' run := by
  obtain ⟨⟨row, hrow, hrevision⟩, hrest⟩ := h
  exact ⟨⟨row, hrow, by omega⟩, hrest⟩

theorem Stands.grows (h : db.Stands starts db') : db.Grows starts db' where
  schedules := h.schedules.extends.mono fun hrow ↦ hrow.revision.ge
  revisions := h.revisions.extends
  runs := h.runs.extends
  inserted runId run' hrun' hnone := by
    rw [h.runs.get?_eq_none_iff.2 hnone] at hrun'
    cases hrun'

/-- An operation that leaves schedules, revisions and runs alone. -/
theorem Grows.of_eq (hschedules : db'.schedules = db.schedules)
    (hrevisions : db'.revisions = db.revisions) (hruns : db'.runs = db.runs) :
    db.Grows starts db' := by
  have hstands : db.Stands starts { db' with claims := db.claims } :=
    .of_eq rfl hschedules hrevisions hruns
  have hgrows := hstands.grows
  exact ⟨hgrows.schedules, hgrows.revisions, hgrows.runs, fun runId run' hrun' hnone ↦
    ⟨(hgrows.inserted runId run' hrun' hnone).1, (hgrows.inserted runId run' hrun' hnone).2.1,
      (hgrows.inserted runId run' hrun' hnone).2.2⟩⟩

theorem Grows.refl (starts : Uuid → Prop) (db : Db) : db.Grows starts db := .of_eq rfl rfl rfl

/-- Operations compose where the later one starts no run that the earlier one inserts. -/
theorem Grows.trans (h : db.Grows starts db') (h' : db'.Grows noStart db'') :
    db.Grows starts db'' where
  schedules := h.schedules.comp h'.schedules fun ha hb ↦ ha.trans hb
  revisions := h.revisions.comp h'.revisions fun ha hb ↦ ha.trans hb
  runs := h.runs.comp h'.runs fun ha hb ↦ ha.trans
    ⟨hb.scheduleId, hb.revision, hb.createdAt, hb.started.imp_left False.elim⟩
  inserted runId run'' hrun'' hnone := by
    cases hrun' : db'.runs.get? runId with
    | none => exact h'.inserted runId run'' hrun'' hrun'
    | some run' =>
        obtain ⟨hstatus, hlags⟩ := h.inserted runId run' hrun' hnone
        obtain ⟨other, hother, hstands⟩ := h'.runs runId run' hrun'
        obtain rfl : other = run'' := Option.some.inj (hother.symm.trans hrun'')
        exact ⟨fun hstarted ↦ hstatus (hstands.started.resolve_left id hstarted),
          hlags.of_grows h' hstands⟩

theorem Grows.of_noStart (h : db.Grows noStart db') : db.Grows starts db' where
  schedules := h.schedules
  revisions := h.revisions
  runs := h.runs.mono fun hrun ↦
    ⟨hrun.scheduleId, hrun.revision, hrun.createdAt, hrun.started.imp_left False.elim⟩
  inserted := h.inserted

/-! ### The statements that move a revision -/

theorem grows_insertRevision {revision : ℕ} {row : Revision}
    (h : db.insertRevision scheduleId revision row = .ok db') : db.Grows starts db' := by
  simp only [insertRevision, orThrow_bind_eq_ok, Except.ok.injEq] at h
  obtain ⟨revisions, hinsert, rfl⟩ := h
  have hsame : db.Grows starts db := .refl starts db
  refine ⟨hsame.schedules, Table.extends_insert? (fun _ ↦ .refl) hinsert, hsame.runs, ?_⟩
  intro runId run' hrun' hnone
  rw [show db.runs.get? runId = some run' from hrun'] at hnone
  cases hnone

theorem grows_updateSchedule {f : Schedule → Schedule}
    (h : ∀ row, db.schedules.get? scheduleId = some row → row.revision ≤ (f row).revision) :
    db.Grows starts (db.updateSchedule scheduleId f) := by
  have hsame : db.Grows starts db := .refl starts db
  refine ⟨?_, hsame.revisions, hsame.runs, ?_⟩
  · have hevolves : db.schedules.Evolves (fun _ row row' ↦ row.revision ≤ row'.revision)
        (db.schedules.updateKey scheduleId f) := Table.evolves_updateKey (fun _ _ ↦ le_rfl) h
    exact hevolves.extends
  · intro runId run' hrun' hnone
    rw [show db.runs.get? runId = some run' from hrun'] at hnone
    cases hnone

/-- An update takes the schedule to its next revision. -/
theorem grows_update {expectedRevision : ℕ} {input : RevisionInput} {nextDue : Timestamp}
    {actor : Actor}
    (h : db.update env scheduleId expectedRevision input nextDue actor now = .ok (u, db')) :
    db.Grows starts db' ∧ ∃ before row', db.schedules.get? scheduleId = some before ∧
      db'.schedules.get? scheduleId = some row' ∧ row'.revision = before.revision + 1 := by
  simp only [update, bind_eq_ok, throwIf_eq_ok, Except.ok.injEq, Prod.mk.injEq] at h
  obtain ⟨_, -, _, -, before, hchecked, _, -, _, -, _, -, _, -, _, -, db₁, hinsert, -, rfl⟩ := h
  obtain ⟨hbefore, -⟩ := checked_spec hchecked
  set updateAt := now.latest [before.createdAt, before.updatedAt,
    before.terminalAt.getD before.createdAt]
  have hretired : db.Stands noStart ((db.suppress scheduleId updateAt .revisionReplaced).retireRevisions
      scheduleId updateAt (some expectedRevision)) := stands_suppress.trans stands_retireRevisions
  have hinserted : db.Grows starts db₁ :=
    hretired.grows.of_noStart.trans (grows_insertRevision hinsert)
  refine ⟨hinserted.trans (grows_updateSchedule fun row _ ↦ Nat.le_succ _), before, ?_⟩
  obtain ⟨row, hrow, hstands⟩ := hretired.schedules.exists_new hbefore
  have hsame : db₁.schedules.get? scheduleId = some row := by
    rw [← hrow]
    simp only [insertRevision, orThrow_bind_eq_ok, Except.ok.injEq] at hinsert
    obtain ⟨revisions, -, rfl⟩ := hinsert
    rfl
  refine ⟨updatedRow nextDue updateAt row, hbefore, ?_, ?_⟩
  · simp only [updateSchedule, Table.get?_updateKey, if_true, hsame, Option.map_some]
  · simp only [updatedRow, hstands.revision]

theorem grows_advanceRevision {old : Revision} {revision : ℕ} {operation : TransitionOperation}
    {before : Schedule} (hbefore : db.schedules.get? scheduleId = some before)
    (hrevision : before.revision = revision)
    (h : db.advanceRevision scheduleId old revision operation now = .ok db') :
    db.Grows starts db' ∧ ∃ row', db'.schedules.get? scheduleId = some row' ∧
      row'.revision = before.revision + 1 := by
  simp only [advanceRevision, bind_eq_ok, Except.ok.injEq] at h
  obtain ⟨db₁, hinsert, rfl⟩ := h
  set retired := db₁.retireRevisions scheduleId now (some revision)
  have hretired : db₁.Stands noStart retired := stands_retireRevisions
  have hbefore₁ : retired.schedules.get? scheduleId = some before := by
    rw [← hbefore]
    simp only [insertRevision, orThrow_bind_eq_ok, Except.ok.injEq] at hinsert
    obtain ⟨revisions, -, rfl⟩ := hinsert
    rfl
  set updated := retired.updateSchedule scheduleId (advancedRow operation revision now)
  have hupdated : retired.Grows noStart updated := by
    refine grows_updateSchedule fun row hrow ↦ ?_
    obtain rfl : before = row := Option.some.inj (hbefore₁.symm.trans hrow)
    simp only [advancedRow]
    omega
  set advanced := updated.releaseClaim scheduleId
  have hadvanced : retired.Grows noStart advanced := by
    have hreleased : updated.Grows noStart advanced := .of_eq rfl rfl rfl
    exact hupdated.trans hreleased
  have hrow : advanced.schedules.get? scheduleId = some (advancedRow operation revision now before) := by
    simp only [advanced, updated, releaseClaim, updateSchedule, Table.get?_updateKey, if_true, hbefore₁,
      Option.map_some]
  have hsuppressed : ∀ db : Db, db.Stands noStart (if operation = .resume then db else
      db.suppress scheduleId now .cancelled) := fun db ↦ .ite (.refl _ _) stands_suppress
  have hended : ∀ db : Db, db.Stands noStart (if operation = .cancel then
      db.retireRevisions scheduleId now none else db) := fun db ↦
    .ite stands_retireRevisions (.refl _ _)
  have hcompleted : ∀ db : Db, db.Stands noStart (db.completeIfDrained scheduleId now) := fun db ↦
    stands_completeIfDrained
  have hrest := ((hsuppressed advanced).trans (hended _)).trans (hcompleted _)
  constructor
  · have hinserted : db.Grows starts db₁ := grows_insertRevision hinsert
    exact ((hinserted.trans hretired.grows).trans hadvanced).trans hrest.grows
  · obtain ⟨row', hrow', hstands⟩ := hrest.schedules.exists_new hrow
    refine ⟨row', hrow', ?_⟩
    rw [hstands.revision]
    simp only [advancedRow]
    omega

/-- A transition advances the revision, unless the authorization of the revision is not usable:
then a cancellation keeps the revision, and a pause expires the schedule. -/
theorem transition_cases {expectedRevision : ℕ} {operation : TransitionOperation} {actor : Actor}
    (h : db.transition scheduleId expectedRevision operation actor now = .ok (u, db')) :
    ∃ before old closed transitionAt, db.schedules.get? scheduleId = some before ∧
      before.revision = expectedRevision ∧ before.state.isAbsorbing = false ∧
      db.revision? scheduleId before.revision = some old ∧
      (closed = db ∨ closed = db.closeNotices scheduleId transitionAt) ∧
      (closed.advanceRevision scheduleId old expectedRevision operation transitionAt = .ok db' ∨
        unusable old now = true ∧ operation = .cancel ∧
          db' = closed.cancelUnusable scheduleId transitionAt ∨
        unusable old now = true ∧ operation = .pause ∧
          db' = closed.expireSchedule scheduleId before transitionAt) := by
  simp only [transition, bind_eq_ok, orThrow_eq_ok, throwIf_eq_ok] at h
  obtain ⟨_, -, before, hchecked, _, -, _, hvalid, old, hold, _, husable, h⟩ := h
  obtain ⟨hbefore, hrevision⟩ := checked_spec hchecked
  have hlive : before.state.isAbsorbing = false := by
    cases hs : before.state <;> cases operation <;> simp_all [ScheduleState.isAbsorbing]
  set transitionAt := db.transitionInstant scheduleId before now
  set closed := if operation = .resume then db else db.closeNotices scheduleId transitionAt
    with hclosed
  refine ⟨before, old, closed, transitionAt, hbefore, hrevision, hlive, hold, ?_, ?_⟩
  · rw [hclosed]
    split_ifs
    · exact .inl rfl
    · exact .inr rfl
  by_cases hunusable : unusable old now = true
  · rw [if_pos hunusable] at h
    by_cases hcancel : operation = .cancel
    · rw [if_pos hcancel] at h
      obtain ⟨-, rfl⟩ := Prod.mk.inj (Except.ok.inj h)
      exact .inr (.inl ⟨hunusable, hcancel, rfl⟩)
    · rw [if_neg hcancel] at h
      obtain ⟨-, rfl⟩ := Prod.mk.inj (Except.ok.inj h)
      refine .inr (.inr ⟨hunusable, ?_, rfl⟩)
      cases operation with
      | pause => rfl
      | resume => exact absurd ⟨rfl, .inr hunusable⟩ husable
      | cancel => exact absurd rfl hcancel
  · rw [if_neg hunusable] at h
    simp only [bind_eq_ok, Except.ok.injEq, Prod.mk.injEq] at h
    obtain ⟨_, hadvance, -, rfl⟩ := h
    exact .inl hadvance

end Db

/-! ### Steps -/

/-- The runs an operation may start. -/
def SchedulerOp.starts : SchedulerOp → Uuid → Prop
  | setRunState runId .. => (· = runId)
  | recoverWorkRunForResult runId .. => (· = runId)
  | _ => Db.noStart

section Steps

variable {env : Env} {db : Db} {runId : Uuid} {run : ScheduleRun}

end Steps

end Dona
