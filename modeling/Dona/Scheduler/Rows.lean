import Dona.Scheduler.Operations

/-!
# The operations that insert, renew or delete rows

`create` inserts a schedule, `update` renews one, `materialize` inserts a run, and `purge`
deletes what is over. Around these effects each of them stays in the strict frame.
-/

namespace Dona

open Fallible

namespace Db

variable {env : Env} {db db' : Db} {now : Timestamp} {scheduleId : ScheduleId} {u : Unit}

/-! ### Creation and update -/

theorem create_spec {input : RevisionInput} {nextDue : Timestamp} {actor : Actor} {row : Schedule}
    (h : db.create env scheduleId input nextDue actor now = .ok (row, db')) :
    db.schedules.get? scheduleId = none ∧ row.state = .active ∧ row.highWatermark = none ∧
      (∀ id, db'.schedules.get? id = if id = scheduleId then some row else db.schedules.get? id) ∧
      db'.runs = db.runs ∧ db'.outbox = db.outbox ∧ db'.nextUuid = db.nextUuid ∧
      db.KeepsNotices db' := by
  simp only [create, bind_eq_ok, throwIf_eq_ok, orThrow_eq_ok, Except.ok.injEq,
    Prod.mk.injEq] at h
  obtain ⟨_, -, _, -, _, -, _, -, _, -, _, -, _, -, _, -, _, -, _, -, schedules, hinsert, db₁,
    hrevision, rfl, rfl⟩ := h
  simp only [insertRevision, orThrow_bind_eq_ok, Except.ok.injEq] at hrevision
  obtain ⟨revisions, -, rfl⟩ := hrevision
  exact ⟨Table.get?_eq_none_of_insert? hinsert, rfl, rfl, Table.get?_insert? hinsert, rfl, rfl, rfl,
    .of_eq rfl rfl rfl⟩

/-- An update starts from a schedule that has not ended, and sets a date past its watermark. -/
theorem update_spec {expectedRevision : ℕ} {input : RevisionInput} {nextDue : Timestamp}
    {actor : Actor}
    (h : db.update env scheduleId expectedRevision input nextDue actor now = .ok (u, db')) :
    ∃ before db₁ updateAt, db.schedules.get? scheduleId = some before ∧
      before.state.isAbsorbing = false ∧
      (∀ watermark, before.highWatermark = some watermark → watermark < nextDue) ∧
      db.Evolves .strict db₁ ∧
      db' = db₁.updateSchedule scheduleId (updatedRow nextDue updateAt) := by
  simp only [update, bind_eq_ok, throwIf_eq_ok, Except.ok.injEq, Prod.mk.injEq] at h
  obtain ⟨_, -, _, -, before, hchecked, _, hstate, _, hdue, _, -, _, -, _, -, db₁, hinsert, -,
    rfl⟩ := h
  obtain ⟨hbefore, -⟩ := checked_spec hchecked
  refine ⟨before, db₁, _, hbefore, ?_, fun watermark hwatermark ↦ ?_, ?_, rfl⟩
  · cases hs : before.state <;> simp_all [ScheduleState.isAbsorbing]
  · simpa [hwatermark] using hdue
  · exact (evolves_suppress.trans evolves_retireRevisions).trans (evolves_insertRevision hinsert)

/-! ### Materialization -/

/-- The tables the scheduler owns are the same, and identifiers are only drawn. -/
structure SameScheduler (db db' : Db) : Prop where
  schedules : db'.schedules = db.schedules
  runs : db'.runs = db.runs
  outbox : db'.outbox = db.outbox
  nextUuid : db.nextUuid ≤ db'.nextUuid
  notices : db.KeepsNotices db'

theorem SameScheduler.trans {db'' : Db} (h : db.SameScheduler db') (h' : db'.SameScheduler db'') :
    db.SameScheduler db'' :=
  ⟨h'.schedules.trans h.schedules, h'.runs.trans h.runs, h'.outbox.trans h.outbox,
    h.nextUuid.trans h'.nextUuid, h.notices.trans h'.notices⟩

theorem sameScheduler_insertEventJobBinding {eventId : EventId} {binding : JobBinding}
    (h : db.insertEventJobBinding eventId binding = .ok db') : db.SameScheduler db' := by
  simp only [insertEventJobBinding, bind_eq_ok] at h
  obtain ⟨_, -, h⟩ := h
  split at h
  · simp only [throwIf_bind_eq_ok, Except.ok.injEq] at h
    obtain ⟨-, rfl⟩ := h
    exact ⟨rfl, rfl, rfl, le_rfl, .of_eq rfl rfl rfl⟩
  · simp only [orThrow_bind_eq_ok, Except.ok.injEq] at h
    obtain ⟨bindings, -, rfl⟩ := h
    exact ⟨rfl, rfl, rfl, le_rfl, .of_eq rfl rfl rfl⟩

theorem sameScheduler_bindSlackEvent {eventId : EventId} {event : EventRow}
    (h : db.bindSlackEvent eventId event = .ok db') : db.SameScheduler db' := by
  unfold bindSlackEvent at h
  split at h
  · exact sameScheduler_insertEventJobBinding h
  · obtain rfl := Except.ok.inj h
    exact ⟨rfl, rfl, rfl, le_rfl, .of_eq rfl rfl rfl⟩

theorem sameScheduler_enqueue {envelope : EventEnvelope} {result : EnqueueResult}
    (h : db.enqueue envelope now = .ok (result, db')) : db.SameScheduler db' := by
  unfold enqueue at h
  split at h
  · simp only [bind_eq_ok, Except.ok.injEq, Prod.mk.injEq] at h
    obtain ⟨db₁, hbind, -, rfl⟩ := h
    exact sameScheduler_bindSlackEvent hbind
  · simp only [bind_eq_ok, orThrow_eq_ok, Except.ok.injEq, Prod.mk.injEq] at h
    obtain ⟨events, hinsert, db₁, hbind, -, rfl⟩ := h
    have hdrawn : db.SameScheduler { db with events := events, nextUuid := db.nextUuid + 1 } :=
      ⟨rfl, rfl, rfl, Nat.le_succ _, keepsNotices_insertEvent hinsert⟩
    exact hdrawn.trans (sameScheduler_bindSlackEvent hbind)

/-- An occurrence of an active schedule, past its watermark and before its next date: its run
is new, and so is the write the run may come with. -/
structure Occurs (db : Db) (scheduleId : ScheduleId) (scheduledFor : Timestamp)
    (nextDue : Option Timestamp) (before : Schedule) (run : ScheduleRun) (db' : Db) : Prop where
  utc : scheduledFor.ms = none
  found : db.schedules.get? scheduleId = some before
  active : before.state = .active
  past : ∀ watermark, before.highWatermark = some watermark → watermark < scheduledFor
  next : ∀ due, nextDue = some due → scheduledFor < due
  schedules : ∃ materializedAt, db'.schedules =
    db.schedules.updateKey scheduleId (occurredRow scheduledFor nextDue materializedAt)
  scheduleId : run.scheduleId = scheduleId
  fresh : db.runs.get? db.nextUuid = none
  runs : ∀ id, db'.runs.get? id = if id = db.nextUuid then some run else db.runs.get? id
  nextUuid : db.nextUuid < db'.nextUuid
  outbox : db'.outbox = db.outbox ∨ run.eventId = none ∧ ∃ outboxId row,
    db.nextUuid ≤ outboxId ∧ outboxId < db'.nextUuid ∧ db.outbox.get? outboxId = none ∧
      row.runId = db.nextUuid ∧ row.status = .pending ∧ row.claimToken = none ∧
      ∀ id, db'.outbox.get? id = if id = outboxId then some row else db.outbox.get? id
  notices : db.KeepsNotices db'

/-- The start of an occurrence leaves the schedules alone; it adds at most the write of the
run, or gives the run its event. -/
theorem startOccurrence_spec {before : Schedule} {revision : Revision} {runId : Uuid}
    {expectedRevision : ℕ} {occurrenceKey : OccurrenceKey}
    {scheduledFor materializedAt : Timestamp}
    (h : db.startOccurrence env scheduleId before revision runId expectedRevision occurrenceKey
      scheduledFor materializedAt = .ok db') :
    db'.schedules = db.schedules ∧ db.nextUuid ≤ db'.nextUuid ∧ db.KeepsNotices db' ∧
      ((∃ eventId, db'.outbox = db.outbox ∧
          db'.runs = db.runs.updateKey runId fun run ↦ { run with eventId := some eventId }) ∨
        db'.runs = db.runs ∧ ∃ outboxId row, db.nextUuid ≤ outboxId ∧ outboxId < db'.nextUuid ∧
          db.outbox.get? outboxId = none ∧ row.runId = runId ∧ row.status = .pending ∧
          row.claimToken = none ∧
          ∀ id, db'.outbox.get? id = if id = outboxId then some row else db.outbox.get? id) := by
  unfold startOccurrence at h
  split at h
  · have hnotices := keepsNotices_insertOutbox h
    simp only [insertOutbox, throwIf_bind_eq_ok, orThrow_bind_eq_ok, Except.ok.injEq] at h
    obtain ⟨-, outbox, hinsert, rfl⟩ := h
    refine ⟨rfl, Nat.le_succ _, hnotices, .inr ⟨rfl, db.nextUuid, _, le_rfl, Nat.lt_succ_self _,
      Table.get?_eq_none_of_insert? hinsert, ?_, ?_, ?_, Table.get?_insert? hinsert⟩⟩ <;> rfl
  · simp only [enqueueDue, bind_eq_ok, Prod.exists, throwIf_eq_ok] at h
    obtain ⟨result, db₁, henqueue, _, -, hbind⟩ := h
    have hevent := sameScheduler_enqueue henqueue
    have hbinding := sameScheduler_insertEventJobBinding hbind
    have hnotices : db₁.KeepsNotices db' := by
      refine KeepsNotices.trans ?_ hbinding.notices
      exact .of_eq rfl rfl rfl
    refine ⟨hbinding.schedules.trans hevent.schedules,
      hevent.nextUuid.trans hbinding.nextUuid,
      hevent.notices.trans hnotices,
      .inl ⟨result.eventId, hbinding.outbox.trans hevent.outbox, hbinding.runs.trans ?_⟩⟩
    simp only [updateRun, hevent.runs]

/-- The rows of an occurrence, before its schedule completes. -/
theorem recordOccurrence_spec {before : Schedule} {revision : Revision} {expectedRevision : ℕ}
    {scheduledFor materializedAt : Timestamp} {nextDue : Option Timestamp}
    {skip : Option SkipReason} {claim : Option MaterializeClaim} {result : MaterializeResult}
    (hutc : scheduledFor.ms = none) (hfound : db.schedules.get? scheduleId = some before)
    (hactive : before.state = .active)
    (hpast : ∀ watermark, before.highWatermark = some watermark → watermark < scheduledFor)
    (hnext : ∀ due, nextDue = some due → scheduledFor < due)
    (h : db.recordOccurrence env scheduleId before revision expectedRevision scheduledFor nextDue
      materializedAt skip claim = .ok (result, db')) :
    result.duplicate = false ∧ ∃ run db₁,
      db.Occurs scheduleId scheduledFor nextDue before run db₁ ∧ db₁.Evolves .strict db' := by
  simp only [recordOccurrence, bind_eq_ok, throwIf_eq_ok, orThrow_eq_ok, Except.ok.injEq,
    Prod.mk.injEq] at h
  obtain ⟨_, -, _, -, runs, hinsert, db₁, hstart, rfl, rfl⟩ := h
  obtain ⟨run, hscheduleId, hevent, hget⟩ : ∃ run : ScheduleRun, run.scheduleId = scheduleId ∧
      run.eventId = none ∧
      ∀ id, runs.get? id = if id = db.nextUuid then some run else db.runs.get? id :=
    ⟨_, rfl, rfl, Table.get?_insert? hinsert⟩
  have hfresh := Table.get?_eq_none_of_insert? hinsert
  have hrest : (db₁.updateSchedule scheduleId
      (occurredRow scheduledFor nextDue materializedAt)).Evolves .strict
        (((db₁.updateSchedule scheduleId
          (occurredRow scheduledFor nextDue materializedAt)).releaseIfClaimed scheduleId
            claim).completeIfDrained scheduleId materializedAt) := by
    refine Evolves.trans ?_ evolves_completeIfDrained
    exact .ite evolves_releaseClaim (.refl _ _)
  refine ⟨rfl, ?_⟩
  split_ifs at hstart with hskip
  · obtain rfl := Except.ok.inj hstart
    refine ⟨run, _, ?_, hrest⟩
    exact ⟨hutc, hfound, hactive, hpast, hnext, ⟨_, rfl⟩, hscheduleId, hfresh, hget,
      Nat.lt_succ_self _, .inl rfl, .of_eq rfl rfl rfl⟩
  obtain ⟨hschedules, hle, hnotices, hrows⟩ := startOccurrence_spec hstart
  have hoccurred : ∃ at', (db₁.updateSchedule scheduleId
      (occurredRow scheduledFor nextDue materializedAt)).schedules =
        db.schedules.updateKey scheduleId (occurredRow scheduledFor nextDue at') :=
    ⟨materializedAt, by simp only [updateSchedule, hschedules]⟩
  have hoccurs : db.KeepsNotices (db₁.updateSchedule scheduleId
      (occurredRow scheduledFor nextDue materializedAt)) := by
    have hoccurred : db₁.KeepsNotices (db₁.updateSchedule scheduleId
      (occurredRow scheduledFor nextDue materializedAt)) := .of_eq rfl rfl rfl
    refine KeepsNotices.trans ?_ (hnotices.trans hoccurred)
    exact .of_eq rfl rfl rfl
  have hlt : db.nextUuid < db₁.nextUuid := (Nat.lt_succ_self _).trans_le hle
  rcases hrows with ⟨eventId, houtbox, hruns⟩ | ⟨hruns, outboxId, row, hle', hrow⟩
  · refine ⟨{ run with eventId := some eventId }, _, ⟨hutc, hfound, hactive, hpast, hnext, hoccurred,
      hscheduleId, hfresh, fun id ↦ ?_, hlt, .inl houtbox, hoccurs⟩, hrest⟩
    simp only [updateSchedule, hruns, Table.get?_updateKey, hget]
    split_ifs <;> rfl
  · exact ⟨run, _, ⟨hutc, hfound, hactive, hpast, hnext, hoccurred, hscheduleId, hfresh,
      fun id ↦ (congrArg (·.get? id) hruns).trans (hget id), hlt,
      .inr ⟨hevent, outboxId, row, (Nat.le_succ _).trans hle', hrow⟩, hoccurs⟩, hrest⟩

/-- A call of `materialize` records an occurrence, or finds one recorded, or is refused. -/
theorem materialize_spec {expectedRevision : ℕ} {scheduledFor : Timestamp}
    {nextDue : Option Timestamp} {actor : Actor} {skip : Option SkipReason}
    {compactSkip : Option CompactSkip} {claim : Option MaterializeClaim}
    {result : Option MaterializeResult}
    (h : db.materialize env scheduleId expectedRevision scheduledFor nextDue now actor skip
      compactSkip claim = .ok (result, db')) :
    (result.all (·.duplicate) = true ∧ db.Evolves .strict db') ∨
      ∃ recorded before run db₁, result = some recorded ∧ recorded.duplicate = false ∧
        db.Occurs scheduleId scheduledFor nextDue before run db₁ ∧ db₁.Evolves .strict db' := by
  simp only [materialize, bind_eq_ok, orThrow_eq_ok, throwIf_eq_ok] at h
  obtain ⟨_, -, _, hutc, _, -, current, -, before, hchecked, _, -, h⟩ := h
  rw [utc, throwIf_eq_ok, not_not] at hutc
  obtain ⟨hbefore, -⟩ := checked_spec hchecked
  split at h
  · obtain ⟨rfl, rfl⟩ := Prod.mk.inj (Except.ok.inj h)
    exact .inl ⟨rfl, .ite evolves_releaseClaim (.refl _ _)⟩
  simp only [materializeNew, bind_eq_ok, throwIf_eq_ok, orThrow_eq_ok, not_or, not_not] at h
  obtain ⟨_, -, _, hdue, _, ⟨hactive, -, -, hwatermark⟩, revision, -, _, -, _, -, h⟩ := h
  split_ifs at h
  · obtain ⟨rfl, rfl⟩ := Prod.mk.inj (Except.ok.inj h)
    refine .inl ⟨rfl, evolves_expireSchedule (.inr fun row hrow ↦ ?_)⟩
    obtain rfl : before = row := Option.some.inj (hbefore.symm.trans hrow)
    rw [hactive]
    rfl
  · simp only [bind_eq_ok, Prod.exists, Except.ok.injEq, Prod.mk.injEq] at h
    obtain ⟨recorded, db₁, hrecord, rfl, rfl⟩ := h
    obtain ⟨hnew, run, db₂, hoccurs, hevolves⟩ := recordOccurrence_spec hutc hbefore hactive
      (fun watermark hsome ↦ by simpa [hsome] using hwatermark)
      (fun due hsome ↦ by
        simp only [hsome, Option.any_some, decide_eq_true_eq, not_or, not_le] at hdue
        exact hdue.1) hrecord
    exact .inr ⟨recorded, before, run, db₂, rfl, hnew, hoccurs, hevolves⟩

/-! ### Retention -/

/-- What a deletion leaves of a table. -/
def Kept {κ ρ : Type} [DecidableEq κ] (t u : Table κ ρ) : Prop :=
  ∀ k row, u.get? k = some row → t.get? k = some row

theorem kept_deleteWhere {κ ρ : Type} [DecidableEq κ] {t : Table κ ρ} {p : κ → ρ → Bool} :
    Kept t (t.deleteWhere p) := by
  intro k row hrow
  rw [Table.get?_deleteWhere, Option.filter_eq_some_iff] at hrow
  exact hrow.1

/-- A purge first keeps to the frame, and then deletes rows. -/
theorem purge_eq (h : db.purge now = .ok (u, db')) :
    ∃ db₁, db.Evolves .strict db₁ ∧
      db' = (((db₁.purgeTrails now).purgeRuns now).purgeSchedules now).purgeRevisions now := by
  simp only [purge, bind_eq_ok, Except.ok.injEq, Prod.mk.injEq] at h
  obtain ⟨_, -, -, rfl⟩ := h
  refine ⟨_, ?_, rfl⟩
  have hexpire : db.Evolves .strict (db.expireAll now (db.currentExpired now)) := by
    refine evolves_expireSelected (List.Perm.refl _) (List.Sublist.refl _) fun id row hp ↦ ?_
    simp only [decide_eq_true_eq] at hp
    cases hstate : row.state <;> simp_all [ScheduleState.isAbsorbing]
  have hretire : ∀ db : Db, db.Evolves .strict (db.retireExpired now) := fun db ↦
    .of_same rfl rfl rfl rfl rfl rfl rfl
  have hcontents : ∀ db : Db, db.Evolves .strict (db.purgeContents now) := by
    intro db
    refine (Evolves.of_same rfl rfl rfl rfl rfl rfl rfl : db.Evolves .strict { db with
      revisions := db.revisions.updateWhere
        (fun _ row ↦ row.contentDeleteAt.any (· ≤ now) ∨ row.expiresAt ≤ now.add (-604800))
        (fun row ↦ { row with content := none }) }).trans ?_
    refine evolves_updateWhere (fun _ _ _ _ ↦ ⟨rfl, rfl, .inr ?_⟩) (fun _ ↦ .inl rfl)
      (.refl (fun _ ↦ .refl) _)
    exact ⟨id, fun hstarted ↦ .inr ⟨hstarted, rfl⟩, id⟩
  have hjobs : ∀ db : Db, db.Evolves .strict (db.purgeJobContents now) := fun db ↦
    .of_same rfl rfl rfl rfl rfl rfl rfl
  have hevents : ∀ db : Db, db.Evolves .strict (db.purgeEventContents now) := fun db ↦
    .of_eq rfl rfl rfl le_rfl (.inr (db.keepsNotices_purgeEventContents now))
  have hmetadata : ∀ db : Db, db.Evolves .strict (db.purgeMetadata now) := fun db ↦
    .of_eq rfl rfl rfl le_rfl (.inr (db.keepsNotices_purgeMetadata now))
  exact ((((hexpire.trans (hretire _)).trans (hcontents _)).trans (hjobs _)).trans
    (hevents _)).trans (hmetadata _)

/-- The writes of a run that a purge deletes go with it. -/
theorem purge_spec (h : db.purge now = .ok (u, db')) :
    ∃ db₁, db.Evolves .strict db₁ ∧ Kept db₁.schedules db'.schedules ∧ Kept db₁.runs db'.runs ∧
      Kept db₁.outbox db'.outbox ∧ db'.nextUuid = db₁.nextUuid ∧
      ∀ id row run, db'.outbox.get? id = some row → db₁.runs.get? row.runId = some run →
        db'.runs.get? row.runId = some run := by
  obtain ⟨db₁, hevolves, rfl⟩ := purge_eq h
  refine ⟨db₁, hevolves, kept_deleteWhere, kept_deleteWhere, kept_deleteWhere, rfl,
    fun id row run hrow hrun ↦ ?_⟩
  have hrow' : (((db₁.purgeTrails now).purgeRuns now).outbox.get? id) = some row := hrow
  have hrun' : (db₁.purgeTrails now).runs.get? row.runId = some run := hrun
  show ((db₁.purgeTrails now).purgeRuns now).runs.get? row.runId = some run
  simp only [purgeRuns, Table.get?_deleteWhere, Option.filter_eq_some_iff] at hrow' ⊢
  refine ⟨hrun', ?_⟩
  simpa [hrun'] using hrow'.2

/-- Of the notices and the nonces, a purge deletes the nonces that are a day old. -/
theorem purge_notices (h : db.purge now = .ok (u, db')) :
    ∃ db₁, db.KeepsNotices db₁ ∧ db'.completions = db₁.completions ∧ db'.events = db₁.events ∧
      db'.accessNonces =
        db.accessNonces.deleteWhere fun _ nonce ↦ nonce.2 ≤ now.add (-86400) := by
  obtain ⟨db₁, hevolves, rfl⟩ := purge_eq h
  have hnotices : db.KeepsNotices db₁ := hevolves.notices.resolve_left id
  refine ⟨db₁, hnotices, rfl, rfl, ?_⟩
  rw [← hnotices.nonces]
  rfl

/-! ### The effect of a step -/

/-- What a step can do to the rows of the scheduler. The index is the occurrence that it
records, with its schedule. -/
inductive Effect (scope : Scope) (db db' : Db) : Option (ScheduleId × Timestamp) → Prop
  | frame (h : db.Evolves scope db') : Effect scope db db' none
  | created {scheduleId : ScheduleId} {row : Schedule}
      (fresh : db.schedules.get? scheduleId = none) (active : row.state = .active)
      (watermark : row.highWatermark = none)
      (schedules : ∀ id, db'.schedules.get? id =
        if id = scheduleId then some row else db.schedules.get? id)
      (runs : db'.runs = db.runs) (outbox : db'.outbox = db.outbox)
      (nextUuid : db'.nextUuid = db.nextUuid) : Effect scope db db' none
  | updated {scheduleId : ScheduleId} {before : Schedule} {db₁ : Db} {nextDue updateAt : Timestamp}
      (found : db.schedules.get? scheduleId = some before)
      (live : before.state.isAbsorbing = false)
      (past : ∀ watermark, before.highWatermark = some watermark → watermark < nextDue)
      (evolves : db.Evolves .strict db₁)
      (renewed : db' = db₁.updateSchedule scheduleId (updatedRow nextDue updateAt)) :
      Effect scope db db' none
  | occurred {scheduleId : ScheduleId} {scheduledFor : Timestamp} {nextDue : Option Timestamp}
      {before : Schedule} {run : ScheduleRun} {db₁ : Db}
      (occurs : db.Occurs scheduleId scheduledFor nextDue before run db₁)
      (evolves : db₁.Evolves .strict db') : Effect scope db db' (some (scheduleId, scheduledFor))
  | purged {db₁ : Db} (evolves : db.Evolves .strict db₁)
      (schedules : Kept db₁.schedules db'.schedules) (runs : Kept db₁.runs db'.runs)
      (outbox : Kept db₁.outbox db'.outbox) (nextUuid : db'.nextUuid = db₁.nextUuid)
      (writes : ∀ id row run, db'.outbox.get? id = some row →
        db₁.runs.get? row.runId = some run → db'.runs.get? row.runId = some run) :
      Effect scope db db' none

end Db

end Dona
