import Dona.Scheduler.Notices

/-!
# What an operation of the repository leaves alone

`Db.Evolves scope db db'` says what every operation respects: the due dates of schedules,
the identity of runs and writes, the claim tokens, the notices, and, outside of the scope, the
states a schedule or a write never leaves. It is a preorder, so that the frame of an operation
is composed from the frames of the statements it is made of.
-/

namespace Dona

open Fallible

/-- A schedule that has been cancelled or has completed is over for good. -/
def ScheduleState.isAbsorbing : ScheduleState → Bool
  | cancelled | completed => true
  | _ => false

/-- No request is made for the write any more. -/
def OutboxStatus.isOver : OutboxStatus → Bool
  | sent | failed | cancelled | needsReview => true
  | _ => false

/-- What an operation may do beyond its frame. -/
structure Scope where
  /-- A schedule may leave an absorbing state. -/
  mayReopen : Prop
  /-- The write with this key may be started, or returned to the queue. -/
  mayRestart : Uuid → Prop
  /-- A write may be inserted for the run with this key. -/
  mayWrite : Uuid → Prop
  /-- The notices, which are the dispatcher's, may be rewritten. -/
  mayRewrite : Prop := False

/-- An operation that keeps to its frame. -/
def Scope.strict : Scope := ⟨False, fun _ ↦ False, fun _ ↦ False, False⟩

structure Schedule.Keeps (mayReopen : Prop) (row row' : Schedule) : Prop where
  nextDue : row'.nextDue = row.nextDue
  highWatermark : row'.highWatermark = row.highWatermark
  state : mayReopen ∨ (row.state.isAbsorbing = true → row'.state = row.state)

structure ScheduleRun.Keeps (run run' : ScheduleRun) : Prop where
  scheduleId : run'.scheduleId = run.scheduleId
  scheduledFor : run'.scheduledFor = run.scheduledFor
  eventId : run'.eventId = run.eventId
  status : run'.status = .materialized → run.status = .materialized

/-- A write is started, or returned to the queue, by a request only. -/
structure Outbox.Settles (row row' : Outbox) : Prop where
  ended : row.status.isOver = true → row'.status.isOver = true
  started : row.status = .requestStarted →
    row'.status.isOver = true ∨ row'.status = .requestStarted ∧ row'.claimToken = row.claimToken
  unsent : row'.status = .requestStarted → row.status = .requestStarted

structure Outbox.Keeps (mayRestart : Prop) (row row' : Outbox) : Prop where
  runId : row'.runId = row.runId
  kind : row'.kind = row.kind
  settles : mayRestart ∨ row.Settles row'

theorem Schedule.Keeps.refl (P : Prop) (row : Schedule) : row.Keeps P row :=
  ⟨rfl, rfl, .inr fun _ ↦ rfl⟩

theorem Schedule.Keeps.trans {P : Prop} {a b c : Schedule} (h : a.Keeps P b) (h' : b.Keeps P c) :
    a.Keeps P c := by
  refine ⟨h'.nextDue.trans h.nextDue, h'.highWatermark.trans h.highWatermark, ?_⟩
  rcases h.state with hp | hab
  · exact .inl hp
  rcases h'.state with hp | hbc
  · exact .inl hp
  refine .inr fun ha ↦ ?_
  have hb := hab ha
  exact (hbc (by rw [hb]; exact ha)).trans hb

theorem ScheduleRun.Keeps.refl (run : ScheduleRun) : run.Keeps run := ⟨rfl, rfl, rfl, id⟩

theorem ScheduleRun.Keeps.trans {a b c : ScheduleRun} (h : a.Keeps b) (h' : b.Keeps c) :
    a.Keeps c :=
  ⟨h'.scheduleId.trans h.scheduleId, h'.scheduledFor.trans h.scheduledFor,
    h'.eventId.trans h.eventId, fun hc ↦ h.status (h'.status hc)⟩

theorem Outbox.Settles.refl (row : Outbox) : row.Settles row :=
  ⟨id, fun h ↦ .inr ⟨h, rfl⟩, id⟩

theorem Outbox.Settles.trans {a b c : Outbox} (h : a.Settles b) (h' : b.Settles c) :
    a.Settles c := by
  refine ⟨fun ha ↦ h'.ended (h.ended ha), fun ha ↦ ?_, fun hc ↦ h.unsent (h'.unsent hc)⟩
  rcases h.started ha with hb | ⟨hb, htoken⟩
  · exact .inl (h'.ended hb)
  · rcases h'.started hb with hc | ⟨hc, htoken'⟩
    · exact .inl hc
    · exact .inr ⟨hc, htoken'.trans htoken⟩

/-- A row that comes out over has settled, whatever it was. -/
theorem Outbox.Settles.of_isOver {row row' : Outbox} (h : row'.status.isOver = true) :
    row.Settles row' := by
  refine ⟨fun _ ↦ h, fun _ ↦ .inl h, fun hstarted ↦ ?_⟩
  rw [hstarted] at h
  cases h

theorem Outbox.Keeps.refl (P : Prop) (row : Outbox) : row.Keeps P row :=
  ⟨rfl, rfl, .inr (.refl row)⟩

theorem Outbox.Keeps.trans {P : Prop} {a b c : Outbox} (h : a.Keeps P b) (h' : b.Keeps P c) :
    a.Keeps P c := by
  refine ⟨h'.runId.trans h.runId, h'.kind.trans h.kind, ?_⟩
  rcases h.settles with hp | hab
  · exact .inl hp
  rcases h'.settles with hp | hbc
  · exact .inl hp
  exact .inr (hab.trans hbc)

namespace Db

/-- Every materialized run of the schedule has a write. -/
def Drained (db : Db) (scheduleId : ScheduleId) : Prop :=
  ∀ runId run, db.runs.get? runId = some run → run.scheduleId = scheduleId →
    run.status = .materialized → ∃ outboxId row, db.outbox.get? outboxId = some row ∧
      row.runId = runId

structure Evolves (scope : Scope) (db db' : Db) : Prop where
  schedules : db.schedules.Evolves (fun _ ↦ Schedule.Keeps scope.mayReopen) db'.schedules
  runs : db.runs.Evolves (fun _ ↦ ScheduleRun.Keeps) db'.runs
  outbox : ∀ id row, db.outbox.get? id = some row →
    ∃ row', db'.outbox.get? id = some row' ∧ row.Keeps (scope.mayRestart id) row'
  inserted : ∀ id row', db'.outbox.get? id = some row' → db.outbox.get? id = none →
    scope.mayWrite row'.runId ∧ db.nextUuid ≤ id ∧ id < db'.nextUuid ∧
      (scope.mayRestart id ∨ row'.status ≠ .requestStarted)
  tokens : ∀ id row' token, db'.outbox.get? id = some row' → row'.claimToken = some token →
    (∃ row, db.outbox.get? id = some row ∧ row.claimToken = some token) ∨
      db.nextUuid ≤ token ∧ token < db'.nextUuid
  nextUuid : db.nextUuid ≤ db'.nextUuid
  ended : ∀ id row', db'.schedules.get? id = some row' → row'.state.isAbsorbing = true →
    (∃ row, db.schedules.get? id = some row ∧ row.state.isAbsorbing = true) ∨ db'.Drained id
  notices : scope.mayRewrite ∨ db.KeepsNotices db'

namespace Evolves

variable {scope : Scope} {db db' db'' : Db}

/-- An operation that changes none of the rows the frame is about. -/
theorem of_eq (hschedules : db'.schedules = db.schedules) (hruns : db'.runs = db.runs)
    (houtbox : db'.outbox = db.outbox) (hnext : db.nextUuid ≤ db'.nextUuid)
    (hnotices : scope.mayRewrite ∨ db.KeepsNotices db') : db.Evolves scope db' where
  schedules := by
    rw [hschedules]
    exact .refl (fun _ ↦ .refl _) _
  runs := by
    rw [hruns]
    exact .refl (fun _ ↦ .refl) _
  outbox id row hrow := ⟨row, by rw [houtbox]; exact hrow, .refl _ row⟩
  inserted id row' hrow' hnone := by
    rw [houtbox, hnone] at hrow'
    cases hrow'
  tokens id row' token hrow' htoken := by
    rw [houtbox] at hrow'
    exact .inl ⟨row', hrow', htoken⟩
  nextUuid := hnext
  ended id row' hrow' hstate := by
    rw [hschedules] at hrow'
    exact .inl ⟨row', hrow', hstate⟩
  notices := hnotices

/-- An operation that changes none of these rows and no notice. -/
theorem of_same (hschedules : db'.schedules = db.schedules) (hruns : db'.runs = db.runs)
    (houtbox : db'.outbox = db.outbox) (hnext : db'.nextUuid = db.nextUuid)
    (hcompletions : db'.completions = db.completions) (hevents : db'.events = db.events)
    (hnonces : db'.accessNonces = db.accessNonces) : db.Evolves scope db' :=
  of_eq hschedules hruns houtbox hnext.ge (.inr (.of_eq hcompletions hevents hnonces))

theorem refl (scope : Scope) (db : Db) : db.Evolves scope db :=
  of_same rfl rfl rfl rfl rfl rfl rfl

theorem drained (h : db.Evolves scope db') {id : ScheduleId} (hdrained : db.Drained id) :
    db'.Drained id := by
  intro runId run' hrun' hschedule hstatus
  obtain ⟨run, hrun, hkeeps⟩ := h.runs.exists_old hrun'
  obtain ⟨outboxId, row, hrow, hrunId⟩ := hdrained runId run hrun
    (hkeeps.scheduleId.symm.trans hschedule) (hkeeps.status hstatus)
  obtain ⟨row', hrow', hkeeps'⟩ := h.outbox outboxId row hrow
  exact ⟨outboxId, row', hrow', hkeeps'.runId.trans hrunId⟩

theorem trans (h : db.Evolves scope db') (h' : db'.Evolves scope db'') :
    db.Evolves scope db'' where
  schedules := h.schedules.trans (fun ha hb ↦ ha.trans hb) h'.schedules
  runs := h.runs.trans (fun ha hb ↦ ha.trans hb) h'.runs
  outbox id row hrow := by
    obtain ⟨row', hrow', hkeeps⟩ := h.outbox id row hrow
    obtain ⟨row'', hrow'', hkeeps'⟩ := h'.outbox id row' hrow'
    exact ⟨row'', hrow'', hkeeps.trans hkeeps'⟩
  inserted id row'' hrow'' hnone := by
    cases hrow : db'.outbox.get? id with
    | none =>
        obtain ⟨hwrite, hle, hlt, hstarted⟩ := h'.inserted id row'' hrow'' hrow
        exact ⟨hwrite, h.nextUuid.trans hle, hlt, hstarted⟩
    | some row' =>
        obtain ⟨hwrite, hle, hlt, hstarted⟩ := h.inserted id row' hrow hnone
        obtain ⟨other, hother, hkeeps⟩ := h'.outbox id row' hrow
        obtain rfl : other = row'' := Option.some.inj (hother.symm.trans hrow'')
        refine ⟨hkeeps.runId ▸ hwrite, hle, hlt.trans_le h'.nextUuid, ?_⟩
        rcases hstarted with hscope | hstarted
        · exact .inl hscope
        rcases hkeeps.settles with hscope | hsettles
        · exact .inl hscope
        · exact .inr fun hstatus ↦ hstarted (hsettles.unsent hstatus)
  tokens id row'' token hrow'' htoken := by
    rcases h'.tokens id row'' token hrow'' htoken with ⟨row', hrow', htoken'⟩ | ⟨hle, hlt⟩
    · rcases h.tokens id row' token hrow' htoken' with hold | ⟨hle, hlt⟩
      · exact .inl hold
      · exact .inr ⟨hle, hlt.trans_le h'.nextUuid⟩
    · exact .inr ⟨h.nextUuid.trans hle, hlt⟩
  nextUuid := h.nextUuid.trans h'.nextUuid
  ended id row'' hrow'' hstate := by
    rcases h'.ended id row'' hrow'' hstate with ⟨row', hrow', hstate'⟩ | hdrained
    · rcases h.ended id row' hrow' hstate' with hold | hdrained
      · exact .inl hold
      · exact .inr (h'.drained hdrained)
    · exact .inr hdrained
  notices := by
    rcases h.notices with hscope | hkeeps
    · exact .inl hscope
    rcases h'.notices with hscope | hkeeps'
    · exact .inl hscope
    · exact .inr (hkeeps.trans hkeeps')

theorem mono {scope' : Scope} (h : db.Evolves scope db')
    (hreopen : scope.mayReopen → scope'.mayReopen)
    (hrestart : ∀ id, scope.mayRestart id → scope'.mayRestart id)
    (hwrite : ∀ id, scope.mayWrite id → scope'.mayWrite id)
    (hrewrite : scope.mayRewrite → scope'.mayRewrite) : db.Evolves scope' db' where
  schedules := h.schedules.mono fun hkeeps ↦
    ⟨hkeeps.nextDue, hkeeps.highWatermark, hkeeps.state.imp_left hreopen⟩
  runs := h.runs
  outbox id row hrow := by
    obtain ⟨row', hrow', hkeeps⟩ := h.outbox id row hrow
    exact ⟨row', hrow', hkeeps.runId, hkeeps.kind, hkeeps.settles.imp_left (hrestart id)⟩
  inserted id row' hrow' hnone := by
    obtain ⟨hscope, hle, hlt, hstarted⟩ := h.inserted id row' hrow' hnone
    exact ⟨hwrite _ hscope, hle, hlt, hstarted.imp_left (hrestart id)⟩
  tokens := h.tokens
  nextUuid := h.nextUuid
  ended := h.ended
  notices := h.notices.imp_left hrewrite

theorem ite {c : Prop} [Decidable c] {db₁ db₂ : Db} (h₁ : db.Evolves scope db₁)
    (h₂ : db.Evolves scope db₂) : db.Evolves scope (if c then db₁ else db₂) := by
  split_ifs
  · exact h₁
  · exact h₂

/-- What an operation that keeps to its frame does, is in every scope. -/
theorem of_strict (h : db.Evolves .strict db') : db.Evolves scope db' :=
  h.mono False.elim (fun _ ↦ False.elim) (fun _ ↦ False.elim) False.elim

end Evolves

/-! ### The statements -/

section Statements

variable {scope : Scope} {db : Db} {scheduleId : ScheduleId} {now : Timestamp}

/-- An update of the outbox, whatever its trigger does to the completions. -/
theorem evolves_updateWhere {p : Uuid → Outbox → Bool} {f : Outbox → Outbox}
    {completions : Table (JobId × JobStatus) CompletionResult}
    (h : ∀ id row, db.outbox.get? id = some row → p id row = true →
      row.Keeps (scope.mayRestart id) (f row))
    (htoken : ∀ row, (f row).claimToken = row.claimToken ∨ (f row).claimToken = none)
    (hcompletions : db.completions.Evolves (fun _ ↦ CompletionResult.Keeps) completions) :
    db.Evolves scope
      { db with outbox := db.outbox.updateWhere p f, completions := completions } where
  schedules := .refl (fun _ ↦ .refl _) _
  runs := .refl (fun _ ↦ .refl) _
  outbox id row hrow := by
    refine ⟨if p id row then f row else row, by simp [hrow], ?_⟩
    split_ifs with hp
    · exact h id row hrow hp
    · exact .refl _ row
  inserted id row' hrow' hnone := by simp [hnone] at hrow'
  tokens id row' token hrow' htok := by
    simp only [Table.get?_updateWhere, Option.map_eq_some_iff] at hrow'
    obtain ⟨row, hrow, rfl⟩ := hrow'
    refine .inl ⟨row, hrow, ?_⟩
    split_ifs at htok
    · rcases htoken row with hsame | hnone
      · exact hsame.symm.trans htok
      · rw [hnone] at htok
        cases htok
    · exact htok
  nextUuid := le_rfl
  ended id row' hrow' hstate := .inl ⟨row', hrow', hstate⟩
  notices := .inr (.of_rows hcompletions (.refl (fun _ ↦ .refl) _) rfl)

theorem evolves_updateOutbox {p : Uuid → Outbox → Bool} {f : Outbox → Outbox}
    (h : ∀ id row, db.outbox.get? id = some row → p id row = true →
      row.Keeps (scope.mayRestart id) (f row))
    (htoken : ∀ row, (f row).claimToken = row.claimToken ∨ (f row).claimToken = none) :
    db.Evolves scope (db.updateOutbox p f) :=
  evolves_updateWhere h htoken (evolves_syncCompletions _ f _ _)

@[simp] theorem get?_updateOutboxRow (db : Db) (outboxId id : Uuid) (f : Outbox → Outbox) :
    (db.updateOutboxRow outboxId f).outbox.get? id =
      if id = outboxId then (db.outbox.get? id).map f else db.outbox.get? id :=
  Table.get?_updateKey _ _ _ _

theorem evolves_updateOutboxRow {outboxId : Uuid} {f : Outbox → Outbox}
    (h : ∀ row, db.outbox.get? outboxId = some row → row.Keeps (scope.mayRestart outboxId) (f row))
    (htoken : ∀ row, (f row).claimToken = row.claimToken ∨ (f row).claimToken = none) :
    db.Evolves scope (db.updateOutboxRow outboxId f) := by
  refine evolves_updateOutbox (fun id row hrow hp ↦ ?_) htoken
  obtain rfl : id = outboxId := by simpa using hp
  exact h row hrow

theorem evolves_runsWhere {p : Uuid → ScheduleRun → Bool} {f : ScheduleRun → ScheduleRun}
    (h : ∀ run : ScheduleRun, run.Keeps (f run)) :
    db.Evolves scope { db with runs := db.runs.updateWhere p f } :=
  { Evolves.refl scope db with
    runs := Table.evolves_updateWhere fun _ run _ ↦ by
      split_ifs
      · exact h run
      · exact .refl run
    ended := fun _ row' hrow' hstate ↦ .inl ⟨row', hrow', hstate⟩
    notices := .inr (.of_eq rfl rfl rfl) }

theorem evolves_updateRun {runId : Uuid} {f : ScheduleRun → ScheduleRun}
    (h : ∀ run : ScheduleRun, run.Keeps (f run)) : db.Evolves scope (db.updateRun runId f) :=
  evolves_runsWhere h

theorem evolves_updateLiveRun {runId : Uuid} {f : ScheduleRun → ScheduleRun}
    (h : ∀ run : ScheduleRun, run.Keeps (f run)) : db.Evolves scope (db.updateLiveRun runId f) :=
  evolves_runsWhere h

/-- A rewritten schedule keeps its dates; it ends only when its materialized runs have writes. -/
theorem evolves_updateSchedule {f : Schedule → Schedule}
    (h : ∀ row, db.schedules.get? scheduleId = some row → row.Keeps scope.mayReopen (f row))
    (hended : ∀ row, db.schedules.get? scheduleId = some row → (f row).state.isAbsorbing = true →
      row.state.isAbsorbing = true ∨ db.Drained scheduleId) :
    db.Evolves scope (db.updateSchedule scheduleId f) :=
  { Evolves.refl scope db with
    schedules := Table.evolves_updateKey (fun _ ↦ .refl _) h
    ended := fun id row' hrow' hstate ↦ by
      simp only [updateSchedule, Table.get?_updateKey] at hrow'
      split_ifs at hrow' with hid
      · subst hid
        obtain ⟨row, hrow, rfl⟩ := Option.map_eq_some_iff.1 hrow'
        rcases hended row hrow hstate with hold | hdrained
        · exact .inl ⟨row, hrow, hold⟩
        · exact .inr hdrained
      · exact .inl ⟨row', hrow', hstate⟩
    notices := .inr (.of_eq rfl rfl rfl) }

theorem evolves_retireRevisions {revision : Option ℕ} :
    db.Evolves scope (db.retireRevisions scheduleId now revision) :=
  .of_same rfl rfl rfl rfl rfl rfl rfl

theorem evolves_releaseClaim : db.Evolves scope (db.releaseClaim scheduleId) :=
  .of_same rfl rfl rfl rfl rfl rfl rfl

theorem evolves_insertRevision {db' : Db} {revision : ℕ} {row : Revision}
    (h : db.insertRevision scheduleId revision row = .ok db') : db.Evolves scope db' := by
  simp only [insertRevision, orThrow_bind_eq_ok, Except.ok.injEq] at h
  obtain ⟨revisions, -, rfl⟩ := h
  exact .of_same rfl rfl rfl rfl rfl rfl rfl

theorem cancelUnsent_keeps (P : Prop) (row : Outbox) : row.Keeps P (cancelUnsent now row) :=
  ⟨rfl, rfl, .inr (.of_isOver rfl)⟩

theorem evolves_cancelUnsent {p : Uuid → Outbox → Bool} :
    db.Evolves scope (db.updateOutbox p (cancelUnsent now)) :=
  evolves_updateOutbox (fun _ row _ _ ↦ cancelUnsent_keeps _ row) fun _ ↦ .inr rfl

theorem capContentDeleteAt_keeps (P : Prop) (row : Outbox) :
    row.Keeps P (capContentDeleteAt now row) :=
  ⟨rfl, rfl, .inr ⟨id, fun h ↦ .inr ⟨h, rfl⟩, id⟩⟩

theorem evolves_capExpiringContent : db.Evolves scope (db.capExpiringContent scheduleId) := by
  refine evolves_updateWhere (fun _ row _ _ ↦ ?_) (fun row ↦ ?_) (.refl (fun _ ↦ .refl) _)
  · cases db.expiryDeadline row with
    | none => exact .refl _ row
    | some deadline => exact capContentDeleteAt_keeps _ row
  · cases db.expiryDeadline row with
    | none => exact .inl rfl
    | some deadline => exact .inl rfl

theorem evolves_suppressDispatcher : db.Evolves scope
    ((db.suppressEvents scheduleId now).suppressNotifications scheduleId now) :=
  .of_eq rfl rfl rfl le_rfl (.inr
    ((db.keepsNotices_suppressEvents scheduleId now).trans (keepsNotices_suppressNotifications ..)))

theorem evolves_suppress {reason : RunReason} :
    db.Evolves scope (db.suppress scheduleId now reason) := by
  have hcancel : db.Evolves scope (db.updateOutbox
      (fun _ row ↦ db.runOf scheduleId row.runId ∧ isUnsent row) (cancelUnsent now)) :=
    evolves_cancelUnsent
  have hruns : ∀ db : Db, db.Evolves scope (db.suppressRuns scheduleId now reason) := fun db ↦
    evolves_runsWhere fun run ↦ ⟨rfl, rfl, rfl, fun h ↦ by cases h⟩
  have hcap : ∀ db : Db, db.Evolves scope
      (if reason = .authorizationExpired then db.capExpiringContent scheduleId else db) := by
    intro db
    split_ifs
    · exact evolves_capExpiringContent
    · exact .refl _ db
  have hclosed : ∀ db : Db, db.Evolves scope
      ((db.suppressEvents scheduleId now).suppressNotifications scheduleId now) := fun db ↦
    evolves_suppressDispatcher
  exact ((hcancel.trans (hcap _)).trans (hruns _)).trans (hclosed _)

theorem events_completeIfDrained :
    (db.completeIfDrained scheduleId now).events = db.events := by
  unfold completeIfDrained
  split
  · rfl
  split
  · rfl
  split_ifs <;> rfl

theorem evolves_completeIfDrained : db.Evolves scope (db.completeIfDrained scheduleId now) := by
  unfold completeIfDrained
  cases hbefore : db.schedules.get? scheduleId with
  | none => exact .refl _ db
  | some before =>
      simp only
      cases db.revision? scheduleId before.revision with
      | none => exact .refl _ db
      | some revision =>
          simp only
          split_ifs with hdrainable hunsettled
          · exact .refl _ db
          · exact .refl _ db
          refine (evolves_updateSchedule (fun row hrow ↦ ?_) fun row _ _ ↦ .inr ?_).trans
            evolves_retireRevisions
          · obtain rfl : before = row := Option.some.inj (hbefore.symm.trans hrow)
            refine ⟨rfl, rfl, .inr fun hstate ↦ ?_⟩
            simp only [isDrainable, Bool.not_eq_false, decide_eq_true_eq] at hdrainable
            cases hrow : before.state <;> simp_all [ScheduleState.isAbsorbing]
          · intro runId run hrun hschedule hstatus
            rw [Bool.not_eq_true, Table.any_eq_false_iff] at hunsettled
            have := hunsettled runId run hrun
            simp [hschedule, hstatus, unsettledRun] at this

/-- The expiry of a schedule keeps to the frame unless the schedule has ended. -/
theorem evolves_expireSchedule {before : Schedule}
    (h : scope.mayReopen ∨ ∀ row, db.schedules.get? scheduleId = some row →
      row.state.isAbsorbing = false) :
    db.Evolves scope (db.expireSchedule scheduleId before now) := by
  refine ((evolves_suppress.trans (evolves_updateSchedule ?_ ?_)).trans
    evolves_retireRevisions).trans evolves_completeIfDrained
  · intro row hrow
    refine ⟨rfl, rfl, h.imp_right fun hnone hstate ↦ ?_⟩
    rw [hnone row hrow] at hstate
    cases hstate
  · rintro row - hstate
    cases hstate

/-- No run of the schedule, none of its writes and none of its notices is open. -/
def Settled (db : Db) (scheduleId : ScheduleId) : Prop :=
  ∀ runId run, db.runs.get? runId = some run → run.scheduleId = scheduleId →
    db.unsettledRun [.pending, .failed, .needsReview] runId run = false

/-- The schedule has completed, and completes again when it is expired. -/
def StaysDrained (db : Db) (scheduleId : ScheduleId) : Prop :=
  db.Settled scheduleId ∧ ∃ row revision, db.schedules.get? scheduleId = some row ∧
    row.state = .completed ∧ db.revision? scheduleId row.revision = some revision ∧
    isDrainable { row with state := .expired } revision = true

theorem unsettledRun_eq_false_iff {states : List NotificationState} {runId : Uuid}
    {run : ScheduleRun} : db.unsettledRun states runId run = false ↔
      [RunStatus.materialized, .started, .needsReview].contains run.status = false ∧
        db.writeUnsettled runId = false ∧ db.noticeIn runId states = false := by
  simp only [unsettledRun, decide_eq_false_iff_not, not_or, Bool.not_eq_true]

theorem settled_updateUnsent (h : db.Settled scheduleId) :
    db.updateOutbox (fun _ row ↦ db.runOf scheduleId row.runId ∧ isUnsent row)
      (cancelUnsent now) = db := by
  have hnone : ∀ id row, db.outbox.get? id = some row →
      decide (db.runOf scheduleId row.runId ∧ isUnsent row) = false := by
    intro id row hrow
    rw [decide_eq_false_iff_not]
    rintro ⟨hrun, hunsent⟩
    obtain ⟨run, hrun, hid⟩ := Option.any_eq_true _ _ |>.1 hrun
    have hsettled := (unsettledRun_eq_false_iff.1 (h _ run hrun (by simpa using hid))).2.1
    rw [writeUnsettled, Table.any_eq_false_iff] at hsettled
    have := hsettled id row hrow
    simp only [isUnsent, decide_eq_true_eq] at hunsent
    rcases hunsent with hstatus | hstatus <;> simp [hstatus] at this
  simp only [updateOutbox, Table.updateWhere_eq_self hnone, Table.select_eq_nil hnone,
    List.foldl_nil]

/-- Tables whose rows come from settled ones, or have been closed, are settled. -/
theorem Settled.of_rows {db' : Db} (h : db.Settled scheduleId)
    (hruns : ∀ runId run', db'.runs.get? runId = some run' → ∃ run, db.runs.get? runId = some run ∧
      run.scheduleId = run'.scheduleId ∧ (run'.status = run.status ∨ run'.status = .cancelled))
    (houtbox : ∀ id row', db'.outbox.get? id = some row' → ∃ row, db.outbox.get? id = some row ∧
      row.runId = row'.runId ∧ row.status = row'.status)
    (hcompletions : ∀ key completion', db'.completions.get? key = some completion' →
      ∃ completion, db.completions.get? key = some completion ∧
        completion.owner = completion'.owner ∧
        (completion'.notificationState = completion.notificationState ∨
          completion'.notificationState = .none)) :
    db'.Settled scheduleId := by
  intro runId run' hrun' hid
  obtain ⟨run, hrun, hschedule, hstatus⟩ := hruns runId run' hrun'
  obtain ⟨hover, hwrites, hnotices⟩ :=
    unsettledRun_eq_false_iff.1 (h runId run hrun (hschedule.trans hid))
  rw [writeUnsettled, Table.any_eq_false_iff] at hwrites
  rw [noticeIn, Table.any_eq_false_iff] at hnotices
  refine unsettledRun_eq_false_iff.2 ⟨?_, ?_, ?_⟩
  · rcases hstatus with hstatus | hstatus
    · rw [hstatus]
      exact hover
    · rw [hstatus]
      rfl
  · refine Table.any_eq_false_iff.2 fun id row' hrow' ↦ ?_
    obtain ⟨row, hrow, hrunId, hsame⟩ := houtbox id row' hrow'
    rw [← hrunId, ← hsame]
    exact hwrites id row hrow
  · refine Table.any_eq_false_iff.2 fun key completion' hcompletion' ↦ ?_
    obtain ⟨completion, hcompletion, howner, hstate⟩ := hcompletions key completion' hcompletion'
    have hclosed := hnotices key completion hcompletion
    rcases hstate with hstate | hstate
    · rw [← howner, hstate]
      exact hclosed
    · simp [hstate]

/-- A suppression settles what it touches. -/
theorem settled_suppress {reason : RunReason} (h : db.Settled scheduleId) :
    (db.suppress scheduleId now reason).Settled scheduleId := by
  simp only [suppress, settled_updateUnsent h]
  have hruns : (if reason = .authorizationExpired then db.capExpiringContent scheduleId
      else db).runs = db.runs := by split_ifs <;> rfl
  have hcompletions : (if reason = .authorizationExpired then db.capExpiringContent scheduleId
      else db).completions = db.completions := by split_ifs <;> rfl
  have houtbox : ∀ id row', (if reason = .authorizationExpired then
      db.capExpiringContent scheduleId else db).outbox.get? id = some row' →
        ∃ row, db.outbox.get? id = some row ∧ row.runId = row'.runId ∧
          row.status = row'.status := by
    intro id row' hrow'
    split_ifs at hrow'
    · rw [capExpiringContent, Table.get?_updateWhere, Option.map_eq_some_iff] at hrow'
      obtain ⟨row, hrow, rfl⟩ := hrow'
      refine ⟨row, hrow, ?_⟩
      split_ifs
      · cases db.expiryDeadline row <;> exact ⟨rfl, rfl⟩
      · exact ⟨rfl, rfl⟩
    · exact ⟨row', hrow', rfl, rfl⟩
  generalize (if reason = .authorizationExpired then db.capExpiringContent scheduleId
    else db) = capped at *
  refine h.of_rows (fun runId run' hrun' ↦ ?_) houtbox fun key completion' hcompletion' ↦ ?_
  · have hrun : (capped.suppressRuns scheduleId now reason).runs.get? runId = some run' := hrun'
    rw [suppressRuns, Table.get?_updateWhere, Option.map_eq_some_iff, hruns] at hrun
    obtain ⟨run, hrun, rfl⟩ := hrun
    refine ⟨run, hrun, ?_⟩
    split_ifs
    · exact ⟨rfl, .inr rfl⟩
    · exact ⟨rfl, .inl rfl⟩
  · rw [suppressNotifications, Table.get?_updateWhere, Option.map_eq_some_iff] at hcompletion'
    obtain ⟨completion, hcompletion, rfl⟩ := hcompletion'
    refine ⟨completion, hcompletions ▸ hcompletion, ?_⟩
    split_ifs
    · exact ⟨rfl, .inr rfl⟩
    · exact ⟨rfl, .inl rfl⟩

/-- A settled schedule that can complete does. -/
theorem completeIfDrained_of_settled (now : Timestamp) (hsettled : db.Settled scheduleId) {row : Schedule}
    {revision : Revision} (hrow : db.schedules.get? scheduleId = some row)
    (hrevision : db.revision? scheduleId row.revision = some revision)
    (hdrainable : isDrainable row revision = true) :
    ∃ completedAt, db.completeIfDrained scheduleId now =
      (db.updateSchedule scheduleId fun row ↦
        { row with
          state := .completed
          terminalAt := some completedAt
          updatedAt := completedAt }).retireRevisions scheduleId completedAt none := by
  have hopen : db.runs.any (fun runId run ↦ run.scheduleId = scheduleId ∧
      db.unsettledRun [.pending, .failed, .needsReview] runId run) = false := by
    refine Table.any_eq_false_iff.2 fun runId run hrun ↦ ?_
    by_cases hid : run.scheduleId = scheduleId
    · simpa [hid] using hsettled runId run hrun hid
    · simp [hid]
  unfold completeIfDrained
  rw [hrow]
  simp only
  rw [hrevision]
  simp only [hdrainable, hopen, Bool.true_eq_false, if_false, Bool.false_eq_true]
  exact ⟨_, rfl⟩

/-- The expiry of a schedule that completes again keeps to the frame. -/
theorem evolves_expireDrained {before : Schedule} (h : db.StaysDrained scheduleId) :
    db.Evolves scope (db.expireSchedule scheduleId before now) := by
  obtain ⟨hsettled, row, revision, hrow, hcompleted, hrevision, hdrainable⟩ := h
  unfold expireSchedule
  extract_lets expiredAt suppressed expired retired
  have hsuppressed : db.Evolves scope suppressed := evolves_suppress
  refine hsuppressed.trans ?_
  have hsettled' : suppressed.Settled scheduleId := settled_suppress hsettled
  have hrow' : suppressed.schedules.get? scheduleId = some row := by
    rw [← hrow]
    simp only [suppressed, suppress]
    split_ifs <;> rfl
  have hrevision' : suppressed.revision? scheduleId row.revision = some revision := by
    rw [← hrevision]
    simp only [suppressed, suppress]
    split_ifs <;> rfl
  have hexpired : retired.schedules.get? scheduleId = some
      { row with
        state := .expired
        updatedAt := expiredAt
        terminalAt := some (row.terminalAt.getD expiredAt) } := by
    simp only [retired, retireRevisions, expired, updateSchedule, Table.get?_updateKey, if_true,
      hrow', Option.map_some]
  obtain ⟨revision', hrevised, hrecurrence⟩ : ∃ revision',
      retired.revision? scheduleId row.revision = some revision' ∧
        revision'.recurrence = revision.recurrence := by
    refine ⟨_, (Table.get?_updateWhere _ _ _ _).trans (congrArg _ hrevision'), ?_⟩
    dsimp only
    split_ifs <;> rfl
  obtain ⟨completedAt, hcomplete⟩ := completeIfDrained_of_settled expiredAt
    (show retired.Settled scheduleId from hsettled') hexpired hrevised
    (by simpa [isDrainable, hrecurrence] using hdrainable)
  rw [hcomplete]
  -- the two updates make one, from a completed row to a completed row
  have hfinal : ∀ id, ((retired.updateSchedule scheduleId fun row ↦
      { row with
        state := .completed
        terminalAt := some completedAt
        updatedAt := completedAt }).retireRevisions scheduleId completedAt none).schedules.get? id =
      if id = scheduleId then some
        { row with
          state := .completed
          terminalAt := some completedAt
          updatedAt := completedAt }
      else suppressed.schedules.get? id := by
    intro id
    simp only [retired, retireRevisions, expired, updateSchedule, Table.get?_updateKey]
    split_ifs with hid
    · simp only [hid, hrow', Option.map_some]
    · rfl
  have hnotices : suppressed.KeepsNotices ((retired.updateSchedule scheduleId fun row ↦
      { row with
        state := .completed
        terminalAt := some completedAt
        updatedAt := completedAt }).retireRevisions scheduleId completedAt none) :=
    .of_eq rfl rfl rfl
  refine { Evolves.refl scope suppressed with
    schedules := fun id ↦ ?_, ended := fun id row' hnew hstate ↦ ?_, notices := .inr hnotices }
  · rw [hfinal]
    split_ifs with hid
    · rw [hid, hrow']
      exact .some ⟨rfl, rfl, .inr fun _ ↦ hcompleted.symm⟩
    · exact Table.Evolves.refl (fun _ ↦ Schedule.Keeps.refl _) suppressed.schedules id
  · rw [hfinal] at hnew
    split_ifs at hnew with hid
    · exact .inl ⟨row, hid ▸ hrow', by rw [hcompleted]; rfl⟩
    · exact .inl ⟨row', hnew, hstate⟩

theorem evolves_expireCurrent {current : Schedule} {expiredAt : Timestamp}
    (h : db.schedules.get? scheduleId = some current) :
    db.Evolves scope (db.expireCurrent scheduleId current now expiredAt) := by
  unfold expireCurrent
  split_ifs with hexpired
  · refine evolves_expireSchedule (.inr fun row hrow ↦ ?_)
    obtain rfl : current = row := Option.some.inj (h.symm.trans hrow)
    cases hstate : current.state <;> simp_all [ScheduleState.isAbsorbing]
  · exact .refl _ db

theorem evolves_foldl {α : Type} {f : Db → α → Db} (h : ∀ (db : Db) a, db.Evolves scope (f db a))
    (as : List α) : db.Evolves scope (as.foldl f db) := by
  induction as generalizing db with
  | nil => exact .refl _ db
  | cons a as ih => exact (h db a).trans ih

theorem evolves_insertOutbox {env : Env} {runId : Uuid} {kind : OutboxKind} {target : Target}
    {content : String} {db' : Db} (hscope : scope.mayWrite runId)
    (h : db.insertOutbox env runId kind target content now = .ok db') : db.Evolves scope db' := by
  have hnotices := keepsNotices_insertOutbox h
  simp only [insertOutbox, throwIf_bind_eq_ok, orThrow_bind_eq_ok, Except.ok.injEq] at h
  obtain ⟨-, outbox, hinsert, rfl⟩ := h
  have hget := Table.get?_insert? hinsert
  have hnone := Table.get?_eq_none_of_insert? hinsert
  refine ⟨.refl (fun _ ↦ .refl _) _, .refl (fun _ ↦ .refl) _, fun id row hrow ↦ ?_,
    fun id row' hrow' hfresh ↦ ?_, fun id row' token hrow' htoken ↦ ?_, Nat.le_succ _,
    fun id row' hrow' hstate ↦ .inl ⟨row', hrow', hstate⟩, .inr hnotices⟩
  · have hne : id ≠ db.nextUuid := by
      rintro rfl
      rw [hnone] at hrow
      cases hrow
    exact ⟨row, by simp [hget, hne, hrow], .refl _ row⟩
  · simp only [hget] at hrow'
    split_ifs at hrow' with hid
    · obtain rfl := Option.some.inj hrow'
      subst hid
      exact ⟨hscope, le_rfl, Nat.lt_succ_self _, .inr (by simp)⟩
    · rw [hfresh] at hrow'
      cases hrow'
  · simp only [hget] at hrow'
    split_ifs at hrow' with hid
    · obtain rfl := Option.some.inj hrow'
      simp at htoken
    · exact .inl ⟨row', hrow', htoken⟩

end Statements

end Db

end Dona
