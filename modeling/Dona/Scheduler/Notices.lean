import Dona.Scheduler.Delivery
import Dona.Scheduler.Purge
import Dona.Scheduler.Runs

/-!
# What becomes of the notices

`Db.KeepsNotices db db'` says what every statement respects of the notices of jobs, except the
one that authorizes a post: a completion stays linked with its event, its capability to post
is kept, or reset before a write has been authorized, and a new completion has none.
-/

namespace Dona

open Fallible

/-- The link of a completion is kept, and so is its capability, unless it is reset. -/
structure CompletionResult.Keeps (row row' : CompletionResult) : Prop where
  event : row'.notificationEventId = row.notificationEventId
  capability : (row'.notificationAuthorizationPhase = row.notificationAuthorizationPhase ∧
      row'.notificationPreflightAuthorizedAt = row.notificationPreflightAuthorizedAt) ∨
    (row.notificationAuthorizationPhase ≠ .write ∧ row'.notificationAuthorizationPhase = .none)

/-- The event is the same one for the sources that enqueue. -/
structure EventRow.Keeps (event event' : EventRow) : Prop where
  source : event'.source = event.source
  externalEventId : event'.externalEventId = event.externalEventId

theorem CompletionResult.Keeps.refl (row : CompletionResult) : row.Keeps row :=
  ⟨rfl, .inl ⟨rfl, rfl⟩⟩

theorem CompletionResult.Keeps.trans {a b c : CompletionResult} (h : a.Keeps b)
    (h' : b.Keeps c) : a.Keeps c := by
  refine ⟨h'.event.trans h.event, ?_⟩
  rcases h.capability with ⟨hphase, hat⟩ | ⟨hwrite, hreset⟩
  · rcases h'.capability with ⟨hphase', hat'⟩ | ⟨hwrite, hreset⟩
    · exact .inl ⟨hphase'.trans hphase, hat'.trans hat⟩
    · exact .inr ⟨hphase ▸ hwrite, hreset⟩
  · rcases h'.capability with ⟨hphase', -⟩ | ⟨-, hreset'⟩
    · exact .inr ⟨hwrite, hphase'.trans hreset⟩
    · exact .inr ⟨hwrite, hreset'⟩

theorem EventRow.Keeps.refl (event : EventRow) : event.Keeps event := ⟨rfl, rfl⟩

theorem EventRow.Keeps.trans {a b c : EventRow} (h : a.Keeps b) (h' : b.Keeps c) : a.Keeps c :=
  ⟨h'.source.trans h.source, h'.externalEventId.trans h.externalEventId⟩

namespace Db

/-- The event is the notice of the completion with this key. -/
def IsNoticeOf (db : Db) (eventId : EventId) (key : JobId × JobStatus) : Prop :=
  ∃ event, db.events.get? eventId = some event ∧ event.source = .donaJob ∧
    event.externalEventId = .job key.1 key.2 .none

structure KeepsNotices (db db' : Db) : Prop where
  completions : ∀ key row, db.completions.get? key = some row →
    ∃ row', db'.completions.get? key = some row' ∧ row.Keeps row'
  inserted : ∀ key row', db'.completions.get? key = some row' → db.completions.get? key = none →
    row'.notificationAuthorizationPhase = .none ∧
      ∀ eventId, row'.notificationEventId = some eventId → db'.IsNoticeOf eventId key
  events : ∀ id event, db.events.get? id = some event →
    ∃ event', db'.events.get? id = some event' ∧ event.Keeps event'
  nonces : db'.accessNonces = db.accessNonces

namespace KeepsNotices

variable {db db' db'' : Db}

theorem of_rows
    (hcompletions : db.completions.Evolves (fun _ ↦ CompletionResult.Keeps) db'.completions)
    (hevents : db.events.Evolves (fun _ ↦ EventRow.Keeps) db'.events)
    (hnonces : db'.accessNonces = db.accessNonces) : db.KeepsNotices db' where
  completions _ _ hrow := hcompletions.exists_new hrow
  inserted _ _ hrow' hnone := by
    rw [hcompletions.get?_eq_none_iff.2 hnone] at hrow'
    cases hrow'
  events _ _ hevent := hevents.exists_new hevent
  nonces := hnonces

/-- An operation that changes neither notices nor nonces. -/
theorem of_eq (hcompletions : db'.completions = db.completions) (hevents : db'.events = db.events)
    (hnonces : db'.accessNonces = db.accessNonces) : db.KeepsNotices db' := by
  refine of_rows ?_ ?_ hnonces
  · rw [hcompletions]
    exact .refl (fun _ ↦ .refl) _
  · rw [hevents]
    exact .refl (fun _ ↦ .refl) _

theorem refl (db : Db) : db.KeepsNotices db := of_eq rfl rfl rfl

theorem isNoticeOf (h : db.KeepsNotices db') {eventId : EventId} {key : JobId × JobStatus}
    (hnotice : db.IsNoticeOf eventId key) : db'.IsNoticeOf eventId key := by
  obtain ⟨event, hevent, hsource, hid⟩ := hnotice
  obtain ⟨event', hevent', hkeeps⟩ := h.events eventId event hevent
  exact ⟨event', hevent', hkeeps.source.trans hsource, hkeeps.externalEventId.trans hid⟩

theorem trans (h : db.KeepsNotices db') (h' : db'.KeepsNotices db'') : db.KeepsNotices db'' where
  completions key row hrow := by
    obtain ⟨row', hrow', hkeeps⟩ := h.completions key row hrow
    obtain ⟨row'', hrow'', hkeeps'⟩ := h'.completions key row' hrow'
    exact ⟨row'', hrow'', hkeeps.trans hkeeps'⟩
  inserted key row'' hrow'' hnone := by
    cases hrow : db'.completions.get? key with
    | none => exact h'.inserted key row'' hrow'' hrow
    | some row' =>
        obtain ⟨hphase, hlink⟩ := h.inserted key row' hrow hnone
        obtain ⟨other, hother, hkeeps⟩ := h'.completions key row' hrow
        obtain rfl : other = row'' := Option.some.inj (hother.symm.trans hrow'')
        refine ⟨?_, fun eventId hevent ↦ h'.isNoticeOf (hlink eventId (hkeeps.event ▸ hevent))⟩
        rcases hkeeps.capability with ⟨hsame, -⟩ | ⟨-, hreset⟩
        · exact hsame.trans hphase
        · exact hreset
  events id event hevent := by
    obtain ⟨event', hevent', hkeeps⟩ := h.events id event hevent
    obtain ⟨event'', hevent'', hkeeps'⟩ := h'.events id event' hevent'
    exact ⟨event'', hevent'', hkeeps.trans hkeeps'⟩
  nonces := h'.nonces.trans h.nonces

end KeepsNotices

/-! ### The statements -/

section Statements

variable {db : Db} {scheduleId : ScheduleId} {now : Timestamp}

/-- A statement that rewrites events only. -/
theorem keepsNotices_updateEvents {p : EventId → EventRow → Bool} {f : EventRow → EventRow}
    (h : ∀ event : EventRow, event.Keeps (f event)) :
    db.KeepsNotices { db with events := db.events.updateWhere p f } :=
  .of_rows (.refl (fun _ ↦ .refl) _)
    (Table.evolves_updateWhere_of_forall (fun _ ↦ .refl) fun _ ↦ h) rfl

/-- A statement that rewrites completions only. -/
theorem keepsNotices_updateCompletions {p : JobId × JobStatus → CompletionResult → Bool}
    {f : CompletionResult → CompletionResult}
    (h : ∀ key row, db.completions.get? key = some row → p key row = true → row.Keeps (f row)) :
    db.KeepsNotices { db with completions := db.completions.updateWhere p f } := by
  refine .of_rows (Table.evolves_updateWhere fun key row hrow ↦ ?_) (.refl (fun _ ↦ .refl) _) rfl
  split_ifs with hp
  · exact h key row hrow hp
  · exact .refl row

theorem evolves_syncCompletion (runs : Table Uuid ScheduleRun)
    (completions : Table (JobId × JobStatus) CompletionResult) (row : Outbox) :
    completions.Evolves (fun _ ↦ CompletionResult.Keeps) (syncCompletion runs completions row) := by
  unfold syncCompletion
  split
  · exact Table.evolves_updateKey (fun _ ↦ .refl) fun row _ ↦ ⟨rfl, .inl ⟨rfl, rfl⟩⟩
  · exact .refl (fun _ ↦ .refl) _

theorem evolves_syncCompletions (runs : Table Uuid ScheduleRun) (f : Outbox → Outbox)
    (entries : List (Uuid × Outbox)) (completions : Table (JobId × JobStatus) CompletionResult) :
    completions.Evolves (fun _ ↦ CompletionResult.Keeps)
      (entries.foldl (fun completions entry ↦ syncCompletion runs completions (f entry.2))
        completions) := by
  induction entries generalizing completions with
  | nil => exact .refl (fun _ ↦ .refl) _
  | cons entry entries ih =>
      exact (evolves_syncCompletion runs completions _).trans (fun ha hb ↦ ha.trans hb) (ih _)

theorem keepsNotices_updateOutbox (db : Db) (p : Uuid → Outbox → Bool) (f : Outbox → Outbox) :
    db.KeepsNotices (db.updateOutbox p f) :=
  .of_rows (evolves_syncCompletions _ f _ _) (.refl (fun _ ↦ .refl) _) rfl

theorem keepsNotices_claimOne (db : Db) (outboxId : Uuid) (now : Timestamp) (leaseSeconds : ℕ) :
    db.KeepsNotices (db.claimOne outboxId now leaseSeconds) := by
  have hclaimed : db.KeepsNotices (db.updateOutboxRow outboxId fun row ↦
      { row with
        status := .claimed
        claimToken := some db.nextUuid
        leaseUntil := some (now.add leaseSeconds)
        updatedAt := now }) := db.keepsNotices_updateOutbox _ _
  exact hclaimed.trans (.of_eq rfl rfl rfl)

theorem keepsNotices_insertOutbox {env : Env} {runId : Uuid} {kind : OutboxKind} {target : Target}
    {content : String} {db' : Db}
    (h : db.insertOutbox env runId kind target content now = .ok db') : db.KeepsNotices db' := by
  simp only [insertOutbox, throwIf_bind_eq_ok, orThrow_bind_eq_ok, Except.ok.injEq] at h
  obtain ⟨-, outbox, -, rfl⟩ := h
  exact .of_rows (evolves_syncCompletion _ _ _) (.refl (fun _ ↦ .refl) _) rfl

theorem keepsNotices_suppressEvents (db : Db) (scheduleId : ScheduleId) (now : Timestamp) :
    db.KeepsNotices (db.suppressEvents scheduleId now) :=
  keepsNotices_updateEvents fun _ ↦ ⟨rfl, rfl⟩

theorem keepsNotices_suppressNotifications (db : Db) (scheduleId : ScheduleId) (now : Timestamp) :
    db.KeepsNotices (db.suppressNotifications scheduleId now) := by
  refine .of_rows (Table.evolves_updateWhere_of_forall (fun _ ↦ .refl) fun _ _ ↦ ?_)
    (Table.evolves_updateWhere_of_forall (fun _ ↦ .refl) fun _ _ ↦ ⟨rfl, rfl⟩) rfl
  exact ⟨rfl, .inl ⟨rfl, rfl⟩⟩

theorem keepsNotices_updateEventsOfNotices {p : CompletionResult → Bool} {q : EventStatus → Bool}
    {f : EventRow → EventRow} (h : ∀ event : EventRow, event.Keeps (f event)) :
    db.KeepsNotices (db.updateEventsOfNotices p q f) :=
  keepsNotices_updateEvents h

theorem keepsNotices_updateNotices {p : CompletionResult → Bool} {q : EventRow → Bool}
    {state : NotificationState} : db.KeepsNotices (db.updateNotices p q state) :=
  keepsNotices_updateCompletions fun _ _ _ _ ↦ ⟨rfl, .inl ⟨rfl, rfl⟩⟩

theorem keepsNotices_closeNotices : db.KeepsNotices (db.closeNotices scheduleId now) := by
  refine KeepsNotices.trans ?_ keepsNotices_updateNotices
  refine KeepsNotices.trans ?_ (keepsNotices_updateEventsOfNotices fun _ ↦ ⟨rfl, rfl⟩)
  refine KeepsNotices.trans ?_ keepsNotices_updateNotices
  exact keepsNotices_updateEventsOfNotices fun _ ↦ ⟨rfl, rfl⟩

theorem keepsNotices_purgeEventContents (db : Db) (now : Timestamp) :
    db.KeepsNotices (db.purgeEventContents now) := by
  refine .of_rows (.refl (fun _ ↦ .refl) _) ?_ rfl
  have hupdate : ∀ (events : Table EventId EventRow) (p : EventId → EventRow → Bool)
      {f : EventRow → EventRow}, (∀ event : EventRow, event.Keeps (f event)) →
        events.Evolves (fun _ ↦ EventRow.Keeps) (events.updateWhere p f) :=
    fun _ _ _ h ↦ Table.evolves_updateWhere_of_forall (fun _ ↦ .refl) fun _ ↦ h
  refine Table.Evolves.trans (fun ha hb ↦ ha.trans hb) ?_ (hupdate _ _ fun _ ↦ ⟨rfl, rfl⟩)
  refine Table.Evolves.trans (fun ha hb ↦ ha.trans hb) ?_ (hupdate _ _ fun _ ↦ ⟨rfl, rfl⟩)
  refine Table.Evolves.trans (fun ha hb ↦ ha.trans hb) ?_ (hupdate _ _ fun _ ↦ ⟨rfl, rfl⟩)
  exact hupdate _ _ fun _ ↦ ⟨rfl, rfl⟩

theorem keepsNotices_purgeMetadata (db : Db) (now : Timestamp) :
    db.KeepsNotices (db.purgeMetadata now) := by
  have hupdate : ∀ (completions : Table (JobId × JobStatus) CompletionResult)
      (p : JobId × JobStatus → CompletionResult → Bool) {f : CompletionResult → CompletionResult},
      (∀ row : CompletionResult, row.Keeps (f row)) →
        completions.Evolves (fun _ ↦ CompletionResult.Keeps) (completions.updateWhere p f) :=
    fun _ _ _ h ↦ Table.evolves_updateWhere_of_forall (fun _ ↦ .refl) fun _ ↦ h
  refine .of_rows ?_ (Table.evolves_updateWhere_of_forall (fun _ ↦ .refl) fun _ _ ↦ ⟨rfl, rfl⟩) rfl
  refine Table.Evolves.trans (fun ha hb ↦ ha.trans hb) ?_
    (hupdate _ _ fun _ ↦ ⟨rfl, .inl ⟨rfl, rfl⟩⟩)
  exact hupdate _ _ fun _ ↦ ⟨rfl, .inl ⟨rfl, rfl⟩⟩

theorem keepsNotices_insertEvent {eventId : EventId} {row : EventRow} {events : Table EventId EventRow}
    {nextUuid : Uuid} (h : db.events.insert? eventId row = some events) :
    db.KeepsNotices { db with events := events, nextUuid := nextUuid } where
  completions _ row hrow := ⟨row, hrow, .refl row⟩
  inserted _ _ hrow' hnone := by
    rw [hnone] at hrow'
    cases hrow'
  events id event hevent := by
    refine ⟨event, ?_, .refl event⟩
    rw [Table.get?_insert? h, if_neg, hevent]
    rintro rfl
    rw [Table.get?_eq_none_of_insert? h] at hevent
    cases hevent
  nonces := rfl

end Statements

end Db

end Dona
