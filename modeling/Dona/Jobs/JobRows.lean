import Dona.Jobs.Tasks

/-!
# The jobs that other operations leave alone

The operations of the scheduler, of attention notices and of completions, as far as operations on
jobs use them: they do not write the rows of jobs, or only link a job with its notice.
-/

namespace Dona

open Fallible

/-- The event, the status, the result and the steering of the job are what they were. -/
structure JobRow.SameState (job job' : JobRow) : Prop where
  source : job'.sourceEventId = job.sourceEventId
  status : job'.status = job.status
  result : job'.result = job.result
  steerState : job'.steerState = job.steerState

theorem JobRow.SameState.refl (job : JobRow) : job.SameState job := ⟨rfl, rfl, rfl, rfl⟩

namespace Db

/-- The jobs and their owners are what they were; an event that has an owner keeps it. -/
structure Apart (db db' : Db) : Prop where
  jobs : db'.jobs = db.jobs
  owners : db'.ownerBindings = db.ownerBindings
  bindings : Table.Extends (fun _ binding binding' ↦ binding' = binding) db.eventBindings
    db'.eventBindings

variable {db db' db'' : Db} {env : Env} {runId : Uuid} {jobId : JobId} {eventId : EventId}
  {now : Timestamp} {actor : Actor}

theorem extends_bindings_refl (bindings : Table EventId JobBinding) :
    Table.Extends (fun _ binding binding' ↦ binding' = binding) bindings bindings :=
  fun _ binding hbinding ↦ ⟨binding, hbinding, rfl⟩

theorem Apart.of_eq (hjobs : db'.jobs = db.jobs) (howners : db'.ownerBindings = db.ownerBindings)
    (hbindings : db'.eventBindings = db.eventBindings) : Apart db db' := by
  refine ⟨hjobs, howners, ?_⟩
  rw [hbindings]
  exact extends_bindings_refl _

theorem Apart.refl (db : Db) : Apart db db := .of_eq rfl rfl rfl

/-- Statements on other tables come first. -/
theorem Apart.after (h : Apart db' db'') (hjobs : db'.jobs = db.jobs)
    (howners : db'.ownerBindings = db.ownerBindings)
    (hbindings : db'.eventBindings = db.eventBindings) : Apart db db'' := by
  obtain ⟨hjobs', howners', hbindings'⟩ := h
  rw [hbindings] at hbindings'
  exact ⟨hjobs'.trans hjobs, howners'.trans howners, hbindings'⟩

theorem Apart.trans (h : Apart db db') (h' : Apart db' db'') : Apart db db'' where
  jobs := h'.jobs.trans h.jobs
  owners := h'.owners.trans h.owners
  bindings := h.bindings.comp h'.bindings fun hab hbc ↦ hbc.trans hab

/-! ### The scheduler -/

theorem apart_updateSchedule (db : Db) (scheduleId : ScheduleId) (f : Schedule → Schedule) :
    Apart db (db.updateSchedule scheduleId f) := .of_eq rfl rfl rfl

theorem apart_updateRun (db : Db) (runId : Uuid) (f : ScheduleRun → ScheduleRun) :
    Apart db (db.updateRun runId f) := .of_eq rfl rfl rfl

theorem apart_cancelUnsentOf (db : Db) (runId : Uuid) (now : Timestamp) :
    Apart db (db.cancelUnsentOf runId now) := .of_eq rfl rfl rfl

theorem apart_retireRevisions (db : Db) (scheduleId : ScheduleId) (now : Timestamp)
    (revision : Option ℕ) : Apart db (db.retireRevisions scheduleId now revision) :=
  .of_eq rfl rfl rfl

theorem apart_suppress (db : Db) (scheduleId : ScheduleId) (now : Timestamp)
    (reason : RunReason) : Apart db (db.suppress scheduleId now reason) := by
  unfold suppress
  split_ifs <;> exact .of_eq rfl rfl rfl

theorem apart_completeIfDrained (db : Db) (scheduleId : ScheduleId) (now : Timestamp) :
    Apart db (db.completeIfDrained scheduleId now) := by
  unfold completeIfDrained
  split
  · exact .refl db
  · split
    · exact .refl db
    · split_ifs <;> exact .of_eq rfl rfl rfl

theorem apart_expireSchedule (db : Db) (scheduleId : ScheduleId) (before : Schedule)
    (now : Timestamp) : Apart db (db.expireSchedule scheduleId before now) := by
  refine Apart.trans ?_ (apart_completeIfDrained ..)
  refine Apart.trans ?_ (apart_retireRevisions ..)
  exact (apart_suppress ..).trans (apart_updateSchedule ..)

theorem apart_expireCurrent (db : Db) (scheduleId : ScheduleId) (current : Schedule)
    (now expiredAt : Timestamp) :
    Apart db (db.expireCurrent scheduleId current now expiredAt) := by
  unfold expireCurrent
  split_ifs
  · exact apart_expireSchedule ..
  · exact .refl db

theorem apart_activateReviewed (db : Db) (scheduleId : ScheduleId) (schedule : Schedule)
    (now : Timestamp) : Apart db (db.activateReviewed scheduleId schedule now) := by
  unfold activateReviewed
  split_ifs <;> exact .of_eq rfl rfl rfl

theorem apart_insertOutbox {kind : OutboxKind} {target : Target} {content : String}
    (h : db.insertOutbox env runId kind target content now = .ok db') : Apart db db' := by
  simp only [insertOutbox, throwIf_bind_eq_ok, orThrow_bind_eq_ok, Except.ok.injEq] at h
  obtain ⟨-, -, -, rfl⟩ := h
  exact .of_eq rfl rfl rfl

theorem apart_notifyResult {target : Target} {content : Option String}
    (h : db.notifyResult env runId target content now = .ok db') : Apart db db' := by
  simp only [notifyResult, bind_eq_ok] at h
  obtain ⟨_, -, _, -, h⟩ := h
  exact apart_insertOutbox h

theorem apart_settleRunState (db : Db) (runId : Uuid) (run : ScheduleRun) (current : Schedule)
    (next : RunTarget) (jobId : Option JobId) (now : Timestamp) :
    Apart db (db.settleRunState runId run current next jobId now) := by
  refine Apart.trans ?_ (apart_completeIfDrained ..)
  exact (apart_updateRun ..).trans (apart_expireCurrent ..)

theorem apart_refuseStart (db : Db) (runId : Uuid) (run : ScheduleRun) (current : Schedule)
    (reason : RunReason) (now transitionAt : Timestamp) :
    Apart db (db.refuseStart runId run current reason now transitionAt) := by
  refine Apart.trans ?_ (apart_completeIfDrained ..)
  refine Apart.trans ?_ (apart_cancelUnsentOf ..)
  refine Apart.trans ?_ (apart_updateRun ..)
  by_cases hexpired : reason = .authorizationExpired
  · rw [if_pos hexpired]
    exact apart_expireSchedule ..
  · rw [if_neg hexpired]
    exact .refl db

theorem apart_applyRunState {run : ScheduleRun} {current : Schedule} {snapshot : Revision}
    {next : RunTarget} {job : Option JobId} {content : Option String}
    {notificationAt : Option Timestamp} {routes : Bool}
    (h : db.applyRunState env runId run current snapshot next now job content notificationAt routes
      = .ok db') : Apart db db' := by
  simp only [applyRunState, bind_eq_ok, throwIf_eq_ok, Except.ok.injEq] at h
  obtain ⟨-, -, -, -, -, -, db₁, h₁, db₂, h₂, rfl⟩ := h
  have hnotify : Apart db db₁ := by
    split_ifs at h₁
    · exact apart_notifyResult h₁
    · obtain rfl := Except.ok.inj h₁
      exact .refl db
  have hfailure : Apart db₁ db₂ := by
    split_ifs at h₂
    · exact apart_insertOutbox h₂
    · have hinsert := apart_insertOutbox h₂
      exact (apart_cancelUnsentOf ..).trans hinsert
    · obtain rfl := Except.ok.inj h₂
      exact .refl db₁
    · obtain rfl := Except.ok.inj h₂
      exact .of_eq rfl rfl rfl
  exact (hnotify.trans hfailure).trans (apart_settleRunState ..)

theorem apart_setRunState {expected : RunStatus} {next : RunTarget} {job : Option JobId}
    {content : Option String} {notificationAt : Option Timestamp} {routes : Bool} {r : Option Unit}
    (h : db.setRunState env runId expected next actor now job content notificationAt routes
      = .ok (r, db')) : Apart db db' := by
  simp only [setRunState, bind_eq_ok, throwIf_eq_ok, orThrow_eq_ok] at h
  obtain ⟨_, -, _, -, run, -, _, -, current, -, _, -, _, -, snapshot, -, _, -, h⟩ := h
  split at h
  · simp only [Except.ok.injEq, Prod.mk.injEq] at h
    obtain ⟨-, rfl⟩ := h
    exact apart_refuseStart ..
  · simp only [bind_eq_ok, Except.ok.injEq, Prod.mk.injEq] at h
    obtain ⟨_, happly, -, rfl⟩ := h
    exact apart_applyRunState happly

theorem apart_markWorkRunNeedsReview {u : Unit}
    (h : db.markWorkRunNeedsReview runId jobId now eventId = .ok (u, db')) : Apart db db' := by
  simp only [markWorkRunNeedsReview, bind_eq_ok, throwIf_eq_ok, orThrow_eq_ok] at h
  obtain ⟨_, -, _, -, _, -, run, -, _, -, h⟩ := h
  split_ifs at h
  · obtain ⟨-, rfl⟩ := Prod.mk.inj (Except.ok.inj h)
    exact .refl db
  · simp only [bind_eq_ok, orThrow_eq_ok] at h
    obtain ⟨before, -, h⟩ := h
    split_ifs at h
    · obtain ⟨-, rfl⟩ := Prod.mk.inj (Except.ok.inj h)
      refine Apart.trans ?_ (apart_retireRevisions ..)
      refine Apart.trans ?_ (apart_updateSchedule ..)
      exact (apart_updateRun ..).trans (apart_suppress ..)
    · obtain ⟨-, rfl⟩ := Prod.mk.inj (Except.ok.inj h)
      exact .of_eq rfl rfl rfl

theorem apart_recoverWorkRunForResult {u : Unit}
    (h : db.recoverWorkRunForResult runId jobId eventId now = .ok (u, db')) : Apart db db' := by
  simp only [recoverWorkRunForResult, bind_eq_ok] at h
  obtain ⟨_, -, _, -, _, -, h⟩ := h
  split at h
  · obtain ⟨-, rfl⟩ := Prod.mk.inj (Except.ok.inj h)
    exact .refl db
  · split_ifs at h
    · obtain ⟨-, rfl⟩ := Prod.mk.inj (Except.ok.inj h)
      exact .refl db
    · split at h
      · split_ifs at h
        · obtain ⟨-, rfl⟩ := Prod.mk.inj (Except.ok.inj h)
          exact .of_eq rfl rfl rfl
        · obtain ⟨-, rfl⟩ := Prod.mk.inj (Except.ok.inj h)
          exact (apart_updateRun ..).trans (apart_expireSchedule ..)
        · obtain ⟨-, rfl⟩ := Prod.mk.inj (Except.ok.inj h)
          exact (apart_updateRun ..).trans (apart_activateReviewed ..)
        · obtain ⟨-, rfl⟩ := Prod.mk.inj (Except.ok.inj h)
          exact .of_eq rfl rfl rfl
      · obtain ⟨-, rfl⟩ := Prod.mk.inj (Except.ok.inj h)
        exact .of_eq rfl rfl rfl

theorem apart_reconcileWorkRun {outcome : WorkRunOutcome} {u : Unit}
    (h : db.reconcileWorkRun runId outcome actor now = .ok (u, db')) : Apart db db' := by
  simp only [reconcileWorkRun, bind_eq_ok, throwIf_eq_ok, orThrow_eq_ok, Except.ok.injEq,
    Prod.mk.injEq] at h
  obtain ⟨_, -, _, -, run, -, _, -, before, -, _, -, -, rfl⟩ := h
  exact (apart_updateRun ..).trans (apart_completeIfDrained ..)

/-! ### Attention notices -/

theorem apart_handoffResolvedAttention {instant : Int}
    (h : db.handoffResolvedAttention eventId instant = .ok db') : Apart db db' := by
  simp only [handoffResolvedAttention, bind_eq_ok] at h
  obtain ⟨attention, -, h⟩ := h
  split at h
  · split at h
    · split_ifs at h
      · obtain rfl := Except.ok.inj h
        exact .of_eq rfl rfl rfl
      · obtain rfl := Except.ok.inj h
        exact .refl db
    · obtain rfl := Except.ok.inj h
      exact .refl db
  · obtain rfl := Except.ok.inj h
    exact .refl db

theorem apart_recordAttentionResolution {status : JobStatus} {kind : ResolutionKind} {instant : Int}
    (h : db.recordAttentionResolution jobId eventId status kind instant = .ok db') :
    Apart db db' := by
  simp only [recordAttentionResolution, bind_eq_ok, throwIf_eq_ok] at h
  obtain ⟨_, -, _, -, _, -, _, -, h⟩ := h
  split at h
  · simp only [bind_eq_ok, Except.ok.injEq] at h
    obtain ⟨-, -, rfl⟩ := h
    exact .refl db
  · simp only [bind_eq_ok] at h
    obtain ⟨_, -, h⟩ := h
    exact (apart_handoffResolvedAttention h).after rfl rfl rfl

/-! ### Completions -/

theorem apart_insertEventJobBinding {binding : JobBinding}
    (h : db.insertEventJobBinding eventId binding = .ok db') : Apart db db' := by
  simp only [insertEventJobBinding, bind_eq_ok] at h
  obtain ⟨_, -, h⟩ := h
  split at h
  · simp only [bind_eq_ok, Except.ok.injEq] at h
    obtain ⟨-, -, rfl⟩ := h
    exact .refl db
  · simp only [bind_eq_ok, orThrow_eq_ok, Except.ok.injEq] at h
    obtain ⟨_, hinsert, rfl⟩ := h
    exact ⟨rfl, rfl, Table.extends_insert? (fun _ _ ↦ rfl) hinsert⟩

theorem apart_bindSlackEvent {event : EventRow} (h : db.bindSlackEvent eventId event = .ok db') :
    Apart db db' := by
  unfold bindSlackEvent at h
  split at h
  · exact apart_insertEventJobBinding h
  · obtain rfl := Except.ok.inj h
    exact .refl db

theorem apart_enqueue {envelope : EventEnvelope} {r : EnqueueResult}
    (h : db.enqueue envelope now = .ok (r, db')) : Apart db db' := by
  unfold enqueue at h
  split at h
  · simp only [bind_eq_ok, Except.ok.injEq, Prod.mk.injEq] at h
    obtain ⟨_, hbind, -, rfl⟩ := h
    exact apart_bindSlackEvent hbind
  · simp only [bind_eq_ok, Except.ok.injEq, Prod.mk.injEq] at h
    obtain ⟨_, -, _, hbind, -, rfl⟩ := h
    exact (apart_bindSlackEvent hbind).after rfl rfl rfl

theorem apart_reviewRun {job : JobRow} (h : db.reviewRun runId jobId job now = .ok db') :
    Apart db db' := by
  simp only [reviewRun, bind_eq_ok, Except.ok.injEq] at h
  obtain ⟨⟨_, _⟩, hreview, rfl⟩ := h
  exact apart_markWorkRunNeedsReview hreview

theorem apart_endRun {tenantId : String} {job : JobRow}
    (h : db.endRun env runId tenantId jobId job now = .ok db') : Apart db db' := by
  simp only [endRun] at h
  split at h
  · rename_i hset
    obtain rfl := Except.ok.inj h
    exact apart_setRunState hset
  · contradiction
  · split_ifs at h
    exact (apart_reviewRun h).after rfl rfl rfl

theorem apart_settleRun {tenantId : String} {job : JobRow}
    (h : db.settleRun env runId tenantId jobId job now = .ok db') : Apart db db' := by
  simp only [settleRun] at h
  split_ifs at h
  · exact apart_reviewRun h
  · simp only [bind_eq_ok, Except.ok.injEq] at h
    obtain ⟨⟨_, _⟩, hreconcile, rfl⟩ := h
    exact apart_reconcileWorkRun hreconcile
  · obtain rfl := Except.ok.inj h
    exact .refl db
  · exact apart_endRun h

theorem apart_settleOwnerRun {owner : JobOwner} {job : JobRow}
    (h : db.settleOwnerRun env owner jobId job now = .ok db') : Apart db db' := by
  unfold settleOwnerRun at h
  split at h
  · obtain rfl := Except.ok.inj h
    exact .refl db
  · contradiction
  · exact apart_settleRun h

/-- A notice is linked with its job; the owners are what they were. -/
structure Links (db db' : Db) : Prop where
  jobs : Table.Evolves (fun _ ↦ JobRow.SameState) db.jobs db'.jobs
  owners : db'.ownerBindings = db.ownerBindings
  bindings : Table.Extends (fun _ binding binding' ↦ binding' = binding) db.eventBindings
    db'.eventBindings

theorem Apart.links (h : Apart db db') : Links db db' := by
  refine ⟨?_, h.owners, h.bindings⟩
  rw [h.jobs]
  exact .refl (fun _ ↦ JobRow.SameState.refl) _

theorem Apart.trans_links (h : Apart db db') (h' : Links db' db'') : Links db db'' := by
  refine ⟨?_, h'.owners.trans h.owners, h.bindings.comp h'.bindings fun hab hbc ↦ hbc.trans hab⟩
  rw [← h.jobs]
  exact h'.jobs

theorem links_linkNotice {job : JobRow} {notice : JobNotice} {instant : Int} :
    Links db (db.linkNotice env jobId job notice eventId instant) := by
  refine ⟨?_, rfl, extends_bindings_refl db.eventBindings⟩
  refine Table.evolves_updateKey (fun _ ↦ JobRow.SameState.refl) fun row _ ↦ ?_
  exact ⟨rfl, rfl, rfl, rfl⟩

theorem links_notifyCompletion {binding : JobBinding} {job : JobRow} {instant : Int} {u : Unit}
    (h : db.notifyCompletion env binding jobId job instant = .ok (u, db')) : Links db db' := by
  simp only [notifyCompletion, bind_eq_ok, throwIf_eq_ok, Except.ok.injEq, Prod.mk.injEq] at h
  obtain ⟨_, -, ⟨_, db₁⟩, henqueue, _, -, -, rfl⟩ := h
  exact (apart_enqueue henqueue).trans_links links_linkNotice

theorem links_materializeJobCompletion {instant : Int} {u : Unit}
    (h : db.materializeJobCompletion env jobId instant = .ok (u, db')) : Links db db' := by
  simp only [materializeJobCompletion, bind_eq_ok, throwIf_eq_ok] at h
  obtain ⟨job, -, _, -, _, -, h⟩ := h
  split at h
  · simp only [bind_eq_ok, Except.ok.injEq, Prod.mk.injEq] at h
    obtain ⟨_, -, -, rfl⟩ := h
    exact (Apart.refl db).links
  · simp only [bind_eq_ok] at h
    obtain ⟨_, -, binding, -, h⟩ := h
    split at h
    · obtain ⟨-, rfl⟩ := Prod.mk.inj (Except.ok.inj h)
      exact (Apart.refl db).links
    · simp only [bind_eq_ok] at h
      obtain ⟨db₁, hsettle, h⟩ := h
      have hapart : Apart db db₁ := (apart_settleOwnerRun hsettle).after rfl rfl rfl
      split_ifs at h
      · obtain ⟨-, rfl⟩ := Prod.mk.inj (Except.ok.inj h)
        exact hapart.links
      · exact hapart.trans_links (links_notifyCompletion h)

end Db

end Dona
