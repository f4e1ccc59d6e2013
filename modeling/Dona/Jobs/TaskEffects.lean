import Dona.Jobs.Effects
import Dona.Jobs.Notifications

/-!
# What the operations on tasks can do

A control acts only on the revision it was made for, and the supervisor only on the attempt it has
seen. Two operations do more: `claimStop` may take a job back from its end, and `replaceStopped`
gives the task its next attempt.
-/

namespace Dona

open Fallible

namespace TaskRow

variable {task task' : TaskRow}

/-- A statement that leaves the attempt and the budget of a task. -/
theorem Stays.of_eq (hattempt : task'.currentAttemptId = task.currentAttemptId)
    (hnumber : task'.attemptNumber = task.attemptNumber)
    (hmax : task'.maxAttempts = task.maxAttempts) (hrevision : task.revision ≤ task'.revision)
    (hstop : task.stopState.isSent = true → task'.stopState.isSent = true) : task.Stays task' := by
  refine ⟨hattempt, hnumber, fun hbudget hten ↦ ?_, hrevision, hstop⟩
  rw [hmax]
  exact ⟨hbudget, hten⟩

end TaskRow

namespace Store

variable {who : JobId → Prop} {s t : Store} {jobId : JobId} {taskId : TaskId} {eventId : EventId}
  {jobs : JobsEnv} {now : Int} {r : Unit}

/-! ### Controls -/

theorem untouched_insertControl {control : TaskControl}
    (h : s.insertControl taskId eventId control = .ok t) : Untouched s t := by
  simp only [insertControl, bind_eq_ok, Except.ok.injEq] at h
  obtain ⟨_, -, rfl⟩ := h
  exact ⟨rfl, rfl, rfl, .of_eq rfl rfl rfl rfl⟩

theorem assertTaskControl_eq_ok {task : TaskRow}
    (h : s.assertTaskControl jobs taskId eventId = .ok task) :
    s.tasks.get? taskId = some task := by
  simp only [assertTaskControl, assertOwner, bind_eq_ok, orThrow_eq_ok, Except.ok.injEq] at h
  obtain ⟨_, ⟨_, htask, _, -, _, -, _, -, _, -, _, -, _, -, rfl⟩, _, -, rfl⟩ := h
  exact htask

/-- A statement on one task that leaves its attempt. -/
theorem effect_updateTask_of_stays {f : TaskRow → TaskRow}
    (hf : ∀ task : TaskRow, s.tasks.get? taskId = some task → task.Stays (f task)) :
    Effect (fun _ ↦ True) s (s.updateTask taskId f) :=
  effect_updateTask fun task htask ↦ ⟨hf task htask, fun hnot ↦ absurd trivial hnot⟩

theorem stays_requested (action : TaskAction) (now : Int) (task : TaskRow) :
    task.Stays (requested action now task) :=
  .of_eq rfl rfl rfl (Nat.le_succ _) id

theorem effect_controlUndispatched {action : TaskAction} {job : JobRow}
    (hjob : s.db.jobs.get? jobId = some job) (hlive : job.status.isTerminal = false) :
    Effect (fun _ ↦ True) s (s.controlUndispatched taskId jobId action now) := by
  have hmoves : ∀ {f : JobRow → JobRow}, (∀ row, (f row).sourceEventId = row.sourceEventId) →
      ∀ row, s.db.jobs.get? jobId = some row → row.Moves (f row) := by
    intro f hsource row hrow
    rw [hjob] at hrow
    obtain rfl := Option.some.inj hrow
    exact .of_live (hsource job) hlive
  cases action with
  | pause =>
      refine Effect.trans ?_ (effect_updateTask_of_stays fun task _ ↦ ?_)
      · exact effect_setStatus trivial (hmoves fun _ ↦ rfl)
      · exact .of_eq rfl rfl rfl (le_refl _) id
  | resume =>
      refine Effect.trans ?_ (effect_updateTask_of_stays fun task _ ↦ ?_)
      · exact effect_setStatus trivial (hmoves fun _ ↦ rfl)
      · exact .of_eq rfl rfl rfl (le_refl _) id
  | cancel => exact effect_setStatus trivial (hmoves fun _ ↦ rfl)

theorem live_of_isUndispatched {job : JobRow} (h : s.isUndispatched jobId job = true) :
    job.status.isTerminal = false := by
  simp only [isUndispatched, decide_eq_true_eq] at h
  obtain ⟨-, -, hqueued | hblocked⟩ := h
  · rw [hqueued]
    rfl
  · rw [hblocked]
    rfl

/-- A control that is new meets the revision of its task. -/
structure Controls (taskId : TaskId) (revision : ℕ) (s t : Store) : Prop where
  effect : Effect (fun _ ↦ True) s t
  late : ∀ task, s.tasks.get? taskId = some task → task.revision ≠ revision → t = s

theorem controls_control {revision : ℕ} {action : TaskAction}
    (h : s.control jobs taskId eventId revision action now = .ok (r, t)) :
    Controls taskId revision s t := by
  simp only [control, bind_eq_ok] at h
  obtain ⟨task, htask, h⟩ := h
  have hget := assertTaskControl_eq_ok htask
  split at h
  · simp only [bind_eq_ok, Except.ok.injEq, Prod.mk.injEq] at h
    obtain ⟨_, -, -, rfl⟩ := h
    exact ⟨.refl s, fun _ _ _ ↦ rfl⟩
  · simp only [Db.getJobRequired, bind_eq_ok, throwIf_eq_ok, orThrow_eq_ok, not_not, ne_eq,
      Except.ok.injEq, Prod.mk.injEq] at h
    obtain ⟨_, hrevision, _, -, _, -, _, -, job, hjob, s₁, hinsert, -, rfl⟩ := h
    refine ⟨?_, fun row hrow hne ↦ ?_⟩
    · have hrequested : Effect (fun _ ↦ True) s (s.updateTask taskId (requested action now)) :=
        effect_updateTask_of_stays fun task _ ↦ stays_requested action now task
      refine Effect.trans ?_ (untouched_insertControl hinsert).effect
      split_ifs with hundispatched
      · have hlive := live_of_isUndispatched hundispatched
        exact hrequested.trans (effect_controlUndispatched hjob hlive)
      · exact hrequested
    · rw [hget] at hrow
      obtain rfl := Option.some.inj hrow
      contradiction

theorem controls_prepareSteer {revision : ℕ} {instruction : String} {new : Bool}
    (h : s.prepareSteer jobs taskId eventId revision instruction = .ok (new, t)) :
    Controls taskId revision s t := by
  simp only [prepareSteer, bind_eq_ok] at h
  obtain ⟨task, htask, h⟩ := h
  have hget := assertTaskControl_eq_ok htask
  split at h
  · simp only [bind_eq_ok, Except.ok.injEq, Prod.mk.injEq] at h
    obtain ⟨_, -, -, rfl⟩ := h
    exact ⟨.refl s, fun _ _ _ ↦ rfl⟩
  · simp only [bind_eq_ok, throwIf_eq_ok, not_or, not_not, ne_eq, Except.ok.injEq,
      Prod.mk.injEq] at h
    obtain ⟨_, ⟨hrevision, -⟩, _, -, attempt, -, s₁, hinsert, -, rfl⟩ := h
    refine ⟨?_, fun row hrow hne ↦ ?_⟩
    · refine Effect.trans ?_ (untouched_insertControl hinsert).effect
      exact effect_updateTask_of_stays fun task _ ↦ .of_eq rfl rfl rfl (Nat.le_succ _) id
    · rw [hget] at hrow
      obtain rfl := Option.some.inj hrow
      contradiction

theorem controls_retry {revision maxAttempts : ℕ}
    (h : s.retry jobs taskId eventId revision maxAttempts now = .ok (r, t)) :
    Controls taskId revision s t := by
  simp only [retry, bind_eq_ok] at h
  obtain ⟨task, htask, h⟩ := h
  have hget := assertTaskControl_eq_ok htask
  split at h
  · simp only [bind_eq_ok, Except.ok.injEq, Prod.mk.injEq] at h
    obtain ⟨_, -, -, rfl⟩ := h
    exact ⟨.refl s, fun _ _ _ ↦ rfl⟩
  · simp only [bind_eq_ok, throwIf_eq_ok, not_or, not_not, not_le, not_lt, ne_eq, Except.ok.injEq,
      Prod.mk.injEq] at h
    obtain ⟨_, hrevision, _, -, _, ⟨hbudget, hten⟩, s₁, hinsert, -, rfl⟩ := h
    refine ⟨?_, fun row hrow hne ↦ ?_⟩
    · refine Effect.trans ?_ (untouched_insertControl hinsert).effect
      refine effect_updateTask_of_stays fun row hrow ↦ ?_
      rw [hget] at hrow
      obtain rfl := Option.some.inj hrow
      exact ⟨rfl, rfl, fun _ _ ↦ ⟨hbudget.le, hten⟩, Nat.le_succ _, id⟩
    · rw [hget] at hrow
      obtain rfl := Option.some.inj hrow
      contradiction

/-! ### Steers that end -/

theorem stays_steerFinished (task : TaskRow) : task.Stays (steerFinished task) := by
  unfold steerFinished
  split_ifs
  · exact .of_eq rfl rfl rfl (le_refl _) id
  · exact .refl task

/-- The end of a steer touches a task only when the current attempt is steered by that event. -/
theorem effect_finishSteer (h : s.finishSteer taskId eventId = .ok (r, t)) :
    Effect (fun jobId ↦ ∃ job, s.db.jobs.get? jobId = some job ∧
      job.steerEventId = some eventId ∧ job.steerState = some .accepted) s t := by
  simp only [finishSteer, getTask, Db.getJobRequired, bind_eq_ok, orThrow_eq_ok] at h
  obtain ⟨task, htask, job, hjob, h⟩ := h
  split_ifs at h with hpending
  · obtain ⟨-, rfl⟩ := Prod.mk.inj (Except.ok.inj h)
    exact .refl s
  · obtain ⟨-, rfl⟩ := Prod.mk.inj (Except.ok.inj h)
    simp only [not_or, not_not, ne_eq] at hpending
    obtain ⟨-, hevent, haccepted⟩ := hpending
    refine Effect.trans (effect_updateAttempt (f := fun attempt ↦
      { attempt with checkpointAckSequence := max attempt.checkpointAckSequence _ })
      fun _ ↦ ⟨rfl, rfl⟩) (effect_updateTask fun row hrow ↦ ?_)
    have hrow' : s.tasks.get? taskId = some row := hrow
    rw [htask] at hrow'
    obtain rfl := Option.some.inj hrow'
    exact ⟨stays_steerFinished _, fun hnot ↦ absurd ⟨job, hjob, hevent, haccepted⟩ hnot⟩

/-! ### Notices -/

theorem untouched_claimTransition {sourceEventId : EventId} {transition : GroupTransition}
    (h : s.claimTransition sourceEventId transition eventId now = .ok t) : Untouched s t := by
  simp only [claimTransition, bind_eq_ok] at h
  obtain ⟨_, -, h⟩ := h
  cases transition with
  | progress =>
      obtain rfl := Except.ok.inj h
      exact .refl s
  | attention =>
      simp only [bind_eq_ok, Except.ok.injEq] at h
      obtain ⟨_, -, rfl⟩ := h
      exact ⟨rfl, rfl, rfl, .of_eq rfl rfl rfl rfl⟩
  | allTerminal =>
      simp only [bind_eq_ok, Except.ok.injEq] at h
      obtain ⟨_, -, rfl⟩ := h
      exact ⟨rfl, rfl, rfl, .of_eq rfl rfl rfl rfl⟩

theorem effect_linkJob : Effect who s (s.linkJob jobId eventId now) := by
  refine effect_updateJobRow fun job _ ↦ JobRow.Moves.ite ?_
  exact JobRow.SameState.moves ⟨rfl, rfl, rfl, rfl⟩

theorem effect_enqueueNotice {job : JobRow} {group : JobGroupRow}
    (h : s.enqueueNotice jobs jobId job group now = .ok t) : Effect who s t := by
  simp only [enqueueNotice, bind_eq_ok, Except.ok.injEq] at h
  obtain ⟨_, -, _, -, _, -, ⟨_, s₁⟩, henqueue, _, -, _, -, s₂, hbind, s₃, hclaim, rfl⟩ := h
  have hs₁ : Effect who s s₁ := effect_onDb_of_apart henqueue Db.apart_enqueue
  have hs₂ : Effect who s₁ s₂ := effect_modifyDb hbind Db.apart_insertEventJobBinding
  have hs₃ : Effect who s₂ s₃ := by
    split_ifs at hclaim
    · exact (untouched_claimTransition hclaim).effect
    · obtain rfl := Except.ok.inj hclaim
      exact .refl s₂
  exact ((hs₁.trans hs₂).trans hs₃).trans effect_linkJob

theorem effect_enqueueRegularJobNotification
    (h : s.enqueueRegularJobNotification jobs jobId now = .ok (r, t)) : Effect who s t := by
  simp only [enqueueRegularJobNotification, bind_eq_ok] at h
  obtain ⟨_, -, _, -, _, -, _, -, s₁, hhandoff, _, -, h⟩ := h
  have hs₁ : Effect who s s₁ := by
    split at hhandoff
    · split_ifs at hhandoff
      · exact effect_modifyDb hhandoff Db.apart_handoffResolvedAttention
      · obtain rfl := Except.ok.inj hhandoff
        exact .refl s
    · obtain rfl := Except.ok.inj hhandoff
      exact .refl s
  refine hs₁.trans ?_
  split at h
  · simp only [bind_eq_ok, Except.ok.injEq, Prod.mk.injEq] at h
    obtain ⟨_, -, -, rfl⟩ := h
    exact effect_linkJob
  · split at h
    · simp only [bind_eq_ok, Except.ok.injEq, Prod.mk.injEq] at h
      obtain ⟨_, -, -, rfl⟩ := h
      exact .refl _
    · simp only [bind_eq_ok, Except.ok.injEq, Prod.mk.injEq] at h
      obtain ⟨_, hnotice, -, rfl⟩ := h
      exact effect_enqueueNotice hnotice

theorem effect_enqueueJobNotification
    (h : s.enqueueJobNotification jobs jobId now = .ok (r, t)) : Effect who s t := by
  simp only [enqueueJobNotification, bind_eq_ok] at h
  obtain ⟨_, -, _, -, h⟩ := h
  split_ifs at h
  · exact effect_materialize h
  · exact effect_enqueueRegularJobNotification h

theorem untouched_sealJobGroup {sourceEventId : EventId}
    (h : s.sealJobGroup sourceEventId now = .ok (r, t)) : Untouched s t := by
  simp only [sealJobGroup, bind_eq_ok, Except.ok.injEq, Prod.mk.injEq] at h
  obtain ⟨_, -, -, rfl⟩ := h
  exact ⟨rfl, rfl, rfl, .of_eq rfl rfl rfl rfl⟩

/-! ### Observations of the supervisor -/

theorem stays_countFailure (seen : TaskRow) (reason : WaitReason) (task : TaskRow) :
    task.Stays (countFailure seen reason task) := by
  unfold countFailure
  split_ifs
  · exact .of_eq rfl rfl rfl (le_refl _) id
  · exact .refl task

theorem countFailure_of_ne {seen task : TaskRow} (reason : WaitReason)
    (hne : task.currentAttemptId ≠ seen.currentAttemptId) :
    countFailure seen reason task = task := by
  unfold countFailure
  rw [if_neg fun hboth ↦ hne hboth.2]

theorem stays_waited (seen : TaskRow) (reason : WaitReason) (delayMs now : Int) (task : TaskRow) :
    task.Stays (waited seen reason delayMs now task) := by
  unfold waited
  split_ifs <;> exact .of_eq rfl rfl rfl (le_refl _) id

theorem waited_of_ne {seen task : TaskRow} (reason : WaitReason) (delayMs now : Int)
    (hne : task.currentAttemptId ≠ seen.currentAttemptId) :
    waited seen reason delayMs now task = task := by
  unfold waited
  rw [if_neg fun hboth ↦ hne hboth.1]

theorem effect_wait {seen : TaskRow} {reason : WaitReason} {delayMs : Int}
    (h : s.wait taskId seen reason delayMs now = .ok (r, t)) :
    Effect (· = seen.currentAttemptId) s t := by
  simp only [wait, bind_eq_ok, Except.ok.injEq, Prod.mk.injEq] at h
  obtain ⟨task, -, -, rfl⟩ := h
  have hcount : Effect (· = seen.currentAttemptId) s (s.updateTask taskId (countFailure seen reason)) :=
    effect_updateTask fun row _ ↦ ⟨stays_countFailure seen reason row, countFailure_of_ne reason⟩
  exact hcount.trans (effect_updateTask fun row _ ↦ ⟨stays_waited _ _ _ _ row, waited_of_ne _ _ _⟩)

theorem effect_reconnect {seen : TaskRow} (h : s.reconnect taskId seen = .ok (r, t)) :
    Effect (· = seen.currentAttemptId) s t := by
  simp only [reconnect, getTask, bind_eq_ok, orThrow_eq_ok] at h
  obtain ⟨fresh, hfresh, h⟩ := h
  split_ifs at h with hchanged hjob
  · obtain ⟨-, rfl⟩ := Prod.mk.inj (Except.ok.inj h)
    exact .refl s
  all_goals
    simp only [not_or, not_not, ne_eq, not_and_or] at hchanged
    obtain ⟨-, hattempt, -, hstop⟩ := hchanged
    obtain ⟨-, rfl⟩ := Prod.mk.inj (Except.ok.inj h)
    have hquiet : ∀ row : TaskRow, s.tasks.get? taskId = some row → row.Stays
        { row with
          state := .active, waitReason := none, nextCheckAt := none, stopState := .none
          stopEvidence := none, observationFailures := 0 } ∧
        (row.currentAttemptId ≠ seen.currentAttemptId →
          { row with
            state := .active, waitReason := none, nextCheckAt := none, stopState := .none
            stopEvidence := none, observationFailures := 0 } = row) := by
      intro row hrow
      rw [hfresh] at hrow
      obtain rfl := Option.some.inj hrow
      refine ⟨.of_eq rfl rfl rfl (le_refl _) fun hsent ↦ ?_, fun hne ↦ absurd hattempt hne⟩
      rcases hstop with hnone | hnotSent
      · simp [hnone, StopState.isSent] at hsent
      · simp [hnotSent, StopState.isSent] at hsent
  · obtain ⟨job, hget, hstatus⟩ : ∃ job, s.db.jobs.get? seen.currentAttemptId = some job ∧
        (job.status = .needsReview ∨ job.status = .blocked) := by
      simpa [Option.any_eq_true] using hjob
    refine Effect.trans (t := s.setStatus seen.currentAttemptId _)
      (effect_setStatus rfl fun row hrow ↦ .of_live (by rfl) ?_) (effect_updateTask fun row hrow ↦ ?_)
    · rw [hget] at hrow
      obtain rfl := Option.some.inj hrow
      rcases hstatus with hreview | hblocked
      · rw [hreview]
        rfl
      · rw [hblocked]
        rfl
    · rw [(tasks_setStatus_of_quiet (fun _ ↦ rfl) fun _ ↦ by simp).1] at hrow
      exact hquiet row hrow
  · exact effect_updateTask hquiet

theorem effect_beginStop {seen : TaskRow} :
    Effect (· = seen.currentAttemptId) s (s.beginStop taskId seen).2 := by
  unfold beginStop
  split_ifs with hclaimed
  · refine effect_updateTask fun row hrow ↦ ?_
    obtain ⟨row', hrow', hattempt, -⟩ : ∃ task, s.tasks.get? taskId = some task ∧
        task.currentAttemptId = seen.currentAttemptId ∧ task.revision = seen.revision ∧
          task.stopState = .notSent := by
      simpa [Option.any_eq_true] using hclaimed
    rw [hrow'] at hrow
    obtain rfl := Option.some.inj hrow
    exact ⟨.of_eq rfl rfl rfl (le_refl _) fun _ ↦ rfl, fun hne ↦ absurd hattempt hne⟩
  · exact .refl s

theorem effect_stopped {seen : TaskRow} {evidence : WorkerObservation}
    (h : s.stopped taskId seen evidence now = .ok (r, t)) :
    Effect (· = seen.currentAttemptId) s t := by
  simp only [stopped, bind_eq_ok, throwIf_eq_ok, Bool.not_eq_false, Except.ok.injEq,
    Prod.mk.injEq] at h
  obtain ⟨_, hclaimed, -, rfl⟩ := h
  obtain ⟨row', hrow', hattempt, -⟩ : ∃ task, s.tasks.get? taskId = some task ∧
      task.currentAttemptId = seen.currentAttemptId ∧
        (task.stopState = .notSent ∨ task.stopState = .attempting) := by
    simpa [Option.any_eq_true] using hclaimed
  refine Effect.trans (t := s.updateTask taskId _) (effect_updateTask fun row hrow ↦ ?_)
    (effect_updateAttempt fun _ ↦ ⟨rfl, rfl⟩)
  rw [hrow'] at hrow
  obtain rfl := Option.some.inj hrow
  exact ⟨.of_eq rfl rfl rfl (le_refl _) fun _ ↦ rfl, fun hne ↦ absurd hattempt hne⟩

theorem effect_checkpoint {checkpoint : TaskCheckpoint}
    (h : s.checkpoint jobId checkpoint = .ok (r, t)) : Effect who s t := by
  simp only [Store.checkpoint, bind_eq_ok, Except.ok.injEq, Prod.mk.injEq] at h
  obtain ⟨_, -, _, -, _, -, _, -, -, rfl⟩ := h
  exact effect_updateAttempt fun _ ↦ ⟨rfl, rfl⟩

/-! ### The claim of a stop -/

/-- The claim of a stop puts the job of the attempt it was made for under review. -/
structure Claims (jobId : JobId) (s t : Store) : Prop where
  jobs : ∀ other row, s.db.jobs.get? other = some row → other ≠ jobId →
    t.db.jobs.get? other = some row
  tasks : Table.Evolves (fun _ task task' ↦ task.Stays task' ∧
    (task.currentAttemptId ≠ jobId → task' = task)) s.tasks t.tasks
  attempts : t.attempts = s.attempts
  sources : Table.Evolves (fun _ job job' ↦ job'.sourceEventId = job.sourceEventId) s.db.jobs
    t.db.jobs
  kept : Kept s t
  current : t = s ∨ ∃ taskId task, s.tasks.get? taskId = some task ∧ task.currentAttemptId = jobId

theorem claims_claimStop {seen task : TaskRow} {evidence : WorkerObservation}
    {files : JobId → Bool} (h : s.claimStop taskId seen evidence files = .ok (task, t)) :
    Claims seen.currentAttemptId s t := by
  simp only [claimStop, getTask, bind_eq_ok, orThrow_eq_ok, throwIf_eq_ok, not_or, not_not,
    ne_eq] at h
  obtain ⟨fresh, hfresh, _, ⟨-, hattempt⟩, h⟩ := h
  split_ifs at h with hclaimed
  · simp only [Db.getJobRequired, bind_eq_ok, orThrow_eq_ok, Except.ok.injEq, Prod.mk.injEq] at h
    obtain ⟨_, -, job, hjob, _, -, _, -, -, rfl⟩ := h
    have hquiet : (s.setStatus seen.currentAttemptId fun job ↦
          { job with status := .needsReview, lastErrorCode := some "task_stop_pending" }).tasks =
          s.tasks ∧
        (s.setStatus seen.currentAttemptId fun job ↦
          { job with status := .needsReview, lastErrorCode := some "task_stop_pending" }).attempts =
          s.attempts := tasks_setStatus_of_quiet (fun _ ↦ rfl) fun _ ↦ by simp
    refine ⟨fun other row hrow hne ↦ ?_, ?_, hquiet.2, ?_, ?_, .inr ⟨taskId, fresh, hfresh, hattempt⟩⟩
    · exact (get?_jobs_setStatus_of_ne hne).trans hrow
    · simp only [updateTask, hquiet.1]
      refine Table.evolves_updateKey (fun _ task ↦ ⟨.refl task, fun _ ↦ rfl⟩) fun row hrow ↦ ?_
      rw [hfresh] at hrow
      obtain rfl := Option.some.inj hrow
      refine ⟨.of_eq rfl rfl rfl (le_refl _) fun hsent ↦ ?_, fun hne ↦ absurd hattempt hne⟩
      rw [hclaimed] at hsent
      simp [StopState.isSent] at hsent
    · simp only [updateTask, jobs_setStatus]
      exact Table.evolves_updateKey (fun _ _ ↦ rfl) fun _ _ ↦ rfl
    · exact (kept_setStatus ..).trans (.of_eq rfl rfl rfl rfl)
  · obtain ⟨-, rfl⟩ := Prod.mk.inj (Except.ok.inj h)
    exact ⟨fun _ _ hrow _ ↦ hrow, .refl (fun _ task ↦ ⟨.refl task, fun _ ↦ rfl⟩) _, rfl,
      evolves_sources_refl _, .refl _, .inl rfl⟩

end Store

end Dona
