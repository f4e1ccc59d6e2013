import Dona.Jobs.HandoffEffects
import Dona.Jobs.System
import Dona.Jobs.TaskEffects

/-!
# The attempts at a task

A task counts its attempts, and goes on with the last one. The attempts before it are cancelled,
and no operation takes a job back that is cancelled and not being steered. So an attempt that was
superseded stays where it is, and the task does not hear of it any more.
-/

namespace Dona

open Fallible

namespace Store

/-! ### Soundness -/

/-- The task of the attempt goes on with another one. -/
def Superseded (s : Store) (jobId : JobId) : Prop :=
  ∃ attempt task, s.attempts.get? jobId = some attempt ∧
    s.tasks.get? attempt.taskId = some task ∧ task.currentAttemptId ≠ jobId

/-- A job that is cancelled for good. -/
def Retired (s : Store) (jobId : JobId) : Prop :=
  ∃ job, s.db.jobs.get? jobId = some job ∧ job.status = .cancelled ∧
    job.steerState ≠ some .dispatching

def attemptsOf (s : Store) (taskId : TaskId) : ℕ :=
  s.attempts.count fun _ attempt ↦ attempt.taskId = taskId

/-- The tasks count their attempts, within their budget. -/
structure Numbered (s : Store) : Prop where
  task : ∀ {jobId attempt}, s.attempts.get? jobId = some attempt →
    ∃ task, s.tasks.get? attempt.taskId = some task ∧ attempt.number ≤ task.attemptNumber
  current : ∀ {taskId task}, s.tasks.get? taskId = some task →
    ∃ attempt, s.attempts.get? task.currentAttemptId = some attempt ∧ attempt.taskId = taskId ∧
      attempt.number = task.attemptNumber
  count : ∀ {taskId task}, s.tasks.get? taskId = some task →
    s.attemptsOf taskId = task.attemptNumber
  budget : ∀ {taskId task}, s.tasks.get? taskId = some task →
    task.attemptNumber ≤ task.maxAttempts ∧ task.maxAttempts ≤ 10

/-- The tasks agree with their attempts, of which only the last one is not over. -/
structure AttemptsSound (s : Store) : Prop extends Numbered s where
  retired : ∀ {jobId}, s.Superseded jobId → s.Retired jobId

/-- Of two tasks only one goes on with an attempt. -/
theorem Numbered.eq_of_current {s : Store} (h : s.Numbered) {taskId taskId' : TaskId}
    {task task' : TaskRow} (htask : s.tasks.get? taskId = some task)
    (htask' : s.tasks.get? taskId' = some task')
    (heq : task.currentAttemptId = task'.currentAttemptId) : taskId = taskId' := by
  obtain ⟨attempt, hattempt, hid, -⟩ := h.current htask
  obtain ⟨attempt', hattempt', hid', -⟩ := h.current htask'
  rw [heq, hattempt'] at hattempt
  obtain rfl := Option.some.inj hattempt
  exact hid.symm.trans hid'

/-! ### Steps that keep the attempts -/

/-- No attempt begins, and no superseded attempt comes back. -/
structure Quiet (s t : Store) : Prop where
  jobs : ∀ {jobId}, s.Superseded jobId → s.Retired jobId → t.Retired jobId
  tasks : Table.Evolves (fun _ ↦ TaskRow.Stays) s.tasks t.tasks
  attempts : Table.Evolves (fun _ ↦ TaskAttempt.SameNumber) s.attempts t.attempts

variable {who : JobId → Prop} {s t u : Store} {jobId : JobId}

theorem JobRow.Moves.retired {job job' : JobRow} (h : job.Moves job')
    (hstatus : job.status = .cancelled) (hsteer : job.steerState ≠ some .dispatching) :
    job'.status = .cancelled ∧ job'.steerState ≠ some .dispatching := by
  have hterminal : job.status.isTerminal = true := by
    rw [hstatus]
    rfl
  exact ⟨(h.ended hterminal).1.trans hstatus, h.steer hterminal hsteer⟩

theorem Retired.of_extends (hjobs : Table.Extends (fun _ ↦ JobRow.Moves) s.db.jobs t.db.jobs)
    (h : s.Retired jobId) : t.Retired jobId := by
  obtain ⟨job, hjob, hstatus, hsteer⟩ := h
  obtain ⟨job', hjob', hmoves⟩ := hjobs jobId job hjob
  exact ⟨job', hjob', JobRow.Moves.retired hmoves hstatus hsteer⟩

theorem Change.quiet (h : Change who s t) : Quiet s t where
  jobs _ := .of_extends h.jobs
  tasks := h.tasks.mono fun hstays ↦ hstays.1
  attempts := h.attempts

theorem Effect.quiet (h : Effect who s t) : Quiet s t := h.change.quiet

theorem Quiet.refl (s : Store) : Quiet s s := by
  have heffect : Effect (fun _ ↦ False) s s := .refl s
  exact heffect.quiet

/-- A superseded attempt was superseded before a quiet step. -/
theorem Quiet.superseded (h : Quiet s t) (ht : t.Superseded jobId) : s.Superseded jobId := by
  obtain ⟨attempt', task', hattempt', htask', hne⟩ := ht
  obtain ⟨attempt, hattempt, hsame⟩ := h.attempts.exists_old hattempt'
  obtain ⟨task, htask, hstays⟩ := h.tasks.exists_old htask'
  rw [hsame.1] at htask
  rw [hstays.attempt] at hne
  exact ⟨attempt, task, hattempt, htask, hne⟩

theorem attemptsOf_eq (h : Table.Evolves (fun _ ↦ TaskAttempt.SameNumber) s.attempts t.attempts)
    (taskId : TaskId) : t.attemptsOf taskId = s.attemptsOf taskId := by
  refine (h.count_eq fun {jobId attempt attempt'} hsame ↦ ?_).symm
  rw [hsame.1]

theorem Numbered.quiet (hs : s.Numbered) (h : Quiet s t) : t.Numbered where
  task := by
    intro jobId attempt' hattempt'
    obtain ⟨attempt, hattempt, hsame⟩ := h.attempts.exists_old hattempt'
    obtain ⟨task, htask, hle⟩ := hs.task hattempt
    obtain ⟨task', htask', hstays⟩ := h.tasks.exists_new htask
    rw [hsame.1, hsame.2]
    refine ⟨task', htask', ?_⟩
    rw [hstays.number]
    exact hle
  current := by
    intro taskId task' htask'
    obtain ⟨task, htask, hstays⟩ := h.tasks.exists_old htask'
    obtain ⟨attempt, hattempt, hid, hnumber⟩ := hs.current htask
    obtain ⟨attempt', hattempt', hsame⟩ := h.attempts.exists_new hattempt
    rw [hstays.attempt, hstays.number]
    exact ⟨attempt', hattempt', hsame.1.trans hid, hsame.2.trans hnumber⟩
  count := by
    intro taskId task' htask'
    obtain ⟨task, htask, hstays⟩ := h.tasks.exists_old htask'
    rw [attemptsOf_eq h.attempts, hstays.number]
    exact hs.count htask
  budget := by
    intro taskId task' htask'
    obtain ⟨task, htask, hstays⟩ := h.tasks.exists_old htask'
    obtain ⟨hle, hten⟩ := hs.budget htask
    rw [hstays.number]
    exact hstays.budget hle hten

theorem AttemptsSound.quiet (hs : s.AttemptsSound) (h : Quiet s t) : t.AttemptsSound where
  toNumbered := hs.toNumbered.quiet h
  retired := by
    intro jobId hsuperseded
    have hold := h.superseded hsuperseded
    exact h.jobs hold (hs.retired hold)

/-! ### Operations of their own kind -/

theorem quiet_elsewhere (h : Jobs.Elsewhere s t) : Quiet s t := by
  have hjobs : Table.Extends (fun _ ↦ JobRow.Moves) s.db.jobs t.db.jobs := by
    refine (h.jobs.mono fun {jobId job job'} hrow ↦ ?_).extends
    rcases hrow with rfl | rfl
    · exact .refl _
    · exact JobRow.SameState.moves ⟨rfl, rfl, rfl, rfl⟩
  have hchange : Change (fun _ ↦ True) s t := .of_jobs hjobs h.tasks h.attempts
  exact hchange.quiet

theorem quiet_claims (hs : s.Numbered) (h : Claims jobId s t) : Quiet s t where
  jobs := by
    intro other hsuperseded hretired
    obtain ⟨attempt, task, hattempt, htask, hne⟩ := hsuperseded
    rcases h.current with rfl | ⟨taskId, task', htask', rfl⟩
    · exact hretired
    · have hother : other ≠ task'.currentAttemptId := by
        rintro rfl
        obtain ⟨attempt', hattempt', hid, -⟩ := hs.current htask'
        rw [hattempt] at hattempt'
        obtain rfl := Option.some.inj hattempt'
        rw [hid, htask'] at htask
        obtain rfl := Option.some.inj htask
        contradiction
      obtain ⟨job, hjob, hstatus⟩ := hretired
      exact ⟨job, h.jobs other job hjob hother, hstatus⟩
  tasks := h.tasks.mono fun hstays ↦ hstays.1
  attempts := by
    rw [h.attempts]
    exact evolves_attempts_refl _

/-- The recovery after a restart leaves what is cancelled and not being steered. -/
theorem quiet_recoverStaleJobs (now : Int) (s : Store) : Quiet s (s.recoverStaleJobs now) where
  jobs := by
    intro jobId _ hretired
    obtain ⟨job, hjob, hstatus, hsteer⟩ := hretired
    refine ⟨job, ?_, hstatus, hsteer⟩
    simp [recoverStaleJobs, updateDb, hjob, hstatus, hsteer]
  tasks := .refl (fun _ ↦ TaskRow.Stays.refl) _
  attempts := evolves_attempts_refl _

/-! ### The first attempt -/

/-- A task begins with its first attempt, for which a job was created. -/
structure Founds (jobs : JobsEnv) (taskId : TaskId) (task : TaskRow) (attempt : TaskAttempt)
    (s t : Store) : Prop where
  creates : ∃ u job document owner, Inserts task.currentAttemptId job document owner s u ∧
    Admission jobs s job document owner ∧ task.objective = job.objective ∧ Alike u t
  tasks : s.tasks.insert? taskId task = some t.tasks
  attempts : s.attempts.insert? task.currentAttemptId attempt = some t.attempts
  first : attempt.taskId = taskId ∧ attempt.number = 1 ∧ task.attemptNumber = 1
  budget : 1 ≤ task.maxAttempts ∧ task.maxAttempts ≤ 10

theorem founds_createFirst {jobs : JobsEnv} {request : TaskRequest}
    {issue : Option VerifiedTaskIssue} {now : Int} {r : CreateOutcome × TaskId}
    (hbudget : 1 ≤ request.policy.maxAttempts ∧ request.policy.maxAttempts ≤ 10)
    (htrimmed : trimmed request.objective = request.objective)
    (h : s.createFirst jobs request issue now = .ok (r, t)) :
    ∃ taskId task attempt, Founds jobs taskId task attempt s t := by
  simp only [createFirst, insertTask, insertAttempt, bind_eq_ok, orThrow_eq_ok, throwIf_eq_ok,
    Bool.not_eq_true, Except.ok.injEq, Prod.mk.injEq] at h
  obtain ⟨_, -, _, -, _, -, ⟨outcome, s₁⟩, hcreate, created, hcreated, _, hfresh, s₂,
    ⟨_, -, tasks, htasks, rfl⟩, s₃, ⟨_, -, attempts, hattempts, rfl⟩, -, rfl⟩ := h
  have houtcome : outcome = some ⟨created.jobId, false⟩ := by
    rw [← hfresh]
    exact hcreated
  refine ⟨s₁.db.nextUuid, newTask request issue created.jobId now,
    { taskId := s₁.db.nextUuid, number := 1, createdAt := .toIso now }, ?_⟩
  cases creates_createJob hcreate with
  | same hsame hresult => exact absurd houtcome (hresult created.jobId)
  | @inserts newId job document owner hinserts hadmission hresult hobjective =>
      obtain rfl : newId = created.jobId := by
        rw [hresult] at houtcome
        exact congrArg CreateJobResult.jobId (Option.some.inj houtcome)
      refine ⟨⟨s₁, job, document, owner, hinserts, hadmission, ?_, rfl, ?_⟩, ?_, ?_,
        ⟨rfl, rfl, rfl⟩, hbudget⟩
      · exact (hobjective htrimmed).symm
      · exact .of_eq rfl rfl rfl rfl
      · rw [← hinserts.tasks]
        exact htasks
      · rw [← hinserts.attempts]
        exact hattempts

theorem founds_create {jobs : JobsEnv} {request : TaskRequest} {issue : Option VerifiedTaskIssue}
    {now : Int} {r : CreateOutcome × TaskId} (h : s.create jobs request issue now = .ok (r, t)) :
    t = s ∨ ∃ taskId task attempt, Founds jobs taskId task attempt s t := by
  simp only [create, bind_eq_ok] at h
  obtain ⟨parsed, hparse, event, -, _, -, h⟩ := h
  split at h
  · simp only [bind_eq_ok, Except.ok.injEq, Prod.mk.injEq] at h
    obtain ⟨_, -, _, -, -, rfl⟩ := h
    exact .inl rfl
  · have hbudget : 1 ≤ parsed.policy.maxAttempts ∧ parsed.policy.maxAttempts ≤ 10 := by
      simp only [TaskRequest.parse, bind_eq_ok, throwIf_eq_ok, not_not, Except.ok.injEq] at hparse
      obtain ⟨_, -, _, -, _, -, _, -, _, -, _, hbudget, _, -, _, -, _, -, rfl⟩ := hparse
      exact hbudget
    have hobjective : parsed.objective = trimmed request.objective := by
      simp only [TaskRequest.parse, bind_eq_ok, Except.ok.injEq] at hparse
      obtain ⟨_, -, _, -, _, -, _, -, _, -, _, -, _, -, _, -, _, -, rfl⟩ := hparse
      rfl
    have htrimmed : trimmed parsed.objective = parsed.objective := by
      rw [hobjective]
      exact trimmed_trimmed request.objective
    exact .inr (founds_createFirst hbudget htrimmed h)

theorem Founds.jobs {jobs : JobsEnv} {taskId : TaskId} {task : TaskRow} {attempt : TaskAttempt}
    (h : Founds jobs taskId task attempt s t) :
    Table.Extends (fun _ ↦ JobRow.Moves) s.db.jobs t.db.jobs := by
  obtain ⟨u, job, document, owner, hinserts, -, -, halike⟩ := h.creates
  rw [halike.jobs]
  exact Table.extends_insert? (fun _ ↦ JobRow.Moves.refl) hinserts.jobs

theorem Founds.numbered {jobs : JobsEnv} {taskId : TaskId} {task : TaskRow}
    {attempt : TaskAttempt} (h : Founds jobs taskId task attempt s t) (hs : s.Numbered) : t.Numbered := by
  obtain ⟨hid, hnumber, hfirst⟩ := h.first
  have hnew : s.tasks.get? taskId = none := Table.get?_eq_none_of_insert? h.tasks
  have hold : ∀ {taskId' row}, s.tasks.get? taskId' = some row → taskId' ≠ taskId := by
    rintro taskId' row hrow rfl
    simp [hnew] at hrow
  have hnone : s.attemptsOf taskId = 0 := by
    refine Table.count_eq_zero_iff.2 fun jobId row hrow ↦ ?_
    obtain ⟨owner, howner, -⟩ := hs.task hrow
    simpa using hold howner
  have hcount : ∀ taskId', t.attemptsOf taskId' =
      s.attemptsOf taskId' + if taskId = taskId' then 1 else 0 := by
    intro taskId'
    rw [attemptsOf, Table.count_insert? h.attempts, hid]
    simp [attemptsOf]
  have hget := Table.get?_insert? h.tasks
  have hgetAttempt := Table.get?_insert? h.attempts
  refine ⟨fun {jobId row} hrow ↦ ?_, fun {taskId' row} hrow ↦ ?_, fun {taskId' row} hrow ↦ ?_,
    fun {taskId' row} hrow ↦ ?_⟩
  · rw [hgetAttempt] at hrow
    split_ifs at hrow with hjob
    · obtain rfl := Option.some.inj hrow
      refine ⟨task, ?_, ?_⟩
      · rw [hid, hget, if_pos rfl]
      · rw [hnumber, hfirst]
    · obtain ⟨owner, howner, hle⟩ := hs.task hrow
      refine ⟨owner, ?_, hle⟩
      rw [hget, if_neg (hold howner)]
      exact howner
  · rw [hget] at hrow
    split_ifs at hrow with htask
    · obtain rfl := Option.some.inj hrow
      subst htask
      refine ⟨attempt, ?_, hid, ?_⟩
      · rw [hgetAttempt, if_pos rfl]
      · rw [hnumber, hfirst]
    · obtain ⟨last, hlast, hlastId, hlastNumber⟩ := hs.current hrow
      refine ⟨last, ?_, hlastId, hlastNumber⟩
      rw [hgetAttempt, if_neg ?_]
      · exact hlast
      · intro heq
        rw [heq, Table.get?_eq_none_of_insert? h.attempts] at hlast
        contradiction
  · rw [hget] at hrow
    rw [hcount]
    split_ifs at hrow with htask
    · obtain rfl := Option.some.inj hrow
      rw [htask, if_pos rfl, hnone, hfirst]
    · rw [if_neg (Ne.symm htask)]
      exact hs.count hrow
  · rw [hget] at hrow
    split_ifs at hrow with htask
    · obtain rfl := Option.some.inj hrow
      rw [hfirst]
      exact h.budget
    · exact hs.budget hrow

theorem Founds.sound {jobs : JobsEnv} {taskId : TaskId} {task : TaskRow} {attempt : TaskAttempt}
    (h : Founds jobs taskId task attempt s t) (hs : s.AttemptsSound) : t.AttemptsSound where
  toNumbered := h.numbered hs.toNumbered
  retired := by
    rintro jobId ⟨row, owner, hrow, howner, hne⟩
    rw [Table.get?_insert? h.attempts] at hrow
    rw [Table.get?_insert? h.tasks] at howner
    refine .of_extends h.jobs (hs.retired ?_)
    split_ifs at hrow howner with hjob htask htask
    · obtain rfl := Option.some.inj howner
      exact absurd hjob.symm hne
    · obtain rfl := Option.some.inj hrow
      exact absurd h.first.1 htask
    · obtain ⟨known, hknown, -⟩ := hs.task hrow
      rw [htask, Table.get?_eq_none_of_insert? h.tasks] at hknown
      contradiction
    · exact ⟨row, owner, hrow, howner, hne⟩

/-! ### The next attempt -/

/-- The job of the next attempt continues the work of the last one. -/
structure Continues (oldId newId : JobId) (s t : Store) : Prop where
  creates : ∃ u job document owner mark, Inserts newId job document owner s u ∧ Alike u t ∧
    document.handoff = some mark ∧ mark.predecessorJobId = oldId ∧
    ∃ old, s.db.jobs.get? oldId = some old ∧ job.sourceEventId = old.sourceEventId

theorem Continues.jobs {oldId newId : JobId} (h : Continues oldId newId s t) :
    Table.Extends (fun _ ↦ JobRow.Moves) s.db.jobs t.db.jobs := by
  obtain ⟨u, job, document, owner, mark, hinserts, halike, -⟩ := h.creates
  rw [halike.jobs]
  exact Table.extends_insert? (fun _ ↦ JobRow.Moves.refl) hinserts.jobs

/-- The rows of the next attempt are inserted, and the task moves to it. -/
structure Succeeds (taskId : TaskId) (number : ℕ) (oldId newId : JobId) (now : Int) (s t : Store) :
    Prop where
  continues : Continues oldId newId s t
  tasks : t.tasks = s.tasks.updateKey taskId (replaced newId number now)
  attempts : s.attempts.insert? newId
    { taskId := taskId, number := number, createdAt := .toIso now } = some t.attempts

theorem Succeeds.numbered {taskId : TaskId} {task : TaskRow} {oldId newId : JobId} {now : Int}
    (h : Succeeds taskId (task.attemptNumber + 1) oldId newId now s t)
    (htask : s.tasks.get? taskId = some task) (hbudget : task.attemptNumber < task.maxAttempts)
    (hs : s.Numbered) : t.Numbered := by
  have hget : ∀ taskId', t.tasks.get? taskId' =
      if taskId' = taskId then some (replaced newId (task.attemptNumber + 1) now task)
      else s.tasks.get? taskId' := by
    intro taskId'
    rw [h.tasks, Table.get?_updateKey]
    split_ifs with heq
    · rw [heq, htask]
      rfl
    · rfl
  have hgetAttempt := Table.get?_insert? h.attempts
  have hcount : ∀ taskId', t.attemptsOf taskId' =
      s.attemptsOf taskId' + if taskId = taskId' then 1 else 0 := by
    intro taskId'
    rw [attemptsOf, Table.count_insert? h.attempts]
    simp [attemptsOf]
  refine ⟨fun {jobId row} hrow ↦ ?_, fun {taskId' row} hrow ↦ ?_, fun {taskId' row} hrow ↦ ?_,
    fun {taskId' row} hrow ↦ ?_⟩
  · rw [hgetAttempt] at hrow
    rw [hget]
    split_ifs at hrow
    · obtain rfl := Option.some.inj hrow
      exact ⟨_, if_pos rfl, le_refl _⟩
    · obtain ⟨owner, howner, hle⟩ := hs.task hrow
      split_ifs with htaskId
      · rw [htaskId, htask] at howner
        obtain rfl := Option.some.inj howner
        exact ⟨_, rfl, hle.trans (Nat.le_succ _)⟩
      · exact ⟨owner, howner, hle⟩
  · rw [hget] at hrow
    split_ifs at hrow with htaskId
    · obtain rfl := Option.some.inj hrow
      have hattempt := hgetAttempt newId
      rw [if_pos rfl] at hattempt
      exact ⟨_, hattempt, htaskId.symm, rfl⟩
    · obtain ⟨last, hlast, hlastId, hlastNumber⟩ := hs.current hrow
      refine ⟨last, ?_, hlastId, hlastNumber⟩
      rw [hgetAttempt, if_neg ?_]
      · exact hlast
      · intro heq
        rw [heq, Table.get?_eq_none_of_insert? h.attempts] at hlast
        contradiction
  · rw [hget] at hrow
    rw [hcount]
    split_ifs at hrow with htaskId
    · obtain rfl := Option.some.inj hrow
      rw [htaskId, if_pos rfl, hs.count htask]
      rfl
    · rw [if_neg (Ne.symm htaskId)]
      exact hs.count hrow
  · rw [hget] at hrow
    split_ifs at hrow
    · obtain rfl := Option.some.inj hrow
      exact ⟨hbudget, (hs.budget htask).2⟩
    · exact hs.budget hrow

/-- A task goes on with its next attempt, when the worker of the last one is stopped and there is
no result; the last attempt is cancelled first and last. -/
structure Replaces (taskId : TaskId) (task : TaskRow) (newId : JobId) (files : JobId → Bool)
    (now : Int) (s t : Store) : Prop where
  known : s.tasks.get? taskId = some task
  isStopped : task.stopState = .stopped
  unfinished : ∃ job, s.db.jobs.get? task.currentAttemptId = some job ∧ job.result = none
  noFile : files task.currentAttemptId = false
  budget : task.attemptNumber < task.maxAttempts
  phases : ∃ s₁ s₂, Effect (fun _ ↦ False) s s₁ ∧
    Succeeds taskId (task.attemptNumber + 1) task.currentAttemptId newId now s₁ s₂ ∧
    Effect (· = task.currentAttemptId) s₂ t
  retired : t.Retired task.currentAttemptId

theorem effect_interrupt (jobId : JobId) (now : Int) (s : Store) :
    Effect who s (s.interrupt jobId now) := by
  have hjob : Effect who s (s.updateJobRow jobId fun job ↦
      { job with lastErrorCode := some "task_attempt_interrupted", steerState := none }) :=
    effect_updateJobRow fun _ _ ↦ ⟨rfl, fun _ ↦ ⟨rfl, rfl⟩, fun _ _ ↦ by simp⟩
  refine hjob.trans (Effect.trans ?_
    ((untouched_insertStopProof jobId now _).trans (untouched_setCleanup ..)).effect)
  exact effect_updateAttempt fun _ ↦ ⟨rfl, rfl⟩

theorem retired_interrupt {job : JobRow} {now : Int} (hjob : s.db.jobs.get? jobId = some job)
    (hstatus : job.status = .cancelled) : (s.interrupt jobId now).Retired jobId := by
  have hget : (s.interrupt jobId now).db.jobs.get? jobId = some
      { job with lastErrorCode := some "task_attempt_interrupted", steerState := none } := by
    unfold interrupt
    rw [(untouched_setCleanup ..).jobs, (untouched_insertStopProof ..).jobs]
    simp [updateJobRow, updateAttempt, updateDb, hjob]
  exact ⟨_, hget, hstatus, by simp⟩

/-- The last attempt is cancelled after the task has moved on, so that its end does not end the
task. -/
theorem replaces_replace {jobs : JobsEnv} {taskId : TaskId} {task : TaskRow} {old : JobRow}
    {now : Int} {newId : JobId} {files : JobId → Bool} (hknown : s.tasks.get? taskId = some task)
    (hstopped : task.stopState = .stopped)
    (hold : s.db.jobs.get? task.currentAttemptId = some old) (hresult : old.result = none)
    (hfile : files task.currentAttemptId = false) (hbudget : task.attemptNumber < task.maxAttempts)
    (h : s.replace jobs taskId task old now = .ok (newId, t)) :
    Replaces taskId task newId files now s t := by
  simp only [replace, insertAttempt, bind_eq_ok, orThrow_eq_ok, Except.ok.injEq,
    Prod.mk.injEq] at h
  obtain ⟨⟨_, s₁⟩, hbegin, owner, -, document, -, s₂, hinsert, s₃, ⟨_, -, attempts, hattempts, rfl⟩,
    ⟨_, s₄⟩, hcancel, rfl, rfl⟩ := h
  generalize s!"job_{s₁.db.nextUuid}" = newId at hinsert hattempts hcancel ⊢
  have hs₁ : Effect (fun _ ↦ False) s s₁ := effect_beginJobCancellation hbegin
  have hdraw : Untouched s₁ s₁.draw := ⟨rfl, rfl, rfl, .of_eq rfl rfl rfl rfl⟩
  have hinserts := hdraw.inserts (inserts_insertJob hinsert)
  obtain ⟨old₁, hold₁, hmoves⟩ := hs₁.jobs.exists_new hold
  obtain ⟨_, job, -, hjob, hstatus, -⟩ := get?_markJobCancelled hcancel
  refine ⟨hknown, hstopped, ⟨old, hold, hresult⟩, hfile, hbudget,
    ⟨s₁, _, hs₁, ?_, (effect_markJobCancelled hcancel).trans (effect_interrupt _ now s₄)⟩,
    retired_interrupt hjob hstatus⟩
  have hcontinues : Continues task.currentAttemptId newId s₁ (({ s₂ with
      attempts := attempts } : Store).updateTask taskId
        (replaced newId (task.attemptNumber + 1) now)) :=
    ⟨s₂, _, _, owner, _, hinserts, ⟨rfl, .of_eq rfl rfl rfl rfl⟩, rfl, rfl, old₁, hold₁,
      hmoves.source.symm⟩
  refine ⟨hcontinues, ?_, ?_⟩
  · simp only [updateTask, hinserts.tasks]
  · rw [hinserts.attempts] at hattempts
    exact hattempts

/-- `replaceStopped` replaces the attempt, or leaves it where it is. -/
theorem replaces_replaceStopped {jobs : JobsEnv} {taskId : TaskId} {now : Int}
    {files : JobId → Bool} {r : Option JobId}
    (h : s.replaceStopped jobs taskId files now = .ok (r, t)) :
    Effect (fun _ ↦ True) s t ∨ ∃ task newId, Replaces taskId task newId files now s t := by
  simp only [replaceStopped, getTask, Db.getJobRequired, bind_eq_ok, orThrow_eq_ok, throwIf_eq_ok,
    not_or, not_not, Bool.not_eq_true, ne_eq] at h
  obtain ⟨task, htask, _, ⟨hstopped, -⟩, old, hold, _, ⟨hresult, hfile⟩, h⟩ := h
  split at h
  · obtain ⟨-, rfl⟩ := Prod.mk.inj (Except.ok.inj h)
    exact .inl (effect_updateTask_of_stays fun row _ ↦ .of_eq rfl rfl rfl (le_refl _) id)
  · simp only [bind_eq_ok, Except.ok.injEq, Prod.mk.injEq] at h
    obtain ⟨⟨_, s₁⟩, hbegin, ⟨_, s₂⟩, hcancel, -, rfl⟩ := h
    have hs₁ : Effect (fun _ ↦ True) s s₁ := effect_beginJobCancellation hbegin
    exact .inl (hs₁.trans ((effect_markJobCancelled hcancel).mono fun _ _ ↦ trivial))
  · split_ifs at h with hbudget
    · simp only [bind_eq_ok, Except.ok.injEq, Prod.mk.injEq] at h
      obtain ⟨⟨_, s₁⟩, hwait, -, rfl⟩ := h
      exact .inl ((effect_wait hwait).mono fun _ _ ↦ trivial)
    · simp only [bind_eq_ok, Except.ok.injEq, Prod.mk.injEq] at h
      obtain ⟨⟨newId, s₁⟩, hreplace, -, rfl⟩ := h
      have hlt : task.attemptNumber < task.maxAttempts := by omega
      exact .inr ⟨task, newId, replaces_replace htask hstopped hold hresult hfile hlt hreplace⟩

/-! ### What one step leaves behind -/

/-- The row of a task that the step is not about. -/
theorem Effect.get?_tasks {taskId : TaskId} (h : Effect who s t)
    (hwho : ∀ task, s.tasks.get? taskId = some task → ¬who task.currentAttemptId) :
    t.tasks.get? taskId = s.tasks.get? taskId := by
  cases htask : s.tasks.get? taskId with
  | none => exact h.tasks.get?_eq_none_iff.2 htask
  | some task =>
      obtain ⟨task', htask', -, heq⟩ := h.tasks.exists_new htask
      rw [htask', heq (hwho task htask)]

section

variable {taskId : TaskId} {task : TaskRow} {newId : JobId} {now : Int} {files : JobId → Bool}

/-- The attempt that follows is a new one. -/
theorem Replaces.attempts_new (h : Replaces taskId task newId files now s t) :
    s.attempts.get? newId = none := by
  obtain ⟨s₁, s₂, hs₁, hs₂, -⟩ := h.phases
  exact hs₁.attempts.get?_eq_none_iff.1 (Table.get?_eq_none_of_insert? hs₂.attempts)

theorem Replaces.get?_tasks (h : Replaces taskId task newId files now s t) (hs : s.Numbered)
    (id : TaskId) : t.tasks.get? id =
      (s.tasks.updateKey taskId (replaced newId (task.attemptNumber + 1) now)).get? id := by
  obtain ⟨s₁, s₂, hs₁, hs₂, hs₃⟩ := h.phases
  have hcancel : ∀ id, s₁.tasks.get? id = s.tasks.get? id :=
    fun id ↦ hs₁.get?_tasks fun _ _ hfalse ↦ hfalse
  have hmoved : s₂.tasks.get? id =
      (s.tasks.updateKey taskId (replaced newId (task.attemptNumber + 1) now)).get? id := by
    rw [hs₂.tasks, Table.get?_updateKey, Table.get?_updateKey, hcancel]
  rw [← hmoved]
  refine hs₃.get?_tasks fun row hrow heq ↦ ?_
  rw [hmoved, Table.get?_updateKey] at hrow
  split_ifs at hrow with hid
  · rw [hid, h.known] at hrow
    obtain rfl := Option.some.inj hrow
    obtain ⟨last, hlast, -⟩ := hs.current h.known
    have hnew := h.attempts_new
    rw [← heq] at hlast
    exact absurd (hnew.symm.trans hlast) (by simp)
  · exact hid (hs.eq_of_current hrow h.known heq)

theorem Replaces.numbered (h : Replaces taskId task newId files now s t) (hs : s.Numbered) :
    t.Numbered := by
  obtain ⟨s₁, s₂, hs₁, hs₂, hs₃⟩ := h.phases
  have hknown : s₁.tasks.get? taskId = some task :=
    (hs₁.get?_tasks fun _ _ hfalse ↦ hfalse).trans h.known
  exact (hs₂.numbered hknown h.budget (hs.quiet hs₁.quiet)).quiet hs₃.quiet

/-- The attempts after a replacement are those before it and the new one. -/
theorem Replaces.attempts_old (h : Replaces taskId task newId files now s t) {attempt' : TaskAttempt}
    (hattempt' : t.attempts.get? jobId = some attempt') :
    (jobId = newId ∧ attempt'.taskId = taskId) ∨
      ∃ attempt, s.attempts.get? jobId = some attempt ∧ attempt.SameNumber attempt' := by
  obtain ⟨s₁, s₂, hs₁, hs₂, hs₃⟩ := h.phases
  obtain ⟨attempt₂, hattempt₂, hsame₂⟩ := hs₃.attempts.exists_old hattempt'
  rw [Table.get?_insert? hs₂.attempts] at hattempt₂
  split_ifs at hattempt₂ with hjob
  · obtain rfl := Option.some.inj hattempt₂
    exact .inl ⟨hjob, hsame₂.1⟩
  · obtain ⟨attempt, hattempt, hsame⟩ := hs₁.attempts.exists_old hattempt₂
    exact .inr ⟨attempt, hattempt, hsame₂.1.trans hsame.1, hsame₂.2.trans hsame.2⟩

theorem Replaces.jobs (h : Replaces taskId task newId files now s t) :
    Table.Extends (fun _ ↦ JobRow.Moves) s.db.jobs t.db.jobs := by
  obtain ⟨s₁, s₂, hs₁, hs₂, hs₃⟩ := h.phases
  have hjobs := hs₁.change.jobs.comp hs₂.continues.jobs JobRow.Moves.trans
  exact hjobs.comp hs₃.change.jobs JobRow.Moves.trans

theorem Replaces.sound (h : Replaces taskId task newId files now s t) (hs : s.AttemptsSound) :
    t.AttemptsSound where
  toNumbered := h.numbered hs.toNumbered
  retired := by
    rintro jobId ⟨attempt', task', hattempt', htask', hne⟩
    rw [h.get?_tasks hs.toNumbered, Table.get?_updateKey] at htask'
    rcases h.attempts_old hattempt' with ⟨rfl, hid⟩ | ⟨attempt, hattempt, hsame⟩
    · rw [if_pos hid, hid, h.known] at htask'
      obtain rfl := Option.some.inj htask'
      exact absurd rfl hne
    · rw [hsame.1] at htask'
      split_ifs at htask' with hid
      · by_cases hlast : jobId = task.currentAttemptId
        · rw [hlast]
          exact h.retired
        · exact .of_extends h.jobs (hs.retired ⟨attempt, task, hattempt, by rw [hid, h.known],
            Ne.symm hlast⟩)
      · exact .of_extends h.jobs (hs.retired ⟨attempt, task', hattempt, htask', hne⟩)

end

/-! ### Advances -/

/-- A task that moves to another attempt moves to a new one, with a higher revision. -/
structure Advances (s t : Store) : Prop where
  tasks : Table.Extends (fun _ task task' ↦ task.Stays task' ∨
    (task.revision < task'.revision ∧ s.attempts.get? task'.currentAttemptId = none))
    s.tasks t.tasks
  founded : ∀ {taskId task'}, s.tasks.get? taskId = none → t.tasks.get? taskId = some task' →
    s.attempts.get? task'.currentAttemptId = none
  attempts : Table.Extends (fun _ ↦ TaskAttempt.SameNumber) s.attempts t.attempts

theorem Quiet.advances (h : Quiet s t) : Advances s t where
  tasks := h.tasks.extends.mono .inl
  founded := by
    intro taskId task' hnone htask'
    rw [h.tasks.get?_eq_none_iff.2 hnone] at htask'
    contradiction
  attempts := h.attempts.extends

theorem Founds.advances {jobs : JobsEnv} {taskId : TaskId} {task : TaskRow}
    {attempt : TaskAttempt} (h : Founds jobs taskId task attempt s t) : Advances s t where
  tasks := (Table.extends_insert? (fun _ ↦ TaskRow.Stays.refl) h.tasks).mono .inl
  founded := by
    intro taskId' task' hnone htask'
    rw [Table.get?_insert? h.tasks, hnone] at htask'
    split_ifs at htask'
    obtain rfl := Option.some.inj htask'
    exact Table.get?_eq_none_of_insert? h.attempts
  attempts := Table.extends_insert? (fun _ _ ↦ ⟨rfl, rfl⟩) h.attempts

theorem Replaces.advances {taskId : TaskId} {task : TaskRow} {newId : JobId} {now : Int}
    {files : JobId → Bool} (h : Replaces taskId task newId files now s t) (hs : s.Numbered) :
    Advances s t where
  tasks := by
    intro id row hrow
    rw [h.get?_tasks hs, Table.get?_updateKey, hrow]
    split_ifs with hid
    · refine ⟨_, rfl, .inr ⟨Nat.lt_succ_self _, h.attempts_new⟩⟩
    · exact ⟨row, rfl, .inl (.refl row)⟩
  founded := by
    intro id row hnone hrow
    rw [h.get?_tasks hs, Table.get?_updateKey, hnone] at hrow
    have hnot : ¬∃ row, Option.map (replaced newId (task.attemptNumber + 1) now) none = some row := by
      simp
    split_ifs at hrow
    exact absurd ⟨row, hrow⟩ hnot
  attempts := by
    obtain ⟨s₁, s₂, hs₁, hs₂, hs₃⟩ := h.phases
    have hinsert : Table.Extends (fun _ ↦ TaskAttempt.SameNumber) s₁.attempts s₂.attempts :=
      Table.extends_insert? (fun _ _ ↦ ⟨rfl, rfl⟩) hs₂.attempts
    have htrans : ∀ {a b c : TaskAttempt}, a.SameNumber b → b.SameNumber c → a.SameNumber c :=
      fun hab hbc ↦ ⟨hbc.1.trans hab.1, hbc.2.trans hab.2⟩
    exact (hs₁.attempts.extends.comp hinsert htrans).comp hs₃.attempts.extends htrans

/-- What was current under a revision is current, or was replaced under a lower one. -/
def Follows (s t : Store) : Prop :=
  Table.Extends (fun _ task task' ↦ task.revision ≤ task'.revision ∧
    (task'.currentAttemptId ≠ task.currentAttemptId → task.revision < task'.revision))
    s.tasks t.tasks

theorem Follows.refl (s : Store) : s.Follows s :=
  Table.Extends.refl (fun _ _ ↦ ⟨le_refl _, fun hne ↦ absurd rfl hne⟩) s.tasks

theorem Follows.trans (h : s.Follows t) (h' : t.Follows u) : s.Follows u := by
  refine Table.Extends.comp h h' fun {_ a b c} hab hbc ↦ ⟨hab.1.trans hbc.1, fun hne ↦ ?_⟩
  by_cases hsame : b.currentAttemptId = a.currentAttemptId
  · exact hab.1.trans_lt (hbc.2 (by rw [hsame]; exact hne))
  · exact (hab.2 hsame).trans_le hbc.1

theorem Advances.follows (h : Advances s t) : s.Follows t := by
  refine h.tasks.mono fun {_ task task'} hstep ↦ ?_
  rcases hstep with hstays | ⟨hlt, -⟩
  · exact ⟨hstays.revision, fun hne ↦ absurd hstays.attempt hne⟩
  · exact ⟨hlt.le, fun _ ↦ hlt⟩

/-- The stop of the attempt was commanded, if the attempt is still the current one. -/
def StopSent (s : Store) (jobId : JobId) : Prop :=
  (∃ attempt, s.attempts.get? jobId = some attempt) ∧
    ∀ taskId task, s.tasks.get? taskId = some task → task.currentAttemptId = jobId →
      task.stopState.isSent = true

theorem StopSent.advances (hsent : s.StopSent jobId) (h : Advances s t) : t.StopSent jobId := by
  obtain ⟨⟨attempt, hattempt⟩, hstop⟩ := hsent
  obtain ⟨attempt', hattempt', -⟩ := h.attempts jobId attempt hattempt
  have hnot : s.attempts.get? jobId ≠ none := by simp [hattempt]
  refine ⟨⟨attempt', hattempt'⟩, fun taskId task' htask' hcurrent ↦ ?_⟩
  cases htask : s.tasks.get? taskId with
  | none =>
      refine absurd ?_ hnot
      rw [← hcurrent]
      exact h.founded htask htask'
  | some task =>
      obtain ⟨row, hrow, hstep⟩ := h.tasks taskId task htask
      obtain rfl := Option.some.inj (hrow.symm.trans htask')
      rcases hstep with hstays | ⟨-, hnew⟩
      · exact hstays.stop (hstop taskId task htask (hstays.attempt.symm.trans hcurrent))
      · rw [hcurrent] at hnew
        contradiction

end Store

end Dona
