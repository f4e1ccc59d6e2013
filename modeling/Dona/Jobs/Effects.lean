import Dona.Jobs.JobRows

/-!
# What the operations on jobs can do

A job that has ended keeps its status and its result, and is not steered any more: `JobRow.Moves`.
Of the tasks, an operation on a job touches at most the one whose current attempt the job is. The
two operations that can do more are described apart.
-/

namespace Dona

open Fallible

/-! ### Rows -/

/-- A job keeps its event. When it has ended it keeps its status and its result, and no steer of it
begins. -/
structure JobRow.Moves (job job' : JobRow) : Prop where
  source : job'.sourceEventId = job.sourceEventId
  ended : job.status.isTerminal = true → job'.status = job.status ∧ job'.result = job.result
  steer : job.status.isTerminal = true → job.steerState ≠ some .dispatching →
    job'.steerState ≠ some .dispatching

namespace JobRow

variable {job job' job'' : JobRow}

theorem Moves.refl (job : JobRow) : job.Moves job := ⟨rfl, fun _ ↦ ⟨rfl, rfl⟩, fun _ h ↦ h⟩

theorem Moves.trans (h : job.Moves job') (h' : job'.Moves job'') : job.Moves job'' := by
  have hended : job.status.isTerminal = true → job'.status.isTerminal = true := by
    intro hterminal
    rw [(h.ended hterminal).1]
    exact hterminal
  refine ⟨h'.source.trans h.source, fun hterminal ↦ ?_, fun hterminal hsteer ↦ ?_⟩
  · obtain ⟨hstatus, hresult⟩ := h.ended hterminal
    obtain ⟨hstatus', hresult'⟩ := h'.ended (hended hterminal)
    exact ⟨hstatus'.trans hstatus, hresult'.trans hresult⟩
  · exact h'.steer (hended hterminal) (h.steer hterminal hsteer)

theorem Moves.of_live (hsource : job'.sourceEventId = job.sourceEventId)
    (h : job.status.isTerminal = false) : job.Moves job' :=
  ⟨hsource, fun hterminal ↦ by simp [h] at hterminal, fun hterminal ↦ by simp [h] at hterminal⟩

/-- A statement with a condition. -/
theorem Moves.ite {c : Prop} [Decidable c] (h : job.Moves job') :
    job.Moves (if c then job' else job) := by
  split_ifs
  · exact h
  · exact .refl job

theorem SameState.moves (h : job.SameState job') : job.Moves job' :=
  ⟨h.source, fun _ ↦ ⟨h.status, h.result⟩, fun _ hsteer ↦ by rw [h.steerState]; exact hsteer⟩

end JobRow

/-- The stop command of the current attempt may have been sent. -/
def StopState.isSent (state : StopState) : Bool := state = attempting ∨ state = stopped

/-- The task keeps its attempt and its budget; a stop that was sent stays sent. -/
structure TaskRow.Stays (task task' : TaskRow) : Prop where
  attempt : task'.currentAttemptId = task.currentAttemptId
  number : task'.attemptNumber = task.attemptNumber
  budget : task.attemptNumber ≤ task.maxAttempts → task.maxAttempts ≤ 10 →
    task.attemptNumber ≤ task'.maxAttempts ∧ task'.maxAttempts ≤ 10
  revision : task.revision ≤ task'.revision
  stop : task.stopState.isSent = true → task'.stopState.isSent = true

namespace TaskRow

variable {task task' task'' : TaskRow}

theorem Stays.refl (task : TaskRow) : task.Stays task :=
  ⟨rfl, rfl, fun h h' ↦ ⟨h, h'⟩, le_refl _, id⟩

theorem Stays.trans (h : task.Stays task') (h' : task'.Stays task'') : task.Stays task'' where
  attempt := h'.attempt.trans h.attempt
  number := h'.number.trans h.number
  budget hbudget hten := by
    obtain ⟨hbudget', hten'⟩ := h.budget hbudget hten
    rw [← h.number] at hbudget' ⊢
    exact h'.budget hbudget' hten'
  revision := h.revision.trans h'.revision
  stop hsent := h'.stop (h.stop hsent)

theorem stays_ended (state : TaskState) (job : JobRow) (task : TaskRow) :
    task.Stays (task.ended state job) :=
  ⟨rfl, rfl, fun h h' ↦ ⟨h, h'⟩, Nat.le_succ _, id⟩

theorem stays_started (task : TaskRow) : task.Stays task.started :=
  ⟨rfl, rfl, fun h h' ↦ ⟨h, h'⟩, Nat.le_succ _, id⟩

end TaskRow

/-- The attempt is of the same task, under the same number. -/
def TaskAttempt.SameNumber (attempt attempt' : TaskAttempt) : Prop :=
  attempt'.taskId = attempt.taskId ∧ attempt'.number = attempt.number

namespace Store

/-! ### Effects -/

/-- Jobs move, tasks stay; a task whose current attempt is not in `who` is not touched. -/
structure Change (who : JobId → Prop) (s t : Store) : Prop where
  jobs : Table.Extends (fun _ ↦ JobRow.Moves) s.db.jobs t.db.jobs
  tasks : Table.Evolves (fun _ task task' ↦ task.Stays task' ∧
    (¬who task.currentAttemptId → task' = task)) s.tasks t.tasks
  attempts : Table.Evolves (fun _ ↦ TaskAttempt.SameNumber) s.attempts t.attempts

/-- The owners of jobs, their workspaces and their handoffs are what they were; an event that has
an owner keeps it. -/
structure Kept (s t : Store) : Prop where
  owners : t.db.ownerBindings = s.db.ownerBindings
  bindings : Table.Extends (fun _ binding binding' ↦ binding' = binding) s.db.eventBindings
    t.db.eventBindings
  workspaces : t.workspaces = s.workspaces
  handoffs : t.handoffs = s.handoffs

/-- A change that neither creates a job nor hands one off. -/
structure Effect (who : JobId → Prop) (s t : Store) : Prop where
  jobs : Table.Evolves (fun _ ↦ JobRow.Moves) s.db.jobs t.db.jobs
  tasks : Table.Evolves (fun _ task task' ↦ task.Stays task' ∧
    (¬who task.currentAttemptId → task' = task)) s.tasks t.tasks
  attempts : Table.Evolves (fun _ ↦ TaskAttempt.SameNumber) s.attempts t.attempts
  kept : Kept s t

variable {who : JobId → Prop} {s t u : Store} {jobId : JobId} {jobs : JobsEnv}

theorem evolves_tasks_refl (tasks : Table TaskId TaskRow) :
    Table.Evolves (fun _ task task' ↦ task.Stays task' ∧
      (¬who task.currentAttemptId → task' = task)) tasks tasks :=
  .refl (fun _ task ↦ ⟨.refl task, fun _ ↦ rfl⟩) tasks

theorem evolves_attempts_refl (attempts : Table JobId TaskAttempt) :
    Table.Evolves (fun _ ↦ TaskAttempt.SameNumber) attempts attempts :=
  .refl (fun _ _ ↦ ⟨rfl, rfl⟩) attempts

theorem evolves_jobs_refl (rows : Table JobId JobRow) :
    Table.Evolves (fun _ ↦ JobRow.Moves) rows rows := .refl (fun _ ↦ JobRow.Moves.refl) rows

theorem evolves_sources_refl (rows : Table JobId JobRow) :
    Table.Evolves (fun _ job job' ↦ job'.sourceEventId = job.sourceEventId) rows rows := by
  apply Table.Evolves.refl
  intro jobId job
  rfl

theorem TaskAttempt.SameNumber.trans {a b c : TaskAttempt} (h : a.SameNumber b)
    (h' : b.SameNumber c) : a.SameNumber c := ⟨h'.1.trans h.1, h'.2.trans h.2⟩

theorem evolves_tasks_trans {a b c : Table TaskId TaskRow}
    (h : Table.Evolves (fun _ task task' ↦ task.Stays task' ∧
      (¬who task.currentAttemptId → task' = task)) a b)
    (h' : Table.Evolves (fun _ task task' ↦ task.Stays task' ∧
      (¬who task.currentAttemptId → task' = task)) b c) :
    Table.Evolves (fun _ task task' ↦ task.Stays task' ∧
      (¬who task.currentAttemptId → task' = task)) a c := by
  refine h.comp h' fun hstays hstays' ↦ ?_
  refine ⟨hstays.1.trans hstays'.1, fun hwho ↦ ?_⟩
  obtain rfl := hstays.2 hwho
  exact hstays'.2 hwho

theorem Change.trans (h : Change who s t) (h' : Change who t u) : Change who s u where
  jobs := h.jobs.comp h'.jobs JobRow.Moves.trans
  tasks := evolves_tasks_trans h.tasks h'.tasks
  attempts := h.attempts.comp h'.attempts TaskAttempt.SameNumber.trans

theorem Change.mono {who' : JobId → Prop} (hwho : ∀ jobId, who jobId → who' jobId)
    (h : Change who s t) : Change who' s t where
  jobs := h.jobs
  tasks := h.tasks.mono fun hstays ↦ ⟨hstays.1, fun hnot ↦ hstays.2 fun hyes ↦ hnot (hwho _ hyes)⟩
  attempts := h.attempts

/-- Jobs may be created, and the tasks and the attempts are left alone. -/
theorem Change.of_jobs (hjobs : Table.Extends (fun _ ↦ JobRow.Moves) s.db.jobs t.db.jobs)
    (htasks : t.tasks = s.tasks) (hattempts : t.attempts = s.attempts) : Change who s t := by
  refine ⟨hjobs, ?_, ?_⟩
  · rw [htasks]
    exact evolves_tasks_refl _
  · rw [hattempts]
    exact evolves_attempts_refl _

/-- Statements on other tables come first. -/
theorem Change.after (h : Change who t u) (hjobs : t.db.jobs = s.db.jobs) (htasks : t.tasks = s.tasks)
    (hattempts : t.attempts = s.attempts) : Change who s u := by
  refine Change.trans (t := t) (.of_jobs ?_ htasks hattempts) h
  rw [hjobs]
  exact (evolves_jobs_refl _).extends

theorem Kept.of_eq (howners : t.db.ownerBindings = s.db.ownerBindings)
    (hbindings : t.db.eventBindings = s.db.eventBindings) (hworkspaces : t.workspaces = s.workspaces)
    (hhandoffs : t.handoffs = s.handoffs) : Kept s t := by
  refine ⟨howners, ?_, hworkspaces, hhandoffs⟩
  rw [hbindings]
  exact Db.extends_bindings_refl _

theorem Kept.refl (s : Store) : Kept s s := .of_eq rfl rfl rfl rfl

theorem Kept.trans (h : Kept s t) (h' : Kept t u) : Kept s u where
  owners := h'.owners.trans h.owners
  bindings := h.bindings.comp h'.bindings fun hab hbc ↦ hbc.trans hab
  workspaces := h'.workspaces.trans h.workspaces
  handoffs := h'.handoffs.trans h.handoffs

theorem Effect.change (h : Effect who s t) : Change who s t := ⟨h.jobs.extends, h.tasks, h.attempts⟩

/-- A statement that leaves the tasks and the attempts alone. -/
theorem Effect.of_jobs (hjobs : Table.Evolves (fun _ ↦ JobRow.Moves) s.db.jobs t.db.jobs)
    (htasks : t.tasks = s.tasks) (hattempts : t.attempts = s.attempts) (hkept : Kept s t) :
    Effect who s t := by
  refine ⟨hjobs, ?_, ?_, hkept⟩
  · rw [htasks]
    exact evolves_tasks_refl _
  · rw [hattempts]
    exact evolves_attempts_refl _

theorem Effect.of_eq (hjobs : t.db.jobs = s.db.jobs) (htasks : t.tasks = s.tasks)
    (hattempts : t.attempts = s.attempts) (hkept : Kept s t) : Effect who s t := by
  refine .of_jobs ?_ htasks hattempts hkept
  rw [hjobs]
  exact evolves_jobs_refl _

theorem Effect.refl (s : Store) : Effect who s s := .of_eq rfl rfl rfl (.refl s)

theorem Effect.trans (h : Effect who s t) (h' : Effect who t u) : Effect who s u where
  jobs := h.jobs.comp h'.jobs JobRow.Moves.trans
  tasks := evolves_tasks_trans h.tasks h'.tasks
  attempts := h.attempts.comp h'.attempts TaskAttempt.SameNumber.trans
  kept := h.kept.trans h'.kept

theorem Effect.mono {who' : JobId → Prop} (hwho : ∀ jobId, who jobId → who' jobId)
    (h : Effect who s t) : Effect who' s t :=
  ⟨h.jobs, (h.change.mono hwho).tasks, h.attempts, h.kept⟩

/-! ### Statements -/

theorem effect_updateJobRow {f : JobRow → JobRow}
    (hf : ∀ job, s.db.jobs.get? jobId = some job → job.Moves (f job)) :
    Effect who s (s.updateJobRow jobId f) :=
  .of_jobs (Table.evolves_updateKey (fun _ ↦ JobRow.Moves.refl) hf) rfl rfl
    (.of_eq rfl rfl rfl rfl)

theorem effect_updateTask {taskId : TaskId} {f : TaskRow → TaskRow}
    (hf : ∀ task, s.tasks.get? taskId = some task →
      task.Stays (f task) ∧ (¬who task.currentAttemptId → f task = task)) :
    Effect who s (s.updateTask taskId f) where
  jobs := evolves_jobs_refl _
  tasks := Table.evolves_updateKey (fun _ task ↦ ⟨.refl task, fun _ ↦ rfl⟩) hf
  attempts := evolves_attempts_refl _
  kept := .of_eq rfl rfl rfl rfl

theorem effect_updateAttempt {f : TaskAttempt → TaskAttempt}
    (hf : ∀ attempt, TaskAttempt.SameNumber attempt (f attempt)) :
    Effect who s (s.updateAttempt jobId f) where
  jobs := evolves_jobs_refl _
  tasks := evolves_tasks_refl _
  attempts := Table.evolves_updateKey (fun _ _ ↦ ⟨rfl, rfl⟩) fun attempt _ ↦ hf attempt
  kept := .of_eq rfl rfl rfl rfl

theorem effect_updateTasksOf {f : TaskRow → TaskRow} (hwho : who jobId)
    (hf : ∀ task : TaskRow, task.Stays (f task)) : Effect who s (s.updateTasksOf jobId f) where
  jobs := evolves_jobs_refl _
  tasks := by
    refine Table.evolves_updateWhere fun _ task _ ↦ ?_
    split_ifs with hcurrent
    · refine ⟨hf task, fun hnot ↦ ?_⟩
      simp only [decide_eq_true_eq] at hcurrent
      rw [hcurrent] at hnot
      contradiction
    · exact ⟨.refl task, fun _ ↦ rfl⟩
  attempts := evolves_attempts_refl _
  kept := .of_eq rfl rfl rfl rfl

theorem effect_attemptCompletion {job : JobRow} (hwho : who jobId) :
    Effect who s (s.attemptCompletion jobId job) := by
  unfold attemptCompletion
  split
  · split_ifs
    · refine (effect_updateAttempt fun attempt ↦ ?_).trans
        (effect_updateTasksOf hwho (TaskRow.stays_ended _ job))
      split_ifs <;> exact ⟨rfl, rfl⟩
    · exact .refl s
  · exact .refl s

theorem effect_fireTriggers {job : JobRow} (hwho : who jobId) :
    Effect who s (s.fireTriggers jobId job) := by
  have hcompletion : Effect who s (s.attemptCompletion jobId job) := effect_attemptCompletion hwho
  refine hcompletion.trans ?_
  unfold fireTriggers attemptStarted
  split_ifs
  · exact effect_updateTasksOf hwho TaskRow.stays_started
  · exact .refl _

theorem effect_setStatus {f : JobRow → JobRow} (hwho : who jobId)
    (hf : ∀ job, s.db.jobs.get? jobId = some job → job.Moves (f job)) :
    Effect who s (s.setStatus jobId f) := by
  unfold setStatus
  split
  · exact (effect_updateJobRow hf).trans (effect_fireTriggers hwho)
  · exact .refl s

/-- A status that no trigger observes. -/
theorem tasks_setStatus_of_quiet {f : JobRow → JobRow}
    (hstate : ∀ job, (f job).status.taskState? = none)
    (hstatus : ∀ job, (f job).status ≠ .preparing) :
    (s.setStatus jobId f).tasks = s.tasks ∧ (s.setStatus jobId f).attempts = s.attempts := by
  unfold setStatus
  split
  · simp only [fireTriggers, attemptCompletion, attemptStarted, hstate, if_neg (hstatus _)]
    exact ⟨rfl, rfl⟩
  · exact ⟨rfl, rfl⟩

theorem db_fireTriggers (s : Store) (jobId : JobId) (job : JobRow) :
    (s.fireTriggers jobId job).db = s.db := by
  have hcompletion : (s.attemptCompletion jobId job).db = s.db := by
    unfold attemptCompletion
    split
    · split_ifs <;> rfl
    · rfl
  unfold fireTriggers attemptStarted
  split_ifs <;> exact hcompletion

theorem jobs_setStatus (s : Store) (jobId : JobId) (f : JobRow → JobRow) :
    (s.setStatus jobId f).db.jobs = s.db.jobs.updateKey jobId f := by
  unfold setStatus
  split
  · rw [db_fireTriggers]
    rfl
  · rename_i hnone
    refine (Table.updateWhere_eq_self fun other row hrow ↦ ?_).symm
    by_cases hother : other = jobId
    · subst hother
      simp [hnone] at hrow
    · simpa using hother

theorem get?_jobs_setStatus_of_ne {other : JobId} {f : JobRow → JobRow} (hne : other ≠ jobId) :
    (s.setStatus jobId f).db.jobs.get? other = s.db.jobs.get? other := by
  rw [jobs_setStatus, Table.get?_updateKey, if_neg hne]

theorem get?_jobs_setStatus {f : JobRow → JobRow} {job : JobRow}
    (hjob : s.db.jobs.get? jobId = some job) :
    (s.setStatus jobId f).db.jobs.get? jobId = some (f job) := by
  rw [jobs_setStatus, Table.get?_updateKey, if_pos rfl, hjob]
  rfl

theorem kept_fireTriggers (s : Store) (jobId : JobId) (job : JobRow) :
    Kept s (s.fireTriggers jobId job) := by
  have hcompletion : Kept s (s.attemptCompletion jobId job) := by
    unfold attemptCompletion
    split
    · split_ifs <;> exact .of_eq rfl rfl rfl rfl
    · exact .refl s
  refine hcompletion.trans ?_
  unfold fireTriggers attemptStarted
  split_ifs <;> exact .of_eq rfl rfl rfl rfl

theorem kept_setStatus (s : Store) (jobId : JobId) (f : JobRow → JobRow) :
    Kept s (s.setStatus jobId f) := by
  unfold setStatus
  split
  · have hrow : Kept s (s.updateJobRow jobId f) := .of_eq rfl rfl rfl rfl
    exact hrow.trans (kept_fireTriggers ..)
  · exact .refl s

theorem effect_setStatus_of_quiet {f : JobRow → JobRow}
    (hstate : ∀ job, (f job).status.taskState? = none)
    (hstatus : ∀ job, (f job).status ≠ .preparing)
    (hf : ∀ job, s.db.jobs.get? jobId = some job → job.Moves (f job)) :
    Effect who s (s.setStatus jobId f) := by
  have hquiet : (s.setStatus jobId f).tasks = s.tasks ∧
      (s.setStatus jobId f).attempts = s.attempts := tasks_setStatus_of_quiet hstate hstatus
  obtain ⟨htasks, hattempts⟩ := hquiet
  refine .of_jobs ?_ htasks hattempts (kept_setStatus s jobId f)
  rw [jobs_setStatus]
  exact Table.evolves_updateKey (fun _ ↦ JobRow.Moves.refl) hf

/-- An operation on the other tables of the dispatcher. -/
theorem effect_onDb {α : Type} {f : Db → Except String (α × Db)} {a : α}
    (h : s.onDb f = .ok (a, t)) (hf : ∀ {a db}, f s.db = .ok (a, db) → Db.Links s.db db) :
    Effect who s t := by
  simp only [onDb, bind_eq_ok, Except.ok.injEq, Prod.mk.injEq] at h
  obtain ⟨⟨_, db⟩, hdb, -, rfl⟩ := h
  have hlinks := hf hdb
  exact .of_jobs (hlinks.jobs.mono JobRow.SameState.moves) rfl rfl
    ⟨hlinks.owners, hlinks.bindings, rfl, rfl⟩

theorem jobs_onDb {α : Type} {f : Db → Except String (α × Db)} {a : α}
    (h : s.onDb f = .ok (a, t)) (hf : ∀ {a db}, f s.db = .ok (a, db) → Db.Apart s.db db) :
    t.db.jobs = s.db.jobs := by
  simp only [onDb, bind_eq_ok, Except.ok.injEq, Prod.mk.injEq] at h
  obtain ⟨⟨_, db⟩, hdb, -, rfl⟩ := h
  exact (hf hdb).jobs

theorem effect_onDb_of_apart {α : Type} {f : Db → Except String (α × Db)} {a : α}
    (h : s.onDb f = .ok (a, t)) (hf : ∀ {a db}, f s.db = .ok (a, db) → Db.Apart s.db db) :
    Effect who s t := effect_onDb h fun hdb ↦ (hf hdb).links

theorem effect_modifyDb {f : Db → Except String Db} (h : s.modifyDb f = .ok t)
    (hf : ∀ {db}, f s.db = .ok db → Db.Apart s.db db) : Effect who s t := by
  simp only [modifyDb, bind_eq_ok, Except.ok.injEq] at h
  obtain ⟨db, hdb, rfl⟩ := h
  have hapart := hf hdb
  exact .of_eq hapart.jobs rfl rfl ⟨hapart.owners, hapart.bindings, rfl, rfl⟩

/-- A guarded transition from statuses in which a job has not ended. -/
theorem effect_updateJob {source : List JobStatus} {target : JobStatus} {values : JobValues}
    {now : Int} (hwho : who jobId) (hsource : ∀ status ∈ source, status.isTerminal = false)
    (h : s.updateJob jobs jobId source target values now = .ok t) : Effect who s t := by
  simp only [updateJob, Db.getJobRequired, orThrow_bind_eq_ok, throwIf_bind_eq_ok,
    Except.ok.injEq] at h
  obtain ⟨job, hjob, hguard, rfl⟩ := h
  refine effect_setStatus hwho fun row hrow ↦ .of_live rfl ?_
  rw [hjob] at hrow
  obtain rfl := Option.some.inj hrow
  refine hsource _ (List.contains_iff_mem.1 ?_)
  simpa using hguard

theorem effect_updateJob_of_quiet {source : List JobStatus} {target : JobStatus}
    {values : JobValues} {now : Int} (hstate : target.taskState? = none)
    (hstatus : target ≠ .preparing) (hsource : ∀ status ∈ source, status.isTerminal = false)
    (h : s.updateJob jobs jobId source target values now = .ok t) : Effect who s t := by
  simp only [updateJob, Db.getJobRequired, orThrow_bind_eq_ok, throwIf_bind_eq_ok,
    Except.ok.injEq] at h
  obtain ⟨job, hjob, hguard, rfl⟩ := h
  refine effect_setStatus_of_quiet (fun _ ↦ hstate) (fun _ ↦ hstatus) fun row hrow ↦
    .of_live rfl ?_
  rw [hjob] at hrow
  obtain rfl := Option.some.inj hrow
  refine hsource _ (List.contains_iff_mem.1 ?_)
  simpa using hguard

/-- After a guarded transition that stores no result the job has the target status. -/
theorem get?_updateJob {source : List JobStatus} {target : JobStatus} {values : JobValues}
    {now : Int} (hresult : values.result = none) (hsteer : values.clearsSteer = false)
    (h : s.updateJob jobs jobId source target values now = .ok t) :
    ∃ job job', s.db.jobs.get? jobId = some job ∧ t.db.jobs.get? jobId = some job' ∧
      job'.status = target ∧ job'.result = job.result ∧ job'.steerState = job.steerState := by
  simp only [updateJob, Db.getJobRequired, orThrow_bind_eq_ok, throwIf_bind_eq_ok,
    Except.ok.injEq] at h
  obtain ⟨job, hjob, -, rfl⟩ := h
  refine ⟨job, _, hjob, get?_jobs_setStatus hjob, rfl, ?_, ?_⟩
  · unfold persisted
    split_ifs <;> simp [JobValues.assign, hresult]
  · unfold persisted
    split_ifs <;> simp [JobValues.assign, hsteer]

/-! ### Creation -/

variable {request : CreateJobRequest} {eventId : EventId} {event : EventRow} {now : Int}

/-- The jobs, the tasks and the attempts are what they were. -/
structure Untouched (s t : Store) : Prop where
  jobs : t.db.jobs = s.db.jobs
  tasks : t.tasks = s.tasks
  attempts : t.attempts = s.attempts
  kept : Kept s t

theorem Untouched.refl (s : Store) : Untouched s s := ⟨rfl, rfl, rfl, .refl s⟩

theorem Untouched.trans (h : Untouched s t) (h' : Untouched t u) : Untouched s u :=
  ⟨h'.jobs.trans h.jobs, h'.tasks.trans h.tasks, h'.attempts.trans h.attempts, h.kept.trans h'.kept⟩

theorem Untouched.effect (h : Untouched s t) : Effect who s t :=
  .of_eq h.jobs h.tasks h.attempts h.kept

/-- The group of the event may take one more job with this objective. -/
structure AdmitsMessage (jobs : JobsEnv) (s : Store) (eventId : EventId) (objective : String) :
    Prop where
  unsealed : ∀ group, s.db.jobGroups.get? eventId = some group → group.sealedAt = none
  count : (s.admitted eventId).length < jobs.limits.jobsPerEventMax
  creation : ((s.admitted eventId).map fun entry ↦ s.creationBytes entry.1 entry.2).sum +
    objective.utf8ByteSize ≤ jobs.limits.jobObjectiveTotalMaxBytes
  effective : ((s.admitted eventId).map fun entry ↦
    (s.objectiveOf entry.1 entry.2).utf8ByteSize).sum + objective.utf8ByteSize ≤
      jobs.limits.jobObjectiveTotalMaxBytes

theorem admits_admitMessage {jobKey : Option String} {objective : String}
    (h : s.admitMessage jobs eventId event jobKey objective now = .ok t) :
    AdmitsMessage jobs s eventId objective ∧ Untouched s t := by
  simp only [admitMessage, bind_eq_ok, throwIf_eq_ok, not_le, not_lt, Bool.not_eq_true,
    Option.any_eq_false, Option.isSome_eq_false_iff, Option.isNone_iff_eq_none] at h
  obtain ⟨_, -, _, hunsealed, _, -, _, -, _, hcount, _, hcreation, _, heffective, h⟩ := h
  refine ⟨⟨hunsealed, hcount, hcreation, heffective⟩, ?_⟩
  split at h
  · obtain rfl := Except.ok.inj h
    exact .refl s
  · simp only [bind_eq_ok, Except.ok.injEq] at h
    obtain ⟨_, -, rfl⟩ := h
    exact ⟨rfl, rfl, rfl, .of_eq rfl rfl rfl rfl⟩

theorem untouched_admitScheduled (h : s.admitScheduled eventId event request now = .ok t) :
    Untouched s t := by
  simp only [admitScheduled, bind_eq_ok] at h
  obtain ⟨_, -, h⟩ := h
  split at h
  · simp only [bind_eq_ok, Except.ok.injEq] at h
    obtain ⟨_, -, _, -, _, -, _, -, rfl⟩ := h
    exact ⟨rfl, rfl, rfl, .of_eq rfl rfl rfl rfl⟩
  · contradiction

theorem untouched_startRun {binding : JobBinding} {r : Option Unit}
    (h : s.startRun jobs binding eventId jobId now = .ok (r, t)) : Untouched s t := by
  unfold startRun at h
  split at h
  · obtain ⟨-, rfl⟩ := Prod.mk.inj (Except.ok.inj h)
    exact .refl _
  · contradiction
  · simp only [onDb, bind_eq_ok, Except.ok.injEq, Prod.mk.injEq] at h
    obtain ⟨⟨_, db⟩, hset, -, rfl⟩ := h
    have hapart := Db.apart_setRunState hset
    exact ⟨hapart.jobs, rfl, rfl, ⟨hapart.owners, hapart.bindings, rfl, rfl⟩⟩

/-- A job that is new is inserted, with its workspace and its owner. -/
structure Inserts (jobId : JobId) (job : JobRow) (document : WorkspaceDocument)
    (owner : EventId × JobBinding) (s t : Store) : Prop where
  jobs : s.db.jobs.insert? jobId job = some t.db.jobs
  owners : s.db.ownerBindings.insert? jobId owner = some t.db.ownerBindings
  workspaces : s.workspaces.insert? jobId document = some t.workspaces
  bindings : Table.Extends (fun _ binding binding' ↦ binding' = binding) s.db.eventBindings
    t.db.eventBindings
  tasks : t.tasks = s.tasks
  attempts : t.attempts = s.attempts
  handoffs : t.handoffs = s.handoffs

variable {job : JobRow} {document : WorkspaceDocument} {owner : EventId × JobBinding}

theorem inserts_insertJob (h : s.insertJob jobId job document owner = .ok t) :
    Inserts jobId job document owner s t := by
  simp only [insertJob, bind_eq_ok, orThrow_eq_ok, Except.ok.injEq] at h
  obtain ⟨rows, hrows, _, -, owners, howners, workspaces, hworkspaces, rfl⟩ := h
  exact ⟨hrows, howners, hworkspaces, Db.extends_bindings_refl _, rfl, rfl, rfl⟩

theorem Inserts.change (h : Inserts jobId job document owner s t) : Change who s t :=
  .of_jobs (Table.extends_insert? (fun _ ↦ JobRow.Moves.refl) h.jobs) h.tasks h.attempts

theorem Untouched.inserts (h : Untouched s t) (h' : Inserts jobId job document owner t u) :
    Inserts jobId job document owner s u where
  jobs := by
    rw [← h.jobs]
    exact h'.jobs
  owners := by
    rw [← h.kept.owners]
    exact h'.owners
  workspaces := by
    rw [← h.kept.workspaces]
    exact h'.workspaces
  bindings := h.kept.bindings.comp h'.bindings fun hab hbc ↦ hbc.trans hab
  tasks := h'.tasks.trans h.tasks
  attempts := h'.attempts.trans h.attempts
  handoffs := h'.handoffs.trans h.kept.handoffs

theorem Inserts.untouched (h : Inserts jobId job document owner s t) (h' : Untouched t u) :
    Inserts jobId job document owner s u where
  jobs := by
    rw [h'.jobs]
    exact h.jobs
  owners := by
    rw [h'.kept.owners]
    exact h.owners
  workspaces := by
    rw [h'.kept.workspaces]
    exact h.workspaces
  bindings := h.bindings.comp h'.kept.bindings fun hab hbc ↦ hbc.trans hab
  tasks := h'.tasks.trans h.tasks
  attempts := h'.attempts.trans h.attempts
  handoffs := h'.kept.handoffs.trans h.handoffs

/-- The rows of a new job are deleted again. -/
theorem Inserts.deleteJob (h : Inserts jobId job document owner s t) :
    Untouched s (t.deleteJob jobId) where
  jobs := Table.deleteWhere_insert? h.jobs
  tasks := h.tasks
  attempts := h.attempts
  kept := ⟨Table.deleteWhere_insert? h.owners, h.bindings, Table.deleteWhere_insert? h.workspaces,
    h.handoffs⟩

theorem reuseJob_eq_ok {owner : JobOwner} {r : Option CreateJobResult}
    (h : s.reuseJob jobId owner event request now = .ok (r, t)) :
    t = s ∧ r = some ⟨jobId, true⟩ := by
  simp only [reuseJob, bind_eq_ok, Except.ok.injEq, Prod.mk.injEq] at h
  obtain ⟨_, -, _, -, rfl, rfl⟩ := h
  exact ⟨rfl, rfl⟩

/-- What a job that is created is like, and what was checked before. -/
structure Admission (jobs : JobsEnv) (s : Store) (job : JobRow) (document : WorkspaceDocument)
    (owner : EventId × JobBinding) : Prop where
  event : owner.1 = job.sourceEventId
  binding : s.binding? job.sourceEventId = some owner.2
  objective : document.objective = job.objective
  mark : document.handoff = none
  message : owner.2.owner.isSchedule = false →
    AdmitsMessage jobs s job.sourceEventId job.objective

/-- `createJob` inserts a job that is new, or leaves everything. -/
inductive Creates (jobs : JobsEnv) (request : CreateJobRequest) (result : Option CreateJobResult)
    (s t : Store) : Prop
  | same (h : Untouched s t) (hresult : ∀ jobId, result ≠ some ⟨jobId, false⟩)
  | inserts {jobId : JobId} {job : JobRow} {document : WorkspaceDocument}
      {owner : EventId × JobBinding} (h : Inserts jobId job document owner s t)
      (hadmission : Admission jobs s job document owner) (hresult : result = some ⟨jobId, false⟩)
      (hobjective : trimmed request.objective = request.objective →
        job.objective = request.objective)

theorem Creates.change {r : Option CreateJobResult} (h : Creates jobs request r s t) :
    Change who s t := by
  cases h with
  | same h => exact h.effect.change
  | inserts h => exact h.change

theorem creates_createJob {r : Option CreateJobResult}
    (h : s.createJob jobs request now = .ok (r, t)) : Creates jobs request r s t := by
  simp only [createJob, bind_eq_ok, orThrow_eq_ok] at h
  obtain ⟨parsed, hparsed, event, -, binding, hbinding, h⟩ := h
  split at h
  · obtain ⟨rfl, rfl⟩ := reuseJob_eq_ok h
    exact .same (.refl t) fun jobId hnew ↦ by simp at hnew
  · simp only [bind_eq_ok] at h
    obtain ⟨s₁, hadmit, s₂, hinsert, ⟨started, s₃⟩, hstart, h⟩ := h
    have hs₁ : Untouched s s₁ := by
      by_cases hschedule : binding.owner.isSchedule = true
      · rw [if_pos hschedule] at hadmit
        exact untouched_admitScheduled hadmit
      · rw [if_neg hschedule] at hadmit
        exact (admits_admitMessage hadmit).2
    have hdraw : Untouched s₁ s₁.draw := ⟨rfl, rfl, rfl, .of_eq rfl rfl rfl rfl⟩
    generalize s!"job_{s₁.db.nextUuid}" = newId at hinsert hstart h
    have hinserts := (hs₁.trans hdraw).inserts (inserts_insertJob hinsert)
    have hs₃ := hinserts.untouched (untouched_startRun hstart)
    split at h
    · obtain ⟨rfl, rfl⟩ := Prod.mk.inj (Except.ok.inj h)
      refine .inserts hs₃ ⟨rfl, hbinding, rfl, rfl, fun hthread ↦ ?_⟩ rfl fun htrimmed ↦ ?_
      · rw [if_neg (by simp [hthread])] at hadmit
        exact (admits_admitMessage hadmit).1
      · have hobjective : parsed.objective = trimmed request.objective := by
          simp only [CreateJobRequest.parse, bind_eq_ok, Except.ok.injEq] at hparsed
          obtain ⟨_, -, _, -, _, -, _, -, _, -, rfl⟩ := hparsed
          rfl
        simp only [newJob]
        split_ifs
        · rfl
        · exact hobjective.trans htrimmed
    · obtain ⟨rfl, rfl⟩ := Prod.mk.inj (Except.ok.inj h)
      exact .same hs₃.deleteJob fun jobId hnew ↦ by simp at hnew

/-! ### Preparation and dispatch -/

theorem not_terminal_of_contains {source : List JobStatus} {status : JobStatus}
    (h : source.contains status = true) (hsource : ∀ status ∈ source, status.isTerminal = false) :
    status.isTerminal = false := hsource _ (List.contains_iff_mem.1 h)

variable {r : Unit}

theorem effect_beginJobPreparation (h : s.beginJobPreparation jobId now = .ok (r, t)) :
    Effect (· = jobId) s t := by
  simp only [beginJobPreparation, bind_eq_ok, orThrow_eq_ok, throwIf_eq_ok, not_not, Except.ok.injEq,
    Prod.mk.injEq] at h
  obtain ⟨job, hjob, _, ⟨hstatus, -⟩, -, rfl⟩ := h
  refine effect_setStatus rfl fun row hrow ↦ .of_live rfl ?_
  rw [hjob] at hrow
  obtain rfl := Option.some.inj hrow
  exact not_terminal_of_contains hstatus (by decide)

theorem effect_setJobRuntime {workspace pane : String}
    (h : s.setJobRuntime jobId workspace pane = .ok (r, t)) : Effect who s t := by
  simp only [setJobRuntime, bind_eq_ok, Except.ok.injEq, Prod.mk.injEq] at h
  obtain ⟨_, -, _, -, -, rfl⟩ := h
  have hrow : Effect who s (s.updateJobRow jobId fun job ↦
      { job with herdrWorkspaceId := some workspace }) :=
    effect_updateJobRow fun job _ ↦ JobRow.SameState.moves ⟨rfl, rfl, rfl, rfl⟩
  refine hrow.trans ?_
  unfold setPane
  split <;> exact .of_eq rfl rfl rfl (.of_eq rfl rfl rfl rfl)

theorem effect_beginJobDispatch (h : s.beginJobDispatch jobs jobId now = .ok (r, t)) :
    Effect (· = jobId) s t := by
  simp only [beginJobDispatch, bind_eq_ok, Except.ok.injEq, Prod.mk.injEq] at h
  obtain ⟨_, hupdate, -, rfl⟩ := h
  exact effect_updateJob rfl (by decide) hupdate

theorem effect_markJobRunning (h : s.markJobRunning jobs jobId now = .ok (r, t)) :
    Effect (· = jobId) s t := by
  simp only [markJobRunning, bind_eq_ok, Except.ok.injEq, Prod.mk.injEq] at h
  obtain ⟨_, hupdate, -, rfl⟩ := h
  exact effect_updateJob rfl (by decide) hupdate

theorem effect_recordFailure {expected : JobStatus} {code message : String} {maxAttempts : ℕ}
    (hexpected : expected.isTerminal = false)
    (h : s.recordFailure jobs expected jobId code message maxAttempts now = .ok (r, t)) :
    Effect (· = jobId) s t := by
  simp only [recordFailure, bind_eq_ok, Except.ok.injEq, Prod.mk.injEq] at h
  obtain ⟨_, -, _, -, _, hupdate, -, rfl⟩ := h
  exact effect_updateJob rfl (by simpa using hexpected) hupdate

theorem effect_markJobNeedsReview {code message : String}
    (h : s.markJobNeedsReview jobs jobId code message now = .ok (r, t)) :
    Effect (· = jobId) s t := by
  simp only [markJobNeedsReview, bind_eq_ok] at h
  obtain ⟨job, -, h⟩ := h
  split_ifs at h with hterminal
  · obtain ⟨-, rfl⟩ := Prod.mk.inj (Except.ok.inj h)
    exact .refl s
  · simp only [bind_eq_ok, Except.ok.injEq, Prod.mk.injEq] at h
    obtain ⟨_, hupdate, -, rfl⟩ := h
    exact effect_updateJob rfl (by simpa using hterminal) hupdate

theorem effect_markJobBlocked {message : String} {source : List JobStatus}
    (hsource : ∀ status ∈ source, status.isTerminal = false)
    (h : s.markJobBlocked jobs jobId message source now = .ok (r, t)) :
    Effect (· = jobId) s t := by
  simp only [markJobBlocked, bind_eq_ok, Except.ok.injEq, Prod.mk.injEq] at h
  obtain ⟨_, hupdate, -, rfl⟩ := h
  exact effect_updateJob rfl hsource hupdate

theorem effect_recordInvalidResult {code message : String} :
    Effect who s (s.recordInvalidResult jobId code message now) := by
  refine effect_updateJobRow fun job _ ↦ JobRow.SameState.moves ?_
  split_ifs <;> exact ⟨rfl, rfl, rfl, rfl⟩

/-! ### Results -/

theorem effect_closeNotices {f : Db → Db} (hf : Db.Apart s.db (f s.db)) :
    Effect who s (s.updateDb f) := .of_eq hf.jobs rfl rfl ⟨hf.owners, hf.bindings, rfl, rfl⟩

/-- Only the link of a job with its notice is removed. -/
theorem effect_unlink :
    Effect who s (s.updateJobRow jobId fun job ↦ { job with completionEventId := none }) :=
  effect_updateJobRow fun _ _ ↦ JobRow.SameState.moves ⟨rfl, rfl, rfl, rfl⟩

theorem effect_supersedeReview {job : JobRow} {completedAt : Timestamp} {late : Bool}
    (h : s.supersedeReview eventId jobId job completedAt late = .ok t) : Effect who s t := by
  simp only [supersedeReview, bind_eq_ok, Except.ok.injEq] at h
  obtain ⟨_, -, _, -, _, -, _, -, rfl⟩ := h
  refine Effect.trans ?_ effect_unlink
  refine effect_closeNotices ?_
  simp only [closeCompletion]
  split_ifs <;> exact .of_eq rfl rfl rfl

theorem effect_recoverRun {job : JobRow} (h : s.recoverRun jobId job now = .ok t) :
    Effect who s t := by
  unfold recoverRun at h
  split at h
  · simp only [bind_eq_ok, Except.ok.injEq] at h
    obtain ⟨⟨_, _⟩, hrecover, rfl⟩ := h
    exact effect_onDb_of_apart hrecover Db.apart_recoverWorkRunForResult
  · obtain rfl := Except.ok.inj h
    exact .refl s

theorem effect_resolveAttention {attention : Option EventId} {status : JobStatus}
    {kind : ResolutionKind} (h : s.resolveAttention jobId attention status kind now = .ok t) :
    Effect who s t := by
  unfold resolveAttention at h
  split at h
  · obtain rfl := Except.ok.inj h
    exact .refl s
  · simp only [bind_eq_ok] at h
    obtain ⟨_, -, h⟩ := h
    split_ifs at h
    · exact effect_modifyDb h Db.apart_recordAttentionResolution
    · obtain rfl := Except.ok.inj h
      exact .refl s

theorem effect_materialize {r : Unit}
    (h : s.onDb (Db.materializeJobCompletion jobs.env jobId now) = .ok (r, t)) :
    Effect who s t :=
  effect_onDb h Db.links_materializeJobCompletion

theorem effect_storeResult {job : JobRow} {result : JobResult} {late : Bool}
    (h : s.storeResult jobs jobId job result late now = .ok t) : Effect (· = jobId) s t := by
  simp only [storeResult, bind_eq_ok] at h
  obtain ⟨s₁, hsupersede, s₂, hrecover, s₃, hupdate, s₄, hresolve, h⟩ := h
  have hs₁ : Effect (· = jobId) s s₁ := by
    split_ifs at hsupersede
    · split at hsupersede
      · exact effect_supersedeReview hsupersede
      · obtain rfl := Except.ok.inj hsupersede
        exact .refl s
    · obtain rfl := Except.ok.inj hsupersede
      exact .refl s
  have hs₂ : Effect (· = jobId) s₁ s₂ := by
    split_ifs at hrecover
    · exact effect_recoverRun hrecover
    · obtain rfl := Except.ok.inj hrecover
      exact .refl s₁
  have hs₃ : Effect (· = jobId) s₂ s₃ := by
    refine effect_updateJob rfl (fun status hstatus ↦ ?_) hupdate
    split_ifs at hstatus
    · obtain rfl := List.mem_singleton.1 hstatus
      rfl
    · rcases List.mem_pair.1 hstatus with rfl | rfl <;> rfl
  have hs₄ : Effect (· = jobId) s₃ s₄ := by
    split_ifs at hresolve
    · exact effect_resolveAttention hresolve
    · obtain rfl := Except.ok.inj hresolve
      exact .refl s₃
  have hfour := ((hs₁.trans hs₂).trans hs₃).trans hs₄
  split_ifs at h
  · simp only [bind_eq_ok, Except.ok.injEq] at h
    obtain ⟨⟨_, _⟩, hmaterialize, rfl⟩ := h
    exact hfour.trans (effect_materialize hmaterialize)
  · obtain rfl := Except.ok.inj h
    exact hfour

theorem effect_saveJobResultInternal {result : JobResult} {late : Bool}
    (h : s.saveJobResultInternal jobs jobId result late now = .ok (r, t)) :
    Effect (· = jobId) s t := by
  simp only [saveJobResultInternal, bind_eq_ok] at h
  obtain ⟨job, -, _, -, _, -, _, -, h⟩ := h
  split_ifs at h
  · obtain ⟨-, rfl⟩ := Prod.mk.inj (Except.ok.inj h)
    exact .refl s
  all_goals
    simp only [bind_eq_ok, Except.ok.injEq, Prod.mk.injEq] at h
    obtain ⟨_, -, _, -, _, hstore, -, rfl⟩ := h
    exact effect_storeResult hstore

theorem effect_failReviewed {expectedUpdatedAt : Timestamp} {code : String}
    {message : Option String}
    (h : s.failReviewed jobId expectedUpdatedAt code message now = .ok (r, t)) :
    Effect (· = jobId) s t := by
  simp only [failReviewed, Db.getJobRequired, bind_eq_ok, orThrow_eq_ok, throwIf_eq_ok, not_or,
    ne_eq, not_not, Except.ok.injEq, Prod.mk.injEq] at h
  obtain ⟨job, hjob, _, ⟨hstatus, -, -⟩, -, rfl⟩ := h
  refine effect_setStatus rfl fun row hrow ↦ .of_live rfl ?_
  rw [hjob] at hrow
  obtain rfl := Option.some.inj hrow
  rw [hstatus]
  rfl

/-! ### Steering -/

theorem effect_appendQueuedJobInstruction {instruction : String} {duplicate : Bool}
    (h : s.appendQueuedJobInstruction jobs jobId eventId instruction now = .ok (duplicate, t)) :
    Effect who s t := by
  simp only [appendQueuedJobInstruction, Db.getJobRequired, bind_eq_ok, orThrow_eq_ok] at h
  obtain ⟨_, -, row, hrow, h⟩ := h
  split_ifs at h
  · obtain ⟨-, rfl⟩ := Prod.mk.inj (Except.ok.inj h)
    exact .refl s
  · simp only [bind_eq_ok, throwIf_eq_ok, Bool.not_eq_false, Except.ok.injEq, Prod.mk.injEq] at h
    obtain ⟨_, hstatus, _, -, _, -, _, -, -, rfl⟩ := h
    refine .of_jobs (Table.evolves_updateKey (fun _ ↦ JobRow.Moves.refl) fun job hjob ↦ ?_)
      rfl rfl (.of_eq rfl rfl rfl rfl)
    rw [hrow] at hjob
    obtain rfl := Option.some.inj hjob
    exact .of_live rfl (not_terminal_of_contains hstatus (by decide))

theorem effect_beginJobSteer {duplicate : Bool}
    (h : s.beginJobSteer jobId eventId now = .ok (duplicate, t)) : Effect who s t := by
  simp only [beginJobSteer, Db.getJobRequired, bind_eq_ok, orThrow_eq_ok] at h
  obtain ⟨_, -, row, hrow, h⟩ := h
  split_ifs at h
  · obtain ⟨-, rfl⟩ := Prod.mk.inj (Except.ok.inj h)
    exact .refl s
  · simp only [bind_eq_ok, throwIf_eq_ok, not_not, Except.ok.injEq, Prod.mk.injEq] at h
    obtain ⟨_, hstatus, -, rfl⟩ := h
    refine effect_updateJobRow fun job hjob ↦ .of_live rfl ?_
    rw [hrow] at hjob
    obtain rfl := Option.some.inj hjob
    rcases hstatus with hrunning | ⟨-, hblocked | hreview⟩
    · rw [hrunning]
      rfl
    · rw [hblocked]
      rfl
    · rw [hreview]
      rfl

theorem effect_markJobSteerAccepted (h : s.markJobSteerAccepted jobId eventId now = .ok (r, t)) :
    Effect (· = jobId) s t := by
  simp only [markJobSteerAccepted, bind_eq_ok, orThrow_eq_ok, throwIf_eq_ok] at h
  obtain ⟨job, hjob, _, -, h⟩ := h
  have hrow : Effect (· = jobId) s (s.updateJobRow jobId _) := effect_updateJobRow fun row _ ↦
    (⟨rfl, fun _ ↦ ⟨rfl, rfl⟩, fun _ _ ↦ by simp⟩ : row.Moves { row with
      steerState := some .accepted
      lastErrorCode := if row.status.isTerminal then some "terminal_steer_worker_unverified"
        else row.lastErrorCode
      updatedAt := .toIso now })
  split_ifs at h with hpending
  · obtain ⟨-, rfl⟩ := Prod.mk.inj (Except.ok.inj h)
    refine hrow.trans (effect_setStatus rfl fun row hget ↦ .of_live rfl ?_)
    simp only [updateJobRow, updateDb, Table.get?_updateKey, if_true, hjob, Option.map_some,
      Option.some.injEq] at hget
    subst hget
    rcases hpending.2 with hblocked | hreview
    · simp only [hblocked]
      rfl
    · simp only [hreview]
      rfl
  · obtain ⟨-, rfl⟩ := Prod.mk.inj (Except.ok.inj h)
    exact hrow

theorem effect_clearJobSteer : Effect who s (s.clearJobSteer jobId eventId now) := by
  refine effect_updateJobRow fun job _ ↦ JobRow.Moves.ite ?_
  exact ⟨rfl, fun _ ↦ ⟨rfl, rfl⟩, fun _ _ ↦ by simp⟩

/-! ### Cancellation -/

/-- Of the jobs only their links with notices may change. -/
structure Relinks (s t : Store) : Prop where
  jobs : Table.Evolves (fun _ ↦ JobRow.SameState) s.db.jobs t.db.jobs
  tasks : t.tasks = s.tasks
  attempts : t.attempts = s.attempts
  kept : Kept s t

theorem evolves_sameState_refl (rows : Table JobId JobRow) :
    Table.Evolves (fun _ ↦ JobRow.SameState) rows rows :=
  .refl (fun _ _ ↦ ⟨rfl, rfl, rfl, rfl⟩) rows

theorem Untouched.relinks (h : Untouched s t) : Relinks s t := by
  refine ⟨?_, h.tasks, h.attempts, h.kept⟩
  rw [h.jobs]
  exact evolves_sameState_refl _

theorem Relinks.refl (s : Store) : Relinks s s := (Untouched.refl s).relinks

theorem Relinks.trans (h : Relinks s t) (h' : Relinks t u) : Relinks s u where
  jobs := h.jobs.comp h'.jobs fun hab hbc ↦ ⟨hbc.source.trans hab.source,
    hbc.status.trans hab.status, hbc.result.trans hab.result, hbc.steerState.trans hab.steerState⟩
  tasks := h'.tasks.trans h.tasks
  attempts := h'.attempts.trans h.attempts
  kept := h.kept.trans h'.kept

theorem Relinks.effect (h : Relinks s t) : Effect who s t :=
  .of_jobs (h.jobs.mono JobRow.SameState.moves) h.tasks h.attempts h.kept

theorem relinks_withdrawNotice {sourceEventId : EventId}
    (h : s.withdrawNotice sourceEventId now eventId = .ok t) : Relinks s t := by
  simp only [withdrawNotice, bind_eq_ok] at h
  obtain ⟨_, -, h⟩ := h
  split_ifs at h
  · obtain rfl := Except.ok.inj h
    refine ⟨?_, rfl, rfl, .of_eq rfl rfl rfl rfl⟩
    apply Table.evolves_updateWhere_of_forall
    · exact fun _ _ ↦ ⟨rfl, rfl, rfl, rfl⟩
    · exact fun _ _ ↦ ⟨rfl, rfl, rfl, rfl⟩
  · simp only [bind_eq_ok, Except.ok.injEq] at h
    obtain ⟨_, -, rfl⟩ := h
    exact .refl s

theorem untouched_withdrawCompletion {timestamp : Timestamp} {unauthorizedOnly missingFails : Bool}
    (h : s.withdrawCompletion eventId timestamp unauthorizedOnly missingFails = .ok t) :
    Untouched s t := by
  unfold withdrawCompletion at h
  split at h
  · simp only [bind_eq_ok, Except.ok.injEq] at h
    obtain ⟨_, -, rfl⟩ := h
    exact .refl s
  · split_ifs at h
    · simp only [bind_eq_ok, Except.ok.injEq] at h
      obtain ⟨_, -, rfl⟩ := h
      exact ⟨rfl, rfl, rfl, .of_eq rfl rfl rfl rfl⟩
    · simp only [bind_eq_ok, Except.ok.injEq] at h
      obtain ⟨_, -, rfl⟩ := h
      exact .refl s

theorem relinks_withdrawNotices {job : JobRow} (h : s.withdrawNotices job now = .ok t) :
    Relinks s t := by
  simp only [withdrawNotices] at h
  split_ifs at h
  · exact foldlM_relates Relinks.refl Relinks.trans relinks_withdrawNotice h
  · split at h
    · exact (untouched_withdrawCompletion h).relinks
    · obtain rfl := Except.ok.inj h
      exact .refl s

theorem effect_updateGroup {sourceEventId : EventId} {f : JobGroupRow → JobGroupRow} :
    Effect who s (s.updateDb fun db ↦ db.updateGroup sourceEventId f) :=
  effect_closeNotices (.of_eq rfl rfl rfl)

theorem effect_errorCode {f : JobRow → JobRow} (hf : ∀ job : JobRow, job.SameState (f job)) :
    Effect who s (s.updateJobRow jobId f) :=
  effect_updateJobRow fun job _ ↦ JobRow.SameState.moves (hf job)

/-- A cancellation that begins keeps the result and the steer of the job. -/
theorem get?_beginJobCancellation {job : JobRow} (hjob : s.db.jobs.get? jobId = some job)
    (hstatus : job.status ≠ .cancelled)
    (h : s.beginJobCancellation jobs jobId eventId now = .ok (r, t)) :
    ∃ job', t.db.jobs.get? jobId = some job' ∧ job'.status = .cancelling ∧
      job'.result = job.result ∧ job'.steerState = job.steerState := by
  simp only [beginJobCancellation, Db.getJobRequired, bind_eq_ok, orThrow_eq_ok] at h
  obtain ⟨_, -, _, -, row, hrow, h⟩ := h
  obtain rfl := Option.some.inj (hjob.symm.trans hrow)
  rw [if_neg hstatus] at h
  simp only [bind_eq_ok, Except.ok.injEq, Prod.mk.injEq] at h
  obtain ⟨_, -, _, -, s₁, hwithdraw, s₂, hupdate, -, rfl⟩ := h
  obtain ⟨job₁, job₂, hjob₁, hjob₂, hstatus₂, hresult₂, hsteer₂⟩ := get?_updateJob rfl rfl hupdate
  obtain ⟨old, hold, hsame⟩ := (relinks_withdrawNotices hwithdraw).jobs.exists_old hjob₁
  obtain rfl := Option.some.inj (hjob.symm.trans hold)
  refine ⟨{ job₂ with lastErrorCode := some "cancel_worker_unverified" }, ?_, hstatus₂,
    hresult₂.trans hsame.result, hsteer₂.trans hsame.steerState⟩
  simp [updateJobRow, updateDb, hjob₂]

/-- The beginning of a cancellation touches no task. -/
theorem effect_beginJobCancellation (h : s.beginJobCancellation jobs jobId eventId now = .ok (r, t)) :
    Effect who s t := by
  simp only [beginJobCancellation, bind_eq_ok] at h
  obtain ⟨_, -, _, -, row, hrow, h⟩ := h
  split_ifs at h
  · obtain ⟨-, rfl⟩ := Prod.mk.inj (Except.ok.inj h)
    exact .refl s
  · simp only [bind_eq_ok, throwIf_eq_ok, Bool.not_eq_false, Except.ok.injEq, Prod.mk.injEq] at h
    obtain ⟨_, -, _, hstatus, s₁, hwithdraw, s₂, hupdate, -, rfl⟩ := h
    have hlive := not_terminal_of_contains hstatus (by decide)
    have hs₁ : Effect who s s₁ := (relinks_withdrawNotices hwithdraw).effect
    have hs₂ : Effect who _ s₂ :=
      effect_updateJob_of_quiet rfl (by decide) (by simpa using hlive) hupdate
    exact ((hs₁.trans effect_updateGroup).trans hs₂).trans
      (effect_errorCode fun _ ↦ ⟨rfl, rfl, rfl, rfl⟩)

theorem effect_markJobCancelled {reason : String}
    (h : s.markJobCancelled jobs jobId reason now = .ok (r, t)) : Effect (· = jobId) s t := by
  simp only [markJobCancelled, bind_eq_ok, Except.ok.injEq, Prod.mk.injEq] at h
  obtain ⟨s₁, hupdate, _, -, _, hresolve, -, rfl⟩ := h
  have hs₁ : Effect (· = jobId) s s₁ := effect_updateJob rfl (by decide) hupdate
  exact hs₁.trans (effect_resolveAttention hresolve)

/-- A job that is cancelled keeps its result, and is not steered if it was not. -/
theorem get?_markJobCancelled {reason : String}
    (h : s.markJobCancelled jobs jobId reason now = .ok (r, t)) :
    ∃ job job', s.db.jobs.get? jobId = some job ∧ t.db.jobs.get? jobId = some job' ∧
      job'.status = .cancelled ∧ job'.result = job.result ∧
      (job.steerState ≠ some .dispatching → job'.steerState ≠ some .dispatching) := by
  simp only [markJobCancelled, bind_eq_ok, Except.ok.injEq, Prod.mk.injEq] at h
  obtain ⟨s₁, hupdate, _, -, _, hresolve, -, rfl⟩ := h
  obtain ⟨job, job₁, hjob, hjob₁, hstatus, hresult, hsteer⟩ := get?_updateJob rfl rfl hupdate
  have heffect : Effect (fun _ ↦ False) s₁ _ := effect_resolveAttention hresolve
  obtain ⟨job', hjob', hmoves⟩ := heffect.jobs.exists_new hjob₁
  have hterminal : job₁.status.isTerminal = true := by
    rw [hstatus]
    rfl
  refine ⟨job, job', hjob, hjob', (hmoves.ended hterminal).1.trans hstatus,
    (hmoves.ended hterminal).2.trans hresult, fun hnot ↦ hmoves.steer hterminal ?_⟩
  rw [hsteer]
  exact hnot

theorem effect_unlinkCompletion {completion : Option EventId} {timestamp : Timestamp}
    {unauthorizedOnly missingFails : Bool}
    (h : s.unlinkCompletion jobId completion timestamp unauthorizedOnly missingFails = .ok t) :
    Effect who s t := by
  unfold unlinkCompletion at h
  split at h
  · simp only [bind_eq_ok, Except.ok.injEq] at h
    obtain ⟨_, hwithdraw, rfl⟩ := h
    exact (untouched_withdrawCompletion hwithdraw).effect.trans effect_unlink
  · obtain rfl := Except.ok.inj h
    exact .refl s

/-- A notice that is withdrawn leaves the status of every job. -/
theorem evolves_unlinkCompletion {completion : Option EventId} {timestamp : Timestamp}
    {unauthorizedOnly missingFails : Bool}
    (h : s.unlinkCompletion jobId completion timestamp unauthorizedOnly missingFails = .ok t) :
    Table.Evolves (fun _ ↦ JobRow.SameState) s.db.jobs t.db.jobs := by
  unfold unlinkCompletion at h
  split at h
  · simp only [bind_eq_ok, Except.ok.injEq] at h
    obtain ⟨s₁, hwithdraw, rfl⟩ := h
    have hjobs : s₁.db.jobs = s.db.jobs := (untouched_withdrawCompletion hwithdraw).jobs
    simp only [updateJobRow, updateDb, hjobs]
    exact Table.evolves_updateKey (fun _ _ ↦ ⟨rfl, rfl, rfl, rfl⟩) fun _ _ ↦ ⟨rfl, rfl, rfl, rfl⟩
  · obtain rfl := Except.ok.inj h
    exact .refl (fun _ _ ↦ ⟨rfl, rfl, rfl, rfl⟩) _

theorem effect_settleAmbiguousCancellation {reason : String}
    (h : s.settleAmbiguousCancellation jobs jobId reason now = .ok (r, t)) :
    Effect (· = jobId) s t := by
  simp only [settleAmbiguousCancellation, bind_eq_ok] at h
  obtain ⟨job, -, h⟩ := h
  split at h
  · simp only [bind_eq_ok, Except.ok.injEq, Prod.mk.injEq] at h
    obtain ⟨s₁, hunlink, ⟨_, s₂⟩, hreview, ⟨_, s₃⟩, hreconcile, s₄, hupdate, -, rfl⟩ := h
    have hs₁ : Effect (· = jobId) s s₁ := effect_unlinkCompletion hunlink
    have hs₂ : Effect (· = jobId) s₁ s₂ := effect_onDb_of_apart hreview Db.apart_markWorkRunNeedsReview
    have hs₃ : Effect (· = jobId) s₂ s₃ := effect_onDb_of_apart hreconcile Db.apart_reconcileWorkRun
    have hs₄ : Effect (· = jobId) s₃ s₄ := effect_updateJob rfl (by decide) hupdate
    exact ((hs₁.trans hs₂).trans hs₃).trans hs₄
  · contradiction

/-- The job of a run. -/
def jobOfRun (s : Store) (runId : Uuid) : Option JobId := (s.db.runs.get? runId).bind (·.jobId)

theorem effect_reconcileScheduledRun {runId : Uuid} {outcome : Db.WorkRunOutcome}
    (h : s.reconcileScheduledRun runId outcome now = .ok (r, t)) :
    Effect (fun jobId ↦ s.jobOfRun runId = some jobId) s t := by
  simp only [reconcileScheduledRun, Db.getJobRequired, bind_eq_ok, orThrow_eq_ok] at h
  obtain ⟨run, hrun, schedule, -, h⟩ := h
  split at h
  · exact effect_onDb_of_apart h Db.apart_reconcileWorkRun
  · rename_i jobId hjobId
    simp only [bind_eq_ok, orThrow_eq_ok] at h
    obtain ⟨job, hjob, s₁, hunlink, ⟨_, s₂⟩, hreconcile, h⟩ := h
    have hwho : s.jobOfRun runId = some jobId := by simp [jobOfRun, hrun, hjobId]
    have hs₁ : Effect (fun jobId ↦ s.jobOfRun runId = some jobId) s s₁ :=
      effect_unlinkCompletion hunlink
    have hs₂ : Effect (fun jobId ↦ s.jobOfRun runId = some jobId) s₁ s₂ :=
      effect_onDb_of_apart hreconcile Db.apart_reconcileWorkRun
    by_cases hstatus : job.status = .needsReview ∨ job.status = .blocked
    · rw [if_pos hstatus] at h
      obtain ⟨-, rfl⟩ := Prod.mk.inj (Except.ok.inj h)
      refine (hs₁.trans hs₂).trans (effect_setStatus hwho fun row hrow ↦ .of_live rfl ?_)
      rw [jobs_onDb hreconcile Db.apart_reconcileWorkRun] at hrow
      obtain ⟨old, hold, hsame⟩ := (evolves_unlinkCompletion hunlink).exists_old hrow
      rw [hjob] at hold
      obtain rfl := Option.some.inj hold
      rw [hsame.status]
      rcases hstatus with hreview | hblocked
      · rw [hreview]
        rfl
      · rw [hblocked]
        rfl
    · rw [if_neg hstatus] at h
      obtain ⟨-, rfl⟩ := Prod.mk.inj (Except.ok.inj h)
      exact hs₁.trans hs₂

/-! ### Workers of finished jobs -/

theorem untouched_insertStopProof (jobId : JobId) (now : Int) (s : Store) :
    Untouched s (s.insertStopProof jobId now) := by
  unfold insertStopProof
  split <;> exact ⟨rfl, rfl, rfl, .of_eq rfl rfl rfl rfl⟩

theorem untouched_markTerminalWorkerStopProof (jobId : JobId) (now : Int) (s : Store) :
    Untouched s (s.markTerminalWorkerStopProof jobId now) := by
  unfold markTerminalWorkerStopProof
  split_ifs
  · exact untouched_insertStopProof jobId now s
  · exact .refl s

theorem untouched_setCleanup (jobId : JobId) (outcome : CleanupOutcome) (now : Int) (s : Store) :
    Untouched s (s.setCleanup jobId outcome now) :=
  ⟨rfl, rfl, rfl, .of_eq rfl rfl rfl rfl⟩

theorem effect_markTerminalAcceptedSteerStopped :
    Effect who s (s.markTerminalAcceptedSteerStopped jobId now) := by
  refine effect_updateJobRow fun job _ ↦ JobRow.Moves.ite ?_
  exact ⟨rfl, fun _ ↦ ⟨rfl, rfl⟩, fun _ _ ↦ by simp⟩

theorem effect_markTerminalJobWorkerStopped {code : String} :
    Effect who s (s.markTerminalJobWorkerStopped jobId code now) := by
  refine effect_updateJobRow fun job _ ↦ JobRow.Moves.ite ?_
  exact ⟨rfl, fun _ ↦ ⟨rfl, rfl⟩, fun _ _ ↦ by simp⟩

theorem effect_markJobRuntimeCleaned : Effect who s (s.markJobRuntimeCleaned jobId now) := by
  unfold markJobRuntimeCleaned
  split_ifs
  · have hrow : Effect who s (s.updateJobRow jobId fun job ↦
        { job with
          herdrWorkspaceId := none
          lastErrorCode := cleanedCode job.lastErrorCode
          updatedAt := .toIso now }) := effect_errorCode fun _ ↦ ⟨rfl, rfl, rfl, rfl⟩
    exact hrow.trans (.of_eq rfl rfl rfl (.of_eq rfl rfl rfl rfl))
  · exact .refl s

theorem untouched_claimTerminalWorkerCleanup (jobId : JobId) (agentName : String) (now : Int)
    (s : Store) : Untouched s (s.claimTerminalWorkerCleanup jobId agentName now).2 := by
  unfold claimTerminalWorkerCleanup
  split_ifs
  · exact ⟨rfl, rfl, rfl, .of_eq rfl rfl rfl rfl⟩
  · exact .refl s

theorem untouched_finishTerminalWorkerCleanup (jobId : JobId) (expected outcome : CleanupOutcome)
    (now : Int) (s : Store) :
    Untouched s (s.finishTerminalWorkerCleanup jobId expected outcome now) := by
  unfold finishTerminalWorkerCleanup
  split_ifs
  · exact untouched_setCleanup jobId outcome now s
  · exact .refl s

end Store

end Dona
