import Dona.Jobs.Worlds

/-!
# Runs of the operations on tasks

Every operation is quiet, founds a task or replaces an attempt. So in every world the tasks agree
with their attempts, no attempt is stopped twice, and what comes too late for an attempt does not
reach the task.
-/

namespace Dona.Jobs

open Fallible Store

variable {jobs : JobsEnv} {moment : Moment} {s t : Store} {w w' : World}

/-! ### Steps -/

namespace Executed

variable {e : Executed} {jobId : JobId}

/-- The operation led from the tables before it to those after it. -/
def Ran (jobs : JobsEnv) (e : Executed) : Prop :=
  ∃ r, e.operation.run jobs e.moment e.before = .ok (r, e.after)

theorem Ran.of_eq {op : Operation} (h : e.Ran jobs) (hop : e.operation = op) :
    ∃ r, op.run jobs e.moment e.before = .ok (r, e.after) := by
  subst hop
  exact h

/-- The attempt whose stop command the operation authorised. -/
def stop? (e : Executed) : Option JobId :=
  match e.operation with
  | .beginStop taskId seen =>
      if (e.before.beginStop taskId seen).1 then some seen.currentAttemptId else none
  | _ => none

theorem exists_of_stop? (h : e.Ran jobs) (hstop : e.stop? = some jobId) :
    ∃ taskId task, e.before.tasks.get? taskId = some task ∧ task.currentAttemptId = jobId ∧
      task.stopState = .notSent ∧
      e.after = e.before.updateTask taskId fun task ↦ { task with stopState := .attempting } := by
  unfold stop? at hstop
  split at hstop
  · rename_i taskId seen hoperation
    split_ifs at hstop with hmay
    obtain rfl := Option.some.inj hstop
    obtain ⟨r, hrun⟩ := h.of_eq hoperation
    have hafter : (e.before.beginStop taskId seen).2 = e.after := congrArg Prod.snd (Except.ok.inj hrun)
    unfold beginStop at hmay hafter
    split_ifs at hmay hafter with hclaimed
    obtain ⟨task, htask, hattempt, -, hstate⟩ : ∃ task, e.before.tasks.get? taskId = some task ∧
        task.currentAttemptId = seen.currentAttemptId ∧ task.revision = seen.revision ∧
          task.stopState = .notSent := by
      simpa [Option.any_eq_true] using hclaimed
    exact ⟨taskId, task, htask, hattempt, hstate, hafter.symm⟩
  · contradiction

/-- A stop is authorised only while none was sent. -/
theorem not_stopSent_before (h : e.Ran jobs) (hstop : e.stop? = some jobId) :
    ¬e.before.StopSent jobId := by
  rintro ⟨-, hsent⟩
  obtain ⟨taskId, task, htask, hcurrent, hstate, -⟩ := exists_of_stop? h hstop
  have hyes := hsent taskId task htask hcurrent
  rw [hstate] at hyes
  contradiction

theorem stopSent_after (hs : e.before.Numbered) (h : e.Ran jobs) (hstop : e.stop? = some jobId) :
    e.after.StopSent jobId := by
  obtain ⟨taskId, task, htask, rfl, hstate, hafter⟩ := exists_of_stop? h hstop
  obtain ⟨attempt, hattempt, -⟩ := hs.current htask
  rw [hafter]
  refine ⟨⟨attempt, hattempt⟩, fun taskId' task' htask' hcurrent ↦ ?_⟩
  simp only [updateTask, Table.get?_updateKey] at htask'
  split_ifs at htask' with hid
  · obtain ⟨row, -, rfl⟩ := Option.map_eq_some_iff.1 htask'
    rfl
  · exact absurd (hs.eq_of_current htask' htask hcurrent) hid

/-- The worker of the task is stopped, and the task has no result. -/
def Replaceable (e : Executed) (task : TaskRow) : Prop :=
  task.stopState = .stopped ∧ e.moment.files task.currentAttemptId = false ∧
    ∃ job, e.before.db.jobs.get? task.currentAttemptId = some job ∧ job.result = none

/-- A task goes on with another attempt, or gets one, only when it is replaceable. -/
structure ReplacesStopped (e : Executed) : Prop where
  current : ∀ {taskId task task'}, e.before.tasks.get? taskId = some task →
    e.after.tasks.get? taskId = some task' → task'.currentAttemptId ≠ task.currentAttemptId →
    e.Replaceable task
  attempt : ∀ {jobId attempt task}, e.before.attempts.get? jobId = none →
    e.after.attempts.get? jobId = some attempt → e.before.tasks.get? attempt.taskId = some task →
    e.Replaceable task

theorem replacesStopped_of_ran (hs : e.before.Numbered) (h : e.Ran jobs) : e.ReplacesStopped := by
  obtain ⟨r, hrun⟩ := h
  cases attempted_run hs hrun with
  | quiet h =>
      refine ⟨fun {taskId task task'} htask htask' hne ↦ ?_, fun {jobId attempt task} hnone hnew _ ↦ ?_⟩
      · obtain ⟨row, hrow, hstays⟩ := h.tasks.exists_new htask
        obtain rfl := Option.some.inj (hrow.symm.trans htask')
        exact absurd hstays.attempt hne
      · rw [h.attempts.get?_eq_none_iff.2 hnone] at hnew
        contradiction
  | founds h =>
      have hget := Table.get?_insert? h.tasks
      refine ⟨fun {taskId task task'} htask htask' hne ↦ ?_, fun {jobId attempt task} hnone hnew hold ↦ ?_⟩
      · rw [hget] at htask'
        split_ifs at htask' with hid
        · rw [hid, Table.get?_eq_none_of_insert? h.tasks] at htask
          contradiction
        · obtain rfl := Option.some.inj (htask.symm.trans htask')
          exact absurd rfl hne
      · rw [Table.get?_insert? h.attempts, hnone] at hnew
        split_ifs at hnew
        obtain rfl := Option.some.inj hnew
        rw [h.first.1, Table.get?_eq_none_of_insert? h.tasks] at hold
        contradiction
  | @replaces taskId task newId h =>
      have hreplaceable : e.Replaceable task := ⟨h.isStopped, h.noFile, h.unfinished⟩
      refine ⟨fun {id row row'} hrow hrow' hne ↦ ?_, fun {jobId attempt row} hnone hnew hold ↦ ?_⟩
      · rw [h.get?_tasks hs, Table.get?_updateKey, hrow] at hrow'
        split_ifs at hrow' with hid
        · rw [hid, h.known] at hrow
          obtain rfl := Option.some.inj hrow
          exact hreplaceable
        · obtain rfl := Option.some.inj hrow'
          exact absurd rfl hne
      · rcases h.attempts_old hnew with ⟨-, hid⟩ | ⟨old, hknown, -⟩
        · rw [hid, h.known] at hold
          obtain rfl := Option.some.inj hold
          exact hreplaceable
        · rw [hnone] at hknown
          contradiction

/-- What comes for an attempt that a task does not go on with leaves the task alone. -/
structure IgnoresSuperseded (e : Executed) : Prop where
  attempt : ∀ {jobId taskId task}, e.operation.attempt? e.before = some jobId →
    e.before.tasks.get? taskId = some task → task.currentAttemptId ≠ jobId →
    e.after.tasks.get? taskId = some task
  steer : ∀ {taskId eventId task}, e.operation = .finishSteer taskId eventId →
    e.before.tasks.get? taskId = some task →
    (∀ job, e.before.db.jobs.get? task.currentAttemptId = some job →
      job.steerEventId ≠ some eventId) →
    e.after.tasks.get? taskId = some task

theorem ignoresSuperseded_of_ran (h : e.Ran jobs) : e.IgnoresSuperseded where
  attempt := by
    intro jobId taskId task hattempt htask hne
    obtain ⟨r, hrun⟩ := h
    obtain ⟨task', htask', -, heq⟩ := (concerns_run hrun hattempt).tasks.exists_new htask
    rw [htask', heq hne]
  steer := by
    intro taskId eventId task hoperation htask hsteer
    obtain ⟨r, hrun⟩ := h.of_eq hoperation
    have heffect := effect_finishSteer hrun
    obtain ⟨task', htask', -, heq⟩ := heffect.tasks.exists_new htask
    rw [htask', heq]
    rintro ⟨job, hjob, hevent, -⟩
    exact hsteer job hjob hevent

/-- A control for a revision under which the task had another attempt leaves the task alone. -/
def IgnoresOld (newer older : Executed) : Prop :=
  ∀ {s taskId revision seen task}, s = older.before ∨ s = older.after →
    newer.operation.control? = some (taskId, revision) →
    s.tasks.get? taskId = some seen → seen.revision = revision →
    newer.before.tasks.get? taskId = some task → task.currentAttemptId ≠ seen.currentAttemptId →
    newer.after.tasks.get? taskId = some task

theorem ignoresOld_of_ran {newer older : Executed} (h : newer.Ran jobs)
    (hbefore : older.before.Follows newer.before) (hafter : older.after.Follows newer.before) :
    IgnoresOld newer older := by
  intro s taskId revision seen task hs hcontrol hseen hrevision htask hne
  have hfollows : s.Follows newer.before := by
    rcases hs with rfl | rfl
    · exact hbefore
    · exact hafter
  obtain ⟨row, hrow, -, hlt⟩ := hfollows taskId seen hseen
  obtain rfl := Option.some.inj (hrow.symm.trans htask)
  obtain ⟨r, hrun⟩ := h
  have hlate := (controls_run hrun hcontrol).late row htask
  rw [hlate]
  · exact htask
  · have hless := hlt hne
    omega

end Executed

/-! ### Worlds -/

/-- The tables have agreed all along, and no stop was authorised twice. -/
structure World.Sound (jobs : JobsEnv) (w : World) : Prop where
  store : w.store.AttemptsSound
  past : ∀ e ∈ w.executed, e.before.AttemptsSound ∧ e.after.AttemptsSound
  ran : ∀ e ∈ w.executed, e.Ran jobs
  later : ∀ e ∈ w.executed, e.before.Follows w.store ∧ e.after.Follows w.store
  history : w.executed.Pairwise fun newer older ↦
    older.before.Follows newer.before ∧ older.after.Follows newer.before
  stopped : ∀ jobId ∈ w.executed.filterMap Executed.stop?, w.store.StopSent jobId
  once : (w.executed.filterMap Executed.stop?).Nodup

theorem attemptsSound_fresh : Store.fresh.AttemptsSound where
  task h := by simp [Store.fresh] at h
  current h := by simp [Store.fresh] at h
  count h := by simp [Store.fresh] at h
  budget h := by simp [Store.fresh] at h
  retired := by
    rintro jobId ⟨attempt, task, hattempt, -⟩
    simp [Store.fresh] at hattempt

/-- Everything that is not an operation changes no task. -/
theorem World.Sound.of_quiet (hw : w.Sound jobs) (hquiet : Quiet w.store w'.store)
    (hexecuted : w'.executed = w.executed) : w'.Sound jobs := by
  have hadvances := hquiet.advances
  refine ⟨hw.store.quiet hquiet, ?_, ?_, ?_, ?_, ?_, ?_⟩ <;> rw [hexecuted]
  · exact hw.past
  · exact hw.ran
  · intro e he
    obtain ⟨hbefore, hafter⟩ := hw.later e he
    exact ⟨hbefore.trans hadvances.follows, hafter.trans hadvances.follows⟩
  · exact hw.history
  · exact fun jobId hjobId ↦ (hw.stopped jobId hjobId).advances hadvances
  · exact hw.once

theorem World.Sound.record (hw : w.Sound jobs) {op : Operation} {r : op.Reply}
    (h : op.run jobs w.moment w.store = .ok (r, t)) : (w.record op t).Sound jobs := by
  have hattempted := attempted_run hw.store.toNumbered h
  have hadvances := hattempted.advances hw.store.toNumbered
  have hsound := hattempted.sound hw.store
  have hran : Executed.Ran jobs ⟨w.store, w.moment, op, t⟩ := ⟨r, h⟩
  refine ⟨hsound, ?_, ?_, ?_, ?_, ?_, ?_⟩
  · exact List.forall_mem_cons.2 ⟨⟨hw.store, hsound⟩, hw.past⟩
  · exact List.forall_mem_cons.2 ⟨hran, hw.ran⟩
  · refine List.forall_mem_cons.2 ⟨⟨hadvances.follows, .refl t⟩, fun e he ↦ ?_⟩
    obtain ⟨hbefore, hafter⟩ := hw.later e he
    exact ⟨hbefore.trans hadvances.follows, hafter.trans hadvances.follows⟩
  · exact List.pairwise_cons.2 ⟨hw.later, hw.history⟩
  · intro jobId hjobId
    simp only [World.record, List.filterMap_cons] at hjobId
    split at hjobId
    · exact (hw.stopped jobId hjobId).advances hadvances
    · rename_i stopped hstop
      rcases List.mem_cons.1 hjobId with rfl | hold
      · exact Executed.stopSent_after hw.store.toNumbered hran hstop
      · exact (hw.stopped jobId hold).advances hadvances
  · simp only [World.record, List.filterMap_cons]
    split
    · exact hw.once
    · rename_i stopped hstop
      refine List.nodup_cons.2 ⟨fun hold ↦ ?_, hw.once⟩
      exact Executed.not_stopSent_before hran hstop (hw.stopped stopped hold)

theorem invariant_sound : Invariant jobs (World.Sound jobs) where
  numbered hw := hw.store.toNumbered
  initial := by
    intro w hstore hexecuted
    refine ⟨?_, ?_, ?_, ?_, ?_, ?_, ?_⟩ <;> try rw [hexecuted]
    · rw [hstore]
      exact attemptsSound_fresh
    all_goals simp
  happens := by
    intro w w' h hw
    cases h with
    | operation _ hrun => exact hw.record hrun
    | elsewhere helse => exact hw.of_quiet (quiet_elsewhere helse) rfl
    | moment moment => exact hw.of_quiet (.refl w.store) rfl
  congr := by
    intro w w' hstore _ hexecuted hw
    refine hw.of_quiet ?_ hexecuted
    rw [hstore]
    exact .refl w.store

/-- At most one job of a task is not over, the one the task goes on with. -/
def OneLiveAttempt (s : Store) : Prop :=
  ∀ jobId attempt job, s.attempts.get? jobId = some attempt → s.db.jobs.get? jobId = some job →
    job.status.isTerminal = false →
    ∃ task, s.tasks.get? attempt.taskId = some task ∧ task.currentAttemptId = jobId

/-- The attempt number of a task is the number of its attempts and the largest number of one. -/
def CountsAttempts (s : Store) : Prop :=
  ∀ taskId task, s.tasks.get? taskId = some task →
    task.attemptNumber = s.attemptsOf taskId ∧
    (∃ jobId attempt, s.attempts.get? jobId = some attempt ∧ attempt.taskId = taskId ∧
      attempt.number = task.attemptNumber) ∧
    (∀ jobId attempt, s.attempts.get? jobId = some attempt → attempt.taskId = taskId →
      attempt.number ≤ task.attemptNumber) ∧
    task.attemptNumber ≤ task.maxAttempts ∧ task.maxAttempts ≤ 10

theorem oneLiveAttempt_of_sound (hs : s.AttemptsSound) : OneLiveAttempt s := by
  intro jobId attempt job hattempt hjob hlive
  obtain ⟨task, htask, -⟩ := hs.task hattempt
  refine ⟨task, htask, by_contra fun hne ↦ ?_⟩
  obtain ⟨row, hrow, hstatus, -⟩ := hs.retired ⟨attempt, task, hattempt, htask, hne⟩
  obtain rfl := Option.some.inj (hjob.symm.trans hrow)
  rw [hstatus] at hlive
  contradiction

theorem countsAttempts_of_sound (hs : s.AttemptsSound) : CountsAttempts s := by
  intro taskId task htask
  obtain ⟨attempt, hattempt, hid, hnumber⟩ := hs.current htask
  refine ⟨(hs.count htask).symm, ⟨_, attempt, hattempt, hid, hnumber⟩, ?_, hs.budget htask⟩
  intro jobId other hother hotherId
  obtain ⟨row, hrow, hle⟩ := hs.task hother
  rw [hotherId, htask] at hrow
  obtain rfl := Option.some.inj hrow
  exact hle

theorem World.Sound.stores (hw : w.Sound jobs) : ∀ s ∈ w.stores, s.AttemptsSound := by
  intro s hs
  simp only [World.stores, List.mem_cons, List.mem_flatMap, List.not_mem_nil, or_false] at hs
  rcases hs with rfl | ⟨e, he, rfl | rfl⟩
  · exact hw.store
  · exact (hw.past e he).1
  · exact (hw.past e he).2

/-- In every run of the operations and of the supervisor, with any crashes: the tasks agree with
their attempts, no stop command is authorised twice for an attempt, attempts are replaced only
when they are stopped without a result, and nothing that comes for a superseded attempt changes
its task. -/
theorem task_attempts_agree {P : Pool World Call.Reply String ℕ}
    (h : (system jobs).Reachable P) :
    (∀ s ∈ P.shared.stores, OneLiveAttempt s ∧ CountsAttempts s) ∧
    (P.shared.executed.filterMap Executed.stop?).Nodup ∧
    (∀ e ∈ P.shared.executed, e.ReplacesStopped ∧ e.IgnoresSuperseded) ∧
    P.shared.executed.Pairwise Executed.IgnoresOld := by
  have hw : P.shared.Sound jobs := invariant_sound.of_reachable h
  refine ⟨fun s hs ↦ ?_, hw.once, fun e he ↦ ?_, ?_⟩
  · have hsound := hw.stores s hs
    exact ⟨oneLiveAttempt_of_sound hsound, countsAttempts_of_sound hsound⟩
  · exact ⟨Executed.replacesStopped_of_ran (hw.past e he).1.toNumbered (hw.ran e he),
      Executed.ignoresSuperseded_of_ran (hw.ran e he)⟩
  · refine hw.history.imp_of_mem fun {newer older} hnewer _ hfollows ↦ ?_
    exact Executed.ignoresOld_of_ran (hw.ran newer hnewer) hfollows.1 hfollows.2

namespace Sample

def buildRequest : TaskRequest where
  sourceEventId := "E1"
  taskKey := "build"
  objective := "build it"
  workspace := .scratch

/-- The first attempt at a task is stopped and replaced. -/
def replacement : List Act :=
  [.arrives "E1", .runs (.create buildRequest none), .runs (.beginJobPreparation "job_0"),
    .onTask 1 (.claimStop 1 · idle), .onTask 1 (.beginStop 1 ·),
    .onTask 1 (.stopped 1 · idle), .runs (.replaceStopped 1)]

end Sample

theorem task_attempts_agree_replacement : ∃ P : Pool World Call.Reply String ℕ,
    P.shared.executed.filterMap Executed.stop? = ["job_0"] ∧
    ((∀ s ∈ P.shared.stores, OneLiveAttempt s ∧ CountsAttempts s) ∧
      (P.shared.executed.filterMap Executed.stop?).Nodup ∧
      (∀ e ∈ P.shared.executed, e.ReplacesStopped ∧ e.IgnoresSuperseded) ∧
      P.shared.executed.Pairwise Executed.IgnoresOld) := by
  obtain ⟨P, hP, hstop⟩ := Sample.exists_reachable Sample.replacement
    (f := fun w ↦ w.executed.filterMap Executed.stop?) (c := ["job_0"]) (by decide +kernel)
  exact ⟨P, hstop, task_attempts_agree hP⟩

end Dona.Jobs
