import Dona.Jobs.Steering
import Dona.Jobs.TaskRuns

/-!
# Steers that reach the worker or leave nothing

What `prepareSteer` commits before the supervisor is asked changes the objective of the task, and
no later step takes it back. A steer is therefore all or nothing exactly when the job takes it.
-/

namespace Dona

open DispatcherWorker Fallible

/-! ### Objectives -/

namespace Store

variable {jobs : JobsEnv} {s t u : Store} {taskId : TaskId} {jobId : JobId} {eventId : EventId}
  {instruction : String} {answer : HerdrCommandResult} {now later : Int}

/-- No objective changes. -/
structure SameObjectives (s t : Store) : Prop where
  jobs : Table.Evolves (fun _ (job job' : JobRow) ↦ job'.objective = job.objective) s.db.jobs
    t.db.jobs
  tasks : Table.Evolves (fun _ (task task' : TaskRow) ↦ task'.objective = task.objective) s.tasks
    t.tasks

theorem SameObjectives.of_jobs (hjobs : Table.Evolves
    (fun _ (job job' : JobRow) ↦ job'.objective = job.objective) s.db.jobs t.db.jobs)
    (htasks : t.tasks = s.tasks) : SameObjectives s t := by
  refine ⟨hjobs, ?_⟩
  rw [htasks]
  apply Table.Evolves.refl
  intro taskId task
  rfl

theorem SameObjectives.of_eq (hjobs : t.db.jobs = s.db.jobs) (htasks : t.tasks = s.tasks) :
    SameObjectives s t := by
  refine .of_jobs ?_ htasks
  rw [hjobs]
  apply Table.Evolves.refl
  intro jobId job
  rfl

theorem SameObjectives.refl (s : Store) : SameObjectives s s := .of_eq rfl rfl

theorem SameObjectives.trans (h : SameObjectives s t) (h' : SameObjectives t u) :
    SameObjectives s u where
  jobs := h.jobs.comp h'.jobs fun hab hbc ↦ hbc.trans hab
  tasks := h.tasks.comp h'.tasks fun hab hbc ↦ hbc.trans hab

theorem objective_assign (values : JobValues) (job : JobRow) :
    (values.assign job).objective = job.objective := rfl

end Store

/-! ### The part of the supervisor -/

namespace Steered

variable {ε α β : Type} {x : Steered ε α}

theorem commit_of_ok {body : Store → Except ε (α × Store)} {s t : Store} {a : α}
    (h : body s = .ok (a, t)) : commit body s = done a t := by
  simp only [commit, transaction, h]
  rfl

theorem commit_of_error {body : Store → Except ε (α × Store)} {s : Store} {e : ε}
    (h : body s = .error e) : commit body s = fail e s := by
  simp only [commit, transaction, h]
  rfl

end Steered

namespace Store

variable {jobs : JobsEnv} {s t u : Store} {taskId : TaskId} {jobId : JobId} {eventId : EventId}
  {instruction : String} {answer : HerdrCommandResult} {now later : Int} {job : JobRow}
  {task : TaskRow} {outcome : Steered String Bool}

/-- The task waits for the steer of the event. -/
structure AwaitsSteer (eventId : EventId) (task : TaskRow) : Prop where
  waitReason : task.waitReason = some .steerAcceptanceUnknown
  pending : task.steerPendingEventId = some eventId
  desired : task.desiredState = .running
  stop : task.stopState = .none

/-- What `prepareSteer` commits before the supervisor is asked. -/
structure Admits (taskId : TaskId) (eventId : EventId) (instruction : String) (task : TaskRow)
    (s t : Store) : Prop where
  db : t.db = s.db
  queuedSteers : t.queuedSteers = s.queuedSteers
  attempts : t.attempts = s.attempts
  control : (t.controls.get? (taskId, eventId)).isSome = true
  task : ∃ admitted, t.tasks.get? taskId = some admitted ∧
    admitted.currentAttemptId = task.currentAttemptId ∧ AwaitsSteer eventId admitted ∧
    admitted.objective = task.objective ++ steerNote instruction

end Store

namespace Jobs

open Coroutine

namespace Sample

def accepted : HerdrCommandResult := { ok := true }

end Sample

end Jobs

end Dona
