import Dona.Jobs.Resumption

/-!
# The supervisor among the other parts of the dispatcher

Programs of the supervisor run beside each other. Between their steps any operation may be called,
the rest of the dispatcher goes on, and a crash ends a program at any await.
-/

namespace Dona.Jobs

open Coroutine Fallible

/-! ### Runs -/

/-- What the rest of the dispatcher does to the tables: it leaves tasks, handoffs and jobs, but
may cut the link of a job with its notice, and binds new events. -/
structure Elsewhere (s t : Store) : Prop where
  jobs : Table.Evolves (fun _ job job' ↦ job' = job ∨ job' = { job with completionEventId := none })
    s.db.jobs t.db.jobs
  owners : t.db.ownerBindings = s.db.ownerBindings
  bindings : Table.Extends (fun _ binding binding' ↦ binding' = binding) s.db.eventBindings
    t.db.eventBindings
  tasks : t.tasks = s.tasks
  attempts : t.attempts = s.attempts
  controls : t.controls = s.controls
  handoffs : t.handoffs = s.handoffs
  queuedSteers : t.queuedSteers = s.queuedSteers
  workspaces : t.workspaces = s.workspaces

/-- The answers of the outside; a missing result file is one that does not exist. -/
def answers (w : World) : (c : Call) → c.Reply → Prop
  | .readJobResult jobId, r => r = .error .notFound → w.moment.files jobId = false
  | .lstatResult jobId, r => r = .error .notFound → w.moment.files jobId = false
  | .turn _, _ => True
  | .readCheckpoint _, _ => True
  | .observeWorker _, _ => True
  | .workerRetired _ _, _ => True
  | .retireWorker _, _ => True
  | .delay, _ => True

/-- What the callers of an operation have checked: a handoff is claimed for no attempt at a task. -/
def Operation.Permitted (s : Store) : Operation → Prop
  | claimJobHandoff jobId _ _ _ _ => s.attempts.get? jobId = none
  | _ => True

/-- What happens around the supervisor: any operation, the rest of the dispatcher, and the passing
of time with the files that workers write. -/
inductive Happens (jobs : JobsEnv) : World → World → Prop
  | operation {w : World} {op : Operation} {r : op.Reply} {t : Store} :
      op.Permitted w.store → op.run jobs w.moment w.store = .ok (r, t) →
        Happens jobs w (w.record op t)
  | elsewhere {w : World} {t : Store} :
      Elsewhere w.store t → Happens jobs w { w with store := t }
  | moment {w : World} (moment : Moment) : Happens jobs w { w with moment := moment }

/-- What the supervisor does: rounds over the tasks, and the requests to inspect or to resume a
job. A job is asked for by an identifier that is drawn when the job is created. -/
inductive Supervises (jobs : JobsEnv) (w : World) : Program Unit → Prop
  | reconcileTasks (observes : Bool) : Supervises jobs w (reconcileTasks jobs observes)
  | inspectWorker {jobId : JobId} {job : JobRow} (sourceEventId : EventId) :
      w.store.db.jobs.get? jobId = some job →
        Supervises jobs w (discard (inspectWorker jobId sourceEventId))
  | resumeJob {jobId : JobId} {job : JobRow} (observes : Bool) (sourceEventId : EventId)
      (instruction : String) (polls : ℕ) : w.store.db.jobs.get? jobId = some job →
        Supervises jobs w (discard (resumeJob jobs observes jobId sourceEventId instruction polls))

/-- Programs of the supervisor, in any number, over tables that are empty at first. -/
def surroundings (jobs : JobsEnv) : Pool.Surroundings World Call.Reply String ℕ where
  initial w := w.store = .fresh ∧ w.executed = []
  perform c w r w' := answers w c r ∧ w' = w
  programs _ w p := Supervises jobs w p
  kill _ w w' := w' = w
  environment := Happens jobs

def system (jobs : JobsEnv) :
    TransitionSystem (Pool World Call.Reply String ℕ) (Pool.Event ℕ) :=
  Pool.system (surroundings jobs)

end Dona.Jobs
