import Dona.Library.Refusals
import Dona.Scheduler.CatchUp
import Dona.Scheduler.Operations
import Mathlib.Data.Int.Interval

/-!
# The arguments of a late materialization

What `materialize` checks of its arguments is what the batch has computed: the occurrence is the
latest, the next date is behind it and behind the clock, and the compact skip ends before the
grace of the occurrence that it skips.
-/

namespace Dona

open Fallible Calculator

namespace CatchUp

variable {zones : String → Option Zone} {definition : ScheduleDefinition zones}
  {first now : UtcInstant} {choice : Choice}

section Rest

variable {env : Env} {db : Db} {scheduleId : ScheduleId} {before : Schedule} {revision : Revision}

end Rest

/-! ### The arguments -/

/-- What the batch knows of the schedule that it has claimed. -/
structure IsDue (before : Schedule) (first now : UtcInstant) : Prop where
  active : before.state = .active
  nextDue : before.nextDue = some first.timestamp
  watermark : ∀ watermark, before.highWatermark = some watermark → watermark < first.timestamp
  clock : ∀ stamp ∈ [before.createdAt, before.updatedAt,
    before.terminalAt.getD before.createdAt], stamp ≤ now.timestamp

section Checks

variable {env : Env} {db : Db} {scheduleId : ScheduleId} {before : Schedule} {revision : Revision}

theorem latest_eq {t : Timestamp} {ts : List Timestamp} (h : ∀ u ∈ ts, u ≤ t) :
    Timestamp.latest t ts = t := by
  induction ts with
  | nil => rfl
  | cons u ts ih =>
      rw [List.forall_mem_cons] at h
      rw [Timestamp.latest, List.foldl_cons, max_eq_left h.1]
      exact ih h.2

theorem IsDue.materializedAt (h : IsDue before first now) :
    Timestamp.latest now.timestamp [before.createdAt, before.updatedAt,
      before.terminalAt.getD before.createdAt] = now.timestamp :=
  latest_eq h.clock

variable (hchoice : choice.CatchesUp definition first now)

include hchoice

end Checks

end CatchUp

end Dona
