import Dona.Scheduler.Arguments
import Dona.Scheduler.Occurrences

/-!
# The schedules that a batch claims

One turn of the loop of `SchedulerService.runBatch`: the claimed schedule is due, the choice is made
from its definition, and `materialize` does not refuse what was chosen.
-/

namespace Dona

open Fallible Calculator

/-! ### The next occurrence -/

namespace Calculator

variable {zones : String → Option Zone}

/-- The search through the windows leaves no gap, and ends. -/
theorem next_persisted_occurrence (definition : ScheduleDefinition zones) (after : UtcInstant) :
    (nextPersistedOccurrence definition after.ms = .ok none ↔ definition.future after.ms = ∅) ∧
      ∀ utc : ℤ, IsLeast (definition.future after.ms) utc ↔
        ∃ occurrence, nextPersistedOccurrence definition after.ms = .ok (some occurrence) ∧
          occurrence.occurrenceAt.ms = utc := by
  obtain ⟨found, hfound, hfirst⟩ := @nextPersistedOccurrence_spec zones definition after
  rw [hfound]
  cases found with
  | none =>
      have hempty : definition.future after.ms = ∅ := hfirst
      refine ⟨iff_of_true rfl hempty, fun utc ↦ iff_of_false (fun hleast ↦ ?_) ?_⟩
      · rw [hempty] at hleast
        exact hleast.1
      · rintro ⟨occurrence, hnone, -⟩
        cases hnone
  | some occurrence =>
      have hleast : IsLeast (definition.future after.ms) occurrence.occurrenceAt.ms := hfirst
      have hne : definition.future after.ms ≠ ∅ := Set.nonempty_iff_ne_empty.mp ⟨_, hleast.1⟩
      refine ⟨iff_of_false (fun hnone ↦ by cases hnone) hne, fun utc ↦ ⟨fun hutc ↦ ?_, ?_⟩⟩
      · exact ⟨occurrence, rfl, hleast.unique hutc⟩
      · rintro ⟨_, heq, rfl⟩
        cases heq
        exact hleast

end Calculator

/-! ### The claimed schedule -/

namespace CatchUp

section Claimed

variable {zones : String → Option Zone} {definition : ScheduleDefinition zones} {env : Env}
  {db db' : Db} {scheduleId : ScheduleId} {before : Schedule} {first now margin : UtcInstant}
  {owner : String} {leaseSeconds : ℕ} {excluded : List ScheduleId}

end Claimed

/-! ### A late reminder -/

namespace LateReminder

open DailyReminder

/-- A hundred seconds past the epoch. -/
def firstDue : UtcInstant := ⟨100000, by decide, by decide, by decide⟩

def anHourLater : UtcInstant := ⟨3700000, by decide, by decide, by decide⟩

def createdOnce : SchedulerOp :=
  .create "S1" { input with recurrence := ⟨.once, none, none, "1970-01-01T00:01:40Z"⟩ }
    (.ofSeconds 100) DailyReminder.owner (.ofSeconds 10)

/-- The database after the claim of a worker that is an hour late. -/
def claimed : Db :=
  let claim := (createdOnce.next plain .fresh).claimDue "worker" anHourLater.timestamp 60 []
  claim.toOption.elim .fresh Prod.snd

def row : Schedule where
  tenantId := "T1"
  ownerId := "U1"
  state := .active
  revision := 1
  nextDue := some (.ofSeconds 100)
  createdAt := .ofSeconds 10
  updatedAt := .ofSeconds 10

end LateReminder

end CatchUp

end Dona
