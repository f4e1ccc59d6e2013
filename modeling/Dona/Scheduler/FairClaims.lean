import Mathlib.Data.Prod.Lex
import Dona.Library.SharedQueue
import Dona.Scheduler.Withdrawals

/-!
# Claims are shared out among the tenants

A batch of claims takes writes from the outbox one after the other, each time one of a tenant with
the fewest writes in flight. The outbox is a shared queue, and the batch is one of its batches.
-/

namespace Dona

open Fallible TransitionSystem

namespace Db

variable {db db' : Db} {kind : Option OutboxKind} {now : Timestamp} {leaseSeconds limit : ℕ}
  {outboxId : Uuid} {row : Outbox}

/-- The tenant a write belongs to. -/
def tenantOf (db : Db) (row : Outbox) : Option String :=
  ((db.runs.get? row.runId).bind fun run ↦ db.schedules.get? run.scheduleId).map (·.tenantId)

/-- A row as a claim leaves it. -/
def claimedRow (token : Uuid) (now : Timestamp) (leaseSeconds : ℕ) (row : Outbox) : Outbox :=
  { row with
    status := .claimed
    claimToken := some token
    leaseUntil := some (now.add leaseSeconds)
    updatedAt := now }

theorem tenantOf_claimOne :
    (db.claimOne outboxId now leaseSeconds).tenantOf row = db.tenantOf row := rfl

end Db

end Dona
