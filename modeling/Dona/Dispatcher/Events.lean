import Dona.Schema

/-!
# Enqueueing events

`DispatcherDatabase.enqueue` and the binding of an event to the owner of the jobs it may
start.
-/

namespace Dona

open Fallible

structure EnqueueResult where
  eventId : EventId
  duplicate : Bool
  payloadMismatch : Bool

namespace Db

/-- A Slack thread owns the jobs of its own events. -/
def legacySlackBinding (event : EventRow) : Option JobBinding :=
  match event.source, event.replyTarget with
  | .slack, some (.slackThread thread) => some ⟨.slackThread thread, .slackThread thread⟩
  | _, _ => none

def JobDestination.workspaceId? : JobDestination → Option String
  | .none => Option.none
  | .slackThread thread => some thread.workspaceId
  | .workResult .none => Option.none
  | .workResult (.thread workspaceId _ _) => some workspaceId
  | .workResult (.channel workspaceId _) => some workspaceId
  | .workResult (.ownerDm workspaceId _ _) => some workspaceId

def checkBinding (input : JobBinding) : Except String Unit :=
  match input.owner, input.destination with
  | .slackThread thread, destination =>
      throwIf (destination ≠ .slackThread thread) "Slack destination must match owner"
  | .schedule tenantId _ _ _ _, .workResult target =>
      throwIf ((JobDestination.workspaceId? (.workResult target)).any (· ≠ tenantId))
        "Cross-tenant destination denied"
  | _, _ => .ok ()

def insertEventJobBinding (eventId : EventId) (input : JobBinding) (db : Db) :
    Except String Db := do
  checkBinding input
  match db.eventBindings.get? eventId with
  | some saved => do
      throwIf (saved ≠ input) "Event job binding conflict"
      .ok db
  | none => do
      let bindings ← orThrow (db.eventBindings.insert? eventId input)
        "UNIQUE constraint failed: event_job_bindings.event_id"
      .ok { db with eventBindings := bindings }

def bindSlackEvent (eventId : EventId) (event : EventRow) (db : Db) : Except String Db :=
  match legacySlackBinding event with
  | some binding => db.insertEventJobBinding eventId binding
  | none => .ok db

def enqueue (envelope : EventEnvelope) (now : Timestamp) (db : Db) :
    Except String (EnqueueResult × Db) := do
  match db.events.find? fun _ event ↦
      event.source = envelope.source ∧ event.externalEventId = envelope.externalEventId with
  | some (eventId, existing) => do
      let mismatch := existing.eventType ≠ envelope.type ∨
        existing.occurredAt ≠ envelope.occurredAt ∨ existing.subject ≠ envelope.subject ∨
        existing.payload ≠ envelope.payload ∨ existing.replyTarget ≠ envelope.replyTarget
      let db ← db.bindSlackEvent eventId existing
      .ok (⟨eventId, true, decide mismatch⟩, db)
  | none => do
      let eventId := s!"evt_{db.nextUuid}"
      let row : EventRow :=
        { source := envelope.source
          externalEventId := envelope.externalEventId
          eventType := envelope.type
          occurredAt := envelope.occurredAt
          subject := envelope.subject
          payload := envelope.payload
          replyTarget := envelope.replyTarget
          availableAt := now
          createdAt := now
          updatedAt := now }
      let events ← orThrow (db.events.insert? eventId row)
        "UNIQUE constraint failed: events.event_id"
      let db ← ({ db with events := events, nextUuid := db.nextUuid + 1 } : Db).bindSlackEvent
        eventId row
      .ok (⟨eventId, false, false⟩, db)

end Db

end Dona
