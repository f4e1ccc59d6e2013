import Dona.Updater.Recovery

/-!
# The stop of the current services

The state `quiescing` of `runClaimed`: the adapter and the dispatcher drain, the main agent stops,
the services stop, and the application schema is migrated where the target needs it. Every step
that cannot go on says what is left to do, which the caller does.
-/

namespace Dona.UpdateController

open Coroutine Fallible Updater

/-- What a step that does not go on leaves to do. -/
inductive QuiesceEnd
  | restore (causeCode : String) (dispatcherQuiesced slackQuiesced : Bool)
  | deferred (code message : String)
  | review (code : String)
  | ended

/-- The operations that an earlier run persisted, as they were when this one began. -/
structure PersistedStops where
  mainAgent : Option RuntimeOperationRow
  slack : Option RuntimeOperationRow
  dispatcher : Option RuntimeOperationRow

namespace PersistedStops

/-- `Boolean(persistedDispatcherStop || persistedStop)` -/
def dispatcherStopped (stops : PersistedStops) : Bool :=
  stops.dispatcher.isSome || stops.mainAgent.isSome

def slackStopped (stops : PersistedStops) : Bool := stops.slack.isSome

end PersistedStops

def schemaV3BridgeSha : String := "61bc86f71726ce1f44fc3500e524203626cf869a"

def schemaMigrationCapability : String :=
  "dispatcher_v2_to_v3_online_backup_terminal_worker_drain_v1"

section

variable (policy : Policy) (requestId : RequestId) (owner : String) (row : UpdateRow)

/-- The operation that shows that the current services are being restored. -/
def persistedRecovery (db : UpdateDb) : Option RuntimeOperationKind :=
  [RuntimeOperationKind.restartCurrentDispatcher, .restartCurrentSlack,
    .startPreviousMainAgent].find? fun kind ↦
    (db.runtimeOperations.get? (requestId, kind)).isSome

def reconcileDeadlineExpired (now : Time) : Bool := row.reconcileDeadline.any (· ≤ now)

def recoveryServiceQuiesced (service : Service) (persistedStop : Bool) : Program Bool := do
  let quiesced ← attempt (do
    let health ← ask (.health service)
    assertLease requestId owner row
    if health.live = false then
      if persistedStop then
        let registered : Bool ← ask (.registered service)
        assertLease requestId owner row
        pure !registered
      else pure false
    else if health.buildSha ≠ some row.currentSha ∨ health.ready = true then pure false
    else
      let drain ← ask (.drainStatus service)
      assertLease requestId owner row
      pure (drain.service = service ∧ drain.quiescing ∧ drain.drained ∧ drain.inFlight = 0 ∧
        drain.unsafeStates = [] : Bool))
  match quiesced with
  | .ok quiesced => pure quiesced
  | .error _ =>
      assertLease requestId owner row
      pure false

/-! ### What an earlier run began -/

/-- A recovery that an earlier run began, or a stop of the agent that was rejected. -/
def resumeRecovery (recovery : Option RuntimeOperationKind) (stops : PersistedStops) :
    Program (Option QuiesceEnd) := do
  match recovery with
  | some kind =>
      let evidence ← ask (.quiesceEvidence kind)
      match evidence.dispatcherQuiesced, evidence.slackQuiesced with
      | some dispatcherQuiesced, some slackQuiesced =>
          pure (some (.restore evidence.cause dispatcherQuiesced slackQuiesced))
      | _, _ => pure (some (.review "quiesce_recovery_scope_unverified"))
  | none =>
      if stops.mainAgent.any (·.phase = .rejected) then
        let evidence ← ask (.quiesceEvidence .stopMainAgent)
        pure (some (.restore evidence.cause true true))
      else pure none

/-! ### The drain of the services -/

/-- A service is live although an earlier run persisted its stop. -/
def reappeared (service : Service) (stop : RuntimeOperationRow)
    (dispatcherStop slackStop : Bool) : Program QuiesceEnd := do
  let now ← read World.now
  if stop.phase ≠ .observed ∧ stop.phase ≠ .rejected ∧ reconcileDeadlineExpired row now = false then
    match service with
    | .slackAdapter =>
        pure (.deferred "stop_slack_acceptance_unknown" "The persisted Slack stop is still live")
    | .dispatcher =>
        pure (.deferred "stop_dispatcher_acceptance_unknown"
          "The persisted Dispatcher stop is still live")
  else
    let dispatcherQuiesced ← recoveryServiceQuiesced requestId owner row .dispatcher dispatcherStop
    let slackQuiesced ← recoveryServiceQuiesced requestId owner row .slackAdapter slackStop
    let causeCode :=
      match service with
      | .slackAdapter =>
          if stop.phase = .rejected then "stop_slack_rejected"
          else "slack_adapter_reappeared_after_stop"
      | .dispatcher =>
          if stop.phase = .rejected then "stop_dispatcher_rejected"
          else "dispatcher_reappeared_after_stop"
    pure (.restore causeCode dispatcherQuiesced slackQuiesced)

/-- The stop that an earlier run persisted is not that of the current service, or it did not
unregister it. -/
def stopUnverified (service : Service) (stop : RuntimeOperationRow) (registered : Bool) : Bool :=
  stop.targetRef ≠ service.text ∨ stop.expectedSha ≠ some row.currentSha ∨
    stop.phase = .rejected ∨ registered = true

def quiesceSlack (stops : PersistedStops) : Program (Option QuiesceEnd) := do
  let health ← ask (.health .slackAdapter)
  assertLease requestId owner row
  if health.live then
    if health.buildSha ≠ some row.currentSha then
      let dispatcherQuiesced ←
        recoveryServiceQuiesced requestId owner row .dispatcher stops.dispatcherStopped
      pure (some (.restore "slack_adapter_wrong_sha_during_quiesce" dispatcherQuiesced false))
    else
      match stops.slack with
      | some stop =>
          let ending ←
            reappeared requestId owner row .slackAdapter stop stops.dispatcherStopped true
          pure (some ending)
      | none =>
          match ← attempt (ask (.quiesce .slackAdapter)) with
          | .error _ =>
              assertLease requestId owner row
              let slackQuiesced ← recoveryServiceQuiesced requestId owner row .slackAdapter false
              pure (some (.restore "slack_adapter_quiesce_unverified" false slackQuiesced))
          | .ok drain =>
              assertLease requestId owner row
              if drain.quiescing = false ∨ drain.drained = false ∨ drain.inFlight ≠ 0 then
                let slackQuiesced ← recoveryServiceQuiesced requestId owner row .slackAdapter false
                pure (some (.restore "slack_adapter_drain_incomplete" false slackQuiesced))
              else pure none
  else
    match stops.slack with
    | none => throw "slack_adapter_current_state_unverified"
    | some stop =>
        match ← attempt (ask (.registered .slackAdapter)) with
        | .error _ =>
            assertLease requestId owner row
            let dispatcherQuiesced ←
              recoveryServiceQuiesced requestId owner row .dispatcher stops.dispatcherStopped
            pure (some (.restore "stop_slack_registration_unverified" dispatcherQuiesced false))
        | .ok registered =>
            assertLease requestId owner row
            if stopUnverified row .slackAdapter stop registered then
              let dispatcherQuiesced ←
                recoveryServiceQuiesced requestId owner row .dispatcher stops.dispatcherStopped
              let slackQuiesced ← recoveryServiceQuiesced requestId owner row .slackAdapter true
              pure (some (.restore "stop_slack_current_state_unverified" dispatcherQuiesced
                slackQuiesced))
            else pure none

def quiesceDispatcher (stops : PersistedStops) : Program (Option QuiesceEnd) := do
  let health ← ask (.health .dispatcher)
  assertLease requestId owner row
  if health.live then
    if health.buildSha ≠ some row.currentSha then
      let slackQuiesced ←
        recoveryServiceQuiesced requestId owner row .slackAdapter stops.slackStopped
      pure (some (.restore "dispatcher_wrong_sha_during_quiesce" false slackQuiesced))
    else
      match stops.dispatcher with
      | some stop =>
          let ending ← reappeared requestId owner row .dispatcher stop true stops.slackStopped
          pure (some ending)
      | none =>
          match ← attempt (ask (.quiesce .dispatcher)) with
          | .error _ =>
              assertLease requestId owner row
              let dispatcherQuiesced ←
                recoveryServiceQuiesced requestId owner row .dispatcher false
              let slackQuiesced ←
                recoveryServiceQuiesced requestId owner row .slackAdapter stops.slackStopped
              pure (some (.restore "dispatcher_quiesce_unverified" dispatcherQuiesced
                slackQuiesced))
          | .ok drain =>
              assertLease requestId owner row
              if drain.quiescing = false ∨ drain.drained = false ∨ drain.unsafeStates ≠ [] then
                let dispatcherQuiesced ←
                  recoveryServiceQuiesced requestId owner row .dispatcher false
                let slackQuiesced ←
                  recoveryServiceQuiesced requestId owner row .slackAdapter stops.slackStopped
                pure (some (.restore "dispatcher_drain_incomplete" dispatcherQuiesced
                  slackQuiesced))
              else pure none
  else
    match stops.dispatcher with
    | none => throw "dispatcher_current_state_unverified"
    | some stop =>
        match ← attempt (ask (.registered .dispatcher)) with
        | .error _ =>
            assertLease requestId owner row
            let slackQuiesced ←
              recoveryServiceQuiesced requestId owner row .slackAdapter stops.slackStopped
            pure (some (.restore "stop_dispatcher_registration_unverified" false slackQuiesced))
        | .ok registered =>
            assertLease requestId owner row
            if stopUnverified row .dispatcher stop registered then
              let dispatcherQuiesced ← recoveryServiceQuiesced requestId owner row .dispatcher true
              let slackQuiesced ←
                recoveryServiceQuiesced requestId owner row .slackAdapter stops.slackStopped
              pure (some (.restore "stop_dispatcher_current_state_unverified" dispatcherQuiesced
                slackQuiesced))
            else pure none

/-! ### The stop of the main agent -/

/-- The agent that was drained is the idle agent of the current release. -/
def mayStopAgent (drained current : MainAgentObservation) : Bool :=
  drained.present ∧ drained.isIdle ∧ current.paneId = drained.paneId ∧
    current.sessionId = drained.sessionId ∧ current.present ∧ current.isIdle ∧
    current.matchesRelease ∧ current.name = some policy.mainAgentName ∧
    current.kind = some "codex"

def agentNotStopped (drained current : MainAgentObservation) : QuiesceEnd :=
  .restore (if drained.status = some .blocked then "main_agent_blocked"
    else if current.paneId ≠ drained.paneId ∨ current.sessionId ≠ drained.sessionId ∨
        current.matchesRelease = false then "main_agent_identity_changed"
    else "main_agent_not_idle") true true

/-- The stop of the agent; the pane it leaves free. -/
def stopAgent (current : MainAgentObservation) (paneId sessionId : String) :
    Program (Except QuiesceEnd (Option String)) := do
  prepareOperation requestId row .stopMainAgent paneId (some row.currentSha) (some sessionId)
  let stopped ← ask (.stopMainAgent current)
  assertLease requestId owner row
  if stopped.outcome = .rejected then
    recordOperation requestId row .stopMainAgent .rejected none
    pure (.error (.restore (stopped.errorCode.getD "main_agent_stop_rejected") true true))
  else
    match stopped.outcome, stopped.paneId with
    | .done, some stoppedPaneId =>
        recordOperation requestId row .stopMainAgent .observed none
        pure (.ok (some stoppedPaneId))
    | _, _ =>
        recordOperation requestId row .stopMainAgent .acceptanceUnknown none
        pure (.error (.deferred "main_agent_stop_acceptance_unknown"
          "Main-agent stop acceptance is unknown"))

def quiesceMainAgent (stops : PersistedStops) (paneId : Option String) :
    Program (Except QuiesceEnd (Option String)) := do
  match stops.mainAgent with
  | none =>
      let drained ← ask .waitForMainAgentIdle
      assertLease requestId owner row
      let current ← ask (.mainAgentStatus row.currentSha)
      assertLease requestId owner row
      match current.paneId, current.sessionId with
      | some currentPaneId, some sessionId =>
          if mayStopAgent policy drained current then
            stopAgent requestId owner row current currentPaneId sessionId
          else pure (.error (agentNotStopped drained current))
      | _, _ => pure (.error (agentNotStopped drained current))
  | some stop =>
      if stop.phase = .observed then pure (.ok paneId)
      else
        let current ← ask (.mainAgentStatus row.currentSha)
        assertLease requestId owner row
        if current.present then
          pure (.error (.deferred "main_agent_stop_acceptance_unknown"
            "Persisted main-agent stop has not been observed"))
        else
          recordOperation requestId row .stopMainAgent .observed none
          pure (.ok paneId)

/-! ### The stop of the services -/

/-- The stop of a service of the current release; a throw restores the runtime. -/
def stopCurrent (kind : RuntimeOperationKind) (service : Service) :
    Program (Option QuiesceEnd) := do
  match ← attempt (ensureServiceStopped policy requestId owner row kind service
      (some row.currentSha)) with
  | .ok true => pure none
  | .ok false => pure (some .ended)
  | .error _ =>
      assertLease requestId owner row
      pure (some (.restore s!"{kind}_registration_unverified" true true))

/-- The database that a rejected migration left has the schema of the current release. -/
def migrationRejected (previous : Compatibility) : Program QuiesceEnd := do
  let schema ← attempt (do
    let schema ← ask .appSchemaState
    assertLease requestId owner row
    pure schema)
  if schema.toOption.any fun schema ↦ schema.userVersion = previous.appSchemaWrite ∧
      schema.integrityOk ∧ schema.foreignKeyViolations = 0 then
    pure (.restore "app_schema_migration_rejected" true true)
  else pure (.review "app_schema_migration_state_unverified")

/-- The migration of the application schema, with the services stopped. -/
def migrateSchema (previous : Compatibility) (capability : String) :
    Program (Option QuiesceEnd) := do
  let controlPlane ← ask (.schemaMigrationCapability capability)
  assertLease requestId owner row
  if controlPlane.ready = false ∨ controlPlane.buildSha ≠ some row.targetSha then
    pure (some (.restore "stable_updater_schema_migration_capability_unverified" true true))
  else
    let migration ← ask (.migrateAppSchema row.targetSha previous row.compatibility)
    assertLease requestId owner row
    if migration.succeeded ∧ migration.outputTruncated = false then pure none
    else if migration.timedOut = false ∧ migration.exitCode ≠ none ∧
        migration.exitCode ≠ some 0 then
      let ending ← migrationRejected requestId owner row previous
      pure (some ending)
    else pure (some (.review "app_schema_migration_unverified"))

/-- The transition that was approved for exactly this pair of releases. -/
def approvedTransition (activeSha : String) (previous : Compatibility) :
    Option CompatibilityTransition :=
  row.transition.filter fun transition ↦
    transition.fromSha = activeSha ∧ activeSha = row.currentSha ∧ transition.source = previous ∧
      transition.target = row.compatibility

def migrateIfNeeded : Program (Option QuiesceEnd) := do
  let activeSha ← resolvePointer .current
  match ← ask (.releaseManifest activeSha) with
  | none => throw "ENOENT"
  | some previous =>
      if previous.appSchemaWrite = 2 ∧ row.compatibility.appSchemaWrite = 3 then
        match approvedTransition row activeSha previous with
        | some transition =>
            migrateSchema requestId owner row previous transition.requiredControlPlaneCapability
        | none =>
            if activeSha = schemaV3BridgeSha ∧ activeSha = row.currentSha then
              migrateSchema requestId owner row previous schemaMigrationCapability
            else pure (some (.review "schema_activation_bridge_identity_unverified"))
      else pure none

/-- The services stop once the agent did. -/
def stopServices : Program (Option QuiesceEnd) := do
  match ← stopCurrent policy requestId owner row .stopSlack .slackAdapter with
  | some ending => pure (some ending)
  | none =>
      match ← stopCurrent policy requestId owner row .stopDispatcher .dispatcher with
      | some ending => pure (some ending)
      | none =>
          let workers ← ask .workerSafety
          assertLease requestId owner row
          if workers.safe then migrateIfNeeded requestId owner row
          else
            pure (some (.restore (workers.errorCode.getD "active_worker_handoff_unavailable")
              true true))

/-- The state `quiescing` up to the stop of all services; the pane of the stopped agent. -/
def quiesceServices (paneId : Option String) : Program (Except QuiesceEnd (Option String)) := do
  let w ← read id
  let operation := fun kind ↦ w.db.runtimeOperations.get? (requestId, kind)
  let stops : PersistedStops :=
    ⟨operation .stopMainAgent, operation .stopSlack, operation .stopDispatcher⟩
  match ← resumeRecovery (persistedRecovery requestId w.db) stops with
  | some ending => pure (.error ending)
  | none =>
      match ← quiesceSlack requestId owner row stops with
      | some ending => pure (.error ending)
      | none =>
          match ← quiesceDispatcher requestId owner row stops with
          | some ending => pure (.error ending)
          | none =>
              match ← quiesceMainAgent policy requestId owner row stops paneId with
              | .error ending => pure (.error ending)
              | .ok stoppedPaneId =>
                  match ← stopServices policy requestId owner row with
                  | some ending => pure (.error ending)
                  | none => pure (.ok stoppedPaneId)

end

end Dona.UpdateController
