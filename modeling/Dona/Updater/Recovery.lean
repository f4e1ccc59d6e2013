import Dona.Updater.ServiceSteps

/-!
# Recovery of the services around a pointer switch

Before the pointers are switched a stopped update restores the services of the current release;
a rollback that has not switched them back yet restores those of the target.
-/

namespace Dona.UpdateController

open Coroutine Fallible Updater

section

variable (policy : Policy) (requestId : RequestId) (owner : String)

/-! ### One service -/

/-- `reconcileUnknownStart` -/
def reconcileUnknownStart (row : UpdateRow) (kind : RuntimeOperationKind) (service : Service)
    (releaseSha : String) : Program Bool := do
  let observed ← attempt (do
    match ← ask (.releaseManifest releaseSha) with
    | none => pure false
    | some compatibility =>
        let health ← ask (.waitForHealth service releaseSha)
        pure (serviceMatches health service releaseSha compatibility))
  assertLease requestId owner row
  if observed.toOption = some true then
    recordOperation requestId row kind .observed none
    pure true
  else pure false

/-- The health of a restarted service, or why it is not restored. -/
def settleRestarted (row : UpdateRow) (kind : RuntimeOperationKind) (service : Service)
    (causeCode releaseSha codePrefix : String) : Program (Option (String × String)) := do
  let stopped := s!"Update stopped before main-agent mutation ({causeCode}), but "
  let manifest ← ask (.releaseManifest releaseSha)
  assertLease requestId owner row
  match manifest with
  | none =>
      pure (some (codePrefix ++ "_release_manifest_missing",
        stopped ++ "the current release manifest was not found"))
  | some compatibility =>
      let health ← ask (.waitForHealth service releaseSha)
      assertLease requestId owner row
      if serviceMatches health service releaseSha compatibility then
        recordOperation requestId row kind .observed none
        pure none
      else
        pure (some (codePrefix ++ "_health_failed",
          stopped ++ s!"current {service.label} health was not verified"))

/-- The failure of a restart that was not accepted for certain. -/
def unknownRestart (row : UpdateRow) (kind : RuntimeOperationKind) (service : Service)
    (causeCode releaseSha codePrefix : String) : Program (Option (String × String)) := do
  if ← reconcileUnknownStart requestId owner row kind service releaseSha then pure none
  else
    pure (some (codePrefix ++ "_restart_unknown",
      s!"Update stopped before main-agent mutation ({causeCode}), but " ++
        s!"{service.label} restart acceptance is unknown; no blind retry was attempted"))

def rejectedRestart (service : Service) (causeCode codePrefix : String) : String × String :=
  (codePrefix ++ "_restart_rejected",
    s!"Update stopped before main-agent mutation ({causeCode}), but " ++
      s!"{service.label} restart was definitively rejected")

/-- `restartQuiescedService`: nothing when the service is restored, else the failure. -/
def restartQuiescedService (row : UpdateRow) (kind : RuntimeOperationKind) (service : Service)
    (causeCode releaseSha codePrefix : String) : Program (Option (String × String)) := do
  match ← runtimeOperation requestId kind with
  | some existing =>
      if existing.targetRef ≠ service.text ∨ existing.expectedSha ≠ some releaseSha then
        pure (some (codePrefix ++ "_restart_intent_mismatch",
          s!"Update stopped before main-agent mutation ({causeCode}), but " ++
            s!"the persisted {service.label} restart intent does not match"))
      else if existing.phase = .prepared ∨ existing.phase = .acceptanceUnknown then
        unknownRestart requestId owner row kind service causeCode releaseSha codePrefix
      else if existing.phase = .rejected then
        pure (some (rejectedRestart service causeCode codePrefix))
      else settleRestarted requestId owner row kind service causeCode releaseSha codePrefix
  | none =>
      prepareOperation requestId row kind service.text (some releaseSha) none
      match ← attempt (ask (.startService service)) with
      | .error _ =>
          assertLease requestId owner row
          recordOperation requestId row kind .acceptanceUnknown none
          unknownRestart requestId owner row kind service causeCode releaseSha codePrefix
      | .ok result =>
          assertLease requestId owner row
          if result.succeeded then
            recordOperation requestId row kind .accepted none
            settleRestarted requestId owner row kind service causeCode releaseSha codePrefix
          else
            recordOperation requestId row kind result.failurePhase none
            if result.failurePhase = .rejected then
              pure (some (rejectedRestart service causeCode codePrefix))
            else unknownRestart requestId owner row kind service causeCode releaseSha codePrefix

/-- The services that entered the drain, and the first failure to restart one of them. -/
def restartServices (row : UpdateRow) (dispatcherKind slackKind : RuntimeOperationKind)
    (causeCode releaseSha dispatcherPrefix slackPrefix : String)
    (dispatcherQuiesced slackQuiesced : Bool) : Program (Option (String × String)) := do
  let dispatcherFailure ←
    (if dispatcherQuiesced then
      restartQuiescedService requestId owner row dispatcherKind .dispatcher causeCode releaseSha
        dispatcherPrefix
    else pure none)
  let slackFailure ←
    (if slackQuiesced then
      restartQuiescedService requestId owner row slackKind .slackAdapter causeCode releaseSha
        slackPrefix
    else pure none)
  pure (dispatcherFailure.or slackFailure)

/-- A service that never stopped is healthy at the release. -/
def stillHealthy (row : UpdateRow) (service : Service) (sha : String) : Program Bool := do
  let manifest ← ask (.releaseManifest sha)
  let health ← ask (.health service)
  assertLease requestId owner row
  pure (manifest.any (serviceMatches health service sha))

/-- The agent that was stopped runs again, if one was. -/
def restartStoppedAgent (row : UpdateRow) (stopKind startKind : RuntimeOperationKind)
    (sha : String) : Program Bool := do
  match ← runtimeOperation requestId stopKind with
  | none => pure true
  | some stopped =>
      if stopped.phase ≠ .observed then pure true
      else if stopped.targetRef = "" then pure false
      else
        ensureMainAgentRestarted policy requestId owner row stopped.targetRef
          stopped.previousSessionId startKind sha

/-! ### Before the switch -/

/-- The schema that the database of the stopped services has is one the current release reads. -/
def schemaReadable (row : UpdateRow) : Program (Except String Unit) := do
  let states ← attempt (do
    let schema ← ask .appSchemaState
    let manifest ← ask (.releaseManifest row.currentSha)
    pure (schema, manifest))
  match states with
  | .error _ => pure (.error "quiesce_recovery_schema_unverified")
  | .ok (schema, manifest) =>
      assertLease requestId owner row
      if manifest.any fun compatibility ↦
          compatibility.appSchemaReadMin ≤ schema.userVersion ∧
            schema.userVersion ≤ compatibility.appSchemaReadMax ∧ schema.integrityOk ∧
            schema.foreignKeyViolations = 0 then pure (.ok ())
      else pure (.error "quiesce_recovery_schema_incompatible")

/-- What the last look at the restored runtime shows: the pointer names the current release, and
the services and the agent run it. -/
def runtimeRestored (row : UpdateRow) : Program Bool := do
  let pointer ← observe
  let agent ← ask (.mainAgentStatus row.currentSha)
  assertLease requestId owner row
  let retryable := agent.present ∧ agent.name = some policy.mainAgentName ∧
    agent.kind = some "codex" ∧ agent.matchesRelease ∧ agent.paneId ≠ none ∧
    agent.sessionId ≠ none
  if pointer.currentSha = some row.currentSha ∧ mainAgentMatches agent = false ∧ retryable then
    let settledAgent ← ask .waitForMainAgentIdle
    assertLease requestId owner row
    let observed ← ask (.mainAgentStatus row.currentSha)
    assertLease requestId owner row
    let pointer ← observe
    let dispatcher ← ask (.health .dispatcher)
    let slack ← ask (.health .slackAdapter)
    let manifest ← ask (.releaseManifest row.currentSha)
    assertLease requestId owner row
    pure (pointer.currentSha = some row.currentSha ∧
      (settledAgent.paneId ≠ none ∧ settledAgent.sessionId ≠ none ∧
        settledAgent.paneId = observed.paneId ∧ settledAgent.sessionId = observed.sessionId) ∧
      mainAgentMatches observed ∧
      (manifest.any fun compatibility ↦
        healthMatches dispatcher row.currentSha false compatibility ∧
          healthMatches slack row.currentSha true compatibility) ∧
      notificationReporterReady dispatcher slack)
  else pure (pointer.currentSha = some row.currentSha ∧ mainAgentMatches agent)

/-- `restoreQuiescedServices` after its first look at the pointer and the schema. -/
def restoreServices (row : UpdateRow) (causeCode : String)
    (dispatcherQuiesced slackQuiesced : Bool) : Program Unit := do
  let failure ← restartServices requestId owner row .restartCurrentDispatcher .restartCurrentSlack
    causeCode row.currentSha "quiesce_recovery_dispatcher" "quiesce_recovery_slack"
    dispatcherQuiesced slackQuiesced
  if ← restartStoppedAgent policy requestId owner row .stopMainAgent .startPreviousMainAgent
      row.currentSha then
    match failure with
    | some (code, message) => needsReview requestId row code (some message)
    | none =>
        let dispatcherHealthy ← (if dispatcherQuiesced then pure true
          else stillHealthy requestId owner row .dispatcher row.currentSha)
        if dispatcherHealthy then
          let slackHealthy ← (if slackQuiesced then pure true
            else stillHealthy requestId owner row .slackAdapter row.currentSha)
          if slackHealthy then
            if ← runtimeRestored policy requestId owner row then
              complete requestId row failedState
                { lastErrorCode := some (some causeCode)
                  lastErrorMessage := some (some ("Update stopped before pointer mutation; " ++
                    "the current pointer and runtime were restored and verified"))
                  observedActiveSha := some (some row.currentSha) }
            else
              needsReview requestId row "quiesce_recovery_runtime_mismatch"
                (some (s!"Update stopped before pointer mutation ({causeCode}), but " ++
                  "the exact current pointer and main-agent runtime were not verified"))
          else needsReview requestId row "quiesce_recovery_slack_health_failed" none
        else needsReview requestId row "quiesce_recovery_dispatcher_health_failed" none
  else pure ()

def restoreQuiescedServices (row : UpdateRow) (causeCode : String)
    (dispatcherQuiesced slackQuiesced : Bool) : Program Unit := do
  let pointer ← observe
  assertLease requestId owner row
  if pointer.currentSha ≠ some row.currentSha then
    needsReview requestId row "quiesce_recovery_pointer_mismatch" none
  else
    let readable ← (if row.state = .activating then schemaReadable requestId owner row
      else pure (.ok ()))
    match readable with
    | .error code => needsReview requestId row code none
    | .ok () =>
        restoreServices policy requestId owner row causeCode dispatcherQuiesced slackQuiesced

/-! ### Before the switch back -/

/-- The rollback has not switched a pointer; its target runs again, for the operator to review. -/
def restoreTargetAfterDrain (row : UpdateRow) (causeCode : String)
    (dispatcherQuiesced slackQuiesced : Bool) : Program Unit := do
  let failure ← restartServices requestId owner row .restartTargetDispatcherAfterDrain
    .restartTargetSlackAfterDrain causeCode row.targetSha "rollback_drain_recovery_dispatcher"
    "rollback_drain_recovery_slack_adapter" dispatcherQuiesced slackQuiesced
  if ← restartStoppedAgent policy requestId owner row .stopTargetMainAgent
      .restartTargetMainAgentAfterDrain row.targetSha then
    match failure with
    | some (code, message) => needsReview requestId row code (some message)
    | none =>
        let dispatcherHealthy ← (if dispatcherQuiesced then pure true
          else stillHealthy requestId owner row .dispatcher row.targetSha)
        if dispatcherHealthy then
          let slackHealthy ← (if slackQuiesced then pure true
            else stillHealthy requestId owner row .slackAdapter row.targetSha)
          if slackHealthy then
            let pointer ← observe
            assertLease requestId owner row
            if pointer.currentSha ≠ some row.targetSha then
              needsReview requestId row "rollback_drain_recovery_pointer_changed" none
            else
              needsReview requestId row causeCode
                (some ("Rollback was deferred because worker drain was incomplete; " ++
                  "target services were restored and verified"))
          else needsReview requestId row "rollback_drain_slack_health_unverified" none
        else needsReview requestId row "rollback_drain_dispatcher_health_unverified" none
  else pure ()

/-- The drain that a service reports, where it answers. -/
def drainsNow (service : Service) (health : HealthSnapshot) : Program Bool := do
  if health.live ∨ health.observed = some true then
    match ← attempt (ask (.drainStatus service)) with
    | .ok drain => pure drain.quiescing
    | .error _ => pure false
  else pure false

def rollbackQuiescedScope (dispatcher slack : HealthSnapshot) : Program (Bool × Bool) := do
  let dispatcherDrains ← drainsNow .dispatcher dispatcher
  let slackDrains ← drainsNow .slackAdapter slack
  let dispatcherStop ← runtimeOperation requestId .stopTargetDispatcher
  let slackStop ← runtimeOperation requestId .stopTargetSlack
  pure ((dispatcher.live = false ∧ dispatcher.observed = none) ∨
      dispatcherStop.any (·.phase = .observed) ∨ dispatcherDrains,
    (slack.live = false ∧ slack.observed = none) ∨ slackStop.any (·.phase = .observed) ∨
      slackDrains)

/-- `ensureRollbackMainAgentStopped`: the pane of the stopped agent, or the code of the failure. -/
def ensureRollbackMainAgentStopped (row : UpdateRow) (fallbackPaneId : Option String) :
    Program (Except String String) := do
  match ← runtimeOperation requestId .stopTargetMainAgent with
  | some existing =>
      if existing.expectedSha ≠ some row.targetSha ∨
          fallbackPaneId.any (existing.targetRef ≠ ·) = true then
        pure (.error "rollback_main_agent_stop_intent_mismatch")
      else if existing.phase = .rejected then
        pure (.error "rollback_main_agent_stop_rejected")
      else if existing.phase = .prepared then
        pure (.error "stop_target_main_agent_acceptance_unknown")
      else
        let observed ← ask (.mainAgentStatus row.targetSha)
        assertLease requestId owner row
        if observed.present = false then
          recordOperation requestId row .stopTargetMainAgent .observed none
          pure (.ok existing.targetRef)
        else if observed.paneId ≠ some existing.targetRef ∨
            observed.sessionId ≠ existing.previousSessionId ∨ observed.matchesRelease = false ∨
            observed.name ≠ some policy.mainAgentName ∨ observed.kind ≠ some "codex" then
          pure (.error "rollback_main_agent_identity_changed")
        else pure (.error "rollback_main_agent_stop_acceptance_unknown")
  | none =>
      let drained ← ask .waitForMainAgentIdle
      assertLease requestId owner row
      if drained.present = false then
        match fallbackPaneId with
        | none => pure (.error "rollback_main_agent_pane_not_recorded")
        | some paneId =>
            prepareOperation requestId row .stopTargetMainAgent paneId (some row.targetSha) none
            recordOperation requestId row .stopTargetMainAgent .observed none
            pure (.ok paneId)
      else
        let agent ← ask (.mainAgentStatus row.targetSha)
        assertLease requestId owner row
        match agent.paneId, agent.sessionId with
        | some paneId, some sessionId =>
            if agent.paneId ≠ drained.paneId ∨ agent.sessionId ≠ drained.sessionId ∨
                agent.isIdle = false ∨ agent.matchesRelease = false ∨
                agent.name ≠ some policy.mainAgentName ∨ agent.kind ≠ some "codex" ∨
                fallbackPaneId.any (paneId ≠ ·) = true then
              pure (.error (if agent.status = some .blocked then "rollback_main_agent_blocked"
                else "rollback_main_agent_identity_changed"))
            else
              prepareOperation requestId row .stopTargetMainAgent paneId (some row.targetSha)
                (some sessionId)
              let stopped ← ask (.stopMainAgent agent)
              assertLease requestId owner row
              if stopped.outcome = .rejected then
                recordOperation requestId row .stopTargetMainAgent .rejected none
                pure (.error (stopped.errorCode.getD "rollback_main_agent_stop_rejected"))
              else
                match stopped.outcome, stopped.paneId with
                | .done, some stoppedPaneId =>
                    recordOperation requestId row .stopTargetMainAgent .observed none
                    pure (.ok stoppedPaneId)
                | _, _ =>
                    recordOperation requestId row .stopTargetMainAgent .acceptanceUnknown none
                    pure (.error "rollback_main_agent_stop_acceptance_unknown")
        | _, _ =>
            pure (.error (if agent.status = some .blocked then "rollback_main_agent_blocked"
              else "rollback_main_agent_identity_changed"))

end

end Dona.UpdateController
