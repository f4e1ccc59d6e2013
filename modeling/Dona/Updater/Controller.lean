import Dona.Updater.Quiescing

/-!
# The update controller

One request from its approval to its end, as `updater/src/controller.ts` carries it on: `runClaimed`
takes a claimed request through its states, `resumeRollback` switches the pointers back, and
`reconcile` takes up what an earlier run left. A run that dies is taken up by the next one, which
knows only the database, the files and what it observes of the services.
-/

namespace Dona.UpdateController

open Coroutine Fallible Updater

section

variable (policy : Policy) (requestId : RequestId) (owner : String)

def recordActivationGeneration (row : UpdateRow) (generation : ℕ) : Program Unit :=
  database fun now ↦ UpdateDb.recordActivationGeneration requestId row.fence generation now

/-! ### The rollback -/

/-- `pointerAlreadyRolledBack`, with the generation of the receipt. -/
def reversedGeneration (row : UpdateRow) (observation : Observation) : Option ℕ :=
  observation.receipt.bind fun receipt ↦
    if observation.currentSha = some row.currentSha ∧
        observation.previousSha = some row.targetSha ∧ receipt.requestId = requestId ∧
        receipt.fromSha = row.targetSha ∧ receipt.toSha = row.currentSha ∧
        receipt.fence ≤ row.fence ∧
        (receipt.generation = row.activationGeneration ∨
          receipt.generation = row.activationGeneration + 1) then
      some receipt.generation
    else none

/-- `rollbackPointerMutationStarted` -/
def rollbackStarted (row : UpdateRow) (observation : Observation) : Bool :=
  observation.currentSha = some row.currentSha ∧
    (observation.previousSha = some row.currentSha ∨
      observation.previousSha = some row.targetSha) ∧
    isActivation requestId row observation.receipt

/-- The receipt of the switch back, in this generation. -/
def isReversal (row : UpdateRow) (generation : ℕ) (receipt : Option ActivationReceipt) : Bool :=
  receipt.any fun receipt ↦
    receipt.requestId = requestId ∧ receipt.fromSha = row.targetSha ∧
      receipt.toSha = row.currentSha ∧ receipt.generation = generation ∧ receipt.fence ≤ row.fence

def restoreTargetWithin (row : UpdateRow) (causeCode : String) : Program Unit := do
  let dispatcher ← ask (.health .dispatcher)
  let slack ← ask (.health .slackAdapter)
  assertLease requestId owner row
  let (dispatcherQuiesced, slackQuiesced) ← rollbackQuiescedScope requestId dispatcher slack
  assertLease requestId owner row
  restoreTargetAfterDrain policy requestId owner row causeCode dispatcherQuiesced slackQuiesced

/-- The stop of a service of the target; a throw restores the target. -/
def stopTarget (row : UpdateRow) (kind : RuntimeOperationKind) (service : Service) :
    Program Bool := do
  match ← attempt (ensureServiceStopped policy requestId owner row kind service none) with
  | .ok stopped => pure stopped
  | .error _ =>
      assertLease requestId owner row
      restoreTargetAfterDrain policy requestId owner row s!"{kind}_registration_unverified" true
        true
      pure false

/-- The services and the agent of the target stop, once they are drained; nothing when the run
ends here. -/
def stopDrainedTarget (row : UpdateRow) (knownPaneId : Option String) :
    Program (Option (Option String)) := do
  if ← stopTarget policy requestId owner row .stopTargetSlack .slackAdapter then
    if ← stopTarget policy requestId owner row .stopTargetDispatcher .dispatcher then
      let workers ← ask .workerSafety
      assertLease requestId owner row
      if workers.safe then
        match ← ensureRollbackMainAgentStopped policy requestId owner row knownPaneId with
        | .ok paneId => pure (some (some paneId))
        | .error code =>
            restoreTargetAfterDrain policy requestId owner row code true true
            pure none
      else
        restoreTargetAfterDrain policy requestId owner row
          (workers.errorCode.getD "rollback_active_worker_handoff_unavailable") true true
        pure none
    else pure none
  else pure none

/-- The drain of a live service; the scope to restore when it is not drained. -/
def drainService (row : UpdateRow) (service : Service) (health : HealthSnapshot) :
    Program (Option Bool) := do
  if health.live then
    let drain ← ask (.quiesce service)
    assertLease requestId owner row
    if drain.quiescing = false ∨ drain.drained = false ∨
        (service = .slackAdapter ∧ drain.inFlight ≠ 0) ∨
        (service = .dispatcher ∧ drain.unsafeStates ≠ []) then
      pure (some drain.quiescing)
    else pure none
  else pure none

def drainTarget (row : UpdateRow) (knownPaneId : Option String) :
    Program (Option (Option String)) := do
  let recovery ← read fun w ↦ [RuntimeOperationKind.restartTargetDispatcherAfterDrain,
    .restartTargetSlackAfterDrain, .restartTargetMainAgentAfterDrain].find? fun kind ↦
      (w.db.runtimeOperations.get? (requestId, kind)).isSome
  match recovery with
  | some kind =>
      match ← ask (.recoveryEvidence kind) with
      | none => needsReview requestId row "rollback_drain_recovery_intent_unverified" none
      | some evidence =>
          restoreTargetAfterDrain policy requestId owner row evidence.causeCode
            evidence.dispatcherQuiesced evidence.slackQuiesced
      pure none
  | none =>
      let slackHealth ← ask (.health .slackAdapter)
      assertLease requestId owner row
      let slackStop ← runtimeOperation requestId .stopTargetSlack
      let workers ← ask .workerSafety
      assertLease requestId owner row
      if workers.safe = false then
        restoreTargetWithin policy requestId owner row
          (workers.errorCode.getD "rollback_active_worker_handoff_unavailable")
        pure none
      else
        let dispatcherHealth ← ask (.health .dispatcher)
        assertLease requestId owner row
        let originalStop ← runtimeOperation requestId .stopDispatcher
        let targetStart ← runtimeOperation requestId .startTargetDispatcher
        let targetStop ← runtimeOperation requestId .stopTargetDispatcher
        let neverStarted := originalStop.any (·.phase = .observed) ∧ targetStart.isNone
        let stopped := targetStop.any (·.phase = .observed)
        if dispatcherHealth.live = false ∧ ¬neverStarted ∧ stopped = false then
          let (dispatcherQuiesced, slackQuiesced) ←
            rollbackQuiescedScope requestId dispatcherHealth slackHealth
          assertLease requestId owner row
          restoreTargetAfterDrain policy requestId owner row "rollback_dispatcher_unavailable"
            dispatcherQuiesced slackQuiesced
          pure none
        else
          match ← drainService requestId owner row .slackAdapter slackHealth with
          | some quiescing =>
              restoreTargetAfterDrain policy requestId owner row "rollback_slack_drain_incomplete"
                false quiescing
              pure none
          | none =>
              match ← drainService requestId owner row .dispatcher dispatcherHealth with
              | some quiescing =>
                  restoreTargetAfterDrain policy requestId owner row
                    "rollback_dispatcher_drain_incomplete" quiescing
                    (slackHealth.live || slackStop.any (·.phase = .observed))
                  pure none
              | none => stopDrainedTarget policy requestId owner row knownPaneId

/-- What has to be so before the pointers are switched back: the evidence of the activation, and
the stop of the target. -/
def readyToSwitchBack (row : UpdateRow) (observation : Observation) (knownPaneId : Option String) :
    Program (Option (Option String)) := do
  if observation.currentSha = some row.targetSha then
    if observation.previousSha ≠ some row.currentSha ∨
        isActivation requestId row observation.receipt = false then
      deferOrReview policy requestId row "rollback_activation_evidence_mismatch"
        "Rollback requires the exact target/current pointer pair and activation receipt"
      pure none
    else drainTarget policy requestId owner row knownPaneId
  else if rollbackStarted requestId row observation = false then
    deferOrReview policy requestId row "rollback_pointer_observation_mismatch"
      "Rollback pointer is neither the target nor the exact observed previous release"
    pure none
  else
    let observed ← read fun w ↦ [RuntimeOperationKind.stopTargetMainAgent, .stopTargetSlack,
      .stopTargetDispatcher].all fun kind ↦
        (w.db.runtimeOperations.get? (requestId, kind)).any (·.phase = .observed)
    if observed then pure (some knownPaneId)
    else
      deferOrReview policy requestId row "rollback_stop_evidence_incomplete"
        "Partial rollback pointer mutation lacks exact persisted stop evidence"
      pure none

/-- The switch back, if the workers and the registration of the dispatcher still allow it; the
generation it leaves. -/
def switchBack (row : UpdateRow) : Program (Option ℕ) := do
  let workers ← ask .workerSafety
  assertLease requestId owner row
  if workers.safe = false then
    restoreTargetWithin policy requestId owner row
      (workers.errorCode.getD "rollback_active_worker_handoff_unavailable")
    pure none
  else
    match ← attempt (ask (.registered .dispatcher)) with
    | .error _ =>
        assertLease requestId owner row
        restoreTargetAfterDrain policy requestId owner row
          "rollback_dispatcher_registration_unverified" true true
        pure none
    | .ok true =>
        assertLease requestId owner row
        restoreTargetAfterDrain policy requestId owner row
          "rollback_dispatcher_registration_restored" false true
        pure none
    | .ok false =>
        assertLease requestId owner row
        let receipt ← rollbackFiles requestId row
        assertLease requestId owner row
        recordActivationGeneration requestId row receipt.generation
        let observation ← observe
        assertLease requestId owner row
        if observation.currentSha = some row.currentSha ∧
            observation.previousSha = some row.targetSha ∧
            isReversal requestId row receipt.generation observation.receipt then
          pure (some receipt.generation)
        else
          deferOrReview policy requestId row "rollback_activation_unconfirmed"
            "Rollback pointer receipt was not observed exactly"
          pure none

/-- The look at the runtime that ends a rollback. -/
def verifyPrevious (row : UpdateRow) (compatibility : Compatibility) : Program Unit := do
  let pointer ← observe
  let dispatcher ← ask (.health .dispatcher)
  let slack ← ask (.health .slackAdapter)
  let agent ← ask (.mainAgentStatus row.currentSha)
  assertLease requestId owner row
  let operation ← runtimeOperation requestId .startPreviousMainAgent
  if pointer.currentSha = some row.currentSha ∧ pointer.previousSha = some row.targetSha ∧
      isReversal requestId row row.activationGeneration pointer.receipt ∧
      healthMatches dispatcher row.currentSha false compatibility ∧
      healthMatches slack row.currentSha true compatibility ∧
      operationMatchesAgent operation row.currentSha agent then
    complete requestId row rolledBackState
      { lastErrorCode := some row.lastErrorCode
        lastErrorMessage := some (some "Target regression triggered one compatible rollback")
        activationGeneration := some row.activationGeneration
        observedActiveSha := some (some row.currentSha) }
  else
    deferOrReview policy requestId row "rollback_previous_health_failed"
      "Previous runtime has not reached the exact verified state"

def startPrevious (row : UpdateRow) (knownPaneId : Option String)
    (compatibility : Compatibility) : Program Unit := do
  let stopTarget ← runtimeOperation requestId .stopTargetMainAgent
  let originalStop ← runtimeOperation requestId .stopMainAgent
  let targetStart ← runtimeOperation requestId .startTargetMainAgent
  match (knownPaneId.or (stopTarget.map (·.targetRef))).or (originalStop.map (·.targetRef)) with
  | none => needsReview requestId row "rollback_main_agent_pane_not_recorded" none
  | some paneId =>
      let previousSessionId := ((stopTarget.bind (·.previousSessionId)).or
        (targetStart.bind (·.observedSessionId))).or (originalStop.bind (·.previousSessionId))
      if ← ensurePreviousMainAgentStarted policy requestId owner row paneId previousSessionId then
        match ← ensureServiceStarted policy requestId owner row .startPreviousDispatcher .dispatcher
            row.currentSha compatibility with
        | .wrongSha => needsReview requestId row "rollback_dispatcher_wrong_sha" none
        | .deferred => pure ()
        | .started =>
            match ← ensureServiceStarted policy requestId owner row .startPreviousSlack
                .slackAdapter row.currentSha compatibility with
            | .wrongSha => needsReview requestId row "rollback_slack_wrong_sha" none
            | .deferred => pure ()
            | .started => verifyPrevious policy requestId owner row compatibility
      else pure ()

def resumeRollback (row : UpdateRow) (knownPaneId : Option String) : Program Unit := do
  assertLease requestId owner row
  let manifest ← ask (.releaseManifest row.currentSha)
  assertLease requestId owner row
  match manifest with
  | none => needsReview requestId row "rollback_previous_release_manifest_missing" none
  | some compatibility =>
      let observation ← observe
      match reversedGeneration requestId row observation with
      | some generation =>
          recordActivationGeneration requestId row generation
          startPrevious policy requestId owner { row with activationGeneration := generation }
            knownPaneId compatibility
      | none =>
          match ← readyToSwitchBack policy requestId owner row observation knownPaneId with
          | none => pure ()
          | some knownPaneId =>
              match ← switchBack policy requestId owner row with
              | none => pure ()
              | some generation =>
                  startPrevious policy requestId owner
                    { row with activationGeneration := generation } knownPaneId compatibility

def rollback (row : UpdateRow) (reason : String) (operatorApproved : Bool)
    (knownPaneId : Option String) : Program Unit := do
  assertLease requestId owner row
  if row.rollbackCompatible = false ∨ (operatorApproved = false ∧ 1 < row.restartAttempts) then
    needsReview requestId row "rollback_not_safe_or_circuit_open" none
  else
    let rolling ← transition requestId row .rollingBack
      { lastErrorCode := some (some reason)
        lastErrorMessage := some (some "Target regression was observed by versioned local health") }
    resumeRollback policy requestId owner rolling knownPaneId

/-! ### The states of a claimed request -/

/-- The state `preparing`: the planned release is still active, and the target is built. -/
def runPreparing (row : UpdateRow) : Program UpdateRow := do
  if row.state = .preparing then
    let current ← resolvePointer .current
    assertLease requestId owner row
    if current ≠ row.currentSha then throw "planned_current_release_is_no_longer_active"
    else
      ask (.prepareRelease row.targetSha)
      assertLease requestId owner row
      transition requestId row .staged {}
  else pure row

def approvalEnded (row : UpdateRow) : Program Bool := do
  match row.approvalEventId with
  | none => pure false
  | some eventId => ask (.eventTerminal eventId)

def runStaged (row : UpdateRow) : Program (Option UpdateRow) := do
  if row.state = .staged then
    let ended ← approvalEnded row
    if ended = false then throw "approval_event_terminal_barrier_not_met"
    else
      let workers ← ask .workerSafety
      assertLease requestId owner row
      if workers.safe then
        let row ← transition requestId row .quiescing {}
        pure (some row)
      else
        let code := workers.errorCode.getD "active_worker_handoff_unavailable"
        complete requestId row failedState
          { lastErrorCode := some (some code)
            lastErrorMessage := some (some
              "Active worker handoff was not proven before quiesce; runtime was not stopped")
            observedActiveSha := some (some row.currentSha) }
        pure none
  else pure (some row)

/-- The transition to `activating`, which one run makes. -/
def beginActivation (run : ℕ) (row : UpdateRow) : Program UpdateRow :=
  transact fun w ↦ do
    let (activating, db) ←
      withRow requestId (UpdateDb.transition requestId row.fence .activating {} w.now) w.db
    .ok (activating, { w with db := db, activator := some run })

def runQuiescing (run : ℕ) (row : UpdateRow) (paneId : Option String) :
    Program (Option (UpdateRow × Option String)) := do
  if row.state = .quiescing then
    match ← quiesceServices policy requestId owner row paneId with
    | .error (.restore causeCode dispatcherQuiesced slackQuiesced) =>
        restoreQuiescedServices policy requestId owner row causeCode dispatcherQuiesced
          slackQuiesced
        pure none
    | .error (.deferred code message) =>
        deferOrReview policy requestId row code message
        pure none
    | .error (.review code) =>
        needsReview requestId row code none
        pure none
    | .error .ended => pure none
    | .ok stoppedPaneId =>
        let row ← beginActivation requestId run row
        pure (some (row, stoppedPaneId))
  else pure (some (row, paneId))

/-- The switch of the pointers to the target. -/
def switchToTarget (row : UpdateRow) : Program UpdateRow := do
  let receipt ← activate requestId row
  assertLease requestId owner row
  recordActivationGeneration requestId row receipt.generation
  transition requestId row .restarting { activationGeneration := some receipt.generation }

def runActivating (row : UpdateRow) : Program (Option UpdateRow) := do
  if row.state = .activating then
    let recovery ← read fun w ↦ persistedRecovery requestId w.db
    match recovery with
    | some kind =>
        match ← ask (.recoveryEvidence kind) with
        | none => needsReview requestId row "pre_activation_recovery_intent_unverified" none
        | some evidence =>
            restoreQuiescedServices policy requestId owner row evidence.causeCode
              evidence.dispatcherQuiesced evidence.slackQuiesced
        pure none
    | none =>
        match ← attempt (ask (.registered .dispatcher)) with
        | .error _ =>
            assertLease requestId owner row
            restoreQuiescedServices policy requestId owner row "dispatcher_registration_unverified"
              true true
            pure none
        | .ok true =>
            assertLease requestId owner row
            restoreQuiescedServices policy requestId owner row
              "dispatcher_registration_restored_before_activation" false true
            pure none
        | .ok false =>
            assertLease requestId owner row
            let workers ← ask .workerSafety
            assertLease requestId owner row
            if workers.safe then
              let row ← switchToTarget requestId owner row
              pure (some row)
            else
              restoreQuiescedServices policy requestId owner row
                (workers.errorCode.getD "active_worker_handoff_unavailable") true true
              pure none
  else pure (some row)

/-- The target's agent and services start, or the request is rolled back. -/
def startTarget (row : UpdateRow) (paneId : String) : Program Bool := do
  match ← ensureTargetMainAgent policy requestId owner row paneId with
  | .deferred => pure false
  | .rejected =>
      rollback policy requestId owner row "main_agent_target_start_failed" false (some paneId)
      pure false
  | .started =>
      match ← ensureServiceStarted policy requestId owner row .startTargetDispatcher .dispatcher
          row.targetSha row.compatibility with
      | .deferred => pure false
      | .wrongSha =>
          rollback policy requestId owner row "dispatcher_wrong_target_sha" false none
          pure false
      | .started =>
          match ← ensureServiceStarted policy requestId owner row .startTargetSlack .slackAdapter
              row.targetSha row.compatibility with
          | .deferred => pure false
          | .wrongSha =>
              rollback policy requestId owner row "slack_wrong_target_sha" false none
              pure false
          | .started => pure true

def countRestart (row : UpdateRow) : Program Unit := do
  match ← runtimeOperation requestId .startTargetMainAgent with
  | some _ => pure ()
  | none => database fun now ↦ UpdateDb.incrementRestartAttempts requestId row.fence now

def runRestarting (row : UpdateRow) (paneId : Option String) : Program (Option UpdateRow) := do
  if row.state = .restarting then
    countRestart requestId row
    match paneId with
    | none =>
        needsReview requestId row "main_agent_pane_not_recorded" none
        pure none
    | some paneId =>
        if ← startTarget policy requestId owner row paneId then
          let row ← transition requestId row .verifying {}
          pure (some row)
        else pure none
  else pure (some row)

def runVerifying (row : UpdateRow) : Program Unit := do
  if row.state = .verifying then
    let pointer ← observe
    let dispatcher ← ask (.health .dispatcher)
    let slack ← ask (.health .slackAdapter)
    let agent ← ask (.mainAgentStatus row.targetSha)
    assertLease requestId owner row
    let operation ← runtimeOperation requestId .startTargetMainAgent
    if pointer.currentSha ≠ some row.targetSha ∨ pointer.previousSha ≠ some row.currentSha ∨
        isActivation requestId row pointer.receipt = false then
      deferOrReview policy requestId row "activation_evidence_mismatch"
        "Target pointer and activation receipt do not match the exact update"
    else if dispatcher.runsOther row.targetSha then
      rollback policy requestId owner row "dispatcher_wrong_target_sha" false none
    else if slack.runsOther row.targetSha then
      rollback policy requestId owner row "slack_wrong_target_sha" false none
    else if healthMatches dispatcher row.targetSha false row.compatibility ∧
        healthMatches slack row.targetSha true row.compatibility ∧
        notificationReporterReady dispatcher slack ∧
        operationMatchesAgent operation row.targetSha agent then
      complete requestId row succeededState { observedActiveSha := some (some row.targetSha) }
    else
      deferOrReview policy requestId row "ambiguous_runtime_observation"
        "Target runtime has not reached the exact verified state"
  else pure ()

/-- The states from `activating` on. -/
def runActivated (row : UpdateRow) (paneId : Option String) : Program Unit := do
  match ← runActivating policy requestId owner row with
  | none => pure ()
  | some row =>
      match ← runRestarting policy requestId owner row paneId with
      | none => pure ()
      | some row => runVerifying policy requestId owner row

def runClaimed (run : ℕ) (row : UpdateRow) : Program Unit := do
  let stop ← runtimeOperation requestId .stopMainAgent
  assertLease requestId owner row
  if row.transition.any fun persisted ↦
      policy.compatibilityTransitions.contains persisted = false then
    needsReview requestId row "approved_transition_no_longer_matches_policy" none
  else if row.state = .rollingBack then resumeRollback policy requestId owner row none
  else
    let row ← runPreparing requestId owner row
    match ← runStaged requestId owner row with
    | none => pure ()
    | some row =>
        match ← runQuiescing policy requestId owner run row (stop.map (·.targetRef)) with
        | none => pure ()
        | some (row, paneId) => runActivated policy requestId owner row paneId

/-! ### Reconciliation -/

/-- What the runtime shows of a request under review, if it shows an end at all. -/
def observeTerminal (row : UpdateRow) :
    Program (Option (UpdateDb.EvidenceStatus × String)) := do
  let pointer ← observe
  match pointer.currentSha with
  | none => pure none
  | some activeSha =>
      let dispatcher ← ask (.health .dispatcher)
      let slack ← ask (.health .slackAdapter)
      let agent ← ask (.mainAgentStatus activeSha)
      let manifest ← ask (.releaseManifest activeSha)
      let operation ← runtimeOperation requestId .startTargetMainAgent
      let healthy := (manifest.any fun compatibility ↦
        healthMatches dispatcher activeSha false compatibility ∧
          healthMatches slack activeSha true compatibility) ∧
        notificationReporterReady dispatcher slack
      if ¬healthy then pure none
      else if activeSha = row.targetSha then
        if pointer.previousSha = some row.currentSha ∧
            isActivation requestId row pointer.receipt ∧
            operationMatchesAgent operation row.targetSha agent then
          pure (some (.succeeded, activeSha))
        else pure none
      else if activeSha = row.currentSha ∧ pointer.previousSha = some row.targetSha ∧
          isReversal requestId row row.activationGeneration pointer.receipt ∧
          mainAgentMatches agent then
        pure (some (.rolledBack, activeSha))
      else pure none

def reconcileReview (run : ℕ) (row : UpdateRow) : Program Unit := do
  match ← observeTerminal requestId row with
  | none => pure ()
  | some (status, activeSha) =>
      let settled ← read fun w ↦ w.db.terminalOutboxSettledForCorrection requestId
      if settled then
        claiming run (fun _ ↦ true) fun now db ↦ do
          let (_, db) ← db.completeEvidenceReconcile requestId status activeSha now
          .ok ((), db)
      else pure ()

def activeManifest (pointer : Observation) : Program (Option Compatibility) :=
  match pointer.currentSha with
  | none => pure none
  | some sha => ask (.releaseManifest sha)

/-- A claimed request that no other branch takes up, by what is observed of the runtime. -/
def reconcileObserved (run : ℕ) (claimed : UpdateRow) (pointer : Observation) : Program Unit := do
  let dispatcher ← ask (.health .dispatcher)
  let slack ← ask (.health .slackAdapter)
  let agent ← ask (.mainAgentStatus (pointer.currentSha.getD ""))
  let manifest ← activeManifest pointer
  let operation ← runtimeOperation requestId .startTargetMainAgent
  if pointer.currentSha = some claimed.targetSha ∧
      pointer.previousSha = some claimed.currentSha ∧
      isActivation requestId claimed pointer.receipt ∧
      healthMatches dispatcher claimed.targetSha false claimed.compatibility ∧
      healthMatches slack claimed.targetSha true claimed.compatibility ∧
      notificationReporterReady dispatcher slack ∧
      operationMatchesAgent operation claimed.targetSha agent then
    complete requestId claimed succeededState {}
  else if pointer.currentSha = some claimed.currentSha ∧
      pointer.previousSha = some claimed.targetSha ∧
      isReversal requestId claimed claimed.activationGeneration pointer.receipt ∧
      (manifest.any fun compatibility ↦
        healthMatches dispatcher claimed.currentSha false compatibility ∧
          healthMatches slack claimed.currentSha true compatibility) ∧
      notificationReporterReady dispatcher slack ∧ mainAgentMatches agent then
    complete requestId claimed rolledBackState {}
  else if pointer.currentSha ≠ some claimed.currentSha ∧
      pointer.currentSha ≠ some claimed.targetSha then
    needsReview requestId claimed "pointer_observation_mismatch"
      (some "Observed current pointer is neither the planned current nor target SHA")
  else
    match reopenedGeneration claimed pointer with
    | some generation =>
        let restarting ← transition requestId claimed .restarting
          { activationGeneration := some generation }
        runClaimed policy requestId owner run restarting
    | none =>
        if claimed.state = .activating ∨ claimed.state = .quiescing then
          deferOrReview policy requestId claimed "ambiguous_runtime_observation"
            "Pointer and versioned health do not establish a safe terminal state"
        else pure ()
where
  /-- The generation of the receipt that shows an activation which the row may not record yet. -/
  reopenedGeneration (claimed : UpdateRow) (pointer : Observation) : Option ℕ :=
    pointer.receipt.bind fun receipt ↦
      if claimed.state = .activating ∧ pointer.currentSha = some claimed.targetSha ∧
          pointer.previousSha = some claimed.currentSha ∧ receipt.requestId = requestId ∧
          receipt.fromSha = claimed.currentSha ∧ receipt.toSha = claimed.targetSha ∧
          receipt.fence ≤ claimed.fence ∧
          (receipt.generation = claimed.activationGeneration ∨
            receipt.generation = claimed.activationGeneration + 1) then
        some receipt.generation
      else none

def reconcileClaimed (run : ℕ) (claimed : UpdateRow) : Program Unit := do
  let pointer ← observe
  let w ← read id
  let unswitched := claimed.state = .activating ∧ pointer.currentSha = some claimed.currentSha
  let stopped := [RuntimeOperationKind.stopMainAgent, .stopSlack, .stopDispatcher].all fun kind ↦
    (w.db.runtimeOperations.get? (requestId, kind)).any (·.phase = .observed)
  if [UpdateState.quiescing, .restarting, .verifying, .rollingBack].contains claimed.state ∨
      (unswitched ∧ (persistedRecovery requestId w.db).isSome) then
    runClaimed policy requestId owner run claimed
  else if unswitched ∧ stopped then
    restoreQuiescedServices policy requestId owner claimed "pre_activation_stop_recovery" true true
  else reconcileObserved policy requestId owner run claimed pointer

def claim (run : ℕ) : Program (Option UpdateRow) :=
  claiming run Option.isSome fun now ↦ UpdateDb.claim requestId owner policy.leaseMs now

def reconcile (run : ℕ) : Program Unit := do
  let existing ← read fun w ↦ w.db.requests.get? requestId
  match existing with
  | none => throw s!"Update request {requestId} was not found"
  | some row =>
      if [UpdateState.succeeded, .failed, .rolledBack, .cancelled].contains row.state then pure ()
      else if row.state = .needsReview then reconcileReview requestId run row
      else
        match ← claim policy requestId owner run with
        | none => throw "Update request is leased by another controller"
        | some claimed => reconcileClaimed policy requestId owner run claimed

def operatorRollback (run : ℕ) (planHash : CanonicalPlan) : Program Unit := do
  let row ← claiming run (fun _ ↦ true) fun now ↦ withRow requestId
    (UpdateDb.beginOperatorRollback requestId planHash owner policy.leaseMs now)
  let pointer ← observe
  if pointer.currentSha ≠ some row.targetSha ∨ pointer.previousSha ≠ some row.currentSha then
    needsReview requestId row "operator_rollback_pointer_mismatch"
      (some "Exact target/current pointer pair was not observed; rollback was not attempted")
    throw "Operator rollback refused because pointer observation does not match the exact plan"
  else
    rollback policy requestId owner row "operator_approved_emergency_rollback" true none

/-! ### The service loop -/

def currentRuntimeVerified (row : UpdateRow) : Program Bool := do
  let verified ← attempt (do
    let pointer ← observe
    let dispatcher ← ask (.health .dispatcher)
    let slack ← ask (.health .slackAdapter)
    let agent ← ask (.mainAgentStatus row.currentSha)
    let manifest ← ask (.releaseManifest row.currentSha)
    pure ((pointer.currentSha = some row.currentSha ∧
      (manifest.any fun compatibility ↦
        healthMatches dispatcher row.currentSha false compatibility ∧
          healthMatches slack row.currentSha true compatibility) ∧
      mainAgentMatches agent : Bool)))
  pure (verified.toOption.getD false)

def handleUnexpected (fence : ℕ) (error : String) : Program Unit := do
  let stored ← read fun w ↦ w.db.requests.get? requestId
  match stored with
  | none => pure ()
  | some row =>
      if row.fence ≠ fence ∨ row.state.isTerminal = true then pure ()
      else
        let mutated := [UpdateState.quiescing, .activating, .restarting, .verifying,
          .rollingBack].contains row.state
        let verified ← (if mutated then pure false else currentRuntimeVerified row)
        let code := if mutated then "runtime_operation_failed"
          else if verified then "pre_activation_failed" else "pre_activation_runtime_unverified"
        complete requestId row (if verified then failedState else reviewState)
          { lastErrorCode := some (some code)
            lastErrorMessage := some (some (if verified then error
              else error ++ "; the current runtime could not be verified exactly"))
            observedActiveSha := some (if verified then some row.currentSha else none) }

/-- The approval's event has ended, which a request must wait for before its first claim. -/
def mayBeClaimed (candidate : UpdateRow) : Program Bool := do
  if candidate.state = .approved then
    match candidate.approvalEventId with
    | none => throw "approved_request_has_no_persisted_approval_event"
    | some eventId => ask (.eventTerminal eventId)
  else pure true

/-- A round of the service loop, as far as it is about this request. -/
def processNext (run : ℕ) : Program Unit := do
  let w ← read id
  match w.db.nextRunnable w.now with
  | none =>
      match w.db.reconcilableNeedsReview with
      | [] => pure ()
      | review :: _ =>
          if review.1 = requestId then reconcile policy requestId owner run else pure ()
  | some (id, candidate) =>
      if w.db.hasUnreportedTerminalNotification ∨ id ≠ requestId then pure ()
      else if [UpdateState.quiescing, .activating, .restarting, .verifying,
          .rollingBack].contains candidate.state then
        reconcile policy requestId owner run
      else
        if ← mayBeClaimed candidate then
          match ← claim policy requestId owner run with
          | none => pure ()
          | some row =>
              tryCatch (runClaimed policy requestId owner run row)
                (handleUnexpected requestId row.fence)
        else pure ()

end

end Dona.UpdateController
