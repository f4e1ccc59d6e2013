import Dona.Updater.RuntimeCalls

/-!
# The services and the main agent during an update

Each function stops, starts or restores one part of the runtime. It first persists its intent as
a runtime operation, then sends one command, and later runs only observe what came of it.
-/

namespace Dona.UpdateController

open Coroutine Fallible Updater

/-- What the controller reads of its policy file. -/
structure Policy where
  leaseMs : Int
  reconcileMs : Int
  mainAgentName : String
  compatibilityTransitions : List CompatibilityTransition

/-! ### What counts as evidence -/

/-- `health.live && health.build_sha && health.build_sha !== sha` -/
def HealthSnapshot.runsOther (health : HealthSnapshot) (sha : String) : Bool :=
  health.live ∧ health.buildSha.any fun buildSha ↦ buildSha ≠ "" ∧ buildSha ≠ sha

def healthMatches (health : HealthSnapshot) (sha : String) (requireWorkspaces : Bool)
    (compatibility : Compatibility) : Bool :=
  let rangeAbsent := health.appSchemaReadMin = none ∧ health.appSchemaReadMax = none ∧
    health.appSchemaWrite = none
  let rangeMatches := health.appSchemaReadMin = some compatibility.appSchemaReadMin ∧
    health.appSchemaReadMax = some compatibility.appSchemaReadMax ∧
    health.appSchemaWrite = some compatibility.appSchemaWrite
  let legacySingleSchemaProjection :=
    compatibility.appSchemaReadMin = compatibility.appSchemaReadMax ∧
      compatibility.appSchemaWrite = compatibility.appSchemaReadMin ∧ rangeAbsent
  let actualSchemaReadable := health.appSchema.any fun schema ↦
    compatibility.appSchemaReadMin ≤ schema ∧ schema ≤ compatibility.appSchemaReadMax
  health.ready ∧ health.buildSha = some sha ∧ health.protocol = some compatibility.protocol ∧
    actualSchemaReadable ∧ health.config = some compatibility.config ∧
    (legacySingleSchemaProjection ∨ rangeMatches) ∧
    (requireWorkspaces = false ∨ health.workspacesReady = some true)

def serviceMatches (health : HealthSnapshot) (service : Service) (sha : String)
    (compatibility : Compatibility) : Bool :=
  healthMatches health sha (service = .slackAdapter) compatibility

def notificationReporterReady (dispatcher slack : HealthSnapshot) : Bool :=
  dispatcher.updateNotificationProtocol = some 1 ∧ slack.updateNotificationProtocol = some 1

def MainAgentObservation.isIdle (agent : MainAgentObservation) : Bool :=
  agent.status = some .idle ∨ agent.status = some .done

def mainAgentMatches (agent : MainAgentObservation) : Bool :=
  agent.present ∧ agent.name = some "dona-main" ∧ agent.kind = some "codex" ∧
    agent.sessionId ≠ none ∧ agent.interactiveReady ∧ agent.matchesRelease ∧
    agent.status ≠ none ∧ agent.status ≠ some .unknown

def operationMatchesAgent (operation : Option RuntimeOperationRow) (sha : String)
    (agent : MainAgentObservation) : Bool :=
  operation.any fun operation ↦
    operation.phase = .observed ∧ operation.expectedSha = some sha ∧
      agent.paneId = some operation.targetRef ∧ agent.sessionId ≠ none ∧
      agent.sessionId = operation.observedSessionId ∧
      agent.sessionId ≠ operation.previousSessionId ∧ mainAgentMatches agent

theorem failed_isTerminal : UpdateState.failed.isTerminal = true := rfl

theorem succeeded_isTerminal : UpdateState.succeeded.isTerminal = true := rfl

theorem rolledBack_isTerminal : UpdateState.rolledBack.isTerminal = true := rfl

def reviewState : TerminalState := ⟨.needsReview, needsReview_isTerminal⟩

def failedState : TerminalState := ⟨.failed, failed_isTerminal⟩

def succeededState : TerminalState := ⟨.succeeded, succeeded_isTerminal⟩

def rolledBackState : TerminalState := ⟨.rolledBack, rolledBack_isTerminal⟩

section

variable (policy : Policy) (requestId : RequestId) (owner : String)

/-! ### The row of the request -/

def runtimeOperation (kind : RuntimeOperationKind) : Program (Option RuntimeOperationRow) :=
  read fun w ↦ w.db.runtimeOperations.get? (requestId, kind)

def assertLease (row : UpdateRow) : Program Unit :=
  database fun now db ↦ do
    let error := "Lease assertion rejected by fencing token"
    let stored ← orThrow (db.requests.get? requestId) error
    throwIf (stored.fence ≠ row.fence ∨ stored.leaseOwner ≠ some owner ∨
      stored.completedAt ≠ none ∨ stored.leaseExpiresAt.all (· ≤ now) = true) error
    .ok ((), db)

def complete (row : UpdateRow) (state : TerminalState) (fields : MutationFields) : Program Unit :=
  database fun now db ↦ do
    let (_, db) ← db.terminal requestId row.fence state fields now
    .ok ((), db)

def transition (row : UpdateRow) (target : UpdateState) (fields : MutationFields) :
    Program UpdateRow :=
  database fun now ↦ withRow requestId (UpdateDb.transition requestId row.fence target fields now)

def reviewMessage : String :=
  "External command or runtime acceptance could not be proven; no blind retry was attempted"

def needsReview (row : UpdateRow) (code : String) (message : Option String) : Program Unit :=
  complete requestId row reviewState
    { lastErrorCode := some (some code)
      lastErrorMessage := some (some (message.getD reviewMessage)) }

def deferOrReview (row : UpdateRow) (code message : String) : Program Unit := do
  let w ← read id
  match w.db.requests.get? requestId with
  | none => pure ()
  | some current =>
      if current.fence ≠ row.fence ∨ current.completedAt ≠ none then pure ()
      else
        let deadline := current.reconcileDeadline.getD (w.now + policy.reconcileMs)
        if deadline ≤ w.now then
          needsReview requestId current code
            (some (message ++ "; the bounded observation window expired and no write was retried"))
        else
          database fun now db ↦ db.deferReconcile requestId current.fence code message
            (min deadline (now + 1000)) deadline now

def prepareOperation (row : UpdateRow) (kind : RuntimeOperationKind) (targetRef : String)
    (expectedSha previousSessionId : Option String) : Program Unit :=
  database fun now db ↦ do
    let (_, db) ← db.prepareRuntimeOperation requestId row.fence kind targetRef expectedSha
      previousSessionId now
    .ok ((), db)

def recordOperation (row : UpdateRow) (kind : RuntimeOperationKind) (phase : RuntimeOperationPhase)
    (observedSessionId : Option String) : Program Unit :=
  database fun now db ↦
    db.recordRuntimeOperation requestId row.fence kind phase observedSessionId now

/-! ### Services -/

/-- `!health.live && await serviceUnregistered()` -/
def hasExited (service : Service) (health : HealthSnapshot) : Program Bool := do
  if health.live then pure false
  else
    let registered : Bool ← ask (.registered service)
    pure !registered

/-- The wait for a stop that was sent, by this run or by an earlier one. -/
def awaitStopped (row : UpdateRow) (kind : RuntimeOperationKind) (service : Service)
    (code message : String) : Program Bool := do
  let health ← ask (.waitForStopped service)
  assertLease requestId owner row
  if ← hasExited service health then
    assertLease requestId owner row
    recordOperation requestId row kind .observed none
    pure true
  else
    deferOrReview policy requestId row code message
    pure false

def ensureServiceStopped (row : UpdateRow) (kind : RuntimeOperationKind) (service : Service)
    (expectedSha : Option String) : Program Bool := do
  match ← runtimeOperation requestId kind with
  | some existing =>
      if existing.targetRef ≠ service.text ∨ existing.expectedSha ≠ expectedSha then
        needsReview requestId row s!"{kind}_intent_mismatch"
          (some s!"The persisted {kind} operation does not match the requested service and SHA")
        pure false
      else if existing.phase = .rejected then
        needsReview requestId row s!"{kind}_rejected"
          (some s!"The persisted {kind} operation was definitively rejected")
        pure false
      else
        awaitStopped policy requestId owner row kind service s!"{kind}_acceptance_unknown"
          s!"The persisted {kind} intent has not yet been observed"
  | none =>
      let before ← ask (.health service)
      assertLease requestId owner row
      if ← hasExited service before then
        assertLease requestId owner row
        prepareOperation requestId row kind service.text expectedSha none
        recordOperation requestId row kind .observed none
        pure true
      else if expectedSha.any fun sha ↦
          before.buildSha.any fun buildSha ↦ buildSha ≠ "" ∧ buildSha ≠ sha then
        needsReview requestId row s!"{kind}_wrong_sha"
          (some s!"The service selected for {kind} does not match the expected SHA")
        pure false
      else
        prepareOperation requestId row kind service.text expectedSha none
        let result ← ask (.stopService service)
        assertLease requestId owner row
        if result.succeeded then
          recordOperation requestId row kind .accepted none
          awaitStopped policy requestId owner row kind service s!"{kind}_observation_timeout"
            s!"The {kind} command was accepted but service exit was not observed"
        else
          recordOperation requestId row kind result.failurePhase none
          if result.failurePhase = .rejected then
            needsReview requestId row s!"{kind}_rejected"
              (some s!"The {kind} command was definitively rejected")
            pure false
          else
            deferOrReview policy requestId row s!"{kind}_acceptance_unknown"
              s!"The {kind} command acceptance is unknown"
            pure false

inductive StartOutcome
  | started | deferred | wrongSha
  deriving DecidableEq

/-- What the health of a started service shows after the wait for it. -/
def settleStarted (row : UpdateRow) (kind : RuntimeOperationKind) (service : Service) (sha : String)
    (compatibility : Compatibility) (code message : String) (checksSha : Bool) :
    Program StartOutcome := do
  let health ← ask (.waitForHealth service sha)
  assertLease requestId owner row
  if checksSha ∧ health.runsOther sha then pure .wrongSha
  else if serviceMatches health service sha compatibility then
    recordOperation requestId row kind .observed none
    pure .started
  else
    deferOrReview policy requestId row code message
    pure .deferred

def ensureServiceStarted (row : UpdateRow) (kind : RuntimeOperationKind) (service : Service)
    (sha : String) (compatibility : Compatibility) : Program StartOutcome := do
  match ← runtimeOperation requestId kind with
  | some existing =>
      if existing.targetRef ≠ service.text ∨ existing.expectedSha ≠ some sha then
        needsReview requestId row s!"{kind}_intent_mismatch"
          (some s!"The persisted {kind} operation does not match the requested service and SHA")
        pure .deferred
      else if existing.phase = .rejected then
        needsReview requestId row s!"{kind}_rejected"
          (some s!"The persisted {kind} operation was definitively rejected")
        pure .deferred
      else
        settleStarted policy requestId owner row kind service sha compatibility
          s!"{kind}_health_unavailable"
          s!"The persisted {kind} intent has not reached versioned health" true
  | none =>
      let before ← ask (.health service)
      assertLease requestId owner row
      if before.runsOther sha then pure .wrongSha
      else if serviceMatches before service sha compatibility then
        prepareOperation requestId row kind service.text (some sha) none
        recordOperation requestId row kind .observed none
        pure .started
      else
        prepareOperation requestId row kind service.text (some sha) none
        match ← attempt (ask (.startService service)) with
        | .error _ =>
            assertLease requestId owner row
            recordOperation requestId row kind .acceptanceUnknown none
            settleStarted policy requestId owner row kind service sha compatibility
              s!"{kind}_acceptance_unknown"
              s!"The {kind} launch acceptance is unknown and versioned health was not observed"
              false
        | .ok result =>
            assertLease requestId owner row
            if result.succeeded then
              recordOperation requestId row kind .accepted none
              settleStarted policy requestId owner row kind service sha compatibility
                s!"{kind}_health_unavailable"
                s!"The {kind} command was accepted but versioned health was not observed" true
            else
              recordOperation requestId row kind result.failurePhase none
              if result.failurePhase = .rejected then
                needsReview requestId row s!"{kind}_rejected"
                  (some s!"The {kind} command was definitively rejected")
                pure .deferred
              else
                deferOrReview policy requestId row s!"{kind}_acceptance_unknown"
                  s!"The {kind} command acceptance is unknown"
                pure .deferred

/-! ### The main agent -/

inductive AgentStart
  | started | deferred | rejected
  deriving DecidableEq

def ensureTargetMainAgent (row : UpdateRow) (paneId : String) : Program AgentStart := do
  let stop ← runtimeOperation requestId .stopMainAgent
  let previousSessionId := stop.bind (·.previousSessionId)
  match ← runtimeOperation requestId .startTargetMainAgent with
  | some existing =>
      if existing.targetRef ≠ paneId ∨ existing.expectedSha ≠ some row.targetSha ∨
          existing.previousSessionId ≠ previousSessionId then
        needsReview requestId row "main_agent_start_intent_mismatch" none
        pure .deferred
      else if existing.phase = .rejected then pure .rejected
      else
        let observed ← ask (.mainAgentStatus row.targetSha)
        assertLease requestId owner row
        if observed.present ∧ observed.name = some policy.mainAgentName ∧
            observed.kind = some "codex" ∧ observed.paneId = some existing.targetRef ∧
            observed.sessionId ≠ none ∧ observed.sessionId ≠ existing.previousSessionId ∧
            observed.interactiveReady ∧ observed.matchesRelease ∧ observed.status ≠ none ∧
            observed.status ≠ some .unknown then
          recordOperation requestId row .startTargetMainAgent .observed observed.sessionId
          pure .started
        else
          deferOrReview policy requestId row "main_agent_start_observation_timeout"
            "The persisted target main-agent launch has not been observed"
          pure .deferred
  | none =>
      prepareOperation requestId row .startTargetMainAgent paneId (some row.targetSha)
        previousSessionId
      let result ← ask (.startMainAgent paneId row.targetSha previousSessionId)
      assertLease requestId owner row
      if result.outcome = .rejected then
        recordOperation requestId row .startTargetMainAgent .rejected none
        pure .rejected
      else if result.outcome = .done ∧ result.observation.sessionId ≠ none then
        recordOperation requestId row .startTargetMainAgent .observed result.observation.sessionId
        pure .started
      else
        recordOperation requestId row .startTargetMainAgent .acceptanceUnknown none
        deferOrReview policy requestId row "main_agent_start_acceptance_unknown"
          "The target main-agent launch acceptance is unknown"
        pure .deferred

/-- The agent that runs in the pane is the one to be started. -/
def runsInPane (agent : MainAgentObservation) (paneId : String)
    (previousSessionId : Option String) :
    Bool :=
  mainAgentMatches agent ∧ agent.paneId = some paneId ∧ agent.sessionId ≠ previousSessionId

def ensureMainAgentRestarted (row : UpdateRow) (paneId : String) (previousSessionId : Option String)
    (kind : RuntimeOperationKind) (sha : String) : Program Bool := do
  match ← runtimeOperation requestId kind with
  | some existing =>
      if existing.targetRef ≠ paneId ∨ existing.expectedSha ≠ some sha ∨
          existing.previousSessionId ≠ previousSessionId then
        needsReview requestId row "rollback_main_agent_start_intent_mismatch" none
        pure false
      else if existing.phase = .rejected then
        needsReview requestId row "rollback_main_agent_start_rejected" none
        pure false
      else
        let observed ← ask (.mainAgentStatus sha)
        assertLease requestId owner row
        let operation ← runtimeOperation requestId kind
        if operationMatchesAgent operation sha observed then pure true
        else if runsInPane observed paneId previousSessionId then
          recordOperation requestId row kind .observed observed.sessionId
          pure true
        else if observed.present ∧
            (observed.matchesRelease = false ∨ observed.paneId ≠ some paneId) then
          needsReview requestId row "rollback_main_agent_start_identity_changed" none
          pure false
        else
          deferOrReview policy requestId row "rollback_main_agent_start_acceptance_unknown"
            "Persisted previous main-agent launch has not been observed"
          pure false
  | none =>
      let observed ← ask (.mainAgentStatus sha)
      assertLease requestId owner row
      let operation ← runtimeOperation requestId kind
      if operationMatchesAgent operation sha observed then pure true
      else if runsInPane observed paneId previousSessionId then
        prepareOperation requestId row kind paneId (some sha) previousSessionId
        recordOperation requestId row kind .observed observed.sessionId
        pure true
      else if observed.present then
        needsReview requestId row "rollback_main_agent_start_identity_changed" none
        pure false
      else
        prepareOperation requestId row kind paneId (some sha) previousSessionId
        let result ← ask (.startMainAgent paneId sha previousSessionId)
        assertLease requestId owner row
        if result.outcome = .rejected then
          recordOperation requestId row kind .rejected none
          needsReview requestId row (result.errorCode.getD "rollback_main_agent_start_rejected")
            none
          pure false
        else if result.outcome = .done ∧ result.observation.sessionId ≠ none ∧
            result.observation.sessionId ≠ previousSessionId ∧
            result.observation.matchesRelease then
          recordOperation requestId row kind .observed result.observation.sessionId
          pure true
        else
          recordOperation requestId row kind .acceptanceUnknown none
          deferOrReview policy requestId row "rollback_main_agent_start_acceptance_unknown"
            "Previous main-agent launch acceptance is unknown"
          pure false

def ensurePreviousMainAgentStarted (row : UpdateRow) (paneId : String)
    (previousSessionId : Option String) : Program Bool :=
  ensureMainAgentRestarted policy requestId owner row paneId previousSessionId
    .startPreviousMainAgent row.currentSha

end

end Dona.UpdateController
