import Dona.Jobs.Handoffs

/-!
# What an observation of a live session says

`live-session.ts`. The answer to a query of Herdr is classified, and compared with what the
database says of the job. A hash of an identity is represented by what it is computed from.
-/

namespace Dona.LiveSession

inductive AgentStatus
  | idle | done | working | blocked | unknown
  deriving DecidableEq

def AgentStatus.text : AgentStatus → String
  | idle => "idle"
  | done => "done"
  | working => "working"
  | blocked => "blocked"
  | unknown => "unknown"

inductive QueryStatus
  | observed | notAddressable | agentNotFound | queryTimeout | transportUnavailable
  | malformedResponse | dispatcherRestarted
  deriving DecidableEq

def QueryStatus.text : QueryStatus → String
  | observed => "observed"
  | notAddressable => "not_addressable"
  | agentNotFound => "agent_not_found"
  | queryTimeout => "query_timeout"
  | transportUnavailable => "transport_unavailable"
  | malformedResponse => "malformed_response"
  | dispatcherRestarted => "dispatcher_restarted"

inductive ReconciliationState
  | promptAcceptancePossibleRunning | consistentRunning | terminalResultAvailable
  | terminalResultMissing | durableLiveConflict | identityConflict | sessionAbsent
  | notAddressable | unknown
  deriving DecidableEq

inductive Confidence
  | boundedObservation | failClosed
  deriving DecidableEq

inductive SafeNextAction
  | reviewExistingSession | reviewDurableResult | doNotRetry
  deriving DecidableEq

/-! ### Identities -/

/-- `JSON.stringify([workspace, pane, agent, session])` -/
structure SessionKey where
  herdrWorkspaceId : Option String
  herdrPaneId : Option String
  agentName : Option String
  herdrAgentSessionId : String
  deriving DecidableEq

/-- The columns of a job that name its agent. -/
structure JobRuntime where
  herdrWorkspaceId : Option String
  herdrPaneId : Option String
  agentName : String
  deriving DecidableEq

/-- A row of `job_live_session_identities`; its key is the job. A row of the first writer has no
nonce. -/
structure LiveSessionIdentityRow where
  herdrAgentSessionId : String
  herdrWorkspaceId : Option String
  herdrPaneId : Option String
  agentName : Option String
  maxStateChangeSeq : Option ℕ := none
  recordedAt : Timestamp
  generationNonce : Option Uuid
  deriving DecidableEq

/-- What identifies the generation of an identity: all of it but the highest sequence. -/
structure IdentityGeneration where
  herdrAgentSessionId : String
  herdrWorkspaceId : Option String
  herdrPaneId : Option String
  agentName : Option String
  recordedAt : Timestamp
  generationNonce : Option Uuid
  deriving DecidableEq

def LiveSessionIdentityRow.generation (identity : LiveSessionIdentityRow) : IdentityGeneration where
  herdrAgentSessionId := identity.herdrAgentSessionId
  herdrWorkspaceId := identity.herdrWorkspaceId
  herdrPaneId := identity.herdrPaneId
  agentName := identity.agentName
  recordedAt := identity.recordedAt
  generationNonce := identity.generationNonce

/-- What the hash of a generation is computed from. -/
abbrev GenerationSha256 := IdentityGeneration × JobRuntime

/-- `!text` -/
def isFalsy (text : Option String) : Bool := text = none ∨ text = some ""

def expectedLiveSessionIdentity (job : JobRuntime) (identity : Option LiveSessionIdentityRow) :
    Option SessionKey :=
  identity.bind fun identity ↦
    if isFalsy job.herdrWorkspaceId ∨ isFalsy job.herdrPaneId ∨ identity.herdrAgentSessionId = "" then
      none
    else if identity.herdrWorkspaceId ≠ job.herdrWorkspaceId ∨
        identity.herdrPaneId ≠ job.herdrPaneId ∨ identity.agentName ≠ some job.agentName then
      none
    else some ⟨job.herdrWorkspaceId, job.herdrPaneId, some job.agentName,
      identity.herdrAgentSessionId⟩

def liveSessionIdentityGenerationSha256 (job : JobRuntime)
    (identity : Option LiveSessionIdentityRow) : Option GenerationSha256 :=
  identity.bind fun identity ↦
    if identity.generationNonce = none ∨ expectedLiveSessionIdentity job (some identity) = none then
      none
    else some (identity.generation, job)

/-! ### Queries -/

structure HerdrCommandResult where
  ok : Bool
  timedOut : Bool := false
  aborted : Bool := false
  errorCode : Option String := none
  agentStatus : Option AgentStatus := none
  agentIdentity : Option SessionKey := none
  stateChangeSeq : Option ℕ := none

structure Classified where
  queryStatus : QueryStatus
  sessionState : Option AgentStatus := none
  identityMatch : Option Bool := none
  sequence : Option ℕ := none

def classifyQuery (result : Option HerdrCommandResult) (expectedIdentity : Option SessionKey) :
    Classified :=
  match expectedIdentity, result with
  | none, _ => { queryStatus := .notAddressable }
  | some _, none => { queryStatus := .dispatcherRestarted }
  | some expected, some result =>
      if result.aborted then { queryStatus := .dispatcherRestarted }
      else if result.timedOut then { queryStatus := .queryTimeout }
      else if result.ok = false ∧ ["agent_not_found", "agent_not_running", "not_found"].contains
          (result.errorCode.getD "") then { queryStatus := .agentNotFound }
      else if result.ok = false then { queryStatus := .transportUnavailable }
      else match result.agentIdentity, result.agentStatus, result.stateChangeSeq with
        | some identity, some status, some sequence =>
            { queryStatus := .observed
              sessionState := some status
              identityMatch := some (identity = expected)
              sequence := some sequence }
        | _, _, _ => { queryStatus := .malformedResponse }

/-! ### Reconciliation -/

structure Reconciliation where
  state : ReconciliationState
  confidence : Confidence
  reasonCodes : List String
  safeNextAction : SafeNextAction

/-- What the job is in doubt for. -/
def failClosed (state : ReconciliationState) (reasonCodes : List String) : Reconciliation where
  state := state
  confidence := .failClosed
  reasonCodes := reasonCodes
  safeNextAction := .doNotRetry

structure ObservationInput where
  jobId : JobId
  before : JobRow
  after : JobRow
  bootId : String
  startedAt : Timestamp
  completedAt : Timestamp
  expectedIdentity : Option SessionKey
  identityGenerationChanged : Bool
  previousStateChangeSeq : Option ℕ
  result : Option HerdrCommandResult

/-- The reasons that every decision has. -/
def commonReasons (input : ObservationInput) (query : Classified) : List String :=
  ["durable_" ++ input.after.status.text, "live_" ++ query.queryStatus.text] ++
    if input.before.status ≠ input.after.status ∨
        input.before.result.isSome ≠ input.after.result.isSome then ["durable_changed_during_query"]
    else []

/-- What an agent means that has the expected identity. -/
def reconcileObserved (input : ObservationInput) (query : Classified) (reasons : List String) :
    Reconciliation :=
  let reasons := reasons ++ ["same_identity", "live_" ++ (query.sessionState.getD .unknown).text]
  let liveRunning := query.sessionState = some .working ∨ query.sessionState = some .blocked
  let liveTerminal := query.sessionState = some .idle ∨ query.sessionState = some .done
  if input.after.status.isTerminal ∧ liveRunning then
    ⟨.durableLiveConflict, .failClosed, reasons, .reviewExistingSession⟩
  else if liveTerminal ∧ input.after.result.isSome then
    ⟨.terminalResultAvailable, .boundedObservation, reasons ++ ["result_present"],
      .reviewDurableResult⟩
  else if liveTerminal then failClosed .terminalResultMissing (reasons ++ ["result_absent"])
  else if liveRunning ∧ input.after.promptAcceptedAt.isSome then
    ⟨.consistentRunning, .boundedObservation, reasons ++ ["prompt_acceptance_recorded"],
      .reviewExistingSession⟩
  else if liveRunning ∧ [JobStatus.dispatching, .needsReview].contains input.after.status ∧
      input.after.result = none then
    ⟨.promptAcceptancePossibleRunning, .boundedObservation,
      reasons ++ ["prompt_acceptance_unproven", "result_absent"], .reviewExistingSession⟩
  else failClosed .unknown reasons

def reconcile (input : ObservationInput) (query : Classified) : Reconciliation :=
  let reasons := commonReasons input query
  if input.identityGenerationChanged then
    failClosed .unknown (reasons ++ ["identity_generation_changed_during_query"])
  else if query.queryStatus = .notAddressable then failClosed .notAddressable reasons
  else if query.queryStatus = .agentNotFound then failClosed .sessionAbsent reasons
  else if query.queryStatus ≠ .observed then failClosed .unknown reasons
  else if query.identityMatch ≠ some true then
    failClosed .identityConflict (reasons ++ ["identity_mismatch"])
  else if input.previousStateChangeSeq.any fun previous ↦ query.sequence.any (· < previous) then
    failClosed .unknown (reasons ++ ["same_identity", "state_sequence_regressed"])
  else reconcileObserved input query reasons

/-! ### Receipts -/

/-- A row of `live_session_query_receipts`, without the identifier that is drawn for it. -/
structure LiveSessionReceipt where
  jobId : JobId
  observedAt : Timestamp
  bootId : String
  identityGenerationSha256 : Option GenerationSha256
  durableStatusBefore : JobStatus
  durableStatusAfter : JobStatus
  resultPresentBefore : Bool
  resultPresentAfter : Bool
  queryStatus : QueryStatus
  sessionState : Option AgentStatus
  identityMatch : Option Bool
  stateChangeSeq : Option ℕ
  freshnessMs : Int
  reconciliation : Reconciliation

def buildLiveSessionReceipt (input : ObservationInput) : LiveSessionReceipt :=
  let classified := classifyQuery input.result input.expectedIdentity
  let query := if input.identityGenerationChanged then { classified with identityMatch := none }
    else classified
  { jobId := input.jobId
    observedAt := input.completedAt
    bootId := input.bootId
    identityGenerationSha256 := none
    durableStatusBefore := input.before.status
    durableStatusAfter := input.after.status
    resultPresentBefore := input.before.result.isSome
    resultPresentAfter := input.after.result.isSome
    queryStatus := query.queryStatus
    sessionState := query.sessionState
    identityMatch := query.identityMatch
    stateChangeSeq := query.sequence
    freshnessMs := max 0 (input.completedAt.millis - input.startedAt.millis)
    reconciliation := reconcile input query }

end Dona.LiveSession
