import Dona.Schema
import Dona.Library.JsonParser
import Dona.Scheduler.StrictJson
import Mathlib.Algebra.Order.Ring.Int

/-!
# Capabilities to publish a result

`JobResultPublishCapabilities`. A worker holds a token that lets it publish the result of one job.
A token is drawn when the job is dispatched, or derived from the token before it when that is
renewed; it ends by its time, by a revocation, or with the next token that is drawn for the job.
A call runs to its end at once, so that the clocks and the job rows stand still while it runs.
-/

namespace Dona.ResultPublish

open Json (quote)
open Scheduler (byteLength)

inductive JobResultPublishErrorCode
  | invalidRequest | payloadTooLarge | contentRequiresRedaction | capabilityInvalid
  | capabilityExpired | capabilityRevoked | workerSessionStale | jobNotPublishable
  | renewalNotDue
  deriving DecidableEq

/-- A token: drawn at random, or derived from an older one by an HMAC. Draws, codes and digests do
not collide, so that a token is known by how it came about. -/
inductive CapabilityToken
  | drawn (n : ℕ)
  | renewal (previous : CapabilityToken)
  deriving DecidableEq

/-- The columns of a job that are read; `hasResult` is `typeof result_json === "string"`. -/
structure Job where
  jobId : JobId
  objective : Text
  status : JobStatus
  attemptCount : ℕ
  workspacePath : Text
  resultPath : Text
  herdrWorkspaceId : Option Text
  herdrPaneId : Option Text
  agentName : Text
  hasResult : Bool
  deriving DecidableEq

/-! ### Sessions -/

/-- `[...text].length` -/
def codePointLength : Text → ℕ
  | [] => 0
  | unit :: rest =>
      if Json.isHighSurrogate unit && rest.head?.any Json.isLowSurrogate then
        1 + codePointLength rest.tail
      else 1 + codePointLength rest
termination_by text => text.length
decreasing_by
  all_goals simp only [List.length_cons, List.length_tail]
  all_goals omega

/-- The parts of a composite identity; a legacy identity is opaque. -/
def sessionParts (session : Text) : Option (List (Json Text)) :=
  match Json.parse session with
  | some (.array parts) => if parts.length = 4 then some parts else none
  | _ => none

def stringOf : Json Text → Option Text
  | .string value => some value
  | _ => none

def validJobResultPublishSession (session : Text) : Bool :=
  if session = [] ∨ 8192 < byteLength (quote session) then false
  else
    match (sessionParts session).bind fun parts ↦ parts.mapM stringOf with
    | some parts => parts.getLast?.any fun agentSession ↦
        0 < agentSession.length ∧ codePointLength agentSession ≤ 512
    | none => codePointLength session ≤ 512

/-! ### Grants -/

/-- `jobResultPublishTtlMs`; times are in microseconds, as the monotonic clock has them. -/
def jobResultPublishTtl : ℤ := 30 * 60000 * 1000

theorem jobResultPublishTtl_eq : jobResultPublishTtl = 1800000000 := rfl

structure Grant where
  jobId : JobId
  generation : ℕ
  session : Text
  attemptCount : ℕ
  paneId : Option Text
  agentName : Text
  herdrWorkspaceId : Option Text
  privateValues : List Text
  runtimeValues : List Text
  objective : Text
  expiresAt : ℤ
  monotonicDeadline : ℤ
  expired : Bool
  monotonicRenewableAt : ℤ
  revoked : Bool
  deriving DecidableEq

def sessionStrings (session : Text) : List Text :=
  ((sessionParts session).getD []).filterMap stringOf

def grantPrivateValues (job : Job) (session : Text) : List Text :=
  ([session] ++ job.herdrPaneId.toList ++ job.herdrWorkspaceId.toList ++ [job.agentName,
    job.objective, job.workspacePath, job.resultPath] ++ sessionStrings session).filter (· ≠ [])

def grantRuntimeValues (job : Job) (session : Text) : List Text :=
  ([session] ++ job.herdrPaneId.toList ++ job.herdrWorkspaceId.toList ++ [job.agentName] ++
    sessionStrings session).filter (· ≠ [])

/-- What a call sees of the outside. -/
structure Moment where
  now : ℤ
  monotonicNow : ℤ
  currentSession : JobId → Option Text
  getJob : JobId → Option Job

def Grant.isPast (moment : Moment) (grant : Grant) : Bool :=
  grant.expiresAt ≤ moment.now ∨ grant.monotonicDeadline ≤ moment.monotonicNow

/-- The grant object of a token. A validation in flight may refer to an object that the map of
grants does not hold any more. -/
structure Held where
  capability : CapabilityToken
  grant : Grant
  kept : Bool
  deriving DecidableEq

structure Capabilities where
  objects : List Held
  generations : JobId → Option ℕ
  drawn : ℕ

namespace Capabilities

def empty : Capabilities where
  objects := []
  generations _ := none
  drawn := 0

/-- The entries of `this.grants`. -/
def grants (s : Capabilities) : List Held := s.objects.filter (·.kept)

/-- `this.grants.get(digest)` -/
def get? (s : Capabilities) (capability : CapabilityToken) : Option Grant :=
  (s.grants.find? (·.capability = capability)).map (·.grant)

/-- `grant.expired = true` for the object of a token that the map holds. -/
def expire (s : Capabilities) (capability : CapabilityToken) : Capabilities :=
  { s with objects := s.objects.map fun held ↦
      if held.kept ∧ held.capability = capability then
        { held with grant := { held.grant with expired := true } }
      else held }

def prune (moment : Moment) (held : Held) : Held :=
  if held.kept ∧ held.grant.isPast moment then
    { held with
      grant := { held.grant with expired := true }
      kept := false }
  else held

/-- Deletes the grants that are past, and the counters of the jobs without a grant. -/
def pruneExpiredGrants (s : Capabilities) (moment : Moment) : Capabilities :=
  let objects := s.objects.map (prune moment)
  { s with
    objects := objects
    generations := fun jobId ↦
      if objects.any fun held ↦ held.kept ∧ held.grant.jobId = jobId then s.generations jobId
      else none }

/-- `for (const grant of this.grants.values()) if (grant.jobId === jobId) grant.revoked = true` -/
def revokeGrants (s : Capabilities) (jobId : JobId) : Capabilities :=
  { s with objects := s.objects.map fun held ↦
      if held.kept ∧ held.grant.jobId = jobId then
        { held with grant := { held.grant with revoked := true } }
      else held }

def setGeneration (s : Capabilities) (jobId : JobId) (generation : ℕ) : Capabilities :=
  { s with generations := fun id ↦ if id = jobId then some generation else s.generations id }

/-- `this.grants.set(digest, grant)` for a token that the map does not hold. -/
def set (s : Capabilities) (capability : CapabilityToken) (grant : Grant) : Capabilities :=
  { s with objects := s.objects ++ [⟨capability, grant, true⟩] }

def newGrant (job : Job) (session : Text) (generation : ℕ) (expiresAt : ℤ) (moment : Moment) :
    Grant where
  jobId := job.jobId
  generation := generation
  session := session
  attemptCount := job.attemptCount
  paneId := job.herdrPaneId
  agentName := job.agentName
  herdrWorkspaceId := job.herdrWorkspaceId
  privateValues := grantPrivateValues job session
  runtimeValues := grantRuntimeValues job session
  objective := job.objective
  expiresAt := expiresAt
  monotonicDeadline := moment.monotonicNow + jobResultPublishTtl
  expired := false
  monotonicRenewableAt := moment.monotonicNow + jobResultPublishTtl / 2
  revoked := false

/-! ### The operations -/

/-- A token with the time at which it ends. -/
structure Issued where
  capability : CapabilityToken
  expiresAt : ℤ
  deriving DecidableEq

def mint (job : Job) (session : Text) (moment : Moment) (s : Capabilities) :
    Issued × Capabilities :=
  let s := (s.pruneExpiredGrants moment).revokeGrants job.jobId
  let generation := (s.generations job.jobId).getD 0 + 1
  let capability := CapabilityToken.drawn s.drawn
  let expiresAt := moment.now + jobResultPublishTtl
  let s := { s.setGeneration job.jobId generation with drawn := s.drawn + 1 }
  (⟨capability, expiresAt⟩, s.set capability (newGrant job session generation expiresAt moment))

def issue (job : Job) (session : Text) (moment : Moment) (s : Capabilities) :
    Except JobResultPublishErrorCode Issued × Capabilities :=
  if job.status ≠ .dispatching ∨ validJobResultPublishSession session = false ∨
      moment.currentSession job.jobId ≠ some session then
    (.error .jobNotPublishable, s)
  else
    let (issued, s) := s.mint job session moment
    (.ok issued, s)

/-- A job that has ended with a result may be asked for again. -/
def terminalReconcile (job : Job) : Bool :=
  (job.status = .completed ∨ job.status = .failed) ∧ job.hasResult

/-- What is checked of a grant that is neither revoked nor past. -/
def checkJob (grant : Grant) (session : Text) (moment : Moment) :
    Except JobResultPublishErrorCode Job :=
  match moment.getJob grant.jobId with
  | none => .error .capabilityInvalid
  | some job =>
      if job.jobId ≠ grant.jobId then .error .capabilityInvalid
      else if grant.session ≠ session then .error .workerSessionStale
      else if terminalReconcile job then .ok job
      else if moment.currentSession job.jobId ≠ some session ∨
          grant.attemptCount ≠ job.attemptCount ∨ grant.paneId ≠ job.herdrPaneId then
        .error .workerSessionStale
      else if job.status ≠ .running ∧ job.status ≠ .dispatching then .error .jobNotPublishable
      else .ok job

/-- A text that is not written as a token is `none`. -/
def authorize (capability : Option CapabilityToken) (session : Text) (moment : Moment)
    (s : Capabilities) : Except JobResultPublishErrorCode Job × Capabilities :=
  match capability with
  | none => (.error .capabilityInvalid, s)
  | some capability =>
      match s.get? capability with
      | none => (.error .capabilityInvalid, s)
      | some grant =>
          if grant.revoked then (.error .capabilityRevoked, s)
          else if grant.expired ∨ grant.isPast moment then
            (.error .capabilityExpired, s.expire capability)
          else (checkJob grant session moment, s)

/-- The grant of the successor is set once it is due. -/
def renewFrom (capability : CapabilityToken) (session : Text) (job : Job) (moment : Moment)
    (s : Capabilities) : Except JobResultPublishErrorCode Issued × Capabilities :=
  let s := s.pruneExpiredGrants moment
  match s.get? capability with
  | none => (.error .renewalNotDue, s)
  | some predecessor =>
      if moment.monotonicNow < predecessor.monotonicRenewableAt then (.error .renewalNotDue, s)
      else
        let remaining := max 0 (predecessor.monotonicDeadline - moment.monotonicNow)
        let expiresAt :=
          max moment.now (predecessor.expiresAt - remaining) + jobResultPublishTtl
        (.ok ⟨.renewal capability, expiresAt⟩,
          s.set (.renewal capability)
            (newGrant job session predecessor.generation expiresAt moment))

/-- A renewal whose answer was lost is repeated, and gives the same token. -/
def renew (capability : Option CapabilityToken) (session : Text) (moment : Moment)
    (s : Capabilities) : Except JobResultPublishErrorCode Issued × Capabilities :=
  match capability with
  | none => (.error .capabilityInvalid, s)
  | some capability =>
      match s.get? (.renewal capability) with
      | some existing =>
          match s.authorize (some (.renewal capability)) session moment with
          | (.error code, s) => (.error code, s)
          | (.ok current, s) =>
              if current.status ≠ .running then (.error .jobNotPublishable, s)
              else (.ok ⟨.renewal capability, existing.expiresAt⟩, s)
      | none =>
          match s.authorize (some capability) session moment with
          | (.error code, s) => (.error code, s)
          | (.ok job, s) =>
              if job.status ≠ .running then (.error .jobNotPublishable, s)
              else s.renewFrom capability session job moment

def revokeJob (jobId : JobId) (moment : Moment) (s : Capabilities) : Capabilities :=
  let s := s.pruneExpiredGrants moment
  if s.grants.any fun held ↦ held.grant.jobId = jobId then
    (s.setGeneration jobId ((s.generations jobId).getD 0 + 1)).revokeGrants jobId
  else s

/-- What a result must not contain: the tokens that are not past by the wall clock, and what is
known of the job. -/
structure Forbidden where
  capabilities : List CapabilityToken
  values : List Text
  shortRuntimeValues : List Text

structure Fence where
  jobId : JobId
  publishableStatuses : List JobStatus
  grantGeneration : ℕ
  attemptCount : ℕ
  paneId : Option Text
  session : Text
  deriving DecidableEq

section Validation

variable {α : Type} (normalize : Text → Text)
  (validateJobResultPublish : Job → ℤ → Option Forbidden → Except JobResultPublishErrorCode α)

def liveGrants (moment : Moment) (s : Capabilities) : List Held :=
  s.grants.filter fun held ↦ moment.now < held.grant.expiresAt

def forbidden (job : Job) (grant : Grant) (moment : Moment) (s : Capabilities) : Forbidden :=
  let own := (s.liveGrants moment).filter (·.grant.jobId = job.jobId)
  { capabilities := (s.liveGrants moment).map (·.capability)
    values := (grant.paneId.toList ++ job.herdrPaneId.toList ++ job.herdrWorkspaceId.toList ++
      [job.workspacePath, job.resultPath, job.agentName, job.objective, grant.session] ++
      own.flatMap (·.grant.privateValues)).filter (· ≠ [])
    shortRuntimeValues :=
      (((own.flatMap fun held ↦ held.grant.runtimeValues ++ [held.grant.objective]).filter
        (· ≠ [])).map normalize).filter (·.length < 8) ++
      (if job.objective = [] then [] else [normalize job.objective]) }

/-- What is published, its fence, and the object whose grant is asserted again when it is. -/
structure Validated (α : Type) where
  content : α
  fence : Fence
  object : ℕ

/-- The place of the object that the map holds for a token. -/
def objectOf (s : Capabilities) (capability : CapabilityToken) : ℕ :=
  s.objects.findIdx fun held ↦ held.kept ∧ held.capability = capability

def validate (capability : Option CapabilityToken) (session : Text) (moment : Moment)
    (s : Capabilities) :
    Except JobResultPublishErrorCode (Validated α) × Capabilities :=
  match s.authorize capability session moment with
  | (.error code, s) => (.error code, s)
  | (.ok job, s) =>
      match capability.bind fun capability ↦
          (s.get? capability).map fun grant ↦ (capability, grant) with
      | none => (.error .capabilityInvalid, s)
      | some (capability, grant) =>
          match validateJobResultPublish job moment.now
              (if terminalReconcile job then none
              else some (s.forbidden normalize job grant moment)) with
          | .error code => (.error code, s)
          | .ok content =>
              (.ok { content := content
                     fence :=
                      { jobId := job.jobId
                        publishableStatuses := [.dispatching, .running]
                        grantGeneration := grant.generation
                        attemptCount := grant.attemptCount
                        paneId := grant.paneId
                        session := grant.session }
                     object := s.objectOf capability }, s)

end Validation

/-- `grant.expired = true` for an object, held by the map or not. -/
def expireObject (s : Capabilities) (object : ℕ) : Capabilities :=
  { s with objects := s.objects.modify object fun held ↦
      { held with grant := { held.grant with expired := true } } }

/-- Called inside of the transaction that stores the result. -/
def assertCurrentGrant (object : ℕ) (moment : Moment) (s : Capabilities) :
    Except JobResultPublishErrorCode Unit × Capabilities :=
  match s.objects[object]? with
  | none => (.error .capabilityInvalid, s)
  | some held =>
      if held.grant.revoked ∨ s.generations held.grant.jobId ≠ some held.grant.generation then
        (.error .capabilityRevoked, s)
      else if held.grant.expired ∨ held.grant.isPast moment then
        (.error .capabilityExpired, s.expireObject object)
      else (.ok (), s)

end Capabilities

end Dona.ResultPublish
