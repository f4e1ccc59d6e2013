import Dona.Creation.CreatedOnce
import Dona.Library.TransitionSystem
import Dona.Scheduler.System

/-!
# Repeated events and jobs

What a repeated request is answered with depends on the digest that its job was created with, and no
later statement changes that digest. A repeated event is compared with the columns of the first.
-/

namespace Dona

open Json Fallible

namespace Ledger

section

variable {N : Type} {env : CreationEnv N} {s t : Ledger N}

/-! ### Requests -/

theorem prepare_eq_ok {request : CreateJobRequest} {prepared : Prepared}
    (h : s.prepare request = .ok prepared) :
    ∃ parsed, request.parse = .ok parsed ∧
      prepared.request.sourceEventId = parsed.sourceEventId ∧
        prepared.request.jobKey = parsed.jobKey ∧ prepared.request.workspace = parsed.workspace := by
  simp only [prepare, bind_eq_ok, Except.ok.injEq] at h
  obtain ⟨parsed, hparsed, event, -, binding, -, _, -, rfl⟩ := h
  refine ⟨parsed, hparsed, ?_⟩
  split_ifs <;> exact ⟨rfl, rfl, rfl⟩

/-- The document that a job is created with. -/
def newWorkspaceJson (env : CreationEnv N) (request : CreateJobRequest) : Members N :=
  serializeJobWorkspace env request.workspace (canonicalJobPayloadSha256 env request)
    (some request.objective.utf8ByteSize)
    (env.createJobDisplayLabel request.display request.workspace)

/-- The ways in which `createJob` succeeds. -/
inductive Creates (env : CreationEnv N) (request : CreateJobRequest) (now : Int) (s t : Ledger N) :
    Option Store.CreateJobResult → Prop
  | reuses {prepared : Prepared} {jobId : JobId} {job : JobRow} {r : Option Store.CreateJobResult}
      (hprepared : s.prepare request = .ok prepared)
      (hjob : s.job? prepared.request = some (jobId, job))
      (h : s.reuseJob env prepared jobId job now = .ok (r, t)) : Creates env request now s t r
  | inserts {prepared : Prepared} {jobId : JobId} {job : JobRow}
      (hprepared : s.prepare request = .ok prepared) (hnone : s.job? prepared.request = none)
      (h : InsertsJob s t jobId job (newWorkspaceJson env prepared.request)) :
      Creates env request now s t (some ⟨jobId, false⟩)
  | refuses (h : Follows s t) : Creates env request now s t none

theorem creates_createJob {request : CreateJobRequest} {now : Int}
    {r : Option Store.CreateJobResult} (h : s.createJob env request now = .ok (r, t)) :
    Creates env request now s t r := by
  simp only [createJob, bind_eq_ok] at h
  obtain ⟨prepared, hprepared, h⟩ := h
  obtain ⟨parsed, hparsed, hevent, hkey, hworkspace⟩ := prepare_eq_ok hprepared
  split at h
  · rename_i jobId job hjob
    exact .reuses hprepared hjob h
  · rename_i hnone
    simp only [bind_eq_ok] at h
    obtain ⟨⟨created, store⟩, hcreate, h⟩ := h
    have hnew := hnone
    rw [job?, hevent, hkey] at hnew
    obtain ⟨hadds, hevents⟩ := Store.adds_createJob hparsed hnew hcreate
    cases hadds with
    | none hjobs =>
        obtain ⟨rfl, rfl⟩ := Prod.mk.inj (Except.ok.inj h)
        refine .refuses ⟨?_, ?_, .refl (fun _ _ ↦ trivial) _, fun hbound ↦ hbound.sameEvents hevents,
          .refl (fun _ ↦ StaysReadable.refl) _⟩
        · simp only [hjobs]
          exact .refl (fun _ _ ↦ ⟨rfl, rfl⟩) _
        · refine hevents.events.mono fun hsame ↦ ⟨hsame.source, hsame.externalEventId, ?_⟩
          intro binding hbinding
          rwa [← Db.legacySlackBinding_of_identified hsame]
    | @job jobId job hinsert hjobEvent hjobKey =>
        simp only [bind_eq_ok, orThrow_eq_ok, Except.ok.injEq, Prod.mk.injEq] at h
        obtain ⟨documents, hdocuments, rfl, rfl⟩ := h
        refine .inserts hprepared hnone ⟨hinsert, fun other row hrow ↦ ?_, hdocuments, ?_, hevents, rfl⟩
        · have hother := Table.find?_eq_none_iff.mp hnew other row hrow
          rw [hjobEvent, hjobKey]
          simpa using hother
        · have haccepted : prepared.request.workspace.accepted = true := by
            rw [hworkspace]
            exact CreateJobRequest.accepted_of_parse hparsed
          exact ⟨_, parseJobWorkspace_serializeJobWorkspace haccepted⟩

/-! ### A job that exists -/

/-- The row holds the digest of the payload, or it has none and holds the payload. -/
def Matches (env : CreationEnv N) (s : Ledger N) (request : CreateJobRequest) (jobId : JobId)
    (job : JobRow) : Prop :=
  s.storedDigest? jobId = some (canonicalJobPayloadSha256 env request) ∨
    s.storedDigest? jobId = none ∧ ∃ document, s.workspaceJson.get? jobId = some document ∧
      exactLegacyPayload env job document request = .ok true

/-- A job of a schedule is given to the event that is being worked on, while its run has started
and its schedule is in force. -/
def Authorized (s : Ledger N) (prepared : Prepared) (jobId : JobId) (now : Int) : Prop :=
  prepared.binding.owner.isSchedule = true → prepared.event.status.isAgentOwned = true ∧
    s.store.runAuthorized prepared.binding.owner jobId now = true

/-- The rows after a job is reused: a row without a digest has received one. -/
def reused (env : CreationEnv N) (s : Ledger N) (request : CreateJobRequest) (jobId : JobId) :
    Ledger N :=
  if s.storedDigest? jobId = none then s.attachDigest env jobId request else s

theorem exists_exactLegacyPayload {job : JobRow} {document : Members N}
    {request : CreateJobRequest} (h : ∃ workspace, parseJobWorkspace document = .ok workspace) :
    ∃ exact, exactLegacyPayload env job document request = .ok exact := by
  obtain ⟨workspace, hworkspace⟩ := h
  unfold exactLegacyPayload
  split_ifs
  · rw [hworkspace]
    exact ⟨_, rfl⟩
  · exact ⟨false, rfl⟩

theorem reuseJob_eq_ok_iff {prepared : Prepared} {jobId : JobId} {job : JobRow} {now : Int}
    {r : Option Store.CreateJobResult} (hs : s.Sound)
    (hjob : s.store.db.jobs.get? jobId = some job) :
    s.reuseJob env prepared jobId job now = .ok (r, t) ↔
      r = some ⟨jobId, true⟩ ∧ t = s.reused env prepared.request jobId ∧
        s.Matches env prepared.request jobId job ∧ s.Authorized prepared jobId now := by
  obtain ⟨document, hdocument⟩ := hs.documents jobId job hjob
  obtain ⟨exact, hexact⟩ := @exists_exactLegacyPayload N env job document prepared.request
    (hs.readable jobId document hdocument)
  have hstored : s.storedDigest? jobId = jobCreationPayloadSha256FromWorkspace document := by
    rw [storedDigest?, hdocument, Option.bind_some]
  have hauthorized : s.Authorized prepared jobId now ↔ ¬(prepared.binding.owner.isSchedule = true ∧
      (prepared.event.status.isAgentOwned = false ∨
        s.store.runAuthorized prepared.binding.owner jobId now = false)) := by
    unfold Authorized
    rw [not_and, not_or, Bool.not_eq_false, Bool.not_eq_false]
  have hruns : (s.attachDigest env jobId prepared.request).store.runAuthorized
      prepared.binding.owner jobId now = s.store.runAuthorized prepared.binding.owner jobId now := rfl
  simp only [reuseJob, hdocument, hexact, orThrow, ok_bind, throwIf_bind_eq_ok, Except.ok.injEq,
    Prod.mk.injEq, hauthorized, Matches, reused, hstored, Option.some.injEq, exists_eq_left']
  cases jobCreationPayloadSha256FromWorkspace document with
  | none =>
      cases exact with
      | false => simp
      | true =>
          simp only [Option.any_none, if_true, hruns, @eq_comm _ r, @eq_comm _ t]
          simp
          tauto
  | some digest =>
      simp only [@eq_comm _ r, @eq_comm _ t]
      simp
      tauto

/-- A digest is written where there is none, and it is that of the request. -/
theorem follows_reused {request : CreateJobRequest} {jobId : JobId}
    (h : request.workspace.accepted = true) : Follows s (s.reused env request jobId) := by
  unfold reused
  split_ifs with hnone
  · refine ⟨.refl (fun _ _ ↦ ⟨rfl, rfl⟩) _, .refl (fun _ _ ↦ ⟨rfl, rfl, fun _ ↦ id⟩) _,
      .refl (fun _ _ ↦ trivial) _, id, ?_⟩
    apply Table.evolves_updateKey fun _ ↦ StaysReadable.refl
    intro document hdocument
    rw [storedDigest?, hdocument, Option.bind_some] at hnone
    refine ⟨fun digest hdigest ↦ ?_, fun _ ↦ ⟨_, parseJobWorkspace_serializeJobWorkspace h⟩⟩
    rw [hnone] at hdigest
    cases hdigest
  · exact ⟨.refl (fun _ _ ↦ ⟨rfl, rfl⟩) _, .refl (fun _ _ ↦ ⟨rfl, rfl, fun _ ↦ id⟩) _,
      .refl (fun _ _ ↦ trivial) _, id, .refl (fun _ ↦ StaysReadable.refl) _⟩

theorem storedDigest?_serialized {jobId : JobId} {request : CreateJobRequest}
    {label : Option Text}
    (h : s.workspaceJson.get? jobId = some (serializeJobWorkspace env request.workspace
      (canonicalJobPayloadSha256 env request) (some request.objective.utf8ByteSize) label)) :
    s.storedDigest? jobId = some (canonicalJobPayloadSha256 env request) := by
  refine storedDigest?_eq_some_iff.mpr ⟨_, h, ?_⟩
  exact jobCreationPayloadSha256_serializeJobWorkspace (env.isSha256_sha256 _)

/-- After a job is reused its row holds the digest of the request. -/
theorem storedDigest?_reused {request : CreateJobRequest} {jobId : JobId} {job : JobRow}
    (h : s.Matches env request jobId job) :
    (s.reused env request jobId).storedDigest? jobId =
      some (canonicalJobPayloadSha256 env request) := by
  unfold reused
  rcases h with hstored | ⟨hnone, document, hdocument, -⟩
  · rw [if_neg (by simp [hstored]), hstored]
  · rw [if_pos hnone]
    apply storedDigest?_serialized
    simp only [attachDigest, Table.get?_updateKey, hdocument, if_true, Option.map_some]
    rfl

/-! ### Events -/

/-- One of the columns that are compared differs. -/
theorem payloadMismatch_eq_true_iff {collation : Collation} {numerals : Numerals N}
    {columns : Dispatcher.EventColumns} {compared : Dispatcher.EventEnvelope N} :
    compared.payloadMismatch collation numerals columns = true ↔
      columns ≠ compared.columns collation numerals := by
  obtain ⟨schemaVersion, eventType, occurredAt, subject, payload, replyTarget⟩ := columns
  rw [Ne, ← not_iff_not, Bool.not_eq_true, not_not, Dispatcher.EventEnvelope.payloadMismatch,
    Dispatcher.EventEnvelope.columns]
  simp only [Bool.or_eq_false_iff, bne_eq_false_iff_eq, Dispatcher.EventColumns.mk.injEq, and_assoc]

/-- The answer to a repeated event: no event is altered. -/
theorem exists_enqueue {envelope : Envelope N} {now : Timestamp} {eventId : EventId}
    {existing : EventRow} (hs : s.Sound) (h : s.event? envelope = some (eventId, existing)) :
    ∃ columns bindings, s.columns.get? eventId = some columns ∧
      s.enqueue env envelope now = .ok (⟨eventId, true,
        envelope.compared.payloadMismatch env.collation env.numerals columns⟩,
        { s with store :=
          { s.store with db := { s.store.db with eventBindings := bindings } } }) ∧
      ({ s.store.db with eventBindings := bindings } : Db).Bound := by
  obtain ⟨hevent, -⟩ := Table.get?_of_find? h
  obtain ⟨columns, hcolumns⟩ := hs.columns eventId existing hevent
  obtain ⟨db, hbind⟩ := Db.exists_bindSlackEvent hs.bound hevent
  obtain ⟨bindings, rfl, hother, hown⟩ := Db.bindSlackEvent_eq_ok hbind
  refine ⟨columns, bindings, hcolumns, ?_, fun other event binding saved hother' hbinding hsaved ↦ ?_⟩
  · unfold enqueue
    rw [h]
    simp only [hcolumns, hbind, orThrow, ok_bind]
  · by_cases hid : other = eventId
    · subst hid
      obtain rfl := Option.some.inj (hevent.symm.trans hother')
      exact (Option.some.inj ((hown binding hbinding).symm.trans hsaved)).symm
    · rw [hother other hid] at hsaved
      exact hs.bound other event binding saved hother' hbinding hsaved

theorem Sound.enqueues {envelope : Envelope N} {eventId : EventId} {columns : Dispatcher.EventColumns}
    (hs : s.Sound) (hnew : s.event? envelope = none)
    (h : Db.Enqueues s.store.db t.store.db eventId (envelope.typed env))
    (hcolumns : s.columns.insert? eventId columns = some t.columns)
    (hdocuments : t.workspaceJson = s.workspaceJson) : t.Sound := by
  obtain ⟨row, hinsert, hsource, hexternal, hbinding⟩ := h.inserted
  have hevents := Table.get?_insert? hinsert
  have hrows := Table.get?_insert? hcolumns
  have hfresh : ∀ other event, s.store.db.events.get? other = some event →
      ¬(event.source = row.source ∧ event.externalEventId = row.externalEventId) := by
    intro other event hevent
    have hnone := Table.find?_eq_none_iff.mp hnew other event hevent
    rw [hsource, hexternal]
    simpa [Envelope.typed] using hnone
  refine ⟨?_, fun first second event event' hevent hevent' hsame hname ↦ ?_,
    fun other event binding saved hevent hlegacy hsaved ↦ ?_, fun other event hevent ↦ ?_, ?_, ?_⟩
  · unfold OneJobPerKey
    rw [h.jobs]
    exact hs.jobs
  · rw [hevents] at hevent hevent'
    split_ifs at hevent hevent' with hfirst hsecond hsecond
    · rw [hfirst, hsecond]
    · obtain rfl := Option.some.inj hevent
      exact absurd ⟨hsame.symm, hname.symm⟩ (hfresh second event' hevent')
    · obtain rfl := Option.some.inj hevent'
      exact absurd ⟨hsame, hname⟩ (hfresh first event hevent)
    · exact hs.events first second event event' hevent hevent' hsame hname
  · rw [hevents] at hevent
    split_ifs at hevent with hother
    · obtain rfl := Option.some.inj hevent
      rw [hother] at hsaved
      exact (Option.some.inj ((hbinding binding hlegacy).symm.trans hsaved)).symm
    · rw [h.bindings other hother] at hsaved
      exact hs.bound other event binding saved hevent hlegacy hsaved
  · rw [hevents] at hevent
    rw [hrows]
    split_ifs at hevent ⊢ with hother
    · exact ⟨columns, rfl⟩
    · exact hs.columns other event hevent
  · rw [h.jobs, hdocuments]
    exact hs.documents
  · rw [hdocuments]
    exact hs.readable

/-! ### Steps -/

theorem sound_enqueue {envelope : Envelope N} {now : Timestamp} (hs : s.Sound) :
    (commit (enqueue env envelope now) s).Sound ∧
      KeepsDigests s (commit (enqueue env envelope now) s) := by
  refine commit_induction (P := fun t : Ledger N ↦ t.Sound ∧ KeepsDigests s t) ⟨hs, .refl s⟩ ?_
  intro r t h
  cases hevent : s.event? envelope with
  | some entry =>
      obtain ⟨eventId, existing⟩ := entry
      obtain ⟨columns, bindings, -, hok, hbound⟩ :=
        @exists_enqueue N env s envelope now eventId existing hs hevent
      obtain ⟨-, rfl⟩ := Prod.mk.inj (Except.ok.inj (hok.symm.trans h))
      exact ⟨⟨hs.jobs, hs.events, hbound, hs.columns, hs.documents, hs.readable⟩, fun _ _ ↦ id⟩
  | none =>
      unfold enqueue at h
      rw [hevent] at h
      simp only [bind_eq_ok, orThrow_eq_ok, Except.ok.injEq, Prod.mk.injEq] at h
      obtain ⟨⟨result, db⟩, henqueue, columns, hcolumns, -, rfl⟩ := h
      exact ⟨hs.enqueues hevent (Db.enqueues_enqueue hevent henqueue) hcolumns rfl, fun _ _ ↦ id⟩

theorem sound_createJob {request : CreateJobRequest} {now : Int} (hs : s.Sound) :
    (commit (createJob env request now) s).Sound ∧
      KeepsDigests s (commit (createJob env request now) s) := by
  refine commit_induction (P := fun t : Ledger N ↦ t.Sound ∧ KeepsDigests s t) ⟨hs, .refl s⟩ ?_
  intro r t h
  cases creates_createJob h with
  | @reuses prepared jobId job _ hprepared hjob hreuse =>
      obtain ⟨hrow, -⟩ := Table.get?_of_find? hjob
      obtain ⟨-, rfl, -, -⟩ := (reuseJob_eq_ok_iff hs hrow).mp hreuse
      obtain ⟨parsed, hparsed, -, -, hworkspace⟩ := prepare_eq_ok hprepared
      have haccepted := CreateJobRequest.accepted_of_parse hparsed
      rw [← hworkspace] at haccepted
      have hfollows := @follows_reused N env s prepared.request jobId haccepted
      exact ⟨hs.follows hfollows, hfollows.keepsDigests⟩
  | inserts _ _ hinserts => exact ⟨hs.insertsJob hinserts, keepsDigests_insert hinserts.workspaceJson⟩
  | refuses hfollows => exact ⟨hs.follows hfollows, hfollows.keepsDigests⟩

theorem sound_step {act : Act N} (h : Step env s act t) (hs : s.Sound) :
    t.Sound ∧ KeepsDigests s t := by
  cases act with
  | enqueue envelope now =>
      obtain rfl := h
      exact sound_enqueue hs
  | createJob request now =>
      obtain rfl := h
      exact sound_createJob hs
  | stampAttempt jobId taskId attemptNumber =>
      obtain rfl := h
      exact ⟨hs.follows follows_stampAttempt, follows_stampAttempt.keepsDigests⟩
  | markHandoff jobId predecessorJobId workspaceJobId =>
      obtain rfl := h
      exact ⟨hs.follows follows_markHandoff, follows_markHandoff.keepsDigests⟩
  | insertAttempt oldJobId jobId job taskId workspaceJobId attemptNumber =>
      obtain rfl := h
      refine commit_induction (P := fun t : Ledger N ↦ t.Sound ∧ KeepsDigests s t) ⟨hs, .refl s⟩ ?_
      intro r t h
      obtain ⟨document, hinserts⟩ := insertsJob_insertAttempt hs h
      exact ⟨hs.insertsJob hinserts, keepsDigests_insert hinserts.workspaceJson⟩
  | elsewhere => exact ⟨hs.follows (follows_elsewhere h), (follows_elsewhere h).keepsDigests⟩

/-! ### Answers -/

/-- How a request is answered: a new job holds the digest of its payload, a job that exists is given
out exactly when it matches and may be given, and a rejected request changes no row. -/
structure AnswersRequest (env : CreationEnv N) (s : Ledger N) (request : CreateJobRequest)
    (now : Int) : Prop where
  invalid : ∀ e, s.prepare request = .error e → s.createJob env request now = .error e
  created : ∀ jobId t, s.createJob env request now = .ok (some ⟨jobId, false⟩, t) →
    ∃ prepared, s.prepare request = .ok prepared ∧ s.job? prepared.request = none ∧
      t.storedDigest? jobId = some (canonicalJobPayloadSha256 env prepared.request)
  reused : ∀ prepared jobId job, s.prepare request = .ok prepared →
    s.job? prepared.request = some (jobId, job) → s.Matches env prepared.request jobId job →
      s.Authorized prepared jobId now →
        s.createJob env request now = .ok (some ⟨jobId, true⟩, s.reused env prepared.request jobId) ∧
          (s.reused env prepared.request jobId).storedDigest? jobId =
            some (canonicalJobPayloadSha256 env prepared.request)
  conflict : ∀ prepared jobId job, s.prepare request = .ok prepared →
    s.job? prepared.request = some (jobId, job) →
      ¬(s.Matches env prepared.request jobId job ∧ s.Authorized prepared jobId now) →
        ∃ e, s.createJob env request now = .error e
  rejected : ∀ e, s.createJob env request now = .error e →
    commit (createJob env request now) s = s

/-- How a repeated event is answered: with whether a compared column differs, and no event is
altered. -/
structure AnswersEvent (env : CreationEnv N) (s : Ledger N) (envelope : Envelope N)
    (now : Timestamp) : Prop where
  repeated : ∀ eventId existing, s.event? envelope = some (eventId, existing) →
    ∃ columns mismatch t, s.columns.get? eventId = some columns ∧
      s.enqueue env envelope now = .ok (⟨eventId, true, mismatch⟩, t) ∧
        (mismatch = true ↔ columns ≠ envelope.compared.columns env.collation env.numerals) ∧
          t.store.db.events = s.store.db.events ∧ t.columns = s.columns

theorem answersRequest (hs : s.Sound) (request : CreateJobRequest) (now : Int) :
    AnswersRequest env s request now := by
  have hcreate : ∀ prepared jobId job, s.prepare request = .ok prepared →
      s.job? prepared.request = some (jobId, job) →
        s.createJob env request now = s.reuseJob env prepared jobId job now := by
    intro prepared jobId job hprepared hjob
    simp only [createJob, hprepared, ok_bind, hjob]
  refine ⟨fun e h ↦ ?_, fun jobId t h ↦ ?_,
    fun prepared jobId job hprepared hjob hmatches hauthorized ↦ ?_,
    fun prepared jobId job hprepared hjob hnot ↦ ?_, fun e ↦ commit_of_error⟩
  · simp only [createJob, h, error_bind]
  · generalize hr : some (⟨jobId, false⟩ : Store.CreateJobResult) = r at h
    cases creates_createJob h with
    | reuses hprepared hjob hreuse =>
        obtain ⟨hrow, -⟩ := Table.get?_of_find? hjob
        obtain ⟨hsome, -⟩ := (reuseJob_eq_ok_iff hs hrow).mp hreuse
        rw [hsome] at hr
        cases hr
    | @inserts prepared _ _ hprepared hnone hinserts =>
        cases hr
        have hdocument := Table.get?_insert? hinserts.workspaceJson jobId
        rw [if_pos rfl] at hdocument
        exact ⟨prepared, hprepared, hnone, storedDigest?_serialized hdocument⟩
    | refuses _ => cases hr
  · obtain ⟨hrow, -⟩ := Table.get?_of_find? hjob
    refine ⟨?_, storedDigest?_reused hmatches⟩
    rw [hcreate prepared jobId job hprepared hjob, reuseJob_eq_ok_iff hs hrow]
    exact ⟨rfl, rfl, hmatches, hauthorized⟩
  · obtain ⟨hrow, -⟩ := Table.get?_of_find? hjob
    rw [hcreate prepared jobId job hprepared hjob]
    cases hreuse : s.reuseJob env prepared jobId job now with
    | error e => exact ⟨e, rfl⟩
    | ok result =>
        obtain ⟨r, t⟩ := result
        obtain ⟨-, -, hmatches⟩ := (reuseJob_eq_ok_iff hs hrow).mp hreuse
        exact absurd hmatches hnot

theorem answersEvent (hs : s.Sound) (envelope : Envelope N) (now : Timestamp) :
    AnswersEvent env s envelope now := by
  refine ⟨fun eventId existing hevent ↦ ?_⟩
  obtain ⟨columns, bindings, hcolumns, hok, -⟩ :=
    @exists_enqueue N env s envelope now eventId existing hs hevent
  exact ⟨columns, _, _, hcolumns, hok, payloadMismatch_eq_true_iff, rfl, rfl⟩

/-- The dispatcher from any tables that meet their indexes. -/
def creations (env : CreationEnv N) : TransitionSystem (Ledger N) (Act N) where
  initial := Sound
  step := Step env

/-- In every run an event is there once for its source and a job once for its key; a job keeps the
digest that it was created with; and repeated requests and events are answered from it. -/
theorem creation_idempotent (env : CreationEnv N) {s t : Ledger N} {acts : List (Act N)}
    (hs : s.Sound) (hrun : (creations env).Run s acts t) :
    t.OneJobPerKey ∧ t.OneEventPerExternalId ∧ KeepsDigests s t ∧
      (∀ request now, AnswersRequest env t request now) ∧
        ∀ envelope now, AnswersEvent env t envelope now := by
  have ht : t.Sound := hrun.preserves (fun hstep hsound ↦ (sound_step hstep hsound).1) hs
  have hkeeps : KeepsDigests s t := hrun.relates (r := KeepsDigests) .refl .trans
    (fun hstep hsound ↦ (sound_step hstep hsound).1)
    (fun hstep hsound ↦ (sound_step hstep hsound).2) hs
  exact ⟨ht.jobs, ht.events, hkeeps, answersRequest ht, answersEvent ht⟩

end

/-! ### A schedule and its job -/

namespace DailySummary

open Dona.Sample

def canonicalPayload : Text := unitsOf
  "\x7b\"objective\":\"summarize\",\"workspace\":\x7b\"kind\":\"scratch\"\x7d\x7d"

/-- The digest of the payload of the samples; the others do not matter. -/
def sha256 (text : Text) : Text :=
  if text = canonicalPayload then
    unitsOf "2a3d3956497c16f3bf8eda263093f979c978ad40fe6a24122592758c4232dcbc"
  else unitsOf "0000000000000000000000000000000000000000000000000000000000000000"

theorem isSha256_sha256 (text : Text) : isSha256 (sha256 text) = true := by
  unfold sha256
  split_ifs <;> decide

def thread : SlackThread := ⟨"T1", "C1", "1.0"⟩

/-- An event of the schedule asks for its work; the other events are messages of a thread. -/
def view (columns : Dispatcher.EventColumns) : EventView :=
  if columns.eventType = "schedule_due" then
    { occurredAt := .ofSeconds 100
      subject := .schedule "T1" "U1" "S1"
      payload := .scheduleDue 7 1 (.instant (.ofSeconds 100)) (some "summarize")
        (.channel "T1" "C1") (some ("T1", "C1"))
      replyTarget := none }
  else
    { occurredAt := .ofSeconds 100
      subject := .text "U1"
      payload := .text ""
      replyTarget := some (.slackThread thread) }

def env : CreationEnv (Fin 10) where
  jobs :=
    { env := DailyReminder.plain
      limits := ⟨2, 1000⟩
      actorId? := some
      serialize _ := "" }
  collation := unicodeCollation
  numerals := digits
  natural n := .ofNat 10 n
  sha256 := sha256
  isSha256_sha256 := isSha256_sha256
  createJobDisplayLabel _ _ := none
  view := view

def fresh : Ledger (Fin 10) where
  store := .fresh
  columns := .empty
  workspaceJson := .empty

theorem sound_fresh : fresh.Sound where
  jobs _ _ _ _ h := by cases h
  events _ _ _ _ h := by cases h
  bound _ _ _ _ h := by cases h
  columns _ _ h := by cases h
  documents _ _ h := by cases h
  readable _ _ h := by cases h

def emptyObject : JsonValue (Fin 10) :=
  ⟨.object [], everyObject_object.mpr ⟨List.nodup_nil, fun _ h ↦ by cases h⟩⟩

def envelope (source : EventSource) (externalEventId : ExternalEventId) (type : String) :
    Envelope (Fin 10) where
  source := source
  externalEventId := externalEventId
  compared :=
    { schemaVersion := 1
      type := type
      occurredAt := "1970-01-01T00:01:40Z"
      subject := emptyObject
      payload := emptyObject
      replyTarget := none }

def due : Envelope (Fin 10) :=
  envelope .donaSchedule (.schedule "S1" (.ofSeconds 100)) "schedule_due"

def request : CreateJobRequest where
  sourceEventId := "evt_0"
  objective := "summarize"
  workspace := .scratch

def scheduleRow : Schedule where
  tenantId := "T1"
  ownerId := "U1"
  state := .active
  revision := 1
  nextDue := some (.ofSeconds 86500)
  createdAt := .ofSeconds 10
  updatedAt := .ofSeconds 100

def revision : Revision where
  recurrence := ⟨.daily, none, none, "09:00"⟩
  policy := "once-a-day"
  policyVersion := 1
  timezone := none
  tzdbVersion := none
  authorizationId := "E1"
  authorizationRevision := 1
  approverId := "U1"
  approvedAt := .ofSeconds 0
  expiresAt := .ofSeconds 2000000
  action := .workReadOnly
  target := .channel "T1" "C1"
  content := some "summarize"
  contentHash := ""
  createdAt := .ofSeconds 10

def run : ScheduleRun where
  scheduleId := "S1"
  revision := 1
  occurrenceKey := .instant (.ofSeconds 100)
  scheduledFor := .ofSeconds 100
  status := .materialized
  reason := none
  eventId := some "evt_0"
  createdAt := .ofSeconds 100
  terminalAt := none

def binding : JobBinding :=
  ⟨.schedule "T1" "U1" "S1" (some 7) 1, .workResult (.channel "T1" "C1")⟩

/-- The occurrence of the schedule is materialized and its event is dispatched. -/
def dispatched (s : Ledger (Fin 10)) : Ledger (Fin 10) :=
  { s with store := s.store.updateDb fun db ↦
    { db with
      schedules := (Table.empty.insert? "S1" scheduleRow).getD .empty
      revisions := (Table.empty.insert? ("S1", 1) revision).getD .empty
      runs := (Table.empty.insert? 7 run).getD .empty
      eventBindings := (Table.empty.insert? "evt_0" binding).getD .empty
      nextUuid := 8
      events := db.events.updateKey "evt_0" fun event ↦
        { event with status := .dispatching, scheduleAccessCheckedAt := some (.toIso 101000) } } }

/-- The agent has answered the event. -/
def completed (s : Ledger (Fin 10)) : Ledger (Fin 10) :=
  { s with store := s.store.updateDb fun db ↦
    { db with events := db.events.updateKey "evt_0" fun event ↦ { event with status := .completed } } }

def enqueued : Ledger (Fin 10) := commit (enqueue env due (.ofSeconds 100)) fresh

def started : Ledger (Fin 10) := commit (createJob env request 102000) (dispatched enqueued)

def toStarted : List (Act (Fin 10)) :=
  [.enqueue due (.ofSeconds 100), .elsewhere, .createJob request 102000]

theorem elsewhere_dispatched : Elsewhere enqueued (dispatched enqueued) where
  jobs := .refl (fun _ _ ↦ ⟨rfl, rfl⟩) _
  events := Table.evolves_updateKey (fun _ _ ↦ ⟨rfl, rfl, fun _ ↦ id⟩)
    fun _ _ ↦ ⟨rfl, rfl, fun _ ↦ id⟩
  columns := .refl (fun _ _ ↦ trivial) _
  workspaceJson := rfl
  bindings eventId event binding hevent hbinding := by
    have hnone : (dispatched enqueued).store.db.events.entries.all
        (fun entry ↦ (Db.legacySlackBinding entry.2).isNone) = true := by decide +kernel
    have hrow := List.all_eq_true.mp hnone _ (Table.mem_entries_iff.mpr hevent)
    rw [hbinding] at hrow
    cases hrow

theorem elsewhere_completed (s : Ledger (Fin 10)) : Elsewhere s (completed s) where
  jobs := .refl (fun _ _ ↦ ⟨rfl, rfl⟩) _
  events := Table.evolves_updateKey (fun _ _ ↦ ⟨rfl, rfl, fun _ ↦ id⟩)
    fun _ _ ↦ ⟨rfl, rfl, fun _ ↦ id⟩
  columns := .refl (fun _ _ ↦ trivial) _
  workspaceJson := rfl
  bindings _ _ _ _ _ := rfl

theorem run_started : (creations env).Run fresh toStarted started :=
  .snoc (.snoc (.snoc (.nil _) rfl) elsewhere_dispatched) rfl

end DailySummary

open DailySummary in
/-- The job of a daily summary is created once. -/
theorem creation_idempotent_daily :
    started.store.db.jobs.entries.map (·.1) = ["job_8"] ∧
      (started.OneJobPerKey ∧ started.OneEventPerExternalId ∧ KeepsDigests fresh started ∧
        (∀ request now, AnswersRequest env started request now) ∧
          ∀ envelope now, AnswersEvent env started envelope now) :=
  ⟨by decide +kernel, creation_idempotent env sound_fresh run_started⟩

open DailySummary in
/-- The same request is rejected once the event of the schedule is over. -/
theorem scheduled_job_not_reused :
    (creations env).Run fresh (toStarted ++ [.elsewhere]) (completed started) ∧
      request.parse = .ok request ∧
      ((completed started).job? request).map (·.1) = some "job_8" ∧
      (completed started).storedDigest? "job_8" = some (canonicalJobPayloadSha256 env request) ∧
      ∃ e, (completed started).createJob env request 103000 = .error e := by
  refine ⟨.snoc run_started (elsewhere_completed started), ?_, ?_, ?_, ?_⟩
  · decide +kernel
  · decide +kernel
  · decide +kernel
  · have hfails : ((completed started).createJob env request 103000).isOk = false := by
      decide +kernel
    cases h : (completed started).createJob env request 103000 with
    | error e => exact ⟨e, rfl⟩
    | ok result =>
        rw [h] at hfails
        cases hfails

end Ledger

end Dona
