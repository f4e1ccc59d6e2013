import Dona.Creation.Ledger

/-!
# Rows that are created once

An event is there once for its source and a job once for its key; their rows have documents that can
be read. What inserts a row keeps this, and so does whatever neither inserts nor renames one.
-/

namespace Dona

open Json Fallible

/-! ### Bindings of events -/

namespace Db

variable {db db' : Db} {eventId : EventId} {event : EventRow} {now : Timestamp}

/-- A Slack event that has an owner has the one that its thread says. -/
def Bound (db : Db) : Prop :=
  ∀ eventId event binding saved, db.events.get? eventId = some event →
    legacySlackBinding event = some binding → db.eventBindings.get? eventId = some saved →
      saved = binding

theorem legacySlackBinding_of_identified {event' : EventRow} (h : event.Identified event') :
    legacySlackBinding event' = legacySlackBinding event := by
  unfold legacySlackBinding
  rw [h.source, h.replyTarget]

theorem Bound.sameEvents (hbound : db.Bound) (h : SameEvents db db') : db'.Bound := by
  intro eventId event binding saved hevent hbinding hsaved
  obtain ⟨row, hrow, hsame⟩ := h.events.exists_old hevent
  rw [h.bindings] at hsaved
  rw [legacySlackBinding_of_identified hsame] at hbinding
  exact hbound eventId row binding saved hrow hbinding hsaved

theorem checkBinding_legacySlackBinding {binding : JobBinding}
    (h : legacySlackBinding event = some binding) : checkBinding binding = .ok () := by
  unfold legacySlackBinding at h
  split at h
  · obtain rfl := Option.some.inj h
    simp [checkBinding]
  · cases h

/-- Only the owner of the event is written, and it is the one that its thread says. -/
theorem bindSlackEvent_eq_ok (h : db.bindSlackEvent eventId event = .ok db') :
    ∃ bindings, db' = { db with eventBindings := bindings } ∧
      (∀ other, other ≠ eventId → bindings.get? other = db.eventBindings.get? other) ∧
      ∀ binding, legacySlackBinding event = some binding → bindings.get? eventId = some binding := by
  unfold bindSlackEvent at h
  split at h
  · rename_i binding hbinding
    simp only [insertEventJobBinding, bind_eq_ok] at h
    obtain ⟨_, -, h⟩ := h
    split at h
    · rename_i saved hsaved
      simp only [bind_eq_ok, throwIf_eq_ok, not_not, Except.ok.injEq] at h
      obtain ⟨_, hsame, rfl⟩ := h
      refine ⟨db.eventBindings, rfl, fun _ _ ↦ rfl, fun other hother ↦ ?_⟩
      rw [hbinding] at hother
      rw [hsaved, hsame, hother]
    · simp only [bind_eq_ok, orThrow_eq_ok, Except.ok.injEq] at h
      obtain ⟨bindings, hinsert, rfl⟩ := h
      refine ⟨bindings, rfl, fun other hother ↦ ?_, fun other hother ↦ ?_⟩
      · rw [Table.get?_insert? hinsert, if_neg hother]
      · rw [hbinding] at hother
        rw [Table.get?_insert? hinsert, if_pos rfl, hother]
  · rename_i hnone
    obtain rfl := Except.ok.inj h
    refine ⟨db.eventBindings, rfl, fun _ _ ↦ rfl, fun other hother ↦ ?_⟩
    rw [hnone] at hother
    cases hother

theorem exists_bindSlackEvent (hbound : db.Bound) (hevent : db.events.get? eventId = some event) :
    ∃ db', db.bindSlackEvent eventId event = .ok db' := by
  unfold bindSlackEvent
  cases hbinding : legacySlackBinding event with
  | none => exact ⟨db, rfl⟩
  | some binding =>
      simp only [insertEventJobBinding, checkBinding_legacySlackBinding hbinding, ok_bind]
      cases hsaved : db.eventBindings.get? eventId with
      | some saved =>
          have hsame := hbound eventId event binding saved hevent hbinding hsaved
          exact ⟨db, by simp [hsame, throwIf]⟩
      | none =>
          cases hinsert : db.eventBindings.insert? eventId binding with
          | some bindings => exact ⟨{ db with eventBindings := bindings }, by simp [orThrow]⟩
          | none =>
              obtain ⟨saved, hsaved'⟩ := Table.exists_of_insert?_eq_none hinsert
              rw [hsaved] at hsaved'
              cases hsaved'

/-- The events of the table with one more. -/
structure Enqueues (db db' : Db) (eventId : EventId) (envelope : EventEnvelope) : Prop where
  inserted : ∃ row, db.events.insert? eventId row = some db'.events ∧
    row.source = envelope.source ∧ row.externalEventId = envelope.externalEventId ∧
      ∀ binding, legacySlackBinding row = some binding →
        db'.eventBindings.get? eventId = some binding
  jobs : db'.jobs = db.jobs
  bindings : ∀ other, other ≠ eventId →
    db'.eventBindings.get? other = db.eventBindings.get? other

theorem enqueues_enqueue {envelope : EventEnvelope} {r : EnqueueResult}
    (hnew : db.events.find? (fun _ event ↦ event.source = envelope.source ∧
      event.externalEventId = envelope.externalEventId) = none)
    (h : db.enqueue envelope now = .ok (r, db')) : Enqueues db db' r.eventId envelope := by
  unfold enqueue at h
  rw [hnew] at h
  simp only [bind_eq_ok, orThrow_eq_ok, Except.ok.injEq, Prod.mk.injEq] at h
  obtain ⟨events, hinsert, db₁, hbind, rfl, rfl⟩ := h
  obtain ⟨bindings, rfl, hother, hown⟩ := bindSlackEvent_eq_ok hbind
  exact ⟨⟨_, hinsert, rfl, rfl, hown⟩, rfl, hother⟩

end Db

/-! ### Jobs that are new -/

namespace Store

variable {jobs : JobsEnv} {s t : Store} {eventId : EventId} {event : EventRow} {jobId : JobId}
  {request parsed : CreateJobRequest} {now : Int}

theorem sameEvents_admitMessage {jobKey : Option String} {objective : String}
    (h : s.admitMessage jobs eventId event jobKey objective now = .ok t) :
    Db.SameEvents s.db t.db := by
  simp only [admitMessage, bind_eq_ok, throwIf_eq_ok] at h
  obtain ⟨_, -, _, -, _, -, _, -, _, -, _, -, _, -, h⟩ := h
  split at h
  · obtain rfl := Except.ok.inj h
    exact .refl _
  · simp only [bind_eq_ok, Except.ok.injEq] at h
    obtain ⟨_, -, rfl⟩ := h
    exact .of_eq rfl rfl

theorem sameEvents_admitScheduled (h : s.admitScheduled eventId event request now = .ok t) :
    Db.SameEvents s.db t.db := by
  simp only [admitScheduled, bind_eq_ok] at h
  obtain ⟨_, -, h⟩ := h
  split at h
  · simp only [bind_eq_ok, Except.ok.injEq] at h
    obtain ⟨_, -, _, -, _, -, _, -, rfl⟩ := h
    refine ⟨Table.evolves_updateKey (fun _ ↦ EventRow.Identified.refl) fun row _ ↦ ?_, rfl⟩
    exact ⟨rfl, rfl, rfl⟩
  · contradiction

theorem sameEvents_insertJob {job : JobRow} {document : WorkspaceDocument}
    {owner : EventId × JobBinding} (h : s.insertJob jobId job document owner = .ok t) :
    Db.SameEvents s.db t.db := by
  simp only [insertJob, bind_eq_ok, orThrow_eq_ok, Except.ok.injEq] at h
  obtain ⟨_, -, _, -, _, -, _, -, rfl⟩ := h
  exact .of_eq rfl rfl

theorem sameEvents_startRun {binding : JobBinding} {r : Option Unit}
    (h : s.startRun jobs binding eventId jobId now = .ok (r, t)) : Db.SameEvents s.db t.db := by
  unfold startRun at h
  split at h
  · obtain ⟨-, rfl⟩ := Prod.mk.inj (Except.ok.inj h)
    exact .refl _
  · contradiction
  · simp only [onDb, bind_eq_ok, Except.ok.injEq, Prod.mk.injEq] at h
    obtain ⟨⟨_, db⟩, hset, -, rfl⟩ := h
    exact Db.sameEvents_setRunState hset

/-- A job that is new has the key of its request; without one, the jobs are as before. -/
inductive Adds (parsed : CreateJobRequest) (s t : Store) : Option CreateJobResult → Prop
  | job {jobId : JobId} {job : JobRow} (hinsert : s.db.jobs.insert? jobId job = some t.db.jobs)
      (hevent : job.sourceEventId = parsed.sourceEventId)
      (hkey : job.jobKey = parsed.jobKey.getD legacyJobKey) : Adds parsed s t (some ⟨jobId, false⟩)
  | none (hjobs : t.db.jobs = s.db.jobs) : Adds parsed s t none

theorem adds_createJob {r : Option CreateJobResult} (hparsed : request.parse = .ok parsed)
    (hnew : s.db.jobs.find? (fun _ job ↦ job.sourceEventId = parsed.sourceEventId ∧
      job.jobKey = parsed.jobKey.getD legacyJobKey) = none)
    (h : s.createJob jobs request now = .ok (r, t)) :
    Adds parsed s t r ∧ Db.SameEvents s.db t.db := by
  simp only [createJob, bind_eq_ok, orThrow_eq_ok] at h
  obtain ⟨_, hparsed', event, -, binding, -, h⟩ := h
  obtain rfl := Except.ok.inj (hparsed.symm.trans hparsed')
  have hkeys : ∀ c : Prop, [Decidable c] →
      (if c then { parsed with objective := request.objective } else parsed).jobKey =
        parsed.jobKey := by
    intro c _
    split_ifs <;> rfl
  rw [hkeys, hnew] at h
  simp only [bind_eq_ok] at h
  obtain ⟨s₁, hadmit, s₂, hinsert, ⟨started, s₃⟩, hstart, h⟩ := h
  have hadmitted : s₁.db.jobs = s.db.jobs ∧ Db.SameEvents s.db s₁.db := by
    by_cases hschedule : binding.owner.isSchedule = true
    · rw [if_pos hschedule] at hadmit
      exact ⟨(untouched_admitScheduled hadmit).jobs, sameEvents_admitScheduled hadmit⟩
    · rw [if_neg hschedule] at hadmit
      exact ⟨(admits_admitMessage hadmit).2.jobs, sameEvents_admitMessage hadmit⟩
  have hdraw : Db.SameEvents s₁.db s₁.draw.db := .of_eq rfl rfl
  have hevents := ((hadmitted.2.trans hdraw).trans (sameEvents_insertJob hinsert)).trans
    (sameEvents_startRun hstart)
  generalize s!"job_{s₁.db.nextUuid}" = newId at hinsert hstart h
  have hdrawn : s₁.draw.db.jobs = s.db.jobs := hadmitted.1
  have hrow := (inserts_insertJob hinsert).jobs
  rw [hdrawn, ← (untouched_startRun hstart).jobs] at hrow
  split at h
  · obtain ⟨rfl, rfl⟩ := Prod.mk.inj (Except.ok.inj h)
    exact ⟨.job hrow rfl (congrArg (·.getD legacyJobKey) (hkeys _)), hevents⟩
  · obtain ⟨rfl, rfl⟩ := Prod.mk.inj (Except.ok.inj h)
    refine ⟨.none (Table.deleteWhere_insert? hrow), hevents.trans (.of_eq rfl rfl)⟩

end Store

/-! ### What every state keeps -/

theorem CreateJobRequest.accepted_of_parse {request parsed : CreateJobRequest}
    (h : request.parse = .ok parsed) : parsed.workspace.accepted = true := by
  simp only [parse, bind_eq_ok, throwIf_eq_ok, Bool.not_eq_false, Except.ok.injEq] at h
  obtain ⟨_, -, _, -, _, -, _, -, _, haccepted, rfl⟩ := h
  exact (JobWorkspace.accepted_normalized request.workspace).trans haccepted

namespace Ledger

variable {N : Type} {env : CreationEnv N} {s t : Ledger N}

/-- No two jobs of an event have one key. -/
def OneJobPerKey (s : Ledger N) : Prop :=
  ∀ jobId jobId' job job', s.store.db.jobs.get? jobId = some job →
    s.store.db.jobs.get? jobId' = some job' → job.sourceEventId = job'.sourceEventId →
      job.jobKey = job'.jobKey → jobId = jobId'

/-- No two events have one name with their source. -/
def OneEventPerExternalId (s : Ledger N) : Prop :=
  ∀ eventId eventId' event event', s.store.db.events.get? eventId = some event →
    s.store.db.events.get? eventId' = some event' → event.source = event'.source →
      event.externalEventId = event'.externalEventId → eventId = eventId'

/-- The indexes of the tables; the rows have their documents, and those of jobs can be read. -/
structure Sound (s : Ledger N) : Prop where
  jobs : s.OneJobPerKey
  events : s.OneEventPerExternalId
  bound : s.store.db.Bound
  columns : ∀ eventId event, s.store.db.events.get? eventId = some event →
    ∃ columns, s.columns.get? eventId = some columns
  documents : ∀ jobId job, s.store.db.jobs.get? jobId = some job →
    ∃ document, s.workspaceJson.get? jobId = some document
  readable : ∀ jobId document, s.workspaceJson.get? jobId = some document →
    ∃ workspace, parseJobWorkspace document = .ok workspace

/-- The digest of a document and its workspace can still be read. -/
structure StaysReadable (document document' : Members N) : Prop where
  digest : ∀ digest, jobCreationPayloadSha256FromWorkspace document = some digest →
    jobCreationPayloadSha256FromWorkspace document' = some digest
  workspace : (∃ workspace, parseJobWorkspace document = .ok workspace) →
    ∃ workspace, parseJobWorkspace document' = .ok workspace

theorem StaysReadable.refl (document : Members N) : StaysReadable document document :=
  ⟨fun _ ↦ id, id⟩

theorem StaysReadable.trans {a b c : Members N} (h : StaysReadable a b) (h' : StaysReadable b c) :
    StaysReadable a c :=
  ⟨fun digest hdigest ↦ h'.digest digest (h.digest digest hdigest),
    fun hworkspace ↦ h'.workspace (h.workspace hworkspace)⟩

/-- A member that neither the digest nor the workspace is read from. -/
theorem staysReadable_assign {document : Members N} {key : Text} (value : Json N)
    (hdigest : key ≠ jobCreationMetadataKey)
    (hworkspace : ["kind", "repository", "base_ref"].all (fun name ↦ key ≠ unitsOf name) = true) :
    StaysReadable document (document.assign key value) where
  digest _ h := jobCreationPayloadSha256_assign value hdigest h
  workspace h := by
    rw [parseJobWorkspace_assign value hworkspace]
    exact h

theorem staysReadable_sortedBy (collation : Collation) (document : Members N) :
    StaysReadable document (document.sortedBy collation) where
  digest _ h := jobCreationPayloadSha256_sortedBy h
  workspace h := by
    rw [parseJobWorkspace_sortedBy]
    exact h

theorem staysReadable_task {document : Members N} (value : Json N) :
    StaysReadable document (document.assign (unitsOf "_dona_task") value) :=
  staysReadable_assign value (by decide) (by decide)

theorem staysReadable_handoff {document : Members N} (value : Json N) :
    StaysReadable document (document.assign (unitsOf "_dona_handoff") value) :=
  staysReadable_assign value (by decide) (by decide)

/-- No event and no job is added, and none is renamed. -/
structure Follows (s t : Ledger N) : Prop where
  jobs : s.store.db.jobs.Evolves (fun _ job job' ↦
    job'.sourceEventId = job.sourceEventId ∧ job'.jobKey = job.jobKey) t.store.db.jobs
  events : s.store.db.events.Evolves (fun _ event event' ↦
    event'.source = event.source ∧ event'.externalEventId = event.externalEventId ∧
      ∀ binding, Db.legacySlackBinding event' = some binding →
        Db.legacySlackBinding event = some binding) t.store.db.events
  columns : s.columns.Evolves (fun _ _ _ ↦ True) t.columns
  bound : s.store.db.Bound → t.store.db.Bound
  workspaceJson : s.workspaceJson.Evolves (fun _ ↦ StaysReadable) t.workspaceJson

theorem Sound.follows (hs : s.Sound) (h : Follows s t) : t.Sound where
  jobs jobId jobId' job job' hjob hjob' hevent hkey := by
    obtain ⟨row, hrow, hevent₁, hkey₁⟩ := h.jobs.exists_old hjob
    obtain ⟨row', hrow', hevent₂, hkey₂⟩ := h.jobs.exists_old hjob'
    apply hs.jobs jobId jobId' row row' hrow hrow'
    · rw [← hevent₁, ← hevent₂, hevent]
    · rw [← hkey₁, ← hkey₂, hkey]
  events eventId eventId' event event' hevent hevent' hsource hexternal := by
    obtain ⟨row, hrow, hsource₁, hexternal₁, -⟩ := h.events.exists_old hevent
    obtain ⟨row', hrow', hsource₂, hexternal₂, -⟩ := h.events.exists_old hevent'
    apply hs.events eventId eventId' row row' hrow hrow'
    · rw [← hsource₁, ← hsource₂, hsource]
    · rw [← hexternal₁, ← hexternal₂, hexternal]
  bound := h.bound hs.bound
  columns eventId event hevent := by
    obtain ⟨row, hrow, -⟩ := h.events.exists_old hevent
    obtain ⟨columns, hcolumns⟩ := hs.columns eventId row hrow
    obtain ⟨columns', hcolumns', -⟩ := h.columns.exists_new hcolumns
    exact ⟨columns', hcolumns'⟩
  documents jobId job hjob := by
    obtain ⟨row, hrow, -⟩ := h.jobs.exists_old hjob
    obtain ⟨document, hdocument⟩ := hs.documents jobId row hrow
    obtain ⟨document', hdocument', -⟩ := h.workspaceJson.exists_new hdocument
    exact ⟨document', hdocument'⟩
  readable jobId document' hdocument' := by
    obtain ⟨document, hdocument, hreadable⟩ := h.workspaceJson.exists_old hdocument'
    exact hreadable.workspace (hs.readable jobId document hdocument)

/-- The digests of the rows that there were. -/
def KeepsDigests (s t : Ledger N) : Prop :=
  ∀ jobId digest, s.storedDigest? jobId = some digest → t.storedDigest? jobId = some digest

theorem KeepsDigests.refl (s : Ledger N) : KeepsDigests s s := fun _ _ ↦ id

theorem KeepsDigests.trans {u : Ledger N} (h : KeepsDigests s t) (h' : KeepsDigests t u) :
    KeepsDigests s u :=
  fun jobId digest hdigest ↦ h' jobId digest (h jobId digest hdigest)

theorem storedDigest?_eq_some_iff {jobId : JobId} {digest : Text} :
    s.storedDigest? jobId = some digest ↔ ∃ document, s.workspaceJson.get? jobId = some document ∧
      jobCreationPayloadSha256FromWorkspace document = some digest :=
  Option.bind_eq_some_iff

theorem Follows.keepsDigests (h : Follows s t) : KeepsDigests s t := by
  intro jobId digest hdigest
  obtain ⟨document, hdocument, hdigest⟩ := storedDigest?_eq_some_iff.mp hdigest
  obtain ⟨document', hdocument', hreadable⟩ := h.workspaceJson.exists_new hdocument
  exact storedDigest?_eq_some_iff.mpr ⟨document', hdocument', hreadable.digest digest hdigest⟩

theorem keepsDigests_insert {jobId : JobId} {document : Members N}
    (h : s.workspaceJson.insert? jobId document = some t.workspaceJson) : KeepsDigests s t := by
  intro other digest hdigest
  obtain ⟨row, hrow, hdigest⟩ := storedDigest?_eq_some_iff.mp hdigest
  refine storedDigest?_eq_some_iff.mpr ⟨row, ?_, hdigest⟩
  rw [Table.get?_insert? h, if_neg]
  · exact hrow
  · rintro rfl
    rw [Table.get?_eq_none_of_insert? h] at hrow
    cases hrow

theorem follows_elsewhere (h : Elsewhere s t) : Follows s t where
  jobs := h.jobs
  events := h.events
  columns := h.columns
  bound hbound eventId event binding saved hevent hbinding hsaved := by
    obtain ⟨row, hrow, -, -, hlegacy⟩ := h.events.exists_old hevent
    rw [h.bindings eventId event binding hevent hbinding] at hsaved
    exact hbound eventId row binding saved hrow (hlegacy binding hbinding) hsaved
  workspaceJson := by
    rw [h.workspaceJson]
    exact .refl (fun _ ↦ StaysReadable.refl) _

/-- Statements on `workspace_json` alone. -/
theorem follows_updateWorkspaceJson {jobId : JobId} {f : Members N → Members N}
    (h : ∀ document, StaysReadable document (f document)) :
    Follows s (s.updateWorkspaceJson jobId f) where
  jobs := .refl (fun _ _ ↦ ⟨rfl, rfl⟩) _
  events := .refl (fun _ _ ↦ ⟨rfl, rfl, fun _ ↦ id⟩) _
  columns := .refl (fun _ _ ↦ trivial) _
  bound := id
  workspaceJson := Table.evolves_updateKey (fun _ ↦ StaysReadable.refl) fun document _ ↦ h document

theorem follows_stampAttempt {jobId : JobId} {taskId : Text} {attemptNumber : ℕ} :
    Follows s (s.stampAttempt env jobId taskId attemptNumber) :=
  follows_updateWorkspaceJson fun _ ↦ staysReadable_task _

theorem follows_markHandoff {jobId : JobId} {predecessorJobId workspaceJobId : Text} :
    Follows s (s.markHandoff env jobId predecessorJobId workspaceJobId) :=
  follows_updateWorkspaceJson fun _ ↦
    (staysReadable_handoff _).trans (staysReadable_sortedBy _ _)

/-! ### A job that is new -/

/-- The rows of a job under a key that no job of the event has. -/
structure InsertsJob (s t : Ledger N) (jobId : JobId) (job : JobRow) (document : Members N) :
    Prop where
  jobs : s.store.db.jobs.insert? jobId job = some t.store.db.jobs
  fresh : ∀ other row, s.store.db.jobs.get? other = some row →
    ¬(row.sourceEventId = job.sourceEventId ∧ row.jobKey = job.jobKey)
  workspaceJson : s.workspaceJson.insert? jobId document = some t.workspaceJson
  readable : ∃ workspace, parseJobWorkspace document = .ok workspace
  events : Db.SameEvents s.store.db t.store.db
  columns : t.columns = s.columns

theorem Sound.sameEvents (hs : s.Sound) (h : Db.SameEvents s.store.db t.store.db)
    (hcolumns : t.columns = s.columns) :
    t.OneEventPerExternalId ∧
      ∀ eventId event, t.store.db.events.get? eventId = some event →
        ∃ columns, t.columns.get? eventId = some columns := by
  refine ⟨fun eventId eventId' event event' hevent hevent' hsource hexternal ↦ ?_,
    fun eventId event hevent ↦ ?_⟩
  · obtain ⟨row, hrow, hsame⟩ := h.events.exists_old hevent
    obtain ⟨row', hrow', hsame'⟩ := h.events.exists_old hevent'
    apply hs.events eventId eventId' row row' hrow hrow'
    · rw [← hsame.source, ← hsame'.source, hsource]
    · rw [← hsame.externalEventId, ← hsame'.externalEventId, hexternal]
  · obtain ⟨row, hrow, -⟩ := h.events.exists_old hevent
    rw [hcolumns]
    exact hs.columns eventId row hrow

theorem Sound.insertsJob {jobId : JobId} {job : JobRow} {document : Members N} (hs : s.Sound)
    (h : InsertsJob s t jobId job document) : t.Sound := by
  obtain ⟨hevents, hcolumns⟩ := hs.sameEvents h.events h.columns
  have hjobs := Table.get?_insert? h.jobs
  have hdocuments := Table.get?_insert? h.workspaceJson
  refine ⟨fun first second row row' hrow hrow' hevent hkey ↦ ?_, hevents,
    hs.bound.sameEvents h.events, hcolumns, fun other row hrow ↦ ?_, fun other row hrow ↦ ?_⟩
  · rw [hjobs] at hrow hrow'
    split_ifs at hrow hrow' with hfirst hsecond hsecond
    · rw [hfirst, hsecond]
    · obtain rfl := Option.some.inj hrow
      exact absurd ⟨hevent.symm, hkey.symm⟩ (h.fresh second row' hrow')
    · obtain rfl := Option.some.inj hrow'
      exact absurd ⟨hevent, hkey⟩ (h.fresh first row hrow)
    · exact hs.jobs first second row row' hrow hrow' hevent hkey
  · rw [hjobs] at hrow
    rw [hdocuments]
    split_ifs at hrow ⊢ with hother
    · exact ⟨document, rfl⟩
    · obtain ⟨former, hformer⟩ := hs.documents other row hrow
      exact ⟨former, hformer⟩
  · rw [hdocuments] at hrow
    split_ifs at hrow with hother
    · obtain rfl := Option.some.inj hrow
      exact h.readable
    · exact hs.readable other row hrow

theorem insertsJob_insertAttempt {oldJobId jobId : JobId} {job : JobRow}
    {taskId workspaceJobId : Text} {attemptNumber : ℕ} {r : Unit} (hs : s.Sound)
    (h : s.insertAttempt env oldJobId jobId job taskId workspaceJobId attemptNumber = .ok (r, t)) :
    ∃ document, InsertsJob s t jobId job document := by
  simp only [insertAttempt, bind_eq_ok, orThrow_eq_ok, throwIf_eq_ok, Bool.not_eq_true,
    Table.any_eq_false_iff, decide_eq_false_iff_not, Except.ok.injEq, Prod.mk.injEq] at h
  obtain ⟨document, hdocument, _, hfresh, jobs, hjobs, documents, hdocuments, -, rfl⟩ := h
  refine ⟨_, hjobs, hfresh, hdocuments, ?_, .of_eq rfl rfl, rfl⟩
  have hreadable := hs.readable oldJobId document hdocument
  exact ((staysReadable_task _).trans (staysReadable_handoff _)).workspace hreadable

end Ledger

end Dona
