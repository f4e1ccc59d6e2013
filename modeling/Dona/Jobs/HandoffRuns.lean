import Dona.Jobs.TaskRuns

/-!
# Runs of handoffs

The record of a handoff, the document of the successor and the row of the predecessor agree in
every state that a transaction leaves. What was authorised or accepted once stays so.
-/

namespace Dona

open Fallible

/-- What was written of a handoff stays: the row that the claim noted, the retirement that was
authorised, and the successor. -/
structure HandoffRecord.Lasts (record record' : HandoffRecord) : Prop where
  expectedJob : record'.expectedJob = record.expectedJob
  retirement : record.retirementState = .attempting → record'.retirementState = .attempting
  successor : ∀ {successor}, record.successorJobId = some successor →
    record'.successorJobId = some successor

theorem HandoffRecord.Lasts.refl (record : HandoffRecord) : record.Lasts record := ⟨rfl, id, id⟩

theorem HandoffRecord.Lasts.trans {a b c : HandoffRecord} (h : a.Lasts b) (h' : b.Lasts c) :
    a.Lasts c where
  expectedJob := h'.expectedJob.trans h.expectedJob
  retirement hretirement := h'.retirement (h.retirement hretirement)
  successor hsuccessor := h'.successor (h.successor hsuccessor)

namespace Store

variable {jobs : JobsEnv} {s t u : Store} {jobId successor : JobId}

/-! ### Soundness -/

/-- The job continues the work of another one. -/
def IsSuccessor (s : Store) (jobId successor : JobId) : Prop :=
  ∃ job document mark, s.db.jobs.get? successor = some job ∧
    s.workspaces.get? successor = some document ∧ document.handoff = some mark ∧
    mark.predecessorJobId = jobId

/-- The record agrees with the job that is handed off. -/
structure RecordSound (s : Store) (jobId : JobId) (record : HandoffRecord) : Prop where
  known : ∃ job, s.db.jobs.get? jobId = some job
  unattempted : s.attempts.get? jobId = none
  ofThread : s.OfThread jobId
  expected : record.expectedJob.1.status = .cancelling ∧ record.expectedJob.1.result = none ∧
    record.expectedJob.1.steerState ≠ some .dispatching
  accepted : record.state = .accepted ↔ record.successorJobId.isSome
  isOver : record.state = .accepted → s.Over jobId
  successor : ∀ {successor}, record.successorJobId = some successor → s.IsSuccessor jobId successor

/-- The records agree with the jobs, and every document that names a predecessor with its record;
the replacement of an attempt at a task needs no record. -/
structure HandoffsSound (s : Store) : Prop where
  record : ∀ {jobId record}, s.handoffs.get? jobId = some record → s.RecordSound jobId record
  document : ∀ {jobId document mark}, s.workspaces.get? jobId = some document →
    document.handoff = some mark → (∃ job, s.db.jobs.get? mark.predecessorJobId = some job) ∧
      (s.attempts.get? mark.predecessorJobId = none →
        ∃ record, s.handoffs.get? mark.predecessorJobId = some record ∧
          record.successorJobId = some jobId)

theorem IsSuccessor.preserves (h : Jobs.Preserves s t) (hs : s.IsSuccessor jobId successor) :
    t.IsSuccessor jobId successor := by
  obtain ⟨job, document, mark, hjob, hdocument, hmark, hname⟩ := hs
  obtain ⟨job', hjob', -⟩ := h.jobs successor job hjob
  obtain ⟨document', hdocument', rfl⟩ := h.documents successor document hdocument
  exact ⟨job', document', mark, hjob', hdocument', hmark, hname⟩

theorem OfThread.preserves (h : Jobs.Preserves s t) (hs : s.OfThread jobId) : t.OfThread jobId := by
  obtain ⟨owner, howner, hthread⟩ := hs
  obtain ⟨owner', howner', rfl⟩ := h.owners jobId owner howner
  exact ⟨owner', howner', hthread⟩

theorem RecordSound.preserves {record : HandoffRecord} (h : Jobs.Preserves s t)
    (hover : s.Over jobId → t.Over jobId) (hs : s.RecordSound jobId record) :
    t.RecordSound jobId record := by
  obtain ⟨job, hjob⟩ := hs.known
  obtain ⟨job', hjob', -⟩ := h.jobs jobId job hjob
  exact ⟨⟨job', hjob'⟩, h.unattempted hjob hs.unattempted, hs.ofThread.preserves h, hs.expected,
    hs.accepted, fun haccepted ↦ hover (hs.isOver haccepted),
    fun hsuccessor ↦ (hs.successor hsuccessor).preserves h⟩

/-- An attempt stays an attempt. -/
theorem unattempted_of_preserves (h : Jobs.Preserves s t) (hnone : t.attempts.get? jobId = none) :
    s.attempts.get? jobId = none := by
  by_contra hsome
  obtain ⟨attempt, hattempt⟩ := Option.ne_none_iff_exists'.1 hsome
  obtain ⟨attempt', hattempt', -⟩ := h.attempts jobId attempt hattempt
  rw [hnone] at hattempt'
  contradiction

/-! ### Steps that take no step of a handoff -/

/-- No handoff goes on: what is over stays over, and a new document names an attempt at a task. -/
structure Steady (s t : Store) : Prop extends Jobs.Preserves s t where
  handoffs : t.handoffs = s.handoffs
  staysOver : ∀ {jobId}, s.attempts.get? jobId = none → s.Over jobId → t.Over jobId
  marks : ∀ {jobId document mark}, t.workspaces.get? jobId = some document →
    document.handoff = some mark → s.workspaces.get? jobId = some document ∨
      ((∃ job, t.db.jobs.get? mark.predecessorJobId = some job) ∧
        t.attempts.get? mark.predecessorJobId ≠ none)

theorem HandoffsSound.steady (hs : s.HandoffsSound) (h : Steady s t) : t.HandoffsSound where
  record := by
    intro jobId record hrecord
    rw [h.handoffs] at hrecord
    have hsound := hs.record hrecord
    exact hsound.preserves h.toPreserves (h.staysOver hsound.unattempted)
  document := by
    intro jobId document mark hdocument hmark
    rcases h.marks hdocument hmark with hold | ⟨hknown, hattempted⟩
    · obtain ⟨⟨job, hjob⟩, hrecord⟩ := hs.document hold hmark
      obtain ⟨job', hjob', -⟩ := h.jobs _ job hjob
      refine ⟨⟨job', hjob'⟩, fun hnone ↦ ?_⟩
      rw [h.handoffs]
      exact hrecord (unattempted_of_preserves h.toPreserves hnone)
    · exact ⟨hknown, fun hnone ↦ absurd hnone hattempted⟩

theorem Steady.trans (h : Steady s t) (h' : Steady t u) : Steady s u where
  toPreserves := h.toPreserves.trans h'.toPreserves
  handoffs := h'.handoffs.trans h.handoffs
  staysOver := by
    intro jobId hnone hover
    obtain ⟨job, hjob⟩ := hover.known
    exact h'.staysOver (h.unattempted hjob hnone) (h.staysOver hnone hover)
  marks := by
    intro jobId document mark hdocument hmark
    rcases h'.marks hdocument hmark with hold | hnew
    · rcases h.marks hold hmark with holder | ⟨⟨job, hjob⟩, hattempted⟩
      · exact .inl holder
      · obtain ⟨job', hjob', -⟩ := h'.jobs _ job hjob
        exact .inr ⟨⟨job', hjob'⟩, fun hnone ↦
          hattempted (unattempted_of_preserves h'.toPreserves hnone)⟩
    · exact .inr hnew

theorem steady_effect {who : JobId → Prop} (h : Effect who s t) : Steady s t where
  toPreserves := .of_effect h
  handoffs := h.kept.handoffs
  staysOver := by
    intro jobId hnone hover
    exact hover.of_extends h.change.jobs
  marks hdocument _ := by
    rw [h.kept.workspaces] at hdocument
    exact .inl hdocument

theorem steady_refl (s : Store) : Steady s s :=
  steady_effect (Effect.refl s : Effect (fun _ ↦ False) s s)

/-- A job is inserted that continues no job, or an attempt at a task. -/
theorem steady_inserts {job : JobRow} {document : WorkspaceDocument} {owner : EventId × JobBinding}
    (hpreserves : Jobs.Preserves s u) (h : Inserts jobId job document owner s t) (halike : Alike t u)
    (hmark : ∀ mark, document.handoff = some mark →
      (∃ job, u.db.jobs.get? mark.predecessorJobId = some job) ∧
        u.attempts.get? mark.predecessorJobId ≠ none) : Steady s u where
  toPreserves := hpreserves
  handoffs := halike.kept.handoffs.trans h.handoffs
  staysOver := by
    intro other _ hover
    refine hover.of_extends ?_
    rw [halike.jobs]
    exact Table.extends_insert? (fun _ ↦ JobRow.Moves.refl) h.jobs
  marks := by
    intro other row mark hrow hrowMark
    rw [halike.kept.workspaces, Table.get?_insert? h.workspaces] at hrow
    split_ifs at hrow with hother
    · obtain rfl := Option.some.inj hrow
      exact .inr (hmark mark hrowMark)
    · exact .inl hrow

theorem steady_claims {claimed : JobId} (hs : s.Numbered) (h : Claims claimed s t) : Steady s t where
  toPreserves := Jobs.preserves_claims h
  handoffs := h.kept.handoffs
  staysOver := by
    intro jobId hnone hover
    rcases h.current with rfl | ⟨taskId, task, htask, hcurrent⟩
    · exact hover
    · obtain ⟨job, hjob, hrest⟩ := hover
      refine ⟨job, h.jobs jobId job hjob ?_, hrest⟩
      -- The job of which the claim writes the row is an attempt.
      rintro rfl
      obtain ⟨attempt, hattempt, -⟩ := hs.current htask
      rw [hcurrent, hnone] at hattempt
      contradiction
  marks hdocument _ := by
    rw [h.kept.workspaces] at hdocument
    exact .inl hdocument

theorem steady_recoverStaleJobs (now : Int) (s : Store) : Steady s (s.recoverStaleJobs now) where
  toPreserves := .of_kept (Jobs.sources_recoverStaleJobs now s).extends (evolves_attempts_refl _)
    (.of_eq rfl rfl rfl rfl)
  handoffs := rfl
  staysOver := by
    rintro jobId - ⟨job, hjob, hstatus, hresult, hsteer⟩
    refine ⟨job, ?_, hstatus, hresult, hsteer⟩
    simp [recoverStaleJobs, updateDb, hjob, hstatus, hsteer]
  marks hdocument _ := .inl hdocument

theorem steady_replaces {taskId : TaskId} {task : TaskRow} {newId : JobId} {files : JobId → Bool}
    {now : Int} (hs : s.Numbered) (h : Replaces taskId task newId files now s t) : Steady s t := by
  obtain ⟨s₁, s₂, hs₁, hs₂, hs₃⟩ := h.phases
  obtain ⟨v, job, document, owner, mark, hinserts, halike, hmark, hname, old, hold, -⟩ :=
    hs₂.continues.creates
  have hmiddle : Jobs.Preserves s₁ s₂ := Jobs.preserves_succeeds hs₂
  have hattempted : s₂.attempts.get? task.currentAttemptId ≠ none := by
    obtain ⟨attempt, hattempt, -⟩ := hs.current h.known
    obtain ⟨attempt₁, hattempt₁, -⟩ := hs₁.attempts.exists_new hattempt
    obtain ⟨attempt₂, hattempt₂, -⟩ := hmiddle.attempts _ attempt₁ hattempt₁
    simp [hattempt₂]
  have hstep : Steady s₁ s₂ := by
    refine steady_inserts hmiddle hinserts halike fun mark' hmark' ↦ ?_
    obtain rfl := Option.some.inj (hmark.symm.trans hmark')
    rw [hname]
    obtain ⟨old', hold', -⟩ := hmiddle.jobs _ old hold
    exact ⟨⟨old', hold'⟩, hattempted⟩
  exact ((steady_effect hs₁).trans hstep).trans (steady_effect hs₃)

/-! ### Steps of a handoff -/

theorem HandoffsSound.claims {record : HandoffRecord} (hs : s.HandoffsSound)
    (hnone : s.attempts.get? jobId = none) (h : ClaimsHandoff jobId record s t) :
    t.HandoffsSound := by
  have hpreserves := Jobs.preserves_claimsHandoff h
  have hget := Table.get?_insert? h.handoffs
  have hworkspaces : t.workspaces = s.workspaces := h.effect.kept.workspaces
  obtain ⟨job, hjob, -⟩ := Option.map_eq_some_iff.1 h.snapshot
  obtain ⟨hstate, -, hsuccessor⟩ := h.fresh
  refine ⟨fun {other row} hrow ↦ ?_, fun {other document mark} hdocument hmark ↦ ?_⟩
  · rw [hget] at hrow
    split_ifs at hrow with hother
    · obtain rfl := Option.some.inj hrow
      subst hother
      refine ⟨⟨job, hjob⟩, h.effect.attempts.get?_eq_none_iff.2 hnone, ?_, h.expected, ?_, ?_, ?_⟩
      · exact h.ofThread.preserves hpreserves
      · simp [hstate, hsuccessor]
      · simp [hstate]
      · simp [hsuccessor]
    · have hsound := hs.record hrow
      refine hsound.preserves hpreserves fun hover ↦ ?_
      exact hover.of_extends h.change.jobs
  · rw [hworkspaces] at hdocument
    obtain ⟨⟨row, hrow⟩, hrecord⟩ := hs.document hdocument hmark
    obtain ⟨row', hrow', -⟩ := hpreserves.jobs _ row hrow
    refine ⟨⟨row', hrow'⟩, fun hunattempted ↦ ?_⟩
    obtain ⟨old, hold, hname⟩ := hrecord (unattempted_of_preserves hpreserves hunattempted)
    refine ⟨old, ?_, hname⟩
    rw [hget, if_neg]
    · exact hold
    · intro heq
      have hnew := Table.get?_eq_none_of_insert? h.handoffs
      rw [← heq] at hnew
      exact absurd (hnew.symm.trans hold) (by simp)

theorem HandoffsSound.retires (hs : s.HandoffsSound) (h : RetiresWorker jobId s t) :
    t.HandoffsSound := by
  rw [h.eq]
  refine ⟨fun {other row} hrow ↦ ?_, fun {other document mark} hdocument hmark ↦ ?_⟩
  · rw [Table.get?_updateKey] at hrow
    split_ifs at hrow
    · obtain ⟨old, hold, rfl⟩ := Option.map_eq_some_iff.1 hrow
      have hsound := hs.record hold
      exact ⟨hsound.known, hsound.unattempted, hsound.ofThread, hsound.expected, hsound.accepted,
        hsound.isOver, hsound.successor⟩
    · have hsound := hs.record hrow
      exact ⟨hsound.known, hsound.unattempted, hsound.ofThread, hsound.expected, hsound.accepted,
        hsound.isOver, hsound.successor⟩
  · obtain ⟨hknown, hrecord⟩ := hs.document hdocument hmark
    refine ⟨hknown, fun hunattempted ↦ ?_⟩
    obtain ⟨old, hold, hname⟩ := hrecord hunattempted
    rw [Table.get?_updateKey, hold]
    split_ifs
    · exact ⟨_, rfl, hname⟩
    · exact ⟨old, rfl, hname⟩

theorem HandoffsSound.accepts (hs : s.HandoffsSound)
    (h : AcceptsHandoff jobs jobId successor s t) : t.HandoffsSound := by
  have hpreserves := Jobs.preserves_acceptsHandoff h
  obtain ⟨record, hrecord, hnone, hsame⟩ := h.record
  obtain ⟨v, job, document, owner, workspaceJobId, hinserts, -, heffect⟩ := h.creates
  have hworkspaces : t.workspaces = v.workspaces.updateKey successor (marked jobId workspaceJobId) :=
    heffect.kept.workspaces
  have hsound := hs.record hrecord
  have hover : t.Over jobId := by
    obtain ⟨row, hrow, hexpected⟩ := Option.map_eq_some_iff.1 hsame
    obtain ⟨-, hresult, hsteer⟩ := hsound.expected
    rw [← hexpected] at hresult hsteer
    exact h.ends row hrow hresult hsteer
  have hnew : t.IsSuccessor jobId successor := by
    have hjob := Table.get?_insert? hinserts.jobs successor
    have hdocument := Table.get?_insert? hinserts.workspaces successor
    rw [if_pos rfl] at hjob hdocument
    obtain ⟨job', hjob', -⟩ := heffect.jobs.exists_new hjob
    refine ⟨job', marked jobId workspaceJobId document, ⟨jobId, workspaceJobId⟩, hjob', ?_, rfl, rfl⟩
    rw [hworkspaces, Table.get?_updateKey, if_pos rfl, hdocument]
    rfl
  refine ⟨fun {other row} hrow ↦ ?_, fun {other row mark} hrow hmark ↦ ?_⟩
  · rw [h.handoffs, Table.get?_updateKey] at hrow
    split_ifs at hrow with hother
    · subst hother
      rw [hrecord] at hrow
      obtain rfl := Option.some.inj hrow
      obtain ⟨row, hrow⟩ := hsound.known
      obtain ⟨row', hrow', -⟩ := hpreserves.jobs _ row hrow
      refine ⟨⟨row', hrow'⟩, hpreserves.unattempted hrow hsound.unattempted,
        hsound.ofThread.preserves hpreserves, hsound.expected, ?_, fun _ ↦ hover, ?_⟩
      · simp
      · intro other hother
        obtain rfl := Option.some.inj hother
        exact hnew
    · exact (hs.record hrow).preserves hpreserves fun hold ↦ hold.of_extends h.change.jobs
  · rw [hworkspaces, Table.get?_updateKey] at hrow
    have hget := Table.get?_insert? hinserts.workspaces other
    by_cases hother : other = successor
    · subst hother
      rw [if_pos rfl, hget, if_pos rfl] at hrow
      obtain rfl := Option.some.inj hrow
      obtain rfl := Option.some.inj hmark
      obtain ⟨row, hrow⟩ := hsound.known
      obtain ⟨row', hrow', -⟩ := hpreserves.jobs _ row hrow
      refine ⟨⟨row', hrow'⟩, fun _ ↦
        ⟨{ record with state := .accepted, successorJobId := some other }, ?_, rfl⟩⟩
      rw [h.handoffs, Table.get?_updateKey, if_pos rfl, hrecord]
      rfl
    · rw [if_neg hother, hget, if_neg hother] at hrow
      obtain ⟨⟨old, hold⟩, hnamed⟩ := hs.document hrow hmark
      obtain ⟨old', hold', -⟩ := hpreserves.jobs _ old hold
      refine ⟨⟨old', hold'⟩, fun hunattempted ↦ ?_⟩
      obtain ⟨known, hknown, hname⟩ := hnamed (unattempted_of_preserves hpreserves hunattempted)
      refine ⟨known, ?_, hname⟩
      rw [h.handoffs, Table.get?_updateKey, if_neg]
      · exact hknown
      · intro heq
        rw [heq, hrecord] at hknown
        obtain rfl := Option.some.inj hknown
        rw [hnone] at hname
        contradiction

/-! ### What every operation does to the handoffs -/

theorem steady_elsewhere (h : Jobs.Elsewhere s t) : Steady s t where
  toPreserves := Jobs.preserves_elsewhere h
  handoffs := h.handoffs
  staysOver := by
    rintro jobId - ⟨job, hjob, hover⟩
    obtain ⟨job', hjob', hrow⟩ := h.jobs.exists_new hjob
    refine ⟨job', hjob', ?_⟩
    rcases hrow with rfl | rfl
    · exact hover
    · exact hover
  marks hdocument _ := by
    rw [h.workspaces] at hdocument
    exact .inl hdocument

/-- The jobs and what was written of handoffs stay. -/
structure KeepsHandoffs (s t : Store) : Prop extends Jobs.Preserves s t where
  handoffs : Table.Extends (fun _ ↦ HandoffRecord.Lasts) s.handoffs t.handoffs

theorem KeepsHandoffs.refl (s : Store) : KeepsHandoffs s s :=
  ⟨.refl s, .refl (fun _ ↦ HandoffRecord.Lasts.refl) s.handoffs⟩

theorem KeepsHandoffs.trans (h : KeepsHandoffs s t) (h' : KeepsHandoffs t u) :
    KeepsHandoffs s u :=
  ⟨h.toPreserves.trans h'.toPreserves, h.handoffs.comp h'.handoffs HandoffRecord.Lasts.trans⟩

end Store

namespace Jobs

open Store

variable {jobs : JobsEnv} {moment : Moment} {s t : Store} {op : Operation}

/-- What an operation can do to the handoffs. -/
inductive Handed (jobs : JobsEnv) (s t : Store) : Prop
  | steady (h : Steady s t)
  | claims {jobId : JobId} {record : HandoffRecord} (hnone : s.attempts.get? jobId = none)
      (h : ClaimsHandoff jobId record s t)
  | retires {jobId : JobId} (h : RetiresWorker jobId s t)
  | accepts {jobId successor : JobId} (h : AcceptsHandoff jobs jobId successor s t)

theorem unattempted_of_permitted {jobId : JobId} (hop : op.Permitted s)
    (hclaims : op.handoff? = some jobId) : s.attempts.get? jobId = none := by
  cases op <;> simp only [Operation.handoff?, Option.some.injEq, reduceCtorEq] at hclaims
  case claimJobHandoff =>
    subst hclaims
    exact hop

theorem Deed.handed (hs : s.Numbered) (hop : op.Permitted s) (h : Deed jobs moment op s t) :
    Handed jobs s t := by
  cases h with
  | effect h => exact .steady (steady_effect h)
  | claims h => exact .steady (steady_claims hs h)
  | recovers h =>
      rw [h]
      exact .steady (steady_recoverStaleJobs moment.now s)
  | creates h hadmission =>
      refine .steady (steady_inserts (.of_inserts h) h ⟨rfl, .of_eq rfl rfl rfl rfl⟩ ?_)
      intro mark hmark
      rw [hadmission.mark] at hmark
      contradiction
  | founds h =>
      obtain ⟨u, job, document, owner, hinserts, hadmission, -, halike⟩ := h.creates
      refine .steady (steady_inserts (preserves_founds h) hinserts halike fun mark hmark ↦ ?_)
      rw [hadmission.mark] at hmark
      contradiction
  | replaces h => exact .steady (steady_replaces hs h)
  | claimsHandoff hclaims h => exact .claims (unattempted_of_permitted hop hclaims) h
  | retiresWorker h => exact .retires h
  | acceptsHandoff h => exact .accepts h

theorem Handed.handoffsSound (h : Handed jobs s t) (hs : s.HandoffsSound) : t.HandoffsSound := by
  cases h with
  | steady h => exact hs.steady h
  | claims hnone h => exact hs.claims hnone h
  | retires h => exact hs.retires h
  | accepts h => exact hs.accepts h

theorem Handed.keepsHandoffs (h : Handed jobs s t) : KeepsHandoffs s t := by
  cases h with
  | steady h =>
      refine ⟨h.toPreserves, ?_⟩
      rw [h.handoffs]
      exact .refl (fun _ ↦ HandoffRecord.Lasts.refl) s.handoffs
  | claims _ h =>
      refine ⟨preserves_claimsHandoff h, ?_⟩
      exact Table.extends_insert? (fun _ ↦ HandoffRecord.Lasts.refl) h.handoffs
  | retires h =>
      refine ⟨preserves_retiresWorker h, fun jobId record hrecord ↦ ?_⟩
      rw [h.eq, Table.get?_updateKey, hrecord]
      split_ifs
      · exact ⟨_, rfl, rfl, fun _ ↦ rfl, id⟩
      · exact ⟨record, rfl, .refl record⟩
  | accepts h =>
      obtain ⟨known, hknown, hnone, -⟩ := h.record
      refine ⟨preserves_acceptsHandoff h, fun jobId record hrecord ↦ ?_⟩
      rw [h.handoffs, Table.get?_updateKey, hrecord]
      split_ifs with hjobId
      · subst hjobId
        obtain rfl := Option.some.inj (hrecord.symm.trans hknown)
        refine ⟨_, rfl, rfl, id, fun hsuccessor ↦ ?_⟩
        rw [hnone] at hsuccessor
        contradiction
      · exact ⟨record, rfl, .refl record⟩

/-! ### Retirements -/

namespace Executed

variable {e : Executed} {jobId : JobId}

/-- The job whose worker the operation authorised to retire. -/
def retires? (e : Executed) : Option JobId :=
  match e.operation with
  | .beginHandoffRetirement jobId eventId =>
      match e.before.beginHandoffRetirement jobId eventId e.moment.files with
      | .ok (true, _) => some jobId
      | _ => none
  | _ => none

theorem retiresWorker_of_retires? (h : e.Ran jobs) (hretires : e.retires? = some jobId) :
    RetiresWorker jobId e.before e.after := by
  unfold retires? at hretires
  split at hretires
  · rename_i eventId hoperation
    split at hretires
    · rename_i t hbegin
      obtain rfl := Option.some.inj hretires
      obtain ⟨r, hrun⟩ := h.of_eq hoperation
      obtain ⟨-, rfl⟩ := Prod.mk.inj (Except.ok.inj (hbegin.symm.trans hrun))
      rcases retiresWorker_beginHandoffRetirement hbegin with ⟨-, hretired⟩ | ⟨hfalse, -⟩
      · exact hretired
      · contradiction
    · contradiction
  · contradiction

end Executed

/-- The retirement of the worker of the job was authorised. -/
def Retiring (s : Store) (jobId : JobId) : Prop :=
  ∃ record, s.handoffs.get? jobId = some record ∧ record.retirementState = .attempting

theorem Retiring.keeps {jobId : JobId} (hs : Retiring s jobId) (h : KeepsHandoffs s t) :
    Retiring t jobId := by
  obtain ⟨record, hrecord, hstate⟩ := hs
  obtain ⟨record', hrecord', hlasts⟩ := h.handoffs jobId record hrecord
  exact ⟨record', hrecord', hlasts.retirement hstate⟩

theorem not_retiring_before {jobId : JobId} (h : RetiresWorker jobId s t) : ¬Retiring s jobId := by
  rintro ⟨record, hrecord, hstate⟩
  obtain ⟨known, hknown, hunsent⟩ := h.unsent
  obtain rfl := Option.some.inj (hrecord.symm.trans hknown)
  rw [hunsent] at hstate
  contradiction

theorem retiring_after {jobId : JobId} (h : RetiresWorker jobId s t) : Retiring t jobId := by
  obtain ⟨record, hrecord, -⟩ := h.unsent
  refine ⟨{ record with retirementState := .attempting }, ?_, rfl⟩
  rw [h.eq, Table.get?_updateKey, if_pos rfl, hrecord]
  rfl

/-! ### Worlds -/

/-- The handoffs have agreed with the jobs all along, and no retirement was authorised twice. -/
structure World.Handing (jobs : JobsEnv) (w : World) : Prop where
  sound : w.Sound jobs
  store : w.store.HandoffsSound
  past : ∀ e ∈ w.executed, e.before.HandoffsSound ∧ e.after.HandoffsSound
  later : ∀ e ∈ w.executed, KeepsHandoffs e.before w.store ∧ KeepsHandoffs e.after w.store
  retired : ∀ jobId ∈ w.executed.filterMap Executed.retires?, Retiring w.store jobId
  once : (w.executed.filterMap Executed.retires?).Nodup

variable {w w' : World}

theorem handoffsSound_fresh : Store.fresh.HandoffsSound where
  record h := by simp [Store.fresh] at h
  document h := by simp [Store.fresh] at h

/-- Everything that is not an operation takes no step of a handoff. -/
theorem World.Handing.of_steady (hw : w.Handing jobs) (hsound : w'.Sound jobs)
    (h : Steady w.store w'.store) (hexecuted : w'.executed = w.executed) : w'.Handing jobs := by
  have hhanded : Handed jobs w.store w'.store := .steady h
  have hkeeps := hhanded.keepsHandoffs
  refine ⟨hsound, hw.store.steady h, ?_, ?_, ?_, ?_⟩ <;> rw [hexecuted]
  · exact hw.past
  · intro e he
    obtain ⟨hbefore, hafter⟩ := hw.later e he
    exact ⟨hbefore.trans hkeeps, hafter.trans hkeeps⟩
  · exact fun jobId hjobId ↦ (hw.retired jobId hjobId).keeps hkeeps
  · exact hw.once

theorem World.Handing.record (hw : w.Handing jobs) {r : op.Reply} (hop : op.Permitted w.store)
    (h : op.run jobs w.moment w.store = .ok (r, t)) : (w.record op t).Handing jobs := by
  have hhanded := (deed_run h).handed hw.sound.store.toNumbered hop
  have hkeeps := hhanded.keepsHandoffs
  have hsound := hhanded.handoffsSound hw.store
  have hran : Executed.Ran jobs ⟨w.store, w.moment, op, t⟩ := ⟨r, h⟩
  refine ⟨hw.sound.record h, hsound, ?_, ?_, ?_, ?_⟩
  · exact List.forall_mem_cons.2 ⟨⟨hw.store, hsound⟩, hw.past⟩
  · refine List.forall_mem_cons.2 ⟨⟨hkeeps, .refl t⟩, fun e he ↦ ?_⟩
    obtain ⟨hbefore, hafter⟩ := hw.later e he
    exact ⟨hbefore.trans hkeeps, hafter.trans hkeeps⟩
  · intro jobId hjobId
    simp only [World.record, List.filterMap_cons] at hjobId
    split at hjobId
    · exact (hw.retired jobId hjobId).keeps hkeeps
    · rename_i retired hretires
      rcases List.mem_cons.1 hjobId with rfl | hold
      · exact retiring_after (Executed.retiresWorker_of_retires? hran hretires)
      · exact (hw.retired jobId hold).keeps hkeeps
  · simp only [World.record, List.filterMap_cons]
    split
    · exact hw.once
    · rename_i retired hretires
      refine List.nodup_cons.2 ⟨fun hold ↦ ?_, hw.once⟩
      have hnew := Executed.retiresWorker_of_retires? hran hretires
      exact not_retiring_before hnew (hw.retired retired hold)

theorem invariant_handing : Invariant jobs (World.Handing jobs) where
  numbered hw := hw.sound.store.toNumbered
  initial := by
    intro w hstore hexecuted
    refine ⟨invariant_sound.initial hstore hexecuted, ?_, ?_, ?_, ?_, ?_⟩ <;> try rw [hexecuted]
    · rw [hstore]
      exact handoffsSound_fresh
    all_goals simp
  happens := by
    intro w w' h hw
    have hsound := invariant_sound.happens h hw.sound
    cases h with
    | operation hop hrun => exact hw.record hop hrun
    | elsewhere helse => exact hw.of_steady hsound (steady_elsewhere helse) rfl
    | moment moment => exact hw.of_steady hsound (steady_refl w.store) rfl
  congr := by
    intro w w' hstore hmoment hexecuted hw
    have hsound := invariant_sound.congr hstore hmoment hexecuted hw.sound
    refine hw.of_steady hsound ?_ hexecuted
    rw [hstore]
    exact steady_refl w.store

/-- The tables that the world has seen are sound, and what they say of handoffs is kept. -/
theorem World.Handing.stores (hw : w.Handing jobs) :
    ∀ s ∈ w.stores, s.HandoffsSound ∧ KeepsHandoffs s w.store := by
  intro s hs
  simp only [World.stores, List.mem_cons, List.mem_flatMap, List.not_mem_nil, or_false] at hs
  rcases hs with rfl | ⟨e, he, rfl | rfl⟩
  · exact ⟨hw.store, .refl w.store⟩
  · exact ⟨(hw.past e he).1, (hw.later e he).1⟩
  · exact ⟨(hw.past e he).2, (hw.later e he).2⟩

/-! ### Atomicity -/

/-- The job continues the work of another one that is no attempt at a task. -/
def HandedTo (s : Store) (jobId successor : JobId) : Prop :=
  s.attempts.get? jobId = none ∧ s.IsSuccessor jobId successor

/-- The handoff of the job is accepted, with this successor. -/
def AcceptedAs (s : Store) (jobId successor : JobId) : Prop :=
  ∃ record, s.handoffs.get? jobId = some record ∧ record.state = .accepted ∧
    record.successorJobId = some successor

/-- A job whose handoff is accepted was cancelled without a result, and no notice is sent of it. -/
def EndsSilently (jobs : JobsEnv) (s : Store) : Prop :=
  ∀ jobId successor, AcceptedAs s jobId successor →
    (∃ job, s.db.jobs.get? jobId = some job ∧ job.status = .cancelled ∧ job.result = none ∧
      s.needsNotification jobId job = false) ∧
    ∀ now r, s.enqueueJobNotification jobs jobId now ≠ .ok r

/-- The tables after an operation: those that it wrote, or those that were there when it throws. -/
def Operation.commit (jobs : JobsEnv) (moment : Moment) (op : Operation) (s : Store) : Store :=
  match op.run jobs moment s with
  | .ok (_, t) => t
  | .error _ => s

/-- While the handoff has no successor, it is not finished if the row of the job is another one
than its claim left. -/
def GuardsRow (jobs : JobsEnv) (claimed s : Store) (jobId : JobId) : Prop :=
  ∀ record, s.handoffs.get? jobId = some record → record.successorJobId = none →
    s.snapshot? jobId ≠ claimed.snapshot? jobId →
    ∀ eventId moment, (∀ r, (Operation.finishJobHandoff jobId eventId).run jobs moment s ≠ .ok r) ∧
      (Operation.finishJobHandoff jobId eventId).commit jobs moment s = s

theorem commit_of_fails (h : ∀ r, op.run jobs moment s ≠ .ok r) : op.commit jobs moment s = s := by
  unfold Operation.commit
  split
  · rename_i hrun
    exact absurd hrun (h _)
  · rfl

theorem handedTo_iff (hs : s.HandoffsSound) (jobId successor : JobId) :
    HandedTo s jobId successor ↔ AcceptedAs s jobId successor := by
  constructor
  · rintro ⟨hnone, job, document, mark, -, hdocument, hmark, rfl⟩
    obtain ⟨-, hrecord⟩ := hs.document hdocument hmark
    obtain ⟨record, hrecord, hsuccessor⟩ := hrecord hnone
    refine ⟨record, hrecord, (hs.record hrecord).accepted.2 ?_, hsuccessor⟩
    rw [hsuccessor]
    rfl
  · rintro ⟨record, hrecord, -, hsuccessor⟩
    have hsound := hs.record hrecord
    exact ⟨hsound.unattempted, hsound.successor hsuccessor⟩

theorem AcceptedAs.keeps {jobId successor : JobId} (h : AcceptedAs s jobId successor)
    (hkeeps : KeepsHandoffs s t) (ht : t.HandoffsSound) : AcceptedAs t jobId successor := by
  obtain ⟨record, hrecord, -, hsuccessor⟩ := h
  obtain ⟨record', hrecord', hlasts⟩ := hkeeps.handoffs jobId record hrecord
  have hsuccessor' := hlasts.successor hsuccessor
  refine ⟨record', hrecord', (ht.record hrecord').accepted.2 ?_, hsuccessor'⟩
  rw [hsuccessor']
  rfl

/-- A notice of the job would say that its owner is a schedule, or that there is no handoff. -/
theorem not_enqueueJobNotification {jobId : JobId} {record : HandoffRecord}
    (hrecord : s.handoffs.get? jobId = some record) (haccepted : record.state = .accepted)
    (hthread : s.OfThread jobId) {now : Int} {r : Unit × Store} :
    s.enqueueJobNotification jobs jobId now ≠ .ok r := by
  intro h
  simp only [enqueueJobNotification, Db.assertJobSourceMatchesThread, bind_eq_ok, throwIf_eq_ok,
    Bool.not_eq_false] at h
  obtain ⟨job, -, _, hmatches, h⟩ := h
  split_ifs at h with hschedule
  · obtain ⟨binding, hbinding, hkind⟩ := (Option.any_eq_true ..).1 hschedule
    obtain ⟨source, hsource, howners⟩ := (Option.any_eq_true ..).1 hmatches
    obtain ⟨owner, howner, hsame⟩ := (Option.any_eq_true ..).1 howners
    obtain ⟨row, hrow, hplain⟩ := hthread
    rw [binding?] at hbinding
    rw [hrow] at howner
    obtain rfl := Option.some.inj howner
    rw [Db.sourceOwner?, hbinding] at hsource
    obtain rfl := Option.some.inj hsource
    cases hbinding' : binding.owner with
    | slackThread thread =>
        rw [hbinding'] at hkind
        contradiction
    | schedule tenantId ownerId scheduleId runId revision =>
        cases hrow' : row.2.owner with
        | slackThread thread =>
            simp [Db.sameOwner, hbinding', hrow'] at hsame
        | schedule =>
            rw [hrow'] at hplain
            contradiction
  · simp only [enqueueRegularJobNotification, bind_eq_ok, throwIf_eq_ok] at h
    obtain ⟨-, -, _, hnotaccepted, -⟩ := h
    apply hnotaccepted
    rw [hrecord]
    simp [haccepted]

theorem endsSilently_of_sound (hs : s.HandoffsSound) : EndsSilently jobs s := by
  rintro jobId successor ⟨record, hrecord, haccepted, -⟩
  have hsound := hs.record hrecord
  obtain ⟨job, hjob, hstatus, hresult, -⟩ := hsound.isOver haccepted
  refine ⟨⟨job, hjob, hstatus, hresult, ?_⟩, fun now r ↦ ?_⟩
  · simp [needsNotification, hrecord, haccepted]
  · exact not_enqueueJobNotification hrecord haccepted hsound.ofThread

theorem claimsHandoff_run {jobId : JobId} {r : op.Reply} (h : op.run jobs moment s = .ok (r, t))
    (hclaims : op.handoff? = some jobId) : ∃ record, ClaimsHandoff jobId record s t := by
  cases op <;> simp only [Operation.handoff?, Option.some.injEq, reduceCtorEq] at hclaims
  case claimJobHandoff =>
    subst hclaims
    exact claimsHandoff_claimJobHandoff h

theorem guardsRow_of_ran {e : Executed} {jobId : JobId} (h : e.Ran jobs)
    (hclaims : e.operation.handoff? = some jobId) (hafter : KeepsHandoffs e.after w.store)
    (hs : KeepsHandoffs s w.store) : GuardsRow jobs e.after s jobId := by
  intro record hrecord hnone hchanged eventId moment
  have hnoted : e.after.snapshot? jobId = some record.expectedJob := by
    obtain ⟨r, hrun⟩ := h
    obtain ⟨known, hknown⟩ := claimsHandoff_run hrun hclaims
    have hclaimed := Table.get?_insert? hknown.handoffs jobId
    rw [if_pos rfl] at hclaimed
    obtain ⟨row, hrow, hlasts⟩ := hafter.handoffs jobId known hclaimed
    obtain ⟨row', hrow', hlasts'⟩ := hs.handoffs jobId record hrecord
    obtain rfl := Option.some.inj (hrow.symm.trans hrow')
    rw [hknown.snapshot, ← hlasts.expectedJob, hlasts'.expectedJob]
  rw [hnoted] at hchanged
  have hfails : ∀ r, (Operation.finishJobHandoff jobId eventId).run jobs moment s ≠ .ok r :=
    fun r ↦ finishJobHandoff_of_changed hrecord hnone hchanged
  exact ⟨hfails, commit_of_fails hfails⟩

/-- In every run of the operations and of the supervisor, with any crashes: a job has a successor
exactly when its handoff is accepted, never two, and is then over without a result and without a
notice; no retirement is authorised twice; and a handoff whose job changed after its claim is not
finished. -/
theorem handoffs_atomic {P : Pool World Call.Reply String ℕ} (h : (system jobs).Reachable P) :
    (∀ s ∈ P.shared.stores,
      (∀ jobId successor, HandedTo s jobId successor ↔ AcceptedAs s jobId successor) ∧
      (∀ jobId successor, HandedTo s jobId successor → HandedTo P.shared.store jobId successor) ∧
      EndsSilently jobs s) ∧
    (∀ jobId successor other, HandedTo P.shared.store jobId successor →
      HandedTo P.shared.store jobId other → other = successor) ∧
    (P.shared.executed.filterMap Executed.retires?).Nodup ∧
    (∀ e ∈ P.shared.executed, ∀ jobId, e.operation.handoff? = some jobId →
      ∀ s ∈ P.shared.stores, GuardsRow jobs e.after s jobId) := by
  have hw : P.shared.Handing jobs := invariant_handing.of_reachable h
  refine ⟨fun s hs ↦ ?_, fun jobId successor other hsuccessor hother ↦ ?_, hw.once,
    fun e he jobId hclaims s hs ↦ ?_⟩
  · obtain ⟨hsound, hkeeps⟩ := hw.stores s hs
    refine ⟨handedTo_iff hsound, fun jobId successor hsuccessor ↦ ?_, endsSilently_of_sound hsound⟩
    rw [handedTo_iff hw.store]
    exact ((handedTo_iff hsound jobId successor).1 hsuccessor).keeps hkeeps hw.store
  · obtain ⟨record, hrecord, -, hname⟩ := (handedTo_iff hw.store _ _).1 hsuccessor
    obtain ⟨record', hrecord', -, hname'⟩ := (handedTo_iff hw.store _ _).1 hother
    obtain rfl := Option.some.inj (hrecord.symm.trans hrecord')
    exact Option.some.inj (hname'.symm.trans hname)
  · exact guardsRow_of_ran (hw.sound.ran e he) hclaims (hw.later e he).2 (hw.stores s hs).2

namespace Sample

def plainRequest : CreateJobRequest where
  sourceEventId := "E1"
  jobKey := some "plain"
  objective := "do it"
  workspace := .scratch

/-- A job whose worker is idle is handed off. -/
def handoff : List Act :=
  [.arrives "E1", .arrives "E2", .runs (.createJob plainRequest), .runs (.beginJobPreparation "job_0"),
    .runs (.beginJobDispatch "job_0"), .runs (.markJobRunning "job_0"),
    .onJob "job_0" (.claimJobHandoff "job_0" · "E2" "go on" idle),
    .runs (.beginHandoffRetirement "job_0" "E2"), .runs (.finishJobHandoff "job_0" "E2")]

end Sample

theorem handoffs_atomic_handoff : ∃ P : Pool World Call.Reply String ℕ,
    (P.shared.store.handoffs.get? "job_0").map HandoffRecord.summary =
      some (.accepted, .attempting, some "job_1") ∧
    ((∀ s ∈ P.shared.stores,
        (∀ jobId successor, HandedTo s jobId successor ↔ AcceptedAs s jobId successor) ∧
        (∀ jobId successor, HandedTo s jobId successor → HandedTo P.shared.store jobId successor) ∧
        EndsSilently Sample.env s) ∧
      (∀ jobId successor other, HandedTo P.shared.store jobId successor →
        HandedTo P.shared.store jobId other → other = successor) ∧
      (P.shared.executed.filterMap Executed.retires?).Nodup ∧
      (∀ e ∈ P.shared.executed, ∀ jobId, e.operation.handoff? = some jobId →
        ∀ s ∈ P.shared.stores, GuardsRow Sample.env e.after s jobId)) := by
  obtain ⟨P, hP, hsummary⟩ := Sample.exists_reachable Sample.handoff
    (f := fun w ↦ (w.store.handoffs.get? "job_0").map HandoffRecord.summary)
    (c := some (.accepted, .attempting, some "job_1")) (by decide +kernel)
  exact ⟨P, hsummary, handoffs_atomic hP⟩

end Jobs

end Dona
