import Dona.Jobs.Effects

/-!
# What the steps of a handoff do

The claim begins the cancellation of the job and notes the row that it leaves. The acceptance
creates the successor and ends the job, as long as that row is what the claim left.
-/

namespace Dona

open Fallible

namespace Store

variable {who : JobId → Prop} {s t u : Store} {jobId : JobId} {jobs : JobsEnv} {eventId : EventId}
  {now : Int} {r : Unit}

/-- A job that was cancelled without a result, and that is not being steered. -/
def Over (s : Store) (jobId : JobId) : Prop :=
  ∃ job, s.db.jobs.get? jobId = some job ∧ job.status = .cancelled ∧ job.result = none ∧
    job.steerState ≠ some .dispatching

theorem Over.known (h : s.Over jobId) : ∃ job, s.db.jobs.get? jobId = some job := by
  obtain ⟨job, hjob, -⟩ := h
  exact ⟨job, hjob⟩

theorem Over.of_extends (hjobs : Table.Extends (fun _ ↦ JobRow.Moves) s.db.jobs t.db.jobs)
    (h : s.Over jobId) : t.Over jobId := by
  obtain ⟨job, hjob, hstatus, hresult, hsteer⟩ := h
  obtain ⟨job', hjob', hmoves⟩ := hjobs jobId job hjob
  have hterminal : job.status.isTerminal = true := by
    rw [hstatus]
    rfl
  obtain ⟨hstatus', hresult'⟩ := hmoves.ended hterminal
  exact ⟨job', hjob', hstatus'.trans hstatus, hresult'.trans hresult,
    hmoves.steer hterminal hsteer⟩

/-- The jobs and the rows that belong to them are what they were. -/
structure Alike (s t : Store) : Prop where
  jobs : t.db.jobs = s.db.jobs
  kept : Kept s t

/-! ### The claim -/

/-- The owner of the job is a thread. -/
def OfThread (s : Store) (jobId : JobId) : Prop :=
  ∃ owner, s.db.ownerBindings.get? jobId = some owner ∧ owner.2.owner.isSchedule = false

theorem ofThread_of_assertHandoffOwner (h : s.assertHandoffOwner jobId eventId = .ok r) :
    s.OfThread jobId := by
  simp only [assertHandoffOwner, assertControl, Db.assertJobSourceMatchesThread,
    assertJobSteerAllowed, bind_eq_ok, throwIf_eq_ok, Bool.not_eq_true, Bool.not_eq_false] at h
  obtain ⟨_, hmatches, _, hthread, -⟩ := h
  obtain ⟨source, -, hsource⟩ := (Option.any_eq_true ..).1 hmatches
  obtain ⟨owner, howner, -⟩ := (Option.any_eq_true ..).1 hsource
  obtain ⟨row, hrow, rfl⟩ := Option.map_eq_some_iff.1 howner
  exact ⟨row, hrow, (Option.any_eq_false ..).1 hthread row hrow⟩

/-- A handoff is claimed: the cancellation of the job begins, and the row of the job is noted. -/
structure ClaimsHandoff (jobId : JobId) (record : HandoffRecord) (s t : Store) : Prop where
  effect : Effect (· = jobId) s { t with handoffs := s.handoffs }
  handoffs : s.handoffs.insert? jobId record = some t.handoffs
  fresh : record.state = .claimed ∧ record.retirementState = .notSent ∧
    record.successorJobId = none
  snapshot : t.snapshot? jobId = some record.expectedJob
  expected : record.expectedJob.1.status = .cancelling ∧ record.expectedJob.1.result = none ∧
    record.expectedJob.1.steerState ≠ some .dispatching
  ofThread : s.OfThread jobId

theorem claimsHandoff_claimJobHandoff {expected : JobRow × Option String} {instruction : String}
    {observation : WorkerObservation}
    (h : s.claimJobHandoff jobs jobId expected eventId instruction observation now = .ok (r, t)) :
    ∃ record, ClaimsHandoff jobId record s t := by
  simp only [claimJobHandoff, insertHandoff, Db.getJobRequired, bind_eq_ok, orThrow_eq_ok,
    throwIf_eq_ok, not_or, not_not, ne_eq, Except.ok.injEq, Prod.mk.injEq] at h
  obtain ⟨_, howner, _, -, job, hjob, _, ⟨-, hstatus, hresult, hsteer, -, -⟩, ⟨_, s₁⟩, hcancel,
    noted, hnoted, _, ⟨handoffs, hinsert, rfl⟩, -, rfl⟩ := h
  have hs₁ : Effect (· = jobId) s s₁ := effect_beginJobCancellation hcancel
  have hcode : Effect (· = jobId) s₁ (s₁.updateJobRow jobId fun job ↦
      { job with lastErrorCode := some "handoff_retirement_pending", lastErrorMessage := none }) :=
    effect_errorCode fun _ ↦ ⟨rfl, rfl, rfl, rfl⟩
  have hlive : job.status ≠ .cancelled := by
    intro hcancelled
    rw [hcancelled] at hstatus
    exact hstatus (by decide)
  obtain ⟨job₁, hjob₁, hstatus₁, hresult₁, hsteer₁⟩ := get?_beginJobCancellation hjob hlive hcancel
  have hnotedJob : noted.1 = { job₁ with
      lastErrorCode := some "handoff_retirement_pending", lastErrorMessage := none } := by
    simp only [snapshot?, updateJobRow, updateDb, Table.get?_updateKey, if_true, hjob₁,
      Option.map_some, Option.some.injEq] at hnoted
    rw [← hnoted]
  have heffect := hs₁.trans hcode
  have hhandoffs : s₁.handoffs = s.handoffs := hs₁.kept.handoffs
  refine ⟨{ sourceEventId := eventId, instruction := instruction, expectedJob := noted
            observation := observation, createdAt := .toIso now },
    ⟨heffect.jobs, heffect.tasks, heffect.attempts, ?_⟩, ?_, ⟨rfl, rfl, rfl⟩, hnoted, ?_,
    ofThread_of_assertHandoffOwner howner⟩
  · exact ⟨heffect.kept.owners, heffect.kept.bindings, heffect.kept.workspaces, rfl⟩
  · rw [← hhandoffs]
    exact hinsert
  · rw [hnotedJob]
    exact ⟨hstatus₁, hresult₁.trans hresult, fun hdispatching ↦ hsteer (hsteer₁ ▸ hdispatching)⟩

theorem ClaimsHandoff.change {record : HandoffRecord} (h : ClaimsHandoff jobId record s t) :
    Change (· = jobId) s t := ⟨h.effect.jobs.extends, h.effect.tasks, h.effect.attempts⟩

/-! ### The retirement -/

/-- The retirement of the worker is authorised. -/
structure RetiresWorker (jobId : JobId) (s t : Store) : Prop where
  unsent : ∃ record, s.handoffs.get? jobId = some record ∧ record.retirementState = .notSent
  eq : t = { s with
    handoffs := s.handoffs.updateKey jobId fun record ↦
      { record with retirementState := .attempting } }

theorem retiresWorker_beginHandoffRetirement {files : JobId → Bool} {may : Bool}
    (h : s.beginHandoffRetirement jobId eventId files = .ok (may, t)) :
    (may = true ∧ RetiresWorker jobId s t) ∨ (may = false ∧ t = s) := by
  simp only [beginHandoffRetirement, bind_eq_ok, orThrow_eq_ok] at h
  obtain ⟨_, -, record, hrecord, _, -, h⟩ := h
  split_ifs at h with hunsent
  · obtain ⟨rfl, rfl⟩ := Prod.mk.inj (Except.ok.inj h)
    exact .inl ⟨rfl, ⟨record, hrecord, hunsent.2⟩, rfl⟩
  · obtain ⟨rfl, rfl⟩ := Prod.mk.inj (Except.ok.inj h)
    exact .inr ⟨rfl, rfl⟩

theorem RetiresWorker.change (h : RetiresWorker jobId s t) : Change who s t := by
  rw [h.eq]
  exact .of_jobs (evolves_jobs_refl _).extends rfl rfl

/-! ### The acceptance -/

/-- The document of the successor names the job. -/
def marked (jobId workspaceJobId : JobId) (document : WorkspaceDocument) : WorkspaceDocument :=
  { document with handoff := some ⟨jobId, workspaceJobId⟩ }

/-- A handoff is accepted: the successor is created, and the job is over. -/
structure AcceptsHandoff (jobs : JobsEnv) (jobId successor : JobId) (s t : Store) : Prop where
  record : ∃ record, s.handoffs.get? jobId = some record ∧ record.successorJobId = none ∧
    s.snapshot? jobId = some record.expectedJob
  creates : ∃ u job document owner workspaceJobId, Inserts successor job document owner s u ∧
    Admission jobs s job document owner ∧
    Effect (· = jobId)
      { u with workspaces := u.workspaces.updateKey successor (marked jobId workspaceJobId) }
      { t with handoffs := s.handoffs }
  handoffs : t.handoffs = s.handoffs.updateKey jobId fun record ↦
    { record with state := .accepted, successorJobId := some successor }
  ends : ∀ job, s.db.jobs.get? jobId = some job → job.result = none →
    job.steerState ≠ some .dispatching → t.Over jobId

theorem acceptsHandoff_acceptHandoff {record : HandoffRecord} {successor : JobId}
    (hrecord : s.handoffs.get? jobId = some record) (hnone : record.successorJobId = none)
    (hsame : s.snapshot? jobId = some record.expectedJob)
    (h : s.acceptHandoff jobs jobId record eventId now = .ok (successor, t)) :
    AcceptsHandoff jobs jobId successor s t := by
  simp only [acceptHandoff, Db.getJobRequired, bind_eq_ok, orThrow_eq_ok, throwIf_eq_ok,
    Bool.not_eq_true, Except.ok.injEq, Prod.mk.injEq] at h
  obtain ⟨old, hold, document, -, ⟨outcome, s₁⟩, hcreate, created, hcreated, _, hfresh,
    ⟨_, s₂⟩, hcancel, rfl, rfl⟩ := h
  have houtcome : outcome = some ⟨created.jobId, false⟩ := by
    rw [← hfresh]
    exact hcreated
  cases creates_createJob hcreate with
  | same _ hresult => exact absurd houtcome (hresult created.jobId)
  | @inserts newId job newDocument owner hinserts hadmission hresult _ =>
      obtain rfl : newId = created.jobId := by
        rw [hresult] at houtcome
        exact congrArg CreateJobResult.jobId (Option.some.inj houtcome)
      have hcancelled : Effect (· = jobId) _ s₂ := effect_markJobCancelled hcancel
      have hsteer : Effect (· = jobId) s₂ (s₂.markTerminalAcceptedSteerStopped jobId now) :=
        effect_markTerminalAcceptedSteerStopped
      have hcode : Effect (· = jobId) _ ((s₂.markTerminalAcceptedSteerStopped jobId now).updateJobRow
          jobId fun job ↦ { job with lastErrorCode := some "handed_off" }) :=
        effect_errorCode fun _ ↦ ⟨rfl, rfl, rfl, rfl⟩
      have hproof := (hsteer.trans hcode).trans
        (untouched_markTerminalWorkerStopProof jobId now _).effect
      have hend := hproof.trans (untouched_setCleanup jobId .stopped now _).effect
      have hall := hcancelled.trans hend
      have hhandoffs : s₁.handoffs = s.handoffs := hinserts.handoffs
      have hkept := hall.kept.handoffs.trans hhandoffs
      refine ⟨⟨record, hrecord, hnone, hsame⟩, ⟨s₁, job, newDocument, owner, _, hinserts,
        hadmission, hall.jobs, hall.tasks, hall.attempts, ?_⟩, ?_, ?_⟩
      · exact ⟨hall.kept.owners, hall.kept.bindings, hall.kept.workspaces, hhandoffs.symm⟩
      · simp only [hkept]
      · intro row hrow hresult hnot
        obtain ⟨job₁, job₂, hjob₁, hjob₂, hstatus₂, hresult₂, hsteer₂⟩ := get?_markJobCancelled hcancel
        have hne : jobId ≠ created.jobId := by
          rintro rfl
          rw [Table.get?_eq_none_of_insert? hinserts.jobs] at hrow
          contradiction
        have hget : s₁.db.jobs.get? jobId = some row := by
          rw [Table.get?_insert? hinserts.jobs, if_neg hne]
          exact hrow
        obtain rfl := Option.some.inj (hget.symm.trans hjob₁)
        have hover : s₂.Over jobId := ⟨job₂, hjob₂, hstatus₂, hresult₂.trans hresult, hsteer₂ hnot⟩
        exact hover.of_extends hend.change.jobs

theorem acceptsHandoff_finishJobHandoff {files : JobId → Bool} {successor : JobId}
    (h : s.finishJobHandoff jobs jobId eventId files now = .ok (successor, t)) :
    AcceptsHandoff jobs jobId successor s t ∨
      (t = s ∧ ∃ record, s.handoffs.get? jobId = some record ∧
        record.successorJobId = some successor) := by
  simp only [finishJobHandoff, assertUnchanged, bind_eq_ok, orThrow_eq_ok] at h
  obtain ⟨_, -, record, hrecord, h⟩ := h
  split at h
  · rename_i known hknown
    obtain ⟨rfl, rfl⟩ := Prod.mk.inj (Except.ok.inj h)
    exact .inr ⟨rfl, record, hrecord, hknown⟩
  · rename_i hnone
    simp only [bind_eq_ok, throwIf_eq_ok, not_not, ne_eq] at h
    obtain ⟨_, ⟨_, hsame, -⟩, haccept⟩ := h
    exact .inl (acceptsHandoff_acceptHandoff hrecord hnone hsame haccept)

/-- A handoff whose job is not as the claim left it is not accepted. -/
theorem finishJobHandoff_of_changed {files : JobId → Bool} {record : HandoffRecord}
    (hrecord : s.handoffs.get? jobId = some record) (hnone : record.successorJobId = none)
    (hchanged : s.snapshot? jobId ≠ some record.expectedJob) {r : JobId × Store} :
    s.finishJobHandoff jobs jobId eventId files now ≠ .ok r := by
  intro h
  obtain ⟨successor, t⟩ := r
  rcases acceptsHandoff_finishJobHandoff h with haccept | ⟨-, known, hknown, hsuccessor⟩
  · obtain ⟨known, hknown, -, hsame⟩ := haccept.record
    obtain rfl := Option.some.inj (hrecord.symm.trans hknown)
    exact hchanged hsame
  · obtain rfl := Option.some.inj (hrecord.symm.trans hknown)
    rw [hnone] at hsuccessor
    contradiction

theorem AcceptsHandoff.change {successor : JobId} (h : AcceptsHandoff jobs jobId successor s t) :
    Change (· = jobId) s t := by
  obtain ⟨u, job, document, owner, workspaceJobId, hinserts, -, heffect⟩ := h.creates
  have hmarked : Change (· = jobId)
      { u with workspaces := u.workspaces.updateKey successor (marked jobId workspaceJobId) }
      { t with handoffs := s.handoffs } := heffect.change
  have hcreated : Change (· = jobId) s u := hinserts.change
  exact hcreated.trans ⟨hmarked.jobs, hmarked.tasks, hmarked.attempts⟩

end Store

end Dona
