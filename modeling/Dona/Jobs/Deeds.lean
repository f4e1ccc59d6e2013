import Dona.Jobs.Attempts

/-!
# What each operation does

Every operation either keeps the jobs that there are and moves their rows, or it is one of the few
that create a job or take a step of a handoff.
-/

namespace Dona.Jobs

open Fallible Store

variable {jobs : JobsEnv} {moment : Moment} {s t : Store}

/-! ### Operations -/

/-- The attempt that an operation is about. -/
def Operation.attempt? (s : Store) : Operation → Option JobId
  | beginJobPreparation jobId => some jobId
  | setJobRuntime jobId _ _ => some jobId
  | beginJobDispatch jobId => some jobId
  | markJobRunning jobId => some jobId
  | recordJobPreparationFailure jobId _ _ _ => some jobId
  | recordJobSafePromptFailure jobId _ _ _ => some jobId
  | markJobNeedsReview jobId _ _ => some jobId
  | markJobBlocked jobId _ _ => some jobId
  | recordInvalidResult jobId _ _ => some jobId
  | saveJobResult jobId _ _ => some jobId
  | failReviewed jobId _ _ _ => some jobId
  | appendQueuedJobInstruction jobId _ _ => some jobId
  | beginJobSteer jobId _ => some jobId
  | markJobSteerAccepted jobId _ => some jobId
  | clearJobSteer jobId _ => some jobId
  | beginJobCancellation jobId _ => some jobId
  | markJobCancelled jobId _ => some jobId
  | settleAmbiguousCancellation jobId _ => some jobId
  | reconcileScheduledRun runId _ => s.jobOfRun runId
  | markTerminalAcceptedSteerStopped jobId => some jobId
  | markTerminalWorkerStopProof jobId => some jobId
  | markTerminalJobWorkerStopped jobId _ => some jobId
  | markJobRuntimeCleaned jobId => some jobId
  | claimTerminalWorkerCleanup jobId _ => some jobId
  | finishTerminalWorkerCleanup jobId _ _ => some jobId
  | claimJobHandoff jobId _ _ _ _ => some jobId
  | beginHandoffRetirement jobId _ => some jobId
  | finishJobHandoff jobId _ => some jobId
  | enqueueJobNotification jobId => some jobId
  | wait _ seen _ _ => some seen.currentAttemptId
  | reconnect _ seen => some seen.currentAttemptId
  | claimStop _ seen _ => some seen.currentAttemptId
  | beginStop _ seen => some seen.currentAttemptId
  | stopped _ seen _ => some seen.currentAttemptId
  | checkpoint jobId _ => some jobId
  | _ => none

/-- The control of a task, with the revision that it was made for. -/
def Operation.control? : Operation → Option (TaskId × ℕ)
  | control taskId _ revision _ => some (taskId, revision)
  | prepareSteer taskId _ revision _ => some (taskId, revision)
  | retry taskId _ revision _ => some (taskId, revision)
  | _ => none

/-- The job of which an operation claims the handoff. -/
def Operation.handoff? : Operation → Option JobId
  | claimJobHandoff jobId _ _ _ _ => some jobId
  | _ => none

/-- What an operation about one job can do. -/
inductive Concerns (jobs : JobsEnv) (op : Operation) (jobId : JobId) (s t : Store) : Prop
  | effect (h : Effect (· = jobId) s t)
  | claims (h : Claims jobId s t)
  | claimsHandoff {record : HandoffRecord} (hop : op.handoff? = some jobId)
      (h : ClaimsHandoff jobId record s t)
  | retiresWorker (h : RetiresWorker jobId s t)
  | acceptsHandoff {successor : JobId} (h : AcceptsHandoff jobs jobId successor s t)

theorem concerns_run {op : Operation} {r : op.Reply} {jobId : JobId}
    (h : op.run jobs moment s = .ok (r, t)) (hop : op.attempt? s = some jobId) :
    Concerns jobs op jobId s t := by
  cases op <;> simp only [Operation.attempt?, Option.some.injEq, reduceCtorEq] at hop <;>
    try subst hop
  case beginJobPreparation => exact .effect (effect_beginJobPreparation h)
  case setJobRuntime => exact .effect (effect_setJobRuntime h)
  case beginJobDispatch => exact .effect (effect_beginJobDispatch h)
  case markJobRunning => exact .effect (effect_markJobRunning h)
  case recordJobPreparationFailure => exact .effect (effect_recordFailure rfl h)
  case recordJobSafePromptFailure => exact .effect (effect_recordFailure rfl h)
  case markJobNeedsReview => exact .effect (effect_markJobNeedsReview h)
  case markJobBlocked jobId message fromDispatching =>
    refine .effect (effect_markJobBlocked ?_ h)
    cases fromDispatching <;> decide
  case recordInvalidResult =>
    obtain ⟨-, rfl⟩ := Prod.mk.inj (Except.ok.inj h)
    exact .effect effect_recordInvalidResult
  case saveJobResult => exact .effect (effect_saveJobResultInternal h)
  case failReviewed => exact .effect (effect_failReviewed h)
  case appendQueuedJobInstruction => exact .effect (effect_appendQueuedJobInstruction h)
  case beginJobSteer => exact .effect (effect_beginJobSteer h)
  case markJobSteerAccepted => exact .effect (effect_markJobSteerAccepted h)
  case clearJobSteer =>
    obtain ⟨-, rfl⟩ := Prod.mk.inj (Except.ok.inj h)
    exact .effect effect_clearJobSteer
  case beginJobCancellation => exact .effect (effect_beginJobCancellation h)
  case markJobCancelled => exact .effect (effect_markJobCancelled h)
  case settleAmbiguousCancellation => exact .effect (effect_settleAmbiguousCancellation h)
  case reconcileScheduledRun =>
    refine .effect ((effect_reconcileScheduledRun h).mono fun other hother ↦ ?_)
    exact Option.some.inj (hother.symm.trans hop)
  case markTerminalAcceptedSteerStopped =>
    obtain ⟨-, rfl⟩ := Prod.mk.inj (Except.ok.inj h)
    exact .effect effect_markTerminalAcceptedSteerStopped
  case markTerminalWorkerStopProof =>
    obtain ⟨-, rfl⟩ := Prod.mk.inj (Except.ok.inj h)
    exact .effect (untouched_markTerminalWorkerStopProof ..).effect
  case markTerminalJobWorkerStopped =>
    obtain ⟨-, rfl⟩ := Prod.mk.inj (Except.ok.inj h)
    exact .effect effect_markTerminalJobWorkerStopped
  case markJobRuntimeCleaned =>
    obtain ⟨-, rfl⟩ := Prod.mk.inj (Except.ok.inj h)
    exact .effect effect_markJobRuntimeCleaned
  case claimTerminalWorkerCleanup jobId agentName =>
    obtain rfl : (s.claimTerminalWorkerCleanup jobId agentName moment.now).2 = t :=
      congrArg Prod.snd (Except.ok.inj h)
    exact .effect (untouched_claimTerminalWorkerCleanup ..).effect
  case finishTerminalWorkerCleanup =>
    obtain ⟨-, rfl⟩ := Prod.mk.inj (Except.ok.inj h)
    exact .effect (untouched_finishTerminalWorkerCleanup ..).effect
  case claimJobHandoff =>
    obtain ⟨_, hclaims⟩ := claimsHandoff_claimJobHandoff h
    exact .claimsHandoff rfl hclaims
  case beginHandoffRetirement =>
    rcases retiresWorker_beginHandoffRetirement h with ⟨-, hretires⟩ | ⟨-, rfl⟩
    · exact .retiresWorker hretires
    · exact .effect (.refl t)
  case finishJobHandoff =>
    rcases acceptsHandoff_finishJobHandoff h with haccepts | ⟨rfl, -⟩
    · exact .acceptsHandoff haccepts
    · exact .effect (.refl t)
  case enqueueJobNotification => exact .effect (effect_enqueueJobNotification h)
  case wait => exact .effect (effect_wait h)
  case reconnect => exact .effect (effect_reconnect h)
  case claimStop => exact .claims (claims_claimStop h)
  case beginStop taskId seen =>
    obtain rfl : (s.beginStop taskId seen).2 = t := congrArg Prod.snd (Except.ok.inj h)
    exact .effect effect_beginStop
  case stopped => exact .effect (effect_stopped h)
  case checkpoint => exact .effect (effect_checkpoint h)

theorem controls_run {op : Operation} {r : op.Reply} {taskId : TaskId} {revision : ℕ}
    (h : op.run jobs moment s = .ok (r, t)) (hop : op.control? = some (taskId, revision)) :
    Controls taskId revision s t := by
  cases op <;> simp only [Operation.control?, Option.some.injEq, Prod.mk.injEq, reduceCtorEq] at hop
  all_goals obtain ⟨rfl, rfl⟩ := hop
  case control => exact controls_control h
  case prepareSteer => exact controls_prepareSteer h
  case retry => exact controls_retry h

/-- What an operation can do to the jobs and to what belongs to them. -/
inductive Deed (jobs : JobsEnv) (moment : Moment) (op : Operation) (s t : Store) : Prop
  | effect (h : Effect (fun _ ↦ True) s t)
  | claims {jobId : JobId} (h : Claims jobId s t)
  | recovers (h : t = s.recoverStaleJobs moment.now)
  | creates {jobId : JobId} {job : JobRow} {document : WorkspaceDocument}
      {owner : EventId × JobBinding} (h : Inserts jobId job document owner s t)
      (hadmission : Admission jobs s job document owner)
  | founds {taskId : TaskId} {task : TaskRow} {attempt : TaskAttempt}
      (h : Founds jobs taskId task attempt s t)
  | replaces {taskId : TaskId} {task : TaskRow} {newId : JobId}
      (h : Replaces taskId task newId moment.files moment.now s t)
  | claimsHandoff {jobId : JobId} {record : HandoffRecord} (hop : op.handoff? = some jobId)
      (h : ClaimsHandoff jobId record s t)
  | retiresWorker {jobId : JobId} (h : RetiresWorker jobId s t)
  | acceptsHandoff {jobId successor : JobId} (h : AcceptsHandoff jobs jobId successor s t)

variable {op : Operation}

theorem deed_of_effect {who : JobId → Prop} (h : Effect who s t) : Deed jobs moment op s t :=
  .effect (h.mono fun _ _ ↦ trivial)

/-- The tasks whose current attempt is another job are not touched. -/
theorem Concerns.tasks {jobId : JobId} (h : Concerns jobs op jobId s t) :
    Table.Evolves (fun _ task task' ↦ task.Stays task' ∧
      (task.currentAttemptId ≠ jobId → task' = task)) s.tasks t.tasks := by
  cases h with
  | effect h => exact h.tasks
  | claims h => exact h.tasks
  | claimsHandoff _ h => exact h.change.tasks
  | retiresWorker h =>
      have hchange : Change (· = jobId) s t := h.change
      exact hchange.tasks
  | acceptsHandoff h => exact h.change.tasks

theorem Concerns.deed {jobId : JobId} (h : Concerns jobs op jobId s t) : Deed jobs moment op s t := by
  cases h with
  | effect h => exact deed_of_effect h
  | claims h => exact .claims h
  | claimsHandoff hop h => exact .claimsHandoff hop h
  | retiresWorker h => exact .retiresWorker h
  | acceptsHandoff h => exact .acceptsHandoff h

theorem deed_run {r : op.Reply} (h : op.run jobs moment s = .ok (r, t)) :
    Deed jobs moment op s t := by
  cases hattempt : op.attempt? s with
  | some jobId => exact (concerns_run h hattempt).deed
  | none =>
      cases hcontrol : op.control? with
      | some control => exact .effect (controls_run h hcontrol).effect
      | none =>
          cases op <;> simp only [Operation.attempt?, reduceCtorEq] at hattempt <;>
            simp only [Operation.control?, reduceCtorEq] at hcontrol
          case createJob =>
            cases creates_createJob h with
            | same hsame _ => exact .effect hsame.effect
            | inserts hinserts hadmission _ _ => exact .creates hinserts hadmission
          case recoverStaleJobs =>
            obtain ⟨-, rfl⟩ := Prod.mk.inj (Except.ok.inj h)
            exact .recovers rfl
          case reconcileScheduledRun => exact deed_of_effect (effect_reconcileScheduledRun h)
          case sealJobGroup => exact .effect (untouched_sealJobGroup h).effect
          case create =>
            rcases founds_create h with rfl | ⟨_, _, _, hfounds⟩
            · exact .effect (.refl t)
            · exact .founds hfounds
          case finishSteer => exact deed_of_effect (effect_finishSteer h)
          case replaceStopped =>
            rcases replaces_replaceStopped h with heffect | ⟨_, _, hreplaces⟩
            · exact .effect heffect
            · exact .replaces hreplaces

/-! ### What is kept -/

/-- The jobs stay, with their events, owners and documents, and none of them becomes an attempt. -/
structure Preserves (s t : Store) : Prop where
  jobs : Table.Extends (fun _ job job' ↦ job'.sourceEventId = job.sourceEventId) s.db.jobs t.db.jobs
  attempts : Table.Extends (fun _ ↦ TaskAttempt.SameNumber) s.attempts t.attempts
  unattempted : ∀ {jobId job}, s.db.jobs.get? jobId = some job → s.attempts.get? jobId = none →
    t.attempts.get? jobId = none
  owners : Table.Extends (fun _ owner owner' ↦ owner' = owner) s.db.ownerBindings t.db.ownerBindings
  bindings : Table.Extends (fun _ binding binding' ↦ binding' = binding) s.db.eventBindings
    t.db.eventBindings
  documents : Table.Extends (fun _ document document' ↦ document' = document) s.workspaces
    t.workspaces

theorem extends_refl {κ ρ : Type} [DecidableEq κ] (rows : Table κ ρ) :
    Table.Extends (fun _ row row' ↦ row' = row) rows rows := by
  apply Table.Extends.refl
  intro k r
  rfl

theorem extends_insert {κ ρ : Type} [DecidableEq κ] {rows rows' : Table κ ρ} {k : κ} {r : ρ}
    (h : rows.insert? k r = some rows') :
    Table.Extends (fun _ row row' ↦ row' = row) rows rows' := by
  refine Table.extends_insert? ?_ h
  intro k r
  rfl

namespace Preserves

variable {u : Store}

theorem refl (s : Store) : Preserves s s where
  jobs := (evolves_sources_refl _).extends
  attempts := (evolves_attempts_refl _).extends
  unattempted _ := id
  owners := extends_refl _
  bindings := extends_refl _
  documents := extends_refl _

theorem trans (h : Preserves s t) (h' : Preserves t u) : Preserves s u where
  jobs := h.jobs.comp h'.jobs fun hab hbc ↦ hbc.trans hab
  attempts := h.attempts.comp h'.attempts TaskAttempt.SameNumber.trans
  unattempted := by
    intro jobId job hjob hnone
    obtain ⟨job', hjob', -⟩ := h.jobs jobId job hjob
    exact h'.unattempted hjob' (h.unattempted hjob hnone)
  owners := h.owners.comp h'.owners fun hab hbc ↦ hbc.trans hab
  bindings := h.bindings.comp h'.bindings fun hab hbc ↦ hbc.trans hab
  documents := h.documents.comp h'.documents fun hab hbc ↦ hbc.trans hab

/-- Rows of jobs and attempts change, and none is inserted. -/
theorem of_kept (hjobs : Table.Extends (fun _ job job' ↦ job'.sourceEventId = job.sourceEventId)
      s.db.jobs t.db.jobs)
    (hattempts : Table.Evolves (fun _ ↦ TaskAttempt.SameNumber) s.attempts t.attempts)
    (hkept : Kept s t) : Preserves s t where
  jobs := hjobs
  attempts := hattempts.extends
  unattempted _ := hattempts.get?_eq_none_iff.2
  owners := by
    rw [hkept.owners]
    exact extends_refl _
  bindings := hkept.bindings
  documents := by
    rw [hkept.workspaces]
    exact extends_refl _

theorem of_effect {who : JobId → Prop} (h : Effect who s t) : Preserves s t :=
  of_kept (h.jobs.mono JobRow.Moves.source).extends h.attempts h.kept

theorem of_inserts {jobId : JobId} {job : JobRow} {document : WorkspaceDocument}
    {owner : EventId × JobBinding} (h : Inserts jobId job document owner s t) : Preserves s t where
  jobs := by
    refine Table.extends_insert? ?_ h.jobs
    intro k row
    rfl
  attempts := by
    rw [h.attempts]
    exact (evolves_attempts_refl _).extends
  unattempted _ hnone := by
    rw [h.attempts]
    exact hnone
  owners := extends_insert h.owners
  bindings := h.bindings
  documents := extends_insert h.workspaces

/-- A job that was just inserted becomes an attempt. -/
theorem of_attempt {jobId : JobId} {attempt : TaskAttempt} (hs : s.db.jobs.get? jobId = none)
    (h : Preserves s t) (hsame : t.attempts = s.attempts) (halike : Alike t u)
    (hattempts : t.attempts.insert? jobId attempt = some u.attempts) : Preserves s u where
  jobs := by
    rw [halike.jobs]
    exact h.jobs
  attempts := by
    refine h.attempts.comp ?_ TaskAttempt.SameNumber.trans
    exact Table.extends_insert? (fun _ _ ↦ ⟨rfl, rfl⟩) hattempts
  unattempted := by
    intro other job hjob hnone
    rw [Table.get?_insert? hattempts, hsame, if_neg]
    · exact hnone
    · rintro rfl
      rw [hs] at hjob
      contradiction
  owners := by
    rw [halike.kept.owners]
    exact h.owners
  bindings := h.bindings.comp halike.kept.bindings fun hab hbc ↦ hbc.trans hab
  documents := by
    rw [halike.kept.workspaces]
    exact h.documents

end Preserves

theorem preserves_claims {jobId : JobId} (h : Claims jobId s t) : Preserves s t := by
  refine .of_kept h.sources.extends ?_ h.kept
  rw [h.attempts]
  exact evolves_attempts_refl _

theorem sources_recoverStaleJobs (now : Int) (s : Store) :
    Table.Evolves (fun _ job job' ↦ job'.sourceEventId = job.sourceEventId) s.db.jobs
      (s.recoverStaleJobs now).db.jobs := by
  have hfirst : Table.Evolves (fun _ (job job' : JobRow) ↦ job'.sourceEventId = job.sourceEventId)
      s.db.jobs (s.db.jobs.updateWhere (fun _ job ↦ job.status = .preparing) fun job ↦
        { job with
          status := .retryableFailed
          availableAt := .toIso now
          lastErrorCode := some "stale_preparing"
          lastErrorMessage := some "Dispatcher restarted before the job prompt was attempted"
          updatedAt := .toIso now }) := by
    apply Table.evolves_updateWhere_of_forall
    · exact fun _ _ ↦ rfl
    · exact fun _ _ ↦ rfl
  refine Table.Evolves.trans (fun hab hbc ↦ hbc.trans hab) hfirst ?_
  apply Table.evolves_updateWhere_of_forall
  · exact fun _ _ ↦ rfl
  · exact fun _ _ ↦ rfl

theorem preserves_founds {taskId : TaskId} {task : TaskRow} {attempt : TaskAttempt}
    (h : Founds jobs taskId task attempt s t) : Preserves s t := by
  obtain ⟨u, job, document, owner, hinserts, -, -, halike⟩ := h.creates
  have hnew := Table.get?_eq_none_of_insert? hinserts.jobs
  have hattempts : u.attempts.insert? task.currentAttemptId attempt = some t.attempts := by
    rw [hinserts.attempts]
    exact h.attempts
  exact .of_attempt hnew (.of_inserts hinserts) hinserts.attempts halike hattempts

theorem preserves_succeeds {taskId : TaskId} {number : ℕ} {oldId newId : JobId} {now : Int}
    (h : Succeeds taskId number oldId newId now s t) : Preserves s t := by
  obtain ⟨u, job, document, owner, mark, hinserts, halike, -⟩ := h.continues.creates
  have hnew := Table.get?_eq_none_of_insert? hinserts.jobs
  have hattempts := h.attempts
  rw [← hinserts.attempts] at hattempts
  exact .of_attempt hnew (.of_inserts hinserts) hinserts.attempts halike hattempts

theorem preserves_replaces {taskId : TaskId} {task : TaskRow} {newId : JobId}
    {files : JobId → Bool} {now : Int} (h : Replaces taskId task newId files now s t) :
    Preserves s t := by
  obtain ⟨s₁, s₂, hs₁, hs₂, hs₃⟩ := h.phases
  exact ((Preserves.of_effect hs₁).trans (preserves_succeeds hs₂)).trans (.of_effect hs₃)

theorem preserves_acceptsHandoff {jobId successor : JobId}
    (h : AcceptsHandoff jobs jobId successor s t) : Preserves s t := by
  obtain ⟨u, job, document, owner, workspaceJobId, hinserts, -, heffect⟩ := h.creates
  have hcreated : Preserves s u := .of_inserts hinserts
  have hended := Preserves.of_effect heffect
  refine ⟨hcreated.jobs.comp hended.jobs fun hab hbc ↦ hbc.trans hab,
    hcreated.attempts.comp hended.attempts TaskAttempt.SameNumber.trans, ?_,
    hcreated.owners.comp hended.owners fun hab hbc ↦ hbc.trans hab,
    hcreated.bindings.comp hended.bindings fun hab hbc ↦ hbc.trans hab, ?_⟩
  · intro other row hrow hnone
    obtain ⟨row', hrow', -⟩ := hcreated.jobs other row hrow
    exact hended.unattempted hrow' (hcreated.unattempted hrow hnone)
  · intro other row hrow
    have hne : other ≠ successor := by
      rintro rfl
      rw [Table.get?_eq_none_of_insert? hinserts.workspaces] at hrow
      contradiction
    obtain ⟨row', hrow', rfl⟩ := hcreated.documents other row hrow
    have hworkspaces : t.workspaces = u.workspaces.updateKey successor (marked jobId workspaceJobId) :=
      heffect.kept.workspaces
    refine ⟨row', ?_, rfl⟩
    rw [hworkspaces, Table.get?_updateKey, if_neg hne]
    exact hrow'

theorem preserves_claimsHandoff {jobId : JobId} {record : HandoffRecord}
    (h : ClaimsHandoff jobId record s t) : Preserves s t := by
  have heffect := Preserves.of_effect h.effect
  exact ⟨heffect.jobs, heffect.attempts, heffect.unattempted, heffect.owners, heffect.bindings,
    heffect.documents⟩

theorem preserves_retiresWorker {jobId : JobId} (h : RetiresWorker jobId s t) :
    Preserves s t := by
  have hrefl := Preserves.refl s
  rw [h.eq]
  exact ⟨hrefl.jobs, hrefl.attempts, hrefl.unattempted, hrefl.owners, hrefl.bindings,
    hrefl.documents⟩

theorem Deed.preserves (h : Deed jobs moment op s t) : Preserves s t := by
  cases h with
  | effect h => exact .of_effect h
  | claims h => exact preserves_claims h
  | recovers h =>
      rw [h]
      exact .of_kept (sources_recoverStaleJobs _ s).extends (evolves_attempts_refl _)
        (.of_eq rfl rfl rfl rfl)
  | creates h _ => exact .of_inserts h
  | founds h => exact preserves_founds h
  | replaces h => exact preserves_replaces h
  | claimsHandoff _ h => exact preserves_claimsHandoff h
  | retiresWorker h => exact preserves_retiresWorker h
  | acceptsHandoff h => exact preserves_acceptsHandoff h

theorem preserves_elsewhere (h : Elsewhere s t) : Preserves s t where
  jobs := by
    refine (h.jobs.mono fun {_ job job'} hrow ↦ ?_).extends
    rcases hrow with rfl | rfl <;> rfl
  attempts := by
    rw [h.attempts]
    exact (evolves_attempts_refl _).extends
  unattempted _ hnone := by
    rw [h.attempts]
    exact hnone
  owners := by
    rw [h.owners]
    exact extends_refl _
  bindings := h.bindings
  documents := by
    rw [h.workspaces]
    exact extends_refl _

theorem preserves_happens {w w' : World} (h : Happens jobs w w') : Preserves w.store w'.store := by
  cases h with
  | operation _ hrun => exact (deed_run hrun).preserves
  | elsewhere h => exact preserves_elsewhere h
  | moment moment => exact .refl w.store

/-! ### Attempts -/

/-- What an operation can do to the attempts. -/
inductive Attempted (jobs : JobsEnv) (moment : Moment) (s t : Store) : Prop
  | quiet (h : Quiet s t)
  | founds {taskId : TaskId} {task : TaskRow} {attempt : TaskAttempt}
      (h : Founds jobs taskId task attempt s t)
  | replaces {taskId : TaskId} {task : TaskRow} {newId : JobId}
      (h : Replaces taskId task newId moment.files moment.now s t)

theorem Deed.attempted (hs : s.Numbered) (h : Deed jobs moment op s t) :
    Attempted jobs moment s t := by
  cases h with
  | effect h => exact .quiet h.quiet
  | claims h => exact .quiet (quiet_claims hs h)
  | recovers h =>
      rw [h]
      exact .quiet (quiet_recoverStaleJobs moment.now s)
  | creates h _ =>
      have hchange : Change (fun _ ↦ False) s t := h.change
      exact .quiet hchange.quiet
  | founds h => exact .founds h
  | replaces h => exact .replaces h
  | claimsHandoff _ h => exact .quiet h.change.quiet
  | retiresWorker h =>
      have hchange : Change (fun _ ↦ False) s t := h.change
      exact .quiet hchange.quiet
  | acceptsHandoff h => exact .quiet h.change.quiet

theorem attempted_run {r : op.Reply} (hs : s.Numbered)
    (h : op.run jobs moment s = .ok (r, t)) : Attempted jobs moment s t := (deed_run h).attempted hs

theorem Attempted.sound (h : Attempted jobs moment s t) (hs : s.AttemptsSound) :
    t.AttemptsSound := by
  cases h with
  | quiet h => exact hs.quiet h
  | founds h => exact h.sound hs
  | replaces h => exact h.sound hs

theorem Attempted.advances (h : Attempted jobs moment s t) (hs : s.Numbered) : Advances s t := by
  cases h with
  | quiet h => exact h.advances
  | founds h => exact h.advances
  | replaces h => exact h.advances hs

end Dona.Jobs
