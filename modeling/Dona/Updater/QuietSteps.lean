import Dona.Updater.ReleaseStages

/-!
# The steps that move nothing on

Most of what a run does leaves the release files and the claims as they are, and moves the request
at most to a review. So does everything that happens elsewhere.
-/

namespace Dona.Updater.UpdateDb

open Fallible

/-! ### The rows that the operations leave -/

variable {db db' : UpdateDb} {id : RequestId} {fence : ℕ} {now : Time}

theorem Rewrites.of_requests {row : UpdateRow} {db'' : UpdateDb} (h : db.Rewrites id row db')
    (hrequests : db''.requests = db'.requests) : db.Rewrites id row db'' := by
  intro k
  rw [hrequests]
  exact h k

theorem completeInternal_rewrites {row result : UpdateRow} {target : TerminalState}
    {fields : MutationFields}
    (h : db.completeInternal id row target fields now = .ok (result, db')) :
    (row.state = target.1 ∨ row.state.canTransition target.1 = true) ∧
      ∃ old fields', db.requests.get? id = some old ∧
        fields'.activationGeneration = fields.activationGeneration ∧
        db.Rewrites id (movedRow target.1 now fields' old) db' := by
  simp only [completeInternal, bind_eq_ok, Except.ok.injEq, Prod.mk.injEq] at h
  obtain ⟨db₁, htransition, completed, -, db₂, houtbox, -, rfl⟩ := h
  obtain ⟨hmove, old, hold, -, hrewrites, -⟩ := transitionInternal_spec htransition
  have hcompleted := hrewrites.of_requests (insertOutbox_spec houtbox).1
  refine ⟨hmove, old, _, hold, ?_, hcompleted⟩
  rfl

theorem terminal_spec {result : UpdateRow} {target : TerminalState} {fields : MutationFields}
    (h : db.terminal id fence target fields now = .ok (result, db')) :
    ∃ row fields', db.requests.get? id = some row ∧ row.fence = fence ∧
      (row.state = target.1 ∨ row.state.canTransition target.1 = true) ∧
      fields'.activationGeneration = fields.activationGeneration ∧
      db.Rewrites id (movedRow target.1 now fields' row) db' := by
  simp only [terminal, bind_eq_ok, throwIf_eq_ok, getRequired_eq_ok, not_not] at h
  obtain ⟨row, hrow, -, hfence, hcomplete⟩ := h
  obtain ⟨hmove, old, fields', hold, hfields, hrewrites⟩ := completeInternal_rewrites hcomplete
  obtain rfl : row = old := Option.some.inj (hrow.symm.trans hold)
  exact ⟨row, fields', hrow, hfence, hmove, hfields, hrewrites⟩

theorem transition_spec {target : UpdateState} {fields : MutationFields} {u : Unit}
    (h : db.transition id fence target fields now = .ok (u, db')) :
    ∃ row, db.requests.get? id = some row ∧ row.fence = fence ∧
      (row.state = target ∨ row.state.canTransition target = true) ∧
      db.Rewrites id (movedRow target now fields row) db' := by
  simp only [transition, bind_eq_ok, throwIf_eq_ok, getRequired_eq_ok, not_not, Except.ok.injEq,
    Prod.mk.injEq] at h
  obtain ⟨row, hrow, -, hfence, db₁, htransition, -, rfl⟩ := h
  obtain ⟨hmove, old, hold, -, hrewrites, -⟩ := transitionInternal_spec htransition
  obtain rfl : row = old := Option.some.inj (hrow.symm.trans hold)
  exact ⟨row, hrow, hfence, hmove, hrewrites⟩

/-- A claim returns the row that it leaves, if it hands the lease. -/
theorem claim_returns {owner : String} {leaseMs : Int} {result : Option UpdateRow}
    (h : db.claim id owner leaseMs now = .ok (result, db')) :
    (result = none ∧ db' = db) ∨ db'.requests.get? id = result := by
  simp only [claim, bind_eq_ok] at h
  obtain ⟨row, -, h⟩ := h
  split_ifs at h
  · obtain ⟨rfl, rfl⟩ := Prod.mk.inj (Except.ok.inj h)
    exact .inl ⟨rfl, rfl⟩
  · obtain ⟨rfl, rfl⟩ := Prod.mk.inj (Except.ok.inj h)
    exact .inl ⟨rfl, rfl⟩
  · simp only [bind_eq_ok, getRequired_eq_ok, Except.ok.injEq, Prod.mk.injEq] at h
    obtain ⟨_, -, claimed, hclaimed, rfl, rfl⟩ := h
    exact .inr hclaimed

theorem beginOperatorRollback_spec {planHash : CanonicalPlan} {owner : String} {leaseMs : Int}
    {u : Unit} (h : db.beginOperatorRollback id planHash owner leaseMs now = .ok (u, db')) :
    ∃ row row', db.requests.get? id = some row ∧ row.state = .needsReview ∧
      db.Rewrites id row' db' ∧ row'.state = .rollingBack ∧ row'.fence = row.fence + 1 ∧
      row'.currentSha = row.currentSha ∧ row'.targetSha = row.targetSha ∧
      row'.activationGeneration = row.activationGeneration := by
  simp only [beginOperatorRollback, bind_eq_ok, throwIf_eq_ok, Except.ok.injEq, Prod.mk.injEq,
    Prod.exists] at h
  obtain ⟨_, -, -, -, -, -, _, db₁, hupdate, -, rfl⟩ := h
  obtain ⟨row, hrow, -, hstate, hrewrites, -⟩ := updateFencedOrThrow_spec hupdate
  exact ⟨row, _, hrow, by simpa using hstate, hrewrites, rfl, rfl, rfl, rfl, rfl⟩

theorem completeEvidenceReconcile_spec {status : EvidenceStatus} {activeSha : String}
    {result : UpdateRow}
    (h : db.completeEvidenceReconcile id status activeSha now = .ok (result, db')) :
    ∃ row row', db.requests.get? id = some row ∧ row.state = .needsReview ∧
      db.Rewrites id row' db' ∧ row'.state = status.state.1 ∧ row'.fence = row.fence + 1 ∧
      row'.currentSha = row.currentSha ∧ row'.targetSha = row.targetSha ∧
      row'.activationGeneration = row.activationGeneration := by
  simp only [completeEvidenceReconcile, bind_eq_ok, throwIf_eq_ok, Prod.exists] at h
  obtain ⟨_, -, -, -, -, -, -, -, -, -, -, -, _, db₁, hupdate, reopened, -, hcomplete⟩ := h
  obtain ⟨row, hrow, -, hstate, hrewrites, -⟩ := updateFencedOrThrow_spec hupdate
  obtain ⟨-, old, fields, hold, hfields, hcompleted⟩ := completeInternal_rewrites hcomplete
  have hopened := hrewrites id
  rw [if_pos rfl] at hopened
  obtain rfl := Option.some.inj (hold.symm.trans hopened)
  refine ⟨row, _, hrow, by simpa using hstate, hrewrites.trans hcompleted, rfl, rfl, rfl, rfl, ?_⟩
  simp [movedRow, MutationFields.assign, hfields]

end Dona.Updater.UpdateDb

namespace Dona.UpdateController

open Coroutine Fallible Updater UpdateDb

variable {setting : Setting} {s t u w : World} {row row' : UpdateRow}

/-! ### Quiet steps -/

theorem Quiet.refl (w : World) : Quiet setting w w :=
  ⟨rfl, rfl, rfl, fun row hrow ↦ ⟨row, hrow, .refl row⟩⟩

/-- A change of the database that moves the request nowhere on. -/
structure Settles (setting : Setting) (db db' : UpdateDb) : Prop where
  row : ∀ row, db.requests.get? setting.requestId = some row →
    ∃ row', db'.requests.get? setting.requestId = some row' ∧ RowDrifts row row'

theorem Settles.refl (db : UpdateDb) : Settles setting db db :=
  ⟨fun row hrow ↦ ⟨row, hrow, .refl row⟩⟩

theorem Settles.quiet {db : UpdateDb} (h : Settles setting w.db db) :
    Quiet setting w { w with db := db } := ⟨rfl, rfl, rfl, h.row⟩

theorem Settles.of_requests {db db' : UpdateDb} (h : db'.requests = db.requests) :
    Settles setting db db' := ⟨fun row hrow ↦ ⟨row, by rw [h]; exact hrow, .refl row⟩⟩

theorem Settles.of_rewrites {db db' : UpdateDb} {id : RequestId}
    (hrow : db.requests.get? id = some row) (hrewrites : db.Rewrites id row' db')
    (h : RowDrifts row row') : Settles setting db db' := by
  refine ⟨fun r hr ↦ ?_⟩
  rw [hrewrites]
  split_ifs with hid
  · subst hid
    obtain rfl := Option.some.inj (hrow.symm.trans hr)
    exact ⟨row', rfl, h⟩
  · exact ⟨r, hr, .refl r⟩

/-- A row that is moved without a new generation. -/
theorem rowDrifts_movedRow {target : UpdateState} {now : Time} {fields : MutationFields}
    (hfields : fields.activationGeneration = none) (hdrifts : Drifts row.state target) :
    RowDrifts row (movedRow target now fields row) :=
  ⟨rfl, rfl, by simp [movedRow, MutationFields.assign, hfields], rfl, hdrifts⟩

/-! ### What happens elsewhere -/

theorem settles_createPlan {db db' : UpdateDb} {request : PlanRequest} {material : PlanMaterial}
    {id : RequestId} {planId : String} {now : Time} {result : PlanResult}
    (h : createPlan request material id planId now db = .ok (result, db')) :
    Settles setting db db' := by
  simp only [createPlan] at h
  split at h
  · simp only [throwIf_bind_eq_ok, Except.ok.injEq, Prod.mk.injEq] at h
    obtain ⟨-, -, rfl⟩ := h
    exact .refl _
  · simp only [bind_eq_ok, orThrow_eq_ok, Except.ok.injEq, Prod.mk.injEq] at h
    obtain ⟨_, -, _, -, _, -, requests, hinsert, -, rfl⟩ := h
    refine ⟨fun row hrow ↦ ⟨row, ?_, .refl row⟩⟩
    rw [Table.get?_insert? hinsert, if_neg]
    · exact hrow
    · rintro rfl
      simp [Table.get?_eq_none_of_insert? hinsert] at hrow

theorem drifts_approved {state : UpdateState}
    (h : state = .approved ∨ state.canTransition .approved = true) : Drifts state .approved := by
  revert h
  cases state <;> decide

theorem settles_approve {db db' : UpdateDb} {input : ApplyRequest} {now : Time} {b : Bool}
    (h : approve input now db = .ok (b, db')) : Settles setting db db' := by
  simp only [approve, bind_eq_ok, orThrow_eq_ok, Prod.exists] at h
  obtain ⟨id, row, hfind, -, -, h⟩ := h
  split at h
  · simp only [throwIf_bind_eq_ok, Except.ok.injEq, Prod.mk.injEq] at h
    obtain ⟨-, -, rfl⟩ := h
    exact .refl _
  · simp only [bind_eq_ok, Except.ok.injEq, Prod.mk.injEq] at h
    obtain ⟨db₁, htransition, -, rfl⟩ := h
    obtain ⟨hmove, old, hold, -, hrewrites, -⟩ := transitionInternal_spec htransition
    obtain rfl : row = old := Option.some.inj ((Table.get?_of_find? hfind).1.symm.trans hold)
    refine .of_rewrites hold hrewrites (rowDrifts_movedRow rfl ?_)
    exact drifts_approved hmove

theorem settles_requestCancellation {db db' : UpdateDb} {id : RequestId} {sourceEventId : String}
    {replyTarget : Updater.ReplyTarget} {reason : String} {now : Time} {result : UpdateRow}
    (h : requestCancellation id sourceEventId replyTarget reason now db = .ok (result, db')) :
    Settles setting db db' := by
  simp only [requestCancellation, bind_eq_ok, throwIf_eq_ok, getRequired_eq_ok] at h
  obtain ⟨row, hrow, -, -, h⟩ := h
  split_ifs at h with hterminal hcancellable
  · obtain ⟨-, rfl⟩ := Prod.mk.inj (Except.ok.inj h)
    exact .refl _
  · obtain ⟨-, old, fields, hold, hfields, hrewrites⟩ := completeInternal_rewrites h
    obtain rfl := Option.some.inj (hrow.symm.trans hold)
    refine .of_rewrites hold hrewrites (rowDrifts_movedRow hfields ?_)
    revert hcancellable
    cases row.state <;> decide
  · obtain ⟨-, old, fields, hold, hfields, hrewrites⟩ := completeInternal_rewrites h
    exact .of_rewrites hold hrewrites (rowDrifts_movedRow hfields (.inr (.inl rfl)))

/-- A fenced statement that sets neither the state, the releases, the generation nor the fence. -/
theorem settles_updateFenced {db db' : UpdateDb} {id : RequestId} {fence : ℕ}
    {p : UpdateRow → Bool} {f : UpdateRow → UpdateRow} {error : String} {u : Unit}
    (hf : ∀ row, RowDrifts row (f row))
    (h : db.updateFencedOrThrow id fence p f error = .ok (u, db')) : Settles setting db db' := by
  obtain ⟨row, hrow, -, -, hrewrites, -⟩ := updateFencedOrThrow_spec h
  exact .of_rewrites hrow hrewrites (hf row)

theorem settles_next {op : Operation} (hop : isRequested op = true) (db : UpdateDb) :
    Settles setting db (op.next db) := by
  cases op with
  | createPlan => exact commit_induction (.refl _) fun _ _ h ↦ settles_createPlan h
  | approve => exact commit_induction (.refl _) fun _ _ h ↦ settles_approve h
  | requestCancellation =>
      exact commit_induction (.refl _) fun _ _ h ↦ settles_requestCancellation h
  | renewLease =>
      refine commit_induction (.refl _) fun _ _ h ↦ settles_updateFenced (fun row ↦ ?_) h
      exact ⟨rfl, rfl, rfl, rfl, .refl _⟩
  | markOutbox => exact .of_requests rfl
  | _ => exact absurd hop (by simp [isRequested])

theorem Elsewhere.quiet (h : Elsewhere setting s t) : Quiet setting s t := by
  cases h with
  | waits => exact ⟨rfl, rfl, rfl, fun row hrow ↦ ⟨row, hrow, .refl row⟩⟩
  | asks hop => exact (settles_next hop _).quiet
  | serves hrow => exact Settles.quiet ⟨fun row hr ↦ ⟨row, hrow.trans hr, .refl row⟩⟩

/-! ### Quiet programs -/

variable {α β : Type}

/-- A program all of whose steps are quiet. -/
abbrev IsQuiet (setting : Setting) (p : Program α) : Prop :=
  TakesOnly Performs (Quiet setting) p

/-- The awaits that write one of the release files. -/
def Call.isWrite : Call → Bool
  | .renamePointer _ _ => true
  | .writeReceipt _ => true
  | _ => false

theorem Performs.eq_of_isWrite {c : Call} {r : c.Reply} (h : Performs c s r t)
    (hc : c.isWrite = false) : t = s := by
  cases h with
  | renamePointer => contradiction
  | writeReceipt => contradiction
  | _ => rfl

theorem quiet_settled (r : Except String α) : IsQuiet setting (settled r) := by
  cases r with
  | ok a => exact safe_pure a
  | error e => exact safe_throw e

theorem quiet_ask {c : Call} (hc : c.isWrite = false) : IsQuiet setting (ask c) := by
  refine (safe_call fun s r t _ h ↦ ?_).bind quiet_settled
  rw [Performs.eq_of_isWrite h hc]
  exact Quiet.refl s

theorem quiet_database {f : Time → UpdateDb → Except String (α × UpdateDb)}
    (hf : ∀ now db a db', f now db = .ok (a, db') → Settles setting db db') :
    IsQuiet setting (database f) := by
  refine safe_transact fun w a t h ↦ ?_
  simp only [bind_eq_ok, Except.ok.injEq, Prod.mk.injEq, Prod.exists] at h
  obtain ⟨_, db, hok, -, rfl⟩ := h
  exact (hf _ _ _ _ hok).quiet

section

variable (policy : Policy) (owner : String) (row : UpdateRow)

theorem quiet_runtimeOperation (kind : RuntimeOperationKind) :
    IsQuiet setting (runtimeOperation setting.requestId kind) := safe_read _

theorem quiet_assertLease : IsQuiet setting (assertLease setting.requestId owner row) := by
  refine quiet_database fun now db a db' h ↦ ?_
  simp only [bind_eq_ok, Except.ok.injEq, Prod.mk.injEq] at h
  obtain ⟨_, -, _, -, -, rfl⟩ := h
  exact .refl db

theorem quiet_completeReview {fields : MutationFields}
    (hfields : fields.activationGeneration = none) :
    IsQuiet setting (complete setting.requestId row reviewState fields) := by
  refine quiet_database fun now db a db' h ↦ ?_
  simp only [bind_eq_ok, Except.ok.injEq, Prod.mk.injEq, Prod.exists] at h
  obtain ⟨_, _, hterminal, -, rfl⟩ := h
  obtain ⟨row, fields', hrow, -, -, hfields', hrewrites⟩ := terminal_spec hterminal
  refine .of_rewrites hrow hrewrites (rowDrifts_movedRow ?_ (.inr (.inl rfl)))
  exact hfields'.trans hfields

theorem quiet_needsReview (code : String) (message : Option String) :
    IsQuiet setting (needsReview setting.requestId row code message) :=
  quiet_completeReview row rfl

theorem quiet_deferOrReview (code message : String) :
    IsQuiet setting (deferOrReview policy setting.requestId row code message) := by
  refine (safe_read _).bind fun w ↦ ?_
  split
  · exact safe_pure _
  · refine Safe.ite (safe_pure _) (Safe.ite (quiet_needsReview _ _ _) ?_)
    refine quiet_database fun now db a db' h ↦ settles_updateFenced (fun row ↦ ?_) h
    exact ⟨rfl, rfl, rfl, rfl, .refl _⟩

theorem quiet_prepareOperation (kind : RuntimeOperationKind) (targetRef : String)
    (expectedSha previousSessionId : Option String) :
    IsQuiet setting (prepareOperation setting.requestId row kind targetRef expectedSha
      previousSessionId) := by
  refine quiet_database fun now db a db' h ↦ ?_
  simp only [prepareRuntimeOperation, bind_eq_ok, Except.ok.injEq, Prod.mk.injEq,
    Prod.exists] at h
  obtain ⟨_, _, ⟨_, db₁, hupdate, _, -, _, -, -, rfl⟩, -, rfl⟩ := h
  exact ⟨(settles_updateFenced RowDrifts.refl hupdate).row⟩

theorem quiet_recordOperation (kind : RuntimeOperationKind) (phase : RuntimeOperationPhase)
    (observedSessionId : Option String) :
    IsQuiet setting (recordOperation setting.requestId row kind phase observedSessionId) := by
  refine quiet_database fun now db a db' h ↦ ?_
  simp only [recordRuntimeOperation, bind_eq_ok, Except.ok.injEq, Prod.mk.injEq] at h
  obtain ⟨_, -, _, -, _, -, -, rfl⟩ := h
  exact .of_requests rfl

/-! ### Services -/

theorem quiet_hasExited (service : Service) (health : HealthSnapshot) :
    IsQuiet setting (hasExited service health) :=
  Safe.ite (safe_pure _) ((quiet_ask rfl).bind fun _ ↦ safe_pure _)

theorem quiet_awaitStopped (kind : RuntimeOperationKind) (service : Service)
    (code message : String) :
    IsQuiet setting
      (awaitStopped policy setting.requestId owner row kind service code message) := by
  refine (quiet_ask rfl).bind fun health ↦ (quiet_assertLease owner row).bind fun _ ↦ ?_
  refine (quiet_hasExited service health).bind fun exited ↦ Safe.ite ?_ ?_
  · refine (quiet_assertLease owner row).bind fun _ ↦ ?_
    exact (quiet_recordOperation row kind _ _).bind fun _ ↦ safe_pure _
  · exact (quiet_deferOrReview policy row code message).bind fun _ ↦ safe_pure _

theorem quiet_ensureServiceStopped (kind : RuntimeOperationKind) (service : Service)
    (expectedSha : Option String) :
    IsQuiet setting
      (ensureServiceStopped policy setting.requestId owner row kind service expectedSha) := by
  refine (quiet_runtimeOperation kind).bind fun operation ↦ ?_
  cases operation with
  | some existing =>
      refine Safe.ite ((quiet_needsReview row _ _).bind fun _ ↦ safe_pure _) ?_
      refine Safe.ite ((quiet_needsReview row _ _).bind fun _ ↦ safe_pure _) ?_
      exact quiet_awaitStopped policy owner row kind service _ _
  | none =>
      refine (quiet_ask rfl).bind fun before ↦ (quiet_assertLease owner row).bind fun _ ↦ ?_
      refine (quiet_hasExited service before).bind fun exited ↦ Safe.ite ?_ (Safe.ite ?_ ?_)
      · refine (quiet_assertLease owner row).bind fun _ ↦ ?_
        refine (quiet_prepareOperation row kind _ _ _).bind fun _ ↦ ?_
        exact (quiet_recordOperation row kind _ _).bind fun _ ↦ safe_pure _
      · exact (quiet_needsReview row _ _).bind fun _ ↦ safe_pure _
      · refine (quiet_prepareOperation row kind _ _ _).bind fun _ ↦ ?_
        refine (quiet_ask rfl).bind fun result ↦ (quiet_assertLease owner row).bind fun _ ↦ ?_
        refine Safe.ite ((quiet_recordOperation row kind _ _).bind fun _ ↦ ?_) ?_
        · exact quiet_awaitStopped policy owner row kind service _ _
        · refine (quiet_recordOperation row kind _ _).bind fun _ ↦ ?_
          exact Safe.ite ((quiet_needsReview row _ _).bind fun _ ↦ safe_pure _)
            ((quiet_deferOrReview policy row _ _).bind fun _ ↦ safe_pure _)

theorem quiet_settleStarted (kind : RuntimeOperationKind) (service : Service) (sha : String)
    (compatibility : Compatibility) (code message : String) (checksSha : Bool) :
    IsQuiet setting (settleStarted policy setting.requestId owner row kind service sha compatibility
      code message checksSha) := by
  refine (quiet_ask rfl).bind fun health ↦ (quiet_assertLease owner row).bind fun _ ↦ ?_
  refine Safe.ite (safe_pure _) (Safe.ite ?_ ?_)
  · exact (quiet_recordOperation row kind _ _).bind fun _ ↦ safe_pure _
  · exact (quiet_deferOrReview policy row code message).bind fun _ ↦ safe_pure _

theorem quiet_ensureServiceStarted (kind : RuntimeOperationKind) (service : Service) (sha : String)
    (compatibility : Compatibility) :
    IsQuiet setting (ensureServiceStarted policy setting.requestId owner row kind service sha
      compatibility) := by
  refine (quiet_runtimeOperation kind).bind fun operation ↦ ?_
  cases operation with
  | some existing =>
      refine Safe.ite ((quiet_needsReview row _ _).bind fun _ ↦ safe_pure _) ?_
      refine Safe.ite ((quiet_needsReview row _ _).bind fun _ ↦ safe_pure _) ?_
      exact quiet_settleStarted policy owner row kind service sha compatibility _ _ _
  | none =>
      refine (quiet_ask rfl).bind fun before ↦ (quiet_assertLease owner row).bind fun _ ↦ ?_
      refine Safe.ite (safe_pure _) (Safe.ite ?_ ?_)
      · refine (quiet_prepareOperation row kind _ _ _).bind fun _ ↦ ?_
        exact (quiet_recordOperation row kind _ _).bind fun _ ↦ safe_pure _
      · refine (quiet_prepareOperation row kind _ _ _).bind fun _ ↦ ?_
        refine (quiet_ask rfl).attempt.bind fun started ↦ ?_
        cases started with
        | error _ =>
            refine (quiet_assertLease owner row).bind fun _ ↦ ?_
            refine (quiet_recordOperation row kind _ _).bind fun _ ↦ ?_
            exact quiet_settleStarted policy owner row kind service sha compatibility _ _ _
        | ok result =>
            refine (quiet_assertLease owner row).bind fun _ ↦ Safe.ite ?_ ?_
            · refine (quiet_recordOperation row kind _ _).bind fun _ ↦ ?_
              exact quiet_settleStarted policy owner row kind service sha compatibility _ _ _
            · refine (quiet_recordOperation row kind _ _).bind fun _ ↦ ?_
              exact Safe.ite ((quiet_needsReview row _ _).bind fun _ ↦ safe_pure _)
                ((quiet_deferOrReview policy row _ _).bind fun _ ↦ safe_pure _)

/-! ### The main agent -/

theorem quiet_ensureTargetMainAgent (paneId : String) :
    IsQuiet setting (ensureTargetMainAgent policy setting.requestId owner row paneId) := by
  refine (quiet_runtimeOperation _).bind fun stop ↦ ?_
  refine (quiet_runtimeOperation _).bind fun operation ↦ ?_
  cases operation with
  | some existing =>
      refine Safe.ite ((quiet_needsReview row _ _).bind fun _ ↦ safe_pure _) ?_
      refine Safe.ite (safe_pure _) ((quiet_ask rfl).bind fun observed ↦ ?_)
      refine (quiet_assertLease owner row).bind fun _ ↦ Safe.ite ?_ ?_
      · exact (quiet_recordOperation row _ _ _).bind fun _ ↦ safe_pure _
      · exact (quiet_deferOrReview policy row _ _).bind fun _ ↦ safe_pure _
  | none =>
      refine (quiet_prepareOperation row _ _ _ _).bind fun _ ↦ (quiet_ask rfl).bind fun result ↦ ?_
      refine (quiet_assertLease owner row).bind fun _ ↦ Safe.ite ?_ (Safe.ite ?_ ?_)
      · exact (quiet_recordOperation row _ _ _).bind fun _ ↦ safe_pure _
      · exact (quiet_recordOperation row _ _ _).bind fun _ ↦ safe_pure _
      · refine (quiet_recordOperation row _ _ _).bind fun _ ↦ ?_
        exact (quiet_deferOrReview policy row _ _).bind fun _ ↦ safe_pure _

theorem quiet_ensureMainAgentRestarted (paneId : String) (previousSessionId : Option String)
    (kind : RuntimeOperationKind) (sha : String) :
    IsQuiet setting (ensureMainAgentRestarted policy setting.requestId owner row paneId
      previousSessionId kind sha) := by
  refine (quiet_runtimeOperation kind).bind fun operation ↦ ?_
  cases operation with
  | some existing =>
      refine Safe.ite ((quiet_needsReview row _ _).bind fun _ ↦ safe_pure _) ?_
      refine Safe.ite ((quiet_needsReview row _ _).bind fun _ ↦ safe_pure _) ?_
      refine (quiet_ask rfl).bind fun observed ↦ (quiet_assertLease owner row).bind fun _ ↦ ?_
      refine (quiet_runtimeOperation kind).bind fun operation ↦ Safe.ite (safe_pure _) ?_
      refine Safe.ite ((quiet_recordOperation row kind _ _).bind fun _ ↦ safe_pure _) ?_
      refine Safe.ite ((quiet_needsReview row _ _).bind fun _ ↦ safe_pure _) ?_
      exact (quiet_deferOrReview policy row _ _).bind fun _ ↦ safe_pure _
  | none =>
      refine (quiet_ask rfl).bind fun observed ↦ (quiet_assertLease owner row).bind fun _ ↦ ?_
      refine (quiet_runtimeOperation kind).bind fun operation ↦ Safe.ite (safe_pure _) ?_
      refine Safe.ite ((quiet_prepareOperation row kind _ _ _).bind fun _ ↦ ?_) ?_
      · exact (quiet_recordOperation row kind _ _).bind fun _ ↦ safe_pure _
      refine Safe.ite ((quiet_needsReview row _ _).bind fun _ ↦ safe_pure _) ?_
      refine (quiet_prepareOperation row kind _ _ _).bind fun _ ↦ ?_
      refine (quiet_ask rfl).bind fun result ↦ (quiet_assertLease owner row).bind fun _ ↦ ?_
      refine Safe.ite ((quiet_recordOperation row kind _ _).bind fun _ ↦ ?_) (Safe.ite ?_ ?_)
      · exact (quiet_needsReview row _ _).bind fun _ ↦ safe_pure _
      · exact (quiet_recordOperation row kind _ _).bind fun _ ↦ safe_pure _
      · refine (quiet_recordOperation row kind _ _).bind fun _ ↦ ?_
        exact (quiet_deferOrReview policy row _ _).bind fun _ ↦ safe_pure _

/-! ### Recovery -/

theorem quiet_readPointers : IsQuiet setting readPointers := by
  refine (quiet_ask rfl).bind fun (previousFirst : Bool) ↦ Safe.ite ?_ ?_
  · exact (quiet_ask rfl).bind fun _ ↦ (quiet_ask rfl).bind fun _ ↦ safe_pure _
  · exact (quiet_ask rfl).bind fun _ ↦ (quiet_ask rfl).bind fun _ ↦ safe_pure _

theorem quiet_observe : IsQuiet setting observe :=
  quiet_readPointers.bind fun _ ↦ (quiet_ask rfl).bind fun _ ↦ safe_pure _

theorem quiet_reconcileUnknownStart (kind : RuntimeOperationKind) (service : Service)
    (releaseSha : String) :
    IsQuiet setting
      (reconcileUnknownStart setting.requestId owner row kind service releaseSha) := by
  refine Safe.bind (Safe.attempt ((quiet_ask rfl).bind fun manifest ↦ ?_)) fun observed ↦ ?_
  · cases manifest with
    | none => exact safe_pure _
    | some compatibility => exact (quiet_ask rfl).bind fun _ ↦ safe_pure _
  · refine (quiet_assertLease owner row).bind fun _ ↦ Safe.ite ?_ (safe_pure _)
    exact (quiet_recordOperation row kind _ _).bind fun _ ↦ safe_pure _

theorem quiet_settleRestarted (kind : RuntimeOperationKind) (service : Service)
    (causeCode releaseSha code : String) :
    IsQuiet setting
      (settleRestarted setting.requestId owner row kind service causeCode releaseSha code) := by
  refine (quiet_ask rfl).bind fun manifest ↦ (quiet_assertLease owner row).bind fun _ ↦ ?_
  cases manifest with
  | none => exact safe_pure _
  | some compatibility =>
      refine (quiet_ask rfl).bind fun health ↦ (quiet_assertLease owner row).bind fun _ ↦ ?_
      exact Safe.ite ((quiet_recordOperation row kind _ _).bind fun _ ↦ safe_pure _) (safe_pure _)

theorem quiet_unknownRestart (kind : RuntimeOperationKind) (service : Service)
    (causeCode releaseSha code : String) :
    IsQuiet setting
      (unknownRestart setting.requestId owner row kind service causeCode releaseSha code) := by
  refine (quiet_reconcileUnknownStart owner row kind service releaseSha).bind fun reconciled ↦ ?_
  exact Safe.ite (safe_pure _) (safe_pure _)

theorem quiet_restartQuiescedService (kind : RuntimeOperationKind) (service : Service)
    (causeCode releaseSha code : String) :
    IsQuiet setting
      (restartQuiescedService setting.requestId owner row kind service causeCode releaseSha
        code) := by
  refine (quiet_runtimeOperation kind).bind fun operation ↦ ?_
  cases operation with
  | some existing =>
      refine Safe.ite (safe_pure _) (Safe.ite ?_ (Safe.ite (safe_pure _) ?_))
      · exact quiet_unknownRestart owner row kind service causeCode releaseSha code
      · exact quiet_settleRestarted owner row kind service causeCode releaseSha code
  | none =>
      refine (quiet_prepareOperation row kind _ _ _).bind fun _ ↦ ?_
      refine (quiet_ask rfl).attempt.bind fun started ↦ ?_
      cases started with
      | error _ =>
          refine (quiet_assertLease owner row).bind fun _ ↦ ?_
          refine (quiet_recordOperation row kind _ _).bind fun _ ↦ ?_
          exact quiet_unknownRestart owner row kind service causeCode releaseSha code
      | ok result =>
          refine (quiet_assertLease owner row).bind fun _ ↦ Safe.ite ?_ ?_
          · refine (quiet_recordOperation row kind _ _).bind fun _ ↦ ?_
            exact quiet_settleRestarted owner row kind service causeCode releaseSha code
          · refine (quiet_recordOperation row kind _ _).bind fun _ ↦ Safe.ite (safe_pure _) ?_
            exact quiet_unknownRestart owner row kind service causeCode releaseSha code

theorem quiet_restartServices (dispatcherKind slackKind : RuntimeOperationKind)
    (causeCode releaseSha dispatcherCode slackCode : String)
    (dispatcherQuiesced slackQuiesced : Bool) :
    IsQuiet setting (restartServices setting.requestId owner row dispatcherKind slackKind causeCode
      releaseSha dispatcherCode slackCode dispatcherQuiesced slackQuiesced) := by
  refine Safe.bind (Safe.ite ?_ (safe_pure _)) fun dispatcherFailure ↦ ?_
  · exact quiet_restartQuiescedService owner row dispatcherKind .dispatcher causeCode _ _
  refine Safe.bind (Safe.ite ?_ (safe_pure _)) fun slackFailure ↦ safe_pure _
  exact quiet_restartQuiescedService owner row slackKind .slackAdapter causeCode _ _

theorem quiet_stillHealthy (service : Service) (sha : String) :
    IsQuiet setting (stillHealthy setting.requestId owner row service sha) :=
  (quiet_ask rfl).bind fun _ ↦ (quiet_ask rfl).bind fun _ ↦
    (quiet_assertLease owner row).bind fun _ ↦ safe_pure _

theorem quiet_restartStoppedAgent (stopKind startKind : RuntimeOperationKind) (sha : String) :
    IsQuiet setting
      (restartStoppedAgent policy setting.requestId owner row stopKind startKind sha) := by
  refine (quiet_runtimeOperation stopKind).bind fun operation ↦ ?_
  cases operation with
  | none => exact safe_pure _
  | some stopped =>
      refine Safe.ite (safe_pure _) (Safe.ite (safe_pure _) ?_)
      exact quiet_ensureMainAgentRestarted policy owner row _ _ startKind sha

theorem quiet_schemaReadable : IsQuiet setting (schemaReadable setting.requestId owner row) := by
  refine Safe.bind (Safe.attempt ?_) fun states ↦ ?_
  · exact (quiet_ask rfl).bind fun _ ↦ (quiet_ask rfl).bind fun _ ↦ safe_pure _
  · cases states with
    | error _ => exact safe_pure _
    | ok states =>
        exact (quiet_assertLease owner row).bind fun _ ↦ Safe.ite (safe_pure _) (safe_pure _)

/-- A service that was quiesced needs no look; another one is looked at. -/
theorem quiet_healthy (quiesced : Bool) (service : Service) (sha : String) :
    IsQuiet setting (if quiesced then pure true
      else stillHealthy setting.requestId owner row service sha) :=
  Safe.ite (safe_pure _) (quiet_stillHealthy owner row service sha)

theorem quiet_restoreTargetAfterDrain (causeCode : String)
    (dispatcherQuiesced slackQuiesced : Bool) :
    IsQuiet setting (restoreTargetAfterDrain policy setting.requestId owner row causeCode
      dispatcherQuiesced slackQuiesced) := by
  refine (quiet_restartServices owner row _ _ _ _ _ _ _ _).bind fun failure ↦ ?_
  refine (quiet_restartStoppedAgent policy owner row _ _ _).bind fun restarted ↦ ?_
  refine Safe.ite ?_ (safe_pure _)
  cases failure with
  | some failure => exact quiet_needsReview row _ _
  | none =>
      refine (quiet_healthy owner row dispatcherQuiesced _ _).bind fun dispatcher ↦ ?_
      refine Safe.ite ?_ (quiet_needsReview row _ _)
      refine (quiet_healthy owner row slackQuiesced _ _).bind fun slack ↦ ?_
      refine Safe.ite ?_ (quiet_needsReview row _ _)
      refine quiet_observe.bind fun pointer ↦ (quiet_assertLease owner row).bind fun _ ↦ ?_
      exact Safe.ite (quiet_needsReview row _ _) (quiet_needsReview row _ _)

theorem quiet_drainsNow (service : Service) (health : HealthSnapshot) :
    IsQuiet setting (drainsNow service health) := by
  refine Safe.ite ((quiet_ask rfl).attempt.bind fun drain ↦ ?_) (safe_pure _)
  cases drain <;> exact safe_pure _

theorem quiet_rollbackQuiescedScope (dispatcher slack : HealthSnapshot) :
    IsQuiet setting (rollbackQuiescedScope setting.requestId dispatcher slack) := by
  refine (quiet_drainsNow _ _).bind fun _ ↦ (quiet_drainsNow _ _).bind fun _ ↦ ?_
  exact (quiet_runtimeOperation _).bind fun _ ↦ (quiet_runtimeOperation _).bind fun _ ↦ safe_pure _

theorem quiet_ensureRollbackMainAgentStopped (fallbackPaneId : Option String) :
    IsQuiet setting
      (ensureRollbackMainAgentStopped policy setting.requestId owner row fallbackPaneId) := by
  refine (quiet_runtimeOperation _).bind fun operation ↦ ?_
  cases operation with
  | some existing =>
      refine Safe.ite (safe_pure _) (Safe.ite (safe_pure _) (Safe.ite (safe_pure _) ?_))
      refine (quiet_ask rfl).bind fun observed ↦ (quiet_assertLease owner row).bind fun _ ↦ ?_
      refine Safe.ite ?_ (Safe.ite (safe_pure _) (safe_pure _))
      exact (quiet_recordOperation row _ _ _).bind fun _ ↦ safe_pure _
  | none =>
      refine (quiet_ask rfl).bind fun drained ↦ (quiet_assertLease owner row).bind fun _ ↦ ?_
      refine Safe.ite ?_ ?_
      · cases fallbackPaneId with
        | none => exact safe_pure _
        | some paneId =>
            refine (quiet_prepareOperation row _ _ _ _).bind fun _ ↦ ?_
            exact (quiet_recordOperation row _ _ _).bind fun _ ↦ safe_pure _
      · refine (quiet_ask rfl).bind fun agent ↦ (quiet_assertLease owner row).bind fun _ ↦ ?_
        split
        · refine Safe.ite (safe_pure _) ((quiet_prepareOperation row _ _ _ _).bind fun _ ↦ ?_)
          refine (quiet_ask rfl).bind fun stopped ↦ (quiet_assertLease owner row).bind fun _ ↦ ?_
          refine Safe.ite ((quiet_recordOperation row _ _ _).bind fun _ ↦ safe_pure _) ?_
          split
          · exact (quiet_recordOperation row _ _ _).bind fun _ ↦ safe_pure _
          · exact (quiet_recordOperation row _ _ _).bind fun _ ↦ safe_pure _
        · exact safe_pure _

/-! ### Before the switch back -/

theorem quiet_restoreTargetWithin (causeCode : String) :
    IsQuiet setting (restoreTargetWithin policy setting.requestId owner row causeCode) := by
  refine (quiet_ask rfl).bind fun dispatcher ↦ (quiet_ask rfl).bind fun slack ↦ ?_
  refine (quiet_assertLease owner row).bind fun _ ↦ ?_
  refine (quiet_rollbackQuiescedScope dispatcher slack).bind fun scope ↦ ?_
  refine (quiet_assertLease owner row).bind fun _ ↦ ?_
  exact quiet_restoreTargetAfterDrain policy owner row _ _ _

theorem quiet_stopTarget (kind : RuntimeOperationKind) (service : Service) :
    IsQuiet setting (stopTarget policy setting.requestId owner row kind service) := by
  have hstop : IsQuiet setting (ensureServiceStopped policy setting.requestId owner row kind
      service none) := quiet_ensureServiceStopped policy owner row kind service none
  refine hstop.attempt.bind fun stopped ↦ ?_
  cases stopped with
  | ok stopped => exact safe_pure _
  | error _ =>
      refine (quiet_assertLease owner row).bind fun _ ↦ ?_
      exact (quiet_restoreTargetAfterDrain policy owner row _ _ _).bind fun _ ↦ safe_pure _

/-- The target is restored, and the run ends. -/
theorem quiet_restoreTarget_none (causeCode : String) (dispatcherQuiesced slackQuiesced : Bool) :
    IsQuiet setting (do
      restoreTargetAfterDrain policy setting.requestId owner row causeCode dispatcherQuiesced
        slackQuiesced
      pure (none : Option β)) :=
  (quiet_restoreTargetAfterDrain policy owner row _ _ _).bind fun _ ↦ safe_pure _

theorem quiet_stopDrainedTarget (knownPaneId : Option String) :
    IsQuiet setting (stopDrainedTarget policy setting.requestId owner row knownPaneId) := by
  refine (quiet_stopTarget policy owner row _ _).bind fun slack ↦ Safe.ite ?_ (safe_pure _)
  refine (quiet_stopTarget policy owner row _ _).bind fun dispatcher ↦ Safe.ite ?_ (safe_pure _)
  refine (quiet_ask rfl).bind fun workers ↦ (quiet_assertLease owner row).bind fun _ ↦ ?_
  refine Safe.ite ?_ (quiet_restoreTarget_none policy owner row _ _ _)
  refine (quiet_ensureRollbackMainAgentStopped policy owner row knownPaneId).bind fun stopped ↦ ?_
  cases stopped with
  | ok paneId => exact safe_pure _
  | error code => exact quiet_restoreTarget_none policy owner row _ _ _

theorem quiet_drainService (service : Service) (health : HealthSnapshot) :
    IsQuiet setting (drainService setting.requestId owner row service health) := by
  refine Safe.ite ((quiet_ask rfl).bind fun drain ↦ ?_) (safe_pure _)
  exact (quiet_assertLease owner row).bind fun _ ↦ Safe.ite (safe_pure _) (safe_pure _)

theorem quiet_drainTarget (knownPaneId : Option String) :
    IsQuiet setting (drainTarget policy setting.requestId owner row knownPaneId) := by
  refine (safe_read _).bind fun recovery ↦ ?_
  cases recovery with
  | some kind =>
      refine (quiet_ask rfl).bind fun evidence ↦ ?_
      cases evidence with
      | none => exact (quiet_needsReview row _ _).bind fun _ ↦ safe_pure _
      | some evidence => exact quiet_restoreTarget_none policy owner row _ _ _
  | none =>
      refine (quiet_ask rfl).bind fun slackHealth ↦ (quiet_assertLease owner row).bind fun _ ↦ ?_
      refine (quiet_runtimeOperation _).bind fun slackStop ↦ (quiet_ask rfl).bind fun workers ↦ ?_
      refine (quiet_assertLease owner row).bind fun _ ↦ Safe.ite ?_ ?_
      · exact (quiet_restoreTargetWithin policy owner row _).bind fun _ ↦ safe_pure _
      refine (quiet_ask rfl).bind fun dispatcherHealth ↦ ?_
      refine (quiet_assertLease owner row).bind fun _ ↦ ?_
      refine (quiet_runtimeOperation _).bind fun originalStop ↦ ?_
      refine (quiet_runtimeOperation _).bind fun targetStart ↦ ?_
      refine (quiet_runtimeOperation _).bind fun targetStop ↦ Safe.ite ?_ ?_
      · refine (quiet_rollbackQuiescedScope _ _).bind fun scope ↦ ?_
        refine (quiet_assertLease owner row).bind fun _ ↦ ?_
        exact quiet_restoreTarget_none policy owner row _ _ _
      refine (quiet_drainService owner row _ _).bind fun slackDrain ↦ ?_
      cases slackDrain with
      | some quiescing => exact quiet_restoreTarget_none policy owner row _ _ _
      | none =>
          refine (quiet_drainService owner row _ _).bind fun dispatcherDrain ↦ ?_
          cases dispatcherDrain with
          | some quiescing => exact quiet_restoreTarget_none policy owner row _ _ _
          | none => exact quiet_stopDrainedTarget policy owner row knownPaneId

theorem quiet_readyToSwitchBack (observation : Observation) (knownPaneId : Option String) :
    IsQuiet setting
      (readyToSwitchBack policy setting.requestId owner row observation knownPaneId) := by
  refine Safe.ite (Safe.ite ?_ (quiet_drainTarget policy owner row knownPaneId)) (Safe.ite ?_ ?_)
  · exact (quiet_deferOrReview policy row _ _).bind fun _ ↦ safe_pure _
  · exact (quiet_deferOrReview policy row _ _).bind fun _ ↦ safe_pure _
  · refine (safe_read _).bind fun observed ↦ Safe.ite (safe_pure _) ?_
    exact (quiet_deferOrReview policy row _ _).bind fun _ ↦ safe_pure _

/-! ### The stop of the current services -/

theorem quiet_recoveryServiceQuiesced (service : Service) (persistedStop : Bool) :
    IsQuiet setting
      (recoveryServiceQuiesced setting.requestId owner row service persistedStop) := by
  refine Safe.bind (Safe.attempt ?_) fun quiesced ↦ ?_
  · refine (quiet_ask rfl).bind fun health ↦ (quiet_assertLease owner row).bind fun _ ↦ ?_
    refine Safe.ite (Safe.ite ?_ (safe_pure _)) (Safe.ite (safe_pure _) ?_)
    · refine (quiet_ask rfl).bind fun registered ↦ ?_
      exact (quiet_assertLease owner row).bind fun _ ↦ safe_pure _
    · refine (quiet_ask rfl).bind fun drain ↦ ?_
      exact (quiet_assertLease owner row).bind fun _ ↦ safe_pure _
  · cases quiesced with
    | ok quiesced => exact safe_pure _
    | error _ => exact (quiet_assertLease owner row).bind fun _ ↦ safe_pure _

theorem quiet_resumeRecovery (recovery : Option RuntimeOperationKind) (stops : PersistedStops) :
    IsQuiet setting (resumeRecovery recovery stops) := by
  cases recovery with
  | some kind =>
      refine (quiet_ask rfl).bind fun evidence ↦ ?_
      split <;> exact safe_pure _
  | none => exact Safe.ite ((quiet_ask rfl).bind fun _ ↦ safe_pure _) (safe_pure _)

/-- A look at one service before the run ends. -/
theorem quiet_scope (service : Service) (persistedStop : Bool) (f : Bool → α) :
    IsQuiet setting (do
      let quiesced ← recoveryServiceQuiesced setting.requestId owner row service persistedStop
      pure (f quiesced)) :=
  (quiet_recoveryServiceQuiesced owner row service persistedStop).bind fun _ ↦ safe_pure _

/-- A look at both services before the run ends. -/
theorem quiet_scopes (dispatcherStop slackStop : Bool) (f : Bool → Bool → α) :
    IsQuiet setting (do
      let dispatcherQuiesced ←
        recoveryServiceQuiesced setting.requestId owner row .dispatcher dispatcherStop
      let slackQuiesced ←
        recoveryServiceQuiesced setting.requestId owner row .slackAdapter slackStop
      pure (f dispatcherQuiesced slackQuiesced)) :=
  (quiet_recoveryServiceQuiesced owner row .dispatcher dispatcherStop).bind fun dispatcher ↦
    quiet_scope owner row .slackAdapter slackStop (f dispatcher)

theorem quiet_reappeared (service : Service) (stop : RuntimeOperationRow)
    (dispatcherStop slackStop : Bool) :
    IsQuiet setting
      (reappeared setting.requestId owner row service stop dispatcherStop slackStop) := by
  refine (safe_read _).bind fun now ↦ Safe.ite ?_ (quiet_scopes owner row _ _ _)
  cases service <;> exact safe_pure _

theorem quiet_quiesceSlack (stops : PersistedStops) :
    IsQuiet setting (quiesceSlack setting.requestId owner row stops) := by
  refine (quiet_ask rfl).bind fun health ↦ (quiet_assertLease owner row).bind fun _ ↦ ?_
  refine Safe.ite (Safe.ite (quiet_scope owner row _ _ _) ?_) ?_
  · cases stops.slack with
    | some stop => exact (quiet_reappeared owner row _ stop _ _).bind fun _ ↦ safe_pure _
    | none =>
        refine (quiet_ask rfl).attempt.bind fun drain ↦ ?_
        cases drain with
        | error _ => exact (quiet_assertLease owner row).bind fun _ ↦ quiet_scope owner row _ _ _
        | ok drain =>
            refine (quiet_assertLease owner row).bind fun _ ↦ ?_
            exact Safe.ite (quiet_scope owner row _ _ _) (safe_pure _)
  · cases stops.slack with
    | none => exact safe_throw _
    | some stop =>
        refine (quiet_ask rfl).attempt.bind fun registered ↦ ?_
        cases registered with
        | error _ => exact (quiet_assertLease owner row).bind fun _ ↦ quiet_scope owner row _ _ _
        | ok registered =>
            refine (quiet_assertLease owner row).bind fun _ ↦ ?_
            exact Safe.ite (quiet_scopes owner row _ _ _) (safe_pure _)

theorem quiet_quiesceDispatcher (stops : PersistedStops) :
    IsQuiet setting (quiesceDispatcher setting.requestId owner row stops) := by
  refine (quiet_ask rfl).bind fun health ↦ (quiet_assertLease owner row).bind fun _ ↦ ?_
  refine Safe.ite (Safe.ite (quiet_scope owner row _ _ _) ?_) ?_
  · cases stops.dispatcher with
    | some stop => exact (quiet_reappeared owner row _ stop _ _).bind fun _ ↦ safe_pure _
    | none =>
        refine (quiet_ask rfl).attempt.bind fun drain ↦ ?_
        cases drain with
        | error _ => exact (quiet_assertLease owner row).bind fun _ ↦ quiet_scopes owner row _ _ _
        | ok drain =>
            refine (quiet_assertLease owner row).bind fun _ ↦ ?_
            exact Safe.ite (quiet_scopes owner row _ _ _) (safe_pure _)
  · cases stops.dispatcher with
    | none => exact safe_throw _
    | some stop =>
        refine (quiet_ask rfl).attempt.bind fun registered ↦ ?_
        cases registered with
        | error _ => exact (quiet_assertLease owner row).bind fun _ ↦ quiet_scope owner row _ _ _
        | ok registered =>
            refine (quiet_assertLease owner row).bind fun _ ↦ ?_
            exact Safe.ite (quiet_scopes owner row _ _ _) (safe_pure _)

theorem quiet_stopAgent (current : MainAgentObservation) (paneId sessionId : String) :
    IsQuiet setting (stopAgent setting.requestId owner row current paneId sessionId) := by
  refine (quiet_prepareOperation row _ _ _ _).bind fun _ ↦ (quiet_ask rfl).bind fun stopped ↦ ?_
  refine (quiet_assertLease owner row).bind fun _ ↦ Safe.ite ?_ ?_
  · exact (quiet_recordOperation row _ _ _).bind fun _ ↦ safe_pure _
  · split
    · exact (quiet_recordOperation row _ _ _).bind fun _ ↦ safe_pure _
    · exact (quiet_recordOperation row _ _ _).bind fun _ ↦ safe_pure _

theorem quiet_quiesceMainAgent (stops : PersistedStops) (paneId : Option String) :
    IsQuiet setting (quiesceMainAgent policy setting.requestId owner row stops paneId) := by
  unfold quiesceMainAgent
  cases stops.mainAgent with
  | none =>
      refine (quiet_ask rfl).bind fun drained ↦ (quiet_assertLease owner row).bind fun _ ↦ ?_
      refine (quiet_ask rfl).bind fun current ↦ (quiet_assertLease owner row).bind fun _ ↦ ?_
      split
      · exact Safe.ite (quiet_stopAgent owner row _ _ _) (safe_pure _)
      · exact safe_pure _
  | some stop =>
      refine Safe.ite (safe_pure _) ((quiet_ask rfl).bind fun current ↦ ?_)
      refine (quiet_assertLease owner row).bind fun _ ↦ Safe.ite (safe_pure _) ?_
      exact (quiet_recordOperation row _ _ _).bind fun _ ↦ safe_pure _

theorem quiet_stopCurrent (kind : RuntimeOperationKind) (service : Service) :
    IsQuiet setting (stopCurrent policy setting.requestId owner row kind service) := by
  refine (quiet_ensureServiceStopped policy owner row kind service _).attempt.bind fun stopped ↦ ?_
  split
  · exact safe_pure _
  · exact safe_pure _
  · exact (quiet_assertLease owner row).bind fun _ ↦ safe_pure _

theorem quiet_migrateSchema (previous : Compatibility) (capability : String) :
    IsQuiet setting (migrateSchema setting.requestId owner row previous capability) := by
  refine (quiet_ask rfl).bind fun controlPlane ↦ (quiet_assertLease owner row).bind fun _ ↦ ?_
  refine Safe.ite (safe_pure _) ((quiet_ask rfl).bind fun migration ↦ ?_)
  refine (quiet_assertLease owner row).bind fun _ ↦ Safe.ite (safe_pure _) ?_
  refine Safe.ite (Safe.bind (Safe.bind (Safe.attempt ?_) fun schema ↦ ?_) fun _ ↦ safe_pure _)
    (safe_pure _)
  · refine (quiet_ask rfl).bind fun schema ↦ ?_
    exact (quiet_assertLease owner row).bind fun _ ↦ safe_pure _
  · exact Safe.ite (safe_pure _) (safe_pure _)

theorem quiet_migrateIfNeeded : IsQuiet setting (migrateIfNeeded setting.requestId owner row) := by
  refine Safe.bind ((quiet_ask rfl).bind fun sha ↦ ?_) fun activeSha ↦ ?_
  · cases sha with
    | some sha => exact safe_pure _
    | none => exact safe_throw _
  · refine (quiet_ask rfl).bind fun manifest ↦ ?_
    cases manifest with
    | none => exact safe_throw _
    | some previous =>
        refine Safe.ite ?_ (safe_pure _)
        split
        · exact quiet_migrateSchema owner row _ _
        · exact Safe.ite (quiet_migrateSchema owner row _ _) (safe_pure _)

theorem quiet_stopServices : IsQuiet setting (stopServices policy setting.requestId owner row) := by
  refine (quiet_stopCurrent policy owner row _ _).bind fun slack ↦ ?_
  cases slack with
  | some ending => exact safe_pure _
  | none =>
      refine (quiet_stopCurrent policy owner row _ _).bind fun dispatcher ↦ ?_
      cases dispatcher with
      | some ending => exact safe_pure _
      | none =>
          refine (quiet_ask rfl).bind fun workers ↦ (quiet_assertLease owner row).bind fun _ ↦ ?_
          exact Safe.ite (quiet_migrateIfNeeded owner row) (safe_pure _)

theorem quiet_quiesceServices (paneId : Option String) :
    IsQuiet setting (quiesceServices policy setting.requestId owner row paneId) := by
  refine (safe_read _).bind fun w ↦ (quiet_resumeRecovery _ _).bind fun resumed ↦ ?_
  cases resumed with
  | some ending => exact safe_pure _
  | none =>
      refine (quiet_quiesceSlack owner row _).bind fun slack ↦ ?_
      cases slack with
      | some ending => exact safe_pure _
      | none =>
          refine (quiet_quiesceDispatcher owner row _).bind fun dispatcher ↦ ?_
          cases dispatcher with
          | some ending => exact safe_pure _
          | none =>
              refine (quiet_quiesceMainAgent policy owner row _ paneId).bind fun agent ↦ ?_
              cases agent with
              | error ending => exact safe_pure _
              | ok stoppedPaneId =>
                  refine (quiet_stopServices policy owner row).bind fun stopped ↦ ?_
                  cases stopped <;> exact safe_pure _

/-! ### The other parts of a run -/

theorem quiet_approvalEnded : IsQuiet setting (approvalEnded row) := by
  unfold approvalEnded
  split
  · exact safe_pure _
  · exact quiet_ask rfl

theorem quiet_countRestart : IsQuiet setting (countRestart setting.requestId row) := by
  refine (quiet_runtimeOperation _).bind fun started ↦ ?_
  cases started with
  | some started => exact safe_pure _
  | none =>
      refine quiet_database fun now db a db' h ↦ settles_updateFenced (fun row ↦ ?_) h
      exact ⟨rfl, rfl, rfl, rfl, .refl _⟩

theorem quiet_activeManifest (pointer : Observation) :
    IsQuiet setting (activeManifest pointer) := by
  unfold activeManifest
  split
  · exact safe_pure _
  · exact quiet_ask rfl

theorem quiet_currentRuntimeVerified : IsQuiet setting (currentRuntimeVerified row) := by
  refine Safe.bind (Safe.attempt ?_) fun _ ↦ safe_pure _
  refine quiet_observe.bind fun _ ↦ (quiet_ask rfl).bind fun _ ↦ (quiet_ask rfl).bind fun _ ↦ ?_
  exact (quiet_ask rfl).bind fun _ ↦ (quiet_ask rfl).bind fun _ ↦ safe_pure _

theorem quiet_mayBeClaimed : IsQuiet setting (mayBeClaimed row) := by
  refine Safe.ite ?_ (safe_pure _)
  split
  · exact safe_throw _
  · exact quiet_ask rfl

end

end Dona.UpdateController
