import Dona.Scheduler.Occurrences
import Dona.Scheduler.Standing

/-!
# Claims are fenced

Each claim of a due schedule takes the next fence, and a claim that has been released is never
given back under its fence. So a materialization with a claim that is stale, over, released or of
another instance is refused, and an occurrence that several instances have claimed is recorded
once.
-/

namespace Dona

open Fallible TransitionSystem

/-- A claim gives way to one with a later fence, or is released. -/
def ScheduleClaim.Precedes (claim claim' : ScheduleClaim) : Prop :=
  claim.claimFence < claim'.claimFence ∨
    claim.claimFence = claim'.claimFence ∧ (claim' = claim ∨ claim'.claimOwner = none)

namespace ScheduleClaim.Precedes

variable {a b c : ScheduleClaim}

theorem refl (a : ScheduleClaim) : a.Precedes a := .inr ⟨rfl, .inl rfl⟩

theorem of_released (a : ScheduleClaim) :
    a.Precedes { a with claimOwner := none, claimUntil := none } := .inr ⟨rfl, .inr rfl⟩

theorem fence_le (h : a.Precedes b) : a.claimFence ≤ b.claimFence := by
  rcases h with hlt | ⟨heq, -⟩
  · exact hlt.le
  · exact heq.le

theorem trans (h : a.Precedes b) (h' : b.Precedes c) : a.Precedes c := by
  rcases h with hlt | ⟨hab, hb⟩
  · exact .inl (hlt.trans_le h'.fence_le)
  rcases h' with hlt | ⟨hbc, hc⟩
  · exact .inl (hab.trans_lt hlt)
  refine .inr ⟨hab.trans hbc, ?_⟩
  rcases hc with rfl | hc
  · exact hb
  · exact .inr hc

end ScheduleClaim.Precedes

namespace Db

/-- The claim of a schedule; one that was never claimed has none, at fence 0. -/
def claimOf (db : Db) (scheduleId : ScheduleId) : ScheduleClaim :=
  (db.claims.get? scheduleId).getD ⟨none, none, 0⟩

/-- The schedule is claimed by this owner under this fence, and the lease is not over. -/
def Holds (db : Db) (scheduleId : ScheduleId) (owner : String) (fence : ℕ) (now : Timestamp) :
    Prop :=
  (db.claimOf scheduleId).claimOwner = some owner ∧ (db.claimOf scheduleId).claimFence = fence ∧
    ∃ lease, (db.claimOf scheduleId).claimUntil = some lease ∧ now < lease

variable {db db' : Db} {id scheduleId : ScheduleId} {now : Timestamp} {env : Env} {u : Unit}

theorem claimConflict_eq_false_iff {claim : MaterializeClaim} :
    db.claimConflict id claim now = false ↔ db.Holds id claim.owner claim.fence now := by
  simp only [claimConflict, Holds, claimOf]
  cases db.claims.get? id with
  | none => simp
  | some stored =>
      simp only [decide_eq_false_iff_not, not_or, not_not, Option.getD_some]
      cases stored.claimUntil <;> simp

/-! ### What moves the claim of a schedule -/

theorem claimOf_congr (h : db'.claims = db.claims) : db'.claimOf id = db.claimOf id := by
  rw [claimOf, claimOf, h]

theorem precedes_of_eq (h : db'.claims = db.claims) : (db.claimOf id).Precedes (db'.claimOf id) := by
  rw [claimOf_congr h]
  exact .refl _

theorem precedes_updateWhere {p : ScheduleId → ScheduleClaim → Bool}
    {f : ScheduleClaim → ScheduleClaim}
    (h : ∀ claim, p id claim = true → claim.Precedes (f claim)) :
    (db.claimOf id).Precedes (claimOf { db with claims := db.claims.updateWhere p f } id) := by
  simp only [claimOf, Table.get?_updateWhere]
  cases db.claims.get? id with
  | none => exact .refl _
  | some claim =>
      simp only [Option.map_some, Option.getD_some]
      split_ifs with hp
      · exact h claim hp
      · exact .refl claim

theorem precedes_releaseClaim :
    (db.claimOf id).Precedes ((db.releaseClaim scheduleId).claimOf id) :=
  precedes_updateWhere fun claim _ ↦ .of_released claim

theorem precedes_releaseIfClaimed {claim : Option MaterializeClaim} :
    (db.claimOf id).Precedes ((db.releaseIfClaimed scheduleId claim).claimOf id) := by
  unfold releaseIfClaimed
  split_ifs
  · exact precedes_releaseClaim
  · exact .refl _

theorem precedes_releaseClaims {owner : String} (h : db.releaseClaims owner now = .ok (u, db')) :
    (db.claimOf id).Precedes (db'.claimOf id) := by
  simp only [releaseClaims, bind_eq_ok, Except.ok.injEq, Prod.mk.injEq] at h
  obtain ⟨_, -, _, -, -, rfl⟩ := h
  exact precedes_updateWhere fun claim _ ↦ .of_released claim

/-- The claim of a due schedule takes the next fence, for this owner and until the end of the
lease; the claims of the other schedules are left alone. -/
theorem claimDue_spec {owner : String} {leaseSeconds : ℕ} {excluded : List ScheduleId}
    {claimed : Option ScheduleId}
    (h : db.claimDue owner now leaseSeconds excluded = .ok (claimed, db')) :
    (∀ id, claimed ≠ some id → db'.claimOf id = db.claimOf id) ∧
      ∀ id, claimed = some id → db'.claimOf id =
        ⟨some owner, some (now.add leaseSeconds), (db.claimOf id).claimFence + 1⟩ := by
  simp only [claimDue, bind_eq_ok, throwIf_eq_ok] at h
  obtain ⟨_, -, _, -, _, -, _, -, h⟩ := h
  split at h <;> obtain ⟨rfl, rfl⟩ := Prod.mk.inj (Except.ok.inj h)
  · exact ⟨fun _ _ ↦ rfl, fun _ hsome ↦ by cases hsome⟩
  rename_i scheduleId _ hfirst
  obtain ⟨-, hdue⟩ := Table.get?_of_first? hfirst
  simp only [decide_eq_true_eq] at hdue
  have hfree := hdue.2.2.1
  simp only [claimOf, ne_eq, Option.some.injEq]
  cases hinsert : db.claims.insert? scheduleId
      ⟨some owner, some (now.add leaseSeconds), 1⟩ with
  | some claims =>
      have hget := Table.get?_insert? hinsert
      have hnone := Table.get?_eq_none_of_insert? hinsert
      refine ⟨fun id hid ↦ ?_, fun id hid ↦ ?_⟩
      · rw [Option.getD_some, hget, if_neg (Ne.symm hid)]
      · subst hid
        rw [Option.getD_some, hget, if_pos rfl, hnone]
        rfl
  | none =>
      obtain ⟨stored, hstored⟩ := Table.exists_of_insert?_eq_none hinsert
      rw [Option.getD_none]
      refine ⟨fun id hid ↦ ?_, fun id hid ↦ ?_⟩
      · rw [Table.get?_updateWhere]
        cases db.claims.get? id with
        | none => rfl
        | some claim => simp [Ne.symm hid]
      · subst hid
        simp only [hstored, Option.bind_some] at hfree
        simp [Table.get?_updateWhere, hstored, hfree]

theorem precedes_claimDue {owner : String} {leaseSeconds : ℕ} {excluded : List ScheduleId}
    {claimed : Option ScheduleId}
    (h : db.claimDue owner now leaseSeconds excluded = .ok (claimed, db')) :
    (db.claimOf id).Precedes (db'.claimOf id) := by
  obtain ⟨hother, hclaimed⟩ := claimDue_spec h
  by_cases hid : claimed = some id
  · rw [hclaimed id hid]
    exact .inl (Nat.lt_succ_self _)
  · rw [hother id hid]
    exact .refl _

theorem claims_insertRevision {revision : ℕ} {row : Revision}
    (h : db.insertRevision scheduleId revision row = .ok db') : db'.claims = db.claims := by
  simp only [insertRevision, orThrow_bind_eq_ok, Except.ok.injEq] at h
  obtain ⟨revisions, -, rfl⟩ := h
  rfl

theorem precedes_advanceRevision {old : Revision} {revision : ℕ} {operation : TransitionOperation}
    (h : db.advanceRevision scheduleId old revision operation now = .ok db') :
    (db.claimOf id).Precedes (db'.claimOf id) := by
  simp only [advanceRevision, bind_eq_ok, Except.ok.injEq] at h
  obtain ⟨db₁, hinsert, rfl⟩ := h
  set advanced := (db₁.retireRevisions scheduleId now (some revision)).updateSchedule scheduleId
    (advancedRow operation revision now) with hadvanced
  have hinserted : advanced.claims = db.claims := by
    rw [← claims_insertRevision hinsert]
    rfl
  have hsame : advanced.claimOf id = db.claimOf id := claimOf_congr hinserted
  have hreleased : (db.claimOf id).Precedes ((advanced.releaseClaim scheduleId).claimOf id) := by
    rw [← hsame]
    exact precedes_releaseClaim
  refine hreleased.trans (precedes_of_eq ?_)
  have hsuppressed : ∀ db : Db, db.Stands noStart (if operation = .resume then db else
      db.suppress scheduleId now .cancelled) := fun db ↦ .ite (.refl _ _) stands_suppress
  have hretired : ∀ db : Db, db.Stands noStart (if operation = .cancel then
      db.retireRevisions scheduleId now none else db) := fun db ↦
    .ite stands_retireRevisions (.refl _ _)
  exact (((hsuppressed _).trans (hretired _)).trans stands_completeIfDrained).claims

theorem precedes_transition {expectedRevision : ℕ} {operation : TransitionOperation} {actor : Actor}
    (h : db.transition scheduleId expectedRevision operation actor now = .ok (u, db')) :
    (db.claimOf id).Precedes (db'.claimOf id) := by
  simp only [transition, bind_eq_ok, orThrow_eq_ok, throwIf_eq_ok] at h
  obtain ⟨_, -, before, -, _, -, _, -, old, -, _, -, h⟩ := h
  set closed := if operation = .resume then db else
    db.closeNotices scheduleId (db.transitionInstant scheduleId before now) with hclosed
  have hclaims : closed.claims = db.claims := by
    rw [hclosed]
    split_ifs <;> rfl
  split_ifs at h
  · obtain ⟨-, rfl⟩ := Prod.mk.inj (Except.ok.inj h)
    exact precedes_of_eq ((stands_cancelUnusable : closed.Stands noStart _).claims.trans hclaims)
  · obtain ⟨-, rfl⟩ := Prod.mk.inj (Except.ok.inj h)
    exact precedes_of_eq ((stands_expireSchedule : closed.Stands noStart _).claims.trans hclaims)
  · simp only [bind_eq_ok, Except.ok.injEq, Prod.mk.injEq] at h
    obtain ⟨_, hadvance, -, rfl⟩ := h
    rw [← claimOf_congr hclaims]
    exact precedes_advanceRevision hadvance

/-! ### Materializations -/

/-- The call is accepted by everything that `materialize` checks before the claim. -/
structure MayMaterialize (db : Db) (scheduleId : ScheduleId) (scheduledFor : Timestamp)
    (nextDue : Option Timestamp) (now : Timestamp) (actor : Actor) : Prop where
  now_utc : utc now = .ok ()
  scheduledFor_utc : utc scheduledFor = .ok ()
  nextDue_utc : nextDue.elim (.ok ()) utc = .ok ()
  checked : ∃ row, db.schedules.get? scheduleId = some row ∧
    db.checked scheduleId row.revision actor false = .ok row

/-- A claim that is not held is refused, as a conflict unless something before it is refused. -/
theorem materialize_of_not_holds {expectedRevision : ℕ} {scheduledFor : Timestamp}
    {nextDue : Option Timestamp} {actor : Actor} {skip : Option SkipReason}
    {compactSkip : Option CompactSkip} {claim : MaterializeClaim}
    (hnot : ¬db.Holds scheduleId claim.owner claim.fence now) :
    (∃ e, db.materialize env scheduleId expectedRevision scheduledFor nextDue now actor skip
      compactSkip (some claim) = .error e) ∧
      (db.MayMaterialize scheduleId scheduledFor nextDue now actor →
        db.materialize env scheduleId expectedRevision scheduledFor nextDue now actor skip
          compactSkip (some claim) = .error "claim_conflict") := by
  have hconflict : db.claimConflict scheduleId claim now = true := by
    rw [← Bool.not_eq_false, claimConflict_eq_false_iff]
    exact hnot
  constructor
  · cases h : db.materialize env scheduleId expectedRevision scheduledFor nextDue now actor skip
      compactSkip (some claim) with
    | error e => exact ⟨e, rfl⟩
    | ok result =>
        simp only [materialize, bind_eq_ok, orThrow_eq_ok, throwIf_eq_ok, Option.any_some] at h
        obtain ⟨_, -, _, -, _, -, current, -, before, -, _, hclaim, -⟩ := h
        exact absurd hconflict hclaim
  · rintro ⟨hnow, hscheduledFor, hnextDue, row, hrow, hchecked⟩
    simp only [materialize, hnow, hscheduledFor, hnextDue, hrow, orThrow, hchecked, ok_bind,
      Option.any_some, hconflict, throwIf, if_true, error_bind]

/-- No run, no event and no write has been added. -/
structure CreatesNothing (db db' : Db) : Prop where
  runs : ∀ runId, db.runs.get? runId = none → db'.runs.get? runId = none
  events : ∀ eventId, db.events.get? eventId = none → db'.events.get? eventId = none
  outbox : ∀ outboxId, db.outbox.get? outboxId = none → db'.outbox.get? outboxId = none

theorem CreatesNothing.refl (db : Db) : db.CreatesNothing db :=
  ⟨fun _ ↦ id, fun _ ↦ id, fun _ ↦ id⟩

theorem createsNothing_expireSchedule {before : Schedule}
    (h : db.schedules.get? scheduleId = some before) (hlive : before.state.isAbsorbing = false) :
    db.CreatesNothing (db.expireSchedule scheduleId before now) := by
  have hevolves : db.Evolves .strict (db.expireSchedule scheduleId before now) := by
    refine evolves_expireSchedule (.inr fun row hrow ↦ ?_)
    obtain rfl : before = row := Option.some.inj (h.symm.trans hrow)
    exact hlive
  refine ⟨fun runId hnone ↦ hevolves.runs.get?_eq_none_iff.2 hnone, fun eventId hnone ↦ ?_,
    fun outboxId hnone ↦ ?_⟩
  · rw [expireSchedule, events_completeIfDrained]
    simp only [retireRevisions, updateSchedule, suppress, suppressNotifications, suppressEvents,
      Table.get?_updateWhere, Option.map_eq_none_iff]
    split_ifs <;> exact hnone
  · cases hrow' : (db.expireSchedule scheduleId before now).outbox.get? outboxId with
    | none => rfl
    | some row' => exact (hevolves.inserted outboxId row' hrow' hnone).1.elim

/-- A call of `materialize` records its occurrence, or adds nothing. Either way the claim of no
schedule goes back. -/
theorem materialize_claims {expectedRevision : ℕ} {scheduledFor : Timestamp}
    {nextDue : Option Timestamp} {actor : Actor} {skip : Option SkipReason}
    {compactSkip : Option CompactSkip} {claim : Option MaterializeClaim}
    {result : Option MaterializeResult}
    (h : db.materialize env scheduleId expectedRevision scheduledFor nextDue now actor skip
      compactSkip claim = .ok (result, db')) :
    (db.claimOf id).Precedes (db'.claimOf id) ∧
      (result.all (·.duplicate) = true → db.CreatesNothing db') := by
  simp only [materialize, bind_eq_ok, orThrow_eq_ok, throwIf_eq_ok] at h
  obtain ⟨_, -, _, -, _, -, current, -, before, hchecked, _, -, h⟩ := h
  obtain ⟨hbefore, -⟩ := checked_spec hchecked
  split at h
  · obtain ⟨rfl, rfl⟩ := Prod.mk.inj (Except.ok.inj h)
    refine ⟨precedes_releaseIfClaimed, fun _ ↦ ?_⟩
    unfold releaseIfClaimed
    split_ifs
    · exact ⟨fun _ h ↦ h, fun _ h ↦ h, fun _ h ↦ h⟩
    · exact .refl db
  simp only [materializeNew, bind_eq_ok, throwIf_eq_ok, orThrow_eq_ok, not_or, not_not] at h
  obtain ⟨_, -, _, -, _, ⟨hactive, -⟩, revision, -, _, -, _, -, h⟩ := h
  split_ifs at h
  · obtain ⟨rfl, rfl⟩ := Prod.mk.inj (Except.ok.inj h)
    have hstands : db.Stands noStart (db.expireSchedule scheduleId before
        (now.latest [before.createdAt, before.updatedAt,
          before.terminalAt.getD before.createdAt])) := stands_expireSchedule
    refine ⟨precedes_of_eq hstands.claims, fun _ ↦ ?_⟩
    exact createsNothing_expireSchedule hbefore (by rw [hactive]; rfl)
  · simp only [bind_eq_ok, Prod.exists, Except.ok.injEq, Prod.mk.injEq, recordOccurrence,
      throwIf_eq_ok, orThrow_eq_ok] at h
    obtain ⟨recorded, db₁, ⟨_, -, _, -, runs, -, db₂, hstart, rfl, rfl⟩, rfl, rfl⟩ := h
    refine ⟨?_, fun hduplicate ↦ by cases hduplicate⟩
    have hstarted : db₂.claims = db.claims := by
      split_ifs at hstart
      · obtain rfl := Except.ok.inj hstart
        rfl
      · exact (stands_startOccurrence hstart : Stands noStart _ _).claims
    set occurred := db₂.updateSchedule scheduleId (occurredRow scheduledFor nextDue
      (now.latest [before.createdAt, before.updatedAt, before.terminalAt.getD before.createdAt]))
    have hoccurred : occurred.claims = db.claims := hstarted
    have hreleased : (db.claimOf id).Precedes
        ((occurred.releaseIfClaimed scheduleId claim).claimOf id) := by
      rw [← claimOf_congr hoccurred]
      exact precedes_releaseIfClaimed
    refine hreleased.trans (precedes_of_eq ?_)
    exact (stands_completeIfDrained : Stands noStart _ _).claims

/-! ### Purges -/

/-- A purge deletes a claim with its schedule only. -/
theorem claimOf_purge (h : db.purge now = .ok (u, db'))
    (hremains : db'.schedules.get? id ≠ none) : db'.claimOf id = db.claimOf id := by
  simp only [purge, bind_eq_ok, Except.ok.injEq, Prod.mk.injEq] at h
  obtain ⟨_, -, -, rfl⟩ := h
  have hexpired : (db.expireAll now (db.currentExpired now)).claims = db.claims :=
    (stands_expireAll : db.Stands noStart _).claims
  set purged := ((((((((db.expireAll now (db.currentExpired now)).retireExpired now).purgeContents
    now).purgeJobContents now).purgeEventContents now).purgeMetadata now).purgeTrails
    now).purgeRuns now) with hpurged
  have hclaims : purged.claims = db.claims := hexpired
  obtain ⟨row, hrow⟩ := Option.ne_none_iff_exists'.1 hremains
  have hkept : ((purged.schedules.deleteWhere fun scheduleId row ↦
      purged.scheduleDue now scheduleId row).get? id) = some row := hrow
  rw [Table.get?_deleteWhere, Option.filter_eq_some_iff] at hkept
  have hstays : (purged.schedules.get? id).any
      (fun row ↦ purged.scheduleDue now id row) = false := by
    rw [hkept.1]
    simpa using hkept.2
  show ((purged.claims.deleteWhere fun scheduleId _ ↦
    (purged.schedules.get? scheduleId).any fun row ↦ purged.scheduleDue now scheduleId row).get?
      id).getD _ = _
  rw [Table.get?_deleteWhere, hclaims]
  cases hclaim : db.claims.get? id with
  | none => simp [claimOf, hclaim]
  | some claim =>
      simp only [claimOf, hclaim, Option.filter_some, hstays, Bool.not_false, if_true]

theorem claims_create {input : RevisionInput} {nextDue : Timestamp} {actor : Actor} {row : Schedule}
    (h : db.create env scheduleId input nextDue actor now = .ok (row, db')) :
    db'.claims = db.claims := by
  simp only [create, bind_eq_ok, throwIf_eq_ok, orThrow_eq_ok, Except.ok.injEq, Prod.mk.injEq] at h
  obtain ⟨_, -, _, -, _, -, _, -, _, -, _, -, _, -, _, -, _, -, _, -, schedules, -, db₁, hinsert, -,
    rfl⟩ := h
  exact (claims_insertRevision hinsert :)

theorem claims_update {expectedRevision : ℕ} {input : RevisionInput} {nextDue : Timestamp}
    {actor : Actor}
    (h : db.update env scheduleId expectedRevision input nextDue actor now = .ok (u, db')) :
    db'.claims = db.claims := by
  simp only [update, bind_eq_ok, throwIf_eq_ok, Except.ok.injEq, Prod.mk.injEq] at h
  obtain ⟨_, -, _, -, before, -, _, -, _, -, _, -, _, -, _, -, db₁, hinsert, -, rfl⟩ := h
  have hretired : ∀ at' revision, (db.suppress scheduleId at' .revisionReplaced).Stands noStart
      ((db.suppress scheduleId at' .revisionReplaced).retireRevisions scheduleId at' revision) :=
    fun _ _ ↦ stands_retireRevisions
  exact (claims_insertRevision hinsert).trans (stands_suppress.trans (hretired _ _)).claims

end Db

/-! ### Steps -/

section Steps

variable {env : Env} {db : Db} {id : ScheduleId}

open Db in
/-- While the row of a schedule is there, no step takes its claim back to an earlier fence, or
back to an owner it was released from. -/
theorem SchedulerOp.precedes_next {op : SchedulerOp} (hremains : RowRemains env id db op) :
    (db.claimOf id).Precedes ((op.next env db).claimOf id) := by
  have hcommit : ∀ {α : Type} {body : Db → Except String (α × Db)},
      (∀ (a : α) (db' : Db), body db = .ok (a, db') →
        (db.claimOf id).Precedes (db'.claimOf id)) →
        (db.claimOf id).Precedes ((commit body db).claimOf id) :=
    fun hbody ↦ commit_induction (P := fun db' : Db ↦ (db.claimOf id).Precedes (db'.claimOf id))
      (.refl _) hbody
  have hstands : ∀ {starts : Uuid → Prop} {db' : Db}, db.Stands starts db' →
      (db.claimOf id).Precedes (db'.claimOf id) := fun h ↦ precedes_of_eq h.claims
  cases op with
  | create => exact hcommit fun _ _ hok ↦ precedes_of_eq (claims_create hok)
  | update => exact hcommit fun _ _ hok ↦ precedes_of_eq (claims_update hok)
  | transition => exact hcommit fun _ _ hok ↦ precedes_transition hok
  | claimDue => exact hcommit fun _ _ hok ↦ precedes_claimDue hok
  | releaseClaims => exact hcommit fun _ _ hok ↦ precedes_releaseClaims hok
  | expireDue => exact hcommit fun _ _ hok ↦ hstands (stands_expireDue hok : db.Stands noStart _)
  | materialize => exact hcommit fun _ _ hok ↦ (materialize_claims hok).1
  | setRunState =>
      refine hcommit fun _ _ hok ↦ ?_
      rcases setRunState_stands hok with h | ⟨h, -⟩
      · exact hstands h
      · exact hstands h
  | markWorkRunNeedsReview =>
      exact hcommit fun _ _ hok ↦ hstands (stands_markWorkRunNeedsReview hok : db.Stands noStart _)
  | recoverWorkRunForResult =>
      refine hcommit fun _ _ hok ↦ ?_
      rcases recoverWorkRunForResult_stands hok with rfl | ⟨h, -⟩
      · exact .refl _
      · exact hstands h
  | markWorkNotificationNeedsReview =>
      exact hcommit fun _ _ hok ↦
        hstands (stands_markWorkNotificationNeedsReview hok : db.Stands noStart _)
  | reconcileWorkNotificationNotSent =>
      exact hcommit fun _ _ hok ↦
        hstands (stands_resumeAfterWorkNotification hok : db.Stands noStart _)
  | settleWorkNotification =>
      exact hcommit fun _ _ hok ↦
        hstands (stands_resumeAfterWorkNotification hok : db.Stands noStart _)
  | settleUndelegatedWorkEvent =>
      exact hcommit fun _ _ hok ↦
        hstands (stands_settleUndelegatedWorkEvent hok : db.Stands noStart _)
  | reconcileWorkRun =>
      exact hcommit fun _ _ hok ↦ hstands (stands_reconcileWorkRun hok : db.Stands noStart _)
  | completeIfDrained => exact hstands (stands_completeIfDrained : db.Stands noStart _)
  | claimBatch => exact hcommit fun _ _ hok ↦ hstands (stands_claimBatch hok : db.Stands noStart _)
  | requestStarted =>
      exact hcommit fun _ _ hok ↦ hstands (stands_requestStarted hok : db.Stands noStart _)
  | rejectClaimBeforeWrite =>
      exact hcommit fun _ _ hok ↦ hstands (stands_rejectClaimBeforeWrite hok : db.Stands noStart _)
  | finishWrite => exact hcommit fun _ _ hok ↦ hstands (stands_finishWrite hok : db.Stands noStart _)
  | finishWriteAfterPreflight =>
      exact hcommit fun _ _ hok ↦
        hstands (stands_finishWriteAfterPreflight hok : db.Stands noStart _)
  | recover => exact hcommit fun _ _ hok ↦ hstands (stands_recover hok : db.Stands noStart _)
  | reconcile => exact hcommit fun _ _ hok ↦ hstands (stands_reconcile hok : db.Stands noStart _)
  | purge now =>
      rcases hbody : Db.purge now db with e | ⟨u, db'⟩
      · rw [next, commit_of_error hbody]
        exact .refl _
      · rw [RowRemains, next, commit_of_ok hbody] at hremains
        rw [next, commit_of_ok hbody, claimOf_purge hbody hremains]
        exact .refl _
  | dispatcher => exact .refl _

/-- What a step may do to the claim of a schedule, and with it. -/
structure FencedStep (env : Env) (id : ScheduleId) (db : Db) (op : SchedulerOp) : Prop where
  fence_le : (db.claimOf id).claimFence ≤ ((op.next env db).claimOf id).claimFence
  claimed : ∀ {owner now leaseSeconds excluded db'},
    op = .claimDue owner now leaseSeconds excluded →
    db.claimDue owner now leaseSeconds excluded = .ok (some id, db') →
      (db.claimOf id).claimFence < ((op.next env db).claimOf id).claimFence
  refused : ∀ {expectedRevision scheduledFor nextDue now actor skip compactSkip claim},
    op = .materialize id expectedRevision scheduledFor nextDue now actor skip compactSkip
      (some claim) →
    ¬db.Holds id claim.owner claim.fence now →
      op.next env db = db ∧
      (∃ e, db.materialize env id expectedRevision scheduledFor nextDue now actor skip compactSkip
        (some claim) = .error e) ∧
      (db.MayMaterialize id scheduledFor nextDue now actor →
        db.materialize env id expectedRevision scheduledFor nextDue now actor skip compactSkip
          (some claim) = .error "claim_conflict")
  creates : ∀ {expectedRevision scheduledFor nextDue now actor skip compactSkip claim},
    op = .materialize id expectedRevision scheduledFor nextDue now actor skip compactSkip claim →
    op.occurrence? env id db ≠ some scheduledFor → db.CreatesNothing (op.next env db)

open Db in
theorem fencedStep {op : SchedulerOp} (hremains : RowRemains env id db op) :
    FencedStep env id db op where
  fence_le := (SchedulerOp.precedes_next hremains).fence_le
  claimed := by
    rintro owner now leaseSeconds excluded db' rfl hclaimed
    rw [SchedulerOp.next, commit_of_ok hclaimed, (claimDue_spec hclaimed).2 id rfl]
    exact Nat.lt_succ_self _
  refused := by
    rintro expectedRevision scheduledFor nextDue now actor skip compactSkip claim rfl hnot
    obtain ⟨⟨e, herror⟩, hconflict⟩ := materialize_of_not_holds hnot
    exact ⟨commit_of_error herror, ⟨e, herror⟩, hconflict⟩
  creates := by
    rintro expectedRevision scheduledFor nextDue now actor skip compactSkip claim rfl hnot
    rcases hbody : Db.materialize env id expectedRevision scheduledFor nextDue now actor skip
      compactSkip claim db with e | ⟨result, db'⟩
    · rw [SchedulerOp.next, commit_of_error hbody]
      exact .refl db
    · rw [SchedulerOp.next, commit_of_ok hbody]
      have hclaims := (materialize_claims hbody : (db.claimOf id).Precedes (db'.claimOf id) ∧ _)
      refine hclaims.2 ?_
      cases result with
      | none => rfl
      | some result =>
          cases hduplicate : result.duplicate with
          | true => simpa using hduplicate
          | false =>
              refine absurd ?_ hnot
              simp [SchedulerOp.occurrence?, SchedulerOp.recorded?, hbody, hduplicate]

/-- The run lemma: a run of fenced steps, from claim to claim. -/
theorem run_precedes {ops : List SchedulerOp}
    (hops : StepsMeet (RowRemains env id) (SchedulerOp.next env) db ops) :
    (db.claimOf id).Precedes ((ops.foldl (SchedulerOp.next env) db).claimOf id) ∧
      StepsMeet (FencedStep env id) (SchedulerOp.next env) db ops := by
  induction ops generalizing db with
  | nil => exact ⟨.refl _, trivial⟩
  | cons op ops ih =>
      obtain ⟨hremains, hrest⟩ := hops
      obtain ⟨hprecedes, hfenced⟩ := ih hrest
      exact ⟨(SchedulerOp.precedes_next hremains).trans hprecedes, fencedStep hremains, hfenced⟩

/-- The occurrences of a schedule increase, also when its row is created on the way. -/
theorem pairwise_occurrences {ops : List SchedulerOp} (hdb : db.DatesOrdered)
    (hops : StepsMeet (RowRemains env id) (SchedulerOp.next env) db ops) :
    (occurrences env id db ops).Pairwise (· < ·) := by
  cases hrow : db.schedules.get? id with
  | some row =>
      obtain ⟨-, -, -, -, hpairwise, -⟩ := run_advances hdb hrow hops
      exact hpairwise
  | none =>
      cases ops with
      | nil => exact .nil
      | cons op ops =>
          obtain ⟨hremains, hrest⟩ := hops
          obtain ⟨next, hnext⟩ := Option.ne_none_iff_exists'.1 hremains
          have heffect := SchedulerOp.effect env db op
          have hnone : op.occurrence? env id db = none := by
            rw [SchedulerOp.occurrence?, Option.bind_eq_none_iff]
            intro recorded hrecorded
            rw [hrecorded] at heffect
            cases heffect with
            | occurred occurs _ =>
                refine if_neg fun hid ↦ ?_
                have hgone := (congrArg db.schedules.get? hid).trans hrow
                cases occurs.found.symm.trans hgone
          obtain ⟨-, -, -, -, hpairwise, -⟩ :=
            run_advances (heffect.datesOrdered hdb) hnext hrest
          rw [occurrences, hnone]
          exact hpairwise

/-- Claims of due schedules are fenced: in every step the fence of a schedule grows with each
claim and never shrinks, a materialization without the claim is refused and changes nothing, and
one that does not record its occurrence adds nothing. One owner at most holds the schedule, under
one fence; a claim that has been lost is never held again; and no occurrence is recorded twice. -/
theorem due_claims_fenced {ops : List SchedulerOp} (hreach : (scheduler env).Reachable db)
    (hops : StepsMeet (RowRemains env id) (SchedulerOp.next env) db ops) :
    StepsMeet (FencedStep env id) (SchedulerOp.next env) db ops ∧
      (∀ {now owner fence owner' fence'},
        (ops.foldl (SchedulerOp.next env) db).Holds id owner fence now →
        (ops.foldl (SchedulerOp.next env) db).Holds id owner' fence' now →
          owner = owner' ∧ fence = fence') ∧
      (∀ {owner fence}, fence ≤ (db.claimOf id).claimFence →
        ((db.claimOf id).claimOwner = some owner → (db.claimOf id).claimFence ≠ fence) →
        ∀ now, ¬(ops.foldl (SchedulerOp.next env) db).Holds id owner fence now) ∧
      (occurrences env id db ops).Nodup := by
  obtain ⟨hprecedes, hfenced⟩ := run_precedes hops
  refine ⟨hfenced, ?_, ?_, ?_⟩
  · rintro now owner fence owner' fence' ⟨howner, hfence, -⟩ ⟨howner', hfence', -⟩
    exact ⟨Option.some.inj (howner.symm.trans howner'), hfence.symm.trans hfence'⟩
  · rintro owner fence hle hlost now ⟨howner, hfence, -⟩
    rcases hprecedes with hlt | ⟨hsame, hclaim | hreleased⟩
    · exact absurd (hle.trans_lt hlt) (hfence ▸ lt_irrefl _)
    · rw [hclaim] at howner hfence
      exact hlost howner hfence
    · rw [hreleased] at howner
      cases howner
  · exact (pairwise_occurrences (datesOrdered_of_reachable hreach) hops).imp fun hlt ↦ hlt.ne

end Steps

/-! ### Two instances -/

namespace DailyReminder

def claimedBy (owner : String) (now : Int) : SchedulerOp := .claimDue owner (.ofSeconds now) 60 []

def materializedBy (owner : String) (fence : ℕ) (now : Int) : SchedulerOp :=
  .materialize "S1" 1 (.ofSeconds 100) (some (.ofSeconds 86500)) (.ofSeconds now)
    ⟨"T1", "scheduler", .admin, none⟩ none none (some ⟨owner, fence, "K1"⟩)

/-- The claim of the first instance has run out, and the second one has claimed the schedule. -/
def reclaimed : Db :=
  (claimedBy "B" 160).next plain ((claimedBy "A" 100).next plain (created.next plain .fresh))

def rivals : List SchedulerOp :=
  [materializedBy "A" 1 161, materializedBy "B" 2 162, materializedBy "B" 2 163]

theorem reachable_reclaimed : (scheduler plain).Reachable reclaimed :=
  (reachable_created.step rfl).step rfl

end DailyReminder

open DailyReminder in
theorem due_claims_fenced_rivals :
    (materializedBy "A" 1 161).next plain reclaimed = reclaimed ∧
      (∀ now, ¬(rivals.foldl (SchedulerOp.next plain) reclaimed).Holds "S1" "A" 1 now) ∧
      occurrences plain "S1" reclaimed rivals = [.ofSeconds 100] ∧
      (occurrences plain "S1" reclaimed rivals).Nodup := by
  have hops : StepsMeet (RowRemains plain "S1") (SchedulerOp.next plain) reclaimed rivals :=
    ⟨by unfold RowRemains; decide, by unfold RowRemains; decide, by unfold RowRemains; decide,
      trivial⟩
  obtain ⟨⟨hfirst, -⟩, -, hlost, hnodup⟩ := due_claims_fenced reachable_reclaimed hops
  have hclaim : reclaimed.claimOf "S1" = ⟨some "B", some (.ofSeconds 220), 2⟩ := rfl
  refine ⟨(hfirst.refused rfl ?_).1, hlost ?_ ?_, by decide, hnodup⟩
  · rintro ⟨howner, -⟩
    rw [hclaim] at howner
    exact absurd howner (by decide)
  · rw [hclaim]
    decide
  · rw [hclaim]
    decide

end Dona
