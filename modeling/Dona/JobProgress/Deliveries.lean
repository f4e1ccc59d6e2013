import Dona.JobProgress.Ledger

/-!
# Progress deliveries settle their own rows

The programs of the coordinator meet the discipline of the ledger. A delivery that is answered
with success while a background recovery turns its row into `unknown` is the one that is lost.
-/

namespace Dona.JobProgress

open Coroutine

variable {i : ℕ} {s t : World} {R : World → Prop} {α : Type}

/-! ### Awaits -/

/-- The others do not break the assertion. -/
def Stable (i : ℕ) (R : World → Prop) : Prop := ∀ {s t}, Spares i s t → Sound t → R s → R t

theorem stable_sound : Stable i Sound := fun _ ht _ ↦ ht

theorem stable_mine (delivery : Delivery) :
    Stable i fun w ↦ Sound w ∧ Mine i delivery w :=
  fun hst ht hs ↦ ⟨ht, hst.underWay.trans hs.2⟩

theorem stable_advances (s : World) : Stable i fun w ↦ Sound w ∧ Advances s w :=
  fun hst ht hs ↦ ⟨ht, hs.2.trans hst.advances⟩

theorem Performs.eq {c : Call} {r : c.Reply} (h : Performs c s r t) : t = s := by
  cases h <;> rfl

theorem guarantee_refl (i : ℕ) (s : World) : discipline.guarantee i s s :=
  fun hs ↦ ⟨hs, fun j _ ↦ Spares.refl j s⟩

theorem keeps_await (hR : Stable i R) (c : Call) :
    Keeps discipline i R (call c : Program c.Reply) := by
  refine keeps_call hR fun s r t _ hs ht ↦ ?_
  obtain rfl := ht.eq
  exact ⟨guarantee_refl i t, hs⟩

theorem keeps_step {f : World → World} (hf : ∀ s, discipline.guarantee i s (f s)) :
    Keeps discipline i Sound (write f : Program Unit) :=
  keeps_write fun s hs ↦ ⟨hf s, (hf s hs).1⟩

theorem keeps_update {f : World → α × World} (hf : ∀ s, discipline.guarantee i s (f s).2) :
    Keeps discipline i Sound (update f) := by
  intro s hs
  refine wp_transact (fun a t hft ↦ ?_) (fun e he ↦ by cases he)
  obtain rfl : t = (f s).2 := (congrArg Prod.snd (Except.ok.inj hft)).symm
  exact ⟨hf s, (hf s hs).1⟩

/-! ### Draining the adapter -/

theorem keeps_hang (hR : Stable i R) : Keeps discipline i R (hang : Program α) :=
  (keeps_await hR .never).bind fun nothing ↦ nothing.elim

theorem keeps_drainAdapter (hR : Stable i R) : Keeps discipline i R drainAdapter := by
  refine (keeps_await hR .readPrivateToken).bind fun token ↦ ?_
  refine Keeps.ite (keeps_throw _) ((keeps_await hR .postDrain).bind fun reply ↦ ?_)
  cases reply with
  | ok statusCode => exact Keeps.ite (keeps_pure _) (keeps_throw _)
  | error code => exact Keeps.ite (keeps_pure _) (keeps_throw _)

theorem keeps_drainRound (hR : Stable i R) : Keeps discipline i R drainRound := by
  refine (keeps_read _).bind fun aborted ↦ Keeps.ite (keeps_pure _) ?_
  refine (Keeps.attempt (keeps_drainAdapter hR)).bind fun drained ↦ ?_
  cases drained with
  | ok _ => exact keeps_pure _
  | error _ =>
      refine (keeps_read _).bind fun aborted ↦ Keeps.ite (keeps_pure _) ?_
      exact (keeps_await hR .delay).bind fun _ ↦ keeps_pure _

theorem keeps_drainAdapterUntilSettled (hR : Stable i R) (rounds : ℕ) :
    Keeps discipline i R (drainAdapterUntilSettled rounds) := by
  intro s hs
  refine wp_iterate (I := fun _ ↦ R) (fun _ t ht ↦ keeps_hang hR t ht) (fun _ t ht ↦ ?_) rounds ()
    hs
  refine wp_mono ?_ (fun _ _ h ↦ h) (keeps_drainRound hR t ht)
  rintro (_ | _) u hu <;> exact hu

/-! ### Ingestion -/

theorem mem_listEventJobs {w : World} {sourceEventId : EventId} {jobId : JobId} {job : JobRow} :
    (jobId, job) ∈ w.listEventJobs sourceEventId ↔
      w.jobs.get? jobId = some job ∧ job.sourceEventId = sourceEventId := by
  simp [World.listEventJobs, Table.mem_select_iff, World.ofEvent]

/-- The siblings that had not ended are siblings of the job which ended. -/
theorem sound_requeue {jobId : JobId} {row : JobRow} (hjob : s.jobs.get? jobId = some row)
    (hterminal : terminalStatuses row.status = true) :
    Requeue.Sound s.jobs
      ⟨jobId, row, runningSiblings (s.listEventJobs row.sourceEventId)⟩ where
  terminal := hterminal
  job := ⟨row, hjob, rfl⟩
  siblings other hother := by
    obtain ⟨⟨other', sibling⟩, hsibling, rfl⟩ := List.mem_map.mp hother
    obtain ⟨hlisted, hrunning⟩ := List.mem_filter.mp hsibling
    obtain ⟨hget, hevent⟩ := mem_listEventJobs.mp hlisted
    refine ⟨?_, sibling, hget, hevent⟩
    rintro rfl
    rw [hjob] at hget
    obtain rfl := Option.some.inj hget
    simp [hterminal] at hrunning

theorem ingestTerminal_spec {jobId : JobId} {row : JobRow} (hjob : s.jobs.get? jobId = some row)
    (hterminal : terminalStatuses row.status = true) (hs : Sound s) :
    wp discipline i (ingestTerminal jobId row) (fun _ ↦ Sound) (fun _ ↦ Sound) s := by
  have hentry := sound_requeue hjob hterminal
  have hlisted : jobId ∈ (s.listEventJobs row.sourceEventId).map Prod.fst :=
    List.mem_map.mpr ⟨(jobId, row), mem_listEventJobs.mpr ⟨hjob, rfl⟩, rfl⟩
  rw [ingestTerminal, wp_bind, wp_read, wp_bind]
  generalize s.listEventJobs row.sourceEventId = siblings at hentry hlisted ⊢
  have hdrain : Keeps discipline i (fun w ↦ Sound w ∧ Advances s w)
      (drainDeliveries (siblings.map Prod.fst)) :=
    (keeps_read _).bind fun operations ↦ keeps_await (stable_advances s) _
  refine wp_mono ?_ (fun _ _ h ↦ h.1) (hdrain s ⟨hs, .refl s⟩)
  rintro - t ⟨ht, hst⟩
  rw [wp_bind]
  refine wp_transact (fun ended u hu ↦ ?_) (fun e he ↦ by cases he)
  replace hu : t.endRow jobId (siblings.map Prod.fst) = (ended, u) := Except.ok.inj hu
  rw [World.endRow] at hu
  split_ifs at hu with hdelivering
  · obtain ⟨rfl, rfl⟩ := Prod.mk.inj hu
    exact ⟨guarantee_refl i t, ht⟩
  · obtain ⟨rfl, rfl⟩ := Prod.mk.inj hu
    have hfree : t.isDelivering jobId = false := by
      simp only [List.any_eq_true, not_exists, not_and, Bool.not_eq_true] at hdelivering
      exact hdelivering jobId hlisted
    have hguarantee : discipline.guarantee i t (t.terminal jobId) := terminal_guarantee hfree
    refine ⟨hguarantee, ?_⟩
    rw [wp_ite, if_neg (by simp), wp_bind]
    have hspares : Spares (i + 1) t (t.terminal jobId) := (hguarantee ht).2 (i + 1) (by omega)
    have hjobs : Advances s (t.terminal jobId) := hst.trans hspares.advances
    refine wp_mono ?_ (fun _ _ h ↦ h.1)
      (keeps_await (stable_advances s) .removeProgress (t.terminal jobId)
        ⟨(hguarantee ht).1, hjobs⟩)
    rintro - u ⟨hu, hsu⟩
    have hrequeue : discipline.guarantee i u (u.requeue jobId row (runningSiblings siblings)) :=
      requeue_guarantee (hentry.extends hsu.jobs)
    exact ⟨hrequeue, (hrequeue hu).1⟩

theorem ingest_spec {jobId : JobId} {row : JobRow} (hjob : s.jobs.get? jobId = some row)
    (hs : Sound s) :
    wp discipline i (ingest jobId row) (fun _ ↦ Sound) (fun _ ↦ Sound) s := by
  rw [ingest, wp_ite]
  split_ifs with hsource hterminal
  · have hguarantee : discipline.guarantee i s (s.terminal jobId) :=
      terminal_guarantee_of_schedule hjob hsource
    exact ⟨hguarantee, (hguarantee hs).1⟩
  · exact ingestTerminal_spec hjob hterminal hs
  · rw [wp_bind]
    refine wp_mono ?_ (fun _ _ h ↦ h) (keeps_await stable_sound (Call.readProgress jobId) s hs)
    intro progress t ht
    cases progress with
    | none => exact ht
    | some progress => exact keeps_step (fun s ↦ ingest_guarantee progress) t ht

theorem get?_of_terminalJob? {w : World} {jobId : JobId} {row : JobRow}
    (h : w.terminalJob? jobId = some row) : w.jobs.get? jobId = some row :=
  (Option.filter_eq_some_iff.mp h).1

/-- A job is looked up, and ingested when there is something to ingest. -/
theorem keeps_ingestEach (find : World → JobId → Option JobRow) {p : List JobId → Program Unit}
    (hfind : ∀ {w jobId row}, find w jobId = some row → w.jobs.get? jobId = some row)
    (hnil : p [] = pure ()) (hcons : ∀ jobId jobIds, p (jobId :: jobIds) = do
      match ← read (find · jobId) with
      | some row => ingest jobId row
      | none => pure ()
      p jobIds) (jobIds : List JobId) : Keeps discipline i Sound (p jobIds) := by
  induction jobIds with
  | nil =>
      rw [hnil]
      exact keeps_pure _
  | cons jobId jobIds ih =>
      rw [hcons]
      intro s hs
      rw [wp_bind, wp_read]
      cases hrow : find s jobId with
      | none => exact ih s hs
      | some row =>
          simp only [wp_bind]
          exact wp_mono (fun _ t ht ↦ ih t ht) (fun _ _ h ↦ h) (ingest_spec (hfind hrow) hs)

theorem keeps_ingestBatch (jobIds : List JobId) :
    Keeps discipline i Sound (ingestBatch jobIds) :=
  keeps_ingestEach World.terminalJob? get?_of_terminalJob? rfl (fun _ _ ↦ rfl) jobIds

theorem get?_of_unreconciledJob? {w : World} {jobId : JobId} {row : JobRow}
    (h : w.unreconciledJob? jobId = some row) : w.jobs.get? jobId = some row := by
  unfold World.unreconciledJob? at h
  split_ifs at h
  exact get?_of_terminalJob? h

theorem keeps_reconcileItems (jobIds : List JobId) :
    Keeps discipline i Sound (reconcileItems jobIds) :=
  keeps_ingestEach World.unreconciledJob? get?_of_unreconciledJob? rfl (fun _ _ ↦ rfl)
    jobIds

/-! ### Recovery -/

theorem keeps_finishRecovery (rounds : ℕ) :
    Keeps discipline i Sound (finishRecovery rounds) := by
  refine (keeps_step fun s ↦ recoverDeliveries_guarantee).bind fun _ ↦ ?_
  intro s hs
  refine wp_iterate (I := fun _ ↦ Sound) (fun _ t ht ↦ keeps_hang stable_sound t ht)
    (fun afterJobId t ht ↦ ?_) rounds "" hs
  have hround : Keeps discipline i Sound (recoverBatch afterJobId) := by
    refine (keeps_read _).bind fun batch ↦ (keeps_ingestBatch batch).bind fun _ ↦ ?_
    cases batch.getLast? with
    | none => exact keeps_pure _
    | some last => exact Keeps.ite (keeps_pure _) (keeps_pure _)
  refine wp_mono ?_ (fun _ _ h ↦ h) (hround t ht)
  rintro (_ | _) u hu <;> exact hu

theorem keeps_recover (rounds : ℕ) : Keeps discipline i Sound (recover rounds) := by
  refine (keeps_read _).bind fun hasDelivering ↦ ?_
  split_ifs
  · exact (keeps_drainAdapter stable_sound).bind fun _ ↦ keeps_finishRecovery rounds
  · exact keeps_finishRecovery rounds

theorem keeps_backgroundOperation (rounds : ℕ) :
    Keeps discipline i Sound (backgroundOperation rounds) := by
  refine Keeps.bind ?_ fun drained ↦ Keeps.ite (keeps_pure _) (keeps_finishRecovery rounds)
  refine (keeps_read _).bind fun hasDelivering ↦ Keeps.ite ?_ (keeps_pure _)
  exact keeps_drainAdapterUntilSettled stable_sound rounds

/-- A step of the memory that no attempt depends on. -/
theorem sameAttempts_memory (w : World) (terminalReconciliations : List EventId)
    (backgroundRecovery aborted : Bool) :
    SameAttempts w { w with
      terminalReconciliations := terminalReconciliations
      backgroundRecovery := backgroundRecovery
      aborted := aborted } :=
  ⟨rfl, rfl, rfl, rfl, rfl, rfl, rfl, rfl, rfl, id⟩

theorem keeps_recoverInBackground (rounds : ℕ) :
    Keeps discipline i Sound (recoverInBackground rounds) := by
  have hclaim : ∀ s : World, discipline.guarantee i s s.claimBackgroundRecovery.2 := by
    intro s
    unfold World.claimBackgroundRecovery
    split_ifs
    · exact guarantee_refl i s
    · exact (sameAttempts_memory s s.terminalReconciliations true s.aborted).guarantee
  refine (keeps_update hclaim).bind fun claimed ↦ Keeps.ite (keeps_pure _) ?_
  refine (Keeps.attempt (keeps_backgroundOperation rounds)).bind fun _ ↦ keeps_step fun s ↦ ?_
  exact (sameAttempts_memory s s.terminalReconciliations false s.aborted).guarantee

theorem keeps_reconcileTerminal (sourceEventId : EventId) :
    Keeps discipline i Sound (reconcileTerminal sourceEventId) := by
  have hclaim : ∀ s : World, discipline.guarantee i s (s.claimReconciliation sourceEventId).2 := by
    intro s
    unfold World.claimReconciliation
    split_ifs
    · exact guarantee_refl i s
    · exact (sameAttempts_memory s _ s.backgroundRecovery s.aborted).guarantee
  refine (keeps_update hclaim).bind fun claimed ↦ Keeps.ite (keeps_pure _) ?_
  refine (keeps_read _).bind fun items ↦ ?_
  refine Keeps.bind (Keeps.attempt ?_) fun _ ↦ keeps_step fun s ↦ ?_
  · refine Keeps.bind ?_ fun _ ↦ keeps_reconcileItems _
    exact (keeps_read _).bind fun operations ↦ keeps_await stable_sound _
  · exact (sameAttempts_memory s _ s.backgroundRecovery s.aborted).guarantee

/-! ### Reports -/

/-- The attempt has ended, and nobody else is at its job. -/
def Ended (i : ℕ) (delivery : Delivery) (w : World) : Prop := Sound w ∧ Released i delivery w

theorem settle_spec {delivery : Delivery} {outcome : Outcome} {store : Store}
    (hs : Sound s) (hmine : Mine i delivery s)
    (hsteps : Store.Steps (fun _ ↦ False) (· = delivery.jobId) s.store store)
    (hafter : outcome = .delivered → ∀ row, s.store.get delivery.jobId = some row →
      row.status = .delivering → World.statusOf store delivery.jobId = some .delivered) :
    discipline.guarantee i s (s.settle i delivery outcome store) ∧
      Ended i delivery (s.settle i delivery outcome store) := by
  have hguarantee : discipline.guarantee i s (s.settle i delivery outcome store) :=
    settle_guarantee hmine hsteps hafter
  exact ⟨hguarantee, (hguarantee hs).1, released_settle (hs.released hmine)⟩

theorem settleDelivered_spec {delivery : Delivery} (hs : Sound s) (hmine : Mine i delivery s) :
    discipline.guarantee i s (s.settleDelivered i delivery) ∧
      Ended i delivery (s.settleDelivered i delivery) := by
  refine settle_spec hs hmine (Store.steps_settle fun _ ↦ rfl) fun _ row hrow hstatus ↦ ?_
  simp [World.statusOf, Store.delivered, hrow, hstatus]

theorem settleUnknown_spec {delivery : Delivery} (message : String) (hs : Sound s)
    (hmine : Mine i delivery s) :
    discipline.guarantee i s (s.settleUnknown i delivery message) ∧
      Ended i delivery (s.settleUnknown i delivery message) :=
  settle_spec hs hmine (Store.steps_settle fun _ ↦ rfl) fun h ↦ by cases h

theorem rows_throttled (w : World) (workspaceId : String) (retryAfterSeconds : Option Int) :
    (w.throttled workspaceId retryAfterSeconds).rows = w.store.rows := by
  cases retryAfterSeconds with
  | none => rfl
  | some seconds => exact Store.rows_deferWorkspace _ _ _

theorem settleRetry_spec {delivery : Delivery} (message : String) (retryAfterSeconds : Option Int)
    (hs : Sound s) (hmine : Mine i delivery s) :
    discipline.guarantee i s (s.settleRetry i delivery message retryAfterSeconds) ∧
      Ended i delivery (s.settleRetry i delivery message retryAfterSeconds) := by
  refine settle_spec hs hmine ?_ fun h ↦ by cases h
  have hrows := rows_throttled s delivery.workspaceId retryAfterSeconds
  generalize s.throttled delivery.workspaceId retryAfterSeconds = store at hrows ⊢
  have hsteps : Store.Steps (fun _ ↦ False) (· = delivery.jobId) store
      (store.retry delivery.jobId message s.now (retryAfterSeconds.getD 5)) :=
    Store.steps_settle fun _ ↦ rfl
  unfold Store.Steps at hsteps ⊢
  rwa [hrows] at hsteps

theorem ended_dropClaim {delivery : Delivery} (h : Ended i delivery s) :
    discipline.guarantee i s (s.dropClaim delivery) ∧ Ended i delivery (s.dropClaim delivery) :=
  ⟨(sameAttempts_dropClaim delivery s).guarantee, (sameAttempts_dropClaim delivery s).sound h.1,
    h.2⟩

theorem settlePost_spec (rounds : ℕ) {delivery : Delivery} (reply : PostReply) (hs : Sound s)
    (hmine : Mine i delivery s) :
    wp discipline i (settlePost i rounds delivery reply) (fun _ ↦ Ended i delivery)
      (fun _ ↦ Ended i delivery) s := by
  unfold settlePost
  cases reply.result with
  | ok _ =>
      rw [wp_bind, wp_write]
      obtain ⟨hguarantee, hended⟩ := settleDelivered_spec hs hmine
      exact ⟨hguarantee, ended_dropClaim hended⟩
  | error error =>
      rw [wp_bind, wp_write]
      have hdropped := sameAttempts_dropClaim delivery s
      have hs' : Sound (s.dropClaim delivery) := hdropped.sound hs
      have hmine' : Mine i delivery (s.dropClaim delivery) := hmine
      refine ⟨hdropped.guarantee, ?_⟩
      rw [wp_ite]
      split_ifs
      · exact settleRetry_spec error.message error.retryAfterSeconds hs' hmine'
      · rw [wp_bind]
        have hdrain := keeps_drainAdapterUntilSettled (stable_mine delivery) rounds
          _ ⟨hs', hmine'⟩
        refine wp_mono ?_ (fun _ t ht ↦ ⟨ht.1, ht.1.released ht.2⟩) hdrain
        rintro drained t ⟨ht, hmine⟩
        rw [wp_ite]
        split_ifs
        · exact settleUnknown_spec error.message ht hmine
        · exact ⟨ht, ht.released hmine⟩

theorem deliver_spec (rounds : ℕ) {delivery : Delivery} (hs : Sound s)
    (hmine : Mine i delivery s) :
    wp discipline i (deliver i rounds delivery) (fun _ ↦ Ended i delivery)
      (fun _ ↦ Ended i delivery) s := by
  have hstable : Stable i fun w ↦ Sound w ∧ Mine i delivery w := stable_mine delivery
  rw [deliver, wp_bind]
  refine wp_mono ?_ (fun _ t ht ↦ ⟨ht.1, ht.1.released ht.2⟩)
    (keeps_await hstable .readPrivateToken s ⟨hs, hmine⟩)
  rintro token t ⟨ht, hmine⟩
  rw [wp_ite]
  split_ifs
  · exact settleRetry_spec "missing internal token" none ht hmine
  · rw [wp_bind, wp_write]
    have hclaim := sameAttempts_claim delivery t
    refine ⟨hclaim.guarantee, ?_⟩
    rw [wp_bind]
    refine wp_mono ?_ (fun _ u hu ↦ ⟨hu.1, hu.1.released hu.2⟩)
      (keeps_await hstable .postProgress (t.claim delivery) ⟨hclaim.sound ht, hmine⟩)
    rintro reply u ⟨hu, hmine⟩
    exact settlePost_spec rounds reply hu hmine

/-- An attempt begins at a pending row, of a job that is no schedule's. -/
theorem startReport_spec (hs : Sound s) {started : Option Delivery} {t : World}
    (h : s.startReport i = (started, t)) :
    discipline.guarantee i s t ∧ Sound t ∧ ∀ delivery ∈ started, Mine i delivery t := by
  suffices hguarantee : discipline.guarantee i s t ∧ ∀ delivery ∈ started, Mine i delivery t from
    ⟨hguarantee.1, (hguarantee.1 hs).1, hguarantee.2⟩
  unfold World.startReport at h
  split at h
  · obtain ⟨rfl, rfl⟩ := Prod.mk.inj h
    exact ⟨guarantee_refl i s, fun _ hd ↦ by cases hd⟩
  rename_i jobId progress hpending
  obtain ⟨hrow, hdue⟩ := Table.get?_of_first? hpending
  have hstatus : progress.status = .pending := (of_decide_eq_true hdue).1
  have hfree : s.isDelivering jobId = false := by
    simp [World.isDelivering, Store.get, hrow, hstatus]
  split at h
  · obtain ⟨rfl, rfl⟩ := Prod.mk.inj h
    exact ⟨terminal_guarantee hfree, fun _ hd ↦ by cases hd⟩
  rename_i job thread hthread
  obtain ⟨job', hjob, hmap⟩ := Option.bind_eq_some_iff.mp hthread
  obtain ⟨thread', hthread', hpair⟩ := Option.map_eq_some_iff.mp hmap
  obtain ⟨rfl, rfl⟩ := Prod.mk.inj hpair
  split at h
  · obtain ⟨rfl, rfl⟩ := Prod.mk.inj h
    exact ⟨deferWorkspaceJobs_guarantee _ _, fun _ hd ↦ by cases hd⟩
  split_ifs at h with hclaimed
  · obtain ⟨rfl, rfl⟩ := Prod.mk.inj h
    exact ⟨terminal_guarantee hfree, fun _ hd ↦ by cases hd⟩
  · obtain ⟨rfl, rfl⟩ := Prod.mk.inj h
    refine ⟨beginDelivery_guarantee hrow hstatus hjob (source_of_thread hthread'), ?_⟩
    rintro delivery hdelivery
    obtain rfl := Option.some.inj hdelivery
    exact Function.update_self ..

theorem report_spec (rounds : ℕ) (hs : Sound s) :
    wp discipline i (report i rounds) (fun _ ↦ Sound) (fun _ ↦ Sound) s := by
  rw [report, wp_bind]
  refine wp_transact (fun started t ht ↦ ?_) (fun e he ↦ by cases he)
  obtain ⟨hguarantee, hsound, hmine⟩ := startReport_spec hs (Except.ok.inj ht)
  refine ⟨hguarantee, ?_⟩
  cases started with
  | none => exact hsound
  | some delivery =>
      rw [wp_bind]
      refine wp_mono ?_ (fun _ t ht ↦ ht.1) (deliver_spec rounds hsound (hmine delivery rfl))
      rintro - u ⟨hu, hreleased⟩
      have hfinish : discipline.guarantee i u (u.finishDelivery i delivery) :=
        finishDelivery_guarantee hreleased
      exact ⟨hfinish, (hfinish hu).1⟩

/-! ### The system -/

theorem Starts.sound {p : Program Unit} (h : Starts i s p) (hs : Sound s) :
    wp discipline i p (fun _ _ ↦ True) (fun _ _ ↦ True) s := by
  suffices hkept : wp discipline i p (fun _ ↦ Sound) (fun _ ↦ Sound) s from
    wp_mono (fun _ _ _ ↦ trivial) (fun _ _ _ ↦ trivial) hkept
  cases h with
  | ingest hjob => exact ingest_spec hjob hs
  | report rounds => exact report_spec rounds hs
  | reconcileTerminal sourceEventId => exact keeps_reconcileTerminal sourceEventId s hs
  | recover rounds => exact keeps_recover rounds s hs
  | recoverInBackground rounds => exact keeps_recoverInBackground rounds s hs

theorem World.Initial.sound (h : s.Initial) : Sound s := by
  obtain ⟨hclaims, hoperations, hunderWay, htokens, hsettlements, hrequeues, hrecoveries⟩ := h
  exact
    { claims := fun id token hid ↦ by simp [hclaims] at hid
      requeues := by simp [hrequeues]
      fresh := fun j delivery hj ↦ by simp [hunderWay] at hj
      distinct := fun j k d d' hj ↦ by simp [hunderWay] at hj
      under := fun _ j delivery hj ↦ by simp [hunderWay] at hj
      settlements := by simp [hsettlements] }

/-- The jobs move on around the coordinator. -/
theorem sound_of_jobs {jobs : Table JobId JobRow} (groups : Table EventId JobGroupRow) (now : Int)
    (hjobs : Table.Extends SameOrigin s.jobs jobs) (hs : Sound s) :
    Sound { s with jobs := jobs, groups := groups, now := now } where
  claims := hs.claims
  requeues e he := (hs.requeues e he).extends hjobs
  fresh := hs.fresh
  distinct := hs.distinct
  under hundisturbed j delivery hj := by
    obtain ⟨hdelivering, hstartedBy, hoperation, job, hjob, hsource⟩ :=
      hs.under hundisturbed j delivery hj
    obtain ⟨job', hjob', horigin⟩ := hjobs _ job hjob
    exact ⟨hdelivering, hstartedBy, hoperation, job', hjob', horigin.1 ▸ hsource⟩
  settlements := hs.settlements

theorem Happens.sound (h : Happens s t) (hs : Sound s) : Sound t := by
  cases h with
  | elsewhere groups now hjobs => exact sound_of_jobs groups now hjobs hs
  | stop =>
      exact (sameAttempts_memory s s.terminalReconciliations s.backgroundRecovery true).sound hs

theorem Happens.spares (h : Happens s t) (j : ℕ) : Spares j s t := by
  cases h with
  | elsewhere groups now hjobs => exact ⟨rfl, hjobs, [], rfl, .refl s.store⟩
  | stop =>
      exact (sameAttempts_memory s s.terminalReconciliations s.backgroundRecovery true).spares j

theorem sound_crash (hs : Sound s) : Sound s.crash where
  claims id token hid := by simp [World.crash] at hid
  requeues := hs.requeues
  fresh j delivery hj := by simp [World.crash] at hj
  distinct j k d d' hj := by simp [World.crash] at hj
  under _ j delivery hj := by simp [World.crash] at hj
  settlements := hs.settlements

theorem advances_crash (s : World) : Advances s s.crash :=
  ⟨Table.Extends.refl SameOrigin.refl s.jobs, [], rfl, .refl s.store⟩

theorem surroundings_obey : Pool.Obeys surroundings discipline where
  initial h := h.sound
  perform h := h
  programs h hs := Starts.sound h hs
  inv_kill h := h.elim
  rely_kill _ h := h.elim
  inv_environment h hs := h.sound hs
  rely_environment h _ := h.spares _

/-- The coordinator, over all its lives. -/
def system : TransitionSystem (Pool World Call.Reply String ℕ) (Option (Pool.Event ℕ)) :=
  Pool.crashing surroundings fun w w' ↦ w' = w.crash

theorem sound_of_reachable {P : Pool World Call.Reply String ℕ} (h : system.Reachable P) :
    Sound P.shared := by
  refine (Pool.ok_of_reachable_crashing surroundings_obey ?_ h).inv
  rintro s t rfl hs
  exact sound_crash hs

/-- In every run the rows only move on. -/
theorem advances_of_run {P P' : Pool World Call.Reply String ℕ} (h : system.Reachable P)
    {events : List (Option (Pool.Event ℕ))} (hrun : system.Run P events P') :
    Advances P.shared P'.shared := by
  refine Pool.relates_of_run_crashing surroundings_obey ?_ Advances.refl Advances.trans
    (fun hrely ↦ hrely.advances) ?_ h hrun
  · rintro s t rfl hs
    exact sound_crash hs
  · rintro s t rfl
    exact advances_crash s

/-- What a run does to the rows: no sequence falls, and a row that leaves `unknown` was requeued
for the end of a sibling. -/
structure Moves (w w' : World) : Prop where
  sequences : ∀ jobId row, w.store.get jobId = some row →
    ∃ row', w'.store.get jobId = some row' ∧ row.sequence ≤ row'.sequence
  unknown : ∀ jobId row row', w.store.get jobId = some row → row.status = .unknown →
    w'.store.get jobId = some row' → row'.status ≠ .unknown →
      ∃ new e, w'.requeues = new ++ w.requeues ∧ e ∈ new ∧ jobId ∈ e.running ∧ e.Sound w'.jobs

/-- Targets are handed out for the latest token of a delivery that is under way. -/
def World.ResolvesLatest (w : World) : Prop :=
  ∀ id token target, w.resolveDelivery id token = some target →
    w.tokens.lookup id = some token ∧
      (∃ row, w.store.get id.1 = some row ∧ row.status = .delivering ∧ row.sequence = id.2) ∧
        ∃ job, w.jobs.get? id.1 = some job ∧ terminalStatuses job.status = false

theorem Advances.moves (h : Advances s t) (ht : Sound t) : Moves s t := by
  obtain ⟨new, hnew, hrows⟩ := h.rows
  constructor
  · intro jobId row hrow
    obtain ⟨row', hrow', hstep⟩ := hrows jobId row hrow
    exact ⟨row', hrow', hstep.sequence⟩
  · intro jobId row row' hrow hunknown hrow' hleft
    obtain ⟨row'', hrow'', hstep⟩ := hrows jobId row hrow
    obtain rfl : row'' = row' := Option.some.inj (hrow''.symm.trans hrow')
    obtain ⟨e, he, hjob⟩ := (hstep.unknown hunknown).resolve_left hleft
    exact ⟨new, e, hnew, he, hjob, ht.requeues e (hnew ▸ List.mem_append_left _ he)⟩

theorem not_terminal_of_thread {job : JobRow} {thread : SlackThread}
    (h : job.thread = some thread) : terminalStatuses job.status = false := by
  by_contra hterminal
  have hended : terminalStatuses job.status = true := eq_true_of_ne_false hterminal
  simp [JobRow.thread, hended] at h

theorem Sound.resolvesLatest (hs : Sound s) : s.ResolvesLatest := by
  intro id token target h
  simp only [World.resolveDelivery, Option.bind_eq_bind, Option.bind_eq_some_iff] at h
  obtain ⟨progress, hprogress, job, hjob, thread, hthread, htarget⟩ := h
  split_ifs at htarget with hrejected
  simp only [not_or, not_not] at hrejected
  obtain ⟨hclaim, hdelivering, hsequence, -⟩ := hrejected
  exact ⟨hs.claims id token hclaim, ⟨progress, hprogress, hdelivering, hsequence⟩, job, hjob,
    not_terminal_of_thread hthread⟩

/-- In every run the rows move by the rules and targets are handed out for the latest token. As
long as no recovery took the row of a delivery under way, every outcome settled the row of its own
attempt, and every success left it delivered. -/
theorem progress_deliveries_settled {P P' : Pool World Call.Reply String ℕ}
    (h : system.Reachable P) {events : List (Option (Pool.Event ℕ))}
    (hrun : system.Run P events P') :
    Moves P.shared P'.shared ∧ P'.shared.ResolvesLatest ∧
      (P'.shared.Undisturbed → ∀ e ∈ P'.shared.settlements, e.Sound) := by
  have hsound : Sound P'.shared := sound_of_reachable (h.run hrun)
  exact ⟨(advances_of_run h hrun).moves hsound, hsound.resolvesLatest, hsound.settlements⟩

/-! ### A delivery that a recovery takes -/

namespace Sample

def job (sourceEventId : EventId) : JobRow where
  source := .slack
  sourceEventId := sourceEventId
  status := .running
  workspaceId := some "T1"
  channelId := some "C1"
  threadTs := some "1.0"
  createdAt := 0

def row (status : ProgressStatus) : ProgressRow where
  sequence := 1
  phase := .testing
  status := status
  availableAt := 0

/-- A delivery of `job_a` was left behind by a crash, and a progress of `job_b` is pending. -/
def start : World where
  store :=
    { rows := (((Table.empty.insert? "job_a" (row .delivering)).bind fun rows ↦
        rows.insert? "job_b" (row .pending)).getD .empty)
      throttles := .empty }
  jobs := (((Table.empty.insert? "job_a" (job "evt_a")).bind fun jobs ↦
    jobs.insert? "job_b" (job "evt_b")).getD .empty)
  groups := .empty
  now := 1000
  deliveryClaims := fun _ ↦ none
  deliveryOperations := fun _ ↦ none
  unresolved := []
  terminalReconciliations := []
  backgroundRecovery := false
  aborted := false
  nextToken := 0
  nextOperation := 0
  underWay := fun _ ↦ none
  startedBy := fun _ ↦ none
  tokens := []
  settlements := []
  requeues := []
  recoveries := []

abbrev Move := Pool.Move World Call.Reply String ℕ

/-- The token is read, and the Slack Adapter answers every request with success. -/
def answer : (c : Call) → World → Option (c.Reply × World)
  | .readPrivateToken, w => some (true, w)
  | .postProgress, w => some (.answered 200 none, w)
  | .postDrain, w => some (.ok 200, w)
  | _, _ => none

/-- One await of the program `i` ends. -/
def await (i : ℕ) : List Move := [.perform i answer, .resume i]

def startReport (i : ℕ) : Move := .start i fun _ ↦ some (report i 1)

/-- The report is answered after the drain. -/
def overtaken : List Move :=
  [.start 0 fun _ ↦ some (recoverInBackground 1), startReport 1] ++ await 1 ++ await 0 ++ await 0 ++
    await 1

/-- The report is on its own. -/
def alone : List Move := startReport 1 :: (await 1 ++ await 1)

theorem initial_start : surroundings.initial start :=
  ⟨fun _ ↦ rfl, fun _ ↦ rfl, fun _ ↦ rfl, rfl, rfl, rfl, rfl⟩

theorem lawful_await (i : ℕ) : ∀ move ∈ await i, move.Lawful surroundings := by
  intro move hmove
  simp only [await, List.mem_cons, List.not_mem_nil, or_false] at hmove
  rcases hmove with rfl | rfl
  · intro c w r w' h
    cases c with
    | readPrivateToken =>
        obtain ⟨rfl, rfl⟩ := Prod.mk.inj (Option.some.inj h)
        exact Performs.readPrivateToken _ _
    | postProgress =>
        obtain ⟨rfl, rfl⟩ := Prod.mk.inj (Option.some.inj h)
        exact Performs.postProgress _ _
    | postDrain =>
        obtain ⟨rfl, rfl⟩ := Prod.mk.inj (Option.some.inj h)
        exact Performs.postDrain _ _
    | _ => contradiction
  · trivial

theorem lawful_startReport (i : ℕ) : (startReport i).Lawful surroundings := by
  intro w p h
  obtain rfl := Option.some.inj h
  exact Starts.report 1

theorem lawful_alone : ∀ move ∈ alone, move.Lawful surroundings := by
  intro move hmove
  rcases List.mem_cons.mp hmove with rfl | hmove
  · exact lawful_startReport 1
  · exact (List.mem_append.mp hmove).elim (lawful_await 1 move) (lawful_await 1 move)

theorem lawful_overtaken : ∀ move ∈ overtaken, move.Lawful surroundings := by
  intro move hmove
  simp only [overtaken, List.mem_append, List.mem_cons, List.not_mem_nil, or_false] at hmove
  rcases hmove with ((((rfl | rfl) | hmove) | hmove) | hmove) | hmove
  · intro w p h
    obtain rfl := Option.some.inj h
    exact Starts.recoverInBackground 1
  · exact lawful_startReport 1
  · exact lawful_await 1 move hmove
  · exact lawful_await 0 move hmove
  · exact lawful_await 0 move hmove
  · exact lawful_await 1 move hmove

/-- What a settlement did to which row. -/
structure Seen where
  jobId : JobId
  outcome : Outcome
  before : Option ProgressStatus
  after : Option ProgressStatus
  deriving DecidableEq

def seen (e : Settlement) : Seen := ⟨e.delivery.jobId, e.outcome, e.before, e.after⟩

end Sample

open Sample in
/-- A report that no recovery overtakes leaves its row delivered. -/
theorem progress_deliveries_settled_alone :
    ∃ P, system.Reachable P ∧ P.shared.settlements.map seen =
        [⟨"job_b", .delivered, some .delivering, some .delivered⟩] ∧
      ∀ e ∈ P.shared.settlements, e.Sound := by
  have hscript : (alone.foldlM Pool.Move.apply ⟨start, fun _ ↦ none⟩).map
      (fun P ↦ (P.shared.settlements.map seen, P.shared.recoveries)) =
        some ([⟨"job_b", .delivered, some .delivering, some .delivered⟩], []) := by
    decide
  obtain ⟨P, hP, hseen⟩ := Pool.Script.exists_reachable lawful_alone initial_start hscript
  obtain ⟨hsettlements, hrecoveries⟩ := Prod.mk.inj hseen
  have hreachable : system.Reachable P := Pool.reachable_crashing hP
  have hundisturbed : P.shared.Undisturbed := by
    intro taken htaken
    rw [hrecoveries] at htaken
    contradiction
  exact ⟨P, hreachable, hsettlements,
    (progress_deliveries_settled hreachable (.nil P)).2.2 hundisturbed⟩

open Sample in
/-- The background recovery turns the row of a delivery under way into `unknown`, and the success
of the delivery does not settle it. Nothing has crashed, and the job runs. -/
theorem recovery_takes_delivery :
    ∃ P, (Pool.system surroundings).Reachable P ∧
      P.shared.jobs.get? "job_b" = some (job "evt_b") ∧
        ∃ e ∈ P.shared.settlements, e.delivery.jobId = "job_b" ∧ e.outcome = .delivered ∧
          e.after = some .unknown := by
  have hscript : (overtaken.foldlM Pool.Move.apply ⟨start, fun _ ↦ none⟩).map
      (fun P ↦ (P.shared.settlements.map seen, P.shared.jobs.get? "job_b")) =
        some ([⟨"job_b", .delivered, some .unknown, some .unknown⟩], some (job "evt_b")) := by
    decide
  obtain ⟨P, hP, hseen⟩ := Pool.Script.exists_reachable lawful_overtaken initial_start hscript
  obtain ⟨hsettlements, hjob⟩ := Prod.mk.inj hseen
  obtain ⟨e, he, heq⟩ := List.mem_map.mp (hsettlements ▸ List.mem_singleton_self _)
  simp only [seen, Seen.mk.injEq] at heq
  exact ⟨P, hP, hjob, e, he, heq.1, heq.2.1, heq.2.2.2⟩

end Dona.JobProgress
