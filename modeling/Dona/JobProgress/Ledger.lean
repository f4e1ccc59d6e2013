import Dona.JobProgress.Coordinator
import Dona.JobProgress.Rows

/-!
# The ledger of progress deliveries

Whatever the coordinator does, the sequences do not fall, a row leaves `unknown` only when a
sibling ends, and a target is handed out for the latest token only. As long as no recovery takes a
row from a delivery that is under way, the row of every such delivery stays its own, so that the
outcome of the delivery settles it.
-/

namespace Dona.JobProgress

open Coroutine

/-! ### What the others do -/

/-- The jobs, the rows and the requeues only move on. -/
structure Advances (s t : World) : Prop where
  jobs : Table.Extends SameOrigin s.jobs t.jobs
  rows : ∃ new, t.requeues = new ++ s.requeues ∧
    Store.Steps (fun jobId ↦ ∃ e ∈ new, jobId ∈ e.running) (fun _ ↦ True) s.store t.store

theorem SameOrigin.refl (jobId : JobId) (job : JobRow) : SameOrigin jobId job job := ⟨rfl, rfl⟩

theorem SameOrigin.trans {jobId : JobId} {job job' job'' : JobRow} (h : SameOrigin jobId job job')
    (h' : SameOrigin jobId job' job'') : SameOrigin jobId job job'' :=
  ⟨h'.1.trans h.1, h'.2.trans h.2⟩

variable {i : ℕ} {s t : World}

theorem Advances.refl (s : World) : Advances s s where
  jobs := Table.Extends.refl SameOrigin.refl s.jobs
  rows := ⟨[], rfl, .refl s.store⟩

theorem Advances.trans {u : World} (h : Advances s t) (h' : Advances t u) : Advances s u where
  jobs := h.jobs.comp h'.jobs SameOrigin.trans
  rows := by
    obtain ⟨new, hnew, hrows⟩ := h.rows
    obtain ⟨new', hnew', hrows'⟩ := h'.rows
    refine ⟨new' ++ new, by rw [hnew', hnew, List.append_assoc], ?_⟩
    refine Store.Steps.trans (hrows.mono ?_ fun _ h ↦ h) (hrows'.mono ?_ fun _ h ↦ h)
    · rintro jobId ⟨e, he, hjob⟩
      exact ⟨e, List.mem_append_right _ he, hjob⟩
    · rintro jobId ⟨e, he, hjob⟩
      exact ⟨e, List.mem_append_left _ he, hjob⟩

/-- The other programs leave the attempt of this one alone. -/
structure Spares (i : ℕ) (s t : World) : Prop where
  underWay : t.underWay i = s.underWay i
  advances : Advances s t

theorem Spares.refl (i : ℕ) (s : World) : Spares i s s := ⟨rfl, .refl s⟩

theorem Spares.trans {u : World} (h : Spares i s t) (h' : Spares i t u) : Spares i s u :=
  ⟨h'.underWay.trans h.underWay, h.advances.trans h'.advances⟩

/-! ### The invariant -/

def IsOf (jobs : Table JobId JobRow) (sourceEventId : EventId) (jobId : JobId) : Prop :=
  ∃ job, jobs.get? jobId = some job ∧ job.sourceEventId = sourceEventId

theorem IsOf.extends {jobs jobs' : Table JobId JobRow} {sourceEventId : EventId} {jobId : JobId}
    (h : IsOf jobs sourceEventId jobId) (hjobs : Table.Extends SameOrigin jobs jobs') :
    IsOf jobs' sourceEventId jobId := by
  obtain ⟨job, hjob, hevent⟩ := h
  obtain ⟨job', hjob', horigin⟩ := hjobs jobId job hjob
  exact ⟨job', hjob', horigin.2.trans hevent⟩

/-- A requeue was made when a job ended, for siblings of this job. -/
structure Requeue.Sound (jobs : Table JobId JobRow) (e : Requeue) : Prop where
  terminal : terminalStatuses e.row.status = true
  job : IsOf jobs e.row.sourceEventId e.jobId
  siblings : ∀ jobId ∈ e.running, jobId ≠ e.jobId ∧ IsOf jobs e.row.sourceEventId jobId

theorem Requeue.Sound.extends {jobs jobs' : Table JobId JobRow} {e : Requeue} (h : e.Sound jobs)
    (hjobs : Table.Extends SameOrigin jobs jobs') : e.Sound jobs' where
  terminal := h.terminal
  job := h.job.extends hjobs
  siblings jobId hjob := ⟨(h.siblings jobId hjob).1, (h.siblings jobId hjob).2.extends hjobs⟩

/-- The outcome settled the row of its own attempt, and a success did so. -/
structure Settlement.Sound (e : Settlement) : Prop where
  own : e.before = some .delivering → e.startedBy = some e.delivery.operation
  delivered : e.outcome = .delivered → e.after = some .delivered

/-- No recovery took a row from a delivery of its process. -/
def World.Undisturbed (w : World) : Prop := ∀ taken ∈ w.recoveries, taken = []

/-- The row of the job is under this delivery. -/
structure Under (w : World) (delivery : Delivery) : Prop where
  delivering : ∃ row, w.store.get delivery.jobId = some row ∧ row.status = .delivering
  startedBy : w.startedBy delivery.jobId = some delivery.operation
  operation : w.deliveryOperations delivery.jobId = some delivery.operation
  source : ∃ job, w.jobs.get? delivery.jobId = some job ∧ job.source ≠ .donaSchedule

structure Sound (w : World) : Prop where
  claims : ∀ id token, w.deliveryClaims id = some token → w.tokens.lookup id = some token
  requeues : ∀ e ∈ w.requeues, e.Sound w.jobs
  fresh : ∀ j delivery, w.underWay j = some delivery → delivery.operation < w.nextOperation
  distinct : ∀ j k d d', w.underWay j = some d → w.underWay k = some d' →
    d.operation = d'.operation → j = k
  under : w.Undisturbed → ∀ j delivery, w.underWay j = some delivery → Under w delivery
  settlements : w.Undisturbed → ∀ e ∈ w.settlements, e.Sound

def discipline : Interference World Call.Reply ℕ :=
  .ofRely Performs Sound Spares Spares.refl Spares.trans

theorem guarantee_of (hsound : Sound s → Sound t)
    (hspares : Sound s → ∀ j, i ≠ j → Spares j s t) : discipline.guarantee i s t :=
  fun hs ↦ ⟨hsound hs, hspares hs⟩

/-- Two attempts at one time are at two jobs. -/
theorem Sound.jobId_ne (hs : Sound s) (hundisturbed : s.Undisturbed) {j k : ℕ} {d d' : Delivery}
    (hj : s.underWay j = some d) (hk : s.underWay k = some d') (hjk : j ≠ k) :
    d.jobId ≠ d'.jobId := by
  intro hjob
  have hd := (hs.under hundisturbed j d hj).startedBy
  have hd' := (hs.under hundisturbed k d' hk).startedBy
  rw [hjob, hd'] at hd
  exact hjk (hs.distinct j k d d' hj hk (Option.some.inj hd).symm)

/-! ### Steps of the store -/

/-- A step of the store that takes the row of no attempt. -/
theorem setStore_guarantee {store : Store} (taken : JobId → Prop)
    (hsteps : Store.Steps (fun _ ↦ False) taken s.store store)
    (htaken : Sound s → s.Undisturbed → ∀ j delivery, s.underWay j = some delivery →
      ¬taken delivery.jobId) : discipline.guarantee i s (s.setStore store) := by
  refine guarantee_of (fun hs ↦ ?_) fun hs j _ ↦ ?_
  · refine
      { claims := hs.claims
        requeues := hs.requeues
        fresh := hs.fresh
        distinct := hs.distinct
        under := fun hundisturbed j delivery hj ↦ ?_
        settlements := hs.settlements }
    have hunder := hs.under hundisturbed j delivery hj
    obtain ⟨row, hrow, hstatus⟩ := hunder.delivering
    obtain ⟨row', hrow', hstep⟩ := hsteps _ row hrow
    have hdelivering := hstep.delivering hstatus
    exact
      { delivering :=
          ⟨row', hrow', hdelivering.resolve_right (htaken hs hundisturbed j delivery hj)⟩
        startedBy := hunder.startedBy
        operation := hunder.operation
        source := hunder.source }
  · refine ⟨rfl, Table.Extends.refl SameOrigin.refl s.jobs, [], rfl, ?_⟩
    exact hsteps.mono (fun _ h ↦ h.elim) fun _ _ ↦ trivial

/-- The row of a job that is not under delivery is ended. -/
theorem terminal_guarantee {jobId : JobId} (h : s.isDelivering jobId = false) :
    discipline.guarantee i s (s.terminal jobId) := by
  refine setStore_guarantee _ Store.steps_terminal fun hs hundisturbed j delivery hj hjob ↦ ?_
  obtain ⟨row, hrow, hstatus⟩ := (hs.under hundisturbed j delivery hj).delivering
  rw [hjob] at hrow
  simp [World.isDelivering, hrow, hstatus] at h

/-- The job of a schedule is never under delivery. -/
theorem terminal_guarantee_of_schedule {jobId : JobId} {job : JobRow}
    (hjob : s.jobs.get? jobId = some job) (hsource : job.source = .donaSchedule) :
    discipline.guarantee i s (s.terminal jobId) := by
  refine setStore_guarantee _ Store.steps_terminal fun hs hundisturbed j delivery hj hid ↦ ?_
  obtain ⟨job', hjob', hsource'⟩ := (hs.under hundisturbed j delivery hj).source
  rw [hid, hjob] at hjob'
  exact hsource' (Option.some.inj hjob' ▸ hsource)

theorem ingest_guarantee (progress : JobProgressEnvelope) :
    discipline.guarantee i s (s.ingest progress) :=
  setStore_guarantee (fun _ ↦ False) (Store.steps_ingest progress s.now)
    fun _ _ _ _ _ h ↦ h

theorem deferWorkspaceJobs_guarantee (workspaceId : String) (availableAt : Int) :
    discipline.guarantee i s (s.deferWorkspaceJobs workspaceId availableAt) :=
  setStore_guarantee (fun _ ↦ False) (Store.steps_deferJobs _ availableAt)
    fun _ _ _ _ _ h ↦ h

theorem requeue_guarantee {jobId : JobId} {row : JobRow} {running : List JobId}
    (hentry : Requeue.Sound s.jobs ⟨jobId, row, running⟩) :
    discipline.guarantee i s (s.requeue jobId row running) := by
  have hsteps : ∀ taken, Store.Steps (· ∈ running) taken s.store
      (s.requeue jobId row running).store := fun taken ↦
    Store.steps_requeueLatestAndMarkTerminal running s.now
  refine guarantee_of (fun hs ↦ ?_) fun hs j _ ↦ ?_
  · refine
      { claims := hs.claims
        requeues := List.forall_mem_cons.mpr ⟨hentry, hs.requeues⟩
        fresh := hs.fresh
        distinct := hs.distinct
        under := fun hundisturbed j delivery hj ↦ ?_
        settlements := hs.settlements }
    have hunder := hs.under hundisturbed j delivery hj
    obtain ⟨row, hrow, hstatus⟩ := hunder.delivering
    obtain ⟨row', hrow', hstep⟩ := hsteps (fun _ ↦ False) _ row hrow
    have hdelivering := hstep.delivering hstatus
    exact
      { delivering := ⟨row', hrow', hdelivering.resolve_right id⟩
        startedBy := hunder.startedBy
        operation := hunder.operation
        source := hunder.source }
  · refine ⟨rfl, Table.Extends.refl SameOrigin.refl s.jobs, [⟨jobId, row, running⟩], rfl, ?_⟩
    exact (hsteps fun _ ↦ True).mono (fun j hj ↦ ⟨_, List.mem_singleton_self _, hj⟩) fun _ h ↦ h

/-- A recovery that interrupts no delivery finds none under way. -/
theorem Sound.underWay_eq_none (hs : Sound s) (hundisturbed : s.recoverDeliveries.Undisturbed)
    (j : ℕ) : s.underWay j = none := by
  have hbefore : s.Undisturbed := fun taken htaken ↦
    hundisturbed taken (List.mem_cons_of_mem _ htaken)
  have hnone : s.interrupted = [] := hundisturbed _ List.mem_cons_self
  refine Option.eq_none_iff_forall_ne_some.mpr fun delivery hj ↦ ?_
  have hunder := hs.under hbefore j delivery hj
  obtain ⟨row, hrow, hstatus⟩ := hunder.delivering
  have htaken : delivery.jobId ∈ s.interrupted :=
    List.mem_map.mpr ⟨(delivery.jobId, row), Table.mem_select_iff.mpr
      ⟨hrow, by simp [hstatus, hunder.operation]⟩, rfl⟩
  rw [hnone] at htaken
  exact List.not_mem_nil htaken

theorem recoverDeliveries_guarantee : discipline.guarantee i s s.recoverDeliveries := by
  refine guarantee_of (fun hs ↦ ?_) fun hs j _ ↦ ?_
  · refine
      { claims := hs.claims
        requeues := hs.requeues
        fresh := hs.fresh
        distinct := hs.distinct
        under := fun hundisturbed j delivery hj ↦ ?_
        settlements := fun hundisturbed ↦ hs.settlements fun taken htaken ↦
          hundisturbed taken (List.mem_cons_of_mem _ htaken) }
    have hnone := hs.underWay_eq_none hundisturbed j
    exact absurd (hnone.symm.trans hj) (by simp)
  · refine ⟨rfl, Table.Extends.refl SameOrigin.refl s.jobs, [], rfl, ?_⟩
    exact Store.steps_recoverDeliveries

/-! ### Steps of the memory -/

/-- Nothing changes that an attempt depends on. -/
structure SameAttempts (s t : World) : Prop where
  store : t.store = s.store
  jobs : t.jobs = s.jobs
  operations : t.deliveryOperations = s.deliveryOperations
  nextOperation : t.nextOperation = s.nextOperation
  underWay : t.underWay = s.underWay
  startedBy : t.startedBy = s.startedBy
  settlements : t.settlements = s.settlements
  requeues : t.requeues = s.requeues
  recoveries : t.recoveries = s.recoveries
  claims : (∀ id token, s.deliveryClaims id = some token → s.tokens.lookup id = some token) →
    ∀ id token, t.deliveryClaims id = some token → t.tokens.lookup id = some token

theorem SameAttempts.sound (h : SameAttempts s t) (hs : Sound s) : Sound t where
  claims := h.claims hs.claims
  requeues := by
    rw [h.requeues, h.jobs]
    exact hs.requeues
  fresh := by
    rw [h.underWay, h.nextOperation]
    exact hs.fresh
  distinct := by
    rw [h.underWay]
    exact hs.distinct
  under hundisturbed j delivery hj := by
    rw [World.Undisturbed, h.recoveries] at hundisturbed
    rw [h.underWay] at hj
    obtain ⟨hdelivering, hstartedBy, hoperation, hsource⟩ := hs.under hundisturbed j delivery hj
    rw [← h.store] at hdelivering
    rw [← h.startedBy] at hstartedBy
    rw [← h.operations] at hoperation
    rw [← h.jobs] at hsource
    exact ⟨hdelivering, hstartedBy, hoperation, hsource⟩
  settlements hundisturbed := by
    rw [World.Undisturbed, h.recoveries] at hundisturbed
    rw [h.settlements]
    exact hs.settlements hundisturbed

theorem SameAttempts.spares (h : SameAttempts s t) (j : ℕ) : Spares j s t where
  underWay := congrFun h.underWay j
  advances :=
    { jobs := by
        rw [h.jobs]
        exact Table.Extends.refl SameOrigin.refl s.jobs
      rows := by
        refine ⟨[], h.requeues, ?_⟩
        rw [h.store]
        exact .refl s.store }

theorem SameAttempts.guarantee (h : SameAttempts s t) : discipline.guarantee i s t :=
  guarantee_of h.sound fun _ j _ ↦ h.spares j

theorem sameAttempts_claim (delivery : Delivery) (w : World) :
    SameAttempts w (w.claim delivery) := by
  refine ⟨rfl, rfl, rfl, rfl, rfl, rfl, rfl, rfl, rfl, fun h id token htoken ↦ ?_⟩
  change List.lookup id (_ :: w.tokens) = some token
  by_cases hid : id = (delivery.jobId, delivery.sequence)
  · subst hid
    simpa [World.claim, List.lookup_cons] using htoken
  · simp only [World.claim] at htoken
    rw [Function.update_of_ne hid] at htoken
    rw [List.lookup_cons, beq_false_of_ne hid]
    exact h id token htoken

theorem sameAttempts_dropClaim (delivery : Delivery) (w : World) :
    SameAttempts w (w.dropClaim delivery) := by
  refine ⟨rfl, rfl, rfl, rfl, rfl, rfl, rfl, rfl, rfl, fun h id token htoken ↦ ?_⟩
  change w.tokens.lookup id = some token
  by_cases hid : id = (delivery.jobId, delivery.sequence)
  · subst hid
    simp [World.dropClaim] at htoken
  · simp only [World.dropClaim] at htoken
    rw [Function.update_of_ne hid] at htoken
    exact h id token htoken

/-! ### Steps of an attempt -/

/-- A pending row is under delivery after an attempt began. -/
theorem beginDelivery_guarantee {jobId : JobId} {row : ProgressRow} {job : JobRow} {sequence : ℕ}
    {workspaceId : String} (hrow : s.store.get jobId = some row) (hpending : row.status = .pending)
    (hjob : s.jobs.get? jobId = some job) (hsource : job.source ≠ .donaSchedule) :
    discipline.guarantee i s (s.beginDelivery i jobId sequence workspaceId) := by
  have hsteps : ∀ taken, Store.Steps (fun _ ↦ False) taken s.store (s.store.begin jobId) :=
    fun taken ↦ Store.steps_begin
  refine guarantee_of (fun hs ↦ ?_) fun hs j hij ↦ ?_
  · refine
      { claims := hs.claims
        requeues := hs.requeues
        fresh := fun j delivery hj ↦ ?_
        distinct := fun j k d d' hj hk hoperation ↦ ?_
        under := fun hundisturbed j delivery hj ↦ ?_
        settlements := hs.settlements }
    · simp only [World.beginDelivery] at hj ⊢
      by_cases hji : j = i
      · subst hji
        rw [Function.update_self] at hj
        obtain rfl := Option.some.inj hj
        exact Nat.lt_succ_self _
      · rw [Function.update_of_ne hji] at hj
        have hlt := hs.fresh j delivery hj
        omega
    · simp only [World.beginDelivery] at hj hk
      by_cases hji : j = i <;> by_cases hki : k = i
      · rw [hji, hki]
      · subst hji
        rw [Function.update_self] at hj
        rw [Function.update_of_ne hki] at hk
        obtain rfl := Option.some.inj hj
        have hlt := hs.fresh k d' hk
        simp only at hoperation
        omega
      · subst hki
        rw [Function.update_self] at hk
        rw [Function.update_of_ne hji] at hj
        obtain rfl := Option.some.inj hk
        have hlt := hs.fresh j d hj
        simp only at hoperation
        omega
      · rw [Function.update_of_ne hji] at hj
        rw [Function.update_of_ne hki] at hk
        exact hs.distinct j k d d' hj hk hoperation
    · simp only [World.beginDelivery] at hj
      by_cases hji : j = i
      · subst hji
        rw [Function.update_self] at hj
        obtain rfl := Option.some.inj hj
        refine ⟨⟨{ row with status := .delivering }, ?_, rfl⟩, ?_, ?_, job, hjob, hsource⟩
        · change (s.store.begin jobId).get jobId = _
          simp [Store.begin, hrow, hpending]
        · simp [World.beginDelivery]
        · simp [World.beginDelivery]
      · rw [Function.update_of_ne hji] at hj
        obtain ⟨⟨row', hrow', hstatus⟩, hstartedBy, hoperation, hsource'⟩ :=
          hs.under hundisturbed j delivery hj
        have hne : delivery.jobId ≠ jobId := by
          intro heq
          rw [heq, hrow] at hrow'
          obtain rfl := Option.some.inj hrow'
          rw [hpending] at hstatus
          contradiction
        obtain ⟨row'', hrow'', hstep⟩ := hsteps (fun _ ↦ False) _ row' hrow'
        refine ⟨⟨row'', hrow'', (hstep.delivering hstatus).resolve_right id⟩, ?_, ?_, hsource'⟩
        · simpa [World.beginDelivery, hne] using hstartedBy
        · simpa [World.beginDelivery, hne] using hoperation
  · refine ⟨Function.update_of_ne (Ne.symm hij) _ _, Table.Extends.refl SameOrigin.refl s.jobs, [],
      rfl, ?_⟩
    exact (hsteps fun _ ↦ True).mono (fun _ h ↦ h.elim) fun _ h ↦ h

/-- The program has this attempt under way. -/
def Mine (i : ℕ) (delivery : Delivery) (w : World) : Prop := w.underWay i = some delivery

/-- No other attempt is at the job. -/
def Released (i : ℕ) (delivery : Delivery) (w : World) : Prop :=
  w.Undisturbed → ∀ j d, j ≠ i → w.underWay j = some d → d.jobId ≠ delivery.jobId

theorem Sound.released (hs : Sound s) {delivery : Delivery} (h : Mine i delivery s) :
    Released i delivery s :=
  fun hundisturbed _ _ hji hj ↦ hs.jobId_ne hundisturbed hj h hji

theorem underWay_of_update {j : ℕ} {d : Delivery}
    (hj : Function.update s.underWay i none j = some d) : j ≠ i ∧ s.underWay j = some d := by
  have hji : j ≠ i := by
    rintro rfl
    simp at hj
  rw [Function.update_of_ne hji] at hj
  exact ⟨hji, hj⟩

/-- An outcome settles the row of its attempt. -/
theorem settle_guarantee {delivery : Delivery} {outcome : Outcome} {store : Store}
    (hmine : Mine i delivery s)
    (hsteps : Store.Steps (fun _ ↦ False) (· = delivery.jobId) s.store store)
    (hafter : outcome = .delivered → ∀ row, s.store.get delivery.jobId = some row →
      row.status = .delivering → World.statusOf store delivery.jobId = some .delivered) :
    discipline.guarantee i s (s.settle i delivery outcome store) := by
  refine guarantee_of (fun hs ↦ ?_) fun hs j hij ↦ ?_
  · have hothers : ∀ j d, (s.settle i delivery outcome store).underWay j = some d →
        j ≠ i ∧ s.underWay j = some d := fun j d hj ↦ underWay_of_update hj
    refine
      { claims := hs.claims
        requeues := hs.requeues
        fresh := fun j d hj ↦ hs.fresh j d (hothers j d hj).2
        distinct := fun j k d d' hj hk ↦ hs.distinct j k d d' (hothers j d hj).2 (hothers k d' hk).2
        under := fun hundisturbed j d hj ↦ ?_
        settlements := fun hundisturbed ↦ List.forall_mem_cons.mpr
          ⟨?_, hs.settlements hundisturbed⟩ }
    · obtain ⟨hji, hj'⟩ := hothers j d hj
      have hunder := hs.under hundisturbed j d hj'
      obtain ⟨row, hrow, hstatus⟩ := hunder.delivering
      obtain ⟨row', hrow', hstep⟩ := hsteps _ row hrow
      have hne : d.jobId ≠ delivery.jobId := hs.released hmine hundisturbed j d hji hj'
      exact ⟨⟨row', hrow', (hstep.delivering hstatus).resolve_right hne⟩, hunder.startedBy,
        hunder.operation, hunder.source⟩
    · have hunder := hs.under hundisturbed i delivery hmine
      obtain ⟨row, hrow, hstatus⟩ := hunder.delivering
      exact ⟨fun _ ↦ hunder.startedBy, fun houtcome ↦ hafter houtcome row hrow hstatus⟩
  · refine ⟨Function.update_of_ne (Ne.symm hij) _ _, Table.Extends.refl SameOrigin.refl s.jobs, [],
      rfl, ?_⟩
    exact hsteps.mono (fun _ h ↦ h.elim) fun _ _ ↦ trivial

theorem released_settle {delivery : Delivery} {outcome : Outcome} {store : Store}
    (h : Released i delivery s) : Released i delivery (s.settle i delivery outcome store) := by
  intro hundisturbed j d hji hj
  exact h hundisturbed j d hji (underWay_of_update hj).2

theorem finishDelivery_guarantee {delivery : Delivery} (hreleased : Released i delivery s) :
    discipline.guarantee i s (s.finishDelivery i delivery) := by
  refine guarantee_of (fun hs ↦ ?_) fun hs j hij ↦ ?_
  · have hothers : ∀ j d, (s.finishDelivery i delivery).underWay j = some d →
        j ≠ i ∧ s.underWay j = some d := fun j d hj ↦ underWay_of_update hj
    refine
      { claims := hs.claims
        requeues := hs.requeues
        fresh := fun j d hj ↦ hs.fresh j d (hothers j d hj).2
        distinct := fun j k d d' hj hk ↦ hs.distinct j k d d' (hothers j d hj).2 (hothers k d' hk).2
        under := fun hundisturbed j d hj ↦ ?_
        settlements := hs.settlements }
    obtain ⟨hji, hj'⟩ := hothers j d hj
    have hunder := hs.under hundisturbed j d hj'
    have hne : d.jobId ≠ delivery.jobId := hreleased hundisturbed j d hji hj'
    refine ⟨hunder.delivering, hunder.startedBy, ?_, hunder.source⟩
    simpa [World.finishDelivery, hne] using hunder.operation
  · exact ⟨Function.update_of_ne (Ne.symm hij) _ _, Table.Extends.refl SameOrigin.refl s.jobs, [],
      rfl, .refl s.store⟩

end Dona.JobProgress
