import Dona.SlackAdapter.Endpoints

/-!
# The drain status of the Slack Adapter

Whether an adapter that reports `drained` has really nothing under way, and what it begins after
the stopping flag is set. Update notifications look at the flag once, before they read their
body, and are not tracked; every other endpoint is tracked while it writes.
-/

namespace Dona.SlackAdapter

open Coroutine

/-! ### The invariant -/

structure Sound (s : Adapter) : Prop where
  counted : ∀ k w, s.writing k = some w → k ∈ s.inFlight ∨ k ∈ s.updates
  crossed : ∀ q, s.quiesced = some q → s.updates ⊆ q.updates ∧ s.deferred ⊆ q.deferred
  early : s.quiesced = none → s.late = []
  late : ∀ q, s.quiesced = some q → ∀ e ∈ s.late,
    e.2 = .ack ∨ e.1 ∈ q.updates ∨ e.1 ∈ q.deferred

/-- Where a request stands between its writes. -/
structure Standing where
  inFlight : Bool := false
  update : Bool := false
  deferred : Bool := false

structure Stands (k : ℕ) (at_ : Standing) (s : Adapter) : Prop where
  writing : s.writing k = none
  inFlight : k ∈ s.inFlight ↔ at_.inFlight = true
  updates : k ∈ s.updates ↔ at_.update = true
  deferred : k ∈ s.deferred ↔ at_.deferred = true

/-- What the other requests leave alone. -/
structure Spares (k : ℕ) (s t : Adapter) : Prop where
  writing : t.writing k = s.writing k
  inFlight : k ∈ t.inFlight ↔ k ∈ s.inFlight
  updates : k ∈ t.updates ↔ k ∈ s.updates
  deferred : k ∈ t.deferred ↔ k ∈ s.deferred

theorem Spares.refl (k : ℕ) (s : Adapter) : Spares k s s := ⟨rfl, Iff.rfl, Iff.rfl, Iff.rfl⟩

theorem Spares.trans {k : ℕ} {s t u : Adapter} (h : Spares k s t) (h' : Spares k t u) :
    Spares k s u where
  writing := h'.writing.trans h.writing
  inFlight := h'.inFlight.trans h.inFlight
  updates := h'.updates.trans h.updates
  deferred := h'.deferred.trans h.deferred

def discipline : Interference Adapter Call.Reply ℕ :=
  .ofRely Performs Sound Spares Spares.refl Spares.trans

variable {k : ℕ} {at_ : Standing} {s t : Adapter}

theorem Stands.spared (h : Stands k at_ s) (ht : Spares k s t) : Stands k at_ t where
  writing := ht.writing.trans h.writing
  inFlight := ht.inFlight.trans h.inFlight
  updates := ht.updates.trans h.updates
  deferred := ht.deferred.trans h.deferred

theorem Adapter.Fresh.stands (h : s.Fresh k) : Stands k {} s where
  writing := h.writing
  inFlight := iff_of_false h.inFlight Bool.false_ne_true
  updates := iff_of_false h.updates Bool.false_ne_true
  deferred := iff_of_false h.deferred Bool.false_ne_true

/-! ### Steps -/

/-- A step on what neither the drain status nor the writes depend on. -/
structure SameWork (s t : Adapter) : Prop where
  quiesced : t.quiesced = s.quiesced
  inFlight : t.inFlight = s.inFlight
  updates : t.updates = s.updates
  deferred : t.deferred = s.deferred
  writing : t.writing = s.writing
  late : t.late = s.late

theorem SameWork.sound (h : SameWork s t) (hs : Sound s) : Sound t where
  counted k w := by
    rw [h.writing, h.inFlight, h.updates]
    exact hs.counted k w
  crossed q := by
    rw [h.quiesced, h.updates, h.deferred]
    exact hs.crossed q
  early := by
    rw [h.quiesced, h.late]
    exact hs.early
  late q := by
    rw [h.quiesced, h.late]
    exact hs.late q

theorem SameWork.spares (h : SameWork s t) (k : ℕ) : Spares k s t where
  writing := congrFun h.writing k
  inFlight := by rw [h.inFlight]
  updates := by rw [h.updates]
  deferred := by rw [h.deferred]

theorem SameWork.guarantee (h : SameWork s t) : discipline.guarantee k s t :=
  fun hs ↦ ⟨h.sound hs, fun j _ ↦ h.spares j⟩

theorem stop_guarantee : discipline.guarantee k s s.stop := by
  intro hs
  refine ⟨⟨hs.counted, fun q hq ↦ ?_, fun hnone ↦ ?_, fun q hq e he ↦ ?_⟩,
    fun j _ ↦ ⟨rfl, Iff.rfl, Iff.rfl, Iff.rfl⟩⟩
  · cases hs' : s.quiesced with
    | none =>
        obtain rfl : ⟨s.updates, s.deferred⟩ = q := by simpa [Adapter.stop, hs'] using hq
        exact ⟨subset_rfl, subset_rfl⟩
    | some q' =>
        obtain rfl : q' = q := by simpa [Adapter.stop, hs'] using hq
        exact hs.crossed q' hs'
  · simp [Adapter.stop] at hnone
  · cases hs' : s.quiesced with
    | none =>
        have hlate : s.late = [] := hs.early hs'
        change e ∈ s.late at he
        simp [hlate] at he
    | some q' =>
        obtain rfl : q' = q := by simpa [Adapter.stop, hs'] using hq
        exact hs.late q' hs' e he

theorem track_guarantee : discipline.guarantee k s (s.track k) := by
  intro hs
  refine ⟨⟨fun j w hj ↦ ?_, hs.crossed, hs.early, hs.late⟩, fun j hj ↦ ⟨rfl, ?_, Iff.rfl, Iff.rfl⟩⟩
  · have hcounted := hs.counted j w hj
    exact hcounted.imp_left (Finset.mem_insert_of_mem ·)
  · exact Finset.mem_insert.trans (or_iff_right (Ne.symm hj))

theorem untrack_guarantee (hk : s.writing k = none) : discipline.guarantee k s (s.untrack k) := by
  intro hs
  refine ⟨⟨fun j w hj ↦ ?_, hs.crossed, hs.early, hs.late⟩, fun j hj ↦ ⟨rfl, ?_, Iff.rfl, Iff.rfl⟩⟩
  · have hne : j ≠ k := by
      rintro rfl
      exact absurd (hk.symm.trans hj) (by simp)
    have hcounted := hs.counted j w hj
    exact hcounted.imp_left (Finset.mem_erase_of_ne_of_mem hne)
  · exact Finset.mem_erase.trans (and_iff_right (Ne.symm hj))

theorem passUpdate_guarantee (hstopping : s.isStopping = false) :
    discipline.guarantee k s (s.passUpdate k) := by
  intro hs
  refine ⟨⟨fun j w hj ↦ ?_, fun q hq ↦ ?_, hs.early, hs.late⟩,
    fun j hj ↦ ⟨rfl, Iff.rfl, ?_, Iff.rfl⟩⟩
  · have hcounted := hs.counted j w hj
    exact hcounted.imp_right (Finset.mem_insert_of_mem ·)
  · change s.quiesced = some q at hq
    simp [Adapter.isStopping, hq] at hstopping
  · exact Finset.mem_insert.trans (or_iff_right (Ne.symm hj))

theorem endUpdate_guarantee (hk : s.writing k = none) :
    discipline.guarantee k s (s.endUpdate k) := by
  intro hs
  refine ⟨⟨fun j w hj ↦ ?_, fun q hq ↦ ?_, hs.early, hs.late⟩,
    fun j hj ↦ ⟨rfl, Iff.rfl, ?_, Iff.rfl⟩⟩
  · have hne : j ≠ k := by
      rintro rfl
      exact absurd (hk.symm.trans hj) (by simp)
    have hcounted := hs.counted j w hj
    exact hcounted.imp_right (Finset.mem_erase_of_ne_of_mem hne)
  · obtain ⟨hupdates, hdeferred⟩ := hs.crossed q hq
    exact ⟨(Finset.erase_subset k _).trans hupdates, hdeferred⟩
  · exact Finset.mem_erase.trans (and_iff_right (Ne.symm hj))

theorem passDeferred_guarantee (hstopping : s.isStopping = false) :
    discipline.guarantee k s (s.passDeferred k) := by
  intro hs
  refine ⟨⟨hs.counted, fun q hq ↦ ?_, hs.early, hs.late⟩, fun j hj ↦ ⟨rfl, Iff.rfl, Iff.rfl, ?_⟩⟩
  · change s.quiesced = some q at hq
    simp [Adapter.isStopping, hq] at hstopping
  · exact Finset.mem_insert.trans (or_iff_right (Ne.symm hj))

theorem endDeferred_guarantee : discipline.guarantee k s (s.endDeferred k) := by
  intro hs
  refine ⟨⟨hs.counted, fun q hq ↦ ?_, hs.early, hs.late⟩, fun j hj ↦ ⟨rfl, Iff.rfl, Iff.rfl, ?_⟩⟩
  · obtain ⟨hupdates, hdeferred⟩ := hs.crossed q hq
    exact ⟨hupdates, (Finset.erase_subset k _).trans hdeferred⟩
  · exact Finset.mem_erase.trans (and_iff_right (Ne.symm hj))

/-- A write may begin when it is counted, and behind the flag only by a request that the flag
crossed. -/
theorem begin_guarantee {w : Write} (hcounted : k ∈ s.inFlight ∨ k ∈ s.updates)
    (hlate : s.isStopping = true → w = .ack ∨ k ∈ s.updates ∨ k ∈ s.deferred) :
    discipline.guarantee k s (s.begin k w) := by
  intro hs
  refine ⟨⟨fun j w' hj ↦ ?_, hs.crossed, fun hnone ↦ ?_, fun q hq e he ↦ ?_⟩,
    fun j hj ↦ ⟨Function.update_of_ne (Ne.symm hj) _ _, Iff.rfl, Iff.rfl, Iff.rfl⟩⟩
  · by_cases hjk : j = k
    · rw [hjk]
      exact hcounted
    · have hkept : (s.begin k w).writing j = s.writing j := Function.update_of_ne hjk _ _
      exact hs.counted j w' (hkept.symm.trans hj)
  · change s.quiesced = none at hnone
    have hstopping : s.isStopping = false := by simp [Adapter.isStopping, hnone]
    simpa [Adapter.begin, hstopping] using hs.early hnone
  · change s.quiesced = some q at hq
    have hstopping : s.isStopping = true := by simp [Adapter.isStopping, hq]
    obtain ⟨hupdates, hdeferred⟩ := hs.crossed q hq
    simp only [Adapter.begin, hstopping, if_true, List.mem_cons] at he
    rcases he with rfl | he
    · exact (hlate hstopping).imp_right (Or.imp (@hupdates k) (@hdeferred k))
    · exact hs.late q hq e he

theorem finish_guarantee : discipline.guarantee k s (s.finish k) := by
  intro hs
  refine ⟨⟨fun j w hj ↦ ?_, hs.crossed, hs.early, hs.late⟩,
    fun j hj ↦ ⟨Function.update_of_ne (Ne.symm hj) _ _, Iff.rfl, Iff.rfl, Iff.rfl⟩⟩
  by_cases hjk : j = k
  · subst hjk
    simp [Adapter.finish] at hj
  · have hkept : (s.finish k).writing j = s.writing j := Function.update_of_ne hjk _ _
    exact hs.counted j w (hkept.symm.trans hj)

/-! ### Programs -/

variable {α β : Type}

/-- A request that stands at one place keeps standing there from await to await. -/
abbrev Remains (k : ℕ) (at_ : Standing) (p : Program α) : Prop :=
  Keeps discipline k (Stands k at_) p

/-- A program that begins its writes before it awaits: it has just seen the flag unset. -/
def Prompt (k : ℕ) (at_ : Standing) (p : Program α) : Prop :=
  ∀ s, Stands k at_ s → s.isStopping = false →
    wp discipline k p (fun _ ↦ Stands k at_) (fun _ ↦ Stands k at_) s

theorem Keeps.prompt {p : Program α} (h : Remains k at_ p) : Prompt k at_ p := fun s hs _ ↦ h s hs

theorem Performs.state_eq {c : Call} {r : c.Reply} (h : Performs c s r t) : t = s := by
  cases h <;> rfl

theorem SameWork.refl (s : Adapter) : SameWork s s := ⟨rfl, rfl, rfl, rfl, rfl, rfl⟩

theorem remains_call (c : Call) : Remains k at_ (call c : Program c.Reply) := by
  refine keeps_call (fun hrely _ hs ↦ hs.spared hrely) fun s r t _ hs hperform ↦ ?_
  obtain rfl := hperform.state_eq
  exact ⟨(SameWork.refl t).guarantee, hs⟩

theorem remains_settled (x : Except Failure α) : Remains k at_ (settled x) := by
  cases x with
  | ok a => exact keeps_pure a
  | error failure => exact keeps_throw failure

/-- A write to what the drain status does not depend on. -/
theorem remains_write {f : Adapter → Adapter} (hf : ∀ s, SameWork s (f s)) :
    Remains k at_ (write f : Program Unit) :=
  keeps_write fun s hs ↦ ⟨(hf s).guarantee, hs.spared ((hf s).spares k)⟩

/-- A write that may begin here ends where it began. -/
theorem external_spec {w : Write} {c : Call} (hs : Stands k at_ s)
    (hcounted : at_.inFlight = true ∨ at_.update = true)
    (hlate : s.isStopping = true → w = .ack ∨ at_.update = true ∨ at_.deferred = true) :
    wp discipline k (external k w c) (fun _ ↦ Stands k at_) (fun _ ↦ Stands k at_) s := by
  rw [external, wp_bind, wp_write]
  constructor
  · refine begin_guarantee ?_ fun hstopping ↦ ?_
    · exact hcounted.imp hs.inFlight.mpr hs.updates.mpr
    · exact (hlate hstopping).imp_right (Or.imp hs.updates.mpr hs.deferred.mpr)
  · rw [wp_bind, wp_call]
    intro s₁ hs₁ _ r s₂ hperform
    obtain rfl := hperform.state_eq
    refine ⟨(SameWork.refl s₂).guarantee, fun s₃ hs₃ _ ↦ ?_⟩
    have hspared : Spares k (s.begin k w) s₃ := Spares.trans hs₁ hs₃
    rw [wp_bind, wp_write]
    refine ⟨finish_guarantee, ?_⟩
    exact
      { writing := Function.update_self ..
        inFlight := hspared.inFlight.trans hs.inFlight
        updates := hspared.updates.trans hs.updates
        deferred := hspared.deferred.trans hs.deferred }

theorem remains_external {w : Write} {c : Call}
    (hcounted : at_.inFlight = true ∨ at_.update = true)
    (hlate : w = .ack ∨ at_.update = true ∨ at_.deferred = true) :
    Remains k at_ (external k w c) := fun _ hs ↦ external_spec hs hcounted fun _ ↦ hlate

theorem prompt_external {w : Write} {c : Call} (hcounted : at_.inFlight = true) :
    Prompt k at_ (external k w c) := by
  intro s hs hrunning
  refine external_spec hs (Or.inl hcounted) fun hstopping ↦ ?_
  simp [hrunning] at hstopping

theorem Prompt.bind {p : Program α} {f : α → Program β} (hp : Prompt k at_ p)
    (hf : ∀ a, Remains k at_ (f a)) : Prompt k at_ (p >>= f) := by
  intro s hs hrunning
  rw [wp_bind]
  exact wp_mono (fun a t ht ↦ hf a t ht) (fun _ _ ht ↦ ht) (hp s hs hrunning)

theorem Prompt.unlessStopping {rejection : Response} {next : Program Response}
    (h : Prompt k at_ next) : Remains k at_ (unlessStopping rejection next) := by
  intro s hs
  rw [Dona.SlackAdapter.unlessStopping, wp_bind, wp_read, wp_ite]
  split_ifs with hstopping
  · exact hs
  · exact h s hs (Bool.eq_false_iff.mpr hstopping)

/-- What a request does between two steps that only move it, and leaves with a throw or not. -/
theorem wp_attempt_then {p : Program α} {f : Except Failure α → Program β} {there : Standing}
    (hp : wp discipline k p (fun _ ↦ Stands k at_) (fun _ ↦ Stands k at_) s)
    (hf : ∀ result s, Stands k at_ s →
      wp discipline k (f result) (fun _ ↦ Stands k there) (fun _ ↦ Stands k there) s) :
    wp discipline k (attempt p >>= f) (fun _ ↦ Stands k there) (fun _ ↦ Stands k there) s := by
  rw [wp_bind, wp_attempt]
  exact wp_mono (fun a t ht ↦ hf (.ok a) t ht) (fun e t ht ↦ hf (.error e) t ht) hp

theorem tracked_spec {p : Program α} (hat : at_.inFlight = false) (hs : Stands k at_ s)
    (h : Stands k { at_ with inFlight := true } (s.track k) →
      wp discipline k p (fun _ ↦ Stands k { at_ with inFlight := true })
        (fun _ ↦ Stands k { at_ with inFlight := true }) (s.track k)) :
    wp discipline k (tracked k p) (fun _ ↦ Stands k at_) (fun _ ↦ Stands k at_) s := by
  rw [tracked, wp_bind, wp_write]
  have htracked : Stands k { at_ with inFlight := true } (s.track k) :=
    ⟨hs.writing, iff_of_true (Finset.mem_insert_self k _) rfl, hs.updates, hs.deferred⟩
  refine ⟨track_guarantee, wp_attempt_then (h htracked) fun result t ht ↦ ?_⟩
  rw [wp_bind, wp_write]
  have huntracked : Stands k at_ (t.untrack k) :=
    ⟨ht.writing, iff_of_false (Finset.notMem_erase k _) (Bool.eq_false_iff.mp hat), ht.updates,
      ht.deferred⟩
  exact ⟨untrack_guarantee ht.writing, remains_settled result _ huntracked⟩

theorem remains_tracked {p : Program α} (hat : at_.inFlight = false)
    (h : Remains k { at_ with inFlight := true } p) : Remains k at_ (tracked k p) :=
  fun _ hs ↦ tracked_spec hat hs (h _)

theorem prompt_tracked {p : Program α} (hat : at_.inFlight = false)
    (h : Prompt k { at_ with inFlight := true } p) : Prompt k at_ (tracked k p) :=
  fun _ hs hrunning ↦ tracked_spec hat hs fun htracked ↦ h _ htracked hrunning

theorem prompt_deferring {p : Program α} (hat : at_.deferred = false)
    (h : Remains k { at_ with deferred := true } p) : Prompt k at_ (deferring k p) := by
  intro s hs hrunning
  rw [deferring, wp_bind, wp_write]
  have hdeferred : Stands k { at_ with deferred := true } (s.passDeferred k) :=
    ⟨hs.writing, hs.inFlight, hs.updates, iff_of_true (Finset.mem_insert_self k _) rfl⟩
  refine ⟨passDeferred_guarantee hrunning, wp_attempt_then (h _ hdeferred) fun result t ht ↦ ?_⟩
  rw [wp_bind, wp_write]
  have hended : Stands k at_ (t.endDeferred k) :=
    ⟨ht.writing, ht.inFlight, ht.updates,
      iff_of_false (Finset.notMem_erase k _) (Bool.eq_false_iff.mp hat)⟩
  exact ⟨endDeferred_guarantee, remains_settled result _ hended⟩

/-! ### Endpoints -/

variable {ports : Ports}

theorem prompt_settleSession (hat : at_.inFlight = true) (mismatch channelId threadTs : String)
    (desired : UpdateNotification.SessionStatus) :
    Prompt k at_ (settleSession k mismatch channelId threadTs desired) := by
  refine (prompt_external hat).bind fun reply ↦ (remains_settled reply).bind fun session ↦ ?_
  exact Keeps.ite (keeps_throw _) (keeps_pure _)

theorem remains_settleSession (hcounted : at_.inFlight = true ∨ at_.update = true)
    (hlate : at_.update = true ∨ at_.deferred = true) (mismatch channelId threadTs : String)
    (desired : UpdateNotification.SessionStatus) :
    Remains k at_ (settleSession k mismatch channelId threadTs desired) := by
  refine (remains_external hcounted (Or.inr hlate)).bind fun reply ↦ ?_
  refine (remains_settled reply).bind fun session ↦ ?_
  exact Keeps.ite (keeps_throw _) (keeps_pure _)

theorem remains_existingMessage : Remains k at_ existingMessage :=
  (remains_call Call.existingMessage).bind fun found ↦ remains_settled found

theorem remains_messageToReport (hat : at_.update = true) :
    Remains k at_ (messageToReport k) := by
  refine remains_existingMessage.bind fun found ↦ ?_
  cases found with
  | some messageTs => exact keeps_pure _
  | none =>
      refine Keeps.bind ?_ fun messageTs ↦ keeps_pure _
      refine (remains_external (Or.inr hat) (Or.inr (Or.inl hat))).bind fun posted ↦ ?_
      cases posted with
      | ok posted => exact keeps_pure _
      | error failure =>
          refine (Keeps.attempt remains_existingMessage).bind fun found ↦ ?_
          split
          · exact keeps_pure _
          · exact keeps_throw _
          · exact Keeps.ite (keeps_throw _) (keeps_throw _)

theorem remains_deliverUpdateNotification (hat : at_.update = true)
    (input : UpdateNotification.UpdateNotificationRequest) :
    Remains k at_ (deliverUpdateNotification ports k input) := by
  unfold deliverUpdateNotification
  split
  · exact keeps_throw _
  · refine (remains_messageToReport hat).bind fun reported ↦ ?_
    refine (remains_settleSession (Or.inr hat) (Or.inl hat) _ _ _ _).bind fun sessionStatus ↦ ?_
    refine Keeps.ite ?_ (keeps_pure _)
    refine remains_existingMessage.bind fun observed ↦ ?_
    exact Keeps.ite (keeps_throw _) (keeps_pure _)

theorem remains_handleUpdateNotification :
    Remains k {} (handleUpdateNotification ports k) := by
  refine Keeps.ite (keeps_pure _) ((remains_call Call.authorized).bind fun authorized ↦ ?_)
  refine Keeps.ite (keeps_pure _) fun s hs ↦ ?_
  rw [wp_bind, wp_read, wp_ite]
  split_ifs with hstopping
  · exact hs
  have hrunning : s.isStopping = false := Bool.eq_false_iff.mpr hstopping
  have hpassed : Stands k { update := true } (s.passUpdate k) :=
    ⟨hs.writing, hs.inFlight, iff_of_true (Finset.mem_insert_self k _) rfl, hs.deferred⟩
  have hdelivery : Remains k { update := true } (do
      let body : Except Failure UpdateNotification.UpdateNotificationRequest ←
        call Call.readUpdateNotification
      deliverUpdateNotification ports k (← settled body)) := by
    refine (remains_call Call.readUpdateNotification).bind fun body ↦ ?_
    exact (remains_settled body).bind fun input ↦ remains_deliverUpdateNotification rfl input
  rw [wp_bind, wp_write]
  refine ⟨passUpdate_guarantee hrunning, wp_attempt_then (hdelivery _ hpassed) ?_⟩
  intro delivered t ht
  rw [wp_bind, wp_write]
  have hended : Stands k {} (t.endUpdate k) :=
    ⟨ht.writing, ht.inFlight, iff_of_false (Finset.notMem_erase k _) Bool.false_ne_true,
      ht.deferred⟩
  refine ⟨endUpdate_guarantee ht.writing, ?_⟩
  cases delivered with
  | ok result => exact hended
  | error failure => exact hended

/-- A reminder is posted at once or not at all. -/
theorem prompt_deliverReminder (hat : at_.inFlight = true) (preflightOnly : Bool)
    (body : Option SlackReminderCommand) :
    Prompt k at_ (deliverReminder ports k preflightOnly body) := by
  cases body with
  | none => exact Keeps.prompt (keeps_pure _)
  | some command =>
      intro s hs hrunning
      rw [deliverReminder, wp_ite]
      by_cases hpreflight : preflightOnly = true
      · rw [if_pos hpreflight]
        refine Keeps.ite (keeps_pure _) ?_ s hs
        refine (remains_call (Call.preflight command)).bind fun response ↦ ?_
        refine Keeps.ite (Keeps.bind (remains_write fun _ ↦ ?_) fun _ ↦ keeps_pure _) (keeps_pure _)
        exact ⟨rfl, rfl, rfl, rfl, rfl, rfl⟩
      · rw [if_neg hpreflight, wp_bind, wp_read, wp_ite]
        by_cases hticket : s.tickets command.outboxId = false
        · rw [if_pos hticket]
          exact hs
        · rw [if_neg hticket, wp_bind, wp_write, wp_ite]
          have hsame : SameWork s (s.setTicket command.outboxId false) :=
            ⟨rfl, rfl, rfl, rfl, rfl, rfl⟩
          have hkept : Stands k at_ (s.setTicket command.outboxId false) :=
            hs.spared (hsame.spares k)
          refine ⟨hsame.guarantee, ?_⟩
          by_cases hknown : (ports.registry command.workspaceId).isNone = true
          · rw [if_pos hknown]
            exact hkept
          · rw [if_neg hknown]
            exact (prompt_external hat).bind (fun posted ↦ keeps_pure _) _ hkept hrunning

theorem remains_handleReminder (hat : at_.inFlight = true) (preflightOnly : Bool) :
    Remains k at_ (handleReminder ports k preflightOnly) := by
  refine Keeps.ite (keeps_pure _) ((remains_call Call.authorized).bind fun authorized ↦ ?_)
  refine Keeps.ite (keeps_pure _) (Prompt.unlessStopping (Keeps.prompt ?_))
  refine (remains_call Call.readReminder).bind fun body ↦ ?_
  cases body with
  | error failure => exact keeps_pure _
  | ok body => exact Prompt.unlessStopping (prompt_deliverReminder hat preflightOnly body)

/-- The endpoints of `handleScheduledInternal` write at once after their last look at the flag,
or among the deferred. -/
theorem remains_scheduledInternal {Input : Type} {unavailable unconfirmed : String}
    {readJson : Program (Except Failure Input)} {operation : Input → Program Unit}
    (hread : Remains k at_ readJson) (hoperation : ∀ input, Prompt k at_ (operation input)) :
    Remains k at_ (scheduledInternal ports unavailable unconfirmed readJson operation) := by
  refine Prompt.unlessStopping (Keeps.prompt (Keeps.ite (keeps_pure _) ?_))
  refine (remains_call Call.authorized).bind fun authorized ↦ Keeps.ite (keeps_pure _) ?_
  refine Keeps.bind (Keeps.attempt (hread.bind fun body ↦ ?_)) fun answer ↦ ?_
  · refine (remains_settled body).bind fun input ↦ Prompt.unlessStopping ?_
    exact (hoperation input).bind fun _ ↦ keeps_pure _
  · cases answer with
    | ok response => exact keeps_pure _
    | error failure => exact keeps_pure _

theorem remains_confirmJobDelivery (hcounted : at_.inFlight = true) (hat : at_.deferred = true)
    (input : JobDeliveryConfirmationRequest) :
    Remains k at_ (confirmJobDelivery ports k input) := by
  refine Keeps.ite (keeps_throw _) ((remains_call (Call.deliveredMessage input)).bind fun found ↦ ?_)
  refine (remains_settled found).bind fun _ ↦ ?_
  split
  · exact (remains_settleSession (Or.inl hcounted) (Or.inr hat) _ _ _ _).bind fun _ ↦ keeps_pure _
  · exact keeps_pure _

theorem prompt_settleJobSession (hat : at_.inFlight = true) (input : JobSessionSettlementRequest) :
    Prompt k at_ (settleJobSession ports k input) := by
  intro s hs hrunning
  rw [settleJobSession, wp_ite]
  split_ifs
  · exact hs
  · exact (prompt_settleSession hat _ _ _ _).bind (fun _ ↦ keeps_pure _) s hs hrunning

theorem remains_confirmScheduleAccess (input : ScheduleAccessConfirmationRequest) :
    Remains k at_ (confirmScheduleAccess ports input) := by
  refine Keeps.ite (keeps_throw _) ?_
  exact (remains_call (Call.scheduleAccess input)).bind fun confirmed ↦ remains_settled confirmed

theorem remains_deliverJobProgress (hcounted : at_.inFlight = true) (hat : at_.deferred = true)
    (input : JobProgressRequest) : Remains k at_ (deliverJobProgress ports k input) := by
  refine (remains_call (Call.resolveProgress input)).bind fun reply ↦ ?_
  cases reply with
  | error failure => exact keeps_throw _
  | ok resolved =>
      refine Keeps.ite (keeps_throw _) ?_
      refine (remains_external (Or.inl hcounted) (Or.inr (Or.inr hat))).bind fun sent ↦ ?_
      exact remains_settled sent

theorem sameWork_progress (s : Adapter) (promises : Finset (ℕ × ProgressPromise)) (drains : ℕ) :
    SameWork s { s with progressOperations := promises, progressDrains := drains } :=
  ⟨rfl, rfl, rfl, rfl, rfl, rfl⟩

theorem prompt_progressOperation (input : JobProgressRequest) :
    Prompt k {} (progressOperation ports k input) := by
  refine prompt_tracked rfl fun s hs hrunning ↦ ?_
  have hsame : SameWork s (s.addProgress k .operation) := sameWork_progress s _ _
  have hdelivery : Prompt k { inFlight := true } (deferring k (deliverJobProgress ports k input)) :=
    prompt_deferring rfl (remains_deliverJobProgress rfl rfl input)
  rw [wp_bind, wp_write]
  refine ⟨hsame.guarantee, wp_attempt_then (hdelivery _ (hs.spared (hsame.spares k)) hrunning) ?_⟩
  intro sent t ht
  refine Keeps.bind (remains_write fun s ↦ sameWork_progress s _ _) (fun _ ↦ ?_) t ht
  exact (remains_settled sent).bind fun _ ↦ keeps_pure _

theorem remains_handleJobProgress : Remains k {} (handleJobProgress ports k) := by
  refine Keeps.ite (keeps_pure _) ((keeps_read _).bind fun drains ↦ Keeps.ite (keeps_pure _) ?_)
  refine Keeps.bind (remains_write fun s ↦ sameWork_progress s _ _) fun _ ↦ ?_
  refine Keeps.bind (Keeps.attempt ?_) fun response ↦ ?_
  · refine (remains_call Call.authorized).bind fun authorized ↦ Keeps.ite (keeps_pure _) ?_
    refine Prompt.unlessStopping (Keeps.prompt (Keeps.bind (Keeps.attempt ?_) fun answer ↦ ?_))
    · refine (remains_call Call.readJobProgress).bind fun body ↦ ?_
      refine (remains_settled body).bind fun input ↦ ?_
      exact Prompt.unlessStopping (prompt_progressOperation input)
    · cases answer with
      | ok response => exact keeps_pure _
      | error failure => exact keeps_pure _
  · refine Keeps.bind (remains_write fun s ↦ sameWork_progress s _ _) fun _ ↦ ?_
    exact remains_settled response

theorem remains_handleJobProgressDrain : Remains k at_ (handleJobProgressDrain ports) := by
  refine Keeps.ite (keeps_pure _) ?_
  refine Keeps.bind (remains_write fun s ↦ sameWork_progress s _ _) fun _ ↦ ?_
  refine Keeps.bind (Keeps.attempt ?_) fun response ↦ ?_
  · refine (remains_call Call.authorized).bind fun authorized ↦ Keeps.ite (keeps_pure _) ?_
    refine (keeps_read _).bind fun promises ↦ ?_
    exact (remains_call (Call.progressSettled promises)).bind fun _ ↦ keeps_pure _
  · refine Keeps.bind (remains_write fun s ↦ sameWork_progress s _ _) fun _ ↦ ?_
    exact remains_settled response

/-! ### Envelopes and quiescing -/

theorem remains_ackEnvelope (hat : at_.inFlight = true) : Remains k at_ (ackEnvelope k) :=
  (remains_external (Or.inl hat) (Or.inl rfl)).bind fun _ ↦ keeps_pure _

theorem remains_handleEnvelope (hat : at_.inFlight = true) (envelope : SocketEnvelope) :
    Remains k at_ (handleEnvelope k envelope) := by
  intro s hs
  rw [handleEnvelope, wp_bind, wp_read, wp_ite]
  by_cases hstopping : s.isStopping = true
  · rw [if_pos hstopping]
    exact hs
  have hrunning : s.isStopping = false := Bool.eq_false_iff.mpr hstopping
  rw [if_neg hstopping, wp_ite]
  by_cases htype : envelope.type ≠ "events_api"
  · rw [if_pos htype]
    exact remains_ackEnvelope hat s hs
  rw [if_neg htype]
  cases envelope.normalized with
  | error _ => exact hs
  | ok normalized =>
      cases normalized with
      | none => exact remains_ackEnvelope hat s hs
      | some event =>
          refine (prompt_external hat).bind (fun response ↦ ?_) s hs hrunning
          cases response with
          | error _ => exact keeps_pure _
          | ok statusCode => exact Keeps.ite (keeps_pure _) (remains_ackEnvelope hat)

theorem remains_stop : Remains k at_ (write (·.stop) : Program Unit) :=
  keeps_write fun _ hs ↦ ⟨stop_guarantee, ⟨hs.writing, hs.inFlight, hs.updates, hs.deferred⟩⟩

theorem remains_settleInFlight : Remains k at_ settleInFlight :=
  (keeps_read _).bind fun _ ↦ Keeps.ite (remains_call Call.inFlightSettledOrGrace) (keeps_pure ())

theorem remains_quiesce : Remains k at_ quiesce :=
  remains_stop.bind fun _ ↦ remains_settleInFlight.bind fun _ ↦
    (remains_call Call.disconnect).bind fun _ ↦ remains_settleInFlight

theorem remains_handleQuiesce : Remains k at_ handleQuiesce := by
  refine (remains_call Call.readQuiesce).bind fun input ↦ ?_
  cases input with
  | none => exact keeps_pure _
  | some input =>
      refine (keeps_read _).bind fun current ↦ Keeps.ite (keeps_pure _) ?_
      refine Keeps.bind (remains_write fun s ↦ ⟨rfl, rfl, rfl, rfl, rfl, rfl⟩) fun _ ↦ ?_
      exact remains_quiesce.bind fun _ ↦ (keeps_read _).bind fun status ↦ keeps_pure _

/-! ### The run -/

theorem Remains.discard {p : Program α} (h : Remains k at_ p) : Remains k at_ (discard p) :=
  h.bind fun _ ↦ keeps_pure ()

theorem starts_spec {p : Program Unit} (h : Starts ports k s p) :
    s.Fresh k ∧ Remains k {} p := by
  cases h with
  | envelope hk envelope => exact ⟨hk, remains_tracked rfl (remains_handleEnvelope rfl envelope)⟩
  | updateNotification hk => exact ⟨hk, remains_handleUpdateNotification.discard⟩
  | reminder hk preflightOnly =>
      exact ⟨hk, (remains_tracked rfl (remains_handleReminder rfl preflightOnly)).discard⟩
  | jobDeliveryConfirmation hk =>
      refine ⟨hk, (remains_tracked rfl (remains_scheduledInternal (remains_call _) ?_)).discard⟩
      exact fun input ↦ prompt_deferring rfl (remains_confirmJobDelivery rfl rfl input)
  | jobSessionSettlement hk =>
      refine ⟨hk, (remains_tracked rfl (remains_scheduledInternal (remains_call _) ?_)).discard⟩
      exact fun input ↦ prompt_settleJobSession rfl input
  | scheduleAccessConfirmation hk =>
      refine ⟨hk, (remains_tracked rfl (remains_scheduledInternal (remains_call _) ?_)).discard⟩
      exact fun input ↦ Keeps.prompt (remains_confirmScheduleAccess input)
  | jobProgress hk => exact ⟨hk, remains_handleJobProgress.discard⟩
  | jobProgressDrain hk => exact ⟨hk, remains_handleJobProgressDrain.discard⟩
  | quiesceRequest hk => exact ⟨hk, remains_handleQuiesce.discard⟩
  | stop hk => exact ⟨hk, remains_quiesce⟩

theorem sound_initial : Sound {} where
  counted k w h := by simp at h
  crossed q h := by simp at h
  early _ := rfl
  late q h := by simp at h

theorem Happens.sameWork (h : Happens s t) : SameWork s t := by
  cases h
  exact ⟨rfl, rfl, rfl, rfl, rfl, rfl⟩

theorem obeys : Pool.Obeys (surroundings ports) discipline where
  initial h := by
    rw [h]
    exact sound_initial
  perform h := h
  programs {i p s} h _ := by
    obtain ⟨hfresh, hremains⟩ := starts_spec h
    exact wp_mono (fun _ _ _ ↦ trivial) (fun _ _ _ ↦ trivial) (hremains s hfresh.stands)
  inv_kill h := h.elim
  rely_kill _ h := h.elim
  inv_environment h hs := h.sameWork.sound hs
  rely_environment h _ := h.sameWork.spares _

/-- **The drain status is sound** when no update notification is past its look at the stopping
flag at the moment the flag is set: an adapter that reports `drained` has nothing under way, and
behind the flag only the requests which it crossed begin a write. Without such requests nothing
but acknowledgements is begun behind the flag. -/
theorem drained_adapter_is_idle {P : Pool Adapter Call.Reply Failure ℕ}
    (h : (adapter ports).Reachable P) {q : Crossing} (hq : P.shared.quiesced = some q)
    (hupdates : q.updates = ∅) :
    (P.shared.drainStatus.drained = true → ∀ k, P.shared.writing k = none) ∧
      (∀ e ∈ P.shared.late, e.2 = .ack ∨ e.1 ∈ q.deferred) ∧
      (q.deferred = ∅ → ∀ e ∈ P.shared.late, e.2 = .ack) := by
  have hsound : Sound P.shared := Pool.inv_of_reachable obeys h
  have hlate : ∀ e ∈ P.shared.late, e.2 = .ack ∨ e.1 ∈ q.deferred := by
    intro e he
    rcases hsound.late q hq e he with hack | hupdate | hdeferred
    · exact Or.inl hack
    · simp [hupdates] at hupdate
    · exact Or.inr hdeferred
  refine ⟨fun hdrained k ↦ ?_, hlate, fun hdeferred e he ↦ ?_⟩
  · have hinFlight : P.shared.inFlight = ∅ := by
      simp only [Adapter.drainStatus, Bool.and_eq_true, decide_eq_true_eq,
        Finset.card_eq_zero] at hdrained
      exact hdrained.2
    have hnone : P.shared.updates = ∅ :=
      Finset.subset_empty.mp (hupdates ▸ (hsound.crossed q hq).1)
    by_contra hwriting
    obtain ⟨w, hw⟩ := Option.ne_none_iff_exists'.mp hwriting
    simpa [hinFlight, hnone] using hsound.counted k w hw
  · rcases hlate e he with hack | hcrossed
    · exact hack
    · simp [hdeferred] at hcrossed

/-! ### Two runs -/

def samplePorts : Ports where
  updateInternalTokenPath := true
  updateNotifications := true
  reminders := true
  jobProgress := true
  registry workspaceId := if workspaceId = "T1" then some ⟨"T1", some "B1", some "U1"⟩ else none

def sampleNotification : UpdateNotification.UpdateNotificationRequest where
  notificationId := "update:upd_00000000000000000000000000:terminal:1"
  requestId := "upd_00000000000000000000000000"
  terminalFence := 1
  terminalStatus := .succeeded
  workspaceId := "T1"
  channelId := "C1"
  threadTs := "1700000000.000100"
  text := "done"
  desiredSessionStatus := .suspended

/-- Every await succeeds. -/
def answer : (c : Call) → Adapter → Option (c.Reply × Adapter)
  | .authorized, s => some (true, s)
  | .readUpdateNotification, s => some (.ok sampleNotification, s)
  | .readQuiesce, s =>
      some (some ⟨"upd_00000000000000000000000001", "aaaaaaaaaaaaaaaaaaaaaaaaaaaaaaaaaaaaaaaa"⟩, s)
  | .existingMessage, s => some (.ok none, s)
  | .postEvent _, s => some (.ok 202, s)
  | .ack, s => some (.ok (), s)
  | _, _ => none

theorem answer_performs (c : Call) (s : Adapter) (r : c.Reply) (t : Adapter)
    (h : answer c s = some (r, t)) : Performs c s r t := by
  cases c <;> simp only [answer] at h <;> try contradiction
  all_goals obtain ⟨rfl, rfl⟩ := Prod.mk.inj (Option.some.inj h)
  all_goals exact .replies s _ _ fun promises hc ↦ by contradiction

abbrev AdapterMove := Pool.Move Adapter Call.Reply Failure ℕ

instance (s : Adapter) (k : ℕ) : Decidable (s.Fresh k) :=
  decidable_of_iff (s.writing k = none ∧ k ∉ s.inFlight ∧ k ∉ s.updates ∧ k ∉ s.deferred)
    ⟨fun ⟨hw, hi, hu, hd⟩ ↦ ⟨hw, hi, hu, hd⟩, fun ⟨hw, hi, hu, hd⟩ ↦ ⟨hw, hi, hu, hd⟩⟩

/-- A new request starts. -/
def starts (k : ℕ) (p : Program Unit) : AdapterMove :=
  .start k fun s ↦ if s.Fresh k then some p else none

/-- A request is answered and goes on. -/
def goesOn (k : ℕ) : List AdapterMove := [.perform k answer, .resume k]

theorem starts_lawful {p : Program Unit} (h : ∀ s, s.Fresh k → Starts samplePorts k s p) :
    (starts k p).Lawful (surroundings samplePorts) := by
  intro s p' hp
  by_cases hfresh : s.Fresh k
  · obtain rfl := Option.some.inj ((if_pos hfresh).symm.trans hp)
    exact h s hfresh
  · exact absurd ((if_neg hfresh).symm.trans hp) (by simp)

theorem goesOn_lawful (k : ℕ) :
    ∀ move ∈ goesOn k, move.Lawful (surroundings samplePorts) := by
  simp only [goesOn, List.forall_mem_cons]
  exact ⟨answer_performs, trivial, by simp⟩

/-- The flag is set while an event is posted to the Dispatcher. -/
def crossedEvent : List AdapterMove :=
  starts 0 (tracked 0 (handleEnvelope 0 ⟨"events_api", .ok (some "event")⟩)) ::
    starts 1 quiesce :: goesOn 0 ++ goesOn 0

theorem drained_adapter_is_idle_acknowledged :
    ∃ P q, (adapter samplePorts).Reachable P ∧ P.shared.quiesced = some q ∧ q.updates = ∅ ∧
      q.deferred = ∅ ∧ P.shared.late = [(0, .ack)] ∧ P.shared.drainStatus.drained = true ∧
      (∀ k, P.shared.writing k = none) ∧ ∀ e ∈ P.shared.late, e.2 = .ack := by
  have hlawful : ∀ move ∈ crossedEvent, move.Lawful (surroundings samplePorts) := by
    simp only [crossedEvent, List.forall_mem_append, List.forall_mem_cons]
    exact ⟨⟨starts_lawful fun s hs ↦ .envelope hs _, starts_lawful fun s hs ↦ .stop hs,
      goesOn_lawful 0⟩, goesOn_lawful 0⟩
  obtain ⟨P, hP, hshown⟩ := Pool.Script.exists_reachable
    (c := (some ⟨∅, ∅⟩, [(0, Write.ack)], true))
    (f := fun P ↦ (P.shared.quiesced, P.shared.late, P.shared.drainStatus.drained))
    hlawful rfl (by decide +kernel)
  simp only [Prod.mk.injEq] at hshown
  obtain ⟨hquiesced, hlate, hdrained⟩ := hshown
  obtain ⟨hidle, -, hacks⟩ := drained_adapter_is_idle hP hquiesced rfl
  exact ⟨P, _, hP, hquiesced, rfl, rfl, hlate, hdrained, hidle hdrained, hacks rfl⟩

/-- The flag is set while an update notification reads its body. -/
def crossedNotification : List AdapterMove :=
  starts 0 (discard (handleUpdateNotification samplePorts 0)) :: goesOn 0 ++
    starts 1 (discard handleQuiesce) :: goesOn 1 ++ goesOn 0 ++ goesOn 0

/-- The adapter reports `drained` and posts to Slack. -/
theorem drained_adapter_posts :
    ¬∀ (ports : Ports) (P : Pool Adapter Call.Reply Failure ℕ), (adapter ports).Reachable P →
      (P.shared.drainStatus.drained = true → ∀ k, P.shared.writing k = none) ∧
        ∀ e ∈ P.shared.late, e.2 = .ack := by
  have hlawful : ∀ move ∈ crossedNotification, move.Lawful (surroundings samplePorts) := by
    simp only [crossedNotification, List.forall_mem_append, List.forall_mem_cons]
    exact ⟨⟨⟨⟨starts_lawful fun s hs ↦ .updateNotification hs, goesOn_lawful 0⟩,
      starts_lawful fun s hs ↦ .quiesceRequest hs, goesOn_lawful 1⟩, goesOn_lawful 0⟩,
      goesOn_lawful 0⟩
  obtain ⟨P, hP, hshown⟩ := Pool.Script.exists_reachable (c := (true, some Write.message))
    (f := fun P ↦ (P.shared.drainStatus.drained, P.shared.writing 0)) hlawful rfl
    (by decide +kernel)
  simp only [Prod.mk.injEq] at hshown
  obtain ⟨hdrained, hwriting⟩ := hshown
  intro h
  have hidle := (h samplePorts P hP).1 hdrained 0
  rw [hwriting] at hidle
  contradiction

end Dona.SlackAdapter
