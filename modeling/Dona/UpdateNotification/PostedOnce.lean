import Dona.UpdateNotification.Worker

/-!
# A notification is posted at most once

The worker and any number of overlapping deliveries in the adapter, with timeouts, retries and
crashes on both sides. The notification stands at most once in its thread as long as every
delivery attempt begins when nothing of an earlier one is left; an attempt that begins while an
earlier delivery is still under way can post the notification again.
-/

namespace Dona.UpdateNotification

open Coroutine

variable (S : Setting)

/-! ### The system -/

/-- The worker may start at any time, a delivery when its request has arrived. -/
inductive Starts : Process → World → Program Unit → Prop
  | worker (w : World) (rounds : ℕ) : Starts .worker w (worker S rounds)
  | handler (w : World) {request : ℕ} (fuel : ℕ) (hrequest : request ∈ w.requests) :
      Starts (.handler request) w (handle S request fuel)

/-- A crash: the adapter forgets the request, the worker keeps what it stored. -/
def World.kill : Process → World → World
  | .worker, w => w
  | .handler request, w => { w with handling := w.handling.erase request }

/-- Nothing was sent and the notification is not in the thread. -/
structure World.Initial (w : World) : Prop where
  row : w.row = none
  requests : w.requests = []
  handling : w.handling = []
  responses : w.responses = []
  posts : w.posts = 0
  attempts : w.attempts = []
  notices : w.notices S = 0

def surroundings : Pool.Surroundings World Call.Reply DeliveryError Process where
  initial := World.Initial S
  perform := Performs S
  programs := Starts S
  kill i s t := t = s.kill i
  environment := Happens S

def deliveries : TransitionSystem (Pool World Call.Reply DeliveryError Process) (Pool.Event Process) :=
  Pool.system (surroundings S)

/-! ### The invariant -/

/-- Every attempt so far began when nothing of an earlier one was left. -/
def World.Punctual (w : World) : Prop := ∀ attempt ∈ w.attempts, attempt.Quiet

def World.Idle (w : World) : Prop := w.requests = [] ∧ w.handling = [] ∧ w.posts = 0

/-- At most one delivery is on its way or under way, and it is the only one to post. -/
structure World.OneDelivery (w : World) : Prop where
  single : w.requests.length + w.handling.length ≤ 1
  posted : w.notices S + w.posts ≤ 1
  unposted : w.requests ≠ [] → w.posts = 0

/-- The others do not post while a request is handled. -/
def KeepsThread (request : ℕ) (s t : World) : Prop :=
  request ∈ s.handling → request ∈ t.handling ∧
    (t.Punctual → s.Punctual ∧ (s.posts = 0 → t.posts = 0 ∧
      ∃ new, t.thread = s.thread ++ new ∧ new.countP (isNotice S) = 0))

/-- The others send no request and begin no attempt. -/
def KeepsIdle (s t : World) : Prop := t.attempts = s.attempts ∧ (s.Idle → t.Idle)

def rely : Process → World → World → Prop
  | .worker => KeepsIdle
  | .handler request => KeepsThread S request

theorem KeepsThread.refl (request : ℕ) (s : World) : KeepsThread S request s s :=
  fun h ↦ ⟨h, fun hs ↦ ⟨hs, fun hposts ↦ ⟨hposts, [], by simp, rfl⟩⟩⟩

variable {S}

theorem KeepsThread.trans {request : ℕ} {s t u : World} (h : KeepsThread S request s t)
    (h' : KeepsThread S request t u) : KeepsThread S request s u := by
  intro hs
  obtain ⟨ht, hst⟩ := h hs
  obtain ⟨hu, htu⟩ := h' ht
  refine ⟨hu, fun hpunctual ↦ ?_⟩
  obtain ⟨htpunctual, htu⟩ := htu hpunctual
  obtain ⟨hspunctual, hst⟩ := hst htpunctual
  refine ⟨hspunctual, fun hposts ↦ ?_⟩
  obtain ⟨htposts, new, hnew, hnotices⟩ := hst hposts
  obtain ⟨huposts, new', hnew', hnotices'⟩ := htu htposts
  refine ⟨huposts, new ++ new', ?_, ?_⟩
  · rw [hnew', hnew, List.append_assoc]
  · rw [List.countP_append, hnotices, hnotices']

theorem KeepsIdle.trans {s t u : World} (h : KeepsIdle s t) (h' : KeepsIdle t u) : KeepsIdle s u :=
  ⟨h'.1.trans h.1, h'.2 ∘ h.2⟩

variable (S)

def discipline : Interference World Call.Reply Process :=
  .ofRely (Performs S) (fun w ↦ w.Punctual → w.OneDelivery S) (rely S)
    (fun i s ↦ match i with
      | .worker => ⟨rfl, id⟩
      | .handler request => KeepsThread.refl S request s)
    (fun {i} _ _ _ h h' ↦ match i with
      | .worker => KeepsIdle.trans h h'
      | .handler _ => KeepsThread.trans h h')

variable {S} {s t : World} {i : Process} {request : ℕ}

/-- A step that changes nothing of the traffic between the processes and Slack. -/
def SameTraffic (s t : World) : Prop :=
  t.requests = s.requests ∧ t.handling = s.handling ∧ t.posts = s.posts ∧ t.thread = s.thread ∧
    t.attempts = s.attempts

theorem SameTraffic.refl (s : World) : SameTraffic s s := ⟨rfl, rfl, rfl, rfl, rfl⟩

theorem SameTraffic.punctual (h : SameTraffic s t) : t.Punctual ↔ s.Punctual := by
  rw [World.Punctual, World.Punctual, h.2.2.2.2]

theorem SameTraffic.oneDelivery (h : SameTraffic s t) (hs : s.OneDelivery S) : t.OneDelivery S := by
  obtain ⟨hrequests, hhandling, hposts, hthread, -⟩ := h
  refine ⟨?_, ?_, ?_⟩
  · rw [hrequests, hhandling]
    exact hs.single
  · rw [World.notices, hthread, hposts]
    exact hs.posted
  · rw [hrequests, hposts]
    exact hs.unposted

theorem SameTraffic.rely (h : SameTraffic s t) (i : Process) : rely S i s t := by
  have hpunctual := h.punctual
  obtain ⟨hrequests, hhandling, hposts, hthread, hattempts⟩ := h
  cases i with
  | worker =>
      refine ⟨hattempts, fun hidle ↦ ?_⟩
      rwa [World.Idle, hrequests, hhandling, hposts]
  | handler request =>
      intro hs
      refine ⟨hhandling ▸ hs, fun ht ↦ ⟨hpunctual.mp ht, fun h ↦ ⟨hposts.trans h, [], ?_, rfl⟩⟩⟩
      rw [hthread, List.append_nil]

theorem SameTraffic.guarantee (h : SameTraffic s t) : (discipline S).guarantee i s t := by
  intro hinv
  exact ⟨fun ht ↦ h.oneDelivery (hinv (h.punctual.mp ht)), fun j _ ↦ h.rely j⟩

/-- While a request is handled, no other one is, and none is on its way. -/
theorem World.OneDelivery.eq_of_mem {w : World} (h : w.OneDelivery S) {j k : ℕ}
    (hj : j ∈ w.handling) (hk : k ∈ w.handling ∨ k ∈ w.requests) : k = j ∧ w.requests = [] := by
  have hsingle := h.single
  have hpos := List.length_pos_of_mem hj
  have hrequests : w.requests = [] := List.length_eq_zero_iff.mp (by omega)
  have hlength : w.handling.length = 1 := by omega
  obtain ⟨l, hl⟩ := List.length_eq_one_iff.mp hlength
  rw [hl, List.mem_singleton] at hj
  rcases hk with hk | hk
  · rw [hl, List.mem_singleton] at hk
    exact ⟨hk.trans hj.symm, hrequests⟩
  · rw [hrequests] at hk
    contradiction

/-! ### The adapter -/

/-- The request is handled; under `A` no post is under way, and the first `n` messages of the
thread do not hold the notification. -/
def Unseen (S : Setting) (A : Prop) (request n : ℕ) (w : World) : Prop :=
  request ∈ w.handling ∧
    (A → w.Punctual → w.posts = 0 ∧ (w.thread.take n).countP (isNotice S) = 0)

/-- The same of the whole thread. -/
def Unposted (S : Setting) (A : Prop) (request : ℕ) (w : World) : Prop :=
  request ∈ w.handling ∧ (A → w.Punctual → w.posts = 0 ∧ w.notices S = 0)

variable {A B : Prop} {n : ℕ}

theorem Unseen.stable (h : Unseen S A request n s) (hst : KeepsThread S request s t) :
    Unseen S A request n t := by
  obtain ⟨ht, hst⟩ := hst h.1
  refine ⟨ht, fun hA hpunctual ↦ ?_⟩
  obtain ⟨hspunctual, hst⟩ := hst hpunctual
  obtain ⟨hposts, hnone⟩ := h.2 hA hspunctual
  obtain ⟨htposts, new, hnew, hnotices⟩ := hst hposts
  refine ⟨htposts, ?_⟩
  have hsub : (new.take (n - s.thread.length)).countP (isNotice S) ≤ new.countP (isNotice S) :=
    (List.take_sublist _ _).countP_le
  rw [hnew, List.take_append, List.countP_append, hnone]
  omega

theorem Unposted.stable (h : Unposted S A request s) (hst : KeepsThread S request s t) :
    Unposted S A request t := by
  obtain ⟨ht, hst⟩ := hst h.1
  refine ⟨ht, fun hA hpunctual ↦ ?_⟩
  obtain ⟨hspunctual, hst⟩ := hst hpunctual
  obtain ⟨hposts, hnone⟩ := h.2 hA hspunctual
  obtain ⟨htposts, new, hnew, hnotices⟩ := hst hposts
  refine ⟨htposts, ?_⟩
  have hs : s.thread.countP (isNotice S) = 0 := hnone
  rw [World.notices, hnew, List.countP_append, hs, hnotices]

theorem Unseen.weaken (h : Unseen S A request n s) (hBA : B → A) : Unseen S B request n s :=
  ⟨h.1, fun hB ↦ h.2 (hBA hB)⟩

theorem stable_handling (h : request ∈ s.handling) (hst : KeepsThread S request s t) :
    request ∈ t.handling := (hst h).1

/-- An await which leaves the traffic alone keeps what the others do not break. -/
theorem wp_call_idle {c : Call} {J : World → Prop} {Q : c.Reply → World → Prop}
    {E : DeliveryError → World → Prop} (hidle : ∀ {s r t}, Performs S c s r t → t = s)
    (hJ : ∀ {s t}, J s → KeepsThread S request s t → J t) (hs : J s)
    (hQ : ∀ r s, J s → Q r s) : wp (discipline S) (.handler request) (call c) Q E s := by
  rw [wp_call]
  intro s₁ hs₁ _ r s₂ hs₂
  obtain rfl := hidle hs₂
  refine ⟨(SameTraffic.refl s₂).guarantee, fun s₃ hs₃ _ ↦ hQ r s₃ ?_⟩
  exact hJ (hJ hs hs₁) hs₃

/-- A page without the identity block leaves nothing of the notification behind the cursor. -/
theorem Unseen.page {cursor : Option ℕ} {size : ℕ}
    (h : Unseen S A request (cursor.getD 0) s)
    (hpage : ((s.thread.drop (cursor.getD 0)).take size).filter
      (·.blockIds.contains (identityBlockId S.input)) = []) :
    Unseen S A request (cursor.getD 0 + size) s := by
  refine ⟨h.1, fun hA hpunctual ↦ ?_⟩
  obtain ⟨hposts, hnone⟩ := h.2 hA hpunctual
  refine ⟨hposts, ?_⟩
  rw [List.take_add, List.countP_append, hnone, Nat.zero_add, List.countP_eq_zero]
  intro message hmessage hnotice
  have hblock : message.blockIds.contains (identityBlockId S.input) = true := by
    rw [isNotice, Bool.and_eq_true] at hnotice
    exact hnotice.1
  have hmem : message ∈ ((s.thread.drop (cursor.getD 0)).take size).filter
      (·.blockIds.contains (identityBlockId S.input)) := List.mem_filter.mpr ⟨hmessage, hblock⟩
  rw [hpage] at hmem
  contradiction

/-- A page that is the last one is all there is. -/
theorem Unseen.unposted (h : Unseen S A request n s) (hn : s.thread.length ≤ n) :
    Unposted S A request s := by
  refine ⟨h.1, fun hA hpunctual ↦ ?_⟩
  obtain ⟨hposts, hnone⟩ := h.2 hA hpunctual
  rw [List.take_of_length_le hn] at hnone
  exact ⟨hposts, hnone⟩

/-- The scan finds the notification wherever it stands, or it is not in the thread. -/
theorem scanPage_spec (connection : SlackConnection) (scan : Scan)
    (hs : Unseen S (A ∧ scan.found = none) request (scan.cursor.getD 0) s) :
    wp (discipline S) (.handler request) (scanPage S connection scan)
      (fun r t ↦ r.elim
        (fun scan ↦ Unseen S (A ∧ scan.found = none) request (scan.cursor.getD 0) t)
        (fun found ↦ Unposted S (A ∧ found = none) request t))
      (fun _ t ↦ request ∈ t.handling) s := by
  rw [scanPage, wp_bind, wp_call]
  intro s₁ hs₁ _ r s₂ hs₂
  cases hs₂ with
  | getThreadFails _ _ _ error =>
      refine ⟨(SameTraffic.refl s₁).guarantee, fun s₃ hs₃ _ ↦ ?_⟩
      exact stable_handling (stable_handling hs.1 hs₁) hs₃
  | @getThread _ _ size _ hasMore hsize =>
      refine ⟨(SameTraffic.refl s₁).guarantee, fun s₃ hs₃ _ ↦ ?_⟩
      have hseen := hs.stable hs₁
      have hhandling : request ∈ s₃.handling := stable_handling hseen.1 hs₃
      rw [wp_bind, settled, wp_pure]
      -- what the page shows of the notification
      have hnext : ∀ found, (((page s₁.thread scan.cursor size hasMore).messages.filter
            (·.blockIds.contains (identityBlockId S.input))).head?.map (·.ts)).or scan.found = found →
          Unseen S (A ∧ found = none) request (scan.cursor.getD 0 + size) s₁ := by
        rintro found rfl
        refine ⟨hseen.1, fun ⟨hA, hnone⟩ ↦ ?_⟩
        obtain ⟨hhead, hfound⟩ := Option.or_eq_none_iff.mp hnone
        rw [Option.map_eq_none_iff, List.head?_eq_none_iff] at hhead
        exact (hseen.page hhead).2 ⟨hA, hfound⟩
      simp only [wp_ite, wp_throw]
      split_ifs
      · exact hhandling
      · exact hhandling
      · exact hhandling
      · split
        · rename_i hcursor
          have hlast : s₁.thread.length ≤ scan.cursor.getD 0 + size := by
            by_contra hlt
            simp [page, not_le.mp hlt] at hcursor
          exact ((hnext _ rfl).unposted hlast).stable hs₃
        · rename_i cursor hcursor
          have hcursor : cursor = scan.cursor.getD 0 + size := by
            simp only [page] at hcursor
            split_ifs at hcursor
            exact (Option.some.inj hcursor).symm
          rw [wp_ite]
          split_ifs
          · exact hhandling
          · subst hcursor
            exact (hnext _ rfl).stable hs₃

theorem never_spec {α : Type} {Q : α → World → Prop} {E : DeliveryError → World → Prop} :
    wp (discipline S) i never Q E s := by
  rw [never, wp_bind, wp_call]
  intro s₁ _ _ r
  exact r.elim

theorem existingMessage_spec (fuel : ℕ) (connection : SlackConnection)
    (hs : Unseen S A request 0 s) :
    wp (discipline S) (.handler request) (existingMessage S fuel connection)
      (fun found t ↦ Unposted S (A ∧ found = none) request t)
      (fun _ t ↦ request ∈ t.handling) s := by
  rw [existingMessage, wp_ite]
  split_ifs
  · exact hs.1
  · refine wp_iterate (fun _ _ _ ↦ never_spec) (fun scan s hscan ↦ scanPage_spec connection scan hscan)
      fuel {} ?_
    exact hs.weaken And.left

/-- A scan after which nothing is posted. -/
theorem existingMessage_handling (fuel : ℕ) (connection : SlackConnection)
    {Q : Option String → World → Prop} {E : DeliveryError → World → Prop}
    (hQ : ∀ found t, request ∈ t.handling → Q found t) (hE : ∀ e t, request ∈ t.handling → E e t)
    (hs : request ∈ s.handling) :
    wp (discipline S) (.handler request) (existingMessage S fuel connection) Q E s := by
  have hunseen : Unseen S False request 0 s := ⟨hs, False.elim⟩
  exact wp_mono (fun found t ht ↦ hQ found t ht.1) (fun e t ht ↦ hE e t ht)
    (existingMessage_spec fuel connection hunseen)

/-- The request that is handled may change the thread: nobody else is about to post. -/
theorem guarantee_of_unposted (hs : Unposted S True request s) (hrequests : t.requests = s.requests)
    (hhandling : t.handling = s.handling) (hattempts : t.attempts = s.attempts)
    (hposted : s.notices S = 0 → s.posts = 0 → t.notices S + t.posts ≤ 1) :
    (discipline S).guarantee (.handler request) s t := by
  intro hinv
  have hpunctual : t.Punctual ↔ s.Punctual := by rw [World.Punctual, World.Punctual, hattempts]
  refine ⟨fun ht ↦ ?_, fun j hj ↦ ?_⟩
  · have hone := hinv (hpunctual.mp ht)
    obtain ⟨hposts, hnotices⟩ := hs.2 trivial (hpunctual.mp ht)
    refine ⟨?_, hposted hnotices hposts, fun h ↦ ?_⟩
    · rw [hrequests, hhandling]
      exact hone.single
    · rw [hrequests] at h
      exact absurd (hone.eq_of_mem hs.1 (.inl hs.1)).2 h
  · cases j with
    | worker =>
        refine ⟨hattempts, fun hidle ↦ ?_⟩
        have hmem := hs.1
        rw [hidle.2.1] at hmem
        contradiction
    | handler k =>
        intro hk
        refine ⟨hhandling ▸ hk, fun ht ↦ ?_⟩
        have heq := ((hinv (hpunctual.mp ht)).eq_of_mem hs.1 (.inl hk)).1
        exact absurd (congrArg Process.handler heq.symm) hj

theorem notices_append (ts : String) :
    World.notices S { s with thread := s.thread ++ [noticeMessage S ts] } ≤ s.notices S + 1 := by
  have hone : [noticeMessage S ts].countP (isNotice S) ≤ 1 := List.countP_le_length
  simp only [World.notices, List.countP_append]
  omega

/-- The only post of a delivery. -/
theorem call_postMessage_spec {Q : Except String String → World → Prop}
    {E : DeliveryError → World → Prop} (hs : Unposted S True request s)
    (hQ : ∀ r t, request ∈ t.handling → Q r t) :
    wp (discipline S) (.handler request) (call Call.postMessage) Q E s := by
  rw [wp_call]
  intro s₁ hs₁ _ r s₂ hs₂
  have hunposted := hs.stable hs₁
  have hhandling : request ∈ s₂.handling := by
    cases hs₂ <;> exact hunposted.1
  refine ⟨?_, fun s₃ hs₃ _ ↦ hQ r s₃ (stable_handling hhandling hs₃)⟩
  cases hs₂ with
  | postLands _ ts | postLandsUnseen _ ts =>
      refine guarantee_of_unposted hunposted rfl rfl rfl fun hnotices hposts ↦ ?_
      have := notices_append (S := S) (s := s₁) ts
      change _ + s₁.posts ≤ 1
      omega
  | postOutstanding =>
      refine guarantee_of_unposted hunposted rfl rfl rfl fun hnotices hposts ↦ ?_
      change s₁.notices S + (s₁.posts + 1) ≤ 1
      omega
  | postFails => exact (SameTraffic.refl s₁).guarantee

theorem postMessage_spec (fuel : ℕ) (connection : SlackConnection) (hs : Unposted S True request s) :
    wp (discipline S) (.handler request) (postMessage S fuel connection)
      (fun _ t ↦ request ∈ t.handling) (fun _ t ↦ request ∈ t.handling) s := by
  rw [postMessage, wp_bind]
  refine call_postMessage_spec hs fun r t ht ↦ ?_
  cases r with
  | ok messageTs => exact ht
  | error error =>
      rw [wp_bind, wp_attempt]
      refine existingMessage_handling fuel connection ?_ ?_ ht
      · rintro (_ | messageTs) u hu <;> exact hu
      · rintro (_ | _) u hu <;> exact hu

theorem messageToReport_spec (fuel : ℕ) (connection : SlackConnection)
    (hs : Unseen S True request 0 s) :
    wp (discipline S) (.handler request) (messageToReport S fuel connection)
      (fun _ t ↦ request ∈ t.handling) (fun _ t ↦ request ∈ t.handling) s := by
  rw [messageToReport, wp_bind]
  refine wp_mono ?_ (fun _ _ h ↦ h) (existingMessage_spec fuel connection hs)
  rintro (_ | messageTs) t ht
  · have hunposted : Unposted S True request t := ⟨ht.1, fun _ ↦ ht.2 ⟨trivial, rfl⟩⟩
    rw [wp_bind]
    exact wp_mono (fun _ _ h ↦ h) (fun _ _ h ↦ h) (postMessage_spec fuel connection hunposted)
  · exact ht.1

theorem settleSession_spec {Q : AgentSessionResult → World → Prop}
    {E : DeliveryError → World → Prop} (hs : request ∈ s.handling)
    (hQ : ∀ r t, request ∈ t.handling → Q r t) (hE : ∀ e t, request ∈ t.handling → E e t) :
    wp (discipline S) (.handler request) (settleSession S) Q E s := by
  rw [settleSession, wp_bind]
  refine wp_call_idle (J := fun w ↦ request ∈ w.handling) ?_ stable_handling hs fun r t ht ↦ ?_
  · rintro _ _ _ ⟨⟩
    rfl
  · cases r with
    | error error => exact hE _ t ht
    | ok session =>
        rw [wp_bind, settled, wp_pure, wp_ite]
        split_ifs
        · exact hE _ t ht
        · exact hQ session t ht

theorem deliver_spec (fuel : ℕ) (hs : Unseen S True request 0 s) :
    wp (discipline S) (.handler request) (deliver S fuel)
      (fun _ t ↦ request ∈ t.handling) (fun _ t ↦ request ∈ t.handling) s := by
  rw [deliver]
  split
  · exact hs.1
  · rename_i connection _
    rw [wp_bind]
    refine wp_mono ?_ (fun _ _ h ↦ h) (messageToReport_spec fuel connection hs)
    rintro ⟨messageTs, postStatus⟩ t ht
    rw [wp_bind]
    refine settleSession_spec ht (fun session u hu ↦ ?_) fun _ _ h ↦ h
    simp only [wp_ite]
    split_ifs
    · rw [wp_bind]
      refine existingMessage_handling fuel connection (fun observed v hv ↦ ?_) (fun _ _ h ↦ h) hu
      rw [wp_ite]
      split_ifs
      · exact hv
      · exact hv
    · exact hu

/-- The endpoint, up to the delivery. -/
theorem handleUpdateNotification_spec (fuel : ℕ) (hs : Unseen S True request 0 s) :
    wp (discipline S) (.handler request) (handleUpdateNotification S fuel)
      (fun _ t ↦ request ∈ t.handling) (fun _ _ ↦ False) s := by
  rw [handleUpdateNotification, wp_ite]
  split_ifs
  · exact hs.1
  · rw [wp_bind]
    refine wp_call_idle (J := Unseen S True request 0) ?_ Unseen.stable hs fun valid t ht ↦ ?_
    · rintro _ _ _ ⟨⟩
      rfl
    rw [wp_ite]
    split_ifs
    · exact ht.1
    · rw [wp_bind, wp_read, wp_ite]
      split_ifs
      · exact ht.1
      · rw [wp_bind, wp_attempt, wp_bind]
        refine wp_call_idle (J := Unseen S True request 0) ?_ Unseen.stable ht fun r u hu ↦ ?_
        · rintro _ _ _ ⟨⟩
          rfl
        cases r with
        | error error => exact hu.1
        | ok _ =>
            rw [wp_bind, settled, wp_pure, wp_bind]
            cases parseUpdateNotificationRequest S.input with
            | error error => exact hu.1
            | ok _ =>
                rw [settled, wp_pure]
                exact wp_mono (fun _ _ h ↦ h) (fun _ _ h ↦ h) (deliver_spec fuel hu)

theorem guarantee_accept (hrequest : request ∈ s.requests) :
    (discipline S).guarantee (.handler request) s (s.accept request) := by
  intro hinv
  have hpos := List.length_pos_of_mem hrequest
  refine ⟨fun ht ↦ ?_, fun j _ ↦ ?_⟩
  · have hone := hinv ht
    have hsingle := hone.single
    have hlength : (s.requests.erase request).length = s.requests.length - 1 :=
      List.length_erase_of_mem hrequest
    refine ⟨?_, hone.posted, fun _ ↦ hone.unposted (List.ne_nil_of_mem hrequest)⟩
    simp only [World.accept, hlength, List.length_cons]
    omega
  · cases j with
    | worker =>
        refine ⟨rfl, fun hidle ↦ ?_⟩
        rw [hidle.1] at hrequest
        contradiction
    | handler k =>
        intro hk
        refine ⟨List.mem_cons_of_mem _ hk, fun ht ↦ ?_⟩
        have hempty := ((hinv ht).eq_of_mem hk (.inr hrequest)).2
        rw [hempty] at hrequest
        contradiction

theorem guarantee_respond {response : HttpResponse} (hs : request ∈ s.handling) :
    (discipline S).guarantee (.handler request) s (s.respond request response) := by
  intro hinv
  refine ⟨fun ht ↦ ?_, fun j hj ↦ ?_⟩
  · have hone := hinv ht
    have hlength : (s.handling.erase request).length ≤ s.handling.length :=
      List.erase_sublist.length_le
    refine ⟨?_, hone.posted, hone.unposted⟩
    have := hone.single
    simp only [World.respond]
    omega
  · cases j with
    | worker =>
        refine ⟨rfl, fun hidle ↦ ?_⟩
        rw [hidle.2.1] at hs
        contradiction
    | handler k =>
        intro hk
        have hne : k ≠ request := fun h ↦ hj (congrArg Process.handler h.symm)
        exact ⟨(List.mem_erase_of_ne hne).mpr hk, fun ht ↦ ⟨ht, fun hposts ↦ ⟨hposts, [], by simp [World.respond], rfl⟩⟩⟩

theorem handle_spec (fuel : ℕ) (hrequest : request ∈ s.requests) (hinv : (discipline S).inv s) :
    wp (discipline S) (.handler request) (handle S request fuel) (fun _ _ ↦ True)
      (fun _ _ ↦ True) s := by
  rw [handle, wp_bind, wp_write]
  refine ⟨guarantee_accept hrequest, ?_⟩
  have hunseen : Unseen S True request 0 (s.accept request) := by
    refine ⟨List.mem_cons_self, fun _ hpunctual ↦ ⟨?_, by simp⟩⟩
    exact (hinv hpunctual).unposted (List.ne_nil_of_mem hrequest)
  rw [wp_bind]
  refine wp_mono (fun response t ht ↦ ?_) (fun _ _ h ↦ h.elim)
    (handleUpdateNotification_spec fuel hunseen)
  rw [wp_write]
  exact ⟨guarantee_respond ht, trivial⟩

/-! ### The worker -/

theorem safe_same {f : World → World} (hf : ∀ w, SameTraffic w (f w)) :
    Safe (discipline S) i (write f : Program Unit) :=
  safe_write fun s ↦ (hf s).guarantee

theorem safe_settled {α : Type} (r : Except String α) : Safe (discipline S) i (settled r) := by
  cases r with
  | ok a => exact safe_pure a
  | error message => exact safe_throw _

theorem safe_updateRow {p : NotificationRow → Bool} {f : World → NotificationRow → NotificationRow} :
    Safe (discipline S) i (write fun w ↦ w.updateRow p (f w) : Program Unit) :=
  safe_same fun w ↦ SameTraffic.refl w

theorem safe_publishResult :
    Safe (discipline S) i (call Call.publishResult : Program (Except String Unit)) := by
  refine safe_call fun s r t _ ht ↦ ?_
  cases ht
  exact (SameTraffic.refl s).guarantee

theorem safe_saveDeterministic {done : List EventStatus} {status : EventStatus}
    {code message : Option String} :
    Safe (discipline S) i (transact (·.saveDeterministic done status code message)) := by
  refine safe_transact fun s _ t ht ↦ ?_
  have hsame : SameTraffic s t := by
    simp only [World.saveDeterministic] at ht
    split at ht
    · contradiction
    · split_ifs at ht
      · obtain ⟨-, rfl⟩ := Prod.mk.inj (Except.ok.inj ht)
        exact SameTraffic.refl s
      · obtain ⟨-, rfl⟩ := Prod.mk.inj (Except.ok.inj ht)
        exact SameTraffic.refl s
  exact hsame.guarantee

theorem safe_finalizeReported (row : NotificationRow) (messageTs : String) :
    Safe (discipline S) i (finalizeReported row messageTs) := by
  refine Safe.ite (safe_throw _) ?_
  refine safe_publishResult.bind fun r ↦ (safe_settled r).bind fun _ ↦ ?_
  exact safe_saveDeterministic.bind fun _ ↦ safe_updateRow

theorem safe_finalizePermanent (row : NotificationRow) :
    Safe (discipline S) i (finalizePermanent row) := by
  rw [finalizePermanent]
  split
  · refine safe_publishResult.bind fun r ↦ (safe_settled r).bind fun _ ↦ ?_
    exact safe_saveDeterministic.bind fun _ ↦ safe_updateRow
  · exact safe_throw _

theorem safe_mark {f : World → NotificationRow → NotificationRow} :
    Safe (discipline S) i (transact fun w ↦ w.mark (f w)) := by
  refine safe_transact fun s _ t ht ↦ ?_
  have hsame : SameTraffic s t := by
    simp only [World.mark] at ht
    split at ht
    · split_ifs at ht
      obtain ⟨-, rfl⟩ := Prod.mk.inj (Except.ok.inj ht)
      exact SameTraffic.refl s
    · contradiction
  exact hsame.guarantee

theorem safe_deliverPosted (candidate : NotificationRow) :
    Safe (discipline S) i (deliverPosted candidate) := by
  refine Safe.ite (safe_finalizePermanent candidate) ?_
  split
  · exact safe_finalizeReported _ _
  · exact safe_updateRow

theorem safe_ensureNotification : Safe (discipline S) i (ensureNotification S) := by
  refine (safe_read _).bind fun event ↦ ?_
  split
  · exact safe_pure ()
  · refine Safe.ite ?_ (safe_pure ())
    split
    · refine safe_transact fun s _ t ht ↦ ?_
      have hsame : SameTraffic s t := by
        simp only [World.quarantineUpdateNotification] at ht
        split at ht
        · contradiction
        · split_ifs at ht
          obtain ⟨-, rfl⟩ := Prod.mk.inj (Except.ok.inj ht)
          exact SameTraffic.refl s
      exact hsame.guarantee
    · refine safe_same fun w ↦ ?_
      unfold World.ensure
      split <;> exact SameTraffic.refl w

/-- A step of the worker that a handled request relies on: there is none, or the attempt that
the worker makes is not punctual. -/
theorem guarantee_of_idle (hhandling : t.handling = s.handling)
    (hpunctual : t.Punctual → s.Punctual ∧ s.Idle) (hone : s.OneDelivery S → s.Idle → t.OneDelivery S) :
    (discipline S).guarantee .worker s t := by
  intro hinv
  refine ⟨fun ht ↦ hone (hinv (hpunctual ht).1) (hpunctual ht).2, fun j hj ↦ ?_⟩
  cases j with
  | worker => exact absurd rfl hj
  | handler k =>
      intro hk
      refine ⟨hhandling ▸ hk, fun ht ↦ ?_⟩
      rw [(hpunctual ht).2.2.1] at hk
      contradiction

/-- Before the request is sent, nothing of an earlier attempt is left. -/
def Ready (w : World) : Prop := w.Punctual → w.Idle

theorem Ready.stable (h : Ready s) (hst : KeepsIdle s t) : Ready t := by
  intro ht
  have hs : s.Punctual := by
    rw [World.Punctual, hst.1] at ht
    exact ht
  exact hst.2 (h hs)

theorem beginDelivery_spec {row : NotificationRow} (h : s.beginDelivery = .ok (row, t)) :
    (discipline S).guarantee .worker s t ∧ Ready t := by
  unfold World.beginDelivery at h
  split at h
  · split_ifs at h
    obtain ⟨-, rfl⟩ := Prod.mk.inj (Except.ok.inj h)
    have hsplit : ∀ {w : World}, w.attempts = s.attempts ++ [s.left] → w.Punctual →
        s.Punctual ∧ s.Idle := by
      intro w hw hpunctual
      rw [World.Punctual, hw] at hpunctual
      refine ⟨fun attempt hattempt ↦ ?_, ?_⟩
      · exact hpunctual attempt (List.mem_append_left _ hattempt)
      · exact hpunctual s.left (List.mem_append_right _ (List.mem_singleton_self _))
    refine ⟨guarantee_of_idle rfl (hsplit rfl) fun hone _ ↦ ?_, fun ht ↦ (hsplit rfl ht).2⟩
    exact ⟨hone.single, hone.posted, hone.unposted⟩
  · contradiction

theorem udsRequest_spec (hs : Ready s) :
    wp (discipline S) .worker udsRequest (fun _ _ ↦ True) (fun _ _ ↦ True) s := by
  rw [udsRequest, wp_bind, wp_call]
  intro s₁ hs₁ _ r s₂ hs₂
  have hready := hs.stable hs₁
  cases hs₂ with
  | sendRequestFails _ error =>
      exact ⟨(SameTraffic.refl s₁).guarantee, fun _ _ _ ↦ trivial⟩
  | sendRequest =>
      constructor
      · refine guarantee_of_idle rfl (fun ht ↦ ⟨ht, hready ht⟩) fun hone hidle ↦ ?_
        obtain ⟨hrequests, hhandling, hposts⟩ := hidle
        refine ⟨?_, hone.posted, fun _ ↦ hposts⟩
        simp [hrequests, hhandling]
      · intro s₃ _ _
        rw [wp_bind, settled, wp_pure, wp_bind]
        have hresponse : Safe (discipline S) .worker
            (call (Call.response s₁.nextRequest) : Program (Except String HttpResponse)) := by
          refine safe_call fun w _ _ _ hw ↦ ?_
          cases hw <;> exact (SameTraffic.refl w).guarantee
        exact (hresponse.bind fun r ↦ safe_settled r) s₃

theorem requestDelivery_spec (hs : Ready s) :
    wp (discipline S) .worker (requestDelivery S) (fun _ _ ↦ True) (fun _ _ ↦ True) s := by
  rw [requestDelivery, wp_bind, wp_call]
  intro s₁ hs₁ _ r s₂ hs₂
  cases hs₂
  refine ⟨(SameTraffic.refl s₁).guarantee, fun s₃ hs₃ _ ↦ ?_⟩
  rw [wp_ite]
  split_ifs
  · trivial
  · rw [wp_bind, wp_attempt]
    refine wp_mono (fun _ _ _ ↦ trivial) (fun _ _ _ ↦ trivial) (udsRequest_spec ?_)
    exact (hs.stable hs₁).stable hs₃

theorem safe_deliverPending : Safe (discipline S) .worker (deliverPending S) := by
  intro s
  rw [deliverPending, wp_bind]
  refine wp_transact (fun row t hbegin ↦ ?_) fun _ _ ↦ trivial
  obtain ⟨hguarantee, hready⟩ := beginDelivery_spec hbegin
  refine ⟨hguarantee, ?_⟩
  rw [wp_bind]
  refine wp_mono (fun outcome u _ ↦ ?_) (fun _ _ _ ↦ trivial) (requestDelivery_spec hready)
  cases outcome with
  | retryable code message => exact safe_updateRow u
  | permanent code message receipt => exact (safe_mark.bind fun _ ↦ safe_finalizePermanent _) u
  | reported receipt => exact (safe_mark.bind fun _ ↦ safe_finalizeReported _ _) u

theorem safe_deliverCandidate (candidate : NotificationRow) :
    Safe (discipline S) .worker (deliverCandidate S candidate) := by
  refine (safe_read _).bind fun event ↦ ?_
  split
  · exact safe_updateRow
  · refine Safe.ite safe_updateRow (Safe.ite safe_updateRow ?_)
    exact Safe.ite (safe_deliverPosted candidate) safe_deliverPending

theorem safe_round : Safe (discipline S) .worker (round S) := by
  refine Safe.bind (Safe.attempt ?_) fun outcome ↦ ?_
  · refine safe_ensureNotification.bind fun _ ↦ (safe_read _).bind fun row ↦ ?_
    split
    · exact safe_pure ()
    · exact safe_deliverCandidate _
  · have hwait : Safe (discipline S) .worker (call Call.wait : Program Unit) := by
      refine safe_call fun w _ _ _ hw ↦ ?_
      cases hw
      exact (SameTraffic.refl w).guarantee
    cases outcome with
    | ok _ => exact hwait
    | error error => exact safe_updateRow.bind fun _ ↦ hwait

theorem safe_worker (rounds : ℕ) : Safe (discipline S) .worker (worker S rounds) := by
  refine safe_updateRow.bind fun _ ↦ Safe.iterate (safe_pure ()) (fun _ ↦ ?_) rounds ()
  exact safe_round.bind fun _ ↦ safe_pure _

/-! ### The run -/

/-- What else happens keeps the invariant and disturbs no process. -/
theorem happens_spec (h : Happens S s t) :
    (s.OneDelivery S → t.OneDelivery S) ∧ t.attempts = s.attempts ∧ ∀ j, rely S j s t := by
  cases h with
  | clock now | stopping b | event event =>
      exact ⟨SameTraffic.oneDelivery ⟨rfl, rfl, rfl, rfl, rfl⟩, rfl,
        SameTraffic.rely ⟨rfl, rfl, rfl, rfl, rfl⟩⟩
  | message message hmessage =>
      have hnone : [message].countP (isNotice S) = 0 := by simp [hmessage]
      refine ⟨fun hone ↦ ⟨hone.single, ?_, hone.unposted⟩, rfl, fun j ↦ ?_⟩
      · rw [World.notices, List.countP_append, hnone]
        exact hone.posted
      · cases j with
        | worker => exact ⟨rfl, id⟩
        | handler k => exact fun hk ↦ ⟨hk, fun ht ↦ ⟨ht, fun hposts ↦ ⟨hposts, _, rfl, hnone⟩⟩⟩
  | land ts n hn =>
      have hnever : s.posts ≠ 0 := by omega
      refine ⟨fun hone ↦ ⟨hone.single, ?_, fun h ↦ absurd (hone.unposted h) hnever⟩, rfl, fun j ↦ ?_⟩
      · have := notices_append (S := S) (s := s) ts
        have := hone.posted
        change World.notices S { s with thread := s.thread ++ [noticeMessage S ts] } + n ≤ 1
        omega
      · cases j with
        | worker => exact ⟨rfl, fun hidle ↦ absurd hidle.2.2 hnever⟩
        | handler k => exact fun hk ↦ ⟨hk, fun ht ↦ ⟨ht, fun hposts ↦ absurd hposts hnever⟩⟩
  | lose n hn =>
      have hnever : s.posts ≠ 0 := by omega
      refine ⟨fun hone ↦ ⟨hone.single, ?_, fun h ↦ absurd (hone.unposted h) hnever⟩, rfl, fun j ↦ ?_⟩
      · have := hone.posted
        change s.notices S + n ≤ 1
        omega
      · cases j with
        | worker => exact ⟨rfl, fun hidle ↦ absurd hidle.2.2 hnever⟩
        | handler k => exact fun hk ↦ ⟨hk, fun ht ↦ ⟨ht, fun hposts ↦ absurd hposts hnever⟩⟩
  | drop k =>
      have hsub : s.requests.erase k ⊆ s.requests := List.erase_subset
      refine ⟨fun hone ↦ ⟨?_, hone.posted, fun h ↦ hone.unposted ?_⟩, rfl, fun j ↦ ?_⟩
      · have := hone.single
        have : (s.requests.erase k).length ≤ s.requests.length := List.erase_sublist.length_le
        change (s.requests.erase k).length + s.handling.length ≤ 1
        omega
      · rintro hnil
        exact h (List.eq_nil_iff_forall_not_mem.mpr fun m hm ↦ by simpa [hnil] using hsub hm)
      · cases j with
        | worker =>
            refine ⟨rfl, fun ⟨hrequests, hhandling, hposts⟩ ↦ ⟨?_, hhandling, hposts⟩⟩
            exact List.eq_nil_iff_forall_not_mem.mpr fun m hm ↦ by simpa [hrequests] using hsub hm
        | handler k => exact fun hk ↦ ⟨hk, fun ht ↦ ⟨ht, fun hposts ↦ ⟨hposts, [], by simp, rfl⟩⟩⟩

theorem kill_spec (i : Process) :
    (s.OneDelivery S → (s.kill i).OneDelivery S) ∧ (s.kill i).attempts = s.attempts ∧
      ∀ j, i ≠ j → rely S j s (s.kill i) := by
  cases i with
  | worker => exact ⟨id, rfl, fun j _ ↦ (SameTraffic.refl s).rely j⟩
  | handler request =>
      refine ⟨fun hone ↦ ⟨?_, hone.posted, hone.unposted⟩, rfl, fun j hj ↦ ?_⟩
      · have := hone.single
        have : (s.handling.erase request).length ≤ s.handling.length :=
          List.erase_sublist.length_le
        change s.requests.length + (s.handling.erase request).length ≤ 1
        omega
      · cases j with
        | worker =>
            refine ⟨rfl, fun ⟨hrequests, hhandling, hposts⟩ ↦ ⟨hrequests, ?_, hposts⟩⟩
            simp [World.kill, hhandling]
        | handler k =>
            intro hk
            have hne : k ≠ request := fun h ↦ hj (congrArg Process.handler h.symm)
            refine ⟨(List.mem_erase_of_ne hne).mpr hk, fun ht ↦ ⟨ht, fun hposts ↦ ?_⟩⟩
            exact ⟨hposts, [], by simp [World.kill], rfl⟩

theorem obeys : Pool.Obeys (surroundings S) (discipline S) where
  initial {s} hs _ := by
    refine ⟨?_, ?_, fun h ↦ absurd hs.requests h⟩
    · simp [hs.requests, hs.handling]
    · rw [hs.notices, hs.posts]
      omega
  perform h := h
  programs {i p s} h hinv := by
    cases h with
    | worker _ rounds => exact safe_worker rounds s
    | handler _ fuel hrequest => exact handle_spec fuel hrequest hinv
  inv_kill {i s t} hkill hinv ht := by
    subst hkill
    obtain ⟨hone, hattempts, -⟩ := kill_spec (S := S) (s := s) i
    exact hone (hinv fun attempt h ↦ ht attempt (hattempts ▸ h))
  rely_kill hij hkill _ := by
    subst hkill
    exact (kill_spec _).2.2 _ hij
  inv_environment h hinv ht := by
    obtain ⟨hone, hattempts, -⟩ := happens_spec h
    exact hone (hinv fun attempt h ↦ ht attempt (hattempts ▸ h))
  rely_environment h _ := (happens_spec h).2.2 _

/-- **The notification is posted at most once**, as long as every delivery attempt begins when
nothing of an earlier one is left. -/
theorem notification_posted_at_most_once
    {P : Pool World Call.Reply DeliveryError Process} (h : (deliveries S).Reachable P)
    (hpunctual : ∀ attempt ∈ P.shared.attempts, attempt.Quiet) : P.shared.notices S ≤ 1 := by
  have hinv : P.shared.Punctual → P.shared.OneDelivery S := Pool.inv_of_reachable obeys h
  have hposted := (hinv hpunctual).posted
  omega

/-! ### Two runs -/

def cancelledEnvelope : EventEnvelope where
  externalEventId := "update:upd_00000000000000000000000000:terminal:0"
  type := "update_cancelled"
  occurredAt := .toIso 0
  subjectRequestId := "upd_00000000000000000000000000"
  requestId := "upd_00000000000000000000000000"
  updateStatus := .cancelled
  currentSha := "aaaaaaaaaaaaaaaaaaaaaaaaaaaaaaaaaaaaaaaa"
  targetSha := "bbbbbbbbbbbbbbbbbbbbbbbbbbbbbbbbbbbbbbbb"
  previousSha := none
  planHash := "cccccccccccccccccccccccccccccccccccccccccccccccccccccccccccccccc"
  policyVersion := "1"
  rollbackCompatible := true
  activeSha := none
  error := some ⟨"cancelled_by_operator", some "Cancelled by operator"⟩
  replyTarget := ⟨"T1", "C1", "1700000000.000100"⟩

def cancelledSetting : Setting where
  envelope := cancelledEnvelope
  rendered :=
    { requestId := "upd_00000000000000000000000000"
      terminalFence := 0
      text := "セルフアップデートを中止しました。稼働SHAの確認を伴わない、切替前の中止です。"
      desiredSessionStatus := .active }
  rendered_eq := rfl
  registry workspaceId := if workspaceId = "T1" then some ⟨"T1", some "B1", some "U1"⟩ else none
  configured := true

def queuedWorld : World where
  now := 0
  stopping := false
  event := some ⟨.queued, false, none, none⟩
  row := none
  requests := []
  handling := []
  responses := []
  nextRequest := 0
  posts := 0
  thread := []
  attempts := []

theorem queuedWorld_initial : World.Initial cancelledSetting queuedWorld :=
  ⟨rfl, rfl, rfl, rfl, rfl, rfl, rfl⟩

/-- Every await succeeds, but the Dispatcher waits in vain for an answer. -/
def answer : (c : Call) → World → Option (c.Reply × World)
  | .authorized, w => some (true, w)
  | .readJson, w => some (.ok (), w)
  | .getThread limit cursor, w => some (.ok (page w.thread cursor limit false), w)
  | .postMessage, w =>
      some (.ok "1700000001.000100",
        { w with thread := w.thread ++ [noticeMessage cancelledSetting "1700000001.000100"] })
  | .readPrivateToken, w => some (true, w)
  | .sendRequest, w =>
      some (.ok w.nextRequest,
        { w with requests := w.requests ++ [w.nextRequest], nextRequest := w.nextRequest + 1 })
  | .response _, w => some (.error "Slack Adapter notification request timed out", w)
  | .wait, w => some ((), w)
  | _, _ => none

theorem answer_performs (c : Call) (s : World) (r : c.Reply) (t : World)
    (h : answer c s = some (r, t)) : Performs cancelledSetting c s r t := by
  cases c <;> simp only [answer] at h <;> try contradiction
  all_goals obtain ⟨rfl, rfl⟩ := Prod.mk.inj (Option.some.inj h)
  · exact .authorized s true
  · exact .readJson s _
  · exact .getThread s _ false (Nat.le_refl _)
  · exact .postLands s _
  · exact .readPrivateToken s true
  · exact .sendRequest s
  · exact .responseFails s _ _
  · exact .wait s

abbrev DeliveryMove := Pool.Move World Call.Reply DeliveryError Process

def startWorker : DeliveryMove := .start .worker fun _ ↦ some (worker cancelledSetting 2)

def startHandler (request : ℕ) : DeliveryMove :=
  .start (.handler request) fun w ↦
    if request ∈ w.requests then some (handle cancelledSetting request 1) else none

/-- A process is answered and goes on. -/
def goesOn (i : Process) : List DeliveryMove := [.perform i answer, .resume i]

def clockMoves (now : Int) : DeliveryMove := .environment fun w ↦ some { w with now := now }

/-- The worker sends a request, and the delivery of it comes to its post. -/
def attemptMoves (request : ℕ) : List DeliveryMove :=
  goesOn .worker ++ goesOn .worker ++ startHandler request :: goesOn (.handler request) ++
    goesOn (.handler request) ++ goesOn (.handler request)

/-- One attempt, up to its post. -/
def deliveredMoves : List DeliveryMove :=
  startWorker :: attemptMoves 0 ++ [.perform (.handler 0) answer]

/-- The request times out while its delivery is about to post; the next attempt finds no post. -/
def overlappingMoves : List DeliveryMove :=
  startWorker :: attemptMoves 0 ++ goesOn .worker ++ clockMoves 5000 :: goesOn .worker ++
    attemptMoves 1 ++ [.perform (.handler 0) answer, .perform (.handler 1) answer]

theorem goesOn_lawful (i : Process) :
    ∀ move ∈ goesOn i, move.Lawful (surroundings cancelledSetting) := by
  simp only [goesOn, List.forall_mem_cons]
  exact ⟨answer_performs, trivial, by simp⟩

theorem startHandler_lawful (request : ℕ) :
    (startHandler request).Lawful (surroundings cancelledSetting) := by
  intro w p hp
  by_cases hrequest : request ∈ w.requests
  · obtain rfl := Option.some.inj ((if_pos hrequest).symm.trans hp)
    exact .handler w 1 hrequest
  · exact absurd ((if_neg hrequest).symm.trans hp) (by simp)

theorem startWorker_lawful : startWorker.Lawful (surroundings cancelledSetting) := by
  intro w p hp
  obtain rfl := Option.some.inj hp
  exact .worker w 2

theorem clockMoves_lawful (now : Int) : (clockMoves now).Lawful (surroundings cancelledSetting) := by
  intro s t ht
  obtain rfl := Option.some.inj ht
  exact .clock s now

theorem attemptMoves_lawful (request : ℕ) :
    ∀ move ∈ attemptMoves request, move.Lawful (surroundings cancelledSetting) := by
  simp only [attemptMoves, List.forall_mem_append, List.forall_mem_cons]
  exact ⟨⟨⟨⟨goesOn_lawful _, goesOn_lawful _⟩, startHandler_lawful request, goesOn_lawful _⟩,
    goesOn_lawful _⟩, goesOn_lawful _⟩

/-- The post of one delivery. -/
theorem post_lawful (request : ℕ) : Pool.Move.Lawful (surroundings cancelledSetting)
    (.perform (.handler request) answer : DeliveryMove) := answer_performs

theorem notification_posted_at_most_once_delivered :
    ∃ P, (deliveries cancelledSetting).Reachable P ∧ P.shared.attempts.length = 1 ∧
      P.shared.notices cancelledSetting = 1 ∧ P.shared.notices cancelledSetting ≤ 1 := by
  have hlawful : ∀ move ∈ deliveredMoves, move.Lawful (surroundings cancelledSetting) := by
    simp only [deliveredMoves, List.forall_mem_append, List.forall_mem_cons]
    exact ⟨⟨startWorker_lawful, attemptMoves_lawful 0⟩, post_lawful 0, by simp⟩
  obtain ⟨P, hP, hshown⟩ := Pool.Script.exists_reachable (c := (1, 1, true)) (f := fun P ↦
    (P.shared.attempts.length, P.shared.notices cancelledSetting,
      decide (∀ attempt ∈ P.shared.attempts, attempt.Quiet)))
    hlawful queuedWorld_initial (by decide +kernel)
  simp only [Prod.mk.injEq, decide_eq_true_eq] at hshown
  obtain ⟨hattempts, hnotices, hquiet⟩ := hshown
  exact ⟨P, hP, hattempts, hnotices, notification_posted_at_most_once hP hquiet⟩

/-- A second attempt begins while the first delivery is about to post. -/
theorem notification_posted_twice :
    ¬∀ (S : Setting) (P : Pool World Call.Reply DeliveryError Process),
      (deliveries S).Reachable P → P.shared.notices S ≤ 1 := by
  have hlawful : ∀ move ∈ overlappingMoves, move.Lawful (surroundings cancelledSetting) := by
    simp only [overlappingMoves, List.forall_mem_append, List.forall_mem_cons]
    exact ⟨⟨⟨⟨⟨startWorker_lawful, attemptMoves_lawful 0⟩, goesOn_lawful _⟩, clockMoves_lawful 5000,
      goesOn_lawful _⟩, attemptMoves_lawful 1⟩, post_lawful 0, post_lawful 1, by simp⟩
  obtain ⟨P, hP, htwice⟩ := Pool.Script.exists_reachable (c := 2)
    (f := fun P ↦ P.shared.notices cancelledSetting) hlawful queuedWorld_initial
    (by decide +kernel)
  intro h
  have honce := h cancelledSetting P hP
  omega

end Dona.UpdateNotification
