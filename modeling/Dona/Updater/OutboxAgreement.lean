import Dona.Updater.Outbox

/-!
# Agreement of requests and notifications

A terminal request has one notification, which reports its verdict; the delivery loop sends no
superseded notification, and no notification that the Dispatcher may have accepted is
superseded. The request rows carry the first part and the loop carries the other two. All of
it rests on what one operation does to the rows and to the outbox.
-/

namespace Dona.Updater

open Fallible

/-! ### What completing a request writes to the outbox -/

namespace UpdateDb

variable {db db' : UpdateDb} {id : RequestId} {row : UpdateRow}

/-- The mark which a new notification puts on the pending ones of its request. -/
def supersede (outboxId : OutboxId) (now : Time) (key : OutboxId) (row : OutboxRow) : OutboxRow :=
  if key.1 = outboxId.1 ∧ row.status = .pending ∧ row.supersededByOutboxId = none then
    { row with supersededByOutboxId := some outboxId, updatedAt := now }
  else row

theorem insertOutbox_get? {now : Time} (h : db.insertOutbox id row now = .ok db') (k : OutboxId) :
    db'.outbox.get? k =
      if k = (id, row.fence) then
        some ((db.outbox.get? k).getD
          { payload := updateEvent id row now, status := .pending, createdAt := now, updatedAt := now })
      else (db.outbox.get? k).map (supersede (id, row.fence) now k) := by
  simp only [insertOutbox, throwIf_bind_eq_ok, Except.ok.injEq] at h
  obtain ⟨-, rfl⟩ := h
  rw [Table.get?_updateWhere]
  split_ifs with hk
  · subst hk
    simp only [ne_eq, not_true_eq_false, false_and, and_false, decide_false, Bool.false_eq_true,
      if_false, Option.map_id']
    cases hinsert : db.outbox.insert? (id, row.fence)
        { payload := updateEvent id row now, status := .pending, createdAt := now, updatedAt := now } with
    | none =>
        obtain ⟨old, hold⟩ := Table.exists_of_insert?_eq_none hinsert
        simp [hold]
    | some outbox =>
        simp [Table.get?_insert? hinsert, Table.get?_eq_none_of_insert? hinsert]
  · have hsame : ((db.outbox.insert? (id, row.fence)
        { payload := updateEvent id row now, status := .pending, createdAt := now, updatedAt := now }).getD
          db.outbox).get? k = db.outbox.get? k := by
      cases hinsert : db.outbox.insert? (id, row.fence)
          { payload := updateEvent id row now, status := .pending, createdAt := now, updatedAt := now } with
      | none => rfl
      | some outbox => simp [Table.get?_insert? hinsert, hk]
    rw [hsame]
    cases db.outbox.get? k with
    | none => rfl
    | some o => simp [supersede, hk]

theorem completeInternal_outbox {target : TerminalState} {fields : MutationFields} {now : Time}
    {result : UpdateRow} (hrow : db.requests.get? id = some row)
    (h : db.completeInternal id row target fields now = .ok (result, db')) :
    result.report = fields.report target row ∧
      ∀ k, db'.outbox.get? k =
        if k = (id, result.fence) then
          some ((db.outbox.get? k).getD
            { payload := updateEvent id result now
              status := .pending
              createdAt := now
              updatedAt := now })
        else (db.outbox.get? k).map (supersede (id, result.fence) now k) := by
  simp only [completeInternal, bind_eq_ok, Except.ok.injEq, Prod.mk.injEq,
    getRequired_eq_ok] at h
  obtain ⟨db₁, htransition, completed, hcompleted, db₂, houtbox, rfl, rfl⟩ := h
  obtain ⟨-, old, hold, -, hrewrites, -, hsame⟩ := transitionInternal_spec htransition
  obtain rfl : row = old := Option.some.inj (hrow.symm.trans hold)
  have hresult := hrewrites id
  rw [hcompleted, if_pos rfl, Option.some.injEq] at hresult
  refine ⟨?_, ?_⟩
  · rw [hresult]
    by_cases hsucceeded : target.1 = .succeeded
    · simp [UpdateRow.report, MutationFields.report, movedRow, MutationFields.assign, hsucceeded,
        eventError]
    · simp [UpdateRow.report, MutationFields.report, movedRow, MutationFields.assign, hsucceeded]
  · intro k
    have hget := insertOutbox_get? houtbox k
    rw [← hsame]
    exact hget

/-! ### Notifications agree with their requests -/

/-- Every notification belongs to a completion of its request at a fence that is over, and the
last completion of a terminal request has its notification. -/
structure Reported (db : UpdateDb) : Prop where
  key : ∀ {k o}, db.outbox.get? k = some o → o.payload.externalEventId = k
  owned : ∀ {k o}, db.outbox.get? k = some o → ∃ row, db.requests.get? k.1 = some row ∧
    k.2 ≤ row.fence ∧ (row.state.isTerminal = false → k.2 < row.fence)
  current : ∀ {id row}, db.requests.get? id = some row → row.state.isTerminal = true →
    ∃ o, db.outbox.get? (id, row.fence) = some o ∧ o.supersededByOutboxId = none ∧
      o.payload.report = row.report

theorem reported_fresh : fresh.Reported := by
  constructor
  · intro k o ho
    simp [fresh] at ho
  · intro k o ho
    simp [fresh] at ho
  · intro id row hrow
    simp [fresh] at hrow

theorem Reported.proceeds (h : db.Reported) (hdb : db.Proceeds db') : db'.Reported := by
  constructor
  · intro k o ho
    exact h.key (hdb.outbox ▸ ho)
  · intro k o ho
    obtain ⟨row, hrow, hle, hlt⟩ := h.owned (hdb.outbox ▸ ho)
    obtain ⟨row', hrow'⟩ := hdb.kept hrow
    rcases hdb.rows hrow' with ⟨old, hold, hproceeds⟩ | ⟨hnone, -⟩
    · obtain rfl : row = old := Option.some.inj (hrow.symm.trans hold)
      refine ⟨row', hrow', Nat.le_trans hle hproceeds.fence, fun hopen ↦ ?_⟩
      by_cases hterminal : row.state.isTerminal = true
      · exact Nat.lt_of_le_of_lt hle (hproceeds.reopened hopen hterminal)
      · exact Nat.lt_of_lt_of_le (hlt (by simpa using hterminal)) hproceeds.fence
    · simp [hrow] at hnone
  · intro id row' hrow' hterminal
    rcases hdb.rows hrow' with ⟨row, hrow, hproceeds⟩ | ⟨-, hopen⟩
    · obtain ⟨hterminal, hfence, hreport⟩ := hproceeds.terminal hterminal
      obtain ⟨o, ho, hnone, hagrees⟩ := h.current hrow hterminal
      exact ⟨o, by rw [hdb.outbox, hfence, ho], hnone, hagrees.trans hreport.symm⟩
    · rw [hopen] at hterminal
      contradiction

theorem Reported.completeInternal (h : db.Reported) (hrow : db.requests.get? id = some row)
    {target : TerminalState} {fields : MutationFields} {now : Time} {result : UpdateRow}
    (hok : db.completeInternal id row target fields now = .ok (result, db'))
    (honce : row.state.isTerminal = true → row.state = target.1 →
      fields.report target row = row.report) : db'.Reported := by
  obtain ⟨hmove, hresult, -, hrewrites, -⟩ := completeInternal_spec hok
  obtain ⟨hreport, houtbox⟩ := completeInternal_outbox hrow hok
  have hterminal : result.state.isTerminal = true := by
    rw [hresult.state]
    exact target.2
  -- a request which is terminal already has the notification of this fence
  have hnew : ∃ o, db'.outbox.get? (id, result.fence) = some o ∧ o.supersededByOutboxId = none ∧
      o.payload.report = result.report ∧ o.payload.externalEventId = (id, result.fence) := by
    rw [houtbox, if_pos rfl]
    by_cases hagain : row.state.isTerminal = true
    · obtain ⟨o, ho, hnone, hagrees⟩ := h.current hrow hagain
      have hstate : row.state = target.1 := UpdateState.eq_of_terminal_move hagain target.2 hmove
      rw [hresult.fence, ho]
      exact ⟨o, rfl, hnone, by rw [hagrees, hreport, honce hagain hstate], h.key ho⟩
    · have habsent : db.outbox.get? (id, result.fence) = none := by
        by_contra hne
        obtain ⟨o, ho⟩ := Option.ne_none_iff_exists'.1 hne
        obtain ⟨r, hr, -, hlt⟩ := h.owned ho
        obtain rfl : row = r := Option.some.inj (hrow.symm.trans hr)
        have hfence := hlt (by simpa using hagain)
        rw [hresult.fence] at hfence
        exact Nat.lt_irrefl _ hfence
      rw [habsent]
      exact ⟨_, rfl, rfl, rfl, rfl⟩
  have hold : ∀ {k o'}, k ≠ (id, result.fence) → db'.outbox.get? k = some o' →
      ∃ o, db.outbox.get? k = some o ∧ o' = supersede (id, result.fence) now k o := by
    intro k o' hk ho'
    rw [houtbox, if_neg hk, Option.map_eq_some_iff] at ho'
    obtain ⟨o, ho, rfl⟩ := ho'
    exact ⟨o, ho, rfl⟩
  constructor
  · intro k o' ho'
    by_cases hk : k = (id, result.fence)
    · subst hk
      obtain ⟨o, ho, -, -, hkey⟩ := hnew
      obtain rfl := Option.some.inj (ho.symm.trans ho')
      exact hkey
    · obtain ⟨o, ho, rfl⟩ := hold hk ho'
      have hkey : o.payload.externalEventId = k := h.key ho
      rw [supersede]
      split_ifs
      · exact hkey
      · exact hkey
  · intro k o' ho'
    by_cases hid : k.1 = id
    · refine ⟨result, by rw [hrewrites, if_pos hid], ?_, fun hopen ↦ ?_⟩
      · by_cases hk : k = (id, result.fence)
        · rw [hk]
        · obtain ⟨o, ho, -⟩ := hold hk ho'
          obtain ⟨r, hr, hle, -⟩ := h.owned ho
          rw [hid, hrow] at hr
          obtain rfl := Option.some.inj hr
          rw [hresult.fence]
          exact hle
      · rw [hopen] at hterminal
        contradiction
    · obtain ⟨o, ho, -⟩ := hold (fun hk ↦ hid (congrArg Prod.fst hk)) ho'
      obtain ⟨r, hr, hfences⟩ := h.owned ho
      exact ⟨r, by rw [hrewrites, if_neg hid, hr], hfences⟩
  · intro k r hr hk
    rw [hrewrites k] at hr
    split_ifs at hr with hid
    · obtain rfl := Option.some.inj hr
      subst hid
      obtain ⟨o, ho, hnone, hagrees, -⟩ := hnew
      exact ⟨o, ho, hnone, hagrees⟩
    · obtain ⟨o, ho, hnone, hagrees⟩ := h.current hr hk
      have hne : (k, r.fence) ≠ (id, result.fence) := fun heq ↦ hid (congrArg Prod.fst heq)
      refine ⟨o, ?_, hnone, hagrees⟩
      rw [houtbox, if_neg hne, ho, Option.map_some, supersede, if_neg (fun hcond ↦ hid hcond.1)]

/-- A mark on a notification keeps its payload and the notification it was superseded by. -/
theorem markOutbox_get? {outboxId k : OutboxId} {update : OutboxUpdate} {now : Time} :
    (db.markOutbox outboxId update now).outbox.get? k =
      (db.outbox.get? k).map fun o ↦
        if k = outboxId ∧ update.applies o = true then update.assign now o else o := by
  simp [markOutbox]

theorem OutboxUpdate.assign_kept (update : OutboxUpdate) (now : Time) (o : OutboxRow) :
    (update.assign now o).payload = o.payload ∧
      (update.assign now o).supersededByOutboxId = o.supersededByOutboxId := by
  cases update <;> exact ⟨rfl, rfl⟩

theorem markOutbox_kept {outboxId k : OutboxId} {update : OutboxUpdate} {now : Time}
    {o' : OutboxRow} (h : (db.markOutbox outboxId update now).outbox.get? k = some o') :
    ∃ o, db.outbox.get? k = some o ∧ o'.payload = o.payload ∧
      o'.supersededByOutboxId = o.supersededByOutboxId := by
  rw [markOutbox_get?, Option.map_eq_some_iff] at h
  obtain ⟨o, ho, rfl⟩ := h
  refine ⟨o, ho, ?_⟩
  split_ifs
  · exact update.assign_kept now o
  · exact ⟨rfl, rfl⟩

theorem Reported.markOutbox (h : db.Reported) (outboxId : OutboxId) (update : OutboxUpdate)
    (now : Time) : (db.markOutbox outboxId update now).Reported := by
  constructor
  · intro k o' ho'
    obtain ⟨o, ho, hpayload, -⟩ := markOutbox_kept ho'
    rw [hpayload]
    exact h.key ho
  · intro k o' ho'
    obtain ⟨o, ho, -⟩ := markOutbox_kept ho'
    exact h.owned ho
  · intro id row hrow hterminal
    obtain ⟨o, ho, hnone, hagrees⟩ := h.current hrow hterminal
    have ho' : (db.markOutbox outboxId update now).outbox.get? (id, row.fence) =
        some (if (id, row.fence) = outboxId ∧ update.applies o = true then update.assign now o
          else o) := by
      rw [markOutbox_get?, ho, Option.map_some]
    obtain ⟨old, hold, hpayload, hsuperseded⟩ := markOutbox_kept ho'
    obtain rfl := Option.some.inj (ho.symm.trans hold)
    exact ⟨_, ho', hsuperseded.trans hnone, (congrArg UpdateEvent.report hpayload).trans hagrees⟩

/-! ### A notification under way is not superseded -/

/-- A notification which is neither pending nor superseded. -/
def UnderWay (db : UpdateDb) (k : OutboxId) : Prop :=
  ∃ o, db.outbox.get? k = some o ∧ o.status ≠ .pending ∧ o.supersededByOutboxId = none

/-- A completion of the request `id` leaves a notification as it is, unless it is a pending one
of that request. -/
theorem CompletesTo.outbox_kept (h : db.CompletesTo id db') {k : OutboxId} {o : OutboxRow}
    (ho : db.outbox.get? k = some o) (hkept : k.1 = id → o.status ≠ .pending) :
    db'.outbox.get? k = some o := by
  obtain ⟨opened, row, target, fields, now, result, hproceeds, hrow, hok, -⟩ := h
  obtain ⟨-, houtbox⟩ := completeInternal_outbox hrow hok
  rw [houtbox, hproceeds.outbox, ho, Option.map_some, Option.getD_some, supersede]
  split_ifs with hkey hcond
  · rfl
  · exact absurd hcond.2.1 (hkept hcond.1)
  · rfl

theorem Follows.outbox_kept {completed : Option RequestId} (h : db.Follows completed db')
    {k : OutboxId} {o : OutboxRow} (ho : db.outbox.get? k = some o)
    (hkept : completed = some k.1 → o.status ≠ .pending) : db'.outbox.get? k = some o := by
  rcases h with hproceeds | ⟨id, hid, hcompletes⟩
  · rw [hproceeds.outbox, ho]
  · exact hcompletes.outbox_kept ho fun hk ↦ hkept (hk ▸ hid)

theorem UnderWay.follows {k : OutboxId} (h : db.UnderWay k) {completed : Option RequestId}
    (hfollows : db.Follows completed db') : db'.UnderWay k := by
  obtain ⟨o, ho, hstatus, hnone⟩ := h
  exact ⟨o, hfollows.outbox_kept ho fun _ ↦ hstatus, hstatus, hnone⟩

theorem UnderWay.markOutbox {k : OutboxId} (h : db.UnderWay k) (outboxId : OutboxId)
    (update : OutboxUpdate) (now : Time)
    (hupdate : k = outboxId → ∀ error delayMs, update ≠ .pending error delayMs) :
    (db.markOutbox outboxId update now).UnderWay k := by
  obtain ⟨o, ho, hstatus, hnone⟩ := h
  refine ⟨_, by rw [markOutbox_get?, ho, Option.map_some], ?_, ?_⟩
  · split_ifs with hcond
    · cases update with
      | pending error delayMs => exact absurd rfl (hupdate hcond.1 error delayMs)
      | reported => exact hstatus
      | _ => simp [OutboxUpdate.assign]
    · exact hstatus
  · split_ifs
    · exact (update.assign_kept now o).2.trans hnone
    · exact hnone

theorem markOutbox_get?_of_ne {outboxId k : OutboxId} (hk : k ≠ outboxId) (update : OutboxUpdate)
    (now : Time) : (db.markOutbox outboxId update now).outbox.get? k = db.outbox.get? k := by
  rw [markOutbox_get?]
  cases db.outbox.get? k with
  | none => rfl
  | some o => simp [hk]

/-- A delivery makes a notification that is not superseded one under way. -/
theorem underWay_of_delivering {k : OutboxId} {o : OutboxRow} (ho : db.outbox.get? k = some o)
    (hnone : o.supersededByOutboxId = none) (now : Time) :
    (db.markOutbox k .delivering now).UnderWay k := by
  refine ⟨_, by rw [markOutbox_get?, ho, Option.map_some], ?_, ?_⟩
  · split_ifs with hcond
    · simp [OutboxUpdate.assign]
    · intro hpending
      exact hcond ⟨rfl, by simp [OutboxUpdate.applies, hpending]⟩
  · split_ifs
    · exact hnone
    · exact hnone

theorem mem_pendingOutbox {limit : ℕ} {now : Time} {c : Candidate}
    (h : c ∈ db.pendingOutbox limit now) :
    db.outbox.get? c.1 = some c.2 ∧ c.2.supersededByOutboxId = none := by
  have hmem := (List.mem_insertionSort _).1 (List.mem_of_mem_take h)
  obtain ⟨hget, hcond⟩ := Table.mem_select_iff.1 hmem
  exact ⟨hget, (of_decide_eq_true hcond).2.1⟩

theorem nodup_pendingOutbox (limit : ℕ) (now : Time) :
    ((db.pendingOutbox limit now).map Prod.fst).Nodup := by
  refine ((List.take_sublist _ _).map Prod.fst).nodup ?_
  refine ((List.perm_insertionSort _ _).map Prod.fst).nodup_iff.2 ?_
  exact (List.filter_sublist.map Prod.fst).nodup db.outbox.nodup

end UpdateDb

namespace DeliveryState

variable {s : DeliveryState}

/-- What the delivery loop relies on: the candidates ahead are as they were listed, and a
notification that is being handled, or that may have been accepted, is under way. -/
structure Sending (s : DeliveryState) : Prop where
  undecided : ∀ {k}, s.mayAccept k = true → s.db.UnderWay k
  remaining : ∀ {c}, c ∈ s.remaining → ∃ o, s.db.outbox.get? c.1 = some o ∧
    o.status = c.2.status ∧ o.supersededByOutboxId = none
  nodup : (s.remaining.map Prod.fst).Nodup
  awaiting : ∀ {a}, s.awaiting = some a →
    s.db.UnderWay a.outboxId ∧ a.outboxId ∉ s.remaining.map Prod.fst

theorem sending_fresh : fresh.Sending := by
  constructor
  · intro k hk
    simp [fresh] at hk
  · intro c hc
    simp [fresh] at hc
  · exact List.nodup_nil
  · intro a ha
    simp [fresh] at ha

theorem Sending.operate (h : s.Sending) {completed : Option RequestId} {db' : UpdateDb}
    (hfollows : s.db.Follows completed db')
    (hahead : ∀ id, completed = some id →
      ∀ c ∈ s.remaining, c.1.1 = id → c.2.status ≠ .pending) :
    ({ s with db := db' } : DeliveryState).Sending := by
  constructor
  · intro k hk
    exact (h.undecided hk).follows hfollows
  · intro c hc
    obtain ⟨o, ho, hstatus, hnone⟩ := h.remaining hc
    refine ⟨o, hfollows.outbox_kept ho fun hcompleted ↦ ?_, hstatus, hnone⟩
    rw [hstatus]
    exact hahead c.1.1 hcompleted c hc rfl
  · exact h.nodup
  · intro a ha
    obtain ⟨hunder, hnot⟩ := h.awaiting ha
    exact ⟨hunder.follows hfollows, hnot⟩

theorem Sending.list (h : s.Sending) (now : Time) : (s.list now).Sending := by
  unfold DeliveryState.list
  split_ifs with hidle
  · constructor
    · exact h.undecided
    · intro c hc
      obtain ⟨hget, hnone⟩ := UpdateDb.mem_pendingOutbox hc
      exact ⟨c.2, hget, rfl, hnone⟩
    · exact UpdateDb.nodup_pendingOutbox _ _
    · intro a ha
      have hnone : s.awaiting = none := by simpa using hidle.2
      rw [show s.awaiting = some a from ha] at hnone
      contradiction
  · exact h

theorem Sending.take (h : s.Sending) (now : Time) : (s.take now).Sending := by
  unfold DeliveryState.take
  split
  · rename_i candidate rest hawaiting hremaining
    have hmem : candidate ∈ s.remaining := by simp [hremaining]
    have hrest : ∀ {c}, c ∈ rest → c ∈ s.remaining := by
      intro c hc
      simp [hremaining, hc]
    have hnodup := h.nodup
    rw [hremaining, List.map_cons, List.nodup_cons] at hnodup
    obtain ⟨o, ho, hstatus, hnone⟩ := h.remaining hmem
    split_ifs with hlookup
    · constructor
      · exact h.undecided
      · intro c hc
        exact h.remaining (hrest hc)
      · exact hnodup.2
      · rintro a ⟨⟩
        refine ⟨⟨o, ho, ?_, hnone⟩, hnodup.1⟩
        rw [hstatus]
        rcases hlookup with hdelivering | hdelivered
        · simp [hdelivering]
        · simp [hdelivered]
    · have hunder := UpdateDb.underWay_of_delivering ho hnone now
      constructor
      · intro k hk
        by_cases heq : k = candidate.1
        · rw [heq]
          exact hunder
        · have hold : s.mayAccept k = true := by simpa [Function.update_of_ne heq] using hk
          exact (h.undecided hold).markOutbox _ _ _ fun hkey ↦ absurd hkey heq
      · intro c hc
        have hne : c.1 ≠ candidate.1 := by
          intro heq
          exact hnodup.1 (heq ▸ List.mem_map_of_mem (f := Prod.fst) hc)
        obtain ⟨o', ho', hkept⟩ := h.remaining (hrest hc)
        exact ⟨o', by rw [UpdateDb.markOutbox_get?_of_ne hne, ho'], hkept⟩
      · exact hnodup.2
      · rintro a ⟨⟩
        exact ⟨hunder, hnodup.1⟩
  · exact h

/-- An answer closes the await: it may make its notification pending only when it shows that the
Dispatcher has not accepted it. -/
theorem Sending.answered (h : s.Sending) {a : OutboxAwait} (ha : s.awaiting = some a)
    {db' : UpdateDb} {refuted : Bool}
    (hothers : ∀ k, k ≠ a.outboxId → db'.outbox.get? k = s.db.outbox.get? k)
    (hself : refuted = false → db'.UnderWay a.outboxId) :
    ({ s with
      db := db'
      awaiting := none
      mayAccept := if refuted then Function.update s.mayAccept a.outboxId false else s.mayAccept } :
        DeliveryState).Sending := by
  obtain ⟨hunder, hnot⟩ := h.awaiting ha
  have hother : ∀ {k}, k ≠ a.outboxId → s.db.UnderWay k → db'.UnderWay k := by
    rintro k hk ⟨o, ho, hkept⟩
    exact ⟨o, by rw [hothers k hk, ho], hkept⟩
  constructor
  · intro k hk
    by_cases heq : k = a.outboxId
    · subst heq
      cases refuted with
      | true => simp at hk
      | false => exact hself rfl
    · have hold : s.mayAccept k = true := by
        cases refuted with
        | true => simpa [Function.update_of_ne heq] using hk
        | false => exact hk
      exact hother heq (h.undecided hold)
  · intro c hc
    have hne : c.1 ≠ a.outboxId := by
      intro heq
      exact hnot (heq ▸ List.mem_map_of_mem (f := Prod.fst) hc)
    obtain ⟨o, ho, hkept⟩ := h.remaining hc
    exact ⟨o, by rw [hothers c.1 hne, ho], hkept⟩
  · exact h.nodup
  · intro a' ha'
    contradiction

theorem markAll_get?_of_ne {outboxId k : OutboxId} (hk : k ≠ outboxId)
    (updates : List UpdateDb.OutboxUpdate) (now : Time) (db : UpdateDb) :
    (markAll db outboxId updates now).outbox.get? k = db.outbox.get? k := by
  induction updates generalizing db with
  | nil => rfl
  | cons update updates ih =>
      exact (ih (db.markOutbox outboxId update now)).trans
        (UpdateDb.markOutbox_get?_of_ne hk update now)

theorem underWay_markAll {k : OutboxId} {updates : List UpdateDb.OutboxUpdate} (now : Time)
    (hupdates : ∀ update ∈ updates, ∀ error delayMs, update ≠ .pending error delayMs)
    {db : UpdateDb} (h : db.UnderWay k) : (markAll db k updates now).UnderWay k := by
  induction updates generalizing db with
  | nil => exact h
  | cons update updates ih =>
      refine ih (fun u hu ↦ hupdates u (List.mem_cons_of_mem _ hu)) (h.markOutbox k update now ?_)
      exact fun _ ↦ hupdates update List.mem_cons_self

theorem not_pending_of_lookupUpdates {candidate : Candidate} {answer : CompletionLookup}
    (hanswer : CompletionLookup.refutes answer = false) :
    ∀ update ∈ lookupUpdates candidate answer, ∀ error delayMs, update ≠ .pending error delayMs := by
  intro update hupdate error delayMs
  cases answer with
  | «exists» eventId status =>
      simp only [lookupUpdates, List.mem_append, List.mem_singleton] at hupdate
      rcases hupdate with hupdate | rfl
      · split_ifs at hupdate
        · simp at hupdate
        · simp_all
      · split_ifs <;> simp
  | absent => simp [CompletionLookup.refutes] at hanswer
  | conflict => simp_all [lookupUpdates]
  | unavailable => simp_all [lookupUpdates]

theorem Sending.lookupAnswered (h : s.Sending) (answer : CompletionLookup) (now : Time) :
    (s.lookupAnswered answer now).Sending := by
  unfold DeliveryState.lookupAnswered
  split
  · rename_i candidate hawaiting
    exact h.answered hawaiting (fun k hk ↦ markAll_get?_of_ne hk _ _ _) fun hrefuted ↦
      underWay_markAll now (not_pending_of_lookupUpdates hrefuted) (h.awaiting hawaiting).1
  · exact h

theorem Sending.deliveryAnswered (h : s.Sending) (outcome : CompletionDelivery) (now : Time) :
    (s.deliveryAnswered outcome now).Sending := by
  unfold DeliveryState.deliveryAnswered
  split
  · rename_i outboxId hawaiting
    refine h.answered hawaiting (fun k hk ↦ UpdateDb.markOutbox_get?_of_ne hk _ _) fun hrefuted ↦ ?_
    refine (h.awaiting hawaiting).1.markOutbox _ _ _ fun _ error delayMs ↦ ?_
    cases outcome with
    | unavailable => simp [CompletionDelivery.refutes] at hrefuted
    | _ => simp [deliveryUpdate]
  · exact h

theorem Sending.crash (h : s.Sending) : s.crash.Sending := by
  constructor
  · exact h.undecided
  · intro c hc
    simp [DeliveryState.crash] at hc
  · exact List.nodup_nil
  · intro a ha
    simp [DeliveryState.crash] at ha

/-- The invariant of the runs whose steps keep the reports. -/
structure Agrees (s : DeliveryState) : Prop where
  consistent : s.db.Consistent
  reported : s.db.Reported
  sending : s.Sending

theorem agrees_fresh : fresh.Agrees :=
  ⟨UpdateDb.consistent_fresh, UpdateDb.reported_fresh, sending_fresh⟩

theorem consistent_markAll {db : UpdateDb} (h : db.Consistent ∧ db.Reported) (outboxId : OutboxId)
    (updates : List UpdateDb.OutboxUpdate) (now : Time) :
    (markAll db outboxId updates now).Consistent ∧ (markAll db outboxId updates now).Reported := by
  induction updates generalizing db with
  | nil => exact h
  | cons update updates ih =>
      exact ih ⟨h.1.of_eq rfl rfl, h.2.markOutbox outboxId update now⟩

theorem Agrees.operate (h : s.Agrees) {op : Operation}
    (hissued : (DeliveryStep.operate op).IsIssued)
    (hkeeps : (DeliveryStep.operate op).KeepsReports s) :
    (DeliveryStep.next s (.operate op)).Agrees := by
  obtain ⟨hclaim, honce, hahead⟩ := hkeeps
  have hop : op.IsIssued := by
    cases op with
    | markOutbox => exact absurd hissued fun h ↦ h
    | _ => exact hissued
  have hfollows := Operation.next_follows h.consistent hissued hclaim honce
  refine ⟨(Operation.next_stepsTo h.consistent hop hclaim).1, ?_, h.sending.operate hfollows hahead⟩
  rcases hfollows with hproceeds | ⟨id, -, opened, row, target, fields, now, result, hproceeds,
    hrow, hok, honce⟩
  · exact h.reported.proceeds hproceeds
  · exact (h.reported.proceeds hproceeds).completeInternal hrow hok honce

theorem Agrees.take (h : s.Agrees) (now : Time) : (s.take now).Agrees := by
  refine ⟨?_, ?_, h.sending.take now⟩
  · unfold DeliveryState.take
    split
    · split_ifs
      · exact h.consistent
      · exact h.consistent.of_eq rfl rfl
    · exact h.consistent
  · unfold DeliveryState.take
    split
    · split_ifs
      · exact h.reported
      · exact h.reported.markOutbox _ _ _
    · exact h.reported

theorem Agrees.list (h : s.Agrees) (now : Time) : (s.list now).Agrees := by
  have hdb : (s.list now).db = s.db := by
    unfold DeliveryState.list
    split_ifs <;> rfl
  exact ⟨hdb ▸ h.consistent, hdb ▸ h.reported, h.sending.list now⟩

theorem Agrees.lookupAnswered (h : s.Agrees) (answer : CompletionLookup) (now : Time) :
    (s.lookupAnswered answer now).Agrees := by
  have hkept : (s.lookupAnswered answer now).db.Consistent ∧
      (s.lookupAnswered answer now).db.Reported := by
    unfold DeliveryState.lookupAnswered
    split
    · exact consistent_markAll ⟨h.consistent, h.reported⟩ _ _ _
    · exact ⟨h.consistent, h.reported⟩
  exact ⟨hkept.1, hkept.2, h.sending.lookupAnswered answer now⟩

theorem Agrees.deliveryAnswered (h : s.Agrees) (outcome : CompletionDelivery) (now : Time) :
    (s.deliveryAnswered outcome now).Agrees := by
  have hkept : (s.deliveryAnswered outcome now).db.Consistent ∧
      (s.deliveryAnswered outcome now).db.Reported := by
    unfold DeliveryState.deliveryAnswered
    split
    · exact ⟨h.consistent.of_eq rfl rfl, h.reported.markOutbox _ _ _⟩
    · exact ⟨h.consistent, h.reported⟩
  exact ⟨hkept.1, hkept.2, h.sending.deliveryAnswered outcome now⟩

/-! ### The agreement -/

/-- Each terminal request has exactly one notification under its present fence; it is not
superseded, and it reports the present verdict. -/
def ReportsCurrent (s : DeliveryState) : Prop :=
  ∀ id row, s.db.requests.get? id = some row → row.state.isTerminal = true →
    ∃ o, s.db.outbox.get? (id, row.fence) = some o ∧ o.supersededByOutboxId = none ∧
      o.payload.report = row.report ∧
        ∀ k o', s.db.outbox.get? k = some o' →
          (o'.payload.externalEventId = (id, row.fence) ↔ k = (id, row.fence))

/-- A notification that is being sent is not superseded. -/
def SendsCurrent (s : DeliveryState) : Prop :=
  ∀ k o, s.awaiting = some (.delivery k) → s.db.outbox.get? k = some o →
    o.supersededByOutboxId = none

/-- No notification is superseded that the Dispatcher may have accepted. -/
def KeepsAccepted (s : DeliveryState) : Prop :=
  ∀ k o, s.mayAccept k = true → s.db.outbox.get? k = some o → o.supersededByOutboxId = none

theorem Agrees.reportsCurrent (h : s.Agrees) : s.ReportsCurrent := by
  intro id row hrow hterminal
  obtain ⟨o, ho, hnone, hreport⟩ := h.reported.current hrow hterminal
  refine ⟨o, ho, hnone, hreport, fun k o' ho' ↦ ?_⟩
  rw [h.reported.key ho']

theorem Agrees.sendsCurrent (h : s.Agrees) : s.SendsCurrent := by
  intro k o hawaiting ho
  obtain ⟨⟨o', ho', -, hnone⟩, -⟩ := h.sending.awaiting hawaiting
  obtain rfl := Option.some.inj (ho'.symm.trans ho)
  exact hnone

theorem Agrees.keepsAccepted (h : s.Agrees) : s.KeepsAccepted := by
  intro k o hk ho
  obtain ⟨o', ho', -, hnone⟩ := h.sending.undecided hk
  obtain rfl := Option.some.inj (ho'.symm.trans ho)
  exact hnone

end DeliveryState

theorem DeliveryStep.next_agrees {s : DeliveryState} {step : DeliveryStep} (h : s.Agrees)
    (hissued : step.IsIssued) (hkeeps : step.KeepsReports s) : (step.next s).Agrees := by
  cases step with
  | operate op => exact h.operate hissued hkeeps
  | list now => exact h.list now
  | take now => exact h.take now
  | lookupAnswered answer now => exact h.lookupAnswered answer now
  | deliveryAnswered outcome now => exact h.deliveryAnswered outcome now
  | crash => exact ⟨h.consistent, h.reported, h.sending.crash⟩

/-- In a run whose steps keep the reports, terminal requests and notifications agree in every
state. -/
theorem terminal_outbox_agrees {s : DeliveryState}
    (h : (deliveries.restrict fun s step ↦ step.KeepsReports s).Reachable s) :
    s.ReportsCurrent ∧ s.SendsCurrent ∧ s.KeepsAccepted := by
  have hs : s.Agrees := by
    refine h.invariant ?_ ?_
    · rintro _ rfl
      exact DeliveryState.agrees_fresh
    · rintro s step _ ⟨hkeeps, hissued, rfl⟩ hs
      exact DeliveryStep.next_agrees hs hissued hkeeps
  exact ⟨hs.reportsCurrent, hs.sendsCurrent, hs.keepsAccepted⟩

/-! ### Runs in which they disagree -/

section Disagreements

/-- A request is cancelled before it is claimed, and its notification is accepted. -/
def deliveredCancellation : List DeliveryStep :=
  cancelledCandidate.map .operate ++
    [.list 10, .take 11, .deliveryAnswered (.accepted "evt_1") 12]

theorem terminal_outbox_agrees_delivered :
    (deliveredCancellation.foldl DeliveryStep.next .fresh).ReportsCurrent ∧
      (deliveredCancellation.foldl DeliveryStep.next .fresh).SendsCurrent ∧
      (deliveredCancellation.foldl DeliveryStep.next .fresh).KeepsAccepted := by
  have hmeet : TransitionSystem.StepsMeet
      (fun s step ↦ step.KeepsReports s ∧ step.IsIssued) DeliveryStep.next .fresh
      deliveredCancellation := by
    refine ⟨⟨⟨trivial, trivial, ?_⟩, trivial⟩, ⟨⟨trivial, trivial, ?_⟩, trivial⟩,
      ⟨⟨trivial, trivial, ?_⟩, trivial⟩, ⟨trivial, trivial⟩, ⟨trivial, trivial⟩,
      ⟨trivial, trivial⟩, trivial⟩ <;>
    · intro id _ candidate hcandidate
      exact absurd hcandidate List.not_mem_nil
  exact terminal_outbox_agrees
    ⟨_, _, rfl, (TransitionSystem.run_restrict_ofFun _ hmeet).restrict_restrict⟩

/-- A reconciliation claims the request and waits for its observation; the operator cancels
meanwhile, and the reconciliation completes the request again under the same fence. -/
def completedTwice : List DeliveryStep :=
  (planAndApprove "upd_1" "plan_1" 0 ++
    [Operation.claim "upd_1" "controller" 60000 2,
      .transition "upd_1" 1 .staged {} 3,
      .transition "upd_1" 1 .quiescing {} 4,
      .claim "upd_1" "controller" 60000 5,
      .requestCancellation "upd_1" "cancel_event" sampleThread "stop" 6,
      .terminal "upd_1" 2 ⟨.needsReview, needsReview_isTerminal⟩
        { lastErrorCode := some (some "pointer_observation_mismatch")
          lastErrorMessage := some (some
            "Observed current pointer is neither the planned current nor target SHA") } 7]).map
    .operate

/-- The first notification of a cancelled update is accepted but not reported yet. An operator
rolls back, which is refused, and rolls back again while the delivery loop waits for the answer
about the first one: the second notification, superseded by the third, is sent. -/
def supersededSent : List DeliveryStep :=
  (planAndApprove "upd_1" "plan_1" 0 ++
    [Operation.claim "upd_1" "controller" 60000 2,
      .transition "upd_1" 1 .staged {} 3,
      .transition "upd_1" 1 .quiescing {} 4,
      .requestCancellation "upd_1" "cancel_event" sampleThread "stop" 5]).map .operate ++
    [.list 10, .take 11, .deliveryAnswered (.accepted "evt_1") 12,
      .operate (.beginOperatorRollback "upd_1" (samplePlan "plan_1" 0) "controller" 60000 20),
      .operate (.terminal "upd_1" 2 ⟨.needsReview, needsReview_isTerminal⟩
        { lastErrorCode := some (some "operator_rollback_pointer_mismatch") } 21),
      .list 2000, .take 2001,
      .operate (.beginOperatorRollback "upd_1" (samplePlan "plan_1" 0) "controller" 60000 2002),
      .operate (.terminal "upd_1" 3 ⟨.needsReview, needsReview_isTerminal⟩
        { lastErrorCode := some (some "operator_rollback_pointer_mismatch") } 2003),
      .lookupAnswered (.exists "evt_1" "queued") 2004, .take 2005]

theorem terminal_outbox_disagrees :
    (¬∀ s, deliveries.Reachable s → s.ReportsCurrent) ∧
      ¬∀ s, deliveries.Reachable s → s.SendsCurrent := by
  constructor
  · intro h
    have hrun : deliveries.Reachable (completedTwice.foldl DeliveryStep.next .fresh) :=
      ⟨_, _, rfl, TransitionSystem.run_restrict_ofFun _
        ⟨trivial, trivial, trivial, ⟨none, none, none, rfl⟩, ⟨none, none, none, rfl⟩, trivial,
          trivial, trivial, trivial⟩⟩
    obtain ⟨o, ho, -, hreport, -⟩ := h _ hrun "upd_1" _ rfl rfl
    obtain rfl := Option.some.inj ho
    exact absurd (congrArg (fun report ↦ report.error.map (·.code)) hreport) (by decide)
  · intro h
    have hrun : deliveries.Reachable (supersededSent.foldl DeliveryStep.next .fresh) :=
      ⟨_, _, rfl, TransitionSystem.run_restrict_ofFun _
        ⟨trivial, trivial, trivial, ⟨none, none, none, rfl⟩, ⟨none, none, none, rfl⟩, trivial,
          trivial, trivial, trivial, trivial, trivial, trivial, trivial, trivial, trivial, trivial,
          trivial, trivial⟩⟩
    exact absurd (h _ hrun ("upd_1", 2) _ rfl rfl) (by decide)

end Disagreements

end Dona.Updater
