import Dona.Dispatcher.Worker

/-!
# Serial injection

At most one event is with the agent, and an event that was prompted is prompted again only after
an operator has retried it or the agent was not there to take it. The worker runs between any
operations of the others, and may crash at each of its awaits.
-/

namespace Dona.DispatcherWorker

open Coroutine Fallible

/-! ### The log -/

/-- The event was prompted, and neither retried nor refused since. -/
def Owed (eventId : EventId) : List Entry → Prop
  | [] => False
  | .begun _ :: log => Owed eventId log
  | .prompted id :: log => id = eventId ∨ Owed eventId log
  | .retried id :: log => id ≠ eventId ∧ Owed eventId log
  | .refused id :: log => id ≠ eventId ∧ Owed eventId log

/-- A prompt follows the begin of its dispatch, and repeats no prompt that is still owed. -/
def Disciplined : List Entry → Prop
  | [] => True
  | .prompted id :: log => log.head? = some (.begun id) ∧ ¬Owed id log ∧ Disciplined log
  | _ :: log => Disciplined log

section

variable {eventId id : EventId} {log : List Entry} {entry : Entry}

theorem Disciplined.tail (h : Disciplined (entry :: log)) : Disciplined log := by
  cases entry with
  | prompted id => exact h.2.2
  | begun id => exact h
  | retried id => exact h
  | refused id => exact h

theorem Disciplined.of_append {later : List Entry} (h : Disciplined (later ++ log)) :
    Disciplined log := by
  induction later with
  | nil => exact h
  | cons entry later ih => exact ih h.tail

theorem owed_of_prompted {middle : List Entry} (hretried : .retried eventId ∉ middle)
    (hrefused : .refused eventId ∉ middle) :
    Owed eventId (middle ++ .prompted eventId :: log) := by
  induction middle with
  | nil => exact Or.inl rfl
  | cons entry middle ih =>
      simp only [List.mem_cons, not_or] at hretried hrefused
      have howed := ih hretried.2 hrefused.2
      cases entry with
      | begun id => exact howed
      | prompted id => exact Or.inr howed
      | retried id => exact ⟨fun hid ↦ hretried.1 (congrArg _ hid.symm), howed⟩
      | refused id => exact ⟨fun hid ↦ hrefused.1 (congrArg _ hid.symm), howed⟩

end

/-! ### The invariant -/

section

variable {w w' : World} {db : Db} {eventId : EventId}

/-- The agent has the event. -/
def World.Owned (w : World) (eventId : EventId) : Prop :=
  ∃ event, w.db.events.get? eventId = some event ∧ event.status.isAgentOwned = true

def World.Dispatching (w : World) (eventId : EventId) : Prop :=
  ∃ event, w.db.events.get? eventId = some event ∧ event.status = .dispatching

theorem World.Dispatching.owned (h : w.Dispatching eventId) : w.Owned eventId := by
  obtain ⟨event, hevent, hdispatching⟩ := h
  refine ⟨event, hevent, ?_⟩
  rw [hdispatching]
  rfl

structure Inv (w : World) : Prop where
  serial : ∀ {id id'}, w.Owned id → w.Owned id' → id = id'
  runs : w.db.RunsScheduled
  identities : ∀ {id event}, w.db.events.get? id = some event → isIdentity id = true
  owed : ∀ {id}, Owed id w.log → ∃ event, w.db.events.get? id = some event ∧
    event.status.isDispatchable = false
  disciplined : Disciplined w.log

/-- What the others do: nobody but the worker takes an event up. -/
def rely (_ : Unit) (w w' : World) : Prop :=
  ∀ id, (w'.Owned id → w.Owned id) ∧ (w'.Dispatching id → w.Dispatching id)

theorem rely_refl (w : World) : rely () w w := fun _ ↦ ⟨id, id⟩

theorem rely_trans {w'' : World} (h : rely () w w') (h' : rely () w' w'') : rely () w w'' :=
  fun id ↦ ⟨fun ho ↦ (h id).1 ((h' id).1 ho), fun hd ↦ (h id).2 ((h' id).2 hd)⟩

theorem rely_of_settles (h : w.db.Settles db) (hdb : w'.db = db) : rely () w w' := by
  subst hdb
  intro id
  constructor
  · rintro ⟨event', hevent', howned⟩
    obtain ⟨event, hevent, hsettles⟩ := h.events.exists_old hevent'
    exact ⟨event, hevent, hsettles.agentOwned howned⟩
  · rintro ⟨event', hevent', hdispatching⟩
    obtain ⟨event, hevent, hsettles⟩ := h.events.exists_old hevent'
    exact ⟨event, hevent, hsettles.dispatching hdispatching⟩

/-- Who releases an event leaves less with the agent. -/
theorem owned_of_releases (h : Db.Releases eventId w.db db) (hdb : w'.db = db) {id : EventId}
    (hid : w'.Owned id) : w.Owned id ∧ id ≠ eventId := by
  subst hdb
  obtain ⟨event', hevent', howned⟩ := hid
  obtain ⟨event, hevent, hmoves⟩ := h.events.exists_old hevent'
  split_ifs at hmoves with heq
  · rw [howned] at hmoves
    contradiction
  · exact ⟨⟨event, hevent, hmoves.agentOwned howned⟩, heq⟩

theorem rely_of_releases (h : Db.Releases eventId w.db db) (hdb : w'.db = db) : rely () w w' := by
  intro id
  refine ⟨fun howned ↦ (owned_of_releases h hdb howned).1, fun hdispatching ↦ ?_⟩
  have hne := (owned_of_releases h hdb hdispatching.owned).2
  subst hdb
  obtain ⟨event', hevent', hstatus⟩ := hdispatching
  obtain ⟨event, hevent, hmoves⟩ := h.events.exists_old hevent'
  rw [if_neg hne] at hmoves
  exact ⟨event, hevent, hmoves.dispatching hstatus⟩

theorem rely_of_admits (h : w.db.Admits db) (hdb : w'.db = db) : rely () w w' := by
  subst hdb
  have hold : ∀ {id : EventId} {event'}, w'.db.events.get? id = some event' →
      event'.status.isAgentOwned = true →
        ∃ event, w.db.events.get? id = some event ∧ event.Settles event' := by
    intro id event' hevent' howned
    cases hevent : w.db.events.get? id with
    | none =>
        have hfree := (h.new hevent hevent').1
        rw [howned] at hfree
        contradiction
    | some event =>
        obtain ⟨event'', hevent'', hsettles⟩ := h.old hevent
        obtain rfl := Option.some.inj (hevent'.symm.trans hevent'')
        exact ⟨event, rfl, hsettles⟩
  intro id
  constructor
  · rintro ⟨event', hevent', howned⟩
    obtain ⟨event, hevent, hsettles⟩ := hold hevent' howned
    exact ⟨event, hevent, hsettles.agentOwned howned⟩
  · rintro ⟨event', hevent', hdispatching⟩
    have howned : event'.status.isAgentOwned = true := by rw [hdispatching]; rfl
    obtain ⟨event, hevent, hsettles⟩ := hold hevent' howned
    exact ⟨event, hevent, hsettles.dispatching hdispatching⟩

theorem Inv.settles (hw : Inv w) (h : w.db.Settles db) (hdb : w'.db = db)
    (hlog : w'.log = w.log) : Inv w' := by
  have hrely := rely_of_settles h hdb
  subst hdb
  refine ⟨fun ho ho' ↦ hw.serial ((hrely _).1 ho) ((hrely _).1 ho'), h.runs hw.runs, ?_, ?_, ?_⟩
  · intro id event' hevent'
    obtain ⟨event, hevent, -⟩ := h.events.exists_old hevent'
    exact hw.identities hevent
  · intro id howed
    rw [hlog] at howed
    obtain ⟨event, hevent, hnot⟩ := hw.owed howed
    obtain ⟨event', hevent', hsettles⟩ := h.events.exists_new hevent
    exact ⟨event', hevent', hsettles.not_dispatchable hnot⟩
  · rw [hlog]
    exact hw.disciplined

theorem Inv.admits (hw : Inv w) (h : w.db.Admits db) : Inv { w with db := db } := by
  have hrely : rely () w { w with db := db } := rely_of_admits h rfl
  refine ⟨fun ho ho' ↦ hw.serial ((hrely _).1 ho) ((hrely _).1 ho'), h.runs hw.runs, ?_, ?_,
    hw.disciplined⟩
  · intro id event' hevent'
    cases hevent : w.db.events.get? id with
    | none => exact (h.new hevent hevent').2
    | some event => exact hw.identities hevent
  · intro id howed
    obtain ⟨event, hevent, hnot⟩ := hw.owed howed
    obtain ⟨event', hevent', hsettles⟩ := h.old hevent
    exact ⟨event', hevent', hsettles.not_dispatchable hnot⟩

/-- A released event may be taken up again only if its prompt is not owed. -/
theorem Inv.releases (hw : Inv w) (h : Db.Releases eventId w.db db) (hdb : w'.db = db)
    (hlog : ∀ {id}, Owed id w'.log → id ≠ eventId ∧ Owed id w.log)
    (hdisciplined : Disciplined w'.log) : Inv w' := by
  have hrely := rely_of_releases h hdb
  subst hdb
  refine ⟨fun ho ho' ↦ hw.serial ((hrely _).1 ho) ((hrely _).1 ho'), h.runs hw.runs, ?_, ?_,
    hdisciplined⟩
  · intro id event' hevent'
    obtain ⟨event, hevent, -⟩ := h.events.exists_old hevent'
    exact hw.identities hevent
  · intro id howed
    obtain ⟨hne, howed⟩ := hlog howed
    obtain ⟨event, hevent, hnot⟩ := hw.owed howed
    obtain ⟨event', hevent', hmoves⟩ := h.events.exists_new hevent
    rw [if_neg hne] at hmoves
    exact ⟨event', hevent', hmoves.not_dispatchable hnot⟩

end

/-! ### The rules of the worker's steps -/

/-- The worker alone takes events up, one at a time. -/
def discipline : Interference World Reply Unit :=
  .ofRely (fun _ w _ w' ↦ w' = w) Inv rely (fun _ ↦ rely_refl) rely_trans

theorem guarantee_of_inv {w w' : World} (h : Inv w → Inv w') : discipline.guarantee () w w' :=
  fun hw ↦ ⟨h hw, fun _ hne ↦ absurd rfl hne⟩

/-- An assertion about a sound world which the others do not break. -/
structure Stable (R : World → Prop) : Prop where
  inv : ∀ {w}, R w → Inv w
  rely : ∀ {w w'}, rely () w w' → Inv w' → R w → R w'

def Free (w : World) : Prop := Inv w ∧ ∀ id, ¬w.Owned id

def HeldBy (eventId : EventId) (w : World) : Prop := Inv w ∧ ∀ id, w.Owned id → id = eventId

/-- Nobody knows of a prompt whose acceptance is open. -/
def Quiet (w : World) : Prop := Inv w ∧ ∀ id, ¬w.Dispatching id

section

variable {w w' : World} {db : Db} {eventId : EventId} {R : World → Prop}

theorem stable_inv : Stable Inv := ⟨id, fun _ hw _ ↦ hw⟩

theorem stable_free : Stable Free where
  inv := And.left
  rely hrely hw' hw := ⟨hw', fun id howned ↦ hw.2 id ((hrely id).1 howned)⟩

theorem stable_heldBy : Stable (HeldBy eventId) where
  inv := And.left
  rely hrely hw' hw := ⟨hw', fun id howned ↦ hw.2 id ((hrely id).1 howned)⟩

theorem stable_quiet : Stable Quiet where
  inv := And.left
  rely hrely hw' hw := ⟨hw', fun id hdispatching ↦ hw.2 id ((hrely id).2 hdispatching)⟩

theorem Free.quiet (h : Free w) : Quiet w := ⟨h.1, fun id hid ↦ h.2 id hid.owned⟩

theorem HeldBy.quiet (h : HeldBy eventId w) (hnot : ¬w.Dispatching eventId) : Quiet w := by
  refine ⟨h.1, fun id hdispatching ↦ hnot ?_⟩
  rw [← h.2 id hdispatching.owned]
  exact hdispatching

theorem HeldBy.released (h : HeldBy eventId w) (hreleases : Db.Releases eventId w.db db)
    (hdb : w'.db = db) (hw' : Inv w') : Quiet w' := by
  refine ⟨hw', fun id hdispatching ↦ ?_⟩
  obtain ⟨howned, hne⟩ := owned_of_releases hreleases hdb hdispatching.owned
  exact hne (h.2 id howned)

variable {α : Type} {Q : α → World → Prop} {E : Failure → World → Prop}

theorem wp_database {f : Int → Db → Except String α × Db}
    (hinv : Inv { w with db := (f w.now w.db).2 })
    (hok : ∀ a, (f w.now w.db).1 = .ok a → Q a { w with db := (f w.now w.db).2 })
    (herror : ∀ e, (f w.now w.db).1 = .error e →
      E (.other e) { w with db := (f w.now w.db).2 }) :
    wp discipline () (database f) Q E w := by
  refine ⟨guarantee_of_inv fun _ ↦ hinv, ?_⟩
  cases hresult : (f w.now w.db).1 with
  | ok a => exact hok a hresult
  | error e => exact herror e hresult

theorem wp_transact {body : Int → Db → Except String (α × Db)}
    (hok : ∀ a db, body w.now w.db = .ok (a, db) →
      Inv { w with db := db } ∧ Q a { w with db := db })
    (herror : ∀ e, body w.now w.db = .error e → E (.other e) w) (hw : Inv w) :
    wp discipline () (transact body) Q E w := by
  cases hbody : body w.now w.db with
  | ok result =>
      obtain ⟨a, db⟩ := result
      have hrun : transaction (body w.now) w.db = (.ok a, db) := by simp [transaction, hbody]
      obtain ⟨hinv, hQ⟩ := hok a db hbody
      refine wp_database ?_ (fun a' ha' ↦ ?_) fun e he ↦ ?_
      · rw [hrun]
        exact hinv
      · rw [hrun] at ha' ⊢
        obtain rfl := Except.ok.inj ha'
        exact hQ
      · rw [hrun] at he
        contradiction
  | error e =>
      have hrun : transaction (body w.now) w.db = (.error e, w.db) := by
        simp [transaction, hbody]
      refine wp_database ?_ (fun a ha ↦ ?_) fun e' he' ↦ ?_
      · rw [hrun]
        exact hw
      · rw [hrun] at ha
        contradiction
      · rw [hrun] at he' ⊢
        obtain rfl := Except.error.inj he'
        exact herror e hbody

theorem keeps_await (hR : Stable R) (c : Call) :
    Keeps discipline () R (call c : Program (Reply c)) := by
  refine keeps_call hR.rely fun w r w' hw hRw hperform ↦ ?_
  obtain rfl : w' = w := hperform
  exact ⟨guarantee_of_inv id, hRw⟩

theorem keeps_settled (result : Except Failure α) :
    Keeps discipline () R (settled result) := by
  cases result with
  | ok a => exact keeps_pure a
  | error e => exact keeps_throw e

theorem keeps_database (hR : Stable R) {f : Int → Db → Except String α × Db}
    (hf : ∀ now (db : Db), db.Settles (f now db).2) : Keeps discipline () R (database f) := by
  intro w hw
  have hsettles := hf w.now w.db
  have hinv : Inv { w with db := (f w.now w.db).2 } := (hR.inv hw).settles hsettles rfl rfl
  have hkept : R { w with db := (f w.now w.db).2 } :=
    hR.rely (rely_of_settles hsettles rfl) hinv hw
  exact wp_database hinv (fun _ _ ↦ hkept) fun _ _ ↦ hkept

theorem keeps_transact (hR : Stable R) {body : Int → Db → Except String (α × Db)}
    (hbody : ∀ {now a} {db db' : Db}, body now db = .ok (a, db') → db.Settles db') :
    Keeps discipline () R (transact body) := by
  refine keeps_database hR fun now db ↦ ?_
  unfold transaction
  split
  · rename_i a db' hdb'
    exact hbody hdb'
  · exact .refl db

/-- The answer to a question is about the tables that the question leaves. -/
theorem wp_query (hR : Stable R) {f : Int → Db → α} (hw : R w)
    (hQ : ∀ w', R w' → Q (f w'.now w'.db) w') (hE : ∀ e w', R w' → E e w') :
    wp discipline () (query f) Q E w := by
  rcases hrun : Db.afterSuppression w.now (fun db ↦ .ok (f w.now db, db)) w.db with ⟨result, db⟩
  have hspec : w.db.Settles db ∧ ∀ a, result = .ok a → a = f w.now db := by
    unfold Db.afterSuppression at hrun
    split at hrun
    · obtain ⟨rfl, rfl⟩ := Prod.mk.inj hrun
      exact ⟨.refl _, fun a ha ↦ by cases ha⟩
    · rename_i db₁ hsuppress
      obtain ⟨rfl, rfl⟩ := Prod.mk.inj hrun
      exact ⟨Db.settles_suppressUnauthorized hsuppress, fun a ha ↦ (Except.ok.inj ha).symm⟩
  obtain ⟨hsettles, hanswer⟩ := hspec
  have hinv : Inv { w with db := db } := (hR.inv hw).settles hsettles rfl rfl
  have hkept : R { w with db := db } := hR.rely (rely_of_settles hsettles rfl) hinv hw
  refine wp_database (by rw [hrun]; exact hinv) (fun a ha ↦ ?_) fun e _ ↦ ?_
  · rw [hrun] at ha ⊢
    rw [hanswer a ha]
    exact hQ { w with db := db } hkept
  · rw [hrun]
    exact hE _ _ hkept

end

/-! ### Completion and waiting -/

section

variable {R : World → Prop} {eventId : EventId} {cfg : Config}

theorem keeps_markNeedsReview (hR : Stable R) (code message : String) :
    Keeps discipline () R (markNeedsReview eventId code message) :=
  keeps_transact hR Db.settles_markNeedsReview

theorem keeps_markBlocked (hR : Stable R) (message : String) (source : List EventStatus) :
    Keeps discipline () R (markBlocked eventId message source) :=
  keeps_transact hR Db.settles_markBlocked

theorem keeps_recordWaitingError (hR : Stable R) (code message : String) :
    Keeps discipline () R (recordWaitingError eventId code message) :=
  keeps_transact hR Db.settles_recordWaitingError

theorem keeps_verify (hR : Stable R) (result : ResultEnvelope) :
    Keeps discipline () R (verify cfg eventId result) := by
  refine (keeps_transact hR fun {now a db db'} h ↦ ?_).bind fun verification ↦ ?_
  · cases hrequest : notificationVerificationRequest cfg.env eventId result db with
    | ok request =>
        simp only [hrequest, Except.map, Except.ok.injEq, Prod.mk.injEq] at h
        obtain ⟨-, rfl⟩ := h
        exact .refl db
    | error e =>
        simp only [hrequest, Except.map] at h
        contradiction
  · cases verification with
    | none => exact keeps_pure none
    | some verification =>
        refine Keeps.ite ?_ (keeps_pure none)
        refine (keeps_await hR (Call.settle verification)).bind fun reply ↦ ?_
        exact (keeps_settled reply).bind fun evidence ↦ keeps_pure (some evidence)

theorem keeps_saveResult (hR : Stable R) (resultPath : String) :
    Keeps discipline () R (saveResult cfg eventId resultPath) := by
  refine (keeps_await hR (Call.readResultEnvelope resultPath eventId)).bind fun reply ↦ ?_
  refine (keeps_settled reply).bind fun result ↦ (keeps_verify hR result).bind fun evidence ↦ ?_
  cases result.status with
  | completed => exact keeps_transact hR Db.settles_saveCompleted
  | failed => exact keeps_transact hR Db.settles_saveFailedResult

theorem keeps_tryComplete (hR : Stable R) (resultPath : String) (terminalAgentState : Bool) :
    Keeps discipline () R (tryComplete cfg eventId resultPath terminalAgentState) := by
  refine (keeps_saveResult hR resultPath).attempt.bind fun outcome ↦ ?_
  cases outcome with
  | ok result => exact keeps_pure true
  | error error =>
      refine Keeps.ite (keeps_pure false) ((keeps_read _).bind fun current ↦ ?_)
      refine Keeps.ite (keeps_pure true) ?_
      exact (keeps_markNeedsReview hR _ _).bind fun _ ↦ keeps_pure true

theorem keeps_resumeUnavailable (hR : Stable R) (row : EventRow) (errorCode : String)
    (waited : HerdrCommandResult) :
    Keeps discipline () R (resumeUnavailable cfg eventId row errorCode waited) := by
  refine (keeps_read _).bind fun now ↦ Keeps.ite (keeps_markNeedsReview hR _ _) ?_
  exact Keeps.ite (keeps_recordWaitingError hR _ _) (keeps_pure ())

theorem keeps_resumeAfterWait (hR : Stable R) (row : EventRow) (resultPath : String)
    (waited : HerdrCommandResult) :
    Keeps discipline () R (resumeAfterWait cfg eventId row resultPath waited) := by
  refine (keeps_read _).bind fun w ↦ Keeps.ite (keeps_pure ()) (Keeps.ite (keeps_pure ()) ?_)
  refine Keeps.ite ?_ (Keeps.ite (keeps_markBlocked hR _ _) ?_)
  · exact Keeps.ite (keeps_resumeUnavailable hR _ _ _) (keeps_recordWaitingError hR _ _)
  · refine Keeps.ite (keeps_recordWaitingError hR _ _) ?_
    exact (keeps_tryComplete hR _ _).bind fun _ ↦ keeps_pure ()

theorem keeps_resumeWaiting (hR : Stable R) (row : EventRow) :
    Keeps discipline () R (resumeWaiting cfg eventId row) := by
  unfold resumeWaiting
  cases row.resultPath with
  | none => exact keeps_markNeedsReview hR _ _
  | some resultPath =>
      refine (keeps_tryComplete hR _ _).bind fun existing ↦ Keeps.ite (keeps_pure ()) ?_
      refine (keeps_await hR Call.wait).bind fun waited ↦ ?_
      exact keeps_resumeAfterWait hR _ _ waited

/-! ### Dispatch -/

variable {w : World}

/-- Who finds the event queued has no prompt to wait for. -/
theorem Inv.not_owed {event : EventRow} (hw : Inv w)
    (hevent : w.db.events.get? eventId = some event)
    (hqueued : event.status.isDispatchable = true) : ¬Owed eventId w.log := by
  intro howed
  obtain ⟨event', hevent', hnot⟩ := hw.owed howed
  obtain rfl := Option.some.inj (hevent.symm.trans hevent')
  rw [hqueued] at hnot
  contradiction

theorem keeps_recordPreDispatchFailure (hR : Stable R) (code message : String) :
    Keeps discipline () R (recordPreDispatchFailure cfg eventId code message) := by
  intro w hw
  refine wp_transact (fun u db hdb ↦ ?_) (fun e _ ↦ hw) (hR.inv hw)
  obtain ⟨event, hevent, hqueued, hreleases⟩ := Db.recordPreDispatchFailure_spec hdb
  have hinv : Inv { w with db := db } := by
    refine (hR.inv hw).releases hreleases rfl (fun {id} howed ↦ ⟨?_, howed⟩) (hR.inv hw).disciplined
    rintro rfl
    exact (hR.inv hw).not_owed hevent hqueued howed
  exact ⟨hinv, hR.rely (rely_of_releases hreleases rfl) hinv hw⟩

/-- A dispatch that has begun is the only one. -/
structure Begun (eventId : EventId) (w : World) : Prop where
  held : HeldBy eventId w
  dispatching : w.Dispatching eventId
  notOwed : ¬Owed eventId w.log

theorem Free.takes {db : Db} (h : Free w) (htakes : Db.Takes eventId w.db db)
    (hdispatching : ({ w with db := db } : World).Dispatching eventId) :
    Begun eventId { w with db := db } := by
  have hothers : ∀ {id event'}, db.events.get? id = some event' → id ≠ eventId →
      ∃ event, w.db.events.get? id = some event ∧ event.Settles event' := by
    intro id event' hevent' hne
    obtain ⟨event, hevent, hmoves⟩ := htakes.events.exists_old hevent'
    rw [if_neg hne] at hmoves
    exact ⟨event, hevent, hmoves⟩
  have hheld : ∀ id, ({ w with db := db } : World).Owned id → id = eventId := by
    rintro id ⟨event', hevent', howned⟩
    by_contra hne
    obtain ⟨event, hevent, hsettles⟩ := hothers hevent' hne
    exact h.2 id ⟨event, hevent, hsettles.agentOwned howned⟩
  obtain ⟨event', hevent', hstatus⟩ := hdispatching
  obtain ⟨event, hevent, hmoves⟩ := htakes.events.exists_old hevent'
  rw [if_pos rfl] at hmoves
  have hnotOwed := h.1.not_owed hevent hmoves.1
  refine ⟨⟨⟨?_, htakes.runs h.1.runs, ?_, ?_, h.1.disciplined⟩, hheld⟩, ⟨event', hevent', hstatus⟩,
    hnotOwed⟩
  · intro id id' howned howned'
    rw [hheld id howned, hheld id' howned']
  · intro id row' hrow'
    obtain ⟨row, hrow, -⟩ := htakes.events.exists_old hrow'
    exact h.1.identities hrow
  · intro id howed
    have hne : id ≠ eventId := by
      rintro rfl
      exact hnotOwed howed
    obtain ⟨row, hrow, hnot⟩ := h.1.owed howed
    obtain ⟨row', hrow', hmoved⟩ := htakes.events.exists_new hrow
    rw [if_neg hne] at hmoved
    exact ⟨row', hrow', hmoved.not_dispatchable hnot⟩

/-- An entry that is not a prompt and makes nothing owed. -/
theorem Begun.noteBegun (h : Begun eventId w) :
    Begun eventId { w with log := .begun eventId :: w.log } where
  held := ⟨⟨h.held.1.serial, h.held.1.runs, h.held.1.identities, h.held.1.owed,
    h.held.1.disciplined⟩, h.held.2⟩
  dispatching := h.dispatching
  notOwed := h.notOwed

theorem Begun.notePrompted (h : Begun eventId w) (hbegun : w.log.head? = some (.begun eventId)) :
    HeldBy eventId { w with log := .prompted eventId :: w.log } := by
  refine ⟨⟨h.held.1.serial, h.held.1.runs, h.held.1.identities, ?_, hbegun, h.notOwed,
    h.held.1.disciplined⟩, h.held.2⟩
  rintro id (rfl | howed)
  · obtain ⟨event, hevent, hdispatching⟩ := h.dispatching
    refine ⟨event, hevent, ?_⟩
    rw [hdispatching]
    rfl
  · exact h.held.1.owed howed

theorem wp_beginDispatch (hw : Free w) (resultPath : String) :
    wp discipline () (beginDispatch eventId resultPath)
      (fun status w ↦ (status = some .completed ∧ Free w) ∨
        (status ≠ some .completed ∧ Begun eventId w ∧ w.log.head? = some (.begun eventId)))
      (fun _ ↦ Free) w := by
  unfold beginDispatch
  rw [wp_bind]
  rcases hrun : w.db.beginDispatch eventId resultPath w.now with ⟨result, db⟩
  have hfree : w.db.Settles db → Free { w with db := db } := fun hsettles ↦
    stable_free.rely (rely_of_settles hsettles rfl) (hw.1.settles hsettles rfl rfl) hw
  rcases Db.beginDispatch_spec hrun with ⟨hsettles, hcompleted⟩ | ⟨hok, htakes, hdispatching⟩
  · -- the event was suppressed, or cannot be taken up
    have hstill := hfree hsettles
    refine wp_database (by rw [hrun]; exact hstill.1) (fun u hu ↦ ?_) fun e _ ↦ ?_
    · rw [hrun] at hu ⊢
      obtain ⟨event, hevent, hstatus⟩ := hcompleted hu
      have hend : ({ w with db := db } : World).status? eventId = some .completed := by
        simp only [World.status?, hevent, Option.map_some, hstatus]
      rw [wp_bind, wp_read, hend, if_pos rfl]
      exact Or.inl ⟨rfl, hstill⟩
    · rw [hrun]
      exact hstill
  · have hbegun := hw.takes htakes hdispatching
    refine wp_database (by rw [hrun]; exact hbegun.held.1) (fun u _ ↦ ?_) fun e he ↦ ?_
    · rw [hrun]
      obtain ⟨event, hevent, hstatus⟩ := hdispatching
      have hstart : ({ w with db := db } : World).status? eventId = some .dispatching := by
        simp only [World.status?, hevent, Option.map_some, hstatus]
      have hnoted := hbegun.noteBegun
      rw [wp_bind, wp_read, hstart, if_neg (by simp), wp_bind]
      refine ⟨guarantee_of_inv fun _ ↦ hnoted.held.1, ?_⟩
      exact Or.inr ⟨by simp, hnoted, rfl⟩
    · rw [hrun, hok] at he
      contradiction

/-- The event that the agent has leaves it. -/
theorem wp_release {body : Int → Db → Except String (Unit × Db)}
    (hsettles : ∀ {now u} {db db' : Db}, body now db = .ok (u, db') → db.Settles db')
    (hreleases : ∀ {now u} {db db' : Db}, body now db = .ok (u, db') →
      Db.Releases eventId db db')
    (hw : HeldBy eventId w) :
    wp discipline () (transact body) (fun _ ↦ Quiet) (fun _ _ ↦ True) w := by
  refine wp_transact (fun u db hdb ↦ ?_) (fun _ _ ↦ trivial) hw.1
  have hinv : Inv { w with db := db } := hw.1.settles (hsettles hdb) rfl rfl
  exact ⟨hinv, hw.released (hreleases hdb) rfl hinv⟩

theorem wp_recordSafePromptFailure (hw : HeldBy eventId w) (code message : String) :
    wp discipline () (recordSafePromptFailure cfg eventId code message) (fun _ ↦ Quiet)
      (fun _ _ ↦ True) w := by
  refine Coroutine.wp_transact (fun u w' hw' ↦ ?_) fun _ _ ↦ trivial
  split at hw'
  · rename_i db hdb
    obtain ⟨-, rfl⟩ := Prod.mk.inj (Except.ok.inj hw')
    have hreleases := Db.recordSafePromptFailure_spec hdb
    have hinv : Inv { w with db := db, log := .refused eventId :: w.log } :=
      hw.1.releases hreleases rfl (fun {id} howed ↦ ⟨fun hid ↦ howed.1 hid.symm, howed.2⟩)
        hw.1.disciplined
    exact ⟨guarantee_of_inv fun _ ↦ hinv, hw.released hreleases rfl hinv⟩
  · contradiction

theorem wp_rejectPrompt (hw : HeldBy eventId w) (prompted : HerdrCommandResult)
    (status : EventStatus) :
    wp discipline () (rejectPrompt cfg eventId prompted status) (fun _ ↦ Quiet)
      (fun _ _ ↦ True) w := by
  unfold rejectPrompt
  split_ifs
  · exact wp_release Db.settles_markBlocked Db.releases_markBlocked hw
  · exact wp_release Db.settles_markNeedsReview Db.releases_markNeedsReview hw
  · exact wp_recordSafePromptFailure hw _ _
  all_goals exact wp_release Db.settles_markNeedsReview Db.releases_markNeedsReview hw

theorem keeps_resumeAccepted (hR : Stable R) :
    Keeps discipline () R (resumeAccepted cfg eventId) := by
  refine (keeps_read _).bind fun row ↦ ?_
  cases row with
  | some waiting => exact keeps_resumeWaiting hR waiting
  | none => exact keeps_throw _

theorem wp_acceptPrompt (hw : HeldBy eventId w) {status : EventStatus}
    (hstatus : w.status? eventId = some status) :
    wp discipline () (acceptPrompt cfg eventId status) (fun _ ↦ Quiet) (fun _ _ ↦ True) w := by
  unfold acceptPrompt
  rw [wp_bind]
  refine wp_mono (fun u w' hw' ↦ wp_mono (fun _ _ h ↦ h) (fun _ _ _ ↦ trivial)
    (keeps_resumeAccepted stable_quiet w' hw')) (fun _ _ h ↦ h) ?_
  by_cases hdispatching : status = .dispatching
  · rw [if_pos hdispatching]
    refine wp_transact (fun u db hdb ↦ ?_) (fun _ _ ↦ trivial) hw.1
    cases hmark : w.db.markWaiting eventId w.now with
    | error e =>
        simp only [hmark, Except.map] at hdb
        contradiction
    | ok db' =>
        simp only [hmark, Except.map, Except.ok.injEq, Prod.mk.injEq, true_and] at hdb
        subst hdb
        have hsettles := Db.settles_markWaiting hmark
        have hinv : Inv { w with db := db' } := hw.1.settles hsettles rfl rfl
        have hheld : HeldBy eventId { w with db := db' } :=
          stable_heldBy.rely (rely_of_settles hsettles rfl) hinv hw
        obtain ⟨event, hevent, hwaiting⟩ := Db.get?_transitionEvent hmark
        refine ⟨hinv, hheld.quiet ?_⟩
        rintro ⟨event', hevent', hstill⟩
        obtain rfl := Option.some.inj (hevent.symm.trans hevent')
        rw [hwaiting] at hstill
        contradiction
  · rw [if_neg hdispatching]
    refine hw.quiet ?_
    rintro ⟨event, hevent, hstill⟩
    simp only [World.status?, hevent, Option.map_some, Option.some.injEq] at hstatus
    exact hdispatching (hstatus.symm.trans hstill)

theorem wp_afterPrompt (hw : HeldBy eventId w) (prompted : HerdrCommandResult) :
    wp discipline () (afterPrompt cfg eventId prompted) (fun _ ↦ Quiet) (fun _ _ ↦ True) w := by
  unfold afterPrompt
  rw [wp_bind, wp_read]
  split
  · rename_i hnone
    refine hw.quiet ?_
    rintro ⟨event, hevent, -⟩
    simp [World.status?, hevent] at hnone
  · rename_i status hstatus
    by_cases howned : status.isAgentOwned = false
    · rw [if_pos howned]
      refine hw.quiet ?_
      rintro ⟨event, hevent, hdispatching⟩
      simp only [id, World.status?, hevent, Option.map_some, Option.some.injEq] at hstatus
      rw [← hstatus, hdispatching] at howned
      contradiction
    rw [if_neg howned]
    split_ifs
    · exact wp_release Db.settles_markNeedsReview Db.releases_markNeedsReview hw
    · exact wp_rejectPrompt hw prompted status
    · exact wp_acceptPrompt hw hstatus

theorem wp_submit (hw : Free w) (row : EventRow) (resultPath : String) :
    wp discipline () (submit cfg eventId row resultPath) (fun _ ↦ Quiet) (fun _ _ ↦ True) w := by
  unfold submit
  rw [wp_bind]
  refine wp_mono (fun status w' hbegun ↦ ?_) (fun _ _ _ ↦ trivial) (wp_beginDispatch hw resultPath)
  rcases hbegun with ⟨rfl, hfree⟩ | ⟨hstatus, hbegun, hlog⟩
  · exact hfree.quiet
  · have hheld := hbegun.notePrompted hlog
    rw [if_neg hstatus, wp_bind, note, wp_write]
    refine ⟨guarantee_of_inv fun _ ↦ hheld.1, ?_⟩
    rw [wp_bind]
    exact wp_mono (fun prompted w'' hw'' ↦ wp_afterPrompt hw'' prompted) (fun _ _ _ ↦ trivial)
      (keeps_await stable_heldBy (Call.prompt eventId resultPath row) _ hheld)

/-- A dispatch that begins although there is a result file ends at once: the review of an event
that the agent has never fails. -/
theorem wp_rejectExistingResult (hw : Free w) (row : EventRow) (resultPath : String) :
    wp discipline () (rejectExistingResult eventId row resultPath) (fun _ ↦ Quiet) (fun _ ↦ Free)
      w := by
  unfold rejectExistingResult
  rw [wp_bind]
  refine wp_mono (fun reply w₁ hw₁ ↦ ?_) (fun _ _ h ↦ h)
    (keeps_await stable_free (Call.access resultPath) w hw)
  rw [wp_bind]
  refine wp_mono (fun u w₂ hw₂ ↦ ?_) (fun _ _ h ↦ h) (keeps_settled reply w₁ hw₁)
  rw [wp_bind, wp_read]
  split_ifs
  · exact hw₂.quiet
  rw [wp_bind]
  refine wp_mono (fun status w₃ hbegun ↦ ?_) (fun _ _ h ↦ h) (wp_beginDispatch hw₂ resultPath)
  rcases hbegun with ⟨rfl, hfree⟩ | ⟨hstatus, hbegun, -⟩
  · exact hfree.quiet
  · rw [if_neg hstatus]
    obtain ⟨event, hevent, hdispatching⟩ := hbegun.dispatching
    have howned : event.status.isAgentOwned = true := by rw [hdispatching]; rfl
    have hinv₃ := hbegun.held.1
    refine wp_transact (fun u db hdb ↦ ?_) (fun e he ↦ ?_) hinv₃
    · have hinv : Inv { w₃ with db := db } :=
        hinv₃.settles (Db.settles_markNeedsReview hdb) rfl rfl
      exact ⟨hinv, hbegun.held.released (Db.releases_markNeedsReview hdb) rfl hinv⟩
    · obtain ⟨db, hok⟩ := Db.markNeedsReview_isOk "result_path_exists"
        "A result file already existed before prompt submission" w₃.now hevent howned hinv₃.runs
        (hinv₃.identities hevent)
      rw [hok] at he
      contradiction

theorem wp_checkResultPath (hw : Free w) (row : EventRow) (resultPath : String) :
    wp discipline () (checkResultPath cfg eventId row resultPath) (fun _ ↦ Quiet)
      (fun _ _ ↦ True) w := by
  unfold checkResultPath
  rw [wp_bind, wp_attempt]
  refine wp_mono (fun u w₁ hw₁ ↦ hw₁) (fun error w₁ hw₁ ↦ ?_)
    (wp_rejectExistingResult hw row resultPath)
  rw [wp_bind, wp_read]
  split_ifs
  · exact hw₁.quiet
  · split
    · exact wp_submit hw₁ row resultPath
    · exact wp_mono (fun _ _ h ↦ h.quiet) (fun _ _ _ ↦ trivial)
        (keeps_recordPreDispatchFailure stable_free _ _ w₁ hw₁)

theorem wp_dispatch (hw : Free w) (row : EventRow) :
    wp discipline () (dispatch cfg eventId row) (fun _ ↦ Quiet) (fun _ _ ↦ True) w := by
  unfold dispatch
  rw [wp_bind]
  refine wp_mono (fun preflight w₁ hw₁ ↦ ?_) (fun _ _ _ ↦ trivial)
    (keeps_await stable_free Call.get w hw)
  have hkept : ∀ {p : Program Unit}, Keeps discipline () Free p →
      wp discipline () p (fun _ ↦ Quiet) (fun _ _ ↦ True) w₁ := fun hp ↦
    wp_mono (fun _ _ h ↦ h.quiet) (fun _ _ _ ↦ trivial) (hp w₁ hw₁)
  rw [wp_bind, wp_read]
  split_ifs
  · exact hw₁.quiet
  · exact hw₁.quiet
  · exact hkept (keeps_recordPreDispatchFailure stable_free _ _)
  · exact hkept (keeps_markBlocked stable_free _ _)
  · exact hw₁.quiet
  · exact wp_checkResultPath hw₁ row _

/-! ### The loop -/

theorem wp_handleNext (hw : Quiet w) :
    wp discipline () (handleNext cfg) (fun _ ↦ Quiet) (fun _ _ ↦ True) w := by
  unfold handleNext
  rw [wp_bind]
  refine wp_query stable_quiet hw (fun w₁ hw₁ ↦ ?_) fun _ _ _ ↦ trivial
  split_ifs
  · exact hw₁
  rw [wp_bind]
  refine wp_query stable_quiet hw₁ (fun w₂ hw₂ ↦ ?_) fun _ _ _ ↦ trivial
  split
  · rw [wp_bind]
    exact wp_mono (fun _ _ h ↦ h) (fun _ _ _ ↦ trivial)
      (keeps_resumeWaiting stable_quiet _ w₂ hw₂)
  · -- nothing waits and nothing is being dispatched
    rename_i hnone
    have hfree : Free w₂ := by
      refine ⟨hw₂.1, ?_⟩
      rintro id ⟨event, hevent, howned⟩
      have hwaiting := Table.find?_eq_none_iff.mp hnone id event hevent
      have hdispatching : event.status ≠ .dispatching := fun h ↦ hw₂.2 id ⟨event, hevent, h⟩
      simp only [decide_eq_false_iff_not] at hwaiting
      revert howned
      cases hstatus : event.status <;> simp_all [EventStatus.isAgentOwned]
    rw [wp_bind]
    refine wp_query stable_free hfree (fun w₃ hw₃ ↦ ?_) fun _ _ _ ↦ trivial
    split
    · rw [wp_bind]
      exact wp_mono (fun _ _ h ↦ h) (fun _ _ h ↦ h) (wp_dispatch hw₃ _)
    · exact hw₃.quiet

theorem wp_round (hw : Quiet w) :
    wp discipline () (round cfg) (fun _ ↦ Quiet) (fun _ _ ↦ True) w := by
  unfold round
  rw [wp_bind, wp_read]
  split_ifs
  · exact hw
  rw [wp_bind]
  refine wp_mono (fun handled w₁ hw₁ ↦ ?_) (fun _ _ h ↦ h) (wp_handleNext hw)
  rw [wp_bind, wp_read]
  split_ifs
  · exact hw₁
  · have hwait : Keeps discipline () Quiet (call Call.wakeSignal : Program Unit) :=
      keeps_await stable_quiet _
    rw [wp_bind]
    exact wp_mono (fun _ _ h ↦ h) (fun _ _ _ ↦ trivial) (hwait w₁ hw₁)
  · exact hw₁

theorem wp_start (hw : Inv w) (rounds : ℕ) :
    wp discipline () (start cfg rounds) (fun _ _ ↦ True) (fun _ _ ↦ True) w := by
  unfold start
  rw [wp_bind]
  refine wp_transact (fun u db hdb ↦ ?_) (fun _ _ ↦ trivial) hw
  obtain ⟨hsettles, hnone⟩ := Db.recoverStaleDispatching_spec hdb
  have hinv : Inv { w with db := db } := hw.settles hsettles rfl rfl
  have hquiet : Quiet { w with db := db } := by
    refine ⟨hinv, ?_⟩
    rintro id ⟨event, hevent, hdispatching⟩
    exact hnone id event hevent hdispatching
  have hout : ∀ (b : Unit) (w₁ : World), Quiet w₁ →
      wp discipline () (pure () : Program Unit) (fun _ _ ↦ True) (fun _ _ ↦ True) w₁ :=
    fun _ _ _ ↦ trivial
  refine ⟨hinv, wp_iterate (I := fun _ ↦ Quiet) hout (fun _ w₁ hw₁ ↦ ?_) rounds () hquiet⟩
  refine wp_mono (fun result w₂ hw₂ ↦ ?_) (fun _ _ h ↦ h) (wp_round hw₁)
  cases result with
  | inl u => exact hw₂
  | inr u => trivial

end

/-! ### The others -/

/-- The operations of the dispatcher that let events end or stay where they are. -/
inductive Operation
  | suppressEvents (scheduleId : ScheduleId) (timestamp : Timestamp)
  | suppressNotifications (scheduleId : ScheduleId) (timestamp : Timestamp)
  | closeNotices (scheduleId : ScheduleId) (timestamp : Timestamp)
  | suppressUnauthorizedScheduledNotifications
  | authorizeJobNotification (eventId : EventId) (receipt : Option AccessReceipt)
  | recordScheduleJobAccess (eventId : EventId) (receipt : AccessReceipt)
  | manualComplete (eventId : EventId)
  | manualDeadLetter (eventId : EventId)
  | claimNotificationReconciliation (eventId : EventId) (resume : Bool)
  | reconcileScheduledNotification (eventId : EventId) (receipt : Db.PostReceipt)
      (claimToken : Option String)
  | reconcileScheduledNotificationNotSent (eventId : EventId) (claimToken : Option String)
  | markNotificationSessionNeedsReview (eventId : EventId)
  | supersedeNotice (eventId : EventId)

def Operation.tables (now : Int) (db : Db) : Operation → Db
  | suppressEvents scheduleId timestamp => db.suppressEvents scheduleId timestamp
  | suppressNotifications scheduleId timestamp => db.suppressNotifications scheduleId timestamp
  | closeNotices scheduleId timestamp => db.closeNotices scheduleId timestamp
  | suppressUnauthorizedScheduledNotifications =>
      commit (Db.suppressUnauthorizedScheduledNotifications now) db
  | authorizeJobNotification eventId receipt => (db.authorizeJobNotification eventId now receipt).2
  | recordScheduleJobAccess eventId receipt =>
      commit (Db.recordScheduleJobAccess eventId receipt now) db
  | manualComplete eventId => commit (Db.manualComplete eventId now) db
  | manualDeadLetter eventId => commit (Db.manualDeadLetter eventId now) db
  | claimNotificationReconciliation eventId resume =>
      commit (Db.claimNotificationReconciliation eventId resume) db
  | reconcileScheduledNotification eventId receipt claimToken =>
      commit (Db.reconcileScheduledNotification eventId receipt now claimToken) db
  | reconcileScheduledNotificationNotSent eventId claimToken =>
      commit (Db.reconcileScheduledNotificationNotSent eventId now claimToken) db
  | markNotificationSessionNeedsReview eventId =>
      commit (Db.markNotificationSessionNeedsReview eventId now) db
  | supersedeNotice eventId => commit (Db.supersedeNotice eventId (.toIso now)) db

theorem Operation.settles (op : Operation) (now : Int) (db : Db) :
    db.Settles (op.tables now db) := by
  have hcommit : ∀ {α : Type} {body : Db → Except String (α × Db)},
      (∀ a db', body db = .ok (a, db') → db.Settles db') → db.Settles (commit body db) :=
    fun h ↦ commit_induction (.refl db) h
  cases op with
  | suppressEvents => exact Db.settles_suppressEvents ..
  | suppressNotifications => exact Db.settles_suppressNotifications ..
  | closeNotices => exact Db.settles_closeNotices ..
  | suppressUnauthorizedScheduledNotifications =>
      exact hcommit fun _ _ ↦ Db.settles_suppressUnauthorized
  | authorizeJobNotification => exact Db.settles_authorizeJobNotification ..
  | recordScheduleJobAccess => exact hcommit fun _ _ ↦ Db.settles_recordScheduleJobAccess
  | manualComplete => exact hcommit fun _ _ ↦ Db.settles_manualComplete
  | manualDeadLetter => exact hcommit fun _ _ ↦ Db.settles_manualDeadLetter
  | claimNotificationReconciliation =>
      exact hcommit fun _ _ ↦ Db.settles_claimNotificationReconciliation
  | reconcileScheduledNotification =>
      exact hcommit fun _ _ ↦ Db.settles_reconcileScheduledNotification
  | reconcileScheduledNotificationNotSent =>
      exact hcommit fun _ _ ↦ Db.settles_reconcileScheduledNotificationNotSent
  | markNotificationSessionNeedsReview =>
      exact hcommit fun _ _ ↦ Db.settles_markNotificationSessionNeedsReview
  | supersedeNotice => exact hcommit fun _ _ ↦ Db.settles_supersedeNotice

/-- What happens between two steps of the worker. Identifiers are drawn as identities, and what
else the process does adds events, lets them end or leaves them. -/
inductive Environment (w : World) : World → Prop
  | clock (now : Int) : Environment w { w with now := now }
  | stop : Environment w { w with stopping := true }
  | quiesceAfterCurrent : Environment w { w with quiescing := true }
  | enqueue {envelope : EventEnvelope} {timestamp : Timestamp} {result : EnqueueResult} {db : Db} :
      isIdentity s!"evt_{w.db.nextUuid}" = true →
        w.db.enqueue envelope timestamp = .ok (result, db) → Environment w { w with db := db }
  | operation (now : Int) (op : Operation) : Environment w { w with db := op.tables now w.db }
  | manualRetry {eventId : EventId} {force : Bool} {now : Int} {files : String → Bool} {db : Db} :
      w.db.manualRetry eventId force now files = .ok ((), db) →
        Environment w { w with db := db, log := .retried eventId :: w.log }
  | other {db : Db} : w.db.Admits db → Environment w { w with db := db }

theorem Environment.sound {w w' : World} (h : Environment w w') (hw : Inv w) :
    Inv w' ∧ rely () w w' := by
  cases h with
  | clock => exact ⟨hw.settles (.refl w.db) rfl rfl, rely_of_settles (.refl w.db) rfl⟩
  | stop => exact ⟨hw.settles (.refl w.db) rfl rfl, rely_of_settles (.refl w.db) rfl⟩
  | quiesceAfterCurrent =>
      exact ⟨hw.settles (.refl w.db) rfl rfl, rely_of_settles (.refl w.db) rfl⟩
  | enqueue hid henqueue =>
      have hadmits := Db.admits_enqueue hid henqueue
      exact ⟨hw.admits hadmits, rely_of_admits hadmits rfl⟩
  | operation now op =>
      have hsettles := op.settles now w.db
      exact ⟨hw.settles hsettles rfl rfl, rely_of_settles hsettles rfl⟩
  | manualRetry hretry =>
      have hreleases := Db.releases_manualRetry hretry
      refine ⟨hw.releases hreleases rfl (fun {id} howed ↦ ?_) hw.disciplined,
        rely_of_releases hreleases rfl⟩
      exact ⟨fun hid ↦ howed.1 hid.symm, howed.2⟩
  | other hadmits => exact ⟨hw.admits hadmits, rely_of_admits hadmits rfl⟩

/-! ### Every interleaving -/

variable (cfg : Config)

/-- The worker of one process after another, from an empty database. -/
def surroundings : Pool.Surroundings World Reply Failure Unit where
  initial w := w.db = .fresh ∧ w.log = []
  perform _ w _ w' := w' = w
  programs _ _ p := ∃ rounds, p = start cfg rounds
  kill _ w w' := w' = { w with stopping := false, quiescing := false }
  environment := Environment

def worker : TransitionSystem (Pool World Reply Failure Unit) (Pool.Event Unit) :=
  Pool.system (surroundings cfg)

theorem obeys : Pool.Obeys (surroundings cfg) discipline where
  initial := by
    rintro w ⟨hdb, hlog⟩
    have hnone : ∀ id, w.db.events.get? id = none := fun id ↦ by rw [hdb]; rfl
    refine ⟨?_, ?_, ?_, ?_, ?_⟩
    · rintro id id' ⟨event, hevent, -⟩
      simp [hnone] at hevent
    · intro runId run hrun
      rw [hdb] at hrun
      contradiction
    · intro id event hevent
      simp [hnone] at hevent
    · intro id howed
      rw [hlog] at howed
      contradiction
    · rw [hlog]
      trivial
  perform h := h
  programs := by
    rintro - p w ⟨rounds, rfl⟩ hw
    exact wp_start hw rounds
  inv_kill := by
    rintro - w w' rfl hw
    exact Inv.settles hw (.refl w.db) rfl rfl
  rely_kill hne := absurd rfl hne
  inv_environment h hw := (Environment.sound h hw).1
  rely_environment h hw := (Environment.sound h hw).2

/-- **Serial injection.** At most one event is with the agent. A prompt was sent when the
dispatch of its event had just begun, and after an earlier prompt for the same event only if an
operator retried the event or the agent was not there to take it in between. -/
theorem events_injected_serially {P : Pool World Reply Failure Unit}
    (h : (worker cfg).Reachable P) :
    (∀ id id' event event', P.shared.db.events.get? id = some event →
      P.shared.db.events.get? id' = some event' → event.status.isAgentOwned = true →
        event'.status.isAgentOwned = true → id = id') ∧
      ∀ later earlier id, P.shared.log = later ++ .prompted id :: earlier →
        earlier.head? = some (.begun id) ∧
          ∀ between before, earlier = between ++ .prompted id :: before →
            .retried id ∈ between ∨ .refused id ∈ between := by
  have hinv : Inv P.shared := Pool.inv_of_reachable (obeys cfg) h
  refine ⟨fun id id' event event' hevent hevent' howned howned' ↦ ?_,
    fun later earlier id hlog ↦ ?_⟩
  · exact hinv.serial ⟨event, hevent, howned⟩ ⟨event', hevent', howned'⟩
  · have hdisciplined := hinv.disciplined
    rw [hlog] at hdisciplined
    obtain ⟨hbegun, hnotOwed, -⟩ := hdisciplined.of_append
    refine ⟨hbegun, fun between before hearlier ↦ ?_⟩
    by_contra hnone
    simp only [not_or] at hnone
    rw [hearlier] at hnotOwed
    exact hnotOwed (owed_of_prompted hnone.1 hnone.2)

/-! ### A run -/

def sampleConfig : Config := ⟨DailyReminder.plain, "/results", 3, 60000, false⟩

def sampleEvent : EventEnvelope where
  source := .slack
  externalEventId := .text "Ev1"
  type := "app_mention"
  occurredAt := .ofSeconds 1
  subject := .text "\x7b\x7d"
  payload := .text "\x7b\x7d"
  replyTarget := none

abbrev WorkerMove := Pool.Move World Reply Failure Unit

def enqueues : WorkerMove :=
  .environment fun w ↦
    if isIdentity s!"evt_{w.db.nextUuid}" then
      match w.db.enqueue sampleEvent (.ofSeconds 1) with
      | .ok (_, db) => some { w with db := db }
      | .error _ => none
    else none

/-- The agent is idle, there is no result, and the prompt is answered with `prompted`. -/
def answer (prompted : HerdrCommandResult) : (c : Call) → World → Option (Reply c × World)
  | .get, w => some ({ ok := true, agentStatus := some .idle }, w)
  | .access _, w => some (.error (.noEntry "ENOENT"), w)
  | .prompt _ _ _, w => some (prompted, w)
  | .wakeSignal, w => some ((), w)
  | _, _ => none

/-- A dispatch up to the answer of its prompt. -/
def dispatches (prompted : HerdrCommandResult) : List WorkerMove :=
  [.perform () (answer prompted), .resume (), .perform () (answer prompted), .resume (),
    .perform () (answer prompted), .resume ()]

/-- The first prompt is refused, the second one is accepted. -/
def refusedOnce : List WorkerMove :=
  [.environment fun w ↦ some { w with now := 10000 }, enqueues,
    .start () fun _ ↦ some (start sampleConfig 2)] ++
    dispatches { ok := false, errorCode := some "agent_not_found" } ++
    [.environment fun w ↦ some { w with now := 20000 },
      .perform () (answer { ok := true }), .resume ()] ++
    dispatches { ok := true }

theorem refusedOnce_lawful : ∀ move ∈ refusedOnce, move.Lawful (surroundings sampleConfig) := by
  have henqueues : enqueues.Lawful (surroundings sampleConfig) := by
    intro w w' hw'
    simp only at hw'
    split_ifs at hw' with hid
    split at hw'
    · rename_i result db hdb
      obtain rfl := Option.some.inj hw'
      exact .enqueue hid hdb
    · contradiction
  have hclock : ∀ now : Int, (Pool.Move.environment fun w ↦ some { w with now := now } :
      WorkerMove).Lawful (surroundings sampleConfig) := by
    rintro now w w' hw'
    obtain rfl := Option.some.inj hw'
    exact .clock now
  have hanswer : ∀ prompted, (Pool.Move.perform () (answer prompted) : WorkerMove).Lawful
      (surroundings sampleConfig) := by
    intro prompted c w r w' hw'
    cases c <;> simp only [answer, Option.some.injEq, Prod.mk.injEq, reduceCtorEq] at hw' <;>
      exact hw'.2.symm
  have hdispatches : ∀ prompted, ∀ move ∈ dispatches prompted,
      move.Lawful (surroundings sampleConfig) := by
    intro prompted
    simp only [dispatches, List.forall_mem_cons]
    exact ⟨hanswer _, trivial, hanswer _, trivial, hanswer _, trivial, by simp⟩
  have hstart : (Pool.Move.start () fun _ ↦ some (start sampleConfig 2) : WorkerMove).Lawful
      (surroundings sampleConfig) := by
    intro w p hp
    exact ⟨2, (Option.some.inj hp).symm⟩
  simp only [refusedOnce, List.forall_mem_append, List.forall_mem_cons]
  exact ⟨⟨⟨⟨hclock _, henqueues, hstart, by simp⟩, hdispatches _⟩, hclock _, hanswer _, trivial,
    by simp⟩, hdispatches _⟩

theorem events_injected_serially_refused :
    ∃ P, (worker sampleConfig).Reachable P ∧
      P.shared.log = [.prompted "evt_0", .begun "evt_0"] ++
        ([.refused "evt_0"] ++ [.prompted "evt_0", .begun "evt_0"]) ∧
      (.retried "evt_0" ∈ [Entry.begun "evt_0", .refused "evt_0"] ∨
        .refused "evt_0" ∈ [Entry.begun "evt_0", .refused "evt_0"]) := by
  obtain ⟨P, hP, hlog⟩ := Pool.Script.exists_reachable
    (c := [.prompted "evt_0", .begun "evt_0"] ++
        ([.refused "evt_0"] ++ [.prompted "evt_0", .begun "evt_0"]))
    (f := fun P ↦ P.shared.log) refusedOnce_lawful (s := ⟨.fresh, 0, false, false, []⟩)
    ⟨rfl, rfl⟩ (by decide +kernel)
  obtain ⟨-, hprompts⟩ := events_injected_serially sampleConfig hP
  obtain ⟨-, hbetween⟩ := hprompts [] _ "evt_0" hlog
  exact ⟨P, hP, hlog, hbetween [.begun "evt_0", .refused "evt_0"] [.begun "evt_0"] rfl⟩

end Dona.DispatcherWorker
