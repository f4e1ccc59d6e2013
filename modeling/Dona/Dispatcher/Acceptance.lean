import Dona.Dispatcher.Delivery
import Dona.Dispatcher.Withdrawals
import Dona.Dispatcher.WriteAuthorization

/-!
# Accepted notices

A notice counts as accepted exactly if the report of the agent and the evidence of the Slack
adapter show its delivery.
-/

namespace Dona

open Fallible

/-- What the tools of the notice of a completion are checked against. -/
def CompletionResult.deliveryContext (completion : CompletionResult) (eventId : EventId)
    (jobStatus : JobStatus) : DeliveryContext :=
  ⟨eventId, jobStatus, completion.destination.target?, completion.owner.ownerId?⟩

/-- The digest of the text that the notice has to have. -/
def CompletionResult.expectedBody (completion : CompletionResult) (env : Env)
    (event : EventRow) : String :=
  completion.notificationBodySha256.getD (env.digest event.payload.notificationText)

namespace Db

/-- The notice of a completion has been delivered: the agent was allowed to write, its report has
the one post at its place, and the evidence confirms that post, made in time. -/
structure Delivered (env : Env) (db : Db) (eventId : EventId) (event : EventRow)
    (result : ResultEnvelope) (evidence : JobNotificationEvidence) (key : JobId × JobStatus)
    (completion : CompletionResult) : Prop where
  underReview : completion.notificationState = .needsReview
  mayWrite : completion.notificationAuthorizationPhase = .write
  posted : ∃ report : DeliveryContext.PostReport (completion.deliveryContext eventId key.2)
      (completion.expectedBody env event) result.actions,
    (completion.deliveryContext eventId key.2).receiptValid (completion.expectedBody env event)
      report.post.messageTs evidence = true
  /-- at most 900 seconds after the completion was materialized, -/
  withinDeadline : evidence.postedAt.millis ≤ completion.materializedAt.millis + 900000
  /-- before the authorization of the schedule expires, -/
  withinExpiry : ∃ revision, db.noticeRevision? completion = some revision ∧
    evidence.postedAt.millis < revision.expiresAt.millis
  /-- and close to the authorization of the write. -/
  withinWrite : ∃ authorizedAt, completion.notificationWriteAuthorizedAt = some authorizedAt ∧
    authorizedAt.millis - 5000 ≤ evidence.postedAt.millis ∧
      evidence.postedAt.millis ≤ authorizedAt.millis + 120000

variable {env : Env} {db db' : Db} {now : Int} {eventId : EventId} {event : EventRow}
  {result : ResultEnvelope} {resultPath : String} {evidence : Option JobNotificationEvidence}
  {key : JobId × JobStatus} {row' completion : CompletionResult} {u : Unit}

/-! ### The decision -/

theorem postedInTime_iff {postedAt : Timestamp} :
    db.postedInTime completion postedAt = true ↔
      postedAt.millis ≤ completion.materializedAt.millis + 900000 ∧
        (∃ revision, db.noticeRevision? completion = some revision ∧
          postedAt.millis < revision.expiresAt.millis) ∧
        ∃ authorizedAt, completion.notificationWriteAuthorizedAt = some authorizedAt ∧
          authorizedAt.millis - 5000 ≤ postedAt.millis ∧
            postedAt.millis ≤ authorizedAt.millis + 120000 := by
  simp only [postedInTime, Option.any_eq_true, Bool.decide_and, Bool.and_eq_true,
    decide_eq_true_eq]

theorem notificationDelivered_iff :
    (notificationDelivered env db eventId event result evidence).1 = true ↔
      ∃ key completion posted, db.completionOf eventId = some (key, completion) ∧
        evidence = some posted ∧ Delivered env db eventId event result posted key completion := by
  unfold notificationDelivered
  cases hcompletion : db.completionOf eventId with
  | none =>
      constructor
      · intro h
        cases h
      · rintro ⟨key, completion, posted, hnone, -⟩
        cases hnone
  | some entry =>
      obtain ⟨⟨jobId, jobStatus⟩, completion⟩ := entry
      simp only [Bool.decide_and, Bool.and_eq_true, decide_eq_true_eq, Option.any_eq_true,
        DeliveryContext.postDelivered_iff, postedInTime_iff]
      constructor
      · rintro ⟨posted, hposted, hreport, ⟨hdeadline, hexpiry, hwrite⟩, hstate, hphase⟩
        exact ⟨(jobId, jobStatus), completion, posted, rfl, hposted,
          ⟨hstate, hphase, hreport, hdeadline, hexpiry, hwrite⟩⟩
      · rintro ⟨key, other, posted, heq, hposted, hdelivered⟩
        obtain ⟨rfl, rfl⟩ := Prod.mk.inj (Option.some.inj heq)
        exact ⟨posted, hposted, hdelivered.posted, ⟨hdelivered.withinDeadline,
          hdelivered.withinExpiry, hdelivered.withinWrite⟩, hdelivered.underReview,
          hdelivered.mayWrite⟩

/-- The decision reads the completions and the runs with their revisions only. -/
theorem notificationDelivered_congr (hcompletions : db'.completions = db.completions)
    (hruns : db'.runs = db.runs) (hrevisions : db'.revisions = db.revisions) :
    notificationDelivered env db' eventId event result evidence =
      notificationDelivered env db eventId event result evidence := by
  unfold notificationDelivered completionOf postedInTime noticeRevision? revision?
  rw [hcompletions, hruns, hrevisions]

theorem Delivered.runId (h : ∃ posted, Delivered env db eventId event result posted key completion) :
    ∃ runId, completion.owner.runId? = some runId := by
  obtain ⟨posted, hdelivered⟩ := h
  obtain ⟨revision, hrevision, -⟩ := hdelivered.withinExpiry
  simp only [noticeRevision?, Option.bind_eq_bind, Option.bind_eq_some_iff] at hrevision
  obtain ⟨runId, hrunId, -⟩ := hrevision
  exact ⟨runId, hrunId⟩

theorem completionOf_eq_some (hlinked : db.NoticesLinked)
    (hrow : db.completions.get? key = some completion)
    (hevent : completion.notificationEventId = some eventId) :
    db.completionOf eventId = some (key, completion) := by
  have hreports : reports eventId completion = true := decide_eq_true hevent
  cases hfind : db.completionOf eventId with
  | none =>
      have hnone := Table.find?_eq_none_iff.mp hfind key completion hrow
      rw [hreports] at hnone
      cases hnone
  | some entry =>
      obtain ⟨hentry, hreported⟩ := Table.get?_of_find? hfind
      obtain ⟨hkey, hsame⟩ := hlinked.unique hrow hentry hevent (of_decide_eq_true hreported)
      rw [hkey, hsame]

/-! ### The state of the notice -/

/-- The notices that count as accepted after the state of one has been set. -/
theorem accepted_of_setNotificationState {state : NotificationState} {at' : Int}
    {expectedStates : Option (List NotificationState)}
    (h : db.setNotificationState eventId state at' expectedStates = .ok db')
    (hrow' : db'.completions.get? key = some row') (haccepted : row'.notificationState = .accepted) :
    db.completions.get? key = some row' ∨
      (state = .accepted ∧ ∃ row, db.completions.get? key = some row ∧
        row.notificationEventId = some eventId) := by
  simp only [setNotificationState, bind_eq_ok, throwIf_eq_ok] at h
  obtain ⟨db₁, hreview, _, -, hsettle⟩ := h
  have hmarked : db.Withdraws db₁ := by
    split_ifs at hreview
    · exact withdraws_foldlM withdraws_markForReview hreview
    · obtain rfl := Except.ok.inj hreview
      exact .refl db
  generalize hupdated : db₁.completions.updateWhere _ (withState state) = completions at hsettle
  have hset : ({ db₁ with completions := completions } : Db).completions.get? key = some row' := by
    split_ifs at hsettle
    · exact (withdraws_foldlM withdraws_settleNotice hsettle).accepted hrow' haccepted
    · obtain rfl := Except.ok.inj hsettle
      exact hrow'
  simp only [← hupdated, Table.get?_updateWhere, Option.map_eq_some_iff] at hset
  obtain ⟨row, hrow, rfl⟩ := hset
  split_ifs at haccepted with hp
  · obtain rfl : state = .accepted := haccepted
    have hsame : db₁ = db := by
      simp only [reduceCtorEq, or_self, if_false, Except.ok.injEq] at hreview
      exact hreview.symm
    simp only [Bool.decide_and, Bool.and_eq_true, decide_eq_true_eq] at hp
    exact .inr ⟨rfl, row, hsame ▸ hrow, of_decide_eq_true hp.1⟩
  · rw [if_neg hp]
    exact .inl (hmarked.accepted hrow haccepted)

/-- A notice that is set to accepted stays so, unless its write is withdrawn with the schedule. -/
theorem setNotificationState_accepted {at' : Int}
    (h : db.setNotificationState eventId .accepted at' none = .ok db')
    (hrow : db.completions.get? key = some completion)
    (hevent : completion.notificationEventId = some eventId) (hsent : ¬db.HasUnsentWrite key) :
    db'.completions.get? key = some (withState .accepted completion) ∧
      ¬db'.HasUnsentWrite key := by
  simp only [setNotificationState, bind_eq_ok, throwIf_eq_ok, reduceCtorEq, or_self, if_false,
    if_true, Except.ok.injEq] at h
  obtain ⟨_, rfl, _, -, hsettle⟩ := h
  have hwithdraws := withdraws_foldlM withdraws_settleNotice hsettle
  refine ⟨hwithdraws.kept ?_ (by simp [withState]) hsent, fun hkey ↦ hsent ?_⟩
  · simp [hrow, reports, hevent]
  · exact hwithdraws.unsent key hkey

/-! ### The two results -/

/-- An event that is with the agent is not closed. -/
theorem isClosed_of_waitingAgent (hstatus : event.status = .waitingAgent) :
    isClosed event = false := by
  simp [isClosed, hstatus]

theorem accepted_of_saveCompleted
    (h : db.saveCompleted env eventId result resultPath now evidence = .ok (u, db'))
    (hrow' : db'.completions.get? key = some row') (haccepted : row'.notificationState = .accepted)
    (hnew : ∀ row, db.completions.get? key = some row → row.notificationState ≠ .accepted) :
    ∃ event row, db.events.get? eventId = some event ∧ event.status = .waitingAgent ∧
      db.completions.get? key = some row ∧ row.notificationEventId = some eventId ∧
      (notificationDelivered env db eventId event result evidence).1 = true := by
  simp only [saveCompleted, getRequired, bind_eq_ok, throwIf_eq_ok, orThrow_eq_ok] at h
  obtain ⟨_, -, event, hevent, h⟩ := h
  have hkept : ¬db.Withdraws db' := fun hwithdraws ↦
    hnew row' (hwithdraws.accepted hrow' haccepted) haccepted
  by_cases hclosed : isClosed event = true
  · rw [if_pos hclosed, Except.ok.injEq, Prod.mk.injEq] at h
    obtain ⟨-, rfl⟩ := h
    exact absurd (Withdraws.refl db) hkept
  rw [if_neg hclosed] at h
  by_cases hundelegated : event.source = .donaSchedule ∧ db.isUndelegated eventId = true
  · rw [if_pos hundelegated] at h
    simp only [endUndelegated, bind_eq_ok, Except.ok.injEq, Prod.mk.injEq] at h
    obtain ⟨db₁, ⟨db₂, htransition, hsettle⟩, -, rfl⟩ := h
    exact absurd ((withdraws_transitionEvent htransition).trans
      (withdraws_settleUndelegated hsettle)) hkept
  rw [if_neg hundelegated] at h
  simp only [bind_eq_ok, Except.ok.injEq, Prod.mk.injEq] at h
  obtain ⟨db₁, htransition, db₂, hset, db₃, hhandoff, -, rfl⟩ := h
  obtain ⟨hcompletions, hruns, hrevisions, -⟩ := transitionEvent_frame htransition
  obtain ⟨current, hcurrent, hsource, -⟩ := transitionEvent_spec htransition
  obtain rfl : event = current := Option.some.inj (hevent.symm.trans hcurrent)
  have hlast : db₂.Withdraws db₃ := by
    split_ifs at hhandoff
    · exact withdraws_handoffResolvedAttention hhandoff
    · obtain rfl := Except.ok.inj hhandoff
      exact .refl db₂
  have hrow₂ := hlast.accepted hrow' haccepted
  rw [notificationDelivered_congr hcompletions hruns hrevisions] at hset
  split_ifs at hset with hrun hdelivered
  · rcases accepted_of_setNotificationState hset hrow₂ haccepted with hold | ⟨-, row, hrow, hid⟩
    · exact absurd haccepted (hnew row' (hcompletions ▸ hold))
    · exact ⟨event, row, hevent, by simpa using hsource, hcompletions ▸ hrow, hid, hdelivered⟩
  · rcases accepted_of_setNotificationState hset hrow₂ haccepted with hold | ⟨hstate, -⟩
    · exact absurd haccepted (hnew row' (hcompletions ▸ hold))
    · cases hstate
  · obtain rfl := Except.ok.inj hset
    exact absurd haccepted (hnew row' (hcompletions ▸ hrow₂))

theorem accepted_of_saveFailedResult
    (h : db.saveFailedResult env eventId result resultPath now evidence = .ok (u, db'))
    (hrow' : db'.completions.get? key = some row') (haccepted : row'.notificationState = .accepted)
    (hnew : ∀ row, db.completions.get? key = some row → row.notificationState ≠ .accepted) :
    ∃ event row, db.events.get? eventId = some event ∧ event.status = .waitingAgent ∧
      db.completions.get? key = some row ∧ row.notificationEventId = some eventId ∧
      (notificationDelivered env db eventId event result evidence).1 = true := by
  simp only [saveFailedResult, getRequired, bind_eq_ok, throwIf_eq_ok, orThrow_eq_ok] at h
  obtain ⟨_, -, event, hevent, h⟩ := h
  have hkept : ¬db.Withdraws db' := fun hwithdraws ↦
    hnew row' (hwithdraws.accepted hrow' haccepted) haccepted
  by_cases hclosed : isClosed event = true
  · rw [if_pos hclosed, Except.ok.injEq, Prod.mk.injEq] at h
    obtain ⟨-, rfl⟩ := h
    exact absurd (Withdraws.refl db) hkept
  rw [if_neg hclosed] at h
  by_cases hundelegated : event.source = .donaSchedule ∧ db.isUndelegated eventId = true ∧
      delegationRejected event = true
  · rw [if_pos hundelegated] at h
    simp only [endUndelegated, bind_eq_ok, Except.ok.injEq, Prod.mk.injEq] at h
    obtain ⟨db₁, ⟨db₂, htransition, hsettle⟩, -, rfl⟩ := h
    exact absurd ((withdraws_transitionEvent htransition).trans
      (withdraws_settleUndelegated hsettle)) hkept
  rw [if_neg hundelegated] at h
  by_cases hdelivered : (notificationDelivered env db eventId event result evidence).1 = true
  · rw [if_pos hdelivered] at h
    simp only [bind_eq_ok, Except.ok.injEq, Prod.mk.injEq] at h
    obtain ⟨db₁, htransition, db₂, hset, -, rfl⟩ := h
    obtain ⟨hcompletions, -, -, -⟩ := transitionEvent_frame htransition
    obtain ⟨current, hcurrent, hsource, -⟩ := transitionEvent_spec htransition
    obtain rfl : event = current := Option.some.inj (hevent.symm.trans hcurrent)
    rcases accepted_of_setNotificationState hset hrow' haccepted with hold | ⟨-, row, hrow, hid⟩
    · exact absurd haccepted (hnew row' (hcompletions ▸ hold))
    · exact ⟨event, row, hevent, by simpa using hsource, hcompletions ▸ hrow, hid, hdelivered⟩
  · rw [if_neg hdelivered] at h
    simp only [failUndelivered, bind_eq_ok, Except.ok.injEq, Prod.mk.injEq] at h
    obtain ⟨db₁, ⟨db₂, htransition, db₃, hsettle, hset⟩, -, rfl⟩ := h
    have hwithdraws := (withdraws_transitionEvent htransition).trans
      (withdraws_settleUndelegated hsettle)
    rcases accepted_of_setNotificationState hset hrow' haccepted with hold | ⟨hstate, -⟩
    · exact absurd haccepted (hnew row' (hwithdraws.accepted hold haccepted))
    · split_ifs at hstate

section Converse

variable (hlinked : db.NoticesLinked) (hevent : db.events.get? eventId = some event)
  (hstatus : event.status = .waitingAgent) (hrow : db.completions.get? key = some completion)
  (hid : completion.notificationEventId = some eventId)
  (hdelivered : ∃ posted, evidence = some posted ∧
    Delivered env db eventId event result posted key completion)
  (hsent : ¬db.HasUnsentWrite key)

include hlinked hrow hid hdelivered in
theorem notificationDelivered_of_delivered :
    (notificationDelivered env db eventId event result evidence).1 = true ∧
      (notificationDelivered env db eventId event result evidence).2.isSome = true := by
  have hfind := completionOf_eq_some hlinked hrow hid
  obtain ⟨posted, hposted, hdelivered⟩ := hdelivered
  refine ⟨notificationDelivered_iff.mpr ⟨key, completion, posted, hfind, hposted, hdelivered⟩, ?_⟩
  obtain ⟨runId, hrunId⟩ := Delivered.runId ⟨posted, hdelivered⟩
  unfold notificationDelivered
  rw [hfind]
  simp only [hrunId, Option.isSome_some]

include hlinked hevent hrow hid in
/-- The event of a notice is none of the schedule. -/
theorem source_of_linked : event.source = .donaJob := by
  obtain ⟨other, hother, hsource, -⟩ := hlinked key completion eventId hrow hid
  obtain rfl : event = other := Option.some.inj (hevent.symm.trans hother)
  exact hsource

include hlinked hevent hstatus hrow hid hdelivered hsent

theorem saveCompleted_of_delivered
    (h : db.saveCompleted env eventId result resultPath now evidence = .ok (u, db')) :
    db'.completions.get? key = some (withState .accepted completion) := by
  obtain ⟨htrue, hrun⟩ :=
    notificationDelivered_of_delivered hlinked hrow hid hdelivered
  have hsource := source_of_linked hlinked hevent hrow hid
  simp only [saveCompleted, getRequired, hevent, bind_eq_ok, throwIf_eq_ok, orThrow_eq_ok,
    Option.some.injEq] at h
  obtain ⟨_, -, _, rfl, h⟩ := h
  rw [isClosed_of_waitingAgent hstatus, if_neg Bool.false_ne_true, hsource] at h
  simp only [reduceCtorEq, false_and, if_false, if_true, bind_eq_ok, Except.ok.injEq, Prod.mk.injEq] at h
  obtain ⟨db₁, htransition, db₂, hset, db₃, hhandoff, -, rfl⟩ := h
  obtain ⟨hcompletions, hruns, hrevisions, houtbox⟩ := transitionEvent_frame htransition
  rw [notificationDelivered_congr hcompletions hruns hrevisions, htrue, hrun, if_pos rfl,
    if_pos rfl] at hset
  have hsent₁ : ¬db₁.HasUnsentWrite key :=
    fun hkey ↦ hsent ((withdraws_transitionEvent htransition).unsent key hkey)
  obtain ⟨hrow₂, hsent₂⟩ := setNotificationState_accepted hset (hcompletions ▸ hrow) hid hsent₁
  exact (withdraws_handoffResolvedAttention hhandoff).kept hrow₂ (by simp [withState]) hsent₂

theorem saveFailedResult_of_delivered
    (h : db.saveFailedResult env eventId result resultPath now evidence = .ok (u, db')) :
    db'.completions.get? key = some (withState .accepted completion) := by
  obtain ⟨htrue, -⟩ :=
    notificationDelivered_of_delivered hlinked hrow hid hdelivered
  have hsource := source_of_linked hlinked hevent hrow hid
  simp only [saveFailedResult, getRequired, hevent, bind_eq_ok, throwIf_eq_ok, orThrow_eq_ok,
    Option.some.injEq] at h
  obtain ⟨_, -, _, rfl, h⟩ := h
  rw [isClosed_of_waitingAgent hstatus, if_neg Bool.false_ne_true, hsource, if_pos htrue] at h
  simp only [reduceCtorEq, false_and, if_false, bind_eq_ok, Except.ok.injEq, Prod.mk.injEq] at h
  obtain ⟨db₁, htransition, db₂, hset, -, rfl⟩ := h
  obtain ⟨hcompletions, -, -, -⟩ := transitionEvent_frame htransition
  have hsent₁ : ¬db₁.HasUnsentWrite key :=
    fun hkey ↦ hsent ((withdraws_transitionEvent htransition).unsent key hkey)
  exact (setNotificationState_accepted hset (hcompletions ▸ hrow) hid hsent₁).1

end Converse

/-- The event of the notice is with the agent, and its delivery is shown. -/
def DeliveryShown (env : Env) (db : Db) (eventId : EventId) (result : ResultEnvelope)
    (evidence : Option JobNotificationEvidence) (key : JobId × JobStatus)
    (completion : CompletionResult) : Prop :=
  completion.notificationEventId = some eventId ∧ ∃ event posted,
    db.events.get? eventId = some event ∧ event.status = .waitingAgent ∧ evidence = some posted ∧
      Delivered env db eventId event result posted key completion

end Db

open Db in
/-- A result of the agent makes a notice accepted only if its delivery is shown; and it does so
if it is shown, unless a write of the same completion is still in the outbox. -/
theorem accepted_iff_delivered {env : Env} {s : AuthorizationState} (h : (notices env).Reachable s)
    {eventId : EventId} {result : ResultEnvelope} {resultPath : String} {now : Int}
    {evidence : Option JobNotificationEvidence} {u : Unit} {db' : Db}
    (hsave : s.db.saveCompleted env eventId result resultPath now evidence = .ok (u, db') ∨
      s.db.saveFailedResult env eventId result resultPath now evidence = .ok (u, db')) :
    (∀ key row', db'.completions.get? key = some row' → row'.notificationState = .accepted →
      (∀ row, s.db.completions.get? key = some row → row.notificationState ≠ .accepted) →
      ∃ completion, s.db.completions.get? key = some completion ∧
        s.db.DeliveryShown env eventId result evidence key completion) ∧
    ∀ key completion, s.db.completions.get? key = some completion →
      s.db.DeliveryShown env eventId result evidence key completion → ¬s.db.HasUnsentWrite key →
      db'.completions.get? key = some (withState .accepted completion) := by
  have hlinked := (sound_of_reachable h).tracks.linked
  constructor
  · intro key row' hrow' haccepted hnew
    obtain ⟨event, row, hevent, hstatus, hrow, hid, htrue⟩ : ∃ event row,
        s.db.events.get? eventId = some event ∧ event.status = .waitingAgent ∧
          s.db.completions.get? key = some row ∧ row.notificationEventId = some eventId ∧
            (notificationDelivered env s.db eventId event result evidence).1 = true := by
      rcases hsave with hsave | hsave
      · exact accepted_of_saveCompleted hsave hrow' haccepted hnew
      · exact accepted_of_saveFailedResult hsave hrow' haccepted hnew
    obtain ⟨key', completion, posted, hfind, hposted, hdelivered⟩ :=
      notificationDelivered_iff.mp htrue
    rw [completionOf_eq_some hlinked hrow hid] at hfind
    obtain ⟨rfl, rfl⟩ := Prod.mk.inj (Option.some.inj hfind)
    exact ⟨row, hrow, hid, event, posted, hevent, hstatus, hposted, hdelivered⟩
  · rintro key completion hrow ⟨hid, event, posted, hevent, hstatus, hposted, hdelivered⟩ hsent
    rcases hsave with hsave | hsave
    · exact saveCompleted_of_delivered hlinked hevent hstatus hrow hid
        ⟨posted, hposted, hdelivered⟩ hsent hsave
    · exact saveFailedResult_of_delivered hlinked hevent hstatus hrow hid
        ⟨posted, hposted, hdelivered⟩ hsent hsave

/-! ### A posted notice -/

namespace ReportedJob

open DailyReminder

def authorization : ResultAction where
  tool := "dona_dispatcher.authorize_job_notification"
  authorized := some true
  eventId := some "evt_2"

def access : ResultAction where
  tool := "dona_slack.check_user_channel_access"
  authorized := some true
  workspace := some "team"
  workspaceId := some "T1"
  channelId := some "C1"
  userId := some "U1"

def reauthorization : ResultAction := { authorization with accessReceiptVerified := some true }

def post : ResultAction where
  tool := "dona_slack.post_message"
  workspace := some "team"
  channelId := some "C1"
  messageTs := some "108.000000"
  bodySha256 := some "ジョブの確認が必要です"
  mrkdwn := some false
  parse := some "none"

def evidence : JobNotificationEvidence where
  eventId := "evt_2"
  workspaceId := "T1"
  channelId := "C1"
  threadTs := none
  messageTs := "108.000000"
  bodySha256 := "ジョブの確認が必要です"
  postedAt := .ofSeconds 108
  replyBroadcast := false
  identityBlockVerified := true

def posted (actions : List ResultAction) : ResultEnvelope where
  eventId := "evt_2"
  status := .completed
  actions := actions
  completedAt := .ofSeconds 109

/-- The agent has reported these actions. -/
def saved (actions : List ResultAction) : Except String (Unit × Db) :=
  reported.db.saveCompleted plain "evt_2" (posted actions) "result.json" 110000 (some evidence)

def stateIn (db : Db) : Option NotificationState :=
  (db.completions.get? ("J1", .completed)).map (·.notificationState)

def stateAfter (actions : List ResultAction) : Option NotificationState :=
  (saved actions).toOption.bind fun result ↦ stateIn result.2

end ReportedJob

open ReportedJob in
theorem accepted_iff_delivered_posted :
    stateAfter [authorization, access, reauthorization, post] = some .accepted ∧
      ∃ completion, reported.db.completions.get? ("J1", .completed) = some completion ∧
        reported.db.DeliveryShown DailyReminder.plain "evt_2"
          (posted [authorization, access, reauthorization, post]) (some evidence)
          ("J1", .completed) completion := by
  have hstate : stateAfter [authorization, access, reauthorization, post] = some .accepted := by
    decide
  refine ⟨hstate, ?_⟩
  rw [stateAfter, Option.bind_eq_some_iff] at hstate
  obtain ⟨⟨u, db'⟩, hsaved, hstate⟩ := hstate
  obtain ⟨row', hrow', haccepted⟩ := Option.map_eq_some_iff.mp hstate
  have hok : saved [authorization, access, reauthorization, post] = .ok (u, db') := by
    cases hresult : saved [authorization, access, reauthorization, post] with
    | error e =>
        rw [hresult] at hsaved
        cases hsaved
    | ok result =>
        rw [hresult] at hsaved
        rw [Option.some.inj hsaved]
  apply (accepted_iff_delivered reachable_reported (.inl hok)).1 _ row' hrow' haccepted
  intro row hrow hnot
  have hbefore : stateIn reported.db = some .accepted := by
    rw [stateIn, hrow, Option.map_some, hnot]
  exact absurd hbefore (by decide)

open ReportedJob in
/-- With the second authorization repeated, the post follows one that follows an access check and
an authorization. But the first of them decides, and the notice stays under review. -/
theorem reauthorized_twice_not_accepted :
    (notices DailyReminder.plain).Reachable reported ∧
      (∃ event completion, reported.db.events.get? "evt_2" = some event ∧
        reported.db.completions.get? ("J1", .completed) = some completion ∧
        event.status = .waitingAgent ∧ completion.notificationEventId = some "evt_2" ∧
        completion.notificationState = .needsReview ∧
        completion.notificationAuthorizationPhase = .write ∧
        (completion.deliveryContext "evt_2" .completed).isAuthorization authorization = true ∧
        (completion.deliveryContext "evt_2" .completed).isAccess access = true ∧
        (completion.deliveryContext "evt_2" .completed).isReauthorization reauthorization = true ∧
        (completion.deliveryContext "evt_2" .completed).validPost
          (completion.expectedBody DailyReminder.plain event) access.workspace post = true ∧
        (completion.deliveryContext "evt_2" .completed).receiptValid
          (completion.expectedBody DailyReminder.plain event) post.messageTs evidence = true ∧
        reported.db.postedInTime completion evidence.postedAt = true) ∧
      reported.db.outbox.entries.isEmpty = true ∧
      stateAfter [authorization, access, reauthorization, reauthorization, post] =
        some .needsReview := by
  refine ⟨reachable_reported, ⟨_, _, rfl, rfl, ?_⟩, by decide, by decide⟩
  decide

end Dona
