import Dona.Jobs.TaskEffects
import Dona.Library.Receipts

/-!
# Sequences of requests for a task

The routes that control, steer and retry a task share the receipts of `task_controls`. Whatever
the order in which the requests of all events arrive, and however often they are repeated, a
request is carried out once, for the revision it was made for.
-/

namespace Dona

open Fallible Receipts

/-- A request of an event for a task, and the time at which it arrives. -/
structure TaskControlCall where
  taskId : TaskId
  eventId : EventId
  request : ControlRequest
  now : Int

def ControlRequest.revision : ControlRequest → ℕ
  | .control revision _ => revision
  | .steer revision _ => revision
  | .retry revision _ => revision

namespace TaskControlCall

variable (jobs : JobsEnv)

def key (request : TaskControlCall) : TaskId × EventId := (request.taskId, request.eventId)

/-- The part of `handleTasks` that settles the request, up to the call of the supervisor. -/
def serve (request : TaskControlCall) (s : Store) : Except String Store :=
  match request.request with
  | .control revision action =>
      (s.control jobs request.taskId request.eventId revision action request.now).map (·.2)
  | .steer revision instruction =>
      (s.prepareSteer jobs request.taskId request.eventId revision instruction).map (·.2)
  | .retry revision maxAttempts =>
      (s.retry jobs request.taskId request.eventId revision maxAttempts request.now).map (·.2)

end TaskControlCall

/-- The service of the three routes. -/
def controlService (jobs : JobsEnv) :
    Service Store TaskControlCall (TaskId × EventId) ControlRequest String where
  key := TaskControlCall.key
  payload := TaskControlCall.request
  receipt s key := (s.controls.get? key).map (·.request)
  serve := TaskControlCall.serve jobs

namespace Store

variable {jobs : JobsEnv} {s t u : Store} {jobId : JobId} {taskId : TaskId} {eventId : EventId}
  {now : Int} {r : Unit}

/-! ### Ownership -/

/-- The owners of the tasks are what they were, as are the controls. -/
structure SameOwners (s t : Store) : Prop where
  db : t.db = { s.db with jobs := t.db.jobs }
  sources : Table.Evolves (fun _ (task task' : TaskRow) ↦
    task'.sourceEventId = task.sourceEventId) s.tasks t.tasks

theorem SameOwners.of_eq (hdb : t.db = { s.db with jobs := t.db.jobs }) (htasks : t.tasks = s.tasks) :
    SameOwners s t := by
  refine ⟨hdb, ?_⟩
  rw [htasks]
  apply Table.Evolves.refl
  intro taskId task
  rfl

theorem SameOwners.refl (s : Store) : SameOwners s s := .of_eq rfl rfl

theorem SameOwners.trans (h : SameOwners s t) (h' : SameOwners t u) : SameOwners s u where
  db := by
    rw [h'.db, h.db]
  sources := h.sources.comp h'.sources fun hab hbc ↦ hbc.trans hab

theorem sameOwners_updateTask {f : TaskRow → TaskRow}
    (hf : ∀ task, (f task).sourceEventId = task.sourceEventId) :
    SameOwners s (s.updateTask taskId f) :=
  ⟨rfl, Table.evolves_updateKey (fun _ _ ↦ rfl) fun task _ ↦ hf task⟩

theorem sameOwners_updateTasksOf {f : TaskRow → TaskRow}
    (hf : ∀ task, (f task).sourceEventId = task.sourceEventId) :
    SameOwners s (s.updateTasksOf jobId f) := by
  refine ⟨rfl, Table.evolves_updateWhere fun _ task _ ↦ ?_⟩
  split_ifs
  · exact hf task
  · rfl

theorem sameOwners_fireTriggers (s : Store) (jobId : JobId) (job : JobRow) :
    SameOwners s (s.fireTriggers jobId job) := by
  have hcompletion : SameOwners s (s.attemptCompletion jobId job) := by
    unfold attemptCompletion
    split
    · split_ifs
      · have hattempt : ∀ f, SameOwners s (s.updateAttempt jobId f) := by
          intro f
          exact .of_eq rfl rfl
        exact (hattempt _).trans (sameOwners_updateTasksOf fun _ ↦ rfl)
      · exact .refl s
    · exact .refl s
  refine hcompletion.trans ?_
  unfold fireTriggers attemptStarted
  split_ifs
  · exact sameOwners_updateTasksOf fun _ ↦ rfl
  · exact .refl _

theorem sameOwners_setStatus (s : Store) (jobId : JobId) (f : JobRow → JobRow) :
    SameOwners s (s.setStatus jobId f) := by
  unfold setStatus
  split
  · have hrow : SameOwners s (s.updateJobRow jobId f) := .of_eq rfl rfl
    exact hrow.trans (sameOwners_fireTriggers ..)
  · exact .refl s

theorem sameOwners_controlUndispatched (action : TaskAction) :
    SameOwners s (s.controlUndispatched taskId jobId action now) := by
  cases action with
  | pause => exact (sameOwners_setStatus ..).trans (sameOwners_updateTask fun _ ↦ rfl)
  | resume => exact (sameOwners_setStatus ..).trans (sameOwners_updateTask fun _ ↦ rfl)
  | cancel => exact sameOwners_setStatus ..

theorem sameOwners_insertControl {control : TaskControl}
    (h : s.insertControl taskId eventId control = .ok t) :
    SameOwners s t ∧ s.controls.insert? (taskId, eventId) control = some t.controls := by
  simp only [insertControl, bind_eq_ok, orThrow_eq_ok, Except.ok.injEq] at h
  obtain ⟨controls, hinsert, rfl⟩ := h
  exact ⟨.of_eq rfl rfl, hinsert⟩

theorem controls_fireTriggers (s : Store) (jobId : JobId) (job : JobRow) :
    (s.fireTriggers jobId job).controls = s.controls := by
  have hcompletion : (s.attemptCompletion jobId job).controls = s.controls := by
    unfold attemptCompletion
    split
    · split_ifs <;> rfl
    · rfl
  unfold fireTriggers attemptStarted
  split_ifs <;> exact hcompletion

theorem controls_setStatus (s : Store) (jobId : JobId) (f : JobRow → JobRow) :
    (s.setStatus jobId f).controls = s.controls := by
  unfold setStatus
  split
  · rw [controls_fireTriggers]
    rfl
  · rfl

theorem controls_controlUndispatched (action : TaskAction) :
    (s.controlUndispatched taskId jobId action now).controls = s.controls := by
  cases action <;> exact controls_setStatus ..

/-- A check of the owner that passed, passes again as long as owners stay and the task keeps its
attempt. -/
theorem assertTaskControl_congr {task task' : TaskRow}
    (h : s.assertTaskControl jobs taskId eventId = .ok task) (howners : SameOwners s t)
    (htask' : t.tasks.get? taskId = some task')
    (hcurrent : task'.currentAttemptId = task.currentAttemptId) :
    t.assertTaskControl jobs taskId eventId = .ok task' := by
  have htask := assertTaskControl_eq_ok h
  have hsource : task'.sourceEventId = task.sourceEventId := by
    obtain ⟨row, hrow, hsame⟩ := howners.sources.exists_new htask
    obtain rfl := Option.some.inj (htask'.symm.trans hrow)
    exact hsame
  have hthread : t.db.assertJobSourceMatchesThread = s.db.assertJobSourceMatchesThread := by
    rw [howners.db]
    rfl
  have hevents : t.db.events = s.db.events := by
    rw [howners.db]
  simp only [assertTaskControl, assertOwner, bind_eq_ok, orThrow_eq_ok, Except.ok.injEq] at h
  obtain ⟨_, ⟨_, hrow, _, hmatches, event, hevent, _, hkind, _, hjob, original, horiginal, _,
    hspeaker, rfl⟩, _, hslack, rfl⟩ := h
  simp only [assertTaskControl, assertOwner, htask', orThrow, ok_bind, hcurrent, hsource, hthread,
    hevents, hmatches, hevent, hkind, hjob, horiginal, hspeaker]
  rw [hevent] at hslack
  rw [hslack]
  rfl

/-! ### Requests -/

/-- A request that is carried out for the first time. -/
structure CarriesOut (jobs : JobsEnv) (call : TaskControlCall) (s t : Store) : Prop where
  owner : ∃ task, s.assertTaskControl jobs call.taskId call.eventId = .ok task ∧
    task.revision = call.request.revision
  recorded : ∃ control : TaskControl, control.request = call.request ∧
    s.controls.insert? call.key control = some t.controls
  owners : SameOwners s t
  effect : Effect (fun _ ↦ True) s t

variable {call : TaskControlCall}

theorem serve_conflict {old : TaskControl} (hold : s.controls.get? call.key = some old)
    (hne : old.request ≠ call.request) : ∃ e, call.serve jobs s = .error e := by
  rcases howner : s.assertTaskControl jobs call.taskId call.eventId with e | task
  · refine ⟨e, ?_⟩
    unfold TaskControlCall.serve
    split
    · simp only [control, howner, error_bind, Except.map]
    · simp only [prepareSteer, howner, error_bind, Except.map]
    · simp only [retry, howner, error_bind, Except.map]
  · refine ⟨"task_control_conflict", ?_⟩
    have hold' : s.controls.get? (call.taskId, call.eventId) = some old := hold
    unfold TaskControlCall.serve
    split
    all_goals
      rename_i hrequest
      rw [hrequest] at hne
    · simp only [control, howner, ok_bind, hold', throwIf, if_pos hne, error_bind, Except.map]
    · simp only [prepareSteer, howner, ok_bind, hold', throwIf, if_pos hne, error_bind, Except.map]
    · simp only [retry, howner, ok_bind, hold', throwIf, if_pos hne, error_bind, Except.map]

theorem serve_repeated {old : TaskControl} {task : TaskRow}
    (hold : s.controls.get? call.key = some old) (hsame : old.request = call.request)
    (howner : s.assertTaskControl jobs call.taskId call.eventId = .ok task) :
    call.serve jobs s = .ok s := by
  have hold' : s.controls.get? (call.taskId, call.eventId) = some old := hold
  unfold TaskControlCall.serve
  split
  all_goals
    rename_i hrequest
    rw [hrequest] at hsame
  · simp [control, howner, hold', throwIf, hsame, Except.map]
  · simp [prepareSteer, howner, hold', throwIf, hsame, Except.map]
  · simp [retry, howner, hold', throwIf, hsame, Except.map]

/-- Every request that is not refused passes the check of the owner. -/
theorem assertTaskControl_of_serve (h : call.serve jobs s = .ok t) :
    ∃ task, s.assertTaskControl jobs call.taskId call.eventId = .ok task := by
  rcases howner : s.assertTaskControl jobs call.taskId call.eventId with e | task
  · unfold TaskControlCall.serve at h
    split at h
    · simp [control, howner, Except.map] at h
    · simp [prepareSteer, howner, Except.map] at h
    · simp [retry, howner, Except.map] at h
  · exact ⟨task, rfl⟩

theorem carriesOut_control {revision : ℕ} {action : TaskAction}
    (hrequest : call.request = .control revision action)
    (hnone : s.controls.get? (call.taskId, call.eventId) = none)
    (h : s.control jobs call.taskId call.eventId revision action call.now = .ok (r, t)) :
    CarriesOut jobs call s t := by
  have heffect := (controls_control h).effect
  simp only [control, hnone, Db.getJobRequired, bind_eq_ok, throwIf_eq_ok, not_not, ne_eq,
    Except.ok.injEq, Prod.mk.injEq] at h
  obtain ⟨task, howner, _, hrevision, _, -, _, -, _, -, job, -, s₁, hinsert, -, rfl⟩ := h
  obtain ⟨hsame, hcontrols⟩ := sameOwners_insertControl hinsert
  have hrequested : SameOwners s (s.updateTask call.taskId (requested action call.now)) :=
    sameOwners_updateTask fun _ ↦ rfl
  refine ⟨⟨task, howner, ?_⟩, ⟨⟨.control revision action, none⟩, hrequest.symm, ?_⟩, ?_,
    heffect⟩
  · rw [hrequest]
    exact hrevision
  · split_ifs at hcontrols
    · rw [controls_controlUndispatched] at hcontrols
      exact hcontrols
    · exact hcontrols
  · split_ifs at hsame
    · exact (hrequested.trans (sameOwners_controlUndispatched action)).trans hsame
    · exact hrequested.trans hsame

theorem carriesOut_prepareSteer {revision : ℕ} {instruction : String} {new : Bool}
    (hrequest : call.request = .steer revision instruction)
    (hnone : s.controls.get? (call.taskId, call.eventId) = none)
    (h : s.prepareSteer jobs call.taskId call.eventId revision instruction = .ok (new, t)) :
    CarriesOut jobs call s t := by
  have heffect := (controls_prepareSteer h).effect
  simp only [prepareSteer, hnone, bind_eq_ok, throwIf_eq_ok, not_or, not_not, ne_eq,
    Except.ok.injEq, Prod.mk.injEq] at h
  obtain ⟨task, howner, _, ⟨hrevision, -⟩, _, -, attempt, -, s₁, hinsert, -, rfl⟩ := h
  obtain ⟨hsame, hcontrols⟩ := sameOwners_insertControl hinsert
  refine ⟨⟨task, howner, ?_⟩, ⟨_, hrequest.symm, hcontrols⟩, ?_, heffect⟩
  · rw [hrequest]
    exact hrevision
  · refine SameOwners.trans ?_ hsame
    exact sameOwners_updateTask fun _ ↦ rfl

theorem carriesOut_retry {revision maxAttempts : ℕ}
    (hrequest : call.request = .retry revision maxAttempts)
    (hnone : s.controls.get? (call.taskId, call.eventId) = none)
    (h : s.retry jobs call.taskId call.eventId revision maxAttempts call.now = .ok (r, t)) :
    CarriesOut jobs call s t := by
  have heffect := (controls_retry h).effect
  simp only [retry, hnone, bind_eq_ok, throwIf_eq_ok, not_not, ne_eq, Except.ok.injEq,
    Prod.mk.injEq] at h
  obtain ⟨task, howner, _, hrevision, _, -, _, -, s₁, hinsert, -, rfl⟩ := h
  obtain ⟨hsame, hcontrols⟩ := sameOwners_insertControl hinsert
  refine ⟨⟨task, howner, ?_⟩, ⟨_, hrequest.symm, hcontrols⟩, ?_, heffect⟩
  · rw [hrequest]
    exact hrevision
  · refine SameOwners.trans ?_ hsame
    exact sameOwners_updateTask fun _ ↦ rfl

theorem carriesOut_of_serve (hnone : s.controls.get? call.key = none)
    (h : call.serve jobs s = .ok t) : CarriesOut jobs call s t := by
  have hnone' : s.controls.get? (call.taskId, call.eventId) = none := hnone
  unfold TaskControlCall.serve at h
  split at h
  all_goals
    rename_i hrequest
    obtain ⟨⟨_, _⟩, hserved, rfl⟩ := map_eq_ok.1 h
  · exact carriesOut_control hrequest hnone' hserved
  · exact carriesOut_prepareSteer hrequest hnone' hserved
  · exact carriesOut_retry hrequest hnone' hserved

/-- A request under a key that has a receipt changes nothing. -/
theorem unchanged_of_serve {old : TaskControl} (hold : s.controls.get? call.key = some old)
    (h : call.serve jobs s = .ok t) : t = s ∧ old.request = call.request := by
  by_cases hsame : old.request = call.request
  · obtain ⟨task, howner⟩ := assertTaskControl_of_serve h
    exact ⟨Except.ok.inj (h.symm.trans (serve_repeated hold hsame howner)), hsame⟩
  · obtain ⟨e, herror⟩ : ∃ e, call.serve jobs s = .error e := serve_conflict hold hsame
    have hboth : Except.ok t = Except.error e := h.symm.trans herror
    contradiction

/-! ### The receipts -/

theorem lawful_controlService (jobs : JobsEnv) : (controlService jobs).Lawful where
  refused := by
    intro call s request hreceipt hne
    obtain ⟨old, hold, rfl⟩ := Option.map_eq_some_iff.1 hreceipt
    exact serve_conflict hold hne
  repeated := by
    intro call s t request hreceipt h
    obtain ⟨old, hold, rfl⟩ := Option.map_eq_some_iff.1 hreceipt
    exact (unchanged_of_serve hold h).1
  recorded := by
    intro call s t h
    cases hold : s.controls.get? call.key with
    | none =>
        obtain ⟨control, hrequest, hinsert⟩ := (carriesOut_of_serve hold h).recorded
        show (t.controls.get? call.key).map (·.request) = some call.request
        rw [Table.get?_insert? hinsert, if_pos rfl, ← hrequest]
        rfl
    | some old =>
        obtain ⟨rfl, hsame⟩ := unchanged_of_serve hold h
        show (t.controls.get? call.key).map (·.request) = some call.request
        rw [hold, ← hsame]
        rfl
  kept := by
    intro call s t key request h hreceipt
    cases hold : s.controls.get? call.key with
    | none =>
        obtain ⟨control, -, hinsert⟩ := (carriesOut_of_serve hold h).recorded
        have hne : key ≠ call.key := by
          rintro rfl
          have hsome : (s.controls.get? call.key).map (·.request) = some request := hreceipt
          rw [hold] at hsome
          contradiction
        show (t.controls.get? key).map (·.request) = some request
        rw [Table.get?_insert? hinsert, if_neg hne]
        exact hreceipt
    | some old =>
        obtain ⟨rfl, -⟩ := unchanged_of_serve hold h
        exact hreceipt

/-! ### Runs -/

/-- Whoever asks later meets the tasks of the same owners, under later revisions. -/
structure Attended (s t : Store) : Prop where
  owners : SameOwners s t
  tasks : Table.Evolves (fun _ ↦ TaskRow.Stays) s.tasks t.tasks

theorem Attended.refl (s : Store) : Attended s s :=
  ⟨.refl s, .refl (fun _ ↦ TaskRow.Stays.refl) s.tasks⟩

theorem Attended.trans (h : Attended s t) (h' : Attended t u) : Attended s u :=
  ⟨h.owners.trans h'.owners, h.tasks.comp h'.tasks TaskRow.Stays.trans⟩

theorem attended_of_serve (h : call.serve jobs s = .ok t) : Attended s t := by
  cases hold : s.controls.get? call.key with
  | none =>
      have hcarries := carriesOut_of_serve hold h
      exact ⟨hcarries.owners, hcarries.effect.tasks.mono And.left⟩
  | some old =>
      obtain ⟨rfl, -⟩ := unchanged_of_serve hold h
      exact .refl t

/-- The check of the owner that a request has passed, later requests of the event pass too. -/
theorem Attended.assertTaskControl {task : TaskRow} (h : Attended s t)
    (howner : s.assertTaskControl jobs taskId eventId = .ok task) :
    ∃ task', t.assertTaskControl jobs taskId eventId = .ok task' := by
  obtain ⟨task', htask', hstays⟩ := h.tasks.exists_new (assertTaskControl_eq_ok howner)
  exact ⟨task', assertTaskControl_congr howner h.owners htask' hstays.attempt⟩

end Store

/-- The revision of every task has not decreased. -/
def Store.RevisionsGrow (s t : Store) : Prop :=
  ∀ taskId task, s.tasks.get? taskId = some task →
    ∃ task', t.tasks.get? taskId = some task' ∧ task.revision ≤ task'.revision

abbrev ControlExchange := Exchange Store TaskControlCall String

/-- How one request is settled by what the tables have recorded. -/
structure ControlSettled (jobs : JobsEnv) (x : ControlExchange) : Prop where
  answered : (∃ t, x.answer = .ok t ∧ x.after = t) ∨ x.Refused
  repeated : ∀ old, x.before.controls.get? x.request.key = some old →
    old.request = x.request.request → x.after = x.before ∧
      ∀ task, x.before.assertTaskControl jobs x.request.taskId x.request.eventId = .ok task →
        x.answer = .ok x.before
  conflict : ∀ old, x.before.controls.get? x.request.key = some old →
    old.request ≠ x.request.request → x.Refused
  stale : ∀ task, x.before.controls.get? x.request.key = none →
    x.before.tasks.get? x.request.taskId = some task →
      task.revision ≠ x.request.request.revision → x.Refused
  revisions : x.before.RevisionsGrow x.after

/-- What an earlier request means for a later one; they may come from the same event or not. -/
structure ControlFenced (earlier later : ControlExchange) : Prop where
  once : later.request.key = earlier.request.key →
    earlier.after = earlier.before ∨ later.after = later.before
  repeats : later.request.key = earlier.request.key →
    later.request.request = earlier.request.request → (∃ t, earlier.answer = .ok t) →
      later.answer = .ok later.before
  conflicts : later.request.key = earlier.request.key →
    later.request.request ≠ earlier.request.request → (∃ t, earlier.answer = .ok t) →
      later.Refused
  revisions : earlier.after.RevisionsGrow later.before

variable {jobs : JobsEnv} {s : Store} {calls : List TaskControlCall} {x : ControlExchange}

theorem Store.Attended.revisionsGrow {s t : Store} (h : s.Attended t) : s.RevisionsGrow t := by
  intro taskId task htask
  obtain ⟨task', htask', hstays⟩ := h.tasks.exists_new htask
  exact ⟨task', htask', hstays.revision⟩

theorem controlSettled_of_mem (hx : x ∈ (controlService jobs).history s calls) :
    ControlSettled jobs x := by
  have hanswer : x.answer = x.request.serve jobs x.before := Service.answer_of_mem hx
  have hlawful := Store.lawful_controlService jobs
  have hreceipt : ∀ {old}, x.before.controls.get? x.request.key = some old →
      (controlService jobs).receipt x.before ((controlService jobs).key x.request) =
        some old.request := by
    intro old hold
    exact congrArg (Option.map TaskControl.request) hold
  refine ⟨?_, fun old hold hsame ↦ ⟨hlawful.after_of_receipt hx (hreceipt hold), ?_⟩,
    fun old hold hne ↦ hlawful.refused_of_receipt hx (hreceipt hold) hne, ?_, ?_⟩
  · rcases h : x.answer with e | t
    · exact .inr (Exchange.refused_of_error h)
    · exact .inl ⟨t, rfl, Exchange.after_of_ok h⟩
  · intro task howner
    rw [hanswer]
    exact Store.serve_repeated hold hsame howner
  · intro task hnone htask hne
    rcases h : x.answer with e | t
    · exact Exchange.refused_of_error h
    · obtain ⟨row, howner, hrevision⟩ :=
        (Store.carriesOut_of_serve hnone (hanswer.symm.trans h)).owner
      have hrow := Store.assertTaskControl_eq_ok howner
      obtain rfl := Option.some.inj (hrow.symm.trans htask)
      contradiction
  · rcases h : x.answer with e | t
    · rw [(Exchange.refused_of_error h).2]
      exact (Store.Attended.refl _).revisionsGrow
    · rw [Exchange.after_of_ok h]
      exact (Store.attended_of_serve (hanswer.symm.trans h)).revisionsGrow

/-- A request that was carried out, or repeated, is repeated without a further effect. -/
theorem repeats_controlService (jobs : JobsEnv) (s : Store) (calls : List TaskControlCall) :
    ((controlService jobs).history s calls).Pairwise fun earlier later ↦
      later.request.key = earlier.request.key → later.request.request = earlier.request.request →
        (∃ t, earlier.answer = .ok t) → later.answer = .ok later.before := by
  have hattended := (controlService jobs).pairwise_history Store.Attended.refl
    Store.Attended.trans Store.attended_of_serve s calls
  have hreceipts := (Store.lawful_controlService jobs).pairwise_receipt s calls
  refine (hattended.and hreceipts).imp_of_mem fun {earlier later} hearlier hlater h hkey hsame ↦ ?_
  rintro ⟨t, hok⟩
  obtain ⟨hlaterAttended, hreceipt⟩ := h
  have hserve : earlier.request.serve jobs earlier.before = .ok t :=
    (Service.answer_of_mem hearlier).symm.trans hok
  obtain ⟨task, howner⟩ := Store.assertTaskControl_of_serve hserve
  have hbefore : earlier.before.Attended later.before := by
    rw [Exchange.after_of_ok hok] at hlaterAttended
    exact (Store.attended_of_serve hserve).trans hlaterAttended
  obtain ⟨task', howner'⟩ := hbefore.assertTaskControl howner
  obtain ⟨old, hold, hrequest⟩ := Option.map_eq_some_iff.1 (hreceipt t hok)
  have hids : later.request.taskId = earlier.request.taskId ∧
      later.request.eventId = earlier.request.eventId := Prod.mk.inj hkey
  refine (controlSettled_of_mem hlater).repeated old ?_ ?_ |>.2 task' ?_
  · rw [hkey]
    exact hold
  · rw [hsame]
    exact hrequest
  · rw [hids.1, hids.2]
    exact howner'

/-- Whatever the order and the repetitions of the requests that control, steer or retry tasks:
each pair of a task and an event takes effect at most once, a repetition returns without a change,
a conflict and a stale revision are refused without a change, and no revision decreases. -/
theorem task_controls_once (jobs : JobsEnv) (s : Store) (calls : List TaskControlCall) :
    (∀ x ∈ (controlService jobs).history s calls, ControlSettled jobs x) ∧
      ((controlService jobs).history s calls).Pairwise ControlFenced := by
  refine ⟨fun x hx ↦ controlSettled_of_mem hx, ?_⟩
  have hlawful := Store.lawful_controlService jobs
  have honce := hlawful.once s calls
  have hrepeats := repeats_controlService jobs s calls
  have hconflicts := hlawful.conflicts s calls
  have hattended := (controlService jobs).pairwise_history Store.Attended.refl
    Store.Attended.trans Store.attended_of_serve s calls
  refine ((honce.and hrepeats).and (hconflicts.and hattended)).imp fun {earlier later} h ↦ ?_
  obtain ⟨⟨honce, hrepeats⟩, hconflicts, hattended⟩ := h
  exact ⟨honce, hrepeats, hconflicts, hattended.revisionsGrow⟩

end Dona
