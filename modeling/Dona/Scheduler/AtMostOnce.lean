import Dona.Scheduler.ReminderPublisher

/-!
# Reminders are posted at most once

While the post of a task may have been accepted, or its request is not settled, the write is
over or still held as started by the token of the task. Only the holder of a claim starts a
request, and only the token of a started request returns it to the queue, after an answer
which excludes that the post was accepted. So no other post is requested for the write.
-/

namespace Dona

open Fallible TransitionSystem

namespace Db

variable {scope : Scope} {db db' db'' : Db} {id : Uuid} {recorded : Option (ScheduleId × Timestamp)}

/-- The write with the key is deleted, or has settled. -/
def RowSettles (id : Uuid) (db db' : Db) : Prop :=
  ∀ row', db'.outbox.get? id = some row' →
    ∃ row, db.outbox.get? id = some row ∧ row.Settles row'

theorem RowSettles.refl (id : Uuid) (db : Db) : RowSettles id db db :=
  fun row hrow ↦ ⟨row, hrow, .refl row⟩

theorem RowSettles.trans (h : RowSettles id db db') (h' : RowSettles id db' db'') :
    RowSettles id db db'' := by
  intro row'' hrow''
  obtain ⟨row', hrow', hsettles'⟩ := h' row'' hrow''
  obtain ⟨row, hrow, hsettles⟩ := h row' hrow'
  exact ⟨row, hrow, hsettles.trans hsettles'⟩

/-- The keys of all writes have been drawn. -/
def IdsDrawn (db : Db) : Prop := ∀ id row, db.outbox.get? id = some row → id < db.nextUuid

/-- A write with a drawn key is an old one. -/
theorem Effect.exists_write (h : Effect scope db db' recorded) (hid : id < db.nextUuid)
    {row' : Outbox} (hrow' : db'.outbox.get? id = some row') :
    ∃ row, db.outbox.get? id = some row ∧ row'.kind = row.kind ∧
      (¬scope.mayRestart id → row.Settles row') := by
  have hevolves : ∀ {scope : Scope} {db db' : Db} {row' : Outbox}, db.Evolves scope db' →
      id < db.nextUuid → db'.outbox.get? id = some row' → ∃ row, db.outbox.get? id = some row ∧
        row'.kind = row.kind ∧ (¬scope.mayRestart id → row.Settles row') := by
    intro scope db db' row' h hid hrow'
    cases hrow : db.outbox.get? id with
    | none =>
        obtain ⟨-, hle, -⟩ := h.inserted id row' hrow' hrow
        exact absurd hid (not_lt.2 hle)
    | some row =>
        obtain ⟨other, hother, hkeeps⟩ := h.outbox id row hrow
        obtain rfl : other = row' := Option.some.inj (hother.symm.trans hrow')
        exact ⟨row, rfl, hkeeps.kind, fun hscope ↦ hkeeps.settles.resolve_left hscope⟩
  have hstrict : ∀ {db db' : Db} {row' : Outbox}, db.Evolves .strict db' → id < db.nextUuid →
      db'.outbox.get? id = some row' → ∃ row, db.outbox.get? id = some row ∧
        row'.kind = row.kind ∧ row.Settles row' := by
    intro db db' row' h hid hrow'
    obtain ⟨row, hrow, hkind, hsettles⟩ := hevolves h hid hrow'
    exact ⟨row, hrow, hkind, hsettles False.elim⟩
  cases h with
  | frame h => exact hevolves h hid hrow'
  | created fresh active watermark schedules runs outbox =>
      rw [outbox] at hrow'
      exact ⟨row', hrow', rfl, fun _ ↦ .refl row'⟩
  | updated found live past evolves renewed =>
      subst renewed
      obtain ⟨row, hrow, hkind, hsettles⟩ := hstrict evolves hid hrow'
      exact ⟨row, hrow, hkind, fun _ ↦ hsettles⟩
  | @occurred scheduleId scheduledFor nextDue before run db₁ occurs evolves =>
      obtain ⟨row, hrow, hkind, hsettles⟩ := hstrict evolves (hid.trans occurs.nextUuid) hrow'
      refine ⟨row, ?_, hkind, fun _ ↦ hsettles⟩
      rcases occurs.outbox with hsame | ⟨-, newId, new, hle, -, -, -, -, -, hget⟩
      · rwa [hsame] at hrow
      · rwa [hget, if_neg (hid.trans_le hle).ne] at hrow
  | purged evolves schedules runs outbox =>
      obtain ⟨row, hrow, hkind, hsettles⟩ := hstrict evolves hid (outbox id row' hrow')
      exact ⟨row, hrow, hkind, fun _ ↦ hsettles⟩

theorem Effect.rowSettles (h : Effect scope db db' recorded) (hid : id < db.nextUuid)
    (hscope : ¬scope.mayRestart id) : RowSettles id db db' := by
  intro row' hrow'
  obtain ⟨row, hrow, -, hsettles⟩ := h.exists_write hid hrow'
  exact ⟨row, hrow, hsettles hscope⟩

theorem Effect.nextUuid_le (h : Effect scope db db' recorded) : db.nextUuid ≤ db'.nextUuid := by
  cases h with
  | frame h => exact h.nextUuid
  | created fresh active watermark schedules runs outbox nextUuid => exact nextUuid.ge
  | updated found live past evolves renewed =>
      subst renewed
      exact evolves.nextUuid
  | occurred occurs evolves => exact occurs.nextUuid.le.trans evolves.nextUuid
  | purged evolves schedules runs outbox nextUuid => exact nextUuid ▸ evolves.nextUuid

theorem Evolves.idsDrawn (h : db.Evolves scope db') (hdb : db.IdsDrawn) : db'.IdsDrawn := by
  intro id row' hrow'
  cases hrow : db.outbox.get? id with
  | none => exact (h.inserted id row' hrow' hrow).2.2.1
  | some row => exact (hdb id row hrow).trans_le h.nextUuid

theorem Effect.idsDrawn (h : Effect scope db db' recorded) (hdb : db.IdsDrawn) :
    db'.IdsDrawn := by
  cases h with
  | frame h => exact h.idsDrawn hdb
  | created fresh active watermark schedules runs outbox nextUuid =>
      intro id row hrow
      rw [outbox] at hrow
      exact nextUuid ▸ hdb id row hrow
  | updated found live past evolves renewed =>
      subst renewed
      exact evolves.idsDrawn hdb
  | @occurred scheduleId scheduledFor nextDue before run db₁ occurs evolves =>
      refine evolves.idsDrawn fun id row hrow ↦ ?_
      rcases occurs.outbox with hsame | ⟨-, newId, new, -, hlt, -, -, -, -, hget⟩
      · rw [hsame] at hrow
        exact (hdb id row hrow).trans occurs.nextUuid
      · rw [hget] at hrow
        split_ifs at hrow with hid
        · exact hid ▸ hlt
        · exact (hdb id row hrow).trans occurs.nextUuid
  | @purged db₁ evolves schedules runs outbox nextUuid =>
      intro id row hrow
      exact nextUuid ▸ evolves.idsDrawn hdb id row (outbox id row hrow)

/-- A batch claims writes of its kind. -/
theorem kind_of_mem_claimRows {kind : Option OutboxKind} {now : Timestamp} {leaseSeconds limit : ℕ}
    {claim : Uuid × Uuid} (h : claim ∈ (db.claimRows kind now leaseSeconds limit).1) :
    ∃ row, (db.claimRows kind now leaseSeconds limit).2.outbox.get? claim.1 = some row ∧
      kind.all (· = row.kind) = true := by
  induction limit generalizing db with
  | zero => cases h
  | succ limit ih =>
      rw [claimRows] at h ⊢
      cases hnext : db.nextClaimable kind now with
      | none =>
          rw [hnext] at h
          cases h
      | some entry =>
          rw [hnext] at h
          simp only [List.mem_cons] at h ⊢
          rcases h with rfl | hmem
          · obtain ⟨hrow, hpending, hkind⟩ := nextClaimable_spec hnext
            have hevolves : db.Evolves .strict ((db.claimOne entry.1 now leaseSeconds).claimRows kind
                now leaseSeconds limit).2 := (evolves_claimOne hrow hpending).trans evolves_claimRows
            obtain ⟨row', hrow', hkeeps⟩ := hevolves.outbox entry.1 entry.2 hrow
            refine ⟨row', hrow', ?_⟩
            rw [hkeeps.kind]
            exact hkind
          · exact ih hmem

end Db

namespace Publishing

/-! ### What a step does -/

/-- Every step either starts the request of the holder of a claim, or settles every write
whose task is live afterwards; it makes no task live, no post, and forgets no acceptance. -/
inductive Moves (s s' : Publishing) : Prop
  | quiet {scope : Scope} {recorded : Option (ScheduleId × Timestamp)}
      (effect : Db.Effect scope s.db s'.db recorded)
      (guard : ∀ token task, s'.tasks.get? token = some task → task.stage.isLive = true →
        ¬scope.mayRestart task.outboxId)
      (old : ∀ token task', s'.tasks.get? token = some task' →
        (∃ task, s.tasks.get? token = some task ∧ task'.outboxId = task.outboxId ∧
          (task'.stage.isLive = true → task.stage.isLive = true) ∧
          (task'.stage.isPosted = true → task.stage.isPosted = true)) ∨
        task'.stage = .claimed ∧ ∃ row, s'.db.outbox.get? task'.outboxId = some row ∧
          row.kind = .reminderPost)
      (marked : ∀ token task, s.tasks.get? token = some task →
        task.stage.mayBeAccepted = true → ∃ task', s'.tasks.get? token = some task' ∧
          task'.outboxId = task.outboxId ∧ task'.stage.mayBeAccepted = true) : Moves s s'
  | started {token : Uuid} {task : Task} {command : ReminderCommand}
      (found : s.tasks.get? token = some task) (prepared : task.stage = .prepared command)
      (held : s.db.HeldBy task.outboxId token .claimed)
      (evolves : s.db.Evolves (Db.requestScope task.outboxId) s'.db)
      (started : s'.db.HeldBy task.outboxId token .requestStarted)
      (tasks : s'.tasks = s.setStage token (.posting command)) : Moves s s'

/-- The write of a live task is over or held as started by its token, and no other task is live
for the same write. -/
structure Inv (s : Publishing) : Prop where
  drawn : s.db.IdsDrawn
  taskDrawn : ∀ token task, s.tasks.get? token = some task → task.outboxId < s.db.nextUuid
  reminder : ∀ token task row, s.tasks.get? token = some task →
    s.db.outbox.get? task.outboxId = some row → row.kind = .reminderPost
  held : ∀ token task row, s.tasks.get? token = some task → task.stage.isLive = true →
    s.db.outbox.get? task.outboxId = some row →
    row.status.isOver = true ∨ row.status = .requestStarted ∧ row.claimToken = some token
  once : ∀ token task token' task', s.tasks.get? token = some task → task.stage.isLive = true →
    s.tasks.get? token' = some task' → task'.stage.isLive = true →
    task'.outboxId = task.outboxId → token' = token

variable {env : Env} {s s' : Publishing} {token : Uuid} {task : Task} {stage : TaskStage}

/-- A held claim excludes a live task for its write. -/
theorem Inv.not_live_of_claimed (h : s.Inv) {outboxId : Uuid} (hheld : s.db.HeldBy outboxId token
    .claimed) {other : Uuid} (hother : s.tasks.get? other = some task)
    (hlive : task.stage.isLive = true) : task.outboxId ≠ outboxId := by
  rintro rfl
  obtain ⟨row, hrow, hstatus, -⟩ := hheld
  rcases h.held other task row hother hlive hrow with hover | ⟨hstarted, -⟩
  · rw [hstatus] at hover
    cases hover
  · rw [hstatus] at hstarted
    cases hstarted

/-- Only the task of the token is live for a write that its token has started. -/
theorem Inv.eq_of_started (h : s.Inv) {outboxId : Uuid} (hheld : s.db.HeldBy outboxId token
    .requestStarted) {other : Uuid} (hother : s.tasks.get? other = some task)
    (hlive : task.stage.isLive = true) (hid : task.outboxId = outboxId) : other = token := by
  subst hid
  obtain ⟨row, hrow, hstatus, htoken⟩ := hheld
  rcases h.held other task row hother hlive hrow with hover | ⟨-, htoken'⟩
  · rw [hstatus] at hover
    cases hover
  · rw [htoken] at htoken'
    exact (Option.some.inj htoken').symm

theorem get?_setStage (other : Uuid) : (s.setStage token stage).get? other =
    if other = token then (s.tasks.get? token).map fun task ↦ { task with stage := stage }
    else s.tasks.get? other := by
  rw [setStage, Table.get?_updateKey]
  split_ifs with hid
  · rw [hid]
  · rfl

/-- A step that leaves the tasks as they are. -/
theorem Moves.of_effect {scope : Scope} {recorded : Option (ScheduleId × Timestamp)} {db' : Db}
    (heffect : Db.Effect scope s.db db' recorded)
    (hguard : ∀ token task, s.tasks.get? token = some task → ¬scope.mayRestart task.outboxId) :
    s.Moves ⟨db', s.tasks⟩ :=
  .quiet heffect (fun _ _ htask _ ↦ hguard _ _ htask)
    (fun _ task htask ↦ .inl ⟨task, htask, rfl, id, id⟩)
    fun _ task htask hmarked ↦ ⟨task, htask, rfl, hmarked⟩

theorem Moves.idle (s : Publishing) : s.Moves s := by
  have heffect : Db.Effect .strict s.db s.db none := .frame (.refl _ s.db)
  exact .of_effect heffect fun _ _ _ ↦ id

/-- A step that moves one task on, without a post. -/
theorem Moves.of_stage {scope : Scope} {recorded : Option (ScheduleId × Timestamp)} {db' : Db}
    (heffect : Db.Effect scope s.db db' recorded) (htask : s.tasks.get? token = some task)
    (hlive : stage.isLive = true → task.stage.isLive = true)
    (hposted : stage.isPosted = true → task.stage.isPosted = true)
    (hmarked : task.stage.mayBeAccepted = true → stage.mayBeAccepted = true)
    (hguard : ∀ other task', s.tasks.get? other = some task' → task'.stage.isLive = true →
      (other = token → stage.isLive = true) → ¬scope.mayRestart task'.outboxId) :
    s.Moves ⟨db', s.setStage token stage⟩ := by
  refine .quiet heffect (fun other task' hother hlive' ↦ ?_) (fun other task' hother ↦ ?_)
    fun other task' hother hmarked' ↦ ?_
  · simp only [get?_setStage] at hother
    split_ifs at hother with hid
    · rw [htask, Option.map_some] at hother
      obtain rfl := Option.some.inj hother
      exact hguard token task htask (hlive hlive') fun _ ↦ hlive'
    · exact hguard other task' hother hlive' fun heq ↦ absurd heq hid
  · simp only [get?_setStage] at hother
    split_ifs at hother with hid
    · rw [htask, Option.map_some] at hother
      obtain rfl := Option.some.inj hother
      exact .inl ⟨task, hid ▸ htask, rfl, hlive, hposted⟩
    · exact .inl ⟨task', hother, rfl, id, id⟩
  · simp only [get?_setStage]
    split_ifs with hid
    · subst hid
      rw [htask] at hother
      obtain rfl := Option.some.inj hother
      exact ⟨{ task with stage := stage }, by rw [htask, Option.map_some], rfl, hmarked hmarked'⟩
    · exact ⟨task', hother, rfl, hmarked'⟩

/-- A transaction of the publisher that keeps to its frame. -/
theorem effect_commit {α : Type} {body : Db → Except String (α × Db)}
    (h : ∀ a db', body s.db = .ok (a, db') → s.db.Evolves .strict db') :
    Db.Effect .strict s.db (commit body s.db) none :=
  .frame (commit_induction (.refl _ s.db) h)

theorem get?_foldl_launch {claims : List (Uuid × Uuid)} {tasks : Table Uuid Task}
    (h : (claims.foldl launch tasks).get? token = some task) :
    tasks.get? token = some task ∨ task.stage = .claimed ∧ (task.outboxId, token) ∈ claims := by
  induction claims generalizing tasks with
  | nil => exact .inl h
  | cons claim claims ih =>
      rcases ih h with hlaunched | ⟨hstage, hmem⟩
      · rw [launch] at hlaunched
        cases hinsert : tasks.insert? claim.2 ⟨claim.1, .claimed⟩ with
        | none => exact .inl (by rwa [hinsert] at hlaunched)
        | some inserted =>
            rw [hinsert, Option.getD_some, Table.get?_insert? hinsert] at hlaunched
            split_ifs at hlaunched with hid
            · obtain rfl := Option.some.inj hlaunched
              exact .inr ⟨rfl, List.mem_cons.2 (.inl (by rw [hid]))⟩
            · exact .inl hlaunched
      · exact .inr ⟨hstage, List.mem_cons_of_mem _ hmem⟩

theorem get?_foldl_launch_of_some {claims : List (Uuid × Uuid)} {tasks : Table Uuid Task}
    (h : tasks.get? token = some task) : (claims.foldl launch tasks).get? token = some task := by
  induction claims generalizing tasks with
  | nil => exact h
  | cons claim claims ih =>
      refine ih ?_
      rw [launch]
      cases hinsert : tasks.insert? claim.2 ⟨claim.1, .claimed⟩ with
      | none => exact h
      | some inserted =>
          rw [Option.getD_some, Table.get?_insert? hinsert]
          split_ifs with hid
          · have hnone := Table.get?_eq_none_of_insert? hinsert
            rw [← hid, h] at hnone
            cases hnone
          · exact h

theorem moves_claimBatch {now : Timestamp} {leaseSeconds limit : ℕ} :
    s.Moves (s.claimBatch now leaseSeconds limit) := by
  unfold claimBatch
  rcases hbody : s.db.claimBatch now leaseSeconds (some .reminderPost) limit with e | ⟨claimed, db'⟩
  · exact .idle s
  have hevolves : s.db.Evolves .strict db' := Db.evolves_claimBatch hbody
  refine .quiet (.frame hevolves) (fun _ _ _ _ ↦ id) (fun token task' htask' ↦ ?_) fun token task htask hmarked ↦ ?_
  · rcases get?_foldl_launch htask' with hold | ⟨hstage, hmem⟩
    · exact .inl ⟨task', hold, rfl, id, id⟩
    · simp only [Db.claimBatch, bind_eq_ok, throwIf_eq_ok, Prod.exists, Except.ok.injEq] at hbody
      obtain ⟨_, -, _, -, _, -, _, db₁, -, hclaim⟩ := hbody
      have hclaimed : (task'.outboxId, token) ∈
          (db₁.claimRows (some .reminderPost) now leaseSeconds limit).1 := by
        rw [hclaim]
        exact hmem
      obtain ⟨row, hrow, hkind⟩ := Db.kind_of_mem_claimRows hclaimed
      rw [hclaim] at hrow
      exact .inr ⟨hstage, row, hrow, by simpa [eq_comm] using hkind⟩
  · exact ⟨task, get?_foldl_launch_of_some htask, rfl, hmarked⟩

/-- The steps of a publisher on one of its tasks. -/
theorem moves_task (hinv : s.Inv) {op : PublisherOp} (hop : op.token? = some token)
    (htask : s.tasks.get? token = some task) : s.Moves (op.task env s task) := by
  have hidle : s.Moves s := .idle s
  have hstrict : ∀ {db' : Db} {stage : TaskStage}, Db.Effect .strict s.db db' none →
      (stage.isLive = true → task.stage.isLive = true) →
      (stage.isPosted = true → task.stage.isPosted = true) →
      (task.stage.mayBeAccepted = true → stage.mayBeAccepted = true) →
      s.Moves ⟨db', s.setStage token stage⟩ :=
    fun heffect hlive hposted hmarked ↦
      .of_stage heffect htask hlive hposted hmarked fun _ _ _ _ _ ↦ id
  obtain ⟨outboxId, stage⟩ := task
  cases op with
  | repository op => cases hop
  | claimBatch => cases hop
  | inspect token' now =>
      obtain rfl : token' = token := Option.some.inj hop
      cases stage with
      | claimed =>
          simp only [PublisherOp.task, inspect]
          split
          · exact hstrict (.frame (.refl _ s.db)) id id id
          · exact hstrict (effect_commit fun _ _ hok ↦ Db.evolves_rejectClaimBeforeWrite hok) id id id
      | _ => exact hidle
  | refuse token' outcome now retryAfterSeconds =>
      obtain rfl : token' = token := Option.some.inj hop
      cases stage with
      | prepared command =>
          simp only [PublisherOp.task]
          rcases hbody : s.db.finishWriteAfterPreflight env outboxId token' outcome now
            retryAfterSeconds with e | ⟨u, db'⟩
          · rw [commit_of_error hbody]
            exact hstrict (.frame (.refl _ s.db)) id id id
          rw [commit_of_ok hbody]
          rcases Db.finishWriteAfterPreflight_spec hbody with hevolves | ⟨hheld, hevolves⟩
          · exact hstrict (.frame hevolves) id id id
          · refine .of_stage (.frame hevolves) htask id id id fun other task' hother hlive _ hid ↦ ?_
            exact hinv.not_live_of_claimed hheld hother hlive hid
      | _ => exact hidle
  | deliver token' now =>
      obtain rfl : token' = token := Option.some.inj hop
      cases stage with
      | prepared command =>
          simp only [PublisherOp.task, deliver]
          rcases hbody : s.db.requestStarted outboxId token' now with e | ⟨started, db'⟩
          · exact hstrict (.frame (.refl _ s.db)) id id id
          obtain ⟨hheld, hevolves, hrefused, hstarted⟩ := Db.requestStarted_spec hbody
          cases started with
          | none => exact hstrict (.frame (hrefused rfl)) id id id
          | some u => exact .started htask rfl hheld hevolves (hstarted rfl) rfl
      | _ => exact hidle
  | answer token' outcome =>
      obtain rfl : token' = token := Option.some.inj hop
      cases stage with
      | posting command =>
          exact hstrict (.frame (.refl _ s.db)) (fun _ ↦ rfl) (fun _ ↦ rfl) fun h ↦ by cases h
      | _ => exact hidle
  | settle token' now receiptId retryAfterSeconds =>
      obtain rfl : token' = token := Option.some.inj hop
      cases stage with
      | answered outcome =>
          simp only [PublisherOp.task, settle]
          rcases hbody : s.db.finishWrite env outboxId token' outcome now
            (if outcome = .sent then some receiptId else none) retryAfterSeconds with e | ⟨u, db'⟩
          · rw [commit_of_error hbody]
            exact hstrict (.frame (.refl _ s.db)) (fun _ ↦ rfl) (fun _ ↦ rfl) id
          rw [commit_of_ok hbody]
          obtain ⟨hheld, hevolves⟩ := Db.finishWrite_spec hbody
          refine .of_stage (.frame hevolves) htask (fun _ ↦ rfl) (fun _ ↦ rfl) id
            fun other task' hother hlive hmarked hscope ↦ ?_
          obtain ⟨hid, hsent, hambiguous⟩ := hscope
          have haccepted := hmarked (hinv.eq_of_started hheld hother hlive hid)
          cases outcome <;> simp_all [TaskStage.isLive, Db.WriteOutcome.mayBeAccepted]
      | _ => exact hidle
  | crash token' =>
      obtain rfl : token' = token := Option.some.inj hop
      cases stage with
      | claimed => exact hstrict (.frame (.refl _ s.db)) id id id
      | prepared => exact hstrict (.frame (.refl _ s.db)) id id id
      | posting => exact hstrict (.frame (.refl _ s.db)) id id fun h ↦ by cases h
      | answered => exact hstrict (.frame (.refl _ s.db)) id id fun _ ↦ rfl
      | _ => exact hidle

/-- A write that is not there cannot be restarted. -/
theorem next_of_mayRestart {op : SchedulerOp} {db : Db} {id : Uuid}
    (hrestart : (op.scope db).mayRestart id) (hnone : db.outbox.get? id = none) :
    op.next env db = db := by
  have habsent : ∀ {token status}, ¬db.HeldBy id token status := by
    rintro token status ⟨row, hrow, -⟩
    rw [hnone] at hrow
    cases hrow
  cases op with
  | requestStarted outboxId token now =>
      obtain rfl : id = outboxId := hrestart
      rcases hbody : db.requestStarted id token now with e | ⟨started, db'⟩
      · exact commit_of_error hbody
      · exact absurd (Db.requestStarted_spec hbody).1 habsent
  | finishWrite outboxId token outcome now receiptId retryAfterSeconds =>
      obtain rfl : id = outboxId := hrestart.1
      rcases hbody : db.finishWrite env id token outcome now receiptId retryAfterSeconds
        with e | ⟨u, db'⟩
      · exact commit_of_error hbody
      · exact absurd (Db.finishWrite_spec hbody).1 habsent
  | finishWriteAfterPreflight outboxId token outcome now retryAfterSeconds =>
      obtain rfl : id = outboxId := hrestart
      rcases hbody : db.finishWriteAfterPreflight env id token outcome now retryAfterSeconds
        with e | ⟨u, db'⟩
      · exact commit_of_error hbody
      · simp only [Db.finishWriteAfterPreflight, bind_eq_ok, Db.getOutbox, hnone,
          Option.map_none] at hbody
        obtain ⟨_, -, hbody⟩ := hbody
        cases hbody
  | _ => exact hrestart.elim

/-- Only the calls of a publisher restart the write of a reminder. -/
theorem get?_eq_none_of_mayRestart {op : SchedulerOp} (hinv : s.Inv)
    (hop : op.isPublisherCall s.db = false) (htask : s.tasks.get? token = some task)
    (hrestart : (op.scope s.db).mayRestart task.outboxId) :
    s.db.outbox.get? task.outboxId = none := by
  have hkind : ∀ outboxId, (s.db.outbox.get? outboxId).any (·.kind = .reminderPost) = false →
      task.outboxId = outboxId → s.db.outbox.get? task.outboxId = none := by
    rintro outboxId hany rfl
    by_contra hne
    obtain ⟨row, hrow⟩ := Option.ne_none_iff_exists'.1 hne
    rw [hrow] at hany
    simp [hinv.reminder token task row htask hrow] at hany
  cases op with
  | requestStarted outboxId => exact hkind outboxId hop hrestart
  | finishWrite outboxId => exact hkind outboxId hop hrestart.1
  | finishWriteAfterPreflight outboxId => exact hkind outboxId hop hrestart
  | _ => exact hrestart.elim

/-- The inversion of a step. -/
theorem moves (env : Env) (hinv : s.Inv) (op : PublisherOp) : s.Moves (op.next env s) := by
  have hidle : s.Moves s := .idle s
  have htask : ∀ {token}, op.token? = some token → s.Moves (op.onTask env s) := by
    intro token hop
    unfold PublisherOp.onTask
    cases htask : op.token?.bind s.tasks.get? with
    | none => exact hidle
    | some task =>
        rw [hop] at htask
        exact moves_task hinv hop htask
  cases op with
  | repository op =>
      simp only [PublisherOp.next]
      split_ifs with hcall
      · exact hidle
      by_cases hrestart : ∃ token task, s.tasks.get? token = some task ∧
          (op.scope s.db).mayRestart task.outboxId
      · obtain ⟨token, task, htask, hrestart⟩ := hrestart
        have hnone := get?_eq_none_of_mayRestart hinv (by simpa using hcall) htask hrestart
        rw [next_of_mayRestart hrestart hnone]
        exact hidle
      · exact .of_effect (SchedulerOp.effect env s.db op) fun token task htask hscope ↦
          hrestart ⟨token, task, htask, hscope⟩
  | claimBatch => exact moves_claimBatch
  | inspect => exact htask rfl
  | refuse => exact htask rfl
  | deliver => exact htask rfl
  | answer => exact htask rfl
  | settle => exact htask rfl
  | crash => exact htask rfl

/-! ### The invariant -/

theorem inv_initial : Inv ⟨.fresh, .empty⟩ := by
  refine ⟨fun id row hrow ↦ ?_, fun token task htask ↦ ?_, fun token task row htask ↦ ?_,
    fun token task row htask ↦ ?_, fun token task token' task' htask ↦ ?_⟩
  · cases hrow
  all_goals cases htask

theorem Moves.inv (h : s.Moves s') (hinv : s.Inv) : s'.Inv := by
  cases h with
  | @quiet scope recorded effect guard old marked =>
      have hdrawn' := effect.idsDrawn hinv.drawn
      refine ⟨hdrawn', fun token task' htask' ↦ ?_, fun token task' row' htask' hrow' ↦ ?_,
        fun token task' row' htask' hlive hrow' ↦ ?_,
        fun token task' other other' htask' hlive hother hlive' hid ↦ ?_⟩
      · rcases old token task' htask' with ⟨task, htask, hid, -⟩ | ⟨-, row, hrow, -⟩
        · exact hid ▸ (hinv.taskDrawn token task htask).trans_le effect.nextUuid_le
        · exact hdrawn' _ row hrow
      · rcases old token task' htask' with ⟨task, htask, hid, -⟩ | ⟨-, row, hrow, hkind⟩
        · rw [hid] at hrow'
          obtain ⟨row, hrow, hkind, -⟩ := effect.exists_write (hinv.taskDrawn token task htask) hrow'
          rw [hkind]
          exact hinv.reminder token task row htask hrow
        · rw [hrow] at hrow'
          obtain rfl := Option.some.inj hrow'
          exact hkind
      · rcases old token task' htask' with ⟨task, htask, hid, hwas, -⟩ | ⟨hclaimed, -⟩
        · have hscope := guard token task' htask' hlive
          rw [hid] at hscope hrow'
          obtain ⟨row, hrow, hsettles⟩ :=
            effect.rowSettles (hinv.taskDrawn token task htask) hscope row' hrow'
          rcases hinv.held token task row htask (hwas hlive) hrow with hover | ⟨hstarted, htoken⟩
          · exact .inl (hsettles.ended hover)
          · rcases hsettles.started hstarted with hover | ⟨hstarted', htoken'⟩
            · exact .inl hover
            · exact .inr ⟨hstarted', htoken'.trans htoken⟩
        · rw [hclaimed] at hlive
          cases hlive
      · rcases old token task' htask' with ⟨task, htask, heq, hwas, -⟩ | ⟨hclaimed, -⟩
        · rcases old other other' hother with ⟨task₂, htask₂, heq₂, hwas₂, -⟩ | ⟨hclaimed, -⟩
          · exact hinv.once token task other task₂ htask (hwas hlive) htask₂ (hwas₂ hlive')
              (heq₂.symm.trans (hid.trans heq))
          · rw [hclaimed] at hlive'
            cases hlive'
        · rw [hclaimed] at hlive
          cases hlive
  | @started token task command found prepared held evolves started tasks =>
      have heffect : Db.Effect (Db.requestScope task.outboxId) s.db s'.db none := .frame evolves
      -- the task of the token is the only one of its write that is live
      have hold : ∀ other task', s'.tasks.get? other = some task' →
          ∃ old, s.tasks.get? other = some old ∧ task'.outboxId = old.outboxId ∧
            (other ≠ token → task' = old) := by
        intro other task' hother
        rw [tasks, get?_setStage] at hother
        split_ifs at hother with hid
        · rw [found, Option.map_some] at hother
          obtain rfl := Option.some.inj hother
          exact ⟨task, hid ▸ found, rfl, fun hne ↦ absurd hid hne⟩
        · exact ⟨task', hother, rfl, fun _ ↦ rfl⟩
      have hexcluded : ∀ other task', other ≠ token → s'.tasks.get? other = some task' →
          task'.stage.isLive = true → task'.outboxId ≠ task.outboxId := by
        intro other task' hne hother hlive
        obtain ⟨old, htask, -, heq⟩ := hold other task' hother
        obtain rfl := heq hne
        exact hinv.not_live_of_claimed held htask hlive
      have htoken : ∀ task', s'.tasks.get? token = some task' → task'.outboxId = task.outboxId := by
        intro task' htask'
        obtain ⟨old, htask, hid, -⟩ := hold token task' htask'
        rw [found] at htask
        obtain rfl := Option.some.inj htask
        exact hid
      refine ⟨heffect.idsDrawn hinv.drawn, fun other task' hother ↦ ?_,
        fun other task' row' hother hrow' ↦ ?_, fun other task' row' hother hlive hrow' ↦ ?_,
        fun first task₁ second task₂ hfirst hlive₁ hsecond hlive₂ hid ↦ ?_⟩
      · obtain ⟨old, htask, hid, -⟩ := hold other task' hother
        exact hid ▸ (hinv.taskDrawn other old htask).trans_le heffect.nextUuid_le
      · obtain ⟨old, htask, hid, -⟩ := hold other task' hother
        rw [hid] at hrow'
        obtain ⟨row, hrow, hkind, -⟩ := heffect.exists_write (hinv.taskDrawn other old htask) hrow'
        rw [hkind]
        exact hinv.reminder other old row htask hrow
      · by_cases hother' : other = token
        · subst hother'
          obtain ⟨row, hrow, hstatus, hclaim⟩ := started
          rw [htoken task' hother, hrow] at hrow'
          obtain rfl := Option.some.inj hrow'
          exact .inr ⟨hstatus, hclaim⟩
        · have hne := hexcluded other task' hother' hother hlive
          obtain ⟨old, htask, -, heq⟩ := hold other task' hother
          obtain rfl := heq hother'
          obtain ⟨row, hrow, hsettles⟩ :=
            heffect.rowSettles (hinv.taskDrawn other task' htask) hne row' hrow'
          rcases hinv.held other task' row htask hlive hrow with hover | ⟨hstarted, hclaim⟩
          · exact .inl (hsettles.ended hover)
          · rcases hsettles.started hstarted with hover | ⟨hstarted', hclaim'⟩
            · exact .inl hover
            · exact .inr ⟨hstarted', hclaim'.trans hclaim⟩
      · by_cases h₁ : first = token
        · by_cases h₂ : second = token
          · rw [h₁, h₂]
          · subst h₁
            exact absurd (hid.trans (htoken task₁ hfirst)) (hexcluded second task₂ h₂ hsecond hlive₂)
        · by_cases h₂ : second = token
          · subst h₂
            exact absurd (hid.symm.trans (htoken task₂ hsecond))
              (hexcluded first task₁ h₁ hfirst hlive₁)
          · obtain ⟨old₁, htask₁, -, heq₁⟩ := hold first task₁ hfirst
            obtain ⟨old₂, htask₂, -, heq₂⟩ := hold second task₂ hsecond
            obtain rfl := heq₁ h₁
            obtain rfl := heq₂ h₂
            exact hinv.once first task₁ second task₂ htask₁ hlive₁ htask₂ hlive₂ hid

theorem inv_of_reachable (h : (publishing env).Reachable s) : s.Inv := by
  refine h.invariant (fun hinit ↦ ?_) fun {s op s'} hstep hinv ↦ ?_
  · obtain rfl := hinit
    exact inv_initial
  · obtain rfl : s' = op.next env s := hstep
    exact (moves env hinv op).inv hinv

/-! ### At most one post -/

/-- After the post of the task may have been accepted: its write settles, no task posts for the
write anew, and the acceptance is not forgotten. -/
structure Accepted (token : Uuid) (outboxId : Uuid) (s s' : Publishing) : Prop where
  marked : ∃ task', s'.tasks.get? token = some task' ∧ task'.outboxId = outboxId ∧
    task'.stage.mayBeAccepted = true
  settles : Db.RowSettles outboxId s.db s'.db
  posted : ∀ other task', s'.tasks.get? other = some task' → task'.outboxId = outboxId →
    task'.stage.isPosted = true →
    ∃ task, s.tasks.get? other = some task ∧ task.outboxId = outboxId ∧ task.stage.isPosted = true

theorem Accepted.trans {s'' : Publishing} {outboxId : Uuid} (h : Accepted token outboxId s s')
    (h' : Accepted token outboxId s' s'') : Accepted token outboxId s s'' := by
  refine ⟨h'.marked, h.settles.trans h'.settles, fun other task'' hother hid hposted ↦ ?_⟩
  obtain ⟨task', htask', hid', hposted'⟩ := h'.posted other task'' hother hid hposted
  exact h.posted other task' htask' hid' hposted'

/-- The step lemma. -/
theorem Moves.accepted (h : s.Moves s') (hinv : s.Inv) (htask : s.tasks.get? token = some task)
    (hmarked : task.stage.mayBeAccepted = true) : Accepted token task.outboxId s s' := by
  have hlive := TaskStage.isLive_of_mayBeAccepted hmarked
  cases h with
  | quiet effect guard old marked =>
      obtain ⟨task', htask', hid, hmarked'⟩ := marked token task htask hmarked
      have hscope := guard token task' htask' (TaskStage.isLive_of_mayBeAccepted hmarked')
      rw [hid] at hscope
      refine ⟨⟨task', htask', hid, hmarked'⟩,
        effect.rowSettles (hinv.taskDrawn token task htask) hscope,
        fun other other' hother hsame hposted ↦ ?_⟩
      rcases old other other' hother with ⟨task₁, htask₁, hid₁, -, hwas⟩ | ⟨hclaimed, -⟩
      · exact ⟨task₁, htask₁, hid₁.symm.trans hsame, hwas hposted⟩
      · rw [hclaimed] at hposted
        cases hposted
  | @started token' task₁ command found prepared held evolves started tasks =>
      -- the started write is another one
      have hne := hinv.not_live_of_claimed held htask hlive
      have hother : token ≠ token' := by
        rintro rfl
        rw [htask] at found
        obtain rfl := Option.some.inj found
        exact hne rfl
      have heffect : Db.Effect (Db.requestScope task₁.outboxId) s.db s'.db none := .frame evolves
      refine ⟨⟨task, by rw [tasks, get?_setStage, if_neg hother]; exact htask, rfl, hmarked⟩,
        heffect.rowSettles (hinv.taskDrawn token task htask) hne,
        fun other other' hget hsame hposted ↦ ?_⟩
      rw [tasks, get?_setStage] at hget
      split_ifs at hget
      · rw [found, Option.map_some] at hget
        obtain rfl := Option.some.inj hget
        exact absurd hsame.symm hne
      · exact ⟨other', hget, hsame, hposted⟩

/-- The run lemma. -/
theorem accepted_of_run {ops : List PublisherOp} (hinv : s.Inv)
    (hrun : (publishing env).Run s ops s') (htask : s.tasks.get? token = some task)
    (hmarked : task.stage.mayBeAccepted = true) : s'.Inv ∧ Accepted token task.outboxId s s' := by
  induction hrun with
  | nil =>
      exact ⟨hinv, ⟨task, htask, rfl, hmarked⟩, .refl _ s.db,
        fun other task' hother hid hposted ↦ ⟨task', hother, hid, hposted⟩⟩
  | @snoc middle last ops op hrun hstep ih =>
      obtain rfl : last = op.next env middle := hstep
      obtain ⟨hinv', haccepted⟩ := ih
      obtain ⟨task', htask', hid, hmarked'⟩ := haccepted.marked
      have hmoves := moves env hinv' op
      exact ⟨hmoves.inv hinv', haccepted.trans (hid ▸ hmoves.accepted hinv' htask' hmarked')⟩

end Publishing

open Publishing in
/-- Once the post of a task may have been accepted, no later step returns its write to the queue,
claims it or starts a request for it, and no other post is made for it. -/
theorem reminder_posted_at_most_once {env : Env} {s s' : Publishing} {token : Uuid} {task : Task}
    {ops : List PublisherOp} (hreach : (publishing env).Reachable s)
    (htask : s.tasks.get? token = some task) (hmarked : task.stage.mayBeAccepted = true)
    (hrun : (publishing env).Run s ops s') :
    (∀ row', s'.db.outbox.get? task.outboxId = some row' →
      row'.status ≠ .pending ∧ row'.status ≠ .claimed ∧
      (row'.status = .requestStarted → ∃ row, s.db.outbox.get? task.outboxId = some row ∧
        row.status = .requestStarted ∧ row.claimToken = row'.claimToken)) ∧
    (∀ token' task', s'.tasks.get? token' = some task' → task'.outboxId = task.outboxId →
      task'.stage.isPosted = true → ∃ old, s.tasks.get? token' = some old ∧
        old.outboxId = task.outboxId ∧ old.stage.isPosted = true) ∧
    ∀ token' task', s'.tasks.get? token' = some task' → task'.outboxId = task.outboxId →
      task'.stage.isLive = true → token' = token := by
  obtain ⟨hinv', haccepted⟩ := accepted_of_run (inv_of_reachable hreach) hrun htask hmarked
  obtain ⟨last, hlast, hid, hmarked'⟩ := haccepted.marked
  have hlive := TaskStage.isLive_of_mayBeAccepted hmarked'
  refine ⟨fun row' hrow' ↦ ?_, haccepted.posted, fun token' task' htask' hsame hlive' ↦ ?_⟩
  · have hheld := hinv'.held token last row' hlast hlive (hid ▸ hrow')
    refine ⟨fun hstatus ↦ ?_, fun hstatus ↦ ?_, fun hstatus ↦ ?_⟩
    · rcases hheld with hover | ⟨hstarted, -⟩ <;> simp_all [OutboxStatus.isOver]
    · rcases hheld with hover | ⟨hstarted, -⟩ <;> simp_all [OutboxStatus.isOver]
    · obtain ⟨row, hrow, hsettles⟩ := haccepted.settles row' hrow'
      have hstarted := hsettles.unsent hstatus
      refine ⟨row, hrow, hstarted, ?_⟩
      rcases hsettles.started hstarted with hover | ⟨-, htoken⟩
      · rw [hstatus] at hover
        cases hover
      · exact htoken.symm
  · exact hinv'.once token last token' task' hlast hlive htask' hlive' (hsame.trans hid.symm)

/-! ### A lost publisher -/

namespace LostPublisher

open DailyReminder

/-- A reminder occurs, its request is started, and its publisher is lost. -/
def ops : List PublisherOp :=
  [.repository created, .repository (occursAt 100), .claimBatch (.ofSeconds 102) 240 1,
    .inspect 2 (.ofSeconds 103), .deliver 2 (.ofSeconds 104), .crash 2]

def lost : Publishing := ops.foldl (PublisherOp.next plain) ⟨.fresh, .empty⟩

/-- The dispatcher starts again, and the next publisher looks for work. -/
def restart : List PublisherOp :=
  [.repository (.recover (.ofSeconds 110) true), .claimBatch (.ofSeconds 111) 240 100]

end LostPublisher

open LostPublisher DailyReminder in
theorem reminder_posted_at_most_once_lost :
    ∃ row', (restart.foldl (PublisherOp.next plain) lost).db.outbox.get? 1 = some row' ∧
      row'.status = .needsReview ∧ row'.status ≠ .pending ∧ row'.status ≠ .claimed := by
  obtain ⟨task, htask, hid, hmarked⟩ : ∃ task, lost.tasks.get? 2 = some task ∧ task.outboxId = 1 ∧
      task.stage.mayBeAccepted = true := ⟨_, rfl, by decide, by decide⟩
  obtain ⟨row', hrow', hstatus⟩ : ∃ row',
      (restart.foldl (PublisherOp.next plain) lost).db.outbox.get? 1 = some row' ∧
        row'.status = .needsReview := ⟨_, rfl, by decide⟩
  obtain ⟨hrow, -⟩ := reminder_posted_at_most_once
    ⟨_, _, rfl, run_ofFun _ (PublisherOp.next plain) ⟨.fresh, .empty⟩ ops⟩ htask hmarked
    (run_ofFun _ (PublisherOp.next plain) lost restart)
  obtain ⟨hpending, hclaimed, -⟩ := hrow row' (hid ▸ hrow')
  exact ⟨row', hrow', hstatus, hpending, hclaimed⟩

end Dona
