import Dona.Jobs.Deeds
import Dona.Scheduler.System

/-!
# Invariants of the worlds

The supervisor changes the tables by operations alone. So an invariant of the tables and of what
was executed is kept by its rounds, wherever they are interrupted, as soon as the operations keep
it.
-/

namespace Dona.Jobs

open Coroutine Fallible

/-- An invariant that speaks of the tables, the moment and the executed operations, and that
everything which happens keeps; the tasks count their attempts. -/
structure Invariant (jobs : JobsEnv) (I : World → Prop) : Prop where
  numbered : ∀ {w : World}, I w → w.store.Numbered
  initial : ∀ {w}, w.store = .fresh → w.executed = [] → I w
  happens : ∀ {w w'}, Happens jobs w w' → I w → I w'
  congr : ∀ {w w' : World}, w'.store = w.store → w'.moment = w.moment → w'.executed = w.executed →
    I w → I w'

variable {jobs : JobsEnv} {I : World → Prop}

/-- Whatever the other programs do, the invariant is kept, and the jobs that there are stay. -/
def discipline (I : World → Prop) : Interference World Call.Reply ℕ :=
  .ofRely (fun c w r w' ↦ answers w c r ∧ w' = w) I
    (fun _ w w' ↦ Preserves w.store w'.store) (fun _ w ↦ .refl w.store) fun h h' ↦ h.trans h'

variable {i : ℕ}

section

variable (hI : Invariant jobs I)

include hI

theorem safe_execute (op : Operation) (hop : ∀ s, op.Permitted s) :
    Safe (discipline I) i (execute jobs op) := by
  refine safe_transact fun w r w' h hw ↦ ?_
  simp only [bind_eq_ok, Except.ok.injEq, Prod.mk.injEq] at h
  obtain ⟨⟨_, t⟩, hrun, -, rfl⟩ := h
  have hhappens : Happens jobs w (w.record op t) := .operation (hop w.store) hrun
  exact ⟨hI.happens hhappens hw, fun _ _ ↦ preserves_happens hhappens⟩

omit hI in
theorem safe_ask (c : Call) : Safe (discipline I) i (call c : Program c.Reply) := by
  refine safe_call fun w r w' hw h _ ↦ ?_
  rw [h.2]
  exact ⟨hw, fun _ _ ↦ .refl w.store⟩

omit hI in
theorem safe_settled {α : Type} (r : Except String α) : Safe (discipline I) i (settled r) := by
  cases r with
  | ok a => exact safe_pure a
  | error e => exact safe_throw e

omit hI in
theorem safe_required {α : Type} (a : Option α) : Safe (discipline I) i (required a) := by
  cases a with
  | some a => exact safe_pure a
  | none => exact safe_throw _

theorem safe_recordWorkerObservation (jobId : JobId) (seen : JobRow × Option String)
    (observation : WorkerObservation) : Safe (discipline I) i
      (write (World.recordWorkerObservation jobId seen observation) : Program Unit) := by
  refine safe_write fun w hw ↦ ?_
  unfold World.recordWorkerObservation
  split_ifs
  · exact ⟨hw, fun _ _ ↦ .refl w.store⟩
  · refine ⟨?_, fun _ _ ↦ .refl w.store⟩
    refine hI.congr ?_ ?_ ?_ hw <;> rfl

theorem safe_observeWorker (jobId : JobId) (seen : JobRow × Option String) :
    Safe (discipline I) i (observeWorker jobId seen) := by
  refine (safe_ask _).bind fun r ↦ (safe_settled r).bind fun observation ↦ ?_
  refine (safe_read _).bind fun prior ↦ Safe.bind ?_ fun retired ↦ ?_
  · split
    · refine Safe.ite ((safe_ask _).bind fun r ↦ (safe_settled r).bind fun _ ↦ safe_pure _) ?_
      exact safe_pure _
    · exact safe_pure _
  · refine (safe_read _).bind fun now ↦ ?_
    exact (safe_recordWorkerObservation hI jobId seen _).bind fun _ ↦ safe_pure _

theorem safe_waitFor (taskId : TaskId) (task : TaskRow) (reason : WaitReason) :
    Safe (discipline I) i (waitFor jobs taskId task reason) := safe_execute hI _ (by intro; trivial)

theorem safe_takeResult (taskId : TaskId) (task : TaskRow) :
    Safe (discipline I) i (takeResult jobs taskId task) := by
  refine (safe_ask _).bind fun r ↦ ?_
  split
  · exact safe_pure _
  · exact (safe_waitFor hI taskId task _).bind fun _ ↦ safe_pure _
  · refine (safe_execute hI _ (by intro; trivial)).attempt.bind fun saved ↦ ?_
    split
    · exact safe_pure _
    · exact (safe_waitFor hI taskId task _).bind fun _ ↦ safe_pure _

theorem safe_takeCheckpoint (taskId : TaskId) (task : TaskRow) :
    Safe (discipline I) i (takeCheckpoint jobs taskId task) := by
  refine (safe_ask _).bind fun r ↦ (safe_settled r).bind fun checkpoint ↦ ?_
  split
  · exact safe_pure _
  · refine (safe_execute hI _ (by intro; trivial)).bind fun _ ↦ (safe_read _).bind fun answered ↦ ?_
    refine (safe_read _).bind fun now ↦ ?_
    split
    · exact (safe_waitFor hI taskId task _).bind fun _ ↦ safe_pure _
    · dsimp only
      split
      · exact (safe_execute hI _ (by intro; trivial)).bind fun _ ↦ safe_pure _
      · exact safe_pure _

theorem safe_commandStop (taskId : TaskId) (task : TaskRow) (seen : JobRow × Option String)
    (observed : WorkerObservation) :
    Safe (discipline I) i (commandStop jobs taskId task seen observed) := by
  refine (safe_read _).bind fun recorded ↦ Safe.bind ?_ fun claimed ↦ ?_
  · exact Safe.ite (safe_execute hI (.claimStop taskId task (recorded.getD observed)) (by intro; trivial))
      (safe_pure _)
  · refine Safe.ite ((safe_execute hI _ (by intro; trivial)).bind fun (may : Bool) ↦ ?_) (safe_pure _)
    exact Safe.ite ((safe_ask _).bind fun _ ↦ safe_pure _) (safe_pure _)

theorem safe_confirmInactive (taskId : TaskId) (task : TaskRow) (seen : JobRow × Option String)
    (observed : WorkerObservation) :
    Safe (discipline I) i (confirmInactive jobs taskId task seen observed) := by
  refine Safe.ite ((safe_observeWorker hI _ seen).bind fun fresh ↦ Safe.ite ?_ (safe_pure _))
    (safe_pure _)
  exact (safe_waitFor hI taskId task _).bind fun _ ↦ safe_pure _

theorem safe_stopWorker (taskId : TaskId) (task : TaskRow) (seen : JobRow × Option String)
    (capacityWait : Bool) :
    Safe (discipline I) i (stopWorker jobs taskId task seen capacityWait) := by
  refine (safe_observeWorker hI _ seen).bind fun observed ↦ ?_
  refine Safe.ite ((safe_execute hI _ (by intro; trivial)).bind fun _ ↦ safe_pure _) ?_
  refine Safe.ite ((safe_execute hI _ (by intro; trivial)).bind fun _ ↦ safe_pure _) ?_
  refine Safe.ite ((safe_waitFor hI taskId task _).bind fun _ ↦ safe_pure _) ?_
  refine (safe_read _).bind fun updatedAt ↦ Safe.ite (safe_pure _) ?_
  refine (safe_confirmInactive hI taskId task seen observed).bind fun confirmed ↦ ?_
  refine Safe.ite ?_ (safe_pure _)
  exact (safe_commandStop hI taskId task seen observed).bind fun _ ↦ safe_pure _

theorem safe_verifyStop (taskId : TaskId) (task : TaskRow) :
    Safe (discipline I) i (verifyStop jobs taskId task) := by
  refine (safe_required _).bind fun evidence ↦ (safe_ask _).bind fun r ↦ ?_
  refine (safe_settled r).bind fun retired ↦ Safe.ite ?_ (safe_waitFor hI taskId task _)
  refine (safe_execute hI (.stopped taskId task evidence) (by intro; trivial)).bind fun _ ↦ ?_
  exact (safe_execute hI (.replaceStopped taskId) (by intro; trivial)).bind fun _ ↦ safe_pure _

theorem safe_reconcileWorker (observes : Bool) (taskId : TaskId) (task : TaskRow)
    (seen : JobRow × Option String) (capacityWait : Bool) :
    Safe (discipline I) i (reconcileWorker jobs observes taskId task seen capacityWait) := by
  refine Safe.ite (safe_waitFor hI taskId task _) (Safe.ite (safe_waitFor hI taskId task _) ?_)
  refine Safe.ite ?_ (safe_verifyStop hI taskId task)
  refine (safe_stopWorker hI taskId task seen capacityWait).bind fun claimed ↦ ?_
  split
  · exact safe_verifyStop hI taskId _
  · exact safe_pure _

theorem safe_reconcileTask (observes : Bool) (taskId : TaskId) (snapshot : TaskRow) :
    Safe (discipline I) i (reconcileTask jobs observes taskId snapshot) := by
  refine (safe_read _).bind fun w ↦ (safe_required _).bind fun task ↦ Safe.ite (safe_pure _) ?_
  refine (safe_required _).bind fun seen ↦ ?_
  split
  · exact safe_execute hI _ (by intro; trivial)
  · refine (safe_takeResult hI taskId task).bind fun ended ↦ Safe.ite (safe_pure _) ?_
    refine Safe.ite (safe_execute hI _ (by intro; trivial)) ?_
    refine (safe_takeCheckpoint hI taskId task).bind fun checkpoint ↦ ?_
    split
    · exact safe_pure _
    · refine Safe.ite ?_ (safe_reconcileWorker hI observes taskId task seen _)
      exact (safe_execute hI (.replaceStopped taskId) (by intro; trivial)).bind fun _ ↦ safe_pure _

theorem safe_reconcileTasks (observes : Bool) :
    Safe (discipline I) i (reconcileTasks jobs observes) := by
  refine (safe_read _).bind fun candidate ↦ ?_
  split
  · exact safe_pure _
  · refine (safe_ask _).bind fun _ ↦ (safe_reconcileTask hI observes _ _).attempt.bind fun r ↦ ?_
    split
    · exact safe_pure _
    · exact safe_waitFor hI _ _ _

/-! ### Inspecting and resuming -/

omit hI in
theorem safe_assertHandoffOwner (jobId : JobId) (sourceEventId : EventId) :
    Safe (discipline I) i (assertHandoffOwner jobId sourceEventId) :=
  (safe_read _).bind fun owned ↦ safe_settled owned

theorem safe_inspectWorker (jobId : JobId) (sourceEventId : EventId) :
    Safe (discipline I) i (inspectWorker jobId sourceEventId) := by
  refine (safe_assertHandoffOwner jobId sourceEventId).bind fun _ ↦ ?_
  refine (safe_read _).bind fun before ↦ (safe_required before).bind fun seen ↦ ?_
  refine (safe_observeWorker hI jobId seen).bind fun observation ↦ ?_
  refine (safe_assertHandoffOwner jobId sourceEventId).bind fun _ ↦ ?_
  refine (safe_read _).bind fun current ↦ (safe_required current).bind fun row ↦ ?_
  exact (safe_read _).bind fun record ↦ safe_pure _

omit hI in
theorem safe_assertNoResult (jobId : JobId) : Safe (discipline I) i (assertNoResult jobId) := by
  refine (safe_ask _).bind fun r ↦ ?_
  split
  · exact safe_throw _
  · exact safe_pure _
  · exact safe_throw _

omit hI in
theorem safe_assertAdmission (jobId : JobId) (old : JobRow) (sourceEventId : EventId)
    (instruction : String) :
    Safe (discipline I) i (assertAdmission jobs jobId old sourceEventId instruction) :=
  (safe_read _).bind fun accepted ↦ safe_settled accepted

theorem safe_retire (jobId : JobId) (sourceEventId : EventId) (instruction : String)
    (record : HandoffRecord) :
    Safe (discipline I) i (retire jobs jobId sourceEventId instruction record) := by
  refine Safe.ite ((safe_observeWorker hI jobId record.expectedJob).bind fun fresh ↦ ?_)
    (safe_pure _)
  have hadmission : Safe (discipline I) i
      (assertAdmission jobs jobId record.expectedJob.1 sourceEventId instruction) :=
    safe_assertAdmission jobId record.expectedJob.1 sourceEventId instruction
  refine Safe.ite (safe_pure _) (hadmission.bind fun _ ↦ Safe.ite ?_ (safe_pure _))
  refine (safe_execute hI _ (by intro; trivial)).bind fun (may : Bool) ↦ ?_
  exact Safe.ite ((safe_ask _).bind fun _ ↦ safe_pure _) (safe_pure _)

omit hI in
theorem safe_awaitRetired (jobId : JobId) (evidence : WorkerObservation) (polls : ℕ) :
    Safe (discipline I) i (awaitRetired jobId evidence polls) := by
  induction polls with
  | zero => exact (safe_ask _).bind fun r ↦ safe_settled r
  | succ polls ih =>
      refine (safe_ask _).bind fun r ↦ (safe_settled r).bind fun retired ↦ ?_
      refine Safe.ite (safe_pure _) ((safe_ask _).bind fun r ↦ (safe_settled r).bind fun _ ↦ ih)

/-- The job exists, and it is no attempt at a task. -/
def NoAttempt (jobId : JobId) (w : World) : Prop :=
  (∃ job, w.store.db.jobs.get? jobId = some job) ∧ w.store.attempts.get? jobId = none

omit hI in
theorem NoAttempt.preserves {jobId : JobId} {w w' : World} (h : Preserves w.store w'.store)
    (hw : NoAttempt jobId w) : NoAttempt jobId w' := by
  obtain ⟨⟨job, hjob⟩, hnone⟩ := hw
  obtain ⟨job', hjob', -⟩ := h.jobs jobId job hjob
  exact ⟨⟨job', hjob'⟩, h.unattempted hjob hnone⟩

omit hI in
/-- What a safe program does leaves the job no attempt. -/
theorem keeps_noAttempt (jobId : JobId) {α : Type} {p : Program α} (hp : Safe (discipline I) i p) :
    Keeps (discipline I) i (fun w ↦ I w ∧ NoAttempt jobId w) p := by
  refine hp.keeps_of_stable (fun h hw ↦ hw.preserves h) fun h hinv hw ↦ ?_
  exact hw.preserves ((h hinv).2 (i + 1) (Nat.ne_of_lt (Nat.lt_succ_self i)))

/-- The claim is permitted because the job is no attempt. -/
theorem keeps_execute {jobId : JobId} (op : Operation)
    (hop : ∀ w, NoAttempt jobId w → op.Permitted w.store) :
    Keeps (discipline I) i (fun w ↦ I w ∧ NoAttempt jobId w) (execute jobs op) := by
  intro w hw
  refine wp_transact (fun r w' h ↦ ?_) fun _ _ ↦ hw
  simp only [bind_eq_ok, Except.ok.injEq, Prod.mk.injEq] at h
  obtain ⟨⟨_, t⟩, hrun, -, rfl⟩ := h
  have hhappens : Happens jobs w (w.record op t) := .operation (hop w hw.2) hrun
  have hinv := hI.happens hhappens hw.1
  have hpreserves := preserves_happens hhappens
  exact ⟨fun _ ↦ ⟨hinv, fun _ _ ↦ hpreserves⟩, hinv, hw.2.preserves hpreserves⟩

theorem keeps_claimHandoff (jobId : JobId) (sourceEventId : EventId) (instruction : String) :
    Keeps (discipline I) i (fun w ↦ I w ∧ NoAttempt jobId w)
      (claimHandoff jobs jobId sourceEventId instruction) := by
  have hsafe : ∀ {α : Type} {p : Program α}, Safe (discipline I) i p →
      Keeps (discipline I) i (fun w ↦ I w ∧ NoAttempt jobId w) p := keeps_noAttempt jobId
  refine (keeps_read _).bind fun before ↦ (hsafe (safe_required before)).bind fun seen ↦ ?_
  refine Keeps.ite (keeps_throw _) ((hsafe (safe_assertNoResult jobId)).bind fun _ ↦ ?_)
  refine (hsafe (safe_observeWorker hI jobId seen)).bind fun observation ↦ ?_
  refine Keeps.ite (keeps_pure _) ((hsafe (safe_observeWorker hI jobId seen)).bind fun fresh ↦ ?_)
  refine Keeps.ite (keeps_pure _) ?_
  refine (hsafe (safe_assertAdmission jobId seen.1 sourceEventId instruction)).bind fun _ ↦ ?_
  refine (keeps_execute hI (.claimJobHandoff jobId seen sourceEventId instruction fresh)
    fun w hw ↦ hw.2).bind fun _ ↦ (keeps_read _).bind fun record ↦ ?_
  exact (hsafe (safe_required record)).bind fun _ ↦ keeps_pure _

theorem keeps_resumeInTurn (observes : Bool) (jobId : JobId) (sourceEventId : EventId)
    (instruction : String) (polls : ℕ) : Keeps (discipline I) i (fun w ↦ I w ∧ NoAttempt jobId w)
      (resumeInTurn jobs observes jobId sourceEventId instruction polls) := by
  have hsafe : ∀ {α : Type} {p : Program α}, Safe (discipline I) i p →
      Keeps (discipline I) i (fun w ↦ I w ∧ NoAttempt jobId w) p := keeps_noAttempt jobId
  refine (hsafe (safe_assertHandoffOwner jobId sourceEventId)).bind fun _ ↦ ?_
  refine (keeps_read _).bind fun record ↦ Keeps.ite (keeps_throw _) ?_
  split
  · exact keeps_pure _
  · refine Keeps.ite (keeps_throw _) (Keeps.bind ?_ fun claimed ↦ ?_)
    · split
      · exact keeps_pure _
      · exact keeps_claimHandoff hI jobId sourceEventId instruction
    · split
      · exact keeps_pure _
      · refine (hsafe (safe_retire hI jobId sourceEventId instruction _)).bind fun worker ↦ ?_
        split
        · exact keeps_pure _
        · refine (hsafe (safe_awaitRetired jobId _ polls)).bind fun retired ↦ Keeps.ite ?_ (keeps_pure _)
          refine Keeps.bind ?_ fun _ ↦ keeps_pure _
          exact hsafe (safe_execute hI (.finishJobHandoff jobId sourceEventId) (by intro; trivial))

theorem safe_resumeJob (observes : Bool) (jobId : JobId) (sourceEventId : EventId)
    (instruction : String) (polls : ℕ) {w : World} {job : JobRow} (hw : I w)
    (hjob : w.store.db.jobs.get? jobId = some job) :
    wp (discipline I) i (resumeJob jobs observes jobId sourceEventId instruction polls)
      (fun _ _ ↦ True) (fun _ _ ↦ True) w := by
  rw [resumeJob, wp_bind, wp_read, wp_ite]
  split_ifs with hattempt
  · trivial
  · have hnone : w.store.attempts.get? jobId = none := by
      by_contra hsome
      obtain ⟨attempt, hattempted⟩ := Option.ne_none_iff_exists'.1 hsome
      obtain ⟨task, htask, -⟩ := (hI.numbered hw).task hattempted
      simp [Store.forAttempt, hattempted, htask] at hattempt
    have hturn : Keeps (discipline I) i (fun w ↦ I w ∧ NoAttempt jobId w)
        (call (Call.turn jobId) : Program Unit) := keeps_noAttempt jobId (safe_ask _)
    have hrest := hturn.bind fun _ ↦
      keeps_resumeInTurn hI observes jobId sourceEventId instruction polls
    exact wp_mono (fun _ _ _ ↦ trivial) (fun _ _ _ ↦ trivial) (hrest w ⟨hw, ⟨job, hjob⟩, hnone⟩)

theorem obeys_discipline : Pool.Obeys (surroundings jobs) (discipline I) where
  initial h := hI.initial h.1 h.2
  perform h := h
  programs := by
    intro i p w hp hw
    cases hp with
    | reconcileTasks observes => exact safe_reconcileTasks hI observes w
    | inspectWorker sourceEventId _ =>
        exact ((safe_inspectWorker hI _ sourceEventId).bind fun _ ↦ safe_pure _) w
    | resumeJob observes sourceEventId instruction polls hjob =>
        have hresume := safe_resumeJob (i := i) hI observes _ sourceEventId instruction polls hw hjob
        exact wp_bind.2 (wp_mono (fun _ _ _ ↦ trivial) (fun _ _ _ ↦ trivial) hresume)
  inv_kill := by
    rintro i w w' rfl hw
    exact hw
  rely_kill := by
    intro i j w w' _ hkill _
    rw [hkill]
    exact .refl w.store
  inv_environment h hw := hI.happens h hw
  rely_environment h _ := preserves_happens h

/-- The rule for invariants of the worlds. -/
theorem Invariant.of_reachable {P : Pool World Call.Reply String ℕ}
    (h : (system jobs).Reachable P) : I P.shared :=
  Pool.inv_of_reachable (obeys_discipline hI) h

end

/-! ### Runs of operations -/

def World.after (jobs : JobsEnv) (op : Operation) (w : World) : Option World :=
  match op.run jobs w.moment w.store with
  | .ok (_, t) => some (w.record op t)
  | .error _ => none

theorem happens_after {op : Operation} {w w' : World} (hop : op.Permitted w.store)
    (h : w.after jobs op = some w') : Happens jobs w w' := by
  unfold World.after at h
  split at h
  · rename_i hrun
    obtain rfl := Option.some.inj h
    exact .operation hop hrun
  · contradiction

abbrev Move := Pool.Move World Call.Reply String ℕ

instance (s : Store) (op : Operation) : Decidable (op.Permitted s) := by
  cases op <;> unfold Operation.Permitted <;> infer_instance

/-- The operation that is chosen from the tables. -/
def operate (jobs : JobsEnv) (choose : Store → Option Operation) : Move :=
  .environment fun w ↦ (choose w.store).bind fun op ↦
    if op.Permitted w.store then w.after jobs op else none

theorem lawful_operate (jobs : JobsEnv) (choose : Store → Option Operation) :
    (operate jobs choose).Lawful (surroundings jobs) := by
  intro w w' h
  obtain ⟨op, -, hop⟩ := Option.bind_eq_some_iff.1 h
  split_ifs at hop with hpermitted
  exact happens_after hpermitted hop

/-! ### A thread -/

namespace Sample

def thread : SlackThread := ⟨"T1", "C1", "1.0"⟩

def message (eventId : EventId) : EventRow where
  source := .slack
  externalEventId := .text eventId
  eventType := "message"
  occurredAt := .ofSeconds 0
  subject := .text "U1"
  payload := .text ""
  replyTarget := some (.slackThread thread)
  status := .waitingAgent
  availableAt := .ofSeconds 0
  createdAt := .ofSeconds 0
  updatedAt := .ofSeconds 0

/-- Two jobs may be created for an event; the actor of a message is its subject. -/
def env : JobsEnv where
  env := DailyReminder.plain
  limits := ⟨2, 1000⟩
  actorId? := some
  serialize _ := ""

/-- A message of the thread arrives. -/
def receive (eventId : EventId) (s : Store) : Option Store := do
  let events ← s.db.events.insert? eventId (message eventId)
  let bindings ← s.db.eventBindings.insert? eventId ⟨.slackThread thread, .slackThread thread⟩
  some { s with db := { s.db with events := events, eventBindings := bindings } }

def arrive (eventId : EventId) : Move :=
  .environment fun w ↦ (receive eventId w.store).map fun s ↦ { w with store := s }

theorem lawful_arrive (eventId : EventId) :
    (arrive eventId).Lawful (surroundings jobs) := by
  intro w w' h
  obtain ⟨t, ht, rfl⟩ := Option.map_eq_some_iff.1 h
  simp only [receive, Option.bind_eq_bind, Option.bind_eq_some_iff, Option.some.injEq] at ht
  obtain ⟨events, -, bindings, hbindings, rfl⟩ := ht
  exact .elsewhere
    { jobs := .refl (fun _ _ ↦ .inl rfl) _, owners := rfl, bindings := extends_insert hbindings
      tasks := rfl, attempts := rfl, controls := rfl, handoffs := rfl, queuedSteers := rfl
      workspaces := rfl }

/-- One step of a run of operations. -/
inductive Act
  | arrives (eventId : EventId)
  | runs (op : Operation)
  | onTask (taskId : TaskId) (choose : TaskRow → Operation)
  | onJob (jobId : JobId) (choose : JobRow × Option String → Operation)

def Act.move : Act → Move
  | arrives eventId => arrive eventId
  | runs op => operate env fun _ ↦ some op
  | onTask taskId choose => operate env fun s ↦ (s.tasks.get? taskId).map choose
  | onJob jobId choose => operate env fun s ↦ (s.snapshot? jobId).map choose

theorem lawful_move (act : Act) : act.move.Lawful (surroundings env) := by
  cases act with
  | arrives eventId => exact lawful_arrive eventId
  | runs op => exact lawful_operate env fun _ ↦ some op
  | onTask taskId choose => exact lawful_operate env fun s ↦ (s.tasks.get? taskId).map choose
  | onJob jobId choose => exact lawful_operate env fun s ↦ (s.snapshot? jobId).map choose

def start : World := ⟨.fresh, ⟨1000, fun _ ↦ false⟩, .empty, []⟩

/-- What the run of these steps shows of its last world, a reachable world shows. -/
theorem exists_reachable (acts : List Act) {γ : Type} {f : World → γ} {c : γ}
    (h : ((acts.map Act.move).foldlM Pool.Move.apply ⟨start, fun _ ↦ none⟩).map
      (fun P ↦ f P.shared) = some c) :
    ∃ P, (system env).Reachable P ∧ f P.shared = c := by
  refine Pool.Script.exists_reachable (W := surroundings env) (fun move hmove ↦ ?_) ⟨rfl, rfl⟩ h
  obtain ⟨act, -, rfl⟩ := List.mem_map.1 hmove
  exact lawful_move act

def idle : WorkerObservation := ⟨.inactive, "pane_idle", .ofSeconds 0, [1], [1]⟩

end Sample

end Dona.Jobs
