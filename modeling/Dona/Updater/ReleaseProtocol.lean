import Dona.Updater.ReleaseRuns
import Mathlib.Data.Nat.Basic

/-!
# The release files over whole runs

Runs of the controller overlap at their awaits and die at any of them. Whatever their order, the
files only go forward through the stages of the update; and as long as one run at a time is under
way, the state of the request tells where they are.
-/

namespace Dona.UpdateController

open Coroutine Fallible Updater Stage

section

variable {setting : Setting} {Run : Type} {number : Run ↪ ℕ} {w : World}

theorem Starts.sound {alone : Prop} (h : Starts setting w) : Sound setting alone w := by
  obtain ⟨row, hrow, -, hstate, hcurrentSha, htargetSha, hgeneration⟩ := h.row
  have hplanned : Within setting (planned, planned) w.files :=
    ⟨planned, le_rfl, le_rfl, h.files ▸ shows_planned⟩
  refine ⟨row, hrow, hcurrentSha, htargetSha, ?_, fun _ ↦ ?_, fun hpositive ↦ ?_,
    fun _ ↦ ⟨hgeneration, h.activator⟩⟩
  · rw [hstate]
    exact hplanned
  · rw [hstate]
    exact hplanned
  · rw [hgeneration] at hpositive
    exact absurd hpositive (Nat.lt_irrefl 0)

theorem obeys :
    Pool.Obeys (surroundings setting number) (discipline setting number) where
  initial h := h.sound
  perform h := h
  programs h hs := by
    obtain ⟨owner, ⟨hloop, rfl⟩ | rfl | ⟨planHash, rfl⟩⟩ := h
    · exact wp_mono (fun _ _ _ ↦ trivial) (fun _ _ _ ↦ trivial)
        (wp_processNext setting.policy owner hloop hs)
    · exact wp_mono (fun _ _ _ ↦ trivial) (fun _ _ _ ↦ trivial)
        (wp_reconcile setting.policy owner hs)
    · exact wp_mono (fun _ _ _ ↦ trivial) (fun _ _ _ ↦ trivial)
        (wp_operatorRollback setting.policy owner planHash hs)
  inv_kill h hs := h ▸ hs
  rely_kill {_ j s t} _ h _ := by
    obtain rfl : t = s := h
    exact Relies.refl setting number j _
  inv_environment h hs := h.quiet.sound hs
  rely_environment {j _ _} h hs := h.quiet.relies hs j

end

/-! ### Any runs -/

/-- Any runs of the controller, which overlap. -/
def controller (setting : Setting) :
    TransitionSystem (Pool World Call.Reply String ℕ) (Pool.Event ℕ) :=
  Pool.system (surroundings setting (.refl ℕ))

/-- One run of the controller at a time. -/
def loneController (setting : Setting) :
    TransitionSystem (Pool World Call.Reply String Unit) (Pool.Event Unit) :=
  Pool.system (surroundings setting ⟨fun _ ↦ 0, Function.injective_of_subsingleton _⟩)

/-! ### A crash between the two pointers -/

namespace Sample

/-- An update from `a1` to `b2`, where no release was switched before. -/
def update : Setting where
  policy := ⟨60000, 30000, "dona", []⟩
  requestId := "upd_1"
  currentSha := "a1"
  targetSha := "b2"
  files := ⟨some "a1", none, none⟩
  differ := by decide
  unwritten := rfl

def plannedUpdate : World where
  db := ((planAndApprove "upd_1" "plan_1" 0).take 1).foldl Operation.next .fresh
  files := update.files
  now := 2
  holder := none
  activator := none

abbrev Move (Run : Type) := Pool.Move World Call.Reply String Run

def approval : Operation :=
  .approve ⟨"plan_1:apply", sampleThread, "plan_1", samplePlan "plan_1" 0, "plan_1:receipt"⟩ 1

def compatibility : Compatibility := ⟨1, 1, 3, 3, 3, true⟩

def healthy : HealthSnapshot :=
  ⟨true, some true, true, some "a1", some 1, some 3, some 3, some 3, some 3, some 1, some 1,
    some true⟩

def stopped : HealthSnapshot :=
  ⟨false, some false, false, none, none, none, none, none, none, none, none, none⟩

def agent : MainAgentObservation :=
  ⟨true, some "dona", some "codex", some "pane_1", some .idle, true, some "session_1", true⟩

/-- The outside lets the update through. -/
def answer : (c : Call) → World → Option (c.Reply × World)
  | .readPointer pointer, w => some (.ok (w.files.pointer pointer), w)
  | .renamePointer pointer sha, w =>
      some (.ok (), { w with files := w.files.setPointer pointer sha })
  | .writeReceipt receipt, w =>
      some (.ok (), { w with files := w.files.setReceipt receipt })
  | .eventTerminal _, w => some (.ok true, w)
  | .prepareRelease _, w => some (.ok (), w)
  | .workerSafety, w => some (.ok ⟨true, none⟩, w)
  | .health _, w => some (.ok healthy, w)
  | .quiesce service, w => some (.ok ⟨service, true, true, 0, []⟩, w)
  | .waitForMainAgentIdle, w => some (.ok agent, w)
  | .mainAgentStatus _, w => some (.ok agent, w)
  | .stopMainAgent _, w => some (.ok ⟨.done, some "pane_1", none⟩, w)
  | .stopService _, w => some (.ok ⟨some 0, false, false⟩, w)
  | .waitForStopped _, w => some (.ok stopped, w)
  | .registered _, w => some (.ok false, w)
  | .releaseManifest _, w => some (.ok (some compatibility), w)
  | .validateRelease _, w => some (.ok (), w)
  | _, _ => none

section

variable {Run : Type} (i : Run)

/-- The update is approved and begun; the run dies after some awaits. -/
def begun (awaits : ℕ) : List (Move Run) :=
  [.environment fun w ↦ some { w with db := approval.next w.db },
    .start i fun _ ↦ some (processNext update.policy "upd_1" "controller" 0)] ++
  (List.replicate awaits [.perform i answer, .resume i]).flatten ++
  [.kill i some]

/-- What the death of the run leaves. -/
def left [DecidableEq Run] (awaits : ℕ) {γ : Type} (f : World → γ) : Option γ :=
  ((begun i awaits).foldlM Pool.Move.apply ⟨plannedUpdate, fun _ ↦ none⟩).map fun P ↦ f P.shared

end

/-- The state, the generation that the row records, and the files. -/
def shown (w : World) : UpdateState × ℕ × ReleaseFiles :=
  (w.state update, (w.row update).elim 0 (·.activationGeneration), w.files)

/-- The target is current, and there is no receipt of it. -/
def torn : UpdateState × ℕ × ReleaseFiles := (.activating, 0, ⟨some "b2", some "a1", none⟩)

def restarting : UpdateState × ℕ × ReleaseFiles :=
  (.restarting, 1, ⟨some "b2", some "a1", some ⟨"upd_1", 1, 1, "a1", "b2", 2⟩⟩)

theorem starts_plannedUpdate : Starts update plannedUpdate :=
  ⟨⟨_, rfl, by decide, rfl, rfl, rfl, rfl⟩, rfl, rfl⟩

section

variable {Run : Type} {number : Run ↪ ℕ} {i : Run}

theorem performs_answer {c : Call} {w t : World} {r : c.Reply} (h : answer c w = some (r, t)) :
    Performs c w r t := by
  cases c
  case readPointer pointer =>
    obtain ⟨rfl, rfl⟩ := Prod.mk.inj (Option.some.inj h)
    exact .readPointer pointer
  case renamePointer pointer sha =>
    obtain ⟨rfl, rfl⟩ := Prod.mk.inj (Option.some.inj h)
    exact .renamePointer pointer sha _
  case writeReceipt receipt =>
    obtain ⟨rfl, rfl⟩ := Prod.mk.inj (Option.some.inj h)
    exact .writeReceipt receipt _
  all_goals first
    | cases h
      done
    | obtain ⟨rfl, rfl⟩ := Prod.mk.inj (Option.some.inj h)
      exact .outside _ rfl

theorem lawful_begun (hi : number i = 0) (awaits : ℕ) :
    ∀ move ∈ begun i awaits, move.Lawful (surroundings update number) := by
  intro move hmove
  simp only [begun, List.mem_append, List.mem_cons, List.not_mem_nil, or_false,
    List.mem_flatten] at hmove
  rcases hmove with ((rfl | rfl) | ⟨round, hround, hmove⟩) | rfl
  · intro w t h
    obtain rfl := Option.some.inj h
    exact .asks rfl
  · intro w p h
    obtain rfl := Option.some.inj h
    exact ⟨"controller", .inl ⟨hi, by rw [hi]; rfl⟩⟩
  · obtain rfl := List.eq_of_mem_replicate hround
    simp only [List.mem_cons, List.not_mem_nil, or_false] at hmove
    rcases hmove with rfl | rfl
    · exact fun c w r t h ↦ performs_answer h
    · trivial
  · intro w t h
    exact (Option.some.inj h).symm

theorem reachable_begun [DecidableEq Run] (hi : number i = 0) {awaits : ℕ} {γ : Type}
    {f : World → γ} {c : γ} (h : left i awaits f = some c) :
    ∃ P, (Pool.system (surroundings update number)).Reachable P ∧ f P.shared = c :=
  Pool.Script.exists_reachable (lawful_begun hi awaits) starts_plannedUpdate h

end

end Sample

/-- Whichever runs overlap and wherever they die, the files only go forward through the stages of
the update, and a request that has ended tells at which one they are. -/
theorem files_go_forward {setting : Setting} {P P' : Pool World Call.Reply String ℕ}
    {events : List (Pool.Event ℕ)} (h : (controller setting).Reachable P)
    (hrun : (controller setting).Run P events P') :
    Advances setting P.shared.files P'.shared.files ∧
      ∃ row, P'.shared.row setting = some row ∧
        Within setting (looseSpan row.state) P'.shared.files := by
  have hadvances := Pool.relates_of_run obeys
    (r := fun s t : World ↦ Advances setting s.files t.files) (fun s ↦ .refl s.files)
    (fun h h' ↦ h.trans h') (fun h ↦ h.advances) h hrun
  obtain ⟨row, hrow, hsound⟩ := Pool.inv_of_reachable obeys (h.run hrun)
  exact ⟨hadvances, row, hrow, hsound.loose⟩

open Sample in
theorem files_go_forward_torn : ∃ P P' events,
    (controller update).Run P events P' ∧ P.shared.files = update.files ∧
      shown P'.shared = torn ∧ Advances update P.shared.files P'.shared.files := by
  have hi : Function.Embedding.refl ℕ 0 = 0 := rfl
  have hleft : left 0 29 shown = some torn := by decide
  obtain ⟨P', ⟨P, events, hinitial, hrun⟩, htorn⟩ := reachable_begun hi hleft
  exact ⟨P, P', events, hrun, hinitial.1.files, htorn,
    (files_go_forward (.of_initial hinitial) hrun).1⟩

/-- Whichever runs overlap and wherever they die, the row records a generation only once the files
have shown the receipt of the activation, and none before the activation begins. -/
theorem generation_follows_receipt {setting : Setting} {P : Pool World Call.Reply String ℕ}
    (h : (controller setting).Reachable P) :
    ∃ row, P.shared.row setting = some row ∧
      (0 < row.activationGeneration → Within setting (activated, reversed) P.shared.files) ∧
        (isUntouched row.state = true → row.activationGeneration = 0) := by
  obtain ⟨row, hrow, hsound⟩ := Pool.inv_of_reachable obeys h
  exact ⟨row, hrow, hsound.generation, fun huntouched ↦ (hsound.untouched huntouched).1⟩

open Sample in
theorem generation_follows_receipt_restarting : ∃ P, (controller update).Reachable P ∧
    shown P.shared = restarting ∧ ∃ row, P.shared.row update = some row ∧
      (0 < row.activationGeneration → Within update (activated, reversed) P.shared.files) := by
  have hi : Function.Embedding.refl ℕ 0 = 0 := rfl
  have hleft : left 0 30 shown = some restarting := by decide
  obtain ⟨P, hP, hrestarting⟩ : ∃ P, (controller update).Reachable P ∧ _ :=
    reachable_begun hi hleft
  obtain ⟨row, hrow, hgeneration, -⟩ := generation_follows_receipt hP
  exact ⟨P, hP, hrestarting, row, hrow, hgeneration⟩

/-- As long as one run at a time is under way, the state of the request tells at which stages the
files may be, wherever a run died. -/
theorem state_locates_files {setting : Setting} {P : Pool World Call.Reply String Unit}
    (h : (loneController setting).Reachable P) :
    ∃ row, P.shared.row setting = some row ∧ Within setting (span row.state) P.shared.files := by
  obtain ⟨row, hrow, hsound⟩ := Pool.inv_of_reachable obeys h
  exact ⟨row, hrow, hsound.exact inferInstance⟩

open Sample in
theorem state_locates_files_torn : ∃ P, (loneController update).Reachable P ∧
    shown P.shared = torn ∧
      ∃ row, P.shared.row update = some row ∧ Within update (span row.state) P.shared.files := by
  have hleft : left () 29 shown = some torn := by decide
  obtain ⟨P, hP, htorn⟩ : ∃ P, (loneController update).Reachable P ∧ _ :=
    reachable_begun rfl hleft
  exact ⟨P, hP, htorn, state_locates_files hP⟩

end Dona.UpdateController
