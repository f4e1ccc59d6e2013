import Dona.Library.CoroutineRuns
import Dona.Updater.Controller
import Mathlib.Logic.Embedding.Basic
import Mathlib.Order.Basic

/-!
# The stages of the release files

One update moves the pointers and the receipt through seven stages: it keeps the current release
as the previous one, switches to the target and writes its receipt; a rollback switches back,
restores the previous pointer and writes the receipt of the reversal. Each is one rename, so a
crash leaves the files at one of them. What the state of the request says about the files, and
what the runs of the controller owe each other for it, is stated here.
-/

namespace Dona.UpdateController

open Coroutine Fallible Updater

/-! ### One update and its surroundings -/

/-- One planned update, with the files that it finds. -/
structure Setting where
  policy : Policy
  requestId : RequestId
  currentSha : String
  targetSha : String
  files : ReleaseFiles
  differ : currentSha ≠ targetSha
  unwritten : files.receipt.any (fun receipt ↦ receipt.requestId = requestId) = false

/-- What the API and the heartbeat do to the database while the controller runs. -/
def isRequested : Operation → Bool
  | .createPlan _ _ _ _ _ => true
  | .approve _ _ => true
  | .requestCancellation _ _ _ _ _ => true
  | .renewLease _ _ _ _ _ => true
  | .markOutbox _ _ _ => true
  | _ => false

section

variable (setting : Setting)

def World.row (w : World) : Option UpdateRow := w.db.requests.get? setting.requestId

def World.state (w : World) : UpdateState := (w.row setting).elim .cancelled (·.state)

def World.fence (w : World) : ℕ := (w.row setting).elim 0 (·.fence)

/-- The policy whose updates `observeTerminal` confirms in a way of their own. -/
def legacyPolicyVersion : String := "2026-09-03.1"

/-- The plan of the update has just been stored, under a policy after the legacy one. -/
structure Starts (w : World) : Prop where
  row : ∃ row, w.row setting = some row ∧ row.policyVersion ≠ legacyPolicyVersion ∧
    row.state = .awaitingApproval ∧
    row.currentSha = setting.currentSha ∧ row.targetSha = setting.targetSha ∧
    row.activationGeneration = 0
  files : w.files = setting.files
  activator : w.activator = none

/-- What happens between the steps of the runs: time passes, the API and the heartbeat do their
part, and what else the database holds changes, as when other requests are worked on. Nothing but
the runs writes the release files. -/
inductive Elsewhere : World → World → Prop
  | waits {w : World} {now : Time} : w.now ≤ now → Elsewhere w { w with now := now }
  | asks {w : World} {op : Operation} :
      isRequested op = true → Elsewhere w { w with db := op.next w.db }
  | serves {w : World} {db : UpdateDb} :
      db.requests.get? setting.requestId = w.db.requests.get? setting.requestId →
        Elsewhere w { w with db := db }

variable {Run : Type} (number : Run ↪ ℕ)

/-- The runs of the controller: one at a time is the service loop, the others serve the API. A
run may die at any await. -/
def surroundings : Pool.Surroundings World Call.Reply String Run where
  initial := Starts setting
  perform := Performs
  programs i _ p := ∃ owner,
    (number i = 0 ∧ p = processNext setting.policy setting.requestId owner (number i)) ∨
      p = reconcile setting.policy setting.requestId owner (number i) ∨
      ∃ planHash, p =
        operatorRollback setting.policy setting.requestId owner (number i) planHash
  kill _ s t := t = s
  environment := Elsewhere setting

end

/-! ### The stages -/

inductive Stage
  | planned | kept | switched | activated | restored | swapped | reversed
  deriving DecidableEq

namespace Stage

def rank : Stage → ℕ
  | planned => 0
  | kept => 1
  | switched => 2
  | activated => 3
  | restored => 4
  | swapped => 5
  | reversed => 6

instance : Preorder Stage where
  le a b := a.rank ≤ b.rank
  le_refl a := Nat.le_refl a.rank
  le_trans _ _ _ h h' := Nat.le_trans h h'

instance (a b : Stage) : Decidable (a ≤ b) := inferInstanceAs (Decidable (a.rank ≤ b.rank))

theorem planned_le (stage : Stage) : planned ≤ stage := by
  cases stage <;> decide

theorem le_reversed (stage : Stage) : stage ≤ reversed := by
  cases stage <;> decide

end Stage

open Stage

section

variable (setting : Setting)

/-- A receipt of this request, for the switch between two releases. -/
def IsSwitch (fromSha toSha : String) (generation : ℕ)
    (receipt : Option ActivationReceipt) : Prop :=
  ∃ r, receipt = some r ∧ r.requestId = setting.requestId ∧ r.fromSha = fromSha ∧
    r.toSha = toSha ∧ r.generation = generation

/-- The releases that the two pointers name. -/
def pointersAt : Stage → Option String × Option String
  | planned => (setting.files.current, setting.files.previous)
  | kept => (some setting.currentSha, some setting.currentSha)
  | switched => (some setting.targetSha, some setting.currentSha)
  | activated => (some setting.targetSha, some setting.currentSha)
  | restored => (some setting.currentSha, some setting.currentSha)
  | swapped => (some setting.currentSha, some setting.targetSha)
  | reversed => (some setting.currentSha, some setting.targetSha)

def ReceiptAt : Stage → Option ActivationReceipt → Prop
  | planned, receipt => receipt = setting.files.receipt
  | kept, receipt => receipt = setting.files.receipt
  | switched, receipt => receipt = setting.files.receipt
  | activated, receipt => IsSwitch setting setting.currentSha setting.targetSha 1 receipt
  | restored, receipt => IsSwitch setting setting.currentSha setting.targetSha 1 receipt
  | swapped, receipt => IsSwitch setting setting.currentSha setting.targetSha 1 receipt
  | reversed, receipt => IsSwitch setting setting.targetSha setting.currentSha 2 receipt

/-- The files are at a stage. -/
structure Shows (stage : Stage) (files : ReleaseFiles) : Prop where
  pointers : (files.current, files.previous) = pointersAt setting stage
  receipt : ReceiptAt setting stage files.receipt

/-- The files are at a stage between two. -/
def Within (span : Stage × Stage) (files : ReleaseFiles) : Prop :=
  ∃ stage, span.1 ≤ stage ∧ stage ≤ span.2 ∧ Shows setting stage files

/-- From stage to stage the files only go forward. -/
def Advances (files files' : ReleaseFiles) : Prop :=
  ∀ stage, Shows setting stage files → ∃ stage', stage ≤ stage' ∧ Shows setting stage' files'

end

section

variable {setting : Setting} {stage stage' : Stage} {span : Stage × Stage}
  {files files' files'' : ReleaseFiles} {receipt : Option ActivationReceipt}

theorem Advances.refl (files : ReleaseFiles) : Advances setting files files :=
  fun stage hstage ↦ ⟨stage, le_rfl, hstage⟩

theorem Advances.trans (h : Advances setting files files') (h' : Advances setting files' files'') :
    Advances setting files files'' := by
  intro stage hstage
  obtain ⟨stage', hle, hstage'⟩ := h stage hstage
  obtain ⟨stage'', hle', hstage''⟩ := h' stage' hstage'
  exact ⟨stage'', hle.trans hle', hstage''⟩

theorem Within.advances {low : Stage} (h : Within setting (low, reversed) files)
    (hfiles : Advances setting files files') : Within setting (low, reversed) files' := by
  obtain ⟨stage, hlow, -, hstage⟩ := h
  obtain ⟨stage', hle, hstage'⟩ := hfiles stage hstage
  exact ⟨stage', hlow.trans hle, le_reversed stage', hstage'⟩

theorem Within.mono {span' : Stage × Stage} (h : Within setting span files)
    (hlow : span'.1 ≤ span.1) (hhigh : span.2 ≤ span'.2) : Within setting span' files := by
  obtain ⟨stage, hl, hh, hstage⟩ := h
  exact ⟨stage, hlow.trans hl, hh.trans hhigh, hstage⟩

theorem Shows.within (h : Shows setting stage files) : Within setting (stage, reversed) files :=
  ⟨stage, le_rfl, le_reversed stage, h⟩

theorem shows_planned : Shows setting planned setting.files := ⟨rfl, rfl⟩

theorem Shows.eq_files (h : Shows setting planned files) : files = setting.files := by
  obtain ⟨hpointers, hreceipt⟩ := h
  obtain ⟨hcurrent, hprevious⟩ := Prod.mk.inj hpointers
  cases files
  subst hcurrent hprevious hreceipt
  rfl

theorem IsSwitch.written {fromSha toSha : String} {generation : ℕ}
    (h : IsSwitch setting fromSha toSha generation receipt) : receipt ≠ setting.files.receipt := by
  obtain ⟨r, rfl, hrequest, -⟩ := h
  intro heq
  have hunwritten := setting.unwritten
  simp [← heq, hrequest] at hunwritten

/-- The receipt tells whether the switch to the target was completed. -/
theorem ReceiptAt.unwritten_iff (h : ReceiptAt setting stage receipt) :
    receipt = setting.files.receipt ↔ stage ≤ switched := by
  cases stage <;> simp only [ReceiptAt] at h
  case planned => exact iff_of_true h (by decide)
  case kept => exact iff_of_true h (by decide)
  case switched => exact iff_of_true h (by decide)
  all_goals exact iff_of_false h.written (by decide)

theorem activated_le_iff : activated ≤ stage ↔ ¬stage ≤ switched := by
  cases stage <;> decide

theorem Shows.activated_le (h : Shows setting stage files) (h' : Shows setting stage' files)
    (hle : activated ≤ stage) : activated ≤ stage' := by
  rw [activated_le_iff] at hle ⊢
  rwa [← h'.receipt.unwritten_iff, h.receipt.unwritten_iff]

/-- Files with a receipt of the request are at one stage only. -/
theorem Shows.unique (h : Shows setting stage files) (h' : Shows setting stage' files)
    (hle : activated ≤ stage) : stage = stage' := by
  have hle' := h.activated_le h' hle
  have hpointers := h.pointers.symm.trans h'.pointers
  have hreceipt := h.receipt
  have hreceipt' := h'.receipt
  have hdiffer := setting.differ
  cases stage <;> cases stage'
  case swapped.reversed =>
    obtain ⟨r, hr, -, hfrom, -⟩ := hreceipt
    obtain ⟨r', hr', -, hfrom', -⟩ := hreceipt'
    obtain rfl := Option.some.inj (hr.symm.trans hr')
    exact absurd (hfrom.symm.trans hfrom') hdiffer
  case reversed.swapped =>
    obtain ⟨r, hr, -, hfrom, -⟩ := hreceipt
    obtain ⟨r', hr', -, hfrom', -⟩ := hreceipt'
    obtain rfl := Option.some.inj (hr.symm.trans hr')
    exact absurd (hfrom'.symm.trans hfrom) hdiffer
  all_goals first
    | rfl
    | exact absurd hle (by decide)
    | exact absurd hle' (by decide)
    | exact absurd hpointers (by simp [pointersAt, hdiffer, hdiffer.symm])

theorem Within.activated_le {high : Stage} (h : Within setting (activated, high) files)
    (h' : Shows setting stage files) : activated ≤ stage := by
  obtain ⟨stage', hlow, -, hstage'⟩ := h
  exact hstage'.activated_le h' hlow

/-! ### One write -/

theorem Shows.setCurrent {sha : String} (h : Shows setting stage files)
    (hpointers : pointersAt setting stage' = (some sha, (pointersAt setting stage).2))
    (hreceipt : ReceiptAt setting stage = ReceiptAt setting stage') :
    Shows setting stage' (files.setPointer .current sha) := by
  refine ⟨?_, hreceipt ▸ h.receipt⟩
  rw [hpointers, ← h.pointers]
  rfl

theorem Shows.setPrevious {sha : String} (h : Shows setting stage files)
    (hpointers : pointersAt setting stage' = ((pointersAt setting stage).1, some sha))
    (hreceipt : ReceiptAt setting stage = ReceiptAt setting stage') :
    Shows setting stage' (files.setPointer .previous sha) := by
  refine ⟨?_, hreceipt ▸ h.receipt⟩
  rw [hpointers, ← h.pointers]
  rfl

/-- `activate` keeps the current release as the previous one. -/
theorem shows_kept (hcurrent : setting.files.current = some setting.currentSha) :
    Shows setting kept (setting.files.setPointer .previous setting.currentSha) := by
  refine shows_planned.setPrevious ?_ rfl
  simp [pointersAt, hcurrent]

theorem Shows.switch (h : Shows setting kept files) :
    Shows setting switched (files.setPointer .current setting.targetSha) := h.setCurrent rfl rfl

theorem Shows.activate (h : Shows setting switched files) {r : ActivationReceipt}
    (hr : IsSwitch setting setting.currentSha setting.targetSha 1 (some r)) :
    Shows setting activated (files.setReceipt r) := ⟨h.pointers, hr⟩

/-- `rollback` switches back to the release that the update found. -/
theorem Shows.switchBack (h : Shows setting stage files) (hstage : activated ≤ stage) :
    ∃ stage', stage ≤ stage' ∧ restored ≤ stage' ∧
      Shows setting stage' (files.setPointer .current setting.currentSha) := by
  cases stage
  case activated => exact ⟨restored, by decide, by decide, h.setCurrent rfl rfl⟩
  case restored => exact ⟨restored, le_rfl, by decide, h.setCurrent rfl rfl⟩
  case swapped => exact ⟨swapped, le_rfl, by decide, h.setCurrent rfl rfl⟩
  case reversed => exact ⟨reversed, le_rfl, by decide, h.setCurrent rfl rfl⟩
  all_goals exact absurd hstage (by decide)

/-- Then it makes the target the previous release. -/
theorem Shows.swap (h : Shows setting stage files) (hstage : restored ≤ stage) :
    ∃ stage', stage ≤ stage' ∧ swapped ≤ stage' ∧
      Shows setting stage' (files.setPointer .previous setting.targetSha) := by
  cases stage
  case restored => exact ⟨swapped, by decide, le_rfl, h.setPrevious rfl rfl⟩
  case swapped => exact ⟨swapped, le_rfl, le_rfl, h.setPrevious rfl rfl⟩
  case reversed => exact ⟨reversed, le_rfl, by decide, h.setPrevious rfl rfl⟩
  all_goals exact absurd hstage (by decide)

theorem Shows.reverse (h : Shows setting stage files) (hstage : swapped ≤ stage)
    {r : ActivationReceipt}
    (hr : IsSwitch setting setting.targetSha setting.currentSha 2 (some r)) :
    Shows setting reversed (files.setReceipt r) := by
  obtain ⟨hpointers, -⟩ := h
  cases stage
  case swapped => exact ⟨hpointers, hr⟩
  case reversed => exact ⟨hpointers, hr⟩
  all_goals exact absurd hstage (by decide)

end

/-! ### What a state of the request says about the files -/

/-- The states before the activation, and the one that ends there. -/
def isUntouched (state : UpdateState) : Bool :=
  [UpdateState.requested, .planning, .awaitingApproval, .approved, .preparing, .staged, .quiescing,
    .cancelled].contains state

/-- The states from the stop of the services to their restart. -/
def isStarted (state : UpdateState) : Bool :=
  [UpdateState.quiescing, .activating, .restarting].contains state

/-- The stages at which the files may be in a state of the request, whichever runs overlap. -/
def looseSpan (state : UpdateState) : Stage × Stage :=
  if isUntouched state then (planned, planned)
  else if state = .rolledBack then (reversed, reversed)
  else (planned, reversed)

/-- The same when one run of the controller at a time is under way. -/
def span (state : UpdateState) : Stage × Stage :=
  if isUntouched state then (planned, planned)
  else match state with
    | .activating => (planned, activated)
    | .restarting => (activated, activated)
    | .verifying => (activated, activated)
    | .succeeded => (activated, activated)
    | .failed => (planned, kept)
    | .rolledBack => (reversed, reversed)
    | _ => (planned, reversed)

section

variable (setting : Setting) (alone : Prop)

structure RowSound (w : World) (row : UpdateRow) : Prop where
  currentSha : row.currentSha = setting.currentSha
  targetSha : row.targetSha = setting.targetSha
  loose : Within setting (looseSpan row.state) w.files
  exact : alone → Within setting (span row.state) w.files
  generation : 0 < row.activationGeneration → Within setting (activated, reversed) w.files
  untouched : isUntouched row.state = true → row.activationGeneration = 0 ∧ w.activator = none

def Sound (w : World) : Prop := ∃ row, w.row setting = some row ∧ RowSound setting alone w row

end

/-- The moves of a request that no run makes to carry it on. -/
def Drifts (source target : UpdateState) : Prop :=
  target = source ∨ target = .needsReview ∨
    (isUntouched source = true ∧ (target = .approved ∨ target = .cancelled))

instance (source target : UpdateState) : Decidable (Drifts source target) :=
  inferInstanceAs (Decidable (target = source ∨ target = .needsReview ∨
    (isUntouched source = true ∧ (target = .approved ∨ target = .cancelled))))

theorem Drifts.refl (state : UpdateState) : Drifts state state := .inl rfl

theorem Drifts.trans {s t u : UpdateState} (h : Drifts s t) (h' : Drifts t u) : Drifts s u := by
  rcases h' with rfl | rfl | ⟨huntouched, hu⟩
  · exact h
  · exact .inr (.inl rfl)
  · rcases h with rfl | rfl | ⟨hs, -⟩
    · exact .inr (.inr ⟨huntouched, hu⟩)
    · exact absurd huntouched (by decide)
    · exact .inr (.inr ⟨hs, hu⟩)

theorem Drifts.not_isStarted {s t : UpdateState} (h : Drifts s t) (hs : isStarted s = false) :
    isStarted t = false := by
  rcases h with rfl | rfl | ⟨-, rfl | rfl⟩
  · exact hs
  all_goals rfl

theorem Drifts.isUntouched {s t : UpdateState} (h : Drifts s t)
    (ht : UpdateController.isUntouched t = true) : UpdateController.isUntouched s = true := by
  rcases h with rfl | rfl | ⟨hs, -⟩
  · exact ht
  · exact absurd ht (by decide)
  · exact hs

/-- A row whose state drifts. -/
structure RowDrifts (row row' : UpdateRow) : Prop where
  currentSha : row'.currentSha = row.currentSha
  targetSha : row'.targetSha = row.targetSha
  activationGeneration : row'.activationGeneration = row.activationGeneration
  fence : row'.fence = row.fence
  state : Drifts row.state row'.state

theorem RowDrifts.refl (row : UpdateRow) : RowDrifts row row := ⟨rfl, rfl, rfl, rfl, .refl _⟩

section

variable (setting : Setting)

/-- A step that leaves the files and the claims alone, and moves the request nowhere on. -/
structure Quiet (s t : World) : Prop where
  files : t.files = s.files
  activator : t.activator = s.activator
  holder : t.holder = s.holder
  row : ∀ row, s.row setting = some row → ∃ row', t.row setting = some row' ∧ RowDrifts row row'

variable {Run : Type} (number : Run ↪ ℕ)

/-- What a run relies on. -/
structure Relies (i : Run) (s t : World) : Prop where
  advances : Advances setting s.files t.files
  fence : s.fence setting ≤ t.fence setting
  holder : t.fence setting = s.fence setting → t.holder = s.holder
  drifts : s.holder = some (number i) → t.fence setting = s.fence setting →
    Drifts (s.state setting) (t.state setting)
  activator : s.activator = some (number i) → t.activator = s.activator ∧
    (s.files.receipt = setting.files.receipt → t.files = s.files)
  loop : number i = 0 → isStarted (s.state setting) = false → isStarted (t.state setting) = false
  alone : Subsingleton Run → t.files = s.files ∧ t.fence setting = s.fence setting

theorem Relies.refl (i : Run) (s : World) : Relies setting number i s s where
  advances := .refl _
  fence := Nat.le_refl _
  holder _ := rfl
  drifts _ _ := .refl _
  activator _ := ⟨rfl, fun _ ↦ rfl⟩
  loop _ h := h
  alone _ := ⟨rfl, rfl⟩

variable {setting number}

theorem Relies.trans {i : Run} {s t u : World} (h : Relies setting number i s t)
    (h' : Relies setting number i t u) : Relies setting number i s u where
  advances := h.advances.trans h'.advances
  fence := Nat.le_trans h.fence h'.fence
  holder hfence := by
    have hst := h.fence
    have htu := h'.fence
    exact (h'.holder (by omega)).trans (h.holder (by omega))
  drifts hholder hfence := by
    have hst := h.fence
    have htu := h'.fence
    have hmiddle : t.fence setting = s.fence setting := by omega
    exact (h.drifts hholder hmiddle).trans
      (h'.drifts ((h.holder hmiddle).trans hholder) (by omega))
  activator hactivator := by
    obtain ⟨ht, hfiles⟩ := h.activator hactivator
    obtain ⟨hu, hfiles'⟩ := h'.activator (ht.trans hactivator)
    refine ⟨hu.trans ht, fun hreceipt ↦ ?_⟩
    have heq := hfiles hreceipt
    exact (hfiles' (heq ▸ hreceipt)).trans heq
  loop hi hs := h'.loop hi (h.loop hi hs)
  alone hi := ⟨(h'.alone hi).1.trans (h.alone hi).1, (h'.alone hi).2.trans (h.alone hi).2⟩

variable (setting number)

def discipline : Interference World Call.Reply Run :=
  .ofRely Performs (Sound setting (Subsingleton Run)) (Relies setting number)
    (Relies.refl setting number) Relies.trans

end

end Dona.UpdateController
