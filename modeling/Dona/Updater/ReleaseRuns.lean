import Dona.Updater.ReleaseRules

/-!
# The release files across the runs of the controller

Each run of the controller keeps what the state of the request says of the files, at every await and
whatever the other runs, the operators and the crashes do meanwhile.
-/

namespace Dona.UpdateController

open Coroutine Fallible Updater UpdateDb Stage

variable {setting : Setting} {alone : Prop} {s t w : World} {row row' : UpdateRow}
  {stage low : Stage} {files : ReleaseFiles}

/-! ### What the receipts show -/

/-- A receipt of this request is that of its activation or that of its reversal. -/
theorem ReceiptAt.of_request {r : ActivationReceipt} (h : ReceiptAt setting stage (some r))
    (hr : r.requestId = setting.requestId) :
    (activated ≤ stage ∧ stage ≤ swapped ∧ r.fromSha = setting.currentSha ∧ r.generation = 1) ∨
      (stage = reversed ∧ r.fromSha = setting.targetSha ∧ r.generation = 2) := by
  have hunwritten : some r ≠ setting.files.receipt :=
    IsSwitch.written ⟨r, rfl, hr, rfl, rfl, rfl⟩
  cases stage
  case planned => exact absurd h hunwritten
  case kept => exact absurd h hunwritten
  case switched => exact absurd h hunwritten
  case reversed =>
    obtain ⟨_, heq, -, hfrom, -, hgeneration⟩ := h
    obtain rfl := Option.some.inj heq
    exact .inr ⟨rfl, hfrom, hgeneration⟩
  all_goals
    obtain ⟨_, heq, -, hfrom, -, hgeneration⟩ := h
    obtain rfl := Option.some.inj heq
    exact .inl ⟨by decide, by decide, hfrom, hgeneration⟩

theorem Recalls.of_activation {r : ActivationReceipt}
    (h : Recalls setting low ReleaseFiles.receipt (some r) w)
    (hr : r.requestId = setting.requestId) (hfrom : r.fromSha = setting.currentSha) :
    r.generation = 1 ∧ Within setting (activated, reversed) w.files := by
  obtain ⟨stage, files, -, hshows, hread, hwithin⟩ := h
  have hreceipt := hshows.receipt
  rw [hread] at hreceipt
  rcases hreceipt.of_request hr with ⟨hstage, -, -, hgeneration⟩ | ⟨-, hreversal, -⟩
  · exact ⟨hgeneration, hwithin.mono hstage le_rfl⟩
  · exact absurd (hfrom.symm.trans hreversal) setting.differ

theorem Recalls.of_reversal {r : ActivationReceipt}
    (h : Recalls setting low ReleaseFiles.receipt (some r) w)
    (hr : r.requestId = setting.requestId) (hfrom : r.fromSha = setting.targetSha) :
    r.generation = 2 ∧ Within setting (reversed, reversed) w.files := by
  obtain ⟨stage, files, -, hshows, hread, hwithin⟩ := h
  have hreceipt := hshows.receipt
  rw [hread] at hreceipt
  rcases hreceipt.of_request hr with ⟨-, -, hactivation, -⟩ | ⟨rfl, -, hgeneration⟩
  · exact absurd (hactivation.symm.trans hfrom) setting.differ
  · exact ⟨hgeneration, hwithin⟩

theorem Recalls.activation {receipt : Option ActivationReceipt}
    (h : Recalls setting low ReleaseFiles.receipt receipt w)
    (hrow : row.currentSha = setting.currentSha)
    (hr : isActivation setting.requestId row receipt = true) :
    row.activationGeneration = 1 ∧ Within setting (activated, reversed) w.files := by
  simp only [isActivation, Option.any_eq_true, decide_eq_true_eq] at hr
  obtain ⟨r, rfl, hrequest, hfrom, -, hgeneration, -⟩ := hr
  rw [← hgeneration]
  exact h.of_activation hrequest (hfrom.trans hrow)

theorem Recalls.reversal {receipt : Option ActivationReceipt} {generation : ℕ}
    (h : Recalls setting low ReleaseFiles.receipt receipt w)
    (hrow : row.targetSha = setting.targetSha)
    (hr : isReversal setting.requestId row generation receipt = true) :
    generation = 2 ∧ Within setting (reversed, reversed) w.files := by
  simp only [isReversal, Option.any_eq_true, decide_eq_true_eq] at hr
  obtain ⟨r, rfl, hrequest, hfrom, -, hgeneration, -⟩ := hr
  rw [← hgeneration]
  exact h.of_reversal hrequest (hfrom.trans hrow)

/-! ### Looking at the files -/

section

variable {Run : Type} {number : Run ↪ ℕ} {i : Run} {R : World → Prop}

/-- What `observe` has seen. -/
structure Observed (setting : Setting) (Run : Type) (low : Stage) (files : ReleaseFiles)
    (observation : Observation) (w : World) : Prop where
  receipt : HasRead setting Run low files ReleaseFiles.receipt observation.receipt w
  current : Subsingleton Run → observation.currentSha = files.current
  previous : Subsingleton Run → observation.previousSha = files.previous

theorem Observed.relies {observation : Observation} (h : Relies setting number i s t)
    (hs : Observed setting Run low files observation s) :
    Observed setting Run low files observation t :=
  ⟨hs.receipt.relies h, hs.current, hs.previous⟩

theorem wp_readPointers (hR : ∀ {s t}, Relies setting number i s t → R s → R t)
    (hseen : ∀ w, R w → Seen setting Run low files w)
    (hw : Sound setting (Subsingleton Run) w ∧ R w) :
    wp (discipline setting number) i readPointers
      (fun a w ↦ (Sound setting (Subsingleton Run) w ∧ R w) ∧
        (Subsingleton Run → a = (files.current, files.previous)))
      (fun _ w ↦ Sound setting (Subsingleton Run) w ∧ R w) w := by
  refine wp_quiet_bind (quiet_ask rfl) hR hw (fun _ _ h ↦ h) fun (previousFirst : Bool) w hw ↦ ?_
  rw [wp_ite]
  split_ifs
  · rw [wp_bind]
    refine wp_mono ?_ (fun _ _ h ↦ h) (wp_read_files (reads_pointer .previous) hR hseen hw)
    rintro previous w ⟨hw, hprevious⟩
    rw [wp_bind]
    refine wp_mono ?_ (fun _ _ h ↦ h) (wp_read_files (reads_pointer .current) hR hseen hw)
    rintro current w ⟨hw, hcurrent⟩
    exact ⟨hw, fun halone ↦ Prod.ext (hcurrent.2 halone).symm (hprevious.2 halone).symm⟩
  · rw [wp_bind]
    refine wp_mono ?_ (fun _ _ h ↦ h) (wp_read_files (reads_pointer .current) hR hseen hw)
    rintro current w ⟨hw, hcurrent⟩
    rw [wp_bind]
    refine wp_mono ?_ (fun _ _ h ↦ h) (wp_read_files (reads_pointer .previous) hR hseen hw)
    rintro previous w ⟨hw, hprevious⟩
    exact ⟨hw, fun halone ↦ Prod.ext (hcurrent.2 halone).symm (hprevious.2 halone).symm⟩

theorem wp_observe (hR : ∀ {s t}, Relies setting number i s t → R s → R t)
    (hseen : ∀ w, R w → Seen setting Run low files w)
    (hw : Sound setting (Subsingleton Run) w ∧ R w) :
    wp (discipline setting number) i observe
      (fun observation w ↦ (Sound setting (Subsingleton Run) w ∧ R w) ∧
        Observed setting Run low files observation w)
      (fun _ w ↦ Sound setting (Subsingleton Run) w ∧ R w) w := by
  unfold observe
  rw [wp_bind]
  refine wp_mono ?_ (fun _ _ h ↦ h) (wp_readPointers hR hseen hw)
  rintro ⟨current, previous⟩ w ⟨hw, hpointers⟩
  rw [wp_bind]
  refine wp_mono ?_ (fun _ _ h ↦ h) (wp_read_files reads_receipt hR hseen hw)
  rintro receipt w ⟨hw, hreceipt⟩
  refine ⟨hw, hreceipt, fun halone ↦ ?_, fun halone ↦ ?_⟩
  · exact congrArg Prod.fst (hpointers halone)
  · exact congrArg Prod.snd (hpointers halone)

/-! ### The switch to the target -/

/-- Files with the receipt of an earlier update, which name the current release. -/
theorem Shows.le_kept (h : Shows setting stage files)
    (hcurrent : files.current = some setting.currentSha)
    (hunwritten : files.receipt = setting.files.receipt) : stage ≤ kept := by
  have hle := h.receipt.unwritten_iff.mp hunwritten
  have hpointer := (Prod.mk.inj h.pointers).1
  rw [hcurrent] at hpointer
  cases stage
  case planned => decide
  case kept => decide
  case switched => exact absurd (Option.some.inj hpointer) setting.differ
  all_goals exact absurd hle (by decide)

/-- What the run that began the activation may write next. -/
theorem Begun.guarantee {files' : ReleaseFiles} {stage' : Stage}
    (hholds : Holds setting number i row s) (hstate : row.state = .activating)
    (hbegun : Begun number i files s) (hle : ∀ stage, Shows setting stage files → stage ≤ stage')
    (hshows : Shows setting stage' files') (hactivated : stage' ≤ activated) :
    (discipline setting number).guarantee i s { s with files := files' } := by
  refine guarantee_write (.inl hbegun.activator) ?_ fun halone r hr hsound ↦ ?_
  · intro stage hstage
    rw [hbegun.files] at hstage
    exact ⟨stage', hle stage hstage, hshows⟩
  · have hdrifts := hholds.state halone
    rw [World.state_of_row hr, hstate] at hdrifts
    rcases hdrifts with heq | heq | ⟨huntouched, -⟩
    · rw [heq]
      exact ⟨stage', planned_le stage', hactivated, hshows⟩
    · rw [heq]
      exact ⟨stage', planned_le stage', le_reversed stage', hshows⟩
    · exact absurd huntouched (by decide)

/-- The writes of `activate` before its receipt. -/
theorem Begun.wp_write {c : Call} {g : ReleaseFiles → ReleaseFiles} {stage' : Stage}
    (hw : Sound setting (Subsingleton Run) w ∧ Holds setting number i row w ∧
      Begun number i files w) (hc : Writes c g) (hstate : row.state = .activating)
    (hle : ∀ stage, Shows setting stage files → stage ≤ stage')
    (hshows : Shows setting stage' (g files)) (hactivated : stage' ≤ activated)
    (hfiles : files.receipt = setting.files.receipt)
    (hfiles' : (g files).receipt = setting.files.receipt) :
    wp (discipline setting number) i (ask c)
      (fun _ w ↦ Sound setting (Subsingleton Run) w ∧ Holds setting number i row w ∧
        Begun number i (g files) w)
      (fun _ ↦ Ends setting number i row.fence) w := by
  refine wp_mono (fun _ _ h ↦ h) ?_ (wp_write_files
    (R := fun w ↦ Holds setting number i row w ∧ Begun number i files w) hc ?_ ?_ hw ?_)
  · rintro e w ⟨hs, ⟨hholds, -⟩ | ⟨hholds, -⟩⟩
    · exact ⟨hs, hholds.fenced⟩
    · exact ⟨hs, hholds.fenced⟩
  · exact fun h hw ↦ ⟨hw.1.relies h, hw.2.relies hfiles h⟩
  · exact fun h hw ↦ ⟨hw.1.relies h, hw.2.relies hfiles' h⟩
  · rintro s - ⟨hholds, hbegun⟩
    obtain rfl := hbegun.files
    exact ⟨hbegun.guarantee hholds hstate hle hshows hactivated, hholds.withFiles _,
      hbegun.activator, rfl⟩

/-- The receipt of `activate`, after which a rollback may write. -/
theorem wp_writeActivation {receipt : ActivationReceipt} (hstate : row.state = .activating)
    (hreceipt : IsSwitch setting setting.currentSha setting.targetSha 1 (some receipt))
    (hshows : Shows setting switched files) (hfiles : files.receipt = setting.files.receipt)
    (hw : Sound setting (Subsingleton Run) w ∧ Holds setting number i row w ∧
      Begun number i files w) :
    wp (discipline setting number) i (ask (.writeReceipt receipt))
      (fun _ w ↦ Sound setting (Subsingleton Run) w ∧ Holds setting number i row w ∧
        Seen setting Run activated (files.setReceipt receipt) w)
      (fun _ ↦ Ends setting number i row.fence) w := by
  have hactivated := hshows.activate hreceipt
  refine wp_mono (fun _ _ h ↦ h) ?_ (wp_write_files
    (R := fun w ↦ Holds setting number i row w ∧ Begun number i files w)
    (writes_receipt receipt) ?_ ?_ hw ?_)
  · rintro e w ⟨hs, ⟨hholds, -⟩ | ⟨hholds, -⟩⟩
    · exact ⟨hs, hholds.fenced⟩
    · exact ⟨hs, hholds.fenced⟩
  · exact fun h hw ↦ ⟨hw.1.relies h, hw.2.relies hfiles h⟩
  · exact fun h hw ↦ ⟨hw.1.relies h, hw.2.relies h⟩
  · rintro s - ⟨hholds, hbegun⟩
    obtain rfl := hbegun.files
    have hle : ∀ stage, Shows setting stage s.files → stage ≤ activated := fun _ h ↦
      (h.receipt.unwritten_iff.mp hfiles).trans (by decide)
    exact ⟨hbegun.guarantee hholds hstate hle hactivated le_rfl, hholds.withFiles _,
      hactivated.within, fun _ ↦ rfl⟩

theorem wp_activate (hcurrentSha : row.currentSha = setting.currentSha)
    (htargetSha : row.targetSha = setting.targetSha) (hstate : row.state = .activating)
    (hgeneration : row.activationGeneration = 0)
    (hw : Sound setting (Subsingleton Run) w ∧ Holds setting number i row w ∧
      Begun number i setting.files w) :
    wp (discipline setting number) i (activate setting.requestId row)
      (fun receipt w ↦ Sound setting (Subsingleton Run) w ∧ Holds setting number i row w ∧
        receipt.generation = 1 ∧
        ∃ files, Shows setting activated files ∧ Seen setting Run activated files w)
      (fun _ ↦ Ends setting number i row.fence) w := by
  -- the files stay as this run leaves them, until it writes its receipt
  have hrelies : ∀ {s t}, Relies setting number i s t →
      Holds setting number i row s ∧ Begun number i setting.files s →
        Holds setting number i row t ∧ Begun number i setting.files t :=
    fun h hw ↦ ⟨hw.1.relies h, hw.2.relies rfl h⟩
  have hends : ∀ (e : String) (w : World),
      Sound setting (Subsingleton Run) w ∧ Holds setting number i row w ∧
        Begun number i setting.files w → Ends setting number i row.fence w :=
    fun _ _ h ↦ ⟨h.1, h.2.1.fenced⟩
  unfold activate
  refine wp_quiet_bind (quiet_ask rfl) hrelies hw hends fun _ w hw ↦ ?_
  unfold resolvePointer
  rw [wp_bind, wp_bind]
  refine wp_mono ?_ hends (wp_ask_reads (reads_pointer .current) hrelies hw)
  rintro current w ⟨hw, w₀, ⟨-, hbegun₀⟩, hread, -⟩
  cases current with
  | none => exact ⟨hw.1, hw.2.1.fenced⟩
  | some current =>
      rw [hbegun₀.files] at hread
      rw [wp_pure, wp_ite]
      split_ifs with hcas
      · exact ⟨hw.1, hw.2.1.fenced⟩
      rw [not_not, hcurrentSha] at hcas
      subst hcas
      have hkept : Shows setting kept _ := shows_kept hread
      have hswitched := hkept.switch
      rw [htargetSha]
      refine wp_bind.mpr (wp_mono (fun _ w hw ↦ ?_) (fun _ _ h ↦ h)
        (Begun.wp_write hw (writes_pointer .previous _) hstate (fun _ h ↦ h.le_kept hread rfl)
          hkept (by decide) rfl rfl))
      refine wp_bind.mpr (wp_mono (fun _ w hw ↦ ?_) (fun _ _ h ↦ h)
        (Begun.wp_write hw (writes_pointer .current _) hstate
          (fun _ h ↦ h.receipt.unwritten_iff.mp rfl) hswitched (by decide) rfl rfl))
      refine wp_bind.mpr ?_
      rw [wp_read]
      have hreceipt : IsSwitch setting setting.currentSha setting.targetSha 1
          (some (switchReceipt setting.requestId row row.currentSha setting.targetSha w.now)) :=
        ⟨_, rfl, rfl, hcurrentSha, rfl, congrArg (· + 1) hgeneration⟩
      refine wp_bind.mpr (wp_mono (fun _ w hw ↦ ?_) (fun _ _ h ↦ h)
        (wp_writeActivation hstate hreceipt hswitched rfl hw))
      exact ⟨hw.1, hw.2.1, congrArg (· + 1) hgeneration, _, hswitched.activate hreceipt, hw.2.2⟩

/-! ### The switch back -/

/-- A write of `rollback`, which takes the files from one stage on to another. -/
theorem wp_write_back {c : Call} {g : ReleaseFiles → ReleaseFiles} (low' : Stage)
    (hw : Sound setting (Subsingleton Run) w ∧ Carried setting number i row low files w)
    (hc : Writes c g) (hstate : row.state = .rollingBack) (hlow : activated ≤ low)
    (hg : ∀ stage files, low ≤ stage → Shows setting stage files →
      ∃ stage', stage ≤ stage' ∧ low' ≤ stage' ∧ Shows setting stage' (g files)) :
    wp (discipline setting number) i (ask c)
      (fun _ w ↦ Sound setting (Subsingleton Run) w ∧
        Carried setting number i row low' (g files) w)
      (fun _ ↦ Ends setting number i row.fence) w := by
  refine wp_mono (fun _ _ h ↦ h) ?_ (wp_write_files
    (R := fun w ↦ Carried setting number i row low files w)
    (T := fun w ↦ Carried setting number i row low' (g files) w)
    hc Carried.relies Carried.relies hw ?_)
  · rintro e w ⟨hs, hcarried | hcarried⟩
    · exact ⟨hs, hcarried.holds.fenced⟩
    · exact ⟨hs, hcarried.holds.fenced⟩
  · intro s _ hcarried
    obtain ⟨stage, hstage, -, hshows⟩ := hcarried.seen.reached
    obtain ⟨stage', hle, hlow', hshows'⟩ := hg stage s.files hstage hshows
    have hadvances : Advances setting s.files (g s.files) := by
      intro other hother
      obtain rfl := hshows.unique hother (hlow.trans hstage)
      exact ⟨stage', hle, hshows'⟩
    refine ⟨guarantee_write (.inr (hcarried.seen.reached.mono hlow le_rfl)) hadvances ?_,
      hcarried.holds.withFiles _, ⟨stage', hlow', le_reversed stage', hshows'⟩, fun halone ↦ ?_⟩
    · intro halone r hr _
      have hdrifts := hcarried.holds.state halone
      rw [World.state_of_row hr, hstate] at hdrifts
      rcases hdrifts with heq | heq | ⟨huntouched, -⟩
      · rw [heq]
        exact ⟨stage', planned_le stage', le_reversed stage', hshows'⟩
      · rw [heq]
        exact ⟨stage', planned_le stage', le_reversed stage', hshows'⟩
      · exact absurd huntouched (by decide)
    · exact congrArg g (hcarried.seen.alone halone)

/-- A pointer that was read after the activation tells how far the rollback has come. -/
theorem Recalls.restored (h : Recalls setting low (·.pointer .current) (some setting.currentSha) w)
    (hlow : activated ≤ low) : Within setting (restored, reversed) w.files := by
  obtain ⟨stage, files, hle, hshows, hread, hwithin⟩ := h
  refine hwithin.mono ?_ le_rfl
  have hpointer : (pointersAt setting stage).1 = some setting.currentSha :=
    (Prod.mk.inj hshows.pointers).1.symm.trans hread
  have hstage := hlow.trans hle
  cases stage
  case activated => exact absurd (Option.some.inj hpointer).symm setting.differ
  all_goals first
    | decide
    | exact absurd hstage (by decide)

theorem Recalls.swapped (h : Recalls setting low (·.pointer .previous) (some setting.targetSha) w)
    (hlow : activated ≤ low) : Within setting (swapped, reversed) w.files := by
  obtain ⟨stage, files, hle, hshows, hread, hwithin⟩ := h
  refine hwithin.mono ?_ le_rfl
  have hpointer : (pointersAt setting stage).2 = some setting.targetSha :=
    (Prod.mk.inj hshows.pointers).2.symm.trans hread
  have hstage := hlow.trans hle
  cases stage
  case activated => exact absurd (Option.some.inj hpointer) setting.differ
  case restored => exact absurd (Option.some.inj hpointer) setting.differ
  all_goals first
    | decide
    | exact absurd hstage (by decide)

theorem wp_resolvePointer (pointer : Pointer)
    (hR : ∀ {s t}, Relies setting number i s t → R s → R t)
    (hseen : ∀ w, R w → Seen setting Run low files w)
    (hw : Sound setting (Subsingleton Run) w ∧ R w) :
    wp (discipline setting number) i (resolvePointer pointer)
      (fun sha w ↦ (Sound setting (Subsingleton Run) w ∧ R w) ∧
        Recalls setting low (·.pointer pointer) (some sha) w)
      (fun _ w ↦ Sound setting (Subsingleton Run) w ∧ R w) w := by
  unfold resolvePointer
  rw [wp_bind]
  refine wp_mono ?_ (fun _ _ h ↦ h) (wp_read_files (reads_pointer pointer) hR hseen hw)
  rintro answer w ⟨hw, hread⟩
  cases answer with
  | none => exact hw
  | some sha => exact ⟨hw, hread.1⟩

/-- The remaining writes of `rollback`, once the current pointer is back. -/
theorem wp_finishRollback {previous : String} (hrow : Snapshot setting alone row low files)
    (hstate : row.state = .rollingBack) (hgeneration : row.activationGeneration = 1)
    (hprevious : Recalls setting activated (·.pointer .previous) (some previous) w ∨
      previous ≠ setting.targetSha)
    (hw : Sound setting (Subsingleton Run) w ∧
      ∃ files, Carried setting number i row restored files w) :
    wp (discipline setting number) i
      (do
        (if previous ≠ row.targetSha then ask (.renamePointer .previous row.targetSha) else pure ())
        let now ← Coroutine.read World.now
        let receipt := switchReceipt setting.requestId row row.targetSha row.currentSha now
        ask (.writeReceipt receipt)
        pure receipt)
      (fun receipt w ↦ Sound setting (Subsingleton Run) w ∧ receipt.generation = 2 ∧
        ∃ files, Carried setting number i row reversed files w)
      (fun _ ↦ Ends setting number i row.fence) w := by
  obtain ⟨hs, files, hcarried⟩ := hw
  have hswapped : wp (discipline setting number) i
      (if previous ≠ row.targetSha then ask (.renamePointer .previous row.targetSha) else pure ())
      (fun _ w ↦ Sound setting (Subsingleton Run) w ∧
        ∃ files, Carried setting number i row swapped files w)
      (fun _ ↦ Ends setting number i row.fence) w := by
    rw [hrow.targetSha]
    split_ifs with hne
    · refine wp_mono (fun _ w h ↦ ⟨h.1, _, h.2⟩) (fun _ _ h ↦ h)
        (wp_write_back swapped ⟨hs, hcarried⟩ (writes_pointer .previous _) hstate (by decide) ?_)
      exact fun stage files hle hshows ↦ hshows.swap hle
    · rw [not_not] at hne
      subst hne
      have hrecalls := hprevious.resolve_right fun h ↦ h rfl
      exact ⟨hs, files, hcarried.holds, hrecalls.swapped le_rfl, hcarried.seen.alone⟩
  refine wp_bind.mpr (wp_mono (fun _ w hw ↦ ?_) (fun _ _ h ↦ h) hswapped)
  obtain ⟨hs, files, hcarried⟩ := hw
  refine wp_bind.mpr ?_
  rw [wp_read]
  have hreceipt : IsSwitch setting setting.targetSha setting.currentSha 2
      (some (switchReceipt setting.requestId row row.targetSha row.currentSha w.now)) :=
    ⟨_, rfl, rfl, hrow.targetSha, hrow.currentSha, congrArg (· + 1) hgeneration⟩
  refine wp_bind.mpr (wp_mono (fun _ w hw ↦ ?_) (fun _ _ h ↦ h)
    (wp_write_back reversed ⟨hs, hcarried⟩ (writes_receipt _) hstate (by decide) ?_))
  · exact ⟨hw.1, congrArg (· + 1) hgeneration, _, hw.2⟩
  · exact fun stage files hle hshows ↦
      ⟨reversed, le_reversed stage, le_rfl, hshows.reverse hle hreceipt⟩

theorem wp_rollbackFiles (hw : Ready setting number i row low files w)
    (hstate : row.state = .rollingBack) :
    wp (discipline setting number) i (rollbackFiles setting.requestId row)
      (fun receipt w ↦ Sound setting (Subsingleton Run) w ∧ receipt.generation = 2 ∧
        ∃ files, Carried setting number i row reversed files w)
      (fun _ ↦ Ends setting number i row.fence) w := by
  obtain ⟨hs, hrow, hcarried⟩ := hw
  unfold rollbackFiles
  refine wp_bind.mpr (wp_mono ?_ (fun _ _ h ↦ ⟨h.1, h.2.holds.fenced⟩)
    (wp_resolvePointer .current Carried.relies (fun _ h ↦ h.seen) ⟨hs, hcarried⟩))
  rintro current w ⟨⟨hs, hcarried⟩, hcurrent⟩
  refine wp_bind.mpr (wp_mono ?_ (fun _ _ h ↦ ⟨h.1, h.2.1.holds.fenced⟩)
    (wp_resolvePointer .previous
      (R := fun w ↦ Carried setting number i row low files w ∧
        Recalls setting low (·.pointer .current) (some current) w)
      (fun h hw ↦ ⟨hw.1.relies h, hw.2.relies h⟩) (fun _ h ↦ h.1.seen) ⟨hs, hcarried, hcurrent⟩))
  rintro previous w ⟨⟨hs, hcarried, hcurrent⟩, hprevious⟩
  refine wp_bind.mpr (wp_mono ?_ (fun _ _ h ↦ ⟨h.1, h.2.1.holds.fenced⟩)
    (wp_read_files reads_receipt
      (R := fun w ↦ Carried setting number i row low files w ∧
        Recalls setting low (·.pointer .current) (some current) w ∧
        Recalls setting low (·.pointer .previous) (some previous) w)
      (fun h hw ↦ ⟨hw.1.relies h, hw.2.1.relies h, hw.2.2.relies h⟩) (fun _ h ↦ h.1.seen)
      ⟨hs, hcarried, hcurrent, hprevious⟩))
  rintro receipt w ⟨⟨hs, hcarried, hcurrent, hprevious⟩, hreceipt⟩
  rw [wp_ite]
  split
  · exact ⟨hs, hcarried.holds.fenced⟩
  rename_i hcas
  simp only [not_or, Bool.not_eq_false] at hcas
  obtain ⟨hactivation, hpointers⟩ := hcas
  obtain ⟨hgeneration, -⟩ := hreceipt.1.activation hrow.currentSha hactivation
  -- the row records the activation, so the pointers were read after it
  have hlow : activated ≤ low := hrow.generation (by omega)
  refine wp_quiet_bind (quiet_ask rfl)
    (R := fun w ↦ Carried setting number i row low files w ∧
      Recalls setting low (·.pointer .current) (some current) w ∧
      Recalls setting low (·.pointer .previous) (some previous) w)
    (fun h hw ↦ ⟨hw.1.relies h, hw.2.1.relies h, hw.2.2.relies h⟩)
    ⟨hs, hcarried, hcurrent, hprevious⟩ (fun _ _ h ↦ ⟨h.1, h.2.1.holds.fenced⟩) fun _ w hw ↦ ?_
  obtain ⟨hs, hcarried, hcurrent, hprevious⟩ := hw
  have hback : wp (discipline setting number) i
      (if current = row.targetSha ∧ previous = row.currentSha then
        ask (.renamePointer .current previous) else pure ())
      (fun _ w ↦ (Sound setting (Subsingleton Run) w ∧
          ∃ files, Carried setting number i row restored files w) ∧
        (Recalls setting activated (·.pointer .previous) (some previous) w ∨
          previous ≠ setting.targetSha))
      (fun _ ↦ Ends setting number i row.fence) w := by
    split_ifs with huntouched
    · obtain ⟨-, hprevious⟩ := huntouched
      rw [hprevious, hrow.currentSha]
      refine wp_mono (fun _ w hw ↦ ⟨⟨hw.1, _, hw.2⟩, .inr setting.differ⟩) (fun _ _ h ↦ h)
        (wp_write_back restored ⟨hs, hcarried⟩ (writes_pointer .current _) hstate hlow ?_)
      exact fun stage files hle hshows ↦ hshows.switchBack (hlow.trans hle)
    · obtain ⟨hresumed, -⟩ : current = row.currentSha ∧ _ :=
        not_not.mp fun h ↦ hpointers ⟨huntouched, h⟩
      rw [hresumed, hrow.currentSha] at hcurrent
      refine ⟨⟨hs, files, hcarried.holds, hcurrent.restored hlow, hcarried.seen.alone⟩, .inl ?_⟩
      exact hprevious.mono hlow
  refine wp_bind.mpr (wp_mono (fun _ w hw ↦ ?_) (fun _ _ h ↦ h) hback)
  exact wp_finishRollback hrow hstate hgeneration hw.2 hw.1

/-! ### Completing the request -/

/-- A state in which the files may be at any stage. -/
theorem Fits.anywhere {target : UpdateState} {generation : ℕ} (hs : Sound setting alone w)
    (htarget : isUntouched target = false) (hrolledBack : target ≠ .rolledBack)
    (hexact : alone → Within setting (span target) w.files)
    (hrecorded : 0 < generation → Within setting (activated, reversed) w.files) :
    Fits setting alone w target generation := by
  obtain ⟨row, -, hrow⟩ := hs
  refine ⟨?_, hexact, hrecorded, fun h ↦ ?_⟩
  · simp only [looseSpan, htarget, hrolledBack, Bool.false_eq_true, if_false]
    exact hrow.loose.any
  · rw [htarget] at h
    contradiction

theorem Fits.rolledBack {generation : ℕ} (h : Within setting (reversed, reversed) w.files) :
    Fits setting alone w .rolledBack generation :=
  ⟨h, fun _ ↦ h, fun _ ↦ h.mono (by decide) le_rfl, fun huntouched ↦ absurd huntouched (by decide)⟩

/-- An update fails only where the current pointer was not switched. -/
theorem within_failed {state : UpdateState} (h : Within setting (span state) files)
    (hmove : state = .failed ∨ state.canTransition .failed = true)
    (hcurrent : state = .activating → files.current = some setting.currentSha) :
    Within setting (planned, kept) files := by
  cases state
  case activating =>
    obtain ⟨stage, hlow, hhigh, hshows⟩ := h
    have hpointer := (Prod.mk.inj hshows.pointers).1.symm.trans (hcurrent rfl)
    cases stage
    case planned => exact ⟨planned, le_rfl, by decide, hshows⟩
    case kept => exact ⟨kept, by decide, le_rfl, hshows⟩
    case switched => exact absurd (Option.some.inj hpointer).symm setting.differ
    case activated => exact absurd (Option.some.inj hpointer).symm setting.differ
    all_goals exact absurd hhigh (by decide)
  all_goals first
    | exact absurd hmove (by decide)
    | exact h.mono (by decide) (by decide)

theorem wp_completeFailed {fields : MutationFields} (hfields : fields.activationGeneration = none)
    (hw : Sound setting (Subsingleton Run) w ∧ Carried setting number i row low files w)
    (hcurrent : Subsingleton Run → row.state = .activating →
      files.current = some setting.currentSha) :
    wp (discipline setting number) i (complete setting.requestId row failedState fields)
      (fun _ ↦ Ends setting number i row.fence) (fun _ ↦ Ends setting number i row.fence) w := by
  refine wp_complete hw.1 hw.2.holds fun r hr hsound hdrifts hmove ↦ ?_
  refine .anywhere hw.1 rfl (by decide) (fun halone ↦ ?_) ?_
  · refine within_failed (hsound.exact halone) hmove fun hactivating ↦ ?_
    rw [hw.2.seen.alone halone]
    rcases hdrifts with heq | heq | ⟨-, heq⟩
    · exact hcurrent halone (heq ▸ hactivating)
    · rw [hactivating] at heq
      contradiction
    · rw [hactivating] at heq
      rcases heq with heq | heq <;> contradiction
  · rw [hfields]
    exact hsound.generation

theorem wp_completeSucceeded {fields : MutationFields}
    (hfields : fields.activationGeneration = none)
    (hs : Sound setting (Subsingleton Run) w) (hw : Holds setting number i row w) :
    wp (discipline setting number) i (complete setting.requestId row succeededState fields)
      (fun _ ↦ Ends setting number i row.fence) (fun _ ↦ Ends setting number i row.fence) w := by
  refine wp_complete hs hw fun r _ hsound _ hmove ↦ ?_
  refine .anywhere hs rfl (by decide) (fun halone ↦ ?_) ?_
  · have hexact := hsound.exact halone
    have hstate : r.state = .succeeded ∨ r.state = .verifying := by
      revert hmove
      cases r.state <;> decide
    rcases hstate with hstate | hstate <;> rw [hstate] at hexact <;> exact hexact
  · rw [hfields]
    exact hsound.generation

/-! ### Restoring the current release -/

theorem wp_runtimeRestored (policy : Policy) (owner : String)
    (hw : Sound setting (Subsingleton Run) w ∧ Carried setting number i row low files w) :
    wp (discipline setting number) i (runtimeRestored policy setting.requestId owner row)
      (fun restored w ↦
        (Sound setting (Subsingleton Run) w ∧ Carried setting number i row low files w) ∧
          (restored = true → Subsingleton Run → files.current = some row.currentSha))
      (fun _ ↦ Ends setting number i row.fence) w := by
  unfold runtimeRestored
  refine wp_bind.mpr (wp_mono ?_ (fun _ _ h ↦ h.2.ends h.1)
    (wp_observe Carried.relies (fun _ h ↦ h.seen) hw))
  rintro pointer w ⟨hw, hpointer⟩
  refine wp_carried_bind hw (quiet_ask rfl) fun agent w hw ↦ ?_
  refine wp_carried_bind hw (quiet_assertLease owner row) fun _ w hw ↦ ?_
  rw [wp_ite]
  split
  · refine wp_carried_bind hw (quiet_ask rfl) fun settledAgent w hw ↦ ?_
    refine wp_carried_bind hw (quiet_assertLease owner row) fun _ w hw ↦ ?_
    refine wp_carried_bind hw (quiet_ask rfl) fun observed w hw ↦ ?_
    refine wp_carried_bind hw (quiet_assertLease owner row) fun _ w hw ↦ ?_
    refine wp_bind.mpr (wp_mono ?_ (fun _ _ h ↦ h.2.ends h.1)
      (wp_observe Carried.relies (fun _ h ↦ h.seen) hw))
    rintro again w ⟨hw, hagain⟩
    refine wp_carried_bind hw (quiet_ask rfl) fun dispatcher w hw ↦ ?_
    refine wp_carried_bind hw (quiet_ask rfl) fun slack w hw ↦ ?_
    refine wp_carried_bind hw (quiet_ask rfl) fun manifest w hw ↦ ?_
    refine wp_carried_bind hw (quiet_assertLease owner row) fun _ w hw ↦ ?_
    refine ⟨hw, fun hrestored halone ↦ ?_⟩
    rw [decide_eq_true_eq] at hrestored
    exact (hagain.current halone).symm.trans hrestored.1
  · refine ⟨hw, fun hrestored halone ↦ ?_⟩
    rw [decide_eq_true_eq] at hrestored
    exact (hpointer.current halone).symm.trans hrestored.1

theorem wp_restoreServices (policy : Policy) (owner causeCode : String)
    (dispatcherQuiesced slackQuiesced : Bool) (hrow : row.currentSha = setting.currentSha)
    (hw : Sound setting (Subsingleton Run) w ∧ Carried setting number i row low files w) :
    wp (discipline setting number) i (restoreServices policy setting.requestId owner row causeCode
        dispatcherQuiesced slackQuiesced)
      (fun _ ↦ Ends setting number i row.fence) (fun _ ↦ Ends setting number i row.fence) w := by
  refine wp_carried_bind hw (quiet_restartServices owner row _ _ _ _ _ _ _ _) fun failure w hw ↦ ?_
  refine wp_carried_bind hw (quiet_restartStoppedAgent policy owner row _ _ _)
    fun restarted w hw ↦ ?_
  rw [wp_ite]
  split
  · cases failure with
    | some failure => exact wp_carried_end hw (quiet_needsReview row _ _)
    | none =>
        refine wp_carried_bind hw (quiet_healthy owner row dispatcherQuiesced _ _)
          fun dispatcher w hw ↦ ?_
        rw [wp_ite]
        split
        · refine wp_carried_bind hw (quiet_healthy owner row slackQuiesced _ _) fun slack w hw ↦ ?_
          rw [wp_ite]
          split
          · refine wp_bind.mpr (wp_mono ?_ (fun _ _ h ↦ h) (wp_runtimeRestored policy owner hw))
            rintro restored w ⟨hw, hrestored⟩
            rw [wp_ite]
            split
            · rename_i htrue
              refine wp_completeFailed rfl hw fun halone _ ↦ ?_
              rw [hrestored htrue halone, hrow]
            · exact wp_carried_end hw (quiet_needsReview row _ _)
          · exact wp_carried_end hw (quiet_needsReview row _ _)
        · exact wp_carried_end hw (quiet_needsReview row _ _)
  · exact hw.2.ends hw.1

theorem wp_restoreQuiescedServices (policy : Policy) (owner causeCode : String)
    (dispatcherQuiesced slackQuiesced : Bool) (hrow : row.currentSha = setting.currentSha)
    (hw : Sound setting (Subsingleton Run) w ∧ Carried setting number i row low files w) :
    wp (discipline setting number) i
      (restoreQuiescedServices policy setting.requestId owner row causeCode dispatcherQuiesced
        slackQuiesced)
      (fun _ ↦ Ends setting number i row.fence) (fun _ ↦ Ends setting number i row.fence) w := by
  refine wp_carried_bind hw quiet_observe fun pointer w hw ↦ ?_
  refine wp_carried_bind hw (quiet_assertLease owner row) fun _ w hw ↦ ?_
  rw [wp_ite]
  split
  · exact wp_carried_end hw (quiet_needsReview row _ _)
  · refine wp_carried_bind hw (Safe.ite (quiet_schemaReadable owner row) (safe_pure _))
      fun readable w hw ↦ ?_
    cases readable with
    | error code => exact wp_carried_end hw (quiet_needsReview row _ _)
    | ok u =>
        exact wp_restoreServices policy owner causeCode _ _ hrow hw

/-! ### The rollback -/

theorem wp_verifyPrevious (policy : Policy) (owner : String) (compatibility : Compatibility)
    (hrow : row.targetSha = setting.targetSha)
    (hw : Sound setting (Subsingleton Run) w ∧ Carried setting number i row low files w) :
    wp (discipline setting number) i
      (verifyPrevious policy setting.requestId owner row compatibility)
      (fun _ ↦ Ends setting number i row.fence) (fun _ ↦ Ends setting number i row.fence) w := by
  refine wp_bind.mpr (wp_mono ?_ (fun _ _ h ↦ h.2.ends h.1)
    (wp_observe Carried.relies (fun _ h ↦ h.seen) hw))
  rintro pointer w ⟨hw, hpointer⟩
  have hrelies : ∀ {s t : World}, Relies setting number i s t →
      Carried setting number i row low files s ∧ Observed setting Run low files pointer s →
        Carried setting number i row low files t ∧ Observed setting Run low files pointer t :=
    fun h hw ↦ ⟨hw.1.relies h, hw.2.relies h⟩
  have hends : ∀ (_ : String) (w : World), Sound setting (Subsingleton Run) w ∧
      Carried setting number i row low files w ∧ Observed setting Run low files pointer w →
        Ends setting number i row.fence w := fun _ _ h ↦ h.2.1.ends h.1
  have hw := And.intro hw.1 (And.intro hw.2 hpointer)
  refine wp_quiet_bind (quiet_ask rfl) hrelies hw hends fun dispatcher w hw ↦ ?_
  refine wp_quiet_bind (quiet_ask rfl) hrelies hw hends fun slack w hw ↦ ?_
  refine wp_quiet_bind (quiet_ask rfl) hrelies hw hends fun agent w hw ↦ ?_
  refine wp_quiet_bind (quiet_assertLease owner row) hrelies hw hends fun _ w hw ↦ ?_
  refine wp_quiet_bind (quiet_runtimeOperation _) hrelies hw hends fun operation w hw ↦ ?_
  rw [wp_ite]
  split
  · rename_i hverified
    -- the receipt of a reversal is the last one
    have hreversed := (hw.2.2.receipt.1.reversal hrow hverified.2.2.1).2
    exact wp_complete hw.1 hw.2.1.holds fun _ _ _ _ _ ↦ .rolledBack hreversed
  · exact wp_carried_end ⟨hw.1, hw.2.1⟩ (quiet_deferOrReview policy row _ _)

theorem wp_startPrevious (policy : Policy) (owner : String) (knownPaneId : Option String)
    (compatibility : Compatibility) (hrow : row.targetSha = setting.targetSha)
    (hw : Sound setting (Subsingleton Run) w ∧ Carried setting number i row low files w) :
    wp (discipline setting number) i
      (startPrevious policy setting.requestId owner row knownPaneId compatibility)
      (fun _ ↦ Ends setting number i row.fence) (fun _ ↦ Ends setting number i row.fence) w := by
  refine wp_carried_bind hw (quiet_runtimeOperation _) fun stopTarget w hw ↦ ?_
  refine wp_carried_bind hw (quiet_runtimeOperation _) fun originalStop w hw ↦ ?_
  refine wp_carried_bind hw (quiet_runtimeOperation _) fun targetStart w hw ↦ ?_
  split
  · exact wp_carried_end hw (quiet_needsReview row _ _)
  refine wp_carried_bind hw (quiet_ensureMainAgentRestarted policy owner row _ _ _ _)
    fun restarted w hw ↦ ?_
  rw [wp_ite]
  split
  · refine wp_carried_bind hw (quiet_ensureServiceStarted policy owner row _ _ _ _)
      fun dispatcher w hw ↦ ?_
    cases dispatcher with
    | wrongSha => exact wp_carried_end hw (quiet_needsReview row _ _)
    | deferred => exact hw.2.ends hw.1
    | started =>
        refine wp_carried_bind hw (quiet_ensureServiceStarted policy owner row _ _ _ _)
          fun slack w hw ↦ ?_
        cases slack with
        | wrongSha => exact wp_carried_end hw (quiet_needsReview row _ _)
        | deferred => exact hw.2.ends hw.1
        | started => exact wp_verifyPrevious policy owner compatibility hrow hw
  · exact hw.2.ends hw.1

theorem wp_switchBack (policy : Policy) (owner : String)
    (hw : Ready setting number i row low files w) (hstate : row.state = .rollingBack) :
    wp (discipline setting number) i (switchBack policy setting.requestId owner row)
      (fun switched w ↦ Ends setting number i row.fence w ∧
        ∀ generation, switched = some generation →
        ∃ files, Carried setting number i row reversed files w)
      (fun _ ↦ Ends setting number i row.fence) w := by
  obtain ⟨hs, hrow, hcarried⟩ := hw
  refine wp_carried_bind ⟨hs, hcarried⟩ (quiet_ask rfl) fun workers w hw ↦ ?_
  refine wp_carried_bind hw (quiet_assertLease owner row) fun _ w hw ↦ ?_
  rw [wp_ite]
  split
  · exact wp_none (wp_carried_end hw (quiet_restoreTargetWithin policy owner row _))
  refine wp_carried_bind hw (quiet_ask rfl).attempt fun registered w hw ↦ ?_
  split
  · refine wp_carried_bind hw (quiet_assertLease owner row) fun _ w hw ↦ ?_
    exact wp_none (wp_carried_end hw (quiet_restoreTargetAfterDrain policy owner row _ _ _))
  · refine wp_carried_bind hw (quiet_assertLease owner row) fun _ w hw ↦ ?_
    exact wp_none (wp_carried_end hw (quiet_restoreTargetAfterDrain policy owner row _ _ _))
  · refine wp_carried_bind hw (quiet_assertLease owner row) fun _ w hw ↦ ?_
    refine wp_bind.mpr (wp_mono ?_ (fun _ _ h ↦ h) (wp_rollbackFiles ⟨hw.1, hrow, hw.2⟩ hstate))
    rintro receipt w ⟨hs, -, files, hcarried⟩
    refine wp_carried_bind ⟨hs, hcarried⟩ (quiet_assertLease owner row) fun _ w hw ↦ ?_
    have hreached : Within setting (activated, reversed) w.files :=
      hw.2.seen.reached.mono (by decide) le_rfl
    refine wp_bind.mpr (wp_mono ?_ (fun _ _ h ↦ h)
      (wp_recordActivationGeneration hw.1 hw.2.holds hreached))
    rintro _ w' ⟨hs, hholds, hfiles⟩
    have hseen : Seen setting Run reversed files w' := ⟨hfiles ▸ hw.2.seen.reached, fun halone ↦
      hfiles.trans (hw.2.seen.alone halone)⟩
    refine wp_carried_bind ⟨hs, hholds, hseen⟩ quiet_observe fun observation w hw ↦ ?_
    refine wp_carried_bind hw (quiet_assertLease owner row) fun _ w hw ↦ ?_
    rw [wp_ite]
    split
    · exact ⟨hw.2.ends hw.1, fun _ _ ↦ ⟨files, hw.2⟩⟩
    · exact wp_none (wp_carried_end hw (quiet_deferOrReview policy row _ _))

theorem Recalls.reversedGeneration {observation : Observation} {generation : ℕ}
    (h : Recalls setting low ReleaseFiles.receipt observation.receipt w)
    (hrow : row.targetSha = setting.targetSha)
    (hr : reversedGeneration setting.requestId row observation = some generation) :
    Within setting (reversed, reversed) w.files := by
  obtain ⟨r, hreceipt, hr⟩ := Option.bind_eq_some_iff.mp hr
  rw [hreceipt] at h
  split_ifs at hr with hshown
  exact (h.of_reversal hshown.2.2.1 (hshown.2.2.2.1.trans hrow)).2

theorem Carried.withGeneration (h : Carried setting number i row low files w) (generation : ℕ) :
    Carried setting number i { row with activationGeneration := generation } low files w :=
  ⟨h.holds.mono rfl rfl, h.seen⟩

theorem wp_resumeRollback (policy : Policy) (owner : String) (knownPaneId : Option String)
    (hw : Ready setting number i row low files w) (hstate : row.state = .rollingBack) :
    wp (discipline setting number) i
      (resumeRollback policy setting.requestId owner row knownPaneId)
      (fun _ ↦ Ends setting number i row.fence) (fun _ ↦ Ends setting number i row.fence) w := by
  obtain ⟨hs, hrow, hcarried⟩ := hw
  refine wp_carried_bind ⟨hs, hcarried⟩ (quiet_assertLease owner row) fun _ w hw ↦ ?_
  refine wp_carried_bind hw (quiet_ask rfl) fun manifest w hw ↦ ?_
  refine wp_carried_bind hw (quiet_assertLease owner row) fun _ w hw ↦ ?_
  cases manifest with
  | none => exact wp_carried_end hw (quiet_needsReview row _ _)
  | some compatibility =>
      refine wp_bind.mpr (wp_mono ?_ (fun _ _ h ↦ h.2.ends h.1)
        (wp_observe Carried.relies (fun _ h ↦ h.seen) hw))
      rintro observation w ⟨hw, hobservation⟩
      split
      · rename_i generation hreversed
        have hwithin := hobservation.receipt.1.reversedGeneration hrow.targetSha hreversed
        refine wp_bind.mpr (wp_mono ?_ (fun _ _ h ↦ h)
          (wp_recordActivationGeneration hw.1 hw.2.holds (hwithin.mono (by decide) le_rfl)))
        rintro _ w' ⟨hs, hholds, hfiles⟩
        have hcarried : Carried setting number i row low files w' :=
          ⟨hholds, hfiles ▸ hw.2.seen.reached, fun halone ↦ hfiles.trans (hw.2.seen.alone halone)⟩
        exact wp_startPrevious policy owner knownPaneId compatibility hrow.targetSha
          ⟨hs, hcarried.withGeneration generation⟩
      · refine wp_carried_bind hw (quiet_readyToSwitchBack policy owner row observation knownPaneId)
          fun ready w hw ↦ ?_
        cases ready with
        | none => exact hw.2.ends hw.1
        | some paneId =>
            refine wp_bind.mpr (wp_mono ?_ (fun _ _ h ↦ h)
              (wp_switchBack policy owner ⟨hw.1, hrow, hw.2⟩ hstate))
            rintro switched w ⟨hends, hswitched⟩
            cases switched with
            | none => exact hends
            | some generation =>
                obtain ⟨files, hcarried⟩ := hswitched generation rfl
                exact wp_startPrevious policy owner paneId compatibility hrow.targetSha
                  ⟨hends.sound, hcarried.withGeneration generation⟩

theorem wp_rollback (policy : Policy) (owner reason : String) (operatorApproved : Bool)
    (knownPaneId : Option String) (hw : Ready setting number i row low files w) :
    wp (discipline setting number) i
      (rollback policy setting.requestId owner row reason operatorApproved knownPaneId)
      (fun _ ↦ Ends setting number i row.fence) (fun _ ↦ Ends setting number i row.fence) w := by
  obtain ⟨hs, hrow, hcarried⟩ := hw
  refine wp_carried_bind ⟨hs, hcarried⟩ (quiet_assertLease owner row) fun _ w hw ↦ ?_
  rw [wp_ite]
  split
  · exact wp_carried_end hw (quiet_needsReview row _ _)
  · refine wp_bind.mpr (wp_mono ?_ (fun _ _ h ↦ h) (wp_transition hw.1 hw.2.holds ?_ ?_))
    · rintro rolling w' ⟨⟨low, hready⟩, hstate, hfence⟩
      rw [← hfence]
      exact wp_resumeRollback policy owner knownPaneId hready hstate
    · exact .inr fun _ _ _ ↦ rfl
    · intro r hr hsound _ _
      exact .anywhere hw.1 rfl (by decide) (fun _ ↦ hsound.loose.any) hsound.generation

/-! ### The states of a claimed request -/

theorem isUntouched_of_canTransition {state target : UpdateState}
    (h : state = target ∨ state.canTransition target = true)
    (htarget : target = .staged ∨ target = .quiescing) : isUntouched state = true := by
  revert h
  rcases htarget with rfl | rfl <;> cases state <;> decide

/-- A move between two states before the activation. -/
theorem Fits.untouched_of_row {target : UpdateState} (hsound : RowSound setting alone w row)
    (hrow : isUntouched row.state = true) (htarget : isUntouched target = true) :
    Fits setting alone w target row.activationGeneration := by
  obtain ⟨hgeneration, hactivator⟩ := hsound.untouched hrow
  have hplanned := hsound.loose
  rw [looseSpan_of_isUntouched hrow] at hplanned
  refine ⟨?_, fun _ ↦ ?_, hsound.generation, fun _ ↦ ⟨hgeneration, hactivator⟩⟩
  · rwa [looseSpan_of_isUntouched htarget]
  · rwa [span_of_isUntouched htarget]

/-- A run other than the service loop takes up no request that it would have to bring from its
approval to the stop of the services. -/
def Enters (run : ℕ) (row : UpdateRow) : Prop :=
  run = 0 ∨ (row.state ≠ .preparing ∧ row.state ≠ .staged)

/-- The run goes on with a row of the same claim. -/
def GoesOn (setting : Setting) {Run : Type} (number : Run ↪ ℕ) (i : Run) (fence : ℕ)
    (row : UpdateRow) (w : World) : Prop :=
  row.fence = fence ∧ ∃ low files, Ready setting number i row low files w

theorem wp_runPreparing (owner : String) (hw : Ready setting number i row low files w)
    (henters : Enters (number i) row) (hstate : row.state ≠ .activating) :
    wp (discipline setting number) i (runPreparing setting.requestId owner row)
      (fun row' w ↦ GoesOn setting number i row.fence row' w ∧ Enters (number i) row' ∧
        row'.state ≠ .activating)
      (fun _ ↦ Ends setting number i row.fence) w := by
  obtain ⟨hs, hrow, hcarried⟩ := hw
  unfold runPreparing
  rw [wp_ite]
  split
  · rename_i hpreparing
    refine wp_bind.mpr (wp_mono ?_ (fun _ _ h ↦ h.2.ends h.1)
      (wp_resolvePointer .current Carried.relies (fun _ h ↦ h.seen) ⟨hs, hcarried⟩))
    rintro current w ⟨hw, -⟩
    refine wp_carried_bind hw (quiet_assertLease owner row) fun _ w hw ↦ ?_
    rw [wp_ite]
    split
    · exact hw.2.ends hw.1
    refine wp_carried_bind hw (quiet_ask rfl) fun _ w hw ↦ ?_
    refine wp_carried_bind hw (quiet_assertLease owner row) fun _ w hw ↦ ?_
    refine wp_mono ?_ (fun _ _ h ↦ h) (wp_transition hw.1 hw.2.holds ?_ ?_)
    · rintro staged w' ⟨⟨low, hready⟩, hstaged, hfence⟩
      refine ⟨⟨hfence, low, _, hready⟩, ?_, by rw [hstaged]; decide⟩
      exact .inl (henters.resolve_right fun h ↦ h.1 hpreparing)
    · exact .inr fun _ _ _ ↦ rfl
    · intro r _ hsound _ hmove
      exact .untouched_of_row hsound (isUntouched_of_canTransition hmove (.inl rfl)) rfl
  · exact ⟨⟨rfl, low, files, hs, hrow, hcarried⟩, henters, hstate⟩

theorem wp_runStaged (owner : String) (hw : Ready setting number i row low files w)
    (henters : Enters (number i) row) (hstate : row.state ≠ .activating) :
    wp (discipline setting number) i (runStaged setting.requestId owner row)
      (fun next w ↦ Ends setting number i row.fence w ∧ ∀ row', next = some row' →
        GoesOn setting number i row.fence row' w ∧ row'.state ≠ .activating)
      (fun _ ↦ Ends setting number i row.fence) w := by
  obtain ⟨hs, hrow, hcarried⟩ := hw
  unfold runStaged
  rw [wp_ite]
  split
  · rename_i hstaged
    refine wp_carried_bind ⟨hs, hcarried⟩ (quiet_approvalEnded row) fun ended w hw ↦ ?_
    rw [wp_ite]
    split
    · exact hw.2.ends hw.1
    refine wp_carried_bind hw (quiet_ask rfl) fun workers w hw ↦ ?_
    refine wp_carried_bind hw (quiet_assertLease owner row) fun _ w hw ↦ ?_
    rw [wp_ite]
    split
    · refine wp_bind.mpr (wp_mono ?_ (fun _ _ h ↦ h) (wp_transition hw.1 hw.2.holds ?_ ?_))
      · rintro quiescing w' ⟨⟨low, hready⟩, hquiescing, hfence⟩
        refine ⟨hfence ▸ hready.ends, ?_⟩
        rintro _ ⟨⟩
        exact ⟨⟨hfence, low, _, hready⟩, by rw [hquiescing]; decide⟩
      · exact .inl (henters.resolve_right fun h ↦ h.2 hstaged)
      · intro r _ hsound _ hmove
        exact .untouched_of_row hsound (isUntouched_of_canTransition hmove (.inr rfl)) rfl
    · refine wp_none (wp_completeFailed rfl hw fun _ hactivating ↦ absurd hactivating hstate)
  · refine ⟨hcarried.ends hs, ?_⟩
    rintro _ ⟨⟩
    exact ⟨⟨rfl, low, files, hs, hrow, hcarried⟩, hstate⟩

/-- What a run that is about to switch the pointers knows. -/
def Switches {Run : Type} (setting : Setting) (number : Run ↪ ℕ) (i : Run) (row : UpdateRow)
    (w : World) : Prop :=
  row.activationGeneration = 0 ∧ Begun number i setting.files w

/-- A quiescing request that drifts is activated only while it is still quiescing. -/
theorem eq_quiescing {state : UpdateState} (hdrifts : Drifts .quiescing state)
    (hmove : state = .activating ∨ state.canTransition .activating = true) :
    state = .quiescing := by
  revert hdrifts hmove
  cases state <;> decide

theorem wp_beginActivation (hs : Sound setting (Subsingleton Run) w)
    (hholds : Holds setting number i row w) (hstate : row.state = .quiescing) :
    wp (discipline setting number) i (beginActivation setting.requestId (number i) row)
      (fun row' w ↦ GoesOn setting number i row.fence row' w ∧ Switches setting number i row' w)
      (fun _ ↦ Ends setting number i row.fence) w := by
  refine wp_transact (fun row' t h ↦ ?_) fun _ _ ↦ ⟨hs, hholds.fenced⟩
  simp only [withRow, bind_eq_ok, getRequired_eq_ok, Except.ok.injEq, Prod.mk.injEq,
    Prod.exists] at h
  obtain ⟨_, _, ⟨_, db, htransition, _, hrow', rfl, rfl⟩, rfl, rfl⟩ := h
  obtain ⟨r, hr, hfence, hmove, hrewrites⟩ := transition_spec htransition
  obtain ⟨r₀, hr₀, hsound⟩ := hs
  obtain rfl : r = r₀ := Option.some.inj (hr.symm.trans hr₀)
  have hmoved := hrewrites setting.requestId
  rw [hrow', if_pos rfl, Option.some.injEq] at hmoved
  subst hmoved
  have hheld : w.fence setting = row.fence := by rw [World.fence_of_row hr, hfence]
  have hquiescing : r.state = .quiescing := by
    have hdrifts := hholds.drifts hheld
    rw [World.state_of_row hr, hstate] at hdrifts
    exact eq_quiescing hdrifts hmove
  have huntouched : isUntouched r.state = true := by rw [hquiescing]; rfl
  obtain ⟨hgeneration, hactivator⟩ := hsound.untouched huntouched
  have hplanned := hsound.loose
  rw [looseSpan_of_isUntouched huntouched] at hplanned
  have hplanned := within_planned _ hplanned
  have hmoved : RowSound setting (Subsingleton Run)
      { w with db := db, activator := some (number i) } (movedRow .activating w.now {} r) :=
    { currentSha := hsound.currentSha
      targetSha := hsound.targetSha
      loose := hsound.loose.any
      exact := fun _ ↦ ⟨planned, le_rfl, planned_le _, hplanned⟩
      generation := hsound.generation
      untouched := fun h ↦ absurd h Bool.false_ne_true }
  have hholder := hholds.fenced.holder hheld
  refine ⟨guarantee_move hr hrow' rfl (.inr hactivator) (.inl ⟨rfl, rfl, hholder⟩) (.inr ?_)
    fun _ ↦ hmoved, ⟨hfence, ?_⟩, hgeneration, rfl, hplanned.eq_files⟩
  · intro hstarted
    rw [hquiescing] at hstarted
    exact absurd hstarted (by decide)
  · have hnew := World.fence_of_row (w := { w with db := db, activator := some (number i) }) hrow'
    obtain ⟨low, hsnapshot, hcarried⟩ := hmoved.carried hrow'
      ⟨Nat.le_of_eq hnew.symm, fun _ ↦ hholder, fun _ ↦ hnew⟩
    exact ⟨low, _, ⟨_, hrow', hmoved⟩, hsnapshot, hcarried⟩

theorem wp_runQuiescing (policy : Policy) (owner : String) (paneId : Option String)
    (hw : Ready setting number i row low files w) (hstate : row.state ≠ .activating) :
    wp (discipline setting number) i
      (runQuiescing policy setting.requestId owner (number i) row paneId)
      (fun next w ↦ Ends setting number i row.fence w ∧ ∀ row', next = some row' →
        GoesOn setting number i row.fence row'.1 w ∧
          (row'.1.state = .activating → Switches setting number i row'.1 w))
      (fun _ ↦ Ends setting number i row.fence) w := by
  obtain ⟨hs, hrow, hcarried⟩ := hw
  unfold runQuiescing
  rw [wp_ite]
  split
  · rename_i hquiescing
    refine wp_carried_bind ⟨hs, hcarried⟩ (quiet_quiesceServices policy owner row paneId)
      fun outcome w hw ↦ ?_
    cases outcome with
    | error ending =>
        cases ending with
        | restore causeCode dispatcherQuiesced slackQuiesced =>
            exact wp_none (wp_restoreQuiescedServices policy owner _ _ _ hrow.currentSha hw)
        | deferred code message =>
            exact wp_none (wp_carried_end hw (quiet_deferOrReview policy row _ _))
        | review code => exact wp_none (wp_carried_end hw (quiet_needsReview row _ _))
        | ended =>
            refine ⟨hw.2.ends hw.1, ?_⟩
            rintro _ ⟨⟩
    | ok stoppedPaneId =>
        refine wp_bind.mpr (wp_mono ?_ (fun _ _ h ↦ h)
          (wp_beginActivation hw.1 hw.2.holds hquiescing))
        rintro row' w ⟨hgoesOn, hswitches⟩
        obtain ⟨hfence, low, files, hready⟩ := hgoesOn
        refine ⟨hfence ▸ hready.ends, ?_⟩
        rintro _ ⟨⟩
        exact ⟨⟨hfence, low, files, hready⟩, fun _ ↦ hswitches⟩
  · refine ⟨hcarried.ends hs, ?_⟩
    rintro _ ⟨⟩
    exact ⟨⟨rfl, low, files, hs, hrow, hcarried⟩, fun h ↦ absurd h hstate⟩

theorem wp_switchToTarget (owner : String) (hcurrentSha : row.currentSha = setting.currentSha)
    (htargetSha : row.targetSha = setting.targetSha) (hstate : row.state = .activating)
    (hgeneration : row.activationGeneration = 0)
    (hw : Sound setting (Subsingleton Run) w ∧ Holds setting number i row w ∧
      Begun number i setting.files w) :
    wp (discipline setting number) i (switchToTarget setting.requestId owner row)
      (fun row' w ↦ GoesOn setting number i row.fence row' w)
      (fun _ ↦ Ends setting number i row.fence) w := by
  refine wp_bind.mpr (wp_mono ?_ (fun _ _ h ↦ h)
    (wp_activate hcurrentSha htargetSha hstate hgeneration hw))
  rintro receipt w ⟨hs, hholds, hreceipt, files, hshows, hseen⟩
  refine wp_carried_bind ⟨hs, hholds, hseen⟩ (quiet_assertLease owner row) fun _ w hw ↦ ?_
  refine wp_bind.mpr (wp_mono ?_ (fun _ _ h ↦ h)
    (wp_recordActivationGeneration hw.1 hw.2.holds hw.2.seen.reached))
  rintro _ w' ⟨hs, hholds, hfiles⟩
  have hreached : Within setting (activated, reversed) w'.files := hfiles ▸ hw.2.seen.reached
  refine wp_mono ?_ (fun _ _ h ↦ h) (wp_transition hs hholds ?_ ?_)
  · rintro restarting w ⟨⟨low, hready⟩, -, hfence⟩
    exact ⟨hfence, low, _, hready⟩
  · refine .inr fun state hmove hstarted ↦ ?_
    revert hmove hstarted
    cases state <;> decide
  · intro r _ _ _ _
    refine .anywhere hs rfl (by decide) (fun halone ↦ ?_) fun _ ↦ hreached
    rw [hfiles, hw.2.seen.alone halone]
    exact ⟨activated, le_rfl, le_rfl, hshows⟩

/-- A run that takes up an activating request only goes on to restore the current release, unless
it is the run that activates it. -/
def Activates {Run : Type} (setting : Setting) (number : Run ↪ ℕ) (i : Run) (row : UpdateRow)
    (w : World) : Prop :=
  row.state = .activating →
    Switches setting number i row w ∨ (persistedRecovery setting.requestId w.db).isSome = true

theorem wp_runActivating (policy : Policy) (owner : String)
    (hw : Ready setting number i row low files w) (hactivates : Activates setting number i row w) :
    wp (discipline setting number) i (runActivating policy setting.requestId owner row)
      (fun next w ↦ Ends setting number i row.fence w ∧ ∀ row', next = some row' →
        GoesOn setting number i row.fence row' w)
      (fun _ ↦ Ends setting number i row.fence) w := by
  obtain ⟨hs, hrow, hcarried⟩ := hw
  unfold runActivating
  rw [wp_ite]
  split
  · rename_i hactivating
    rw [wp_bind, wp_read]
    split
    · refine wp_carried_bind ⟨hs, hcarried⟩ (quiet_ask rfl) fun evidence w hw ↦ ?_
      cases evidence with
      | none => exact wp_none (wp_carried_end hw (quiet_needsReview row _ _))
      | some evidence =>
          exact wp_none (wp_restoreQuiescedServices policy owner _ _ _ hrow.currentSha hw)
    rename_i hrecovery
    obtain ⟨hgeneration, hbegun⟩ := (hactivates hactivating).resolve_right (by simp [hrecovery])
    have hrelies : ∀ {s t}, Relies setting number i s t →
        Carried setting number i row low files s ∧ Begun number i setting.files s →
          Carried setting number i row low files t ∧ Begun number i setting.files t :=
      fun h hw ↦ ⟨hw.1.relies h, hw.2.relies rfl h⟩
    have hends : ∀ (_ : String) (w : World), Sound setting (Subsingleton Run) w ∧
        Carried setting number i row low files w ∧ Begun number i setting.files w →
          Ends setting number i row.fence w := fun _ _ h ↦ h.2.1.ends h.1
    have hw := And.intro hs (And.intro hcarried hbegun)
    refine wp_quiet_bind (quiet_ask rfl).attempt hrelies hw hends fun registered w hw ↦ ?_
    split
    · refine wp_carried_bind ⟨hw.1, hw.2.1⟩ (quiet_assertLease owner row) fun _ w hw ↦ ?_
      exact wp_none (wp_restoreQuiescedServices policy owner _ _ _ hrow.currentSha hw)
    · refine wp_carried_bind ⟨hw.1, hw.2.1⟩ (quiet_assertLease owner row) fun _ w hw ↦ ?_
      exact wp_none (wp_restoreQuiescedServices policy owner _ _ _ hrow.currentSha hw)
    · refine wp_quiet_bind (quiet_assertLease owner row) hrelies hw hends fun _ w hw ↦ ?_
      refine wp_quiet_bind (quiet_ask rfl) hrelies hw hends fun workers w hw ↦ ?_
      refine wp_quiet_bind (quiet_assertLease owner row) hrelies hw hends fun _ w hw ↦ ?_
      rw [wp_ite]
      split
      · refine wp_bind.mpr (wp_mono ?_ (fun _ _ h ↦ h)
          (wp_switchToTarget owner hrow.currentSha hrow.targetSha hactivating hgeneration
            ⟨hw.1, hw.2.1.holds, hw.2.2⟩))
        rintro row' w ⟨hfence, low, files, hready⟩
        refine ⟨hfence ▸ hready.ends, ?_⟩
        rintro _ ⟨⟩
        exact ⟨hfence, low, files, hready⟩
      · exact wp_none (wp_restoreQuiescedServices policy owner _ _ _ hrow.currentSha
          ⟨hw.1, hw.2.1⟩)
  · refine ⟨hcarried.ends hs, ?_⟩
    rintro _ ⟨⟩
    exact ⟨rfl, low, files, hs, hrow, hcarried⟩

/-- A rollback ends the run, with nothing started. -/
theorem wp_rollback_false (policy : Policy) (owner reason : String) (knownPaneId : Option String)
    (hw : Ready setting number i row low files w) {P : World → Prop} :
    wp (discipline setting number) i
      (do
        rollback policy setting.requestId owner row reason false knownPaneId
        pure false)
      (fun started w ↦ Ends setting number i row.fence w ∧ (started = true → P w))
      (fun _ ↦ Ends setting number i row.fence) w :=
  wp_bind.mpr (wp_mono (fun _ _ h ↦ ⟨h, fun hfalse ↦ absurd hfalse Bool.false_ne_true⟩)
    (fun _ _ h ↦ h) (wp_rollback policy owner reason false knownPaneId hw))

theorem wp_startTarget (policy : Policy) (owner paneId : String)
    (hw : Ready setting number i row low files w) :
    wp (discipline setting number) i (startTarget policy setting.requestId owner row paneId)
      (fun started w ↦ Ends setting number i row.fence w ∧
        (started = true → Carried setting number i row low files w))
      (fun _ ↦ Ends setting number i row.fence) w := by
  obtain ⟨hs, hrow, hcarried⟩ := hw
  have hdeferred : ∀ w, Sound setting (Subsingleton Run) w ∧
      Carried setting number i row low files w → Ends setting number i row.fence w ∧
        (false = true → Carried setting number i row low files w) :=
    fun _ h ↦ ⟨h.2.ends h.1, fun _ ↦ h.2⟩
  refine wp_carried_bind ⟨hs, hcarried⟩ (quiet_ensureTargetMainAgent policy owner row paneId)
    fun agent w hw ↦ ?_
  cases agent with
  | deferred => exact hdeferred w hw
  | rejected => exact wp_rollback_false policy owner _ _ ⟨hw.1, hrow, hw.2⟩
  | started =>
      refine wp_carried_bind hw (quiet_ensureServiceStarted policy owner row _ _ _ _)
        fun dispatcher w hw ↦ ?_
      cases dispatcher with
      | deferred => exact hdeferred w hw
      | wrongSha => exact wp_rollback_false policy owner _ _ ⟨hw.1, hrow, hw.2⟩
      | started =>
          refine wp_carried_bind hw (quiet_ensureServiceStarted policy owner row _ _ _ _)
            fun slack w hw ↦ ?_
          cases slack with
          | deferred => exact hdeferred w hw
          | wrongSha => exact wp_rollback_false policy owner _ _ ⟨hw.1, hrow, hw.2⟩
          | started => exact ⟨hw.2.ends hw.1, fun _ ↦ hw.2⟩

theorem wp_runRestarting (policy : Policy) (owner : String) (paneId : Option String)
    (hw : Ready setting number i row low files w) :
    wp (discipline setting number) i (runRestarting policy setting.requestId owner row paneId)
      (fun next w ↦ Ends setting number i row.fence w ∧ ∀ row', next = some row' →
        GoesOn setting number i row.fence row' w)
      (fun _ ↦ Ends setting number i row.fence) w := by
  obtain ⟨hs, hrow, hcarried⟩ := hw
  unfold runRestarting
  rw [wp_ite]
  split
  · rename_i hrestarting
    refine wp_carried_bind ⟨hs, hcarried⟩ (quiet_countRestart row) fun _ w hw ↦ ?_
    cases paneId with
    | none => exact wp_none (wp_carried_end hw (quiet_needsReview row _ _))
    | some paneId =>
        refine wp_bind.mpr (wp_mono ?_ (fun _ _ h ↦ h)
          (wp_startTarget policy owner paneId ⟨hw.1, hrow, hw.2⟩))
        rintro started w ⟨hends, hstarted⟩
        rw [wp_ite]
        split
        · rename_i htrue
          have hcarried := hstarted htrue
          refine wp_bind.mpr (wp_mono ?_ (fun _ _ h ↦ h)
            (wp_transition hends.sound hcarried.holds (.inr fun _ _ _ ↦ rfl) ?_))
          · rintro verifying w' ⟨⟨low, hready⟩, -, hfence⟩
            refine ⟨hfence ▸ hready.ends, ?_⟩
            rintro _ ⟨⟩
            exact ⟨hfence, low, _, hready⟩
          · intro r _ hsound _ _
            refine .anywhere hends.sound rfl (by decide) (fun halone ↦ ?_) hsound.generation
            have hexact := hrow.exact halone
            rw [hrestarting] at hexact
            rw [hcarried.seen.alone halone]
            exact hexact
        · exact ⟨hends, fun _ h ↦ by cases h⟩
  · refine ⟨hcarried.ends hs, ?_⟩
    rintro _ ⟨⟩
    exact ⟨rfl, low, files, hs, hrow, hcarried⟩

theorem wp_runVerifying (policy : Policy) (owner : String)
    (hw : Ready setting number i row low files w) :
    wp (discipline setting number) i (runVerifying policy setting.requestId owner row)
      (fun _ ↦ Ends setting number i row.fence) (fun _ ↦ Ends setting number i row.fence) w := by
  obtain ⟨hs, hrow, hcarried⟩ := hw
  unfold runVerifying
  rw [wp_ite]
  split
  · refine wp_carried_bind ⟨hs, hcarried⟩ quiet_observe fun pointer w hw ↦ ?_
    refine wp_carried_bind hw (quiet_ask rfl) fun dispatcher w hw ↦ ?_
    refine wp_carried_bind hw (quiet_ask rfl) fun slack w hw ↦ ?_
    refine wp_carried_bind hw (quiet_ask rfl) fun agent w hw ↦ ?_
    refine wp_carried_bind hw (quiet_assertLease owner row) fun _ w hw ↦ ?_
    refine wp_carried_bind hw (quiet_runtimeOperation _) fun operation w hw ↦ ?_
    rw [wp_ite]
    split
    · exact wp_carried_end hw (quiet_deferOrReview policy row _ _)
    rw [wp_ite]
    split
    · exact wp_rollback policy owner _ false none ⟨hw.1, hrow, hw.2⟩
    rw [wp_ite]
    split
    · exact wp_rollback policy owner _ false none ⟨hw.1, hrow, hw.2⟩
    rw [wp_ite]
    split
    · exact wp_completeSucceeded rfl hw.1 hw.2.holds
    · exact wp_carried_end hw (quiet_deferOrReview policy row _ _)
  · exact hcarried.ends hs

theorem wp_runActivated (policy : Policy) (owner : String) (paneId : Option String)
    (hw : Ready setting number i row low files w) (hactivates : Activates setting number i row w) :
    wp (discipline setting number) i (runActivated policy setting.requestId owner row paneId)
      (fun _ ↦ Ends setting number i row.fence) (fun _ ↦ Ends setting number i row.fence) w := by
  refine wp_bind.mpr (wp_mono ?_ (fun _ _ h ↦ h) (wp_runActivating policy owner hw hactivates))
  rintro next w ⟨hends, hnext⟩
  cases next with
  | none => exact hends
  | some row₁ =>
      obtain ⟨hfence, low, files, hready⟩ := hnext row₁ rfl
      rw [← hfence]
      refine wp_bind.mpr (wp_mono ?_ (fun _ _ h ↦ h) (wp_runRestarting policy owner paneId hready))
      rintro next w ⟨hends, hnext⟩
      cases next with
      | none => exact hends
      | some row₂ =>
          obtain ⟨hfence, low, files, hready⟩ := hnext row₂ rfl
          rw [← hfence]
          exact wp_runVerifying policy owner hready

/-- The lease is only looked at. -/
theorem wp_assertLease (owner : String) {Q : Unit → World → Prop} {E : String → World → Prop}
    (hQ : Q () w) (hE : ∀ e, E e w) :
    wp (discipline setting number) i (assertLease setting.requestId owner row) Q E w := by
  refine wp_transact (fun _ t h ↦ ?_) fun e _ ↦ hE e
  simp only [bind_eq_ok, Except.ok.injEq, Prod.mk.injEq, Prod.exists] at h
  obtain ⟨_, _, ⟨_, -, _, -, -, rfl⟩, -, rfl⟩ := h
  exact ⟨(Quiet.refl w).guarantee, hQ⟩

theorem wp_runClaimed (policy : Policy) (owner : String)
    (hw : Ready setting number i row low files w) (henters : Enters (number i) row)
    (hactivates : Activates setting number i row w) :
    wp (discipline setting number) i (runClaimed policy setting.requestId owner (number i) row)
      (fun _ ↦ Ends setting number i row.fence) (fun _ ↦ Ends setting number i row.fence) w := by
  have hends := hw.ends
  unfold runClaimed runtimeOperation
  rw [wp_bind, wp_read, wp_bind]
  refine wp_assertLease owner ?_ fun _ ↦ hends
  rw [wp_ite]
  split
  · exact wp_carried_end ⟨hw.sound, hw.carried⟩ (quiet_needsReview row _ _)
  rw [wp_ite]
  split
  · rename_i hrollingBack
    exact wp_resumeRollback policy owner none hw hrollingBack
  by_cases hstate : row.state = .activating
  · -- the states before the activation are passed
    have hpreparing : row.state ≠ .preparing := by rw [hstate]; decide
    have hstaged : row.state ≠ .staged := by rw [hstate]; decide
    have hquiescing : row.state ≠ .quiescing := by rw [hstate]; decide
    rw [wp_bind, runPreparing, if_neg hpreparing, wp_pure, wp_bind, runStaged, if_neg hstaged,
      wp_pure]
    dsimp only
    rw [wp_bind, runQuiescing, if_neg hquiescing, wp_pure]
    exact wp_runActivated policy owner _ hw hactivates
  · refine wp_bind.mpr (wp_mono ?_ (fun _ _ h ↦ h) (wp_runPreparing owner hw henters hstate))
    rintro row₁ w ⟨⟨hfence, low, files, hready⟩, henters, hstate⟩
    rw [← hfence]
    refine wp_bind.mpr (wp_mono ?_ (fun _ _ h ↦ h) (wp_runStaged owner hready henters hstate))
    rintro next w ⟨hends, hnext⟩
    cases next with
    | none => exact hends
    | some row₂ =>
        obtain ⟨⟨hfence, low, files, hready⟩, hstate⟩ := hnext row₂ rfl
        rw [← hfence]
        refine wp_bind.mpr (wp_mono ?_ (fun _ _ h ↦ h)
          (wp_runQuiescing policy owner _ hready hstate))
        rintro next w ⟨hends, hnext⟩
        cases next with
        | none => exact hends
        | some row₃ =>
            obtain ⟨row₃, paneId⟩ := row₃
            obtain ⟨⟨hfence, low, files, hready⟩, hswitches⟩ := hnext _ rfl
            rw [← hfence]
            exact wp_runActivated policy owner paneId hready fun h ↦ .inl (hswitches h)

/-! ### Claims -/

/-- A row that was just read, and what the files show with it. -/
theorem Sound.ready (hs : Sound setting (Subsingleton Run) w) (hrow : w.row setting = some row)
    (hfenced : Fenced setting number i row.fence w) :
    ∃ low, Ready setting number i row low w.files w := by
  obtain ⟨r, hr, hsound⟩ := hs
  obtain rfl := Option.some.inj (hrow.symm.trans hr)
  obtain ⟨low, hsnapshot, hcarried⟩ := hsound.carried hrow hfenced
  exact ⟨low, ⟨row, hrow, hsound⟩, hsnapshot, hcarried⟩

/-- A claim brings an approved request on its way, and leaves any other one in its state. -/
theorem RowSound.claimed (h : RowSound setting alone w row) (owner : String) (leaseMs : Int)
    (now : Time) : RowSound setting alone w (claimedRow owner leaseMs now row) := by
  by_cases happroved : row.state = .approved
  · have huntouched : isUntouched row.state = true := by rw [happroved]; rfl
    have hstate : (claimedRow owner leaseMs now row).state = .preparing := if_pos happroved
    have hloose := h.loose
    rw [looseSpan_of_isUntouched huntouched] at hloose
    refine ⟨h.currentSha, h.targetSha, ?_, fun _ ↦ ?_, h.generation, fun _ ↦ h.untouched huntouched⟩
    · rw [hstate]
      exact hloose
    · rw [hstate]
      exact hloose
  · have hstate : (claimedRow owner leaseMs now row).state = row.state := if_neg happroved
    refine ⟨h.currentSha, h.targetSha, ?_, fun halone ↦ ?_, h.generation, fun huntouched ↦ ?_⟩
    · rw [hstate]
      exact h.loose
    · rw [hstate]
      exact h.exact halone
    · rw [hstate] at huntouched
      exact h.untouched huntouched

theorem isStarted_claimedRow (owner : String) (leaseMs : Int) (now : Time) (row : UpdateRow) :
    isStarted (claimedRow owner leaseMs now row).state = isStarted row.state := by
  by_cases happroved : row.state = .approved
  · have hstate : (claimedRow owner leaseMs now row).state = .preparing := if_pos happroved
    rw [hstate, happroved]
    rfl
  · have hstate : (claimedRow owner leaseMs now row).state = row.state := if_neg happroved
    rw [hstate]

theorem wp_claim (policy : Policy) (owner : String) (hs : Sound setting (Subsingleton Run) w) :
    wp (discipline setting number) i (claim policy setting.requestId owner (number i))
      (fun claimed w' ↦ Sound setting (Subsingleton Run) w' ∧ ∀ row, claimed = some row →
        (∃ low files, Ready setting number i row low files w') ∧
          isStarted row.state = isStarted (w.state setting))
      (fun _ ↦ Sound setting (Subsingleton Run)) w := by
  refine wp_claiming hs (fun _ ↦ hs) fun claimed db r hok hr hsound ↦ ?_
  rcases claim_returns hok with ⟨rfl, rfl⟩ | hreturns
  · exact .inl ⟨rfl, rfl, hs, fun _ h ↦ by cases h⟩
  rcases claim_spec hok with ⟨rfl, rfl⟩ | ⟨-, -, -, old, hold, hrewrites⟩
  · exact .inl ⟨rfl, rfl, hs, fun _ h ↦ by cases h⟩
  · obtain rfl := Option.some.inj (hr.symm.trans hold)
    have hclaimed : claimed = some (claimedRow owner policy.leaseMs w.now r) := by
      rw [← hreturns, hrewrites, if_pos rfl]
    refine .inr ⟨by rw [hclaimed]; rfl, _, hrewrites, rfl, ?_, hsound.claimed _ _ _, ?_⟩
    · rw [isStarted_claimedRow]
      exact fun h ↦ h
    · rintro w' hfiles hs' hrow hfenced
      refine ⟨hs', ?_⟩
      rw [hclaimed]
      rintro _ ⟨⟩
      obtain ⟨low, hready⟩ := hs'.ready hrow hfenced
      rw [World.state_of_row hr]
      exact ⟨⟨low, _, hready⟩, isStarted_claimedRow _ _ _ _⟩

/-! ### Reconciliation -/

theorem within_activated (h : Within setting (activated, reversed) files)
    (hcurrent : files.current = some setting.targetSha) :
    Within setting (activated, activated) files := by
  obtain ⟨stage, hlow, -, hshows⟩ := h
  have hpointer := (Prod.mk.inj hshows.pointers).1.symm.trans hcurrent
  cases stage
  case activated => exact ⟨activated, le_rfl, le_rfl, hshows⟩
  case restored => exact absurd (Option.some.inj hpointer) setting.differ
  case swapped => exact absurd (Option.some.inj hpointer) setting.differ
  case reversed => exact absurd (Option.some.inj hpointer) setting.differ
  all_goals exact absurd hlow (by decide)

/-- The files that show a switch to the target, when no other run writes them. -/
theorem Observed.activated {observation : Observation}
    (h : Observed setting Run low files observation w) (hseen : Seen setting Run low files w)
    (hwithin : Within setting (activated, reversed) w.files)
    (hcurrent : observation.currentSha = some setting.targetSha) (halone : Subsingleton Run) :
    Within setting (Stage.activated, Stage.activated) w.files := by
  refine within_activated hwithin ?_
  rw [hseen.alone halone, ← h.current halone]
  exact hcurrent

theorem wp_observeTerminal (hcurrentSha : row.currentSha = setting.currentSha)
    (htargetSha : row.targetSha = setting.targetSha) (hs : Sound setting (Subsingleton Run) w) :
    wp (discipline setting number) i (observeTerminal setting.requestId row)
      (fun ended w ↦ Sound setting (Subsingleton Run) w ∧ ∀ status sha,
        ended = some (status, sha) → ∀ generation,
          Fits setting (Subsingleton Run) w status.state.1 generation)
      (fun _ ↦ Sound setting (Subsingleton Run)) w := by
  have hseen : Seen setting Run planned w.files w := by
    obtain ⟨r, -, hsound⟩ := hs
    exact ⟨hsound.loose.any, fun _ ↦ rfl⟩
  generalize w.files = files at hseen
  refine wp_bind.mpr (wp_mono ?_ (fun _ _ h ↦ h.1)
    (wp_observe Seen.relies (fun _ h ↦ h) ⟨hs, hseen⟩))
  rintro pointer w ⟨hw, hpointer⟩
  have hnothing : ∀ w : World, Sound setting (Subsingleton Run) w →
      Sound setting (Subsingleton Run) w ∧ ∀ status sha,
        (none : Option (EvidenceStatus × String)) = some (status, sha) → ∀ generation,
          Fits setting (Subsingleton Run) w status.state.1 generation :=
    fun w hs ↦ ⟨hs, fun _ _ h ↦ by cases h⟩
  split
  · exact hnothing w hw.1
  rename_i activeSha hactive
  have hrelies : ∀ {s t : World}, Relies setting number i s t →
      Seen setting Run planned files s ∧ Observed setting Run planned files pointer s →
        Seen setting Run planned files t ∧ Observed setting Run planned files pointer t :=
    fun h hw ↦ ⟨hw.1.relies h, hw.2.relies h⟩
  have hends : ∀ (_ : String) (w : World), Sound setting (Subsingleton Run) w ∧
      Seen setting Run planned files w ∧ Observed setting Run planned files pointer w →
        Sound setting (Subsingleton Run) w := fun _ _ h ↦ h.1
  have hw := And.intro hw.1 (And.intro hw.2 hpointer)
  refine wp_quiet_bind (quiet_ask rfl) hrelies hw hends fun dispatcher w hw ↦ ?_
  refine wp_quiet_bind (quiet_ask rfl) hrelies hw hends fun slack w hw ↦ ?_
  refine wp_quiet_bind (quiet_ask rfl) hrelies hw hends fun agent w hw ↦ ?_
  refine wp_quiet_bind (quiet_ask rfl) hrelies hw hends fun manifest w hw ↦ ?_
  refine wp_quiet_bind (quiet_runtimeOperation _) hrelies hw hends fun operation w hw ↦ ?_
  obtain ⟨hs, hseen, hpointer⟩ := hw
  rw [wp_ite]
  split
  · exact hnothing w hs
  rw [wp_ite]
  split
  · rename_i htarget
    rw [wp_ite]
    split
    · rename_i hshown
      refine ⟨hs, ?_⟩
      rintro _ _ ⟨⟩ generation
      have hwithin := (hpointer.receipt.1.activation hcurrentSha hshown.2.1).2
      refine .anywhere hs rfl (by decide) (hpointer.activated hseen hwithin ?_) fun _ ↦ hwithin
      rw [hactive, htarget, htargetSha]
    · exact hnothing w hs
  · rw [wp_ite]
    split
    · rename_i hshown
      refine ⟨hs, ?_⟩
      rintro _ _ ⟨⟩ generation
      exact .rolledBack (hpointer.receipt.1.reversal htargetSha hshown.2.2.1).2
    · exact hnothing w hs

theorem wp_reconcileReview (hcurrentSha : row.currentSha = setting.currentSha)
    (htargetSha : row.targetSha = setting.targetSha) (hs : Sound setting (Subsingleton Run) w) :
    wp (discipline setting number) i (reconcileReview setting.requestId (number i) row)
      (fun _ ↦ Sound setting (Subsingleton Run)) (fun _ ↦ Sound setting (Subsingleton Run)) w := by
  refine wp_bind.mpr (wp_mono ?_ (fun _ _ h ↦ h) (wp_observeTerminal hcurrentSha htargetSha hs))
  rintro ended w ⟨hs, hended⟩
  split
  · exact hs
  rename_i status sha
  rw [wp_bind, wp_read, wp_ite]
  split
  · refine wp_claiming hs (fun _ ↦ hs) fun _ db r hok hr hsound ↦ ?_
    simp only [bind_eq_ok, Except.ok.injEq, Prod.mk.injEq, Prod.exists] at hok
    obtain ⟨_, _, hevidence, -, rfl⟩ := hok
    obtain ⟨r₀, r', hr₀, -, hrewrites, hstate, hfence, hcurrent, htarget, hgeneration⟩ :=
      completeEvidenceReconcile_spec hevidence
    obtain rfl := Option.some.inj (hr.symm.trans hr₀)
    have hfits := hended status sha rfl r'.activationGeneration
    rw [← hstate] at hfits
    refine .inr ⟨rfl, r', hrewrites, hfence, fun _ ↦ ?_, ?_, fun _ _ hs' _ _ ↦ hs'⟩
    · rw [hstate]
      exact not_isStarted_of_isTerminal status.state.2
    · exact ⟨hcurrent.trans hsound.currentSha, htarget.trans hsound.targetSha, hfits.loose,
        hfits.exact, hfits.recorded, hfits.untouched⟩
  · exact hs

theorem wp_reconcileObserved (policy : Policy) (owner : String) (pointer : Observation)
    (hw : Ready setting number i row low files w)
    (hpointer : Observed setting Run low files pointer w) :
    wp (discipline setting number) i
      (reconcileObserved policy setting.requestId owner (number i) row pointer)
      (fun _ ↦ Ends setting number i row.fence) (fun _ ↦ Ends setting number i row.fence) w := by
  obtain ⟨hs, hrow, hcarried⟩ := hw
  have hrelies : ∀ {s t : World}, Relies setting number i s t →
      Carried setting number i row low files s ∧ Observed setting Run low files pointer s →
        Carried setting number i row low files t ∧ Observed setting Run low files pointer t :=
    fun h hw ↦ ⟨hw.1.relies h, hw.2.relies h⟩
  have hends : ∀ (_ : String) (w : World), Sound setting (Subsingleton Run) w ∧
      Carried setting number i row low files w ∧ Observed setting Run low files pointer w →
        Ends setting number i row.fence w := fun _ _ h ↦ h.2.1.ends h.1
  have hw := And.intro hs (And.intro hcarried hpointer)
  refine wp_quiet_bind (quiet_ask rfl) hrelies hw hends fun dispatcher w hw ↦ ?_
  refine wp_quiet_bind (quiet_ask rfl) hrelies hw hends fun slack w hw ↦ ?_
  refine wp_quiet_bind (quiet_ask rfl) hrelies hw hends fun agent w hw ↦ ?_
  refine wp_quiet_bind (quiet_activeManifest pointer) hrelies hw hends fun manifest w hw ↦ ?_
  refine wp_quiet_bind (quiet_runtimeOperation _) hrelies hw hends fun operation w hw ↦ ?_
  obtain ⟨hs, hcarried, hpointer⟩ := hw
  rw [wp_ite]
  split
  · exact wp_completeSucceeded rfl hs hcarried.holds
  rw [wp_ite]
  split
  · rename_i hshown
    have hreversed := (hpointer.receipt.1.reversal hrow.targetSha hshown.2.2.1).2
    exact wp_complete hs hcarried.holds fun _ _ _ _ _ ↦ .rolledBack hreversed
  rw [wp_ite]
  split
  · exact wp_carried_end ⟨hs, hcarried⟩ (quiet_needsReview row _ _)
  split
  · rename_i generation hreopened
    obtain ⟨receipt, hreceipt, hshown⟩ := Option.bind_eq_some_iff.mp hreopened
    split_ifs at hshown with hactivated
    obtain ⟨-, hcurrent, -, hrequest, hfrom, -⟩ := hactivated
    have hwithin : Within setting (activated, reversed) w.files := by
      have hrecalls := hpointer.receipt.1
      rw [hreceipt] at hrecalls
      exact (hrecalls.of_activation hrequest (hfrom.trans hrow.currentSha)).2
    refine wp_bind.mpr (wp_mono ?_ (fun _ _ h ↦ h) (wp_transition hs hcarried.holds ?_ ?_))
    · rintro restarting w' ⟨⟨low, hready⟩, hstate, hfence⟩
      rw [← hfence]
      refine wp_runClaimed policy owner hready (.inr ?_) fun h ↦ ?_
      · rw [hstate]
        decide
      · rw [hstate] at h
        contradiction
    · refine .inr fun state hmove hstarted ↦ ?_
      revert hmove hstarted
      cases state <;> decide
    · intro r _ _ _ _
      refine .anywhere hs rfl (by decide) ?_ fun _ ↦ hwithin
      exact hpointer.activated hcarried.seen hwithin (by rw [hcurrent, hrow.targetSha])
  · rw [wp_ite]
    split
    · exact wp_carried_end ⟨hs, hcarried⟩ (quiet_deferOrReview policy row _ _)
    · exact hcarried.ends hs

theorem wp_reconcileClaimed (policy : Policy) (owner : String)
    (hw : Ready setting number i row low files w) :
    wp (discipline setting number) i
      (reconcileClaimed policy setting.requestId owner (number i) row)
      (fun _ ↦ Ends setting number i row.fence) (fun _ ↦ Ends setting number i row.fence) w := by
  obtain ⟨hs, hrow, hcarried⟩ := hw
  refine wp_bind.mpr (wp_mono ?_ (fun _ _ h ↦ h.2.ends h.1)
    (wp_observe Carried.relies (fun _ h ↦ h.seen) ⟨hs, hcarried⟩))
  rintro pointer w ⟨⟨hs, hcarried⟩, hpointer⟩
  rw [wp_bind, wp_read, wp_ite]
  split
  · rename_i htaken
    refine wp_runClaimed policy owner ⟨hs, hrow, hcarried⟩ (.inr ?_) fun hactivating ↦ .inr ?_
    · rcases htaken with hstate | ⟨⟨hstate, -⟩, -⟩
      · revert hstate
        cases row.state <;> decide
      · rw [hstate]
        decide
    · rcases htaken with hstate | ⟨-, hrecovery⟩
      · rw [hactivating] at hstate
        exact absurd hstate (by decide)
      · exact hrecovery
  rw [wp_ite]
  split
  · exact wp_restoreQuiescedServices policy owner _ _ _ hrow.currentSha ⟨hs, hcarried⟩
  · exact wp_reconcileObserved policy owner pointer ⟨hs, hrow, hcarried⟩ hpointer

theorem wp_reconcile (policy : Policy) (owner : String)
    (hs : Sound setting (Subsingleton Run) w) :
    wp (discipline setting number) i (reconcile policy setting.requestId owner (number i))
      (fun _ ↦ Sound setting (Subsingleton Run)) (fun _ ↦ Sound setting (Subsingleton Run)) w := by
  obtain ⟨row, hrow, hsound⟩ := hs
  have hs : Sound setting (Subsingleton Run) w := ⟨row, hrow, hsound⟩
  unfold reconcile
  rw [wp_bind, wp_read, show w.db.requests.get? setting.requestId = some row from hrow]
  dsimp only
  rw [wp_ite]
  split
  · exact hs
  rw [wp_ite]
  split
  · exact wp_reconcileReview hsound.currentSha hsound.targetSha hs
  refine wp_bind.mpr (wp_mono ?_ (fun _ _ h ↦ h) (wp_claim policy owner hs))
  rintro claimed w ⟨hs, hclaimed⟩
  cases claimed with
  | none => exact hs
  | some claimed =>
      obtain ⟨⟨low, files, hready⟩, -⟩ := hclaimed claimed rfl
      exact wp_mono (fun _ _ h ↦ h.sound) (fun _ _ h ↦ h.sound)
        (wp_reconcileClaimed policy owner hready)

theorem wp_operatorRollback (policy : Policy) (owner : String) (planHash : CanonicalPlan)
    (hs : Sound setting (Subsingleton Run) w) :
    wp (discipline setting number) i
      (operatorRollback policy setting.requestId owner (number i) planHash)
      (fun _ ↦ Sound setting (Subsingleton Run)) (fun _ ↦ Sound setting (Subsingleton Run)) w := by
  have hbegins : wp (discipline setting number) i
      (claiming (number i) (fun _ ↦ true) fun now ↦ withRow setting.requestId
        (beginOperatorRollback setting.requestId planHash owner policy.leaseMs now))
      (fun row w ↦ ∃ low files, Ready setting number i row low files w)
      (fun _ ↦ Sound setting (Subsingleton Run)) w := by
    refine wp_claiming hs (fun _ ↦ hs) fun row db r hok hr hsound ↦ ?_
    simp only [withRow, bind_eq_ok, getRequired_eq_ok, Except.ok.injEq, Prod.mk.injEq,
      Prod.exists] at hok
    obtain ⟨_, _, hbegin, _, hrow, rfl, rfl⟩ := hok
    obtain ⟨r₀, r', hr₀, -, hrewrites, hstate, hfence, hcurrent, htarget, hgeneration⟩ :=
      beginOperatorRollback_spec hbegin
    obtain rfl := Option.some.inj (hr.symm.trans hr₀)
    have heq := hrewrites setting.requestId
    rw [hrow, if_pos rfl, Option.some.injEq] at heq
    subst heq
    refine .inr ⟨rfl, _, hrewrites, hfence, fun _ ↦ ?_, ?_, fun w' hfiles hs' hrow' hfenced ↦ ?_⟩
    · rw [hstate]
      rfl
    · refine ⟨hcurrent.trans hsound.currentSha, htarget.trans hsound.targetSha, ?_, fun _ ↦ ?_, ?_,
        fun huntouched ↦ ?_⟩
      · rw [hstate]
        exact hsound.loose.any
      · rw [hstate]
        exact hsound.loose.any
      · rw [hgeneration]
        exact hsound.generation
      · rw [hstate] at huntouched
        contradiction
    · obtain ⟨low, hready⟩ := hs'.ready hrow' hfenced
      exact ⟨low, _, hready⟩
  refine wp_bind.mpr (wp_mono ?_ (fun _ _ h ↦ h) hbegins)
  rintro row w ⟨low, files, hs, hrow, hcarried⟩
  refine wp_mono (fun _ _ (h : Ends setting number i row.fence _) ↦ h.sound)
    (fun _ _ (h : Ends setting number i row.fence _) ↦ h.sound) ?_
  refine wp_carried_bind ⟨hs, hcarried⟩ quiet_observe fun pointer w hw ↦ ?_
  rw [wp_ite]
  split
  · refine wp_carried_bind hw (quiet_needsReview row _ _) fun _ w hw ↦ ?_
    exact hw.2.ends hw.1
  · exact wp_rollback policy owner _ true none ⟨hw.1, hrow, hw.2⟩

/-! ### The service loop -/

theorem wp_handleUnexpected {fence : ℕ} (error : String)
    (hw : Ends setting number i fence w) :
    wp (discipline setting number) i (handleUnexpected setting.requestId fence error)
      (fun _ ↦ Sound setting (Subsingleton Run)) (fun _ ↦ Sound setting (Subsingleton Run)) w := by
  obtain ⟨row, hrow, hsound⟩ := hw.sound
  unfold handleUnexpected
  rw [wp_bind, wp_read, show w.db.requests.get? setting.requestId = some row from hrow]
  dsimp only
  rw [wp_ite]
  split
  · exact hw.sound
  rename_i hopen
  rw [not_or, not_not] at hopen
  obtain ⟨hfence, hterminal⟩ := hopen
  obtain ⟨low, hready⟩ := hw.sound.ready hrow (hfence ▸ hw.fenced)
  refine wp_mono (fun _ _ (h : Ends setting number i row.fence _) ↦ h.sound)
    (fun _ _ (h : Ends setting number i row.fence _) ↦ h.sound) ?_
  rw [wp_bind, wp_ite]
  split
  · exact wp_carried_end ⟨hready.sound, hready.carried⟩ (quiet_completeReview row rfl)
  · rename_i hmutated
    refine wp_mono ?_ (fun _ _ h ↦ h.2.ends h.1)
      (wp_quiet (quiet_currentRuntimeVerified row) Carried.relies ⟨hready.sound, hready.carried⟩)
    intro verified w hw
    cases verified with
    | false => exact wp_carried_end hw (quiet_completeReview row rfl)
    | true =>
        refine wp_completeFailed rfl hw fun _ hactivating ↦ ?_
        rw [hactivating] at hmutated
        exact absurd rfl hmutated

/-- The oldest one of some entries is one of them. -/
theorem mem_of_oldest {entries : List (RequestId × UpdateRow)} {entry : RequestId × UpdateRow}
    (h : oldest entries = some entry) : entry ∈ entries := by
  have hfold : entries.foldl
      (Table.pick fun entry first ↦ !decide (first.2.createdAt ≤ entry.2.createdAt)) none =
        some entry := by
    refine Eq.trans (congrArg (fun step ↦ entries.foldl step none) ?_) h
    funext best entry
    cases best with
    | none => rfl
    | some first =>
        by_cases hle : first.2.createdAt ≤ entry.2.createdAt
        · simp [Table.pick, hle]
        · simp [Table.pick, hle]
  exact (Table.mem_of_foldl_pick hfold).resolve_left (by simp)

theorem get?_of_nextRunnable {db : UpdateDb} {now : Time} {requestId : RequestId}
    (h : db.nextRunnable now = some (requestId, row)) : db.requests.get? requestId = some row :=
  (Table.mem_select_iff.1 (mem_of_oldest h)).1

theorem wp_processNext (policy : Policy) (owner : String) (hi : number i = 0)
    (hs : Sound setting (Subsingleton Run) w) :
    wp (discipline setting number) i (processNext policy setting.requestId owner (number i))
      (fun _ ↦ Sound setting (Subsingleton Run)) (fun _ ↦ Sound setting (Subsingleton Run)) w := by
  unfold processNext
  rw [wp_bind, wp_read, id_eq]
  split
  · split
    · exact hs
    · rw [wp_ite]
      split
      · exact wp_reconcile policy owner hs
      · exact hs
  rename_i requestId candidate hnext
  rw [wp_ite]
  split
  · exact hs
  rename_i hmine
  rw [not_or, not_not] at hmine
  obtain rfl : requestId = setting.requestId := hmine.2
  rw [wp_ite]
  split
  · exact wp_reconcile policy owner hs
  rename_i hunstarted
  have hstarted : isStarted (w.state setting) = false := by
    rw [World.state_of_row (get?_of_nextRunnable hnext)]
    revert hunstarted
    cases candidate.state <;> decide
  -- nobody else brings the request to the stop of the services meanwhile
  refine wp_quiet_bind (R := fun w ↦ isStarted (w.state setting) = false)
    (quiet_mayBeClaimed candidate) (fun h hw ↦ h.loop hi hw) ⟨hs, hstarted⟩
    (fun _ _ h ↦ h.1) fun (may : Bool) w hw ↦ ?_
  rw [wp_ite]
  split
  · refine wp_bind.mpr (wp_mono ?_ (fun _ _ h ↦ h) (wp_claim policy owner hw.1))
    rintro claimed w' ⟨hs, hclaimed⟩
    cases claimed with
    | none => exact hs
    | some row =>
        obtain ⟨⟨low, files, hready⟩, hrow⟩ := hclaimed row rfl
        refine wp_tryCatch.mpr (wp_mono (fun _ _ h ↦ h.sound)
          (fun e w h ↦ wp_handleUnexpected e h) (wp_runClaimed policy owner hready (.inl hi) ?_))
        intro hactivating
        rw [hactivating, hw.2] at hrow
        exact absurd hrow (by decide)
  · exact hw.1

end

end Dona.UpdateController
