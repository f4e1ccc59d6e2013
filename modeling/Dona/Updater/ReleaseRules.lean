import Dona.Updater.QuietSteps

/-!
# Rules for the runs of the controller

What a run knows at an await: the row it holds under a fence, and the stage the files have reached.
No quiet step breaks that, of this run or of another one, and each step that is not quiet, a write
of a file or a move of the request, has a rule of its own.
-/

namespace Dona.UpdateController

open Coroutine Fallible Updater UpdateDb Stage

variable {setting : Setting} {alone : Prop} {s t w : World} {row row' : UpdateRow}
  {stage low : Stage} {files : ReleaseFiles}

/-! ### The spans -/

theorem looseSpan_of_isUntouched {state : UpdateState} (h : isUntouched state = true) :
    looseSpan state = (planned, planned) := if_pos h

theorem span_of_isUntouched {state : UpdateState} (h : isUntouched state = true) :
    span state = (planned, planned) := if_pos h

theorem within_planned (files : ReleaseFiles) (h : Within setting (planned, planned) files) :
    Shows setting planned files := by
  obtain ⟨stage, -, hhigh, hstage⟩ := h
  cases stage
  case planned => exact hstage
  all_goals exact absurd hhigh (by decide)

theorem Within.any {span : Stage × Stage} (h : Within setting span files) :
    Within setting (planned, reversed) files := h.mono (planned_le _) (le_reversed _)

theorem not_isStarted_of_isTerminal {state : UpdateState} (h : state.isTerminal = true) :
    isStarted state = false := by
  revert h
  cases state <;> decide

/-- A row that drifts is as sound as before. -/
theorem RowSound.drifts (h : RowSound setting alone s row) (hrow : RowDrifts row row')
    (hfiles : t.files = s.files) (hactivator : t.activator = s.activator) :
    RowSound setting alone t row' := by
  refine ⟨hrow.currentSha.trans h.currentSha, hrow.targetSha.trans h.targetSha, ?_, ?_, ?_, ?_⟩
  · rw [hfiles]
    rcases hrow.state with hstate | hstate | ⟨huntouched, hstate⟩
    · rw [hstate]
      exact h.loose
    · rw [hstate]
      exact h.loose.any
    · have hplanned := h.loose
      rw [looseSpan_of_isUntouched huntouched] at hplanned
      rcases hstate with hstate | hstate <;> rw [hstate] <;> exact hplanned
  · intro halone
    rw [hfiles]
    rcases hrow.state with hstate | hstate | ⟨huntouched, hstate⟩
    · rw [hstate]
      exact h.exact halone
    · rw [hstate]
      exact h.loose.any
    · have hplanned := h.exact halone
      rw [span_of_isUntouched huntouched] at hplanned
      rcases hstate with hstate | hstate <;> rw [hstate] <;> exact hplanned
  · rw [hrow.activationGeneration, hfiles]
    exact h.generation
  · intro huntouched
    rw [hrow.activationGeneration, hactivator]
    exact h.untouched (hrow.state.isUntouched huntouched)

theorem Quiet.sound (h : Quiet setting s t) (hs : Sound setting alone s) :
    Sound setting alone t := by
  obtain ⟨row, hrow, hsound⟩ := hs
  obtain ⟨row', hrow', hdrifts⟩ := h.row row hrow
  exact ⟨row', hrow', hsound.drifts hdrifts h.files h.activator⟩

theorem World.state_of_row (h : w.row setting = some row) : w.state setting = row.state := by
  simp [World.state, h]

theorem World.fence_of_row (h : w.row setting = some row) : w.fence setting = row.fence := by
  simp [World.fence, h]

section

variable {Run : Type} {number : Run ↪ ℕ} {i j : Run}

theorem Quiet.relies (h : Quiet setting s t) (hs : Sound setting alone s) (j : Run) :
    Relies setting number j s t := by
  obtain ⟨row, hrow, -⟩ := hs
  obtain ⟨row', hrow', hdrifts⟩ := h.row row hrow
  have hfence : t.fence setting = s.fence setting := by
    rw [World.fence_of_row hrow, World.fence_of_row hrow', hdrifts.fence]
  have hstate : Drifts (s.state setting) (t.state setting) := by
    rw [World.state_of_row hrow, World.state_of_row hrow']
    exact hdrifts.state
  exact
    { advances := by
        rw [h.files]
        exact .refl _
      fence := Nat.le_of_eq hfence.symm
      holder := fun _ ↦ h.holder
      drifts := fun _ _ ↦ hstate
      activator := fun _ ↦ ⟨h.activator, fun _ ↦ h.files⟩
      loop := fun _ ↦ hstate.not_isStarted
      alone := fun _ ↦ ⟨h.files, hfence⟩ }

theorem Quiet.guarantee (h : Quiet setting s t) : (discipline setting number).guarantee i s t :=
  fun hs ↦ ⟨h.sound hs, fun j _ ↦ h.relies hs j⟩

/-! ### Steps that are not quiet -/

/-- With one run there is no other one to rely on anything. -/
theorem not_subsingleton (hij : i ≠ j) : ¬Subsingleton Run := fun h ↦ hij (h.elim i j)

/-- The files that the activation of this run writes, or that a rollback does after it. -/
def MayWrite (setting : Setting) (run : ℕ) (w : World) : Prop :=
  w.activator = some run ∨ Within setting (activated, reversed) w.files

theorem MayWrite.not_untouched (h : MayWrite setting (number i) w)
    (hsound : RowSound setting alone w row) : isUntouched row.state = false := by
  by_contra huntouched
  simp only [Bool.not_eq_false] at huntouched
  rcases h with hactivator | hwithin
  · have hnone := (hsound.untouched huntouched).2
    rw [hactivator] at hnone
    contradiction
  · have hloose := hsound.loose
    rw [looseSpan_of_isUntouched huntouched] at hloose
    exact absurd (hwithin.activated_le (within_planned _ hloose)) (by decide)

/-- A write of the files that takes them forward. -/
theorem guarantee_write (hmay : MayWrite setting (number i) s)
    (hadvances : Advances setting s.files files)
    (hexact : Subsingleton Run → ∀ row, s.row setting = some row →
      RowSound setting (Subsingleton Run) s row → Within setting (span row.state) files) :
    (discipline setting number).guarantee i s { s with files := files } := by
  rintro ⟨row, hrow, hsound⟩
  have htouched := hmay.not_untouched hsound
  refine ⟨⟨row, hrow, hsound.currentSha, hsound.targetSha, ?_, ?_, ?_, ?_⟩, fun j hj ↦ ?_⟩
  · have hloose := hsound.loose
    simp only [looseSpan, htouched, Bool.false_eq_true, if_false] at hloose ⊢
    split_ifs at hloose ⊢
    · exact hloose.advances hadvances
    · exact hloose.advances hadvances
  · exact fun halone ↦ hexact halone row hrow hsound
  · exact fun hgeneration ↦ (hsound.generation hgeneration).advances hadvances
  · intro huntouched
    rw [htouched] at huntouched
    contradiction
  · exact
      { advances := hadvances
        fence := Nat.le_refl _
        holder := fun _ ↦ rfl
        drifts := fun _ _ ↦ .refl _
        activator := by
          intro hactivator
          refine ⟨rfl, fun hreceipt ↦ ?_⟩
          rcases hmay with hmine | ⟨stage, hstage, -, hshows⟩
          · have heq := number.injective (Option.some.inj (hmine.symm.trans hactivator))
            exact absurd heq hj
          · rw [hshows.receipt.unwritten_iff] at hreceipt
            exact absurd hreceipt (activated_le_iff.mp hstage)
        loop := fun _ h ↦ h
        alone := fun h ↦ absurd h (not_subsingleton hj) }

/-- A move of the request, by the run that holds it or by one that claims it. -/
theorem guarantee_move (hrow : s.row setting = some row) (hrow' : t.row setting = some row')
    (hfiles : t.files = s.files) (hactivator : t.activator = s.activator ∨ s.activator = none)
    (hfence : (row'.fence = row.fence ∧ t.holder = s.holder ∧ s.holder = some (number i)) ∨
      row.fence < row'.fence)
    (hloop : number i = 0 ∨ (isStarted row.state = false → isStarted row'.state = false))
    (hsound : RowSound setting (Subsingleton Run) s row →
      RowSound setting (Subsingleton Run) t row') :
    (discipline setting number).guarantee i s t := by
  rintro ⟨row₀, hrow₀, hsound₀⟩
  obtain rfl := Option.some.inj (hrow.symm.trans hrow₀)
  refine ⟨⟨row', hrow', hsound hsound₀⟩, fun j hj ↦ ?_⟩
  have hs := World.fence_of_row hrow
  have ht := World.fence_of_row hrow'
  exact
    { advances := by
        rw [hfiles]
        exact .refl _
      fence := by
        rcases hfence with ⟨hfence, -⟩ | hfence <;> omega
      holder := by
        intro heq
        rcases hfence with ⟨-, hholder, -⟩ | hfence
        · exact hholder
        · omega
      drifts := by
        intro hholder heq
        rcases hfence with ⟨-, -, hmine⟩ | hfence
        · have heq := number.injective (Option.some.inj (hmine.symm.trans hholder))
          exact absurd heq hj
        · omega
      activator := by
        intro hmine
        rcases hactivator with hactivator | hnone
        · exact ⟨hactivator, fun _ ↦ hfiles⟩
        · rw [hnone] at hmine
          contradiction
      loop := by
        intro hj₀
        rw [World.state_of_row hrow, World.state_of_row hrow']
        rcases hloop with hi₀ | hloop
        · exact absurd (number.injective (hi₀.trans hj₀.symm)) hj
        · exact hloop
      alone := fun h ↦ absurd h (not_subsingleton hj) }

/-! ### What a run knows -/

section

variable (setting) (number) (i)

/-- The run claimed the request under this fence. -/
structure Fenced (fence : ℕ) (w : World) : Prop where
  le : fence ≤ w.fence setting
  holder : w.fence setting = fence → w.holder = some (number i)
  alone : Subsingleton Run → w.fence setting = fence

/-- While the fence lasts the request only drifts from the row that the run holds. -/
structure Holds (row : UpdateRow) (w : World) : Prop where
  fenced : Fenced setting number i row.fence w
  drifts : w.fence setting = row.fence → Drifts row.state (w.state setting)

/-- The stage that the files have reached, and the files themselves when no other run writes. -/
structure Seen (Run : Type) (low : Stage) (files : ReleaseFiles) (w : World) : Prop where
  reached : Within setting (low, reversed) w.files
  alone : Subsingleton Run → w.files = files

structure Carried (row : UpdateRow) (low : Stage) (files : ReleaseFiles) (w : World) : Prop where
  holds : Holds setting number i row w
  seen : Seen setting Run low files w

/-- This run began the activation, and has not written its receipt yet. -/
structure Begun (files : ReleaseFiles) (w : World) : Prop where
  activator : w.activator = some (number i)
  files : w.files = files

/-- The run ends, with what is left to know about its claim. -/
structure Ends (fence : ℕ) (w : World) : Prop where
  sound : Sound setting (Subsingleton Run) w
  fenced : Fenced setting number i fence w

end

/-- What a row says about the files, wherever it was read. -/
structure Snapshot (setting : Setting) (alone : Prop) (row : UpdateRow) (low : Stage)
    (files : ReleaseFiles) : Prop where
  currentSha : row.currentSha = setting.currentSha
  targetSha : row.targetSha = setting.targetSha
  generation : 0 < row.activationGeneration → activated ≤ low
  exact : alone → Within setting (span row.state) files

/-- What one reading of the files showed, which they have not gone back from. -/
def Recalls {α : Type} (setting : Setting) (low : Stage) (f : ReleaseFiles → α) (a : α)
    (w : World) : Prop :=
  ∃ stage files, low ≤ stage ∧ Shows setting stage files ∧ f files = a ∧
    Within setting (stage, reversed) w.files

section

variable {fence : ℕ}

theorem Fenced.relies (h : Relies setting number i s t) (hs : Fenced setting number i fence s) :
    Fenced setting number i fence t := by
  have hle := hs.le
  have hst := h.fence
  refine ⟨by omega, fun heq ↦ ?_, fun halone ↦ (h.alone halone).2.trans (hs.alone halone)⟩
  exact (h.holder (by omega)).trans (hs.holder (by omega))

theorem Holds.relies (h : Relies setting number i s t) (hs : Holds setting number i row s) :
    Holds setting number i row t := by
  refine ⟨hs.fenced.relies h, fun heq ↦ ?_⟩
  have hle := hs.fenced.le
  have hst := h.fence
  have hfence : s.fence setting = row.fence := by omega
  exact (hs.drifts hfence).trans (h.drifts (hs.fenced.holder hfence) (by omega))

theorem Seen.relies (h : Relies setting number i s t) (hs : Seen setting Run low files s) :
    Seen setting Run low files t :=
  ⟨hs.reached.advances h.advances, fun halone ↦ (h.alone halone).1.trans (hs.alone halone)⟩

theorem Carried.relies (h : Relies setting number i s t)
    (hs : Carried setting number i row low files s) : Carried setting number i row low files t :=
  ⟨hs.holds.relies h, hs.seen.relies h⟩

theorem Begun.relies (hfiles : files.receipt = setting.files.receipt)
    (h : Relies setting number i s t) (hs : Begun number i files s) : Begun number i files t := by
  obtain ⟨hactivator, hsame⟩ := h.activator hs.activator
  have hreceipt := hsame (by rw [hs.files, hfiles])
  exact ⟨hactivator.trans hs.activator, hreceipt.trans hs.files⟩

theorem Recalls.relies {α : Type} {f : ReleaseFiles → α} {a : α}
    (h : Relies setting number i s t) (hs : Recalls setting low f a s) :
    Recalls setting low f a t := by
  obtain ⟨stage, files, hlow, hshows, hread, hwithin⟩ := hs
  exact ⟨stage, files, hlow, hshows, hread, hwithin.advances h.advances⟩

theorem Recalls.mono {α : Type} {f : ReleaseFiles → α} {a : α} {low' : Stage}
    (h : Recalls setting low f a w) (hle : low' ≤ low) : Recalls setting low' f a w := by
  obtain ⟨stage, files, hlow, hshows⟩ := h
  exact ⟨stage, files, hle.trans hlow, hshows⟩

/-- When one run at a time is under way, the row only drifts. -/
theorem Holds.state (h : Holds setting number i row w) (halone : Subsingleton Run) :
    Drifts row.state (w.state setting) := h.drifts (h.fenced.alone halone)

/-- What the files are does not matter to the claim. -/
theorem Holds.withFiles (h : Holds setting number i row w) (files : ReleaseFiles) :
    Holds setting number i row { w with files := files } :=
  ⟨⟨h.fenced.le, h.fenced.holder, h.fenced.alone⟩, h.drifts⟩

theorem Holds.mono (h : Holds setting number i row w) (hfence : row'.fence = row.fence)
    (hstate : row'.state = row.state) : Holds setting number i row' w := by
  obtain ⟨hfenced, hdrifts⟩ := h
  refine ⟨hfence ▸ hfenced, ?_⟩
  rwa [hfence, hstate]

/-- A row that was just read is held by the run whose fence it has. -/
theorem RowSound.carried (h : RowSound setting (Subsingleton Run) w row)
    (hrow : w.row setting = some row) (hfenced : Fenced setting number i row.fence w) :
    ∃ low, Snapshot setting (Subsingleton Run) row low w.files ∧
      Carried setting number i row low w.files w := by
  have hholds : Holds setting number i row w := by
    refine ⟨hfenced, fun _ ↦ ?_⟩
    rw [World.state_of_row hrow]
    exact .refl _
  by_cases hgeneration : 0 < row.activationGeneration
  · refine ⟨activated, ⟨h.currentSha, h.targetSha, fun _ ↦ le_rfl, h.exact⟩, hholds, ?_⟩
    exact ⟨h.generation hgeneration, fun _ ↦ rfl⟩
  · refine ⟨planned, ⟨h.currentSha, h.targetSha, fun hg ↦ absurd hg hgeneration, h.exact⟩,
      hholds, ?_⟩
    exact ⟨h.loose.any, fun _ ↦ rfl⟩

end

/-! ### Quiet steps and readings -/

variable {α β : Type} {R : World → Prop}

/-- A quiet program keeps what the others do not break. -/
theorem wp_quiet {p : Program α} (hp : IsQuiet setting p)
    (hR : ∀ {s t}, Relies setting number i s t → R s → R t)
    (hw : Sound setting (Subsingleton Run) w ∧ R w) :
    wp (discipline setting number) i p (fun _ w ↦ Sound setting (Subsingleton Run) w ∧ R w)
      (fun _ w ↦ Sound setting (Subsingleton Run) w ∧ R w) w := by
  refine TakesOnly.keeps (D := discipline setting number) (fun h _ hs ↦ hR h hs) ?_ hp w hw
  intro s t h hs hRs
  exact ⟨h.guarantee, hR (h.relies hs i) hRs⟩

theorem wp_quiet_bind {p : Program α} {f : α → Program β} {Q : β → World → Prop}
    {E : String → World → Prop} (hp : IsQuiet setting p)
    (hR : ∀ {s t}, Relies setting number i s t → R s → R t)
    (hw : Sound setting (Subsingleton Run) w ∧ R w)
    (hE : ∀ e w, Sound setting (Subsingleton Run) w ∧ R w → E e w)
    (hf : ∀ a w, Sound setting (Subsingleton Run) w ∧ R w →
      wp (discipline setting number) i (f a) Q E w) :
    wp (discipline setting number) i (p >>= f) Q E w := by
  rw [wp_bind]
  exact wp_mono hf hE (wp_quiet hp hR hw)

/-- The await reads this of the files. -/
def Reads (c : Call) (f : ReleaseFiles → c.Answer) : Prop :=
  ∀ s r t, Performs c s r t → t = s ∧ ∀ a, r = .ok a → f s.files = a

theorem reads_pointer (pointer : Pointer) : Reads (.readPointer pointer) (·.pointer pointer) := by
  intro s r t h
  cases h with
  | readPointer => exact ⟨rfl, fun a ha ↦ Except.ok.inj ha⟩
  | outside _ hc => exact Bool.noConfusion hc
  | fails => exact ⟨rfl, fun a ha ↦ by cases ha⟩

theorem reads_receipt : Reads .readReceipt (·.receipt) := by
  intro s r t h
  cases h with
  | readReceipt => exact ⟨rfl, fun a ha ↦ Except.ok.inj ha⟩
  | outside _ hc => exact Bool.noConfusion hc
  | fails => exact ⟨rfl, fun a ha ↦ by cases ha⟩

/-- An answer that was read of the files. -/
def HasRead {α : Type} (setting : Setting) (Run : Type) (low : Stage) (files : ReleaseFiles)
    (f : ReleaseFiles → α) (a : α) (w : World) : Prop :=
  Recalls setting low f a w ∧ (Subsingleton Run → f files = a)

theorem HasRead.relies {f : ReleaseFiles → α} {a : α} (h : Relies setting number i s t)
    (hs : HasRead setting Run low files f a s) : HasRead setting Run low files f a t :=
  ⟨hs.1.relies h, hs.2⟩

theorem wp_ask_reads {c : Call} {f : ReleaseFiles → c.Answer} (hc : Reads c f)
    (hR : ∀ {s t}, Relies setting number i s t → R s → R t)
    (hw : Sound setting (Subsingleton Run) w ∧ R w) :
    wp (discipline setting number) i (ask c)
      (fun a w ↦ (Sound setting (Subsingleton Run) w ∧ R w) ∧
        ∃ w₀, R w₀ ∧ f w₀.files = a ∧ Relies setting number i w₀ w)
      (fun _ w ↦ Sound setting (Subsingleton Run) w ∧ R w) w := by
  unfold ask
  rw [wp_bind, wp_call]
  intro s₁ hs₁ hsound r s₂ hperform
  have hR₁ := hR hs₁ hw.2
  obtain ⟨rfl, hread⟩ := hc _ _ _ hperform
  refine ⟨(Quiet.refl s₂).guarantee, fun s₃ hs₃ hsound₃ ↦ ?_⟩
  cases r with
  | error e => exact ⟨hsound₃, hR hs₃ hR₁⟩
  | ok a => exact ⟨⟨hsound₃, hR hs₃ hR₁⟩, s₂, hR₁, hread a rfl, hs₃⟩

theorem wp_read_files {c : Call} {f : ReleaseFiles → c.Answer} (hc : Reads c f)
    (hR : ∀ {s t}, Relies setting number i s t → R s → R t)
    (hseen : ∀ w, R w → Seen setting Run low files w)
    (hw : Sound setting (Subsingleton Run) w ∧ R w) :
    wp (discipline setting number) i (ask c)
      (fun a w ↦ (Sound setting (Subsingleton Run) w ∧ R w) ∧
        HasRead setting Run low files f a w)
      (fun _ w ↦ Sound setting (Subsingleton Run) w ∧ R w) w := by
  refine wp_mono ?_ (fun _ _ h ↦ h) (wp_ask_reads hc hR hw)
  rintro a w ⟨hw, w₀, hR₀, hread, hrelies⟩
  refine ⟨hw, HasRead.relies hrelies ⟨?_, fun halone ↦ ?_⟩⟩
  · obtain ⟨stage, hlow, -, hshows⟩ := (hseen w₀ hR₀).reached
    exact ⟨stage, w₀.files, hlow, hshows, hread, hshows.within⟩
  · rw [← (hseen w₀ hR₀).alone halone]
    exact hread

/-! ### Writes of the files -/

/-- The await writes the files, unless it fails. -/
def Writes (c : Call) (g : ReleaseFiles → ReleaseFiles) : Prop :=
  ∀ s r t, Performs c s r t → t = { s with files := g s.files } ∨ (t = s ∧ ∃ e, r = .error e)

theorem writes_pointer (pointer : Pointer) (sha : String) :
    Writes (.renamePointer pointer sha) (·.setPointer pointer sha) := by
  intro s r t h
  cases h with
  | renamePointer => exact .inl rfl
  | outside _ hc => exact Bool.noConfusion hc
  | fails error => exact .inr ⟨rfl, error, rfl⟩

theorem writes_receipt (receipt : ActivationReceipt) :
    Writes (.writeReceipt receipt) (·.setReceipt receipt) := by
  intro s r t h
  cases h with
  | writeReceipt => exact .inl rfl
  | outside _ hc => exact Bool.noConfusion hc
  | fails error => exact .inr ⟨rfl, error, rfl⟩

theorem wp_write_files {c : Call} {g : ReleaseFiles → ReleaseFiles} {T : World → Prop}
    (hc : Writes c g) (hR : ∀ {s t}, Relies setting number i s t → R s → R t)
    (hT : ∀ {s t}, Relies setting number i s t → T s → T t)
    (hw : Sound setting (Subsingleton Run) w ∧ R w)
    (hstep : ∀ s, Sound setting (Subsingleton Run) s → R s →
      (discipline setting number).guarantee i s { s with files := g s.files } ∧
        T { s with files := g s.files }) :
    wp (discipline setting number) i (ask c) (fun _ w ↦ Sound setting (Subsingleton Run) w ∧ T w)
      (fun _ w ↦ Sound setting (Subsingleton Run) w ∧ (R w ∨ T w)) w := by
  unfold ask
  rw [wp_bind, wp_call]
  intro s₁ hs₁ hsound r s₂ hperform
  have hR₁ := hR hs₁ hw.2
  rcases hc _ _ _ hperform with rfl | ⟨rfl, e, rfl⟩
  · obtain ⟨hguarantee, hR₂⟩ := hstep s₁ hsound hR₁
    refine ⟨hguarantee, fun s₃ hs₃ hsound₃ ↦ ?_⟩
    cases r with
    | error e => exact ⟨hsound₃, .inr (hT hs₃ hR₂)⟩
    | ok a => exact ⟨hsound₃, hT hs₃ hR₂⟩
  · exact ⟨(Quiet.refl s₂).guarantee, fun s₃ hs₃ hsound₃ ↦ ⟨hsound₃, .inl (hR hs₃ hR₁)⟩⟩

/-! ### Moves of the request -/

/-- A state that the files allow. -/
structure Fits (setting : Setting) (alone : Prop) (w : World) (target : UpdateState)
    (generation : ℕ) : Prop where
  loose : Within setting (looseSpan target) w.files
  exact : alone → Within setting (span target) w.files
  recorded : 0 < generation → Within setting (activated, reversed) w.files
  untouched : isUntouched target = true → generation = 0 ∧ w.activator = none

theorem RowSound.moved (h : RowSound setting alone s row) {target : UpdateState} {now : Time}
    {fields : MutationFields}
    (hfits : Fits setting alone s target
      (fields.activationGeneration.getD row.activationGeneration))
    (hfiles : t.files = s.files) (hactivator : t.activator = s.activator) :
    RowSound setting alone t (movedRow target now fields row) := by
  refine ⟨h.currentSha, h.targetSha, ?_, ?_, ?_, ?_⟩
  · rw [hfiles]
    exact hfits.loose
  · rw [hfiles]
    exact hfits.exact
  · rw [hfiles]
    exact hfits.recorded
  · rw [hactivator]
    exact hfits.untouched

section

variable (setting) (number) (i)

/-- The run holds this row, which is what the files allow. -/
structure Ready (row : UpdateRow) (low : Stage) (files : ReleaseFiles) (w : World) : Prop where
  sound : Sound setting (Subsingleton Run) w
  snapshot : Snapshot setting (Subsingleton Run) row low files
  carried : Carried setting number i row low files w

end

theorem Ready.ends (h : Ready setting number i row low files w) :
    Ends setting number i row.fence w := ⟨h.sound, h.carried.holds.fenced⟩

/-- A transaction under the fence of the held row, which leaves the request in another row. -/
theorem wp_held {f : Time → UpdateDb → Except String (α × UpdateDb)} {Q : α → World → Prop}
    {E : String → World → Prop} (hs : Sound setting (Subsingleton Run) w)
    (hw : Fenced setting number i row.fence w) (hE : ∀ e, E e w)
    (hf : ∀ a db r, f w.now w.db = .ok (a, db) → w.row setting = some r →
      RowSound setting (Subsingleton Run) w r →
        ∃ r', r.fence = row.fence ∧ w.db.Rewrites setting.requestId r' db ∧ r'.fence = r.fence ∧
          (number i = 0 ∨ (isStarted r.state = false → isStarted r'.state = false)) ∧
          RowSound setting (Subsingleton Run) { w with db := db } r' ∧
          ((Ends setting number i row.fence { w with db := db }) →
            World.row setting { w with db := db } = some r' → Q a { w with db := db })) :
    wp (discipline setting number) i (database f) Q E w := by
  refine wp_transact (fun a t h ↦ ?_) fun e _ ↦ hE e
  simp only [bind_eq_ok, Except.ok.injEq, Prod.mk.injEq, Prod.exists] at h
  obtain ⟨_, db, hok, rfl, rfl⟩ := h
  obtain ⟨r, hr, hsound⟩ := hs
  obtain ⟨r', hfence, hrewrites, hfence', hloop, hsound', hQ⟩ := hf _ db r hok hr hsound
  have hr' : World.row setting { w with db := db } = some r' := by
    rw [World.row, hrewrites, if_pos rfl]
  have hheld : w.fence setting = row.fence := by rw [World.fence_of_row hr, hfence]
  have hnew : World.fence setting { w with db := db } = row.fence := by
    rw [World.fence_of_row hr', hfence', hfence]
  have hguarantee : (discipline setting number).guarantee i w { w with db := db } :=
    guarantee_move hr hr' rfl (.inl rfl) (.inl ⟨hfence', rfl, hw.holder hheld⟩) hloop
      fun _ ↦ hsound'
  refine ⟨hguarantee, hQ ⟨⟨r', hr', hsound'⟩, ?_⟩ hr'⟩
  exact ⟨Nat.le_of_eq hnew.symm, fun _ ↦ hw.holder hheld, fun _ ↦ hnew⟩

/-- The request is completed in a state that the files allow. -/
theorem wp_complete {target : TerminalState} {fields : MutationFields}
    (hs : Sound setting (Subsingleton Run) w) (hw : Holds setting number i row w)
    (hfits : ∀ r, w.row setting = some r → RowSound setting (Subsingleton Run) w r →
      Drifts row.state r.state → (r.state = target.1 ∨ r.state.canTransition target.1 = true) →
        Fits setting (Subsingleton Run) w target.1
          (fields.activationGeneration.getD r.activationGeneration)) :
    wp (discipline setting number) i (complete setting.requestId row target fields)
      (fun _ ↦ Ends setting number i row.fence) (fun _ ↦ Ends setting number i row.fence) w := by
  refine wp_held hs hw.fenced (fun e ↦ ⟨hs, hw.fenced⟩) fun a db r hok hr hsound ↦ ?_
  simp only [bind_eq_ok, Except.ok.injEq, Prod.mk.injEq, Prod.exists] at hok
  obtain ⟨_, _, hterminal, -, rfl⟩ := hok
  obtain ⟨r₀, fields', hr₀, hfence, hmove, hfields, hrewrites⟩ := terminal_spec hterminal
  obtain rfl := Option.some.inj (hr.symm.trans hr₀)
  have hdrifts : Drifts row.state r.state := by
    rw [← World.state_of_row hr]
    exact hw.drifts (by rw [World.fence_of_row hr, hfence])
  refine ⟨_, hfence, hrewrites, rfl, .inr fun _ ↦ ?_, ?_, fun hends _ ↦ hends⟩
  · exact not_isStarted_of_isTerminal target.2
  · refine hsound.moved ?_ rfl rfl
    rw [hfields]
    exact hfits r hr hsound hdrifts hmove

/-- The request moves to a state that the files allow. -/
theorem wp_transition {target : UpdateState} {fields : MutationFields}
    (hs : Sound setting (Subsingleton Run) w) (hw : Holds setting number i row w)
    (hloop : number i = 0 ∨ ∀ state : UpdateState,
      (state = target ∨ state.canTransition target = true) → isStarted state = false →
        isStarted target = false)
    (hfits : ∀ r, w.row setting = some r → RowSound setting (Subsingleton Run) w r →
      Drifts row.state r.state → (r.state = target ∨ r.state.canTransition target = true) →
        Fits setting (Subsingleton Run) w target
          (fields.activationGeneration.getD r.activationGeneration)) :
    wp (discipline setting number) i (transition setting.requestId row target fields)
      (fun row' w' ↦ (∃ low, Ready setting number i row' low w.files w') ∧
        row'.state = target ∧ row'.fence = row.fence)
      (fun _ ↦ Ends setting number i row.fence) w := by
  refine wp_held hs hw.fenced (fun e ↦ ⟨hs, hw.fenced⟩) fun row' db r hok hr hsound ↦ ?_
  simp only [withRow, bind_eq_ok, getRequired_eq_ok, Except.ok.injEq, Prod.mk.injEq,
    Prod.exists] at hok
  obtain ⟨_, db', htransition, _, hrow', rfl, rfl⟩ := hok
  obtain ⟨r₀, hr₀, hfence, hmove, hrewrites⟩ := transition_spec htransition
  obtain rfl := Option.some.inj (hr.symm.trans hr₀)
  have hdrifts : Drifts row.state r.state := by
    rw [← World.state_of_row hr]
    exact hw.drifts (by rw [World.fence_of_row hr, hfence])
  have hmoved := hrewrites setting.requestId
  rw [hrow', if_pos rfl, Option.some.injEq] at hmoved
  subst hmoved
  have hsound' : RowSound setting (Subsingleton Run) { w with db := db' }
      (movedRow target w.now fields r) :=
    hsound.moved (hfits r hr hsound hdrifts hmove) rfl rfl
  refine ⟨_, hfence, hrewrites, rfl, hloop.imp_right fun h ↦ h r.state hmove, hsound',
    fun hends hnew ↦ ⟨?_, rfl, hfence⟩⟩
  obtain ⟨low, hsnapshot, hcarried⟩ := hsound'.carried hnew (hfence.symm ▸ hends.fenced)
  exact ⟨low, hends.sound, hsnapshot, hcarried⟩

/-- The generation of a switch that is done. -/
theorem wp_recordActivationGeneration {generation : ℕ} (hs : Sound setting (Subsingleton Run) w)
    (hw : Holds setting number i row w) (hwithin : Within setting (activated, reversed) w.files) :
    wp (discipline setting number) i
      (recordActivationGeneration setting.requestId row generation)
      (fun _ w' ↦ Sound setting (Subsingleton Run) w' ∧ Holds setting number i row w' ∧
        w'.files = w.files)
      (fun _ ↦ Ends setting number i row.fence) w := by
  refine wp_held hs hw.fenced (fun e ↦ ⟨hs, hw.fenced⟩) fun _ db r hok hr hsound ↦ ?_
  obtain ⟨r₀, hr₀, hfence, -, hrewrites, -⟩ := updateFencedOrThrow_spec hok
  obtain rfl := Option.some.inj (hr.symm.trans hr₀)
  refine ⟨_, hfence, hrewrites, rfl, .inr fun h ↦ h, ?_, fun hends hnew ↦ ?_⟩
  · refine ⟨hsound.currentSha, hsound.targetSha, hsound.loose, hsound.exact, fun _ ↦ hwithin, ?_⟩
    intro huntouched
    have hmay : MayWrite setting (number i) w := .inr hwithin
    have htouched := hmay.not_untouched hsound
    rw [htouched] at huntouched
    contradiction
  · refine ⟨hends.sound, ⟨hends.fenced, fun _ ↦ ?_⟩, rfl⟩
    rw [World.state_of_row hnew]
    have hdrifts := hw.drifts (by rw [World.fence_of_row hr, hfence])
    rwa [World.state_of_row hr] at hdrifts

/-- A transaction that hands this run a new claim, or none. -/
theorem wp_claiming {hands : α → Bool} {f : Time → UpdateDb → Except String (α × UpdateDb)}
    {Q : α → World → Prop} {E : String → World → Prop} (hs : Sound setting (Subsingleton Run) w)
    (hE : ∀ e, E e w)
    (hf : ∀ a db r, f w.now w.db = .ok (a, db) → w.row setting = some r →
      RowSound setting (Subsingleton Run) w r →
        (hands a = false ∧ db = w.db ∧ Q a w) ∨
          (hands a = true ∧ ∃ r', w.db.Rewrites setting.requestId r' db ∧
            r'.fence = r.fence + 1 ∧ (isStarted r.state = false → isStarted r'.state = false) ∧
            RowSound setting (Subsingleton Run) w r' ∧
            ∀ w' : World, w'.files = w.files → Sound setting (Subsingleton Run) w' →
              w'.row setting = some r' → Fenced setting number i r'.fence w' → Q a w')) :
    wp (discipline setting number) i (claiming (number i) hands f) Q E w := by
  refine wp_transact (fun a t h ↦ ?_) fun e _ ↦ hE e
  simp only [bind_eq_ok, Except.ok.injEq, Prod.mk.injEq, Prod.exists] at h
  obtain ⟨_, db, hok, rfl, rfl⟩ := h
  obtain ⟨r, hr, hsound⟩ := hs
  rcases hf _ db r hok hr hsound with ⟨hhands, rfl, hQ⟩ | ⟨hhands, r', hrewrites, hfence, hloop,
    hsound', hQ⟩
  · rw [hhands]
    exact ⟨(Quiet.refl w).guarantee, hQ⟩
  · rw [hhands]
    have hr' : World.row setting { w with db := db, holder := some (number i) } = some r' := by
      rw [World.row, hrewrites, if_pos rfl]
    have hmoved : RowSound setting (Subsingleton Run)
        { w with db := db, holder := some (number i) } r' :=
      ⟨hsound'.currentSha, hsound'.targetSha, hsound'.loose, hsound'.exact, hsound'.generation,
        hsound'.untouched⟩
    have hnew := World.fence_of_row hr'
    refine ⟨guarantee_move hr hr' rfl (.inl rfl) (.inr (by omega)) (.inr hloop) fun _ ↦ hmoved,
      hQ _ rfl ⟨r', hr', hmoved⟩ hr' ?_⟩
    exact ⟨Nat.le_of_eq hnew.symm, fun _ ↦ rfl, fun _ ↦ hnew⟩

/-! ### Quiet parts of a run that holds the request -/

theorem Carried.ends (hs : Sound setting (Subsingleton Run) w)
    (h : Carried setting number i row low files w) : Ends setting number i row.fence w :=
  ⟨hs, h.holds.fenced⟩

theorem wp_carried {p : Program α}
    (hw : Sound setting (Subsingleton Run) w ∧ Carried setting number i row low files w)
    (hp : IsQuiet setting p) :
    wp (discipline setting number) i p
      (fun _ w ↦ Sound setting (Subsingleton Run) w ∧ Carried setting number i row low files w)
      (fun _ ↦ Ends setting number i row.fence) w :=
  wp_mono (fun _ _ h ↦ h) (fun _ _ h ↦ h.2.ends h.1) (wp_quiet hp Carried.relies hw)

theorem wp_carried_bind {p : Program α} {f : α → Program β} {Q : β → World → Prop}
    (hw : Sound setting (Subsingleton Run) w ∧ Carried setting number i row low files w)
    (hp : IsQuiet setting p)
    (hf : ∀ a w, Sound setting (Subsingleton Run) w ∧ Carried setting number i row low files w →
      wp (discipline setting number) i (f a) Q (fun _ ↦ Ends setting number i row.fence) w) :
    wp (discipline setting number) i (p >>= f) Q (fun _ ↦ Ends setting number i row.fence) w :=
  wp_bind.mpr (wp_mono hf (fun _ _ h ↦ h) (wp_carried hw hp))

theorem wp_carried_end {p : Program α}
    (hw : Sound setting (Subsingleton Run) w ∧ Carried setting number i row low files w)
    (hp : IsQuiet setting p) :
    wp (discipline setting number) i p (fun _ ↦ Ends setting number i row.fence)
      (fun _ ↦ Ends setting number i row.fence) w :=
  wp_mono (fun _ _ h ↦ h.2.ends h.1) (fun _ _ h ↦ h) (wp_carried hw hp)

/-- Nothing is handed on where the run ends. -/
theorem wp_none {fence : ℕ} {p : Program β} {P : α → World → Prop}
    (h : wp (discipline setting number) i p (fun _ ↦ Ends setting number i fence)
      (fun _ ↦ Ends setting number i fence) w) :
    wp (discipline setting number) i (p >>= fun _ ↦ pure none)
      (fun a w ↦ Ends setting number i fence w ∧ ∀ b, a = some b → P b w)
      (fun _ ↦ Ends setting number i fence) w :=
  wp_bind.mpr (wp_mono (fun _ _ hw ↦ ⟨hw, fun _ hb ↦ by cases hb⟩) (fun _ _ hw ↦ hw) h)

end

end Dona.UpdateController
