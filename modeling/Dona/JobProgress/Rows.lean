import Dona.JobProgress.Store

/-!
# What the store does to a row

No update lowers a sequence. A row leaves `unknown` only by a requeue, and a row under delivery
stays so in all updates but those that settle it.
-/

namespace Dona.JobProgress

/-- A row may leave `unknown` when its job is freed, and `delivering` when it is taken. -/
structure RowStep (freed taken : JobId → Prop) (jobId : JobId) (row row' : ProgressRow) : Prop where
  sequence : row.sequence ≤ row'.sequence
  unknown : row.status = .unknown → row'.status = .unknown ∨ freed jobId
  delivering : row.status = .delivering → row'.status = .delivering ∨ taken jobId

variable {freed freed' taken taken' : JobId → Prop} {jobId : JobId} {row row' : ProgressRow}

theorem RowStep.refl (jobId : JobId) (row : ProgressRow) : RowStep freed taken jobId row row where
  sequence := le_rfl
  unknown h := .inl h
  delivering h := .inl h

theorem RowStep.trans {row'' : ProgressRow} (h : RowStep freed taken jobId row row')
    (h' : RowStep freed taken jobId row' row'') : RowStep freed taken jobId row row'' where
  sequence := h.sequence.trans h'.sequence
  unknown hrow := (h.unknown hrow).elim h'.unknown .inr
  delivering hrow := (h.delivering hrow).elim h'.delivering .inr

theorem RowStep.mono (h : RowStep freed taken jobId row row') (hfreed : ∀ j, freed j → freed' j)
    (htaken : ∀ j, taken j → taken' j) : RowStep freed' taken' jobId row row' where
  sequence := h.sequence
  unknown hrow := (h.unknown hrow).imp_right (hfreed jobId)
  delivering hrow := (h.delivering hrow).imp_right (htaken jobId)

/-- An update that keeps the sequence, of a row that is neither unknown nor under delivery. -/
theorem RowStep.of_free (hsequence : row.sequence ≤ row'.sequence)
    (hunknown : row.status ≠ .unknown) (hdelivering : row.status ≠ .delivering) :
    RowStep freed taken jobId row row' where
  sequence := hsequence
  unknown h := absurd h hunknown
  delivering h := absurd h hdelivering

/-- The rows of the store step, and none goes away. -/
def Store.Steps (freed taken : JobId → Prop) (s t : Store) : Prop :=
  Table.Extends (RowStep freed taken) s.rows t.rows

namespace Store

variable {s t u : Store}

theorem Steps.refl (s : Store) : Steps freed taken s s := Table.Extends.refl RowStep.refl s.rows

theorem Steps.trans (h : Steps freed taken s t) (h' : Steps freed taken t u) :
    Steps freed taken s u := h.comp h' RowStep.trans

theorem Steps.mono (h : Steps freed taken s t) (hfreed : ∀ j, freed j → freed' j)
    (htaken : ∀ j, taken j → taken' j) : Steps freed' taken' s t :=
  Table.Extends.mono (fun hrow ↦ hrow.mono hfreed htaken) h

/-! ### Statements -/

@[simp] theorem get_update (s : Store) (jobId other : JobId) (p : ProgressRow → Bool)
    (f : ProgressRow → ProgressRow) :
    (s.update jobId p f).get other =
      (s.get other).map fun row ↦ if other = jobId ∧ p row = true then f row else row := by
  simp [Store.update, updateWhere, Store.get]

theorem get_update_of_ne {other : JobId} (h : other ≠ jobId) (s : Store) (p : ProgressRow → Bool)
    (f : ProgressRow → ProgressRow) : (s.update jobId p f).get other = s.get other := by
  simp [h]

theorem steps_updateWhere {p : JobId → ProgressRow → Bool} {f : ProgressRow → ProgressRow}
    (h : ∀ j row, s.get j = some row → p j row = true → RowStep freed taken j row (f row)) :
    Steps freed taken s (s.updateWhere p f) := by
  refine Table.Evolves.extends (Table.evolves_updateWhere fun j row hrow ↦ ?_)
  split_ifs with hp
  · exact h j row hrow hp
  · exact RowStep.refl j row

theorem steps_update {p : ProgressRow → Bool} {f : ProgressRow → ProgressRow}
    (h : ∀ row, s.get jobId = some row → p row = true → RowStep freed taken jobId row (f row)) :
    Steps freed taken s (s.update jobId p f) := by
  refine steps_updateWhere fun j row hrow hp ↦ ?_
  simp only [Bool.and_eq_true, decide_eq_true_eq] at hp
  obtain ⟨rfl, hp⟩ := hp
  exact h row hrow hp

theorem steps_upsert {p : ProgressRow → Bool} {f : ProgressRow → ProgressRow}
    (h : ∀ row, p row = true → RowStep freed taken jobId row (f row)) :
    Steps freed taken s (s.upsert jobId row p f) := by
  unfold upsert
  split
  · rename_i rows hrows
    exact Table.extends_insert? RowStep.refl hrows
  · exact steps_update fun old _ hold ↦ h old hold

/-! ### Operations -/

theorem steps_begin : Steps freed taken s (s.begin jobId) :=
  steps_update fun row _ hrow ↦ by
    have hstatus : row.status = .pending := by simpa using hrow
    exact .of_free le_rfl (by simp [hstatus]) (by simp [hstatus])

/-- An update of a row under delivery takes it. -/
theorem steps_settle {f : ProgressRow → ProgressRow} (hf : ∀ row, (f row).sequence = row.sequence) :
    Steps freed (· = jobId) s (s.update jobId (·.status = .delivering) f) :=
  steps_update fun row _ hrow ↦ by
    have hstatus : row.status = .delivering := by simpa using hrow
    exact ⟨(hf row).ge, fun h ↦ by simp [hstatus] at h, fun _ ↦ .inr rfl⟩

theorem steps_recoverDeliveries : Steps freed (fun _ ↦ True) s s.recoverDeliveries :=
  steps_updateWhere fun j row _ hrow ↦ by
    have hstatus : row.status = .delivering := by simpa using hrow
    exact ⟨le_rfl, fun h ↦ by simp [hstatus] at h, fun _ ↦ .inr trivial⟩

theorem steps_ingest (progress : JobProgressEnvelope) (now : Int) :
    Steps freed taken s (s.ingest progress now).2 := by
  simp only [ingest]
  split_ifs with hold hsame
  · exact .refl s
  · refine steps_update fun row hrow hstatus ↦ ?_
    obtain ⟨hdelivering, hunknown⟩ : row.status ≠ .delivering ∧ row.status ≠ .unknown := by
      simpa using hstatus
    have hsequence : row.sequence < progress.sequence := by simpa [hrow] using hold
    exact .of_free hsequence.le hunknown hdelivering
  · refine steps_upsert fun row hrow ↦ ?_
    obtain ⟨hsequence, hunknown, hdelivering⟩ : row.sequence < progress.sequence ∧
        row.status ≠ .unknown ∧ row.status ≠ .delivering := by simpa using hrow
    exact .of_free hsequence.le hunknown hdelivering

theorem steps_deferJobs (jobIds : List JobId) (availableAt : Int) :
    Steps freed taken s (s.deferJobs jobIds availableAt) :=
  steps_updateWhere fun _ _ _ _ ↦ ⟨le_rfl, .inl, .inl⟩

theorem rows_deferWorkspace (s : Store) (workspaceId : String) (availableAt : Int) :
    (s.deferWorkspace workspaceId availableAt).rows = s.rows := by
  unfold deferWorkspace
  split <;> rfl

theorem steps_terminal : Steps freed (· = jobId) s (s.terminal jobId) := by
  have htaken : Steps freed (· = jobId) s (s.update jobId (·.status = .delivering) fun row ↦
      { row with
        status := .unknown
        lastError := some "job terminated during delivery" }) := steps_settle fun _ ↦ rfl
  refine htaken.trans (steps_update fun row _ hrow ↦ ?_)
  have hstatus : row.status = .pending := by simpa using hrow
  exact .of_free le_rfl (by simp [hstatus]) (by simp [hstatus])

theorem steps_markTerminalChecked (now : Int) :
    Steps freed taken s (s.markTerminalChecked jobId now) :=
  steps_upsert fun _ _ ↦ ⟨le_rfl, .inl, .inl⟩

theorem steps_requeueLatest (jobIds : List JobId) (now : Int) :
    Steps freed taken s (s.requeueLatest jobIds now).2 := by
  unfold requeueLatest
  split
  · refine steps_update fun row _ hrow ↦ ?_
    have hstatus : row.status = .delivered := by simpa using hrow
    exact .of_free le_rfl (by simp [hstatus]) (by simp [hstatus])
  · exact .refl s

theorem steps_queuePreparing (now : Int) :
    Steps (· = jobId) taken s (s.queuePreparing jobId now) :=
  steps_upsert fun row hrow ↦ by
    have hstatus : row.status = .unknown := by simpa using hrow
    exact ⟨le_rfl, fun _ ↦ .inr rfl, fun h ↦ by simp [hstatus] at h⟩

theorem steps_requeue (jobIds : List JobId) (now : Int) :
    Steps (· ∈ jobIds) taken s (s.requeue jobIds now) := by
  unfold requeue
  split
  · exact .refl s
  · rename_i first rest
    split_ifs
    · exact .refl s
    · have hlatest : Steps (· ∈ first :: rest) taken s (s.requeueLatest (first :: rest) now).2 :=
        steps_requeueLatest _ now
      split
      · rename_i t ht
        rwa [ht] at hlatest
      · rename_i t ht
        rw [ht] at hlatest
        have hfirst : ∀ j, j = first → j ∈ first :: rest := by
          rintro j rfl
          exact List.mem_cons_self
        have hpreparing : Steps (· = first) taken t (t.queuePreparing first now) :=
          steps_queuePreparing now
        exact hlatest.trans (hpreparing.mono hfirst fun _ h ↦ h)

theorem steps_requeueLatestAndMarkTerminal (jobIds : List JobId) (now : Int) :
    Steps (· ∈ jobIds) taken s (s.requeueLatestAndMarkTerminal jobId jobIds now) :=
  (steps_requeue jobIds now).trans (steps_markTerminalChecked now)

end Store

end Dona.JobProgress
