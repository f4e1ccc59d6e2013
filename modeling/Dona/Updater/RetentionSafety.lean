import Dona.Updater.DiagnosticLogs

/-!
# No log is lost from the index

A row gives up the reference to its file only when the file is off the disk: in every state of
every run of passes, whatever fails and whenever a crash comes, a file belongs to a row.
-/

namespace Dona.Updater

open Fallible Coroutine

theorem reference_injective : Function.Injective reference := by
  intro a b h
  have hlist := congrArg String.toList h
  simp only [reference, String.toList_append] at hlist
  exact String.toList_injective (List.append_cancel_left (List.append_cancel_right hlist))

namespace LogStore

variable {s t : LogStore} {path : String} {logId : LogId} {now : Time}

/-! ### The directory -/

theorem Flushes.refl (s : LogStore) : s.Flushes s := ⟨rfl, rfl, rfl, fun _ ↦ .inl rfl⟩

theorem Flushes.trans {u : LogStore} (h : s.Flushes t) (h' : t.Flushes u) : s.Flushes u where
  completedAt := h'.completedAt.trans h.completedAt
  logs := h'.logs.trans h.logs
  entries := h'.entries.trans h.entries
  disk path := by
    rcases h'.disk path with hdisk | hdisk
    · rw [hdisk]
      exact h.disk path
    · rw [hdisk, h.entries]
      exact .inr rfl

theorem Consistent.of_disk (h : s.Consistent) (hlogs : t.logs = s.logs)
    (hwritten : ∀ path file, t.entries path = some file → t.disk path = some file)
    (hdisk : ∀ path, t.disk path = s.disk path ∨ t.disk path = s.entries path ∨
      t.disk path = none) : t.Consistent where
  written := hwritten
  referenced path file hfile := by
    rw [hlogs]
    rcases hdisk path with hsame | hsame | hnone
    · exact h.referenced path file (hsame ▸ hfile)
    · exact h.referenced path file (h.written path file (hsame ▸ hfile))
    · rw [hnone] at hfile
      cases hfile
  references := hlogs ▸ h.references
  purged := hlogs ▸ h.purged

theorem Flushes.consistent (hflush : s.Flushes t) (h : s.Consistent) : t.Consistent := by
  refine h.of_disk hflush.logs ?_ fun path ↦ (hflush.disk path).imp_right .inl
  intro path file hfile
  rw [hflush.entries] at hfile
  rcases hflush.disk path with hdisk | hdisk
  · exact hdisk.trans (h.written path file hfile)
  · exact hdisk.trans hfile

theorem Crashes.consistent (hcrash : s.Crashes t) (h : s.Consistent) : t.Consistent := by
  have hentries : ∀ path file, t.entries path = some file → s.disk path = some file := by
    intro path file hfile
    rcases hcrash.entries path with hsame | hsame
    · exact h.written path file (hsame ▸ hfile)
    · exact hsame ▸ hfile
  refine h.of_disk hcrash.logs ?_ ?_
  · intro path file hfile
    rcases hcrash.disk path with hdisk | hdisk
    · exact hdisk.trans hfile
    · exact hdisk.trans (hentries path file hfile)
  · intro path
    rcases hcrash.disk path with hdisk | hdisk
    · rcases hcrash.entries path with hsame | hsame
      · exact .inr (.inl (hdisk.trans hsame))
      · exact .inl (hdisk.trans hsame)
    · exact .inl hdisk

/-- An entry is removed. -/
def unlinked (s : LogStore) (path : String) : LogStore :=
  { s with entries := Function.update s.entries path none }

theorem Consistent.unlinked (h : s.Consistent) (path : String) : (s.unlinked path).Consistent := by
  refine h.of_disk rfl ?_ fun _ ↦ .inl rfl
  intro other file hfile
  by_cases hother : other = path
  · subst hother
    simp [LogStore.unlinked] at hfile
  · simp only [LogStore.unlinked, Function.update_of_ne hother] at hfile
    exact h.written other file hfile

/-- The directory is synced. -/
def synced (s : LogStore) : LogStore := { s with disk := s.entries }

theorem Consistent.synced (h : s.Consistent) : s.synced.Consistent :=
  h.of_disk rfl (fun _ _ hfile ↦ hfile) fun _ ↦ .inr (.inl rfl)

/-! ### The index -/

/-- The references that the rows had, as far as they are not given up. -/
def KeepsReferences (entries : List (LogId × DiagnosticLogRow)) (s : LogStore) : Prop :=
  ∀ entry ∈ entries, ∀ row, s.logs.get? entry.1 = some row →
    row.relativeRef = entry.2.relativeRef ∨ row.relativeRef = none

theorem markDiagnosticPurged_eq_ok {u : Unit}
    (h : s.markDiagnosticPurged logId now = .ok (u, t)) :
    t = { s with logs := s.logs.updateWhere (isPurgeable logId) (purgeRow now) } := by
  simp only [markDiagnosticPurged, throwIf_bind_eq_ok, Except.ok.injEq, Prod.mk.injEq] at h
  exact h.2.2.symm

/-- A row after the statement: it is the old one, or it was this row and is purged. -/
theorem get?_purged {row' : DiagnosticLogRow} {id : LogId}
    (h : (s.logs.updateWhere (isPurgeable logId) (purgeRow now)).get? id = some row') :
    ∃ row, s.logs.get? id = some row ∧
      (row' = row ∨ (id = logId ∧ row.captureState.isFinished = true ∧ row' = purgeRow now row)) := by
  rw [Table.get?_updateWhere, Option.map_eq_some_iff] at h
  obtain ⟨row, hrow, rfl⟩ := h
  refine ⟨row, hrow, ?_⟩
  split_ifs with hp
  · simp only [isPurgeable, decide_eq_true_eq] at hp
    exact .inr ⟨hp.1, hp.2, rfl⟩
  · exact .inl rfl

theorem mem_diagnosticRetentionLogs {entry : LogId × DiagnosticLogRow} :
    entry ∈ s.diagnosticRetentionLogs ↔
      s.logs.get? entry.1 = some entry.2 ∧ s.isRetained entry.2 = true := by
  rw [diagnosticRetentionLogs, List.mem_insertionSort]
  exact Table.mem_select_iff

theorem mem_of_removable {cutoff : Time} {limit retained : ℕ}
    {rows : List (LogId × DiagnosticLogRow)} {entry : LogId × DiagnosticLogRow}
    (h : entry ∈ removable cutoff limit retained rows) : entry ∈ rows := by
  induction rows generalizing retained with
  | nil => cases h
  | cons head rest ih =>
      rw [removable] at h
      split_ifs at h
      · rcases List.mem_cons.mp h with rfl | hrest
        · exact List.mem_cons_self
        · exact List.mem_cons_of_mem _ (ih hrest)
      · exact List.mem_cons_of_mem _ (ih h)

theorem mem_candidates {cutoff : Time} {limit : ℕ} {entry : LogId × DiagnosticLogRow} :
    entry ∈ s.diagnosticRetentionCandidates cutoff limit ↔
      entry ∈ removable cutoff limit 0 s.diagnosticRetentionLogs := by
  rw [diagnosticRetentionCandidates, List.mem_insertionSort]

theorem mem_retentionLogs_of_candidate {cutoff : Time} {limit : ℕ}
    {entry : LogId × DiagnosticLogRow}
    (h : entry ∈ s.diagnosticRetentionCandidates cutoff limit) :
    entry ∈ s.diagnosticRetentionLogs := mem_of_removable (mem_candidates.mp h)

/-- A row whose file is off the disk, or that has none, can give up its reference. -/
theorem Consistent.purge (h : s.Consistent)
    (hfile : s.disk (reference logId) = none ∨
      ∀ row, s.logs.get? logId = some row → row.relativeRef = none) :
    ({ s with logs := s.logs.updateWhere (isPurgeable logId) (purgeRow now) } :
      LogStore).Consistent where
  written := h.written
  referenced path file hdisk := by
    obtain ⟨id, row, hrow, hreference⟩ := h.referenced path file hdisk
    have hne : isPurgeable logId id row = false := by
      simp only [isPurgeable, decide_eq_false_iff_not, not_and]
      rintro rfl -
      rcases hfile with hnone | hrows
      · rcases (h.references id row hrow).2 with hno | hsome
        · rw [hno] at hreference
          cases hreference
        · rw [hsome] at hreference
          rw [← Option.some.inj hreference, hnone] at hdisk
          cases hdisk
      · rw [hrows row hrow] at hreference
        cases hreference
    refine ⟨id, row, ?_, hreference⟩
    rw [Table.get?_updateWhere, hrow, Option.map_some, hne, if_neg Bool.false_ne_true]
  references id row' hrow' := by
    obtain ⟨row, hrow, rfl | ⟨-, -, rfl⟩⟩ := get?_purged hrow'
    · exact h.references id row' hrow
    · exact ⟨(h.references id row hrow).1, .inl rfl⟩
  purged id row' hrow' hstate := by
    obtain ⟨row, hrow, rfl | ⟨-, -, rfl⟩⟩ := get?_purged hrow'
    · exact h.purged id row' hrow hstate
    · rfl

theorem KeepsReferences.purge {entries : List (LogId × DiagnosticLogRow)}
    (h : s.KeepsReferences entries) :
    ({ s with logs := s.logs.updateWhere (isPurgeable logId) (purgeRow now) } :
      LogStore).KeepsReferences entries := by
  intro entry hentry row' hrow'
  obtain ⟨row, hrow, rfl | ⟨-, -, rfl⟩⟩ := get?_purged hrow'
  · exact h entry hentry row' hrow
  · exact .inr rfl

end LogStore

/-! ### The discipline of a pass -/

/-- Only a crash and the writing of removals come between the steps of a pass. -/
def discipline : Interference LogStore FsCall.Reply Unit :=
  .ofRely FsCall.Performs LogStore.Consistent (fun _ ↦ LogStore.Flushes)
    (fun _ ↦ LogStore.Flushes.refl) LogStore.Flushes.trans

theorem guarantee_of_consistent {s t : LogStore} (h : t.Consistent) :
    discipline.guarantee () s t := fun _ ↦ ⟨h, fun _ hj ↦ absurd rfl hj⟩

/-- What holds between two steps of a pass over these entries. -/
def Between (entries : List (LogId × DiagnosticLogRow)) (s : LogStore) : Prop :=
  s.Consistent ∧ s.KeepsReferences entries

section Steps

variable {entries : List (LogId × DiagnosticLogRow)} {s t : LogStore} {path : String}
  {logId : LogId} {now : Time} {row : DiagnosticLogRow}

theorem Between.flushes (h : Between entries s) (hflush : s.Flushes t) : Between entries t := by
  refine ⟨hflush.consistent h.1, ?_⟩
  intro entry hentry row hrow
  rw [hflush.logs] at hrow
  exact h.2 entry hentry row hrow

/-- A call: what it does at once, and what the writing of removals leaves of it. -/
theorem wp_fs {call : FsCall} {Q : call.Value → LogStore → Prop}
    {E : RetentionError → LogStore → Prop}
    (h : ∀ s₁ reply t, s.Flushes s₁ → s₁.Consistent → call.Performs s₁ reply t →
      t.Consistent ∧ ∀ u, t.Flushes u → (∀ value, reply = .ok value → Q value u) ∧
        ∀ error, reply = .error error → E (.fs error) u) :
    wp discipline () (fs call) Q E s := by
  rw [fs, wp_bind, wp_call]
  intro s₁ hs₁ hconsistent reply t ht
  obtain ⟨hnext, hpost⟩ := h s₁ reply t hs₁ hconsistent ht
  refine ⟨guarantee_of_consistent hnext, fun u hu _ ↦ ?_⟩
  cases hreply : reply with
  | ok value => exact (hpost u hu).1 value hreply
  | error error => exact (hpost u hu).2 error hreply

/-- A call that changes nothing. -/
theorem wp_fs_examine {call : FsCall} {Q : call.Value → LogStore → Prop}
    {E : RetentionError → LogStore → Prop} (hs : Between entries s)
    (hsame : ∀ s reply t, call.Performs s reply t → t = s)
    (hQ : ∀ value u, Between entries u → Q value u)
    (hE : ∀ error u v, Between entries u → call.Performs v (.error error) v → v.Flushes u →
      E (.fs error) u) : wp discipline () (fs call) Q E s := by
  apply wp_fs
  intro s₁ reply t hs₁ hconsistent ht
  obtain rfl := hsame s₁ reply t ht
  refine ⟨hconsistent, fun u hu ↦ ?_⟩
  have hbetween := (hs.flushes hs₁).flushes hu
  constructor
  · intro value _
    exact hQ value u hbetween
  · rintro error rfl
    exact hE error u t hbetween ht hu

theorem performs_lstat {reply : (FsCall.lstat path).Reply}
    (h : (FsCall.lstat path).Performs s reply t) :
    t = s ∧ (reply = .error .missing → s.entries path = none) := by
  rcases h with h | h
  · simp only [FsCall.Succeeds, FsCall.answer] at h
    split at h
    · obtain ⟨rfl, rfl⟩ := Prod.mk.inj h
      exact ⟨rfl, fun hreply ↦ by cases hreply⟩
    · rename_i hnone
      obtain ⟨rfl, rfl⟩ := Prod.mk.inj h
      exact ⟨rfl, fun _ ↦ hnone⟩
  · cases h
    exact ⟨rfl, fun hreply ↦ by cases hreply⟩

theorem performs_digest {reply : (FsCall.digest path).Reply}
    (h : (FsCall.digest path).Performs s reply t) : t = s := by
  rcases h with h | h
  · simp only [FsCall.Succeeds, FsCall.answer] at h
    split at h <;> exact (Prod.mk.inj h).2.symm
  · cases h
    rfl

theorem performs_assertPrivateDirectories {reply : FsCall.assertPrivateDirectories.Reply}
    (h : FsCall.assertPrivateDirectories.Performs s reply t) :
    t = s ∧ reply ≠ .error .missing := by
  rcases h with h | h
  · obtain ⟨rfl, rfl⟩ := Prod.mk.inj h
    exact ⟨rfl, fun hreply ↦ by cases hreply⟩
  · cases h
    exact ⟨rfl, fun hreply ↦ by cases hreply⟩

theorem wp_lstat {Q : FileStats → LogStore → Prop} {E : RetentionError → LogStore → Prop}
    (hs : Between entries s) (hQ : ∀ stats u, Between entries u → Q stats u)
    (hE : ∀ error u, Between entries u → (error = .missing → u.entries path = none) →
      E (.fs error) u) : wp discipline () (fs (.lstat path)) Q E s := by
  apply wp_fs_examine hs (fun _ _ _ h ↦ (performs_lstat h).1) hQ
  intro error u v hu hv hflush
  apply hE error u hu
  rintro rfl
  rw [hflush.entries]
  exact (performs_lstat hv).2 rfl

theorem wp_unlink {Q : Unit → LogStore → Prop} {E : RetentionError → LogStore → Prop}
    (hs : Between entries s) (hQ : ∀ u, Between entries u → u.entries path = none → Q () u)
    (hE : ∀ error u, Between entries u → (error = .missing → u.entries path = none) →
      E (.fs error) u) : wp discipline () (fs (.unlink path)) Q E s := by
  apply wp_fs
  intro s₁ reply t hs₁ hconsistent ht
  have hunlinked : ∀ u, (s₁.unlinked path).Flushes u →
      Between entries u ∧ u.entries path = none := by
    intro u hu
    refine ⟨Between.flushes ⟨hconsistent.unlinked path, (hs.flushes hs₁).2⟩ hu, ?_⟩
    simp [hu.entries, LogStore.unlinked]
  rcases ht with ht | ht
  · simp only [FsCall.Succeeds, FsCall.answer] at ht
    split at ht
    · obtain ⟨rfl, rfl⟩ := Prod.mk.inj ht
      refine ⟨hconsistent.unlinked path, fun u hu ↦ ⟨?_, fun error h ↦ by cases h⟩⟩
      intro value _
      exact hQ u (hunlinked u hu).1 (hunlinked u hu).2
    · rename_i hnone
      obtain ⟨rfl, rfl⟩ := Prod.mk.inj ht
      refine ⟨hconsistent, fun u hu ↦ ⟨fun value h ↦ (by cases h), ?_⟩⟩
      intro error _
      refine hE error u ((hs.flushes hs₁).flushes hu) fun _ ↦ ?_
      rw [hu.entries]
      exact hnone
  · cases ht with
    | failed =>
        refine ⟨hconsistent, fun u hu ↦ ⟨fun value h ↦ (by cases h), ?_⟩⟩
        rintro error h
        obtain rfl := Except.error.inj h
        exact hE .failed u ((hs.flushes hs₁).flushes hu) fun h ↦ by cases h
    | removed =>
        refine ⟨hconsistent.unlinked path, fun u hu ↦ ⟨fun value h ↦ (by cases h), ?_⟩⟩
        intro error _
        exact hE error u (hunlinked u hu).1 fun _ ↦ (hunlinked u hu).2

/-- A sync writes the absence of an entry. -/
theorem wp_fsync {Q : Unit → LogStore → Prop} {E : RetentionError → LogStore → Prop}
    (hs : Between entries s) (habsent : s.entries path = none)
    (hQ : ∀ u, Between entries u → u.disk path = none → Q () u)
    (hE : ∀ error u, Between entries u → u.entries path = none → E (.fs error) u) :
    wp discipline () (fs .fsyncLogsDirectory) Q E s := by
  apply wp_fs
  intro s₁ reply t hs₁ hconsistent ht
  have habsent₁ : s₁.entries path = none := hs₁.entries ▸ habsent
  have hfailed : ∀ u, s₁.Flushes u → Between entries u ∧ u.entries path = none :=
    fun u hu ↦ ⟨(hs.flushes hs₁).flushes hu, hu.entries ▸ habsent₁⟩
  rcases ht with ht | ht
  · obtain ⟨rfl, rfl⟩ := Prod.mk.inj ht
    refine ⟨hconsistent.synced, fun u hu ↦ ⟨?_, fun error h ↦ by cases h⟩⟩
    intro value _
    refine hQ u (Between.flushes ⟨hconsistent.synced, (hs.flushes hs₁).2⟩ hu) ?_
    rcases hu.disk path with hdisk | hdisk
    · exact hdisk.trans habsent₁
    · exact hdisk.trans habsent₁
  · have hsame : t = s₁ := by
      cases ht <;> rfl
    obtain rfl := hsame
    refine ⟨hconsistent, fun u hu ↦ ⟨?_, fun error _ ↦ ?_⟩⟩
    · rintro value rfl
      cases ht
    · exact hE error u (hfailed u hu).1 (hfailed u hu).2

theorem wp_mark {Q : Unit → LogStore → Prop} {E : RetentionError → LogStore → Prop}
    (hs : Between entries s)
    (hfile : s.disk (reference logId) = none ∨
      ∀ row, s.logs.get? logId = some row → row.relativeRef = none)
    (hQ : ∀ u, Between entries u → Q () u) (hE : ∀ text, E (.message text) s) :
    wp discipline () (mark logId now) Q E s := by
  apply wp_transact
  · intro u t h
    cases hmark : s.markDiagnosticPurged logId now with
    | error text =>
        rw [hmark] at h
        cases h
    | ok result =>
        rw [hmark] at h
        obtain rfl := Except.ok.inj h
        obtain rfl := LogStore.markDiagnosticPurged_eq_ok hmark
        have hconsistent := @LogStore.Consistent.purge s logId now hs.1 hfile
        have hreferences := @LogStore.KeepsReferences.purge s logId now entries hs.2
        exact ⟨guarantee_of_consistent hconsistent, hQ _ ⟨hconsistent, hreferences⟩⟩
  · intro error h
    cases hmark : s.markDiagnosticPurged logId now with
    | error text =>
        rw [hmark] at h
        obtain rfl := Except.error.inj h
        exact hE text
    | ok result =>
        rw [hmark] at h
        cases h

/-! ### The loops -/

theorem wp_resolveRow {Q : String → LogStore → Prop} {E : RetentionError → LogStore → Prop}
    (hs : Between entries s)
    (hQ : ∀ u, Between entries u → row.relativeRef = some (reference logId) →
      Q (reference logId) u)
    (hE : ∀ error u, Between entries u → error ≠ .fs .missing → E error u) :
    wp discipline () (resolveRow logId row) Q E s := by
  rw [resolveRow]
  by_cases hinvalid : isLogIdentifier logId = false ∨ row.relativeRef ≠ some (reference logId)
  · rw [if_pos hinvalid]
    exact hE (.message "diagnostic_reference_invalid") s hs (by simp)
  · rw [if_neg hinvalid, wp_bind]
    rw [not_or, not_not] at hinvalid
    apply wp_fs_examine hs fun _ _ _ h ↦ (performs_assertPrivateDirectories h).1
    · intro _ u hu
      exact hQ u hu hinvalid.2
    · intro error u v hu hv _
      refine hE (.fs error) u hu ?_
      rintro h
      obtain rfl := RetentionError.fs.inj h
      exact (performs_assertPrivateDirectories hv).2 rfl

theorem wp_projectFile {Q : DiagnosticLogState → LogStore → Prop}
    {E : RetentionError → LogStore → Prop} (hs : Between entries s)
    (hQ : ∀ state u, Between entries u → Q state u)
    (hE : ∀ error u, Between entries u → E error u) :
    wp discipline () (projectFile logId row) Q E s := by
  rw [projectFile, wp_bind]
  refine wp_resolveRow hs (fun u hu _ ↦ ?_) fun error u hu _ ↦ hE error u hu
  rw [wp_bind]
  refine wp_lstat hu (fun stats u hu ↦ ?_) fun error u hu _ ↦ hE (.fs error) u hu
  split_ifs
  · exact hQ .readError u hu
  · exact hQ .sizeMismatch u hu
  · exact hQ .readError u hu
  · rw [wp_bind]
    apply wp_fs_examine hu fun _ _ _ h ↦ performs_digest h
    · intro digest u hu
      split_ifs
      · exact hE (.message "diagnostic_digest_mismatch") u hu
      · exact hQ row.captureState u hu
    · intro error u v hu _ _
      exact hE (.fs error) u hu

theorem wp_project {Q : DiagnosticLogState → LogStore → Prop}
    {E : RetentionError → LogStore → Prop} (hs : Between entries s)
    (hQ : ∀ state u, Between entries u → Q state u) :
    wp discipline () (project logId row) Q E s := by
  rw [project]
  split_ifs
  · exact hQ row.captureState s hs
  · rw [wp_tryCatch]
    apply wp_projectFile hs hQ
    intro error u hu
    exact hQ (if error = .fs .missing then .missing else .readError) u hu

/-- When the file of a row is found to be missing, it is. -/
theorem wp_inspect (hs : Between entries s) :
    wp discipline () (inspect now logId row) (fun _ ↦ Between entries)
      (fun error u ↦ Between entries u ∧
        (error = .fs .missing → u.entries (reference logId) = none)) s := by
  rw [inspect, wp_bind]
  refine wp_resolveRow hs (fun u hu _ ↦ ?_) fun error u hu hne ↦ ⟨hu, fun h ↦ absurd h hne⟩
  rw [wp_bind]
  refine wp_lstat hu (fun stats u hu ↦ ?_) fun error u hu hmissing ↦
    ⟨hu, fun h ↦ hmissing (RetentionError.fs.inj h)⟩
  rw [wp_bind]
  refine wp_project hu fun state u hu ↦ ?_
  split_ifs
  · exact hu
  · exact hu
  · rw [wp_bind]
    refine wp_unlink hu (fun u hu habsent ↦ ?_) fun error u hu hmissing ↦
      ⟨hu, fun h ↦ hmissing (RetentionError.fs.inj h)⟩
    rw [wp_bind]
    refine wp_fsync hu habsent (fun u hu hdisk ↦ ?_) fun error u hu habsent ↦
      ⟨hu, fun _ ↦ habsent⟩
    exact wp_mark hu (.inl hdisk) (fun u hu ↦ hu) fun text ↦ ⟨hu, fun h ↦ by cases h⟩

theorem wp_reconcile {entry : LogId × DiagnosticLogRow} (hs : Between entries s) :
    wp discipline () (reconcile now entry) (fun _ ↦ Between entries)
      (fun _ ↦ Between entries) s := by
  rw [reconcile]
  split_ifs
  · exact hs
  · rw [wp_tryCatch]
    apply wp_mono (fun _ _ hu ↦ hu) _ (wp_inspect hs)
    rintro error u ⟨hu, hmissing⟩
    by_cases hne : error ≠ .fs .missing
    · rw [if_pos hne]
      exact hu
    · rw [if_neg hne, wp_tryCatch, wp_bind]
      refine wp_fsync hu (hmissing (not_not.mp hne)) (fun u hu hdisk ↦ ?_) fun _ u hu _ ↦ hu
      exact wp_mark hu (.inl hdisk) (fun u hu ↦ hu) fun _ ↦ hu

/-- The entry of a row that a pass goes on with is gone, or there was none. -/
theorem wp_unlinkEntry (hs : Between entries s) :
    wp discipline () (unlinkEntry logId row)
      (fun removal u ↦ Between entries u ∧
        (removal = some true → u.entries (reference logId) = none) ∧
        (removal = some false → row.relativeRef = none))
      (fun _ ↦ Between entries) s := by
  rw [unlinkEntry]
  split_ifs with hreference
  · exact ⟨hs, fun h ↦ (by cases h), fun _ ↦ hreference⟩
  · rw [wp_tryCatch, wp_bind]
    have hkept : ∀ error : RetentionError, error ≠ .fs .missing →
        (if error = .fs .missing then some true else none) = none := fun error h ↦ if_neg h
    refine wp_resolveRow hs (fun u hu _ ↦ ?_) fun error u hu hne ↦ ?_
    · rw [wp_bind]
      refine wp_unlink hu (fun u hu habsent ↦ ⟨hu, fun _ ↦ habsent, fun h ↦ by cases h⟩) ?_
      intro error u hu hmissing
      by_cases herror : error = .missing
      · subst herror
        exact ⟨hu, fun _ ↦ hmissing rfl, fun h ↦ by cases h⟩
      · refine ⟨hu, fun h ↦ ?_, fun h ↦ ?_⟩
        · rw [hkept _ fun h ↦ herror (RetentionError.fs.inj h)] at h
          cases h
        · rw [hkept _ fun h ↦ herror (RetentionError.fs.inj h)] at h
          cases h
    · refine ⟨hu, fun h ↦ ?_, fun h ↦ ?_⟩
      · rw [hkept error hne] at h
        cases h
      · rw [hkept error hne] at h
        cases h

/-- A removal that is written leaves no file on the disk. -/
theorem wp_syncRemoval {removal : Option Bool} (hs : Between entries s)
    (habsent : removal = some true → s.entries (reference logId) = none) :
    wp discipline () (syncRemoval removal)
      (fun written u ↦ Between entries u ∧ (written = true → removal = some false ∨
        u.disk (reference logId) = none))
      (fun _ ↦ Between entries) s := by
  cases removal with
  | none => exact ⟨hs, fun h ↦ by cases h⟩
  | some mustSync =>
      cases mustSync with
      | false => exact ⟨hs, fun _ ↦ .inl rfl⟩
      | true =>
          rw [syncRemoval, wp_tryCatch, wp_bind]
          refine wp_fsync hs (habsent rfl) (fun u hu hdisk ↦ ?_) fun _ u hu _ ↦ ?_
          · exact ⟨hu, fun _ ↦ .inr hdisk⟩
          · exact ⟨hu, fun h ↦ by cases h⟩

theorem wp_removeCandidate {entry : LogId × DiagnosticLogRow} (hentry : entry ∈ entries)
    (hs : Between entries s) :
    wp discipline () (removeCandidate now entry) (fun _ ↦ Between entries)
      (fun _ ↦ Between entries) s := by
  rw [removeCandidate, wp_bind]
  refine wp_mono ?_ (fun _ _ hu ↦ hu) (wp_unlinkEntry hs)
  rintro removal u ⟨hu, habsent, hnone⟩
  rw [wp_bind]
  refine wp_mono ?_ (fun _ _ hu ↦ hu) (wp_syncRemoval hu habsent)
  rintro written u ⟨hu, hwritten⟩
  by_cases hmark : written = true
  · rw [if_pos hmark]
    refine wp_mark hu ?_ (fun u hu ↦ hu) fun _ ↦ hu
    rcases hwritten hmark with hremoval | hdisk
    · refine .inr fun row hrow ↦ ?_
      rcases hu.2 entry hentry row hrow with hsame | hgone
      · rw [hsame, hnone hremoval]
      · exact hgone
    · exact .inl hdisk
  · rw [if_neg hmark]
    exact hu

end Steps

/-- A pass starts from any state, and keeps the index and the directory consistent. -/
theorem wp_enforceRetention {s : LogStore} {now : Time} {retentionDays aggregateLimitBytes : ℕ}
    (hs : s.Consistent) :
    wp discipline () (enforceRetention now retentionDays aggregateLimitBytes)
      (fun _ _ ↦ True) (fun _ _ ↦ True) s := by
  rw [enforceRetention, wp_bind, wp_read, wp_bind]
  apply wp_forM (I := fun _ s ↦ Between [] s) ⟨hs, fun entry hentry ↦ by cases hentry⟩
  · intro entry rest u hu
    exact wp_mono (fun _ _ h ↦ h) (fun _ _ _ ↦ trivial) (wp_reconcile hu)
  · intro u hu
    rw [wp_bind, wp_read]
    set candidates := u.diagnosticRetentionCandidates (cutoffOf now retentionDays)
      aggregateLimitBytes with hcandidates
    have hstart : Between candidates u := by
      refine ⟨hu.1, fun entry hentry row hrow ↦ .inl ?_⟩
      have hlisted := LogStore.mem_retentionLogs_of_candidate hentry
      rw [(LogStore.mem_diagnosticRetentionLogs.mp hlisted).1] at hrow
      rw [Option.some.inj hrow]
    apply wp_forM (I := fun todo s ↦ todo ⊆ candidates ∧ Between candidates s)
      ⟨List.Subset.refl _, hstart⟩
    · rintro entry rest v ⟨hsubset, hv⟩
      have hrest : rest ⊆ candidates := fun x hx ↦ hsubset (List.mem_cons_of_mem _ hx)
      exact wp_mono (fun _ _ h ↦ ⟨hrest, h⟩) (fun _ _ _ ↦ trivial)
        (wp_removeCandidate (hsubset List.mem_cons_self) hv)
    · intro _ _
      trivial

theorem obeys_retention : Pool.Obeys retention discipline where
  initial h := h
  perform h := h
  programs := by
    rintro _ p s ⟨now, retentionDays, aggregateLimitBytes, rfl⟩ hs
    exact wp_enforceRetention hs
  inv_kill hcrash hs := hcrash.consistent hs
  rely_kill hne := absurd rfl hne
  inv_environment hflush hs := hflush.consistent hs
  rely_environment hflush _ := hflush

/-- In every state of every run the index and the directory are consistent. -/
theorem consistent_of_reachable {P : Pool LogStore FsCall.Reply RetentionError Unit}
    (h : (Pool.system retention).Reachable P) : P.shared.Consistent :=
  Pool.inv_of_reachable obeys_retention h

end Dona.Updater
