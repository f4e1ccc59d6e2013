import Dona.Updater.RetentionSafety

/-!
# What a pass leaves

The logs that a pass chooses, and what it leaves when no call fails: logs that fit into the quota,
none of them expired, each with the file that its row describes. Another pass keeps all of them.
-/

namespace Dona.Updater

open Fallible Coroutine

namespace LogStore

/-! ### The choice of the candidates -/

section Candidates

variable {cutoff : Time} {limit : ℕ}

def totalSize : List (LogId × DiagnosticLogRow) → ℕ
  | [] => 0
  | entry :: rows => entry.2.byteSize + totalSize rows

theorem totalSize_perm {rows rows' : List (LogId × DiagnosticLogRow)} (h : rows.Perm rows') :
    totalSize rows = totalSize rows' := by
  induction h with
  | nil => rfl
  | cons entry _ ih => rw [totalSize, totalSize, ih]
  | swap a b rows => simp only [totalSize, Nat.add_left_comm]
  | trans _ _ ih ih' => exact ih.trans ih'

theorem totalSize_sublist {rows rows' : List (LogId × DiagnosticLogRow)} (h : rows.Sublist rows') :
    totalSize rows ≤ totalSize rows' := by
  induction h with
  | slnil => exact Nat.le_refl 0
  | cons entry _ ih => exact Nat.le_trans ih (Nat.le_add_left _ _)
  | cons_cons entry _ ih => exact Nat.add_le_add_left ih entry.2.byteSize

/-- The logs that the filter keeps, after `retainedBytes` of newer logs. -/
def kept (cutoff : Time) (limit retainedBytes : ℕ) (rows : List (LogId × DiagnosticLogRow)) :
    List (LogId × DiagnosticLogRow) :=
  rows.filter fun entry ↦ entry ∉ removable cutoff limit retainedBytes rows

/-- The log is older than the cutoff, or does not fit behind `retainedBytes` of newer logs. -/
def Excluded (cutoff : Time) (limit retainedBytes : ℕ) (row : DiagnosticLogRow) : Prop :=
  isExpired cutoff row = true ∨ limit < retainedBytes + row.byteSize

variable {retained : ℕ} {entry : LogId × DiagnosticLogRow}
  {rows newer older : List (LogId × DiagnosticLogRow)}

theorem removable_cons_of_excluded (h : Excluded cutoff limit retained entry.2) :
    removable cutoff limit retained (entry :: rows) =
      entry :: removable cutoff limit retained rows := if_pos h

theorem removable_cons_of_not_excluded (h : ¬Excluded cutoff limit retained entry.2) :
    removable cutoff limit retained (entry :: rows) =
      removable cutoff limit (retained + entry.2.byteSize) rows := if_neg h

theorem kept_cons_of_excluded (h : Excluded cutoff limit retained entry.2) (hnodup : entry ∉ rows) :
    kept cutoff limit retained (entry :: rows) = kept cutoff limit retained rows := by
  rw [kept, removable_cons_of_excluded h, List.filter_cons_of_neg (by simp), kept]
  apply List.filter_congr
  intro other hother
  have hne : other ≠ entry := fun heq ↦ hnodup (heq ▸ hother)
  simp [hne]

theorem kept_cons_of_not_excluded (h : ¬Excluded cutoff limit retained entry.2)
    (hnodup : entry ∉ rows) :
    kept cutoff limit retained (entry :: rows) =
      entry :: kept cutoff limit (retained + entry.2.byteSize) rows := by
  rw [kept, removable_cons_of_not_excluded h, List.filter_cons_of_pos, kept]
  simpa using fun hmem ↦ hnodup (mem_of_removable hmem)

/-- What is kept fits into the quota. -/
theorem totalSize_kept_le (hretained : retained ≤ limit) (hnodup : rows.Nodup) :
    retained + totalSize (kept cutoff limit retained rows) ≤ limit := by
  induction rows generalizing retained with
  | nil => exact hretained
  | cons entry rows ih =>
      obtain ⟨hentry, hrows⟩ := List.nodup_cons.mp hnodup
      by_cases h : Excluded cutoff limit retained entry.2
      · rw [kept_cons_of_excluded h hentry]
        exact ih hretained hrows
      · rw [kept_cons_of_not_excluded h hentry]
        rw [Excluded, not_or, not_lt] at h
        have hrest := ih h.2 hrows
        rw [totalSize, ← Nat.add_assoc]
        exact hrest

theorem not_expired_of_kept (h : entry ∈ kept cutoff limit retained rows) :
    isExpired cutoff entry.2 = false := by
  rw [kept, List.mem_filter, decide_eq_true_eq] at h
  obtain ⟨hmem, hnot⟩ := h
  induction rows generalizing retained with
  | nil => cases hmem
  | cons head rows ih =>
      by_cases hhead : Excluded cutoff limit retained head.2
      · rw [removable_cons_of_excluded hhead, List.mem_cons, not_or] at hnot
        exact ih ((List.mem_cons.mp hmem).resolve_left hnot.1) hnot.2
      · rw [removable_cons_of_not_excluded hhead] at hnot
        rcases List.mem_cons.mp hmem with rfl | hrest
        · rw [Excluded, not_or, Bool.not_eq_true] at hhead
          exact hhead.1
        · exact ih hrest hnot

/-- The filter goes on behind the newer logs with the size of those that it keeps. -/
theorem removable_append (hnodup : newer.Nodup) :
    removable cutoff limit retained (newer ++ older) =
      removable cutoff limit retained newer ++
        removable cutoff limit (retained + totalSize (kept cutoff limit retained newer)) older := by
  induction newer generalizing retained with
  | nil => rfl
  | cons entry newer ih =>
      obtain ⟨hentry, hnewer⟩ := List.nodup_cons.mp hnodup
      by_cases h : Excluded cutoff limit retained entry.2
      · rw [List.cons_append, removable_cons_of_excluded h, removable_cons_of_excluded h,
          kept_cons_of_excluded h hentry, ih hnewer, List.cons_append]
      · rw [List.cons_append, removable_cons_of_not_excluded h, removable_cons_of_not_excluded h,
          kept_cons_of_not_excluded h hentry, ih hnewer, totalSize, Nat.add_assoc]

/-- A log is a candidate exactly if it is older than the cutoff, or does not fit into the quota
that the newer logs leave which are no candidates. -/
theorem mem_removable_iff (hnodup : (newer ++ entry :: older).Nodup) :
    entry ∈ removable cutoff limit 0 (newer ++ entry :: older) ↔
      Excluded cutoff limit (totalSize (newer.filter fun other ↦
        other ∉ removable cutoff limit 0 (newer ++ entry :: older))) entry.2 := by
  obtain ⟨hnewer, hrest, hdisjoint⟩ := List.nodup_append.mp hnodup
  obtain ⟨hentry, -⟩ := List.nodup_cons.mp hrest
  have hsplit := @removable_append cutoff limit 0 newer (entry :: older) hnewer
  rw [Nat.zero_add] at hsplit
  have hkept : (newer.filter fun other ↦
      other ∉ removable cutoff limit 0 (newer ++ entry :: older)) = kept cutoff limit 0 newer := by
    rw [kept]
    apply List.filter_congr
    intro other hother
    have hnot : other ∉ removable cutoff limit (totalSize (kept cutoff limit 0 newer))
        (entry :: older) := fun hmem ↦ hdisjoint other hother other (mem_of_removable hmem) rfl
    have hiff : other ∈ removable cutoff limit 0 (newer ++ entry :: older) ↔
        other ∈ removable cutoff limit 0 newer := by
      rw [hsplit, List.mem_append, or_iff_left hnot]
    exact decide_eq_decide.mpr (not_congr hiff)
  have hnot : entry ∉ removable cutoff limit 0 newer :=
    fun hmem ↦ hdisjoint entry (mem_of_removable hmem) entry List.mem_cons_self rfl
  rw [hkept, hsplit, List.mem_append, or_iff_right hnot]
  by_cases h : Excluded cutoff limit (totalSize (kept cutoff limit 0 newer)) entry.2
  · rw [removable_cons_of_excluded h]
    exact iff_of_true List.mem_cons_self h
  · rw [removable_cons_of_not_excluded h]
    exact iff_of_false (fun hmem ↦ hentry (mem_of_removable hmem)) h

theorem nodup_diagnosticRetentionLogs (s : LogStore) : s.diagnosticRetentionLogs.Nodup := by
  rw [diagnosticRetentionLogs, (List.perm_insertionSort _ _).nodup_iff]
  exact (List.Nodup.of_map _ s.logs.nodup).filter _

/-- Logs that fit together, none of them expired, all stay. -/
theorem removable_eq_nil (hfits : retained + totalSize rows ≤ limit)
    (hexpired : ∀ entry ∈ rows, isExpired cutoff entry.2 = false) :
    removable cutoff limit retained rows = [] := by
  induction rows generalizing retained with
  | nil => rfl
  | cons entry rows ih =>
      rw [totalSize, ← Nat.add_assoc] at hfits
      have hentry : ¬Excluded cutoff limit retained entry.2 := by
        rw [Excluded, hexpired entry List.mem_cons_self, not_or, not_lt]
        exact ⟨Bool.false_ne_true, Nat.le_trans (Nat.le_add_right _ _) hfits⟩
      rw [removable_cons_of_not_excluded hentry]
      exact ih hfits fun other hother ↦ hexpired other (List.mem_cons_of_mem _ hother)

end Candidates

/-! ### The file of a log -/

/-- What a projection says about the file of a row. -/
def fileState (row : DiagnosticLogRow) (file : LogFile) : DiagnosticLogState :=
  if file.isUnsafe then .readError
  else if file.size ≠ row.byteSize then .sizeMismatch
  else if row.contentSha256.any isSha256 = false then .readError
  else if some file.sha256 ≠ row.contentSha256 then .readError
  else row.captureState

/-- What a projection of a row says when no call fails. -/
def stateIn (s : LogStore) (logId : LogId) (row : DiagnosticLogRow) : DiagnosticLogState :=
  if [DiagnosticLogState.purged, .writeFailed, .capturing].contains row.captureState then
    row.captureState
  else (s.entries (reference logId)).elim .missing (fileState row)

/-- The row has no file, or the one that it describes, or one that is not to be removed. -/
def Matches (s : LogStore) (logId : LogId) (row : DiagnosticLogRow) : Prop :=
  row.relativeRef = none ∨ ∃ file, s.entries (reference logId) = some file ∧
    (s.stateIn logId row = row.captureState ∨ file.isKept = true)

/-- The log is removed: its row is purged, and no other entry is touched. -/
structure Removes (logId : LogId) (now : Time) (s t : LogStore) : Prop where
  completedAt : t.completedAt = s.completedAt
  logs : t.logs = s.logs.updateWhere (isPurgeable logId) (purgeRow now)
  entries : ∀ path, path ≠ reference logId → t.entries path = s.entries path
  consistent : t.Consistent

section Released

variable {s t : LogStore} {logId id : LogId} {now : Time} {row : DiagnosticLogRow}

/-- The entry of the log is gone, durably. -/
def released (s : LogStore) (logId : LogId) (now : Time) : LogStore :=
  { (s.unlinked (reference logId)).synced with
    logs := s.logs.updateWhere (isPurgeable logId) (purgeRow now) }

theorem Consistent.removes_released (h : s.Consistent) :
    Removes logId now s (s.released logId now) where
  completedAt := rfl
  logs := rfl
  entries _ hpath := Function.update_of_ne hpath _ _
  consistent := by
    have hsynced := (h.unlinked (reference logId)).synced
    apply hsynced.purge
    simp [LogStore.synced, LogStore.unlinked]

/-- A row without a file. -/
theorem Consistent.removes_purged (h : s.Consistent) (hrow : s.logs.get? logId = some row)
    (hreference : row.relativeRef = none) : Removes logId now s
      { s with logs := s.logs.updateWhere (isPurgeable logId) (purgeRow now) } where
  completedAt := rfl
  logs := rfl
  entries _ _ := rfl
  consistent := by
    apply h.purge
    refine .inr fun other hother ↦ ?_
    rw [hrow] at hother
    rw [← Option.some.inj hother, hreference]

/-- A log that is still there after another one has been removed. -/
theorem Removes.retained (h : Removes logId now s t) (hrow : t.logs.get? id = some row)
    (hretained : t.isRetained row = true) :
    id ≠ logId ∧ s.logs.get? id = some row ∧ s.isRetained row = true := by
  have hfinished : row.captureState.isFinished = true := by
    simp only [isRetained, decide_eq_true_eq] at hretained
    exact hretained.1
  rw [isRetained, h.completedAt] at hretained
  rw [h.logs] at hrow
  obtain ⟨old, hold, rfl | ⟨-, -, rfl⟩⟩ := get?_purged hrow
  · refine ⟨?_, hold, hretained⟩
    rintro rfl
    simp only [Table.get?_updateWhere, hold, Option.map_some, isPurgeable, hfinished, and_self,
      decide_true, if_true, Option.some.injEq] at hrow
    rw [← hrow] at hfinished
    cases hfinished
  · cases hfinished

theorem Removes.get?_of_ne (h : Removes logId now s t) (hne : id ≠ logId) :
    t.logs.get? id = s.logs.get? id := by
  rw [h.logs, Table.get?_updateWhere]
  cases s.logs.get? id with
  | none => rfl
  | some row => simp [isPurgeable, hne]

theorem Removes.matches (h : Removes logId now s t) (hmatches : s.Matches id row)
    (hne : id ≠ logId) : t.Matches id row := by
  have hentries : t.entries (reference id) = s.entries (reference id) :=
    h.entries _ fun heq ↦ hne (reference_injective heq)
  rcases hmatches with hnone | ⟨file, hfile, hstate⟩
  · exact .inl hnone
  · refine .inr ⟨file, hentries.trans hfile, ?_⟩
    rw [stateIn, hentries]
    exact hstate

end Released

end LogStore

/-! ### Calls that do not fail -/

/-- The calls that only look at the file system. -/
def FsCall.isExamination : FsCall → Bool
  | unlink _ | fsyncLogsDirectory => false
  | _ => true

/-- Removals and syncs may fail, but no examination does. -/
def FsCall.Examines (call : FsCall) (store : LogStore) (reply : call.Reply) (store' : LogStore) :
    Prop :=
  call.Performs store reply store' ∧
    (call.isExamination = true → call.Succeeds store reply store')

section Solo

variable {perform : (call : FsCall) → LogStore → call.Reply → LogStore → Prop}
  {s t : LogStore} {logId : LogId} {row : DiagnosticLogRow} {now : Time}

theorem wp_fs_ok {call : FsCall} {value : call.Value} {Q : call.Value → LogStore → Prop}
    {E : RetentionError → LogStore → Prop}
    (hperform : ∀ reply t, perform call s reply t → call.Succeeds s reply t)
    (hanswer : call.answer s = (.ok value, t)) (hQ : Q value t) :
    wp (solo perform) () (fs call) Q E s := by
  rw [fs, wp_bind]
  apply wp_solo_call
  intro reply u hu
  obtain ⟨rfl, rfl⟩ := Prod.mk.inj ((hperform reply u hu).symm.trans hanswer)
  exact hQ

theorem wp_fs_error {call : FsCall} {error : FsError} {Q : call.Value → LogStore → Prop}
    {E : RetentionError → LogStore → Prop}
    (hperform : ∀ reply t, perform call s reply t → call.Succeeds s reply t)
    (hanswer : call.answer s = (.error error, t)) (hE : E (.fs error) t) :
    wp (solo perform) () (fs call) Q E s := by
  rw [fs, wp_bind]
  apply wp_solo_call
  intro reply u hu
  obtain ⟨rfl, rfl⟩ := Prod.mk.inj ((hperform reply u hu).symm.trans hanswer)
  exact hE

/-- The row has a valid identifier, and its reference is that of its file. -/
structure Named (logId : LogId) (row : DiagnosticLogRow) : Prop where
  isLogIdentifier : isLogIdentifier logId = true
  reference : row.relativeRef = some (reference logId)

variable (hexamines : ∀ call s reply t, FsCall.isExamination call = true →
  perform call s reply t → call.Succeeds s reply t)

include hexamines

theorem wp_resolveRow_named {Q : String → LogStore → Prop} {E : RetentionError → LogStore → Prop}
    (hnamed : Named logId row) (hQ : Q (reference logId) s) :
    wp (solo perform) () (resolveRow logId row) Q E s := by
  rw [resolveRow, if_neg, wp_bind]
  · exact wp_fs_ok (fun _ _ ↦ hexamines _ _ _ _ rfl) rfl hQ
  · rw [hnamed.isLogIdentifier, hnamed.reference]
    simp

theorem wp_lstat_ok {path : String} {file : LogFile} {Q : FileStats → LogStore → Prop}
    {E : RetentionError → LogStore → Prop} (hfile : s.entries path = some file)
    (hQ : Q file.toFileStats s) : wp (solo perform) () (fs (.lstat path)) Q E s := by
  refine wp_fs_ok (fun _ _ ↦ hexamines _ _ _ _ rfl) ?_ hQ
  simp [FsCall.answer, hfile]

theorem wp_lstat_missing {path : String} {Q : FileStats → LogStore → Prop}
    {E : RetentionError → LogStore → Prop} (hfile : s.entries path = none)
    (hE : E (.fs .missing) s) : wp (solo perform) () (fs (.lstat path)) Q E s := by
  refine wp_fs_error (fun _ _ ↦ hexamines _ _ _ _ rfl) ?_ hE
  simp [FsCall.answer, hfile]

theorem wp_project_file {file : LogFile} {Q : DiagnosticLogState → LogStore → Prop}
    {E : RetentionError → LogStore → Prop} (hnamed : Named logId row)
    (hfile : s.entries (reference logId) = some file) (hQ : Q (s.stateIn logId row) s) :
    wp (solo perform) () (project logId row) Q E s := by
  rw [LogStore.stateIn, hfile, Option.elim_some] at hQ
  rw [project]
  split_ifs with hstored
  · rw [if_pos hstored] at hQ
    exact hQ
  · rw [if_neg hstored, LogStore.fileState] at hQ
    rw [wp_tryCatch, projectFile, wp_bind]
    apply wp_resolveRow_named hexamines hnamed
    rw [wp_bind]
    apply wp_lstat_ok hexamines hfile
    by_cases hunsafe : file.isUnsafe = true
    · rw [if_pos hunsafe] at hQ ⊢
      exact hQ
    rw [if_neg hunsafe] at hQ ⊢
    by_cases hsize : file.size ≠ row.byteSize
    · rw [if_pos hsize] at hQ ⊢
      exact hQ
    rw [if_neg hsize] at hQ ⊢
    by_cases hdigest : row.contentSha256.any isSha256 = false
    · rw [if_pos hdigest] at hQ ⊢
      exact hQ
    rw [if_neg hdigest] at hQ ⊢
    rw [wp_bind]
    refine wp_fs_ok (fun _ _ ↦ hexamines _ _ _ _ rfl)
      (show (FsCall.digest (reference logId)).answer s = (.ok file.sha256, s) by
        simp [FsCall.answer, hfile]) ?_
    by_cases hsame : some file.sha256 ≠ row.contentSha256
    · rw [if_pos hsame] at hQ ⊢
      exact hQ
    · rw [if_neg hsame] at hQ ⊢
      exact hQ

/-- A log that matches its row stays. -/
theorem wp_reconcile_of_matches {Q : PUnit → LogStore → Prop} {E : RetentionError → LogStore → Prop}
    (hid : isLogIdentifier logId = true)
    (hreference : row.relativeRef = none ∨ row.relativeRef = some (reference logId))
    (hmatches : s.Matches logId row) (hQ : Q ⟨⟩ s) :
    wp (solo perform) () (reconcile now (logId, row)) Q E s := by
  rw [reconcile]
  split_ifs with hnone
  · exact hQ
  · have hnamed : Named logId row := ⟨hid, hreference.resolve_left hnone⟩
    obtain ⟨file, hfile, hstate⟩ := hmatches.resolve_left hnone
    rw [wp_tryCatch, inspect, wp_bind]
    apply wp_resolveRow_named hexamines hnamed
    rw [wp_bind]
    apply wp_lstat_ok hexamines hfile
    rw [wp_bind]
    apply wp_project_file hexamines hnamed hfile
    by_cases hsame : s.stateIn logId row = row.captureState
    · rw [if_pos hsame]
      exact hQ
    · rw [if_neg hsame, if_pos (hstate.resolve_left hsame)]
      exact hQ

end Solo

/-! ### A pass in which no call fails -/

section Succeeding

variable {s : LogStore} {logId : LogId} {row : DiagnosticLogRow} {now : Time}
  {Q : PUnit → LogStore → Prop} {E : RetentionError → LogStore → Prop}

theorem count_isPurgeable (hrow : s.logs.get? logId = some row)
    (hfinished : row.captureState.isFinished = true) :
    s.logs.count (LogStore.isPurgeable logId) = 1 := by
  have hcount : (s.logs.entries.map Prod.fst).countP
      (fun id ↦ (s.logs.get? id).any (LogStore.isPurgeable logId id)) =
        (s.logs.entries.map Prod.fst).count logId := by
    rw [List.count]
    apply List.countP_congr
    intro id _
    by_cases hid : id = logId
    · subst hid
      simp [hrow, LogStore.isPurgeable, hfinished]
    · cases s.logs.get? id <;> simp [LogStore.isPurgeable, hid]
  rw [Table.count_eq_countP_keys, hcount]
  apply List.count_eq_one_of_mem s.logs.nodup
  rw [Table.mem_keys_iff, hrow]
  rfl

theorem wp_mark_finished {perform : (call : FsCall) → LogStore → call.Reply → LogStore → Prop}
    {Q : Unit → LogStore → Prop} (hrow : s.logs.get? logId = some row)
    (hfinished : row.captureState.isFinished = true)
    (hQ : Q () { s with
      logs := s.logs.updateWhere (LogStore.isPurgeable logId) (LogStore.purgeRow now) }) :
    wp (solo perform) () (mark logId now) Q E s := by
  have hmark : s.markDiagnosticPurged logId now = .ok ((), { s with
      logs := s.logs.updateWhere (LogStore.isPurgeable logId) (LogStore.purgeRow now) }) := by
    rw [LogStore.markDiagnosticPurged, count_isPurgeable hrow hfinished]
    rfl
  apply wp_transact
  · intro u t h
    rw [hmark] at h
    obtain ⟨rfl, rfl⟩ := Prod.mk.inj (Except.ok.inj h)
    exact ⟨solo_guarantee, hQ⟩
  · intro error h
    rw [hmark] at h
    cases h

/-- The entry of a log is removed if it is there, the removal is written, and the row purged. -/
theorem wp_release (hrow : s.logs.get? logId = some row)
    (hfinished : row.captureState.isFinished = true) (hQ : Q ⟨⟩ (s.released logId now)) :
    wp (solo FsCall.Succeeds) () (do
      fs .fsyncLogsDirectory
      mark logId now) Q E (s.unlinked (reference logId)) := by
  rw [wp_bind]
  refine wp_fs_ok (fun _ _ h ↦ h) rfl ?_
  exact wp_mark_finished hrow hfinished hQ

theorem unlinked_eq_self (h : s.entries (reference logId) = none) :
    s.unlinked (reference logId) = s := by
  rw [LogStore.unlinked, ← h, Function.update_eq_self]

theorem wp_unlink_ok {path : String} {file : LogFile} {Q : Unit → LogStore → Prop}
    (hfile : s.entries path = some file) (hQ : Q () (s.unlinked path)) :
    wp (solo FsCall.Succeeds) () (fs (.unlink path)) Q E s := by
  refine wp_fs_ok (fun _ _ h ↦ h) ?_ hQ
  simp [FsCall.answer, hfile, LogStore.unlinked]

theorem wp_unlink_missing {path : String} {Q : Unit → LogStore → Prop}
    (hfile : s.entries path = none) (hE : E (.fs .missing) s) :
    wp (solo FsCall.Succeeds) () (fs (.unlink path)) Q E s := by
  refine wp_fs_error (fun _ _ h ↦ h) ?_ hE
  simp [FsCall.answer, hfile]

/-- A log whose file is not what its row says is removed. -/
theorem wp_reconcile_of_not_matches (hid : isLogIdentifier logId = true)
    (hreference : row.relativeRef = none ∨ row.relativeRef = some (reference logId))
    (hmatches : ¬s.Matches logId row) (hrow : s.logs.get? logId = some row)
    (hfinished : row.captureState.isFinished = true) (hQ : Q ⟨⟩ (s.released logId now)) :
    wp (solo FsCall.Succeeds) () (reconcile now (logId, row)) Q E s := by
  rw [LogStore.Matches, not_or] at hmatches
  obtain ⟨hsome, hfile⟩ := hmatches
  have hexamines : ∀ call s reply t, FsCall.isExamination call = true →
      FsCall.Succeeds call s reply t → call.Succeeds s reply t := fun _ _ _ _ _ h ↦ h
  have hnamed : Named logId row := ⟨hid, hreference.resolve_left hsome⟩
  rw [reconcile, if_neg hsome, wp_tryCatch, inspect, wp_bind]
  apply wp_resolveRow_named hexamines hnamed
  rw [wp_bind]
  cases hentry : s.entries (reference logId) with
  | none =>
      apply wp_lstat_missing hexamines hentry
      rw [if_neg (not_not.mpr rfl), wp_tryCatch, ← unlinked_eq_self hentry]
      exact wp_release hrow hfinished hQ
  | some file =>
      have hstate : ¬(s.stateIn logId row = row.captureState ∨ file.isKept = true) :=
        fun h ↦ hfile ⟨file, hentry, h⟩
      rw [not_or] at hstate
      apply wp_lstat_ok hexamines hentry
      rw [wp_bind]
      apply wp_project_file hexamines hnamed hentry
      rw [if_neg hstate.1, if_neg hstate.2, wp_bind]
      apply wp_unlink_ok hentry
      exact wp_release hrow hfinished hQ

/-- A candidate is removed. -/
theorem wp_removeCandidate_of_row (hs : s.Consistent) (hrow : s.logs.get? logId = some row)
    (hfinished : row.captureState.isFinished = true)
    (hQ : ∀ t, LogStore.Removes logId now s t → Q ⟨⟩ t) :
    wp (solo FsCall.Succeeds) () (removeCandidate now (logId, row)) Q E s := by
  obtain ⟨hid, hreference⟩ := hs.references logId row hrow
  have hexamines : ∀ call s reply t, FsCall.isExamination call = true →
      FsCall.Succeeds call s reply t → call.Succeeds s reply t := fun _ _ _ _ _ h ↦ h
  have hreleased := hQ _ hs.removes_released
  have hsync : wp (solo FsCall.Succeeds) () (syncRemoval (some true) >>= fun written ↦
      if written = true then mark logId now else pure ()) Q E (s.unlinked (reference logId)) := by
    rw [wp_bind, syncRemoval, wp_tryCatch, wp_bind]
    refine wp_fs_ok (fun _ _ h ↦ h) rfl ?_
    exact wp_mark_finished hrow hfinished hreleased
  rw [removeCandidate, wp_bind, unlinkEntry]
  by_cases hnone : row.relativeRef = none
  · rw [if_pos hnone]
    exact wp_mark_finished hrow hfinished (hQ _ (hs.removes_purged hrow hnone))
  · rw [if_neg hnone, wp_tryCatch, wp_bind]
    apply wp_resolveRow_named hexamines ⟨hid, hreference.resolve_left hnone⟩
    rw [wp_bind]
    cases hentry : s.entries (reference logId) with
    | none =>
        apply wp_unlink_missing hentry
        rw [unlinked_eq_self hentry] at hsync
        exact hsync
    | some file =>
        apply wp_unlink_ok hentry
        exact hsync

end Succeeding

/-! ### What is left -/

namespace LogStore

/-- Between the rounds of a loop in which no call fails: the rows still to come are as they were
read, and the logs that are left meet `P`. -/
structure Round (s : LogStore) (P : LogId → DiagnosticLogRow → Prop)
    (todo : List (LogId × DiagnosticLogRow)) : Prop where
  consistent : s.Consistent
  nodup : (todo.map Prod.fst).Nodup
  current : ∀ entry ∈ todo, s.logs.get? entry.1 = some entry.2 ∧
    entry.2.captureState.isFinished = true
  left : ∀ id row, s.logs.get? id = some row → s.isRetained row = true → P id row

theorem keys_diagnosticRetentionLogs_nodup (s : LogStore) :
    (s.diagnosticRetentionLogs.map Prod.fst).Nodup := by
  rw [diagnosticRetentionLogs, ((List.perm_insertionSort _ _).map _).nodup_iff]
  exact s.logs.nodup.sublist (List.filter_sublist.map _)

theorem removable_sublist {cutoff : Time} {limit retained : ℕ}
    {rows : List (LogId × DiagnosticLogRow)} :
    (removable cutoff limit retained rows).Sublist rows := by
  induction rows generalizing retained with
  | nil => exact .slnil
  | cons entry rows ih =>
      rw [removable]
      split_ifs
      · exact ih.cons_cons entry
      · exact ih.cons entry

theorem keys_candidates_nodup (s : LogStore) (cutoff : Time) (limit : ℕ) :
    ((s.diagnosticRetentionCandidates cutoff limit).map Prod.fst).Nodup := by
  rw [diagnosticRetentionCandidates, ((List.perm_insertionSort _ _).map _).nodup_iff]
  exact s.keys_diagnosticRetentionLogs_nodup.sublist (removable_sublist.map _)

theorem current_of_mem {s : LogStore} {entry : LogId × DiagnosticLogRow}
    (h : entry ∈ s.diagnosticRetentionLogs) :
    s.logs.get? entry.1 = some entry.2 ∧ entry.2.captureState.isFinished = true := by
  obtain ⟨hrow, hretained⟩ := mem_diagnosticRetentionLogs.mp h
  simp only [isRetained, decide_eq_true_eq] at hretained
  exact ⟨hrow, hretained.1⟩

variable {s t : LogStore} {P P' : LogId → DiagnosticLogRow → Prop} {logId : LogId}
  {row : DiagnosticLogRow} {todo : List (LogId × DiagnosticLogRow)} {now : Time}

/-- The round of a log that is removed. -/
theorem Round.removes (h : s.Round P ((logId, row) :: todo)) (hremoves : Removes logId now s t)
    (hP : ∀ id row, id ≠ logId → P id row → s.logs.get? id = some row → P' id row) :
    t.Round P' todo where
  consistent := hremoves.consistent
  nodup := (List.nodup_cons.mp h.nodup).2
  current entry hentry := by
    have hne : entry.1 ≠ logId := by
      intro heq
      have hkey : entry.1 ∈ todo.map Prod.fst := List.mem_map_of_mem hentry
      exact (List.nodup_cons.mp h.nodup).1 (heq ▸ hkey)
    rw [hremoves.get?_of_ne hne]
    exact h.current entry (List.mem_cons_of_mem _ hentry)
  left id row hrow hretained := by
    obtain ⟨hne, hold, holdRetained⟩ := hremoves.retained hrow hretained
    exact hP id row hne (h.left id row hold holdRetained) hold

/-- The round of a log that stays. -/
theorem Round.stays (h : s.Round P ((logId, row) :: todo))
    (hP : ∀ id row, s.logs.get? id = some row → P id row → P' id row) : s.Round P' todo where
  consistent := h.consistent
  nodup := (List.nodup_cons.mp h.nodup).2
  current entry hentry := h.current entry (List.mem_cons_of_mem _ hentry)
  left id row hrow hretained := hP id row hrow (h.left id row hrow hretained)

/-- The logs that are left fit into the quota, none is older than the cutoff, and each has the
file that its row describes. -/
structure Settled (s : LogStore) (cutoff : Time) (limit : ℕ) : Prop where
  consistent : s.Consistent
  fits : totalSize s.diagnosticRetentionLogs ≤ limit
  unexpired : ∀ entry ∈ s.diagnosticRetentionLogs, isExpired cutoff entry.2 = false
  kept : ∀ entry ∈ s.diagnosticRetentionLogs, s.Matches entry.1 entry.2

/-- Logs that are among those which the filter keeps are settled. -/
theorem settled_of_kept {u : LogStore} {cutoff : Time} {limit : ℕ} (hs : s.Consistent)
    (hleft : ∀ id row, s.logs.get? id = some row → s.isRetained row = true →
      s.Matches id row ∧ (id, row) ∈ LogStore.kept cutoff limit 0 u.diagnosticRetentionLogs) :
    s.Settled cutoff limit where
  consistent := hs
  fits := by
    have hsubset : s.diagnosticRetentionLogs ⊆
        LogStore.kept cutoff limit 0 u.diagnosticRetentionLogs := by
      intro entry hentry
      obtain ⟨hrow, hretained⟩ := mem_diagnosticRetentionLogs.mp hentry
      exact (hleft entry.1 entry.2 hrow hretained).2
    have hsub := List.subperm_of_subset s.nodup_diagnosticRetentionLogs hsubset
    obtain ⟨rows, hperm, hsublist⟩ := hsub
    have hle : totalSize s.diagnosticRetentionLogs ≤
        totalSize (LogStore.kept cutoff limit 0 u.diagnosticRetentionLogs) := by
      rw [← totalSize_perm hperm]
      exact totalSize_sublist hsublist
    have hkept := @totalSize_kept_le cutoff limit 0 _ (Nat.zero_le limit)
      u.nodup_diagnosticRetentionLogs
    omega
  unexpired entry hentry := by
    obtain ⟨hrow, hretained⟩ := mem_diagnosticRetentionLogs.mp hentry
    exact not_expired_of_kept (hleft entry.1 entry.2 hrow hretained).2
  kept entry hentry := by
    obtain ⟨hrow, hretained⟩ := mem_diagnosticRetentionLogs.mp hentry
    exact (hleft entry.1 entry.2 hrow hretained).1

end LogStore

open LogStore in
/-- The first loop leaves logs that match their rows. -/
theorem wp_reconcileAll {s : LogStore} {now : Time} {Q : PUnit → LogStore → Prop}
    {E : RetentionError → LogStore → Prop} (hs : s.Consistent)
    (hQ : ∀ t : LogStore, t.Consistent → (∀ id row, t.logs.get? id = some row →
      t.isRetained row = true → t.Matches id row) → Q ⟨⟩ t) :
    wp (solo FsCall.Succeeds) () (s.diagnosticRetentionLogs.forM (reconcile now)) Q E s := by
  apply wp_forM (I := fun todo t ↦ t.Round
    (fun id row ↦ (id, row) ∉ todo → t.Matches id row) todo)
  · refine ⟨hs, s.keys_diagnosticRetentionLogs_nodup, fun entry h ↦ current_of_mem h, ?_⟩
    intro id row hrow hretained hnot
    exact absurd (mem_diagnosticRetentionLogs.mpr ⟨hrow, hretained⟩) hnot
  · rintro ⟨logId, row⟩ rest t hround
    obtain ⟨hrow, hfinished⟩ := hround.current (logId, row) List.mem_cons_self
    obtain ⟨hid, hreference⟩ := hround.consistent.references logId row hrow
    by_cases hmatches : t.Matches logId row
    · refine wp_reconcile_of_matches (fun _ _ _ _ _ h ↦ h) hid hreference hmatches ?_
      refine hround.stays fun id other hother hP hnot ↦ ?_
      by_cases hsame : (id, other) = (logId, row)
      · obtain ⟨rfl, rfl⟩ := Prod.mk.inj hsame
        exact hmatches
      · exact hP fun hmem ↦ (List.mem_cons.mp hmem).elim hsame hnot
    · refine wp_reconcile_of_not_matches hid hreference hmatches hrow hfinished ?_
      have hremoves := @Consistent.removes_released t logId now hround.consistent
      refine hround.removes hremoves fun id other hne hP _ hnot ↦ ?_
      refine hremoves.matches (hP fun hmem ↦ ?_) hne
      rcases List.mem_cons.mp hmem with hsame | hrest
      · exact hne (Prod.mk.inj hsame).1
      · exact hnot hrest
  · intro t hround
    exact hQ t hround.consistent fun id row hrow hretained ↦
      hround.left id row hrow hretained List.not_mem_nil

open LogStore in
/-- The second loop leaves settled logs. -/
theorem wp_removeCandidates {s : LogStore} {now cutoff : Time} {limit : ℕ}
    {E : RetentionError → LogStore → Prop} (hs : s.Consistent)
    (hmatches : ∀ id row, s.logs.get? id = some row → s.isRetained row = true → s.Matches id row) :
    wp (solo FsCall.Succeeds) ()
      ((s.diagnosticRetentionCandidates cutoff limit).forM (removeCandidate now))
      (fun _ t ↦ t.Settled cutoff limit) E s := by
  apply wp_forM (I := fun todo t ↦ t.Round (fun id row ↦ t.Matches id row ∧
    (id, row) ∈ s.diagnosticRetentionLogs ∧
      ((id, row) ∈ s.diagnosticRetentionCandidates cutoff limit → (id, row) ∈ todo)) todo)
  · refine ⟨hs, s.keys_candidates_nodup cutoff limit,
      fun entry h ↦ current_of_mem (mem_retentionLogs_of_candidate h), ?_⟩
    intro id row hrow hretained
    exact ⟨hmatches id row hrow hretained,
      mem_diagnosticRetentionLogs.mpr ⟨hrow, hretained⟩, fun hmem ↦ hmem⟩
  · rintro ⟨logId, row⟩ rest t hround
    obtain ⟨hrow, hfinished⟩ := hround.current (logId, row) List.mem_cons_self
    refine wp_removeCandidate_of_row hround.consistent hrow hfinished fun u hremoves ↦ ?_
    refine hround.removes hremoves fun id other hne hP _ ↦ ?_
    obtain ⟨hother, hlisted, htodo⟩ := hP
    refine ⟨hremoves.matches hother hne, hlisted, fun hmem ↦ ?_⟩
    exact (List.mem_cons.mp (htodo hmem)).resolve_left fun hsame ↦ hne (Prod.mk.inj hsame).1
  · intro t hround
    refine settled_of_kept (u := s) hround.consistent fun id row hrow hretained ↦ ?_
    obtain ⟨hother, hlisted, hnot⟩ := hround.left id row hrow hretained
    refine ⟨hother, List.mem_filter.mpr ⟨hlisted, decide_eq_true fun hmem ↦ ?_⟩⟩
    exact List.not_mem_nil (hnot (mem_candidates.mpr hmem))

/-- A pass in which no call fails leaves settled logs. -/
theorem wp_enforceRetention_succeeds {s : LogStore} {now : Time} {retentionDays limit : ℕ}
    (hs : s.Consistent) :
    wp (solo FsCall.Succeeds) () (enforceRetention now retentionDays limit)
      (fun _ t ↦ t.Settled (cutoffOf now retentionDays) limit) (fun _ _ ↦ False) s := by
  rw [enforceRetention, wp_bind, wp_read, wp_bind]
  apply wp_reconcileAll hs
  intro t ht hmatches
  rw [wp_bind, wp_read]
  exact wp_removeCandidates ht hmatches

/-- Settled logs all stay in a pass in which no examination fails. -/
theorem wp_enforceRetention_settled {s : LogStore} {now : Time} {retentionDays limit : ℕ}
    (hs : s.Settled (cutoffOf now retentionDays) limit) :
    wp (solo FsCall.Examines) () (enforceRetention now retentionDays limit)
      (fun _ t ↦ t = s) (fun _ _ ↦ False) s := by
  have hnone : s.diagnosticRetentionCandidates (cutoffOf now retentionDays) limit = [] := by
    rw [LogStore.diagnosticRetentionCandidates, LogStore.removable_eq_nil _ hs.unexpired]
    · rfl
    · rw [Nat.zero_add]
      exact hs.fits
  rw [enforceRetention, wp_bind, wp_read, wp_bind]
  apply wp_forM (I := fun todo t ↦ todo ⊆ s.diagnosticRetentionLogs ∧ t = s)
    ⟨List.Subset.refl _, rfl⟩
  · rintro ⟨logId, row⟩ rest t ⟨hsubset, rfl⟩
    have hlisted := hsubset List.mem_cons_self
    obtain ⟨hrow, -⟩ := LogStore.mem_diagnosticRetentionLogs.mp hlisted
    obtain ⟨hid, hreference⟩ := hs.consistent.references logId row hrow
    refine wp_reconcile_of_matches (fun _ _ _ _ hcall h ↦ h.2 hcall) hid hreference
      (hs.kept _ hlisted) ?_
    exact ⟨fun x hx ↦ hsubset (List.mem_cons_of_mem _ hx), rfl⟩
  · rintro t ⟨-, rfl⟩
    rw [wp_bind, wp_read, hnone]
    rfl

/-! ### Every run of passes -/

open LogStore in
/-- In every state of every run of passes, a file on the disk is the log of a row that is not
purged, and the file of a purged row is off the disk. A log is a candidate exactly if it is older
than the cutoff, or does not fit into what the newer logs leave that are no candidates. And a pass
in which no call fails leaves a state of such a run, with logs that fit into the limit, none of
them older than the cutoff, which stay in the same pass as long as no examination fails. -/
theorem retention_exact {P : Pool LogStore FsCall.Reply RetentionError Unit}
    (h : (Pool.system retention).Reachable P) :
    (∀ path file, P.shared.entries path = some file → P.shared.disk path = some file) ∧
    (∀ path file, P.shared.disk path = some file → ∃ logId row,
      P.shared.logs.get? logId = some row ∧ row.relativeRef = some path ∧
        row.captureState ≠ .purged) ∧
    (∀ logId row, P.shared.logs.get? logId = some row → row.captureState = .purged →
      P.shared.disk (reference logId) = none) ∧
    (∀ cutoff limit newer entry older,
      P.shared.diagnosticRetentionLogs = newer ++ entry :: older →
      (entry ∈ P.shared.diagnosticRetentionCandidates cutoff limit ↔
        Excluded cutoff limit (totalSize (newer.filter fun other ↦
          other ∉ P.shared.diagnosticRetentionCandidates cutoff limit)) entry.2)) ∧
    ∀ now retentionDays limit result t,
      Finishes FsCall.Succeeds (enforceRetention now retentionDays limit) P.shared result t →
      result = .ok () ∧ totalSize t.diagnosticRetentionLogs ≤ limit ∧
      (∀ entry ∈ t.diagnosticRetentionLogs,
        isExpired (cutoffOf now retentionDays) entry.2 = false) ∧
      (P.runs () = none → ∃ P', (Pool.system retention).Reachable P' ∧ P'.shared = t ∧
        P'.runs () = none) ∧
      ∀ result' u, Finishes FsCall.Examines (enforceRetention now retentionDays limit) t result' u →
        result' = .ok () ∧ u = t := by
  have hconsistent := consistent_of_reachable h
  refine ⟨hconsistent.written, ?_, ?_, ?_, ?_⟩
  · intro path file hfile
    obtain ⟨logId, row, hrow, hreference⟩ := hconsistent.referenced path file hfile
    refine ⟨logId, row, hrow, hreference, fun hpurged ↦ ?_⟩
    rw [hconsistent.purged logId row hrow hpurged] at hreference
    cases hreference
  · intro logId row hrow hpurged
    rw [Option.eq_none_iff_forall_ne_some]
    intro file hfile
    obtain ⟨id, other, hother, hreference⟩ := hconsistent.referenced _ file hfile
    have hnamed := (hconsistent.references id other hother).2
    rw [hreference] at hnamed
    have hid : logId = id := reference_injective (Option.some.inj (hnamed.resolve_left (by simp)))
    subst hid
    rw [hrow] at hother
    rw [← Option.some.inj hother, hconsistent.purged logId row hrow hpurged] at hreference
    cases hreference
  · intro cutoff limit newer entry older hsplit
    have hnodup := P.shared.nodup_diagnosticRetentionLogs
    simp only [mem_candidates]
    rw [hsplit] at hnodup ⊢
    exact mem_removable_iff hnodup
  · intro now retentionDays limit result t hpass
    obtain ⟨_, rfl, hsettled⟩ := hpass.post_ok (wp_enforceRetention_succeeds hconsistent)
    refine ⟨rfl, hsettled.fits, hsettled.unexpired, fun hidle ↦ ?_, fun result' u hfurther ↦ ?_⟩
    · exact Pool.reachable_of_finishes (fun hcall ↦ Or.inl hcall) h hidle
        ⟨now, retentionDays, limit, rfl⟩ hpass
    · obtain ⟨_, rfl, hsame⟩ := hfurther.post_ok (wp_enforceRetention_settled hsettled)
      exact ⟨rfl, hsame⟩

/-! ### A log whose file cannot be looked at -/

namespace OneLog

def logId : LogId := "log_0123456789abcdefghjkmnpqrs"

def sha256 : String := "0123456789abcdef0123456789abcdef0123456789abcdef0123456789abcdef"

def row : DiagnosticLogRow where
  requestId := "upd_1"
  relativeRef := some (reference logId)
  byteSize := 5
  contentSha256 := some sha256
  captureState := .complete
  errorCode := none
  finalizedAt := some 1000

def file : LogFile where
  isFile := true
  isSymbolicLink := false
  nlink := 1
  isPrivate := true
  isOwn := true
  size := 5
  sha256 := sha256

def directory (path : String) : Option LogFile :=
  if path = reference logId then some file else none

def store : LogStore where
  completedAt := ⟨[("upd_1", some 2000)], List.nodup_singleton _⟩
  logs := ⟨[(logId, row)], List.nodup_singleton _⟩
  entries := directory
  disk := directory

theorem get?_store {id : LogId} {other : DiagnosticLogRow} (h : store.logs.get? id = some other) :
    id = logId ∧ other = row := by
  have hmem : (id, other) ∈ [(logId, row)] := Table.mem_entries_iff.mpr h
  exact Prod.mk.inj (List.mem_singleton.mp hmem)

theorem consistent_store : store.Consistent where
  written _ _ h := h
  referenced path found h := by
    change directory path = some found at h
    rw [directory] at h
    split_ifs at h with hpath
    exact ⟨logId, row, by decide, by rw [hpath]; rfl⟩
  references id other h := by
    obtain ⟨rfl, rfl⟩ := get?_store h
    exact ⟨by decide, .inr rfl⟩
  purged id other h hpurged := by
    obtain ⟨-, rfl⟩ := get?_store h
    cases hpurged

def idle : Pool LogStore FsCall.Reply RetentionError Unit := ⟨store, fun _ ↦ none⟩

theorem reachable_idle : (Pool.system retention).Reachable idle :=
  .of_initial ⟨consistent_store, fun _ ↦ rfl⟩

def pass : Pass Unit := enforceRetention 3000 30 100

/-- No call fails. -/
def answers (_ : ℕ) (call : FsCall) (s : LogStore) : call.Reply × LogStore := call.answer s

/-- The second `lstat` of the file, that of the projection, fails. -/
def badAnswers (n : ℕ) (call : FsCall) (s : LogStore) : call.Reply × LogStore :=
  if n = 3 then (.error .failed, s) else call.answer s

/-- The state after the pass. -/
def checked : LogStore := (play answers 0 pass store).2

theorem finishes_pass : Finishes FsCall.Succeeds pass store (.ok ()) checked := by
  have hsucceeds : ∀ n call s, FsCall.Succeeds call s (answers n call s).1 (answers n call s).2 :=
    fun _ _ _ ↦ rfl
  have hplay := finishes_play hsucceeds 0 pass store
  have hok : (play answers 0 pass store).1 = .ok () := rfl
  rw [hok] at hplay
  exact hplay

theorem performs_badAnswers (n : ℕ) (call : FsCall) (s : LogStore) :
    call.Performs s (badAnswers n call s).1 (badAnswers n call s).2 := by
  rw [badAnswers]
  split_ifs
  · exact .inr (.failed call s)
  · exact .inl rfl

end OneLog

open OneLog in
theorem retention_exact_oneLog :
    (store.entries (reference logId)).isSome = true ∧
      LogStore.totalSize checked.diagnosticRetentionLogs = 5 ∧
      LogStore.totalSize checked.diagnosticRetentionLogs ≤ 100 := by
  obtain ⟨-, hfits, -⟩ := (retention_exact reachable_idle).2.2.2.2 3000 30 100 _ _ finishes_pass
  exact ⟨by decide, by decide, hfits⟩

open OneLog in
/-- After a pass in which no call fails, the same pass removes a log: its second look at the file
fails, and what cannot be looked at is not what the row says. -/
theorem log_removed_by_second_pass :
    ∃ P, (Pool.system retention).Reachable P ∧ P.runs () = none ∧
      ∃ t u, Finishes FsCall.Succeeds (enforceRetention 3000 30 100) P.shared (.ok ()) t ∧
        Finishes FsCall.Performs (enforceRetention 3000 30 100) t (.ok ()) u ∧
        t.logs.get? logId = some row ∧ t.entries (reference logId) = some file ∧
        u.logs.get? logId = some (LogStore.purgeRow 3000 row) ∧
        u.entries (reference logId) = none := by
  have hplay := finishes_play performs_badAnswers 0 pass checked
  have hok : (play badAnswers 0 pass checked).1 = .ok () := rfl
  rw [hok] at hplay
  exact ⟨idle, reachable_idle, rfl, checked, (play badAnswers 0 pass checked).2, finishes_pass,
    hplay, by decide, by decide, by decide, by decide⟩

end Dona.Updater
