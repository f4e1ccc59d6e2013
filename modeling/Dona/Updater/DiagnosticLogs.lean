import Dona.Library.CoroutineRuns
import Dona.Updater.Database
import Mathlib.Data.List.Sort
import Mathlib.Data.String.Basic

/-!
# Retention of diagnostic logs

The index of the logs, the directory of their files, and the passes that remove logs. The calls
of the file system suspend a pass; the statements on the index are atomic. The two directories
above the files exist. What identifies a file, its bytes apart, is the same for `lstat` and `open`,
since nothing but a pass touches a finished log.
-/

namespace Dona.Updater

open Fallible

abbrev LogId := String

/-- The last three are not stored: they are what a projection finds. -/
inductive DiagnosticLogState
  | capturing | complete | truncated | writeFailed | purged
  | missing | readError | sizeMismatch
  deriving DecidableEq

structure DiagnosticLogRow where
  requestId : RequestId
  relativeRef : Option String
  byteSize : ℕ
  contentSha256 : Option String
  captureState : DiagnosticLogState
  errorCode : Option String
  finalizedAt : Option Time
  purgedAt : Option Time := none
  deriving DecidableEq

/-- What `lstat` tells: `isPrivate` says that no bit of `0o077` is set, `isOwn` that the owner is
the user of the process. -/
structure FileStats where
  isFile : Bool
  isSymbolicLink : Bool
  nlink : ℕ
  isPrivate : Bool
  isOwn : Bool
  size : ℕ
  deriving DecidableEq

/-- An entry of the directory, with the digest of its bytes. -/
structure LogFile extends FileStats where
  sha256 : String
  deriving DecidableEq

/-- The index, and the directory: its entries, and those that a crash can bring back because
their removal has not been written. -/
structure LogStore where
  completedAt : Table RequestId (Option Time)
  logs : Table LogId DiagnosticLogRow
  entries : String → Option LogFile
  disk : String → Option LogFile

/-! ### The index -/

/-- `capture_state IN ('complete','truncated','write_failed')` -/
def DiagnosticLogState.isFinished (state : DiagnosticLogState) : Bool :=
  [complete, truncated, writeFailed].contains state

/-- `ORDER BY logs.finalized_at DESC, logs.log_id DESC`; `NULL` is last. -/
def newerFirst (left right : LogId × DiagnosticLogRow) : Bool :=
  match left.2.finalizedAt, right.2.finalizedAt with
  | some a, some b => b < a ∨ (a = b ∧ right.1 ≤ left.1)
  | some _, none => true
  | none, some _ => false
  | none, none => right.1 ≤ left.1

namespace LogStore

/-- The log is finished, and its request is completed. -/
def isRetained (store : LogStore) (row : DiagnosticLogRow) : Bool :=
  row.captureState.isFinished ∧ (store.completedAt.get? row.requestId).any (·.isSome)

def diagnosticRetentionLogs (store : LogStore) : List (LogId × DiagnosticLogRow) :=
  (store.logs.select fun _ row ↦ store.isRetained row).insertionSort fun a b ↦ newerFirst a b

def isExpired (cutoff : Time) (row : DiagnosticLogRow) : Bool :=
  row.finalizedAt.any (· < cutoff)

/-- The filter of `diagnosticRetentionCandidates`, after `retainedBytes` of newer logs. -/
def removable (cutoff : Time) (aggregateLimitBytes : ℕ) :
    ℕ → List (LogId × DiagnosticLogRow) → List (LogId × DiagnosticLogRow)
  | _, [] => []
  | retainedBytes, entry :: rest =>
      if isExpired cutoff entry.2 ∨ aggregateLimitBytes < retainedBytes + entry.2.byteSize then
        entry :: removable cutoff aggregateLimitBytes retainedBytes rest
      else removable cutoff aggregateLimitBytes (retainedBytes + entry.2.byteSize) rest

/-- `(left.finalized_at ?? "").localeCompare(…) || left.log_id.localeCompare(right.log_id)` -/
def olderFirst (left right : LogId × DiagnosticLogRow) : Bool := newerFirst right left

def diagnosticRetentionCandidates (store : LogStore) (cutoff : Time) (aggregateLimitBytes : ℕ) :
    List (LogId × DiagnosticLogRow) :=
  (removable cutoff aggregateLimitBytes 0 store.diagnosticRetentionLogs).insertionSort
    fun a b ↦ olderFirst a b

def purgeRow (now : Time) (row : DiagnosticLogRow) : DiagnosticLogRow :=
  { row with
    captureState := .purged
    relativeRef := none
    contentSha256 := none
    errorCode := none
    purgedAt := some now }

def isPurgeable (logId : LogId) : LogId → DiagnosticLogRow → Bool :=
  fun id row ↦ id = logId ∧ row.captureState.isFinished

def markDiagnosticPurged (logId : LogId) (now : Time) (store : LogStore) :
    Except String (Unit × LogStore) := do
  throwIf (store.logs.count (isPurgeable logId) ≠ 1) "diagnostic_log_purge_state_mismatch"
  .ok ((), { store with logs := store.logs.updateWhere (isPurgeable logId) (purgeRow now) })

end LogStore

/-! ### The file system -/

inductive FsError
  | missing | failed
  deriving DecidableEq

inductive FsCall
  | assertPrivateDirectories
  | lstat (path : String)
  /-- Opens the file, compares it with its statistics and reads it to its digest. -/
  | digest (path : String)
  | unlink (path : String)
  | fsyncLogsDirectory

namespace FsCall

@[reducible] def Value : FsCall → Type
  | lstat _ => FileStats
  | digest _ => String
  | _ => Unit

@[reducible] def Reply (call : FsCall) : Type := Except FsError call.Value

/-- The reply to a call that does not fail, and what it leaves. -/
def answer : (call : FsCall) → LogStore → call.Reply × LogStore
  | assertPrivateDirectories, store => (.ok (), store)
  | lstat path, store =>
      match store.entries path with
      | some file => (.ok file.toFileStats, store)
      | none => (.error .missing, store)
  | digest path, store =>
      match store.entries path with
      | some file => (.ok file.sha256, store)
      | none => (.error .missing, store)
  | unlink path, store =>
      match store.entries path with
      | some _ => (.ok (), { store with entries := Function.update store.entries path none })
      | none => (.error .missing, store)
  | fsyncLogsDirectory, store => (.ok (), { store with disk := store.entries })

/-- A call that fails changes nothing, but for an entry that it may have removed. A sync can also
report that the directory is missing. -/
inductive Fails : (call : FsCall) → LogStore → call.Reply → LogStore → Prop
  | failed (call : FsCall) (store : LogStore) : Fails call store (.error .failed) store
  | removed (path : String) (store : LogStore) : Fails (unlink path) store (.error .failed)
      { store with entries := Function.update store.entries path none }
  | missing (store : LogStore) : Fails fsyncLogsDirectory store (.error .missing) store

def Succeeds (call : FsCall) (store : LogStore) (reply : call.Reply) (store' : LogStore) : Prop :=
  call.answer store = (reply, store')

def Performs (call : FsCall) (store : LogStore) (reply : call.Reply) (store' : LogStore) : Prop :=
  call.Succeeds store reply store' ∨ call.Fails store reply store'

end FsCall

/-! ### A pass -/

inductive RetentionError
  | fs (error : FsError)
  | message (text : String)
  deriving DecidableEq

abbrev Pass := Coroutine LogStore FsCall.Reply RetentionError

def fs (call : FsCall) : Pass call.Value := do
  match ← Coroutine.call call with
  | .ok value => pure value
  | .error error => throw (.fs error)

/-- The characters of `/^log_[0-9a-hjkmnp-tv-z]{26}$/` -/
def isLogIdentifierChar (c : Char) : Bool :=
  "0123456789abcdefghjkmnpqrstvwxyz".toList.contains c

def isLogIdentifier (logId : LogId) : Bool :=
  "log_".toList.isPrefixOf logId.toList ∧ logId.toList.length = 30 ∧
    (logId.toList.drop 4).all isLogIdentifierChar

/-- `/^[0-9a-f]{64}$/` -/
def isSha256 (value : String) : Bool :=
  value.toList.length = 64 ∧ value.toList.all fun c ↦ "0123456789abcdef".toList.contains c

def reference (logId : LogId) : String := "logs/" ++ logId ++ ".log"

/-- A path is given relative to the root, as in the row. -/
def resolveRow (logId : LogId) (row : DiagnosticLogRow) : Pass String :=
  if isLogIdentifier logId = false ∨ row.relativeRef ≠ some (reference logId) then
    throw (.message "diagnostic_reference_invalid")
  else do
    fs .assertPrivateDirectories
    pure (reference logId)

/-- The file is not a private regular file of the user. -/
def FileStats.isUnsafe (stats : FileStats) : Bool :=
  stats.isFile = false ∨ stats.isSymbolicLink ∨ stats.nlink ≠ 1 ∨ stats.isPrivate = false ∨
    stats.isOwn = false

/-- The state of the file of a row that says that there is one. -/
def projectFile (logId : LogId) (row : DiagnosticLogRow) : Pass DiagnosticLogState := do
  let file ← resolveRow logId row
  let stats : FileStats ← fs (.lstat file)
  if stats.isUnsafe then pure .readError
  else if stats.size ≠ row.byteSize then pure .sizeMismatch
  else if row.contentSha256.any isSha256 = false then pure .readError
  else do
    let digest : String ← fs (.digest file)
    if some digest ≠ row.contentSha256 then throw (.message "diagnostic_digest_mismatch")
    else pure row.captureState

/-- The `capture_state` of a projection. -/
def project (logId : LogId) (row : DiagnosticLogRow) : Pass DiagnosticLogState :=
  if [DiagnosticLogState.purged, .writeFailed, .capturing].contains row.captureState then
    pure row.captureState
  else
    tryCatch (projectFile logId row) fun error ↦
      pure (if error = .fs .missing then .missing else .readError)

def mark (logId : LogId) (now : Time) : Pass Unit :=
  Coroutine.transact fun store ↦
    (store.markDiagnosticPurged logId now).mapError RetentionError.message

/-- The entry may not be removed: it is something else, or of another user. -/
def FileStats.isKept (stats : FileStats) : Bool :=
  (stats.isFile = false ∧ stats.isSymbolicLink = false) ∨ stats.isOwn = false

/-- The first loop, for a row with a file: the file is what the row says, or it goes. -/
def inspect (now : Time) (logId : LogId) (row : DiagnosticLogRow) : Pass Unit := do
  let file ← resolveRow logId row
  let stats : FileStats ← fs (.lstat file)
  let projected ← project logId row
  if projected = row.captureState then pure ()
  else if stats.isKept then pure ()
  else do
    fs (.unlink file)
    fs .fsyncLogsDirectory
    mark logId now

def reconcile (now : Time) (entry : LogId × DiagnosticLogRow) : Pass PUnit :=
  if entry.2.relativeRef = none then pure ()
  else
    tryCatch (inspect now entry.1 entry.2) fun error ↦
      if error ≠ .fs .missing then pure ()
      else
        -- the observed absence is written before the row gives up its reference
        tryCatch (do
          fs .fsyncLogsDirectory
          mark entry.1 now) fun _ ↦ pure ()

/-- Removes the entry of a row. `none`: the entry is still there; else whether the directory has
to be synced. -/
def unlinkEntry (logId : LogId) (row : DiagnosticLogRow) : Pass (Option Bool) :=
  if row.relativeRef = none then pure (some false)
  else
    tryCatch (do
      let file ← resolveRow logId row
      fs (.unlink file)
      pure (some true)) fun error ↦
        pure (if error = .fs .missing then some true else none)

/-- Whether what has been removed is written. -/
def syncRemoval : Option Bool → Pass Bool
  | none => pure false
  | some false => pure true
  | some true =>
      tryCatch (do
        fs .fsyncLogsDirectory
        pure true) fun _ ↦ pure false

/-- The second loop. -/
def removeCandidate (now : Time) (entry : LogId × DiagnosticLogRow) : Pass PUnit := do
  let removal ← unlinkEntry entry.1 entry.2
  if ← syncRemoval removal then mark entry.1 now else pure ()

def cutoffOf (now : Time) (retentionDays : ℕ) : Time := now - retentionDays * 86400000

def enforceRetention (now : Time) (retentionDays aggregateLimitBytes : ℕ) : Pass Unit := do
  (← Coroutine.read LogStore.diagnosticRetentionLogs).forM (reconcile now)
  (← Coroutine.read fun store ↦ store.diagnosticRetentionCandidates (cutoffOf now retentionDays)
    aggregateLimitBytes).forM (removeCandidate now)

/-! ### Runs of passes -/

namespace LogStore

/-- Every entry is on the disk, and every file on the disk is the log of a row. -/
structure Consistent (store : LogStore) : Prop where
  written : ∀ path file, store.entries path = some file → store.disk path = some file
  referenced : ∀ path file, store.disk path = some file →
    ∃ logId row, store.logs.get? logId = some row ∧ row.relativeRef = some path
  references : ∀ logId row, store.logs.get? logId = some row →
    isLogIdentifier logId = true ∧
      (row.relativeRef = none ∨ row.relativeRef = some (reference logId))
  purged : ∀ logId row, store.logs.get? logId = some row → row.captureState = .purged →
    row.relativeRef = none

/-- Removals become durable at any time. -/
structure Flushes (store store' : LogStore) : Prop where
  completedAt : store'.completedAt = store.completedAt
  logs : store'.logs = store.logs
  entries : store'.entries = store.entries
  disk : ∀ path, store'.disk path = store.disk path ∨ store'.disk path = store.entries path

/-- A crash brings back some of the entries whose removal has not been written, and keeps some
removals unwritten. -/
structure Crashes (store store' : LogStore) : Prop where
  completedAt : store'.completedAt = store.completedAt
  logs : store'.logs = store.logs
  entries : ∀ path, store'.entries path = store.entries path ∨ store'.entries path = store.disk path
  disk : ∀ path, store'.disk path = store'.entries path ∨ store'.disk path = store.disk path

end LogStore

/-- One pass after the other, each ended by its last step or by a crash. -/
def retention : Pool.Surroundings LogStore FsCall.Reply RetentionError Unit where
  initial := LogStore.Consistent
  perform := FsCall.Performs
  programs _ _ pass := ∃ now retentionDays aggregateLimitBytes,
    pass = enforceRetention now retentionDays aggregateLimitBytes
  kill _ := LogStore.Crashes
  environment := LogStore.Flushes

end Dona.Updater
