import Dona.Jobs.Operations
import Dona.PayloadIdentity

/-!
# The documents of workspaces

`workspace_json` holds the workspace of a job together with the digest of the payload that the job
was created from. Later statements add members and sort them; the digest stays readable.
-/

namespace Dona

open Json Fallible

/-! ### Texts -/

/-- The code units of a character in UTF-16. -/
def unitsOfChar (c : Char) : Text :=
  if c.toNat < 0x10000 then [c.toNat.toUInt16]
  else [(0xd800 + (c.toNat - 0x10000) / 0x400).toUInt16,
    (0xdc00 + (c.toNat - 0x10000) % 0x400).toUInt16]

def utf16 (text : String) : Text := text.toList.flatMap unitsOfChar

/-- The characters of a text whose surrogates are paired. -/
def charsOfUnits? : Text → Option (List Char)
  | [] => some []
  | unit :: units =>
      if unit < 0xd800 ∨ 0xe000 ≤ unit then
        (charsOfUnits? units).map fun chars ↦ .ofNat unit.toNat :: chars
      else
        match units with
        | [] => none
        | next :: units =>
            if unit < 0xdc00 ∧ 0xdc00 ≤ next ∧ next < 0xe000 then
              (charsOfUnits? units).map fun chars ↦
                .ofNat (0x10000 + (unit.toNat - 0xd800) * 0x400 + (next.toNat - 0xdc00)) :: chars
            else none

def stringOfUnits? (text : Text) : Option String := (charsOfUnits? text).map String.ofList

theorem charsOfUnits?_append (c : Char) (units : Text) :
    charsOfUnits? (unitsOfChar c ++ units) = (charsOfUnits? units).map (c :: ·) := by
  have hvalid : c.toNat < 0xd800 ∨ 0xdfff < c.toNat ∧ c.toNat < 0x110000 := c.valid
  unfold unitsOfChar
  split_ifs with hsmall
  · have hunit : c.toNat.toUInt16.toNat = c.toNat := by
      rw [Nat.toUInt16_eq, UInt16.toNat_ofNat']
      exact Nat.mod_eq_of_lt hsmall
    have hplain : c.toNat.toUInt16 < 0xd800 ∨ 0xe000 ≤ c.toNat.toUInt16 := by
      rw [UInt16.lt_iff_toNat_lt, UInt16.le_iff_toNat_le, hunit]
      change c.toNat < 0xd800 ∨ 0xe000 ≤ c.toNat
      omega
    rw [List.singleton_append, charsOfUnits?.eq_def]
    dsimp only
    rw [if_pos hplain, hunit, Char.ofNat_toNat]
  · have hhigh : ((0xd800 + (c.toNat - 0x10000) / 0x400).toUInt16).toNat =
        0xd800 + (c.toNat - 0x10000) / 0x400 := by
      rw [Nat.toUInt16_eq, UInt16.toNat_ofNat']
      omega
    have hlow : ((0xdc00 + (c.toNat - 0x10000) % 0x400).toUInt16).toNat =
        0xdc00 + (c.toNat - 0x10000) % 0x400 := by
      rw [Nat.toUInt16_eq, UInt16.toNat_ofNat']
      omega
    rw [List.cons_append, List.singleton_append, charsOfUnits?.eq_def]
    dsimp only
    rw [if_neg, if_pos, hhigh, hlow]
    · have hchar : 0x10000 + (0xd800 + (c.toNat - 0x10000) / 0x400 - 0xd800) * 0x400 +
          (0xdc00 + (c.toNat - 0x10000) % 0x400 - 0xdc00) = c.toNat := by omega
      rw [hchar, Char.ofNat_toNat]
    · simp only [UInt16.lt_iff_toNat_lt, UInt16.le_iff_toNat_le, hhigh, hlow, UInt16.reduceToNat]
      omega
    · simp only [UInt16.lt_iff_toNat_lt, UInt16.le_iff_toNat_le, hhigh, UInt16.reduceToNat]
      omega

theorem stringOfUnits?_utf16 (text : String) : stringOfUnits? (utf16 text) = some text := by
  have hchars : ∀ chars : List Char, charsOfUnits? (chars.flatMap unitsOfChar) = some chars := by
    intro chars
    induction chars with
    | nil => rfl
    | cons c chars ih => rw [List.flatMap_cons, charsOfUnits?_append, ih, Option.map_some]
  rw [stringOfUnits?, utf16, hchars, Option.map_some, String.ofList_toList]

/-- `/^[0-9a-f]{64}$/` -/
def isSha256 (text : Text) : Bool :=
  text.length = 64 && text.all fun unit ↦ (48 ≤ unit && unit ≤ 57) || (97 ≤ unit && unit ≤ 102)

/-! ### Objects -/

/-- The members of an object, under the names that it has. -/
abbrev Members (N : Type) := Table Text (Json N)

namespace Members

variable {N : Type}

/-- A member is set: in its place, or after the others. -/
def assign (members : Members N) (key : Text) (value : Json N) : Members N :=
  (members.insert? key value).getD (members.updateKey key fun _ ↦ value)

theorem get?_assign (members : Members N) (key : Text) (value : Json N) (key' : Text) :
    (members.assign key value).get? key' = if key' = key then some value else members.get? key' := by
  unfold assign
  cases hinsert : members.insert? key value with
  | some inserted => exact Table.get?_insert? hinsert key'
  | none =>
      obtain ⟨former, hformer⟩ := Table.exists_of_insert?_eq_none hinsert
      rw [Option.getD_none, Table.get?_updateKey]
      by_cases hkey : key' = key
      · simp [hkey, hformer]
      · simp [hkey]

/-- The object as `stableStringify` writes it. -/
def sortedBy (collation : Collation) (members : Members N) : Members N where
  entries := sortedEntries collation (sortedMembers collation members.entries)
  nodup := by
    have hperm := perm_sortedEntries collation (sortedMembers collation members.entries)
    rw [(hperm.map Prod.fst).nodup_iff, sortedMembers_eq, map_fst_sortedMembers]
    exact members.nodup

theorem get?_sortedBy (collation : Collation) (members : Members N) (key : Text) :
    (members.sortedBy collation).get? key = (members.get? key).map (sorted collation) := by
  ext value
  rw [← Table.mem_entries_iff, Option.map_eq_some_iff]
  change _ ∈ sortedEntries collation (sortedMembers collation members.entries) ↔ _
  rw [(perm_sortedEntries collation _).mem_iff, sortedMembers_eq, List.mem_map]
  constructor
  · rintro ⟨⟨key', child⟩, hmember, heq⟩
    obtain ⟨rfl, rfl⟩ := Prod.mk.inj heq
    exact ⟨child, Table.mem_entries_iff.mp hmember, rfl⟩
  · rintro ⟨child, hchild, rfl⟩
    exact ⟨(key, child), Table.mem_entries_iff.mpr hchild, rfl⟩

end Members

/-! ### Workspaces -/

def jobCreationMetadataKey : Text := unitsOf "__dona_job_creation"
def jobResourceMetadataKey : Text := unitsOf "__dona_job_resource"
def jobDisplayMetadataKey : Text := unitsOf "__dona_job_display"

variable {N : Type}

/-- What is read of the columns of an event. -/
structure EventView where
  occurredAt : Timestamp
  subject : EventSubject
  payload : EventPayload
  replyTarget : Option ReplyTarget

/-- What the creation of events and jobs depends on outside the database. -/
structure CreationEnv (N : Type) where
  jobs : JobsEnv
  collation : Collation
  numerals : Numerals N
  /-- A length as a number of a document. -/
  natural : ℕ → N
  /-- The digest of a text in hexadecimal. -/
  sha256 : Text → Text
  isSha256_sha256 (text : Text) : isSha256 (sha256 text) = true
  createJobDisplayLabel : Option String → JobWorkspace → Option Text
  view : Dispatcher.EventColumns → EventView

def JobWorkspace.members : JobWorkspace → Members N
  | scratch => Members.assign .empty (unitsOf "kind") (.string (unitsOf "scratch"))
  | github repository baseRef =>
      let members := Members.assign (Members.assign .empty (unitsOf "kind")
        (.string (unitsOf "github"))) (unitsOf "repository") (.string (utf16 repository))
      match baseRef with
      | none => members
      | some ref => members.assign (unitsOf "base_ref") (.string (utf16 ref))

def canonicalJobPayload (request : CreateJobRequest) : Json N :=
  .object [(unitsOf "objective", .string (utf16 request.objective)),
    (unitsOf "workspace", .object request.workspace.members.entries)]

def canonicalJobPayloadSha256 (env : CreationEnv N) (request : CreateJobRequest) : Text :=
  env.sha256 (Dispatcher.stableStringify env.collation env.numerals (canonicalJobPayload request))

/-- `{ canonical_payload_sha256: … }` -/
def creationMetadata (canonicalPayloadSha256 : Text) : Json N :=
  .object [(unitsOf "canonical_payload_sha256", .string canonicalPayloadSha256)]

def serializeJobWorkspace (env : CreationEnv N) (workspace : JobWorkspace)
    (canonicalPayloadSha256 : Text) (objectiveUtf8Bytes : Option ℕ) (displayLabel : Option Text) :
    Members N :=
  let members := workspace.members.assign jobCreationMetadataKey
    (creationMetadata canonicalPayloadSha256)
  let members := match objectiveUtf8Bytes with
    | none => members
    | some bytes => members.assign jobResourceMetadataKey
        (.object [(unitsOf "objective_utf8_bytes", .number (env.natural bytes))])
  let members := match displayLabel with
    | none => members
    | some label => members.assign jobDisplayMetadataKey
        (.object [(unitsOf "label", .string label)])
  members.sortedBy env.collation

/-- A member that is a string. -/
def Members.string? (members : Members N) (key : String) : Option Text :=
  match members.get? (unitsOf key) with
  | some (.string text) => some text
  | _ => none

/-- The members that a workspace does not have are passed over. -/
def parseJobWorkspace (document : Members N) : Except String JobWorkspace :=
  if document.string? "kind" = some (unitsOf "scratch") then .ok .scratch
  else if document.string? "kind" = some (unitsOf "github") then do
    let repository ← orThrow ((document.string? "repository").bind stringOfUnits?)
      "repository is invalid"
    let baseRef ← (if document.get? (unitsOf "base_ref") = none then .ok none
      else (orThrow ((document.string? "base_ref").bind stringOfUnits?)
        "base_ref is invalid").map some)
    throwIf ((JobWorkspace.github repository baseRef).accepted = false) "workspace is invalid"
    .ok (JobWorkspace.github repository baseRef).normalized
  else .error "kind is invalid"

/-- The digest in the document of a workspace, where there is exactly that. -/
def jobCreationPayloadSha256FromWorkspace (document : Members N) : Option Text :=
  match document.get? jobCreationMetadataKey with
  | some (.object [(key, .string digest)]) =>
      if key = unitsOf "canonical_payload_sha256" ∧ isSha256 digest then some digest else none
  | _ => none

/-! ### Digests stay readable -/

theorem jobCreationPayloadSha256_eq_some_iff {document : Members N} {digest : Text} :
    jobCreationPayloadSha256FromWorkspace document = some digest ↔
      document.get? jobCreationMetadataKey = some (creationMetadata digest) ∧
        isSha256 digest = true := by
  unfold jobCreationPayloadSha256FromWorkspace creationMetadata
  constructor
  · intro h
    split at h
    · rename_i key digest' hmember
      split_ifs at h with hdigest
      obtain rfl := Option.some.inj h
      rw [hmember, hdigest.1]
      exact ⟨rfl, hdigest.2⟩
    · cases h
  · rintro ⟨hmember, hdigest⟩
    rw [hmember]
    exact if_pos ⟨rfl, hdigest⟩

theorem sorted_creationMetadata (collation : Collation) (digest : Text) :
    sorted collation (creationMetadata (N := N) digest) = creationMetadata digest := rfl

/-- A member of another name is added. -/
theorem jobCreationPayloadSha256_assign {document : Members N} {digest key : Text}
    (value : Json N) (hkey : key ≠ jobCreationMetadataKey)
    (h : jobCreationPayloadSha256FromWorkspace document = some digest) :
    jobCreationPayloadSha256FromWorkspace (document.assign key value) = some digest := by
  rw [jobCreationPayloadSha256_eq_some_iff] at h ⊢
  rw [Members.get?_assign, if_neg hkey.symm]
  exact h

/-- The members are sorted. -/
theorem jobCreationPayloadSha256_sortedBy {collation : Collation} {document : Members N}
    {digest : Text} (h : jobCreationPayloadSha256FromWorkspace document = some digest) :
    jobCreationPayloadSha256FromWorkspace (document.sortedBy collation) = some digest := by
  rw [jobCreationPayloadSha256_eq_some_iff] at h ⊢
  rw [Members.get?_sortedBy, h.1, Option.map_some, sorted_creationMetadata]
  exact ⟨rfl, h.2⟩

/-- The digest that a job is created with is the one that is read again. -/
theorem jobCreationPayloadSha256_serializeJobWorkspace {env : CreationEnv N}
    {workspace : JobWorkspace} {digest : Text} {bytes : Option ℕ} {label : Option Text}
    (h : isSha256 digest = true) :
    jobCreationPayloadSha256FromWorkspace
      (serializeJobWorkspace env workspace digest bytes label) = some digest := by
  unfold serializeJobWorkspace
  apply jobCreationPayloadSha256_sortedBy
  have hcreation : jobCreationPayloadSha256FromWorkspace
      ((workspace.members (N := N)).assign jobCreationMetadataKey (creationMetadata digest)) =
        some digest := by
    rw [jobCreationPayloadSha256_eq_some_iff, Members.get?_assign, if_pos rfl]
    exact ⟨rfl, h⟩
  have hresource : jobResourceMetadataKey ≠ jobCreationMetadataKey := by decide
  have hdisplay : jobDisplayMetadataKey ≠ jobCreationMetadataKey := by decide
  cases bytes with
  | none =>
      cases label with
      | none => exact hcreation
      | some label => exact jobCreationPayloadSha256_assign _ hdisplay hcreation
  | some bytes =>
      have hbytes := jobCreationPayloadSha256_assign
        (.object [(unitsOf "objective_utf8_bytes", .number (env.natural bytes))]) hresource
        hcreation
      cases label with
      | none => exact hbytes
      | some label => exact jobCreationPayloadSha256_assign _ hdisplay hbytes

/-! ### Workspaces stay readable -/

theorem Members.string?_sortedBy (collation : Collation) (document : Members N) (key : String) :
    (document.sortedBy collation).string? key = document.string? key := by
  unfold string?
  rw [get?_sortedBy]
  cases document.get? (unitsOf key) with
  | none => rfl
  | some value => cases value <;> rfl

theorem Members.string?_assign {document : Members N} {key : Text} {name : String}
    (value : Json N) (hkey : key ≠ unitsOf name) :
    (document.assign key value).string? name = document.string? name := by
  unfold string?
  rw [get?_assign, if_neg hkey.symm]

theorem parseJobWorkspace_sortedBy (collation : Collation) (document : Members N) :
    parseJobWorkspace (document.sortedBy collation) = parseJobWorkspace document := by
  simp only [parseJobWorkspace, Members.string?_sortedBy, Members.get?_sortedBy,
    Option.map_eq_none_iff]

/-- Any other member is passed over. -/
theorem parseJobWorkspace_assign {document : Members N} {key : Text} (value : Json N)
    (hkey : ["kind", "repository", "base_ref"].all (fun name ↦ key ≠ unitsOf name) = true) :
    parseJobWorkspace (document.assign key value) = parseJobWorkspace document := by
  simp only [List.all_cons, List.all_nil, Bool.and_true, Bool.and_eq_true, decide_eq_true_eq] at hkey
  obtain ⟨hkind, hrepository, hbaseRef⟩ := hkey
  simp only [parseJobWorkspace, Members.string?_assign value hkind,
    Members.string?_assign value hrepository, Members.string?_assign value hbaseRef,
    Members.get?_assign, if_neg hbaseRef.symm]

theorem parseJobWorkspace_members {workspace : JobWorkspace} (h : workspace.accepted = true) :
    parseJobWorkspace (N := N) workspace.members = .ok workspace.normalized := by
  have hkind : unitsOf "kind" ≠ unitsOf "repository" := by decide
  have hkindRef : unitsOf "kind" ≠ unitsOf "base_ref" := by decide
  have hrepositoryRef : unitsOf "repository" ≠ unitsOf "base_ref" := by decide
  have hscratch : unitsOf "github" ≠ unitsOf "scratch" := by decide
  cases workspace with
  | scratch => simp [parseJobWorkspace, JobWorkspace.members, Members.string?, Members.get?_assign,
      JobWorkspace.normalized]
  | github repository baseRef =>
      cases baseRef with
      | none =>
          simp [parseJobWorkspace, JobWorkspace.members, Members.string?, Members.get?_assign, hkind,
            hkindRef.symm, hrepositoryRef.symm, hscratch, stringOfUnits?_utf16, h, orThrow, throwIf]
      | some ref =>
          simp [parseJobWorkspace, JobWorkspace.members, Members.string?, Members.get?_assign, hkind,
            hkindRef, hrepositoryRef, hscratch, stringOfUnits?_utf16, h, orThrow, throwIf,
            Except.map]

theorem JobWorkspace.accepted_normalized (workspace : JobWorkspace) :
    workspace.normalized.accepted = workspace.accepted := by
  cases workspace with
  | scratch => rfl
  | github repository baseRef =>
      cases baseRef <;> simp [normalized, accepted, trimmed_trimmed]

/-- The workspace that a job is created with is the one that is read again. -/
theorem parseJobWorkspace_serializeJobWorkspace {env : CreationEnv N} {workspace : JobWorkspace}
    {digest : Text} {bytes : Option ℕ} {label : Option Text} (h : workspace.accepted = true) :
    parseJobWorkspace (serializeJobWorkspace env workspace digest bytes label) =
      .ok workspace.normalized := by
  have hcreation := @parseJobWorkspace_assign N workspace.members jobCreationMetadataKey
    (creationMetadata digest) (by decide)
  rw [parseJobWorkspace_members h] at hcreation
  unfold serializeJobWorkspace
  rw [parseJobWorkspace_sortedBy]
  cases bytes with
  | none =>
      cases label with
      | none => exact hcreation
      | some label => exact (parseJobWorkspace_assign _ (by decide)).trans hcreation
  | some bytes =>
      have hbytes := (@parseJobWorkspace_assign N _ jobResourceMetadataKey
        (.object [(unitsOf "objective_utf8_bytes", .number (env.natural bytes))])
        (by decide)).trans hcreation
      cases label with
      | none => exact hbytes
      | some label => exact (parseJobWorkspace_assign _ (by decide)).trans hbytes

end Dona
