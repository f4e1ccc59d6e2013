import Dona.Library.JsonRender
import Dona.Scheduler.CalendarTexts
import Dona.Scheduler.StrictJson
import Mathlib.Data.List.Sort

/-!
# The codecs of schedules

`recurrence.ts` and `policy.ts` of the scheduler: what a document must be to be a recurrence or a
policy, and the canonical text of one.
-/

namespace Dona.Scheduler.Codec

open Doubles (Number)
open Fallible Json

/-! ### Numbers -/

/-- An integer as a number, up to the sign of zero. -/
def ofInteger (value : IntegerNumber) : Number :=
  match value.magnitude with
  | none => .infinite value.negative
  | some magnitude => .finite (if value.negative then -(magnitude : ℚ) else magnitude)

/-- `Number(token)`, where `fractional` is what a numeral with a fraction or an exponent becomes. -/
def numeral (fractional : Text → Number) (token : Text) : Number :=
  if testInteger token then ofInteger (toNumber token) else fractional token

def natural (n : ℕ) : Number := .finite n

/-! ### Canonical texts -/

/-- `a < b ? -1 : a > b ? 1 : 0` is not positive: by code units. -/
def unitsLe : Text → Text → Bool
  | [], _ => true
  | _ :: _, [] => false
  | unit :: rest, unit' :: rest' => unit < unit' || (unit == unit' && unitsLe rest rest')

mutual

/-- `sort(input)`. No name here is an array index, and the other names keep their order. -/
def sortMembers : Json ℕ → Json ℕ
  | .array items => .array (sortItems items)
  | .object members =>
      .object ((sortValues members).insertionSort fun left right ↦ unitsLe left.1 right.1 = true)
  | value => value

def sortItems : List (Json ℕ) → List (Json ℕ)
  | [] => []
  | item :: items => sortMembers item :: sortItems items

def sortValues : List (Text × Json ℕ) → List (Text × Json ℕ)
  | [] => []
  | (key, value) :: members => (key, sortMembers value) :: sortValues members

end

def canonicalJson (value : Json ℕ) : Text := render decimals (sortMembers value) ++ [10]

/-! ### Schemas -/

/-- What the codecs take from outside: the names of the zone data, the names that `strictObject`
passes over, and `Number` of a numeral with a fraction or an exponent. -/
structure Env where
  zones : Text → Bool
  passesOver : Text → Bool
  fractional : Text → Number

/-- `input[name]` -/
def get? (members : List (Text × Json Number)) (name : String) : Option (Json Number) :=
  members.lookup (unitsOf name)

def isNumber (value : Option (Json Number)) (n : ℕ) : Bool :=
  match value with
  | some (.number given) => given = natural n
  | _ => false

/-- `z.string()` -/
def stringField (value : Option (Json Number)) : Option Text :=
  match value with
  | some (.string text) => some text
  | _ => none

/-- `z.number().int().min(low).max(high)` -/
def intField (low high : ℕ) (value : Option (Json Number)) : Option ℕ :=
  match value with
  | some (.number (.finite given)) =>
      if given.den = 1 ∧ (low : ℚ) ≤ given ∧ given ≤ (high : ℚ) then some given.num.toNat else none
  | _ => none

/-- `z.string().transform(parse)`: what `parse` throws is thrown, a value of another type is an
issue of the schema. -/
def transformField (parse : Text → Except ErrorCode Text) (value : Option (Json Number)) :
    Except ErrorCode (Option Text) :=
  match stringField value with
  | some text => some <$> parse text
  | none => .ok none

/-- The array of the days of a week. -/
def weekdaysField (value : Option (Json Number)) : Option (List ℕ) :=
  match value with
  | some (.array items) => do
      let weekdays ← items.mapM fun item ↦ intField 1 7 (some item)
      if 1 ≤ weekdays.length ∧ weekdays.length ≤ 7 ∧
          (weekdays.zip weekdays.tail).all (fun days ↦ days.1 < days.2) then some weekdays
      else none
  | _ => none

/-- `common` -/
structure Common where
  startDate : Text
  localTime : Text
  timezone : Text
  tzdbVersion : Text

inductive Recurrence
  | once (instant : Text)
  | daily (common : Common) (interval : ℕ)
  | weekly (common : Common) (interval : ℕ) (weekdays : List ℕ)
  | monthly (common : Common) (interval day : ℕ)

variable (env : Env)

/-- `z.strictObject`: the version is 1, and there are no other names. -/
def strictObject (members : List (Text × Json Number)) (names : List String) : Bool :=
  isNumber (get? members "version") 1 &&
    members.all fun member ↦ (names.map unitsOf).contains member.1 || env.passesOver member.1

def onceSchema (members : List (Text × Json Number)) :
    Except ErrorCode (Option Recurrence) := do
  let instant ← transformField utcInstant (get? members "at")
  .ok do
    let instant ← instant
    if strictObject env members ["version", "kind", "at"] then some (.once instant) else none

/-- A schema with the fields of `common`, and of `names`. -/
def commonSchema (members : List (Text × Json Number)) (names : List String)
    (parse : Common → Option Recurrence) : Except ErrorCode (Option Recurrence) := do
  let startDate ← transformField localDate (get? members "start_date")
  let localTime ← transformField localTime (get? members "local_time")
  .ok do
    let startDate ← startDate
    let localTime ← localTime
    let timezone ← stringField (get? members "timezone")
    let tzdbVersion ← stringField (get? members "tzdb_version")
    let recurrence ← parse { startDate, localTime, timezone, tzdbVersion }
    if strictObject env members
        (["version", "start_date", "local_time", "timezone", "tzdb_version", "kind"] ++ names) then
      some recurrence
    else none

/-- `recurrenceSchema.safeParse`: none if there are issues. -/
def recurrenceSchema (members : List (Text × Json Number)) :
    Except ErrorCode (Option Recurrence) :=
  let kind := stringField (get? members "kind")
  if kind = some (unitsOf "once") then onceSchema env members
  else if kind = some (unitsOf "daily") then
    commonSchema env members ["interval"] fun common ↦ do
      let interval ← intField 1 366 (get? members "interval")
      some (.daily common interval)
  else if kind = some (unitsOf "weekly") then
    commonSchema env members ["interval", "weekdays"] fun common ↦ do
      let interval ← intField 1 52 (get? members "interval")
      let weekdays ← weekdaysField (get? members "weekdays")
      some (.weekly common interval weekdays)
  else if kind = some (unitsOf "monthly") then
    commonSchema env members ["interval", "day"] fun common ↦ do
      let interval ← intField 1 48 (get? members "interval")
      let day ← intField 1 31 (get? members "day")
      some (.monthly common interval day)
  else .ok none

def timezoneName (value version : Text) : Except ErrorCode Unit := do
  throwIf (version ≠ unitsOf Calculator.tzdbVersion) (ErrorCode.schedule .tzdbUnavailable)
  throwIf (env.zones value = false) (ErrorCode.schedule .invalidTimezone)

def Recurrence.checkTimezone : Recurrence → Except ErrorCode Unit
  | .once _ => .ok ()
  | .daily common _ => timezoneName env common.timezone common.tzdbVersion
  | .weekly common _ _ => timezoneName env common.timezone common.tzdbVersion
  | .monthly common _ _ => timezoneName env common.timezone common.tzdbVersion

def parseRecurrence (input : Json Number) : Except ErrorCode Recurrence :=
  match input with
  | .object members => do
      throwIf (isNumber (get? members "version") 1 = false) ErrorCode.unknownVersion
      let parsed ← recurrenceSchema env members
      let recurrence ← orThrow parsed ErrorCode.invalidRecurrence
      recurrence.checkTimezone env
      .ok recurrence
  | .array _ => .error .unknownVersion
  | _ => .error .invalidRecurrence

/-! ### Documents of recurrences -/

def Common.members (common : Common) : List (Text × Json ℕ) :=
  [(unitsOf "version", .number 1), (unitsOf "start_date", .string common.startDate),
    (unitsOf "local_time", .string common.localTime),
    (unitsOf "timezone", .string common.timezone),
    (unitsOf "tzdb_version", .string common.tzdbVersion)]

/-- The object that a recurrence is. -/
def Recurrence.document : Recurrence → Json ℕ
  | .once instant => .object
      [(unitsOf "version", .number 1), (unitsOf "kind", .string (unitsOf "once")),
        (unitsOf "at", .string instant)]
  | .daily common interval => .object (common.members ++
      [(unitsOf "kind", .string (unitsOf "daily")), (unitsOf "interval", .number interval)])
  | .weekly common interval weekdays => .object (common.members ++
      [(unitsOf "kind", .string (unitsOf "weekly")), (unitsOf "interval", .number interval),
        (unitsOf "weekdays", .array (weekdays.map .number))])
  | .monthly common interval day => .object (common.members ++
      [(unitsOf "kind", .string (unitsOf "monthly")), (unitsOf "interval", .number interval),
        (unitsOf "day", .number day)])

def decodeRecurrence (text : Text) : Except ErrorCode Recurrence := do
  let value ← orThrow (parseStrictJson (numeral env.fractional) text) ErrorCode.invalidJson
  parseRecurrence env value

def encodeRecurrence (input : Json Number) : Except ErrorCode Text := do
  let recurrence ← parseRecurrence env input
  .ok (canonicalJson recurrence.document)

/-! ### Policies -/

def strings (texts : List String) : Json ℕ := .array (texts.map fun text ↦ .string (unitsOf text))

def record (members : List (String × Json ℕ)) : Json ℕ :=
  .object (members.map fun member ↦ (unitsOf member.1, member.2))

def word (text : String) : Json ℕ := .string (unitsOf text)

/-- `POLICY_V1` -/
def policyV1 : Json ℕ := record [
  ("admin", record [
    ("allowed", strings ["redacted_metadata", "pause", "cancel", "purge", "receipt_reconcile"]),
    ("owner_approval_required", strings ["resume", "new_revision", "new_execution"])]),
  ("authorization", record [
    ("expiry_exclusive", .bool true),
    ("failure", word "pause"),
    ("max_age_seconds", .number 2592000),
    ("revalidate", strings ["run_start", "external_write"])]),
  ("calendar", record [
    ("gap", word "skip"),
    ("invalid_day", word "skip"),
    ("overlap", word "first"),
    ("tzdb_update", word "pause_preview_reauthorize")]),
  ("contract", word "scheduler-policy"),
  ("execution", record [
    ("awake_detection_slo_seconds", .number 60),
    ("misfire", word "latest_one"),
    ("misfire_grace_seconds", .number 900),
    ("overlap", word "skip"),
    ("work_timeout_seconds", .number 3600)]),
  ("external_write", record [
    ("allowed", strings ["slack.reminder.post", "slack.work_result.post"]),
    ("ambiguous", word "needs_review"),
    ("max_attempts", .number 3),
    ("reminder_body", word "immutable"),
    ("retry_delays_seconds", .array [.number 1, .number 5]),
    ("slack_schedule_message", .bool false),
    ("target", word "fixed"),
    ("work_body", word "redacted_result"),
    ("work_mode", word "read_only"),
    ("work_result_retry_seconds", .number 900)]),
  ("limits", record [
    ("catch_up_count", .number 1),
    ("minimum_period", word "one_civil_day"),
    ("owner_nonterminal_schedules", .number 20),
    ("preview_count", .number 100),
    ("preview_days", .number 366),
    ("tenant_nonterminal_schedules", .number 100)]),
  ("notification", record [
    ("body_max_code_points", .number 2000),
    ("cross_tenant_allowed", .bool false),
    ("objective_max_code_points", .number 4000),
    ("reminder_default", word "origin_thread"),
    ("work_default", word "owner_dm"),
    ("work_none_allowed", .bool true)]),
  ("retention", record [
    ("active_high_watermark", .bool true),
    ("audit_days", .number 90),
    ("backup_content", .bool false),
    ("inactive_content_days", .number 7),
    ("purge_interval_seconds", .number 86400),
    ("terminal_metadata_days", .number 30),
    ("unresolved_fence", word "until_resolved")]),
  ("version", .number 1)]

mutual

/-- `matchesPolicy(input, expected)` -/
def matchesPolicy (input : Json Number) : Json ℕ → Bool
  | .null =>
      match input with
      | .null => true
      | _ => false
  | .bool value =>
      match input with
      | .bool given => given == value
      | _ => false
  | .number value =>
      match input with
      | .number given => given = natural value
      | _ => false
  | .string value =>
      match input with
      | .string given => given == value
      | _ => false
  | .array items =>
      match input with
      | .array inputs => inputs.length == items.length && matchesItems inputs items
      | _ => false
  | .object members =>
      match input with
      | .object inputs => inputs.length == members.length && matchesMembers inputs members
      | _ => false

def matchesItems (inputs : List (Json Number)) : List (Json ℕ) → Bool
  | [] => true
  | item :: items =>
      (inputs.head?.any fun input ↦ matchesPolicy input item) && matchesItems inputs.tail items

def matchesMembers (inputs : List (Text × Json Number)) : List (Text × Json ℕ) → Bool
  | [] => true
  | (key, value) :: members =>
      ((inputs.lookup key).any fun input ↦ matchesPolicy input value) &&
        matchesMembers inputs members

end

/-- The numbers of the policy are natural. -/
def parsePolicy (input : Json Number) : Except ErrorCode (Json ℕ) :=
  match input with
  | .object members => do
      throwIf (isNumber (get? members "version") 1 = false) ErrorCode.unknownVersion
      throwIf (matchesPolicy input policyV1 = false) ErrorCode.invalidPolicy
      orThrow (jsonParse Decimals.value (canonicalJson policyV1)) ErrorCode.invalidJson
  | .array _ => .error .unknownVersion
  | _ => .error .invalidPolicy

def decodePolicy (text : Text) : Except ErrorCode (Json ℕ) := do
  let value ← orThrow (parseStrictJson (numeral env.fractional) text) ErrorCode.invalidJson
  parsePolicy value

def encodePolicy (input : Json Number) : Except ErrorCode Text := do
  let policy ← parsePolicy input
  .ok (canonicalJson policy)

/-! ### The canonical form -/

/-- `encode(JSON.parse(text))`, with which the repository compares a text. -/
def recode (encode : Json Number → Except ErrorCode Text) (text : Text) : Except ErrorCode Text := do
  let value ← orThrow (jsonParse (numeral env.fractional) text) ErrorCode.invalidJson
  encode value

end Dona.Scheduler.Codec
