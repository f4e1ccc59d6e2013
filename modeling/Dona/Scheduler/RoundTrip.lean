import Dona.Scheduler.Codecs

/-!
# The round trip of the codecs

The canonical text of an accepted document is accepted again, as the same document, and is its own
canonical text.
-/

namespace Dona.Scheduler.Codec

open Doubles (Number)
open Fallible Json

/-! ### Canonical texts -/

section Texts

variable {fractional : Text → Number} {document : Json ℕ}

theorem writtenInteger_render (n : ℕ) : writtenInteger (Decimals.render n) = ⟨false, some n⟩ := by
  obtain ⟨unit, digits, hrender, hsign⟩ := (isNatural_render n).head_ne
  rw [hrender, writtenInteger, if_neg hsign, ← hrender, Decimals.value_render]

theorem isSafe_render {n : ℕ} (h : n ≤ Doubles.maxSafe) :
    (writtenInteger (Decimals.render n)).isSafe = true := by
  rw [writtenInteger_render]
  exact decide_eq_true h

theorem numeral_render {n : ℕ} (h : n ≤ Doubles.maxSafe) :
    numeral fractional (Decimals.render n) = natural n := by
  rw [numeral, if_pos (testInteger_iff.mpr (.natural (isNatural_render n))),
    toNumber_of_isSafe (isSafe_render h), writtenInteger_render]
  rfl

theorem byteLength_le (text : Text) : byteLength text ≤ 3 * text.length := by
  fun_induction byteLength text with
  | case1 => exact Nat.zero_le _
  | case2 unit rest hunit ih =>
      rw [List.length_cons]
      omega
  | case3 unit rest hunit hunit' ih =>
      rw [List.length_cons]
      omega
  | case4 unit rest hunit hunit' hpair ih =>
      cases rest with
      | nil =>
          rw [List.head?_nil, Option.any_none, Bool.and_false] at hpair
          cases hpair
      | cons next rest =>
          rw [List.tail_cons] at ih
          rw [List.tail_cons, List.length_cons, List.length_cons]
          omega
  | case5 unit rest hunit hunit' hpair ih =>
      rw [List.length_cons]
      omega

/-- What the canonical text of a document needs to be accepted. -/
structure IsPlain (document : Json ℕ) : Prop where
  unique : (sortMembers document).hasUniqueKeys = true
  nesting : (sortMembers document).nesting ≤ 32
  safe : ∀ n ∈ (sortMembers document).numbers, n ≤ Doubles.maxSafe
  length : (render decimals (sortMembers document)).length ≤ 21844

theorem reads_canonicalJson (document : Json ℕ) :
    Reads (canonicalJson document) ((sortMembers document).mapNumbers Decimals.render) :=
  ⟨_, [10], .nil, readsValue_render (fun n ↦ isNumber_of_isInteger (.natural (isNatural_render n)))
    _ _, .cons rfl .nil⟩

theorem toValue_render (h : IsPlain document) :
    toValue (numeral fractional) ((sortMembers document).mapNumbers Decimals.render) =
      (sortMembers document).mapNumbers natural := by
  have hunique := uniqueKeys_of_check h.unique
  rw [toValue_of_uniqueKeys (uniqueKeys_mapNumbers hunique), mapNumbers_mapNumbers]
  exact mapNumbers_congr fun n hn ↦ numeral_render (h.safe n hn)

theorem jsonParse_canonicalJson (h : IsPlain document) :
    jsonParse (numeral fractional) (canonicalJson document) =
      some ((sortMembers document).mapNumbers natural) := by
  rw [jsonParse, parse_eq_some_iff.mpr (reads_canonicalJson document), Option.map_some,
    toValue_render h]

theorem parseStrictJson_canonicalJson (h : IsPlain document) :
    parseStrictJson (numeral fractional) (canonicalJson document) =
      some ((sortMembers document).mapNumbers natural) := by
  rw [parseStrictJson_eq_some_iff]
  refine ⟨?_, _, reads_canonicalJson document, ⟨?_, ?_, ?_⟩, toValue_render h⟩
  · have hbytes := byteLength_le (canonicalJson document)
    have hlength := h.length
    rw [canonicalJson, List.length_append, List.length_singleton] at hbytes
    rw [canonicalJson]
    omega
  · rw [nesting_mapNumbers, Nat.zero_add]
    exact h.nesting
  · exact uniqueKeys_mapNumbers (uniqueKeys_of_check h.unique)
  · intro token htoken
    rw [numbers_mapNumbers] at htoken
    obtain ⟨n, hn, rfl⟩ := List.mem_map.mp htoken
    rw [isSafe_toNumber]
    exact ⟨.natural (isNatural_render n), isSafe_render (h.safe n hn)⟩

end Texts

/-! ### Fields -/

section Fields

variable {env : Env} {value : Option (Json Number)} {low high n : ℕ}

theorem intField_eq_some (h : intField low high value = some n) : low ≤ n ∧ n ≤ high := by
  unfold intField at h
  split at h
  · rename_i given
    split_ifs at h with hgiven
    obtain ⟨hden, hlow, hhigh⟩ := hgiven
    cases h
    have hnum : (given.num : ℚ) = given := (Rat.den_eq_one_iff given).mp hden
    rw [← hnum] at hlow hhigh
    have hlow' : (low : ℤ) ≤ given.num := by exact_mod_cast hlow
    have hhigh' : given.num ≤ (high : ℤ) := by exact_mod_cast hhigh
    omega
  · cases h

theorem intField_natural (hlow : low ≤ n) (hhigh : n ≤ high) :
    intField low high (some (.number (natural n))) = some n := by
  rw [natural, intField, if_pos]
  · rw [Rat.num_natCast, Int.toNat_natCast]
  · exact ⟨Rat.den_natCast n, by exact_mod_cast hlow, by exact_mod_cast hhigh⟩

theorem transformField_eq_ok {parse : Text → Except ErrorCode Text} {text : Text}
    (h : transformField parse value = .ok (some text)) : ∃ text', parse text' = .ok text := by
  rw [transformField] at h
  split at h
  · rename_i text' _
    obtain ⟨result, hparse, hresult⟩ := map_eq_ok.mp h
    cases hresult
    exact ⟨text', hparse⟩
  · cases h

/-- What the check of the days of a week sees of them. -/
def IsWeekdays (weekdays : List ℕ) : Prop :=
  (∀ weekday ∈ weekdays, 1 ≤ weekday ∧ weekday ≤ 7) ∧ 1 ≤ weekdays.length ∧ weekdays.length ≤ 7 ∧
    (weekdays.zip weekdays.tail).all (fun days ↦ days.1 < days.2) = true

theorem mapM_intField_eq_some {items : List (Json Number)} {weekdays : List ℕ}
    (h : items.mapM (fun item ↦ intField 1 7 (some item)) = some weekdays) :
    ∀ weekday ∈ weekdays, 1 ≤ weekday ∧ weekday ≤ 7 := by
  induction items generalizing weekdays with
  | nil =>
      cases h
      exact List.forall_mem_nil _
  | cons item items ih =>
      simp only [List.mapM_cons, Option.bind_eq_bind, Option.bind_eq_some_iff, Option.pure_def] at h
      obtain ⟨weekday, hweekday, rest, hrest, hlist⟩ := h
      cases hlist
      exact List.forall_mem_cons.mpr ⟨intField_eq_some hweekday, ih hrest⟩

theorem weekdaysField_eq_some {weekdays : List ℕ} (h : weekdaysField value = some weekdays) :
    IsWeekdays weekdays := by
  unfold weekdaysField at h
  split at h
  · simp only [Option.bind_eq_bind, Option.bind_eq_some_iff] at h
    obtain ⟨found, hfound, h⟩ := h
    split_ifs at h with hshape
    cases h
    exact ⟨mapM_intField_eq_some hfound, hshape⟩
  · cases h

theorem mapM_intField_natural {weekdays : List ℕ}
    (h : ∀ weekday ∈ weekdays, 1 ≤ weekday ∧ weekday ≤ 7) :
    (mapItems natural (weekdays.map .number)).mapM (fun item ↦ intField 1 7 (some item)) =
      some weekdays := by
  induction weekdays with
  | nil => rfl
  | cons weekday weekdays ih =>
      rw [List.forall_mem_cons] at h
      have hweekday := intField_natural h.1.1 h.1.2
      simp only [List.map_cons, mapItems, mapNumbers, List.mapM_cons, hweekday, ih h.2,
        Option.bind_eq_bind, Option.bind_some, Option.pure_def]

theorem weekdaysField_natural {weekdays : List ℕ} (h : IsWeekdays weekdays) :
    weekdaysField (some (.array (mapItems natural (weekdays.map .number)))) = some weekdays := by
  simp only [weekdaysField, mapM_intField_natural h.1, Option.bind_eq_bind, Option.bind_some]
  rw [if_pos h.2]

theorem sortItems_number (weekdays : List ℕ) :
    sortItems (weekdays.map .number) = weekdays.map .number := by
  induction weekdays with
  | nil => rfl
  | cons weekday weekdays ih => rw [List.map_cons, sortItems, ih, sortMembers.eq_def]

end Fields

/-! ### Recurrences -/

/-- The fields that recurrences share are as `parseRecurrence` leaves them. -/
structure Common.IsValid (env : Env) (common : Common) : Prop where
  date_eq : localDate common.startDate = .ok common.startDate
  time_eq : Codec.localTime common.localTime = .ok common.localTime
  timezone_eq : timezoneName env common.timezone common.tzdbVersion = .ok ()

def Recurrence.IsValid (env : Env) : Recurrence → Prop
  | .once instant => utcInstant instant = .ok instant
  | .daily common interval => common.IsValid env ∧ 1 ≤ interval ∧ interval ≤ 366
  | .weekly common interval weekdays =>
      common.IsValid env ∧ (1 ≤ interval ∧ interval ≤ 52) ∧ IsWeekdays weekdays
  | .monthly common interval day =>
      common.IsValid env ∧ (1 ≤ interval ∧ interval ≤ 48) ∧ 1 ≤ day ∧ day ≤ 31

section Recurrences

variable {env : Env} {members : List (Text × Json Number)} {names : List String}
  {parse : Common → Option Recurrence} {common : Common} {recurrence : Recurrence}

theorem commonSchema_eq_ok (h : commonSchema env members names parse = .ok (some recurrence)) :
    ∃ common, parse common = some recurrence ∧
      localDate common.startDate = .ok common.startDate ∧
      localTime common.localTime = .ok common.localTime := by
  simp only [commonSchema, bind_eq_ok, Except.ok.injEq] at h
  obtain ⟨startDate, hstart, localTime, htime, h⟩ := h
  simp only [Option.bind_eq_bind, Option.bind_eq_some_iff] at h
  obtain ⟨startDate, rfl, localTime, rfl, timezone, -, tzdbVersion, -, found, hfound, h⟩ := h
  split_ifs at h
  cases h
  obtain ⟨date, hdate⟩ := transformField_eq_ok hstart
  obtain ⟨time, htime⟩ := transformField_eq_ok htime
  obtain ⟨rfl, -⟩ := localDate_eq_ok hdate
  obtain ⟨rfl, -⟩ := localTime_eq_ok htime
  exact ⟨_, hfound, hdate, htime⟩

/-- What is parsed is valid. -/
theorem isValid_of_parseRecurrence {input : Json Number}
    (h : parseRecurrence env input = .ok recurrence) : recurrence.IsValid env := by
  cases input with
  | object members =>
      simp only [parseRecurrence, bind_eq_ok, throwIf_eq_ok, orThrow_eq_ok, Except.ok.injEq] at h
      obtain ⟨-, -, parsed, hschema, found, rfl, _, htimezone, rfl⟩ := h
      simp only [recurrenceSchema] at hschema
      split_ifs at hschema
      · simp only [onceSchema, bind_eq_ok, Except.ok.injEq, Option.bind_eq_bind,
          Option.bind_eq_some_iff] at hschema
        obtain ⟨_, hinstant, instant, rfl, h⟩ := hschema
        split_ifs at h
        cases h
        obtain ⟨text, htext⟩ := transformField_eq_ok hinstant
        obtain ⟨rfl, -⟩ := utcInstant_eq_ok htext
        exact htext
      · obtain ⟨common, hparse, hdate, htime⟩ := commonSchema_eq_ok hschema
        simp only [Option.bind_eq_bind, Option.bind_eq_some_iff] at hparse
        obtain ⟨interval, hinterval, h⟩ := hparse
        cases h
        exact ⟨⟨hdate, htime, htimezone⟩, intField_eq_some hinterval⟩
      · obtain ⟨common, hparse, hdate, htime⟩ := commonSchema_eq_ok hschema
        simp only [Option.bind_eq_bind, Option.bind_eq_some_iff] at hparse
        obtain ⟨interval, hinterval, weekdays, hweekdays, h⟩ := hparse
        cases h
        exact ⟨⟨hdate, htime, htimezone⟩, intField_eq_some hinterval,
          weekdaysField_eq_some hweekdays⟩
      · obtain ⟨common, hparse, hdate, htime⟩ := commonSchema_eq_ok hschema
        simp only [Option.bind_eq_bind, Option.bind_eq_some_iff] at hparse
        obtain ⟨interval, hinterval, day, hday, h⟩ := hparse
        cases h
        exact ⟨⟨hdate, htime, htimezone⟩, intField_eq_some hinterval, intField_eq_some hday⟩
      · cases hschema
  | null => cases h
  | bool => cases h
  | number => cases h
  | string => cases h
  | array => cases h

/-- The members are those of `common`, in some order, and others. -/
structure HasCommon (members : List (Text × Json Number)) (common : Common) : Prop where
  version : get? members "version" = some (.number (natural 1))
  startDate : get? members "start_date" = some (.string common.startDate)
  localTime : get? members "local_time" = some (.string common.localTime)
  timezone : get? members "timezone" = some (.string common.timezone)
  tzdbVersion : get? members "tzdb_version" = some (.string common.tzdbVersion)

theorem isNumber_natural (n : ℕ) : isNumber (some (.number (natural n))) n = true :=
  decide_eq_true rfl

theorem transformField_string {f : Text → Except ErrorCode Text} {text : Text}
    (h : f text = .ok text) : transformField f (some (.string text)) = .ok (some text) := by
  rw [transformField, stringField]
  dsimp only
  rw [h]
  rfl

theorem commonSchema_of_hasCommon (hmembers : HasCommon members common) (hvalid : common.IsValid env)
    (hparse : parse common = some recurrence)
    (hnames : strictObject env members
      (["version", "start_date", "local_time", "timezone", "tzdb_version", "kind"] ++ names) = true) :
    commonSchema env members names parse = .ok (some recurrence) := by
  rw [commonSchema, hmembers.startDate, hmembers.localTime, hmembers.timezone,
    hmembers.tzdbVersion, transformField_string hvalid.date_eq,
    transformField_string hvalid.time_eq]
  simp only [ok_bind, stringField, Option.bind_eq_bind, Option.bind_some, hparse]
  rw [if_pos hnames]

theorem parseRecurrence_of_schema (hversion : get? members "version" = some (.number (natural 1)))
    (hschema : recurrenceSchema env members = .ok (some recurrence))
    (htimezone : recurrence.checkTimezone env = .ok ()) :
    parseRecurrence env (.object members) = .ok recurrence := by
  simp only [parseRecurrence, hversion, isNumber_natural, hschema, bind_eq_ok, throwIf_eq_ok,
    orThrow_eq_ok]
  exact ⟨(), by decide, _, rfl, _, rfl, (), htimezone, rfl⟩

/-- The members of a recurrence, in some order: its own fields, and no other name. -/
def HasFields (env : Env) (members : List (Text × Json Number)) : Recurrence → Prop
  | .once instant =>
      get? members "version" = some (.number (natural 1)) ∧
        get? members "kind" = some (.string (unitsOf "once")) ∧
        get? members "at" = some (.string instant) ∧
        strictObject env members ["version", "kind", "at"] = true
  | .daily common interval =>
      HasCommon members common ∧ get? members "kind" = some (.string (unitsOf "daily")) ∧
        get? members "interval" = some (.number (natural interval)) ∧
        strictObject env members
          ["version", "start_date", "local_time", "timezone", "tzdb_version", "kind",
            "interval"] = true
  | .weekly common interval weekdays =>
      HasCommon members common ∧ get? members "kind" = some (.string (unitsOf "weekly")) ∧
        get? members "interval" = some (.number (natural interval)) ∧
        get? members "weekdays" =
          some (.array (mapItems natural (weekdays.map .number))) ∧
        strictObject env members
          ["version", "start_date", "local_time", "timezone", "tzdb_version", "kind",
            "interval", "weekdays"] = true
  | .monthly common interval day =>
      HasCommon members common ∧ get? members "kind" = some (.string (unitsOf "monthly")) ∧
        get? members "interval" = some (.number (natural interval)) ∧
        get? members "day" = some (.number (natural day)) ∧
        strictObject env members
          ["version", "start_date", "local_time", "timezone", "tzdb_version", "kind",
            "interval", "day"] = true

/-- A valid recurrence is parsed from its fields. -/
theorem parseRecurrence_of_hasFields (hvalid : recurrence.IsValid env)
    (h : HasFields env members recurrence) :
    parseRecurrence env (.object members) = .ok recurrence := by
  cases recurrence with
  | once instant =>
      obtain ⟨hversion, hkind, hinstant, hstrict⟩ := h
      refine parseRecurrence_of_schema hversion ?_ rfl
      simp only [recurrenceSchema, hkind, stringField, if_true, onceSchema, hinstant,
        transformField_string hvalid, ok_bind, Option.bind_eq_bind, Option.bind_some, hstrict]
  | daily common interval =>
      obtain ⟨hcommon, hkind, hinterval, hstrict⟩ := h
      obtain ⟨hvalid, hlow, hhigh⟩ := hvalid
      refine parseRecurrence_of_schema hcommon.version ?_ hvalid.timezone_eq
      rw [recurrenceSchema, hkind, if_neg (by decide), if_pos (by rfl)]
      refine commonSchema_of_hasCommon hcommon hvalid ?_ hstrict
      rw [hinterval, intField_natural hlow hhigh]
      rfl
  | weekly common interval weekdays =>
      obtain ⟨hcommon, hkind, hinterval, hweekdays, hstrict⟩ := h
      obtain ⟨hvalid, ⟨hlow, hhigh⟩, hdays⟩ := hvalid
      refine parseRecurrence_of_schema hcommon.version ?_ hvalid.timezone_eq
      rw [recurrenceSchema, hkind, if_neg (by decide), if_neg (by decide), if_pos (by rfl)]
      refine commonSchema_of_hasCommon hcommon hvalid ?_ hstrict
      rw [hinterval, intField_natural hlow hhigh, hweekdays, weekdaysField_natural hdays]
      rfl
  | monthly common interval day =>
      obtain ⟨hcommon, hkind, hinterval, hday, hstrict⟩ := h
      obtain ⟨hvalid, ⟨hlow, hhigh⟩, hlowDay, hhighDay⟩ := hvalid
      refine parseRecurrence_of_schema hcommon.version ?_ hvalid.timezone_eq
      rw [recurrenceSchema, hkind, if_neg (by decide), if_neg (by decide), if_neg (by decide),
        if_pos (by rfl)]
      refine commonSchema_of_hasCommon hcommon hvalid ?_ hstrict
      rw [hinterval, intField_natural hlow hhigh, hday, intField_natural hlowDay hhighDay]
      rfl

theorem hasFields_document (recurrence : Recurrence) : ∃ members,
    recurrence.document.mapNumbers natural = .object members ∧ HasFields env members recurrence := by
  cases recurrence with
  | once instant => exact ⟨_, rfl, rfl, rfl, rfl, rfl⟩
  | daily common interval => exact ⟨_, rfl, ⟨rfl, rfl, rfl, rfl, rfl⟩, rfl, rfl, rfl⟩
  | weekly common interval weekdays =>
      exact ⟨_, rfl, ⟨rfl, rfl, rfl, rfl, rfl⟩, rfl, rfl, rfl, rfl⟩
  | monthly common interval day =>
      exact ⟨_, rfl, ⟨rfl, rfl, rfl, rfl, rfl⟩, rfl, rfl, rfl, rfl⟩

theorem hasFields_sortMembers (recurrence : Recurrence) : ∃ members,
    (sortMembers recurrence.document).mapNumbers natural = .object members ∧
      HasFields env members recurrence := by
  cases recurrence with
  | once instant => exact ⟨_, rfl, rfl, rfl, rfl, rfl⟩
  | daily common interval => exact ⟨_, rfl, ⟨rfl, rfl, rfl, rfl, rfl⟩, rfl, rfl, rfl⟩
  | weekly common interval weekdays =>
      have hitems := congrArg (fun items ↦ some (Json.array (mapItems natural items)))
        (sortItems_number weekdays)
      exact ⟨_, rfl, ⟨rfl, rfl, rfl, rfl, rfl⟩, rfl, rfl, hitems, rfl⟩
  | monthly common interval day =>
      exact ⟨_, rfl, ⟨rfl, rfl, rfl, rfl, rfl⟩, rfl, rfl, rfl, rfl⟩

/-- The members that recurrences on civil dates share, in the order of their names. -/
def sortedMembers (common : Common) (kind : String) (interval : ℕ) : List (Text × Json ℕ) :=
  [(unitsOf "interval", .number interval), (unitsOf "kind", .string (unitsOf kind)),
    (unitsOf "local_time", .string common.localTime),
    (unitsOf "start_date", .string common.startDate),
    (unitsOf "timezone", .string common.timezone),
    (unitsOf "tzdb_version", .string common.tzdbVersion), (unitsOf "version", .number 1)]

theorem nesting_sortedMembers {common : Common} {kind : String} {interval : ℕ} :
    ∀ member ∈ sortedMembers common kind interval, member.2.nesting = 0 := by
  simp only [sortedMembers, List.forall_mem_cons]
  exact ⟨rfl, rfl, rfl, rfl, rfl, rfl, rfl, List.forall_mem_nil _⟩

theorem sortMembers_weekly (common : Common) (interval : ℕ) (weekdays : List ℕ) :
    sortMembers (Recurrence.weekly common interval weekdays).document =
      .object (sortedMembers common "weekly" interval ++
        [(unitsOf "weekdays", .array (weekdays.map .number))]) := by
  have hsorted : sortMembers (Recurrence.weekly common interval weekdays).document =
      .object (sortedMembers common "weekly" interval ++
        [(unitsOf "weekdays", .array (sortItems (weekdays.map .number)))]) := rfl
  rw [hsorted, sortItems_number]

theorem hasUniqueKeys_numbers (weekdays : List ℕ) :
    itemsHaveUniqueKeys (weekdays.map Json.number) = true := by
  induction weekdays with
  | nil => rfl
  | cons weekday weekdays ih =>
      rw [List.map_cons, itemsHaveUniqueKeys, ih]
      rfl

theorem numbersOfItems_numbers (weekdays : List ℕ) :
    numbersOfItems (weekdays.map .number) = weekdays := by
  induction weekdays with
  | nil => rfl
  | cons weekday weekdays ih =>
      rw [List.map_cons, numbersOfItems, ih]
      rfl

theorem nestingOfItems_numbers (weekdays : List ℕ) :
    nestingOfItems (weekdays.map Json.number) ≤ 1 := by
  rw [nestingOfItems_le]
  intro item hitem
  obtain ⟨weekday, -, rfl⟩ := List.mem_map.mp hitem
  exact le_rfl

theorem weightOfItems_numbers {weekdays : List ℕ} (h : IsWeekdays weekdays) :
    weightOfItems (weekdays.map .number) ≤ 9 * weekdays.length := by
  have hdays := h.1
  clear h
  induction weekdays with
  | nil => exact le_rfl
  | cons weekday weekdays ih =>
      rw [List.forall_mem_cons] at hdays
      have hrest := ih hdays.2
      have hday := hdays.1.2
      rw [List.map_cons, weightOfItems, weight, List.length_cons]
      omega

/-- The names of the zone data are not longer than any file name. -/
def Env.HasShortNames (env : Env) : Prop := ∀ name, env.zones name = true → name.length ≤ 255

theorem Common.IsValid.lengths (henv : env.HasShortNames) (h : common.IsValid env) :
    common.startDate.length = 10 ∧ common.localTime.length = 8 ∧ common.timezone.length ≤ 255 ∧
      common.tzdbVersion.length = 5 := by
  have htimezone := h.timezone_eq
  simp only [timezoneName, bind_eq_ok, throwIf_eq_ok] at htimezone
  obtain ⟨-, hversion, hzone⟩ := htimezone
  refine ⟨(localDate_eq_ok h.date_eq).2, (localTime_eq_ok h.time_eq).2,
    henv _ ((Bool.not_eq_false _).mp hzone), ?_⟩
  rw [not_not.mp hversion]
  rfl

theorem weight_sortedMembers (henv : env.HasShortNames) (h : common.IsValid env) {kind : String}
    (hkind : (unitsOf kind).length ≤ 7) {interval : ℕ} (hinterval : interval ≤ 366)
    (more : List (Text × Json ℕ)) :
    weightOfMembers (sortedMembers common kind interval ++ more) ≤ 3000 + weightOfMembers more := by
  obtain ⟨hdate, htime, hzone, hversion⟩ := h.lengths henv
  have hnames : (unitsOf "interval").length = 8 ∧ (unitsOf "kind").length = 4 ∧
      (unitsOf "local_time").length = 10 ∧ (unitsOf "start_date").length = 10 ∧
      (unitsOf "timezone").length = 8 ∧ (unitsOf "tzdb_version").length = 12 ∧
      (unitsOf "version").length = 7 := ⟨rfl, rfl, rfl, rfl, rfl, rfl, rfl⟩
  simp only [sortedMembers, List.cons_append, List.nil_append, weightOfMembers, weight]
  omega

/-- The text of a document of recurrences is short: its names and words are, and its strings are
bounded by `Common.IsValid.lengths`. -/
theorem isPlain_document (henv : env.HasShortNames) (hvalid : recurrence.IsValid env) :
    IsPlain recurrence.document := by
  have hone : 1 ≤ Doubles.maxSafe := Nat.le_of_ble_eq_true rfl
  have hsmall {n : ℕ} (h : n ≤ 366) : n ≤ Doubles.maxSafe :=
    h.trans (Nat.le_of_ble_eq_true rfl)
  cases recurrence with
  | once instant =>
      refine ⟨rfl, Nat.le_of_ble_eq_true rfl, ?_, (length_render_le _).trans ?_⟩
      · have hnumbers : (sortMembers (Recurrence.once instant).document).numbers = [1] := rfl
        rw [hnumbers, List.forall_mem_singleton]
        exact hone
      · have hsorted : sortMembers (Recurrence.once instant).document = .object
            [(unitsOf "at", .string instant), (unitsOf "kind", .string (unitsOf "once")),
              (unitsOf "version", .number 1)] := rfl
        rw [hsorted]
        simp only [weight, weightOfMembers, (utcInstant_eq_ok hvalid).2]
        exact Nat.le_of_ble_eq_true rfl
  | daily common interval =>
      obtain ⟨hcommon, -, hinterval⟩ := hvalid
      have hsorted : sortMembers (Recurrence.daily common interval).document =
          .object (sortedMembers common "daily" interval ++ []) := rfl
      refine ⟨rfl, Nat.le_of_ble_eq_true rfl, ?_, (length_render_le _).trans ?_⟩
      · have hnumbers : (sortMembers (Recurrence.daily common interval).document).numbers =
            [interval, 1] := rfl
        rw [hnumbers, List.forall_mem_cons, List.forall_mem_singleton]
        exact ⟨hsmall hinterval, hone⟩
      · have hkind : (unitsOf "daily").length ≤ 7 := Nat.le_of_ble_eq_true rfl
        have hweight := weight_sortedMembers henv hcommon hkind hinterval []
        rw [hsorted, weight]
        rw [weightOfMembers] at hweight
        omega
  | weekly common interval weekdays =>
      obtain ⟨hcommon, ⟨-, hinterval⟩, hweekdays⟩ := hvalid
      have hsorted := sortMembers_weekly common interval weekdays
      constructor
      · rw [hsorted, hasUniqueKeys, Bool.and_eq_true]
        refine ⟨rfl, ?_⟩
        simp only [sortedMembers, List.cons_append, List.nil_append, membersHaveUniqueKeys,
          hasUniqueKeys, hasUniqueKeys_numbers, Bool.and_true]
      · have hdays := nestingOfItems_numbers weekdays
        rw [hsorted, nesting, nestingOfMembers_le]
        intro member hmember
        rcases List.mem_append.mp hmember with hmember | hmember
        · rw [nesting_sortedMembers member hmember]
          exact Nat.le_of_ble_eq_true rfl
        · rw [List.mem_singleton.mp hmember, nesting]
          omega
      · have hnumbers : numbers (.object (sortedMembers common "weekly" interval ++
            [(unitsOf "weekdays", .array (weekdays.map .number))])) =
            interval :: 1 :: (numbersOfItems (weekdays.map .number) ++ []) := rfl
        rw [hsorted, hnumbers, numbersOfItems_numbers, List.append_nil, List.forall_mem_cons,
          List.forall_mem_cons]
        refine ⟨hsmall (hinterval.trans (by decide)), hone, fun weekday hmem ↦ ?_⟩
        exact hsmall ((hweekdays.1 weekday hmem).2.trans (by decide))
      · have hkind : (unitsOf "weekly").length ≤ 7 := Nat.le_of_ble_eq_true rfl
        have hweight := weight_sortedMembers henv hcommon hkind (hinterval.trans (by decide))
          [(unitsOf "weekdays", .array (weekdays.map .number))]
        have hdays := weightOfItems_numbers hweekdays
        have hcount := hweekdays.2.2.1
        have hname : (unitsOf "weekdays").length = 8 := rfl
        refine (length_render_le _).trans ?_
        rw [hsorted, weight]
        simp only [weightOfMembers, weight] at hweight
        omega
  | monthly common interval day =>
      obtain ⟨hcommon, ⟨-, hinterval⟩, -, hday⟩ := hvalid
      have hsorted : sortMembers (Recurrence.monthly common interval day).document =
          .object ((unitsOf "day", .number day) ::
            (sortedMembers common "monthly" interval ++ [])) := rfl
      refine ⟨rfl, Nat.le_of_ble_eq_true rfl, ?_, (length_render_le _).trans ?_⟩
      · have hnumbers : (sortMembers (Recurrence.monthly common interval day).document).numbers =
            [day, interval, 1] := rfl
        rw [hnumbers, List.forall_mem_cons, List.forall_mem_cons, List.forall_mem_singleton]
        exact ⟨hsmall (hday.trans (by decide)), hsmall (hinterval.trans (by decide)), hone⟩
      · have hkind : (unitsOf "monthly").length ≤ 7 := Nat.le_of_ble_eq_true rfl
        have hweight := weight_sortedMembers henv hcommon hkind (hinterval.trans (by decide)) []
        have hname : (unitsOf "day").length = 3 := rfl
        rw [hsorted, weight, weightOfMembers, weight]
        rw [weightOfMembers] at hweight
        omega

end Recurrences

end Dona.Scheduler.Codec
