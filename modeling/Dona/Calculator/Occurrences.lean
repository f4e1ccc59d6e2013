import Dona.Calculator.Timezone
import Mathlib.Data.List.Sort

/-!
# Recurrences and their occurrences

`recurrence.ts` and `calculator.ts` of the scheduler. A recurrence carries what `parseRecurrence`
has checked.
-/

namespace Dona.Calculator

open Fallible

/-! ### `recurrence.ts` -/

structure Interval (maximum : ℕ) where
  value : ℕ
  pos : 1 ≤ value
  le : value ≤ maximum

/-- Days of the week, Monday first, in order. -/
structure Weekdays where
  days : List ℕ
  nonempty : days ≠ []
  length_le : days.length ≤ 7
  range : ∀ weekday ∈ days, 1 ≤ weekday ∧ weekday ≤ 7
  increasing : days.Pairwise (· < ·)

inductive Rule
  | daily (interval : Interval 366)
  | weekly (interval : Interval 52) (weekdays : Weekdays)
  | monthly (interval : Interval 48) (day : Interval 31)

/-- What recurrences with a start date have in common; the offsets of the bundled zones are less
than a day. -/
structure Common (zones : String → Option Zone) where
  startDate : CivilDate
  startDate_valid : localDate startDate = .ok startDate
  localTime : LocalTime
  timezone : String
  tzdbVersion : String
  zone : Zone
  zone_eq : timezoneName zones timezone tzdbVersion = .ok zone
  offset_lt : ∀ offset ∈ zone.offsets, |offset| < dayMs

inductive Recurrence (zones : String → Option Zone)
  | once (instant : UtcInstant)
  | repeating (common : Common zones) (rule : Rule)

structure ScheduleDefinition (zones : String → Option Zone) where
  scheduleId : String
  revision : ℕ
  recurrence : Recurrence zones

/-! ### `calculator.ts` -/

/-- The local time of an occurrence is the instant at which a clock of UTC shows it. -/
structure Occurrence where
  key : String × UtcInstant
  occurrenceAt : UtcInstant
  localIdentity : ℤ
  timezone : String
  tzdbVersion : Option String
  revision : ℕ

structure OccurrencePreview where
  occurrences : List Occurrence
  truncated : Bool
  cursor : Option UtcInstant

/-- The day of the week, Monday first; the remainder of JavaScript takes the sign of the day. -/
def weekdayOf (day : ℤ) : ℤ := (((day + 3).tmod 7 + 7).tmod 7) + 1

def matchesRule (startDate date : CivilDate) : Rule → Bool
  | .daily interval => (date.dayNumber - startDate.dayNumber).tmod interval.value = 0
  | .weekly interval weekdays =>
      let monday := startDate.dayNumber - weekdayOf startDate.dayNumber + 1
      let weeks := (date.dayNumber - monday) / 7
      weeks.tmod interval.value = 0 ∧
        weekdays.days.any fun weekday ↦ weekday = weekdayOf date.dayNumber
  | .monthly interval day =>
      let months := (date.year - startDate.year) * 12 + date.month - startDate.month
      months.tmod interval.value = 0 ∧ date.day = day.value

def matchesDate (startDate date : CivilDate) (rule : Rule) : Bool :=
  if date.before startDate then false else matchesRule startDate date rule

variable {zones : String → Option Zone}

def Recurrence.timezone : Recurrence zones → String
  | once _ => "UTC"
  | repeating common _ => common.timezone

def Recurrence.tzdbVersion : Recurrence zones → Option String
  | once _ => none
  | repeating common _ => some common.tzdbVersion

/-- `append`: an occurrence in the window. -/
def append (definition : ScheduleDefinition zones) (after before : ℤ) (utc : UtcInstant)
    (localIdentity : ℤ) : List Occurrence :=
  if utc.ms ≤ after ∨ before < utc.ms then []
  else
    [{ key := (definition.scheduleId, utc)
       occurrenceAt := utc
       localIdentity := localIdentity
       timezone := definition.recurrence.timezone
       tzdbVersion := definition.recurrence.tzdbVersion
       revision := definition.revision }]

/-- The occurrence of a day, if there is one; a candidate outside the supported years is outside
the window. -/
def occurrenceOn (definition : ScheduleDefinition zones) (common : Common zones) (rule : Rule)
    (after before day : ℤ) : Except ScheduleErrorCode (List Occurrence) :=
  let date := CivilDate.ofDayNumber day
  if matchesDate common.startDate date rule = false then .ok []
  else
    match resolveLocal zones date common.localTime common.timezone common.tzdbVersion with
    | .ok (some utc) => .ok (append definition after before utc (wallTime date common.localTime))
    | .ok none => .ok []
    | .error code => if code = .outOfRange then .ok [] else .error code

/-- `for (let day = first; day <= last; day++)` -/
def daysFrom (first last : ℤ) : List ℤ :=
  (List.range (last + 1 - first).toNat).map fun offset : ℕ ↦ first + offset

def lastDate : CivilDate :=
  ⟨2499, 12, 31, by decide, by decide, by decide, by decide⟩

/-- A day before the window and a day behind it hold the candidates of all offsets. -/
def searchedDays (startDate : CivilDate) (after before : ℤ) : List ℤ :=
  daysFrom (max startDate.dayNumber (after / dayMs - 1))
    (min lastDate.dayNumber (before / dayMs + 1))

/-- Instants of four-digit years are ordered as their texts are. -/
def NotLater (a b : Occurrence) : Prop := a.occurrenceAt.ms ≤ b.occurrenceAt.ms

instance : DecidableRel NotLater := fun a b ↦
  inferInstanceAs (Decidable (a.occurrenceAt.ms ≤ b.occurrenceAt.ms))

instance : Std.Total NotLater := ⟨fun a b ↦ le_total a.occurrenceAt.ms b.occurrenceAt.ms⟩

instance : IsTrans Occurrence NotLater := ⟨fun _ _ _ ↦ le_trans⟩

/-- The occurrences of the window, in the order of their instants. -/
def collected (definition : ScheduleDefinition zones) (after before : ℤ) :
    Except ScheduleErrorCode (List Occurrence) :=
  match definition.recurrence with
  | .once instant => .ok (append definition after before instant instant.ms)
  | .repeating common rule => do
      let found ← (searchedDays common.startDate after before).mapM
        (occurrenceOn definition common rule after before)
      .ok (found.flatten.insertionSort NotLater)

/-- Without those at the instant of the one before. -/
def uniqueBehind : Option ℤ → List Occurrence → List Occurrence
  | _, [] => []
  | previous, occurrence :: occurrences =>
      let rest := uniqueBehind (some occurrence.occurrenceAt.ms) occurrences
      if previous = some occurrence.occurrenceAt.ms then rest else occurrence :: rest

def calculateOccurrences (definition : ScheduleDefinition zones) (after before : ℤ) (limit : ℕ) :
    Except ScheduleErrorCode OccurrencePreview := do
  let unique := uniqueBehind none (← collected definition after before)
  let page := unique.take limit
  if limit < unique.length then do
    let last ← orThrow page.getLast? ScheduleErrorCode.typeError
    .ok { occurrences := page, truncated := true, cursor := some last.occurrenceAt }
  else .ok { occurrences := page, truncated := false, cursor := none }

end Dona.Calculator
