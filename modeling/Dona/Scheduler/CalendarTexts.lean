import Dona.Calculator.Timezone
import Dona.Library.Decimals

/-!
# Instants, dates and times as texts

What `calendar.ts` of the scheduler accepts of a text. An accepted text is the one that its instant
is written as, so it is kept as it is.
-/

namespace Dona.Scheduler.Codec

open Calculator (ScheduleErrorCode UtcInstant dayMs)
open CivilCalendar Fallible

/-- The codes with which the codecs fail. -/
inductive ErrorCode
  | invalidJson | unknownVersion | invalidRecurrence | invalidPolicy
  | invalidLocalDate | invalidLocalTime
  | schedule (code : ScheduleErrorCode)
  deriving DecidableEq

/-! ### Patterns -/

/-- A text of digits, where the pattern has `none`, and of the units that it names. -/
def matchesPattern : List (Option UInt16) → Text → Bool
  | [], [] => true
  | none :: pattern, unit :: text => Decimals.isDigit unit && matchesPattern pattern text
  | some named :: pattern, unit :: text => unit == named && matchesPattern pattern text
  | _, _ => false

/-- `\d{4}-\d\d-\d\d` -/
def datePattern : List (Option UInt16) :=
  [none, none, none, none, some 45, none, none, some 45, none, none]

/-- `\d\d:\d\d:\d\d` -/
def timePattern : List (Option UInt16) :=
  [none, none, some 58, none, none, some 58, none, none]

/-- `\d{4}-\d\d-\d\dT\d\d:\d\d:\d\dZ` -/
def instantPattern : List (Option UInt16) := datePattern ++ some 84 :: (timePattern ++ [some 90])

theorem length_of_matchesPattern {pattern : List (Option UInt16)} {text : Text}
    (h : matchesPattern pattern text = true) : text.length = pattern.length := by
  induction pattern generalizing text with
  | nil =>
      cases text with
      | nil => rfl
      | cons unit text => cases h
  | cons slot pattern ih =>
      cases text with
      | nil => cases slot <;> cases h
      | cons unit text =>
          have hrest : matchesPattern pattern text = true := by
            cases slot with
            | none => exact (Bool.and_eq_true_iff.mp h).2
            | some named => exact (Bool.and_eq_true_iff.mp h).2
          rw [List.length_cons, List.length_cons, ih hrest]

/-- The number at a place of a text. -/
def field (text : Text) (start length : ℕ) : ℕ := Decimals.value ((text.drop start).take length)

/-! ### Instants -/

/-- `Date.parse`, of a text of the pattern. Days behind the end of a month are those of the next,
and the hour 24 is the end of a day. -/
def dateParse (text : Text) : Option ℤ :=
  let year := field text 0 4
  let month := field text 5 2
  let day := field text 8 2
  let hour := field text 11 2
  let minute := field text 14 2
  let second := field text 17 2
  if 1 ≤ month ∧ month ≤ 12 ∧ 1 ≤ day ∧ day ≤ 31 ∧
      (hour ≤ 23 ∧ minute ≤ 59 ∧ second ≤ 59 ∨ hour = 24 ∧ minute = 0 ∧ second = 0) then
    some ((yearStart year + monthStart (isLeap year) month + day - 1) * dayMs +
      ((hour * 60 + minute) * 60 + second) * 1000)
  else none

/-- A number below 100, in two digits. -/
def twoDigits (n : ℕ) : Text := [Decimals.digitUnit (n / 10), Decimals.digitUnit (n % 10)]

def dateText (date : CivilDate) : Text :=
  twoDigits (date.year.toNat / 100) ++ twoDigits (date.year.toNat % 100) ++
    45 :: twoDigits date.month ++ 45 :: twoDigits date.day

def timeText (second : ℕ) : Text :=
  twoDigits (second / 3600) ++ 58 :: twoDigits (second / 60 % 60) ++ 58 :: twoDigits (second % 60)

/-- `toISOString`, without the milliseconds. -/
def instantText (instant : UtcInstant) : Text :=
  dateText (CivilDate.ofDayNumber (instant.ms / dayMs)) ++
    84 :: (timeText ((instant.ms % dayMs).toNat / 1000) ++ [90])

def formatUtc (ms : ℤ) : Except ErrorCode Text :=
  match Calculator.formatUtc ms with
  | .ok instant => .ok (instantText instant)
  | .error code => .error (.schedule code)

def utcInstant (value : Text) : Except ErrorCode Text := do
  throwIf (matchesPattern instantPattern value = false) (ErrorCode.schedule .invalidInstant)
  let ms ← orThrow (dateParse value) (ErrorCode.schedule .invalidInstant)
  let text ← formatUtc ms
  throwIf (text ≠ value) (ErrorCode.schedule .invalidInstant)
  .ok value

def localDate (value : Text) : Except ErrorCode Text := do
  throwIf (matchesPattern datePattern value = false) ErrorCode.invalidLocalDate
  let ms ← orThrow (dateParse (value ++ unitsOf "T00:00:00Z")) ErrorCode.invalidLocalDate
  let text ← formatUtc ms
  throwIf (text.take 10 ≠ value) ErrorCode.invalidLocalDate
  .ok value

/-- `(?:[01]\d|2[0-3]):[0-5]\d:[0-5]\d` -/
def localTime (value : Text) : Except ErrorCode Text := do
  throwIf (matchesPattern timePattern value = false ∨ 23 < field value 0 2 ∨
    59 < field value 3 2 ∨ 59 < field value 6 2) ErrorCode.invalidLocalTime
  .ok value

/-- An accepted text stays as it is, and has the length of its pattern. -/
theorem utcInstant_eq_ok {value text : Text} (h : utcInstant value = .ok text) :
    text = value ∧ value.length = 20 := by
  simp only [utcInstant, bind_eq_ok, throwIf_eq_ok, orThrow_eq_ok, Except.ok.injEq] at h
  obtain ⟨-, hpattern, -, -, -, -, -, -, rfl⟩ := h
  exact ⟨rfl, length_of_matchesPattern ((Bool.not_eq_false _).mp hpattern)⟩

theorem localDate_eq_ok {value text : Text} (h : localDate value = .ok text) :
    text = value ∧ value.length = 10 := by
  simp only [localDate, bind_eq_ok, throwIf_eq_ok, orThrow_eq_ok, Except.ok.injEq] at h
  obtain ⟨-, hpattern, -, -, -, -, -, -, rfl⟩ := h
  exact ⟨rfl, length_of_matchesPattern ((Bool.not_eq_false _).mp hpattern)⟩

theorem localTime_eq_ok {value text : Text} (h : localTime value = .ok text) :
    text = value ∧ value.length = 8 := by
  simp only [localTime, bind_eq_ok, throwIf_eq_ok, not_or, Except.ok.injEq] at h
  obtain ⟨-, ⟨hpattern, -⟩, rfl⟩ := h
  exact ⟨rfl, length_of_matchesPattern ((Bool.not_eq_false _).mp hpattern)⟩

/-- A day of the year 2024 that is none of the year 2023. -/
example : localDate (unitsOf "2024-02-29") = .ok (unitsOf "2024-02-29") ∧
    localDate (unitsOf "2023-02-29") = .error .invalidLocalDate := by decide +kernel

end Dona.Scheduler.Codec
