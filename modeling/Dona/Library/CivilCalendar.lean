import Mathlib.Tactic.IntervalCases
import Mathlib.Order.Monotone.Basic
import Mathlib.Data.Int.ConditionallyCompleteOrder
import Mathlib.Data.Int.Order.Basic

/-!
# The civil calendar

The proleptic Gregorian calendar. Days are numbered from 1970-01-01. The number of a date and the
date of a number are inverse to each other, and the order of the dates is that of their numbers.
-/

namespace CivilCalendar

/-! ### Years -/

def isLeap (year : ℤ) : Bool := year % 4 = 0 ∧ (year % 100 ≠ 0 ∨ year % 400 = 0)

/-- The number of the first day of a year. -/
def yearStart (year : ℤ) : ℤ :=
  365 * (year - 1970) + (year - 1969) / 4 - (year - 1901) / 100 + (year - 1601) / 400

def yearLength (leap : Bool) : ℤ := if leap then 366 else 365

theorem yearStart_succ (year : ℤ) :
    yearStart (year + 1) = yearStart year + yearLength (isLeap year) := by
  unfold yearStart yearLength isLeap
  split_ifs with hleap
  · simp only [Bool.decide_and, Bool.and_eq_true, decide_eq_true_eq, Bool.decide_or,
      Bool.or_eq_true] at hleap
    omega
  · simp only [Bool.decide_and, Bool.and_eq_true, decide_eq_true_eq, Bool.decide_or,
      Bool.or_eq_true] at hleap
    omega

theorem yearStart_mono : StrictMono yearStart := by
  refine strictMono_int_of_lt_succ fun year ↦ ?_
  rw [yearStart_succ, yearLength]
  split_ifs <;> omega

/-- The year of a day: the mean length of a year gives it up to one. -/
def yearOf (day : ℤ) : ℤ :=
  let year := 1970 + day * 400 / 146097
  if day < yearStart year then year - 1
  else if yearStart (year + 1) ≤ day then year + 1
  else year

theorem yearOf_spec (day : ℤ) :
    yearStart (yearOf day) ≤ day ∧ day < yearStart (yearOf day + 1) := by
  unfold yearOf
  simp only
  split_ifs with hbefore hafter
  · rw [Int.sub_add_cancel]
    refine ⟨?_, hbefore⟩
    unfold yearStart
    omega
  · refine ⟨hafter, ?_⟩
    unfold yearStart
    omega
  · exact ⟨by omega, by omega⟩

/-- A year is the only one that contains a day of it. -/
theorem yearOf_eq {year day : ℤ} (hstart : yearStart year ≤ day)
    (hend : day < yearStart (year + 1)) : yearOf day = year := by
  obtain ⟨hstart', hend'⟩ := yearOf_spec day
  have hle : yearOf day < year + 1 := yearStart_mono.lt_iff_lt.mp (hstart'.trans_lt hend)
  have hge : year < yearOf day + 1 := yearStart_mono.lt_iff_lt.mp (hstart.trans_lt hend')
  omega

theorem yearOf_mono : Monotone yearOf := by
  intro day day' hday
  obtain ⟨hstart, -⟩ := yearOf_spec day
  obtain ⟨-, hend'⟩ := yearOf_spec day'
  have hlt : yearOf day < yearOf day' + 1 :=
    yearStart_mono.lt_iff_lt.mp ((hstart.trans hday).trans_lt hend')
  omega

/-! ### Weeks -/

/-- The day of the week, from Monday to Sunday as 1 to 7; 1970-01-01 is a Thursday. -/
def weekday (day : ℤ) : ℤ := (day + 3) % 7 + 1

/-- The Monday of the week of a day. -/
def monday (day : ℤ) : ℤ := day - (weekday day - 1)

/-! ### Months -/

/-- The days of a year before a month. -/
def monthStart (leap : Bool) (month : ℕ) : ℕ :=
  let february := if leap then 29 else 28
  match month with
  | 0 | 1 => 0
  | 2 => 31
  | 3 => 31 + february
  | 4 => 62 + february
  | 5 => 92 + february
  | 6 => 123 + february
  | 7 => 153 + february
  | 8 => 184 + february
  | 9 => 215 + february
  | 10 => 245 + february
  | 11 => 276 + february
  | 12 => 306 + february
  | _ => 337 + february

def monthLength (leap : Bool) (month : ℕ) : ℕ := monthStart leap (month + 1) - monthStart leap month

theorem monthStart_mono (leap : Bool) : Monotone (monthStart leap) := by
  refine monotone_nat_of_le_succ fun month ↦ ?_
  by_cases hmonth : month ≤ 12
  · interval_cases month <;> cases leap <;> decide
  · obtain ⟨n, rfl⟩ : ∃ n, month = n + 13 := ⟨month - 13, by omega⟩
    exact le_rfl

theorem monthStart_thirteen (leap : Bool) : (monthStart leap 13 : ℤ) = yearLength leap := by
  cases leap <;> decide

/-- The last month, of those up to the given one, that starts by the day. -/
def monthUpTo (leap : Bool) (day : ℕ) : ℕ → ℕ
  | 0 => 1
  | month + 1 => if monthStart leap (month + 1) ≤ day then month + 1 else monthUpTo leap day month

def monthOf (leap : Bool) (day : ℕ) : ℕ := monthUpTo leap day 12

theorem monthUpTo_spec (leap : Bool) (day month : ℕ) :
    1 ≤ monthUpTo leap day month ∧ monthUpTo leap day month ≤ max 1 month ∧
      monthStart leap (monthUpTo leap day month) ≤ day ∧
        (monthUpTo leap day month < month →
          day < monthStart leap (monthUpTo leap day month + 1)) := by
  induction month with
  | zero =>
      refine ⟨le_rfl, le_rfl, ?_, fun h ↦ absurd h (by simp [monthUpTo])⟩
      exact Nat.zero_le day
  | succ month ih =>
      obtain ⟨hpos, hle, hstart, hnext⟩ := ih
      rw [monthUpTo]
      split_ifs with hday
      · exact ⟨by omega, by omega, hday, fun h ↦ by omega⟩
      · refine ⟨hpos, by omega, hstart, fun _ ↦ ?_⟩
        by_cases hlt : monthUpTo leap day month < month
        · exact hnext hlt
        · have hmonth : monthUpTo leap day month = max 1 month := by omega
          cases month with
          | zero => exact absurd (Nat.zero_le day) hday
          | succ m =>
              rw [hmonth, Nat.max_eq_right (by omega)]
              omega

/-- A month contains the day. -/
theorem monthOf_spec {leap : Bool} {day : ℕ} (hday : (day : ℤ) < yearLength leap) :
    1 ≤ monthOf leap day ∧ monthOf leap day ≤ 12 ∧ monthStart leap (monthOf leap day) ≤ day ∧
      day < monthStart leap (monthOf leap day + 1) := by
  obtain ⟨hpos, hle, hstart, hnext⟩ := monthUpTo_spec leap day 12
  refine ⟨hpos, hle, hstart, ?_⟩
  change day < monthStart leap (monthUpTo leap day 12 + 1)
  by_cases hlt : monthUpTo leap day 12 < 12
  · exact hnext hlt
  · have hlast : monthUpTo leap day 12 = 12 := by omega
    have hyear := monthStart_thirteen leap
    rw [hlast]
    change day < monthStart leap 13
    omega

/-- A month is the only one that contains a day of it. -/
theorem monthOf_eq {leap : Bool} {day month : ℕ} (hpos : 1 ≤ month) (hle : month ≤ 12)
    (hstart : monthStart leap month ≤ day) (hend : day < monthStart leap (month + 1)) :
    monthOf leap day = month := by
  have hyear : (day : ℤ) < yearLength leap := by
    have hmono := monthStart_mono leap (show month + 1 ≤ 13 by omega)
    have hthirteen := monthStart_thirteen leap
    omega
  obtain ⟨-, -, hstart', hend'⟩ := monthOf_spec hyear
  by_contra hne
  rcases Nat.lt_or_gt_of_ne hne with hlt | hgt
  · have hmono := monthStart_mono leap (show monthOf leap day + 1 ≤ month by omega)
    omega
  · have hmono := monthStart_mono leap (show month + 1 ≤ monthOf leap day by omega)
    omega

/-! ### Dates -/

end CivilCalendar

open CivilCalendar in
/-- A date of the calendar. -/
@[ext]
structure CivilDate where
  year : ℤ
  month : ℕ
  day : ℕ
  month_pos : 1 ≤ month
  month_le : month ≤ 12
  day_pos : 1 ≤ day
  day_le : day ≤ monthLength (isLeap year) month
  deriving DecidableEq

namespace CivilDate

open CivilCalendar

/-- The number of a date. -/
def dayNumber (date : CivilDate) : ℤ :=
  yearStart date.year + monthStart (isLeap date.year) date.month + date.day - 1

/-- The day of the year of a date, from zero. -/
def dayOfYear (date : CivilDate) : ℕ := monthStart (isLeap date.year) date.month + date.day - 1

theorem dayNumber_eq (date : CivilDate) :
    date.dayNumber = yearStart date.year + date.dayOfYear := by
  have hpos := date.day_pos
  unfold dayNumber dayOfYear
  omega

theorem dayOfYear_lt_next (date : CivilDate) :
    date.dayOfYear < monthStart (isLeap date.year) (date.month + 1) := by
  have hpos := date.day_pos
  have hle := date.day_le
  have hmono := monthStart_mono (isLeap date.year) (Nat.le_succ date.month)
  unfold monthLength at hle
  unfold dayOfYear
  omega

theorem monthStart_le_dayOfYear (date : CivilDate) :
    monthStart (isLeap date.year) date.month ≤ date.dayOfYear := by
  have hpos := date.day_pos
  unfold dayOfYear
  omega

theorem dayOfYear_lt (date : CivilDate) : (date.dayOfYear : ℤ) < yearLength (isLeap date.year) := by
  have hnext := date.dayOfYear_lt_next
  have hle := date.month_le
  have hmono := monthStart_mono (isLeap date.year) (show date.month + 1 ≤ 13 by omega)
  have hthirteen := monthStart_thirteen (isLeap date.year)
  omega

theorem yearOf_dayNumber (date : CivilDate) : yearOf date.dayNumber = date.year := by
  have hlt := date.dayOfYear_lt
  have hnext := yearStart_succ date.year
  have heq := date.dayNumber_eq
  exact yearOf_eq (by omega) (by omega)

/-- The day of its year of a day, from zero. -/
def offsetInYear (day : ℤ) : ℕ := (day - yearStart (yearOf day)).toNat

theorem offsetInYear_lt (day : ℤ) :
    (offsetInYear day : ℤ) < yearLength (isLeap (yearOf day)) := by
  obtain ⟨hstart, hend⟩ := yearOf_spec day
  have hnext := yearStart_succ (yearOf day)
  unfold offsetInYear
  omega

/-- The date with the given number. -/
def ofDayNumber (day : ℤ) : CivilDate where
  year := yearOf day
  month := monthOf (isLeap (yearOf day)) (offsetInYear day)
  day := offsetInYear day - monthStart (isLeap (yearOf day))
    (monthOf (isLeap (yearOf day)) (offsetInYear day)) + 1
  month_pos := (monthOf_spec (offsetInYear_lt day)).1
  month_le := (monthOf_spec (offsetInYear_lt day)).2.1
  day_pos := Nat.le_add_left 1 _
  day_le := by
    obtain ⟨-, -, hstart, hend⟩ := monthOf_spec (offsetInYear_lt day)
    unfold monthLength
    omega

@[simp] theorem dayNumber_ofDayNumber (day : ℤ) : (ofDayNumber day).dayNumber = day := by
  obtain ⟨-, -, hstart, -⟩ := monthOf_spec (offsetInYear_lt day)
  obtain ⟨hyear, -⟩ := yearOf_spec day
  have hoffset : (offsetInYear day : ℤ) = day - yearStart (yearOf day) :=
    Int.toNat_of_nonneg (by omega)
  simp only [dayNumber, ofDayNumber]
  omega

@[simp] theorem ofDayNumber_dayNumber (date : CivilDate) : ofDayNumber date.dayNumber = date := by
  have hyear := date.yearOf_dayNumber
  have hoffset : offsetInYear date.dayNumber = date.dayOfYear := by
    have heq := date.dayNumber_eq
    unfold offsetInYear
    rw [hyear]
    omega
  have hmonth : monthOf (isLeap date.year) date.dayOfYear = date.month :=
    monthOf_eq date.month_pos date.month_le date.monthStart_le_dayOfYear date.dayOfYear_lt_next
  have hpos := date.day_pos
  ext
  · exact hyear
  · simp only [ofDayNumber]
    rw [hyear, hoffset, hmonth]
  · simp only [ofDayNumber]
    rw [hyear, hoffset, hmonth]
    unfold dayOfYear
    omega

theorem dayNumber_injective : Function.Injective dayNumber :=
  Function.LeftInverse.injective ofDayNumber_dayNumber

/-- Year, month and day, one after the other. -/
def before (date other : CivilDate) : Bool :=
  date.year < other.year || (date.year = other.year &&
    (date.month < other.month || (date.month = other.month && date.day < other.day)))

theorem dayNumber_lt_of_before {date other : CivilDate} (h : date.before other = true) :
    date.dayNumber < other.dayNumber := by
  simp only [before, Bool.or_eq_true, Bool.and_eq_true, decide_eq_true_eq] at h
  have hdate := date.dayNumber_eq
  have hother := other.dayNumber_eq
  rcases h with hyear | ⟨hyear, hmonth | ⟨hmonth, hday⟩⟩
  · have hlt := date.dayOfYear_lt
    have hnext := yearStart_succ date.year
    have hmono := yearStart_mono.monotone (show date.year + 1 ≤ other.year by omega)
    omega
  · have hlt := date.dayOfYear_lt_next
    have hstart := other.monthStart_le_dayOfYear
    have hmono := monthStart_mono (isLeap date.year) (show date.month + 1 ≤ other.month by omega)
    rw [← hyear] at hother hstart
    omega
  · unfold dayNumber
    rw [hyear, hmonth]
    omega

/-- The order of the dates is that of their numbers. -/
theorem before_iff {date other : CivilDate} :
    date.before other = true ↔ date.dayNumber < other.dayNumber := by
  constructor
  · exact dayNumber_lt_of_before
  · intro h
    by_contra hnot
    have hge : date = other ∨ other.before date = true := by
      simp only [before, Bool.or_eq_true, Bool.and_eq_true, decide_eq_true_eq] at hnot ⊢
      rw [CivilDate.ext_iff]
      omega
    rcases hge with rfl | hbefore
    · exact absurd h (lt_irrefl _)
    · exact absurd h (dayNumber_lt_of_before hbefore).not_gt

end CivilDate
