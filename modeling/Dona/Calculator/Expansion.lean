import Dona.Calculator.Occurrences

/-!
# The calendar expansion of a recurrence

The instants of a recurrence, as a set: those which are the earliest at which the zone shows the
local time on a date that the rule selects. `calculateOccurrences` lists them in order, page by
page.
-/

namespace Dona.Calculator

open Fallible CivilCalendar

/-! ### The specification -/

/-- The number of a month, through the years. -/
def monthNumber (date : CivilDate) : ℤ := date.year * 12 + date.month

/-- The dates that a rule selects, counted from the start date. -/
def Rule.Selects (startDate date : CivilDate) : Rule → Prop
  | daily interval => ∃ n : ℕ, date.dayNumber = startDate.dayNumber + n * interval.value
  | weekly interval weekdays =>
      (∃ day ∈ weekdays.days, weekday date.dayNumber = day) ∧
        ∃ n : ℕ, monday date.dayNumber = monday startDate.dayNumber + 7 * (n * interval.value)
  | monthly interval day =>
      date.day = day.value ∧
        ∃ n : ℕ, monthNumber date = monthNumber startDate + n * interval.value

/-- The occurrence of a date: the earliest instant at which the zone shows the local time. -/
def Common.IsOccurrence {zones : String → Option Zone} (common : Common zones) (date : CivilDate)
    (utc : ℤ) : Prop :=
  IsLeast {u | common.zone.Shows u (wallTime date common.localTime)} utc

/-- The instants of a recurrence, to the end of the supported years. -/
def Recurrence.instants {zones : String → Option Zone} : Recurrence zones → Set ℤ
  | once instant => {instant.ms}
  | repeating common rule =>
      {utc | ∃ date : CivilDate, common.startDate.dayNumber ≤ date.dayNumber ∧
        date.dayNumber ≤ lastDate.dayNumber ∧ rule.Selects common.startDate date ∧
          common.IsOccurrence date utc}

/-! ### Dates that match -/

/-- A remainder that vanishes, of a number that is not negative. -/
theorem tmod_eq_zero_iff {x : ℤ} {k : ℕ} (hx : 0 ≤ x) (hk : 1 ≤ k) :
    x.tmod k = 0 ↔ ∃ n : ℕ, x = n * k := by
  rw [← Int.dvd_iff_tmod_eq_zero]
  constructor
  · rintro ⟨c, hc⟩
    have hnonneg : 0 ≤ c := by
      by_contra hneg
      have hlt : (k : ℤ) * c < 0 := Int.mul_neg_of_pos_of_neg (by omega) (by omega)
      omega
    obtain ⟨n, rfl⟩ := Int.eq_ofNat_of_zero_le hnonneg
    exact ⟨n, by rw [hc, mul_comm]⟩
  · rintro ⟨n, rfl⟩
    exact ⟨n, mul_comm _ _⟩

theorem weekdayOf_eq (day : ℤ) : weekdayOf day = weekday day := by
  unfold weekdayOf weekday
  have htmod : (day + 3).tmod 7 = (day + 3) % 7 ∨ (day + 3).tmod 7 = (day + 3) % 7 - 7 := by
    rw [Int.tmod_eq_emod]
    split_ifs
    · exact Or.inl (Int.sub_zero _)
    · exact Or.inr rfl
  have hnonneg : 0 ≤ (day + 3).tmod 7 + 7 := by omega
  rw [Int.tmod_eq_emod_of_nonneg hnonneg]
  omega

theorem matchesRule_iff {startDate date : CivilDate} (rule : Rule)
    (hstart : startDate.dayNumber ≤ date.dayNumber) :
    matchesRule startDate date rule = true ↔ rule.Selects startDate date := by
  cases rule with
  | daily interval =>
      simp only [matchesRule, Rule.Selects, decide_eq_true_eq]
      rw [tmod_eq_zero_iff (by omega) interval.pos]
      refine exists_congr fun n ↦ ?_
      omega
  | weekly interval weekdays =>
      simp only [matchesRule, Rule.Selects, weekdayOf_eq, Bool.decide_and, Bool.and_eq_true,
        decide_eq_true_eq, List.any_eq_true]
      have hweeks : 7 * ((date.dayNumber -
          (startDate.dayNumber - weekday startDate.dayNumber + 1)) / 7) =
            monday date.dayNumber - monday startDate.dayNumber := by
        unfold monday weekday
        omega
      have hnonneg : 0 ≤ (date.dayNumber -
          (startDate.dayNumber - weekday startDate.dayNumber + 1)) / 7 := by
        unfold weekday
        omega
      rw [tmod_eq_zero_iff hnonneg interval.pos, and_comm]
      refine and_congr (exists_congr fun day ↦ and_congr Iff.rfl eq_comm) (exists_congr fun n ↦ ?_)
      omega
  | monthly interval day =>
      simp only [matchesRule, Rule.Selects, Bool.decide_and, Bool.and_eq_true, decide_eq_true_eq]
      have hmonths : 0 ≤ (date.year - startDate.year) * 12 + date.month - startDate.month := by
        have hmonth := date.month_pos
        have hmonth' := startDate.month_le
        have hnot : ¬date.before startDate = true := by
          rw [CivilDate.before_iff]
          omega
        simp only [CivilDate.before, Bool.or_eq_true, Bool.and_eq_true, decide_eq_true_eq] at hnot
        omega
      rw [tmod_eq_zero_iff hmonths interval.pos, and_comm]
      refine and_congr Iff.rfl (exists_congr fun n ↦ ?_)
      unfold monthNumber
      omega

theorem matchesDate_iff {startDate date : CivilDate} (rule : Rule) :
    matchesDate startDate date rule = true ↔
      startDate.dayNumber ≤ date.dayNumber ∧ rule.Selects startDate date := by
  unfold matchesDate
  split_ifs with hbefore
  · rw [CivilDate.before_iff] at hbefore
    exact iff_of_false id fun h ↦ absurd h.1 (not_le.mpr hbefore)
  · rw [CivilDate.before_iff, not_lt] at hbefore
    rw [matchesRule_iff rule hbefore, and_iff_right hbefore]

/-! ### The range of the instants -/

/-- What lies between two instants lies in the supported years. -/
theorem formatUtc_of_between {after before : UtcInstant} {ms : ℤ} (hafter : after.ms < ms)
    (hbefore : ms ≤ before.ms) (hwhole : ms % 1000 = 0) (hsafe : |ms| ≤ maxSafeInteger) :
    ∃ utc, formatUtc ms = .ok utc ∧ utc.ms = ms := by
  have hyear := after.year_ge.trans (year_mono hafter.le)
  have hyear' := (year_mono hbefore).trans before.year_le
  unfold formatUtc
  rw [dif_neg (by omega), dif_neg (by omega)]
  exact ⟨_, rfl, rfl⟩

theorem localDate_eq_ok {date : CivilDate} (h : localDate date = .ok date) :
    minYear ≤ date.year ∧ date.year ≤ maxYear := by
  simp only [localDate, throwIf_bind_eq_ok] at h
  omega

theorem localDate_of_year {date : CivilDate} (h : minYear ≤ date.year) (h' : date.year ≤ maxYear) :
    localDate date = .ok date := by
  simp only [localDate, throwIf_bind_eq_ok]
  exact ⟨by omega, trivial⟩

/-- The local times of the supported dates are small numbers. -/
theorem abs_wallTime_le {date : CivilDate} (time : LocalTime) (hfirst : -719162 ≤ date.dayNumber)
    (hlast : date.dayNumber ≤ lastDate.dayNumber) : |wallTime date time| ≤ 100000000000000 := by
  have hlastDay : lastDate.dayNumber = 193578 := by decide
  have hhour := time.hour_lt
  have hminute := time.minute_lt
  have hsecond := time.second_lt
  rw [abs_le]
  unfold wallTime dayMs LocalTime.seconds
  constructor <;> omega

/-! ### One day -/

section

variable {zones : String → Option Zone} (definition : ScheduleDefinition zones)
  (common : Common zones) (rule : Rule) {after before : UtcInstant}

theorem mem_append_iff {after before : ℤ} {utc : UtcInstant} {wall u : ℤ} :
    (∃ o ∈ append definition after before utc wall, o.occurrenceAt.ms = u) ↔
      after < u ∧ u ≤ before ∧ utc.ms = u := by
  unfold append
  split_ifs with hwindow
  · simp only [List.not_mem_nil, false_and, exists_false, false_iff]
    rintro ⟨hafter, hbefore, rfl⟩
    omega
  · simp only [List.mem_singleton, exists_eq_left]
    constructor
    · rintro rfl
      omega
    · exact fun h ↦ h.2.2

theorem resolveLocal_eq {date : CivilDate} (hdate : localDate date = .ok date) :
    resolveLocal zones date common.localTime common.timezone common.tzdbVersion =
      match (common.zone.candidates (wallTime date common.localTime)).min? with
      | none => .ok none
      | some earliest => some <$> formatUtc earliest := by
  unfold resolveLocal
  rw [hdate, common.zone_eq]
  rfl

theorem Common.IsOccurrence.bounds {common : Common zones} {date : CivilDate} {utc : ℤ}
    (h : common.IsOccurrence date utc) (hfirst : -719162 ≤ date.dayNumber)
    (hlast : date.dayNumber ≤ lastDate.dayNumber) :
    utc % 1000 = 0 ∧ |utc| ≤ maxSafeInteger ∧ |utc - wallTime date common.localTime| < dayMs := by
  have hshows : common.zone.Shows utc (wallTime date common.localTime) := h.1
  have hwall := abs_wallTime_le common.localTime hfirst hlast
  have hwhole : wallTime date common.localTime % 1000 = 0 := by
    unfold wallTime dayMs
    omega
  have hnear := hshows.near common.offset_lt
  refine ⟨hshows.whole hwhole, ?_, hnear⟩
  rw [abs_lt] at hnear
  rw [abs_le] at hwall ⊢
  unfold maxSafeInteger
  unfold dayMs at hnear
  constructor <;> omega

/-- The supported years begin with a day number. -/
theorem yearStart_le_dayNumber {date : CivilDate} (h : minYear ≤ date.year) :
    -719162 ≤ date.dayNumber := by
  have hmono := yearStart_mono.monotone h
  have hone : yearStart minYear = -719162 := by decide
  have heq := date.dayNumber_eq
  omega

theorem year_le_of_dayNumber {date : CivilDate} (h : date.dayNumber ≤ lastDate.dayNumber) :
    date.year ≤ maxYear := by
  have hmono := yearOf_mono h
  rw [CivilDate.yearOf_dayNumber, CivilDate.yearOf_dayNumber] at hmono
  exact hmono

/-- A day gives the occurrence of its date in the window, and never fails. -/
theorem occurrenceOn_spec {date : CivilDate} (hstart : common.startDate.dayNumber ≤ date.dayNumber)
    (hlast : date.dayNumber ≤ lastDate.dayNumber) :
    ∃ found, occurrenceOn definition common rule after.ms before.ms date.dayNumber = .ok found ∧
      ∀ u, (∃ o ∈ found, o.occurrenceAt.ms = u) ↔ after.ms < u ∧ u ≤ before.ms ∧
        rule.Selects common.startDate date ∧ common.IsOccurrence date u := by
  have hnone : ∀ {p : Prop}, ¬p → ∀ u, (∃ o ∈ ([] : List Occurrence), o.occurrenceAt.ms = u) ↔
      after.ms < u ∧ u ≤ before.ms ∧ p ∧ common.IsOccurrence date u := by
    intro p hp u
    simp [hp]
  have hvalid := localDate_eq_ok common.startDate_valid
  have hfirst : -719162 ≤ date.dayNumber :=
    (yearStart_le_dayNumber hvalid.1).trans hstart
  have hyear : minYear ≤ date.year := by
    have hmono := yearOf_mono hstart
    rw [CivilDate.yearOf_dayNumber, CivilDate.yearOf_dayNumber] at hmono
    exact hvalid.1.trans hmono
  have hdate : localDate date = .ok date := localDate_of_year hyear (year_le_of_dayNumber hlast)
  unfold occurrenceOn
  simp only [CivilDate.ofDayNumber_dayNumber]
  by_cases hmatch : matchesDate common.startDate date rule = true
  · rw [if_neg (by simp [hmatch]), resolveLocal_eq common hdate]
    have hselects := (matchesDate_iff rule).mp hmatch
    cases hmin : (common.zone.candidates (wallTime date common.localTime)).min? with
    | none =>
        refine ⟨[], rfl, fun u ↦ ?_⟩
        simp only [List.not_mem_nil, false_and, exists_false, false_iff, not_and]
        rintro - - - hu
        rw [Common.IsOccurrence, ← Zone.min?_candidates, hmin] at hu
        contradiction
    | some earliest =>
        have hearliest : common.IsOccurrence date earliest := Zone.min?_candidates.mp hmin
        obtain ⟨hwhole, hsafe, -⟩ := hearliest.bounds hfirst hlast
        cases hformat : formatUtc earliest with
        | ok utc =>
            have hms := formatUtc_eq_ok hformat
            refine ⟨append definition after.ms before.ms utc (wallTime date common.localTime), ?_,
              fun u ↦ ?_⟩
            · simp only [hformat]
              rfl
            rw [mem_append_iff, hms]
            refine and_congr Iff.rfl (and_congr Iff.rfl ?_)
            constructor
            · rintro rfl
              exact ⟨hselects.2, hearliest⟩
            · exact fun h ↦ hearliest.unique h.2
        | error code =>
            obtain ⟨rfl, hyears⟩ := formatUtc_eq_error hformat hwhole hsafe
            refine ⟨[], by simp only [hformat]; rfl, fun u ↦ ?_⟩
            simp only [List.not_mem_nil, false_and, exists_false, false_iff, not_and]
            rintro hafter hbefore - hu
            obtain rfl := hearliest.unique hu
            obtain ⟨utc, hutc, -⟩ := formatUtc_of_between hafter hbefore hwhole hsafe
            rw [hutc] at hformat
            contradiction
  · rw [if_pos (by simpa using hmatch)]
    refine ⟨[], rfl, hnone fun hselects ↦ hmatch ?_⟩
    exact (matchesDate_iff rule).mpr ⟨hstart, hselects⟩

/-! ### The window -/

theorem mem_daysFrom {first last day : ℤ} :
    day ∈ daysFrom first last ↔ first ≤ day ∧ day ≤ last := by
  simp only [daysFrom, List.mem_map, List.mem_range]
  constructor
  · rintro ⟨offset, hoffset, rfl⟩
    omega
  · rintro ⟨hfirst, hlast⟩
    exact ⟨(day - first).toNat, by omega, by omega⟩

/-- The date of an occurrence in the window is searched: its local time is less than a day away. -/
theorem mem_searchedDays {date : CivilDate} {utc : ℤ}
    (hstart : common.startDate.dayNumber ≤ date.dayNumber)
    (hlast : date.dayNumber ≤ lastDate.dayNumber) (hoccurrence : common.IsOccurrence date utc)
    {after before : ℤ} (hafter : after < utc) (hbefore : utc ≤ before) :
    date.dayNumber ∈ searchedDays common.startDate after before := by
  have hnear : |utc - wallTime date common.localTime| < dayMs :=
    hoccurrence.1.near common.offset_lt
  have hhour := common.localTime.hour_lt
  have hminute := common.localTime.minute_lt
  have hsecond := common.localTime.second_lt
  rw [abs_lt] at hnear
  unfold wallTime dayMs LocalTime.seconds at hnear
  rw [searchedDays, mem_daysFrom, max_le_iff, le_min_iff]
  unfold dayMs
  omega

/-- The occurrences that are collected are those of the recurrence in the window. -/
theorem collected_spec (after before : UtcInstant) :
    ∃ found, collected definition after.ms before.ms = .ok found ∧ found.Pairwise NotLater ∧
      ∀ u, (∃ o ∈ found, o.occurrenceAt.ms = u) ↔
        after.ms < u ∧ u ≤ before.ms ∧ u ∈ definition.recurrence.instants := by
  unfold collected
  cases hrecurrence : definition.recurrence with
  | once instant =>
      refine ⟨_, rfl, ?_, fun u ↦ ?_⟩
      · unfold append
        split_ifs
        · exact .nil
        · exact List.pairwise_singleton _ _
      · rw [mem_append_iff]
        exact and_congr Iff.rfl (and_congr Iff.rfl eq_comm)
  | repeating common rule =>
      have hdays : ∀ day ∈ searchedDays common.startDate after.ms before.ms,
          common.startDate.dayNumber ≤ day ∧ day ≤ lastDate.dayNumber := by
        intro day hday
        rw [searchedDays, mem_daysFrom, max_le_iff, le_min_iff] at hday
        exact ⟨hday.1.1, hday.2.1⟩
      have hspec : ∀ day ∈ searchedDays common.startDate after.ms before.ms,
          ∃ found, occurrenceOn definition common rule after.ms before.ms day = .ok found ∧
            ∀ u, (∃ o ∈ found, o.occurrenceAt.ms = u) ↔ after.ms < u ∧ u ≤ before.ms ∧
              rule.Selects common.startDate (CivilDate.ofDayNumber day) ∧
                common.IsOccurrence (CivilDate.ofDayNumber day) u := by
        intro day hday
        obtain ⟨hstart, hlast⟩ := hdays day hday
        rw [← CivilDate.dayNumber_ofDayNumber day] at hstart hlast
        obtain ⟨found, hfound, hmem⟩ := occurrenceOn_spec definition common rule hstart hlast
        rw [CivilDate.dayNumber_ofDayNumber] at hfound
        exact ⟨found, hfound, hmem⟩
      obtain ⟨found, hfound, hleft, hright⟩ := exists_mapM_eq_ok hspec
      refine ⟨found.flatten.insertionSort NotLater, ?_, List.pairwise_insertionSort _ _,
        fun u ↦ ?_⟩
      · simp only [hfound]
        rfl
      · simp only [List.mem_insertionSort, List.mem_flatten]
        constructor
        · rintro ⟨o, ⟨l, hl, ho⟩, rfl⟩
          obtain ⟨day, hday, hmem⟩ := hleft l hl
          obtain ⟨hafter, hbefore, hselects, hoccurrence⟩ := (hmem _).mp ⟨o, ho, rfl⟩
          obtain ⟨hstart, hlast⟩ := hdays day hday
          refine ⟨hafter, hbefore, CivilDate.ofDayNumber day, ?_, ?_, hselects, hoccurrence⟩
          · simpa using hstart
          · simpa using hlast
        · rintro ⟨hafter, hbefore, date, hstart, hlast, hselects, hoccurrence⟩
          have hday := mem_searchedDays common hstart hlast hoccurrence hafter hbefore
          obtain ⟨l, hl, hmem⟩ := hright _ hday
          rw [CivilDate.ofDayNumber_dayNumber] at hmem
          obtain ⟨o, ho, hms⟩ := (hmem u).mpr ⟨hafter, hbefore, hselects, hoccurrence⟩
          exact ⟨o, ⟨l, hl, ho⟩, hms⟩

end

/-! ### Pages -/

def instantsOf (occurrences : List Occurrence) : List ℤ := occurrences.map fun o ↦ o.occurrenceAt.ms

/-- Of sorted occurrences, one for each instant is left. -/
theorem uniqueBehind_spec {occurrences : List Occurrence} (h : occurrences.Pairwise NotLater)
    (previous : Option ℤ) (hprevious : ∀ p ∈ previous, ∀ o ∈ occurrences, p ≤ o.occurrenceAt.ms) :
    (instantsOf (uniqueBehind previous occurrences)).Pairwise (· < ·) ∧
      ∀ u, u ∈ instantsOf (uniqueBehind previous occurrences) ↔
        u ∈ instantsOf occurrences ∧ previous ≠ some u := by
  induction occurrences generalizing previous with
  | nil => exact ⟨.nil, fun u ↦ by simp [uniqueBehind, instantsOf]⟩
  | cons o os ih =>
      obtain ⟨hhead, htail⟩ := List.pairwise_cons.mp h
      obtain ⟨hincreasing, hmem⟩ := ih htail (some o.occurrenceAt.ms) (by
        intro p hp
        obtain rfl := Option.some.inj hp
        exact hhead)
      have hbehind : ∀ u ∈ instantsOf (uniqueBehind (some o.occurrenceAt.ms) os),
          o.occurrenceAt.ms < u := by
        intro u hu
        obtain ⟨hlisted, hne⟩ := (hmem u).mp hu
        obtain ⟨o', ho', rfl⟩ := List.mem_map.mp hlisted
        have hle : o.occurrenceAt.ms ≤ o'.occurrenceAt.ms := hhead o' ho'
        exact lt_of_le_of_ne hle fun heq ↦ hne (congrArg some heq)
      simp only [uniqueBehind]
      split_ifs with hsame
      · refine ⟨hincreasing, fun u ↦ ?_⟩
        rw [hmem, hsame]
        simp only [instantsOf, List.map_cons, List.mem_cons]
        constructor
        · exact fun hu ↦ ⟨.inr hu.1, hu.2⟩
        · rintro ⟨rfl | hu, hne⟩
          · exact absurd rfl hne
          · exact ⟨hu, hne⟩
      · refine ⟨List.pairwise_cons.mpr ⟨hbehind, hincreasing⟩, fun u ↦ ?_⟩
        change u ∈ o.occurrenceAt.ms :: instantsOf _ ↔ u ∈ o.occurrenceAt.ms :: instantsOf os ∧ _
        rw [List.mem_cons, List.mem_cons, hmem]
        constructor
        · rintro (rfl | ⟨hu, hne⟩)
          · exact ⟨.inl rfl, hsame⟩
          · refine ⟨.inr hu, ?_⟩
            rintro rfl
            have hle := hprevious u rfl o List.mem_cons_self
            have hlt := hbehind u ((hmem u).mpr ⟨hu, hne⟩)
            omega
        · rintro ⟨rfl | hu, hne⟩
          · exact .inl rfl
          · by_cases heq : u = o.occurrenceAt.ms
            · exact .inl heq
            · exact .inr ⟨hu, fun h ↦ heq (Option.some.inj h).symm⟩

/-- The first page of a list of instants. -/
structure OccurrencePreview.PageOf (preview : OccurrencePreview) (all : List ℤ) (limit : ℕ) :
    Prop where
  instants : instantsOf preview.occurrences = all.take limit
  truncated : preview.truncated = true ↔ limit < all.length
  cursor : preview.cursor.map (·.ms) =
    if limit < all.length then (all.take limit).getLast? else none

/-- The instants of a recurrence in a window, in order. -/
structure Recurrence.Lists {zones : String → Option Zone} (recurrence : Recurrence zones)
    (after before : UtcInstant) (all : List ℤ) : Prop where
  increasing : all.Pairwise (· < ·)
  mem_iff : ∀ u, u ∈ all ↔ after.ms < u ∧ u ≤ before.ms ∧ u ∈ recurrence.instants

section

variable {zones : String → Option Zone}

/-- There is one such list. -/
theorem Recurrence.Lists.unique {recurrence : Recurrence zones} {after before : UtcInstant}
    {all all' : List ℤ} (h : recurrence.Lists after before all)
    (h' : recurrence.Lists after before all') : all = all' := by
  have hnodup : ∀ {l : List ℤ}, l.Pairwise (· < ·) → l.Nodup := fun hl ↦ hl.imp ne_of_lt
  have hperm : all.Perm all' := by
    refine (List.perm_ext_iff_of_nodup (hnodup h.increasing) (hnodup h'.increasing)).mpr ?_
    intro u
    rw [h.mem_iff, h'.mem_iff]
  exact hperm.eq_of_pairwise' h.increasing h'.increasing

/-- What is behind the first page is the list of the window that begins with its last instant. -/
theorem Recurrence.Lists.drop {recurrence : Recurrence zones} {after before cursor : UtcInstant}
    {all : List ℤ} {limit : ℕ} (h : recurrence.Lists after before all)
    (hcursor : (all.take limit).getLast? = some cursor.ms) :
    recurrence.Lists cursor before (all.drop limit) := by
  have hsplit := h.increasing
  rw [← List.take_append_drop limit all, List.pairwise_append] at hsplit
  obtain ⟨htake, hdrop, hacross⟩ := hsplit
  obtain ⟨front, hfront⟩ := List.getLast?_eq_some_iff.mp hcursor
  have hmem : cursor.ms ∈ all.take limit := by simp [hfront]
  have hlargest : ∀ u ∈ all.take limit, u ≤ cursor.ms := by
    intro u hu
    rw [hfront] at hu htake
    rcases List.mem_append.mp hu with hu | hu
    · exact ((List.pairwise_append.mp htake).2.2 u hu _ List.mem_cons_self).le
    · exact (List.mem_singleton.mp hu).le
  have hafter := ((h.mem_iff _).mp (List.mem_of_mem_take hmem)).1
  refine ⟨hdrop, fun u ↦ ⟨fun hu ↦ ?_, ?_⟩⟩
  · have hlisted := (h.mem_iff u).mp (List.mem_of_mem_drop hu)
    exact ⟨hacross _ hmem u hu, hlisted.2⟩
  · rintro ⟨hcursor, hbefore, hinstant⟩
    have hlisted : u ∈ all := (h.mem_iff u).mpr ⟨hafter.trans hcursor, hbefore, hinstant⟩
    rw [← List.take_append_drop limit all] at hlisted
    rcases List.mem_append.mp hlisted with hu | hu
    · exact absurd (hlargest u hu) (not_le.mpr hcursor)
    · exact hu

/-- A calculation gives the first page of the instants in the window. -/
theorem calculateOccurrences_spec (definition : ScheduleDefinition zones)
    (after before : UtcInstant) {limit : ℕ} (hlimit : 1 ≤ limit) :
    ∃ all preview, definition.recurrence.Lists after before all ∧
      calculateOccurrences definition after.ms before.ms limit = .ok preview ∧
        preview.PageOf all limit := by
  obtain ⟨found, hfound, hsorted, hmem⟩ := collected_spec definition after before
  obtain ⟨hincreasing, hunique⟩ := uniqueBehind_spec hsorted none
    fun p hp ↦ by cases hp
  have hlists : definition.recurrence.Lists after before
      (instantsOf (uniqueBehind none found)) := by
    refine ⟨hincreasing, fun u ↦ ?_⟩
    rw [hunique, ← hmem, instantsOf, List.mem_map]
    exact and_iff_left (Option.some_ne_none u).symm
  have hlength : (uniqueBehind none found).length = (instantsOf (uniqueBehind none found)).length :=
    (List.length_map _).symm
  have htake : instantsOf ((uniqueBehind none found).take limit) =
      (instantsOf (uniqueBehind none found)).take limit := List.map_take
  by_cases hcut : limit < (uniqueBehind none found).length
  · have hne : (uniqueBehind none found).take limit ≠ [] := by
      rw [ne_eq, List.take_eq_nil_iff, not_or]
      exact ⟨by omega, List.ne_nil_of_length_pos (by omega)⟩
    have hlast := List.getLast?_eq_some_getLast hne
    refine ⟨_, ⟨(uniqueBehind none found).take limit, true,
      some (((uniqueBehind none found).take limit).getLast hne).occurrenceAt⟩, hlists, ?_, ?_⟩
    · simp only [calculateOccurrences, hfound, ok_bind, hcut, if_true, hlast]
      rfl
    · refine ⟨htake, by simp [← hlength, hcut], ?_⟩
      rw [if_pos (hlength ▸ hcut), ← htake, instantsOf, List.getLast?_map, hlast]
      rfl
  · refine ⟨_, ⟨(uniqueBehind none found).take limit, false, none⟩, hlists, ?_, ?_⟩
    · simp only [calculateOccurrences, hfound, ok_bind, hcut, if_false]
    · refine ⟨htake, by simp [← hlength, hcut], ?_⟩
      rw [if_neg (hlength ▸ hcut)]
      rfl

/-- The calculation lists the instants of a recurrence in a window page by page: each page is cut
exactly when there are more, and its cursor continues with the rest. -/
theorem occurrences_expand_recurrence (definition : ScheduleDefinition zones)
    (after before : UtcInstant) {limit : ℕ} (hlimit : 1 ≤ limit) :
    ∃ all preview, definition.recurrence.Lists after before all ∧
      calculateOccurrences definition after.ms before.ms limit = .ok preview ∧
        preview.PageOf all limit ∧
          ∀ cursor, preview.cursor = some cursor → ∀ limit', 1 ≤ limit' →
            ∃ rest, calculateOccurrences definition cursor.ms before.ms limit' = .ok rest ∧
              rest.PageOf (all.drop limit) limit' := by
  obtain ⟨all, preview, hlists, hpreview, hpage⟩ :=
    calculateOccurrences_spec definition after before hlimit
  refine ⟨all, preview, hlists, hpreview, hpage, fun cursor hcursor limit' hlimit' ↦ ?_⟩
  have hlast : (all.take limit).getLast? = some cursor.ms := by
    have hms := hpage.cursor
    rw [hcursor] at hms
    split_ifs at hms
    · exact hms.symm
    · contradiction
  obtain ⟨all', rest, hlists', hrest, hpage'⟩ :=
    calculateOccurrences_spec definition cursor before hlimit'
  obtain rfl := hlists'.unique (hlists.drop hlast)
  exact ⟨rest, hrest, hpage'⟩

end

/-! ### A daily recurrence -/

namespace Sample

def utcZone : Zone where
  untils := [⊤]
  offsets := [0]
  length_eq := rfl
  increasing := List.pairwise_singleton _ _
  last := rfl
  whole := by decide

def zones (name : String) : Option Zone := if name = "UTC" then some utcZone else none

def common : Common zones where
  startDate := ⟨2026, 9, 5, by decide, by decide, by decide, by decide⟩
  startDate_valid := rfl
  localTime := ⟨9, 0, 0, by decide, by decide, by decide⟩
  timezone := "UTC"
  tzdbVersion := "2025b"
  zone := utcZone
  zone_eq := by simp [timezoneName, orThrow, throwIf, zones, Calculator.tzdbVersion]
  offset_lt := by decide

def definition : ScheduleDefinition zones where
  scheduleId := "sch_1"
  revision := 1
  recurrence := .repeating common (.daily ⟨2, by decide, by decide⟩)

/-- The first of September of 2026. -/
def firstInstant : UtcInstant := ⟨1788220800000, by decide, by decide, by decide⟩

/-- The last of September of 2026. -/
def lastInstant : UtcInstant := ⟨1790726400000, by decide, by decide, by decide⟩

end Sample

open Sample in
/-- Every second day of a month. -/
theorem occurrences_expand_recurrence_daily :
    ∃ all preview, definition.recurrence.Lists firstInstant lastInstant all ∧
      calculateOccurrences definition firstInstant.ms lastInstant.ms 2 = .ok preview ∧
        preview.PageOf all 2 := by
  obtain ⟨all, preview, hlists, hpreview, hpage, -⟩ :=
    occurrences_expand_recurrence definition firstInstant lastInstant (show 1 ≤ 2 by decide)
  exact ⟨all, preview, hlists, hpreview, hpage⟩

end Dona.Calculator
