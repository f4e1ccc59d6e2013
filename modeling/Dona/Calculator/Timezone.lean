import Dona.Library.Bisection
import Dona.Library.CivilCalendar
import Dona.Library.Fallible
import Mathlib.Data.Int.ConditionallyCompleteOrder
import Mathlib.Data.List.GetD
import Mathlib.Order.WithBot

/-!
# Instants, local times and zones

`calendar.ts` and `timezone.ts` of the scheduler. An instant is a number of milliseconds, a local
time is the instant at which a clock of UTC shows it, and a zone is a table of offsets from local
time to UTC with the instants until which they are in force.
-/

namespace Dona.Calculator

open Fallible

inductive ScheduleErrorCode
  | invalidInstant | outOfRange | invalidTimezone | tzdbUnavailable | invalidPreviewLimit
  | typeError
  deriving DecidableEq

/-! ### `calendar.ts` -/

def dayMs : ℤ := 86400000

def minYear : ℤ := 1

def maxYear : ℤ := 2499

def maxSafeInteger : ℤ := 2 ^ 53 - 1

def getUTCFullYear (ms : ℤ) : ℤ := CivilCalendar.yearOf (ms / dayMs)

/-- A whole second in the years that are supported. -/
structure UtcInstant where
  ms : ℤ
  whole : ms % 1000 = 0
  year_ge : minYear ≤ getUTCFullYear ms
  year_le : getUTCFullYear ms ≤ maxYear
  deriving DecidableEq

def formatUtc (ms : ℤ) : Except ScheduleErrorCode UtcInstant :=
  if hwhole : maxSafeInteger < |ms| ∨ ms % 1000 ≠ 0 then .error .invalidInstant
  else if hyear : getUTCFullYear ms < minYear ∨ maxYear < getUTCFullYear ms then .error .outOfRange
  else .ok
    { ms := ms
      whole := not_not.mp (not_or.mp hwhole).2
      year_ge := not_lt.mp (not_or.mp hyear).1
      year_le := not_lt.mp (not_or.mp hyear).2 }

/-- A date in the years that are supported. -/
def localDate (date : CivilDate) : Except ScheduleErrorCode CivilDate := do
  throwIf (date.year < minYear ∨ maxYear < date.year) ScheduleErrorCode.outOfRange
  .ok date

structure LocalTime where
  hour : ℕ
  minute : ℕ
  second : ℕ
  hour_lt : hour < 24
  minute_lt : minute < 60
  second_lt : second < 60

def LocalTime.seconds (time : LocalTime) : ℤ := (time.hour * 60 + time.minute) * 60 + time.second

/-- `Date.parse` of a date and a time of day. -/
def wallTime (date : CivilDate) (time : LocalTime) : ℤ :=
  date.dayNumber * dayMs + time.seconds * 1000

/-! ### `timezone.ts` -/

def tzdbVersion : String := "2025b"

/-- A table of zone data. -/
structure Zone where
  untils : List (WithTop ℤ)
  offsets : List ℤ
  length_eq : offsets.length = untils.length
  increasing : untils.Pairwise (· < ·)
  last : untils.getLast? = some ⊤
  whole : ∀ offset ∈ offsets, offset % 1000 = 0

variable (zones : String → Option Zone)

def timezoneName (value version : String) : Except ScheduleErrorCode Zone := do
  throwIf (version ≠ tzdbVersion) ScheduleErrorCode.tzdbUnavailable
  orThrow (zones value) ScheduleErrorCode.invalidTimezone

def Zone.endsAfter (zone : Zone) (utc : ℤ) (period : ℕ) : Bool :=
  match zone.untils.getD period ⊤ with
  | ⊤ => true
  | WithTop.some until' => utc < until'

def Zone.offsetAt (zone : Zone) (utc : ℤ) : ℤ :=
  zone.offsets.getD (bisect (zone.endsAfter utc) 0 (zone.untils.length - 1)) 0

/-- The instants, one for each offset, at which the zone shows the local time. -/
def Zone.candidates (zone : Zone) (wall : ℤ) : List ℤ :=
  (zone.offsets.eraseDups.filter fun offset ↦ zone.offsetAt (wall + offset) = offset).map (wall + ·)

def resolveLocal (date : CivilDate) (time : LocalTime) (timezone version : String) :
    Except ScheduleErrorCode (Option UtcInstant) := do
  let wall := wallTime (← localDate date) time
  let zone ← timezoneName zones timezone version
  match (zone.candidates wall).min? with
  | none => .ok none
  | some earliest => some <$> formatUtc earliest

/-! ### The periods of a zone -/

namespace Zone

variable (zone : Zone)

/-- The first period that has not ended. -/
structure InForce (utc : ℤ) (period : ℕ) : Prop where
  lt_length : period < zone.untils.length
  current : (utc : WithTop ℤ) < zone.untils.getD period ⊤
  past : ∀ earlier < period, zone.untils.getD earlier ⊤ ≤ utc

/-- The zone shows the local time at the instant. -/
def Shows (utc wall : ℤ) : Prop :=
  ∃ period, zone.InForce utc period ∧ utc - zone.offsets.getD period 0 = wall

variable {zone} {utc wall : ℤ}

theorem endsAfter_iff {period : ℕ} :
    zone.endsAfter utc period = true ↔ (utc : WithTop ℤ) < zone.untils.getD period ⊤ := by
  unfold endsAfter
  cases zone.untils.getD period ⊤ with
  | top => simp
  | coe until' => simp

theorem endsAfter_mono {i j : ℕ} (hij : i ≤ j) (h : zone.endsAfter utc i = true) :
    zone.endsAfter utc j = true := by
  have hi := endsAfter_iff.mp h
  refine endsAfter_iff.mpr (hi.trans_le ?_)
  by_cases hj : j < zone.untils.length
  · have hi' : i < zone.untils.length := by omega
    rw [List.getD_eq_getElem _ _ hi', List.getD_eq_getElem _ _ hj]
    rcases Nat.lt_or_eq_of_le hij with hlt | rfl
    · exact (List.pairwise_iff_getElem.mp zone.increasing i j hi' hj hlt).le
    · exact le_rfl
  · have hend : zone.untils.getD j ⊤ = ⊤ := List.getD_eq_default _ _ (by omega)
    rw [hend]
    exact le_top

theorem length_pos (zone : Zone) : 0 < zone.untils.length := by
  refine List.length_pos_iff.mpr fun hnil ↦ ?_
  have hlast := zone.last
  simp [hnil] at hlast

theorem getD_last (zone : Zone) : zone.untils.getD (zone.untils.length - 1) ⊤ = ⊤ := by
  have hlast := zone.last
  rw [List.getLast?_eq_getElem?] at hlast
  rw [List.getD_eq_getElem?_getD, hlast]
  rfl

/-- The bisection finds the period in force. -/
theorem inForce_bisect (zone : Zone) (utc : ℤ) :
    zone.InForce utc (bisect (zone.endsAfter utc) 0 (zone.untils.length - 1)) := by
  have hpos := zone.length_pos
  obtain ⟨-, hle, hbefore, hat⟩ :=
    bisect_spec (p := zone.endsAfter utc) endsAfter_mono (Nat.zero_le (zone.untils.length - 1))
  refine ⟨by omega, ?_, fun earlier hlt ↦ ?_⟩
  · by_cases hlast : bisect (zone.endsAfter utc) 0 (zone.untils.length - 1) <
        zone.untils.length - 1
    · exact endsAfter_iff.mp (hat hlast)
    · have heq : bisect (zone.endsAfter utc) 0 (zone.untils.length - 1) =
          zone.untils.length - 1 := by omega
      rw [heq, getD_last]
      exact WithTop.coe_lt_top utc
  · exact not_lt.mp fun hends ↦ Bool.eq_false_iff.mp (hbefore earlier (Nat.zero_le _) hlt)
      (endsAfter_iff.mpr hends)

theorem InForce.unique {period period' : ℕ} (h : zone.InForce utc period)
    (h' : zone.InForce utc period') : period = period' := by
  by_contra hne
  rcases Nat.lt_or_gt_of_ne hne with hlt | hgt
  · exact absurd h.current (h'.past period hlt).not_gt
  · exact absurd h'.current (h.past period' hgt).not_gt

/-- The local time that a zone shows. -/
theorem shows_iff : zone.Shows utc wall ↔ utc - zone.offsetAt utc = wall := by
  have hforce := zone.inForce_bisect utc
  constructor
  · rintro ⟨period, hperiod, rfl⟩
    rw [hperiod.unique hforce]
    rfl
  · intro h
    exact ⟨_, hforce, h⟩

theorem offsetAt_mem (zone : Zone) (utc : ℤ) : zone.offsetAt utc ∈ zone.offsets := by
  have hlt := (zone.inForce_bisect utc).lt_length
  have hlt' : bisect (zone.endsAfter utc) 0 (zone.untils.length - 1) < zone.offsets.length :=
    hlt.trans_eq zone.length_eq.symm
  rw [offsetAt, List.getD_eq_getElem _ _ hlt']
  exact List.getElem_mem hlt'

theorem mem_candidates : utc ∈ zone.candidates wall ↔ zone.Shows utc wall := by
  rw [shows_iff]
  simp only [candidates, List.mem_map, List.mem_filter, List.mem_eraseDups, decide_eq_true_eq]
  constructor
  · rintro ⟨offset, ⟨-, hoffset⟩, rfl⟩
    omega
  · intro h
    refine ⟨zone.offsetAt utc, ⟨zone.offsetAt_mem utc, ?_⟩, by omega⟩
    have hutc : wall + zone.offsetAt utc = utc := by omega
    rw [hutc]

/-- The smallest candidate is the earliest instant at which the zone shows the local time. -/
theorem min?_candidates : (zone.candidates wall).min? = some utc ↔
    IsLeast {u | zone.Shows u wall} utc := by
  rw [List.min?_eq_some_iff]
  simp only [mem_candidates]
  rfl

theorem Shows.near (hday : ∀ offset ∈ zone.offsets, |offset| < dayMs) (h : zone.Shows utc wall) :
    |utc - wall| < dayMs := by
  have hoffset := hday _ (zone.offsetAt_mem utc)
  have heq := shows_iff.mp h
  have hsub : utc - wall = zone.offsetAt utc := by omega
  rwa [hsub]

theorem Shows.whole (h : zone.Shows utc wall) (hwall : wall % 1000 = 0) : utc % 1000 = 0 := by
  have hoffset := zone.whole _ (zone.offsetAt_mem utc)
  have heq := shows_iff.mp h
  omega

end Zone

/-! ### Instants of the supported years -/

theorem year_mono {ms ms' : ℤ} (h : ms ≤ ms') : getUTCFullYear ms ≤ getUTCFullYear ms' := by
  refine CivilCalendar.yearOf_mono ?_
  unfold dayMs
  omega

theorem formatUtc_eq_ok {ms : ℤ} {utc : UtcInstant} (h : formatUtc ms = .ok utc) : utc.ms = ms := by
  unfold formatUtc at h
  split_ifs at h
  obtain rfl := Except.ok.inj h
  rfl

theorem formatUtc_eq_error {ms : ℤ} {code : ScheduleErrorCode} (h : formatUtc ms = .error code)
    (hwhole : ms % 1000 = 0) (hsafe : |ms| ≤ maxSafeInteger) :
    code = .outOfRange ∧ (getUTCFullYear ms < minYear ∨ maxYear < getUTCFullYear ms) := by
  unfold formatUtc at h
  split_ifs at h with hinvalid hyear
  · omega
  · exact ⟨(Except.error.inj h).symm, hyear⟩

/-- The instants of the supported years are safe integers. -/
theorem UtcInstant.abs_ms_le (utc : UtcInstant) : |utc.ms| ≤ maxSafeInteger := by
  obtain ⟨hstart, hend⟩ := CivilCalendar.yearOf_spec (utc.ms / dayMs)
  have hge := CivilCalendar.yearStart_mono.monotone utc.year_ge
  have hle := CivilCalendar.yearStart_mono.monotone (show getUTCFullYear utc.ms + 1 ≤ maxYear + 1 by
    have hyear := utc.year_le
    omega)
  have hfirst : CivilCalendar.yearStart minYear = -719162 := by decide
  have hlast : CivilCalendar.yearStart (maxYear + 1) = 193579 := by decide
  unfold getUTCFullYear at hge hle
  rw [abs_le]
  unfold dayMs at hstart hend hge hle
  unfold maxSafeInteger
  constructor <;> omega

/-- An instant is formatted exactly when it is a whole second of the supported years. -/
theorem formatUtc_ms (utc : UtcInstant) : formatUtc utc.ms = .ok utc := by
  have hsafe := utc.abs_ms_le
  have hwhole := utc.whole
  have hge := utc.year_ge
  have hle := utc.year_le
  unfold formatUtc
  rw [dif_neg (by omega), dif_neg (by omega)]

theorem formatUtc_eq_ok_iff {ms : ℤ} {utc : UtcInstant} :
    formatUtc ms = .ok utc ↔ utc.ms = ms := by
  constructor
  · exact formatUtc_eq_ok
  · rintro rfl
    exact formatUtc_ms utc

theorem formatUtc_eq_outOfRange_iff {ms : ℤ} (hwhole : ms % 1000 = 0) :
    formatUtc ms = .error .outOfRange ↔ |ms| ≤ maxSafeInteger ∧
      (getUTCFullYear ms < minYear ∨ maxYear < getUTCFullYear ms) := by
  unfold formatUtc
  split_ifs with hinvalid hyear
  · simp
    omega
  · simp
    omega
  · simp
    omega

theorem formatUtc_eq_invalidInstant_iff {ms : ℤ} (hwhole : ms % 1000 = 0) :
    formatUtc ms = .error .invalidInstant ↔ maxSafeInteger < |ms| := by
  unfold formatUtc
  split_ifs with hinvalid hyear
  · simp
    omega
  · simp
    omega
  · simp
    omega

/-! ### The local times of a zone -/

namespace Zone

variable {zone : Zone} {wall : ℤ}

/-- `offsetAt` pairs an instant with the first period that ends after it. -/
theorem offsetAt_inForce (zone : Zone) (utc : ℤ) :
    ∃ period, zone.InForce utc period ∧ zone.offsets[period]? = some (zone.offsetAt utc) := by
  have hforce := zone.inForce_bisect utc
  have hlt : bisect (zone.endsAfter utc) 0 (zone.untils.length - 1) < zone.offsets.length :=
    hforce.lt_length.trans_eq zone.length_eq.symm
  refine ⟨_, hforce, ?_⟩
  rw [List.getElem?_eq_getElem hlt, offsetAt, List.getD_eq_getElem _ _ hlt]

/-- A zone that shows the local time at all shows it first at one of the candidates. -/
theorem exists_isLeast {utc : ℤ} (h : zone.Shows utc wall) :
    ∃ earliest, IsLeast {u | zone.Shows u wall} earliest := by
  cases hmin : (zone.candidates wall).min? with
  | none =>
      have hmem : utc ∈ zone.candidates wall := mem_candidates.mpr h
      rw [List.min?_eq_none_iff.mp hmin] at hmem
      exact absurd hmem List.not_mem_nil
  | some earliest => exact ⟨earliest, min?_candidates.mp hmin⟩

theorem setOf_shows (zone : Zone) (wall : ℤ) :
    {utc | utc - zone.offsetAt utc = wall} = {utc | zone.Shows utc wall} := by
  ext utc
  exact shows_iff.symm

end Zone

/-- The answer to a local time is what `formatUtc` makes of the earliest instant. -/
theorem resolveLocal_eq_format {timezone : String} {zone : Zone} {date : CivilDate}
    (hzone : zones timezone = some zone) (hdate : localDate date = .ok date) (time : LocalTime) :
    resolveLocal zones date time timezone tzdbVersion =
      match (zone.candidates (wallTime date time)).min? with
      | none => .ok none
      | some earliest => some <$> formatUtc earliest := by
  have hname : timezoneName zones timezone tzdbVersion = .ok zone := by
    simp [timezoneName, orThrow, throwIf, hzone]
  unfold resolveLocal
  rw [hdate, hname]
  rfl

section

variable {timezone : String} {zone : Zone} {date : CivilDate}

theorem map_some_eq_ok {ε α : Type} {x : Except ε α} {a : α} :
    some <$> x = .ok (some a) ↔ x = .ok a := by
  cases x with
  | error e => exact iff_of_false nofun nofun
  | ok b => exact ⟨fun h ↦ by cases h; rfl, fun h ↦ by cases h; rfl⟩

theorem map_some_eq_error {ε α : Type} {x : Except ε α} {e : ε} :
    some <$> x = .error e ↔ x = .error e := by
  cases x with
  | error e' => exact ⟨fun h ↦ by cases h; rfl, fun h ↦ by cases h; rfl⟩
  | ok b => exact iff_of_false nofun nofun

theorem resolveLocal_none (hzone : zones timezone = some zone) (hdate : localDate date = .ok date)
    (time : LocalTime) (hnone : ∀ utc, ¬zone.Shows utc (wallTime date time)) :
    resolveLocal zones date time timezone tzdbVersion = .ok none := by
  rw [resolveLocal_eq_format zones hzone hdate]
  have hmin : (zone.candidates (wallTime date time)).min? = none := by
    rw [List.min?_eq_none_iff, List.eq_nil_iff_forall_not_mem]
    intro utc hutc
    exact hnone utc (Zone.mem_candidates.mp hutc)
  rw [hmin]

theorem resolveLocal_isLeast (hzone : zones timezone = some zone)
    (hdate : localDate date = .ok date) (time : LocalTime) {earliest : ℤ}
    (hearliest : IsLeast {utc | zone.Shows utc (wallTime date time)} earliest) :
    resolveLocal zones date time timezone tzdbVersion = some <$> formatUtc earliest := by
  rw [resolveLocal_eq_format zones hzone hdate, Zone.min?_candidates.mpr hearliest]

/-- The instant that a local time names in a zone: the earliest at which the zone shows it. -/
theorem resolveLocal_earliest {zones : String → Option Zone} (hzone : zones timezone = some zone)
    (hdate : localDate date = .ok date) (time : LocalTime) :
    (∀ utc, ∃ period, zone.InForce utc period ∧
      zone.offsets[period]? = some (zone.offsetAt utc)) ∧
    (resolveLocal zones date time timezone tzdbVersion = .ok none ↔
      ∀ utc, utc - zone.offsetAt utc ≠ wallTime date time) ∧
    (∀ utc : UtcInstant, resolveLocal zones date time timezone tzdbVersion = .ok (some utc) ↔
      IsLeast {u | u - zone.offsetAt u = wallTime date time} utc.ms) ∧
    (resolveLocal zones date time timezone tzdbVersion = .error .outOfRange ↔
      ∃ utc, IsLeast {u | u - zone.offsetAt u = wallTime date time} utc ∧ |utc| ≤ maxSafeInteger ∧
        (getUTCFullYear utc < minYear ∨ maxYear < getUTCFullYear utc)) ∧
    (resolveLocal zones date time timezone tzdbVersion = .error .invalidInstant ↔
      ∃ utc, IsLeast {u | u - zone.offsetAt u = wallTime date time} utc ∧
        maxSafeInteger < |utc|) := by
  refine ⟨zone.offsetAt_inForce, ?_⟩
  rw [zone.setOf_shows]
  simp only [ne_eq, ← Zone.shows_iff]
  by_cases hshown : ∃ utc, zone.Shows utc (wallTime date time)
  · obtain ⟨utc, hutc⟩ := hshown
    obtain ⟨earliest, hearliest⟩ := Zone.exists_isLeast hutc
    have hwhole : earliest % 1000 = 0 := by
      refine hearliest.1.whole ?_
      unfold wallTime dayMs
      omega
    have hthe : ∀ {p : ℤ → Prop},
        (∃ u, IsLeast {u | zone.Shows u (wallTime date time)} u ∧ p u) ↔ p earliest := by
      intro p
      constructor
      · rintro ⟨u, hu, hp⟩
        rwa [hearliest.unique hu]
      · exact fun hp ↦ ⟨earliest, hearliest, hp⟩
    rw [resolveLocal_isLeast zones hzone hdate time hearliest]
    refine ⟨?_, fun instant ↦ ?_, ?_, ?_⟩
    · refine iff_of_false (fun hanswer ↦ ?_) fun hnone ↦ hnone utc hutc
      cases hformat : formatUtc earliest <;> rw [hformat] at hanswer <;> cases hanswer
    · rw [map_some_eq_ok, formatUtc_eq_ok_iff]
      constructor
      · rintro rfl
        exact hearliest
      · exact fun hinstant ↦ hinstant.unique hearliest
    · rw [map_some_eq_error, formatUtc_eq_outOfRange_iff hwhole, hthe]
    · rw [map_some_eq_error, formatUtc_eq_invalidInstant_iff hwhole, hthe]
  · have hnone := not_exists.mp hshown
    have hleast : ∀ u, ¬IsLeast {u | zone.Shows u (wallTime date time)} u := fun u h ↦ hnone u h.1
    rw [resolveLocal_none zones hzone hdate time hnone]
    refine ⟨iff_of_true rfl hnone, fun instant ↦ ?_, ?_, ?_⟩
    · exact iff_of_false (by simp) (hleast _)
    · refine iff_of_false (by simp) ?_
      rintro ⟨u, hu, -⟩
      exact hleast u hu
    · refine iff_of_false (by simp) ?_
      rintro ⟨u, hu, -⟩
      exact hleast u hu

end

/-! ### Two zones -/

namespace Sample

/-- One hour ahead of UTC until the first of July of 2000, and two hours from then on. -/
def shiftedZone : Zone where
  untils := [(962402400000 : ℤ), ⊤]
  offsets := [-3600000, -7200000]
  length_eq := rfl
  increasing := List.pairwise_pair.mpr (WithTop.coe_lt_top _)
  last := rfl
  whole := by decide

/-- An offset of 285,000 years. -/
def farZone : Zone where
  untils := [(962402400000 : ℤ), ⊤]
  offsets := [9007199254740000, 9007199254740000]
  length_eq := rfl
  increasing := List.pairwise_pair.mpr (WithTop.coe_lt_top _)
  last := rfl
  whole := by decide

def springDay : CivilDate := ⟨2000, 3, 4, by decide, by decide, by decide, by decide⟩

def morning : LocalTime := ⟨6, 30, 30, by decide, by decide, by decide⟩

/-- That morning, one hour ahead of UTC. -/
def shiftedMorning : UtcInstant := ⟨952147830000, by decide, by decide, by decide⟩

end Sample

open Sample in
theorem resolveLocal_earliest_shifted :
    resolveLocal (fun _ ↦ some shiftedZone) springDay morning "Europe/Berlin" tzdbVersion =
        .ok (some shiftedMorning) ↔
      IsLeast {u | u - shiftedZone.offsetAt u = wallTime springDay morning} shiftedMorning.ms :=
  (@resolveLocal_earliest "Europe/Berlin" shiftedZone springDay (fun _ ↦ some shiftedZone) rfl rfl
    morning).2.2.1 shiftedMorning

open Sample in
/-- An instant that is not a safe integer is refused as such, though its year is out of range. -/
theorem resolveLocal_far :
    ∃ utc, IsLeast {u | u - farZone.offsetAt u = wallTime springDay morning} utc ∧
      maxYear < getUTCFullYear utc ∧
      resolveLocal (fun _ ↦ some farZone) springDay morning "Far/Away" tzdbVersion =
        .error .invalidInstant := by
  have hoffset : ∀ utc, farZone.offsetAt utc = 9007199254740000 := by
    intro utc
    have hmem := farZone.offsetAt_mem utc
    simpa [farZone] using hmem
  have hwall : wallTime springDay morning = 952151430000 := by decide
  refine ⟨9008151406170000, ⟨?_, fun u hu ↦ ?_⟩, by decide +kernel, by decide +kernel⟩
  · simp only [Set.mem_ofPred_eq, hoffset, hwall]
    omega
  · simp only [Set.mem_ofPred_eq, hoffset, hwall] at hu
    omega

end Dona.Calculator
