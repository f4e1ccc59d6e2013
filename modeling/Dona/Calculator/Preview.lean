import Dona.Calculator.Expansion

/-!
# Previews and the next occurrence

`previewOccurrences` and `nextOccurrence` of `calculator.ts`, and `nextPersistedOccurrence` of
`service.ts`, which searches one window after the other until the end of the supported years.
-/

namespace Dona.Calculator

open Fallible

/-! ### `calculator.ts` -/

/-- `policy.limits.preview_count` -/
def previewCount : ℕ := 100

/-- `policy.limits.preview_days` -/
def previewDays : ℤ := 366

/-- `Date.parse('2499-12-31T23:59:59Z')` -/
def lastMs : ℤ := 16725225599000

variable {zones : String → Option Zone}

structure PreviewRequest where
  after : ℤ
  beforeOrEqual : ℤ
  limit : ℕ

/-- `checkedPreview` of a valid definition: the bounds of its window. -/
def checkedPreview (request : PreviewRequest) :
    Except ScheduleErrorCode (UtcInstant × UtcInstant) := do
  let after ← formatUtc request.after
  let before ← formatUtc request.beforeOrEqual
  let horizon := before.ms - after.ms
  throwIf (request.limit < 1 ∨ previewCount < request.limit ∨ horizon < dayMs ∨
    previewDays * dayMs < horizon) ScheduleErrorCode.invalidPreviewLimit
  .ok (after, before)

def previewOccurrences (definition : ScheduleDefinition zones) (request : PreviewRequest) :
    Except ScheduleErrorCode OccurrencePreview := do
  let (after, before) ← checkedPreview request
  calculateOccurrences definition after.ms before.ms request.limit

/-- Without an end of its own, the window is as long as a preview may be, and ends with the
supported years. -/
def nextOccurrence (definition : ScheduleDefinition zones) (after : ℤ)
    (beforeOrEqual : Option ℤ) : Except ScheduleErrorCode (Option Occurrence) := do
  let start ← formatUtc after
  match beforeOrEqual with
  | some before => do
      let preview ← previewOccurrences definition ⟨start.ms, before, 1⟩
      .ok preview.occurrences.head?
  | none => do
      let preview ← calculateOccurrences definition start.ms
        (min (start.ms + previewDays * dayMs) lastMs) 1
      .ok preview.occurrences.head?

/-! ### `service.ts` -/

def nextPersistedOccurrence (definition : ScheduleDefinition zones) (after : ℤ) :
    Except ScheduleErrorCode (Option Occurrence) :=
  if after < lastMs then
    match nextOccurrence definition after none with
    | .error code => .error code
    | .ok (some occurrence) => .ok (some occurrence)
    | .ok none =>
        let advanced := min (after + 366 * dayMs) lastMs
        if advanced ≤ after then .ok none else nextPersistedOccurrence definition advanced
  else .ok none
termination_by (lastMs - after).toNat

/-! ### Instants in the supported years -/

theorem yearOf_last : getUTCFullYear lastMs = maxYear := by decide

def lastInstant : UtcInstant := ⟨lastMs, by decide, by decide, by decide⟩

theorem UtcInstant.ext_ms {utc utc' : UtcInstant} (h : utc.ms = utc'.ms) : utc = utc' := by
  cases utc
  cases utc'
  cases h
  rfl

/-- A whole second between two instants is an instant. -/
theorem exists_instant_between {first last : UtcInstant} {ms : ℤ} (hfirst : first.ms ≤ ms)
    (hlast : ms ≤ last.ms) (hwhole : ms % 1000 = 0) : ∃ utc : UtcInstant, utc.ms = ms :=
  ⟨⟨ms, hwhole, first.year_ge.trans (year_mono hfirst), (year_mono hlast).trans last.year_le⟩, rfl⟩

/-- No instant is later than the last second of the supported years. -/
theorem UtcInstant.ms_le_lastMs (utc : UtcInstant) : utc.ms ≤ lastMs := by
  have hyear : getUTCFullYear utc.ms + 1 ≤ maxYear + 1 := add_le_add_left utc.year_le 1
  have hmono := CivilCalendar.yearStart_mono.monotone hyear
  have hlast : CivilCalendar.yearStart (maxYear + 1) = 193579 := by decide
  obtain ⟨-, hend⟩ := CivilCalendar.yearOf_spec (utc.ms / dayMs)
  have hwhole := utc.whole
  unfold getUTCFullYear at hmono
  unfold dayMs at hend hmono
  unfold lastMs
  omega

/-! ### The next occurrence -/

section

variable {definition : ScheduleDefinition zones}

/-- The occurrences behind an instant, to the end of the supported years. -/
def ScheduleDefinition.future (definition : ScheduleDefinition zones) (after : ℤ) : Set ℤ :=
  {utc | after < utc ∧ utc ≤ lastMs ∧ utc ∈ definition.recurrence.instants}

/-- The first occurrence of a set of instants, or none if the set is empty. -/
def FirstOf (found : Option Occurrence) (instants : Set ℤ) : Prop :=
  match found with
  | some occurrence => IsLeast instants occurrence.occurrenceAt.ms
  | none => instants = ∅

/-- The end of the window that `nextOccurrence` searches. -/
theorem exists_windowEnd {after : UtcInstant} (hafter : after.ms < lastMs) :
    ∃ before : UtcInstant, before.ms = min (after.ms + previewDays * dayMs) lastMs := by
  have hwhole := after.whole
  have hlast : min (after.ms + previewDays * dayMs) lastMs ≤ lastInstant.ms := min_le_right _ _
  refine exists_instant_between (le_min ?_ hafter.le) hlast ?_
  · unfold previewDays dayMs
    omega
  · unfold previewDays dayMs lastMs
    omega

theorem head?_instantsOf {occurrences : List Occurrence} :
    (instantsOf occurrences).head? = occurrences.head?.map fun o ↦ o.occurrenceAt.ms :=
  List.head?_map

/-- The first instant of a window, or none if there is none. -/
theorem nextOccurrence_spec {after : UtcInstant} (hafter : after.ms < lastMs) :
    ∃ found, nextOccurrence definition after.ms none = .ok found ∧
      FirstOf found {utc | after.ms < utc ∧
        utc ≤ min (after.ms + previewDays * dayMs) lastMs ∧
          utc ∈ definition.recurrence.instants} := by
  obtain ⟨before, hbefore⟩ := exists_windowEnd hafter
  obtain ⟨all, preview, hlists, hpreview, hpage⟩ :=
    calculateOccurrences_spec definition after before (le_refl 1)
  refine ⟨preview.occurrences.head?, ?_, ?_⟩
  · rw [hbefore] at hpreview
    simp only [nextOccurrence, formatUtc_ms, ok_bind, hpreview]
  · have hhead : preview.occurrences.head?.map (fun o ↦ o.occurrenceAt.ms) = all.head? := by
      rw [← head?_instantsOf, hpage.instants, List.head?_take, if_neg one_ne_zero]
    have hset : {utc | after.ms < utc ∧ utc ≤ min (after.ms + previewDays * dayMs) lastMs ∧
        utc ∈ definition.recurrence.instants} = {utc | utc ∈ all} := by
      ext utc
      rw [← hbefore]
      exact (hlists.mem_iff utc).symm
    rw [hset]
    cases hall : all with
    | nil =>
        rw [hall, List.head?_nil, Option.map_eq_none_iff] at hhead
        rw [hhead]
        exact Set.eq_empty_iff_forall_notMem.mpr fun utc hutc ↦ List.not_mem_nil hutc
    | cons first rest =>
        rw [hall, List.head?_cons, Option.map_eq_some_iff] at hhead
        obtain ⟨occurrence, hoccurrence, rfl⟩ := hhead
        have hincreasing := hlists.increasing
        rw [hall, List.pairwise_cons] at hincreasing
        rw [hoccurrence]
        refine ⟨List.mem_cons_self, fun utc hutc ↦ ?_⟩
        rcases List.mem_cons.mp hutc with rfl | hutc
        · exact le_rfl
        · exact (hincreasing.1 utc hutc).le

/-- The search finds the least occurrence behind the instant, and ends without one only if there
is none. -/
theorem nextPersistedOccurrence_spec (after : UtcInstant) :
    ∃ found, nextPersistedOccurrence definition after.ms = .ok found ∧
      FirstOf found (definition.future after.ms) := by
  induction hleft : (lastMs - after.ms).toNat using Nat.strong_induction_on generalizing after with
  | h left ih =>
      rw [nextPersistedOccurrence]
      split_ifs with hafter
      · obtain ⟨found, hfound, hfirst⟩ := @nextOccurrence_spec zones definition after hafter
        rw [hfound]
        cases found with
        | some occurrence =>
            -- the window has no gap before the occurrence, and all behind it is later
            refine ⟨some occurrence, rfl, ?_, fun utc hutc ↦ ?_⟩
            · obtain ⟨hlow, hhigh, hmem⟩ := hfirst.1
              exact ⟨hlow, hhigh.trans (min_le_right _ _), hmem⟩
            · obtain ⟨hlow, hhigh, hmem⟩ := hutc
              by_cases hwindow : utc ≤ min (after.ms + previewDays * dayMs) lastMs
              · exact hfirst.2 ⟨hlow, hwindow, hmem⟩
              · exact hfirst.1.2.1.trans (not_le.mp hwindow).le
        | none =>
            obtain ⟨next, hnext⟩ := exists_windowEnd hafter
            have hadvanced : min (after.ms + 366 * dayMs) lastMs = next.ms := hnext.symm
            have hlater : after.ms < next.ms := by
              rw [hnext]
              unfold previewDays dayMs
              omega
            have hless : (lastMs - next.ms).toNat < left := by omega
            obtain ⟨found, hfound, hrest⟩ := ih _ hless next rfl
            have hfuture : definition.future next.ms = definition.future after.ms := by
              ext utc
              refine and_congr_left fun hutc ↦ ⟨hlater.trans, fun hlow ↦ ?_⟩
              by_contra hnot
              have hnone : utc ∈ ({utc | after.ms < utc ∧
                  utc ≤ min (after.ms + previewDays * dayMs) lastMs ∧
                    utc ∈ definition.recurrence.instants} : Set ℤ) :=
                ⟨hlow, (not_lt.mp hnot).trans_eq hnext, hutc.2⟩
              rw [show _ = _ from hfirst] at hnone
              exact hnone
            simp only [hadvanced, if_neg (not_le.mpr hlater)]
            rw [← hfuture]
            exact ⟨found, hfound, hrest⟩
      · refine ⟨none, rfl, Set.eq_empty_iff_forall_notMem.mpr fun utc hutc ↦ ?_⟩
        have hlow := hutc.1
        have hhigh := hutc.2.1
        omega

end

end Dona.Calculator
