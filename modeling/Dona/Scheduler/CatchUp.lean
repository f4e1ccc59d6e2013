import Dona.Calculator.Preview
import Dona.Scheduler.Lifecycle

/-!
# Which occurrence a late schedule catches up with

The body of the loop of `SchedulerService.runBatch`: of the occurrences that are due, the latest
is materialized, and the others are skipped over in one piece.
-/

namespace Dona

open Fallible Calculator

/-- An instant as it is stored: `YYYY-MM-DDTHH:MM:SSZ`. -/
def Calculator.UtcInstant.timestamp (utc : UtcInstant) : Timestamp := .ofSeconds (utc.ms / 1000)

namespace CatchUp

/-- What fails in the body of the loop. -/
inductive BatchError
  | invalidDefinition
  | schedule (code : ScheduleErrorCode)
  | nextDueDefinitionMismatch
  | repository (message : String)
  deriving DecidableEq

/-- The arguments of `materialize` that the batch computes. -/
structure Choice where
  occurrence : Occurrence
  next : Option Occurrence
  compactSkip : Option Db.CompactSkip

variable {zones : String → Option Zone}

/-- The occurrences from the stored date to now; the window begins a day before, and is at least
that long. -/
def dueOccurrences (definition : ScheduleDefinition zones) (firstDue now : Timestamp) :
    Except BatchError (List Occurrence) := do
  let preview ← (previewOccurrences definition
    ⟨firstDue.millis - 86400000, now.millis, 100⟩).mapError .schedule
  .ok (preview.occurrences.filter fun o ↦ firstDue ≤ o.occurrenceAt.timestamp)

/-- `definition.recurrence.kind === "once" ? null : nextPersistedOccurrence(…)` -/
def nextDueOf (definition : ScheduleDefinition zones) (occurrence : Occurrence) :
    Except BatchError (Option Occurrence) :=
  match definition.recurrence with
  | .once _ => .ok none
  | .repeating _ _ =>
      (nextPersistedOccurrence definition occurrence.occurrenceAt.ms).mapError .schedule

def compactSkipOf (firstDue : Timestamp) (occurrences : List Occurrence) :
    Option Db.CompactSkip :=
  if 1 < occurrences.length then
    occurrences.dropLast.getLast?.map fun last ↦
      { first := firstDue
        through := last.occurrenceAt.timestamp
        count := occurrences.length - 1 }
  else none

def choose (definition : ScheduleDefinition zones) (firstDue now : Timestamp) :
    Except BatchError Choice := do
  let occurrences ← dueOccurrences definition firstDue now
  let occurrence ← orThrow occurrences.getLast? BatchError.nextDueDefinitionMismatch
  throwIf (occurrences.head?.map (fun o ↦ o.occurrenceAt.timestamp) ≠ some firstDue)
    BatchError.nextDueDefinitionMismatch
  let next ← nextDueOf definition occurrence
  .ok ⟨occurrence, next, compactSkipOf firstDue occurrences⟩

/-! ### Stored instants -/

theorem millis_timestamp (utc : UtcInstant) : utc.timestamp.millis = utc.ms := by
  have hwhole := utc.whole
  simp only [UtcInstant.timestamp, Timestamp.ofSeconds, Timestamp.millis]
  omega

theorem timestamp_le_iff {utc utc' : UtcInstant} :
    utc.timestamp ≤ utc'.timestamp ↔ utc.ms ≤ utc'.ms := by
  have hwhole := utc.whole
  have hwhole' := utc'.whole
  have hrank : utc.timestamp ≤ utc'.timestamp ↔ utc.timestamp.rank ≤ utc'.timestamp.rank :=
    Iff.rfl
  rw [hrank]
  simp only [UtcInstant.timestamp, Timestamp.ofSeconds, Timestamp.rank]
  omega

theorem ms_timestamp (utc : UtcInstant) : utc.timestamp.ms = none := rfl

/-! ### The window -/

section Window

variable {recurrence : Calculator.Recurrence zones} {after before : UtcInstant} {all : List ℤ}

/-- A day has one occurrence at most, so a window has no more than it has days. -/
theorem length_lists_le (h : recurrence.Lists after before all) :
    all.length ≤ ((before.ms - after.ms) / dayMs).toNat + 4 := by
  have hnodup : all.Nodup := h.increasing.imp ne_of_lt
  cases recurrence with
  | once instant =>
      have hsub : all ⊆ [instant.ms] := by
        intro u hu
        exact List.mem_singleton.mpr ((h.mem_iff u).mp hu).2.2
      have hlength := (List.subperm_of_subset hnodup hsub).length_le
      rw [List.length_singleton] at hlength
      omega
  | repeating common rule =>
      classical
      let occurrenceOf : ℤ → Option ℤ := fun day ↦
        if hday : ∃ u, common.IsOccurrence (CivilDate.ofDayNumber day) u then some hday.choose
        else none
      have hsub : all ⊆ (searchedDays common.startDate after.ms before.ms).filterMap
          occurrenceOf := by
        intro u hu
        obtain ⟨hafter, hbefore, date, hstart, hlast, -, hoccurrence⟩ := (h.mem_iff u).mp hu
        refine List.mem_filterMap.mpr ⟨date.dayNumber,
          mem_searchedDays common hstart hlast hoccurrence hafter hbefore, ?_⟩
        have hday : ∃ u, common.IsOccurrence (CivilDate.ofDayNumber date.dayNumber) u := by
          rw [CivilDate.ofDayNumber_dayNumber]
          exact ⟨u, hoccurrence⟩
        have hfound : common.IsOccurrence (CivilDate.ofDayNumber date.dayNumber) u := by
          rw [CivilDate.ofDayNumber_dayNumber]
          exact hoccurrence
        rw [show occurrenceOf date.dayNumber = some hday.choose from dif_pos hday]
        exact congrArg some (hday.choose_spec.unique hfound)
      have hlength := ((List.subperm_of_subset hnodup hsub).length_le).trans (List.length_filterMap_le _ _)
      have hdays : (searchedDays common.startDate after.ms before.ms).length ≤
          ((before.ms - after.ms) / dayMs).toNat + 4 := by
        rw [searchedDays, daysFrom, List.length_map, List.length_range]
        unfold dayMs
        omega
      exact hlength.trans hdays

end Window

/-! ### The choice -/

section Choose

variable {definition : ScheduleDefinition zones} {first now : UtcInstant}
  {occurrences : List Occurrence}

/-- The instants of a recurrence from one to another, in order. -/
structure Missed (recurrence : Calculator.Recurrence zones) (first now : UtcInstant)
    (missed : List ℤ) : Prop where
  increasing : missed.Pairwise (· < ·)
  mem_iff : ∀ u, u ∈ missed ↔ first.ms ≤ u ∧ u ≤ now.ms ∧ u ∈ recurrence.instants

theorem instantsOf_filter (occurrences : List Occurrence) :
    instantsOf (occurrences.filter fun o ↦ first.timestamp ≤ o.occurrenceAt.timestamp) =
      (instantsOf occurrences).filter fun u ↦ first.ms ≤ u := by
  rw [instantsOf, instantsOf, List.filter_map]
  refine congrArg _ (List.filter_congr fun o _ ↦ ?_)
  exact decide_eq_decide.mpr timestamp_le_iff

/-- Up to a month, the window holds all the occurrences from the stored date to now. -/
theorem dueOccurrences_spec {margin : UtcInstant} (hmargin : margin.ms = first.ms - dayMs)
    (hdue : first.ms ≤ now.ms) (hover : now.ms ≤ first.ms + 30 * dayMs) :
    ∃ occurrences, dueOccurrences definition first.timestamp now.timestamp = .ok occurrences ∧
      Missed definition.recurrence first now (instantsOf occurrences) := by
  have hlimit : 1 ≤ 100 := by decide
  obtain ⟨all, preview, hlists, hpreview, hpage⟩ :=
    calculateOccurrences_spec definition margin now hlimit
  have hshort : all.length ≤ 100 := by
    have hlength := length_lists_le hlists
    have hdays : (now.ms - margin.ms) / dayMs ≤ 31 := by
      unfold dayMs at *
      omega
    omega
  have hall : instantsOf preview.occurrences = all := by
    rw [hpage.instants, List.take_of_length_le hshort]
  refine ⟨preview.occurrences.filter fun o ↦ first.timestamp ≤ o.occurrenceAt.timestamp, ?_, ?_⟩
  · have hwindow : ¬(100 < 1 ∨ previewCount < 100 ∨ now.ms - margin.ms < dayMs ∨
        previewDays * dayMs < now.ms - margin.ms) := by
      unfold previewCount previewDays dayMs at *
      omega
    have hms : first.ms - 86400000 = margin.ms := hmargin.symm
    simp only [dueOccurrences, previewOccurrences, checkedPreview, millis_timestamp, hms,
      formatUtc_ms, ok_bind, throwIf, if_neg hwindow, hpreview]
    rfl
  · rw [instantsOf_filter, hall]
    refine ⟨hlists.increasing.filter _, fun u ↦ ?_⟩
    rw [List.mem_filter, hlists.mem_iff, decide_eq_true_iff, hmargin]
    have hday : 0 < dayMs := by decide
    constructor
    · rintro ⟨⟨-, hnow, hmem⟩, hfirst⟩
      exact ⟨hfirst, hnow, hmem⟩
    · rintro ⟨hfirst, hnow, hmem⟩
      exact ⟨⟨by omega, hnow, hmem⟩, hfirst⟩

/-- A compact skip is about the occurrences that are skipped over: the first, the last and the
number of them. There is none if none is skipped over. -/
def Covers (compactSkip : Option Db.CompactSkip) (skipped : List ℤ) : Prop :=
  match compactSkip with
  | none => skipped = []
  | some skip => ∃ head last : UtcInstant, skip.first = head.timestamp ∧
      skip.through = last.timestamp ∧ skipped.head? = some head.ms ∧
        skipped.getLast? = some last.ms ∧ skip.count = skipped.length

/-- The latest occurrence is chosen, the next date is the occurrence behind it, and the compact
skip is about the occurrences before it. -/
structure Choice.CatchesUp (choice : Choice) (definition : ScheduleDefinition zones)
    (first now : UtcInstant) : Prop where
  latest : IsGreatest {u | u ≤ now.ms ∧ u ∈ definition.recurrence.instants}
    choice.occurrence.occurrenceAt.ms
  once : ∀ instant, definition.recurrence = .once instant → choice.next = none
  next : ∀ common rule, definition.recurrence = .repeating common rule →
    ∃ next, choice.next = some next ∧
      IsLeast (definition.future choice.occurrence.occurrenceAt.ms) next.occurrenceAt.ms
  skipped : ∃ skipped : List ℤ, skipped.Pairwise (· < ·) ∧
    (∀ u, u ∈ skipped ↔ first.ms ≤ u ∧ u < choice.occurrence.occurrenceAt.ms ∧
      u ∈ definition.recurrence.instants) ∧ Covers choice.compactSkip skipped

variable {recurrence : Calculator.Recurrence zones} {missed : List ℤ} {last : ℤ}

theorem Missed.head? (h : Missed recurrence first now missed) (hfirst : first.ms ∈ missed) :
    missed.head? = some first.ms := by
  cases missed with
  | nil => cases hfirst
  | cons head rest =>
      have hincreasing := (List.pairwise_cons.mp h.increasing).1
      have hge := ((h.mem_iff head).mp List.mem_cons_self).1
      rcases List.mem_cons.mp hfirst with heq | hrest
      · rw [heq]
        rfl
      · have hlt := hincreasing _ hrest
        omega

theorem Missed.isGreatest (h : Missed recurrence first now missed) (hfirst : first.ms ∈ missed)
    (hlast : missed.getLast? = some last) :
    IsGreatest {u | u ≤ now.ms ∧ u ∈ recurrence.instants} last := by
  obtain ⟨front, rfl⟩ := List.getLast?_eq_some_iff.mp hlast
  have hle : ∀ u ∈ front ++ [last], u ≤ last := by
    intro u hu
    rcases List.mem_append.mp hu with hu | hu
    · exact ((List.pairwise_append.mp h.increasing).2.2 u hu last List.mem_cons_self).le
    · exact (List.mem_singleton.mp hu).le
  have hmem : last ∈ front ++ [last] := List.mem_append_right _ List.mem_cons_self
  refine ⟨((h.mem_iff last).mp hmem).2, fun u hu ↦ ?_⟩
  by_cases hfrom : first.ms ≤ u
  · exact hle u ((h.mem_iff u).mpr ⟨hfrom, hu⟩)
  · exact (not_le.mp hfrom).le.trans (hle _ hfirst)

/-- Without the last of them, the occurrences are those before it. -/
theorem Missed.mem_dropLast_iff (h : Missed recurrence first now missed)
    (hlast : missed.getLast? = some last) (u : ℤ) :
    u ∈ missed.dropLast ↔ first.ms ≤ u ∧ u < last ∧ u ∈ recurrence.instants := by
  obtain ⟨front, rfl⟩ := List.getLast?_eq_some_iff.mp hlast
  have hlt : ∀ u ∈ front, u < last := fun u hu ↦
    (List.pairwise_append.mp h.increasing).2.2 u hu last List.mem_cons_self
  have hmem := (h.mem_iff last).mp (List.mem_append_right _ List.mem_cons_self)
  rw [List.dropLast_concat]
  constructor
  · intro hu
    obtain ⟨hfrom, -, hinstant⟩ := (h.mem_iff u).mp (List.mem_append_left _ hu)
    exact ⟨hfrom, hlt u hu, hinstant⟩
  · rintro ⟨hfrom, hbefore, hinstant⟩
    have hu := (h.mem_iff u).mpr ⟨hfrom, by omega, hinstant⟩
    rcases List.mem_append.mp hu with hu | hu
    · exact hu
    · have heq := List.mem_singleton.mp hu
      omega

theorem covers_compactSkipOf (hhead : (instantsOf occurrences).head? = some first.ms) :
    Covers (compactSkipOf first.timestamp occurrences) (instantsOf occurrences).dropLast := by
  have hdrop : (instantsOf occurrences).dropLast = instantsOf occurrences.dropLast :=
    List.map_dropLast.symm
  unfold compactSkipOf
  split_ifs with hmany
  · have hne : occurrences.dropLast ≠ [] := by
      rw [← List.length_pos_iff, List.length_dropLast]
      omega
    have hlast := List.getLast?_eq_some_getLast hne
    rw [hlast, hdrop]
    refine ⟨first, (occurrences.dropLast.getLast hne).occurrenceAt, rfl, rfl, ?_, ?_, ?_⟩
    · rw [← hdrop, List.head?_dropLast, hhead]
      have hlength : 1 < (instantsOf occurrences).length := by
        rwa [instantsOf, List.length_map]
      rw [if_pos hlength]
    · rw [instantsOf, List.getLast?_map, hlast]
      rfl
    · rw [instantsOf, List.length_map, List.length_dropLast]
  · have hlength : (instantsOf occurrences).dropLast.length = 0 := by
      rw [List.length_dropLast, instantsOf, List.length_map]
      omega
    exact List.length_eq_zero_iff.mp hlength

/-- The choice is made, and it catches up. -/
theorem choose_spec {margin : UtcInstant} (hmargin : margin.ms = first.ms - dayMs)
    (hdue : first.ms ≤ now.ms) (hover : now.ms ≤ first.ms + 30 * dayMs)
    (hfirst : first.ms ∈ definition.recurrence.instants)
    (hlater : ∀ common rule, definition.recurrence = .repeating common rule →
      (definition.future now.ms).Nonempty) :
    ∃ choice, choose definition first.timestamp now.timestamp = .ok choice ∧
      choice.CatchesUp definition first now := by
  obtain ⟨occurrences, hoccurrences, hmissed⟩ :=
    @dueOccurrences_spec _ definition first now margin hmargin hdue hover
  have hmem : first.ms ∈ instantsOf occurrences := (hmissed.mem_iff _).mpr ⟨le_rfl, hdue, hfirst⟩
  have hhead := hmissed.head? hmem
  have hne : occurrences ≠ [] := by
    rintro rfl
    cases hmem
  have hlast := List.getLast?_eq_some_getLast hne
  have hlastMs : (instantsOf occurrences).getLast? =
      some (occurrences.getLast hne).occurrenceAt.ms := by
    rw [instantsOf, List.getLast?_map, hlast]
    rfl
  have hlatest := hmissed.isGreatest hmem hlastMs
  have hfirstText : occurrences.head?.map (fun o ↦ o.occurrenceAt.timestamp) =
      some first.timestamp := by
    rw [head?_instantsOf, Option.map_eq_some_iff] at hhead
    obtain ⟨head, hhead, hms⟩ := hhead
    rw [hhead, Option.map_some, UtcInstant.ext_ms hms]
  obtain ⟨next, hnext, honce, hrepeating⟩ : ∃ next,
      nextDueOf definition (occurrences.getLast hne) = .ok next ∧
        (∀ instant, definition.recurrence = .once instant → next = none) ∧
        ∀ common rule, definition.recurrence = .repeating common rule →
          ∃ later, next = some later ∧ IsLeast
            (definition.future (occurrences.getLast hne).occurrenceAt.ms)
            later.occurrenceAt.ms := by
    unfold nextDueOf
    cases hrecurrence : definition.recurrence with
    | once instant =>
        exact ⟨none, rfl, fun _ _ ↦ rfl, fun _ _ h ↦ by cases h⟩
    | repeating common rule =>
        obtain ⟨found, hfound, hleast⟩ :=
          @nextPersistedOccurrence_spec _ definition (occurrences.getLast hne).occurrenceAt
        refine ⟨found, ?_, fun _ h ↦ (by cases h), fun _ _ _ ↦ ?_⟩
        · dsimp only
          rw [hfound]
          rfl
        · obtain ⟨utc, hnow, hend, hinstant⟩ := hlater common rule hrecurrence
          cases found with
          | some later => exact ⟨later, rfl, hleast⟩
          | none =>
              have hbehind : utc ∈ definition.future
                  (occurrences.getLast hne).occurrenceAt.ms :=
                ⟨hlatest.1.1.trans_lt hnow, hend, hinstant⟩
              rw [show _ = _ from hleast] at hbehind
              cases hbehind
  refine ⟨⟨occurrences.getLast hne, next, compactSkipOf first.timestamp occurrences⟩, ?_, hlatest,
    honce, hrepeating, (instantsOf occurrences).dropLast, hmissed.increasing.sublist
      (List.dropLast_sublist _), hmissed.mem_dropLast_iff hlastMs, covers_compactSkipOf hhead⟩
  simp only [choose, hoccurrences, hlast, hfirstText, hnext, orThrow, throwIf, ok_bind, ne_eq,
    not_true_eq_false, if_false]

end Choose

end CatchUp

end Dona
