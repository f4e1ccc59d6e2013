import Dona.CanonicalJson

/-!
# Identity of payloads

Payloads are compared by their canonical texts. The comparison is that of the documents exactly
where the collation ties no two names of one object.
-/

namespace Dona

open Json

variable {N : Type} {collation : Collation} {numerals : Numerals N}

/-! ### Payloads of events -/

/-- A value of JSON, as it is parsed: no object has a name twice. -/
def JsonValue (N : Type) : Type := {document : Json N // document.UniqueKeys}

/-- The document has one text, whatever the order of its members, and no other has it. -/
theorem sortedText_canonical_iff (collation : Collation) (numerals : Numerals N)
    (a : JsonValue N) :
    (∀ b : JsonValue N, sortedText collation numerals a.1 = sortedText collation numerals b.1 ↔
      Same a.1 b.1) ↔ ¬HasTies collation a.1 := by
  constructor
  · intro h hties
    obtain ⟨b, hsame, hne⟩ := @exists_sortedText_ne N collation numerals a.1 a.2 hties
    exact hne ((h ⟨b, hsame.uniqueKeys a.2⟩).mpr hsame)
  · intro hties b
    refine ⟨same_of_sortedText, fun hsame ↦ ?_⟩
    rw [sortedText_eq, sortedText_eq, sorted_eq_of_same hsame a.2 hties]

namespace Dispatcher

/-- What `enqueue` compares of an event. -/
structure EventEnvelope (N : Type) where
  schemaVersion : ℕ
  type : String
  occurredAt : String
  subject : JsonValue N
  payload : JsonValue N
  replyTarget : Option (JsonValue N)

/-- The columns that it compares with. -/
structure EventColumns where
  schemaVersion : ℕ
  eventType : String
  occurredAt : String
  subjectJson : Text
  payloadJson : Text
  replyTargetJson : Option Text

namespace EventEnvelope

/-- The columns of the row that `enqueue` inserts for the event. -/
def columns (collation : Collation) (numerals : Numerals N) (envelope : EventEnvelope N) :
    EventColumns where
  schemaVersion := envelope.schemaVersion
  eventType := envelope.type
  occurredAt := envelope.occurredAt
  subjectJson := stableStringify collation numerals envelope.subject.1
  payloadJson := stableStringify collation numerals envelope.payload.1
  replyTargetJson :=
    envelope.replyTarget.map fun target ↦ stableStringify collation numerals target.1

/-- Whether `enqueue` reports that a repeated event differs from the stored one. -/
def payloadMismatch (collation : Collation) (numerals : Numerals N) (existing : EventColumns)
    (envelope : EventEnvelope N) : Bool :=
  let subjectJson := stableStringify collation numerals envelope.subject.1
  let payloadJson := stableStringify collation numerals envelope.payload.1
  let replyTargetJson :=
    envelope.replyTarget.map fun target ↦ stableStringify collation numerals target.1
  existing.schemaVersion != envelope.schemaVersion || existing.eventType != envelope.type ||
    existing.occurredAt != envelope.occurredAt || existing.subjectJson != subjectJson ||
    existing.payloadJson != payloadJson || existing.replyTargetJson != replyTargetJson

/-- The events are the same in what is compared, up to the order of members. -/
def SameEvent (first second : EventEnvelope N) : Prop :=
  first.schemaVersion = second.schemaVersion ∧ first.type = second.type ∧
    first.occurredAt = second.occurredAt ∧ Same first.subject.1 second.subject.1 ∧
    Same first.payload.1 second.payload.1 ∧
    Option.Rel (fun a b : JsonValue N ↦ Same a.1 b.1) first.replyTarget second.replyTarget

/-- Some document of the event has names that tie. -/
def HasTies (collation : Collation) (envelope : EventEnvelope N) : Prop :=
  Dona.HasTies collation envelope.subject.1 ∨ Dona.HasTies collation envelope.payload.1 ∨
    ∃ target ∈ envelope.replyTarget, Dona.HasTies collation target.1

variable {envelope other : EventEnvelope N}

theorem payloadMismatch_eq_false_iff :
    payloadMismatch collation numerals (envelope.columns collation numerals) other = false ↔
      envelope.schemaVersion = other.schemaVersion ∧ envelope.type = other.type ∧
        envelope.occurredAt = other.occurredAt ∧
        sortedText collation numerals envelope.subject.1 =
          sortedText collation numerals other.subject.1 ∧
        sortedText collation numerals envelope.payload.1 =
          sortedText collation numerals other.payload.1 ∧
        envelope.replyTarget.map (fun target ↦ sortedText collation numerals target.1) =
          other.replyTarget.map fun target ↦ sortedText collation numerals target.1 := by
  simp only [payloadMismatch, columns, Bool.or_eq_false_iff, bne_eq_false_iff_eq, stableStringify,
    and_assoc]

/-- Texts of the same reply target, if there is one. -/
theorem map_sortedText_eq_iff {target target' : Option (JsonValue N)}
    (h : ∀ value ∈ target, ¬Dona.HasTies collation value.1) :
    target.map (fun value ↦ sortedText collation numerals value.1) =
        target'.map (fun value ↦ sortedText collation numerals value.1) ↔
      Option.Rel (fun a b : JsonValue N ↦ Same a.1 b.1) target target' := by
  cases target with
  | none => cases target' <;> simp
  | some value =>
      cases target' with
      | none => simp
      | some value' =>
          rw [Option.map_some, Option.map_some, Option.some_inj, Option.rel_some_some]
          exact (sortedText_canonical_iff collation numerals value).mpr (h value rfl) value'

/-- A repeated event is told from the stored one exactly by what differs, if no names tie. -/
theorem payloadMismatch_exact_iff (collation : Collation) (numerals : Numerals N)
    (envelope : EventEnvelope N) :
    (∀ other, payloadMismatch collation numerals (envelope.columns collation numerals) other =
      false ↔ envelope.SameEvent other) ↔ ¬envelope.HasTies collation := by
  constructor
  · intro h
    have hrel : Option.Rel (fun a b : JsonValue N ↦ Same a.1 b.1) envelope.replyTarget
        envelope.replyTarget := by
      cases envelope.replyTarget with
      | none => exact Option.Rel.none
      | some target => exact Option.Rel.some (.refl _)
    have hsubject : ¬Dona.HasTies collation envelope.subject.1 := by
      rw [← sortedText_canonical_iff collation numerals]
      intro value
      have hother := h { envelope with subject := value }
      rw [payloadMismatch_eq_false_iff] at hother
      simpa [SameEvent, Same.refl, hrel] using hother
    have hpayload : ¬Dona.HasTies collation envelope.payload.1 := by
      rw [← sortedText_canonical_iff collation numerals]
      intro value
      have hother := h { envelope with payload := value }
      rw [payloadMismatch_eq_false_iff] at hother
      simpa [SameEvent, Same.refl, hrel] using hother
    have htarget : ∀ target ∈ envelope.replyTarget, ¬Dona.HasTies collation target.1 := by
      intro target htarget
      rw [← sortedText_canonical_iff collation numerals]
      intro value
      have hother := h { envelope with replyTarget := some value }
      rw [payloadMismatch_eq_false_iff] at hother
      simpa [SameEvent, Same.refl, Option.mem_def.mp htarget] using hother
    rintro (hties | hties | ⟨target, hmem, hties⟩)
    · exact hsubject hties
    · exact hpayload hties
    · exact htarget target hmem hties
  · intro hties other
    have hsubject : ¬Dona.HasTies collation envelope.subject.1 := fun h ↦ hties (.inl h)
    have hpayload : ¬Dona.HasTies collation envelope.payload.1 := fun h ↦ hties (.inr (.inl h))
    have htarget : ∀ target ∈ envelope.replyTarget, ¬Dona.HasTies collation target.1 :=
      fun target hmem h ↦ hties (.inr (.inr ⟨target, hmem, h⟩))
    rw [payloadMismatch_eq_false_iff, map_sortedText_eq_iff htarget,
      (sortedText_canonical_iff collation numerals envelope.subject).mpr hsubject,
      (sortedText_canonical_iff collation numerals envelope.payload).mpr hpayload]
    rfl

end EventEnvelope

end Dispatcher

/-- Canonical texts tell documents apart, and no order of members does, exactly where no two names
of one object tie; and so do the comparisons that are made with them. -/
theorem canonicalJson_canonical_iff (collation : Collation) (numerals : Numerals N) :
    (∀ a : JsonValue N,
      (∀ b : JsonValue N,
        Dispatcher.stableStringify collation numerals a.1 =
          Dispatcher.stableStringify collation numerals b.1 ↔ Same a.1 b.1) ↔
        ¬HasTies collation a.1) ∧
    (∀ a : JsonValue N,
      (∀ b : JsonValue N,
        Updater.canonicalJson collation numerals a.1 =
          Updater.canonicalJson collation numerals b.1 ↔ Same a.1 b.1) ↔
        ¬HasTies collation a.1) ∧
    ∀ envelope : Dispatcher.EventEnvelope N,
      (∀ other, Dispatcher.EventEnvelope.payloadMismatch collation numerals
        (envelope.columns collation numerals) other = false ↔ envelope.SameEvent other) ↔
        ¬envelope.HasTies collation :=
  ⟨sortedText_canonical_iff collation numerals, sortedText_canonical_iff collation numerals,
    Dispatcher.EventEnvelope.payloadMismatch_exact_iff collation numerals⟩

/-! ### Two spellings of one name -/

namespace Sample

/-- An accent is composed with the letter before it. -/
def composed : Text → Text
  | 101 :: 769 :: rest => 233 :: composed rest
  | unit :: rest => unit :: composed rest
  | [] => []

/-- The place of a text among all texts. -/
def weight (text : Text) : ℤ :=
  (composed text).foldl (fun weight unit ↦ 65537 * weight + unit.toNat + 1) 0

/-- Texts compare as their composed forms do. -/
def unicodeCollation : Collation where
  localeCompare left right := weight left - weight right
  swap left right := by omega
  trans := by
    intro first second third h h'
    omega

/-- Numbers of one digit. -/
def digits : Numerals (Fin 10) where
  text digit := [.ofNat (48 + digit)]
  text_injective := by
    unfold Function.Injective
    decide
  text_ne := by decide
  text_units := by
    have hall : ∀ digit : Fin 10, [(.ofNat (48 + digit) : UInt16)].all (numeralUnits.contains ·) := by
      decide
    intro digit unit hunit
    exact List.contains_iff_mem.mp (List.all_eq_true.mp (hall digit) unit hunit)

/-- An object with the name `é`, once composed and once not. -/
def accents : List (Text × Json (Fin 10)) := [([233], .bool true), ([101, 769], .bool false)]

end Sample

open Sample in
/-- Two names that are canonically equivalent stay in the order in which they were written. -/
theorem canonicalJson_accents :
    Same (.object accents) (.object accents.reverse) ∧ (object accents).UniqueKeys ∧
      Dispatcher.stableStringify unicodeCollation digits (.object accents) ≠
        Dispatcher.stableStringify unicodeCollation digits (.object accents.reverse) ∧
      Updater.canonicalJson unicodeCollation digits (.object accents) ≠
        Updater.canonicalJson unicodeCollation digits (.object accents.reverse) := by
  refine ⟨.order (List.reverse_perm _).symm, ?_, by decide, by decide⟩
  refine everyObject_object.mpr ⟨by decide, ?_⟩
  intro member hmember members hmembers
  simp only [accents, List.mem_cons, List.not_mem_nil, or_false] at hmember
  rcases hmember with rfl | rfl
  · cases hmembers
  · cases hmembers

end Dona
