import Dona.Scheduler.RoundTrip

/-!
# The canonical form

What strict JSON and the codecs together promise: a stored text is accepted exactly if it is JSON
of a plain kind, what is decoded is encoded and decoded again without a change, and the canonical
form of the repository is what the encoder writes.
-/

namespace Dona.Scheduler.Codec

open Doubles (Number)
open Fallible Json

variable {env : Env} {text : Text}

theorem recode_eq_ok {encode : Json Number → Except ErrorCode Text} {canonical : Text} :
    recode env encode text = .ok canonical ↔ ∃ value,
      jsonParse (numeral env.fractional) text = some value ∧ encode value = .ok canonical := by
  simp only [recode, bind_eq_ok, orThrow_eq_ok]

/-! ### Recurrences -/

section Recurrences

variable {recurrence : Recurrence} {input : Json Number}

theorem encodeRecurrence_eq_ok :
    encodeRecurrence env input = .ok text ↔ ∃ recurrence,
      parseRecurrence env input = .ok recurrence ∧ canonicalJson recurrence.document = text := by
  simp only [encodeRecurrence, bind_eq_ok, Except.ok.injEq]

theorem decodeRecurrence_eq_ok : decodeRecurrence env text = .ok recurrence ↔ ∃ value,
    parseStrictJson (numeral env.fractional) text = some value ∧
      parseRecurrence env value = .ok recurrence := by
  simp only [decodeRecurrence, bind_eq_ok, orThrow_eq_ok]

theorem parseRecurrence_document (h : recurrence.IsValid env) :
    parseRecurrence env (recurrence.document.mapNumbers natural) = .ok recurrence := by
  obtain ⟨members, hmembers, hfields⟩ := @hasFields_document env recurrence
  rw [hmembers]
  exact parseRecurrence_of_hasFields h hfields

theorem parseRecurrence_sortMembers (h : recurrence.IsValid env) :
    parseRecurrence env ((sortMembers recurrence.document).mapNumbers natural) =
      .ok recurrence := by
  obtain ⟨members, hmembers, hfields⟩ := @hasFields_sortMembers env recurrence
  rw [hmembers]
  exact parseRecurrence_of_hasFields h hfields

/-- The canonical text of a valid recurrence is decoded as the recurrence. -/
theorem decodeRecurrence_canonicalJson (henv : env.HasShortNames) (h : recurrence.IsValid env) :
    decodeRecurrence env (canonicalJson recurrence.document) = .ok recurrence :=
  decodeRecurrence_eq_ok.mpr ⟨_, parseStrictJson_canonicalJson (isPlain_document henv h),
    parseRecurrence_sortMembers h⟩

/-- The canonical text of a valid recurrence is its own canonical form. -/
theorem recode_canonicalJson (henv : env.HasShortNames) (h : recurrence.IsValid env) :
    recode env (encodeRecurrence env) (canonicalJson recurrence.document) =
      .ok (canonicalJson recurrence.document) :=
  recode_eq_ok.mpr ⟨_, jsonParse_canonicalJson (isPlain_document henv h),
    encodeRecurrence_eq_ok.mpr ⟨recurrence, parseRecurrence_sortMembers h, rfl⟩⟩

end Recurrences

/-! ### The policy -/

section Policy

variable {policy : Json ℕ} {input : Json Number}

theorem sortMembers_policyV1 : sortMembers policyV1 = policyV1 := rfl

theorem isPlain_policyV1 : IsPlain policyV1 where
  unique := rfl
  nesting := by
    rw [sortMembers_policyV1]
    decide
  safe := by
    rw [sortMembers_policyV1]
    have hall : policyV1.numbers.all (fun n ↦ n ≤ Doubles.maxSafe) = true := rfl
    exact fun n hn ↦ of_decide_eq_true (List.all_eq_true.mp hall n hn)
  length := by
    rw [sortMembers_policyV1]
    decide +kernel

/-- The policy, read from its canonical text. -/
theorem jsonParse_policyV1 :
    jsonParse Decimals.value (canonicalJson policyV1) = some policyV1 := by
  have hunique := uniqueKeys_of_check isPlain_policyV1.unique
  have hvalue : Decimals.value ∘ Decimals.render = id := funext Decimals.value_render
  rw [jsonParse, parse_eq_some_iff.mpr (reads_canonicalJson policyV1), Option.map_some,
    toValue_of_uniqueKeys (uniqueKeys_mapNumbers hunique), mapNumbers_mapNumbers, hvalue,
    mapNumbers_id, sortMembers_policyV1]

theorem policy_of_parsePolicy (h : parsePolicy input = .ok policy) : policy = policyV1 := by
  unfold parsePolicy at h
  split at h
  · simp only [bind_eq_ok, throwIf_eq_ok, orThrow_eq_ok, jsonParse_policyV1] at h
    obtain ⟨-, -, -, -, hpolicy⟩ := h
    exact (Option.some.inj hpolicy).symm
  · cases h
  · cases h

theorem parsePolicy_of_matches {members : List (Text × Json Number)}
    (hversion : isNumber (get? members "version") 1 = true)
    (hmatches : matchesPolicy (.object members) policyV1 = true) :
    parsePolicy (.object members) = .ok policyV1 := by
  simp only [parsePolicy, hversion, hmatches, jsonParse_policyV1, bind_eq_ok, throwIf_eq_ok,
    orThrow_eq_ok]
  exact ⟨(), by decide, (), by decide, trivial⟩

theorem parsePolicy_policyV1 : parsePolicy (policyV1.mapNumbers natural) = .ok policyV1 := by
  obtain ⟨members, hmembers, hversion, hmatches⟩ : ∃ members,
      policyV1.mapNumbers natural = .object members ∧
        isNumber (get? members "version") 1 = true ∧
        matchesPolicy (.object members) policyV1 = true := ⟨_, rfl, rfl, rfl⟩
  rw [hmembers]
  exact parsePolicy_of_matches hversion hmatches

theorem encodePolicy_eq_ok :
    encodePolicy input = .ok text ↔ parsePolicy input = .ok policyV1 ∧
      canonicalJson policyV1 = text := by
  simp only [encodePolicy, bind_eq_ok, Except.ok.injEq]
  constructor
  · rintro ⟨policy, hpolicy, htext⟩
    obtain rfl := policy_of_parsePolicy hpolicy
    exact ⟨hpolicy, htext⟩
  · rintro ⟨hpolicy, htext⟩
    exact ⟨_, hpolicy, htext⟩

theorem parsePolicy_sortMembers :
    parsePolicy ((sortMembers policyV1).mapNumbers natural) = .ok policyV1 := by
  rw [sortMembers_policyV1, parsePolicy_policyV1]

theorem decodePolicy_eq_ok : decodePolicy env text = .ok policy ↔ ∃ value,
    parseStrictJson (numeral env.fractional) text = some value ∧
      parsePolicy value = .ok policy := by
  simp only [decodePolicy, bind_eq_ok, orThrow_eq_ok]

theorem decodePolicy_canonicalJson :
    decodePolicy env (canonicalJson policyV1) = .ok policyV1 :=
  decodePolicy_eq_ok.mpr ⟨_, parseStrictJson_canonicalJson isPlain_policyV1,
    parsePolicy_sortMembers⟩

theorem recode_policyV1 :
    recode env encodePolicy (canonicalJson policyV1) = .ok (canonicalJson policyV1) :=
  recode_eq_ok.mpr ⟨_, jsonParse_canonicalJson isPlain_policyV1,
    encodePolicy_eq_ok.mpr ⟨parsePolicy_sortMembers, rfl⟩⟩

end Policy

/-! ### Strict texts and canonical texts -/

/-- The scan accepts the documents that are JSON, short, shallow, without a name that is given
twice, and with safe integers as their only numbers. Their value is the value of the text. -/
theorem parseStrictJson_iff {N : Type} {numeral : Text → N} {value : Json N} :
    parseStrictJson numeral text = some value ↔
      (byteLength text ≤ 65536 ∧ ∃ document, Reads text document ∧ document.nesting ≤ 32 ∧
        document.UniqueKeys ∧ ∀ token ∈ document.numbers,
          IsInteger token ∧ (writtenInteger token).isSafe = true) ∧
      jsonParse numeral text = some value := by
  rw [parseStrictJson_eq_some_iff]
  constructor
  · rintro ⟨hsize, document, hreads, hstrict, hvalue⟩
    refine ⟨⟨hsize, document, hreads, ?_, hstrict.unique, fun token htoken ↦ ?_⟩, ?_⟩
    · exact (Nat.le_add_left _ 0).trans hstrict.nesting
    · obtain ⟨hinteger, hsafe⟩ := hstrict.integers token htoken
      rw [isSafe_toNumber] at hsafe
      exact ⟨hinteger, hsafe⟩
    · rw [jsonParse, parse_eq_some_iff.mpr hreads, Option.map_some, hvalue]
  · rintro ⟨⟨hsize, document, hreads, hnesting, hunique, hintegers⟩, hvalue⟩
    rw [jsonParse, parse_eq_some_iff.mpr hreads, Option.map_some] at hvalue
    refine ⟨hsize, document, hreads, ⟨?_, hunique, fun token htoken ↦ ?_⟩, Option.some.inj hvalue⟩
    · rwa [Nat.zero_add]
    · rw [isSafe_toNumber]
      exact hintegers token htoken

/-- Strict JSON is accepted as it is described, and read as JSON is. What the codecs decode is
encoded, decoded and encoded again without a change, so a text is in canonical form if and only if
it is the encoder's. -/
theorem strict_codecs (henv : env.HasShortNames) :
    (∀ (N : Type) (numeral : Text → N) (text : Text) (value : Json N),
      parseStrictJson numeral text = some value ↔
        (byteLength text ≤ 65536 ∧ ∃ document, Reads text document ∧ document.nesting ≤ 32 ∧
          document.UniqueKeys ∧ ∀ token ∈ document.numbers,
            IsInteger token ∧ (writtenInteger token).isSafe = true) ∧
        jsonParse numeral text = some value) ∧
    (∀ text recurrence, decodeRecurrence env text = .ok recurrence →
      ∃ encoded, encodeRecurrence env (recurrence.document.mapNumbers natural) = .ok encoded ∧
        decodeRecurrence env encoded = .ok recurrence ∧
        recode env (encodeRecurrence env) encoded = .ok encoded) ∧
    (∀ text policy, decodePolicy env text = .ok policy →
      ∃ encoded, encodePolicy (policy.mapNumbers natural) = .ok encoded ∧
        decodePolicy env encoded = .ok policy ∧
        recode env encodePolicy encoded = .ok encoded) ∧
    (∀ text, recode env (encodeRecurrence env) text = .ok text ↔
      ∃ input, encodeRecurrence env input = .ok text) ∧
    ∀ text, recode env encodePolicy text = .ok text ↔
      ∃ input, encodePolicy input = .ok text := by
  refine ⟨fun _ _ _ _ ↦ parseStrictJson_iff, ?_, ?_, ?_, ?_⟩
  · intro text recurrence h
    obtain ⟨value, -, hparse⟩ := decodeRecurrence_eq_ok.mp h
    have hvalid := isValid_of_parseRecurrence hparse
    exact ⟨canonicalJson recurrence.document,
      encodeRecurrence_eq_ok.mpr ⟨recurrence, parseRecurrence_document hvalid, rfl⟩,
      decodeRecurrence_canonicalJson henv hvalid, recode_canonicalJson henv hvalid⟩
  · intro text policy h
    obtain ⟨value, -, hparse⟩ := decodePolicy_eq_ok.mp h
    obtain rfl := policy_of_parsePolicy hparse
    exact ⟨canonicalJson policyV1, encodePolicy_eq_ok.mpr ⟨parsePolicy_policyV1, rfl⟩,
      decodePolicy_canonicalJson, recode_policyV1⟩
  · intro text
    constructor
    · intro h
      obtain ⟨input, -, hencode⟩ := recode_eq_ok.mp h
      exact ⟨input, hencode⟩
    · rintro ⟨input, hencode⟩
      obtain ⟨recurrence, hparse, rfl⟩ := encodeRecurrence_eq_ok.mp hencode
      exact recode_canonicalJson henv (isValid_of_parseRecurrence hparse)
  · intro text
    constructor
    · intro h
      obtain ⟨input, -, hencode⟩ := recode_eq_ok.mp h
      exact ⟨input, hencode⟩
    · rintro ⟨input, hencode⟩
      obtain ⟨-, rfl⟩ := encodePolicy_eq_ok.mp hencode
      exact recode_policyV1

section Example

/-- The zone data has one name. -/
def tokyo : Env where
  zones name := name = unitsOf "Asia/Tokyo"
  passesOver _ := false
  fractional _ := .finite 0

def secondDays : Recurrence :=
  .daily ⟨unitsOf "2026-01-01", unitsOf "09:00:00", unitsOf "Asia/Tokyo", unitsOf "2025b"⟩ 2

theorem hasShortNames_tokyo : tokyo.HasShortNames := by
  intro name hname
  rw [of_decide_eq_true hname]
  exact Nat.le_of_ble_eq_true rfl

theorem isValid_secondDays : secondDays.IsValid tokyo :=
  ⟨⟨rfl, rfl, rfl⟩, by decide, by decide⟩

/-- The text of a recurrence of every second day is decoded, encoded and decoded. -/
theorem strict_codecs_secondDays :
    ∃ encoded, encodeRecurrence tokyo (secondDays.document.mapNumbers natural) = .ok encoded ∧
      decodeRecurrence tokyo encoded = .ok secondDays ∧
      recode tokyo (encodeRecurrence tokyo) encoded = .ok encoded :=
  (strict_codecs hasShortNames_tokyo).2.1 (canonicalJson secondDays.document) secondDays
    (decodeRecurrence_canonicalJson hasShortNames_tokyo isValid_secondDays)

end Example

end Dona.Scheduler.Codec
