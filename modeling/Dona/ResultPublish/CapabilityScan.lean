import Dona.Library.RollingHash
import Dona.ResultPublish.EncodedTokens
import Mathlib.Data.List.GetD

/-!
# The scan for capabilities

A result that is published must not carry a capability. Only digests of the capabilities are kept,
so every window of a text would have to be digested; a fingerprint that rolls along with the window
narrows the candidates first. A text is also scanned without its punctuation.
-/

namespace Dona.ResultPublish

open TextLines (isSpace)

/-! ### Fingerprints -/

/-- `x | 0`, of an exact number. -/
def toInt32 (x : ℤ) : ℤ := x.bmod 4294967296

/-- `Math.imul(a, b)` -/
def imul (a b : ℤ) : ℤ := toInt32 (toInt32 a * toInt32 b)

def capabilityWindowLength : ℕ := 43

def capabilityHashBase : ℤ := 31

def fingerprintPower : ℤ :=
  (fun power ↦ imul power capabilityHashBase)^[capabilityWindowLength - 1] 1

def fingerprint (value : Text) : ℤ :=
  value.foldl (fun hash unit ↦ toInt32 (imul hash capabilityHashBase + unit.toNat)) 0

/-! ### Windows of a run -/

/-- `run.charCodeAt(index)` -/
def charCodeAt (run : Text) (index : ℕ) : ℕ := (run.getD index 0).toNat

/-- `run.slice(index, index + capabilityWindowLength)` -/
def windowAt (run : Text) (index : ℕ) : Text := (run.drop index).take capabilityWindowLength

/-- What the loop over a run carries. -/
structure ScanState where
  index : ℕ
  hash : ℤ

def ScanState.start (run : Text) : ScanState :=
  { index := 0
    hash := fingerprint (run.take capabilityWindowLength) }

def ScanState.next (run : Text) (state : ScanState) : ScanState :=
  { index := state.index + 1
    hash :=
      if state.index + capabilityWindowLength < run.length then
        toInt32 (imul (state.hash - imul (charCodeAt run state.index) fingerprintPower)
          capabilityHashBase + charCodeAt run (state.index + capabilityWindowLength))
      else state.hash }

section

variable (sha256 : Text → Text) (digests : List Text) (fingerprints : List ℤ)

/-- The loop, from a state of it. -/
def scanFrom (run : Text) (state : ScanState) : Bool :=
  if state.index + capabilityWindowLength ≤ run.length then
    if fingerprints.contains state.hash &&
        digests.contains (sha256 (windowAt run state.index)) then true
    else scanFrom run (state.next run)
  else false
termination_by run.length - state.index
decreasing_by
  rw [ScanState.next]
  dsimp only
  unfold capabilityWindowLength at *
  omega

def scanRun (run : Text) : Bool := scanFrom sha256 digests fingerprints run (.start run)

/-! ### The scan of a text -/

def isForbidden (raw : Text) : Bool :=
  fingerprints.contains (fingerprint raw) && digests.contains (sha256 raw)

/-- A token that encodes a capability in base32. -/
def isForbiddenBase32 (token : Text) : Bool :=
  match decodeBase32Token token with
  | some raw =>
      raw.length == capabilityWindowLength && isForbidden sha256 digests fingerprints raw
  | none => false

/-- A run that encodes a capability as a whole. -/
def isForbiddenEncoding (run : Text) : Bool :=
  (run.length == capabilityWindowLength * 2 && run.all isHexUnit &&
      isForbidden sha256 digests fingerprints (asciiText (fromHex run))) ||
    (run.length == 58 && (fromBase64url run).length == capabilityWindowLength &&
      toBase64url (fromBase64url run) == run &&
      isForbidden sha256 digests fingerprints (asciiText (fromBase64url run)))

/-- `[A-Za-z0-9_-]` -/
def isCapabilityUnit (unit : UInt16) : Bool :=
  isUpper unit || isLower unit || Decimals.isDigit unit || unit == 95 || unit == 45

/-- `value.matchAll(capabilityRun)` -/
def capabilityRuns : Text → List Text
  | [] => []
  | unit :: rest =>
      let run := (unit :: rest).takeWhile isCapabilityUnit
      if capabilityWindowLength ≤ run.length then
        run :: capabilityRuns ((unit :: rest).drop run.length)
      else capabilityRuns rest
termination_by text => text.length
decreasing_by
  · have hrun : capabilityWindowLength ≤ ((unit :: rest).takeWhile isCapabilityUnit).length := ‹_›
    have hpos : 0 < capabilityWindowLength := Nat.succ_pos _
    rw [List.length_drop]
    exact Nat.sub_lt (Nat.succ_pos _) (hpos.trans_le hrun)
  · exact Nat.lt_succ_self _

/-- What the value itself is reported for, once normalised. -/
def reportsValue (value : Text) : Bool :=
  (base32Tokens true value).any (isForbiddenBase32 sha256 digests fingerprints) ||
    (capabilityRuns value).any fun run ↦
      isForbiddenEncoding sha256 digests fingerprints run ||
        scanRun sha256 digests fingerprints run

def stripPunctuation (value : Text) : Text := value.filter isCapabilityUnit

/-- `containsForbiddenCapability(value, digests, fingerprints)`, in at most `fuel` calls, where
`normalize` is NFKC. -/
def containsForbiddenCapability (normalize : Text → Text) : ℕ → Text → Option Bool
  | 0, _ => none
  | fuel + 1, original =>
      let value := (normalize original).filter fun unit ↦ !isSpace unit
      let punctuationStripped := stripPunctuation value
      if reportsValue sha256 digests fingerprints value then some true
      else if punctuationStripped ≠ value ∧
          capabilityWindowLength ≤ punctuationStripped.length then
        containsForbiddenCapability normalize fuel punctuationStripped
      else some false

end

/-! ### The rolling fingerprint -/

theorem imul_eq (a b : ℤ) : imul a b = (a * b).bmod 4294967296 := by
  rw [imul, toInt32, toInt32, toInt32, Int.bmod_mul_bmod, Int.mul_bmod_bmod]

theorem fingerprintPower_eq : fingerprintPower = (((31 : ℕ) : ℤ) ^ 42).bmod 4294967296 := by
  have hstep : (fun power ↦ imul power capabilityHashBase) =
      fun power : ℤ ↦ (power * ((31 : ℕ) : ℤ)).bmod 4294967296 := by
    funext power
    exact imul_eq power 31
  unfold fingerprintPower
  rw [hstep]
  exact RollingHash.iterate_mul_eq 42

theorem fingerprint_eq (value : Text) :
    fingerprint value = RollingHash.hash 4294967296 31 (value.map UInt16.toNat) := by
  have hstep : (fun (hash : ℤ) (unit : UInt16) ↦
      toInt32 (imul hash capabilityHashBase + unit.toNat)) =
      fun hash unit ↦
        ((hash * ((31 : ℕ) : ℤ)).bmod 4294967296 + (unit.toNat : ℕ)).bmod 4294967296 := by
    funext hash unit
    rw [imul_eq]
    rfl
  rw [fingerprint, hstep, RollingHash.hash, List.foldl_map]

/-- The fingerprint is a signed number of 32 bits. -/
theorem fingerprint_bounds (value : Text) :
    -2147483648 ≤ fingerprint value ∧ fingerprint value < 2147483648 := by
  have hbounds (x : ℤ) : -2147483648 ≤ toInt32 x ∧ toInt32 x < 2147483648 :=
    ⟨Int.le_bmod (by decide), Int.bmod_lt (by decide)⟩
  rcases List.eq_nil_or_concat value with rfl | ⟨init, last, rfl⟩
  · decide
  · rw [fingerprint, List.concat_eq_append, List.foldl_append]
    exact hbounds _

variable {run : Text} {index : ℕ}

theorem length_windowAt (h : index + capabilityWindowLength ≤ run.length) :
    (windowAt run index).length = capabilityWindowLength := by
  rw [windowAt, List.length_take, List.length_drop]
  omega

/-- A window is its first unit and those that the next window starts with. -/
theorem exists_windows (h : index + capabilityWindowLength < run.length) :
    ∃ first middle last, middle.length = 42 ∧ charCodeAt run index = UInt16.toNat first ∧
      charCodeAt run (index + capabilityWindowLength) = UInt16.toNat last ∧
      windowAt run index = first :: middle ∧ windowAt run (index + 1) = middle ++ [last] := by
  unfold capabilityWindowLength at h
  have hfirst : index < run.length := by omega
  have hlast : 42 < (run.drop (index + 1)).length := by
    rw [List.length_drop]
    omega
  refine ⟨run[index], (run.drop (index + 1)).take 42, (run.drop (index + 1))[42], ?_, ?_, ?_, ?_,
    ?_⟩
  · rw [List.length_take]
    omega
  · rw [charCodeAt, List.getD_eq_getElem _ _ hfirst]
  · rw [charCodeAt, capabilityWindowLength, List.getD_eq_getElem _ _ h, List.getElem_drop]
  · rw [windowAt, List.drop_eq_getElem_cons hfirst]
    rfl
  · rw [windowAt, List.take_append_getElem]
    rfl

theorem next_hash (h : index + capabilityWindowLength < run.length) :
    ScanState.next run ⟨index, fingerprint (windowAt run index)⟩ =
      ⟨index + 1, fingerprint (windowAt run (index + 1))⟩ := by
  obtain ⟨first, middle, last, hmiddle, hfirst, hlast, hwindow, hnext⟩ := exists_windows h
  have hslide := @RollingHash.slide_hash 4294967296 31 fingerprintPower
    first.toNat last.toNat (middle.map UInt16.toNat)
    (by rw [List.length_map, hmiddle, fingerprintPower_eq])
  have hbase : capabilityHashBase = ((31 : ℕ) : ℤ) := rfl
  rw [ScanState.next, if_pos h, hfirst, hlast, hwindow, hnext, fingerprint_eq, fingerprint_eq,
    List.map_append, List.map_cons, List.map_singleton, ← hslide, imul_eq, imul_eq, hbase, toInt32,
    RollingHash.slide]

/-- After `index` rounds the loop is at `index`, with the fingerprint of the window there. -/
theorem iterate_next (h : index + capabilityWindowLength ≤ run.length) :
    (ScanState.next run)^[index] (.start run) = ⟨index, fingerprint (windowAt run index)⟩ := by
  induction index with
  | zero => rfl
  | succ index ih =>
      have hindex : index + capabilityWindowLength < run.length := by omega
      rw [Function.iterate_succ_apply', ih hindex.le, next_hash hindex]

/-! ### What the scans report -/

section

variable {sha256 : Text → Text} {digests : List Text} {fingerprints : List ℤ}

theorem scanFrom_eq_false {run : Text} {state : ScanState}
    (h : run.length < state.index + capabilityWindowLength) :
    scanFrom sha256 digests fingerprints run state = false := by
  rw [scanFrom, if_neg (Nat.not_le.mpr h)]

theorem scanFrom_eq_true_iff (run : Text) (index : ℕ) :
    scanFrom sha256 digests fingerprints run ⟨index, fingerprint (windowAt run index)⟩ = true ↔
      ∃ other, index ≤ other ∧ other + capabilityWindowLength ≤ run.length ∧
        isForbidden sha256 digests fingerprints (windowAt run other) = true := by
  induction hrest : run.length - index generalizing index with
  | zero =>
      have hend : run.length < index + capabilityWindowLength := by
        unfold capabilityWindowLength
        omega
      rw [scanFrom_eq_false hend]
      constructor
      · intro h
        cases h
      · rintro ⟨other, hother, hlength, -⟩
        omega
  | succ rest ih =>
      by_cases hlength : index + capabilityWindowLength ≤ run.length
      · rw [scanFrom, if_pos hlength]
        split_ifs with hhit
        · exact ⟨fun _ ↦ ⟨index, le_rfl, hlength, hhit⟩, fun _ ↦ rfl⟩
        · have hnext : run.length - (index + 1) = rest := by omega
          have hlater : (∃ other, index ≤ other ∧ other + capabilityWindowLength ≤ run.length ∧
              isForbidden sha256 digests fingerprints (windowAt run other) = true) ↔
              ∃ other, index + 1 ≤ other ∧ other + capabilityWindowLength ≤ run.length ∧
                isForbidden sha256 digests fingerprints (windowAt run other) = true := by
            constructor
            · rintro ⟨other, hother, hbound, hforbidden⟩
              rcases hother.eq_or_lt with rfl | hlt
              · exact absurd hforbidden hhit
              · exact ⟨other, hlt, hbound, hforbidden⟩
            · rintro ⟨other, hother, hbound, hforbidden⟩
              exact ⟨other, by omega, hbound, hforbidden⟩
          rw [hlater]
          rcases hlength.lt_or_eq with hmore | hlast
          · rw [next_hash hmore, ih (index + 1) hnext]
          · -- the hash that this round leaves is never looked at
            have hend : run.length < index + 1 + capabilityWindowLength := by omega
            rw [@scanFrom_eq_false _ _ _ _ (ScanState.next run _) hend]
            constructor
            · intro h
              cases h
            · rintro ⟨other, hother, hbound, -⟩
              omega
      · rw [scanFrom_eq_false (Nat.not_le.mp hlength)]
        constructor
        · intro h
          cases h
        · rintro ⟨other, hother, hbound, -⟩
          omega

theorem scanRun_eq_true_iff (run : Text) :
    scanRun sha256 digests fingerprints run = true ↔
      ∃ index, index + capabilityWindowLength ≤ run.length ∧
        isForbidden sha256 digests fingerprints (windowAt run index) = true := by
  have hstart : ScanState.start run = ⟨0, fingerprint (windowAt run 0)⟩ := rfl
  rw [scanRun, hstart, scanFrom_eq_true_iff]
  simp only [Nat.zero_le, true_and]

theorem capabilityRuns_of_forall {text : Text}
    (hunits : ∀ unit ∈ text, isCapabilityUnit unit = true)
    (hlength : capabilityWindowLength ≤ text.length) : capabilityRuns text = [text] := by
  cases text with
  | nil => cases hlength
  | cons unit rest =>
      have hrun : (unit :: rest).takeWhile isCapabilityUnit = unit :: rest :=
        List.takeWhile_eq_self_iff.mpr hunits
      rw [capabilityRuns, hrun, if_pos hlength, List.drop_length, capabilityRuns]

theorem isCapabilityUnit_bounds {unit : UInt16} (h : isCapabilityUnit unit = true) :
    33 ≤ unit ∧ unit ≤ 126 := by
  simp only [isCapabilityUnit, isUpper, isLower, Decimals.isDigit, Bool.or_eq_true,
    Bool.and_eq_true, decide_eq_true_eq, beq_iff_eq] at h
  rcases h with (((⟨hlow, hhigh⟩ | ⟨hlow, hhigh⟩) | ⟨hlow, hhigh⟩) | rfl) | rfl
  · exact ⟨UInt16.le_trans (by decide) hlow, UInt16.le_trans hhigh (by decide)⟩
  · exact ⟨UInt16.le_trans (by decide) hlow, UInt16.le_trans hhigh (by decide)⟩
  · exact ⟨UInt16.le_trans (by decide) hlow, UInt16.le_trans hhigh (by decide)⟩
  · decide
  · decide

theorem isSpace_of_isCapabilityUnit {unit : UInt16} (h : isCapabilityUnit unit = true) :
    isSpace unit = false :=
  TextLines.isSpace_of_visible (isCapabilityUnit_bounds h).1 (isCapabilityUnit_bounds h).2

theorem isCapabilityUnit_of_mem {text : Text} {unit : UInt16} (h : unit ∈ stripPunctuation text) :
    isCapabilityUnit unit = true :=
  List.of_mem_filter h

theorem stripPunctuation_of_forall {text : Text}
    (hunits : ∀ unit ∈ text, isCapabilityUnit unit = true) : stripPunctuation text = text :=
  List.filter_eq_self.mpr hunits

/-- White space is punctuation. -/
theorem stripPunctuation_filter (text : Text) :
    stripPunctuation (text.filter fun unit ↦ !isSpace unit) = stripPunctuation text := by
  rw [stripPunctuation, List.filter_filter]
  refine List.filter_congr fun unit _ ↦ ?_
  cases hunit : isCapabilityUnit unit with
  | false => rfl
  | true =>
      rw [isSpace_of_isCapabilityUnit hunit]
      rfl

end

/-! ### Capabilities -/

/-- A capability, as a grant issues it. -/
structure Capability where
  text : Text
  length_eq : text.length = capabilityWindowLength
  units : ∀ unit ∈ text, isCapabilityUnit unit = true

/-- The keys of the grants. -/
def forbiddenDigests (sha256 : Text → Text) (capabilities : List Capability) : List Text :=
  capabilities.map fun capability ↦ sha256 capability.text

def forbiddenFingerprints (capabilities : List Capability) : List ℤ :=
  capabilities.map fun capability ↦ fingerprint capability.text

/-- No window of the run has the digest of a capability without being it. -/
def CollisionFree (sha256 : Text → Text) (capabilities : List Capability) (run : Text) : Prop :=
  ∀ index, index + capabilityWindowLength ≤ run.length → ∀ capability ∈ capabilities,
    sha256 (windowAt run index) = sha256 capability.text → windowAt run index = capability.text

section

variable {sha256 normalize : Text → Text} {capabilities : List Capability}

theorem isForbidden_iff (raw : Text) :
    isForbidden sha256 (forbiddenDigests sha256 capabilities) (forbiddenFingerprints capabilities)
        raw = true ↔
      sha256 raw ∈ forbiddenDigests sha256 capabilities ∧
        fingerprint raw ∈ forbiddenFingerprints capabilities := by
  rw [isForbidden, Bool.and_eq_true, List.contains_iff_mem, List.contains_iff_mem, and_comm]

theorem isForbidden_capability {capability : Capability} (h : capability ∈ capabilities) :
    isForbidden sha256 (forbiddenDigests sha256 capabilities) (forbiddenFingerprints capabilities)
      capability.text = true :=
  (isForbidden_iff _).mpr ⟨List.mem_map_of_mem h, List.mem_map_of_mem h⟩

/-- A run is reported exactly for a window with a forbidden digest. -/
theorem scanRun_iff_digest {run : Text} (hfree : CollisionFree sha256 capabilities run) :
    scanRun sha256 (forbiddenDigests sha256 capabilities) (forbiddenFingerprints capabilities)
        run = true ↔
      ∃ index, index + capabilityWindowLength ≤ run.length ∧
        sha256 (windowAt run index) ∈ forbiddenDigests sha256 capabilities := by
  rw [scanRun_eq_true_iff]
  constructor
  · rintro ⟨index, hindex, hforbidden⟩
    exact ⟨index, hindex, ((isForbidden_iff _).mp hforbidden).1⟩
  · rintro ⟨index, hindex, hdigest⟩
    obtain ⟨capability, hmem, heq⟩ := List.mem_map.mp hdigest
    have hwindow := hfree index hindex capability hmem heq.symm
    refine ⟨index, hindex, ?_⟩
    rw [hwindow]
    exact isForbidden_capability hmem

/-- A capability within a run is found. -/
theorem scanRun_of_within {run : Text} {capability : Capability} (hmem : capability ∈ capabilities)
    (h : capability.text <:+: run) :
    scanRun sha256 (forbiddenDigests sha256 capabilities) (forbiddenFingerprints capabilities)
      run = true := by
  obtain ⟨before, after, hrun⟩ := h
  have hwindow : windowAt run before.length = capability.text := by
    rw [windowAt, ← hrun, List.append_assoc, List.drop_left, ← capability.length_eq, List.take_left]
  have hlength : before.length + capabilityWindowLength ≤ run.length := by
    rw [← hrun, List.length_append, List.length_append, capability.length_eq]
    exact Nat.le_add_right _ _
  rw [scanRun_eq_true_iff]
  refine ⟨before.length, hlength, ?_⟩
  rw [hwindow]
  exact isForbidden_capability hmem

/-- A text of capability characters alone is one run. -/
theorem reportsValue_of_within {text : Text} {capability : Capability}
    (hunits : ∀ unit ∈ text, isCapabilityUnit unit = true) (hmem : capability ∈ capabilities)
    (h : capability.text <:+: text) :
    reportsValue sha256 (forbiddenDigests sha256 capabilities) (forbiddenFingerprints capabilities)
      text = true := by
  have hlength : capabilityWindowLength ≤ text.length := by
    rw [← capability.length_eq]
    exact h.length_le
  rw [reportsValue, capabilityRuns_of_forall hunits hlength, List.any_cons,
    scanRun_of_within hmem h, Bool.or_true, Bool.true_or, Bool.or_true]

/-- One call, on a text of capability characters alone. -/
theorem containsForbiddenCapability_stripped {text : Text} {fuel : ℕ}
    (hnormal : normalize text = text) (hunits : ∀ unit ∈ text, isCapabilityUnit unit = true) :
    containsForbiddenCapability sha256 (forbiddenDigests sha256 capabilities)
        (forbiddenFingerprints capabilities) normalize (fuel + 1) text =
      some (reportsValue sha256 (forbiddenDigests sha256 capabilities)
        (forbiddenFingerprints capabilities) text) := by
  have hspaces : text.filter (fun unit ↦ !isSpace unit) = text := by
    refine List.filter_eq_self.mpr fun unit hunit ↦ ?_
    rw [isSpace_of_isCapabilityUnit (hunits unit hunit)]
    rfl
  rw [containsForbiddenCapability, hnormal, hspaces, stripPunctuation_of_forall hunits]
  split_ifs with hreports hagain
  · rw [hreports]
  · exact absurd rfl hagain.1
  · rw [(Bool.not_eq_true _).mp hreports]

theorem capability_scan
    (hascii : ∀ text : Text, (∀ unit ∈ text, unit < 128) → normalize text = text) :
    (∀ run : Text,
      (∀ index, index + capabilityWindowLength ≤ run.length →
        (ScanState.next run)^[index] (.start run) = ⟨index, fingerprint (windowAt run index)⟩) ∧
      (scanRun sha256 (forbiddenDigests sha256 capabilities) (forbiddenFingerprints capabilities)
          run = true ↔
        ∃ index, index + capabilityWindowLength ≤ run.length ∧
          sha256 (windowAt run index) ∈ forbiddenDigests sha256 capabilities ∧
          fingerprint (windowAt run index) ∈ forbiddenFingerprints capabilities) ∧
      (CollisionFree sha256 capabilities run →
        (scanRun sha256 (forbiddenDigests sha256 capabilities) (forbiddenFingerprints capabilities)
            run = true ↔
          ∃ index, index + capabilityWindowLength ≤ run.length ∧
            sha256 (windowAt run index) ∈ forbiddenDigests sha256 capabilities))) ∧
    ∀ value : Text, ∃ reported : Bool,
      (∀ fuel, 2 ≤ fuel → containsForbiddenCapability sha256 (forbiddenDigests sha256 capabilities)
        (forbiddenFingerprints capabilities) normalize fuel value = some reported) ∧
      ∀ capability ∈ capabilities, capability.text <:+: stripPunctuation (normalize value) →
        reported = true := by
  refine ⟨fun run ↦ ⟨fun index hindex ↦ iterate_next hindex, ?_, scanRun_iff_digest⟩,
    fun value ↦ ?_⟩
  · rw [scanRun_eq_true_iff]
    simp only [isForbidden_iff]
  · let spaceless := (normalize value).filter fun unit ↦ !isSpace unit
    have hstripped : stripPunctuation spaceless = stripPunctuation (normalize value) :=
      stripPunctuation_filter _
    by_cases hreports : reportsValue sha256 (forbiddenDigests sha256 capabilities)
        (forbiddenFingerprints capabilities) spaceless = true
    · refine ⟨true, fun fuel hfuel ↦ ?_, fun _ _ _ ↦ rfl⟩
      obtain ⟨fuel, rfl⟩ := Nat.exists_eq_add_of_le' hfuel
      rw [containsForbiddenCapability, if_pos hreports]
    by_cases hagain : stripPunctuation spaceless ≠ spaceless ∧
        capabilityWindowLength ≤ (stripPunctuation spaceless).length
    · have hunits : ∀ unit ∈ stripPunctuation spaceless, isCapabilityUnit unit = true :=
        fun unit hunit ↦ isCapabilityUnit_of_mem hunit
      have hnormal : normalize (stripPunctuation spaceless) = stripPunctuation spaceless := by
        refine hascii _ fun unit hunit ↦ ?_
        exact UInt16.lt_of_le_of_lt (isCapabilityUnit_bounds (hunits unit hunit)).2 (by decide)
      refine ⟨reportsValue sha256 (forbiddenDigests sha256 capabilities)
          (forbiddenFingerprints capabilities) (stripPunctuation spaceless),
        fun fuel hfuel ↦ ?_, fun capability hmem hwithin ↦
          reportsValue_of_within hunits hmem (hstripped ▸ hwithin)⟩
      obtain ⟨fuel, rfl⟩ := Nat.exists_eq_add_of_le' hfuel
      rw [containsForbiddenCapability, if_neg hreports, if_pos hagain]
      exact containsForbiddenCapability_stripped hnormal hunits
    · refine ⟨false, fun fuel hfuel ↦ ?_, fun capability hmem hwithin ↦ ?_⟩
      · obtain ⟨fuel, rfl⟩ := Nat.exists_eq_add_of_le' hfuel
        rw [containsForbiddenCapability, if_neg hreports, if_neg hagain]
      · -- a long stripped text that is not scanned again is the text scanned already
        rw [← hstripped] at hwithin
        have hlength : capabilityWindowLength ≤ (stripPunctuation spaceless).length := by
          rw [← capability.length_eq]
          exact hwithin.length_le
        have hfixed : stripPunctuation spaceless = spaceless :=
          not_not.mp fun hne ↦ hagain ⟨hne, hlength⟩
        have hunits : ∀ unit ∈ spaceless, isCapabilityUnit unit = true :=
          fun unit hunit ↦ isCapabilityUnit_of_mem (hfixed.symm ▸ hunit)
        exact absurd (reportsValue_of_within hunits hmem (hfixed ▸ hwithin)) hreports

end

/-- Forty-three times `A`, all but the first of them behind a full-width point, which NFKC turns
into a point: the capability is the whole of what is left without punctuation. -/
theorem capability_scan_pointed :
    containsForbiddenCapability
        (fun _ ↦ unitsOf "0f007385b6f9d4b7eeb2748605afe1a984a0a3bfa3f014d09e2a784ce9e5cd1a")
        [unitsOf "0f007385b6f9d4b7eeb2748605afe1a984a0a3bfa3f014d09e2a784ce9e5cd1a"]
        [fingerprint (List.replicate 43 65)]
        (fun text ↦ text.map fun unit ↦ if unit = 65294 then 46 else unit) 2
        (65 :: (List.replicate 42 [65294, 65]).flatten) = some true := by
  let capability : Capability := ⟨List.replicate 43 65, rfl, by
    intro unit hunit
    rw [List.eq_of_mem_replicate hunit]
    rfl⟩
  have hascii (text : Text) (htext : ∀ unit ∈ text, unit < 128) :
      (text.map fun unit ↦ if unit = 65294 then 46 else unit) = text := by
    refine (List.map_congr_left fun unit hunit ↦ ?_).trans (List.map_id _)
    rw [if_neg]
    · rfl
    · rintro rfl
      exact absurd (htext _ hunit) (by decide)
  obtain ⟨reported, hreported, hreports⟩ := (@capability_scan
    (fun _ ↦ unitsOf "0f007385b6f9d4b7eeb2748605afe1a984a0a3bfa3f014d09e2a784ce9e5cd1a")
    _ [capability] hascii).2 (65 :: (List.replicate 42 [65294, 65]).flatten)
  have hwithin : capability.text <:+: stripPunctuation
      ((65 :: (List.replicate 42 [65294, 65]).flatten).map fun unit ↦
        if unit = 65294 then 46 else unit) := ⟨[], [], rfl⟩
  rw [← hreports capability List.mem_cons_self hwithin]
  exact hreported 2 le_rfl

end Dona.ResultPublish
