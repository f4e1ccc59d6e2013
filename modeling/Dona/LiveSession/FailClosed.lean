import Dona.LiveSession.Observation
import Mathlib.Data.List.MinMax

/-!
# Receipts of live sessions fail closed

An observation and the append of its receipt are apart, and the identity of the job may be
replaced in between, even by one that looks the same. What is appended is decided by the identity
that the job has at that moment, and by the highest sequence that is known of it.
-/

namespace Dona.LiveSession

open Coroutine Fallible

/-! ### Classification -/

@[simp] theorem failClosed_state (state : ReconciliationState) (reasons : List String) :
    (failClosed state reasons).state = state := rfl

@[simp] theorem failClosed_confidence (state : ReconciliationState) (reasons : List String) :
    (failClosed state reasons).confidence = .failClosed := rfl

theorem reconcile_of_changed {input : ObservationInput} {query : Classified}
    (h : input.identityGenerationChanged = true) :
    (reconcile input query).state = .unknown ∧ (reconcile input query).confidence = .failClosed := by
  unfold reconcile
  rw [if_pos h]
  exact ⟨rfl, rfl⟩

theorem reconcileObserved_ne {input : ObservationInput} {query : Classified}
    {reasons : List String} : (reconcileObserved input query reasons).state ≠ .sessionAbsent := by
  unfold reconcileObserved
  dsimp only
  split_ifs <;> simp

theorem reconcile_sessionAbsent {input : ObservationInput} {query : Classified}
    (h : (reconcile input query).state = .sessionAbsent) :
    input.identityGenerationChanged = false ∧ query.queryStatus = .agentNotFound := by
  unfold reconcile at h
  dsimp only at h
  split_ifs at h with hchanged haddress habsent hobserved hmatch hprevious
  · simp at h
  · simp at h
  · exact ⟨eq_false_of_ne_true hchanged, habsent⟩
  · simp at h
  · simp at h
  · simp at h
  · exact absurd h reconcileObserved_ne

/-- An agent that is not the expected one. -/
theorem reconcile_identityConflict {input : ObservationInput} {query : Classified}
    (hchanged : input.identityGenerationChanged = false) (hobserved : query.queryStatus = .observed)
    (hmatch : query.identityMatch ≠ some true) :
    (reconcile input query).state = .identityConflict ∧
      (reconcile input query).confidence = .failClosed := by
  unfold reconcile
  rw [if_neg (by rw [hchanged]; decide), if_neg (by rw [hobserved]; decide),
    if_neg (by rw [hobserved]; decide), if_neg (by rw [hobserved]; decide), if_pos hmatch]
  exact ⟨rfl, rfl⟩

/-- Only an answer of an agent has a sequence, and it says whether that agent is expected. -/
theorem classifyQuery_sequence {result : Option HerdrCommandResult} {expected : Option SessionKey}
    {sequence : ℕ} (h : (classifyQuery result expected).sequence = some sequence) :
    (classifyQuery result expected).queryStatus = .observed ∧ expected.isSome ∧
      (classifyQuery result expected).identityMatch.isSome := by
  unfold classifyQuery at h ⊢
  split at h
  · contradiction
  · contradiction
  · split_ifs at h ⊢
    split at h
    · exact ⟨rfl, rfl, rfl⟩
    · contradiction

/-! ### Generations -/

theorem generation_eq_some {job : JobRuntime} {identity : Option LiveSessionIdentityRow}
    {generation : GenerationSha256}
    (h : liveSessionIdentityGenerationSha256 job identity = some generation) :
    ∃ row, identity = some row ∧ generation = (row.generation, job) := by
  obtain ⟨row, rfl, hrow⟩ := Option.bind_eq_some_iff.1 h
  split_ifs at hrow
  exact ⟨row, rfl, (Option.some.inj hrow).symm⟩

/-- Identities of one generation are the same to every statement. -/
theorem isRowOf_congr {identity identity' : LiveSessionIdentityRow}
    (h : identity.generation = identity'.generation) :
    World.isRowOf identity = World.isRowOf identity' := by
  simp only [LiveSessionIdentityRow.generation, IdentityGeneration.mk.injEq] at h
  obtain ⟨hsession, hworkspace, hpane, hagent, hrecorded, -⟩ := h
  funext row
  simp only [World.isRowOf, hsession, hworkspace, hpane, hagent, hrecorded]

theorem isRowOf_of_generation {identity row : LiveSessionIdentityRow}
    (h : row.generation = identity.generation) : World.isRowOf identity row = true := by
  simp only [LiveSessionIdentityRow.generation, IdentityGeneration.mk.injEq] at h
  obtain ⟨hsession, hworkspace, hpane, hagent, hrecorded, -⟩ := h
  simp [World.isRowOf, hsession, hworkspace, hpane, hagent, hrecorded]

theorem expected_congr {job : JobRuntime} {identity identity' : LiveSessionIdentityRow}
    (h : identity.generation = identity'.generation) :
    expectedLiveSessionIdentity job (some identity) =
      expectedLiveSessionIdentity job (some identity') := by
  simp only [LiveSessionIdentityRow.generation, IdentityGeneration.mk.injEq] at h
  obtain ⟨hsession, hworkspace, hpane, hagent, -, -⟩ := h
  unfold expectedLiveSessionIdentity
  rw [Option.bind_some, Option.bind_some, hsession, hworkspace, hpane, hagent]

theorem generation_congr {job : JobRuntime} {identity identity' : LiveSessionIdentityRow}
    (h : identity.generation = identity'.generation) :
    liveSessionIdentityGenerationSha256 job (some identity) =
      liveSessionIdentityGenerationSha256 job (some identity') := by
  have hnonce : identity.generationNonce = identity'.generationNonce :=
    congrArg IdentityGeneration.generationNonce h
  unfold liveSessionIdentityGenerationSha256
  rw [Option.bind_some, Option.bind_some, expected_congr h, hnonce, h]

theorem latest_congr {w : World} {jobId : JobId} {identity identity' : LiveSessionIdentityRow}
    (h : identity.generation = identity'.generation) :
    w.latestLiveSessionStateChangeSeq jobId identity =
      w.latestLiveSessionStateChangeSeq jobId identity' := by
  have hrecorded : identity.recordedAt = identity'.recordedAt :=
    congrArg IdentityGeneration.recordedAt h
  unfold World.latestLiveSessionStateChangeSeq
  simp only [isRowOf_congr h, hrecorded, generation_congr h]

/-- What the append compares is what the observation used and what the job has now. -/
theorem generation_eq_of_match {job : JobRuntime} {identity current : Option LiveSessionIdentityRow}
    {receipt : LiveSessionReceipt} {row : LiveSessionIdentityRow} (hidentity : identity = some row)
    (h : World.generationMismatch job identity current receipt = false) :
    ∃ row', current = some row' ∧ row'.generation = row.generation := by
  subst hidentity
  simp only [World.generationMismatch, Option.isSome_some, true_or, true_and, decide_eq_false_iff_not,
    not_or, not_not, ne_eq] at h
  obtain ⟨hsome, hsame⟩ := h
  obtain ⟨generation, hgeneration⟩ := Option.ne_none_iff_exists'.1 hsome
  obtain ⟨used, hused, rfl⟩ := generation_eq_some hgeneration
  obtain rfl := Option.some.inj hused
  rw [hgeneration] at hsame
  obtain ⟨row', hrow', heq⟩ := generation_eq_some hsame.symm
  exact ⟨row', hrow', (congrArg Prod.fst heq).symm⟩

/-! ### Appended receipts -/

/-- How a receipt fails closed that was appended. -/
structure Appended.FailsClosed (e : Appended) : Prop where
  replaced : ∀ used, e.used = some used →
    (∀ current, e.current = some current → current.generation ≠ used.generation) →
      e.receipt.reconciliation.state = .unknown ∧
        e.receipt.reconciliation.confidence = .failClosed
  regressed : ∀ sequence maximum, e.receipt.stateChangeSeq = some sequence →
    e.maximum = some maximum → sequence < maximum →
      e.receipt.reconciliation.confidence = .failClosed ∧
        (e.receipt.reconciliation.state = .unknown ∨
          (e.receipt.reconciliation.state = .identityConflict ∧
            e.receipt.identityMatch = some false))
  absent : e.receipt.reconciliation.state = .sessionAbsent →
    e.receipt.queryStatus = .agentNotFound ∧ ∃ used runtime, e.used = some used ∧
      e.receipt.identityGenerationSha256 = some (used.generation, runtime)

theorem Appended.FailsClosed.of_unknown {e : Appended}
    (hstate : e.receipt.reconciliation.state = .unknown)
    (hconfidence : e.receipt.reconciliation.confidence = .failClosed) : e.FailsClosed := by
  refine ⟨fun _ _ _ ↦ ⟨hstate, hconfidence⟩, fun _ _ _ _ _ ↦ ⟨hconfidence, .inl hstate⟩, ?_⟩
  intro habsent
  rw [hstate] at habsent
  contradiction

namespace World

variable {w : World} {job : JobRuntime} {identity current : Option LiveSessionIdentityRow}
  {receipt : LiveSessionReceipt}

theorem audited_visible (job : JobRuntime) (identity current : Option LiveSessionIdentityRow)
    (receipt : LiveSessionReceipt) (w : World) :
    (audited job identity current receipt w).jobId = receipt.jobId ∧
    (audited job identity current receipt w).queryStatus = receipt.queryStatus ∧
    (audited job identity current receipt w).identityMatch = receipt.identityMatch ∧
    (audited job identity current receipt w).stateChangeSeq = receipt.stateChangeSeq := by
  unfold audited
  dsimp only
  split
  · split_ifs <;> exact ⟨rfl, rfl, rfl, rfl⟩
  · exact ⟨rfl, rfl, rfl, rfl⟩

theorem audited_of_mismatch (h : generationMismatch job identity current receipt = true) :
    (audited job identity current receipt w).reconciliation.state = .unknown ∧
      (audited job identity current receipt w).reconciliation.confidence = .failClosed := by
  have hnone : ∀ receipt' : LiveSessionReceipt, sequenceOf true identity receipt' = none := by
    intro receipt'
    unfold sequenceOf
    rw [if_neg fun hboth ↦ absurd hboth.1 (by decide)]
  unfold audited
  simp only [h, hnone, if_true]
  exact ⟨rfl, rfl⟩

/-- Without a mismatch the receipt is appended as it was built, unless its sequence regresses. -/
theorem audited_of_match (h : generationMismatch job identity current receipt = false) :
    (audited job identity current receipt w).identityGenerationSha256 =
        liveSessionIdentityGenerationSha256 job identity ∧
      ((audited job identity current receipt w).reconciliation = receipt.reconciliation ∨
        (audited job identity current receipt w).reconciliation.state = .unknown ∧
          (audited job identity current receipt w).reconciliation.confidence = .failClosed) := by
  unfold audited
  simp only [h, Bool.false_eq_true, if_false]
  split
  · split_ifs
    · exact ⟨rfl, .inr ⟨rfl, rfl⟩⟩
    · exact ⟨rfl, .inl rfl⟩
  · exact ⟨rfl, .inl rfl⟩

/-- A sequence of the expected agent that has been passed already. -/
theorem audited_of_regressed {row : LiveSessionIdentityRow} {sequence maximum : ℕ}
    (h : generationMismatch job (some row) current receipt = false) (hexpected : isExpected receipt)
    (hsequence : receipt.stateChangeSeq = some sequence)
    (hmaximum : w.latestLiveSessionStateChangeSeq receipt.jobId row = some maximum)
    (hlt : sequence < maximum) :
    (audited job (some row) current receipt w).reconciliation.state = .unknown ∧
      (audited job (some row) current receipt w).reconciliation.confidence = .failClosed := by
  have hsequenceOf : ∀ receipt' : LiveSessionReceipt, isExpected receipt' = true →
      receipt'.stateChangeSeq = some sequence →
        sequenceOf false (some row) receipt' = some (row, sequence) := by
    intro receipt' hexpected' hsequence'
    unfold sequenceOf
    rw [if_pos ⟨rfl, hexpected'⟩, Option.bind_some, hsequence']
    rfl
  have hpassed : (w.latestLiveSessionStateChangeSeq receipt.jobId row).any (sequence < ·) := by
    rw [hmaximum]
    simpa using hlt
  unfold audited
  simp only [h, Bool.false_eq_true, if_false]
  rw [hsequenceOf { receipt with
    identityGenerationSha256 := liveSessionIdentityGenerationSha256 job (some row) }
      hexpected hsequence]
  simp only [hpassed, if_true]
  exact ⟨rfl, rfl⟩

end World

/-- An observation that has seen the identity change. -/
theorem failsClosed_of_changed {input : ObservationInput} {current : Option LiveSessionIdentityRow}
    {job : JobRuntime} {w : World} (hchanged : input.identityGenerationChanged = true)
    (stored : Option LiveSessionIdentityRow) (maximum : Option ℕ) :
    Appended.FailsClosed ⟨World.audited job none current (buildLiveSessionReceipt input) w, stored,
      current, maximum⟩ := by
  have hbuilt : (buildLiveSessionReceipt input).reconciliation.state = .unknown ∧
      (buildLiveSessionReceipt input).reconciliation.confidence = .failClosed :=
    reconcile_of_changed hchanged
  have hmatch : World.generationMismatch job none current (buildLiveSessionReceipt input) = false := by
    simp [World.generationMismatch, hbuilt.1]
  rcases (World.audited_of_match (w := w) hmatch).2 with hkept | hunknown
  · refine .of_unknown ?_ ?_
    · exact (congrArg Reconciliation.state hkept).trans hbuilt.1
    · exact (congrArg Reconciliation.confidence hkept).trans hbuilt.2
  · exact .of_unknown hunknown.1 hunknown.2

/-- The identity that the observation has used is still that of the job. -/
theorem failsClosed_of_match {input : ObservationInput} {used row : LiveSessionIdentityRow}
    {job : JobRuntime} {w : World} (hchanged : input.identityGenerationChanged = false)
    (hmatch : World.generationMismatch job (some used) (some row) (buildLiveSessionReceipt input) =
      false) (hsame : row.generation = used.generation) :
    Appended.FailsClosed ⟨World.audited job (some used) (some row) (buildLiveSessionReceipt input) w,
      some used, some row, w.latestLiveSessionStateChangeSeq input.jobId row⟩ := by
  obtain ⟨-, hstatus, hidentity, hsequence⟩ :=
    World.audited_visible job (some used) (some row) (buildLiveSessionReceipt input) w
  have hbuilt : (buildLiveSessionReceipt input).queryStatus =
        (classifyQuery input.result input.expectedIdentity).queryStatus ∧
      (buildLiveSessionReceipt input).identityMatch =
        (classifyQuery input.result input.expectedIdentity).identityMatch ∧
      (buildLiveSessionReceipt input).stateChangeSeq =
        (classifyQuery input.result input.expectedIdentity).sequence ∧
      (buildLiveSessionReceipt input).reconciliation =
        reconcile input (classifyQuery input.result input.expectedIdentity) := by
    simp only [buildLiveSessionReceipt, hchanged, Bool.false_eq_true, if_false, and_self]
  obtain ⟨hbuiltStatus, hbuiltMatch, hbuiltSequence, hbuiltDecision⟩ := hbuilt
  obtain ⟨hgeneration, hreconciled⟩ := World.audited_of_match (w := w) hmatch
  rcases hreconciled with hkept | hunknown
  · refine ⟨?_, ?_, ?_⟩
    · intro used' hused hother
      obtain rfl := Option.some.inj hused
      exact absurd hsame (hother row rfl)
    · intro sequence maximum hseq hmaximum hlt
      have hseq' : (buildLiveSessionReceipt input).stateChangeSeq = some sequence :=
        hsequence.symm.trans hseq
      by_cases hexpected : World.isExpected (buildLiveSessionReceipt input) = true
      · have hmaximum' : w.latestLiveSessionStateChangeSeq input.jobId used = some maximum := by
          rw [latest_congr hsame.symm]
          exact hmaximum
        have hunknown := World.audited_of_regressed hmatch hexpected hseq' hmaximum' hlt
        exact ⟨hunknown.2, .inl hunknown.1⟩
      · -- The agent that answered is another one, whose sequence says nothing of the expected one.
        rw [hbuiltSequence] at hseq'
        obtain ⟨hobserved, -, hanswered⟩ := classifyQuery_sequence hseq'
        have hother : (classifyQuery input.result input.expectedIdentity).identityMatch ≠ some true := by
          intro hsome
          apply hexpected
          simp only [World.isExpected, hbuiltStatus, hbuiltMatch, hobserved, hsome, and_self,
            decide_true]
        have hconflict := reconcile_identityConflict hchanged hobserved hother
        rw [← hbuiltDecision, ← hkept] at hconflict
        refine ⟨hconflict.2, .inr ⟨hconflict.1, ?_⟩⟩
        obtain ⟨answer, hanswer⟩ := Option.isSome_iff_exists.1 hanswered
        refine (hidentity.trans (hbuiltMatch.trans hanswer)).trans ?_
        cases answer with
        | true => exact absurd hanswer hother
        | false => rfl
    · intro habsent
      have hdecided : (reconcile input (classifyQuery input.result input.expectedIdentity)).state =
          .sessionAbsent := by
        rw [← hbuiltDecision, ← hkept]
        exact habsent
      refine ⟨hstatus.trans (hbuiltStatus.trans (reconcile_sessionAbsent hdecided).2), used, job, rfl,
        hgeneration.trans ?_⟩
      simp only [World.generationMismatch, Option.isSome_some, true_or, true_and,
        decide_eq_false_iff_not, not_or, not_not, ne_eq] at hmatch
      obtain ⟨generation, hsome⟩ := Option.ne_none_iff_exists'.1 hmatch.1
      obtain ⟨row', hrow', rfl⟩ := generation_eq_some hsome
      obtain rfl := Option.some.inj hrow'
      exact hsome
  · exact .of_unknown hunknown.1 hunknown.2

/-- A job without an identity is not asked for. -/
theorem failsClosed_of_none {input : ObservationInput} {current : Option LiveSessionIdentityRow}
    {job : JobRuntime} {w : World} (hchanged : input.identityGenerationChanged = false)
    (hexpected : input.expectedIdentity = none) (maximum : Option ℕ) :
    Appended.FailsClosed ⟨World.audited job none current (buildLiveSessionReceipt input) w, none,
      current, maximum⟩ := by
  obtain ⟨-, -, -, hsequence⟩ :=
    World.audited_visible job none current (buildLiveSessionReceipt input) w
  have hclassified : classifyQuery input.result input.expectedIdentity =
      { queryStatus := .notAddressable } := by
    rw [hexpected]
    rfl
  have hbuilt : (buildLiveSessionReceipt input).stateChangeSeq = none ∧
      (buildLiveSessionReceipt input).reconciliation.state = .notAddressable := by
    simp [buildLiveSessionReceipt, hclassified, hchanged, reconcile]
  have hmatch : World.generationMismatch job none current (buildLiveSessionReceipt input) = false := by
    simp [World.generationMismatch, hbuilt.2]
  rcases (World.audited_of_match (w := w) hmatch).2 with hkept | hunknown
  · refine ⟨fun used hused ↦ ?_, fun sequence _ hseq ↦ ?_, fun habsent ↦ ?_⟩
    · contradiction
    · rw [hsequence, hbuilt.1] at hseq
      contradiction
    · have hstate := (congrArg Reconciliation.state hkept).trans hbuilt.2
      have habsent' := hstate.symm.trans habsent
      contradiction
  · exact .of_unknown hunknown.1 hunknown.2

theorem failsClosed_audited {input : ObservationInput} {stored current : Option LiveSessionIdentityRow}
    {job : JobRuntime} {w : World} (hexpected : stored = none → input.expectedIdentity = none) :
    Appended.FailsClosed ⟨World.audited job
      (if input.identityGenerationChanged then none else stored) current
        (buildLiveSessionReceipt input) w, stored, current,
      current.bind (w.latestLiveSessionStateChangeSeq input.jobId)⟩ := by
  cases hchanged : input.identityGenerationChanged with
  | true => exact failsClosed_of_changed hchanged stored _
  | false =>
      rw [if_neg (by decide)]
      cases hstored : stored with
      | none => exact failsClosed_of_none hchanged (hexpected hstored) _
      | some used =>
          cases hmatch : World.generationMismatch job (some used) current
            (buildLiveSessionReceipt input) with
          | true =>
              have hunknown := World.audited_of_mismatch (w := w) hmatch
              exact .of_unknown hunknown.1 hunknown.2
          | false =>
              obtain ⟨row, rfl, hsame⟩ := generation_eq_of_match rfl hmatch
              exact failsClosed_of_match hchanged hmatch hsame

/-! ### The high-water mark -/

/-- `max_state_change_seq` as it was, or higher. -/
def SequenceLe (a b : Option ℕ) : Prop :=
  ∀ maximum, a = some maximum → ∃ maximum', b = some maximum' ∧ maximum ≤ maximum'

theorem SequenceLe.refl (a : Option ℕ) : SequenceLe a a := fun maximum h ↦ ⟨maximum, h, le_refl _⟩

theorem SequenceLe.trans {a b c : Option ℕ} (h : SequenceLe a b) (h' : SequenceLe b c) :
    SequenceLe a c := by
  intro maximum ha
  obtain ⟨maximum', hb, hle⟩ := h maximum ha
  obtain ⟨maximum'', hc, hle'⟩ := h' maximum' hb
  exact ⟨maximum'', hc, hle.trans hle'⟩

/-- The nonces that have been drawn so far are below the next one. -/
def World.Drawn (w : World) (identity : LiveSessionIdentityRow) : Prop :=
  ∀ nonce, identity.generationNonce = some nonce → nonce < w.nextUuid

/-- Every identity of later whose nonce was drawn before was there before, with a sequence that is
not higher. -/
structure World.Lasts (w w' : World) : Prop where
  uuids : w.nextUuid ≤ w'.nextUuid
  identities : ∀ jobId identity', w'.identities.get? jobId = some identity' → w.Drawn identity' →
    ∃ identity, w.identities.get? jobId = some identity ∧
      identity'.generation = identity.generation ∧
      SequenceLe identity.maxStateChangeSeq identity'.maxStateChangeSeq

namespace World

variable {w w' w'' : World} {jobId : JobId}

theorem Lasts.of_eq (hidentities : w'.identities = w.identities) (huuids : w.nextUuid ≤ w'.nextUuid) :
    w.Lasts w' := by
  refine ⟨huuids, fun jobId identity' hidentity' _ ↦ ⟨identity', ?_, rfl, .refl _⟩⟩
  rw [← hidentities]
  exact hidentity'

theorem Lasts.refl (w : World) : w.Lasts w := .of_eq rfl (le_refl _)

theorem Lasts.trans (h : w.Lasts w') (h' : w'.Lasts w'') : w.Lasts w'' := by
  refine ⟨h.uuids.trans h'.uuids, fun jobId identity'' hidentity'' hdrawn ↦ ?_⟩
  obtain ⟨identity', hidentity', hsame', hle'⟩ := h'.identities jobId identity'' hidentity''
    fun nonce hnonce ↦ (hdrawn nonce hnonce).trans_le h.uuids
  have hnonce : identity'.generationNonce = identity''.generationNonce :=
    (congrArg IdentityGeneration.generationNonce hsame').symm
  obtain ⟨identity, hidentity, hsame, hle⟩ := h.identities jobId identity' hidentity' (by
    intro nonce hsome
    exact hdrawn nonce (hnonce ▸ hsome))
  exact ⟨identity, hidentity, hsame'.trans hsame, hle.trans hle'⟩

/-- All nonces of the database have been drawn. -/
def AllDrawn (w : World) : Prop :=
  ∀ jobId identity, w.identities.get? jobId = some identity → w.Drawn identity

/-! ### The operations -/

/-- An operation that appends no receipt. -/
structure Quiet (w w' : World) : Prop where
  lasts : w.Lasts w'
  allDrawn : w.AllDrawn → w'.AllDrawn
  appended : w'.appended = w.appended
  receipts : ∀ receipt ∈ w'.receipts, receipt ∈ w.receipts

theorem Quiet.of_eq (hidentities : w'.identities = w.identities) (huuids : w'.nextUuid = w.nextUuid)
    (happended : w'.appended = w.appended)
    (hreceipts : ∀ receipt ∈ w'.receipts, receipt ∈ w.receipts) : w.Quiet w' := by
  refine ⟨.of_eq hidentities huuids.ge, fun hdrawn jobId identity hidentity ↦ ?_, happended,
    hreceipts⟩
  rw [hidentities] at hidentity
  intro nonce hnonce
  rw [huuids]
  exact hdrawn jobId identity hidentity nonce hnonce

theorem Quiet.trans (h : w.Quiet w') (h' : w'.Quiet w'') : w.Quiet w'' where
  lasts := h.lasts.trans h'.lasts
  allDrawn hdrawn := h'.allDrawn (h.allDrawn hdrawn)
  appended := h'.appended.trans h.appended
  receipts receipt hreceipt := h.receipts receipt (h'.receipts receipt hreceipt)

theorem quiet_deleteIdentity (w : World) (jobId : JobId) : w.Quiet (w.deleteIdentity jobId) := by
  have hkept : ∀ {other identity}, (w.deleteIdentity jobId).identities.get? other = some identity →
      w.identities.get? other = some identity := by
    intro other identity hidentity
    simp only [deleteIdentity, Table.get?_deleteWhere, Option.filter_eq_some_iff] at hidentity
    exact hidentity.1
  refine ⟨⟨le_refl _, fun other identity' hidentity' _ ↦ ?_⟩, fun hdrawn other identity hidentity ↦ ?_,
    rfl, fun _ ↦ id⟩
  · exact ⟨identity', hkept hidentity', rfl, .refl _⟩
  · exact hdrawn other identity (hkept hidentity)

/-- A new identity has a nonce that was not drawn before. -/
theorem quiet_insertIdentity {session workspace pane : String}
    (h : w.insertIdentity jobId session workspace pane = .ok w') : w.Quiet w' := by
  simp only [insertIdentity, bind_eq_ok, orThrow_eq_ok, Except.ok.injEq] at h
  obtain ⟨identities, hinsert, rfl⟩ := h
  refine ⟨⟨Nat.le_succ _, fun other identity' hidentity' hdrawn ↦ ?_⟩,
    fun hdrawn other identity hidentity ↦ ?_, rfl, fun _ ↦ id⟩
  · have hget := Table.get?_insert? hinsert other
    split_ifs at hget
    · obtain rfl := Option.some.inj (hidentity'.symm.trans hget)
      exact absurd (hdrawn w.nextUuid rfl) (lt_irrefl _)
    · exact ⟨identity', hget.symm.trans hidentity', rfl, .refl _⟩
  · have hget := Table.get?_insert? hinsert other
    split_ifs at hget
    · obtain rfl := Option.some.inj (hidentity.symm.trans hget)
      intro nonce hnonce
      obtain rfl := Option.some.inj hnonce
      exact Nat.lt_succ_self _
    · intro nonce hnonce
      have hlt := hdrawn other identity (hget.symm.trans hidentity) nonce hnonce
      exact Nat.lt_succ_of_lt hlt

theorem quiet_setJobRuntime {workspace pane : String} {session : Option String}
    (h : w.setJobRuntime jobId workspace pane session = .ok w') : w.Quiet w' := by
  simp only [setJobRuntime, bind_eq_ok] at h
  obtain ⟨_, -, ⟨_, store⟩, -, h⟩ := h
  have hstore : w.Quiet { w with store := store } := .of_eq rfl rfl rfl fun _ ↦ id
  refine hstore.trans ?_
  split_ifs at h
  · obtain rfl := Except.ok.inj h
    exact .of_eq rfl rfl rfl fun _ ↦ id
  · cases session with
    | none =>
        obtain rfl := Except.ok.inj h
        exact quiet_deleteIdentity _ jobId
    | some session => exact (quiet_deleteIdentity _ jobId).trans (quiet_insertIdentity h)

theorem quiet_markJobRuntimeCleaned (w : World) (jobId : JobId) :
    w.Quiet (w.markJobRuntimeCleaned jobId) := by
  have hstore : w.Quiet { w with store := w.store.markJobRuntimeCleaned jobId w.now } :=
    .of_eq rfl rfl rfl fun _ ↦ id
  unfold markJobRuntimeCleaned
  dsimp only
  split_ifs
  · exact hstore.trans (quiet_deleteIdentity _ jobId)
  · exact hstore

theorem quiet_assignNonce (w : World) (jobId : JobId) : w.Quiet (w.assignNonce jobId) := by
  have hget : ∀ other, (w.assignNonce jobId).identities.get? other =
      (w.identities.get? other).map fun identity ↦
        if other = jobId ∧ identity.generationNonce = none then
          { identity with generationNonce := some w.nextUuid } else identity := by
    intro other
    simp only [assignNonce, Table.get?_updateWhere, decide_eq_true_eq]
  refine ⟨⟨Nat.le_succ _, fun other identity' hidentity' hdrawn ↦ ?_⟩,
    fun hdrawn other identity' hidentity' ↦ ?_, rfl, fun _ ↦ id⟩
  · rw [hget] at hidentity'
    obtain ⟨identity, hidentity, rfl⟩ := Option.map_eq_some_iff.1 hidentity'
    split_ifs at hdrawn ⊢ with hassigned
    · exact absurd (hdrawn w.nextUuid rfl) (lt_irrefl _)
    · exact ⟨identity, hidentity, rfl, .refl _⟩
  · rw [hget] at hidentity'
    obtain ⟨identity, hidentity, rfl⟩ := Option.map_eq_some_iff.1 hidentity'
    intro nonce hnonce
    split_ifs at hnonce
    · obtain rfl := Option.some.inj hnonce
      exact Nat.lt_succ_self _
    · exact Nat.lt_succ_of_lt (hdrawn other identity hidentity nonce hnonce)

theorem quiet_happens (h : Happens w w') : w.Quiet w' := by
  cases h with
  | setJobRuntime h => exact quiet_setJobRuntime h
  | markJobRuntimeCleaned jobId => exact quiet_markJobRuntimeCleaned w jobId
  | assignNonce jobId => exact quiet_assignNonce w jobId
  | purgeLiveSessionReceipts isKept cutoff =>
      refine .of_eq rfl rfl rfl fun receipt hreceipt ↦ ?_
      exact (List.mem_filter.1 hreceipt).1
  | elsewhere store now => exact .of_eq rfl rfl rfl fun _ ↦ id

/-! ### Appending -/

/-- All receipts were appended, and those that were fail closed. -/
structure Sound (w : World) : Prop where
  drawn : w.AllDrawn
  entries : ∀ e ∈ w.appended, e.FailsClosed
  receipts : ∀ receipt ∈ w.receipts, ∃ e ∈ w.appended, e.receipt = receipt

theorem Quiet.sound (h : w.Quiet w') (hw : w.Sound) : w'.Sound where
  drawn := h.allDrawn hw.drawn
  entries e he := by
    rw [h.appended] at he
    exact hw.entries e he
  receipts receipt hreceipt := by
    rw [h.appended]
    exact hw.receipts receipt (h.receipts receipt hreceipt)

theorem sequenceLe_raised (sequence : ℕ) (identity : LiveSessionIdentityRow) :
    SequenceLe identity.maxStateChangeSeq (raised sequence identity).maxStateChangeSeq := by
  intro maximum hmaximum
  simp only [raised, hmaximum]
  refine ⟨_, rfl, ?_⟩
  split_ifs with hlt
  · exact hlt.le
  · exact le_refl _

theorem quiet_raise {sequence : Option (LiveSessionIdentityRow × ℕ)}
    (h : w.raise jobId sequence = .ok w') : w.Quiet w' := by
  cases sequence with
  | none =>
      obtain rfl := Except.ok.inj h
      exact .of_eq rfl rfl rfl fun _ ↦ id
  | some found =>
      simp only [raise, throwIf_bind_eq_ok, Except.ok.injEq] at h
      obtain ⟨-, rfl⟩ := h
      have hget : ∀ {other identity'}, (w.identities.updateKey jobId (raised found.2)).get? other =
          some identity' → ∃ identity, w.identities.get? other = some identity ∧
            identity'.generation = identity.generation ∧
            SequenceLe identity.maxStateChangeSeq identity'.maxStateChangeSeq := by
        intro other identity' hidentity'
        rw [Table.get?_updateKey] at hidentity'
        split_ifs at hidentity'
        · obtain ⟨identity, hidentity, rfl⟩ := Option.map_eq_some_iff.1 hidentity'
          exact ⟨identity, hidentity, rfl, sequenceLe_raised _ identity⟩
        · exact ⟨identity', hidentity', rfl, .refl _⟩
      refine ⟨⟨le_refl _, fun other identity' hidentity' _ ↦ hget hidentity'⟩,
        fun hdrawn other identity' hidentity' ↦ ?_, rfl, fun _ ↦ id⟩
      obtain ⟨identity, hidentity, hsame, -⟩ := hget hidentity'
      have hnonce : identity'.generationNonce = identity.generationNonce :=
        congrArg IdentityGeneration.generationNonce hsame
      intro nonce hsome
      exact hdrawn other identity hidentity nonce (hnonce ▸ hsome)

/-- The append of what an observation has built. -/
theorem appendLiveSessionReceipt_spec {input : ObservationInput}
    {stored : Option LiveSessionIdentityRow} {r : LiveSessionReceipt}
    (hexpected : stored = none → input.expectedIdentity = none) (hw : w.Sound)
    (h : w.appendLiveSessionReceipt (buildLiveSessionReceipt input)
      (if input.identityGenerationChanged then none else stored) stored = .ok (r, w')) :
    w'.Sound ∧ w.Lasts w' := by
  simp only [appendLiveSessionReceipt, bind_eq_ok, Except.ok.injEq, Prod.mk.injEq] at h
  obtain ⟨job, -, w₁, hraise, -, rfl⟩ := h
  have hquiet := quiet_raise hraise
  refine ⟨hquiet.sound ⟨?_, ?_, ?_⟩, Lasts.trans ?_ hquiet.lasts⟩
  · exact hw.drawn
  · intro e he
    rcases List.mem_cons.1 he with rfl | he
    · exact failsClosed_audited hexpected
    · exact hw.entries e he
  · intro receipt hreceipt
    rcases List.mem_append.1 hreceipt with hreceipt | hreceipt
    · obtain ⟨e, he, heq⟩ := hw.receipts receipt hreceipt
      exact ⟨e, List.mem_cons_of_mem _ he, heq⟩
    · refine ⟨_, List.mem_cons_self, ?_⟩
      exact (List.mem_singleton.1 hreceipt).symm
  · exact .of_eq rfl (le_refl _)

end World

/-! ### Observations -/

/-- Whatever the others do, the database stays sound and the identities last. -/
def discipline : Interference World Call.Reply ℕ :=
  .ofRely (fun _ w _ w' ↦ w' = w) World.Sound (fun _ w w' ↦ w.Lasts w') (fun _ w ↦ .refl w)
    fun h h' ↦ h.trans h'

variable {i : ℕ}

theorem safe_ask (c : Call) : Safe discipline i (call c : Program c.Reply) := by
  refine safe_call fun w r w' hw h _ ↦ ?_
  obtain rfl : w' = w := h
  exact ⟨hw, fun _ _ ↦ .refl w'⟩

theorem safe_statement {α : Type} (f : World → α) : Safe discipline i (statement f) :=
  (safe_ask Call.statement).bind fun _ ↦ safe_read f

theorem safe_getJob (jobId : JobId) (message : String) : Safe discipline i (getJob jobId message) := by
  refine (safe_statement _).bind fun row ↦ ?_
  split
  · exact safe_pure _
  · exact safe_throw _

theorem safe_observeLiveSession (bootId : String) (jobId : JobId) :
    Safe discipline i (observeLiveSession bootId jobId) := by
  refine (safe_getJob jobId _).bind fun before ↦ (safe_read _).bind fun startedAt ↦ ?_
  refine (safe_statement _).bind fun storedIdentity ↦ Safe.bind ?_ fun result ↦ ?_
  · refine Safe.ite ((safe_ask _).bind fun r ↦ ?_) (safe_pure _)
    split <;> exact safe_pure _
  refine (safe_getJob jobId _).bind fun after ↦ (safe_statement _).bind fun storedAfter ↦ ?_
  refine (safe_read _).bind fun completedAt ↦ (safe_statement _).bind fun previous ↦ ?_
  refine (safe_ask Call.statement).bind fun _ ↦ safe_transact fun w r w' h hw ↦ ?_
  have hexpected : storedIdentity = none → expectedLiveSessionIdentity before.2 storedIdentity =
      none := by
    rintro rfl
    rfl
  have hspec := World.appendLiveSessionReceipt_spec hexpected hw h
  exact ⟨hspec.1, fun _ _ ↦ hspec.2⟩

theorem obeys : Pool.Obeys surroundings discipline where
  initial := by
    rintro w ⟨hreceipts, happended, hdrawn⟩
    refine ⟨hdrawn, fun e he ↦ ?_, fun receipt hreceipt ↦ ?_⟩
    · rw [happended] at he
      contradiction
    · rw [hreceipts] at hreceipt
      contradiction
  perform h := h
  programs := by
    rintro i p w ⟨bootId, jobId, rfl⟩ -
    exact (safe_observeLiveSession bootId jobId).bind (fun _ ↦ safe_pure _) w
  inv_kill := by
    rintro i w w' rfl hw
    exact hw
  rely_kill := by
    rintro i j w w' - rfl -
    exact .refl _
  inv_environment h hw := (World.quiet_happens h).sound hw
  rely_environment h _ := (World.quiet_happens h).lasts

/-! ### Runs -/

/-- `max_state_change_seq` of a job does not decrease while the generation is unchanged. -/
def World.HighWater (w w' : World) : Prop :=
  ∀ jobId identity identity', w.identities.get? jobId = some identity →
    w'.identities.get? jobId = some identity' → identity'.generation = identity.generation →
      SequenceLe identity.maxStateChangeSeq identity'.maxStateChangeSeq

theorem World.Lasts.highWater {w w' : World} (h : w.Lasts w') (hw : w.AllDrawn) :
    w.HighWater w' := by
  intro jobId identity identity' hidentity hidentity' hsame
  have hnonce : identity'.generationNonce = identity.generationNonce :=
    congrArg IdentityGeneration.generationNonce hsame
  have hdrawn : w.Drawn identity' := by
    intro nonce hsome
    exact hw jobId identity hidentity nonce (hnonce ▸ hsome)
  obtain ⟨row, hrow, -, hle⟩ := h.identities jobId identity' hidentity' hdrawn
  obtain rfl := Option.some.inj (hrow.symm.trans hidentity)
  exact hle

/-- A receipt that proves the stop of a worker: the agent was not found, in answer to a query of
the generation that the job has now. -/
def World.ProvesStop (w : World) (jobId : JobId) (receipt : LiveSessionReceipt) : Prop :=
  receipt.reconciliation.state = .sessionAbsent ∧ receipt.queryStatus = .agentNotFound ∧
    receipt.identityGenerationSha256 = w.currentGeneration jobId ∧
    ∃ e ∈ w.appended, e.receipt = receipt ∧ ∃ used current, e.used = some used ∧
      w.identities.get? jobId = some current ∧ current.generation = used.generation

theorem provesStop_of_assert {w : World} {jobId : JobId} {receipt : LiveSessionReceipt} {u : Unit}
    (hw : w.Sound) (hreceipt : receipt ∈ w.receipts)
    (h : w.assertLiveSessionStopProof jobId receipt = .ok u) : w.ProvesStop jobId receipt := by
  simp only [World.assertLiveSessionStopProof, throwIf_eq_ok, not_or, not_not, ne_eq] at h
  obtain ⟨habsent, hsome, hcurrent⟩ := h
  obtain ⟨e, he, rfl⟩ := hw.receipts receipt hreceipt
  obtain ⟨hstatus, used, runtime, hused, hgeneration⟩ := (hw.entries e he).absent habsent
  refine ⟨habsent, hstatus, hcurrent, e, he, rfl, used, ?_⟩
  rw [hgeneration] at hcurrent
  obtain ⟨job, -, hjob⟩ := Option.bind_eq_some_iff.1 hcurrent.symm
  obtain ⟨row, hrow, heq⟩ := generation_eq_some hjob
  exact ⟨row, hused, hrow, (congrArg Prod.fst heq).symm⟩

/-- In every interleaving of observations with the rest of the system: receipts that were appended
fail closed, a stop is proved only by a receipt of the generation that the job has, and the
highest sequence of a generation does not decrease. -/
theorem live_session_receipts_fail_closed :
    (∀ P, system.Reachable P → (∀ e ∈ P.shared.appended, e.FailsClosed) ∧
      ∀ jobId receipt u, receipt ∈ P.shared.receipts →
        P.shared.assertLiveSessionStopProof jobId receipt = .ok u →
          P.shared.ProvesStop jobId receipt) ∧
    ∀ P events P', system.Reachable P → system.Run P events P' →
      P.shared.HighWater P'.shared := by
  refine ⟨fun P hP ↦ ?_, fun P events P' hP hrun ↦ ?_⟩
  · have hsound : P.shared.Sound := Pool.inv_of_reachable obeys hP
    refine ⟨hsound.entries, fun jobId receipt u hreceipt h ↦ ?_⟩
    exact provesStop_of_assert hsound hreceipt h
  · have hsound : P.shared.Sound := Pool.inv_of_reachable obeys hP
    have hlasts : P.shared.Lasts P'.shared :=
      Pool.relates_of_run obeys World.Lasts.refl World.Lasts.trans (fun h ↦ h) hP hrun
    exact hlasts.highWater hsound.drawn

/-! ### A job with a session -/

namespace Sample

def job : JobRow where
  sourceEventId := "E1"
  jobKey := "job"
  objective := "objective"
  status := .preparing
  availableAt := .ofSeconds 0
  createdAt := .ofSeconds 0
  updatedAt := .ofSeconds 0

def jobs : Table JobId JobRow := (Table.empty.insert? "J1" job).getD .empty

def start : World where
  store := { Store.fresh with db := { Db.fresh with jobs := jobs } }
  agentName := id
  identities := .empty
  receipts := []
  nextUuid := 0
  now := 1000
  appended := []

abbrev Move := Pool.Move World Call.Reply String ℕ

/-- Herdr answers every query in this way. -/
def answer (result : HerdrCommandResult) : (c : Call) → World → Option (c.Reply × World)
  | .statement, w => some ((), w)
  | .get _, w => some (.ok result, w)

theorem toOption_eq_some {α : Type} {x : Except String α} {a : α} :
    x.toOption = some a ↔ x = .ok a := by
  cases x <;> simp [Except.toOption]

def runs : Move := .environment fun w ↦ (w.setJobRuntime "J1" "W1" "P1" (some "S1")).toOption

/-- An observation that nothing comes between; it awaits seven times. -/
def observe (i : ℕ) (result : HerdrCommandResult) : List Move :=
  .start i (fun _ ↦ some (do
    let _ ← observeLiveSession "boot" "J1"
    pure ())) :: (List.replicate 7 [.perform i (answer result), .resume i]).flatten

theorem lawful_observe (i : ℕ) (result : HerdrCommandResult) :
    ∀ move ∈ observe i result, move.Lawful surroundings := by
  intro move hmove
  rcases List.mem_cons.1 hmove with rfl | hmove
  · intro w p hp
    exact ⟨"boot", "J1", (Option.some.inj hp).symm⟩
  · obtain ⟨round, hround, hmove⟩ := List.mem_flatten.1 hmove
    rw [List.eq_of_mem_replicate hround] at hmove
    rcases List.mem_cons.1 hmove with rfl | hmove
    · intro c w r w' hanswer
      cases c with
      | statement =>
          obtain ⟨rfl, rfl⟩ := Prod.mk.inj (Option.some.inj hanswer)
          rfl
      | get agentName =>
          obtain ⟨-, rfl⟩ := Prod.mk.inj (Option.some.inj hanswer)
          rfl
    · obtain rfl := List.mem_singleton.1 hmove
      trivial

theorem lawful_runs : runs.Lawful surroundings := by
  intro w w' h
  have hset : w.setJobRuntime "J1" "W1" "P1" (some "S1") = .ok w' := toOption_eq_some.1 h
  exact .setJobRuntime hset

theorem initial_start : surroundings.initial start := by
  refine ⟨rfl, rfl, fun jobId identity hidentity ↦ ?_⟩
  rw [start, Table.get?_empty] at hidentity
  contradiction

def absent : HerdrCommandResult where
  ok := false
  errorCode := some "agent_not_found"

/-- The agent of a session works, after so many changes of its state. -/
def working (session : String) (sequence : ℕ) : HerdrCommandResult where
  ok := true
  agentStatus := some .working
  agentIdentity := some ⟨some "W1", some "P1", some "J1", session⟩
  stateChangeSeq := some sequence

end Sample

open Sample in
/-- The agent of a job is not found. -/
theorem live_session_receipts_fail_closed_absent :
    ∃ P, system.Reachable P ∧ ∃ receipt ∈ P.shared.receipts, P.shared.ProvesStop "J1" receipt := by
  have hscript : (((runs :: observe 0 absent)).foldlM Pool.Move.apply ⟨start, fun _ ↦ none⟩).map
      (fun P ↦ P.shared.receipts.map fun receipt ↦
        (P.shared.assertLiveSessionStopProof "J1" receipt).toOption) = some [some ()] := by
    decide
  have hlawful : ∀ move ∈ runs :: observe 0 absent, move.Lawful surroundings := by
    intro move hmove
    rcases List.mem_cons.1 hmove with rfl | hmove
    · exact lawful_runs
    · exact lawful_observe 0 absent move hmove
  obtain ⟨P, hP, hreceipts⟩ := Pool.Script.exists_reachable hlawful initial_start hscript
  obtain ⟨receipt, hreceipt, hassert⟩ := List.mem_map.1 (hreceipts ▸ List.mem_singleton_self _)
  exact ⟨P, hP, receipt, hreceipt,
    (live_session_receipts_fail_closed.1 P hP).2 "J1" receipt () hreceipt
      (toOption_eq_some.1 hassert)⟩

open Sample in
/-- The agent of another session has answered, with a sequence that was passed. -/
theorem other_agent_is_identity_conflict :
    ∃ P, system.Reachable P ∧ ∃ e ∈ P.shared.appended,
      e.receipt.stateChangeSeq = some 3 ∧ e.maximum = some 10 ∧
        e.receipt.reconciliation.state ≠ .unknown := by
  have hscript : ((runs :: (observe 0 (working "S1" 10) ++ observe 1 (working "S2" 3))).foldlM
      Pool.Move.apply ⟨start, fun _ ↦ none⟩).map (fun P ↦ P.shared.appended.head?.map fun e ↦
        (e.receipt.stateChangeSeq, e.maximum, e.receipt.reconciliation.state)) =
          some (some (some 3, some 10, .identityConflict)) := by
    decide
  have hlawful : ∀ move ∈ runs :: (observe 0 (working "S1" 10) ++ observe 1 (working "S2" 3)),
      move.Lawful surroundings := by
    intro move hmove
    rcases List.mem_cons.1 hmove with rfl | hmove
    · exact lawful_runs
    · rcases List.mem_append.1 hmove with hmove | hmove
      · exact lawful_observe 0 _ move hmove
      · exact lawful_observe 1 _ move hmove
  obtain ⟨P, hP, hlast⟩ := Pool.Script.exists_reachable hlawful initial_start hscript
  obtain ⟨e, hhead, heq⟩ := Option.map_eq_some_iff.1 hlast
  obtain ⟨hsequence, hmaximum, hstate⟩ :
      e.receipt.stateChangeSeq = some 3 ∧ e.maximum = some 10 ∧
        e.receipt.reconciliation.state = .identityConflict := by
    simpa only [Prod.mk.injEq] using heq
  refine ⟨P, hP, e, List.mem_of_head? hhead, hsequence, hmaximum, ?_⟩
  rw [hstate]
  decide

end Dona.LiveSession
