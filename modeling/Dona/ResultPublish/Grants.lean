import Dona.Library.TransitionSystem
import Dona.ResultPublish.Capabilities
import Mathlib.Data.List.Forall2
import Mathlib.Logic.Relation
import Mathlib.Tactic.Linarith

/-!
# The grants of a job

Renewals leave the token before them valid, and the map of grants forgets the grants that are
past. The tokens of a job form chains; a token is forgotten with all those before it, so that none
is ever derived a second time.
-/

namespace Dona.ResultPublish

open TransitionSystem

/-! ### Objects -/

/-- The draw that a token goes back to. -/
def CapabilityToken.root : CapabilityToken → ℕ
  | drawn n => n
  | renewal previous => previous.root

namespace Held

/-- A call may set the flags of a grant and forget it, and changes nothing else of it. -/
structure Marks (held held' : Held) : Prop where
  capability : held'.capability = held.capability
  kept : held'.kept = true → held.kept = true
  forgotten : held.kept = true → held'.kept = false → held'.grant.expired = true
  grant : held'.grant =
    { held.grant with
      expired := held'.grant.expired
      revoked := held'.grant.revoked }
  expired : held.grant.expired = true → held'.grant.expired = true
  revoked : held.grant.revoked = true → held'.grant.revoked = true

theorem Marks.refl (held : Held) : held.Marks held := by
  refine ⟨rfl, id, fun hkept hforgotten ↦ ?_, rfl, id, id⟩
  rw [hkept] at hforgotten
  cases hforgotten

/-- What a run does to an object. -/
structure Ages (held held' : Held) : Prop where
  capability : held'.capability = held.capability
  expired : held.grant.expired = true → held'.grant.expired = true
  revoked : held.grant.revoked = true → held'.grant.revoked = true

theorem Ages.refl (held : Held) : held.Ages held := ⟨rfl, id, id⟩

theorem Ages.trans {a b c : Held} (h : a.Ages b) (h' : b.Ages c) : a.Ages c :=
  ⟨h'.capability.trans h.capability, fun ha ↦ h'.expired (h.expired ha),
    fun ha ↦ h'.revoked (h.revoked ha)⟩

theorem Marks.ages {held held' : Held} (h : held.Marks held') : held.Ages held' :=
  ⟨h.capability, h.expired, h.revoked⟩

/-- The grants of a token and of its successor. -/
structure Precedes (held next : Held) : Prop where
  jobId : next.grant.jobId = held.grant.jobId
  session : next.grant.session = held.grant.session
  attemptCount : next.grant.attemptCount = held.grant.attemptCount
  paneId : next.grant.paneId = held.grant.paneId
  kept : held.kept = true → next.kept = true
  expiresAt : held.grant.expiresAt ≤ next.grant.expiresAt
  deadline : held.grant.monotonicDeadline + jobResultPublishTtl / 2 ≤ next.grant.monotonicDeadline

theorem Precedes.marks {a a' b b' : Held} (h : a.Precedes b) (ha : a.Marks a') (hb : b.Marks b')
    (hkept : a'.kept = true → b'.kept = true) : a'.Precedes b' := by
  refine ⟨?_, ?_, ?_, ?_, hkept, ?_, ?_⟩
  · rw [ha.grant, hb.grant]
    exact h.jobId
  · rw [ha.grant, hb.grant]
    exact h.session
  · rw [ha.grant, hb.grant]
    exact h.attemptCount
  · rw [ha.grant, hb.grant]
    exact h.paneId
  · rw [ha.grant, hb.grant]
    exact h.expiresAt
  · rw [ha.grant, hb.grant]
    exact h.deadline

/-- A flag of the grant is set. -/
theorem Marks.flag {held held' : Held} (hcapability : held'.capability = held.capability)
    (hkept : held'.kept = held.kept)
    (hgrant : held'.grant = { held.grant with
      expired := held'.grant.expired
      revoked := held'.grant.revoked })
    (hexpired : held.grant.expired = true → held'.grant.expired = true)
    (hrevoked : held.grant.revoked = true → held'.grant.revoked = true) : held.Marks held' := by
  refine ⟨hcapability, fun h ↦ hkept ▸ h, fun h h' ↦ ?_, hgrant, hexpired, hrevoked⟩
  rw [hkept, h] at h'
  cases h'

end Held

theorem Grant.isPast_iff {m : Moment} {grant : Grant} : grant.isPast m = true ↔
    grant.expiresAt ≤ m.now ∨ grant.monotonicDeadline ≤ m.monotonicNow := by
  rw [isPast, decide_eq_true_iff]

/-- A token is past when its successor is. -/
theorem Held.Precedes.isPast {m : Moment} {a b : Held} (h : a.Precedes b)
    (hpast : b.grant.isPast m = true) : a.grant.isPast m = true := by
  rw [Grant.isPast_iff] at *
  have hdeadline := h.deadline
  have httl := jobResultPublishTtl_eq
  rcases hpast with hpast | hpast
  · exact .inl (h.expiresAt.trans hpast)
  · exact .inr (by omega)

/-! ### Steps -/

namespace Capabilities

variable {m : Moment} {s s' : Capabilities} {c : CapabilityToken} {held : Held} {grant : Grant}

def tokens (s : Capabilities) : List CapabilityToken := s.objects.map (·.capability)

/-- All that a call does, one thing after the other. -/
inductive Change (m : Moment) (s s' : Capabilities) : Prop
  | marked : List.Forall₂ (fun held held' ↦ held.Marks held' ∧ held'.kept = held.kept) s.objects
      s'.objects → s'.drawn = s.drawn → Change m s s'
  | pruned : s'.objects = s.objects.map (prune m) → s'.drawn = s.drawn → Change m s s'
  | minted {job : Job} {session : Text} {generation : ℕ} {expiresAt : ℤ} :
      (∀ held ∈ s.objects, held.kept = true → held.grant.jobId = job.jobId →
        held.grant.revoked = true) →
      s'.objects = s.objects ++ [⟨.drawn s.drawn, newGrant job session generation expiresAt m,
        true⟩] →
      s'.drawn = s.drawn + 1 → Change m s s'
  | renewed {c : CapabilityToken} {grant : Grant} {job : Job} {expiresAt : ℤ} :
      ⟨c, grant, true⟩ ∈ s.objects → grant.revoked = false →
      (∀ held ∈ s.objects, held.kept = true → held.capability ≠ .renewal c) →
      grant.monotonicRenewableAt ≤ m.monotonicNow → grant.expiresAt ≤ expiresAt →
      job.jobId = grant.jobId → job.attemptCount = grant.attemptCount →
      job.herdrPaneId = grant.paneId →
      s'.objects = s.objects ++ [⟨.renewal c,
        newGrant job grant.session grant.generation expiresAt m, true⟩] →
      s'.drawn = s.drawn → Change m s s'

/-- Among different tokens, the map holds a grant for a token if there is an object for it. -/
theorem mem_of_get? (h : s.get? c = some grant) : ⟨c, grant, true⟩ ∈ s.objects := by
  obtain ⟨held, hfind, rfl⟩ := Option.map_eq_some_iff.mp h
  have hmem := List.mem_of_find?_eq_some hfind
  have hcapability : held.capability = c := by simpa using List.find?_some hfind
  obtain ⟨hobjects, hkept⟩ := List.mem_filter.mp hmem
  obtain ⟨capability, grant, kept⟩ := held
  obtain rfl : capability = c := hcapability
  obtain rfl : kept = true := hkept
  exact hobjects

theorem get?_eq_none (h : s.get? c = none) (hmem : held ∈ s.objects) (hkept : held.kept = true) :
    held.capability ≠ c := by
  rw [get?, Option.map_eq_none_iff, List.find?_eq_none] at h
  have hnot := h held (List.mem_filter.mpr ⟨hmem, hkept⟩)
  simpa using hnot

/-- Two objects are for two tokens. -/
theorem eq_of_capability (hdistinct : s.tokens.Nodup) {a b : Held} (ha : a ∈ s.objects)
    (hb : b ∈ s.objects) (h : a.capability = b.capability) : a = b :=
  List.inj_on_of_nodup_map hdistinct ha hb h

theorem mem_of_mem_pruned {a : Held} (ha : a ∈ (s.pruneExpiredGrants m).objects)
    (hkept : a.kept = true) : a ∈ s.objects := by
  obtain ⟨b, hb, rfl⟩ := List.mem_map.mp ha
  unfold prune at *
  split_ifs at hkept ⊢ with hpast
  exact hb

theorem forall₂_map {R : Held → Held → Prop} {f : Held → Held} {objects : List Held}
    (h : ∀ held, R held (f held)) : List.Forall₂ R objects (objects.map f) := by
  rw [List.forall₂_map_right_iff]
  exact List.forall₂_same.mpr fun held _ ↦ h held

theorem forall₂_modify {R : Held → Held → Prop} {f : Held → Held} {object : ℕ}
    {objects : List Held} (hrefl : ∀ held, R held held) (h : ∀ held, R held (f held)) :
    List.Forall₂ R objects (objects.modify object f) := by
  induction objects generalizing object with
  | nil => cases object <;> exact .nil
  | cons held objects ih =>
      cases object with
      | zero => exact .cons (h held) (List.forall₂_same.mpr fun held _ ↦ hrefl held)
      | succ object => exact .cons (hrefl held) ih

theorem change_expire (s : Capabilities) (c : CapabilityToken) : Change m s (s.expire c) := by
  refine .marked (forall₂_map fun held ↦ ?_) rfl
  split_ifs
  · exact ⟨.flag rfl rfl rfl (fun _ ↦ rfl) id, rfl⟩
  · exact ⟨.refl held, rfl⟩

theorem change_expireObject (s : Capabilities) (object : ℕ) :
    Change m s (s.expireObject object) :=
  .marked (forall₂_modify (fun held ↦ ⟨.refl held, rfl⟩) fun _ ↦
    ⟨.flag rfl rfl rfl (fun _ ↦ rfl) id, rfl⟩) rfl

theorem change_revokeGrants (s : Capabilities) (jobId : JobId) :
    Change m s (s.revokeGrants jobId) := by
  refine .marked (forall₂_map fun held ↦ ?_) rfl
  split_ifs
  · exact ⟨.flag rfl rfl rfl id fun _ ↦ rfl, rfl⟩
  · exact ⟨.refl held, rfl⟩

theorem change_setGeneration (s : Capabilities) (jobId : JobId) (generation : ℕ) :
    Change m s (s.setGeneration jobId generation) :=
  .marked (List.forall₂_same.mpr fun held _ ↦ ⟨.refl held, rfl⟩) rfl

theorem change_pruneExpiredGrants (s : Capabilities) : Change m s (s.pruneExpiredGrants m) :=
  .pruned rfl rfl

/-- The changes that a call makes. -/
abbrev Changes (m : Moment) : Capabilities → Capabilities → Prop :=
  Relation.ReflTransGen (Change m)

theorem revoked_of_mem_revokeGrants {jobId : JobId} (h : held ∈ (s.revokeGrants jobId).objects)
    (hkept : held.kept = true) (hjob : held.grant.jobId = jobId) : held.grant.revoked = true := by
  obtain ⟨old, hold, rfl⟩ := List.mem_map.mp h
  split_ifs at hkept hjob ⊢ with hrevoked
  · rfl
  · exact absurd ⟨hkept, hjob⟩ hrevoked

theorem changes_mint (job : Job) (session : Text) (s : Capabilities) :
    Changes m s (s.mint job session m).2 := by
  refine .tail (.tail (.single (change_pruneExpiredGrants s))
    (change_revokeGrants _ job.jobId)) ?_
  exact .minted (fun held hheld hkept hjob ↦ revoked_of_mem_revokeGrants hheld hkept hjob) rfl rfl

theorem changes_issue (job : Job) (session : Text) (s : Capabilities) :
    Changes m s (s.issue job session m).2 := by
  unfold issue
  split_ifs
  · exact .refl
  · exact changes_mint job session s

theorem changes_authorize (capability : Option CapabilityToken) (session : Text)
    (s : Capabilities) : Changes m s (s.authorize capability session m).2 := by
  unfold authorize
  split
  · exact .refl
  split
  · exact .refl
  split_ifs
  · exact .refl
  · exact .single (change_expire s _)
  · exact .refl

/-- What an authorization has checked. -/
structure Authorized (m : Moment) (s : Capabilities) (c : CapabilityToken) (session : Text)
    (job : Job) (grant : Grant) : Prop where
  found : ⟨c, grant, true⟩ ∈ s.objects
  revoked : grant.revoked = false
  expired : grant.expired = false
  past : grant.isPast m = false
  jobId : job.jobId = grant.jobId
  ownSession : grant.session = session
  live : terminalReconcile job = false → (job.status = .running ∨ job.status = .dispatching) ∧
    job.attemptCount = grant.attemptCount ∧ job.herdrPaneId = grant.paneId ∧
      m.currentSession job.jobId = some session

theorem checkJob_spec {session : Text} {job : Job} (h : checkJob grant session m = .ok job) :
    job.jobId = grant.jobId ∧ grant.session = session ∧
      (terminalReconcile job = false → (job.status = .running ∨ job.status = .dispatching) ∧
        job.attemptCount = grant.attemptCount ∧ job.herdrPaneId = grant.paneId ∧
          m.currentSession job.jobId = some session) := by
  unfold checkJob at h
  split at h
  · cases h
  split_ifs at h with hjob hsession hterminal hworker hstatus
  · obtain rfl := Except.ok.inj h
    refine ⟨not_not.mp hjob, not_not.mp hsession, fun hlive ↦ ?_⟩
    rw [hterminal] at hlive
    cases hlive
  · obtain rfl := Except.ok.inj h
    refine ⟨not_not.mp hjob, not_not.mp hsession, fun _ ↦ ?_⟩
    simp only [not_or, not_not] at hworker
    refine ⟨?_, hworker.2.1.symm, hworker.2.2.symm, hworker.1⟩
    by_contra hneither
    exact hstatus (not_or.mp hneither)

/-- Only a grant that is held, and neither revoked nor past, authorizes; the grants stay what
they are. -/
theorem authorize_spec {session : Text} {job : Job}
    (h : (s.authorize (some c) session m).1 = .ok job) :
    (s.authorize (some c) session m).2 = s ∧ ∃ grant, s.Authorized m c session job grant := by
  simp only [authorize] at h ⊢
  split at h
  · cases h
  · rename_i grant hget
    split_ifs at h ⊢ with hrevoked hexpired
    obtain ⟨hjob, hsession, hlive⟩ := checkJob_spec h
    rw [not_or, Bool.not_eq_true, Bool.not_eq_true] at hexpired
    exact ⟨rfl, grant, mem_of_get? hget, by simpa using hrevoked, hexpired.1, hexpired.2, hjob,
      hsession, hlive⟩

theorem terminalReconcile_running {job : Job} (h : job.status = .running) :
    terminalReconcile job = false := by
  simp [terminalReconcile, h]

theorem changes_renewFrom {session : Text} {job : Job} (hdistinct : s.tokens.Nodup)
    (hrenewable : ∀ held ∈ s.objects,
      held.grant.monotonicRenewableAt + jobResultPublishTtl / 2 = held.grant.monotonicDeadline)
    (hnone : s.get? (.renewal c) = none) (hjob : s.Authorized m c session job grant)
    (hrunning : job.status = .running) : Changes m s (s.renewFrom c session job m).2 := by
  obtain ⟨-, hattempt, hpane, -⟩ := hjob.live (terminalReconcile_running hrunning)
  have hwindow := hrenewable _ hjob.found
  unfold renewFrom
  dsimp only
  split
  · exact .single (change_pruneExpiredGrants s)
  · rename_i predecessor hget
    have hmem := mem_of_get? hget
    obtain rfl : grant = predecessor := congrArg Held.grant
      (eq_of_capability hdistinct hjob.found (mem_of_mem_pruned hmem rfl) rfl)
    split_ifs with hdue
    · exact .single (change_pruneExpiredGrants s)
    · obtain rfl := hjob.ownSession
      refine .tail (.single (change_pruneExpiredGrants s)) (.renewed hmem hjob.revoked
        (fun held hheld hkept ↦ ?_) (not_lt.mp hdue) ?_ hjob.jobId hattempt hpane rfl rfl)
      · exact get?_eq_none hnone (mem_of_mem_pruned hheld hkept) hkept
      · -- half of the time is left at most, and the whole of it is added
        have httl := jobResultPublishTtl_eq
        have hremaining : max 0 (grant.monotonicDeadline - m.monotonicNow) ≤
            jobResultPublishTtl / 2 := by
          dsimp only at hwindow
          exact max_le (by omega) (by omega)
        have hexpires := le_max_right m.now
          (grant.expiresAt - max 0 (grant.monotonicDeadline - m.monotonicNow))
        omega

theorem changes_renew (capability : Option CapabilityToken) (session : Text)
    (hdistinct : s.tokens.Nodup)
    (hrenewable : ∀ held ∈ s.objects,
      held.grant.monotonicRenewableAt + jobResultPublishTtl / 2 =
        held.grant.monotonicDeadline) : Changes m s (s.renew capability session m).2 := by
  unfold renew
  cases capability with
  | none => exact .refl
  | some c =>
      dsimp only
      split
      · have hchanges := changes_authorize (m := m) (some (.renewal c)) session s
        split
        · rename_i heq
          rwa [heq] at hchanges
        · rename_i heq
          rw [heq] at hchanges
          split_ifs <;> exact hchanges
      · rename_i hnone
        have hchanges := changes_authorize (m := m) (some c) session s
        split
        · rename_i heq
          rwa [heq] at hchanges
        · rename_i job s' heq
          obtain ⟨hsame, grant, hjob⟩ := authorize_spec (congrArg Prod.fst heq)
          rw [heq] at hsame
          obtain rfl : s' = s := hsame
          split_ifs with hrunning
          · exact .refl
          · exact changes_renewFrom hdistinct hrenewable hnone hjob (not_not.mp hrunning)

theorem changes_revokeJob (jobId : JobId) (s : Capabilities) :
    Changes m s (s.revokeJob jobId m) := by
  unfold revokeJob
  dsimp only
  split_ifs
  · exact .tail (.tail (.single (change_pruneExpiredGrants s)) (change_setGeneration _ _ _))
      (change_revokeGrants _ _)
  · exact .single (change_pruneExpiredGrants s)

theorem changes_validate {α : Type} {normalize : Text → Text}
    {validateJobResultPublish : Job → ℤ → Option Forbidden → Except JobResultPublishErrorCode α}
    (capability : Option CapabilityToken) (session : Text) (s : Capabilities) :
    Changes m s (s.validate normalize validateJobResultPublish capability session m).2 := by
  have hchanges := changes_authorize (m := m) capability session s
  unfold validate
  split
  · rename_i heq
    rwa [heq] at hchanges
  · rename_i heq
    rw [heq] at hchanges
    split
    · exact hchanges
    split <;> exact hchanges

theorem changes_assertCurrentGrant (object : ℕ) (s : Capabilities) :
    Changes m s (s.assertCurrentGrant object m).2 := by
  unfold assertCurrentGrant
  split
  · exact .refl
  split_ifs
  · exact .refl
  · exact .single (change_expireObject s object)
  · exact .refl

/-! ### The invariant -/

/-- No token has two objects. A successor ends after the token before it, and the map forgets it
only together with that. The grants of a job that are neither forgotten nor revoked go back to its
latest draw. -/
structure Lawful (time : ℤ) (s : Capabilities) : Prop where
  distinct : s.tokens.Nodup
  drawn : ∀ held ∈ s.objects, held.capability.root < s.drawn
  successor : ∀ held ∈ s.objects, ∀ c, held.capability = .renewal c →
    ∃ previous ∈ s.objects, previous.capability = c ∧ previous.Precedes held
  renewable : ∀ held ∈ s.objects,
    held.grant.monotonicRenewableAt + jobResultPublishTtl / 2 = held.grant.monotonicDeadline
  deadline : ∀ held ∈ s.objects, held.grant.monotonicDeadline ≤ time + jobResultPublishTtl
  discarded : ∀ held ∈ s.objects, held.kept = false → held.grant.expired = true
  latest : ∀ held ∈ s.objects, held.kept = true → held.grant.revoked = false →
    ∀ other ∈ s.objects, other.grant.jobId = held.grant.jobId →
      other.capability.root ≤ held.capability.root

variable {time : ℤ} {R : Held → Held → Prop} {objects objects' : List Held}

theorem lawful_empty (time : ℤ) : empty.Lawful time where
  distinct := List.nodup_nil
  drawn _ h := by cases h
  successor _ h := by cases h
  renewable _ h := by cases h
  deadline _ h := by cases h
  discarded _ h := by cases h
  latest _ h := by cases h

theorem Lawful.later {time' : ℤ} (h : s.Lawful time) (hle : time ≤ time') : s.Lawful time' :=
  { h with deadline := fun held hheld ↦ (h.deadline held hheld).trans (by linarith) }

theorem exists_old (h : List.Forall₂ R objects objects') {held : Held} (hheld : held ∈ objects') :
    ∃ old ∈ objects, R old held := by
  induction h with
  | nil => cases hheld
  | cons hhead _ ih =>
      rcases List.mem_cons.mp hheld with rfl | hrest
      · exact ⟨_, List.mem_cons_self, hhead⟩
      · obtain ⟨old, hold, hR⟩ := ih hrest
        exact ⟨old, List.mem_cons_of_mem _ hold, hR⟩

theorem exists_new (h : List.Forall₂ R objects objects') {held : Held} (hheld : held ∈ objects) :
    ∃ new ∈ objects', R held new := by
  obtain ⟨new, hnew, hR⟩ := exists_old h.flip hheld
  exact ⟨new, hnew, hR⟩

theorem map_capability (h : List.Forall₂ R objects objects')
    (hR : ∀ {a b}, R a b → b.capability = a.capability) :
    objects'.map (·.capability) = objects.map (·.capability) := by
  induction h with
  | nil => rfl
  | cons hhead _ ih => rw [List.map_cons, List.map_cons, ih, hR hhead]

/-- Marks keep the invariant, if a successor is forgotten with the token before it only. -/
theorem Lawful.marked (h : s.Lawful time) (hobjects : List.Forall₂ R s.objects s'.objects)
    (hdrawn : s'.drawn = s.drawn) (hmarks : ∀ {a b}, R a b → a.Marks b)
    (hclosed : ∀ {a a' b b'}, a.Precedes b → R a a' → R b b' → a'.kept = true →
      b'.kept = true) : s'.Lawful time where
  distinct := by
    rw [tokens, map_capability hobjects fun hmark ↦ (hmarks hmark).capability]
    exact h.distinct
  drawn held hheld := by
    obtain ⟨old, hold, hmark⟩ := exists_old hobjects hheld
    rw [(hmarks hmark).capability, hdrawn]
    exact h.drawn old hold
  successor held hheld c hc := by
    obtain ⟨old, hold, hmark⟩ := exists_old hobjects hheld
    rw [(hmarks hmark).capability] at hc
    obtain ⟨previous, hprevious, hcapability, hprecedes⟩ := h.successor old hold c hc
    obtain ⟨new, hnew, hmark'⟩ := exists_new hobjects hprevious
    exact ⟨new, hnew, (hmarks hmark').capability.trans hcapability,
      hprecedes.marks (hmarks hmark') (hmarks hmark) (hclosed hprecedes hmark' hmark)⟩
  renewable held hheld := by
    obtain ⟨old, hold, hmark⟩ := exists_old hobjects hheld
    rw [(hmarks hmark).grant]
    exact h.renewable old hold
  deadline held hheld := by
    obtain ⟨old, hold, hmark⟩ := exists_old hobjects hheld
    rw [(hmarks hmark).grant]
    exact h.deadline old hold
  discarded held hheld hkept := by
    obtain ⟨old, hold, hmark⟩ := exists_old hobjects hheld
    cases hbefore : old.kept with
    | true => exact (hmarks hmark).forgotten hbefore hkept
    | false => exact (hmarks hmark).expired (h.discarded old hold hbefore)
  latest held hheld hkept hrevoked other hother hjob := by
    obtain ⟨old, hold, hmark⟩ := exists_old hobjects hheld
    obtain ⟨old', hold', hmark'⟩ := exists_old hobjects hother
    rw [(hmarks hmark).capability, (hmarks hmark').capability]
    refine h.latest old hold ((hmarks hmark).kept hkept) ?_ old' hold' ?_
    · by_contra hmarked
      rw [Bool.not_eq_false] at hmarked
      rw [(hmarks hmark).revoked hmarked] at hrevoked
      cases hrevoked
    · rw [(hmarks hmark).grant, (hmarks hmark').grant] at hjob
      exact hjob

/-- A pruned object is what it was, or it is past and forgotten. -/
theorem prune_cases (m : Moment) (held : Held) :
    (prune m held = held ∧ (held.kept = true → held.grant.isPast m = false)) ∨
      (prune m held = { held with
        grant := { held.grant with expired := true }
        kept := false } ∧ held.grant.isPast m = true) := by
  unfold prune
  split_ifs with hpast
  · exact .inr ⟨rfl, hpast.2⟩
  · refine .inl ⟨rfl, fun hkept ↦ ?_⟩
    by_contra hnot
    rw [Bool.not_eq_false] at hnot
    exact hpast ⟨hkept, hnot⟩

theorem marks_prune (m : Moment) (held : Held) : held.Marks (prune m held) := by
  rcases prune_cases m held with ⟨hsame, -⟩ | ⟨hgone, -⟩
  · rw [hsame]
    exact .refl held
  · rw [hgone]
    refine ⟨rfl, fun h ↦ (by cases h), fun _ _ ↦ rfl, rfl, fun _ ↦ rfl, id⟩

/-- A successor that is past is forgotten with the token before it. -/
theorem prune_precedes {a b : Held} (h : a.Precedes b) (hkept : (prune m a).kept = true) :
    (prune m b).kept = true := by
  rcases prune_cases m a with ⟨hsame, hlive⟩ | ⟨hgone, -⟩
  · rw [hsame] at hkept
    rcases prune_cases m b with ⟨hsame', -⟩ | ⟨-, hpast⟩
    · rw [hsame']
      exact h.kept hkept
    · rw [h.isPast hpast] at hlive
      exact absurd (hlive hkept) (by decide)
  · rw [hgone] at hkept
    cases hkept

theorem Lawful.pruned (h : s.Lawful time) (hobjects : s'.objects = s.objects.map (prune m))
    (hdrawn : s'.drawn = s.drawn) : s'.Lawful time := by
  have hpruned : List.Forall₂ (fun a b ↦ b = prune m a) s.objects s'.objects := by
    rw [hobjects]
    exact forall₂_map fun held ↦ rfl
  refine h.marked hpruned hdrawn ?_ ?_
  · rintro a b rfl
    exact marks_prune m a
  · rintro a a' b b' hprecedes rfl rfl hkept
    exact prune_precedes hprecedes hkept

/-- A new object keeps the invariant: it is for a new token, with its predecessor if that is
derived, and no token of another draw of the job is valid. -/
theorem Lawful.appended {new : Held} (h : s.Lawful m.monotonicNow)
    (hobjects : s'.objects = s.objects ++ [new]) (hdrawn : s.drawn ≤ s'.drawn)
    (hnew : new.capability ∉ s.tokens) (hroot : new.capability.root < s'.drawn)
    (hprevious : ∀ c, new.capability = .renewal c →
      ∃ previous ∈ s.objects, previous.capability = c ∧ previous.Precedes new)
    (hrenewable : new.grant.monotonicRenewableAt + jobResultPublishTtl / 2 =
      new.grant.monotonicDeadline)
    (hdeadline : new.grant.monotonicDeadline ≤ m.monotonicNow + jobResultPublishTtl)
    (hkept : new.kept = true)
    (hothers : ∀ other ∈ s.objects, other.grant.jobId = new.grant.jobId →
      other.capability.root ≤ new.capability.root ∧
        (other.kept = true → other.grant.revoked = false →
          new.capability.root ≤ other.capability.root)) : s'.Lawful m.monotonicNow where
  distinct := by
    rw [tokens, hobjects, List.map_append, List.map_singleton, List.nodup_append]
    refine ⟨h.distinct, List.nodup_singleton _, fun a ha b hb hab ↦ hnew ?_⟩
    rw [List.mem_singleton.mp hb] at hab
    exact hab ▸ ha
  drawn held hheld := by
    rw [hobjects, List.mem_append, List.mem_singleton] at hheld
    rcases hheld with hold | rfl
    · exact (h.drawn held hold).trans_le hdrawn
    · exact hroot
  successor held hheld c hc := by
    rw [hobjects, List.mem_append, List.mem_singleton] at hheld
    have hfound : ∃ previous ∈ s.objects, previous.capability = c ∧ previous.Precedes held := by
      rcases hheld with hold | rfl
      · exact h.successor held hold c hc
      · exact hprevious c hc
    obtain ⟨previous, hmem, hfound⟩ := hfound
    exact ⟨previous, hobjects ▸ List.mem_append_left _ hmem, hfound⟩
  renewable held hheld := by
    rw [hobjects, List.mem_append, List.mem_singleton] at hheld
    rcases hheld with hold | rfl
    · exact h.renewable held hold
    · exact hrenewable
  deadline held hheld := by
    rw [hobjects, List.mem_append, List.mem_singleton] at hheld
    rcases hheld with hold | rfl
    · exact h.deadline held hold
    · exact hdeadline
  discarded held hheld hforgotten := by
    rw [hobjects, List.mem_append, List.mem_singleton] at hheld
    rcases hheld with hold | rfl
    · exact h.discarded held hold hforgotten
    · rw [hkept] at hforgotten
      cases hforgotten
  latest held hheld hvalid hrevoked other hother hjob := by
    rw [hobjects, List.mem_append, List.mem_singleton] at hheld hother
    rcases hheld with hold | rfl
    · rcases hother with hold' | rfl
      · exact h.latest held hold hvalid hrevoked other hold' hjob
      · exact (hothers held hold hjob.symm).2 hvalid hrevoked
    · rcases hother with hold' | rfl
      · exact (hothers other hold' hjob).1
      · exact le_rfl

theorem root_lt_of_mem (h : s.Lawful time) (hc : c ∈ s.tokens) : c.root < s.drawn := by
  obtain ⟨held, hheld, rfl⟩ := List.mem_map.mp hc
  exact h.drawn held hheld

theorem Change.lawful (hchange : Change m s s') (h : s.Lawful m.monotonicNow) :
    s'.Lawful m.monotonicNow := by
  cases hchange with
  | marked hobjects hdrawn =>
      refine h.marked hobjects hdrawn (fun hmark ↦ hmark.1) ?_
      intro a a' b b' hprecedes ha hb hkept
      rw [hb.2]
      rw [ha.2] at hkept
      exact hprecedes.kept hkept
  | pruned hobjects hdrawn => exact h.pruned hobjects hdrawn
  | @minted job session generation expiresAt hrevoked hobjects hdrawn =>
      refine h.appended hobjects (hdrawn ▸ Nat.le_succ _) ?_ (hdrawn ▸ Nat.lt_succ_self _)
        (fun c hc ↦ by cases hc) ?_ le_rfl rfl fun other hother hjob ↦ ⟨?_, fun hkept hvalid ↦ ?_⟩
      · intro hmem
        exact absurd (root_lt_of_mem h hmem) (lt_irrefl _)
      · have httl := jobResultPublishTtl_eq
        unfold newGrant
        dsimp only
        omega
      · exact (h.drawn other hother).le
      · rw [hrevoked other hother hkept hjob] at hvalid
        cases hvalid
  | @renewed c grant job expiresAt hfound hvalid hnone hdue hexpires hjob hattempt hpane hobjects
      hdrawn =>
      have hwindow := h.renewable _ hfound
      have hprecedes : (⟨c, grant, true⟩ : Held).Precedes ⟨.renewal c,
          newGrant job grant.session grant.generation expiresAt m, true⟩ := by
        refine ⟨hjob, rfl, hattempt, hpane, id, hexpires, ?_⟩
        have httl := jobResultPublishTtl_eq
        unfold newGrant
        dsimp only at hwindow ⊢
        omega
      refine h.appended hobjects hdrawn.ge ?_ (hdrawn.symm ▸ h.drawn ⟨c, grant, true⟩ hfound)
        (fun c' hc ↦ ?_) ?_ le_rfl rfl fun other hother hother' ↦ ?_
      · intro hmem
        obtain ⟨held, hheld, hcapability⟩ := List.mem_map.mp hmem
        obtain ⟨previous, hprevious, heq, hbefore⟩ := h.successor held hheld c hcapability
        -- the token before it is held, so that its successor would be held too
        obtain rfl := eq_of_capability h.distinct hprevious hfound heq
        exact hnone held hheld (hbefore.kept rfl) hcapability
      · obtain rfl := CapabilityToken.renewal.inj hc
        exact ⟨_, hfound, rfl, hprecedes⟩
      · have httl := jobResultPublishTtl_eq
        unfold newGrant
        dsimp only
        omega
      · have hsame : other.grant.jobId = grant.jobId := hother'.trans hjob
        exact ⟨h.latest _ hfound rfl hvalid other hother hsame, fun hkept hother' ↦
          h.latest other hother hkept hother' ⟨c, grant, true⟩ hfound hsame.symm⟩

/-- The objects that there are stay, and age. -/
def Ages (s s' : Capabilities) : Prop :=
  ∀ (object : ℕ) (held : Held), s.objects[object]? = some held →
    ∃ held', s'.objects[object]? = some held' ∧ held.Ages held'

theorem Ages.refl (s : Capabilities) : s.Ages s := fun _ held h ↦ ⟨held, h, .refl held⟩

theorem Ages.trans {a b c : Capabilities} (h : a.Ages b) (h' : b.Ages c) : a.Ages c := by
  intro object held hheld
  obtain ⟨middle, hmiddle, hages⟩ := h object held hheld
  obtain ⟨last, hlast, hages'⟩ := h' object middle hmiddle
  exact ⟨last, hlast, hages.trans hages'⟩

theorem ages_of_forall₂ (h : List.Forall₂ R s.objects s'.objects)
    (hR : ∀ {a b}, R a b → a.Marks b) : s.Ages s' := by
  intro object held hheld
  obtain ⟨hlt, rfl⟩ := List.getElem?_eq_some_iff.mp hheld
  have hlt' : object < s'.objects.length := h.length_eq ▸ hlt
  exact ⟨s'.objects[object], List.getElem?_eq_getElem hlt', (hR (h.get hlt hlt')).ages⟩

theorem ages_of_append {new : Held} (h : s'.objects = s.objects ++ [new]) : s.Ages s' := by
  intro object held hheld
  refine ⟨held, ?_, .refl held⟩
  obtain ⟨hlt, -⟩ := List.getElem?_eq_some_iff.mp hheld
  rw [h, List.getElem?_append_left hlt, hheld]

theorem Change.ages (hchange : Change m s s') : s.Ages s' := by
  cases hchange with
  | marked hobjects _ => exact ages_of_forall₂ hobjects fun hmark ↦ hmark.1
  | pruned hobjects _ =>
      refine ages_of_forall₂ (R := fun a b ↦ b = prune m a) ?_ ?_
      · rw [hobjects]
        exact forall₂_map fun held ↦ rfl
      · rintro a b rfl
        exact marks_prune m a
  | minted _ hobjects _ => exact ages_of_append hobjects
  | renewed _ _ _ _ _ _ _ _ hobjects _ => exact ages_of_append hobjects

theorem Changes.lawful (h : Changes m s s') (hs : s.Lawful m.monotonicNow) :
    s'.Lawful m.monotonicNow := by
  induction h with
  | refl => exact hs
  | tail _ hchange ih => exact hchange.lawful ih

theorem Changes.ages (h : Changes m s s') : s.Ages s' := by
  induction h with
  | refl => exact .refl s
  | tail _ hchange ih => exact ih.trans hchange.ages

end Capabilities

/-! ### Runs -/

inductive Operation
  | issue (job : Job) (session : Text)
  | renew (capability : Option CapabilityToken) (session : Text)
  | revokeJob (jobId : JobId)
  | authorize (capability : Option CapabilityToken) (session : Text)
  | validate (capability : Option CapabilityToken) (session : Text)
  | assertCurrentGrant (object : ℕ)

open Capabilities

section Runs

variable {α : Type} (normalize : Text → Text)
  (validateJobResultPublish : Job → ℤ → Option Forbidden → Except JobResultPublishErrorCode α)

/-- The grants after a call. -/
def Operation.next (operation : Operation) (m : Moment) (s : Capabilities) : Capabilities :=
  match operation with
  | issue job session => (s.issue job session m).2
  | renew capability session => (s.renew capability session m).2
  | revokeJob jobId => s.revokeJob jobId m
  | authorize capability session => (s.authorize capability session m).2
  | validate capability session =>
      (s.validate normalize validateJobResultPublish capability session m).2
  | assertCurrentGrant object => (s.assertCurrentGrant object m).2

/-- The grants, and what the monotonic clock showed last. -/
structure World where
  capabilities : Capabilities
  monotonic : ℤ

/-- Calls in any order, with any rows, sessions and wall clocks; the monotonic clock does not go
back. -/
def publishing : TransitionSystem World (Operation × Moment) where
  initial w := w.capabilities = .empty
  step w i w' := w.monotonic ≤ i.2.monotonicNow ∧
    w' = ⟨i.1.next normalize validateJobResultPublish i.2 w.capabilities, i.2.monotonicNow⟩

variable {normalize} {validateJobResultPublish} {w w' w'' : World} {operation : Operation}
  {m m' : Moment} {is : List (Operation × Moment)} {c c' : CapabilityToken}

theorem Operation.changes {s : Capabilities} (h : s.Lawful m.monotonicNow) :
    Changes m s (operation.next normalize validateJobResultPublish m s) := by
  cases operation with
  | issue job session => exact changes_issue job session s
  | renew capability session => exact changes_renew capability session h.distinct h.renewable
  | revokeJob jobId => exact changes_revokeJob jobId s
  | authorize capability session => exact changes_authorize capability session s
  | validate capability session => exact changes_validate capability session s
  | assertCurrentGrant object => exact changes_assertCurrentGrant object s

theorem step_changes (h : (publishing normalize validateJobResultPublish).step w (operation, m) w')
    (hlawful : w.capabilities.Lawful w.monotonic) :
    w'.monotonic = m.monotonicNow ∧ w.capabilities.Lawful m.monotonicNow ∧
      Changes m w.capabilities w'.capabilities := by
  obtain ⟨hle, rfl⟩ := h
  have hnow := hlawful.later hle
  exact ⟨rfl, hnow, operation.changes hnow⟩

theorem step_lawful {i : Operation × Moment}
    (h : (publishing normalize validateJobResultPublish).step w i w')
    (hlawful : w.capabilities.Lawful w.monotonic) : w'.capabilities.Lawful w'.monotonic := by
  obtain ⟨hnow, hlater, hchanges⟩ := step_changes h hlawful
  rw [hnow]
  exact hchanges.lawful hlater

theorem lawful_of_reachable (h : (publishing normalize validateJobResultPublish).Reachable w) :
    w.capabilities.Lawful w.monotonic := by
  refine h.invariant (fun hinit ↦ ?_) fun hstep ↦ step_lawful hstep
  rw [show _ = Capabilities.empty from hinit]
  exact lawful_empty _

theorem run_ages (hrun : (publishing normalize validateJobResultPublish).Run w is w')
    (h : w.capabilities.Lawful w.monotonic) : w.capabilities.Ages w'.capabilities :=
  hrun.relates (r := fun w w' ↦ w.capabilities.Ages w'.capabilities)
    (I := fun w ↦ w.capabilities.Lawful w.monotonic) (fun _ ↦ .refl _) (fun h h' ↦ h.trans h')
    (fun hstep ↦ step_lawful hstep) (fun hstep hlawful ↦ (step_changes hstep hlawful).2.2.ages) h

end Runs

end Dona.ResultPublish
