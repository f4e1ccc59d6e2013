import Dona.ResultPublish.Grants
import Mathlib.Tactic.IntervalCases

/-!
# A token that has ended has ended for good

Neither a wall clock that goes back nor a counter that starts again revives a token. At one time
at most two tokens of a job authorize, the latest and the one that it is derived from.
-/

namespace Dona.ResultPublish

open Capabilities TransitionSystem

/-! ### A session -/

namespace WorkerSession

def session : Text := [115]

def job (status : JobStatus) : Job where
  jobId := "J1"
  objective := []
  status := status
  attemptCount := 1
  workspacePath := []
  resultPath := []
  herdrWorkspaceId := none
  herdrPaneId := none
  agentName := []
  hasResult := false

def moment (time : ℤ) (status : JobStatus) : Moment where
  now := time
  monotonicNow := time
  currentSession _ := some session
  getJob _ := some (job status)

/-- Every result is accepted. -/
def accepts (_ : Job) (_ : ℤ) (_ : Option Forbidden) :
    Except JobResultPublishErrorCode Unit := .ok ()

theorem session_valid : validJobResultPublishSession session = true := by
  have hquote : Json.quote session = [34, 115, 34] := by decide
  have hbytes : Scheduler.byteLength [34, 115, 34] = 3 := by simp [Scheduler.byteLength]
  have hpoints : codePointLength session = 1 := by simp [session, codePointLength]
  have hparts : sessionParts session = none := by decide
  unfold validJobResultPublishSession
  rw [hquote, hbytes, hparts]
  simp only [Option.bind_none, hpoints]
  decide

def issued : Capabilities := (empty.mint (job .dispatching) session (moment 0 .dispatching)).2

theorem issue_empty : empty.issue (job .dispatching) session (moment 0 .dispatching) =
    (.ok ⟨.drawn 0, 1800000000⟩, issued) := by
  rw [issue, if_neg]
  · rfl
  · simp [session_valid, job, moment]

theorem reachable_issued : (publishing id accepts).Reachable ⟨issued, 0⟩ := by
  have hstart : (publishing id accepts).Reachable ⟨.empty, 0⟩ := .of_initial rfl
  refine @Reachable.step _ _ _ _ _ (.issue (job .dispatching) session, moment 0 .dispatching)
    hstart ⟨le_rfl, ?_⟩
  dsimp only [Operation.next]
  rw [issue_empty]
  rfl

def renewed : Capabilities :=
  (issued.renew (some (.drawn 0)) session (moment 1000000000 .running)).2

theorem reachable_renewed : (publishing id accepts).Reachable ⟨renewed, 1000000000⟩ :=
  @Reachable.step _ _ _ _ _ (.renew (some (.drawn 0)) session, moment 1000000000 .running)
    reachable_issued ⟨by decide, rfl⟩

end WorkerSession

section Runs

variable {α : Type} {normalize : Text → Text}
  {validateJobResultPublish : Job → ℤ → Option Forbidden → Except JobResultPublishErrorCode α}
  {w w' w'' : World} {operation : Operation} {m m' : Moment} {is : List (Operation × Moment)}
  {c c' : CapabilityToken}

/-! ### The end of a token -/

/-- The call ends a token: it revokes the grants of the job, draws a new token for it, refuses the
token as expired, or prunes its grant. -/
inductive Ends (w : World) (m : Moment) (w' : World) (c : CapabilityToken) : Operation → Prop
  | revoked {grant : Grant} {jobId : JobId} : w.capabilities.get? c = some grant →
      grant.jobId = jobId → Ends w m w' c (.revokeJob jobId)
  | replaced {grant : Grant} {job : Job} {session : Text} {issued : Issued} :
      w.capabilities.get? c = some grant → grant.jobId = job.jobId →
      (w.capabilities.issue job session m).1 = .ok issued →
      Ends w m w' c (.issue job session)
  | refused {session : Text} :
      (w.capabilities.authorize (some c) session m).1 = .error .capabilityExpired →
      Ends w m w' c (.authorize (some c) session)
  | pruned {grant : Grant} {operation : Operation} : w.capabilities.get? c = some grant →
      w'.capabilities.get? c = none → Ends w m w' c operation

/-- The object for the token is revoked or expired. -/
def Capabilities.Over (s : Capabilities) (c : CapabilityToken) : Prop :=
  ∃ held ∈ s.objects, held.capability = c ∧
    (held.grant.revoked = true ∨ held.grant.expired = true)

theorem Capabilities.Ages.over {s s' : Capabilities} (h : s.Ages s') (hover : s.Over c) :
    s'.Over c := by
  obtain ⟨held, hheld, hcapability, hflags⟩ := hover
  obtain ⟨object, hobject⟩ := List.mem_iff_getElem?.mp hheld
  obtain ⟨held', hheld', hages⟩ := h object held hobject
  exact ⟨held', List.mem_iff_getElem?.mpr ⟨object, hheld'⟩, hages.capability.trans hcapability,
    hflags.imp hages.revoked hages.expired⟩

namespace Capabilities

variable {s : Capabilities} {grant : Grant}

theorem over_pruneExpiredGrants (h : ⟨c, grant, true⟩ ∈ s.objects) :
    (s.pruneExpiredGrants m).Over c ∨ ⟨c, grant, true⟩ ∈ (s.pruneExpiredGrants m).objects := by
  have hmem : prune m ⟨c, grant, true⟩ ∈ (s.pruneExpiredGrants m).objects :=
    List.mem_map_of_mem h
  rcases prune_cases m ⟨c, grant, true⟩ with ⟨hsame, -⟩ | ⟨hgone, -⟩
  · rw [hsame] at hmem
    exact .inr hmem
  · rw [hgone] at hmem
    exact .inl ⟨_, hmem, rfl, .inr rfl⟩

theorem over_revokeGrants {jobId : JobId} (h : ⟨c, grant, true⟩ ∈ s.objects)
    (hjob : grant.jobId = jobId) : (s.revokeGrants jobId).Over c := by
  refine ⟨_, List.mem_map_of_mem h, ?_, .inl ?_⟩
  · rw [if_pos ⟨rfl, hjob⟩]
  · rw [if_pos ⟨rfl, hjob⟩]

theorem over_revokeJob (h : ⟨c, grant, true⟩ ∈ s.objects) :
    (s.revokeJob grant.jobId m).Over c := by
  unfold revokeJob
  dsimp only
  rcases over_pruneExpiredGrants (m := m) h with hover | hmem
  · split_ifs
    · exact (change_revokeGrants (m := m) _ _).ages.over
        ((change_setGeneration (m := m) _ _ _).ages.over hover)
    · exact hover
  · have hany : ((s.pruneExpiredGrants m).grants.any fun held ↦
        held.grant.jobId = grant.jobId) = true := by
      rw [List.any_eq_true]
      exact ⟨_, List.mem_filter.mpr ⟨hmem, rfl⟩, decide_eq_true rfl⟩
    rw [if_pos hany]
    exact over_revokeGrants hmem rfl

theorem over_issue {job : Job} {session : Text} {issued : Issued}
    (h : ⟨c, grant, true⟩ ∈ s.objects) (hjob : grant.jobId = job.jobId)
    (hissued : (s.issue job session m).1 = .ok issued) : (s.issue job session m).2.Over c := by
  unfold issue at hissued ⊢
  split_ifs at hissued ⊢ with hrefused
  have hrevoked : ((s.pruneExpiredGrants m).revokeGrants job.jobId).Over c := by
    rcases over_pruneExpiredGrants (m := m) h with hover | hmem
    · exact (change_revokeGrants (m := m) _ _).ages.over hover
    · exact over_revokeGrants hmem hjob
  exact (ages_of_append rfl).over hrevoked

theorem over_authorize {session : Text}
    (h : (s.authorize (some c) session m).1 = .error .capabilityExpired) :
    (s.authorize (some c) session m).2.Over c := by
  simp only [authorize] at h ⊢
  split at h
  · cases h
  · rename_i grant hget
    split_ifs at h ⊢ with hrevoked hexpired
    · cases h
    · refine ⟨_, List.mem_map_of_mem (mem_of_get? hget), ?_, .inr ?_⟩
      · rw [if_pos ⟨rfl, rfl⟩]
      · rw [if_pos ⟨rfl, rfl⟩]
    · dsimp only at h
      unfold checkJob at h
      split at h
      · cases h
      split_ifs at h <;> cases h

theorem over_of_forgotten {s' : Capabilities} {time : ℤ} (h : ⟨c, grant, true⟩ ∈ s.objects)
    (hages : s.Ages s') (hlawful : s'.Lawful time) (hnone : s'.get? c = none) : s'.Over c := by
  obtain ⟨object, hobject⟩ := List.mem_iff_getElem?.mp h
  obtain ⟨held, hheld, hage⟩ := hages object _ hobject
  have hmem := List.mem_iff_getElem?.mpr ⟨object, hheld⟩
  refine ⟨held, hmem, hage.capability, .inr (hlawful.discarded held hmem ?_)⟩
  by_contra hkept
  rw [Bool.not_eq_false] at hkept
  exact get?_eq_none hnone hmem hkept hage.capability

/-- Nothing is authorized by a token that is over. -/
theorem Over.not_authorized {time : ℤ} (hover : s.Over c) (hlawful : s.Lawful time)
    {session : Text} {job : Job} : (s.authorize (some c) session m).1 ≠ .ok job := by
  intro h
  obtain ⟨-, grant, hauthorized⟩ := authorize_spec h
  obtain ⟨held, hheld, hcapability, hflags⟩ := hover
  obtain rfl := eq_of_capability hlawful.distinct hheld hauthorized.found hcapability
  rcases hflags with hrevoked | hexpired
  · rw [hauthorized.revoked] at hrevoked
    cases hrevoked
  · rw [hauthorized.expired] at hexpired
    cases hexpired

theorem Over.not_asserted {time : ℤ} (hover : s.Over c) (hlawful : s.Lawful time) {object : ℕ}
    {held : Held} (hobject : s.objects[object]? = some held) (hheld : held.capability = c) :
    (s.assertCurrentGrant object m).1 ≠ .ok () := by
  intro h
  obtain ⟨other, hother, hcapability, hflags⟩ := hover
  have hmem := List.mem_iff_getElem?.mpr ⟨object, hobject⟩
  obtain rfl := eq_of_capability hlawful.distinct hother hmem (hcapability.trans hheld.symm)
  simp only [assertCurrentGrant, hobject] at h
  split_ifs at h with hrevoked hexpired
  rcases hflags with hflag | hflag
  · exact hrevoked (.inl hflag)
  · exact hexpired (.inl hflag)

end Capabilities

theorem Ends.over (hends : Ends w m w' c operation)
    (hstep : (publishing normalize validateJobResultPublish).step w (operation, m) w')
    (hlawful : w.capabilities.Lawful w.monotonic) : w'.capabilities.Over c := by
  obtain ⟨hnow, hlater, hchanges⟩ := step_changes hstep hlawful
  have hafter := hstep.2
  cases hends with
  | revoked hget hjob =>
      rw [hafter, ← hjob]
      exact over_revokeJob (mem_of_get? hget)
  | replaced hget hjob hissued =>
      rw [hafter]
      exact over_issue (mem_of_get? hget) hjob hissued
  | refused hrefused =>
      rw [hafter]
      exact over_authorize hrefused
  | pruned hget hnone =>
      exact over_of_forgotten (mem_of_get? hget) hchanges.ages (hchanges.lawful hlater) hnone

/-- A token that was revoked, replaced, refused as expired or pruned ends for good: in no later
state does it authorize, and the validations in flight fail that were made with it, whatever the
wall clock and the counters of the jobs do. -/
theorem capability_ends_for_good
    (hreach : (publishing normalize validateJobResultPublish).Reachable w)
    (hstep : (publishing normalize validateJobResultPublish).step w (operation, m) w')
    (hends : Ends w m w' c operation)
    (hrun : (publishing normalize validateJobResultPublish).Run w' is w'') :
    (∀ session job, (w''.capabilities.authorize (some c) session m').1 ≠ .ok job) ∧
      ∀ object held, w''.capabilities.objects[object]? = some held → held.capability = c →
        (w''.capabilities.assertCurrentGrant object m').1 ≠ .ok () := by
  have hlawful := lawful_of_reachable hreach
  have hlawful' := step_lawful hstep hlawful
  have hlast := lawful_of_reachable ((hreach.step hstep).run hrun)
  have hover := (run_ages hrun hlawful').over (hends.over hstep hlawful)
  exact ⟨fun session job ↦ hover.not_authorized hlast, fun object held hobject hheld ↦
    hover.not_asserted hlast hobject hheld⟩

open WorkerSession in
theorem capability_ends_for_good_revoked :
    ((issued.revokeJob "J1" (moment 5 .running)).authorize (some (.drawn 0)) session
      (moment 6 .running)).1 ≠ .ok (job .running) := by
  have hstep : (publishing id accepts).step ⟨issued, 0⟩ (.revokeJob "J1", moment 5 .running)
      ⟨issued.revokeJob "J1" (moment 5 .running), 5⟩ := ⟨by decide, rfl⟩
  have hheld : issued.get? (.drawn 0) =
      some (newGrant (job .dispatching) session 1 1800000000 (moment 0 .dispatching)) := by decide
  exact (capability_ends_for_good reachable_issued hstep (.revoked hheld rfl) (.nil _)).1 session
    (job .running)

/-! ### The tokens of a job -/

/-- The object of the draw that a token goes back to has its job, session, attempt and pane. -/
theorem exists_root {time : ℤ} {s : Capabilities} (h : s.Lawful time) {held : Held}
    (hheld : held ∈ s.objects) : ∃ first ∈ s.objects,
      first.capability = .drawn held.capability.root ∧
        first.grant.jobId = held.grant.jobId ∧ first.grant.session = held.grant.session ∧
          first.grant.attemptCount = held.grant.attemptCount ∧
            first.grant.paneId = held.grant.paneId := by
  induction hc : held.capability generalizing held with
  | drawn n => exact ⟨held, hheld, hc, rfl, rfl, rfl, rfl⟩
  | renewal previous ih =>
      obtain ⟨before, hbefore, hcapability, hprecedes⟩ := h.successor held hheld previous hc
      obtain ⟨first, hfirst, hroot, hjob, hsession, hattempt, hpane⟩ := ih hbefore hcapability
      exact ⟨first, hfirst, hroot, hjob.trans hprecedes.jobId.symm,
        hsession.trans hprecedes.session.symm, hattempt.trans hprecedes.attemptCount.symm,
        hpane.trans hprecedes.paneId.symm⟩

/-- Whatever authorizes goes back to the latest draw for the job, and has the session of it; while
the job may still be published, it also has the attempt and the pane of the job as it is. -/
theorem authorized_by_latest_draw
    (hreach : (publishing normalize validateJobResultPublish).Reachable w) {session : Text}
    {job : Job} (h : (w.capabilities.authorize (some c) session m).1 = .ok job) :
    ∃ first ∈ w.capabilities.objects, first.capability = .drawn c.root ∧
      first.grant.jobId = job.jobId ∧ first.grant.session = session ∧
      (∀ other ∈ w.capabilities.objects, other.grant.jobId = job.jobId →
        other.capability.root ≤ c.root) ∧
      (terminalReconcile job = false →
        (job.status = .running ∨ job.status = .dispatching) ∧
          job.attemptCount = first.grant.attemptCount ∧ job.herdrPaneId = first.grant.paneId ∧
            m.currentSession job.jobId = some session) := by
  have hlawful := lawful_of_reachable hreach
  obtain ⟨-, grant, hauthorized⟩ := authorize_spec h
  obtain ⟨first, hfirst, hroot, hjob, hsession, hattempt, hpane⟩ :=
    exists_root hlawful hauthorized.found
  refine ⟨first, hfirst, hroot, hjob.trans hauthorized.jobId.symm,
    hsession.trans hauthorized.ownSession, fun other hother hsame ↦ ?_, fun hlive ↦ ?_⟩
  · exact hlawful.latest _ hauthorized.found rfl hauthorized.revoked other hother
      (hsame.trans hauthorized.jobId)
  · obtain ⟨hstatus, hattempt', hpane', hcurrent⟩ := hauthorized.live hlive
    exact ⟨hstatus, hattempt'.trans hattempt.symm, hpane'.trans hpane.symm, hcurrent⟩

open WorkerSession in
theorem authorized_by_latest_draw_issued : ∃ first ∈ issued.objects,
    first.capability = .drawn 0 ∧ first.grant.session = session := by
  obtain ⟨first, hfirst, hcapability, -, hsession, -⟩ := authorized_by_latest_draw
    (m := moment 5 .running) (c := .drawn 0) reachable_issued
    (show (issued.authorize (some (.drawn 0)) session (moment 5 .running)).1 = .ok (job .running)
      by decide)
  exact ⟨first, hfirst, hcapability, hsession⟩

def CapabilityToken.depth : CapabilityToken → ℕ
  | drawn _ => 0
  | renewal previous => previous.depth + 1

/-- Of two tokens of one draw, the deeper one is derived from the other. -/
theorem CapabilityToken.eq_iterate (hroot : c.root = c'.root) (hdepth : c.depth ≤ c'.depth) :
    c' = CapabilityToken.renewal^[c'.depth - c.depth] c := by
  induction c' generalizing c with
  | drawn n =>
      cases c with
      | drawn n' =>
          rw [show n = n' from hroot.symm]
          rfl
      | renewal previous => exact absurd hdepth (Nat.not_succ_le_zero _)
  | renewal previous ih =>
      rcases Nat.lt_or_ge previous.depth c.depth with hlt | hge
      · have hequal : c.depth = previous.depth + 1 := le_antisymm hdepth hlt
        cases c with
        | drawn n => exact absurd hequal (Nat.succ_ne_zero _).symm
        | renewal before =>
            have hsame : before.depth = previous.depth := Nat.succ.inj hequal
            have heq := @ih before hroot hsame.le
            rw [hsame, Nat.sub_self, Function.iterate_zero_apply] at heq
            rw [heq, Nat.sub_self, Function.iterate_zero_apply]
      · rw [depth, Nat.sub_add_comm hge, Function.iterate_succ_apply']
        exact congrArg _ (ih hroot hge)

/-- A token that is derived in some steps ends half of its time later for each of them. -/
theorem deadline_iterate {time : ℤ} {s : Capabilities} (hlawful : s.Lawful time) {held : Held}
    (hheld : held ∈ s.objects) (steps : ℕ) {next : Held} (hnext : next ∈ s.objects)
    (hc : next.capability = CapabilityToken.renewal^[steps] held.capability) :
    held.grant.monotonicDeadline + steps * (jobResultPublishTtl / 2) ≤
      next.grant.monotonicDeadline := by
  induction steps generalizing next with
  | zero =>
      obtain rfl := eq_of_capability hlawful.distinct hnext hheld hc
      simp
  | succ steps ih =>
      rw [Function.iterate_succ_apply'] at hc
      obtain ⟨previous, hprevious, hcapability, hprecedes⟩ :=
        hlawful.successor next hnext _ hc
      have hbefore := ih hprevious hcapability
      have hstep := hprecedes.deadline
      push_cast
      linarith

/-- At one time a job has at most two tokens that authorize, one derived from the other, for the
same session. -/
theorem authorized_tokens_adjacent
    (hreach : (publishing normalize validateJobResultPublish).Reachable w)
    (hclock : w.monotonic ≤ m.monotonicNow) {session session' : Text} {job job' : Job}
    (h : (w.capabilities.authorize (some c) session m).1 = .ok job)
    (h' : (w.capabilities.authorize (some c') session' m).1 = .ok job')
    (hjob : job'.jobId = job.jobId) :
    session' = session ∧ (c' = c ∨ c' = .renewal c ∨ c = .renewal c') := by
  have hlawful := lawful_of_reachable hreach
  obtain ⟨-, grant, hauthorized⟩ := authorize_spec h
  obtain ⟨-, grant', hauthorized'⟩ := authorize_spec h'
  have hsame : grant'.jobId = grant.jobId :=
    hauthorized'.jobId.symm.trans (hjob.trans hauthorized.jobId)
  have hroot : c.root = c'.root := le_antisymm
    (hlawful.latest _ hauthorized'.found rfl hauthorized'.revoked _ hauthorized.found hsame.symm)
    (hlawful.latest _ hauthorized.found rfl hauthorized.revoked _ hauthorized'.found hsame)
  have hsession : session' = session := by
    obtain ⟨first, hfirst, hcapability, -, hown, -⟩ := exists_root hlawful hauthorized.found
    obtain ⟨first', hfirst', hcapability', -, hown', -⟩ :=
      exists_root hlawful hauthorized'.found
    obtain rfl := eq_of_capability hlawful.distinct hfirst' hfirst
      (hcapability'.trans (hcapability.trans (congrArg _ hroot)).symm)
    rw [← hauthorized.ownSession, ← hauthorized'.ownSession, ← hown]
    exact hown'.symm
  -- a token that is derived in two steps begins no sooner than the first one ends
  have hnear : ∀ {a b : CapabilityToken} {g g' : Grant}, ⟨a, g, true⟩ ∈ w.capabilities.objects →
      ⟨b, g', true⟩ ∈ w.capabilities.objects → g.isPast m = false → a.root = b.root →
        a.depth ≤ b.depth → b = a ∨ b = .renewal a := by
    intro a b g g' ha hb hpast hab hdepth
    have hderived := CapabilityToken.eq_iterate hab hdepth
    have hdeadline := deadline_iterate hlawful ha _ hb hderived
    have hlast := hlawful.deadline _ hb
    have hlive : m.monotonicNow < g.monotonicDeadline := by
      by_contra hnot
      rw [Grant.isPast_iff.mpr (.inr (not_lt.mp hnot))] at hpast
      cases hpast
    have hfew : b.depth - a.depth < 2 := by
      have httl := jobResultPublishTtl_eq
      rw [httl] at hdeadline hlast
      dsimp only at hdeadline hlast
      omega
    interval_cases hsteps : b.depth - a.depth
    · exact .inl hderived
    · exact .inr hderived
  refine ⟨hsession, ?_⟩
  rcases le_total c.depth c'.depth with hle | hle
  · rcases hnear hauthorized.found hauthorized'.found hauthorized.past hroot hle with heq | heq
    · exact .inl heq
    · exact .inr (.inl heq)
  · rcases hnear hauthorized'.found hauthorized.found hauthorized'.past hroot.symm hle
      with heq | heq
    · exact .inl heq.symm
    · exact .inr (.inr heq)

open WorkerSession in
theorem authorized_tokens_adjacent_renewed : session = session ∧
    (CapabilityToken.renewal (.drawn 0) = .drawn 0 ∨
      CapabilityToken.renewal (.drawn 0) = .renewal (.drawn 0) ∨
        CapabilityToken.drawn 0 = .renewal (.renewal (.drawn 0))) :=
  authorized_tokens_adjacent (m := moment 1000000001 .running) reachable_renewed (by decide)
    (show (renewed.authorize (some (.drawn 0)) session (moment 1000000001 .running)).1 =
      .ok (job .running) by decide)
    (show (renewed.authorize (some (.renewal (.drawn 0))) session
      (moment 1000000001 .running)).1 = .ok (job .running) by decide) rfl

end Runs

end Dona.ResultPublish
