import Dona.SlackAdapter.ReminderConnector
import Mathlib.Data.List.Pairwise

/-!
# Tickets and slots of the reminder connector

However the calls of the connector interleave, a post has a ticket of its own preflight, which
Slack consented to and which ended less than a second before. When timers are timely, a channel
has at most one live ticket, and two posts to it are a second apart.
-/

namespace Dona.ReminderConnector

open Coroutine World

variable {setting : Setting} {timely : Prop} {s t w : World} {i j : ℕ}

/-! ### Tickets -/

/-- Slack answered so between two times. -/
def Answered (observations : List (ℤ × Observation)) (first last : ℤ) (observation : Observation) :
    Prop :=
  ∃ time, (time, observation) ∈ observations ∧ first ≤ time ∧ time ≤ last

/-- Answers that let the owner post to the target. -/
structure Consent (setting : Setting) (answered : Observation → Prop)
    (command : SlackReminderCommand) (channel : SlackChannel) (owner : SlackUser) : Prop where
  sawChannel : answered (.channel command.target.workspaceId command.target.channelId channel)
  sawOwner : answered (.user command.target.workspaceId command.ownerId owner)
  notBarred : owner.isBarred = false
  allowed : targetAllowed command channel = true
  ownerMember : channel.isIm = false → answered
    (.member command.target.workspaceId command.target.channelId command.ownerId true)
  botMember : channel.isMpim = true → ∃ connection botUserId,
    setting.registry command.target.workspaceId = some connection ∧
      connection.botUserId = some botUserId ∧ answered
        (.member command.target.workspaceId command.target.channelId botUserId true)

/-- The preflight found the owner allowed to post, by answers that it got while it ran. -/
def Preflight.Consented (setting : Setting) (observations : List (ℤ × Observation))
    (preflight : Preflight) : Prop :=
  ∃ channel owner, Consent setting
    (Answered observations preflight.startedAt preflight.finishedAt) preflight.command channel owner

/-- The ticket that the preflight left for its command. -/
structure Prepared.Of (setting : Setting) (prepared : Prepared) (preflight : Preflight) :
    Prop where
  command : preflight.command = prepared.serialized
  ticketExpiresAt : prepared.ticketExpiresAt = preflight.finishedAt + 1000
  authorizationExpiresAt :
    prepared.authorizationExpiresAt = setting.parseDate prepared.serialized.expiresAt
  misfireAt : prepared.misfireAt = setting.parseDate prepared.serialized.misfireAt
  workspace : (setting.registry prepared.serialized.target.workspaceId).isSome

/-- The post was made with the ticket of the preflight, while the dates of the command allowed
it. -/
structure Post.Covered (setting : Setting) (post : Post) (preflight : Preflight) : Prop where
  command : preflight.command = post.command
  after : preflight.finishedAt ≤ post.startedAt
  within : post.startedAt < preflight.finishedAt + 1000
  authorized : floorSecond post.startedAt < setting.parseDate post.command.expiresAt
  timely : floorSecond post.startedAt ≤ setting.parseDate post.command.misfireAt

structure World.Sound (setting : Setting) (w : World) : Prop where
  preflights : ∀ preflight ∈ w.preflights, preflight.finishedAt ≤ w.now ∧
    preflight.Consented setting w.observations
  prepared : ∀ outboxId prepared, w.prepared outboxId = some prepared →
    prepared.serialized.outboxId = outboxId ∧
      (∃ preflight, w.preflights[prepared.ticket]? = some preflight ∧
        prepared.Of setting preflight) ∧
      ∀ post ∈ w.posts, post.ticket ≠ prepared.ticket
  posts : ∀ post ∈ w.posts, ∃ preflight, w.preflights[post.ticket]? = some preflight ∧
    post.Covered setting preflight
  distinct : w.posts.Pairwise fun a b ↦ a.ticket ≠ b.ticket

/-! ### Slots -/

/-- The time is past, or the slot of the channel is not free before it. -/
def World.Settled (w : World) (key : String) (time : ℤ) : Prop :=
  time ≤ w.now ∨ ∃ next, w.nextPostAt key = some next ∧ time ≤ next

def Prepared.key (prepared : Prepared) : String := prepared.serialized.target.key

/-- Of two ticket timers of a channel one is past, and two of one outbox row as well cannot let
each other's ticket go. -/
def World.Apart (w : World) (a b : Timer) : Prop :=
  ∀ o o' key e e', a.cleanup = .ticket o key e → b.cleanup = .ticket o' key e' →
    (e ≤ w.now ∨ e' ≤ w.now) ∧ (o = o' → w.Settled key e ∧ w.Settled key e')

/-- What holds of the maps and the timers when timers are timely. -/
structure World.Spaced (w : World) : Prop where
  due : ∀ timer ∈ w.timers, w.now ≤ timer.due
  slots : ∀ timer ∈ w.timers, ∀ key next, timer.cleanup = .slot key next → next ≤ timer.due
  tickets : ∀ timer ∈ w.timers, ∀ o key e, timer.cleanup = .ticket o key e →
    timer.due ≤ e ∧ e ≤ w.now + 1000 ∧ (w.Settled key e ∨ w.channelTicket key = some o)
  apart : w.timers.Pairwise w.Apart
  prepared : ∀ o prepared, w.prepared o = some prepared → ∃ timer ∈ w.timers,
    timer.cleanup = .ticket o prepared.key prepared.ticketExpiresAt
  flights : ∀ key flight, w.authorizationInFlight key = some flight →
    flight.startedAt ≤ w.now ∧ w.Settled key (flight.startedAt + 1000) ∧
      ∀ timer ∈ w.timers, ∀ o e, timer.cleanup = .ticket o key e → e ≤ flight.startedAt
  posts : ∀ post ∈ w.posts, w.Settled post.command.target.key (post.startedAt + 1000) ∧
    (w.now < post.startedAt + 1000 →
      w.authorizationInFlight post.command.target.key = none ∧
        ∀ o prepared, w.prepared o = some prepared → prepared.key = post.command.target.key →
          prepared.ticketExpiresAt ≤ w.now)
  distances : w.posts.Pairwise fun a b ↦ a.command.target.key = b.command.target.key →
    a.startedAt + 1000 ≤ b.startedAt

theorem World.Apart.symm {a b : Timer} (h : w.Apart a b) : w.Apart b a := by
  intro o o' key e e' hb ha
  obtain ⟨hpast, hsame⟩ := h o' o key e' e ha hb
  exact ⟨hpast.symm, fun ho ↦ (hsame ho.symm).symm⟩

instance : Std.Symm w.Apart := ⟨fun _ _ h ↦ h.symm⟩

theorem World.Settled.of_now_le {key : String} {time : ℤ} (h : s.Settled key time)
    (hnow : s.now ≤ t.now) (hslot : t.nextPostAt = s.nextPostAt) : t.Settled key time := by
  rcases h with hpast | hnext
  · exact .inl (hpast.trans hnow)
  · rw [← hslot] at hnext
    exact .inr hnext

/-- A timer that takes no ticket away. -/
structure Timer.IsPlain (timer : Timer) (now : ℤ) : Prop where
  due : now ≤ timer.due
  slot : ∀ key next, timer.cleanup = .slot key next → next ≤ timer.due
  ticket : ∀ o key e, timer.cleanup ≠ .ticket o key e

/-- A step that gives out no ticket, starts no authorization and frees no slot too early. -/
structure Eases (s t : World) : Prop where
  now : t.now = s.now
  settled : ∀ key time, s.Settled key time → t.Settled key time ∨
    ((s.authorizationInFlight key).isSome ∧ t.authorizationInFlight key = none)
  flights : ∀ key flight, t.authorizationInFlight key = some flight →
    s.authorizationInFlight key = some flight
  timers : ∀ timer ∈ t.timers, timer ∈ s.timers ∨ timer.IsPlain s.now
  apart : s.timers.Pairwise s.Apart → t.timers.Pairwise s.Apart
  tickets : ∀ key o, s.channelTicket key = some o → t.channelTicket key = some o ∨
    (s.timers.Pairwise s.Apart → ∀ timer ∈ t.timers, ∀ e, timer.cleanup = .ticket o key e →
      s.Settled key e ∨ t.Settled key e)
  prepared : ∀ o prepared, t.prepared o = some prepared → s.prepared o = some prepared ∧
    ∀ timer ∈ s.timers, timer.cleanup = .ticket o prepared.key prepared.ticketExpiresAt →
      ∃ timer' ∈ t.timers, timer'.cleanup = timer.cleanup
  posts : t.posts = s.posts

namespace Eases

/-- Every time that matters to a channel is settled after the step. -/
theorem settled_ticket (h : Eases s t) (hs : s.Spaced) {key o : String} {e : ℤ} {timer : Timer}
    (htimer : timer ∈ s.timers) (hcleanup : timer.cleanup = .ticket o key e)
    (hsettled : s.Settled key e) : t.Settled key e := by
  rcases h.settled key e hsettled with hkept | ⟨hflight, -⟩
  · exact hkept
  · obtain ⟨flight, hflight⟩ := Option.isSome_iff_exists.mp hflight
    obtain ⟨hstarted, -, hpast⟩ := hs.flights key flight hflight
    refine .inl ?_
    rw [h.now]
    exact (hpast timer htimer o e hcleanup).trans hstarted

theorem spaced (h : Eases s t) (hs : s.Spaced) : t.Spaced where
  due timer htimer := by
    rw [h.now]
    exact (h.timers timer htimer).elim (hs.due timer) fun hplain ↦ hplain.due
  slots timer htimer := (h.timers timer htimer).elim (hs.slots timer) fun hplain ↦ hplain.slot
  tickets timer htimer o key e hcleanup := by
    rcases h.timers timer htimer with hold | hplain
    · obtain ⟨hdue, hnear, hcover⟩ := hs.tickets timer hold o key e hcleanup
      refine ⟨hdue, by rwa [h.now], ?_⟩
      rcases hcover with hsettled | hticket
      · exact .inl (h.settled_ticket hs hold hcleanup hsettled)
      · rcases h.tickets key o hticket with hkept | hcleared
        · exact .inr hkept
        · rcases hcleared hs.apart timer htimer e hcleanup with hsettled | hsettled
          · exact .inl (h.settled_ticket hs hold hcleanup hsettled)
          · exact .inl hsettled
    · exact absurd hcleanup (hplain.ticket o key e)
  apart := by
    refine (h.apart hs.apart).imp_of_mem fun {a b} ha hb hab o o' key e e' hca hcb ↦ ?_
    rcases h.timers a ha with hold | hplain
    · rcases h.timers b hb with hold' | hplain'
      · obtain ⟨hpast, hsame⟩ := hab o o' key e e' hca hcb
        rw [h.now]
        refine ⟨hpast, fun ho ↦ ?_⟩
        exact ⟨h.settled_ticket hs hold hca (hsame ho).1,
          h.settled_ticket hs hold' hcb (hsame ho).2⟩
      · exact absurd hcb (hplain'.ticket o' key e')
    · exact absurd hca (hplain.ticket o key e)
  prepared o prepared hprepared := by
    obtain ⟨hold, hkept⟩ := h.prepared o prepared hprepared
    obtain ⟨timer, htimer, hcleanup⟩ := hs.prepared o prepared hold
    obtain ⟨timer', htimer', hsame⟩ := hkept timer htimer hcleanup
    exact ⟨timer', htimer', hsame.trans hcleanup⟩
  flights key flight hflight := by
    obtain ⟨hstarted, hsettled, hpast⟩ := hs.flights key flight (h.flights key flight hflight)
    rw [h.now]
    refine ⟨hstarted, ?_, fun timer htimer o e hcleanup ↦ ?_⟩
    · rcases h.settled _ _ hsettled with hkept | ⟨-, hended⟩
      · exact hkept
      · rw [hended] at hflight
        cases hflight
    · rcases h.timers timer htimer with hold | hplain
      · exact hpast timer hold o e hcleanup
      · exact absurd hcleanup (hplain.ticket o key e)
  posts post hpost := by
    rw [h.posts] at hpost
    obtain ⟨hsettled, hrecent⟩ := hs.posts post hpost
    have hnone : s.now < post.startedAt + 1000 →
        s.authorizationInFlight post.command.target.key = none := fun hnow ↦ (hrecent hnow).1
    refine ⟨?_, fun hnow ↦ ⟨?_, fun o prepared hprepared hkey ↦ ?_⟩⟩
    · rcases h.settled _ _ hsettled with hkept | ⟨hflight, -⟩
      · exact hkept
      · refine .inl ?_
        rw [h.now]
        by_contra hnot
        rw [hnone (not_le.mp hnot)] at hflight
        cases hflight
    · rw [h.now] at hnow
      refine Option.eq_none_iff_forall_ne_some.mpr fun flight hflight ↦ ?_
      have hold := h.flights _ flight hflight
      rw [hnone hnow] at hold
      cases hold
    · rw [h.now] at hnow ⊢
      exact (hrecent hnow).2 o prepared (h.prepared o prepared hprepared).1 hkey
  distances := by
    rw [h.posts]
    exact hs.distances

end Eases

/-! ### Steps of the maps -/

/-- A step that leaves everything alone that the tickets depend on. -/
structure SameMaps (s t : World) : Prop where
  now : t.now = s.now
  slots : t.nextPostAt = s.nextPostAt
  flights : t.authorizationInFlight = s.authorizationInFlight
  tickets : t.channelTicket = s.channelTicket
  prepared : t.prepared = s.prepared
  timers : t.timers = s.timers
  posts : t.posts = s.posts

theorem SameMaps.eases (h : SameMaps s t) : Eases s t where
  now := h.now
  settled key time hsettled := .inl (hsettled.of_now_le h.now.ge h.slots)
  flights key flight hflight := by rwa [h.flights] at hflight
  timers timer htimer := by
    rw [h.timers] at htimer
    exact .inl htimer
  apart hapart := by rwa [h.timers]
  tickets key o hticket := by
    rw [h.tickets]
    exact .inl hticket
  prepared o prepared hprepared := by
    rw [h.prepared] at hprepared
    refine ⟨hprepared, fun timer htimer _ ↦ ⟨timer, ?_, rfl⟩⟩
    rwa [h.timers]
  posts := h.posts

/-- A timer that takes no ticket away may be set at any time. -/
theorem apart_append {timer : Timer} (hplain : timer.IsPlain w.now)
    (h : w.timers.Pairwise w.Apart) : (w.timers ++ [timer]).Pairwise w.Apart := by
  rw [List.pairwise_append]
  refine ⟨h, List.pairwise_singleton _ _, fun a _ b hb o o' key e e' _ hcb ↦ ?_⟩
  obtain rfl := List.mem_singleton.mp hb
  exact absurd hcb (hplain.ticket o' key e')

theorem isPlain_slot (now : ℤ) (key : String) (next : ℤ) :
    Timer.IsPlain ⟨max now next, .slot key next⟩ now where
  due := le_max_left _ _
  slot key' next' h := by
    cases h
    exact le_max_right _ _
  ticket o key' e h := by cases h

theorem isPlain_blocked (now : ℤ) (key : String × Method) (deadline : ℤ) :
    Timer.IsPlain ⟨max now deadline, .blocked key deadline⟩ now where
  due := le_max_left _ _
  slot key' next' h := by cases h
  ticket o key' e h := by cases h

/-- A slot that is put off. -/
theorem eases_setSlot {key : String} {next : ℤ}
    (h : ∀ time, w.Settled key time → time ≤ w.now ∨ time ≤ next) :
    Eases w (w.setSlot key next) where
  now := rfl
  settled key' time hsettled := by
    refine .inl ?_
    by_cases hkey : key' = key
    · subst hkey
      rcases h time hsettled with hpast | hnext
      · exact .inl hpast
      · exact .inr ⟨next, Function.update_self _ _ _, hnext⟩
    · rcases hsettled with hpast | ⟨next', hslot, hnext⟩
      · exact .inl hpast
      · exact .inr ⟨next', (Function.update_of_ne hkey _ _).trans hslot, hnext⟩
  flights key flight hflight := hflight
  timers timer htimer := by
    rcases List.mem_append.mp htimer with hold | hnew
    · exact .inl hold
    · obtain rfl := List.mem_singleton.mp hnew
      exact .inr (isPlain_slot w.now key next)
  apart := apart_append (isPlain_slot w.now key next)
  tickets key o hticket := .inl hticket
  prepared o prepared hprepared :=
    ⟨hprepared, fun timer htimer _ ↦ ⟨timer, List.mem_append_left _ htimer, rfl⟩⟩
  posts := rfl

theorem settled_le_raised {key : String} {time next : ℤ} (h : w.Settled key time) :
    time ≤ w.now ∨ time ≤ max ((w.nextPostAt key).getD 0) next := by
  rcases h with hpast | ⟨slot, hslot, hle⟩
  · exact .inl hpast
  · rw [hslot]
    exact .inr (hle.trans (le_max_left _ _))

theorem eases_raiseSlot (key : String) (next : ℤ) : Eases w (w.raiseSlot key next) :=
  eases_setSlot fun _ ↦ settled_le_raised

theorem eases_endFlight (key : String) : Eases w (w.endFlight key) where
  now := rfl
  settled _ _ hsettled := .inl hsettled
  flights key' flight hflight := by
    simp only [endFlight] at hflight
    by_cases hkey : key' = key
    · subst hkey
      rw [Function.update_self] at hflight
      cases hflight
    · rwa [Function.update_of_ne hkey] at hflight
  timers _ htimer := .inl htimer
  apart := id
  tickets _ _ hticket := .inl hticket
  prepared _ _ hprepared := ⟨hprepared, fun timer htimer _ ↦ ⟨timer, htimer, rfl⟩⟩
  posts := rfl

theorem eases_dropPrepared (outboxId : String) : Eases w (w.dropPrepared outboxId) where
  now := rfl
  settled _ _ hsettled := .inl hsettled
  flights _ _ hflight := hflight
  timers _ htimer := .inl htimer
  apart := id
  tickets _ _ hticket := .inl hticket
  prepared o prepared hprepared := by
    simp only [dropPrepared] at hprepared
    by_cases ho : o = outboxId
    · subst ho
      rw [Function.update_self] at hprepared
      cases hprepared
    · rw [Function.update_of_ne ho] at hprepared
      exact ⟨hprepared, fun timer htimer _ ↦ ⟨timer, htimer, rfl⟩⟩
  posts := rfl

theorem clearSlot_nextPostAt {key key' : String} {slot : Option ℤ} (hkey : key' ≠ key) :
    (w.clearSlot key slot).nextPostAt key' = w.nextPostAt key' := by
  unfold clearSlot
  split_ifs
  · exact Function.update_of_ne hkey _ _
  · rfl

/-- What is settled stays settled when a slot is cleared that is past. -/
theorem settled_clearSlot {key key' : String} {next time : ℤ} (hpast : next ≤ w.now)
    (h : w.Settled key' time) : (w.clearSlot key (some next)).Settled key' time := by
  unfold clearSlot
  split_ifs with hslot
  · rcases h with htime | ⟨next', hnext', hle⟩
    · exact .inl htime
    · by_cases hkey : key' = key
      · subst hkey
        rw [hslot] at hnext'
        obtain rfl := Option.some.inj hnext'
        exact .inl (hle.trans hpast)
      · exact .inr ⟨next', (Function.update_of_ne hkey _ _).trans hnext', hle⟩
  · exact h

theorem clearTicket_channelTicket (outboxId key : String) {key' o : String}
    (h : w.channelTicket key' = some o) :
    (w.clearTicket outboxId key).channelTicket key' = some o ∨ (key' = key ∧ o = outboxId) := by
  unfold clearTicket
  split_ifs with hticket
  · by_cases hkey : key' = key
    · subst hkey
      rw [h] at hticket
      exact .inr ⟨rfl, Option.some.inj hticket⟩
    · exact .inl ((Function.update_of_ne hkey _ _).trans h)
  · exact .inl h

theorem clearTicket_same (outboxId key : String) :
    (w.clearTicket outboxId key).now = w.now ∧
      (w.clearTicket outboxId key).nextPostAt = w.nextPostAt ∧
      (w.clearTicket outboxId key).authorizationInFlight = w.authorizationInFlight ∧
      (w.clearTicket outboxId key).prepared = w.prepared ∧
      (w.clearTicket outboxId key).timers = w.timers ∧
      (w.clearTicket outboxId key).observations = w.observations ∧
      (w.clearTicket outboxId key).preflights = w.preflights ∧
      (w.clearTicket outboxId key).posts = w.posts := by
  unfold clearTicket
  split_ifs <;> exact ⟨rfl, rfl, rfl, rfl, rfl, rfl, rfl, rfl⟩

theorem mem_rest {timer fired : Timer} {before after : List Timer}
    (h : timer ∈ before ++ fired :: after) (hne : timer.cleanup ≠ fired.cleanup) :
    timer ∈ before ++ after := by
  rw [List.mem_append, List.mem_cons] at h
  rcases h with hbefore | rfl | hafter
  · exact List.mem_append_left _ hbefore
  · exact absurd rfl hne
  · exact List.mem_append_right _ hafter

theorem clearSlot_same (key : String) (slot : Option ℤ) :
    (w.clearSlot key slot).now = w.now ∧
      (w.clearSlot key slot).authorizationInFlight = w.authorizationInFlight ∧
      (w.clearSlot key slot).channelTicket = w.channelTicket ∧
      (w.clearSlot key slot).prepared = w.prepared ∧
      (w.clearSlot key slot).timers = w.timers ∧
      (w.clearSlot key slot).observations = w.observations ∧
      (w.clearSlot key slot).preflights = w.preflights ∧
      (w.clearSlot key slot).posts = w.posts := by
  unfold clearSlot
  split_ifs <;> exact ⟨rfl, rfl, rfl, rfl, rfl, rfl, rfl, rfl⟩

/-- The timer of a slot runs when the slot is past. -/
theorem eases_fire_slot {key : String} {next due : ℤ} {before after : List Timer}
    (htimers : w.timers = before ++ ⟨due, .slot key next⟩ :: after) (hpast : next ≤ w.now) :
    Eases w ({ w with timers := before ++ after }.clean (.slot key next)) := by
  obtain ⟨hnow, hflights, htickets, hprepared, hleft, -, -, hposts⟩ :=
    clearSlot_same (w := { w with timers := before ++ after }) key (some next)
  have hsub : (before ++ after).Sublist w.timers := by
    rw [htimers]
    exact List.Sublist.append_left (List.sublist_cons_self _ _) before
  rw [clean]
  refine ⟨hnow, fun key' time hsettled ↦ .inl ?_, fun key' flight hflight ↦ ?_,
    fun timer htimer ↦ ?_, fun hapart ↦ ?_, fun key' o hticket ↦ .inl ?_,
    fun o prepared hp ↦ ?_, hposts⟩
  · exact settled_clearSlot (w := { w with timers := before ++ after }) hpast hsettled
  · rwa [hflights] at hflight
  · rw [hleft] at htimer
    exact .inl (hsub.subset htimer)
  · rw [hleft]
    exact hapart.sublist hsub
  · rw [htickets]
    exact hticket
  · rw [hprepared] at hp
    refine ⟨hp, fun timer htimer hcleanup ↦ ⟨timer, ?_, rfl⟩⟩
    rw [hleft]
    rw [htimers] at htimer
    refine mem_rest htimer fun hsame ↦ ?_
    rw [hcleanup] at hsame
    cases hsame

/-- The timer of a ticket takes the ticket away, or finds that it is gone. -/
theorem eases_fire_ticket {o key : String} {e due : ℤ} {before after : List Timer}
    (htimers : w.timers = before ++ ⟨due, .ticket o key e⟩ :: after) :
    Eases w ({ w with timers := before ++ after }.clean (.ticket o key e)) := by
  have hsub : (before ++ after).Sublist w.timers := by
    rw [htimers]
    exact List.Sublist.append_left (List.sublist_cons_self _ _) before
  obtain ⟨left, hleft, hmaps, hprepared⟩ : ∃ left : World,
      { w with timers := before ++ after }.clean (.ticket o key e) = left.clearTicket o key ∧
        (left.now = w.now ∧ left.nextPostAt = w.nextPostAt ∧
          left.authorizationInFlight = w.authorizationInFlight ∧
          left.channelTicket = w.channelTicket ∧ left.timers = before ++ after ∧
          left.posts = w.posts) ∧
        ∀ o' prepared, left.prepared o' = some prepared → w.prepared o' = some prepared ∧
          ¬(o' = o ∧ prepared.ticketExpiresAt = e) := by
    refine ⟨_, rfl, ?_⟩
    split_ifs with hexpired
    · refine ⟨⟨rfl, rfl, rfl, rfl, rfl, rfl⟩, fun o' prepared hp ↦ ?_⟩
      change Function.update w.prepared o none o' = some prepared at hp
      by_cases ho : o' = o
      · subst ho
        simp at hp
      · rw [Function.update_of_ne ho] at hp
        exact ⟨hp, fun hboth ↦ ho hboth.1⟩
    · refine ⟨⟨rfl, rfl, rfl, rfl, rfl, rfl⟩, fun o' prepared hp ↦ ⟨hp, ?_⟩⟩
      rintro ⟨rfl, he⟩
      refine hexpired ?_
      change (w.prepared o').map _ = _
      rw [hp, Option.map_some, he]
  obtain ⟨hnow, hslots, hflights, htickets, hrest, hposts⟩ := hmaps
  obtain ⟨hnow', hslots', hflights', hprepared', hrest', -, -, hposts'⟩ :=
    clearTicket_same (w := left) o key
  rw [hleft]
  refine ⟨hnow'.trans hnow, fun key' time hsettled ↦ .inl ?_, fun key' flight hflight ↦ ?_,
    fun timer htimer ↦ ?_, fun hapart ↦ ?_, fun key' o' hticket ↦ ?_,
    fun o' prepared hp ↦ ?_, hposts'.trans hposts⟩
  · exact hsettled.of_now_le (hnow'.trans hnow).ge (hslots'.trans hslots)
  · rwa [hflights', hflights] at hflight
  · rw [hrest', hrest] at htimer
    exact .inl (hsub.subset htimer)
  · rw [hrest', hrest]
    exact hapart.sublist hsub
  · rw [← htickets] at hticket
    rcases clearTicket_channelTicket o key hticket with hkept | ⟨rfl, rfl⟩
    · exact .inl hkept
    · refine .inr fun hapart timer htimer e' hcleanup ↦ .inl ?_
      rw [hrest', hrest] at htimer
      have hfired : ∀ timer' ∈ before ++ after, w.Apart ⟨due, .ticket o' key' e⟩ timer' := by
        rw [htimers, List.pairwise_middle fun {a b} hab ↦ hab.symm] at hapart
        exact (List.pairwise_cons.mp hapart).1
      obtain ⟨-, hsame⟩ := hfired timer htimer o' o' key' e e' rfl hcleanup
      exact (hsame rfl).2
  · rw [hprepared'] at hp
    obtain ⟨hold, hother⟩ := hprepared o' prepared hp
    refine ⟨hold, fun timer htimer hcleanup ↦ ⟨timer, ?_, rfl⟩⟩
    rw [hrest', hrest]
    rw [htimers] at htimer
    refine mem_rest htimer fun hsame ↦ hother ?_
    rw [hcleanup] at hsame
    injection hsame with ho hkey he
    exact ⟨ho, he⟩

theorem eases_fire_blocked {key : String × Method} {deadline due : ℤ} {before after : List Timer}
    (htimers : w.timers = before ++ ⟨due, .blocked key deadline⟩ :: after) :
    Eases w ({ w with timers := before ++ after }.clean (.blocked key deadline)) := by
  have hsub : (before ++ after).Sublist w.timers := by
    rw [htimers]
    exact List.Sublist.append_left (List.sublist_cons_self _ _) before
  have hrest : Eases w { w with timers := before ++ after } :=
    { now := rfl
      settled := fun _ _ hsettled ↦ .inl hsettled
      flights := fun _ _ hflight ↦ hflight
      timers := fun timer htimer ↦ .inl (hsub.subset htimer)
      apart := fun hapart ↦ hapart.sublist hsub
      tickets := fun _ _ hticket ↦ .inl hticket
      prepared := by
        refine fun o prepared hp ↦ ⟨hp, fun timer htimer hcleanup ↦ ⟨timer, ?_, rfl⟩⟩
        rw [htimers] at htimer
        refine mem_rest htimer fun hsame ↦ ?_
        rw [hcleanup] at hsame
        cases hsame
      posts := rfl }
  simp only [clean]
  split_ifs
  · exact ⟨hrest.now, hrest.settled, hrest.flights, hrest.timers, hrest.apart, hrest.tickets,
      hrest.prepared, hrest.posts⟩
  · exact hrest

/-- A delivery takes its ticket and puts the slot off at once. -/
theorem eases_takeTicket (command : SlackReminderCommand) {next : ℤ} (hs : w.Spaced)
    (hnext : w.now + 1000 ≤ next) :
    Eases w ((w.takeTicket command).raiseSlot command.target.key next) := by
  have hdrop := eases_dropPrepared (w := w) command.outboxId
  obtain ⟨hnow, hslots, hflights, hprepared, htimers, -, -, hposts⟩ :=
    clearTicket_same (w := w.dropPrepared command.outboxId) command.outboxId command.target.key
  have hraise := eases_raiseSlot (w := w.takeTicket command) command.target.key next
  have hslot : ((w.takeTicket command).raiseSlot command.target.key next).nextPostAt
      command.target.key = some (max ((w.nextPostAt command.target.key).getD 0) next) := by
    change Function.update _ _ _ _ = _
    rw [Function.update_self]
    exact congrArg (fun slot ↦ some (max (Option.getD slot 0) next)) (congrFun hslots _)
  refine ⟨hnow, fun key time hsettled ↦ ?_, fun key flight hflight ↦ ?_, fun timer htimer ↦ ?_,
    fun hapart ↦ ?_, fun key o hticket ↦ ?_, fun o prepared hp ↦ ?_, hposts⟩
  · rcases hraise.settled key time (hsettled.of_now_le hnow.ge hslots) with hkept | ⟨hsome, hnone⟩
    · exact .inl hkept
    · rw [takeTicket, hflights] at hsome
      exact .inr ⟨hsome, hnone⟩
  · exact (congrFun hflights key).symm.trans hflight
  · rcases hraise.timers timer htimer with hold | hplain
    · exact .inl (htimers ▸ hold)
    · exact .inr (hnow ▸ hplain)
  · have hplain := isPlain_slot (w.takeTicket command).now command.target.key
      (max (((w.takeTicket command).nextPostAt command.target.key).getD 0) next)
    change ((w.takeTicket command).timers ++ [_]).Pairwise w.Apart
    rw [show (w.takeTicket command).timers = w.timers from htimers]
    exact apart_append (hnow ▸ hplain) hapart
  · rcases clearTicket_channelTicket (w := w.dropPrepared command.outboxId) command.outboxId
        command.target.key hticket with hkept | ⟨rfl, rfl⟩
    · exact .inl hkept
    · refine .inr fun _ timer htimer e hcleanup ↦ .inr ?_
      rcases hraise.timers timer htimer with hold | hplain
      · have hnear := (hs.tickets timer (htimers ▸ hold) _ _ e hcleanup).2.1
        exact .inr ⟨_, hslot, hnear.trans (hnext.trans (le_max_right _ _))⟩
      · exact absurd hcleanup (hplain.ticket _ _ e)
  · obtain ⟨hold, hkept⟩ := hdrop.prepared o prepared ((congrFun hprepared o).symm.trans hp)
    refine ⟨hold, fun timer htimer _ ↦ ⟨timer, List.mem_append_left _ ?_, rfl⟩⟩
    rw [show (w.takeTicket command).timers = w.timers from htimers]
    exact htimer

theorem noteFailure_spec (key : String × Method) (failure : SlackFailure) :
    ∃ plain : List Timer, (∀ timer ∈ plain, timer.IsPlain w.now) ∧
      (w.noteFailure key failure).timers = w.timers ++ plain ∧
      (w.noteFailure key failure).now = w.now ∧
      (w.noteFailure key failure).nextPostAt = w.nextPostAt ∧
      (w.noteFailure key failure).authorizationInFlight = w.authorizationInFlight ∧
      (w.noteFailure key failure).channelTicket = w.channelTicket ∧
      (w.noteFailure key failure).prepared = w.prepared ∧
      (w.noteFailure key failure).observations = w.observations ∧
      (w.noteFailure key failure).preflights = w.preflights ∧
      (w.noteFailure key failure).posts = w.posts := by
  have hsame : ∃ plain : List Timer, (∀ timer ∈ plain, timer.IsPlain w.now) ∧
      w.timers = w.timers ++ plain :=
    ⟨[], fun timer htimer ↦ absurd htimer List.not_mem_nil, (List.append_nil _).symm⟩
  obtain ⟨none, hnone, hnil⟩ := hsame
  unfold noteFailure
  split
  · split_ifs
    · refine ⟨[_], fun timer htimer ↦ ?_, rfl, rfl, rfl, rfl, rfl, rfl, rfl, rfl, rfl⟩
      obtain rfl := List.mem_singleton.mp htimer
      exact isPlain_blocked _ _ _
    · exact ⟨none, hnone, hnil, rfl, rfl, rfl, rfl, rfl, rfl, rfl, rfl⟩
  · exact ⟨none, hnone, hnil, rfl, rfl, rfl, rfl, rfl, rfl, rfl, rfl⟩

/-- An authorization that fails frees its slot. -/
theorem eases_failAuthorization (workspaceId : String) {key : String} (reservedUntil : Option ℤ)
    (method : Method) (failure : SlackFailure) (h : (w.authorizationInFlight key).isSome) :
    Eases w (w.failAuthorization workspaceId key reservedUntil method failure) := by
  obtain ⟨hnow, hflights, htickets, hprepared, htimers, -, -, hposts⟩ :=
    clearSlot_same (w := w) key reservedUntil
  obtain ⟨plain, hplain, htimers', hnow', hslots', hflights', htickets', hprepared', -, -,
    hposts'⟩ := noteFailure_spec (w := w.clearSlot key reservedUntil) (workspaceId, method) failure
  have hended : (w.failAuthorization workspaceId key reservedUntil method
      failure).authorizationInFlight = Function.update w.authorizationInFlight key none := by
    rw [← hflights, ← hflights']
    rfl
  have hpast : ∀ timer ∈ plain, timer.IsPlain w.now := fun timer htimer ↦ hnow ▸ hplain timer htimer
  have hall : (w.failAuthorization workspaceId key reservedUntil method failure).timers =
      w.timers ++ plain := htimers'.trans (congrArg (· ++ plain) htimers)
  refine ⟨hnow'.trans hnow, fun key' time hsettled ↦ ?_, fun key' flight hflight ↦ ?_,
    fun timer htimer ↦ ?_, fun hapart ↦ ?_, fun key' o hticket ↦ .inl ?_,
    fun o prepared hp ↦ ?_, hposts'.trans hposts⟩
  · by_cases hkey : key' = key
    · subst hkey
      refine .inr ⟨h, ?_⟩
      rw [hended, Function.update_self]
    · rcases hsettled with htime | ⟨next, hslot, hle⟩
      · exact .inl (.inl (htime.trans (hnow'.trans hnow).ge))
      · refine .inl (.inr ⟨next, ?_, hle⟩)
        exact (congrFun hslots' key').trans ((clearSlot_nextPostAt hkey).trans hslot)
  · rw [hended] at hflight
    by_cases hkey : key' = key
    · subst hkey
      rw [Function.update_self] at hflight
      cases hflight
    · rwa [Function.update_of_ne hkey] at hflight
  · rw [hall] at htimer
    exact (List.mem_append.mp htimer).imp id (hpast timer)
  · rw [hall, List.pairwise_append]
    refine ⟨hapart, ?_, fun a _ b hb o o' key e e' _ hcb ↦ ?_⟩
    · refine List.Pairwise.imp_of_mem ?_ (List.pairwise_of_forall (fun _ _ ↦ trivial))
      intro a b ha _ _ o o' key e e' hca _
      exact absurd hca ((hpast a ha).ticket o key e)
    · exact absurd hcb ((hpast b hb).ticket o' key e')
  · exact (congrFun (htickets'.trans htickets) key').trans hticket
  · have hsame := (congrFun (hprepared'.trans hprepared) o).symm.trans hp
    refine ⟨hsame, fun timer htimer _ ↦ ⟨timer, ?_, rfl⟩⟩
    rw [hall]
    exact List.mem_append_left _ htimer

/-! ### Authorizations, tickets and posts -/

theorem World.Apart.mono {a b : Timer} (h : s.Apart a b) (hnow : s.now ≤ t.now)
    (hslots : t.nextPostAt = s.nextPostAt) : t.Apart a b := by
  intro o o' key e e' ha hb
  obtain ⟨hpast, hsame⟩ := h o o' key e e' ha hb
  refine ⟨hpast.imp hnow.trans' hnow.trans', fun ho ↦ ?_⟩
  exact ⟨(hsame ho).1.of_now_le hnow hslots, (hsame ho).2.of_now_le hnow hslots⟩

theorem spaced_tick {time : ℤ} (hnow : w.now ≤ time) (hdue : ∀ timer ∈ w.timers, time ≤ timer.due)
    (hs : w.Spaced) : World.Spaced { w with now := time } where
  due := hdue
  slots := hs.slots
  tickets timer htimer o key e hcleanup := by
    obtain ⟨hbefore, hnear, hcover⟩ := hs.tickets timer htimer o key e hcleanup
    refine ⟨hbefore, hnear.trans (Int.add_le_add_right hnow 1000), ?_⟩
    exact hcover.imp (fun hsettled ↦ hsettled.of_now_le hnow rfl) id
  apart := hs.apart.imp fun hab ↦ hab.mono hnow rfl
  prepared := hs.prepared
  flights key flight hflight := by
    obtain ⟨hstarted, hsettled, hpast⟩ := hs.flights key flight hflight
    exact ⟨hstarted.trans hnow, hsettled.of_now_le hnow rfl, hpast⟩
  posts post hpost := by
    obtain ⟨hsettled, hrecent⟩ := hs.posts post hpost
    refine ⟨hsettled.of_now_le hnow rfl, fun hlater ↦ ?_⟩
    obtain ⟨hflight, hexpired⟩ := hrecent (lt_of_le_of_lt hnow hlater)
    exact ⟨hflight, fun o prepared hprepared hkey ↦ (hexpired o prepared hprepared hkey).trans hnow⟩
  distances := hs.distances

/-- A channel whose slot is free and which has no ticket has no live one either. -/
theorem settled_of_free {key : String} {time : ℤ} (hfree : w.slotDelay key ≤ 0)
    (h : w.Settled key time) : time ≤ w.now := by
  rcases h with hpast | ⟨next, hslot, hle⟩
  · exact hpast
  · refine hle.trans ?_
    by_contra hnot
    simp only [slotDelay, hslot, Option.getD_some, if_pos (not_le.mp hnot), ceilSeconds] at hfree
    omega

theorem flightRefusal_eq_none {key : String} (h : w.flightRefusal key = none) :
    w.authorizationInFlight key = none ∧ w.channelTicket key = none ∧ w.slotDelay key ≤ 0 := by
  unfold flightRefusal at h
  split_ifs at h with hbusy hslot
  obtain ⟨hflight, hticket⟩ := not_or.mp hbusy
  exact ⟨Option.not_isSome_iff_eq_none.mp hflight, Option.not_isSome_iff_eq_none.mp hticket,
    not_lt.mp hslot⟩

theorem spaced_startFlight {key : String} (run : ℕ) (h : w.flightRefusal key = none)
    (hs : w.Spaced) : (w.startFlight run key).Spaced := by
  obtain ⟨hnone, hticket, hfree⟩ := flightRefusal_eq_none h
  have hslot : (w.setSlot key (w.now + 1000)).Spaced :=
    (eases_setSlot fun time htime ↦ .inl (settled_of_free hfree htime)).spaced hs
  have hpast : ∀ timer ∈ (w.setSlot key (w.now + 1000)).timers, ∀ o e,
      timer.cleanup = .ticket o key e → e ≤ w.now := by
    intro timer htimer o e hcleanup
    rcases List.mem_append.mp htimer with hold | hnew
    · rcases (hs.tickets timer hold o key e hcleanup).2.2 with hsettled | hheld
      · exact settled_of_free hfree hsettled
      · rw [hticket] at hheld
        cases hheld
    · obtain rfl := List.mem_singleton.mp hnew
      cases hcleanup
  refine ⟨hslot.due, hslot.slots, hslot.tickets, hslot.apart, hslot.prepared,
    fun key' flight hflight ↦ ?_, fun post hpost ↦ ?_, hslot.distances⟩
  · change Function.update w.authorizationInFlight key (some ⟨run, w.now⟩) key' = some flight
      at hflight
    by_cases hkey : key' = key
    · subst hkey
      rw [Function.update_self] at hflight
      obtain rfl := Option.some.inj hflight
      exact ⟨le_rfl, .inr ⟨_, Function.update_self _ _ _, le_rfl⟩, hpast⟩
    · rw [Function.update_of_ne hkey] at hflight
      exact hslot.flights key' flight hflight
  · obtain ⟨hsettled, hrecent⟩ := hslot.posts post hpost
    refine ⟨hsettled, fun hlater ↦ ?_⟩
    obtain ⟨hidle, hexpired⟩ := hrecent hlater
    refine ⟨?_, hexpired⟩
    change Function.update w.authorizationInFlight key (some ⟨run, w.now⟩) _ = none
    by_cases hkey : post.command.target.key = key
    · have hbefore := settled_of_free hfree (hkey ▸ (hs.posts post hpost).1)
      exact absurd (lt_of_lt_of_le hlater hbefore) (lt_irrefl _)
    · rw [Function.update_of_ne hkey]
      exact hidle

/-- What an authorization leaves behind that ended just now. -/
structure World.Ended (w : World) (key : String) (startedAt : ℤ) : Prop where
  started : startedAt ≤ w.now
  settled : w.Settled key (startedAt + 1000)
  tickets : ∀ timer ∈ w.timers, ∀ o e, timer.cleanup = .ticket o key e → e ≤ startedAt
  posts : ∀ post ∈ w.posts, post.command.target.key = key → post.startedAt + 1000 ≤ w.now

theorem World.Spaced.ended {key : String} {flight : Flight} (hs : w.Spaced)
    (hflight : w.authorizationInFlight key = some flight) : w.Ended key flight.startedAt := by
  obtain ⟨hstarted, hsettled, htickets⟩ := hs.flights key flight hflight
  refine ⟨hstarted, hsettled, htickets, fun post hpost hkey ↦ ?_⟩
  by_contra hlater
  have hidle := ((hs.posts post hpost).2 (not_le.mp hlater)).1
  rw [hkey, hflight] at hidle
  cases hidle

theorem spaced_issueTicket {command : SlackReminderCommand} {startedAt : ℤ}
    (hidle : w.authorizationInFlight command.target.key = none)
    (hended : w.Ended command.target.key startedAt) (hs : w.Spaced) :
    (w.issueTicket setting command startedAt).Spaced := by
  have hpast : ∀ timer ∈ w.timers, ∀ o e, timer.cleanup = .ticket o command.target.key e →
      e ≤ w.now := fun timer htimer o e hcleanup ↦
    (hended.tickets timer htimer o e hcleanup).trans hended.started
  have hdue : max w.now (min (w.now + 1000) (min (setting.parseDate command.expiresAt)
      (setting.parseDate command.misfireAt + 1000))) ≤ w.now + 1000 :=
    max_le (Int.le_add_of_nonneg_right (by norm_num)) (min_le_left _ _)
  -- another timer of the row on this channel is due at this very moment, and so is the slot's start
  have hcovered : ∀ timer ∈ w.timers, ∀ e,
      timer.cleanup = .ticket command.outboxId command.target.key e →
        w.Settled command.target.key (w.now + 1000) := by
    intro timer htimer e hcleanup
    have hstart := hended.tickets timer htimer _ e hcleanup
    have hbefore := (hs.tickets timer htimer _ _ e hcleanup).1
    have hnow := hs.due timer htimer
    have heq : startedAt = w.now :=
      le_antisymm hended.started (hnow.trans (hbefore.trans hstart))
    rw [← heq]
    have hsettled := hended.settled
    rwa [heq] at hsettled ⊢
  refine ⟨fun timer htimer ↦ ?_, fun timer htimer key next hcleanup ↦ ?_,
    fun timer htimer o key e hcleanup ↦ ?_, ?_, fun o prepared hprepared ↦ ?_,
    fun key flight hflight ↦ ?_, fun post hpost ↦ ?_, hs.distances⟩
  · rcases List.mem_append.mp htimer with hold | hnew
    · exact hs.due timer hold
    · obtain rfl := List.mem_singleton.mp hnew
      exact le_max_left _ _
  · rcases List.mem_append.mp htimer with hold | hnew
    · exact hs.slots timer hold key next hcleanup
    · obtain rfl := List.mem_singleton.mp hnew
      cases hcleanup
  · rcases List.mem_append.mp htimer with hold | hnew
    · obtain ⟨hbefore, hnear, hcover⟩ := hs.tickets timer hold o key e hcleanup
      refine ⟨hbefore, hnear, ?_⟩
      by_cases hkey : key = command.target.key
      · subst hkey
        exact .inl (.inl (hpast timer hold o e hcleanup))
      · refine hcover.imp id fun hticket ↦ ?_
        exact (Function.update_of_ne hkey _ _).trans hticket
    · obtain rfl := List.mem_singleton.mp hnew
      cases hcleanup
      exact ⟨hdue, le_rfl, .inr (Function.update_self _ _ _)⟩
  · change (w.timers ++ [_]).Pairwise w.Apart
    rw [List.pairwise_append]
    refine ⟨hs.apart, List.pairwise_singleton _ _, fun a ha b hb o o' key e e' hca hcb ↦ ?_⟩
    obtain rfl := List.mem_singleton.mp hb
    cases hcb
    have he := hpast a ha o e hca
    refine ⟨.inl he, fun ho ↦ ⟨.inl he, ?_⟩⟩
    exact hcovered a ha e (ho ▸ hca)
  · change Function.update w.prepared command.outboxId _ o = some prepared at hprepared
    by_cases ho : o = command.outboxId
    · subst ho
      rw [Function.update_self] at hprepared
      obtain rfl := Option.some.inj hprepared
      exact ⟨_, List.mem_append_right _ (List.mem_singleton_self _), rfl⟩
    · rw [Function.update_of_ne ho] at hprepared
      obtain ⟨timer, htimer, hcleanup⟩ := hs.prepared o prepared hprepared
      exact ⟨timer, List.mem_append_left _ htimer, hcleanup⟩
  · obtain ⟨hstarted, hsettled, htickets⟩ := hs.flights key flight hflight
    refine ⟨hstarted, hsettled, fun timer htimer o e hcleanup ↦ ?_⟩
    rcases List.mem_append.mp htimer with hold | hnew
    · exact htickets timer hold o e hcleanup
    · obtain rfl := List.mem_singleton.mp hnew
      cases hcleanup
      rw [show (w.issueTicket setting command startedAt).authorizationInFlight =
        w.authorizationInFlight from rfl, hidle] at hflight
      cases hflight
  · obtain ⟨hsettled, hrecent⟩ := hs.posts post hpost
    refine ⟨hsettled, fun hlater ↦ ⟨(hrecent hlater).1, fun o prepared hprepared hkey ↦ ?_⟩⟩
    change Function.update w.prepared command.outboxId _ o = some prepared at hprepared
    by_cases ho : o = command.outboxId
    · subst ho
      rw [Function.update_self] at hprepared
      obtain rfl := Option.some.inj hprepared
      exact absurd (lt_of_lt_of_le hlater (hended.posts post hpost hkey.symm)) (lt_irrefl _)
    · rw [Function.update_of_ne ho] at hprepared
      exact (hrecent hlater).2 o prepared hprepared hkey

theorem ticketFor_eq_some {command : SlackReminderCommand} {prepared : Prepared}
    (h : w.ticketFor command = some prepared) :
    w.prepared command.outboxId = some prepared ∧ prepared.serialized = command ∧
      w.now < prepared.ticketExpiresAt ∧ floorSecond w.now < prepared.authorizationExpiresAt ∧
        floorSecond w.now ≤ prepared.misfireAt := by
  obtain ⟨hprepared, hvalid⟩ := Option.filter_eq_some_iff.mp h
  exact ⟨hprepared, of_decide_eq_true hvalid⟩

/-- A live ticket is the only one of its channel, whose slot is free of posts and
authorizations. -/
structure World.Holds (w : World) (o : String) (prepared : Prepared) : Prop where
  alone : ∀ o' prepared', w.prepared o' = some prepared' → prepared'.key = prepared.key →
    w.now < prepared'.ticketExpiresAt → o' = o
  idle : w.authorizationInFlight prepared.key = none
  posts : ∀ post ∈ w.posts, post.command.target.key = prepared.key →
    post.startedAt + 1000 ≤ w.now

theorem World.Spaced.holds {o : String} {prepared : Prepared} (hs : w.Spaced)
    (hprepared : w.prepared o = some prepared) (hlive : w.now < prepared.ticketExpiresAt) :
    w.Holds o prepared := by
  obtain ⟨timer, htimer, hcleanup⟩ := hs.prepared o prepared hprepared
  refine ⟨fun o' prepared' hprepared' hkey hlive' ↦ ?_, ?_, fun post hpost hkey ↦ ?_⟩
  · obtain ⟨timer', htimer', hcleanup'⟩ := hs.prepared o' prepared' hprepared'
    by_contra hne
    have hdistinct : timer' ≠ timer := by
      rintro rfl
      rw [hcleanup] at hcleanup'
      injection hcleanup' with ho
      exact hne ho.symm
    have hapart := hs.apart.forall htimer' htimer hdistinct
    rw [hkey] at hcleanup'
    rcases (hapart o' o prepared.key _ _ hcleanup' hcleanup).1 with hpast | hpast
    · exact absurd (lt_of_lt_of_le hlive' hpast) (lt_irrefl _)
    · exact absurd (lt_of_lt_of_le hlive hpast) (lt_irrefl _)
  · refine Option.eq_none_iff_forall_ne_some.mpr fun flight hflight ↦ ?_
    obtain ⟨hstarted, -, htickets⟩ := hs.flights _ flight hflight
    have hpast := (htickets timer htimer o _ hcleanup).trans hstarted
    exact absurd (lt_of_lt_of_le hlive hpast) (lt_irrefl _)
  · by_contra hlater
    have hexpired := ((hs.posts post hpost).2 (not_le.mp hlater)).2 o prepared hprepared hkey.symm
    exact absurd (lt_of_lt_of_le hlive hexpired) (lt_irrefl _)

theorem takeTicket_same (command : SlackReminderCommand) :
    (w.takeTicket command).now = w.now ∧
      (w.takeTicket command).authorizationInFlight = w.authorizationInFlight ∧
      (w.takeTicket command).prepared = (w.dropPrepared command.outboxId).prepared ∧
      (w.takeTicket command).observations = w.observations ∧
      (w.takeTicket command).preflights = w.preflights ∧
      (w.takeTicket command).posts = w.posts := by
  obtain ⟨hnow, -, hflights, hprepared, -, hobservations, hpreflights, hposts⟩ :=
    clearTicket_same (w := w.dropPrepared command.outboxId) command.outboxId command.target.key
  exact ⟨hnow, hflights, hprepared, hobservations, hpreflights, hposts⟩

theorem spaced_startPost {command : SlackReminderCommand} {prepared : Prepared} (hs : w.Spaced)
    (h : w.ticketFor command = some prepared) :
    ((w.takeTicket command).startPost command prepared.ticket).Spaced := by
  obtain ⟨hprepared, rfl, hlive, -, -⟩ := ticketFor_eq_some h
  obtain ⟨halone, hidle, hbefore⟩ := hs.holds hprepared hlive
  obtain ⟨hnow, hflights, hleft, -, -, hposts⟩ := takeTicket_same (w := w) prepared.serialized
  have htaken := (eases_takeTicket prepared.serialized hs
    (Int.add_le_add_right hnow.ge 1000)).spaced hs
  refine ⟨htaken.due, htaken.slots, htaken.tickets, htaken.apart, htaken.prepared,
    htaken.flights, fun post hpost ↦ ?_, ?_⟩
  · rcases List.mem_append.mp hpost with hold | hnew
    · exact htaken.posts post hold
    · obtain rfl := List.mem_singleton.mp hnew
      refine ⟨.inr ⟨_, Function.update_self _ _ _, le_max_right _ _⟩, fun _ ↦ ⟨?_, ?_⟩⟩
      · exact (congrFun hflights _).trans hidle
      · intro o prepared' hprepared' hkey
        have hold := (congrFun hleft o).symm.trans hprepared'
        change Function.update w.prepared prepared.serialized.outboxId none o = some prepared'
          at hold
        have ho : o ≠ prepared.serialized.outboxId := by
          rintro rfl
          rw [Function.update_self] at hold
          cases hold
        rw [Function.update_of_ne ho] at hold
        change prepared'.ticketExpiresAt ≤ (w.takeTicket prepared.serialized).now
        rw [hnow]
        by_contra hlater
        exact ho (halone o prepared' hold hkey (not_le.mp hlater))
  · change ((w.takeTicket prepared.serialized).posts ++ [_]).Pairwise _
    rw [hposts, List.pairwise_append]
    refine ⟨hs.distances, List.pairwise_singleton _ _, fun post hpost post' hpost' hkey ↦ ?_⟩
    obtain rfl := List.mem_singleton.mp hpost'
    exact (hbefore post hpost hkey).trans hnow.ge

/-! ### Consent -/

theorem Answered.mono {observations observations' : List (ℤ × Observation)} {first last last' : ℤ}
    {observation : Observation} (h : Answered observations first last observation)
    (hsub : observations ⊆ observations') (hlast : last ≤ last') :
    Answered observations' first last' observation := by
  obtain ⟨time, hmem, hfirst, htime⟩ := h
  exact ⟨time, hsub hmem, hfirst, htime.trans hlast⟩

theorem Consent.mono {answered answered' : Observation → Prop} {command : SlackReminderCommand}
    {channel : SlackChannel} {owner : SlackUser}
    (h : Consent setting answered command channel owner)
    (hmono : ∀ observation, answered observation → answered' observation) :
    Consent setting answered' command channel owner where
  sawChannel := hmono _ h.sawChannel
  sawOwner := hmono _ h.sawOwner
  notBarred := h.notBarred
  allowed := h.allowed
  ownerMember hnot := hmono _ (h.ownerMember hnot)
  botMember hgroup := by
    obtain ⟨connection, botUserId, hconnection, hbot, hanswer⟩ := h.botMember hgroup
    exact ⟨connection, botUserId, hconnection, hbot, hmono _ hanswer⟩

theorem Preflight.Consented.mono {observations observations' : List (ℤ × Observation)}
    {preflight : Preflight} (h : preflight.Consented setting observations)
    (hsub : observations ⊆ observations') : preflight.Consented setting observations' := by
  obtain ⟨channel, owner, hconsent⟩ := h
  exact ⟨channel, owner, hconsent.mono fun _ hanswered ↦ hanswered.mono hsub le_rfl⟩

/-- A step that makes no preflight and no post. -/
structure Follows (s t : World) : Prop where
  now : s.now ≤ t.now
  observations : s.observations ⊆ t.observations
  prepared : ∀ o prepared, t.prepared o = some prepared → s.prepared o = some prepared
  preflights : t.preflights = s.preflights
  posts : t.posts = s.posts

theorem Follows.sound (h : Follows s t) (hs : s.Sound setting) : t.Sound setting where
  preflights preflight hmem := by
    rw [h.preflights] at hmem
    obtain ⟨hfinished, hconsented⟩ := hs.preflights preflight hmem
    exact ⟨hfinished.trans h.now, hconsented.mono h.observations⟩
  prepared o prepared hprepared := by
    rw [h.preflights, h.posts]
    exact hs.prepared o prepared (h.prepared o prepared hprepared)
  posts := by
    rw [h.preflights, h.posts]
    exact hs.posts
  distinct := by
    rw [h.posts]
    exact hs.distinct

theorem getElem?_append_of_some {preflights : List Preflight} {index : ℕ}
    {preflight next : Preflight} (h : preflights[index]? = some preflight) :
    (preflights ++ [next])[index]? = some preflight := by
  rw [List.getElem?_append_left (List.getElem?_eq_some_iff.mp h).1]
  exact h

theorem sound_issueTicket {command : SlackReminderCommand} {startedAt : ℤ}
    (hworkspace : (setting.registry command.target.workspaceId).isSome)
    (hconsented : Preflight.Consented setting w.observations ⟨command, startedAt, w.now⟩)
    (hs : w.Sound setting) : (w.issueTicket setting command startedAt).Sound setting where
  preflights preflight hmem := by
    rcases List.mem_append.mp hmem with hold | hnew
    · exact hs.preflights preflight hold
    · obtain rfl := List.mem_singleton.mp hnew
      exact ⟨le_rfl, hconsented⟩
  prepared o prepared hprepared := by
    change Function.update w.prepared command.outboxId _ o = some prepared at hprepared
    by_cases ho : o = command.outboxId
    · subst ho
      rw [Function.update_self] at hprepared
      obtain rfl := Option.some.inj hprepared
      refine ⟨rfl, ⟨⟨command, startedAt, w.now⟩, ?_, ⟨rfl, rfl, rfl, rfl, hworkspace⟩⟩, ?_⟩
      · exact List.getElem?_concat_length
      · intro post hpost hticket
        obtain ⟨preflight, hpreflight, -⟩ := hs.posts post hpost
        have hlength := (List.getElem?_eq_some_iff.mp hpreflight).1
        exact absurd hticket hlength.ne
    · rw [Function.update_of_ne ho] at hprepared
      obtain ⟨hid, ⟨preflight, hpreflight, hof⟩, hunused⟩ := hs.prepared o prepared hprepared
      exact ⟨hid, ⟨preflight, getElem?_append_of_some hpreflight, hof⟩, hunused⟩
  posts post hpost := by
    obtain ⟨preflight, hpreflight, hcovered⟩ := hs.posts post hpost
    exact ⟨preflight, getElem?_append_of_some hpreflight, hcovered⟩
  distinct := hs.distinct

theorem follows_takeTicket (command : SlackReminderCommand) : Follows w (w.takeTicket command) := by
  obtain ⟨hnow, -, hprepared, hobservations, hpreflights, hposts⟩ :=
    takeTicket_same (w := w) command
  refine ⟨hnow.ge, hobservations ▸ List.Subset.refl _, fun o prepared hp ↦ ?_, hpreflights, hposts⟩
  exact ((eases_dropPrepared command.outboxId).prepared o prepared
    ((congrFun hprepared o).symm.trans hp)).1

theorem sound_startPost {command : SlackReminderCommand} {prepared : Prepared}
    (hs : w.Sound setting) (h : w.ticketFor command = some prepared) :
    ((w.takeTicket command).startPost command prepared.ticket).Sound setting := by
  obtain ⟨hprepared, rfl, hlive, hauthorized, htimely⟩ := ticketFor_eq_some h
  obtain ⟨-, ⟨preflight, hpreflight, hof⟩, hunused⟩ := hs.prepared _ prepared hprepared
  obtain ⟨hnow, -, hleft, -, hpreflights, hposts⟩ := takeTicket_same (w := w) prepared.serialized
  have htaken := (follows_takeTicket prepared.serialized).sound hs
  have hcovered : Post.Covered setting
      ⟨prepared.serialized, (w.takeTicket prepared.serialized).now, prepared.ticket⟩ preflight := by
    rw [hnow]
    have hfinished := (hs.preflights preflight (List.mem_of_getElem? hpreflight)).1
    refine ⟨hof.command, hfinished, hof.ticketExpiresAt ▸ hlive, ?_, ?_⟩
    · exact hof.authorizationExpiresAt ▸ hauthorized
    · exact hof.misfireAt ▸ htimely
  refine ⟨htaken.preflights, fun o prepared' hprepared' ↦ ?_, fun post hpost ↦ ?_, ?_⟩
  · obtain ⟨hid, hexists, hunused'⟩ := htaken.prepared o prepared' hprepared'
    refine ⟨hid, hexists, fun post hpost ↦ ?_⟩
    rcases List.mem_append.mp hpost with hold | hnew
    · exact hunused' post hold
    · obtain rfl := List.mem_singleton.mp hnew
      intro hticket
      obtain ⟨preflight', hpreflight', hof'⟩ := hexists
      have hsame := hpreflight'
      rw [hpreflights] at hsame
      change prepared.ticket = prepared'.ticket at hticket
      rw [← hticket, hpreflight] at hsame
      obtain rfl := Option.some.inj hsame
      have ho : prepared.serialized.outboxId = o := by
        rw [← hid, ← hof'.command, ← hof.command]
      have hgone := (congrFun hleft o).symm.trans hprepared'
      change Function.update w.prepared prepared.serialized.outboxId none o = some prepared'
        at hgone
      rw [ho, Function.update_self] at hgone
      cases hgone
  · rcases List.mem_append.mp hpost with hold | hnew
    · exact htaken.posts post hold
    · obtain rfl := List.mem_singleton.mp hnew
      refine ⟨preflight, ?_, hcovered⟩
      exact (congrArg (·[prepared.ticket]?) hpreflights).trans hpreflight
  · change ((w.takeTicket prepared.serialized).posts ++ [_]).Pairwise _
    rw [hposts, List.pairwise_append]
    refine ⟨hs.distinct, List.pairwise_singleton _ _, fun post hpost post' hpost' ↦ ?_⟩
    obtain rfl := List.mem_singleton.mp hpost'
    exact hunused post hpost

end Dona.ReminderConnector
