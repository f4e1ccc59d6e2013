import Dona.SlackAdapter.ReminderTickets

/-!
# Runs of the reminder connector

Each call of the connector keeps the invariants of its maps at every await, whatever the other
calls and the timers do meanwhile.
-/

namespace Dona.ReminderConnector

open Coroutine World

variable {setting : Setting} {timely : Prop} {s t u w : World} {run : ℕ}

structure World.Inv (setting : Setting) (timely : Prop) (w : World) : Prop where
  sound : w.Sound setting
  spaced : timely → w.Spaced

/-- What a call relies on: the clock does not go back, the answers of Slack stay, and nobody else
ends its authorization. -/
structure Spares (run : ℕ) (s t : World) : Prop where
  now : s.now ≤ t.now
  observations : s.observations ⊆ t.observations
  flights : ∀ key flight, s.authorizationInFlight key = some flight → flight.run = run →
    t.authorizationInFlight key = some flight

theorem Spares.refl (run : ℕ) (s : World) : Spares run s s :=
  ⟨le_rfl, List.Subset.refl _, fun _ _ hflight _ ↦ hflight⟩

theorem Spares.trans (h : Spares run s t) (h' : Spares run t u) : Spares run s u :=
  ⟨h.now.trans h'.now, List.Subset.trans h.observations h'.observations,
    fun key flight hflight hrun ↦ h'.flights key flight (h.flights key flight hflight hrun) hrun⟩

def discipline (setting : Setting) (timely : Prop) : Interference World Call.Reply ℕ :=
  .ofRely Performs (World.Inv setting timely) Spares Spares.refl Spares.trans

/-- A step that makes no preflight and no post, and leaves the authorizations of the others. -/
theorem guarantee_of (hfollows : Follows s t) (heases : s.Spaced → Eases s t)
    (hflights : ∀ key flight, s.authorizationInFlight key = some flight → flight.run ≠ run →
      t.authorizationInFlight key = some flight) :
    (discipline setting timely).guarantee run s t := by
  refine fun hs ↦ ⟨⟨hfollows.sound hs.sound, fun htimely ↦ ?_⟩, fun j hj ↦ ?_⟩
  · exact (heases (hs.spaced htimely)).spaced (hs.spaced htimely)
  · refine ⟨hfollows.now, hfollows.observations, fun key flight hflight hrun ↦ ?_⟩
    exact hflights key flight hflight (hrun ▸ hj.symm)

/-- A step that leaves the maps alone may also note answers. -/
theorem SameMaps.follows (h : SameMaps s t) (hobservations : s.observations ⊆ t.observations)
    (hpreflights : t.preflights = s.preflights) : Follows s t :=
  ⟨h.now.ge, hobservations, fun o _ hp ↦ (congrFun h.prepared o).symm.trans hp,
    hpreflights, h.posts⟩

theorem SameMaps.guarantee (h : SameMaps s t) (hobservations : s.observations ⊆ t.observations)
    (hpreflights : t.preflights = s.preflights) :
    (discipline setting timely).guarantee run s t :=
  guarantee_of (h.follows hobservations hpreflights) (fun _ ↦ h.eases)
    fun key _ hflight _ ↦ (congrFun h.flights key).trans hflight

theorem SameMaps.spares (h : SameMaps s t) (hobservations : s.observations ⊆ t.observations) :
    Spares run s t :=
  ⟨h.now.ge, hobservations, fun key _ hflight _ ↦ (congrFun h.flights key).trans hflight⟩

theorem sameMaps_observe (observation : Observation) : SameMaps w (w.observe observation) :=
  ⟨rfl, rfl, rfl, rfl, rfl, rfl, rfl⟩

theorem observations_subset (observation : Observation) :
    w.observations ⊆ (w.observe observation).observations :=
  List.subset_append_left _ _

/-! ### The authorization -/

/-- The call has its authorization under way. -/
structure Under (setting : Setting) (timely : Prop) (run : ℕ) (key : String) (startedAt : ℤ)
    (w : World) : Prop where
  inv : w.Inv setting timely
  flight : w.authorizationInFlight key = some ⟨run, startedAt⟩
  started : startedAt ≤ w.now

variable {key : String} {startedAt : ℤ}

theorem Under.rely (h : Under setting timely run key startedAt s) (hrely : Spares run s t)
    (hinv : t.Inv setting timely) : Under setting timely run key startedAt t :=
  ⟨hinv, hrely.flights key _ h.flight rfl, h.started.trans hrely.now⟩

theorem Under.sameMaps (h : Under setting timely run key startedAt s) (hsame : SameMaps s t)
    (hobservations : s.observations ⊆ t.observations) (hpreflights : t.preflights = s.preflights) :
    Under setting timely run key startedAt t :=
  h.rely (hsame.spares hobservations)
    (@SameMaps.guarantee setting timely s t run hsame hobservations hpreflights h.inv).1

/-- Slack answered so since the authorization began. -/
def Seen (startedAt : ℤ) (w : World) (observation : Observation) : Prop :=
  Answered w.observations startedAt w.now observation

theorem Seen.rely {observation : Observation} (h : Seen startedAt s observation)
    (hrely : Spares run s t) : Seen startedAt t observation :=
  h.mono hrely.observations hrely.now

/-- A question to Slack, with the answer noted. -/
def Asks (c : Call) (observation : c.Answer → Observation) : Prop :=
  ∀ w answer w', Performs c w (.ok answer) w' → w' = w.observe (observation answer)

theorem asks_getChannel (workspaceId channelId : String) :
    Asks (.getChannel workspaceId channelId) (.channel workspaceId channelId) := by
  intro w answer w' h
  cases h
  rfl

theorem asks_getUser (workspaceId userId : String) :
    Asks (.getUser workspaceId userId) (.user workspaceId userId) := by
  intro w answer w' h
  cases h
  rfl

theorem asks_hasChannelMember (workspaceId channelId userId : String) :
    Asks (.hasChannelMember workspaceId channelId userId)
      (.member workspaceId channelId userId) := by
  intro w answer w' h
  cases h
  rfl

theorem eq_of_performs_error {c : Call} {failure : SlackFailure}
    (h : Performs c s (.error failure) t) : t = s := by
  cases h
  rfl

variable {α : Type} {E : Interruption → World → Prop}

theorem wp_returnIf {refusal : World → Option SlackReminderResult} {Q : Unit → World → Prop}
    (hQ : refusal s = none → Q () s) (hE : ∀ result, E (.returned result) s) :
    wp (discipline setting timely) run (returnIf refusal) Q E s := by
  rw [returnIf, wp_bind, wp_read]
  split
  · exact hE _
  · rename_i hnone
    exact hQ hnone

theorem wp_returnWhen {c : Bool} {result : SlackReminderResult} {Q : Unit → World → Prop}
    (hQ : c = false → Q () s) (hE : E (.returned result) s) :
    wp (discipline setting timely) run (returnWhen c result) Q E s := by
  rw [returnWhen, wp_ite]
  split_ifs with hc
  · exact hE
  · exact hQ (Bool.eq_false_iff.mpr hc)

theorem wp_ask {workspaceId : String} {method : Method} {c : Call}
    {observation : c.Answer → Observation} {Q : c.Answer → World → Prop}
    (hasks : Asks c observation) (hs : Under setting timely run key startedAt s)
    (hQ : ∀ answer t, Under setting timely run key startedAt t → Spares run s t →
      Seen startedAt t (observation answer) → Q answer t)
    (hE : ∀ failure t, Under setting timely run key startedAt t → E (.failed failure method) t) :
    wp (discipline setting timely) run (ask workspaceId method c) Q E s := by
  have hmethod : ∀ w : World, ∀ flag, SameMaps w { w with authorizationMethodInFlight := flag } :=
    fun w flag ↦ ⟨rfl, rfl, rfl, rfl, rfl, rfl, rfl⟩
  rw [ask, wp_bind, wp_write]
  have henter := hmethod s
    (Function.update s.authorizationMethodInFlight (workspaceId, method) true)
  refine ⟨henter.guarantee (List.Subset.refl _) rfl, ?_⟩
  have hentered := hs.sameMaps henter (List.Subset.refl _) rfl
  rw [wp_bind, wp_call]
  intro s₁ hs₁ hinv₁ reply s₂ hperform
  have hunder₁ := hentered.rely hs₁ hinv₁
  have hspares₁ := Spares.trans (henter.spares (List.Subset.refl _)) hs₁
  cases reply with
  | ok answer =>
      obtain rfl := hasks s₁ answer s₂ hperform
      have hsame := sameMaps_observe (w := s₁) (observation answer)
      refine ⟨hsame.guarantee (observations_subset _) rfl, fun s₃ hs₃ hinv₃ ↦ ?_⟩
      have hunder₂ := hunder₁.sameMaps hsame (observations_subset _) rfl
      have hspares₂ := hspares₁.trans (hsame.spares (observations_subset _))
      have hseen : Seen startedAt (s₁.observe (observation answer)) (observation answer) :=
        ⟨s₁.now, List.mem_append_right _ (List.mem_singleton_self _), hunder₁.started, le_rfl⟩
      rw [wp_bind, wp_write]
      have hleave := hmethod s₃
        (Function.update s₃.authorizationMethodInFlight (workspaceId, method) false)
      refine ⟨hleave.guarantee (List.Subset.refl _) rfl, ?_⟩
      have hspares := @SameMaps.spares _ _ run hleave (List.Subset.refl _)
      exact hQ answer _ ((hunder₂.rely hs₃ hinv₃).sameMaps hleave (List.Subset.refl _) rfl)
        ((hspares₂.trans hs₃).trans hspares) ((hseen.rely hs₃).rely hspares)
  | error failure =>
      obtain rfl := eq_of_performs_error hperform
      refine ⟨fun hinv ↦ ⟨hinv, fun j _ ↦ Spares.refl j _⟩, fun s₃ hs₃ hinv₃ ↦ ?_⟩
      rw [wp_bind, wp_write]
      have hleave := hmethod s₃
        (Function.update s₃.authorizationMethodInFlight (workspaceId, method) false)
      refine ⟨hleave.guarantee (List.Subset.refl _) rfl, ?_⟩
      exact hE failure _ ((hunder₁.rely hs₃ hinv₃).sameMaps hleave (List.Subset.refl _) rfl)

theorem wp_askUnblocked {workspaceId : String} {method : Method} {c : Call}
    {observation : c.Answer → Observation} {Q : c.Answer → World → Prop}
    (hasks : Asks c observation) (hs : Under setting timely run key startedAt s)
    (hQ : ∀ answer t, Under setting timely run key startedAt t → Spares run s t →
      Seen startedAt t (observation answer) → Q answer t)
    (hE : ∀ interruption t, Under setting timely run key startedAt t → E interruption t) :
    wp (discipline setting timely) run (askUnblocked workspaceId method c) Q E s := by
  rw [askUnblocked, wp_bind]
  refine wp_returnIf (fun _ ↦ ?_) fun result ↦ hE _ s hs
  rw [wp_bind]
  refine wp_returnIf (fun _ ↦ ?_) fun result ↦ hE _ s hs
  exact wp_ask hasks hs hQ fun failure t ht ↦ hE _ t ht

theorem wp_ownerMembership {connection : Connection} {command : SlackReminderCommand}
    {channel : SlackChannel} {Q : Bool → World → Prop}
    (hs : Under setting timely run key startedAt s)
    (hQ : ∀ ownerMember t, Under setting timely run key startedAt t → Spares run s t →
      (ownerMember = true → channel.isIm = false → Seen startedAt t (.member
        command.target.workspaceId command.target.channelId command.ownerId true)) →
      Q ownerMember t)
    (hE : ∀ interruption t, Under setting timely run key startedAt t → E interruption t) :
    wp (discipline setting timely) run (ownerMembership connection command channel) Q E s := by
  simp only [ownerMembership, wp_ite, wp_pure]
  split_ifs with hdirect hmembers
  · exact hQ true s hs (Spares.refl run s) fun _ hnot ↦ by rw [hdirect] at hnot; cases hnot
  · refine wp_askUnblocked (asks_hasChannelMember _ _ _) hs (fun answer t ht hspares hseen ↦ ?_) hE
    refine hQ answer t ht hspares fun hmember _ ↦ ?_
    exact hmember ▸ hseen
  · rw [wp_bind]
    refine wp_returnIf (fun _ ↦ ?_) fun result ↦ hE _ s hs
    rw [wp_bind]
    refine wp_returnIf (fun _ ↦ ?_) fun result ↦ hE _ s hs
    exact hQ false s hs (Spares.refl run s) fun hfalse ↦ by cases hfalse

theorem wp_botMembership {connection : Connection} {command : SlackReminderCommand}
    {channel : SlackChannel} {Q : Unit → World → Prop}
    (hs : Under setting timely run key startedAt s)
    (hQ : ∀ t, Under setting timely run key startedAt t → Spares run s t →
      (channel.isMpim = true → ∃ botUserId, connection.botUserId = some botUserId ∧
        Seen startedAt t (.member command.target.workspaceId command.target.channelId botUserId
          true)) → Q () t)
    (hE : ∀ interruption t, Under setting timely run key startedAt t → E interruption t) :
    wp (discipline setting timely) run (botMembership connection command channel) Q E s := by
  simp only [botMembership]
  split_ifs with hgroup
  · split
    · exact hE _ s hs
    · rename_i botUserId hbot
      rw [wp_bind]
      refine wp_returnWhen (fun _ ↦ ?_) (hE _ s hs)
      rw [wp_bind]
      refine wp_returnIf (fun _ ↦ ?_) fun result ↦ hE _ s hs
      rw [wp_bind]
      refine wp_ask (asks_hasChannelMember _ _ _) hs (fun answer t ht hspares hseen ↦ ?_)
        fun failure t ht ↦ hE _ t ht
      refine wp_returnWhen (fun hmember ↦ ?_) (hE _ t ht)
      refine hQ t ht hspares fun _ ↦ ⟨botUserId, (Option.filter_eq_some_iff.mp hbot).1, ?_⟩
      rw [Bool.not_eq_false'] at hmember
      exact hmember ▸ hseen
  · exact hQ s hs (Spares.refl run s) fun htrue ↦ absurd htrue hgroup

/-- An authorization that goes through has the answers for it. -/
theorem wp_authorize {connection : Connection} {command : SlackReminderCommand}
    {Q : SlackChannel → World → Prop}
    (hconnection : setting.registry command.target.workspaceId = some connection)
    (hs : Under setting timely run key startedAt s)
    (hQ : ∀ channel t, Under setting timely run key startedAt t →
      (targetAllowed command channel = true →
        ∃ owner, Consent setting (Seen startedAt t) command channel owner) → Q channel t)
    (hE : ∀ interruption t, Under setting timely run key startedAt t → E interruption t) :
    wp (discipline setting timely) run (authorize connection command) Q E s := by
  rw [authorize, wp_bind]
  refine wp_askUnblocked (asks_getChannel _ _) hs (fun channel t₁ ht₁ _ hchannel ↦ ?_) hE
  rw [wp_bind]
  refine wp_askUnblocked (asks_getUser _ _) ht₁ (fun owner t₂ ht₂ hspares₂ howner ↦ ?_) hE
  rw [wp_bind]
  refine wp_ownerMembership ht₂ (fun ownerMember t₃ ht₃ hspares₃ hmember ↦ ?_) hE
  rw [wp_bind]
  refine wp_returnWhen (fun hallowed ↦ ?_) (hE _ t₃ ht₃)
  rw [wp_bind]
  refine wp_botMembership ht₃ (fun t₄ ht₄ hspares₄ hbot ↦ ?_) hE
  refine hQ channel t₄ ht₄ fun htarget ↦ ⟨owner, ?_⟩
  obtain ⟨hbarred, hownerMember⟩ := (Bool.or_eq_false_iff).mp hallowed
  rw [Bool.not_eq_false'] at hownerMember
  have hlater := hspares₃.trans hspares₄
  exact
    { sawChannel := hchannel.rely (hspares₂.trans hlater)
      sawOwner := howner.rely hlater
      notBarred := hbarred
      allowed := htarget
      ownerMember := fun hnot ↦ (hmember hownerMember hnot).rely hspares₄
      botMember := fun hgroup ↦ by
        obtain ⟨botUserId, hbotUserId, hseen⟩ := hbot hgroup
        exact ⟨connection, botUserId, hconnection, hbotUserId, hseen⟩ }

/-! ### A preflight -/

theorem follows_of_prepared (hnow : t.now = s.now) (hobservations : t.observations = s.observations)
    (hprepared : t.prepared = s.prepared) (hpreflights : t.preflights = s.preflights)
    (hposts : t.posts = s.posts) : Follows s t :=
  ⟨hnow.ge, hobservations ▸ List.Subset.refl _, fun o _ hp ↦ (congrFun hprepared o).symm.trans hp,
    hpreflights, hposts⟩

theorem guarantee_endFlight (hflight : s.authorizationInFlight key = some ⟨run, startedAt⟩) :
    (discipline setting timely).guarantee run s (s.endFlight key) := by
  refine guarantee_of (follows_of_prepared rfl rfl rfl rfl rfl) (fun _ ↦ eases_endFlight key) ?_
  intro key' flight hflight' hother
  have hkey : key' ≠ key := by
    rintro rfl
    rw [hflight] at hflight'
    obtain rfl := Option.some.inj hflight'
    exact hother rfl
  exact (Function.update_of_ne hkey _ _).trans hflight'

theorem guarantee_failAuthorization (workspaceId : String) (reservedUntil : Option ℤ)
    (method : Method) (failure : SlackFailure)
    (hflight : s.authorizationInFlight key = some ⟨run, startedAt⟩) :
    (discipline setting timely).guarantee run s
      (s.failAuthorization workspaceId key reservedUntil method failure) := by
  obtain ⟨hnow, hflights, -, hprepared, -, hobservations, hpreflights, hposts⟩ :=
    clearSlot_same (w := s) key reservedUntil
  obtain ⟨-, -, -, hnow', -, hflights', -, hprepared', hobservations', hpreflights', hposts'⟩ :=
    noteFailure_spec (w := s.clearSlot key reservedUntil) (workspaceId, method) failure
  refine guarantee_of (follows_of_prepared (hnow'.trans hnow) (hobservations'.trans hobservations)
    (hprepared'.trans hprepared) (hpreflights'.trans hpreflights) (hposts'.trans hposts))
    (fun _ ↦ eases_failAuthorization workspaceId reservedUntil method failure
      (Option.isSome_of_eq_some hflight)) ?_
  intro key' flight hflight' hother
  have hkey : key' ≠ key := by
    rintro rfl
    rw [hflight] at hflight'
    obtain rfl := Option.some.inj hflight'
    exact hother rfl
  exact (Function.update_of_ne hkey _ _).trans
    ((congrFun (hflights'.trans hflights) key').trans hflight')

theorem guarantee_startFlight (h : s.flightRefusal key = none) :
    (discipline setting timely).guarantee run s (s.startFlight run key) := by
  have hfollows : Follows s (s.startFlight run key) := follows_of_prepared rfl rfl rfl rfl rfl
  refine fun hs ↦ ⟨⟨hfollows.sound hs.sound, fun htimely ↦ ?_⟩, fun j _ ↦ ?_⟩
  · exact spaced_startFlight run h (hs.spaced htimely)
  · refine ⟨le_rfl, List.Subset.refl _, fun key' flight hflight _ ↦ ?_⟩
    have hkey : key' ≠ key := by
      rintro rfl
      rw [(flightRefusal_eq_none h).1] at hflight
      cases hflight
    exact (Function.update_of_ne hkey _ _).trans hflight

theorem guarantee_issueTicket {command : SlackReminderCommand}
    (hworkspace : (setting.registry command.target.workspaceId).isSome)
    (hconsented : Preflight.Consented setting s.observations ⟨command, startedAt, s.now⟩)
    (hidle : s.authorizationInFlight command.target.key = none)
    (hended : timely → s.Ended command.target.key startedAt) :
    (discipline setting timely).guarantee run s (s.issueTicket setting command startedAt) := by
  refine fun hs ↦ ⟨⟨sound_issueTicket hworkspace hconsented hs.sound, fun htimely ↦ ?_⟩,
    fun j _ ↦ ⟨le_rfl, List.Subset.refl _, fun _ _ hflight _ ↦ hflight⟩⟩
  exact spaced_issueTicket hidle (hended htimely) (hs.spaced htimely)

theorem wp_preflight {command : SlackReminderCommand} {connection : Connection}
    (hconnection : setting.registry command.target.workspaceId = some connection)
    (hinv : s.Inv setting timely) :
    wp (discipline setting timely) run (preflight setting run command connection)
      (fun _ _ ↦ True) (fun _ _ ↦ True) s := by
  simp only [preflight, wp_bind, wp_read]
  split
  · trivial
  rename_i hfree
  simp only [wp_bind, wp_read, wp_write]
  have hstart := @guarantee_startFlight setting timely s run command.target.key hfree
  refine ⟨hstart, ?_⟩
  have hunder : Under setting timely run command.target.key s.now
      (s.startFlight run command.target.key) :=
    ⟨(hstart hinv).1, Function.update_self _ _ _, le_rfl⟩
  rw [wp_attempt]
  refine wp_authorize hconnection hunder (fun channel t ht hconsent ↦ ?_) fun interruption t ht ↦ ?_
  · simp only [wp_bind, wp_write, wp_ite, wp_pure, wp_read]
    refine ⟨guarantee_endFlight ht.flight, ?_⟩
    split_ifs with hallowed
    · split
      · trivial
      rw [wp_bind, wp_write]
      obtain ⟨owner, hanswers⟩ := hconsent hallowed
      refine ⟨guarantee_issueTicket (hconnection ▸ rfl) ⟨channel, owner, hanswers⟩
        (Function.update_self _ _ _) fun htimely ↦ ?_, trivial⟩
      obtain ⟨hstarted, hsettled, htickets, hposts⟩ := (ht.inv.spaced htimely).ended ht.flight
      exact ⟨hstarted, hsettled, htickets, hposts⟩
  · cases interruption with
    | returned result => exact ⟨guarantee_endFlight ht.flight, trivial⟩
    | failed failure method =>
        exact ⟨guarantee_failAuthorization _ _ method failure ht.flight, trivial⟩

/-! ### A delivery -/

theorem guarantee_raiseSlot (next : ℤ) :
    (discipline setting timely).guarantee run s (s.raiseSlot key next) :=
  guarantee_of (follows_of_prepared rfl rfl rfl rfl rfl) (fun _ ↦ eases_raiseSlot key next)
    fun _ _ hflight _ ↦ hflight

theorem guarantee_notePost (command : SlackReminderCommand)
    (reply : Except SlackFailure SlackAdapter.PostedMessage) :
    (discipline setting timely).guarantee run s (s.notePost command reply) := by
  have hsame : (discipline setting timely).guarantee run s s :=
    fun hs ↦ ⟨hs, fun j _ ↦ Spares.refl j s⟩
  unfold World.notePost
  split
  · split_ifs
    · exact guarantee_raiseSlot _
    · exact hsame
  · exact hsame

theorem guarantee_startPost {command : SlackReminderCommand} {prepared : Prepared}
    (h : s.ticketFor command = some prepared) :
    (discipline setting timely).guarantee run s
      ((s.takeTicket command).startPost command prepared.ticket) := by
  obtain ⟨hnow, hflights, -, hobservations, -, -⟩ := takeTicket_same (w := s) command
  refine fun hs ↦ ⟨⟨sound_startPost hs.sound h, fun htimely ↦ ?_⟩, fun j _ ↦ ?_⟩
  · exact spaced_startPost (hs.spaced htimely) h
  · refine ⟨hnow.ge, ?_, fun key' flight hflight _ ↦ (congrFun hflights key').trans hflight⟩
    change s.observations ⊆ (s.takeTicket command).observations
    rw [hobservations]
    exact List.Subset.refl _

theorem wp_post {command : SlackReminderCommand} (hinv : s.Inv setting timely) :
    wp (discipline setting timely) run (post setting command)
      (fun _ _ ↦ True) (fun _ _ ↦ True) s := by
  simp only [post, wp_bind, wp_read]
  split
  · rw [wp_bind, wp_write]
    refine ⟨guarantee_of ⟨le_rfl, List.Subset.refl _, ?_, rfl, rfl⟩
      (fun _ ↦ eases_dropPrepared command.outboxId) fun _ _ hflight _ ↦ hflight, trivial⟩
    exact fun o prepared hprepared ↦
      ((eases_dropPrepared command.outboxId).prepared o prepared hprepared).1
  · rename_i prepared hticket
    split
    · -- the workspace of a ticket is known
      rename_i hworkspace
      obtain ⟨hprepared, rfl, -⟩ := ticketFor_eq_some hticket
      obtain ⟨-, ⟨preflight, -, hof⟩, -⟩ := hinv.sound.prepared _ prepared hprepared
      have hknown := hof.workspace
      rw [hworkspace] at hknown
      cases hknown
    · rw [wp_bind, wp_write]
      refine ⟨guarantee_startPost hticket, ?_⟩
      rw [wp_bind, wp_call]
      intro s₁ _ hinv₁ reply s₂ hperform
      have hsame : s₂ = s₁ := by
        cases hperform <;> rfl
      subst hsame
      refine ⟨fun hs ↦ ⟨hs, fun j _ ↦ Spares.refl j _⟩, fun s₃ _ _ ↦ ?_⟩
      rw [wp_bind, wp_write]
      exact ⟨guarantee_notePost command reply, trivial⟩

theorem wp_deliver (body : Option SlackReminderCommand) (preflightOnly : Bool)
    (hinv : s.Inv setting timely) :
    wp (discipline setting timely) run (deliver setting run body preflightOnly)
      (fun _ _ ↦ True) (fun _ _ ↦ True) s := by
  unfold deliver
  split
  · trivial
  · rw [wp_ite]
    split_ifs
    · split
      · trivial
      · rename_i connection hconnection
        exact wp_preflight hconnection hinv
    · exact wp_post hinv

/-! ### Timers -/

theorem clean_same (cleanup : Cleanup) :
    (w.clean cleanup).authorizationInFlight = w.authorizationInFlight ∧
      Follows w (w.clean cleanup) := by
  have hsame : ∀ t : World, t.now = w.now → t.observations = w.observations →
      t.prepared = w.prepared → t.preflights = w.preflights → t.posts = w.posts → Follows w t :=
    fun t ↦ follows_of_prepared
  cases cleanup with
  | slot key next =>
      obtain ⟨hnow, hflights, -, hprepared, -, hobservations, hpreflights, hposts⟩ :=
        clearSlot_same (w := w) key (some next)
      exact ⟨hflights, hsame _ hnow hobservations hprepared hpreflights hposts⟩
  | blocked key deadline =>
      simp only [clean]
      split_ifs <;> exact ⟨rfl, hsame _ rfl rfl rfl rfl rfl⟩
  | ticket o key e =>
      simp only [clean]
      split_ifs
      · obtain ⟨hnow, -, hflights, hprepared, -, hobservations, hpreflights, hposts⟩ :=
          clearTicket_same (w := w.dropPrepared o) o key
        have hkept : w.observations ⊆ ((w.dropPrepared o).clearTicket o key).observations := by
          rw [hobservations]
          exact List.Subset.refl _
        refine ⟨hflights, hnow.ge, hkept, fun o' prepared hp ↦ ?_, hpreflights, hposts⟩
        exact ((eases_dropPrepared o).prepared o' prepared
          ((congrFun hprepared o').symm.trans hp)).1
      · obtain ⟨hnow, -, hflights, hprepared, -, hobservations, hpreflights, hposts⟩ :=
          clearTicket_same (w := w) o key
        exact ⟨hflights, hsame _ hnow hobservations hprepared hpreflights hposts⟩

theorem inv_happens (h : Happens timely s t) (hs : s.Inv setting timely) :
    t.Inv setting timely := by
  cases h with
  | @tick time hnow hdue =>
      have hfollows : Follows s { s with now := time } :=
        ⟨hnow, List.Subset.refl _, fun _ _ hp ↦ hp, rfl, rfl⟩
      refine ⟨hfollows.sound hs.sound, fun htimely ↦ ?_⟩
      exact spaced_tick hnow (hdue htimely) (hs.spaced htimely)
  | @fire timer before after htimers hdue =>
      obtain ⟨due, cleanup⟩ := timer
      have hleft : ({ s with timers := before ++ after } : World).Sound setting :=
        ⟨hs.sound.preflights, hs.sound.prepared, hs.sound.posts, hs.sound.distinct⟩
      refine ⟨(clean_same cleanup).2.sound hleft, fun htimely ↦ ?_⟩
      have hspaced := hs.spaced htimely
      cases cleanup with
      | slot key next =>
          have hnext := hspaced.slots _ (htimers ▸ List.mem_append_right _ List.mem_cons_self)
            key next rfl
          exact (eases_fire_slot htimers (hnext.trans hdue)).spaced hspaced
      | blocked key deadline => exact (eases_fire_blocked htimers).spaced hspaced
      | ticket o key e => exact (eases_fire_ticket htimers).spaced hspaced

theorem spares_happens (h : Happens timely s t) : Spares run s t := by
  cases h with
  | tick hnow _ => exact ⟨hnow, List.Subset.refl _, fun _ _ hflight _ ↦ hflight⟩
  | @fire timer before after _ _ =>
      obtain ⟨hflights, hfollows⟩ :=
        clean_same (w := { s with timers := before ++ after }) timer.cleanup
      exact ⟨hfollows.now, hfollows.observations,
        fun key flight hflight _ ↦ (congrFun hflights key).trans hflight⟩

/-! ### Every run -/

theorem inv_start (time : ℤ) : (World.start time).Inv setting timely where
  sound := by
    refine ⟨?_, ?_, ?_, .nil⟩
    · exact fun _ hmem ↦ absurd hmem List.not_mem_nil
    · exact fun _ _ hprepared ↦ by cases hprepared
    · exact fun _ hmem ↦ absurd hmem List.not_mem_nil
  spaced _ := by
    refine ⟨?_, ?_, ?_, .nil, ?_, ?_, ?_, .nil⟩
    · exact fun _ hmem ↦ absurd hmem List.not_mem_nil
    · exact fun _ hmem ↦ absurd hmem List.not_mem_nil
    · exact fun _ hmem ↦ absurd hmem List.not_mem_nil
    · exact fun _ _ hprepared ↦ by cases hprepared
    · exact fun _ _ hflight ↦ by cases hflight
    · exact fun _ hmem ↦ absurd hmem List.not_mem_nil

theorem obeys : Pool.Obeys (surroundings setting timely) (discipline setting timely) where
  initial := by
    rintro w ⟨time, rfl⟩
    exact inv_start time
  perform h := h
  programs h hinv := by
    cases h with
    | deliver body preflightOnly =>
        rw [wp_bind]
        exact wp_deliver body preflightOnly hinv
  inv_kill h := absurd h id
  rely_kill _ h := absurd h id
  inv_environment h hinv := inv_happens h hinv
  rely_environment h _ := spares_happens h

variable {P : Pool World Call.Reply Interruption ℕ}

theorem inv_of_reachable (h : (connector setting timely).Reachable P) :
    P.shared.Inv setting timely :=
  Pool.inv_of_reachable obeys h

/-! ### Two reminders -/

namespace Sample

def parseDate (text : String) : ℤ := if text = "1970-01-01T01:00:00Z" then 3600000 else 0

def slack : Setting where
  registry workspaceId :=
    if workspaceId = "T1" then some ⟨some "U0", true⟩ else none
  parseDate := parseDate

def command (outboxId : String) : SlackReminderCommand where
  outboxId := outboxId
  runId := "run_1"
  idempotencyKey := outboxId
  ownerId := "U1"
  expiresAt := "1970-01-01T01:00:00Z"
  misfireAt := "1970-01-01T01:00:00Z"
  leaseUntil := "1970-01-01T01:00:00Z"
  target := ⟨"T1", "C1", .channel⟩
  text := "stand-up"

abbrev Move := Pool.Move World Call.Reply Interruption ℕ

/-- Slack lets the owner post and takes every message. -/
def answer : (c : Call) → World → Option (c.Reply × World)
  | .getChannel workspaceId channelId, w =>
      some (.ok ⟨false, true, false, false, none⟩,
        w.observe (.channel workspaceId channelId ⟨false, true, false, false, none⟩))
  | .getUser workspaceId userId, w =>
      some (.ok ⟨false, false, false⟩, w.observe (.user workspaceId userId ⟨false, false, false⟩))
  | .hasChannelMember workspaceId channelId userId, w =>
      some (.ok true, w.observe (.member workspaceId channelId userId true))
  | .postMessage command, w => some (.ok ⟨command.target.channelId, none, "1.000000"⟩, w)

def await (run : ℕ) : List Move := [.perform run answer, .resume run]

def call (run : ℕ) (outboxId : String) (preflightOnly : Bool) : Move :=
  .start run fun _ ↦
    some (deliver slack run (some (command outboxId)) preflightOnly >>= fun _ ↦ pure ())

/-- A preflight and the delivery of its command. -/
def remind (run : ℕ) (outboxId : String) : List Move :=
  call run outboxId true :: (await run ++ await run ++ await run ++ [call (run + 1) outboxId false])

/-- The clock goes on by a second. -/
def second : Move :=
  .environment fun w ↦
    if w.timers.all (fun timer ↦ w.now + 1000 ≤ timer.due) = true then
      some { w with now := w.now + 1000 }
    else none

def reminders : List Move := remind 0 "outbox_1" ++ second :: remind 2 "outbox_2"

theorem lawful_await (run : ℕ) :
    ∀ move ∈ await run, move.Lawful (surroundings slack timely) := by
  intro move hmove
  simp only [await, List.mem_cons, List.not_mem_nil, or_false] at hmove
  rcases hmove with rfl | rfl
  · intro c w r w' h
    cases c with
    | getChannel workspaceId channelId =>
        obtain ⟨rfl, rfl⟩ := Prod.mk.inj (Option.some.inj h)
        exact Performs.getChannel _ _ _ _
    | getUser workspaceId userId =>
        obtain ⟨rfl, rfl⟩ := Prod.mk.inj (Option.some.inj h)
        exact Performs.getUser _ _ _ _
    | hasChannelMember workspaceId channelId userId =>
        obtain ⟨rfl, rfl⟩ := Prod.mk.inj (Option.some.inj h)
        exact Performs.hasChannelMember _ _ _ _ _
    | postMessage command =>
        obtain ⟨rfl, rfl⟩ := Prod.mk.inj (Option.some.inj h)
        exact Performs.postMessage _ _ _
  · trivial

theorem lawful_call (run : ℕ) (outboxId : String) (preflightOnly : Bool) :
    (call run outboxId preflightOnly).Lawful (surroundings slack timely) := by
  intro w p h
  obtain rfl := Option.some.inj h
  exact Starts.deliver _ _

theorem lawful_second : second.Lawful (surroundings slack timely) := by
  intro w w' h
  dsimp only at h
  split_ifs at h with hdue
  obtain rfl := Option.some.inj h
  refine Happens.tick (Int.le_add_of_nonneg_right (by norm_num)) fun _ timer htimer ↦ ?_
  exact of_decide_eq_true (List.all_eq_true.mp hdue timer htimer)

theorem lawful_remind (run : ℕ) (outboxId : String) :
    ∀ move ∈ remind run outboxId, move.Lawful (surroundings slack timely) := by
  intro move hmove
  simp only [remind, List.mem_cons, List.mem_append, List.not_mem_nil, or_false] at hmove
  rcases hmove with rfl | ((hmove | hmove) | hmove) | rfl
  · exact lawful_call _ _ _
  · exact lawful_await run move hmove
  · exact lawful_await run move hmove
  · exact lawful_await run move hmove
  · exact lawful_call _ _ _

theorem lawful_reminders :
    ∀ move ∈ reminders, move.Lawful (surroundings slack timely) := by
  intro move hmove
  simp only [reminders, List.mem_append, List.mem_cons] at hmove
  rcases hmove with hmove | rfl | hmove
  · exact lawful_remind _ _ move hmove
  · exact lawful_second
  · exact lawful_remind _ _ move hmove

/-- Two posts to one channel, a second apart. -/
theorem reachable_reminders : ∃ P, (connector slack timely).Reachable P ∧
    P.shared.posts.map (fun post ↦ (post.command.outboxId, post.startedAt, post.ticket)) =
      [("outbox_1", 0, 0), ("outbox_2", 1000, 1)] := by
  have hscript : (reminders.foldlM Pool.Move.apply ⟨.start 0, fun _ ↦ none⟩).map
      (fun P ↦ P.shared.posts.map fun post ↦
        (post.command.outboxId, post.startedAt, post.ticket)) =
        some [("outbox_1", 0, 0), ("outbox_2", 1000, 1)] := by
    decide
  exact Pool.Script.exists_reachable lawful_reminders ⟨0, rfl⟩ hscript

end Sample

/-- Whatever the timers do, a post has the ticket of a preflight of the same command, which Slack
consented to while it ran, which ended less than a second before and which no other post has. The
command had not expired by then, and was not a misfire. -/
theorem posted_with_own_ticket (h : (connector setting timely).Reachable P) :
    (∀ post ∈ P.shared.posts, ∃ preflight, P.shared.preflights[post.ticket]? = some preflight ∧
      post.Covered setting preflight ∧
        preflight.Consented setting P.shared.observations) ∧
      P.shared.posts.Pairwise fun a b ↦ a.ticket ≠ b.ticket := by
  have hsound := (inv_of_reachable h).sound
  refine ⟨fun post hpost ↦ ?_, hsound.distinct⟩
  obtain ⟨preflight, hpreflight, hcovered⟩ := hsound.posts post hpost
  exact ⟨preflight, hpreflight, hcovered,
    (hsound.preflights preflight (List.mem_of_getElem? hpreflight)).2⟩

open Sample in
theorem posted_with_own_ticket_twice : ∃ P, (connector slack False).Reachable P ∧
    P.shared.posts.length = 2 ∧
      ∀ post ∈ P.shared.posts, ∃ preflight, post.Covered slack preflight := by
  have hreached : ∃ P, (connector slack False).Reachable P ∧ _ := reachable_reminders
  obtain ⟨P, hP, hposts⟩ := hreached
  have hlength := congrArg List.length hposts
  rw [List.length_map] at hlength
  refine ⟨P, hP, hlength, fun post hpost ↦ ?_⟩
  obtain ⟨preflight, -, hcovered, -⟩ := (posted_with_own_ticket hP).1 post hpost
  exact ⟨preflight, hcovered⟩

/-- When timers are timely, a channel has at most one live ticket, and two posts to it start at
least a second apart. -/
theorem channel_ticket_alone (h : (connector setting True).Reachable P) :
    (∀ o o' prepared prepared', P.shared.prepared o = some prepared →
      P.shared.prepared o' = some prepared' → prepared'.key = prepared.key →
        P.shared.now < prepared.ticketExpiresAt → P.shared.now < prepared'.ticketExpiresAt →
          o' = o) ∧
      P.shared.posts.Pairwise fun a b ↦ a.command.target.key = b.command.target.key →
        a.startedAt + 1000 ≤ b.startedAt := by
  have hspaced := (inv_of_reachable h).spaced trivial
  refine ⟨fun o o' prepared prepared' hp hp' hkey hlive hlive' ↦ ?_, hspaced.distances⟩
  exact (hspaced.holds hp hlive).alone o' prepared' hp' hkey hlive'

open Sample in
theorem channel_ticket_alone_twice : ∃ P, (connector slack True).Reachable P ∧
    P.shared.posts.length = 2 ∧
      P.shared.posts.Pairwise fun a b ↦ a.command.target.key = b.command.target.key →
        a.startedAt + 1000 ≤ b.startedAt := by
  have hreached : ∃ P, (connector slack True).Reachable P ∧ _ := reachable_reminders
  obtain ⟨P, hP, hposts⟩ := hreached
  have hlength := congrArg List.length hposts
  rw [List.length_map] at hlength
  exact ⟨P, hP, hlength, (channel_ticket_alone hP).2⟩

end Dona.ReminderConnector
