import Dona.Library.Coroutine

/-!
# Loops and whole runs of a coroutine

The rule of a loop over a list, and the runs of a single coroutine from its first step to its
result. What a weakest precondition promises, every such run keeps. A program all of whose steps
are of one kind keeps, under any interference, what no step of that kind breaks.
-/

namespace Coroutine

variable {σ Call : Type} {Reply : Call → Type} {ε α β τ : Type} {D : Interference σ Reply τ}
  {i : τ} {s : σ}

/-- A loop over a list: `I done todo` holds between the rounds. -/
theorem wp_forM {body : β → Coroutine σ Reply ε PUnit} {I : List β → σ → Prop}
    {Q : PUnit → σ → Prop} {E : ε → σ → Prop} {xs : List β} (hs : I xs s)
    (hbody : ∀ x rest s, I (x :: rest) s → wp D i (body x) (fun _ s ↦ I rest s) E s)
    (hend : ∀ s, I [] s → Q ⟨⟩ s) : wp D i (xs.forM body) Q E s := by
  induction xs generalizing s with
  | nil => exact hend s hs
  | cons x xs ih =>
      change wp D i (body x >>= fun _ ↦ xs.forM body) Q E s
      rw [wp_bind]
      exact wp_mono (fun _ s hs ↦ ih hs) (fun _ _ he ↦ he) (hbody x xs s hs)

/-! ### Programs judged by the kind of their steps -/

/-- No interference at all: a program may do the steps of the kind `kind`. -/
def Interference.ofSteps (perform : (c : Call) → σ → Reply c → σ → Prop) (kind : σ → σ → Prop) :
    Interference σ Reply Unit where
  perform := perform
  inv := fun _ ↦ True
  rely := fun _ _ _ ↦ True
  guarantee := fun _ ↦ kind
  rely_refl := fun _ _ ↦ trivial
  rely_trans := fun _ _ ↦ trivial
  inv_guarantee := fun _ _ ↦ trivial
  rely_guarantee := fun _ _ _ ↦ trivial

/-- Every step of the program is of the kind, whatever state the others leave it. -/
abbrev TakesOnly (perform : (c : Call) → σ → Reply c → σ → Prop) (kind : σ → σ → Prop)
    (p : Coroutine σ Reply ε α) : Prop := Safe (Interference.ofSteps perform kind) () p

/-- What neither the others break nor a step of the kind, the program keeps. -/
theorem TakesOnly.keeps {kind : σ → σ → Prop} {R : σ → Prop} {p : Coroutine σ Reply ε α}
    (hrely : ∀ {s t}, D.rely i s t → D.inv t → R s → R t)
    (hkind : ∀ {s t}, kind s t → D.inv s → R s → D.guarantee i s t ∧ R t)
    (hp : TakesOnly D.perform kind p) : Keeps D i (fun s ↦ D.inv s ∧ R s) p := by
  intro s hs
  have hwp := hp s
  clear hp
  induction p generalizing s with
  | done result => cases result <;> exact hs
  | get next ih => exact ih s s hs hwp
  | put t next ih =>
      obtain ⟨hstep, hnext⟩ := hwp
      obtain ⟨ht, hR⟩ := hkind hstep hs.1 hs.2
      exact ⟨ht, ih t ⟨D.inv_guarantee ht hs.1, hR⟩ hnext⟩
  | await c next ih =>
      intro s₁ hs₁ hinv r s₂ hs₂
      obtain ⟨hstep, hnext⟩ := hwp s₁ trivial trivial r s₂ hs₂
      obtain ⟨ht, hR⟩ := hkind hstep hinv (hrely hs₁ hinv hs.2)
      refine ⟨ht, fun s₃ hs₃ hinv₃ ↦ ih r s₃ ⟨hinv₃, hrely hs₃ hinv₃ hR⟩ (hnext s₃ trivial trivial)⟩

/-! ### Runs of one program -/

/-- The program can go from `s` to a result and a state, with the calls that `perform` admits. -/
inductive Finishes (perform : (c : Call) → σ → Reply c → σ → Prop) :
    Coroutine σ Reply ε α → σ → Except ε α → σ → Prop
  | done {result : Except ε α} {s : σ} : Finishes perform (.done result) s result s
  | get {next : σ → Coroutine σ Reply ε α} {result : Except ε α} {s t : σ} :
      Finishes perform (next s) s result t → Finishes perform (.get next) s result t
  | put {next : Coroutine σ Reply ε α} {result : Except ε α} {s t u : σ} :
      Finishes perform next u result t → Finishes perform (.put u next) s result t
  | await {call : Call} {next : Reply call → Coroutine σ Reply ε α} {reply : Reply call}
      {result : Except ε α} {s t u : σ} : perform call s reply u →
      Finishes perform (next reply) u result t → Finishes perform (.await call next) s result t

variable {perform : (c : Call) → σ → Reply c → σ → Prop} {p : Coroutine σ Reply ε α}

/-- The discipline of a program that runs alone. -/
def solo (perform : (c : Call) → σ → Reply c → σ → Prop) : Interference σ Reply Unit :=
  .ofRely perform (fun _ ↦ True) (fun _ s t ↦ s = t) (fun _ _ ↦ rfl) fun h h' ↦ h.trans h'

theorem solo_guarantee {s t : σ} : (solo perform).guarantee () s t :=
  fun _ ↦ ⟨trivial, fun _ hj ↦ absurd rfl hj⟩

theorem wp_solo_call {c : Call} {Q : Reply c → σ → Prop} {E : ε → σ → Prop}
    (h : ∀ r t, perform c s r t → Q r t) :
    wp (solo perform) () (call c : Coroutine σ Reply ε (Reply c)) Q E s := by
  rw [wp_call]
  rintro s₁ rfl - r t ht
  refine ⟨solo_guarantee, ?_⟩
  rintro s₃ rfl -
  exact h r t ht

/-- Every run alone ends as the weakest precondition says. -/
theorem Finishes.post {result : Except ε α} {t : σ} (h : Finishes perform p s result t)
    {Q : α → σ → Prop} {E : ε → σ → Prop} (hwp : wp (solo perform) () p Q E s) :
    (∀ a, result = .ok a → Q a t) ∧ ∀ e, result = .error e → E e t := by
  induction h with
  | @done result s =>
      constructor
      · rintro a rfl
        exact hwp
      · rintro e rfl
        exact hwp
  | get _ ih => exact ih hwp
  | put _ ih => exact ih hwp.2
  | await hperform _ ih =>
      obtain ⟨-, hnext⟩ := hwp _ rfl trivial _ _ hperform
      exact ih (hnext _ rfl trivial)

/-- A program that cannot throw ends with a result. -/
theorem Finishes.post_ok {result : Except ε α} {t : σ} (h : Finishes perform p s result t)
    {Q : α → σ → Prop} (hwp : wp (solo perform) () p Q (fun _ _ ↦ False) s) :
    ∃ a, result = .ok a ∧ Q a t := by
  obtain ⟨hok, herror⟩ := h.post hwp
  cases result with
  | ok a => exact ⟨a, rfl, hok a rfl⟩
  | error e => exact (herror e rfl).elim

/-- The run in which the `n`-th call from here is answered by `answer n`. -/
def play (answer : ℕ → (c : Call) → σ → Reply c × σ) :
    ℕ → Coroutine σ Reply ε α → σ → Except ε α × σ
  | _, done result, s => (result, s)
  | n, get next, s => play answer n (next s) s
  | n, put t next, _ => play answer n next t
  | n, await c next, s => play answer (n + 1) (next (answer n c s).1) (answer n c s).2

theorem finishes_play {answer : ℕ → (c : Call) → σ → Reply c × σ}
    (h : ∀ n c s, perform c s (answer n c s).1 (answer n c s).2) (n : ℕ)
    (p : Coroutine σ Reply ε α) (s : σ) :
    Finishes perform p s (play answer n p s).1 (play answer n p s).2 := by
  induction p generalizing n s with
  | done result => exact .done
  | get next ih => exact .get (ih s n s)
  | put t next ih => exact .put (ih n t)
  | await c next ih => exact .await (h n c s) (ih _ (n + 1) _)

end Coroutine

namespace Pool

open Coroutine

variable {σ Call : Type} {Reply : Call → Type} {ε τ : Type} [DecidableEq τ]
  {W : Surroundings σ Reply ε τ} {P : Pool σ Reply ε τ} {i : τ}

/-- A program that is launched from a reachable pool can take the calls of one of its runs. -/
theorem reachable_of_launch {perform : (c : Call) → σ → Reply c → σ → Prop}
    (hW : ∀ {c s r t}, perform c s r t → W.perform c s r t) {p : Coroutine σ Reply ε Unit} {s t : σ}
    {result : Except ε Unit} (hp : Finishes perform p s result t) (hs : P.shared = s)
    (h : (system W).Reachable (P.launch i p)) :
    ∃ P', (system W).Reachable P' ∧ P'.shared = t ∧ P'.runs i = none := by
  induction hp generalizing P with
  | done =>
      refine ⟨_, h, hs, ?_⟩
      simp [launch, settle]
  | get _ ih =>
      subst hs
      exact ih rfl h
  | @put next result s t u _ ih =>
      exact ih (P := ⟨u, P.runs⟩) rfl h
  | @await c next reply result s t u hperform _ ih =>
      subst hs
      have hrun : (P.launch i (.await c next)).runs i = some ⟨c, next, none⟩ := by
        simp [launch, settle]
      have hperformed := h.step (.perform hrun rfl (hW hperform))
      have hresumed := hperformed.step
        (@Step.resume σ Call Reply ε τ _ W _ i ⟨c, next, some reply⟩ reply (by simp) rfl)
      exact ih rfl hresumed

/-- A run of a program that may start in a reachable pool leads to a reachable pool. -/
theorem reachable_of_finishes {perform : (c : Call) → σ → Reply c → σ → Prop}
    (hW : ∀ {c s r t}, perform c s r t → W.perform c s r t) (h : (system W).Reachable P)
    (hidle : P.runs i = none) {p : Coroutine σ Reply ε Unit} (hprogram : W.programs i P.shared p)
    {result : Except ε Unit} {t : σ} (hp : Finishes perform p P.shared result t) :
    ∃ P', (system W).Reachable P' ∧ P'.shared = t ∧ P'.runs i = none :=
  reachable_of_launch hW hp rfl (h.step (.start hidle hprogram))

end Pool
