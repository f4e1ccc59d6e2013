import Dona.Library.TransitionSystem
import Mathlib.Data.List.Basic
import Mathlib.Logic.Function.Basic

/-!
# Coroutines over a shared state

A program whose steps between two awaits are atomic: it reads and writes a shared state,
suspends on a call, and goes on with the reply. A pool interleaves any number of such programs
at their awaits. A call takes effect at one moment between the suspension and the resumption,
other programs run before and after that moment, and a program can die while it is suspended.

`wp` is the weakest precondition of a program under interference: what the others may do to the
shared state is a relation `rely`, what the program itself may do is a relation `guarantee`.
`Pool.inv_of_reachable` is the rely-guarantee rule: an invariant which every guarantee keeps
holds in every state that the pool reaches, if what one program guarantees is what the other
ones rely on. A `Script` is one interleaving, which `Script.reachable` runs.
-/

inductive Coroutine (σ : Type) {Call : Type} (Reply : Call → Type) (ε α : Type)
  | done (result : Except ε α)
  | get (next : σ → Coroutine σ Reply ε α)
  | put (state : σ) (next : Coroutine σ Reply ε α)
  | await (call : Call) (next : Reply call → Coroutine σ Reply ε α)

namespace Coroutine

variable {σ Call : Type} {Reply : Call → Type} {ε α β : Type}

/-! ### Sequencing and exceptions -/

def bind : Coroutine σ Reply ε α → (α → Coroutine σ Reply ε β) → Coroutine σ Reply ε β
  | done (.ok a), f => f a
  | done (.error e), _ => done (.error e)
  | get next, f => get fun s ↦ (next s).bind f
  | put s next, f => put s (next.bind f)
  | await call next, f => await call fun r ↦ (next r).bind f

def handle : Coroutine σ Reply ε α → (ε → Coroutine σ Reply ε α) → Coroutine σ Reply ε α
  | done (.ok a), _ => done (.ok a)
  | done (.error e), f => f e
  | get next, f => get fun s ↦ (next s).handle f
  | put s next, f => put s (next.handle f)
  | await call next, f => await call fun r ↦ (next r).handle f

instance : Monad (Coroutine σ Reply ε) where
  pure a := done (.ok a)
  bind := bind

instance : MonadExcept ε (Coroutine σ Reply ε) where
  throw e := done (.error e)
  tryCatch := handle

/-- Reads the shared state. -/
def read (f : σ → α) : Coroutine σ Reply ε α := get fun s ↦ done (.ok (f s))

/-- Writes the shared state. -/
def write (f : σ → σ) : Coroutine σ Reply ε Unit := get fun s ↦ put (f s) (done (.ok ()))

/-- A transaction on the shared state; a throw leaves it as it was. -/
def transact (f : σ → Except ε (α × σ)) : Coroutine σ Reply ε α :=
  get fun s ↦
    match f s with
    | .ok (a, t) => put t (done (.ok a))
    | .error e => done (.error e)

/-- Suspends on a call. -/
def call (c : Call) : Coroutine σ Reply ε (Reply c) := await c fun r ↦ done (.ok r)

/-- The result of a program, a throw included. -/
def attempt (p : Coroutine σ Reply ε α) : Coroutine σ Reply ε (Except ε α) :=
  tryCatch (Except.ok <$> p) fun e ↦ pure (.error e)

/-- At most `n` rounds of a loop, then `out`. A round ends the loop with `Sum.inr`. -/
def iterate (body : β → Coroutine σ Reply ε (β ⊕ α)) (out : Coroutine σ Reply ε α) :
    ℕ → β → Coroutine σ Reply ε α
  | 0, _ => out
  | n + 1, b => do
      match ← body b with
      | .inl b => iterate body out n b
      | .inr a => pure a

/-! ### Weakest preconditions under interference -/

/-- The interference between the programs `τ` of a pool: the effect of a call, the invariant of
the shared state, what a program relies on and what it guarantees. -/
structure Interference (σ : Type) {Call : Type} (Reply : Call → Type) (τ : Type) where
  perform : (c : Call) → σ → Reply c → σ → Prop
  inv : σ → Prop
  rely : τ → σ → σ → Prop
  guarantee : τ → σ → σ → Prop
  rely_refl : ∀ i s, rely i s s
  rely_trans : ∀ {i s t u}, rely i s t → rely i t u → rely i s u
  inv_guarantee : ∀ {i s t}, guarantee i s t → inv s → inv t
  rely_guarantee : ∀ {i j s t}, i ≠ j → guarantee i s t → inv s → rely j s t

/-- The weakest guarantee: a step keeps the invariant and what the other programs rely on. -/
def Interference.ofRely {τ : Type} (perform : (c : Call) → σ → Reply c → σ → Prop) (inv : σ → Prop)
    (rely : τ → σ → σ → Prop) (rely_refl : ∀ i s, rely i s s)
    (rely_trans : ∀ {i s t u}, rely i s t → rely i t u → rely i s u) :
    Interference σ Reply τ where
  perform := perform
  inv := inv
  rely := rely
  guarantee i s t := inv s → inv t ∧ ∀ j, i ≠ j → rely j s t
  rely_refl := rely_refl
  rely_trans := rely_trans
  inv_guarantee h hs := (h hs).1
  rely_guarantee hij h hs := (h hs).2 _ hij

variable {τ : Type} {D : Interference σ Reply τ} {i : τ}

def wp (D : Interference σ Reply τ) (i : τ) :
    Coroutine σ Reply ε α → (α → σ → Prop) → (ε → σ → Prop) → σ → Prop
  | done (.ok a), Q, _, s => Q a s
  | done (.error e), _, E, s => E e s
  | get next, Q, E, s => wp D i (next s) Q E s
  | put t next, Q, E, s => D.guarantee i s t ∧ wp D i next Q E t
  | await c next, Q, E, s => ∀ s₁, D.rely i s s₁ → D.inv s₁ → ∀ r s₂, D.perform c s₁ r s₂ →
      D.guarantee i s₁ s₂ ∧ ∀ s₃, D.rely i s₂ s₃ → D.inv s₃ → wp D i (next r) Q E s₃

variable {Q : α → σ → Prop} {E : ε → σ → Prop} {s : σ}

@[simp] theorem wp_pure (a : α) : wp D i (pure a) Q E s ↔ Q a s := Iff.rfl

@[simp] theorem wp_throw (e : ε) : wp D i (throw e : Coroutine σ Reply ε α) Q E s ↔ E e s := Iff.rfl

theorem wp_bind {p : Coroutine σ Reply ε α} {f : α → Coroutine σ Reply ε β}
    {Q : β → σ → Prop} :
    wp D i (p >>= f) Q E s ↔ wp D i p (fun a s ↦ wp D i (f a) Q E s) E s := by
  change wp D i (p.bind f) Q E s ↔ _
  induction p generalizing s with
  | done result => cases result <;> exact Iff.rfl
  | get next ih => exact ih s
  | put t next ih => exact and_congr Iff.rfl ih
  | await c next ih =>
      refine forall₃_congr fun s₁ _ _ ↦ forall₃_congr fun r s₂ _ ↦ and_congr Iff.rfl ?_
      exact forall₃_congr fun s₃ _ _ ↦ ih r

theorem wp_tryCatch {p : Coroutine σ Reply ε α} {f : ε → Coroutine σ Reply ε α} :
    wp D i (tryCatch p f) Q E s ↔ wp D i p Q (fun e s ↦ wp D i (f e) Q E s) s := by
  change wp D i (p.handle f) Q E s ↔ _
  induction p generalizing s with
  | done result => cases result <;> exact Iff.rfl
  | get next ih => exact ih s
  | put t next ih => exact and_congr Iff.rfl ih
  | await c next ih =>
      refine forall₃_congr fun s₁ _ _ ↦ forall₃_congr fun r s₂ _ ↦ and_congr Iff.rfl ?_
      exact forall₃_congr fun s₃ _ _ ↦ ih r

@[simp] theorem wp_read (f : σ → α) : wp D i (read f) Q E s ↔ Q (f s) s := Iff.rfl

@[simp] theorem wp_write (f : σ → σ) {Q : Unit → σ → Prop} :
    wp D i (write f) Q E s ↔ D.guarantee i s (f s) ∧ Q () (f s) := Iff.rfl

theorem wp_transact {f : σ → Except ε (α × σ)}
    (hok : ∀ a t, f s = .ok (a, t) → D.guarantee i s t ∧ Q a t)
    (herror : ∀ e, f s = .error e → E e s) : wp D i (transact f) Q E s := by
  simp only [transact, wp]
  split
  · rename_i a t hf
    exact hok a t hf
  · rename_i e hf
    exact herror e hf

theorem wp_call {c : Call} {Q : Reply c → σ → Prop} :
    wp D i (call c) Q E s ↔ ∀ s₁, D.rely i s s₁ → D.inv s₁ → ∀ r s₂, D.perform c s₁ r s₂ →
      D.guarantee i s₁ s₂ ∧ ∀ s₃, D.rely i s₂ s₃ → D.inv s₃ → Q r s₃ := Iff.rfl

theorem wp_mono {p : Coroutine σ Reply ε α} {Q' : α → σ → Prop} {E' : ε → σ → Prop}
    (hQ : ∀ a s, Q a s → Q' a s) (hE : ∀ e s, E e s → E' e s) (h : wp D i p Q E s) :
    wp D i p Q' E' s := by
  induction p generalizing s with
  | done result =>
      cases result with
      | ok a => exact hQ a s h
      | error e => exact hE e s h
  | get next ih => exact ih s h
  | put t next ih => exact ⟨h.1, ih h.2⟩
  | await c next ih =>
      intro s₁ hs₁ hinv₁ r s₂ hs₂
      obtain ⟨hguarantee, hnext⟩ := h s₁ hs₁ hinv₁ r s₂ hs₂
      exact ⟨hguarantee, fun s₃ hs₃ hinv₃ ↦ ih r (hnext s₃ hs₃ hinv₃)⟩

@[simp] theorem wp_ite {c : Prop} [Decidable c] {p q : Coroutine σ Reply ε α} :
    wp D i (if c then p else q) Q E s ↔ if c then wp D i p Q E s else wp D i q Q E s := by
  split_ifs <;> exact Iff.rfl

theorem wp_attempt {p : Coroutine σ Reply ε α} {Q : Except ε α → σ → Prop} :
    wp D i (attempt p) Q E s ↔
      wp D i p (fun a s ↦ Q (.ok a) s) (fun e s ↦ Q (.error e) s) s := by
  rw [attempt, wp_tryCatch]
  exact wp_bind

/-- The rule of a loop: what holds before each round and leaves the loop with `Q`. -/
theorem wp_iterate {body : β → Coroutine σ Reply ε (β ⊕ α)} {out : Coroutine σ Reply ε α}
    {I : β → σ → Prop} (hout : ∀ b s, I b s → wp D i out Q E s)
    (hbody : ∀ b s, I b s → wp D i (body b) (fun r s ↦ r.elim (I · s) (Q · s)) E s) (n : ℕ) (b : β)
    {s : σ} (hs : I b s) : wp D i (iterate body out n b) Q E s := by
  induction n generalizing b s with
  | zero => exact hout b s hs
  | succ n ih =>
      rw [iterate, wp_bind]
      refine wp_mono ?_ (fun _ _ h ↦ h) (hbody b s hs)
      rintro (b' | a) t ht
      · exact ih b' ht
      · exact ht

/-! ### Programs that keep an assertion -/

/-- From every state that meets `R` each step of the program meets the guarantee, and the program
ends in a state that meets `R`. -/
def Keeps (D : Interference σ Reply τ) (i : τ) (R : σ → Prop) (p : Coroutine σ Reply ε α) : Prop :=
  ∀ s, R s → wp D i p (fun _ ↦ R) (fun _ ↦ R) s

section

variable {R : σ → Prop}

theorem keeps_pure (a : α) : Keeps D i R (pure a : Coroutine σ Reply ε α) := fun _ hs ↦ hs

theorem keeps_throw (e : ε) : Keeps D i R (throw e : Coroutine σ Reply ε α) := fun _ hs ↦ hs

theorem keeps_read (f : σ → α) : Keeps D i R (read f : Coroutine σ Reply ε α) := fun _ hs ↦ hs

theorem Keeps.bind {p : Coroutine σ Reply ε α} {f : α → Coroutine σ Reply ε β}
    (hp : Keeps D i R p) (hf : ∀ a, Keeps D i R (f a)) : Keeps D i R (p >>= f) := by
  intro s hs
  rw [wp_bind]
  exact wp_mono (fun a s hs ↦ hf a s hs) (fun _ _ hs ↦ hs) (hp s hs)

theorem Keeps.attempt {p : Coroutine σ Reply ε α} (hp : Keeps D i R p) :
    Keeps D i R (attempt p) := by
  intro s hs
  rw [wp_attempt]
  exact hp s hs

theorem Keeps.ite {c : Prop} [Decidable c] {p q : Coroutine σ Reply ε α} (hp : Keeps D i R p)
    (hq : Keeps D i R q) : Keeps D i R (if c then p else q) := by
  split_ifs
  · exact hp
  · exact hq

theorem keeps_write {f : σ → σ} (hf : ∀ s, R s → D.guarantee i s (f s) ∧ R (f s)) :
    Keeps D i R (write f : Coroutine σ Reply ε Unit) := hf

/-- A call that keeps the assertion, which the others do not break. -/
theorem keeps_call {c : Call} (hrely : ∀ {s t}, D.rely i s t → D.inv t → R s → R t)
    (hc : ∀ s r t, D.inv s → R s → D.perform c s r t → D.guarantee i s t ∧ R t) :
    Keeps D i R (call c : Coroutine σ Reply ε (Reply c)) := by
  intro s hs
  rw [wp_call]
  intro s₁ hs₁ hinv r s₂ hs₂
  obtain ⟨hguarantee, hR⟩ := hc s₁ r s₂ hinv (hrely hs₁ hinv hs) hs₂
  exact ⟨hguarantee, fun s₃ hs₃ hinv₃ ↦ hrely hs₃ hinv₃ hR⟩

end

/-! ### Programs that may run anywhere -/

/-- Whatever state the program starts from, each of its steps meets the guarantee. -/
def Safe (D : Interference σ Reply τ) (i : τ) (p : Coroutine σ Reply ε α) : Prop :=
  ∀ s, wp D i p (fun _ _ ↦ True) (fun _ _ ↦ True) s

theorem safe_iff_keeps {p : Coroutine σ Reply ε α} :
    Safe D i p ↔ Keeps D i (fun _ ↦ True) p := forall_congr' fun _ ↦ (forall_const True).symm

theorem Keeps.safe {p : Coroutine σ Reply ε α} (h : Keeps D i (fun _ ↦ True) p) : Safe D i p :=
  safe_iff_keeps.mpr h

theorem Safe.keeps {p : Coroutine σ Reply ε α} (h : Safe D i p) : Keeps D i (fun _ ↦ True) p :=
  safe_iff_keeps.mp h

theorem Safe.wp {p : Coroutine σ Reply ε α} (h : Safe D i p) (hQ : ∀ a s, Q a s)
    (hE : ∀ e s, E e s) : wp D i p Q E s :=
  wp_mono (fun a s _ ↦ hQ a s) (fun e s _ ↦ hE e s) (h s)

theorem safe_pure (a : α) : Safe D i (pure a : Coroutine σ Reply ε α) := (keeps_pure a).safe

theorem safe_throw (e : ε) : Safe D i (throw e : Coroutine σ Reply ε α) := (keeps_throw e).safe

theorem safe_read (f : σ → α) : Safe D i (read f : Coroutine σ Reply ε α) := (keeps_read f).safe

theorem Safe.bind {p : Coroutine σ Reply ε α} {f : α → Coroutine σ Reply ε β} (hp : Safe D i p)
    (hf : ∀ a, Safe D i (f a)) : Safe D i (p >>= f) :=
  (hp.keeps.bind fun a ↦ (hf a).keeps).safe

theorem Safe.attempt {p : Coroutine σ Reply ε α} (hp : Safe D i p) : Safe D i (attempt p) :=
  hp.keeps.attempt.safe

theorem Safe.ite {c : Prop} [Decidable c] {p q : Coroutine σ Reply ε α} (hp : Safe D i p)
    (hq : Safe D i q) : Safe D i (if c then p else q) := (Keeps.ite hp.keeps hq.keeps).safe

theorem Safe.iterate {body : β → Coroutine σ Reply ε (β ⊕ α)} {out : Coroutine σ Reply ε α}
    (hout : Safe D i out) (hbody : ∀ b, Safe D i (body b)) (n : ℕ) (b : β) :
    Safe D i (iterate body out n b) := by
  intro s
  refine wp_iterate (I := fun _ _ ↦ True) (fun b s _ ↦ hout s) (fun b s _ ↦ ?_) n b trivial
  refine wp_mono ?_ (fun _ _ _ ↦ trivial) (hbody b s)
  rintro (b | a) t - <;> trivial

theorem safe_write {f : σ → σ} (hf : ∀ s, D.guarantee i s (f s)) :
    Safe D i (write f : Coroutine σ Reply ε Unit) := fun s ↦ ⟨hf s, trivial⟩

theorem safe_transact {f : σ → Except ε (α × σ)}
    (hf : ∀ s a t, f s = .ok (a, t) → D.guarantee i s t) : Safe D i (transact f) :=
  fun s ↦ wp_transact (fun a t h ↦ ⟨hf s a t h, trivial⟩) fun _ _ ↦ trivial

theorem safe_call {c : Call} (hc : ∀ s r t, D.inv s → D.perform c s r t → D.guarantee i s t) :
    Safe D i (call c : Coroutine σ Reply ε (Reply c)) :=
  fun _ s₁ _ hinv r s₂ hs₂ ↦ ⟨hc s₁ r s₂ hinv hs₂, fun _ _ _ ↦ trivial⟩

/-- An assertion that no step breaks, of this program or of the others, is kept. -/
theorem Safe.keeps_of_stable {R : σ → Prop} {p : Coroutine σ Reply ε α}
    (hrely : ∀ {s t}, D.rely i s t → R s → R t)
    (hguarantee : ∀ {s t}, D.guarantee i s t → D.inv s → R s → R t) (hp : Safe D i p) :
    Keeps D i (fun s ↦ D.inv s ∧ R s) p := by
  intro s hs
  have hwp := hp s
  clear hp
  induction p generalizing s with
  | done result => cases result <;> exact hs
  | get next ih => exact ih s s hs hwp
  | put t next ih =>
      obtain ⟨ht, hnext⟩ := hwp
      exact ⟨ht, ih t ⟨D.inv_guarantee ht hs.1, hguarantee ht hs.1 hs.2⟩ hnext⟩
  | await c next ih =>
      intro s₁ hs₁ hinv r s₂ hs₂
      obtain ⟨hstep, hnext⟩ := hwp s₁ hs₁ hinv r s₂ hs₂
      have hR := hguarantee hstep hinv (hrely hs₁ hs.2)
      exact ⟨hstep, fun s₃ hs₃ hinv₃ ↦ ih r s₃ ⟨hinv₃, hrely hs₃ hR⟩ (hnext s₃ hs₃ hinv₃)⟩

/-! ### Pools -/

/-- A program suspended on a call, before or after the call took effect. -/
structure Suspended (σ : Type) {Call : Type} (Reply : Call → Type) (ε : Type) where
  call : Call
  next : Reply call → Coroutine σ Reply ε Unit
  reply : Option (Reply call)

/-- Runs a program to its next await. -/
def settle : Coroutine σ Reply ε Unit → σ → Option (Suspended σ Reply ε) × σ
  | done _, s => (none, s)
  | get next, s => settle (next s) s
  | put t next, _ => settle next t
  | await call next, s => (some ⟨call, next, none⟩, s)

end Coroutine

/-- Programs under way, over a shared state. -/
structure Pool (σ : Type) {Call : Type} (Reply : Call → Type) (ε τ : Type) where
  shared : σ
  runs : τ → Option (Coroutine.Suspended σ Reply ε)

namespace Pool

open Coroutine

variable {σ Call : Type} {Reply : Call → Type} {ε τ : Type}

section

variable [DecidableEq τ]

/-- The program `i` goes on with `p` up to its next await. -/
def launch (P : Pool σ Reply ε τ) (i : τ) (p : Coroutine σ Reply ε Unit) : Pool σ Reply ε τ where
  shared := (settle p P.shared).2
  runs := Function.update P.runs i (settle p P.shared).1

inductive Event (τ : Type)
  | start (i : τ)
  | perform (i : τ)
  | resume (i : τ)
  | kill (i : τ)
  | environment

/-- What surrounds the programs of a pool: the programs that may start, what their death does to
the shared state, and what else may happen to it. -/
structure Surroundings (σ : Type) {Call : Type} (Reply : Call → Type) (ε τ : Type) where
  initial : σ → Prop
  perform : (c : Call) → σ → Reply c → σ → Prop
  programs : τ → σ → Coroutine σ Reply ε Unit → Prop
  kill : τ → σ → σ → Prop
  environment : σ → σ → Prop

inductive Step (W : Surroundings σ Reply ε τ) :
    Pool σ Reply ε τ → Event τ → Pool σ Reply ε τ → Prop
  | start {P : Pool σ Reply ε τ} {i : τ} {p : Coroutine σ Reply ε Unit} :
      P.runs i = none → W.programs i P.shared p → Step W P (.start i) (P.launch i p)
  | perform {P : Pool σ Reply ε τ} {i : τ} {run : Suspended σ Reply ε} {r : Reply run.call} {t : σ} :
      P.runs i = some run → run.reply = none → W.perform run.call P.shared r t →
        Step W P (.perform i) ⟨t, Function.update P.runs i (some ⟨run.call, run.next, some r⟩)⟩
  | resume {P : Pool σ Reply ε τ} {i : τ} {run : Suspended σ Reply ε} {r : Reply run.call} :
      P.runs i = some run → run.reply = some r → Step W P (.resume i) (P.launch i (run.next r))
  | kill {P : Pool σ Reply ε τ} {i : τ} {t : σ} :
      W.kill i P.shared t → Step W P (.kill i) ⟨t, Function.update P.runs i none⟩
  | environment {P : Pool σ Reply ε τ} {t : σ} :
      W.environment P.shared t → Step W P .environment ⟨t, P.runs⟩

/-- All interleavings of the programs, from states in which none is under way. -/
def system (W : Surroundings σ Reply ε τ) : TransitionSystem (Pool σ Reply ε τ) (Event τ) where
  initial P := W.initial P.shared ∧ ∀ i, P.runs i = none
  step := Step W

end

/-! ### The rely-guarantee rule -/

/-- The surroundings respect an interference discipline. -/
structure Obeys (W : Surroundings σ Reply ε τ) (D : Interference σ Reply τ) : Prop where
  initial : ∀ {s}, W.initial s → D.inv s
  perform : ∀ {c s r t}, W.perform c s r t → D.perform c s r t
  programs : ∀ {i p s}, W.programs i s p → D.inv s → wp D i p (fun _ _ ↦ True) (fun _ _ ↦ True) s
  inv_kill : ∀ {i s t}, W.kill i s t → D.inv s → D.inv t
  rely_kill : ∀ {i j s t}, i ≠ j → W.kill i s t → D.inv s → D.rely j s t
  inv_environment : ∀ {s t}, W.environment s t → D.inv s → D.inv t
  rely_environment : ∀ {j s t}, W.environment s t → D.inv s → D.rely j s t

/-- What is left of a suspended program obeys the discipline. -/
def RunOk (D : Interference σ Reply τ) (i : τ) (run : Suspended σ Reply ε) (s : σ) : Prop :=
  match run.reply with
  | none => wp D i (.await run.call run.next) (fun _ _ ↦ True) (fun _ _ ↦ True) s
  | some r => ∀ t, D.rely i s t → D.inv t →
      wp D i (run.next r) (fun _ _ ↦ True) (fun _ _ ↦ True) t

theorem RunOk.rely {D : Interference σ Reply τ} {i : τ} {run : Suspended σ Reply ε} {s t : σ}
    (h : RunOk D i run s) (ht : D.rely i s t) : RunOk D i run t := by
  unfold RunOk at h ⊢
  split
  · rename_i hreply
    rw [hreply] at h
    intro s₁ hs₁
    exact h s₁ (D.rely_trans ht hs₁)
  · rename_i r hreply
    rw [hreply] at h
    intro u hu
    exact h u (D.rely_trans ht hu)

/-- Running a program to its next await keeps the invariant and what the others rely on. -/
theorem settle_ok {D : Interference σ Reply τ} {i : τ} {p : Coroutine σ Reply ε Unit} {s : σ}
    (h : wp D i p (fun _ _ ↦ True) (fun _ _ ↦ True) s) (hs : D.inv s) :
    D.inv (settle p s).2 ∧ (∀ j, i ≠ j → D.rely j s (settle p s).2) ∧
      ∀ run, (settle p s).1 = some run → RunOk D i run (settle p s).2 := by
  induction p generalizing s with
  | done result => exact ⟨hs, fun j _ ↦ D.rely_refl j s, fun run hrun ↦ by cases hrun⟩
  | get next ih => exact ih s h hs
  | put t next ih =>
      obtain ⟨hguarantee, hnext⟩ := h
      obtain ⟨hinv, hrely, hrun⟩ := ih hnext (D.inv_guarantee hguarantee hs)
      exact ⟨hinv, fun j hj ↦ D.rely_trans (D.rely_guarantee hj hguarantee hs) (hrely j hj), hrun⟩
  | await c next ih =>
      refine ⟨hs, fun j _ ↦ D.rely_refl j s, fun run hrun ↦ ?_⟩
      obtain rfl := Option.some.inj hrun
      exact h

structure Ok (D : Interference σ Reply τ) (P : Pool σ Reply ε τ) : Prop where
  inv : D.inv P.shared
  runs : ∀ {i run}, P.runs i = some run → RunOk D i run P.shared

variable [DecidableEq τ] {W : Surroundings σ Reply ε τ} {D : Interference σ Reply τ}
  {P P' : Pool σ Reply ε τ}

theorem Ok.launch (h : P.Ok D) {i : τ} {p : Coroutine σ Reply ε Unit}
    (hp : wp D i p (fun _ _ ↦ True) (fun _ _ ↦ True) P.shared) : (P.launch i p).Ok D := by
  obtain ⟨hinv, hrely, hrun⟩ := settle_ok hp h.inv
  refine ⟨hinv, fun {j run} hj ↦ ?_⟩
  by_cases hji : j = i
  · subst hji
    simp only [Pool.launch, Function.update_self] at hj
    exact hrun run hj
  · simp only [Pool.launch, Function.update_of_ne hji] at hj
    exact (h.runs hj).rely (hrely j (Ne.symm hji))

theorem Ok.step (hW : Obeys W D) {event : Event τ} (h : P.Ok D) (hstep : Step W P event P') :
    P'.Ok D := by
  cases hstep with
  | start _ hprogram => exact h.launch (hW.programs hprogram h.inv)
  | @perform i run r t hrun hreply hperform =>
      have hok := h.runs hrun
      simp only [RunOk, hreply] at hok
      obtain ⟨hguarantee, hnext⟩ :=
        hok P.shared (D.rely_refl i _) h.inv r t (hW.perform hperform)
      refine ⟨D.inv_guarantee hguarantee h.inv, fun {j run'} hj ↦ ?_⟩
      by_cases hji : j = i
      · subst hji
        simp only [Function.update_self, Option.some.injEq] at hj
        subst hj
        exact hnext
      · simp only [Function.update_of_ne hji] at hj
        exact (h.runs hj).rely (D.rely_guarantee (Ne.symm hji) hguarantee h.inv)
  | @resume i run r hrun hreply =>
      have hok := h.runs hrun
      simp only [RunOk, hreply] at hok
      exact h.launch (hok P.shared (D.rely_refl i _) h.inv)
  | @kill i t hkill =>
      refine ⟨hW.inv_kill hkill h.inv, fun {j run} hj ↦ ?_⟩
      by_cases hji : j = i
      · subst hji
        simp only [Function.update_self] at hj
        contradiction
      · simp only [Function.update_of_ne hji] at hj
        exact (h.runs hj).rely (hW.rely_kill (Ne.symm hji) hkill h.inv)
  | environment henv =>
      exact ⟨hW.inv_environment henv h.inv,
        fun hj ↦ (h.runs hj).rely (hW.rely_environment henv h.inv)⟩

theorem ok_of_reachable (hW : Obeys W D) (h : (system W).Reachable P) : P.Ok D := by
  refine h.invariant ?_ ?_
  · rintro s ⟨hinitial, hnone⟩
    exact ⟨hW.initial hinitial, fun {i run} hrun ↦ by simp [hnone i] at hrun⟩
  · intro s event t hstep hs
    exact hs.step hW hstep

/-- The rely-guarantee rule. -/
theorem inv_of_reachable (hW : Obeys W D) (h : (system W).Reachable P) : D.inv P.shared :=
  (ok_of_reachable hW h).inv

/-- What every program relies on, a step of the pool does: the others rely on the step of a
program. -/
theorem Ok.relates_of_step [Nontrivial τ] (hW : Obeys W D) {r : σ → σ → Prop}
    (hr : ∀ {j s t}, D.rely j s t → r s t) {event : Event τ} (h : P.Ok D)
    (hstep : Step W P event P') : r P.shared P'.shared := by
  cases hstep with
  | @start i p _ hprogram =>
      obtain ⟨j, hj⟩ := exists_ne i
      have hsettled := settle_ok (hW.programs hprogram h.inv) h.inv
      exact hr (hsettled.2.1 j hj.symm)
  | @perform i run reply t hrun hreply hperform =>
      obtain ⟨j, hj⟩ := exists_ne i
      have hok := h.runs hrun
      simp only [RunOk, hreply] at hok
      have hguarantee := (hok P.shared (D.rely_refl i _) h.inv reply t (hW.perform hperform)).1
      exact hr (D.rely_guarantee hj.symm hguarantee h.inv)
  | @resume i run reply hrun hreply =>
      obtain ⟨j, hj⟩ := exists_ne i
      have hok := h.runs hrun
      simp only [RunOk, hreply] at hok
      have hsettled := settle_ok (hok P.shared (D.rely_refl i _) h.inv) h.inv
      exact hr (hsettled.2.1 j hj.symm)
  | @kill i t hkill =>
      obtain ⟨j, hj⟩ := exists_ne i
      exact hr (hW.rely_kill hj.symm hkill h.inv)
  | environment henvironment =>
      obtain ⟨j, -, -⟩ := exists_pair_ne τ
      exact hr (hW.rely_environment (j := j) henvironment h.inv)

/-- A preorder that all programs rely on relates the two ends of a run. -/
theorem relates_of_run [Nontrivial τ] (hW : Obeys W D) {r : σ → σ → Prop} (hrefl : ∀ s, r s s)
    (htrans : ∀ {s t u}, r s t → r t u → r s u) (hr : ∀ {j s t}, D.rely j s t → r s t)
    (h : (system W).Reachable P) {events : List (Event τ)} (hrun : (system W).Run P events P') :
    r P.shared P'.shared := by
  have hok := ok_of_reachable hW h
  have hkeeps : ∀ {Q Q' : Pool σ Reply ε τ} {event : Event τ}, (system W).step Q event Q' →
      Q.Ok D → Q'.Ok D := fun hstep hQ ↦ hQ.step hW hstep
  refine hrun.relates (r := fun Q Q' ↦ r Q.shared Q'.shared) (fun Q ↦ hrefl Q.shared) htrans
    hkeeps (fun hstep hQ ↦ hQ.relates_of_step hW hr hstep) hok

/-! ### Crashes -/

/-- A step of the pool, or a crash, which ends all programs. -/
inductive CrashStep (W : Surroundings σ Reply ε τ) (crash : σ → σ → Prop) :
    Pool σ Reply ε τ → Option (Event τ) → Pool σ Reply ε τ → Prop
  | step {P P' : Pool σ Reply ε τ} {event : Event τ} :
      Step W P event P' → CrashStep W crash P (some event) P'
  | crash {P : Pool σ Reply ε τ} {t : σ} :
      crash P.shared t → CrashStep W crash P none ⟨t, fun _ ↦ none⟩

/-- All interleavings of the programs, with crashes. -/
def crashing (W : Surroundings σ Reply ε τ) (crash : σ → σ → Prop) :
    TransitionSystem (Pool σ Reply ε τ) (Option (Event τ)) where
  initial := (system W).initial
  step := CrashStep W crash

section

variable {crash : σ → σ → Prop}

theorem reachable_crashing (h : (system W).Reachable P) : (crashing W crash).Reachable P := by
  refine h.invariant (fun hinitial ↦ .of_initial hinitial) ?_
  intro s event t hstep hs
  exact hs.step (.step hstep)

theorem Ok.crashStep (hW : Obeys W D) (hcrash : ∀ {s t}, crash s t → D.inv s → D.inv t)
    {event : Option (Event τ)} (h : P.Ok D) (hstep : CrashStep W crash P event P') : P'.Ok D := by
  cases hstep with
  | step hstep => exact h.step hW hstep
  | crash ht => exact ⟨hcrash ht h.inv, fun hrun ↦ by cases hrun⟩

theorem ok_of_reachable_crashing (hW : Obeys W D)
    (hcrash : ∀ {s t}, crash s t → D.inv s → D.inv t) (h : (crashing W crash).Reachable P) :
    P.Ok D := by
  refine h.invariant ?_ ?_
  · intro s hs
    exact ok_of_reachable hW (.of_initial hs)
  · intro s event t hstep hs
    exact hs.crashStep hW hcrash hstep

/-- A preorder that all programs rely on, and that a crash respects, relates the two ends of a
run. -/
theorem relates_of_run_crashing [Nontrivial τ] (hW : Obeys W D)
    (hcrash : ∀ {s t}, crash s t → D.inv s → D.inv t) {r : σ → σ → Prop} (hrefl : ∀ s, r s s)
    (htrans : ∀ {s t u}, r s t → r t u → r s u) (hr : ∀ {j s t}, D.rely j s t → r s t)
    (hrcrash : ∀ {s t}, crash s t → r s t) (h : (crashing W crash).Reachable P)
    {events : List (Option (Event τ))} (hrun : (crashing W crash).Run P events P') :
    r P.shared P'.shared := by
  have hok := ok_of_reachable_crashing hW hcrash h
  have hkeeps : ∀ {Q Q' : Pool σ Reply ε τ} {event : Option (Event τ)},
      (crashing W crash).step Q event Q' → Q.Ok D → Q'.Ok D :=
    fun hstep hQ ↦ hQ.crashStep hW hcrash hstep
  refine hrun.relates (r := fun Q Q' ↦ r Q.shared Q'.shared) (fun Q ↦ hrefl Q.shared) htrans
    hkeeps (fun hstep hQ ↦ ?_) hok
  cases hstep with
  | step hstep => exact hQ.relates_of_step hW hr hstep
  | crash ht => exact hrcrash ht

end

/-! ### Scripts -/

/-- One choice in an interleaving; what it chooses depends on the shared state. -/
inductive Move (σ : Type) {Call : Type} (Reply : Call → Type) (ε τ : Type)
  | start (i : τ) (program : σ → Option (Coroutine σ Reply ε Unit))
  | perform (i : τ) (answer : (c : Call) → σ → Option (Reply c × σ))
  | resume (i : τ)
  | kill (i : τ) (change : σ → Option σ)
  | environment (change : σ → Option σ)

/-- The pool respects its surroundings with this move. -/
def Move.Lawful (W : Surroundings σ Reply ε τ) : Move σ Reply ε τ → Prop
  | start i program => ∀ s p, program s = some p → W.programs i s p
  | perform _ answer => ∀ c s r t, answer c s = some (r, t) → W.perform c s r t
  | kill i change => ∀ s t, change s = some t → W.kill i s t
  | environment change => ∀ s t, change s = some t → W.environment s t
  | resume _ => True

def Move.apply (P : Pool σ Reply ε τ) : Move σ Reply ε τ → Option (Pool σ Reply ε τ)
  | start i program =>
      match P.runs i, program P.shared with
      | none, some p => some (P.launch i p)
      | _, _ => none
  | perform i answer =>
      match P.runs i with
      | some ⟨c, next, none⟩ =>
          (answer c P.shared).map fun reply ↦
            ⟨reply.2, Function.update P.runs i (some ⟨c, next, some reply.1⟩)⟩
      | _ => none
  | resume i =>
      match P.runs i with
      | some ⟨_, next, some r⟩ => some (P.launch i (next r))
      | _ => none
  | kill i change => (change P.shared).map fun t ↦ ⟨t, Function.update P.runs i none⟩
  | environment change => (change P.shared).map fun t ↦ ⟨t, P.runs⟩

theorem Move.exists_step {move : Move σ Reply ε τ} (hmove : move.Lawful W)
    (h : move.apply P = some P') : ∃ event, Step W P event P' := by
  cases move with
  | start i program =>
      simp only [Move.apply] at h
      split at h
      · rename_i p hnone hp
        obtain rfl := Option.some.inj h
        exact ⟨.start i, .start hnone (hmove _ _ hp)⟩
      · contradiction
  | perform i answer =>
      simp only [Move.apply] at h
      split at h
      · rename_i c next hrun
        obtain ⟨⟨r, t⟩, hanswer, rfl⟩ := Option.map_eq_some_iff.mp h
        exact ⟨.perform i, .perform hrun rfl (hmove _ _ _ _ hanswer)⟩
      · contradiction
  | resume i =>
      simp only [Move.apply] at h
      split at h
      · rename_i c next r hrun
        obtain rfl := Option.some.inj h
        exact ⟨.resume i, .resume hrun rfl⟩
      · contradiction
  | kill i change =>
      obtain ⟨t, ht, rfl⟩ := Option.map_eq_some_iff.mp h
      exact ⟨.kill i, .kill (hmove _ _ ht)⟩
  | environment change =>
      obtain ⟨t, ht, rfl⟩ := Option.map_eq_some_iff.mp h
      exact ⟨.environment, .environment (hmove _ _ ht)⟩

/-- A script leads from a reachable pool to a reachable pool. -/
theorem Script.reachable {moves : List (Move σ Reply ε τ)} (hmoves : ∀ move ∈ moves, move.Lawful W)
    (hP : (system W).Reachable P) (h : moves.foldlM Move.apply P = some P') :
    (system W).Reachable P' := by
  induction moves generalizing P with
  | nil =>
      obtain rfl := Option.some.inj h
      exact hP
  | cons move moves ih =>
      rw [List.foldlM_cons] at h
      obtain ⟨R, hR, hrest⟩ := Option.bind_eq_some_iff.mp h
      obtain ⟨event, hstep⟩ := Move.exists_step (hmoves move List.mem_cons_self) hR
      exact ih (fun m hm ↦ hmoves m (List.mem_cons_of_mem _ hm)) (hP.step hstep) hrest

/-- What a script from an initial state shows of its last pool, a reachable pool shows. -/
theorem Script.exists_reachable {moves : List (Move σ Reply ε τ)}
    (hmoves : ∀ move ∈ moves, move.Lawful W) {s : σ} (hs : W.initial s) {γ : Type}
    {f : Pool σ Reply ε τ → γ} {c : γ}
    (h : (moves.foldlM Move.apply ⟨s, fun _ ↦ none⟩).map f = some c) :
    ∃ P, (system W).Reachable P ∧ f P = c := by
  obtain ⟨P, hP, hf⟩ := Option.map_eq_some_iff.mp h
  have hinitial : (system W).initial ⟨s, fun _ ↦ none⟩ := ⟨hs, fun _ ↦ rfl⟩
  exact ⟨P, Script.reachable hmoves (.of_initial hinitial) hP, hf⟩

end Pool
