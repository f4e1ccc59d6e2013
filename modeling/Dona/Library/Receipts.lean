import Mathlib.Data.List.Pairwise

/-!
# Requests with a receipt

A service answers requests on a state, or refuses them. It keeps a receipt for every request that
it has carried out, under the key of the request. A lawful service refuses a request whose key
has the receipt of another payload, and does nothing for one whose payload it has seen. Then, in
every sequence of requests, at most one request of each key changes the state.
-/

namespace Receipts

/-- A service with states `σ`, requests `ρ`, keys `κ`, payloads `π` and refusals `ε`. -/
structure Service (σ ρ κ π ε : Type*) where
  key : ρ → κ
  payload : ρ → π
  receipt : σ → κ → Option π
  serve : ρ → σ → Except ε σ

/-- A request with the state it met and its answer. -/
structure Exchange (σ ρ ε : Type*) where
  before : σ
  request : ρ
  answer : Except ε σ

namespace Exchange

variable {σ ρ ε : Type*}

/-- The state after the answer; a refusal leaves the state as it was. -/
def after (x : Exchange σ ρ ε) : σ :=
  match x.answer with
  | .ok t => t
  | .error _ => x.before

def Refused (x : Exchange σ ρ ε) : Prop := (∃ e, x.answer = .error e) ∧ x.after = x.before

variable {x : Exchange σ ρ ε}

theorem after_of_ok {t : σ} (h : x.answer = .ok t) : x.after = t := by
  unfold after
  rw [h]

theorem refused_of_error {e : ε} (h : x.answer = .error e) : x.Refused := by
  refine ⟨⟨e, h⟩, ?_⟩
  unfold after
  rw [h]

end Exchange

namespace Service

variable {σ ρ κ π ε : Type*} (S : Service σ ρ κ π ε)

def exchange (r : ρ) (s : σ) : Exchange σ ρ ε := ⟨s, r, S.serve r s⟩

/-- The exchanges of a sequence of requests. -/
def history : σ → List ρ → List (Exchange σ ρ ε)
  | _, [] => []
  | s, r :: rs => S.exchange r s :: history (S.exchange r s).after rs

/-- The receipts decide about a request that was seen before, and are kept. -/
structure Lawful : Prop where
  refused : ∀ {r s p}, S.receipt s (S.key r) = some p → p ≠ S.payload r →
    ∃ e, S.serve r s = .error e
  repeated : ∀ {r s t p}, S.receipt s (S.key r) = some p → S.serve r s = .ok t → t = s
  recorded : ∀ {r s t}, S.serve r s = .ok t → S.receipt t (S.key r) = some (S.payload r)
  kept : ∀ {r s t k p}, S.serve r s = .ok t → S.receipt s k = some p → S.receipt t k = some p

variable {S} {s : σ} {rs : List ρ} {x : Exchange σ ρ ε}

theorem answer_of_mem (hx : x ∈ S.history s rs) : x.answer = S.serve x.request x.before := by
  induction rs generalizing s with
  | nil => simp [history] at hx
  | cons r rs ih =>
      rw [history, List.mem_cons] at hx
      rcases hx with rfl | hx
      · rfl
      · exact ih hx

/-- What an answer relates, holds between the first state and all later ones. -/
theorem related_of_mem {R : σ → σ → Prop} (hrefl : ∀ s, R s s)
    (htrans : ∀ {s t u}, R s t → R t u → R s u)
    (hserve : ∀ {r s t}, S.serve r s = .ok t → R s t) (hx : x ∈ S.history s rs) :
    R s x.before ∧ R s x.after := by
  have hafter : ∀ (r : ρ) (s : σ), R s (S.exchange r s).after := by
    intro r s
    rcases hanswer : S.serve r s with e | t
    · rw [(Exchange.refused_of_error (x := S.exchange r s) hanswer).2]
      exact hrefl s
    · rw [Exchange.after_of_ok (x := S.exchange r s) hanswer]
      exact hserve hanswer
  induction rs generalizing s with
  | nil => simp [history] at hx
  | cons r rs ih =>
      rw [history, List.mem_cons] at hx
      rcases hx with rfl | hx
      · exact ⟨hrefl s, hafter r s⟩
      · obtain ⟨hbefore, hlater⟩ := ih hx
        exact ⟨htrans (hafter r s) hbefore, htrans (hafter r s) hlater⟩

/-- What an answer relates, holds between the state after an exchange and all later ones. -/
theorem pairwise_history {R : σ → σ → Prop} (hrefl : ∀ s, R s s)
    (htrans : ∀ {s t u}, R s t → R t u → R s u)
    (hserve : ∀ {r s t}, S.serve r s = .ok t → R s t) (s : σ) (rs : List ρ) :
    (S.history s rs).Pairwise fun earlier later ↦ R earlier.after later.before := by
  induction rs generalizing s with
  | nil => exact .nil
  | cons r rs ih =>
      rw [history, List.pairwise_cons]
      exact ⟨fun later hlater ↦ (related_of_mem hrefl htrans hserve hlater).1, ih _⟩

section Lawful

variable (hS : S.Lawful)

include hS

theorem Lawful.after_of_receipt {p : π} (hx : x ∈ S.history s rs)
    (hreceipt : S.receipt x.before (S.key x.request) = some p) : x.after = x.before := by
  have hanswer := answer_of_mem hx
  rcases hserve : S.serve x.request x.before with e | t
  · exact (Exchange.refused_of_error (hanswer.trans hserve)).2
  · rw [Exchange.after_of_ok (hanswer.trans hserve)]
    exact hS.repeated hreceipt hserve

theorem Lawful.refused_of_receipt {p : π} (hx : x ∈ S.history s rs)
    (hreceipt : S.receipt x.before (S.key x.request) = some p) (hne : p ≠ S.payload x.request) :
    x.Refused := by
  obtain ⟨e, herror⟩ := hS.refused hreceipt hne
  exact Exchange.refused_of_error ((answer_of_mem hx).trans herror)

/-- A request that was carried out has its receipt from then on. -/
theorem Lawful.pairwise_receipt (s : σ) (rs : List ρ) :
    (S.history s rs).Pairwise fun earlier later ↦ ∀ t, earlier.answer = .ok t →
      S.receipt later.before (S.key earlier.request) = some (S.payload earlier.request) := by
  have hkept := S.pairwise_history (R := fun s t ↦ ∀ k p, S.receipt s k = some p →
    S.receipt t k = some p) (fun _ _ _ ↦ id) (fun h h' k p hp ↦ h' k p (h k p hp))
    (fun hserve _ _ ↦ hS.kept hserve) s rs
  refine hkept.imp_of_mem fun {earlier later} hearlier _ hlater t hok ↦ ?_
  have hserve : S.serve earlier.request earlier.before = .ok t :=
    (answer_of_mem hearlier).symm.trans hok
  refine hlater _ _ ?_
  rw [Exchange.after_of_ok hok]
  exact hS.recorded hserve

/-- Of two requests with one key, one changes nothing. -/
theorem Lawful.once (s : σ) (rs : List ρ) :
    (S.history s rs).Pairwise fun earlier later ↦ S.key later.request = S.key earlier.request →
      earlier.after = earlier.before ∨ later.after = later.before := by
  refine (hS.pairwise_receipt s rs).imp_of_mem fun {earlier later} _ hlater hreceipt hkey ↦ ?_
  rcases hanswer : earlier.answer with e | t
  · exact .inl (Exchange.refused_of_error hanswer).2
  · right
    refine hS.after_of_receipt (p := S.payload earlier.request) hlater ?_
    rw [hkey]
    exact hreceipt t hanswer

/-- A request under the key of one that was carried out with another payload is refused. -/
theorem Lawful.conflicts (s : σ) (rs : List ρ) :
    (S.history s rs).Pairwise fun earlier later ↦ S.key later.request = S.key earlier.request →
      S.payload later.request ≠ S.payload earlier.request → (∃ t, earlier.answer = .ok t) →
        later.Refused := by
  refine (hS.pairwise_receipt s rs).imp_of_mem fun {earlier later} _ hlater hreceipt hkey hne ↦ ?_
  rintro ⟨t, hok⟩
  refine hS.refused_of_receipt hlater (p := S.payload earlier.request) ?_ hne.symm
  rw [hkey]
  exact hreceipt t hok

end Lawful

end Service

end Receipts
