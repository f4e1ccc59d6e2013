import Dona.Library.Fallible

/-!
# What a transaction does not throw

`Avoids x refusals` says that `x` throws none of the errors of a list. It is proved along the
binds: a guard that throws another error is passed over, and only the guards that throw one of
the list have to be shown to hold.
-/

namespace Fallible

variable {ε α β : Type} {refusals : List ε} {x : Except ε α} {f : α → Except ε β} {e : ε}

def Avoids (x : Except ε α) (refusals : List ε) : Prop := ∀ e, x = .error e → e ∉ refusals

theorem avoids_error (h : e ∉ refusals) : Avoids (.error e : Except ε α) refusals := by
  intro e' he
  cases he
  exact h

theorem Avoids.bind (hx : Avoids x refusals) (hf : ∀ a, x = .ok a → Avoids (f a) refusals) :
    Avoids (x >>= f) refusals := by
  intro e h
  rcases bind_eq_error.mp h with herror | ⟨a, hok, herror⟩
  · exact hx e herror
  · exact hf a hok e herror

theorem Avoids.ite {c : Prop} [Decidable c] {y : Except ε α} (hx : c → Avoids x refusals)
    (hy : ¬c → Avoids y refusals) : Avoids (if c then x else y) refusals := by
  split_ifs with hc
  · exact hx hc
  · exact hy hc

end Fallible
