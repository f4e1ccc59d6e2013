import Mathlib.Algebra.Order.Ring.Nat
import Mathlib.Algebra.Order.Ring.Unbundled.Rat
import Mathlib.Data.Prod.Lex

/-!
# Integers as doubles

The magnitude of the binary64 number which is nearest to a natural number, ties going to the even
significand, where `none` is infinity. The safe integers, those below `2 ^ 53`, are themselves; no
other integer becomes a safe one.
-/

namespace Doubles

/-- The quotient, rounded to the nearest integer and to the even one of two. -/
def divRound (n unit : ℕ) : ℕ :=
  if 2 * (n % unit) < unit ∨ 2 * (n % unit) = unit ∧ n / unit % 2 = 0 then n / unit
  else n / unit + 1

/-- The distance of two significands of 53 bits at the magnitude of `n`. -/
def ulp (n : ℕ) : ℕ := 2 ^ (n.log2 - 52)

/-- The double nearest to `n`: the largest exponent of a double is 1023. -/
def round (n : ℕ) : Option ℕ :=
  if (divRound n (ulp n) * ulp n).log2 ≤ 1023 then some (divRound n (ulp n) * ulp n) else none

/-- `Number.MAX_SAFE_INTEGER` -/
def maxSafe : ℕ := 9007199254740991

/-- `Number.isSafeInteger`, of the magnitude of an integer or infinity. -/
def isSafe (magnitude : Option ℕ) : Bool := magnitude.any (· ≤ maxSafe)

variable {n unit : ℕ}

theorem div_le_divRound : n / unit ≤ divRound n unit := by
  unfold divRound
  split_ifs
  · exact le_rfl
  · exact Nat.le_succ _

theorem log2_of_le (h : n ≤ maxSafe) : n.log2 ≤ 52 := by
  by_cases hzero : n = 0
  · rw [hzero]
    decide
  · apply Nat.le_of_lt_succ
    rw [Nat.log2_lt hzero]
    exact Nat.lt_of_le_of_lt h (by decide)

theorem ulp_of_le (h : n ≤ maxSafe) : ulp n = 1 := by
  rw [ulp, Nat.sub_eq_zero_of_le (log2_of_le h), pow_zero]

/-- A safe integer is a double. -/
theorem round_of_le (h : n ≤ maxSafe) : round n = some n := by
  have hdiv : divRound n 1 = n := by
    rw [divRound, Nat.mod_one, Nat.div_one, if_pos (.inl (by decide))]
  rw [round, ulp_of_le h, hdiv, mul_one, if_pos]
  exact (log2_of_le h).trans (by decide)

/-- What is not safe does not become so. -/
theorem not_isSafe_round (h : maxSafe < n) : isSafe (round n) = false := by
  have hlarge : 2 ^ 53 ≤ n := h
  have hne : n ≠ 0 := by
    rintro rfl
    exact absurd hlarge (by decide)
  have hlog : 53 ≤ n.log2 := (Nat.le_log2 hne).2 hlarge
  have hquotient : 2 ^ 52 ≤ n / ulp n := by
    rw [ulp, Nat.le_div_iff_mul_le (Nat.two_pow_pos _), ← pow_add, Nat.add_sub_cancel' (by omega)]
    exact Nat.log2_self_le hne
  have hulp : 2 ≤ ulp n := by
    have hpow : 2 ^ 1 ≤ 2 ^ (n.log2 - 52) := Nat.pow_le_pow_right (by decide) (by omega)
    exact hpow
  have hrounded : 2 ^ 52 * 2 ≤ divRound n (ulp n) * ulp n :=
    Nat.mul_le_mul (hquotient.trans div_le_divRound) hulp
  unfold round
  split_ifs
  · simp only [isSafe, Option.any_some, decide_eq_false_iff_not, not_le]
    exact lt_of_lt_of_le (by decide) hrounded
  · rfl

theorem isSafe_round : isSafe (round n) = true ↔ n ≤ maxSafe := by
  constructor
  · intro hsafe
    by_contra hlarge
    rw [not_isSafe_round (not_le.1 hlarge)] at hsafe
    cases hsafe
  · intro hle
    rw [round_of_le hle]
    exact decide_eq_true hle

/-! ### Numbers -/

/-- A number of JavaScript, up to the sign of zero, which no comparison sees. -/
inductive Number
  | finite (value : ℚ)
  | infinite (negative : Bool)
  | nan
  deriving DecidableEq

namespace Number

/-- The place of a number in the order: what is not a number comes last. -/
def key : Number → ℕ ×ₗ ℚ
  | infinite true => toLex (0, 0)
  | finite value => toLex (1, value)
  | infinite false => toLex (2, 0)
  | nan => toLex (3, 0)

/-- The number at a place. -/
def ofKey (place : ℕ ×ₗ ℚ) : Number :=
  if (ofLex place).1 = 0 then infinite true
  else if (ofLex place).1 = 1 then finite (ofLex place).2
  else if (ofLex place).1 = 2 then infinite false
  else nan

theorem key_injective : Function.Injective key := by
  have hinverse : Function.LeftInverse ofKey key := by
    intro number
    cases number with
    | finite value => rfl
    | infinite negative => cases negative <;> rfl
    | nan => rfl
  exact hinverse.injective

instance : LinearOrder Number := .lift' key key_injective

theorem finite_lt_finite {a b : ℚ} : finite a < finite b ↔ a < b := by
  change toLex ((1 : ℕ), a) < toLex ((1 : ℕ), b) ↔ a < b
  rw [Prod.Lex.toLex_lt_toLex]
  simp

/-- The number that a natural number becomes. -/
def ofNat (n : ℕ) : Number := ((round n).map fun value ↦ finite value).getD (infinite false)

end Number

end Doubles
