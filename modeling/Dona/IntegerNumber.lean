import Dona.Library.Decimals
import Dona.Library.Doubles

/-!
# Integers of a text

What `Number` makes of a numeral without fraction and exponent, and when that is a safe integer.
-/

namespace Dona

/-- A JavaScript number without fraction: a sign, also of zero, and a magnitude, which may be
infinite. -/
structure IntegerNumber where
  negative : Bool
  magnitude : Option ℕ
  deriving DecidableEq

/-- The integer that a numeral `-?(0|[1-9]\d*)` writes. -/
def writtenInteger : Text → IntegerNumber
  | [] => ⟨false, some 0⟩
  | unit :: rest =>
      if unit = 45 then ⟨true, some (Decimals.value rest)⟩
      else ⟨false, some (Decimals.value (unit :: rest))⟩

/-- `Number(text)`, for the same numerals. -/
def toNumber (text : Text) : IntegerNumber :=
  { writtenInteger text with
    magnitude := (writtenInteger text).magnitude.bind Doubles.round }

/-- `Number.isSafeInteger(value)` -/
def IntegerNumber.isSafe (value : IntegerNumber) : Bool := Doubles.isSafe value.magnitude

theorem exists_writtenInteger (token : Text) :
    ∃ magnitude, (writtenInteger token).magnitude = some magnitude := by
  cases token with
  | nil => exact ⟨0, rfl⟩
  | cons unit rest =>
      rw [writtenInteger]
      split_ifs
      · exact ⟨_, rfl⟩
      · exact ⟨_, rfl⟩

/-- A number is safe exactly where the integer it is written as is. -/
theorem isSafe_toNumber (token : Text) :
    (toNumber token).isSafe = (writtenInteger token).isSafe := by
  obtain ⟨magnitude, hmagnitude⟩ := exists_writtenInteger token
  rw [Bool.eq_iff_iff]
  simp only [toNumber, IntegerNumber.isSafe, hmagnitude, Option.bind_some, Doubles.isSafe_round]
  simp only [Doubles.isSafe, Option.any_some, decide_eq_true_eq]

theorem toNumber_of_isSafe {token : Text} (h : (writtenInteger token).isSafe = true) :
    toNumber token = writtenInteger token := by
  obtain ⟨magnitude, hmagnitude⟩ := exists_writtenInteger token
  rw [IntegerNumber.isSafe, hmagnitude] at h
  have hround : Doubles.round magnitude = some magnitude := by
    apply Doubles.round_of_le
    exact of_decide_eq_true h
  rw [toNumber, hmagnitude, Option.bind_some, hround, ← hmagnitude]

end Dona
