import Dona.Library.Json

/-!
# Decimal numerals

What the digits of a text denote, and the digits that denote a number.
-/

namespace Decimals

/-- `\d` -/
def isDigit (unit : UInt16) : Bool := 48 ≤ unit && unit ≤ 57

/-- The number that digits denote. -/
def value (digits : Text) : ℕ :=
  digits.foldl (fun value digit ↦ 10 * value + (digit.toNat - 48)) 0

def digitUnit (digit : ℕ) : UInt16 := .ofNat (48 + digit)

/-- The shortest numeral. -/
def render (n : ℕ) : Text :=
  if n < 10 then [digitUnit n] else render (n / 10) ++ [digitUnit (n % 10)]

/-- A run of units is taken off a text to its end. -/
theorem span_append {p : UInt16 → Bool} {text rest : Text} (htext : ∀ unit ∈ text, p unit = true)
    (hrest : ∀ unit ∈ rest.head?, p unit = false) :
    (text ++ rest).takeWhile p = text ∧ (text ++ rest).dropWhile p = rest := by
  rw [List.takeWhile_append_of_pos htext, List.dropWhile_append_of_pos htext]
  cases rest with
  | nil => exact ⟨List.append_nil _, rfl⟩
  | cons unit rest =>
      have hunit : ¬p unit = true := by
        rw [hrest unit rfl]
        decide
      rw [List.takeWhile_cons_of_neg hunit, List.dropWhile_cons_of_neg hunit]
      exact ⟨List.append_nil _, rfl⟩

theorem digitUnit_spec : ∀ digit < 10,
    isDigit (digitUnit digit) = true ∧ (digitUnit digit).toNat - 48 = digit := by decide

theorem value_concat (digits : Text) (digit : UInt16) :
    value (digits ++ [digit]) = 10 * value digits + (digit.toNat - 48) := by
  rw [value, List.foldl_append]
  rfl

theorem render_ne_nil (n : ℕ) : render n ≠ [] := by
  rw [render]
  split_ifs
  · exact List.cons_ne_nil _ _
  · exact List.append_ne_nil_of_right_ne_nil _ (List.cons_ne_nil _ _)

theorem value_render (n : ℕ) : value (render n) = n := by
  induction n using render.induct with
  | case1 n hlt =>
      have hdigit := (digitUnit_spec n hlt).2
      rw [render, if_pos hlt, value, List.foldl_cons, List.foldl_nil, hdigit]
      omega
  | case2 n hge ih =>
      have hdigit := (digitUnit_spec (n % 10) (Nat.mod_lt n (by decide))).2
      rw [render, if_neg hge, value_concat, ih, hdigit]
      omega

theorem exists_digit_of_mem_render {n : ℕ} {unit : UInt16} (h : unit ∈ render n) :
    ∃ digit < 10, unit = digitUnit digit := by
  induction n using render.induct with
  | case1 n hlt =>
      rw [render, if_pos hlt, List.mem_singleton] at h
      exact ⟨n, hlt, h⟩
  | case2 n hge ih =>
      rw [render, if_neg hge, List.mem_append, List.mem_singleton] at h
      rcases h with hmem | hlast
      · exact ih hmem
      · exact ⟨n % 10, Nat.mod_lt n (by decide), hlast⟩

theorem isDigit_of_mem_render {n : ℕ} {unit : UInt16} (h : unit ∈ render n) :
    isDigit unit = true := by
  obtain ⟨digit, hdigit, rfl⟩ := exists_digit_of_mem_render h
  exact (digitUnit_spec digit hdigit).1

/-- A numeral is no longer than its number, or has one digit. -/
theorem length_render_le (n : ℕ) : (render n).length ≤ n + 1 := by
  induction n using render.induct with
  | case1 n hlt =>
      rw [render, if_pos hlt]
      exact Nat.succ_le_succ (Nat.zero_le _)
  | case2 n hge ih =>
      rw [render, if_neg hge, List.length_append, List.length_singleton]
      omega

end Decimals
