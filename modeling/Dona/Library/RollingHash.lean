import Mathlib.Data.List.Induction
import Mathlib.Data.Nat.Digits.Defs
import Mathlib.Tactic.Ring

/-!
# Rolling hashes

The polynomial hash of the codes of a text, in residues of least magnitude. Sliding its window by
one code takes one update; a residue may be taken of any part of it.
-/

namespace RollingHash

variable {m base : ℕ}

/-- The hash of some codes, first to last. -/
def hash (m base : ℕ) (codes : List ℕ) : ℤ :=
  codes.foldl (fun (hash : ℤ) (code : ℕ) ↦ ((hash * base).bmod m + code).bmod m) 0

/-- What takes the first code out of a window and puts another at its end. `power` is that of the
first code. -/
def slide (m base : ℕ) (power hash : ℤ) (out next : ℕ) : ℤ :=
  (((hash - (out * power).bmod m) * base).bmod m + next).bmod m

theorem hash_concat (codes : List ℕ) (code : ℕ) :
    hash m base (codes ++ [code]) = ((hash m base codes * base).bmod m + code).bmod m := by
  rw [hash, List.foldl_append]
  rfl

/-- The hash is a residue of the number that the codes are the digits of. -/
theorem hash_eq_ofDigits (codes : List ℕ) :
    hash m base codes = ((Nat.ofDigits base codes.reverse : ℕ) : ℤ).bmod m := by
  induction codes using List.reverseRecOn with
  | nil =>
      have hnil : Nat.ofDigits base ([] : List ℕ).reverse = 0 := rfl
      rw [hnil, Int.ofNat_zero, Int.zero_bmod]
      rfl
  | append_singleton codes code ih =>
      rw [hash_concat, ih, List.reverse_append, List.reverse_singleton, List.singleton_append,
        Nat.ofDigits_cons, Int.bmod_mul_bmod, Int.bmod_add_bmod]
      push_cast
      congr 1
      ring

/-- A slid window has the hash of the codes it shows. -/
theorem slide_hash (power : ℤ) (out next : ℕ) (codes : List ℕ)
    (hpower : power = ((base : ℤ) ^ codes.length).bmod m) :
    slide m base power (hash m base (out :: codes)) out next =
      hash m base (codes ++ [next]) := by
  have hfirst : ((Nat.ofDigits base (out :: codes).reverse : ℕ) : ℤ) =
      (Nat.ofDigits base codes.reverse : ℕ) + out * (base : ℤ) ^ codes.length := by
    rw [List.reverse_cons, Nat.ofDigits_append, List.length_reverse, Nat.ofDigits_singleton]
    push_cast
    ring
  have hwindow : (hash m base (out :: codes) - (out * power).bmod m).bmod m =
      (hash m base codes).bmod m := by
    rw [hash_eq_ofDigits, hash_eq_ofDigits, hpower, Int.mul_bmod_bmod, Int.bmod_sub_bmod,
      Int.sub_bmod_bmod, hfirst, add_sub_cancel_right, Int.bmod_bmod]
  rw [slide, hash_concat]
  congr 2
  calc ((hash m base (out :: codes) - (out * power).bmod m) * base).bmod m
      = ((hash m base (out :: codes) - (out * power).bmod m).bmod m * base).bmod m :=
        Int.bmod_mul_bmod.symm
    _ = (hash m base codes * base).bmod m := by rw [hwindow, Int.bmod_mul_bmod]

/-- A power, multiplied up in residues. -/
theorem iterate_mul_eq (n : ℕ) :
    (fun power : ℤ ↦ (power * base).bmod m)^[n] ((1 : ℤ).bmod m) = ((base : ℤ) ^ n).bmod m := by
  induction n with
  | zero => rfl
  | succ n ih => rw [Function.iterate_succ_apply', ih, Int.bmod_mul_bmod, pow_succ]

end RollingHash
