import Mathlib.Algebra.Ring.Nat
import Mathlib.Data.Int.Order.Basic
import Mathlib.Data.Nat.Log

/-!
# Rounding to a number of binary digits

An integer is kept to its first `p` binary digits. What is left of it is rounded to the nearest
such number, and to the even one of two that are as near. A number is its own rounding exactly when
nothing is left of it.
-/

namespace Rounding

/-- What the last of the first `p` binary digits of a number counts. -/
def lastPlace (p n : ℕ) : ℕ := 2 ^ (n.log2 + 1 - p)

/-- The nearest number with `p` binary digits, and zeros behind them. -/
def roundNat (p n : ℕ) : ℕ :=
  let digits := n / lastPlace p n
  let rest := n % lastPlace p n
  if 2 * rest < lastPlace p n ∨ 2 * rest = lastPlace p n ∧ digits % 2 = 0 then
    digits * lastPlace p n
  else (digits + 1) * lastPlace p n

/-- Rounding does not depend on the sign. -/
def roundInt (p : ℕ) (z : ℤ) : ℤ := z.sign * roundNat p z.natAbs

variable {p n : ℕ} {z : ℤ}

theorem lastPlace_pos : 0 < lastPlace p n := Nat.two_pow_pos _

theorem roundNat_eq_self_iff : roundNat p n = n ↔ lastPlace p n ∣ n := by
  have hn := Nat.div_add_mod' n (lastPlace p n)
  have hrest := Nat.mod_lt n (lastPlace_pos (p := p) (n := n))
  rw [Nat.dvd_iff_mod_eq_zero, roundNat]
  split_ifs with h
  · omega
  · rw [Nat.add_one_mul]
    have hpos := lastPlace_pos (p := p) (n := n)
    omega

theorem roundInt_eq_self_iff : roundInt p z = z ↔ lastPlace p z.natAbs ∣ z.natAbs := by
  rw [← roundNat_eq_self_iff, roundInt]
  rcases lt_trichotomy z 0 with hneg | rfl | hpos
  · rw [Int.sign_eq_neg_one_of_neg hneg]
    omega
  · simp [roundNat, lastPlace_pos]
  · rw [Int.sign_eq_one_of_pos hpos]
    omega

example : roundInt 53 9007199254740993 = 9007199254740992 := by decide

end Rounding
