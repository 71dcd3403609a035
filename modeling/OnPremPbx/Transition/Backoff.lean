import Mathlib.Tactic

/-!
# Waiting longer after every failure

A wait that begins with `first`, doubles with every failure and does not get longer than `most`.
-/

namespace Backoff

/-- The wait after one more failure; there is none before the first. -/
def next (first most wait : ℤ) : ℤ := if wait = 0 then first else min (wait * 2) most

/-- The wait after `n` failures. -/
def wait (first most : ℤ) (n : ℕ) : ℤ := (next first most)^[n] 0

variable {first most : ℤ}

@[simp] lemma wait_zero : wait first most 0 = 0 := rfl

lemma wait_succ (n : ℕ) : wait first most (n + 1) = next first most (wait first most n) :=
  Function.iterate_succ_apply' _ _ _

lemma one_le_mul_pow (hfirst : 1 ≤ first) (n : ℕ) : 1 ≤ first * 2 ^ n := by
  have hpow : (1 : ℤ) ≤ 2 ^ n := one_le_pow₀ one_le_two
  nlinarith

/-- The wait in closed form. -/
theorem wait_eq (hfirst : 1 ≤ first) (hmost : first ≤ most) (n : ℕ) :
    wait first most (n + 1) = min (first * 2 ^ n) most := by
  induction n with
  | zero => rw [wait_succ, wait_zero, next, if_pos rfl, pow_zero, mul_one, min_eq_left hmost]
  | succ n ih =>
    have hpos := one_le_mul_pow hfirst n
    rw [wait_succ, ih, next, if_neg (by omega), pow_succ, ← mul_assoc]
    omega

lemma wait_le (hfirst : 1 ≤ first) (hmost : first ≤ most) (n : ℕ) :
    0 ≤ wait first most n ∧ wait first most n ≤ most := by
  cases n with
  | zero => rw [wait_zero]; omega
  | succ n =>
    have hpos := one_le_mul_pow hfirst n
    rw [wait_eq hfirst hmost]
    omega

end Backoff
