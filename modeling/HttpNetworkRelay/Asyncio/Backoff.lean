import Mathlib.Algebra.BigOperators.Intervals
import Mathlib.Algebra.Order.BigOperators.Group.Finset

/-!
# Truncated exponential backoff

A delay that doubles until it reaches a cap. `backoff_eq` is its closed form, and `sum_backoff_ge`
bounds the time that a number of attempts takes from below: all but the first few are a whole `cap`
apart.
-/

namespace Asyncio

/-- The delay after `n` failures in a row. -/
def backoff (base cap : ℕ) : ℕ → ℕ
  | 0 => base
  | n + 1 => min (2 * backoff base cap n) cap

variable {base cap k n : ℕ}

/-- The delay doubles with each failure until it reaches the cap. -/
theorem backoff_eq (h : base ≤ cap) (n : ℕ) : backoff base cap n = min (2^n * base) cap := by
  induction n with
  | zero =>
    rw [backoff, pow_zero, one_mul, min_eq_left h]
  | succ n ih =>
    calc backoff base cap (n + 1)
        = min (2 * min (2^n * base) cap) cap := by rw [backoff, ih]
      _ = min (2^(n + 1) * base) cap := by
        -- Twice a truncated delay is above the cap if the delay was truncated.
        rw [pow_succ, Nat.mul_right_comm, Nat.mul_comm _ 2]
        omega

/-- The delay is positive. -/
theorem backoff_pos (hbase : 0 < base) (h : base ≤ cap) (n : ℕ) : 0 < backoff base cap n := by
  rw [backoff_eq h]
  apply lt_min
  · exact Nat.mul_pos (Nat.two_pow_pos n) hbase
  · omega

/-- More failures do not make the delay shorter. -/
theorem backoff_mono (h : base ≤ cap) : Monotone (backoff base cap) := by
  intro k n hn
  rw [backoff_eq h, backoff_eq h]
  apply min_le_min_right
  exact Nat.mul_le_mul_right _ (Nat.pow_le_pow_right Nat.two_pos hn)

/-- After `k` failures the delay stays at the cap. -/
theorem backoff_saturated (h : base ≤ cap) (hk : cap ≤ 2^k * base) (hn : k ≤ n) :
    backoff base cap n = cap := by
  rw [backoff_eq h]
  apply min_eq_right
  calc cap ≤ 2^k * base := hk
    _ ≤ 2^n * base := Nat.mul_le_mul_right _ (Nat.pow_le_pow_right Nat.two_pos hn)

/-- All but the first `k` of `n` delays are a whole cap. -/
theorem sum_backoff_ge (h : base ≤ cap) (hk : cap ≤ 2^k * base) (n : ℕ) :
    (n - k) * cap ≤ ∑ i ∈ Finset.range n, backoff base cap i := by
  induction n with
  | zero => simp
  | succ n ih =>
    rw [Finset.sum_range_succ]
    rcases Nat.lt_or_ge n k with hlt | hge
    · have hzero : n + 1 - k = 0 := by omega
      rw [hzero, zero_mul]
      exact Nat.zero_le _
    · have hsucc : n + 1 - k = n - k + 1 := by omega
      rw [hsucc, backoff_saturated h hk hge, Nat.add_mul, Nat.one_mul]
      exact Nat.add_le_add_right ih _

end Asyncio
