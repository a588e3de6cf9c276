import Mathlib.Algebra.Order.BigOperators.Ring.Finset
import Mathlib.Algebra.Order.Field.Rat
import Mathlib.Data.Nat.Cast.Order.Field
import Mathlib.Data.Nat.Choose.Sum
import Mathlib.Tactic.FieldSimp
import Mathlib.Tactic.Linarith
import Mathlib.Tactic.NormNum
import Mathlib.Tactic.Positivity
import Mathlib.Tactic.Ring

/-! # Truncated compounding

Compound growth by a small rate in fixed point with unit `N`. The first powers are
exact products, each rounded down; from the fifth on the binomial expansion is cut
after its cubic term. The result lies between simple interest and the exact power, and
grows with the rate and, for small rates, with the number of periods.
-/

namespace Compounding

variable {N b n : ℕ}

/-- The binomial expansion of `(1 + b / N) ^ n` up to the cubic term, as it is rounded. -/
def cubic (N b n : ℕ) : ℕ :=
  N + b * n + b * b / N * n * (n - 1) / 2 + b * b / N * b / N * n * (n - 1) * (n - 2) / 6

/-- The growth factor for `n` periods. -/
def factor (N b : ℕ) : ℕ → ℕ
  | 0 => N
  | 1 => N + b
  | 2 => (N + b) * (N + b) / N
  | 3 => (N + b) * (N + b) / N * (N + b) / N
  | 4 => (N + b) * (N + b) / N * ((N + b) * (N + b) / N) / N
  | n + 5 => cubic N b (n + 5)

theorem le_mul_div (hN : 0 < N) {x y : ℕ} (hy : N ≤ y) : x ≤ x * y / N := by
  rw [Nat.le_div_iff_mul_le hN]
  exact Nat.mul_le_mul_left x hy

theorem le_cubic : N ≤ cubic N b n := by
  unfold cubic
  omega

/-- Growth never shrinks what it applies to. -/
theorem le_factor (hN : 0 < N) : N ≤ factor N b n := by
  have h1 : N ≤ N + b := Nat.le_add_right N b
  have h2 : N ≤ (N + b) * (N + b) / N := h1.trans (le_mul_div hN h1)
  match n with
  | 0 => exact le_rfl
  | 1 => exact h1
  | 2 => exact h2
  | 3 => exact h2.trans (le_mul_div hN h1)
  | 4 => exact h2.trans (le_mul_div hN h2)
  | n + 5 => exact le_cubic

theorem cubic_mono {c : ℕ} (h : b ≤ c) : cubic N b n ≤ cubic N c n := by
  have h2 : b * b / N ≤ c * c / N := Nat.div_le_div_right (Nat.mul_le_mul h h)
  have h3 : b * b / N * b / N ≤ c * c / N * c / N := Nat.div_le_div_right (Nat.mul_le_mul h2 h)
  unfold cubic
  gcongr

/-- A higher rate grows no less. -/
theorem factor_mono {c : ℕ} (h : b ≤ c) : factor N b n ≤ factor N c n := by
  have h1 : N + b ≤ N + c := Nat.add_le_add_left h N
  have h2 : (N + b) * (N + b) / N ≤ (N + c) * (N + c) / N :=
    Nat.div_le_div_right (Nat.mul_le_mul h1 h1)
  match n with
  | 0 => exact le_rfl
  | 1 => exact h1
  | 2 => exact h2
  | 3 => exact Nat.div_le_div_right (Nat.mul_le_mul h2 h1)
  | 4 => exact Nat.div_le_div_right (Nat.mul_le_mul h2 h2)
  | n + 5 => exact cubic_mono h

/-- The divisions by two and by six are exact. -/
theorem cubic_eq :
    cubic N b n = N + b * n + b * b / N * n.choose 2 + b * b / N * b / N * n.choose 3 := by
  have h2 : n * (n - 1) = 2 * n.choose 2 := by
    have h := n.descFactorial_eq_factorial_mul_choose 2
    simpa [Nat.descFactorial, mul_comm] using h
  have h3 : n * (n - 1) * (n - 2) = 6 * n.choose 3 := by
    have h := n.descFactorial_eq_factorial_mul_choose 3
    simpa [Nat.descFactorial, Nat.factorial_succ, mul_comm, mul_left_comm] using h
  have hsecond : ∀ x, x * n * (n - 1) / 2 = x * n.choose 2 := by
    intro x
    rw [mul_assoc, h2, mul_left_comm, Nat.mul_div_cancel_left _ two_pos]
  have hthird : ∀ x, x * n * (n - 1) * (n - 2) / 6 = x * n.choose 3 := by
    intro x
    rw [mul_assoc x, mul_assoc x, h3, mul_left_comm, Nat.mul_div_cancel_left _ (by norm_num)]
  rw [cubic, hsecond, hthird]

/-- The square of the growth of one period, as it is rounded. -/
theorem square_eq (hN : 0 < N) : (N + b) * (N + b) / N = N + 2 * b + b * b / N := by
  have h : (N + b) * (N + b) = b * b + N * (N + 2 * b) := by ring
  rw [h, Nat.add_mul_div_left _ _ hN, add_comm]

/-- Compounding yields no less than simple interest. -/
theorem simple_le_factor (hN : 0 < N) : N + b * n ≤ factor N b n := by
  have h2 : N + 2 * b ≤ (N + b) * (N + b) / N := by
    rw [square_eq hN]
    exact Nat.le_add_right _ _
  match n with
  | 0 => exact le_rfl
  | 1 => rw [mul_one]; exact le_rfl
  | 2 => rw [mul_comm]; exact h2
  | 3 =>
    refine (Nat.le_div_iff_mul_le hN).2 (le_trans ?_ (Nat.mul_le_mul_right (N + b) h2))
    have h : (N + 2 * b) * (N + b) = (N + b * 3) * N + 2 * (b * b) := by ring
    omega
  | 4 =>
    refine (Nat.le_div_iff_mul_le hN).2 (le_trans ?_ (Nat.mul_le_mul h2 h2))
    have h : (N + 2 * b) * (N + 2 * b) = (N + b * 4) * N + 4 * (b * b) := by ring
    omega
  | n + 5 =>
    rw [factor, cubic]
    omega

section Power

theorem mul_div_cast_le {x y : ℕ} {p q : ℚ} (hx : (x : ℚ) / N ≤ p) (hy : (y : ℚ) / N ≤ q) :
    ((x * y / N : ℕ) : ℚ) / N ≤ p * q := by
  have hp : 0 ≤ p := le_trans (by positivity) hx
  calc ((x * y / N : ℕ) : ℚ) / N
      ≤ ((x * y : ℕ) : ℚ) / N / N := by gcongr; exact Nat.cast_div_le
    _ = (x : ℚ) / N * (y / N) := by push_cast; ring
    _ ≤ p * q := by gcongr

/-- The first terms of the binomial expansion. -/
theorem sum_choose_le_pow {x : ℚ} (hx : 0 ≤ x) (hn : 3 ≤ n) :
    1 + n * x + n.choose 2 * x ^ 2 + n.choose 3 * x ^ 3 ≤ (1 + x) ^ n := by
  have hsum : ∑ m ∈ Finset.range 4, x ^ m * 1 ^ (n - m) * n.choose m ≤ (x + 1) ^ n := by
    rw [add_pow]
    refine Finset.sum_le_sum_of_subset_of_nonneg (fun m hm ↦ ?_) fun m _ _ ↦ by positivity
    rw [Finset.mem_range] at hm ⊢
    omega
  rw [add_comm x 1] at hsum
  refine le_trans (le_of_eq ?_) hsum
  simp only [Finset.sum_range_succ, Finset.sum_range_zero, one_pow, Nat.choose_zero_right,
    Nat.choose_one_right, Nat.cast_one]
  ring

/-- Compounding yields no more than the exact power. -/
theorem factor_le_pow (hN : 0 < N) : (factor N b n : ℚ) / N ≤ (1 + (b : ℚ) / N) ^ n := by
  have hN' : (0 : ℚ) < N := Nat.cast_pos.2 hN
  have h1 : ((N + b : ℕ) : ℚ) / N ≤ 1 + (b : ℚ) / N := by
    rw [Nat.cast_add, add_div, div_self hN'.ne']
  have h2 := mul_div_cast_le h1 h1
  match n with
  | 0 => rw [pow_zero, factor, div_self hN'.ne']
  | 1 => rw [pow_one]; exact h1
  | 2 => rw [pow_two]; exact h2
  | 3 =>
    rw [pow_succ, pow_two]
    exact mul_div_cast_le h2 h1
  | 4 =>
    rw [show 4 = 2 + 2 from rfl, pow_add, pow_two]
    exact mul_div_cast_le h2 h2
  | n + 5 =>
    have hb : (b : ℚ) / N ≤ (b : ℚ) / N := le_rfl
    have hb2 : ((b * b / N : ℕ) : ℚ) / N ≤ ((b : ℚ) / N) ^ 2 := by
      rw [pow_two]
      exact mul_div_cast_le hb hb
    have hb3 : ((b * b / N * b / N : ℕ) : ℚ) / N ≤ ((b : ℚ) / N) ^ 3 := by
      rw [pow_succ]
      exact mul_div_cast_le hb2 hb
    refine le_trans ?_ (sum_choose_le_pow (by positivity) (by omega))
    rw [factor, cubic_eq, Nat.cast_add, Nat.cast_add, Nat.cast_add, add_div, add_div, add_div,
      div_self hN'.ne', Nat.cast_mul, Nat.cast_mul, Nat.cast_mul, mul_div_right_comm,
      mul_div_right_comm, mul_div_right_comm, mul_comm ((b : ℚ) / N),
      mul_comm (((b * b / N : ℕ) : ℚ) / N), mul_comm (((b * b / N * b / N : ℕ) : ℚ) / N)]
    gcongr

end Power

section Periods

theorem cubic_le_succ : cubic N b n ≤ cubic N b (n + 1) := by
  have h2 := Nat.choose_le_choose 2 (Nat.le_succ n)
  have h3 := Nat.choose_le_choose 3 (Nat.le_succ n)
  rw [cubic_eq, cubic_eq]
  gcongr
  exact Nat.le_succ n

/-- Where the expansion takes over from the exact powers, the fourth power is the smaller. -/
theorem fourth_le_cubic (hN : 0 < N) (hb : 4 * b ≤ N) :
    (N + b) * (N + b) / N * ((N + b) * (N + b) / N) / N ≤ cubic N b 5 := by
  have hsmall : b * b / N ≤ b := by
    refine Nat.div_le_of_le_mul (Nat.mul_le_mul_right b ?_)
    omega
  rw [square_eq hN, cubic_eq]
  generalize b * b / N = c at hsmall ⊢
  refine le_trans (Nat.div_le_of_le_mul (?_ : _ ≤ N * (N + b * 5 + c * 10))) ?_
  · have h1 : 4 * b * b ≤ N * b := Nat.mul_le_mul_right b hb
    have h2 : 4 * b * c ≤ N * c := Nat.mul_le_mul_right c hb
    have h3 : c * c ≤ N * c := Nat.mul_le_mul_right c (by omega)
    nlinarith
  · exact Nat.le_add_right _ _

/-- At a small rate more periods grow no less. -/
theorem factor_le_succ (hN : 0 < N) (hb : 4 * b ≤ N) : factor N b n ≤ factor N b (n + 1) := by
  have h1 : N ≤ N + b := Nat.le_add_right N b
  have h2 : N + b ≤ (N + b) * (N + b) / N := le_mul_div hN h1
  match n with
  | 0 => exact h1
  | 1 => exact h2
  | 2 => exact le_mul_div hN h1
  | 3 => exact Nat.div_le_div_right (Nat.mul_le_mul_left _ h2)
  | 4 => exact fourth_le_cubic hN hb
  | n + 5 => exact cubic_le_succ

theorem factor_le_factor (hN : 0 < N) (hb : 4 * b ≤ N) {m : ℕ} (h : n ≤ m) :
    factor N b n ≤ factor N b m :=
  monotone_nat_of_le_succ (f := factor N b) (fun _ ↦ factor_le_succ hN hb) h

end Periods

end Compounding
