import Mathlib.Algebra.BigOperators.Group.List.Basic
import Mathlib.Algebra.Order.Field.Rat
import Mathlib.Algebra.Order.BigOperators.GroupWithZero.List
import Mathlib.Data.Nat.Cast.Order.Field
import Mathlib.Tactic.FieldSimp
import Mathlib.Tactic.Linarith
import Mathlib.Tactic.Positivity
import Mathlib.Tactic.Ring

/-! # Decimal numbers with a bounded exponent

Decimal numbers are multiplied one after the other. Where the exponents would exceed a
limit, both factors are cut to fewer decimals first; the product is then at most the exact
one, and what the cuts lose adds up.
-/

/-- A mantissa and the number of its decimals. -/
@[ext] structure Decimal where
  mantissa : ℕ
  exp : ℕ
deriving DecidableEq, Repr

namespace Decimal

def toRat (x : Decimal) : ℚ := x.mantissa / 10 ^ x.exp

def one : Decimal := ⟨1, 0⟩

def mul (x y : Decimal) : Decimal := ⟨x.mantissa * y.mantissa, x.exp + y.exp⟩

/-- At most `n` decimals are kept. -/
def cut (n : ℕ) (x : Decimal) : Decimal :=
  if x.exp ≤ n then x else ⟨x.mantissa / 10 ^ (x.exp - n), n⟩

variable {x y : Decimal} {n limit target : ℕ} {ys : List Decimal} {a l : ℚ}

@[simp] theorem toRat_one : one.toRat = 1 := by simp [toRat, one]

theorem toRat_nonneg (x : Decimal) : 0 ≤ x.toRat := by
  unfold toRat
  positivity

theorem toRat_mul : (x.mul y).toRat = x.toRat * y.toRat := by
  simp only [toRat, mul, Nat.cast_mul, pow_add]
  field_simp

theorem exp_cut : (x.cut n).exp = min x.exp n := by
  unfold cut
  split
  · next h => exact (min_eq_left h).symm
  · next h => exact (min_eq_right (not_le.1 h).le).symm

theorem mantissa_cut_le : (x.cut n).mantissa ≤ x.mantissa := by
  unfold cut
  split
  · exact le_rfl
  · exact Nat.div_le_self _ _

/-- The decimals that are kept and those that are not. -/
theorem toRat_split (h : n ≤ x.exp) :
    x.toRat = x.mantissa / 10 ^ (x.exp - n) / 10 ^ n := by
  rw [toRat, div_div, ← pow_add, Nat.sub_add_cancel h]

theorem toRat_cut_le : (x.cut n).toRat ≤ x.toRat := by
  unfold cut
  split
  · exact le_rfl
  · next h =>
    rw [toRat_split (not_le.1 h).le, toRat]
    have hdiv : ((x.mantissa / 10 ^ (x.exp - n) : ℕ) : ℚ) ≤ x.mantissa / 10 ^ (x.exp - n) := by
      exact_mod_cast @Nat.cast_div_le ℚ _ _ _ x.mantissa (10 ^ (x.exp - n))
    exact div_le_div_of_nonneg_right hdiv (by positivity)

/-- A cut loses less than one unit of the last decimal that is kept. -/
theorem toRat_le_cut_add : x.toRat ≤ (x.cut n).toRat + 1 / 10 ^ n := by
  unfold cut
  split
  · exact le_add_of_nonneg_right (by positivity)
  · next h =>
    rw [toRat_split (not_le.1 h).le, toRat, ← add_div]
    refine div_le_div_of_nonneg_right ?_ (by positivity)
    rw [div_le_iff₀ (by positivity)]
    have hlt := Nat.lt_mul_div_succ x.mantissa (Nat.pow_pos (n := x.exp - n) (Nat.succ_pos 9))
    rw [mul_comm] at hlt
    exact_mod_cast hlt.le

section Products

/-- A product whose factors are cut to `target` decimals if it would have more than `limit`. -/
def mulCut (limit target : ℕ) (x y : Decimal) : Decimal :=
  if x.exp + y.exp ≤ limit then x.mul y else (x.cut target).mul (y.cut target)

def product (limit target : ℕ) (x : Decimal) (ys : List Decimal) : Decimal :=
  ys.foldl (mulCut limit target) x

def exact (ys : List Decimal) : ℚ := (ys.map toRat).prod

/-- What the cuts of a product may lose, where the exact product so far is `a`. -/
def loss (limit target : ℕ) : ℕ → ℚ → List Decimal → ℚ
  | _, _, [] => 0
  | exp, a, y :: ys =>
    if exp + y.exp ≤ limit then loss limit target (exp + y.exp) (a * y.toRat) ys
    else (a + y.toRat) / 10 ^ target * exact ys +
      loss limit target (min exp target + min y.exp target) (a * y.toRat) ys

theorem exp_mulCut (h : target + target ≤ limit) : (mulCut limit target x y).exp ≤ limit := by
  unfold mulCut
  split
  · assumption
  · simp only [mul, exp_cut]
    omega

theorem mantissa_mulCut_le : (mulCut limit target x y).mantissa ≤ x.mantissa * y.mantissa := by
  unfold mulCut
  split
  · exact le_rfl
  · exact Nat.mul_le_mul mantissa_cut_le mantissa_cut_le

theorem exp_product (h : target + target ≤ limit) (hx : x.exp ≤ limit) :
    (product limit target x ys).exp ≤ limit := by
  induction ys generalizing x with
  | nil => exact hx
  | cons y ys ih => exact ih (exp_mulCut h)

theorem toRat_mulCut_le : (mulCut limit target x y).toRat ≤ x.toRat * y.toRat := by
  unfold mulCut
  split
  · exact toRat_mul.le
  · rw [toRat_mul]
    exact mul_le_mul toRat_cut_le toRat_cut_le (toRat_nonneg _) (toRat_nonneg _)

theorem exact_nonneg (ys : List Decimal) : 0 ≤ exact ys := by
  apply List.prod_nonneg
  intro q hq
  obtain ⟨y, -, rfl⟩ := List.mem_map.1 hq
  exact toRat_nonneg y

theorem exact_cons : exact (y :: ys) = y.toRat * exact ys := by
  rw [exact, List.map_cons, List.prod_cons, exact]

/-- The cuts only ever lose. -/
theorem product_le : (product limit target x ys).toRat ≤ x.toRat * exact ys := by
  induction ys generalizing x with
  | nil => simp [product, exact]
  | cons y ys ih =>
    rw [exact_cons, ← mul_assoc]
    exact ih.trans (mul_le_mul_of_nonneg_right toRat_mulCut_le (exact_nonneg ys))

/-- One cut loses a unit of the last decimal of each factor, times the other factor. -/
theorem mul_le_cut_mul_cut (hxa : x.toRat ≤ a) (hax : a ≤ x.toRat + l) :
    a * y.toRat ≤ ((x.cut n).mul (y.cut n)).toRat + (l * y.toRat + (a + y.toRat) / 10 ^ n) := by
  have hx := @toRat_le_cut_add x n
  have hy := @toRat_le_cut_add y n
  have hy0 := toRat_nonneg y
  have hx0 := toRat_nonneg (x.cut n)
  have hcut : (x.cut n).toRat ≤ a := toRat_cut_le.trans hxa
  have hfirst : (a - (x.cut n).toRat) * y.toRat ≤ (l + 1 / 10 ^ n) * y.toRat :=
    mul_le_mul_of_nonneg_right (by linarith) hy0
  have hsecond : (x.cut n).toRat * (y.toRat - (y.cut n).toRat) ≤ a * (1 / 10 ^ n) :=
    mul_le_mul hcut (by linarith) (sub_nonneg.2 toRat_cut_le) (hx0.trans hcut)
  rw [toRat_mul]
  calc a * y.toRat = (x.cut n).toRat * (y.cut n).toRat + (a - (x.cut n).toRat) * y.toRat +
        (x.cut n).toRat * (y.toRat - (y.cut n).toRat) := by ring
    _ ≤ (x.cut n).toRat * (y.cut n).toRat + (l + 1 / 10 ^ n) * y.toRat + a * (1 / 10 ^ n) := by
        linarith
    _ = _ := by ring

/-- What is lost before and what the cuts lose are all that the exact product is larger by. -/
theorem le_product_add (hxa : x.toRat ≤ a) (hax : a ≤ x.toRat + l) :
    a * exact ys ≤
      (product limit target x ys).toRat + (l * exact ys + loss limit target x.exp a ys) := by
  induction ys generalizing x a l with
  | nil => simpa [product, exact, loss] using hax
  | cons y ys ih =>
    have hy0 := toRat_nonneg y
    have hle : (mulCut limit target x y).toRat ≤ a * y.toRat :=
      toRat_mulCut_le.trans (mul_le_mul_of_nonneg_right hxa hy0)
    rw [exact_cons, ← mul_assoc, loss]
    by_cases hexp : x.exp + y.exp ≤ limit
    · have hmul : mulCut limit target x y = x.mul y := if_pos hexp
      have hax' : a * y.toRat ≤ (mulCut limit target x y).toRat + l * y.toRat := by
        rw [hmul, toRat_mul, ← add_mul]
        exact mul_le_mul_of_nonneg_right hax hy0
      have hrest := ih hle hax'
      rw [hmul] at hrest
      rw [if_pos hexp]
      calc a * y.toRat * exact ys ≤ _ := hrest
        _ = _ := by
          rw [product, product, List.foldl_cons, hmul, mul, mul_assoc]
    · have hmul : mulCut limit target x y = (x.cut target).mul (y.cut target) := if_neg hexp
      have hax' := hmul ▸ mul_le_cut_mul_cut (n := target) (y := y) hxa hax
      have hrest := ih hle hax'
      have hexp' : (mulCut limit target x y).exp = min x.exp target + min y.exp target := by
        rw [hmul, mul, exp_cut, exp_cut]
      rw [hexp'] at hrest
      rw [if_neg hexp]
      calc a * y.toRat * exact ys ≤ _ := hrest
        _ = _ := by
          rw [product, product, List.foldl_cons]
          ring

theorem product_one_le : (product limit target one ys).toRat ≤ exact ys := by
  have h := @product_le one limit target ys
  rwa [toRat_one, one_mul] at h

theorem exact_le_product_add :
    exact ys ≤ (product limit target one ys).toRat + loss limit target 0 1 ys := by
  have h := @le_product_add one limit target ys 1 0 toRat_one.le (by rw [toRat_one, add_zero])
  rwa [one_mul, zero_mul, zero_add] at h

end Products

end Decimal
