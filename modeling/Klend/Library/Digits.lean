import Mathlib.Algebra.Order.Ring.Nat
import Mathlib.Data.List.Basic
import Mathlib.Data.Nat.Basic
import Mathlib.Tactic.Ring

/-! # Fixed numbers of digits

A number below `b ^ k` has exactly one list of `k` digits in base `b`, the least
significant first.
-/

namespace Digits

variable {b : ℕ}

/-- The number that digits stand for. -/
def value (l : List (Fin b)) : ℕ := l.foldr (fun d n ↦ d + b * n) 0

/-- The lowest digits of a number. -/
def digits (b : ℕ) [NeZero b] : ℕ → ℕ → List (Fin b)
  | 0, _ => []
  | k + 1, n => Fin.ofNat b n :: digits b k (n / b)

@[simp] theorem value_nil : value ([] : List (Fin b)) = 0 := rfl

@[simp] theorem value_cons (d : Fin b) (l : List (Fin b)) : value (d :: l) = d + b * value l := rfl

theorem value_lt (l : List (Fin b)) : value l < b ^ l.length := by
  induction l with
  | nil => simp
  | cons d l ih =>
    rw [value_cons, List.length_cons, pow_succ']
    calc (d : ℕ) + b * value l < b * (value l + 1) := by rw [mul_add]; omega
      _ ≤ b * b ^ l.length := Nat.mul_le_mul_left b ih

/-- Digits add up to their number at most. -/
theorem sum_le_value (l : List (Fin b)) : (l.map Fin.val).sum ≤ value l := by
  induction l with
  | nil => simp
  | cons d l ih =>
    rw [List.map_cons, List.sum_cons, value_cons]
    have hb : 0 < b := d.pos
    have hle : value l ≤ b * value l := Nat.le_mul_of_pos_left _ hb
    omega

theorem value_eq_zero (hb : 0 < b) {l : List (Fin b)} :
    value l = 0 ↔ ∀ d ∈ l, (d : ℕ) = 0 := by
  induction l with
  | nil => simp
  | cons d l ih => rw [value_cons, Nat.add_eq_zero_iff, Nat.mul_eq_zero, or_iff_right hb.ne', ih,
      List.forall_mem_cons]

theorem sum_pos {l : List (Fin b)} (h : value l ≠ 0) : 0 < (l.map Fin.val).sum := by
  induction l with
  | nil => exact absurd rfl h
  | cons d l ih =>
    rw [List.map_cons, List.sum_cons]
    rw [value_cons] at h
    by_cases hl : value l = 0
    · rw [hl, mul_zero] at h
      omega
    · have := ih hl
      omega

/-- They add up to it where only the lowest digit counts. -/
theorem sum_eq_value_iff (hb : 1 < b) {l : List (Fin b)} :
    (l.map Fin.val).sum = value l ↔ value l < b := by
  cases l with
  | nil => simp [Nat.zero_lt_of_lt hb]
  | cons d l =>
    rw [List.map_cons, List.sum_cons, value_cons]
    have hle := sum_le_value l
    constructor
    · intro h
      have hzero : value l = 0 := by
        by_contra hne
        have hlt : value l < b * value l :=
          lt_mul_of_one_lt_left (Nat.pos_of_ne_zero hne) hb
        omega
      rw [hzero, mul_zero]
      exact d.isLt
    · intro h
      have hzero : value l = 0 := by
        by_contra hne
        have hge : b ≤ b * value l := Nat.le_mul_of_pos_right _ (Nat.pos_of_ne_zero hne)
        omega
      rw [hzero] at hle ⊢
      omega

variable [NeZero b]

@[simp] theorem length_digits (k n : ℕ) : (digits b k n).length = k := by
  induction k generalizing n with
  | zero => rfl
  | succ k ih => rw [digits, List.length_cons, ih]

theorem digits_eq_map_range (k n : ℕ) :
    digits b k n = (List.range k).map fun i ↦ Fin.ofNat b (n / b ^ i) := by
  induction k generalizing n with
  | zero => rfl
  | succ k ih =>
    rw [digits, ih, List.range_succ_eq_map, List.map_cons, List.map_map, pow_zero, Nat.div_one]
    congr 1
    refine List.map_congr_left fun i _ ↦ ?_
    rw [Function.comp_apply, Nat.div_div_eq_div_mul, ← pow_succ']

theorem digits_add (j k n : ℕ) : digits b (j + k) n = digits b j n ++ digits b k (n / b ^ j) := by
  induction j generalizing n with
  | zero => simp [digits]
  | succ j ih =>
    rw [Nat.succ_add, digits, digits, ih, Nat.div_div_eq_div_mul, ← pow_succ', List.cons_append]

/-- The lowest digits do not depend on the higher ones. -/
theorem digits_mod (k n : ℕ) : digits b k (n % b ^ k) = digits b k n := by
  induction k generalizing n with
  | zero => rfl
  | succ k ih =>
    have hlow : Fin.ofNat b (n % b ^ (k + 1)) = Fin.ofNat b n := by
      ext
      simp [pow_succ']
    rw [digits, digits, hlow, pow_succ', Nat.mod_mul_right_div_self, ih]

theorem value_digits {k n : ℕ} (h : n < b ^ k) : value (digits b k n) = n := by
  induction k generalizing n with
  | zero =>
    rw [pow_zero, Nat.lt_one_iff] at h
    rw [h, digits, value_nil]
  | succ k ih =>
    have hlow : n / b < b ^ k := Nat.div_lt_of_lt_mul (by rwa [← pow_succ'])
    rw [digits, value_cons, ih hlow, Fin.val_ofNat, Nat.mod_add_div]

theorem digits_value (l : List (Fin b)) : digits b l.length (value l) = l := by
  induction l with
  | nil => rfl
  | cons d l ih =>
    have hpos : 0 < b := Nat.pos_of_ne_zero (NeZero.ne b)
    have hlow : ((d : ℕ) + b * value l) / b = value l := by
      rw [Nat.add_mul_div_left _ _ hpos, Nat.div_eq_of_lt d.isLt, Nat.zero_add]
    rw [List.length_cons, value_cons, digits, hlow, ih]
    congr 1
    ext
    rw [Fin.val_ofNat, Nat.add_mul_mod_self_left, Nat.mod_eq_of_lt d.isLt]

/-- Digits read in the opposite order give the same number exactly when they are the same in both
orders. -/
theorem value_reverse_eq_iff {k n : ℕ} (h : n < b ^ k) :
    value (digits b k n).reverse = n ↔ (digits b k n).reverse = digits b k n := by
  constructor
  · intro hvalue
    have hlist := digits_value (digits b k n).reverse
    rw [hvalue, List.length_reverse, length_digits] at hlist
    exact hlist.symm
  · intro hsame
    rw [hsame, value_digits h]

end Digits
