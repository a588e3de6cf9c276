import Klend.Machine.Fraction
import Mathlib.Algebra.Order.Field.Basic
import Mathlib.Algebra.Order.Field.Rat
import Mathlib.Data.Nat.Cast.Order.Field
import Mathlib.Tactic.FieldSimp
import Mathlib.Tactic.Positivity

/-! # The values of fixed-point numbers

The exact rational that a number stands for. Sums are exact, products, quotients and
floors are at most the exact ones.
-/

namespace Klend.Fraction

/-- The value of a number. -/
def toRat (x : Fraction) : ℚ := x.bits / 2 ^ 60

variable {x y z : Fraction}

theorem toRat_nonneg (x : Fraction) : 0 ≤ x.toRat := by
  unfold toRat
  positivity

theorem toRat_pos (h : x.bits ≠ 0) : 0 < x.toRat := by
  have hpos : (0 : ℚ) < x.bits := by exact_mod_cast Nat.pos_of_ne_zero h
  unfold toRat
  positivity

theorem toRat_le_toRat : x.toRat ≤ y.toRat ↔ x ≤ y := by
  rw [toRat, toRat, div_le_div_iff_of_pos_right (by positivity), Nat.cast_le, le_iff]

@[simp] theorem toRat_one : one.toRat = 1 := by
  rw [toRat, bits_one, Nat.cast_pow, Nat.cast_ofNat, div_self (by positivity)]

@[simp] theorem toRat_fromNum (n : U64) : (fromNum n).toRat = (n : ℕ) := by
  rw [toRat, bits_fromNum, Nat.cast_mul, Nat.cast_pow, Nat.cast_ofNat,
    mul_div_cancel_right₀ _ (by positivity)]

theorem toRat_fromPercent_le (n : U64) : (fromPercent n).toRat ≤ ((n : ℕ) : ℚ) / 100 := by
  rw [toRat, bits_fromPercent, div_le_iff₀ (by positivity)]
  calc ((n * 2 ^ 60 / 100 : ℕ) : ℚ) ≤ (n * 2 ^ 60 : ℕ) / (100 : ℕ) := Nat.cast_div_le
    _ = (n : ℕ) / 100 * 2 ^ 60 := by push_cast; ring

theorem toRat_add (h : x.add y = .ok z) : z.toRat = x.toRat + y.toRat := by
  rw [add_eq_ok] at h
  rw [toRat, toRat, toRat, h]
  push_cast
  ring

theorem toRat_sub (h : x.sub y = .ok z) : z.toRat = x.toRat - y.toRat := by
  rw [sub_eq_ok] at h
  rw [toRat, toRat, toRat, ← h]
  push_cast
  ring

theorem toRat_mul_le (h : x.mul y = .ok z) : z.toRat ≤ x.toRat * y.toRat := by
  rw [mul_eq_ok] at h
  rw [toRat, toRat, toRat, h, div_le_iff₀ (by positivity)]
  calc ((x.bits * y.bits / 2 ^ 60 : ℕ) : ℚ) ≤ (x.bits * y.bits : ℕ) / (2 ^ 60 : ℕ) :=
        Nat.cast_div_le
    _ = x.bits / 2 ^ 60 * (y.bits / 2 ^ 60) * 2 ^ 60 := by push_cast; ring

theorem toRat_div_le (h : x.div y = .ok z) : z.toRat ≤ x.toRat / y.toRat := by
  rw [div_eq_ok] at h
  have hy : (y.bits : ℚ) ≠ 0 := by exact_mod_cast h.1
  rw [toRat, toRat, toRat, h.2, div_le_iff₀ (by positivity)]
  calc ((x.bits * 2 ^ 60 / y.bits : ℕ) : ℚ) ≤ (x.bits * 2 ^ 60 : ℕ) / (y.bits : ℕ) :=
        Nat.cast_div_le
    _ = x.bits / 2 ^ 60 / (y.bits / 2 ^ 60) * 2 ^ 60 := by
      rw [Nat.cast_mul, Nat.cast_pow, Nat.cast_ofNat]
      field_simp

/-- A premium on a value is at most another value when it is so for the bits. -/
theorem one_add_mul_toRat_le (h : (2 ^ 60 + x.bits) * y.bits ≤ 2 ^ 60 * z.bits) :
    (1 + x.toRat) * y.toRat ≤ z.toRat := by
  have hbits : (2 ^ 60 + (x.bits : ℚ)) * y.bits ≤ 2 ^ 60 * z.bits := by exact_mod_cast h
  calc (1 + x.toRat) * y.toRat = (2 ^ 60 + x.bits) * y.bits / (2 ^ 60 * 2 ^ 60) := by
        rw [toRat, toRat, one_add_div (by positivity), div_mul_div_comm]
    _ ≤ 2 ^ 60 * z.bits / (2 ^ 60 * 2 ^ 60) := div_le_div_of_nonneg_right hbits (by positivity)
    _ = z.toRat := mul_div_mul_left _ _ (by positivity)

theorem toFloor_le {n : U64} (h : x.toFloor = .ok n) : ((n : ℕ) : ℚ) ≤ x.toRat := by
  rw [toFloor_eq_ok] at h
  rw [toRat, h]
  exact_mod_cast Nat.cast_div_le (α := ℚ) (m := x.bits) (n := 2 ^ 60)

end Klend.Fraction
