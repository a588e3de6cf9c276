import Mathlib.Data.Int.Log
import Mathlib.Data.Rat.Floor
import Mathlib.Tactic.Linarith
import Mathlib.Tactic.Positivity

/-! # Rounding to significant digits

A number keeps so many digits of a base: it becomes a nearest multiple of the power of the base
that leaves these digits before the point. What a number halfway becomes is a parameter. The
exponent has no bounds.
-/

namespace SignificantDigits

/-- A choice of a nearest whole number, which does not depend on the sign. -/
structure Nearest (near : ℚ → ℤ) : Prop where
  close : ∀ x, |(near x : ℚ) - x| ≤ 1 / 2
  neg : ∀ x, near (-x) = -near x

/-- What is done with a number that is not negative, for both signs. -/
def bothSigns (f : ℚ → ℤ) (x : ℚ) : ℤ := if 0 ≤ x then f x else -f (-x)

/-- A nearest whole number, away from zero where two are. -/
def halfUp : ℚ → ℤ := bothSigns fun x ↦ ⌊x + 1 / 2⌋

/-- A nearest whole number, the even one where two are. -/
def halfEven : ℚ → ℤ := bothSigns fun x ↦
  if x - ⌊x⌋ < 1 / 2 ∨ x - ⌊x⌋ = 1 / 2 ∧ ⌊x⌋ % 2 = 0 then ⌊x⌋ else ⌊x⌋ + 1

section Nearest

variable {f : ℚ → ℤ} {near : ℚ → ℤ} {x : ℚ} {n : ℤ}

theorem nearest_bothSigns (hzero : f 0 = 0) (hclose : ∀ x, |(f x : ℚ) - x| ≤ 1 / 2) :
    Nearest (bothSigns f) where
  close x := by
    unfold bothSigns
    split
    · exact hclose x
    · have hx := hclose (-x)
      rw [← abs_neg] at hx
      push_cast
      convert hx using 2
      ring
  neg x := by
    unfold bothSigns
    rcases lt_trichotomy x 0 with hneg | rfl | hpos
    · rw [if_pos (neg_nonneg.2 hneg.le), if_neg (not_le.2 hneg), neg_neg]
    · simp [hzero]
    · rw [if_neg (not_le.2 (neg_lt_zero.2 hpos)), if_pos hpos.le, neg_neg]

theorem nearest_halfUp : Nearest halfUp := by
  apply nearest_bothSigns
  · norm_num
  · intro x
    have hle := Int.floor_le (x + 1 / 2)
    have hlt := Int.lt_floor_add_one (x + 1 / 2)
    rw [abs_le]
    constructor <;> linarith

theorem nearest_halfEven : Nearest halfEven := by
  apply nearest_bothSigns
  · norm_num
  · intro x
    have hle := Int.floor_le x
    have hlt := Int.lt_floor_add_one x
    rw [abs_le]
    split
    · next h =>
      have hhalf : x - ⌊x⌋ ≤ 1 / 2 := h.elim le_of_lt fun h ↦ h.1.le
      constructor <;> linarith
    · next h =>
      have hhalf : 1 / 2 ≤ x - ⌊x⌋ := not_lt.1 (mt .inl h)
      push_cast
      constructor <;> linarith

theorem Nearest.intCast (h : Nearest near) (n : ℤ) : near n = n := by
  have hclose : |((near n - n : ℤ) : ℚ)| < 1 := by
    rw [Int.cast_sub]
    exact (h.close n).trans_lt (by norm_num)
  have hlt : |near n - n| < 1 := by exact_mod_cast hclose
  exact sub_eq_zero.1 (Int.abs_lt_one_iff.1 hlt)

theorem Nearest.nonneg (h : Nearest near) (hx : 0 ≤ x) : 0 ≤ near x := by
  have hclose := (abs_le.1 (h.close x)).1
  have hlt : (-1 : ℚ) < near x := by linarith
  have : -1 < near x := by exact_mod_cast hlt
  omega

end Nearest

variable {b p : ℕ} {near : ℚ → ℤ} {x y : ℚ}

/-- The unit of the last of the digits. -/
def lastPlace (b p : ℕ) (x : ℚ) : ℚ := (b : ℚ) ^ (Int.log b |x| + 1 - p)

def round (b p : ℕ) (near : ℚ → ℤ) (x : ℚ) : ℚ := near (x / lastPlace b p x) * lastPlace b p x

theorem lastPlace_pos (hb : 1 < b) : 0 < lastPlace b p x := by
  have hb0 : (0 : ℚ) < b := by exact_mod_cast zero_lt_one.trans hb
  exact zpow_pos hb0 _

@[simp] theorem lastPlace_neg : lastPlace b p (-x) = lastPlace b p x := by
  rw [lastPlace, lastPlace, abs_neg]

/-- The digits reach up to the number. -/
theorem lastPlace_mul_le (hb : 1 < b) (hx : x ≠ 0) : lastPlace b (p + 1) x * b ^ p ≤ |x| := by
  have hb0 : (b : ℚ) ≠ 0 := by exact_mod_cast (zero_lt_one.trans hb).ne'
  have hlast : lastPlace b (p + 1) x * b ^ p = (b : ℚ) ^ Int.log b |x| := by
    rw [lastPlace, ← zpow_natCast, ← zpow_add₀ hb0]
    congr 1
    push_cast
    ring
  rw [hlast]
  exact Int.zpow_log_le_self hb (abs_pos.2 hx)

section Round

@[simp] theorem round_zero (h : Nearest near) : round b p near 0 = 0 := by
  have hzero : near 0 = 0 := by exact_mod_cast h.intCast 0
  rw [round, zero_div, hzero, Int.cast_zero, zero_mul]

theorem round_neg (h : Nearest near) : round b p near (-x) = -round b p near x := by
  rw [round, lastPlace_neg, neg_div, h.neg, Int.cast_neg, neg_mul, round]

theorem round_nonneg (hb : 1 < b) (h : Nearest near) (hx : 0 ≤ x) : 0 ≤ round b p near x := by
  have hlast : 0 < lastPlace b p x := lastPlace_pos hb
  have hnear : (0 : ℚ) ≤ near (x / lastPlace b p x) := by
    exact_mod_cast h.nonneg (div_nonneg hx hlast.le)
  exact mul_nonneg hnear hlast.le

theorem abs_round_sub_le (hb : 1 < b) (h : Nearest near) :
    |round b p near x - x| ≤ lastPlace b p x / 2 := by
  have hlast : 0 < lastPlace b p x := lastPlace_pos hb
  have hx : x = x / lastPlace b p x * lastPlace b p x := (div_mul_cancel₀ x hlast.ne').symm
  calc |round b p near x - x|
      = |(near (x / lastPlace b p x) : ℚ) - x / lastPlace b p x| * lastPlace b p x := by
        nth_rewrite 2 [hx]
        rw [round, ← sub_mul, abs_mul, abs_of_pos hlast]
    _ ≤ 1 / 2 * lastPlace b p x := mul_le_mul_of_nonneg_right (h.close _) hlast.le
    _ = lastPlace b p x / 2 := by ring

/-- The relative error is at most half a unit of the last digit of one. -/
theorem abs_round_sub_mul_le (hb : 1 < b) (h : Nearest near) :
    |round b (p + 1) near x - x| * (2 * b ^ p) ≤ |x| := by
  rcases eq_or_ne x 0 with rfl | hx
  · rw [round_zero h]
    simp
  · have hdigits := lastPlace_mul_le (p := p) hb hx
    have herror := abs_round_sub_le (p := p + 1) (x := x) hb h
    have hpow : (0 : ℚ) ≤ 2 * b ^ p := by positivity
    calc |round b (p + 1) near x - x| * (2 * b ^ p)
        ≤ lastPlace b (p + 1) x / 2 * (2 * b ^ p) := mul_le_mul_of_nonneg_right herror hpow
      _ = lastPlace b (p + 1) x * b ^ p := by ring
      _ ≤ |x| := hdigits

theorem round_eq_zero (hb : 1 < b) (h : Nearest near) : round b (p + 1) near x = 0 ↔ x = 0 := by
  constructor
  · intro hzero
    have herror := abs_round_sub_mul_le (p := p) (x := x) hb h
    rw [hzero, zero_sub, abs_neg] at herror
    have hpow : (1 : ℚ) ≤ b ^ p := one_le_pow₀ (by exact_mod_cast hb.le)
    by_contra hx
    have hpos := abs_pos.2 hx
    nlinarith
  · rintro rfl
    exact round_zero h

theorem round_pos (hb : 1 < b) (h : Nearest near) (hx : 0 < x) : 0 < round b (p + 1) near x :=
  lt_of_le_of_ne (round_nonneg hb h hx.le) (Ne.symm (mt (round_eq_zero hb h).1 hx.ne'))

/-- Numbers that are far enough apart stay apart. -/
theorem round_lt_round (hb : 1 < b) (h : Nearest near) (hx : 0 ≤ x) (hlt : x < y)
    (hxy : x + y < (y - x) * (2 * b ^ p)) : round b (p + 1) near x < round b (p + 1) near y := by
  have hpow : (0 : ℚ) < 2 * b ^ p := by
    have : (0 : ℚ) < b := by exact_mod_cast zero_lt_one.trans hb
    positivity
  have hx' := abs_round_sub_mul_le (p := p) (x := x) hb h
  have hy' := abs_round_sub_mul_le (p := p) (x := y) hb h
  rw [abs_of_nonneg hx] at hx'
  rw [abs_of_nonneg (hx.trans hlt.le)] at hy'
  have hup := mul_le_mul_of_nonneg_right (le_abs_self (round b (p + 1) near x - x)) hpow.le
  have hdown := mul_le_mul_of_nonneg_right (neg_le_abs (round b (p + 1) near y - y)) hpow.le
  have hscaled : round b (p + 1) near x * (2 * b ^ p) < round b (p + 1) near y * (2 * b ^ p) := by
    linarith
  exact lt_of_mul_lt_mul_right hscaled hpow.le

end Round

end SignificantDigits
