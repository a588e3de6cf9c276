import Klend.Library.SignificantDigits

/-! # JavaScript numbers

A number of the client is kept as the rational that it stands for. An operation on numbers is
exact and then rounded to 53 binary digits; a decimal reads a number by the digits that
`toString` writes. No value of the client comes near the ends of the exponents, and integers
below 2^53 are exact.
-/

namespace Klend.Sdk

open SignificantDigits

/-- `Decimal.toNumber`, and the end of every operation on numbers. -/
def numberOf (x : ℚ) : ℚ := round 2 53 halfEven x

/-- So many decimal digits that are read back as the number, the nearest where two are. -/
def readBack (x : ℚ) (digits : ℕ) : Option ℚ :=
  let last := lastPlace 10 digits x
  ([halfEven (x / last), ⌊x / last⌋, ⌈x / last⌉].map fun n : ℤ ↦ n * last).find? (numberOf · = x)

/-- The fewest digits that are read back as a number that is not negative. -/
def digitsOf (x : ℚ) : ℚ := ((List.range' 1 17).findSome? (readBack x)).getD x

/-- `new Decimal` of a number, which reads what `toString` writes. -/
def decimalOf (x : ℚ) : ℚ := if x < 0 then -digitsOf (-x) else digitsOf x

example : decimalOf (numberOf (numberOf (1 / 10) + numberOf (2 / 10))) =
    3 / 10 + 4 / 10 ^ 17 := by decide +kernel

/-- `Fraction.MULTIPLIER_NUMBER`, which is 2^60, as decimals read it. -/
def multiplierNumber : ℕ := 1152921504606847000

example : decimalOf (2 ^ 60) = multiplierNumber := by decide +kernel

/-- `Fraction.toDecimal` of a number that is in range. -/
def sfToDecimal (valueSf : ℕ) : ℚ := valueSf / multiplierNumber

section Fraction

variable {m n : ℕ}

theorem multiplierNumber_pos : (0 : ℚ) < multiplierNumber := by norm_num [multiplierNumber]

@[simp] theorem sfToDecimal_zero : sfToDecimal 0 = 0 := by simp [sfToDecimal]

theorem sfToDecimal_nonneg (n : ℕ) : 0 ≤ sfToDecimal n :=
  div_nonneg (Nat.cast_nonneg n) multiplierNumber_pos.le

theorem sfToDecimal_le : sfToDecimal m ≤ sfToDecimal n ↔ m ≤ n := by
  rw [sfToDecimal, sfToDecimal, div_le_div_iff_of_pos_right multiplierNumber_pos, Nat.cast_le]

theorem sfToDecimal_lt : sfToDecimal m < sfToDecimal n ↔ m < n := by
  rw [sfToDecimal, sfToDecimal, div_lt_div_iff_of_pos_right multiplierNumber_pos, Nat.cast_lt]

theorem sfToDecimal_inj : sfToDecimal m = sfToDecimal n ↔ m = n := by
  rw [sfToDecimal, sfToDecimal, div_left_inj' multiplierNumber_pos.ne', Nat.cast_inj]

theorem sfToDecimal_eq_zero : sfToDecimal n = 0 ↔ n = 0 := by
  rw [← sfToDecimal_zero, sfToDecimal_inj]

end Fraction

variable {x y : ℚ} {digits : ℕ}

@[simp] theorem numberOf_zero : numberOf 0 = 0 := round_zero nearest_halfEven

theorem numberOf_neg : numberOf (-x) = -numberOf x := round_neg nearest_halfEven

theorem numberOf_nonneg (hx : 0 ≤ x) : 0 ≤ numberOf x :=
  round_nonneg one_lt_two nearest_halfEven hx

theorem numberOf_pos (hx : 0 < x) : 0 < numberOf x := round_pos one_lt_two nearest_halfEven hx

theorem numberOf_lt (hx : 0 ≤ x) (hlt : x < y) (hxy : x + y < (y - x) * 2 ^ 53) :
    numberOf x < numberOf y :=
  round_lt_round one_lt_two nearest_halfEven hx hlt (hxy.trans_eq (by norm_num))

theorem numberOf_readBack {d : ℚ} (h : readBack x digits = some d) : numberOf d = x := by
  unfold readBack at h
  simpa using List.find?_some h

theorem readBack_nonneg {d : ℚ} (hx : 0 ≤ x) (h : readBack x digits = some d) : 0 ≤ d := by
  have hlast : 0 < lastPlace 10 digits x := lastPlace_pos (by norm_num)
  have hscaled : 0 ≤ x / lastPlace 10 digits x := div_nonneg hx hlast.le
  unfold readBack at h
  obtain ⟨n, hn, rfl⟩ := List.mem_map.1 (List.mem_of_find?_eq_some h)
  apply mul_nonneg _ hlast.le
  suffices hn0 : 0 ≤ n by exact_mod_cast hn0
  simp only [List.mem_cons, List.not_mem_nil, or_false] at hn
  rcases hn with rfl | rfl | rfl
  · exact nearest_halfEven.nonneg hscaled
  · exact Int.floor_nonneg.2 hscaled
  · exact Int.ceil_nonneg hscaled

@[simp] theorem decimalOf_zero : decimalOf 0 = 0 := by decide +kernel

theorem digitsOf_nonneg (hx : 0 ≤ x) : 0 ≤ digitsOf x := by
  unfold digitsOf
  rcases h : (List.range' 1 17).findSome? (readBack x) with - | d
  · exact hx
  · obtain ⟨digits, -, hd⟩ := List.exists_of_findSome?_eq_some h
    exact readBack_nonneg hx hd

theorem digitsOf_ne_zero (hx : x ≠ 0) : digitsOf x ≠ 0 := by
  unfold digitsOf
  rcases h : (List.range' 1 17).findSome? (readBack x) with - | d
  · exact hx
  · obtain ⟨digits, -, hd⟩ := List.exists_of_findSome?_eq_some h
    rintro rfl
    exact hx ((numberOf_readBack hd).symm.trans numberOf_zero)

theorem decimalOf_nonneg (hx : 0 ≤ x) : 0 ≤ decimalOf x := by
  rw [decimalOf, if_neg (not_lt.2 hx)]
  exact digitsOf_nonneg hx

theorem decimalOf_pos (hx : 0 < x) : 0 < decimalOf x := by
  rw [decimalOf, if_neg (not_lt.2 hx.le)]
  exact lt_of_le_of_ne (digitsOf_nonneg hx.le) (digitsOf_ne_zero hx.ne').symm

theorem decimalOf_pos_iff (hx : 0 ≤ x) : 0 < decimalOf x ↔ 0 < x := by
  constructor
  · intro h
    apply hx.lt_of_ne
    rintro rfl
    rw [decimalOf_zero] at h
    exact lt_irrefl _ h
  · exact decimalOf_pos

theorem decimalOf_neg (hx : 0 < x) : decimalOf (-x) = -decimalOf x := by
  rw [decimalOf, if_pos (neg_lt_zero.2 hx), neg_neg, decimalOf, if_neg (not_lt.2 hx.le)]

end Klend.Sdk
