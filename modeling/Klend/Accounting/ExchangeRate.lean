import Klend.Accounting.ReserveBooks

/-! # The conversions of an exchange rate

The two conversions of a rate as quotients of naturals: liquidity to collateral is
rounded down, collateral to liquidity is rounded up, and neither step of their
evaluation rounds away more than that.
-/

namespace Klend

namespace CollateralExchangeRate

variable {rate : CollateralExchangeRate} {c l x y : U64}

theorem liquidityToCollateral_eq_ok : rate.liquidityToCollateral l = .ok x ↔
    rate.liquidity.bits ≠ 0 ∧ (rate.collateralSupply * l : ℕ) < 2 ^ 128 ∧
      (rate.collateralSupply * l * unit * unit / rate.liquidity.bits : ℕ) < 2 ^ 128 ∧
      (x : ℕ) = rate.collateralSupply * l * unit / rate.liquidity.bits := by
  simp only [liquidityToCollateral, liquidityToCollateralFraction, bind_eq_ok, Word.mul_eq_ok,
    BigFraction.divFraction_eq_ok, BigFraction.toFraction_eq_ok, Fraction.toFloor_eq_ok,
    Word.widen_val, BigFraction.fromNum, unit_eq]
  have hshift (p : Word 128) : (p * 2 ^ 60 % 2 ^ 256 * 2 ^ 60 % 2 ^ 256 : ℕ) =
      p * 2 ^ 60 * 2 ^ 60 := by
    have := p.isLt
    rw [Nat.mod_eq_of_lt (a := (p : ℕ) * 2 ^ 60) (by omega), Nat.mod_eq_of_lt (by omega)]
  have hfloor (n : ℕ) : n * 2 ^ 60 / rate.liquidity.bits / 2 ^ 60 = n / rate.liquidity.bits := by
    rw [Nat.div_div_eq_div_mul, Nat.mul_div_mul_right _ _ (by norm_num)]
  constructor
  · rintro ⟨f, ⟨p, hp, q, ⟨hne, hq⟩, hf⟩, hx⟩
    rw [hshift] at hq
    rw [hf, hq, hfloor] at hx
    rw [← hp]
    exact ⟨hne, p.isLt, by rw [← hq, ← hf]; exact f.isLt, hx⟩
  · rintro ⟨hne, hlt, hfits, hx⟩
    refine ⟨⟨_, hfits⟩, ⟨⟨_, hlt⟩, rfl, ⟨_, hfits.trans (by norm_num)⟩, ⟨hne, ?_⟩, rfl⟩, ?_⟩
    · rw [hshift]
    · rw [hfloor, hx]

theorem collateralToLiquidityCeil_eq_ok : rate.collateralToLiquidityCeil c = .ok y ↔
    0 < (rate.collateralSupply : ℕ) ∧
      (c * rate.liquidity.bits + (rate.collateralSupply - 1)) / rate.collateralSupply < 2 ^ 128 ∧
      (y : ℕ) = ((c * rate.liquidity.bits + (rate.collateralSupply - 1)) / rate.collateralSupply +
        (unit - 1)) / unit := by
  simp only [collateralToLiquidityCeil, bind_eq_ok, BigFraction.ofBits_eq_ok, Word.sub_eq_ok,
    BigFraction.divInt_eq_ok, BigFraction.toFraction_eq_ok, Fraction.toCeil_eq_ok, unit_eq]
  have hone : ((1 : Word 128) : ℕ) = 1 := rfl
  have hsupply := rate.collateralSupply.isLt
  have hproduct : (c : ℕ) * rate.liquidity.bits < 2 ^ 64 * 2 ^ 128 :=
    Nat.mul_lt_mul'' c.isLt rate.liquidity.isLt
  constructor
  · rintro ⟨p, hp, m, hm, s, hs, q, ⟨hne, hq⟩, f, hf, hy⟩
    have hpred : (m : ℕ) = rate.collateralSupply - 1 := by omega
    rw [hs, hp, hpred] at hq
    rw [hf, hq] at hy
    exact ⟨Nat.pos_of_ne_zero hne, by rw [← hq, ← hf]; exact f.isLt, hy⟩
  · rintro ⟨hpos, hfits, hy⟩
    refine ⟨⟨_, hproduct.trans (by norm_num)⟩, rfl, ⟨rate.collateralSupply - 1, by omega⟩, ?_,
      ⟨_, ?_⟩, rfl, ⟨_, hfits.trans (by norm_num)⟩, ⟨hpos.ne', rfl⟩, ⟨_, hfits⟩, rfl, hy⟩
    · dsimp only; omega
    · dsimp only; omega

theorem le_liquidityToCollateral_iff (hx : rate.liquidityToCollateral l = .ok x)
    (hy : rate.collateralToLiquidityCeil c = .ok y) : c ≤ x ↔ y ≤ l := by
  obtain ⟨hne, -, -, hx⟩ := liquidityToCollateral_eq_ok.1 hx
  obtain ⟨hpos, -, hy⟩ := collateralToLiquidityCeil_eq_ok.1 hy
  rw [Fin.le_def, Fin.le_def, hx, hy]
  exact Rounding.le_div_iff_ceil_ceil_le (Nat.pos_of_ne_zero hne) hpos unit_pos

/-- The way back from an amount that was converted does not overflow. -/
theorem exists_collateralToLiquidityCeil (hpos : 0 < (rate.collateralSupply : ℕ))
    (hx : rate.liquidityToCollateral l = .ok x) :
    ∃ y, rate.collateralToLiquidityCeil x = .ok y ∧ y ≤ l := by
  obtain ⟨hne, -, -, hx⟩ := liquidityToCollateral_eq_ok.1 hx
  have hle := (Rounding.le_div_iff_ceil_ceil_le (Nat.pos_of_ne_zero hne) hpos unit_pos).1 hx.le
  have hlt := l.isLt
  refine ⟨⟨_, hle.trans_lt hlt⟩, collateralToLiquidityCeil_eq_ok.2 ⟨hpos, ?_, rfl⟩, hle⟩
  rw [Rounding.add_pred_div_le_iff unit_pos, unit_eq] at hle
  rw [unit_eq] at hx
  omega

theorem collateralToLiquidity_le_of_le (hpos : 0 < (rate.collateralSupply : ℕ))
    (hx : rate.liquidityToCollateral l = .ok x) (hc : c ≤ x)
    (hy : rate.collateralToLiquidity c = .ok y) : y ≤ l := by
  obtain ⟨-, -, -, hx⟩ := liquidityToCollateral_eq_ok.1 hx
  rw [Fin.le_def] at hc ⊢
  have hle : (y : ℕ) * (unit * rate.collateralSupply) ≤ l * (unit * rate.collateralSupply) :=
    calc (y : ℕ) * (unit * rate.collateralSupply) = y * unit * rate.collateralSupply := by ring
      _ ≤ c * rate.liquidity.bits := collateralToLiquidity_le hy
      _ ≤ x * rate.liquidity.bits := Nat.mul_le_mul_right _ hc
      _ ≤ rate.collateralSupply * l * unit := hx ▸ Nat.div_mul_le_self _ _
      _ = l * (unit * rate.collateralSupply) := by ring
  exact Nat.le_of_mul_le_mul_right hle (Nat.mul_pos unit_pos hpos)

end CollateralExchangeRate

end Klend
