import Klend.Lending.LiquidationOperations

/-! # What a liquidation settles

The amounts of a liquidation in terms of the debt chosen for liquidation.
-/

namespace Klend

/-- The debt chosen for liquidation: all of it below the market's threshold, otherwise what the
close factor, the market's cap and the request allow. -/
def LiquidatesDebt (market : LendingMarket) (o : Obligation) (b : ObligationLiquidity)
    (amount : U64) (userLtv : Fraction) (debt : Fraction) : Prop :=
  if b.marketValueSf < Fraction.fromNum market.minFullLiquidationValueThreshold then
    b.borrowedAmountSf ≤ Fraction.fromNum amount ∧ debt = b.borrowedAmountSf
  else ∃ most, maxLiquidatableBorrowedAmount o market.liquidationMaxDebtCloseFactorPct
      market.maxLiquidatableDebtMarketValueAtOnce b userLtv market.insolvencyRiskUnhealthyLtvPct =
        .ok most ∧
    debt = min most (min (Fraction.fromNum amount) b.borrowedAmountSf)

section

variable {market : LendingMarket} {o : Obligation} {b : ObligationLiquidity} {amount : U64}
  {userLtv debt : Fraction}

theorem LiquidatesDebt.le (h : LiquidatesDebt market o b amount userLtv debt) :
    debt.bits ≤ b.borrowedAmountSf.bits ∧ debt.bits ≤ amount * 2 ^ 60 := by
  unfold LiquidatesDebt at h
  split at h
  · obtain ⟨hle, rfl⟩ := h
    exact ⟨le_rfl, hle⟩
  · obtain ⟨most, -, rfl⟩ := h
    simp only [Fraction.bits_min, Fraction.bits_fromNum]
    omega

theorem calculateLiquidationAmounts_settle {total settle : Fraction} {d : ObligationCollateral}
    {below : Bool} {repay withdraw : U64}
    (h : calculateLiquidationAmounts total d debt below = .ok (settle, repay, withdraw)) :
    settle.toCeil = .ok repay ∧ settle.bits ≤ debt.bits := by
  unfold calculateLiquidationAmounts at h
  dsimp only at h
  split at h
  · next hlt =>
    simp only [bind_eq_ok, pure_eq_ok, Fraction.div_eq_ok, Fraction.mul_eq_ok,
      Prod.mk.injEq] at h
    obtain ⟨ratio, ⟨hne, hratio⟩, f, hf, n, hn, rfl, rfl, -⟩ := h
    refine ⟨hn, ?_⟩
    split
    · exact le_rfl
    · have hone : ratio.bits ≤ 2 ^ 60 := by
        rw [hratio]
        refine Nat.div_le_of_le_mul ?_
        exact Nat.mul_le_mul_right _ (Fraction.lt_iff.1 hlt).le
      rw [hf]
      exact Nat.div_le_of_le_mul (mul_comm (2 ^ 60) debt.bits ▸ Nat.mul_le_mul_left _ hone)
  · split at h <;> simp only [bind_of_ite, bind_eq_ok, pure_eq_ok, Prod.mk.injEq] at h
    · obtain ⟨n, hn, rfl, rfl, -⟩ := h
      exact ⟨hn, le_rfl⟩
    · obtain ⟨n, hn, -, -, -, -, -, -, rfl, rfl, -⟩ := h
      exact ⟨hn, le_rfl⟩

variable {w r : Reserve} {d : ObligationCollateral} {ts : U64} {highest lowest : Bool}
  {override : Option U64} {result : CalculateLiquidationResult}

theorem calculateLiquidation_spec
    (h : calculateLiquidation w r amount market o b d ts highest lowest override = .ok result) :
    ∃ (params : LiquidationParams) (bonusRate debt ratio value total : Fraction),
      o.depositedValueSf ≠ Fraction.zero ∧
      getLiquidationParams market w r o ts highest lowest override = .ok params ∧
      bonusRate.bits = params.liquidationBonusRate.bits + 2 ^ 60 ∧
      LiquidatesDebt market o b amount params.userLtv debt ∧
      b.borrowedAmountSf.bits ≠ 0 ∧
      ratio.bits = debt.bits * 2 ^ 60 / b.borrowedAmountSf.bits ∧
      value.bits = b.marketValueSf.bits * ratio.bits / 2 ^ 60 ∧
      total.bits = value.bits * bonusRate.bits / 2 ^ 60 ∧
      calculateLiquidationAmounts total d debt
        (b.marketValueSf < Fraction.fromNum market.minFullLiquidationValueThreshold) =
          .ok (result.settleAmountF, result.repayAmount, result.withdrawAmount) ∧
      result.liquidationBonusRate = params.liquidationBonusRate := by
  simp only [calculateLiquidation, bind_eq_ok, require_eq_ok, decide_eq_true_eq,
    Fraction.add_eq_ok] at h
  obtain ⟨-, hval, params, hparams, bonusRate, hbonus, h⟩ := h
  refine ⟨params, bonusRate, ?_⟩
  split at h <;> simp only [bind_eq_ok, require_eq_ok, pure_eq_ok, Fraction.mul_eq_ok,
    Fraction.div_eq_ok, Prod.exists] at h
  · next hbelow =>
    obtain ⟨-, hle, debt, rfl, ratio, ⟨hne, hratio⟩, value, hvalue, total, htotal, settle, repay,
      withdraw, hamounts, -, -, -, -, rfl⟩ := h
    refine ⟨b.borrowedAmountSf, ratio, value, total, hval, hparams, hbonus, ?_, hne, hratio, hvalue,
      htotal, hamounts, rfl⟩
    rw [LiquidatesDebt, if_pos hbelow]
    exact ⟨(le_min_iff.1 hle).1, rfl⟩
  · next hbelow =>
    obtain ⟨most, hmost, debt, rfl, ratio, ⟨hne, hratio⟩, value, hvalue, total, htotal, settle,
      repay, withdraw, hamounts, -, -, -, -, rfl⟩ := h
    refine ⟨_, ratio, value, total, hval, hparams, hbonus, ?_, hne, hratio, hvalue, htotal,
      hamounts, rfl⟩
    rw [LiquidatesDebt, if_neg hbelow]
    exact ⟨most, hmost, rfl⟩

/-- A liquidation settles no more than the debt and the request, and is paid for the settled debt
rounded up. -/
theorem calculateLiquidation_settle
    (h : calculateLiquidation w r amount market o b d ts highest lowest override = .ok result) :
    result.settleAmountF.toCeil = .ok result.repayAmount ∧
      result.settleAmountF.bits ≤ b.borrowedAmountSf.bits ∧
      result.settleAmountF.bits ≤ amount * 2 ^ 60 := by
  obtain ⟨params, bonusRate, debt, ratio, value, total, -, -, -, hdebt, -, -, -, -, hamounts, -⟩ :=
    calculateLiquidation_spec h
  obtain ⟨hceil, hle⟩ := calculateLiquidationAmounts_settle hamounts
  exact ⟨hceil, hle.trans hdebt.le.1, hle.trans hdebt.le.2⟩

end

end Klend
