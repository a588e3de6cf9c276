import Klend.Lending.LiquidationRoutes
import Klend.Lending.LiquidationSpecs
import Klend.Lending.Runs
import Klend.Lending.VaultChecks
import Klend.Machine.Rational

/-! # The amounts of a liquidation

A liquidator settles at most what is owed and what was asked for, within the close
factor and the market's cap, and receives collateral worth at most the settled debt
and its bonus. A debt too small to be left over is liquidated in full, and then one
unit of collateral is paid even where less would be due.
-/

namespace Klend

/-- The value of a part of the debt, in proportion to the value of the slot. -/
def ObligationLiquidity.valueOf (b : ObligationLiquidity) (part : Fraction) : ℚ :=
  b.marketValueSf.toRat * (part.toRat / b.borrowedAmountSf.toRat)

/-- The value of a part of the collateral, in proportion to the value of the slot. -/
def ObligationCollateral.valueOf (d : ObligationCollateral) (part : U64) : ℚ :=
  d.marketValueSf.toRat * ((part : ℕ) / (d.depositedAmount : ℕ))

section

variable {market : LendingMarket} {o : Obligation} {b : ObligationLiquidity} {amount : U64}
  {w r : Reserve} {d : ObligationCollateral} {ts : U64} {highest lowest : Bool}
  {override : Option U64} {userLtv debt most : Fraction}

theorem ObligationLiquidity.valueOf_nonneg (b : ObligationLiquidity) (part : Fraction) :
    0 ≤ b.valueOf part :=
  mul_nonneg (Fraction.toRat_nonneg _)
    (div_nonneg (Fraction.toRat_nonneg _) (Fraction.toRat_nonneg _))

theorem ObligationLiquidity.valueOf_mono {part part' : Fraction} (h : part ≤ part') :
    b.valueOf part ≤ b.valueOf part' := by
  unfold valueOf
  have hpart := Fraction.toRat_le_toRat.2 h
  have hvalue := Fraction.toRat_nonneg b.marketValueSf
  have hdebt := Fraction.toRat_nonneg b.borrowedAmountSf
  gcongr

theorem maxLiquidatableBorrowedAmount_value {closeFactorPct insolvencyPct : U8} {atOnce : U64}
    (h : maxLiquidatableBorrowedAmount o closeFactorPct atOnce b userLtv insolvencyPct = .ok most)
    (hdebt : b.borrowedAmountSf.bits ≠ 0) :
    (userLtv ≤ Fraction.fromPercent insolvencyPct.widen →
      b.valueOf most ≤ (closeFactorPct : ℕ) / 100 * o.borrowedAssetsMarketValueSf.toRat) ∧
    b.valueOf most ≤ (atOnce : ℕ) := by
  simp only [maxLiquidatableBorrowedAmount, bind_eq_ok] at h
  obtain ⟨closed, hclosed, ratio, hratio, hmost⟩ := h
  have hvalue : 0 < b.marketValueSf.toRat := Fraction.toRat_pos (Fraction.div_eq_ok.1 hratio).1
  have hborrowed : 0 < b.borrowedAmountSf.toRat := Fraction.toRat_pos hdebt
  have hle : b.valueOf most ≤ (min (min closed b.marketValueSf) (Fraction.fromNum atOnce)).toRat :=
    calc b.marketValueSf.toRat * (most.toRat / b.borrowedAmountSf.toRat)
        ≤ b.marketValueSf.toRat *
            (b.borrowedAmountSf.toRat * ratio.toRat / b.borrowedAmountSf.toRat) := by
          gcongr
          exact Fraction.toRat_mul_le hmost
      _ = ratio.toRat * b.marketValueSf.toRat := by
          rw [mul_div_cancel_left₀ _ hborrowed.ne', mul_comm]
      _ ≤ (min (min closed b.marketValueSf) (Fraction.fromNum atOnce)).toRat :=
          (le_div_iff₀ hvalue).1 (Fraction.toRat_div_le hratio)
  constructor
  · intro hsolvent
    rw [if_neg hsolvent.not_gt] at hclosed
    calc b.valueOf most
        ≤ (min (min closed b.marketValueSf) (Fraction.fromNum atOnce)).toRat := hle
      _ ≤ closed.toRat :=
          Fraction.toRat_le_toRat.2 ((min_le_left _ _).trans (min_le_left _ _))
      _ ≤ o.borrowedAssetsMarketValueSf.toRat *
            (Fraction.fromPercent closeFactorPct.widen).toRat := Fraction.toRat_mul_le hclosed
      _ ≤ o.borrowedAssetsMarketValueSf.toRat * ((closeFactorPct : ℕ) / 100) := by
          gcongr
          · exact Fraction.toRat_nonneg _
          · exact Fraction.toRat_fromPercent_le _
      _ = (closeFactorPct : ℕ) / 100 * o.borrowedAssetsMarketValueSf.toRat := mul_comm _ _
  · refine hle.trans ?_
    rw [← Fraction.toRat_fromNum]
    exact Fraction.toRat_le_toRat.2 (min_le_right _ _)

/-- Collateral that is not exhausted is paid out rounded down, or is the one unit that a full
liquidation always pays. -/
theorem calculateLiquidationAmounts_withdraw {total settle : Fraction} {below : Bool}
    {repay withdraw : U64}
    (h : calculateLiquidationAmounts total d debt below = .ok (settle, repay, withdraw))
    (hleft : withdraw < d.depositedAmount) :
    settle = debt ∧ (d.valueOf withdraw ≤ total.toRat ∨
      below = true ∧ withdraw = dustLamportThreshold) := by
  have hdeposit : (0 : ℚ) < (d.depositedAmount : ℕ) := by
    exact_mod_cast (Nat.zero_le _).trans_lt (Fin.lt_def.1 hleft)
  unfold calculateLiquidationAmounts at h
  dsimp only at h
  split at h
  · simp only [bind_eq_ok, pure_eq_ok, Prod.mk.injEq] at h
    obtain ⟨-, -, -, -, -, -, -, -, rfl⟩ := h
    exact absurd hleft (lt_irrefl _)
  · split at h <;> simp only [bind_of_ite, bind_eq_ok, pure_eq_ok, Prod.mk.injEq] at h
    · obtain ⟨-, -, -, -, rfl⟩ := h
      exact absurd hleft (lt_irrefl _)
    · obtain ⟨-, -, share, hshare, part, hpart, unit, hunit, rfl, -, rfl⟩ := h
      refine ⟨rfl, ?_⟩
      split at hunit
      · next hdust =>
        rw [pure_eq_ok] at hunit
        exact .inr ⟨hdust.1, hunit.symm⟩
      · left
        have hvalue : 0 < d.marketValueSf.toRat :=
          Fraction.toRat_pos (Fraction.div_eq_ok.1 hshare).1
        calc d.marketValueSf.toRat * ((unit : ℕ) / (d.depositedAmount : ℕ))
            ≤ d.marketValueSf.toRat *
                ((d.depositedAmount : ℕ) * share.toRat / (d.depositedAmount : ℕ)) := by
              gcongr
              refine (Fraction.toFloor_le hunit).trans ?_
              rw [← Fraction.toRat_fromNum]
              exact Fraction.toRat_mul_le hpart
          _ = share.toRat * d.marketValueSf.toRat := by
              rw [mul_div_cancel_left₀ _ hdeposit.ne', mul_comm]
          _ ≤ total.toRat := (le_div_iff₀ hvalue).1 (Fraction.toRat_div_le hshare)

theorem calculateLiquidationAmounts_withdraw_le {total settle : Fraction} {below : Bool}
    {repay withdraw : U64}
    (h : calculateLiquidationAmounts total d debt below = .ok (settle, repay, withdraw))
    (hdeposit : d.depositedAmount ≠ 0) : withdraw ≤ d.depositedAmount := by
  unfold calculateLiquidationAmounts at h
  dsimp only at h
  split at h
  · simp only [bind_eq_ok, pure_eq_ok, Prod.mk.injEq] at h
    obtain ⟨-, -, -, -, -, -, -, -, rfl⟩ := h
    exact le_rfl
  · next hle =>
    split at h <;> simp only [bind_of_ite, bind_eq_ok, pure_eq_ok, Prod.mk.injEq] at h
    · obtain ⟨-, -, -, -, rfl⟩ := h
      exact le_rfl
    · obtain ⟨-, -, share, hshare, part, hpart, unit, hunit, -, -, rfl⟩ := h
      split at hunit
      · rw [← pure_eq_ok.1 hunit, Fin.le_def]
        exact Nat.pos_of_ne_zero fun h0 ↦ hdeposit (Fin.ext h0)
      · have hone : share.toRat ≤ 1 :=
          (Fraction.toRat_div_le hshare).trans
            (div_le_one_of_le₀ (Fraction.toRat_le_toRat.2 (not_lt.1 hle)) (Fraction.toRat_nonneg _))
        have hunit : ((unit : ℕ) : ℚ) ≤ (d.depositedAmount : ℕ) :=
          calc ((unit : ℕ) : ℚ) ≤ part.toRat := Fraction.toFloor_le hunit
            _ ≤ (Fraction.fromNum d.depositedAmount).toRat * share.toRat :=
              Fraction.toRat_mul_le hpart
            _ ≤ (Fraction.fromNum d.depositedAmount).toRat :=
              mul_le_of_le_one_right (Fraction.toRat_nonneg _) hone
            _ = (d.depositedAmount : ℕ) := Fraction.toRat_fromNum _
        exact_mod_cast hunit

variable {result : CalculateLiquidationResult}

/-- Collateral that is not exhausted is paid out for the settled debt and its bonus, or is the one
unit that a full liquidation of a small debt always pays. -/
theorem calculateLiquidation_withdraw
    (h : calculateLiquidation w r amount market o b d ts highest lowest override = .ok result)
    (hleft : result.withdrawAmount < d.depositedAmount) :
    d.valueOf result.withdrawAmount ≤
        (1 + result.liquidationBonusRate.toRat) * b.valueOf result.settleAmountF ∨
      b.marketValueSf < Fraction.fromNum market.minFullLiquidationValueThreshold ∧
        result.settleAmountF = b.borrowedAmountSf ∧
        result.withdrawAmount = dustLamportThreshold := by
  obtain ⟨params, bonusRate, debt, ratio, value, total, -, -, hbonus, hdebt, hborrowed, hratio,
    hvalue, htotal, hamounts, hrate⟩ := calculateLiquidation_spec h
  obtain ⟨rfl, hworth | ⟨hbelow, hunit⟩⟩ := calculateLiquidationAmounts_withdraw hamounts hleft
  · have hrate : bonusRate.toRat = 1 + result.liquidationBonusRate.toRat := by
      rw [hrate, add_comm, ← Fraction.toRat_one]
      exact Fraction.toRat_add (Fraction.add_eq_ok.2 hbonus)
    have hshare : ratio.toRat ≤ result.settleAmountF.toRat / b.borrowedAmountSf.toRat :=
      Fraction.toRat_div_le (Fraction.div_eq_ok.2 ⟨hborrowed, hratio⟩)
    have hsettled : value.toRat ≤ b.valueOf result.settleAmountF :=
      (Fraction.toRat_mul_le (Fraction.mul_eq_ok.2 hvalue)).trans
        (mul_le_mul_of_nonneg_left hshare (Fraction.toRat_nonneg _))
    left
    calc d.valueOf result.withdrawAmount ≤ total.toRat := hworth
      _ ≤ value.toRat * bonusRate.toRat := Fraction.toRat_mul_le (Fraction.mul_eq_ok.2 htotal)
      _ ≤ b.valueOf result.settleAmountF * bonusRate.toRat :=
        mul_le_mul_of_nonneg_right hsettled (Fraction.toRat_nonneg _)
      _ = (1 + result.liquidationBonusRate.toRat) * b.valueOf result.settleAmountF := by
        rw [hrate, mul_comm]
  · rw [decide_eq_true_eq] at hbelow
    rw [LiquidatesDebt, if_pos hbelow] at hdebt
    exact .inr ⟨hbelow, hdebt.2, hunit⟩

/-- The amounts of a liquidation are bounded. Within the close factor and the cap is what a debt
above the market's threshold may lose at once; a smaller one is settled in full, and may cost one
unit of collateral more than it is worth. -/
theorem liquidationAmounts_bounded
    (h : calculateLiquidation w r amount market o b d ts highest lowest override = .ok result) :
    (result.settleAmountF ≤ min b.borrowedAmountSf (Fraction.fromNum amount) ∧
      result.settleAmountF.toCeil = .ok result.repayAmount ∧
      postLiquidateRepayAmountCheck amount result.repayAmount = .ok () ∧
      (d.depositedAmount ≠ 0 → result.withdrawAmount ≤ d.depositedAmount)) ∧
    (¬ b.marketValueSf < Fraction.fromNum market.minFullLiquidationValueThreshold →
      (∀ userLtv, o.loanToValue = .ok userLtv →
        userLtv ≤ Fraction.fromPercent market.insolvencyRiskUnhealthyLtvPct.widen →
        b.valueOf result.settleAmountF ≤ (market.liquidationMaxDebtCloseFactorPct : ℕ) / 100 *
          o.borrowedAssetsMarketValueSf.toRat) ∧
      b.valueOf result.settleAmountF ≤ (market.maxLiquidatableDebtMarketValueAtOnce : ℕ)) ∧
    (result.withdrawAmount < d.depositedAmount →
      d.valueOf result.withdrawAmount ≤
        (1 + result.liquidationBonusRate.toRat) * b.valueOf result.settleAmountF ∨
      b.marketValueSf < Fraction.fromNum market.minFullLiquidationValueThreshold ∧
        result.settleAmountF = b.borrowedAmountSf ∧
        result.withdrawAmount = dustLamportThreshold) := by
  obtain ⟨hceil, howed, hasked⟩ := calculateLiquidation_settle h
  obtain ⟨params, bonusRate, debt, ratio, value, total, -, hparams, -, hdebt, hborrowed, -, -, -,
    hamounts, -⟩ := calculateLiquidation_spec h
  have hsettle : result.settleAmountF ≤ debt := (calculateLiquidationAmounts_settle hamounts).2
  refine ⟨⟨le_min howed hasked, hceil, ?_, calculateLiquidationAmounts_withdraw_le hamounts⟩,
    fun hbelow ↦ ?_, calculateLiquidation_withdraw h⟩
  · rw [Fraction.toCeil_eq_ok] at hceil
    rw [postLiquidateRepayAmountCheck, require_eq_ok, Fin.le_def]
    omega
  · rw [LiquidatesDebt, if_neg hbelow] at hdebt
    obtain ⟨most, hmost, rfl⟩ := hdebt
    obtain ⟨hclose, honce⟩ := maxLiquidatableBorrowedAmount_value hmost hborrowed
    have hle := ObligationLiquidity.valueOf_mono (b := b) (hsettle.trans (min_le_left _ _))
    refine ⟨fun userLtv hltv hsolvent ↦ hle.trans (hclose ?_), hle.trans honce⟩
    rw [getLiquidationParams_userLtv hparams, Except.ok.injEq] at hltv
    exact hltv ▸ hsolvent

end

namespace World

/-- Collateral with a low liquidation threshold. -/
def cautiousConfig : ReserveConfig :=
  { plainConfig 500 with loanToValuePct := 20, liquidationThresholdPct := 25 }

/-- A price of the given number of dollars. -/
def dollars (n : U64) : Option GetPriceResult :=
  some { price := Fraction.fromNum n, status := .allChecks, timestamp := 10 }

/-- One dollar is borrowed against two units of collateral, whose price then falls from ten dollars
to two. -/
def dustLoan : World :=
  (plainOpening cautiousConfig).after
    [(⟨1, 10⟩, .refreshReserve 5 (dollars 10)), (⟨1, 10⟩, .refreshReserve 6 (dollars 1)),
      (⟨1, 10⟩, .depositReserveLiquidity 5 2),
      (⟨1, 10⟩, .initObligation 0 7 0), (⟨1, 10⟩, .refreshObligation 0 [] []),
      (⟨1, 10⟩, .depositObligationCollateral 0 5 2),
      (⟨2, 10⟩, .refreshReserve 5 (dollars 10)), (⟨2, 10⟩, .refreshReserve 6 (dollars 1)),
      (⟨2, 10⟩, .refreshObligation 0 [5] []),
      (⟨2, 10⟩, .borrowObligationLiquidity 0 6 1 none []),
      (⟨3, 10⟩, .refreshReserve 5 (dollars 2)), (⟨3, 10⟩, .refreshReserve 6 (dollars 1)),
      (⟨3, 10⟩, .refreshObligation 0 [5, 6] [])]

/-- What a liquidator of an obligation's first slots is offered for two units of the debt. -/
def liquidationOffer (world : World) (repayKey withdrawKey : Pubkey) : Result (ObligationLiquidity ×
    ObligationCollateral × CalculateLiquidationResult) := do
  let o ← world.loadObligation 0
  let r ← world.loadReserve repayKey
  let w ← world.loadReserve withdrawKey
  let b ← unwrap o.borrows[0]?
  let d ← unwrap o.deposits[0]?
  let result ← calculateLiquidation w r 2 world.lendingMarket o b d 10 true true none
  pure (b, d, result)

theorem liquidationAmounts_bounded_dustLoan :
    ∃ b d result, dustLoan.liquidationOffer 6 5 = .ok (b, d, result) ∧
      result.withdrawAmount ≤ d.depositedAmount := by
  obtain ⟨⟨b, d, result⟩, hoffer, hdeposit⟩ := exists_eq_ok (x := dustLoan.liquidationOffer 6 5)
    (p := fun x ↦ decide (x.2.1.depositedAmount ≠ 0)) (by decide)
  have h := hoffer
  simp only [liquidationOffer, bind_eq_ok, pure_eq_ok, Prod.mk.injEq] at h
  obtain ⟨o, -, r, -, w, -, b', -, d', -, result', h, rfl, rfl, rfl⟩ := h
  exact ⟨b', d', result', hoffer,
    (liquidationAmounts_bounded h).1.2.2.2 (of_decide_eq_true hdeposit)⟩

/-- One unit of two is paid out for half of what it is worth. -/
theorem dustLiquidation_overpays :
    (plainOpening cautiousConfig).Genesis ∧ Run Anything (plainOpening cautiousConfig) dustLoan ∧
    (∃ w, dustLoan.process ⟨3, 10⟩
      (.liquidateObligationAndRedeemReserveCollateral 0 6 5 2 0 none []) = .ok w) ∧
    ∃ b d result, dustLoan.liquidationOffer 6 5 = .ok (b, d, result) ∧
      result.withdrawAmount < d.depositedAmount ∧
      (1 + result.liquidationBonusRate.toRat) * b.valueOf result.settleAmountF <
        d.valueOf result.withdrawAmount := by
  refine ⟨plainOpening_genesis (by rfl), run_after _ _ fun _ _ _ ↦ trivial, ?_, ?_⟩
  · obtain ⟨w, hw, -⟩ := exists_eq_ok (x := dustLoan.process ⟨3, 10⟩
      (.liquidateObligationAndRedeemReserveCollateral 0 6 5 2 0 none [])) (p := fun _ ↦ true)
      (by decide)
    exact ⟨w, hw⟩
  · obtain ⟨⟨b, d, result⟩, hoffer, hover⟩ := exists_eq_ok (x := dustLoan.liquidationOffer 6 5)
      (p := fun x ↦ decide (x.2.2.withdrawAmount < x.2.1.depositedAmount ∧
        (1 + x.2.2.liquidationBonusRate.toRat) * x.1.valueOf x.2.2.settleAmountF <
          x.2.1.valueOf x.2.2.withdrawAmount)) (by decide +kernel)
    exact ⟨b, d, result, hoffer, of_decide_eq_true hover⟩

end World

end Klend
