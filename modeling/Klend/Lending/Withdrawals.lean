import Klend.Lending.Operations

/-! # The parts of a withdrawal

A withdrawal of collateral checks the accounts, chooses the amount, and takes it out.
Only the choice depends on the amount asked for.
-/

namespace Klend

/-- The checks of `withdrawObligationCollateral`, with the slot and the two percentages found. -/
def checkWithdrawal (lendingMarket : LendingMarket) (withdrawReserve : Reserve)
    (obligation : Obligation) (slot : U64) (withdrawReservePk : Pubkey) :
    Result (ℕ × ObligationCollateral × U8 × U8) := do
  let requiredPriceStatus :=
    if obligation.borrowsEmpty then PriceStatusFlags.none else .allChecks
  withdrawReserve.lastUpdate.requireFresh slot requiredPriceStatus .reserveStale
  obligation.lastUpdate.requireFresh slot requiredPriceStatus .obligationStale
  let collateralIndex ← obligation.positionOfCollateralInDeposits withdrawReservePk
  let collateral ← unwrap obligation.deposits[collateralIndex]?
  require (collateral.depositedAmount ≠ 0) .obligationCollateralEmpty
  if obligation.borrowsEmpty = false then
    checkElevationGroupBorrowingEnabled lendingMarket obligation
  else pure ()
  let status ← withdrawReserve.config.getStatus
  require (¬ (0 < obligation.numOfObsoleteReserves ∧ status = .active))
    .obligationInDeprecatedReserve
  let elevationGroup ← getElevationGroup obligation.elevationGroup lendingMarket
  pure (collateralIndex, collateral,
    (getMaxLtvAndLiquidationThreshold withdrawReserve elevationGroup).1,
    (getMaxLtvAndLiquidationThreshold withdrawReserve elevationGroup).2)

/-- The amount `withdrawObligationCollateral` chooses. -/
def releasedAmount (obligation : Obligation) (collateral : ObligationCollateral)
    (collateralAmount : U64) (maxLtvPct liqThresholdPct : U8)
    (ltvMaxWithdrawalCheck : LtvMaxWithdrawalCheck) : Result U64 :=
  if obligation.borrowsEmpty then
    if collateralAmount = Word.max 64 then pure collateral.depositedAmount
    else pure (min collateral.depositedAmount collateralAmount)
  else
    withdrawAmountAgainstDebt obligation collateral collateralAmount maxLtvPct liqThresholdPct
      ltvMaxWithdrawalCheck

/-- The rest of `withdrawObligationCollateral`. -/
def releaseCollateral (lendingMarket : LendingMarket) (withdrawReserve : Reserve)
    (obligation : Obligation) (collateralIndex : ℕ) (collateral : ObligationCollateral)
    (withdrawAmount : U64) (liqThresholdPct : U8) : Result (Reserve × Obligation) := do
  let (obligation, isFullWithdrawal) ← obligation.withdraw withdrawAmount collateralIndex
  let obligation := obligation.markStale
  let withdrawReserve ←
    if isFullWithdrawal = .full then
      updateElevationGroupDebtTrackersOnFullWithdraw
        collateral.borrowedAmountAgainstThisCollateralInElevationGroup
        obligation.elevationGroup withdrawReserve
    else pure withdrawReserve
  let rate ← withdrawReserve.collateralExchangeRate
  let amount ← rate.fractionCollateralToLiquidity (Fraction.fromNum withdrawAmount)
  let slotCollateral ← unwrap obligation.deposits[collateralIndex]?
  postWithdrawObligationInvariants amount obligation withdrawReserve liqThresholdPct
    slotCollateral.marketValueSf lendingMarket.minNetValueInObligationSf
  pure (withdrawReserve, obligation)

variable {market : LendingMarket} {r r' : Reserve} {o o' : Obligation} {amount n slot : U64}
  {key : Pubkey} {check : LtvMaxWithdrawalCheck}

theorem withdrawObligationCollateral_eq :
    withdrawObligationCollateral market r o amount slot key check = (do
      require (amount ≠ 0) .invalidAmount
      let (i, d, ltvPct, thresholdPct) ← checkWithdrawal market r o slot key
      let n ← releasedAmount o d amount ltvPct thresholdPct check
      let (r', o') ← releaseCollateral market r o i d n thresholdPct
      pure (r', o', n)) := by
  simp only [withdrawObligationCollateral, checkWithdrawal, releasedAmount, releaseCollateral,
    ← bind_of_ite, bind_assoc, pure_bind]

theorem withdrawObligationCollateral_eq_ok :
    withdrawObligationCollateral market r o amount slot key check = .ok (r', o', n) ↔
      amount ≠ 0 ∧ ∃ i d ltvPct thresholdPct,
        checkWithdrawal market r o slot key = .ok (i, d, ltvPct, thresholdPct) ∧
        releasedAmount o d amount ltvPct thresholdPct check = .ok n ∧
        releaseCollateral market r o i d n thresholdPct = .ok (r', o') := by
  rw [withdrawObligationCollateral_eq]
  simp only [bind_eq_ok, require_eq_ok, pure_eq_ok, Prod.exists, Prod.mk.injEq]
  constructor
  · rintro ⟨-, hamount, i, d, ltvPct, thresholdPct, hcheck, m, hm, r₁, o₁, hrest, rfl, rfl, rfl⟩
    exact ⟨hamount, i, d, ltvPct, thresholdPct, hcheck, hm, hrest⟩
  · rintro ⟨hamount, i, d, ltvPct, thresholdPct, hcheck, hm, hrest⟩
    exact ⟨(), hamount, i, d, ltvPct, thresholdPct, hcheck, n, hm, r', o', hrest, rfl, rfl, rfl⟩

theorem checkWithdrawal_spec {i : ℕ} {d : ObligationCollateral} {ltvPct thresholdPct : U8}
    (h : checkWithdrawal market r o slot key = .ok (i, d, ltvPct, thresholdPct)) :
    o.positionOfCollateralInDeposits key = .ok i ∧ o.deposits[i]? = some d ∧
      d.depositedAmount ≠ 0 ∧ ∃ group, getElevationGroup o.elevationGroup market = .ok group ∧
        getMaxLtvAndLiquidationThreshold r group = (ltvPct, thresholdPct) := by
  simp only [checkWithdrawal, ite_seq_eq_ok, bind_eq_ok, require_eq_ok, pure_eq_ok,
    unwrap_eq_ok, Prod.mk.injEq] at h
  obtain ⟨_, -, _, -, i', hi, d', hd, -, hne, -, _, -, -, -, group, hgroup, rfl, rfl, rfl, rfl⟩ := h
  exact ⟨hi, hd, hne, group, hgroup, rfl⟩

end Klend
