import Klend.Lending.Accounts

/-! # Checks and valuations

The checks shared by the lending operations, the market values of liquidity and
collateral, and the invariants tested after an operation on an obligation.
-/

namespace Klend

def tenPow (x : ℕ) : Result ℕ := if x ≤ 19 then .ok (10 ^ x) else abort

@[simp] theorem tenPow_eq_ok {x n : ℕ} : tenPow x = .ok n ↔ x ≤ 19 ∧ 10 ^ x = n := by
  unfold tenPow; split <;> simp_all

def calculateMarketValueFromLiquidityAmount (reserve : Reserve) (liquidityAmount : Fraction) :
    Result Fraction := do
  let mintDecimalFactor ← tenPow reserve.liquidity.mintDecimals
  let value ← liquidityAmount.mul reserve.liquidity.marketPriceSf
  value.divInt mintDecimalFactor

def calculateObligationCollateralMarketValue (depositReserve : Reserve)
    (deposit : ObligationCollateral) : Result Fraction := do
  let rate ← depositReserve.collateralExchangeRate
  let amount ← rate.fractionCollateralToLiquidity (Fraction.fromNum deposit.depositedAmount)
  calculateMarketValueFromLiquidityAmount depositReserve amount

def calculateObligationLiquidityMarketValue (borrowReserve : Reserve)
    (borrow : ObligationLiquidity) : Result Fraction :=
  calculateMarketValueFromLiquidityAmount borrowReserve borrow.borrowedAmountSf

/-- The checks on an account given for a slot of `slotReserve`: its key, its freshness and its
version. -/
def checkObligationReserve (slotReserve : Pubkey) (reserve : Reserve) (reservePk : Pubkey)
    (slot : U64) : Result Unit := do
  require (slotReserve = reservePk) .invalidAccountInput
  reserve.lastUpdate.requireFresh slot .none .reserveStale
  require (reserve.version = programVersion) .reserveDeprecated

def checkObligationCollateralDepositReserve (deposit : ObligationCollateral)
    (depositReserve : Reserve) (depositReservePk : Pubkey) (slot : U64) : Result Unit :=
  checkObligationReserve deposit.depositReserve depositReserve depositReservePk slot

def checkObligationLiquidityBorrowReserve (borrow : ObligationLiquidity)
    (borrowReserve : Reserve) (borrowReservePk : Pubkey) (slot : U64) : Result Unit :=
  checkObligationReserve borrow.borrowReserve borrowReserve borrowReservePk slot

def getElevationGroup (elevationGroupId : U8) (market : LendingMarket) :
    Result (Option ElevationGroup) := do
  require (elevationGroupId ≤ maxNumElevationGroups) .invalidElevationGroup
  let elevationGroup ← market.getElevationGroup elevationGroupId
  match elevationGroup with
  | some g => do
    require (g.liquidationThresholdPct ≠ 0) .invalidElevationGroup
    require (g.ltvPct ≠ 0) .invalidElevationGroup
    pure elevationGroup
  | none => pure elevationGroup

theorem LendingMarket.none_of_getElevationGroup {market : LendingMarket} {id : U8}
    (h : market.getElevationGroup id = .ok none) : id = elevationGroupNone := by
  rcases LendingMarket.getElevationGroup_eq_ok.1 h with ⟨hid, -⟩ | ⟨i, -, hg⟩
  · exact hid
  · cases hg

theorem getElevationGroup_market {market : LendingMarket} {id : U8} {group : Option ElevationGroup}
    (h : getElevationGroup id market = .ok group) : market.getElevationGroup id = .ok group := by
  simp only [getElevationGroup, bind_eq_ok] at h
  obtain ⟨-, -, group', hgroup, h⟩ := h
  cases group' with
  | none => rw [hgroup, ← pure_eq_ok.1 h]
  | some g =>
    simp only [bind_eq_ok, pure_eq_ok] at h
    obtain ⟨-, -, -, -, rfl⟩ := h
    exact hgroup

theorem getElevationGroup_none {market : LendingMarket} {group : Option ElevationGroup}
    (h : getElevationGroup elevationGroupNone market = .ok group) : group = none := by
  rcases LendingMarket.getElevationGroup_eq_ok.1 (getElevationGroup_market h) with
    ⟨-, hnone⟩ | ⟨i, hi, -⟩
  · exact hnone
  · rw [elevationGroupNone] at hi
    exact absurd hi (Nat.succ_ne_zero _)

def getMaxLtvAndLiquidationThreshold (depositReserve : Reserve)
    (elevationGroup : Option ElevationGroup) : U8 × U8 :=
  match elevationGroup with
  | some g => (g.ltvPct, g.liquidationThresholdPct)
  | none => (depositReserve.config.loanToValuePct, depositReserve.config.liquidationThresholdPct)

def checkElevationGroupBorrowingEnabled (market : LendingMarket) (obligation : Obligation) :
    Result Unit := do
  let elevationGroup ← getElevationGroup obligation.elevationGroup market
  match elevationGroup with
  | some g => require (g.newLoansDisabled = false) .elevationGroupNewLoansDisabled
  | none => pure ()

def checkNonElevationGroupBorrowingEnabled (obligation : Obligation) : Result Unit :=
  require (¬ (obligation.elevationGroup = elevationGroupNone ∧ 0 < obligation.borrowingDisabled))
    .borrowingDisabledOutsideElevationGroup

def checkSameElevationGroup (obligation : Obligation) (reserve : Reserve) : Result Unit :=
  require (obligation.elevationGroup = elevationGroupNone ∨
    obligation.elevationGroup ∈ reserve.config.elevationGroups) .inconsistentElevationGroup

def checkObligationFullyRefreshedAndNotNull (obligation : Obligation) (slot : U64) :
    Result Unit := do
  obligation.lastUpdate.requireFresh slot .allChecks .obligationStale
  require (obligation.depositsEmpty = false) .obligationDepositsEmpty
  require (obligation.depositedValueSf ≠ Fraction.zero) .obligationDepositsZero

def assertObligationLiquidatable (repayReserve withdrawReserve : Reserve)
    (obligation : Obligation) (liquidityAmount slot : U64) : Result Unit := do
  require (liquidityAmount ≠ 0) .invalidAmount
  repayReserve.lastUpdate.requireFresh slot .liquidationChecks .reserveStale
  withdrawReserve.lastUpdate.requireFresh slot .liquidationChecks .reserveStale
  obligation.lastUpdate.requireFresh slot .liquidationChecks .obligationStale
  require (obligation.depositedValueSf ≠ Fraction.zero) .obligationDepositsZero
  require (obligation.borrowFactorAdjustedDebtValueSf ≠ Fraction.zero) .obligationBorrowsZero

def validateObligationAssetTiers (obligation : Obligation) : Result Unit := do
  let depositTiers ← obligation.getDepositAssetTiers
  let borrowTiers ← obligation.getBorrowsAssetTiers
  let countIsolatedDeposits := depositTiers.count .isolatedCollateral
  let countIsolatedBorrows := borrowTiers.count .isolatedDebt
  require (countIsolatedDeposits ≤ 1) .isolatedAssetTierViolation
  require (countIsolatedBorrows ≤ 1) .isolatedAssetTierViolation
  require (¬ (0 < countIsolatedDeposits ∧ 0 < countIsolatedBorrows)) .isolatedAssetTierViolation
  require (¬ (1 < depositTiers.length ∧ 0 < countIsolatedDeposits)) .isolatedAssetTierViolation
  require (¬ (1 < borrowTiers.length ∧ 0 < countIsolatedBorrows)) .isolatedAssetTierViolation
  require (depositTiers.count .isolatedDebt = 0) .isolatedAssetTierViolation
  require (borrowTiers.count .isolatedCollateral = 0) .isolatedAssetTierViolation

/-- A slot's value after an operation is zero or at least the market's minimum. -/
def checkNetValueRemaining (newAssetMv minAcceptedNetValue : Fraction) : Result Unit :=
  Fraction.requireDisplaying (¬ (Fraction.zero < newAssetMv ∧ newAssetMv < minAcceptedNetValue))
    newAssetMv .netValueRemainingTooSmall

def postDepositObligationInvariants (amount : Fraction) (obligation : Obligation)
    (reserve : Reserve) (previousCollateralAssetMv minAcceptedNetValue : Fraction) :
    Result Unit := do
  let assetMv ← calculateMarketValueFromLiquidityAmount reserve amount
  let newTotalDepositedMv ← obligation.depositedValueSf.add assetMv
  let newCollateralAssetMv ← previousCollateralAssetMv.add assetMv
  let newLtv ← obligation.borrowFactorAdjustedDebtValueSf.div newTotalDepositedMv
  checkNetValueRemaining newCollateralAssetMv minAcceptedNetValue
  if obligation.depositedValueSf ≠ Fraction.zero then do
    let ltv ← obligation.loanToValue
    Fraction.requireDisplaying (newLtv ≤ ltv) newLtv .worseLtvBlocked
  else pure ()

def postWithdrawObligationInvariants (amount : Fraction) (obligation : Obligation)
    (reserve : Reserve) (reserveLiquidationThresholdPct : U8)
    (previousCollateralAssetMv minAcceptedNetValue : Fraction) : Result Unit := do
  let assetMv ← calculateMarketValueFromLiquidityAmount reserve amount
  let newTotalDepositedMv ← obligation.depositedValueSf.sub assetMv
  let debtValueBf := obligation.borrowFactorAdjustedDebtValueSf
  if previousCollateralAssetMv ≠ Fraction.zero then do
    let newCollateralAssetMv ← previousCollateralAssetMv.sub assetMv
    checkNetValueRemaining newCollateralAssetMv minAcceptedNetValue
  else pure ()
  Fraction.requireDisplaying (¬ (newTotalDepositedMv = Fraction.zero ∧
    Fraction.zero < debtValueBf)) debtValueBf .liabilitiesBiggerThanAssets
  if newTotalDepositedMv ≠ Fraction.zero then do
    Fraction.requireDisplaying (obligation.borrowedAssetsMarketValueSf < newTotalDepositedMv)
      newTotalDepositedMv .liabilitiesBiggerThanAssets
    let newLtv ← debtValueBf.div newTotalDepositedMv
    let removed ← assetMv.mul (Fraction.fromPercent reserveLiquidationThresholdPct.widen)
    let newUnhealthyBorrowValue ← obligation.unhealthyBorrowValueSf.sub removed
    let newUnhealthyLtv ← newUnhealthyBorrowValue.div newTotalDepositedMv
    Fraction.requireDisplaying (¬ (newUnhealthyLtv ≤ newLtv ∧ newLtv ≠ Fraction.zero)) newLtv
      .worseLtvThanUnhealthyLtv
  else pure ()

def postBorrowObligationInvariants (amount : Fraction) (obligation : Obligation)
    (reserve : Reserve) (liquidityAssetMv minAcceptedNetValue : Fraction) : Result Unit := do
  let assetMv ← calculateMarketValueFromLiquidityAmount reserve amount
  let assetBfMv ←
    assetMv.mul (reserve.borrowFactorF (obligation.elevationGroup ≠ elevationGroupNone))
  let newTotalBfDebtMv ← obligation.borrowFactorAdjustedDebtValueSf.add assetBfMv
  let newTotalNoBfDebtMv ← obligation.borrowedAssetsMarketValueSf.add assetMv
  let newLiquidityAssetMv ← liquidityAssetMv.add assetMv
  checkNetValueRemaining newLiquidityAssetMv minAcceptedNetValue
  let newLtv ← newTotalBfDebtMv.div obligation.depositedValueSf
  let unhealthyLtv ← obligation.unhealthyLoanToValue
  require (newLtv ≤ unhealthyLtv) .worseLtvThanUnhealthyLtv
  require (newTotalNoBfDebtMv < obligation.depositedValueSf) .liabilitiesBiggerThanAssets

def postRepayObligationInvariants (amount : Fraction) (obligation : Obligation)
    (reserve : Reserve) (liquidityAssetMv minAcceptedNetValue : Fraction) : Result Unit := do
  let assetMv ← calculateMarketValueFromLiquidityAmount reserve amount
  let assetBfMv ←
    assetMv.mul (reserve.borrowFactorF (obligation.elevationGroup ≠ elevationGroupNone))
  let newTotalBfDebtMv ← obligation.borrowFactorAdjustedDebtValueSf.sub assetBfMv
  let totalDepositedMv := obligation.depositedValueSf
  if liquidityAssetMv ≠ Fraction.zero then do
    let newLiquidityAssetMv ← liquidityAssetMv.sub assetMv
    checkNetValueRemaining newLiquidityAssetMv minAcceptedNetValue
  else pure ()
  if Fraction.zero < totalDepositedMv then do
    let newLtv ← newTotalBfDebtMv.div totalDepositedMv
    let ltv ← obligation.loanToValue
    require (newLtv ≤ ltv) .worseLtvBlocked
  else pure ()

/-- `validate_reserve_config` for one of the config's elevation groups. -/
def validateReserveElevationGroup (config : ReserveConfig) (market : LendingMarket)
    (reserveAddress : Pubkey) (elevationGroupId : U8) : Result Unit := do
  let elevationGroup ← getElevationGroup elevationGroupId market
  match elevationGroup with
  | none => pure ()
  | some g => do
    require (g.debtReserve ≠ 0) .invalidConfig
    if g.debtReserve ≠ reserveAddress then do
      require (g.maxLiquidationBonusBps ≤ config.maxLiquidationBonusBps) .invalidConfig
      require (config.liquidationThresholdPct ≤ g.liquidationThresholdPct) .invalidConfig
      require (config.loanToValuePct ≤ g.ltvPct) .invalidConfig
      require (g.ltvPct ≤ g.liquidationThresholdPct) .invalidConfig
      require (g.liquidationThresholdPct ≤ 100) .invalidConfig
    else pure ()
    require (g.maxReservesAsCollateral ≠ 0) .invalidConfig

def validateReserveConfig (config : ReserveConfig) (market : LendingMarket)
    (reserveAddress : Pubkey) : Result Unit := do
  require (ReserveStatus.tryFrom config.status ≠ none) .invalidConfig
  require (config.loanToValuePct < 100) .invalidConfig
  require (config.maxLiquidationBonusBps ≤ fullBps) .invalidConfig
  require (config.loanToValuePct ≤ config.liquidationThresholdPct ∧
    config.liquidationThresholdPct ≤ 100) .invalidConfig
  require ((config.fees.borrowFeeSf : ℕ) < 2 ^ 60) .invalidConfig
  require (config.protocolLiquidationFeePct ≤ 100) .invalidConfig
  require (config.protocolTakeRatePct ≤ 100) .invalidConfig
  require (config.tokenInfo.isValid = true) .invalidOracleConfig
  require (config.tokenInfo.isTwapConfigValid = true) .invalidTwapConfig
  require (config.badDebtLiquidationBonusBps < 100) .invalidConfig
  require (config.minLiquidationBonusBps ≤ config.maxLiquidationBonusBps) .invalidConfig
  require (100 ≤ config.borrowFactorPct) .invalidConfig
  if config.isAutodeleverageEnabled then do
    require (config.deleveragingMarginCallPeriodSecs ≠ 0) .invalidConfig
    require (config.deleveragingThresholdDecreaseBpsPerDay ≠ 0) .invalidConfig
    require (config.deleveragingBonusIncreaseBpsPerDay ≠ 0) .invalidConfig
  else pure ()
  let assetTier ← config.getAssetTier
  require (¬ (assetTier = .isolatedDebt ∧
    ¬ (config.loanToValuePct = 0 ∧ config.liquidationThresholdPct = 0))) .invalidConfig
  require (¬ (assetTier = .isolatedCollateral ∧ config.borrowLimit ≠ 0)) .invalidConfig
  require (¬ (config.borrowLimitOutsideElevationGroup ≠ Word.max 64 ∧
    config.borrowLimit < config.borrowLimitOutsideElevationGroup)) .invalidConfig
  config.elevationGroups.forM (validateReserveElevationGroup config market reserveAddress)
  require (config.utilizationLimitBlockBorrowingAbovePct ≤ 100) .invalidConfig
  config.borrowRateCurve.validate

end Klend
