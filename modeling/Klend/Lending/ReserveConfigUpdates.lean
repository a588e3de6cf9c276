import Klend.Lending.Prices

/-! # Updating a reserve's configuration

The market's owner changes one setting of a reserve at a time, or all of them. A
reserve is refreshed before its settings change and is stale afterwards.
-/

namespace Klend

/-- The modes, each with the value read off the instruction's bytes. -/
inductive UpdateConfigMode where
  | updateLoanToValuePct (new : U8)
  | updateMaxLiquidationBonusBps (new : U16)
  | updateLiquidationThresholdPct (new : U8)
  | updateProtocolLiquidationFee (new : U8)
  | updateProtocolTakeRate (new : U8)
  | updateFeesBorrowFee (new : U64)
  | updateFeesFlashLoanFee (new : U64)
  | updateFeesReferralFeeBps
  | updateDepositLimit (new : U64)
  | updateBorrowLimit (new : U64)
  | updateTokenInfoLowerHeuristic (new : U64)
  | updateTokenInfoUpperHeuristic (new : U64)
  | updateTokenInfoExpHeuristic (new : U64)
  | updateTokenInfoTwapDivergence (new : U64)
  | updateTokenInfoScopeTwap (new : List U16)
  | updateTokenInfoScopeChain (new : List U16)
  | updateTokenInfoName (new : NameBytes)
  | updateTokenInfoPriceMaxAge (new : U64)
  | updateTokenInfoTwapMaxAge (new : U64)
  | updateScopePriceFeed (new : Pubkey)
  | updatePythPrice (new : Pubkey)
  | updateSwitchboardFeed (new : Pubkey)
  | updateSwitchboardTwapFeed (new : Pubkey)
  | updateBorrowRateCurve (new : BorrowRateCurve)
  | updateEntireReserveConfig (new : ReserveConfig)
  | updateDebtWithdrawalCap (capacity intervalLengthSeconds : U64)
  | updateDepositWithdrawalCap (capacity intervalLengthSeconds : U64)
  | updateDebtWithdrawalCapCurrentTotal (new : U64)
  | updateDepositWithdrawalCapCurrentTotal (new : U64)
  | updateBadDebtLiquidationBonusBps (new : U16)
  | updateMinLiquidationBonusBps (new : U16)
  | updateDeleveragingMarginCallPeriod (new : U64)
  | updateBorrowFactor (new : U64)
  | updateAssetTier (new : U8)
  | updateElevationGroup (new : List U8)
  | updateDeleveragingThresholdDecreaseBpsPerDay (new : U64)
  | deprecatedUpdateMultiplierSideBoost
  | deprecatedUpdateMultiplierTagBoost
  | updateReserveStatus (new : ReserveStatus)
  | updateFarmCollateral (new : Pubkey)
  | updateFarmDebt (new : Pubkey)
  | updateDisableUsageAsCollateralOutsideEmode (new : U8)
  | updateBlockBorrowingAboveUtilizationPct (new : U8)
  | updateBlockPriceUsage (new : U8)
  | updateBorrowLimitOutsideElevationGroup (new : U64)
  | updateBorrowLimitsInElevationGroupAgainstThisReserve (new : Fin 32 → U64)
  | updateHostFixedInterestRateBps (new : U16)
  | updateAutodeleverageEnabled (new : U8)
  | updateDeleveragingBonusIncreaseBpsPerDay (new : U64)

def ReserveStatus.toU8 : ReserveStatus → U8
  | .active => 0
  | .obsolete => 1
  | .hidden => 2

theorem ReserveStatus.toU8_tryFrom {n : U8} {status : ReserveStatus}
    (h : ReserveStatus.tryFrom n = some status) : status.toU8 = n := by
  unfold tryFrom at h
  split_ifs at h with h0 h1 h2
  · obtain rfl := Option.some.inj h
    exact h0.symm
  · obtain rfl := Option.some.inj h
    exact h1.symm
  · obtain rfl := Option.some.inj h
    exact h2.symm

namespace WithdrawalCaps

def configure (caps : WithdrawalCaps) (capacity intervalLengthSeconds : U64) :
    Result WithdrawalCaps := do
  let configCapacity ← unwrap (I64.checkedFit ((capacity : ℕ) : ℤ))
  pure { caps with configCapacity, configIntervalLengthSeconds := intervalLengthSeconds }

def setCurrentTotal (caps : WithdrawalCaps) (new : U64) : Result WithdrawalCaps := do
  let currentTotal ← unwrap (I64.checkedFit ((new : ℕ) : ℤ))
  pure { caps with currentTotal }

end WithdrawalCaps

/-- The settings of the token's price sources and price checks. -/
def TokenInfo.update (t : TokenInfo) : UpdateConfigMode → TokenInfo
  | .updateTokenInfoLowerHeuristic new => { t with heuristic := { t.heuristic with lower := new } }
  | .updateTokenInfoUpperHeuristic new => { t with heuristic := { t.heuristic with upper := new } }
  | .updateTokenInfoExpHeuristic new => { t with heuristic := { t.heuristic with exp := new } }
  | .updateTokenInfoTwapDivergence new => { t with maxTwapDivergenceBps := new }
  | .updateTokenInfoScopeTwap new =>
    { t with scopeConfiguration := { t.scopeConfiguration with twapChain := new } }
  | .updateTokenInfoScopeChain new =>
    { t with scopeConfiguration := { t.scopeConfiguration with priceChain := new } }
  | .updateTokenInfoPriceMaxAge new => { t with maxAgePriceSeconds := new }
  | .updateTokenInfoTwapMaxAge new => { t with maxAgeTwapSeconds := new }
  | .updateScopePriceFeed new =>
    { t with scopeConfiguration := { t.scopeConfiguration with priceFeed := new } }
  | .updatePythPrice new => { t with pythConfiguration := { price := new } }
  | .updateSwitchboardFeed new =>
    { t with switchboardConfiguration := { t.switchboardConfiguration with priceAggregator := new } }
  | .updateSwitchboardTwapFeed new =>
    { t with switchboardConfiguration := { t.switchboardConfiguration with twapAggregator := new } }
  | .updateBlockPriceUsage new => { t with blockPriceUsage := new }
  | _ => t

def ReserveConfig.update (c : ReserveConfig) : UpdateConfigMode → Result ReserveConfig
  | .updateLoanToValuePct new => pure { c with loanToValuePct := new }
  | .updateMaxLiquidationBonusBps new => pure { c with maxLiquidationBonusBps := new }
  | .updateLiquidationThresholdPct new => pure { c with liquidationThresholdPct := new }
  | .updateProtocolLiquidationFee new => pure { c with protocolLiquidationFeePct := new }
  | .updateProtocolTakeRate new => pure { c with protocolTakeRatePct := new }
  | .updateFeesBorrowFee new => pure { c with fees := { c.fees with borrowFeeSf := new } }
  | .updateFeesFlashLoanFee new => pure { c with fees := { c.fees with flashLoanFeeSf := new } }
  | .updateDepositLimit new => pure { c with depositLimit := new }
  | .updateBorrowLimit new => pure { c with borrowLimit := new }
  | .updateBorrowRateCurve new => pure { c with borrowRateCurve := new }
  | .updateEntireReserveConfig new => pure new
  | .updateDebtWithdrawalCap capacity intervalLengthSeconds => do
    let debtWithdrawalCap ← c.debtWithdrawalCap.configure capacity intervalLengthSeconds
    pure { c with debtWithdrawalCap }
  | .updateDepositWithdrawalCap capacity intervalLengthSeconds => do
    let depositWithdrawalCap ← c.depositWithdrawalCap.configure capacity intervalLengthSeconds
    pure { c with depositWithdrawalCap }
  | .updateDebtWithdrawalCapCurrentTotal new => do
    let debtWithdrawalCap ← c.debtWithdrawalCap.setCurrentTotal new
    pure { c with debtWithdrawalCap }
  | .updateDepositWithdrawalCapCurrentTotal new => do
    let depositWithdrawalCap ← c.depositWithdrawalCap.setCurrentTotal new
    pure { c with depositWithdrawalCap }
  | .updateBadDebtLiquidationBonusBps new => pure { c with badDebtLiquidationBonusBps := new }
  | .updateMinLiquidationBonusBps new => pure { c with minLiquidationBonusBps := new }
  | .updateDeleveragingMarginCallPeriod new =>
    pure { c with deleveragingMarginCallPeriodSecs := new }
  | .updateBorrowFactor new => pure { c with borrowFactorPct := new }
  | .updateAssetTier new => pure { c with assetTier := new }
  | .updateElevationGroup new => pure { c with elevationGroups := new }
  | .updateDeleveragingThresholdDecreaseBpsPerDay new =>
    pure { c with deleveragingThresholdDecreaseBpsPerDay := new }
  | .deprecatedUpdateMultiplierSideBoost => abort
  | .deprecatedUpdateMultiplierTagBoost => abort
  -- the old status is read for the log, and must be one that the program knows
  | .updateReserveStatus new => do
    let _ ← c.getStatus
    pure { c with status := new.toU8 }
  -- both names are read for the log
  | .updateTokenInfoName new => do
    new.fromUtf8
    c.tokenInfo.name.fromUtf8
    pure { c with tokenInfo := { c.tokenInfo with name := new } }
  | .updateDisableUsageAsCollateralOutsideEmode new =>
    pure { c with disableUsageAsCollOutsideEmode := new }
  | .updateBlockBorrowingAboveUtilizationPct new =>
    pure { c with utilizationLimitBlockBorrowingAbovePct := new }
  | .updateBorrowLimitOutsideElevationGroup new =>
    pure { c with borrowLimitOutsideElevationGroup := new }
  | .updateBorrowLimitsInElevationGroupAgainstThisReserve new =>
    pure { c with borrowLimitAgainstThisCollateralInElevationGroup := new }
  | .updateHostFixedInterestRateBps new => pure { c with hostFixedInterestRateBps := new }
  | .updateAutodeleverageEnabled new => pure { c with autodeleverageEnabled := new }
  | .updateDeleveragingBonusIncreaseBpsPerDay new =>
    pure { c with deleveragingBonusIncreaseBpsPerDay := new }
  | mode => pure { c with tokenInfo := c.tokenInfo.update mode }

/-- The farms are kept beside the configuration. -/
def Reserve.updateFarms (reserve : Reserve) : UpdateConfigMode → Reserve
  | .updateFarmCollateral new => { reserve with farmCollateral := new }
  | .updateFarmDebt new => { reserve with farmDebt := new }
  | _ => reserve

def updateReserveConfig (reserve : Reserve) (mode : UpdateConfigMode) : Result Reserve := do
  let config ← reserve.config.update mode
  pure { reserve.updateFarms mode with config, lastUpdate := reserve.lastUpdate.markStale }

theorem updateReserveConfig_eq_ok {r r' : Reserve} {u : UpdateConfigMode} :
    updateReserveConfig r u = .ok r' ↔ ∃ c, r.config.update u = .ok c ∧
      r' = { r.updateFarms u with config := c, lastUpdate := r.lastUpdate.markStale } := by
  simp only [updateReserveConfig, bind_eq_ok, pure_eq_ok, eq_comm (b := r')]

def isReserveUsed (reserve : Reserve) (market : LendingMarket) : Bool :=
  market.minInitialDepositAmount < reserve.liquidity.availableAmount ∨
    Fraction.zero < reserve.liquidity.totalBorrow ∨
    market.minInitialDepositAmount < reserve.collateral.mintTotalSupply

/-- The instruction. Only a reserve that nobody uses may take settings that the validator
rejects. -/
def processUpdateReserveConfig (reserve : Reserve) (reserveKey : Pubkey) (market : LendingMarket)
    (clock : Clock) (mode : UpdateConfigMode) (skipValidation : Bool) : Result Reserve := do
  let reserve ← refreshReserveFrom reserve clock none market.referralFeeBps
  let reserve ← updateReserveConfig reserve mode
  if skipValidation then
    require (isReserveUsed reserve market = false ∧ reserve.config.depositLimit = 0 ∧
      reserve.config.borrowLimit = 0) .invalidConfig
  else validateReserveConfig reserve.config market reserveKey
  pure reserve

end Klend
