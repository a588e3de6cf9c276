import Klend.Lending.Checks

/-! # Liquidation operations

Who can be liquidated, at which bonus, and how much debt is repaid against how
much collateral.
-/

namespace Klend

def secondsPerDay : ℕ := 86400

def minAutodeleverageBonusBps : U64 := 50

def dustLamportThreshold : U64 := 1

/-- `fraction!(0.99)`: the nearest fixed-point number. -/
def badDebtLtvFloor : Fraction := ⟨1141392289560778506, by norm_num⟩

structure LiquidationParams where
  userLtv : Fraction
  liquidationBonusRate : Fraction
deriving DecidableEq, Repr

structure CalculateLiquidationResult where
  settleAmountF : Fraction
  repayAmount : U64
  withdrawAmount : U64
  liquidationBonusRate : Fraction
deriving DecidableEq, Repr

def maxLiquidatableBorrowedAmount (obligation : Obligation)
    (liquidationMaxDebtCloseFactorPct : U8) (marketMaxLiquidatableDebtValueAtOnce : U64)
    (liquidity : ObligationLiquidity) (userLtv : Fraction) (insolvencyRiskLtvPct : U8) :
    Result Fraction := do
  let obligationDebtForLiquidityMv := liquidity.marketValueSf
  let liquidationMaxDebtCloseFactorRate :=
    if Fraction.fromPercent insolvencyRiskLtvPct.widen < userLtv then Fraction.one
    else Fraction.fromPercent liquidationMaxDebtCloseFactorPct.widen
  let calculatedLiquidatableMv ←
    obligation.borrowedAssetsMarketValueSf.mul liquidationMaxDebtCloseFactorRate
  let maxLiquidatableMv := min (min calculatedLiquidatableMv obligationDebtForLiquidityMv)
    (Fraction.fromNum marketMaxLiquidatableDebtValueAtOnce)
  let maxLiquidationRatio ← maxLiquidatableMv.div obligationDebtForLiquidityMv
  liquidity.borrowedAmountSf.mul maxLiquidationRatio

def getEmodeMaxLiquidationBonus (lendingMarket : LendingMarket)
    (collateralReserve debtReserve : ReserveConfig) (obligation : Obligation) : Result U16 :=
  if obligation.elevationGroup ≠ elevationGroupNone ∧
      obligation.elevationGroup ∈ collateralReserve.elevationGroups ∧
      obligation.elevationGroup ∈ debtReserve.elevationGroups then do
    let found ← match lendingMarket.getElevationGroup obligation.elevationGroup with
      | .ok g => pure g
      | .error _ => abort
    let elevationGroup ← unwrap found
    if collateralReserve.maxLiquidationBonusBps < elevationGroup.maxLiquidationBonusBps ∨
        debtReserve.maxLiquidationBonusBps < elevationGroup.maxLiquidationBonusBps ∨
        elevationGroup.maxLiquidationBonusBps = 0 then
      pure (Word.max 16)
    else pure elevationGroup.maxLiquidationBonusBps
  else pure (Word.max 16)

def calculateLiquidationBonus (collateralReserveConfig debtReserveConfig : ReserveConfig)
    (maxAllowedLtv userLtv userNoBfLtv : Fraction) (emodeMaxLiquidationBonusBps : U16) :
    Result Fraction :=
  let badDebtLtv := Fraction.one
  if badDebtLtvFloor ≤ userNoBfLtv then
    let liquidationBonusBadDebt := Fraction.fromBps
      (min collateralReserveConfig.badDebtLiquidationBonusBps
        debtReserveConfig.badDebtLiquidationBonusBps).widen
    if userNoBfLtv < badDebtLtv then do
      let diffToBadDebt ← badDebtLtv.sub userNoBfLtv
      pure (max liquidationBonusBadDebt diffToBadDebt)
    else pure liquidationBonusBadDebt
  else do
    let unhealthyFactor ← userLtv.sub maxAllowedLtv
    let maxBonusBps := min (max collateralReserveConfig.maxLiquidationBonusBps
      debtReserveConfig.maxLiquidationBonusBps) emodeMaxLiquidationBonusBps
    let maxBonus := Fraction.fromBps maxBonusBps.widen
    let minReserveBonusBps := max collateralReserveConfig.minLiquidationBonusBps
      debtReserveConfig.minLiquidationBonusBps
    let minReserveBonus := Fraction.fromBps minReserveBonusBps.widen
    let minBonus := max minReserveBonus unhealthyFactor
    let collaredBonus := min minBonus maxBonus
    let diffToBadDebt ← badDebtLtv.sub userNoBfLtv
    pure (min collaredBonus diffToBadDebt)

/-- Above the liquidation LTV, or the override, the obligation can be liquidated. The log line
formats two values and converts three LTVs to percent. -/
def checkLiquidateObligation (lendingMarket : LendingMarket)
    (collateralReserve debtReserve : Reserve) (obligation : Obligation)
    (maxAllowedLtvOverridePctOpt : Option U64) : Result (Option LiquidationParams) := do
  let userLtv ← obligation.loanToValue
  let userNoBfLtv ← obligation.noBfLoanToValue
  let maxAllowedLtvUser ← obligation.unhealthyLoanToValue
  let maxAllowedLtv := (maxAllowedLtvOverridePctOpt.map Fraction.fromPercent).getD
    maxAllowedLtvUser
  if maxAllowedLtv ≤ userLtv then do
    obligation.borrowFactorAdjustedDebtValueSf.toDisplay
    obligation.unhealthyBorrowValueSf.toDisplay
    let userLtvPct ← userLtv.toPercent 64
    let _ ← unwrap userLtvPct
    let maxAllowedLtvPct ← maxAllowedLtv.toPercent 64
    let _ ← unwrap maxAllowedLtvPct
    let maxAllowedLtvUserPct ← maxAllowedLtvUser.toPercent 64
    let _ ← unwrap maxAllowedLtvUserPct
    let emodeMaxLiquidationBonusBps ← getEmodeMaxLiquidationBonus lendingMarket
      collateralReserve.config debtReserve.config obligation
    let liquidationBonusRate ← calculateLiquidationBonus collateralReserve.config
      debtReserve.config maxAllowedLtv userLtv userNoBfLtv emodeMaxLiquidationBonusBps
    pure (some { userLtv, liquidationBonusRate })
  else pure none

def toDaysFractional (secs : U64) : Result Fraction :=
  (Fraction.fromNum secs).divInt secondsPerDay

def getSecsSinceDeleveragingStarted
    (deleveragingMarginCallPeriodSecs secsSinceMarginCallStarted : U64) : Option U64 :=
  Word.checkedSub secsSinceMarginCallStarted deleveragingMarginCallPeriodSecs

def calculateAutodeleverageThreshold (autodeleverageReserve : Reserve)
    (daysSinceDeleveragingStarted : Fraction) : Result Fraction := do
  let dailyLtvThresholdDecrease := Fraction.fromBps
    autodeleverageReserve.config.deleveragingThresholdDecreaseBpsPerDay
  let ltvThresholdReduction ← dailyLtvThresholdDecrease.mul daysSinceDeleveragingStarted
  pure (Fraction.one.saturatingSub ltvThresholdReduction)

def calculateAutodeleverageBonus (deleveragingBonusIncreaseBpsPerDay : U64)
    (reserveMaxBonusBps emodeMaxLiquidationBonusBps : U16)
    (daysSinceDeleveragingStarted userNoBfLtv : Fraction) : Result Fraction := do
  let staticMinBonus := Fraction.fromBps minAutodeleverageBonusBps
  let dailyBonusIncrease := Fraction.fromBps deleveragingBonusIncreaseBpsPerDay
  let increase ← dailyBonusIncrease.mul daysSinceDeleveragingStarted
  let liquidationBonus ← staticMinBonus.add increase
  let configuredMaxBonus :=
    Fraction.fromBps (min reserveMaxBonusBps emodeMaxLiquidationBonusBps).widen
  let diffToBadDebt := Fraction.one.saturatingSub userNoBfLtv
  let effectiveMaxBonus := min configuredMaxBonus diffToBadDebt
  pure (if effectiveMaxBonus < liquidationBonus then effectiveMaxBonus else liquidationBonus)

/-- `max_by_key` over the collateral and the debt configuration; the debt one wins a tie. -/
def selectReserveConfig (collateral debt : ReserveConfig) : ReserveConfig :=
  if debt.maxLiquidationBonusBps < collateral.maxLiquidationBonusBps ∨
      (debt.maxLiquidationBonusBps = collateral.maxLiquidationBonusBps ∧
        debt.deleveragingBonusIncreaseBpsPerDay < collateral.deleveragingBonusIncreaseBpsPerDay)
  then collateral else debt

def checkIndividualAutodeleverageObligation (lendingMarket : LendingMarket)
    (collateralReserve debtReserve : Reserve) (obligation : Obligation) (timestamp : U64) :
    Result (Option LiquidationParams) :=
  if ¬ obligation.isMarkedForDeleveraging ∨ ¬ lendingMarket.isAutodeleverageEnabled ∨
      lendingMarket.individualAutodeleverageMarginCallPeriodSecs = 0 then pure none
  else do
    let userLtv ← obligation.loanToValue
    let autodeleverageTargetLtv :=
      Fraction.fromPercent obligation.autodeleverageTargetLtvPct.widen
    if userLtv ≤ autodeleverageTargetLtv then pure none
    else
      let secsSinceMarginCallStarted :=
        Word.saturatingSub timestamp obligation.autodeleverageMarginCallStartedTimestamp
      match getSecsSinceDeleveragingStarted
        lendingMarket.individualAutodeleverageMarginCallPeriodSecs
        secsSinceMarginCallStarted with
      | none => pure none
      | some secsSinceDeleveragingStarted => do
        let daysSinceDeleveragingStarted ← toDaysFractional secsSinceDeleveragingStarted
        let selected := selectReserveConfig collateralReserve.config debtReserve.config
        let emodeMaxLiquidationBonusBps ← getEmodeMaxLiquidationBonus lendingMarket
          collateralReserve.config debtReserve.config obligation
        let noBfLtv ← obligation.noBfLoanToValue
        let liquidationBonusRate ← calculateAutodeleverageBonus
          selected.deleveragingBonusIncreaseBpsPerDay selected.maxLiquidationBonusBps
          emodeMaxLiquidationBonusBps daysSinceDeleveragingStarted noBfLtv
        pure (some { userLtv, liquidationBonusRate })

def getAutodeleverageLiquidationParams (autodeleverageReserve : Reserve)
    (obligation : Obligation) (secsSinceDeleveragingStarted : U64) :
    Result (Option LiquidationParams) := do
  let daysSinceDeleveragingStarted ← toDaysFractional secsSinceDeleveragingStarted
  let autodeleverageLtvThreshold ←
    calculateAutodeleverageThreshold autodeleverageReserve daysSinceDeleveragingStarted
  let userLtv ← obligation.loanToValue
  if autodeleverageLtvThreshold ≤ userLtv then do
    let noBfLtv ← obligation.noBfLoanToValue
    let liquidationBonusRate ← calculateAutodeleverageBonus
      autodeleverageReserve.config.deleveragingBonusIncreaseBpsPerDay
      autodeleverageReserve.config.maxLiquidationBonusBps (Word.max 16)
      daysSinceDeleveragingStarted noBfLtv
    pure (some { userLtv, liquidationBonusRate })
  else pure none

/-- Seconds since the margin call period of a crossed limit expired; a limit whose clock was never
started gives none. -/
def getSecsSinceLimitCrossed (crossed : Bool) (crossedTimestamp : U64) (config : ReserveConfig)
    (timestamp : U64) : Option U64 :=
  if crossed ∧ crossedTimestamp ≠ 0 then
    getSecsSinceDeleveragingStarted config.deleveragingMarginCallPeriodSecs
      (Word.saturatingSub timestamp crossedTimestamp)
  else none

def getSecsSinceAutodeleverageObligationCollateralDepositLimitCrossed
    (collateralReserve : Reserve) (timestamp : U64) : Result (Option U64) := do
  let crossed ← collateralReserve.depositLimitCrossed
  pure (getSecsSinceLimitCrossed crossed
    collateralReserve.liquidity.depositLimitCrossedTimestamp collateralReserve.config timestamp)

def getSecsSinceAutodeleverageObligationDebtBorrowLimitCrossed
    (debtReserve : Reserve) (timestamp : U64) : Option U64 :=
  getSecsSinceLimitCrossed debtReserve.borrowLimitCrossed
    debtReserve.liquidity.borrowLimitCrossedTimestamp debtReserve.config timestamp

def checkMarketWideAutodeleverageObligation (lendingMarket : LendingMarket)
    (collateralReserve debtReserve : Reserve) (obligation : Obligation) (timestamp : U64) :
    Result (Option LiquidationParams) :=
  if ¬ lendingMarket.isAutodeleverageEnabled then pure none
  else do
    let collateralParams ←
      if collateralReserve.config.isAutodeleverageEnabled then do
        let secs ← getSecsSinceAutodeleverageObligationCollateralDepositLimitCrossed
          collateralReserve timestamp
        match secs with
        | some secs => getAutodeleverageLiquidationParams collateralReserve obligation secs
        | none => pure none
      else pure none
    match collateralParams with
    | some params => pure (some params)
    | none =>
      if debtReserve.config.isAutodeleverageEnabled then
        match getSecsSinceAutodeleverageObligationDebtBorrowLimitCrossed debtReserve
          timestamp with
        | some secs => getAutodeleverageLiquidationParams debtReserve obligation secs
        | none => pure none
      else pure none

/-- Logging a bonus converts it to basis points. -/
def logBonusBps (w : ℕ) (liquidationBonusRate : Fraction) : Result Unit := do
  let bps ← liquidationBonusRate.toBps w
  let _ ← unwrap bps
  pure ()

def getLiquidationParams (lendingMarket : LendingMarket)
    (collateralReserve debtReserve : Reserve) (obligation : Obligation) (timestamp : U64)
    (isDebtReserveHighestBorrowFactor isCollateralReserveLowestLiquidationLtv : Bool)
    (maxAllowedLtvOverridePctOpt : Option U64) : Result LiquidationParams := do
  let liquidate ← checkLiquidateObligation lendingMarket collateralReserve debtReserve obligation
    maxAllowedLtvOverridePctOpt
  match liquidate with
  | some params => do
    require (isDebtReserveHighestBorrowFactor = true) .liquidationBorrowFactorPriority
    require (isCollateralReserveLowestLiquidationLtv = true) .liquidationLowestLtvPriority
    logBonusBps 64 params.liquidationBonusRate
    pure params
  | none => do
    let individual ← checkIndividualAutodeleverageObligation lendingMarket collateralReserve
      debtReserve obligation timestamp
    match individual with
    | some params => do
      logBonusBps 64 params.liquidationBonusRate
      pure params
    | none => do
      let marketWide ← checkMarketWideAutodeleverageObligation lendingMarket collateralReserve
        debtReserve obligation timestamp
      match marketWide with
      | some params => do
        logBonusBps 64 params.liquidationBonusRate
        pure params
      | none => do
        let _ ← obligation.loanToValue
        err .obligationHealthy

/-- The settled debt, its ceiling that is repaid, and the collateral withdrawn. -/
def calculateLiquidationAmounts (totalLiquidationValueIncludingBonus : Fraction)
    (collateral : ObligationCollateral) (debtLiquidationAmount : Fraction)
    (isBelowMinFullLiquidationValueThreshold : Bool) : Result (Fraction × U64 × U64) :=
  let collateralValue := collateral.marketValueSf
  if collateralValue < totalLiquidationValueIncludingBonus then do
    let repayRatio ← collateralValue.div totalLiquidationValueIncludingBonus
    let repayAmountF ← debtLiquidationAmount.mul repayRatio
    let settleAmount :=
      if isBelowMinFullLiquidationValueThreshold then debtLiquidationAmount else repayAmountF
    let repayAmount ← settleAmount.toCeil
    pure (settleAmount, repayAmount, collateral.depositedAmount)
  else if totalLiquidationValueIncludingBonus = collateralValue then do
    let repayAmount ← debtLiquidationAmount.toCeil
    pure (debtLiquidationAmount, repayAmount, collateral.depositedAmount)
  else do
    let repayAmount ← debtLiquidationAmount.toCeil
    let withdrawPct ← totalLiquidationValueIncludingBonus.div collateralValue
    let withdrawAmountF ← (Fraction.fromNum collateral.depositedAmount).mul withdrawPct
    let withdrawAmount ←
      if isBelowMinFullLiquidationValueThreshold ∧
          withdrawAmountF < Fraction.fromNum dustLamportThreshold then
        pure dustLamportThreshold
      else withdrawAmountF.toFloor
    pure (debtLiquidationAmount, repayAmount, withdrawAmount)

def calculateLiquidation (collateralReserve debtReserve : Reserve)
    (debtAmountToLiquidate : U64) (lendingMarket : LendingMarket) (obligation : Obligation)
    (liquidity : ObligationLiquidity) (collateral : ObligationCollateral) (timestamp : U64)
    (isDebtReserveHighestBorrowFactor isCollateralReserveLowestLiquidationLtv : Bool)
    (maxAllowedLtvOverridePctOpt : Option U64) : Result CalculateLiquidationResult := do
  require (obligation.depositedValueSf ≠ Fraction.zero) .invalidObligationCollateral
  let { userLtv, liquidationBonusRate } ← getLiquidationParams lendingMarket collateralReserve
    debtReserve obligation timestamp isDebtReserveHighestBorrowFactor
    isCollateralReserveLowestLiquidationLtv maxAllowedLtvOverridePctOpt
  let bonusRate ← liquidationBonusRate.add Fraction.one
  let borrowedAmountF := liquidity.borrowedAmountSf
  let borrowedValueF := liquidity.marketValueSf
  let debtAmountToLiquidate := min (Fraction.fromNum debtAmountToLiquidate) borrowedAmountF
  let isBelowMinFullLiquidationValueThreshold : Bool :=
    borrowedValueF < Fraction.fromNum lendingMarket.minFullLiquidationValueThreshold
  let debtLiquidationAmountF ←
    if isBelowMinFullLiquidationValueThreshold then do
      require (borrowedAmountF ≤ debtAmountToLiquidate) .repayTooSmallForFullLiquidation
      pure borrowedAmountF
    else do
      let maxLiquidatable ← maxLiquidatableBorrowedAmount obligation
        lendingMarket.liquidationMaxDebtCloseFactorPct
        lendingMarket.maxLiquidatableDebtMarketValueAtOnce liquidity userLtv
        lendingMarket.insolvencyRiskUnhealthyLtvPct
      pure (min maxLiquidatable debtAmountToLiquidate)
  let liquidationRatio ← debtLiquidationAmountF.div borrowedAmountF
  let liquidatedValue ← borrowedValueF.mul liquidationRatio
  let totalLiquidationValueIncludingBonus ← liquidatedValue.mul bonusRate
  let (settleAmountF, repayAmount, withdrawAmount) ← calculateLiquidationAmounts
    totalLiquidationValueIncludingBonus collateral debtLiquidationAmountF
    isBelowMinFullLiquidationValueThreshold
  logBonusBps 32 liquidationBonusRate
  let _ ← settleAmountF.toRound
  pure { settleAmountF, repayAmount, withdrawAmount, liquidationBonusRate }

def calculateProtocolLiquidationFee (amountLiquidated : U64) (liquidationBonus : Fraction)
    (protocolLiquidationFeePct : U8) : Result U64 := do
  let amount := Fraction.fromNum amountLiquidated
  let bonusRate ← liquidationBonus.add Fraction.one
  let withoutBonus ← amount.div bonusRate
  let bonus ← amount.sub withoutBonus
  let protocolFeeF ← bonus.mul (Fraction.fromPercent protocolLiquidationFeePct.widen)
  let protocolFee ← protocolFeeF.toCeil
  pure (max protocolFee 1)

end Klend
