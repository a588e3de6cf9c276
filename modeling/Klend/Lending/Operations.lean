import Klend.Lending.LiquidationOperations
import Klend.Lending.Refresh

/-! # Lending operations

The state changes behind the instructions. An operation that takes a reserve
and the map of reserves holds that reserve apart from the map.
-/

namespace Klend

namespace Reserve

def markStale (r : Reserve) : Reserve := { r with lastUpdate := r.lastUpdate.markStale }

def addAvailable (r : Reserve) (amount : U64) : Result Reserve := do
  let availableAmount ← Word.add r.liquidity.availableAmount amount
  pure { r with liquidity := { r.liquidity with availableAmount } }

end Reserve

def depositReserveLiquidity (reserve : Reserve) (clock : Clock) (liquidityAmount : U64) :
    Result (Reserve × DepositLiquidityResult) := do
  require (liquidityAmount ≠ 0) .invalidAmount
  reserve.lastUpdate.requireFresh clock.slot .none .reserveStale
  let depositResult ← reserve.computeDepositableAmountAndMintedCollateral liquidityAmount
  let supply ← reserve.liquidity.totalSupply
  let newSupply ← (Fraction.fromNum depositResult.liquidityAmount).add supply
  require (newSupply ≤ Fraction.fromNum reserve.config.depositLimit) .depositLimitExceeded
  let timestamp ← clock.timestamp
  let depositWithdrawalCap ← reserve.config.depositWithdrawalCap.subFromWithdrawalAccum
    depositResult.liquidityAmount timestamp
  let reserve := { reserve with config := { reserve.config with depositWithdrawalCap } }
  let reserve ←
    reserve.depositLiquidity depositResult.liquidityAmount depositResult.collateralAmount
  pure (reserve.markStale, depositResult)

/-- The referrer's share of a fee is credited to the referrer and kept in the reserve. -/
def creditReferrer (lendingMarket : LendingMarket) (reserve : Reserve)
    (referrerTokenState : Option ReferrerTokenState) (referrerFee : U64) :
    Result (Reserve × Option ReferrerTokenState) :=
  match referrerTokenState with
  | some state =>
    if 0 < lendingMarket.referralFeeBps then do
      let (reserve, state) ← addReferrerFee reserve state (Fraction.fromNum referrerFee)
      let reserve ← reserve.addAvailable referrerFee
      pure (reserve, some state)
    else pure (reserve, some state)
  | none => pure (reserve, none)

def borrowObligationLiquidity (lendingMarket : LendingMarket) (borrowReserve : Reserve)
    (obligation : Obligation) (liquidityAmount : U64) (clock : Clock) (borrowReservePk : Pubkey)
    (referrerTokenState : Option ReferrerTokenState) (reserves : Reserves)
    (depositReservesIter : List Pubkey) :
    Result (Reserve × Obligation × Option ReferrerTokenState × Reserves ×
      CalculateBorrowResult) := do
  require (liquidityAmount ≠ 0) .invalidAmount
  borrowReserve.lastUpdate.requireFresh clock.slot .allChecks .reserveStale
  require (lendingMarket.isBorrowingDisabled = false) .borrowingDisabled
  obligation.checkNotMarkedForDeleveraging
  let _ ← borrowReserve.liquidity.utilizationRate
  let reserveLiquidityBorrowedF := borrowReserve.liquidity.totalBorrow
  let borrowLimitF := Fraction.fromNum borrowReserve.config.borrowLimit
  let newBorrowedAmountF ← (Fraction.fromNum liquidityAmount).add reserveLiquidityBorrowedF
  require (¬ (liquidityAmount ≠ Word.max 64 ∧ borrowLimitF < newBorrowedAmountF))
    .borrowLimitExceeded
  checkObligationFullyRefreshedAndNotNull obligation clock.slot
  let remainingBorrowValue := obligation.remainingBorrowValue
  require (remainingBorrowValue ≠ Fraction.zero) .borrowTooLarge
  checkSameElevationGroup obligation borrowReserve
  checkElevationGroupBorrowingEnabled lendingMarket obligation
  checkNonElevationGroupBorrowingEnabled obligation
  let remainingReserveCapacity := borrowLimitF.saturatingSub reserveLiquidityBorrowedF
  require (remainingReserveCapacity ≠ Fraction.zero) .borrowLimitExceeded
  let result ← borrowReserve.calculateBorrow liquidityAmount remainingBorrowValue
    remainingReserveCapacity lendingMarket.referralFeeBps
    (obligation.elevationGroup ≠ elevationGroupNone) referrerTokenState.isSome
  let borrowAmount ← result.borrowAmountF.toCeil
  let timestamp ← clock.timestamp
  let debtWithdrawalCap ←
    borrowReserve.config.debtWithdrawalCap.addToWithdrawalAccum borrowAmount timestamp
  require (result.receiveAmount ≠ 0) .borrowTooSmall
  let liquidity ← borrowReserve.liquidity.borrow result.borrowAmountF
  let borrowReserve := { borrowReserve with
    liquidity, config := { borrowReserve.config with debtWithdrawalCap } }.markStale
  let assetTier ← borrowReserve.config.getAssetTier
  let (obligation, borrowIndex) ← obligation.findOrAddLiquidityToBorrows borrowReservePk
    borrowReserve.liquidity.cumulativeBorrowRateBsf assetTier
  let slotLiquidity ← unwrap obligation.borrows[borrowIndex]?
  let slotLiquidity ← slotLiquidity.borrow result.borrowAmountF
  let obligation := { obligation with borrows := obligation.borrows.set borrowIndex slotLiquidity }
  let (borrowReserve, referrerTokenState) ← creditReferrer lendingMarket borrowReserve
    referrerTokenState result.referrerFee
  let obligation := { obligation with hasDebt := 1 }.markStale
  let newUtilizationRate ← borrowReserve.liquidity.utilizationRate
  let utilizationLimit := borrowReserve.config.utilizationLimitBlockBorrowingAbovePct
  require (¬ (Fraction.fromPercent utilizationLimit.widen ≤ newUtilizationRate ∧
    utilizationLimit ≠ 0)) .borrowingAboveUtilizationRateDisabled
  validateObligationAssetTiers obligation
  let elevationGroup ← lendingMarket.getElevationGroup obligation.elevationGroup
  let (obligation, borrowReserve, reserves) ← updateElevationGroupDebtTrackersOnBorrow
    borrowAmount obligation borrowIndex elevationGroup borrowReservePk borrowReserve reserves
    depositReservesIter
  let slotLiquidity ← unwrap obligation.borrows[borrowIndex]?
  postBorrowObligationInvariants result.borrowAmountF obligation borrowReserve
    slotLiquidity.marketValueSf lendingMarket.minNetValueInObligationSf
  pure (borrowReserve, obligation, referrerTokenState, reserves, result)

def depositObligationCollateral (lendingMarket : LendingMarket) (depositReserve : Reserve)
    (obligation : Obligation) (slot collateralAmount : U64) (depositReservePk : Pubkey)
    (maxReservesAsCollateralCheck : MaxReservesAsCollateralCheck) :
    Result (Reserve × Obligation) := do
  require (collateralAmount ≠ 0) .invalidAmount
  depositReserve.lastUpdate.requireFresh slot .none .reserveStale
  obligation.lastUpdate.requireFresh slot .none .obligationStale
  require (¬ (0 < depositReserve.config.disableUsageAsCollOutsideEmode ∧
    obligation.elevationGroup = elevationGroupNone ∧
    Fraction.zero < obligation.borrowFactorAdjustedDebtValueSf))
    .depositDisabledOutsideElevationGroup
  checkSameElevationGroup obligation depositReserve
  let elevationGroup ← getElevationGroup obligation.elevationGroup lendingMarket
  let (_, liquidationThresholdPct) :=
    getMaxLtvAndLiquidationThreshold depositReserve elevationGroup
  if liquidationThresholdPct = 0 then obligation.checkNotMarkedForDeleveraging else pure ()
  let preDepositCount := obligation.depositsCount
  let totalBorrowedAmount ← obligation.getBorrowedAmountIfSingleToken
  let assetTier ← depositReserve.config.getAssetTier
  let (obligation, index, depositReserve) ← obligation.findOrAddCollateralToDeposits
    depositReservePk assetTier
    (fun obligationCollateral ↦ updateElevationGroupDebtTrackersOnNewDeposit totalBorrowedAmount
      obligationCollateral preDepositCount elevationGroup depositReservePk depositReserve
      maxReservesAsCollateralCheck)
    depositReserve
  let obligationCollateral ← unwrap obligation.deposits[index]?
  let obligationCollateral ← obligationCollateral.deposit collateralAmount
  let preCollateralMarketValueF := obligationCollateral.marketValueSf
  let obligation := { obligation with
    deposits := obligation.deposits.set index obligationCollateral }.markStale
  let depositReserve := depositReserve.markStale
  validateObligationAssetTiers obligation
  let rate ← depositReserve.collateralExchangeRate
  let amount ← rate.fractionCollateralToLiquidity (Fraction.fromNum collateralAmount)
  postDepositObligationInvariants amount obligation depositReserve preCollateralMarketValueF
    lendingMarket.minNetValueInObligationSf
  pure (depositReserve, obligation)

/-- The amount withdrawn from a collateral while the obligation has debt. -/
def withdrawAmountAgainstDebt (obligation : Obligation) (collateral : ObligationCollateral)
    (collateralAmount : U64) (reserveMaxLtvPct reserveLiqThresholdLtvPct : U8)
    (ltvMaxWithdrawalCheck : LtvMaxWithdrawalCheck) : Result U64 := do
  require (obligation.depositedValueSf ≠ Fraction.zero) .obligationDepositsZero
  let maxWithdrawValue ← obligation.maxWithdrawValue collateral reserveMaxLtvPct
    reserveLiqThresholdLtvPct ltvMaxWithdrawalCheck
  require (maxWithdrawValue ≠ Fraction.zero) .maximumWithdrawValueZero
  let collateralValue := collateral.marketValueSf
  let withdrawAmount ←
    if collateralAmount = Word.max 64 then do
      let withdrawValue := min maxWithdrawValue collateralValue
      let withdrawRatio ← withdrawValue.div collateralValue
      let ratioedAmountF ← withdrawRatio.mulInt collateral.depositedAmount
      let ratioedAmount ← ratioedAmountF.toFloor
      pure (min collateral.depositedAmount ratioedAmount)
    else do
      let withdrawAmount := min collateralAmount collateral.depositedAmount
      let withdrawRatio ← (Fraction.fromNum withdrawAmount).divCeil
        (Fraction.fromNum collateral.depositedAmount)
      let withdrawValue ← collateralValue.mul withdrawRatio
      require (if ltvMaxWithdrawalCheck = .liquidationThreshold then
        withdrawValue < maxWithdrawValue else withdrawValue ≤ maxWithdrawValue) .withdrawTooLarge
      pure withdrawAmount
  require (withdrawAmount ≠ 0) .withdrawTooSmall
  pure withdrawAmount

def withdrawObligationCollateral (lendingMarket : LendingMarket) (withdrawReserve : Reserve)
    (obligation : Obligation) (collateralAmount slot : U64) (withdrawReservePk : Pubkey)
    (ltvMaxWithdrawalCheck : LtvMaxWithdrawalCheck) : Result (Reserve × Obligation × U64) := do
  require (collateralAmount ≠ 0) .invalidAmount
  let isBorrowsEmpty := obligation.borrowsEmpty
  let requiredPriceStatus := if isBorrowsEmpty then PriceStatusFlags.none else .allChecks
  withdrawReserve.lastUpdate.requireFresh slot requiredPriceStatus .reserveStale
  obligation.lastUpdate.requireFresh slot requiredPriceStatus .obligationStale
  let collateralIndex ← obligation.positionOfCollateralInDeposits withdrawReservePk
  let collateral ← unwrap obligation.deposits[collateralIndex]?
  require (collateral.depositedAmount ≠ 0) .obligationCollateralEmpty
  if isBorrowsEmpty = false then
    checkElevationGroupBorrowingEnabled lendingMarket obligation
  else pure ()
  let status ← withdrawReserve.config.getStatus
  require (¬ (0 < obligation.numOfObsoleteReserves ∧ status = .active))
    .obligationInDeprecatedReserve
  let elevationGroup ← getElevationGroup obligation.elevationGroup lendingMarket
  let (reserveMaxLtvPct, reserveLiqThresholdLtvPct) :=
    getMaxLtvAndLiquidationThreshold withdrawReserve elevationGroup
  let withdrawAmount ←
    if isBorrowsEmpty then
      if collateralAmount = Word.max 64 then pure collateral.depositedAmount
      else pure (min collateral.depositedAmount collateralAmount)
    else
      withdrawAmountAgainstDebt obligation collateral collateralAmount reserveMaxLtvPct
        reserveLiqThresholdLtvPct ltvMaxWithdrawalCheck
  let previousDebtInElevationGroup :=
    collateral.borrowedAmountAgainstThisCollateralInElevationGroup
  let (obligation, isFullWithdrawal) ← obligation.withdraw withdrawAmount collateralIndex
  let obligation := obligation.markStale
  let withdrawReserve ←
    if isFullWithdrawal = .full then
      updateElevationGroupDebtTrackersOnFullWithdraw previousDebtInElevationGroup
        obligation.elevationGroup withdrawReserve
    else pure withdrawReserve
  let rate ← withdrawReserve.collateralExchangeRate
  let amount ← rate.fractionCollateralToLiquidity (Fraction.fromNum withdrawAmount)
  let slotCollateral ← unwrap obligation.deposits[collateralIndex]?
  postWithdrawObligationInvariants amount obligation withdrawReserve reserveLiqThresholdLtvPct
    slotCollateral.marketValueSf lendingMarket.minNetValueInObligationSf
  pure (withdrawReserve, obligation, withdrawAmount)

def redeemReserveCollateral (reserve : Reserve) (collateralAmount : U64) (clock : Clock)
    (addAmountToWithdrawalCaps : Bool) : Result (Reserve × U64) := do
  require (collateralAmount ≠ 0) .invalidAmount
  reserve.lastUpdate.requireFresh clock.slot .none .reserveStale
  let (reserve, liquidityAmount) ← reserve.redeemCollateral collateralAmount
  let timestamp ← clock.timestamp
  let reserve ← refreshReserveLimitTimestamps reserve timestamp
  let reserve := reserve.markStale
  if addAmountToWithdrawalCaps then do
    let depositWithdrawalCap ←
      reserve.config.depositWithdrawalCap.addToWithdrawalAccum liquidityAmount timestamp
    pure ({ reserve with config := { reserve.config with depositWithdrawalCap } },
      liquidityAmount)
  else pure (reserve, liquidityAmount)

def redeemFees (reserve : Reserve) (slot : U64) : Result (Reserve × U64) := do
  reserve.lastUpdate.requireFresh slot .none .reserveStale
  let withdrawAmount ← reserve.calculateRedeemFees
  require (withdrawAmount ≠ 0) .insufficientProtocolFeesToRedeem
  let liquidity ← reserve.liquidity.redeemFees withdrawAmount
  pure ({ reserve with liquidity }.markStale, withdrawAmount)

def withdrawReferrerFees (reserve : Reserve) (slot : U64)
    (referrerTokenState : ReferrerTokenState) :
    Result (Reserve × ReferrerTokenState × U64) := do
  reserve.lastUpdate.requireFresh slot .allChecks .reserveStale
  let withdrawAmount ← reserve.getWithdrawReferrerFees referrerTokenState
  require (withdrawAmount ≠ 0) .insufficientReferralFeesToRedeem
  let (liquidity, referrerTokenState) ←
    reserve.liquidity.withdrawReferrerFees withdrawAmount referrerTokenState
  pure ({ reserve with liquidity }.markStale, referrerTokenState, withdrawAmount)

def repayObligationLiquidity (repayReserve : Reserve) (obligation : Obligation) (clock : Clock)
    (liquidityAmount : U64) (repayReservePk : Pubkey) (lendingMarket : LendingMarket)
    (reserves : Reserves) (depositReservesIter : List Pubkey) :
    Result (Reserve × Obligation × Reserves × U64) := do
  require (liquidityAmount ≠ 0) .invalidAmount
  repayReserve.lastUpdate.requireFresh clock.slot .none .reserveStale
  obligation.lastUpdate.requireFresh clock.slot .none .obligationStale
  let (liquidity, liquidityIndex) ← obligation.findLiquidityInBorrows repayReservePk
  require (liquidity.borrowedAmountSf ≠ Fraction.zero) .obligationLiquidityEmpty
  let liquidity ← liquidity.accrueInterest repayReserve.liquidity.cumulativeBorrowRateBsf
  let obligation := { obligation with borrows := obligation.borrows.set liquidityIndex liquidity }
  let { settleAmountF := settleAmount, repayAmount } ←
    Reserve.calculateRepay liquidityAmount liquidity.borrowedAmountSf
  require (repayAmount ≠ 0) .repayTooSmall
  let timestamp ← clock.timestamp
  let debtWithdrawalCap ←
    repayReserve.config.debtWithdrawalCap.subFromWithdrawalAccum repayAmount timestamp
  let repayReserve := { repayReserve with
    config := { repayReserve.config with debtWithdrawalCap } }
  let (obligation, repayReserve, reserves) ← updateElevationGroupDebtTrackersOnRepay repayAmount
    obligation liquidityIndex repayReserve reserves depositReservesIter
  let repaid ← repayReserve.liquidity.repay repayAmount settleAmount
  let repayReserve := { repayReserve with liquidity := repaid }.markStale
  let obligation ← obligation.repay settleAmount liquidityIndex
  let obligation := obligation.updateHasDebt.markStale
  let slotLiquidity ← unwrap obligation.borrows[liquidityIndex]?
  postRepayObligationInvariants settleAmount obligation repayReserve slotLiquidity.marketValueSf
    lendingMarket.minNetValueInObligationSf
  pure (repayReserve, obligation, reserves, repayAmount)

def checkLtvNotWorseIfMarkedForDeleveraging (obligation : Obligation) (initialLtv : Fraction)
    (resultingBorrowFactorAdjustedDebtValue resultingDepositedValue : Fraction) :
    Result Unit :=
  if obligation.isMarkedForDeleveraging then do
    let resultingLtv ← resultingBorrowFactorAdjustedDebtValue.div resultingDepositedValue
    require (resultingLtv ≤ initialLtv) .worseLtvBlocked
  else pure ()

def requestElevationGroup (obligation : Obligation) (lendingMarket : LendingMarket) (slot : U64)
    (newElevationGroup : U8) (reserves : Reserves)
    (depositReservesIter borrowReservesIter : List Pubkey)
    (referrerTokenStates : ReferrerTokenStates)
    (referrerTokenStatesIter : List ReferrerTokenStateKey) :
    Result (Obligation × Reserves × ReferrerTokenStates) := do
  checkObligationFullyRefreshedAndNotNull obligation slot
  require (obligation.elevationGroup ≠ newElevationGroup) .elevationGroupAlreadyActivated
  let initialLtv ← obligation.loanToValue
  let oldElevationGroup ← getElevationGroup obligation.elevationGroup lendingMarket
  let (obligation, reserves) ← resetElevationGroupDebts obligation oldElevationGroup reserves
    depositReservesIter borrowReservesIter
  let elevationGroup ← getElevationGroup newElevationGroup lendingMarket
  match elevationGroup with
  | some g => do
    require (g.newLoansDisabled = false) .elevationGroupNewLoansDisabled
    require (g.debtReserve ≠ 0) .elevationGroupWithoutDebtReserve
    require (0 < g.maxReservesAsCollateral) .elevationGroupMaxCollateralReserveZero
  | none => pure ()
  let (obligation, reserves, referrerTokenStates, borrowsResult) ← refreshObligationBorrows
    obligation lendingMarket slot elevationGroup reserves borrowReservesIter referrerTokenStates
    referrerTokenStatesIter
  let (obligation, reserves, depositsResult) ← refreshObligationDeposits obligation
    lendingMarket slot .perform elevationGroup reserves depositReservesIter
    borrowsResult.borrowedAmountInElevationGroup
  require (borrowsResult.borrowFactorAdjustedDebtValueF ≤ depositsResult.allowedBorrowValueF)
    .unhealthyElevationGroupLtv
  checkLtvNotWorseIfMarkedForDeleveraging obligation initialLtv
    borrowsResult.borrowFactorAdjustedDebtValueF depositsResult.depositedValueF
  let obligation := { obligation with
    elevationGroup := newElevationGroup
    borrowingDisabled := boolToU8 depositsResult.borrowingDisabled }.markStale
  checkElevationGroupBorrowLimitConstraints obligation elevationGroup reserves
    depositReservesIter borrowReservesIter
  pure (obligation, reserves, referrerTokenStates)

structure LiquidateObligationResult where
  settleAmountF : Fraction
  repayAmount : U64
  withdrawAmount : U64
  withdrawCollateralAmount : U64
  liquidationBonusRate : Fraction
deriving DecidableEq, Repr

def repayAndWithdrawFromObligationPostLiquidation (obligation : Obligation)
    (repayReserve : Reserve) (settleAmountF : Fraction) (withdrawAmount repayAmount : U64)
    (liquidityIndex collateralIndex : ℕ) : Result (Obligation × Reserve) := do
  require (repayAmount ≠ 0) .liquidationTooSmall
  require (withdrawAmount ≠ 0) .liquidationTooSmall
  let liquidity ← repayReserve.liquidity.repay repayAmount settleAmountF
  let repayReserve := { repayReserve with liquidity }.markStale
  let obligation ← obligation.repay settleAmountF liquidityIndex
  let (obligation, _) ← obligation.withdraw withdrawAmount collateralIndex
  pure (obligation.updateHasDebt.markStale, repayReserve)

/-- The two reserves are loaded by key and may be the same account: the repaid one is stored before
the withdrawn one is loaded for writing. -/
def liquidateObligation (lendingMarket : LendingMarket) (repayReservePk withdrawReservePk : Pubkey)
    (obligation : Obligation) (clock : Clock) (liquidityAmount : U64)
    (maxAllowedLtvOverridePctOpt : Option U64) (reserves : Reserves)
    (depositReservesIter : List Pubkey) :
    Result (Obligation × Reserves × LiquidateObligationResult) := do
  let repayReserve ← reserves.load repayReservePk
  let withdrawReserve ← reserves.load withdrawReservePk
  let elevationGroup ← getElevationGroup obligation.elevationGroup lendingMarket
  let (_, collateralLiquidationThresholdPct) :=
    getMaxLtvAndLiquidationThreshold withdrawReserve elevationGroup
  require (collateralLiquidationThresholdPct ≠ 0) .collateralNonLiquidatable
  assertObligationLiquidatable repayReserve withdrawReserve obligation liquidityAmount clock.slot
  let (liquidity, liquidityIndex) ← obligation.findLiquidityInBorrows repayReservePk
  require (liquidity.borrowFactorAdjustedMarketValueSf ≠ Fraction.zero) .obligationLiquidityEmpty
  let collateralIndex ← obligation.positionOfCollateralInDeposits withdrawReservePk
  let collateral ← unwrap obligation.deposits[collateralIndex]?
  require (collateral.marketValueSf ≠ Fraction.zero) .obligationCollateralEmpty
  let isDebtReserveHighestBorrowFactor : Bool :=
    obligation.highestBorrowFactorPct ≤ repayReserve.config.borrowFactorPct
  let isCollateralReserveLowestLiquidationLtv : Bool :=
    (collateralLiquidationThresholdPct.widen : U64) ≤
      obligation.lowestReserveDepositLiquidationLtv
  let timestamp ← clock.timestamp
  let { settleAmountF, repayAmount, withdrawAmount, liquidationBonusRate } ←
    calculateLiquidation withdrawReserve repayReserve liquidityAmount lendingMarket obligation
      liquidity collateral timestamp isDebtReserveHighestBorrowFactor
      isCollateralReserveLowestLiquidationLtv maxAllowedLtvOverridePctOpt
  let isFullWithdrawal : Bool := collateral.depositedAmount = withdrawAmount
  let (obligation, repayReserve, held) ← updateElevationGroupDebtTrackersOnRepay repayAmount
    obligation liquidityIndex repayReserve (reserves.hold repayReservePk) depositReservesIter
  let slotCollateral ← unwrap obligation.deposits[collateralIndex]?
  let previousDebtInElevationGroup :=
    slotCollateral.borrowedAmountAgainstThisCollateralInElevationGroup
  let (obligation, repayReserve) ← repayAndWithdrawFromObligationPostLiquidation obligation
    repayReserve settleAmountF withdrawAmount repayAmount liquidityIndex collateralIndex
  let reserves := held.store repayReservePk repayReserve
  let withdrawReserve ← reserves.load withdrawReservePk
  let withdrawReserve ←
    refreshReserve withdrawReserve clock none lendingMarket.referralFeeBps
  let rate ← withdrawReserve.collateralExchangeRate
  let maxRedeemableCollateral ←
    rate.liquidityToCollateral withdrawReserve.liquidity.availableAmount
  let withdrawCollateralAmount := min withdrawAmount maxRedeemableCollateral
  let withdrawReserve ←
    if isFullWithdrawal then
      updateElevationGroupDebtTrackersOnFullWithdraw previousDebtInElevationGroup
        obligation.elevationGroup withdrawReserve
    else pure withdrawReserve
  pure (obligation, reserves.store withdrawReservePk withdrawReserve,
    { settleAmountF, repayAmount, withdrawAmount, withdrawCollateralAmount,
      liquidationBonusRate })

def postLiquidateRedeem (withdrawReserve : Reserve)
    (withdrawAmount withdrawCollateralAmount : U64) (liquidationBonusRate : Fraction)
    (minAcceptableReceivedLiquidityAmount : U64) (clock : Clock) :
    Result (Reserve × Option (U64 × U64)) :=
  if withdrawCollateralAmount ≠ 0 then do
    let (withdrawReserve, withdrawLiquidityAmount) ←
      redeemReserveCollateral withdrawReserve withdrawCollateralAmount clock false
    let protocolFee ← calculateProtocolLiquidationFee withdrawLiquidityAmount
      liquidationBonusRate withdrawReserve.config.protocolLiquidationFeePct
    let netWithdrawLiquidityAmount ← Word.sub withdrawLiquidityAmount protocolFee
    require (minAcceptableReceivedLiquidityAmount ≤ netWithdrawLiquidityAmount)
      .liquidationRewardTooSmall
    pure (withdrawReserve, some (withdrawLiquidityAmount, protocolFee))
  else do
    let rate ← withdrawReserve.collateralExchangeRate
    let theoreticalWithdrawLiquidityAmount ← rate.collateralToLiquidity withdrawAmount
    require (minAcceptableReceivedLiquidityAmount ≤ theoreticalWithdrawLiquidityAmount)
      .liquidationRewardTooSmall
    pure (withdrawReserve, none)

structure LiquidateAndRedeemResult where
  repayAmount : U64
  withdrawAmount : U64
  withdrawCollateralAmount : U64
  totalWithdrawLiquidityAmount : Option (U64 × U64)
deriving DecidableEq, Repr

def liquidateAndRedeem (lendingMarket : LendingMarket) (repayReservePk withdrawReservePk : Pubkey)
    (obligation : Obligation) (clock : Clock)
    (liquidityAmount minAcceptableReceivedLiquidityAmount : U64)
    (maxAllowedLtvOverridePctOpt : Option U64) (reserves : Reserves)
    (depositReservesIter : List Pubkey) :
    Result (Obligation × Reserves × LiquidateAndRedeemResult) := do
  let (obligation, reserves, result) ← liquidateObligation lendingMarket repayReservePk
    withdrawReservePk obligation clock liquidityAmount maxAllowedLtvOverridePctOpt reserves
    depositReservesIter
  let withdrawReserve ← reserves.load withdrawReservePk
  let (withdrawReserve, totalWithdrawLiquidityAmount) ← postLiquidateRedeem withdrawReserve
    result.withdrawAmount result.withdrawCollateralAmount result.liquidationBonusRate
    minAcceptableReceivedLiquidityAmount clock
  pure (obligation, reserves.store withdrawReservePk withdrawReserve,
    { repayAmount := result.repayAmount
      withdrawAmount := result.withdrawAmount
      withdrawCollateralAmount := result.withdrawCollateralAmount
      totalWithdrawLiquidityAmount })

def flashBorrowReserveLiquidity (reserve : Reserve) (liquidityAmount : U64) : Result Reserve := do
  require (reserve.config.fees.flashLoanFeeSf ≠ Word.max 64) .flashLoansDisabled
  let liquidity ← reserve.liquidity.borrow (Fraction.fromNum liquidityAmount)
  pure { reserve with liquidity }.markStale

def flashRepayReserveLiquidity (lendingMarket : LendingMarket) (reserve : Reserve)
    (liquidityAmount timestamp : U64) (referrerTokenState : Option ReferrerTokenState) :
    Result (Reserve × Option ReferrerTokenState × U64 × U64) := do
  let flashLoanAmountF := Fraction.fromNum liquidityAmount
  let (protocolFee, referrerFee) ← reserve.config.fees.calculateFlashLoanFees flashLoanAmountF
    lendingMarket.referralFeeBps referrerTokenState.isSome
  let liquidity ← reserve.liquidity.repay liquidityAmount flashLoanAmountF
  let reserve ← refreshReserveLimitTimestamps { reserve with liquidity } timestamp
  let (reserve, referrerTokenState) ←
    creditReferrer lendingMarket reserve.markStale referrerTokenState referrerFee
  let flashLoanAmountWithReferralFee ← Word.add liquidityAmount referrerFee
  pure (reserve, referrerTokenState, flashLoanAmountWithReferralFee, protocolFee)

def socializeLoss (reserve : Reserve) (reservePk : Pubkey) (obligation : Obligation)
    (liquidityAmount slot : U64) (reserves : Reserves) (depositReservesIter : List Pubkey) :
    Result (Reserve × Obligation × Reserves × Fraction) := do
  reserve.lastUpdate.requireFresh slot .allChecks .reserveStale
  obligation.lastUpdate.requireFresh slot .allChecks .obligationStale
  require (obligation.depositsEmpty = true) .cannotSocializeObligationWithCollateral
  require (¬ (obligation.depositsEmpty ∧ obligation.borrowsEmpty)) .obligationEmpty
  let (liquidity, liquidityIndex) ← obligation.findLiquidityInBorrows reservePk
  let forgiveAmountF := min (Fraction.fromNum liquidityAmount) liquidity.borrowedAmountSf
  let supply ← reserve.liquidity.totalSupply
  let reserve :=
    if supply ≤ forgiveAmountF then { reserve with version := Word.max 64 } else reserve
  let forgiveAmount ← forgiveAmountF.toCeil
  let (obligation, reserve, reserves) ← updateElevationGroupDebtTrackersOnRepay forgiveAmount
    obligation liquidityIndex reserve reserves depositReservesIter
  let forgiven ← reserve.liquidity.forgiveDebt forgiveAmountF
  let reserve := { reserve with liquidity := forgiven }.markStale
  let obligation ← obligation.repay forgiveAmountF liquidityIndex
  pure (reserve, obligation.updateHasDebt.markStale, reserves, forgiveAmountF)

def noDeleveragingMarker : U8 := Word.max 8

def markObligationForDeleveraging (lendingMarket : LendingMarket) (obligation : Obligation)
    (autodeleverageTargetLtvPct : U8) (timestamp : U64) : Result Obligation :=
  if autodeleverageTargetLtvPct = noDeleveragingMarker then
    if obligation.isMarkedForDeleveraging then
      pure { obligation with
        autodeleverageMarginCallStartedTimestamp := 0, autodeleverageTargetLtvPct := 0 }
    else pure obligation
  else do
    require (autodeleverageTargetLtvPct ≤ 100) .invalidConfig
    obligation.checkNotMarkedForDeleveraging
    require (lendingMarket.individualAutodeleverageMarginCallPeriodSecs ≠ 0) .invalidConfig
    if timestamp = 0 then abort
    else pure { obligation with
      autodeleverageMarginCallStartedTimestamp := timestamp, autodeleverageTargetLtvPct }

end Klend
