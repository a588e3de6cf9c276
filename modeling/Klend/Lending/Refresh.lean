import Klend.Lending.DebtTrackers

/-! # Refreshing reserves and obligations

A reserve accrues interest and may take a new price. An obligation brings each
debt to its reserve's cumulative rate, settles the referral fees, rebases its
debt trackers and recomputes all its values.
-/

namespace Klend

structure GetPriceResult where
  price : Fraction
  status : PriceStatusFlags
  timestamp : U64
deriving DecidableEq, Repr

def isSavedPriceAgeValid (reserve : Reserve) (clock : Clock) : Result Bool := do
  let currentTs ← clock.timestamp
  pure (decide (Word.saturatingSub currentTs reserve.liquidity.marketPriceLastUpdatedTs <
    reserve.config.tokenInfo.maxAgePriceSeconds))

def refreshReserve (reserve : Reserve) (clock : Clock) (price : Option GetPriceResult)
    (referralFeeBps : U16) : Result Reserve := do
  let reserve ← reserve.accrueInterest clock.slot referralFeeBps
  match price with
  | some p => pure { reserve with
      liquidity := { reserve.liquidity with
        marketPriceSf := p.price, marketPriceLastUpdatedTs := p.timestamp }
      lastUpdate := reserve.lastUpdate.updateSlot clock.slot (some p.status) }
  | none => do
    let ageValid ← isSavedPriceAgeValid reserve clock
    pure { reserve with
      lastUpdate := reserve.lastUpdate.updateSlot clock.slot
        (if ageValid then none else some PriceStatusFlags.none) }

def refreshReserveLimitTimestamps (reserve : Reserve) (timestamp : U64) : Result Reserve := do
  let reserve ← reserve.updateDepositLimitCrossedTimestamp timestamp
  pure (reserve.updateBorrowLimitCrossedTimestamp timestamp)

def addReferrerFee (borrowReserve : Reserve) (referrerTokenState : ReferrerTokenState)
    (referrerFee : Fraction) : Result (Reserve × ReferrerTokenState) := do
  let amountCumulativeSf ← referrerTokenState.amountCumulativeSf.add referrerFee
  let amountUnclaimedSf ← referrerTokenState.amountUnclaimedSf.add referrerFee
  let accumulatedReferrerFeesSf ←
    borrowReserve.liquidity.accumulatedReferrerFeesSf.add referrerFee
  pure ({ borrowReserve with
      liquidity := { borrowReserve.liquidity with accumulatedReferrerFeesSf } },
    { referrerTokenState with amountCumulativeSf, amountUnclaimedSf })

def validateReferrerTokenState (referrerTokenState : ReferrerTokenState)
    (referrerTokenStateKey : ReferrerTokenStateKey) (mint ownerReferrer reserveKey : Pubkey) :
    Result Unit := do
  require (referrerTokenState.mint ≠ 0 ∧ referrerTokenState.referrer ≠ 0)
    .referrerAccountNotInitialized
  require (referrerTokenState.mint = mint) .referrerAccountMintMissmatch
  require (referrerTokenStateKey = (referrerTokenState.referrer, reserveKey))
    .referrerAccountWrongAddress
  require (referrerTokenState.referrer = ownerReferrer) .referrerAccountReferrerMissmatch

/-- The referral fee earned by a debt's growth since its last refresh, moved out of the pending
fees to the referrer, or to the protocol when there is none. -/
def accumulateReferrerFees (borrowReserveInfoKey : Pubkey) (borrowReserve : Reserve)
    (obligationReferrer : Pubkey) (lendingMarketReferralFeeBps : U16) (slotsElapsed : U64)
    (borrowedAmountF previousBorrowedAmountF : Fraction) (obligationHasReferrer : Bool)
    (states : ReferrerTokenStates) (referrerTokenStatesIter : List ReferrerTokenStateKey) :
    Result (Reserve × ReferrerTokenStates × List ReferrerTokenStateKey) :=
  let absoluteReferralRate := borrowReserve.liquidity.absoluteReferralRateSf
  if absoluteReferralRate = Fraction.zero then
    pure (borrowReserve, states, referrerTokenStatesIter)
  else do
    let fixedRate ← approximateCompoundedInterest
      (Fraction.fromBps borrowReserve.config.hostFixedInterestRateBps.widen) slotsElapsed
    let netNewDebt ← borrowedAmountF.sub previousBorrowedAmountF
    let fixedDebt ← previousBorrowedAmountF.mul fixedRate
    let netNewFixedDebt ← fixedDebt.sub previousBorrowedAmountF
    require (netNewFixedDebt ≤ netNewDebt) .cannotCalculateReferralAmountDueToSlotsMismatch
    let netNewVariableDebtF ← netNewDebt.sub netNewFixedDebt
    let referrerFeeF ← netNewVariableDebtF.mul absoluteReferralRate
    let referrerFeeCappedSf := min referrerFeeF borrowReserve.liquidity.pendingReferrerFeesSf
    let pendingReferrerFeesSf ←
      borrowReserve.liquidity.pendingReferrerFeesSf.sub referrerFeeCappedSf
    let borrowReserve := { borrowReserve with
      liquidity := { borrowReserve.liquidity with pendingReferrerFeesSf } }
    if obligationHasReferrer ∧ 0 < lendingMarketReferralFeeBps then
      match referrerTokenStatesIter with
      | [] => err .invalidAccountInput
      | key :: rest => do
        let referrerTokenState ← unwrap (states key)
        validateReferrerTokenState referrerTokenState key borrowReserve.liquidity.mintPubkey
          obligationReferrer borrowReserveInfoKey
        let (borrowReserve, referrerTokenState) ←
          addReferrerFee borrowReserve referrerTokenState referrerFeeCappedSf
        pure (borrowReserve, Function.update states key (some referrerTokenState), rest)
    else do
      let accumulatedProtocolFeesSf ←
        borrowReserve.liquidity.accumulatedProtocolFeesSf.add referrerFeeCappedSf
      pure ({ borrowReserve with
        liquidity := { borrowReserve.liquidity with accumulatedProtocolFeesSf } }, states,
        referrerTokenStatesIter)

structure RefreshObligationBorrowsResult where
  borrowFactorAdjustedDebtValueF : Fraction
  borrowedAssetsMarketValueF : Fraction
  pricesState : PriceStatusFlags
  highestBorrowFactorPct : U64
  borrowedAmountInElevationGroup : Option U64
deriving DecidableEq, Repr

/-- What the loop over the debts carries. -/
structure BorrowsPass where
  reserves : Reserves
  referrerTokenStates : ReferrerTokenStates
  referrerTokenStatesIter : List ReferrerTokenStateKey
  borrowsAssetTiers : List U8
  hasDebt : U8
  borrowedAssetsMarketValue : Fraction
  borrowFactorAdjustedDebtValue : Fraction
  pricesState : PriceStatusFlags
  highestBorrowFactorF : Fraction
  borrowedAmountsAccumulatorForElevationGroup : U64
  numBorrowReserves : ℕ

/-- Counting a debt of `borrowedAmount`: inside a group only the reserve is checked, outside any
group the trackers are rebased. -/
def trackRefreshedBorrow (elevationGroup : Option ElevationGroup) (key : Pubkey)
    (borrowReserve : Reserve) (borrow : ObligationLiquidity) (borrowedAmount : U64) :
    Result (Reserve × ObligationLiquidity) :=
  match elevationGroup with
  | some g => do
    require (g.id ∈ borrowReserve.config.elevationGroups) .inconsistentElevationGroup
    require (key = g.debtReserve) .elevationGroupHasAnotherDebtReserve
    pure (borrowReserve, borrow)
  | none => do
    let newAmount ← Word.add (Word.saturatingSub
      borrowReserve.borrowedAmountOutsideElevationGroup
      borrow.borrowedAmountOutsideElevationGroups) borrowedAmount
    pure (borrowReserve.setDebtOutside newAmount, borrow.setDebtOutside borrowedAmount)

def refreshBorrow (obligation : Obligation) (lendingMarket : LendingMarket) (slot : U64)
    (elevationGroup : Option ElevationGroup) (index : ℕ) (s : BorrowsPass)
    (borrow : ObligationLiquidity) (key : Pubkey) : Result (BorrowsPass × ObligationLiquidity) := do
  let borrowReserve ← s.reserves.loadRemaining key
  checkObligationLiquidityBorrowReserve borrow borrowReserve key slot
  let previousBorrowedAmountF := borrow.borrowedAmountSf
  let borrow ← borrow.accrueInterest borrowReserve.liquidity.cumulativeBorrowRateBsf
  let borrowedAmountF := borrow.borrowedAmountSf
  let borrowedAmount ← borrowedAmountF.toCeil
  let accumulator ← Word.add s.borrowedAmountsAccumulatorForElevationGroup borrowedAmount
  let (borrowReserve, borrow) ←
    trackRefreshedBorrow elevationGroup key borrowReserve borrow borrowedAmount
  let slotsElapsed ← obligation.lastUpdate.slotsElapsed slot
  let (borrowReserve, referrerTokenStates, referrerTokenStatesIter) ← accumulateReferrerFees key
    borrowReserve obligation.referrer lendingMarket.referralFeeBps slotsElapsed borrowedAmountF
    previousBorrowedAmountF obligation.hasReferrer s.referrerTokenStates
    s.referrerTokenStatesIter
  let marketValueF ← calculateObligationLiquidityMarketValue borrowReserve borrow
  let borrowedAssetsMarketValue ← s.borrowedAssetsMarketValue.add marketValueF
  let borrowFactorF := borrowReserve.borrowFactorF elevationGroup.isSome
  let highestBorrowFactorF :=
    if Fraction.fromNum lendingMarket.minValueSkipLiquidationBfChecks ≤ marketValueF then
      max s.highestBorrowFactorF borrowFactorF
    else s.highestBorrowFactorF
  let borrowFactorAdjustedMarketValue ← marketValueF.mul borrowFactorF
  let borrowFactorAdjustedDebtValue ←
    s.borrowFactorAdjustedDebtValue.add borrowFactorAdjustedMarketValue
  borrow.borrowedAmountSf.toDisplay
  marketValueF.toDisplay
  borrowFactorAdjustedMarketValue.toDisplay
  pure ({
      reserves := s.reserves.store key borrowReserve
      referrerTokenStates, referrerTokenStatesIter
      borrowsAssetTiers := s.borrowsAssetTiers.set index borrowReserve.config.assetTier
      hasDebt := 1
      borrowedAssetsMarketValue, borrowFactorAdjustedDebtValue
      pricesState := s.pricesState.intersection borrowReserve.lastUpdate.priceStatus
      highestBorrowFactorF
      borrowedAmountsAccumulatorForElevationGroup := accumulator
      numBorrowReserves := s.numBorrowReserves + 1 },
    { borrow with
      marketValueSf := marketValueF
      borrowFactorAdjustedMarketValueSf := borrowFactorAdjustedMarketValue })

def refreshObligationBorrows (obligation : Obligation) (lendingMarket : LendingMarket)
    (slot : U64) (elevationGroup : Option ElevationGroup) (reserves : Reserves)
    (reservesIter : List Pubkey) (referrerTokenStates : ReferrerTokenStates)
    (referrerTokenStatesIter : List ReferrerTokenStateKey) :
    Result (Obligation × Reserves × ReferrerTokenStates × RefreshObligationBorrowsResult) := do
  let (s, borrows) ← forOccupied ObligationLiquidity.occupied
    (refreshBorrow obligation lendingMarket slot elevationGroup) 0
    { reserves, referrerTokenStates, referrerTokenStatesIter
      borrowsAssetTiers := obligation.borrowsAssetTiers
      hasDebt := obligation.hasDebt
      borrowedAssetsMarketValue := Fraction.zero
      borrowFactorAdjustedDebtValue := Fraction.zero
      pricesState := PriceStatusFlags.allChecks
      highestBorrowFactorF := Fraction.one
      borrowedAmountsAccumulatorForElevationGroup := 0
      numBorrowReserves := 0 }
    obligation.borrows reservesIter
  require (¬ (elevationGroup.isSome ∧ 1 < s.numBorrowReserves)) .inconsistentElevationGroup
  let highestBorrowFactorPct ← s.highestBorrowFactorF.toPercent 64
  let highestBorrowFactorPct ← unwrap highestBorrowFactorPct
  pure ({ obligation with
      borrows, borrowsAssetTiers := s.borrowsAssetTiers, hasDebt := s.hasDebt },
    s.reserves, s.referrerTokenStates,
    { borrowFactorAdjustedDebtValueF := s.borrowFactorAdjustedDebtValue
      borrowedAssetsMarketValueF := s.borrowedAssetsMarketValue
      pricesState := s.pricesState
      highestBorrowFactorPct
      borrowedAmountInElevationGroup :=
        if elevationGroup.isSome then some s.borrowedAmountsAccumulatorForElevationGroup
        else none })

structure RefreshObligationDepositsResult where
  lowestDepositLiquidationLtvThresholdPct : U8
  lowestDepositMaxLtvPct : U8
  numOfObsoleteReserves : U8
  depositedValueF : Fraction
  allowedBorrowValueF : Fraction
  unhealthyBorrowValueF : Fraction
  pricesState : PriceStatusFlags
  borrowingDisabled : Bool
deriving DecidableEq, Repr

/-- What the loop over the collaterals carries. -/
structure DepositsPass where
  reserves : Reserves
  depositsAssetTiers : List U8
  lowestDepositLiquidationLtvThresholdPct : U8
  lowestDepositMaxLtvPct : U8
  depositedValue : Fraction
  allowedBorrowValue : Fraction
  unhealthyBorrowValue : Fraction
  numOfObsoleteReserves : U8
  pricesState : PriceStatusFlags
  borrowingDisabled : Bool
  collateralsCount : ℕ

/-- Inside a group a collateral's trackers are rebased to the group's whole debt. -/
def trackRefreshedDeposit (elevationGroupAndBorrowedAmount : Option (ElevationGroup × U64))
    (key : Pubkey) (depositReserve : Reserve) (deposit : ObligationCollateral) :
    Result (Reserve × ObligationCollateral) :=
  match elevationGroupAndBorrowedAmount with
  | some (g, debtAmount) => do
    let i ← g.getIndex
    require (g.id ∈ depositReserve.config.elevationGroups) .inconsistentElevationGroup
    require (key ≠ g.debtReserve) .elevationGroupDebtReserveAsCollateral
    let newAmount ← Word.add (Word.saturatingSub (depositReserve.debtInGroup i)
      deposit.borrowedAmountAgainstThisCollateralInElevationGroup) debtAmount
    pure (depositReserve.setDebtInGroup i newAmount, deposit.setDebtInGroup debtAmount)
  | none => pure (depositReserve, deposit)

def refreshDeposit (lendingMarket : LendingMarket) (slot : U64)
    (elevationGroup : Option ElevationGroup)
    (elevationGroupAndBorrowedAmount : Option (ElevationGroup × U64)) (index : ℕ)
    (s : DepositsPass) (deposit : ObligationCollateral) (key : Pubkey) :
    Result (DepositsPass × ObligationCollateral) := do
  let depositReserve ← s.reserves.loadRemaining key
  let borrowingDisabled := s.borrowingDisabled ∨ (elevationGroup.isNone ∧
    0 < depositReserve.config.disableUsageAsCollOutsideEmode)
  let status ← depositReserve.config.getStatus
  let numOfObsoleteReserves ←
    if status = .obsolete then Word.add s.numOfObsoleteReserves 1
    else pure s.numOfObsoleteReserves
  checkObligationCollateralDepositReserve deposit depositReserve key slot
  let collateralsCount :=
    if 0 < deposit.depositedAmount then s.collateralsCount + 1 else s.collateralsCount
  let (depositReserve, deposit) ←
    trackRefreshedDeposit elevationGroupAndBorrowedAmount key depositReserve deposit
  let marketValueF ← calculateObligationCollateralMarketValue depositReserve deposit
  let (collLtvPct, collLiquidationThresholdPct) :=
    getMaxLtvAndLiquidationThreshold depositReserve elevationGroup
  let lowestDepositLiquidationLtvThresholdPct :=
    if Fraction.fromNum lendingMarket.minValueSkipLiquidationLtvChecks ≤ marketValueF ∧
        0 < collLiquidationThresholdPct then
      min s.lowestDepositLiquidationLtvThresholdPct collLiquidationThresholdPct
    else s.lowestDepositLiquidationLtvThresholdPct
  let depositedValue ← s.depositedValue.add marketValueF
  let allowed ← marketValueF.mul (Fraction.fromPercent collLtvPct.widen)
  let allowedBorrowValue ← s.allowedBorrowValue.add allowed
  let unhealthy ← marketValueF.mul (Fraction.fromPercent collLiquidationThresholdPct.widen)
  let unhealthyBorrowValue ← s.unhealthyBorrowValue.add unhealthy
  let rate ← depositReserve.collateralExchangeRate
  let amount ← rate.fractionCollateralToLiquidity (Fraction.fromNum deposit.depositedAmount)
  amount.toDisplay
  marketValueF.toDisplay
  pure ({
      reserves := s.reserves.store key depositReserve
      depositsAssetTiers := s.depositsAssetTiers.set index depositReserve.config.assetTier
      lowestDepositLiquidationLtvThresholdPct
      lowestDepositMaxLtvPct := min s.lowestDepositMaxLtvPct collLtvPct
      depositedValue, allowedBorrowValue, unhealthyBorrowValue, numOfObsoleteReserves
      pricesState := s.pricesState.intersection depositReserve.lastUpdate.priceStatus
      borrowingDisabled, collateralsCount },
    { deposit with marketValueSf := marketValueF })

def refreshObligationDeposits (obligation : Obligation) (lendingMarket : LendingMarket)
    (slot : U64) (maxReservesAsCollateralCheck : MaxReservesAsCollateralCheck)
    (elevationGroup : Option ElevationGroup) (reserves : Reserves) (reservesIter : List Pubkey)
    (borrowedAmountInElevationGroup : Option U64) :
    Result (Obligation × Reserves × RefreshObligationDepositsResult) := do
  let elevationGroupAndBorrowedAmount : Option (ElevationGroup × U64) ←
    match elevationGroup, borrowedAmountInElevationGroup with
    | some g, some borrowedAmount => pure (some (g, borrowedAmount))
    | none, none => pure none
    | _, _ => abort
  let (s, deposits) ← forOccupied ObligationCollateral.occupied
    (refreshDeposit lendingMarket slot elevationGroup elevationGroupAndBorrowedAmount) 0
    { reserves
      depositsAssetTiers := obligation.depositsAssetTiers
      lowestDepositLiquidationLtvThresholdPct := Word.max 8
      lowestDepositMaxLtvPct := Word.max 8
      depositedValue := Fraction.zero
      allowedBorrowValue := Fraction.zero
      unhealthyBorrowValue := Fraction.zero
      numOfObsoleteReserves := 0
      pricesState := PriceStatusFlags.allChecks
      borrowingDisabled := false
      collateralsCount := 0 }
    obligation.deposits reservesIter
  match elevationGroup with
  | some g =>
    require (¬ (maxReservesAsCollateralCheck = .perform ∧
        (g.maxReservesAsCollateral : ℕ) < s.collateralsCount))
      .obligationCollateralExceedsElevationGroupLimit
  | none => pure ()
  pure ({ obligation with deposits, depositsAssetTiers := s.depositsAssetTiers }, s.reserves,
    { lowestDepositLiquidationLtvThresholdPct := s.lowestDepositLiquidationLtvThresholdPct
      lowestDepositMaxLtvPct := s.lowestDepositMaxLtvPct
      numOfObsoleteReserves := s.numOfObsoleteReserves
      depositedValueF := s.depositedValue
      allowedBorrowValueF := s.allowedBorrowValue
      unhealthyBorrowValueF := s.unhealthyBorrowValue
      pricesState := s.pricesState
      borrowingDisabled := s.borrowingDisabled })

def boolToU8 (b : Bool) : U8 := if b then 1 else 0

def refreshObligation (obligation : Obligation) (lendingMarket : LendingMarket) (slot : U64)
    (maxReservesAsCollateralCheck : MaxReservesAsCollateralCheck) (reserves : Reserves)
    (depositReservesIter borrowReservesIter : List Pubkey)
    (referrerTokenStates : ReferrerTokenStates)
    (referrerTokenStatesIter : List ReferrerTokenStateKey) :
    Result (Obligation × Reserves × ReferrerTokenStates) := do
  let elevationGroup ← getElevationGroup obligation.elevationGroup lendingMarket
  let (obligation, reserves, referrerTokenStates, borrowsResult) ← refreshObligationBorrows
    obligation lendingMarket slot elevationGroup reserves borrowReservesIter referrerTokenStates
    referrerTokenStatesIter
  let (obligation, reserves, depositsResult) ← refreshObligationDeposits obligation lendingMarket
    slot maxReservesAsCollateralCheck elevationGroup reserves depositReservesIter
    borrowsResult.borrowedAmountInElevationGroup
  pure ({ obligation with
      borrowedAssetsMarketValueSf := borrowsResult.borrowedAssetsMarketValueF
      depositedValueSf := depositsResult.depositedValueF
      borrowFactorAdjustedDebtValueSf := borrowsResult.borrowFactorAdjustedDebtValueF
      allowedBorrowValueSf := min depositsResult.allowedBorrowValueF
        (Fraction.fromNum lendingMarket.globalAllowedBorrowValue)
      unhealthyBorrowValueSf := depositsResult.unhealthyBorrowValueF
      lowestReserveDepositLiquidationLtv :=
        depositsResult.lowestDepositLiquidationLtvThresholdPct.widen
      lowestReserveDepositMaxLtvPct := depositsResult.lowestDepositMaxLtvPct
      numOfObsoleteReserves := depositsResult.numOfObsoleteReserves
      borrowingDisabled := boolToU8 depositsResult.borrowingDisabled
      highestBorrowFactorPct := borrowsResult.highestBorrowFactorPct
      lastUpdate := obligation.lastUpdate.updateSlot slot
        (some (depositsResult.pricesState.intersection borrowsResult.pricesState)) },
    reserves, referrerTokenStates)

end Klend
