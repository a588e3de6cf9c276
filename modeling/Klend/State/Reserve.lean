import Klend.State.LastUpdate
import Klend.State.ReserveConfig

/-! # Reserves

A reserve's liquidity and collateral accounts, its exchange rate, its interest
and fee accounting, and the amounts computed for a borrow or a repayment.
-/

namespace Klend

/-- Compounded interest over `elapsedSlots`: exact products up to four slots, the first four terms
of the binomial expansion beyond. -/
def approximateCompoundedInterest (rate : Fraction) (elapsedSlots : U64) : Result Fraction := do
  let base ← rate.divInt slotsPerYear
  if elapsedSlots = 0 then
    pure Fraction.one
  else if elapsedSlots = 1 then
    Fraction.one.add base
  else if elapsedSlots = 2 then do
    let onePlus ← Fraction.one.add base
    onePlus.mul onePlus
  else if elapsedSlots = 3 then do
    let onePlus ← Fraction.one.add base
    let powTwo ← onePlus.mul onePlus
    powTwo.mul onePlus
  else if elapsedSlots = 4 then do
    let onePlus ← Fraction.one.add base
    let powTwo ← onePlus.mul onePlus
    powTwo.mul powTwo
  else do
    let exp : ℕ := elapsedSlots
    let basePowerTwo ← base.mul base
    let basePowerThree ← basePowerTwo.mul base
    let firstTerm ← base.mulInt exp
    let second₁ ← basePowerTwo.mulInt exp
    let second₂ ← second₁.mulInt (exp - 1)
    let secondTerm ← second₂.divInt 2
    let third₁ ← basePowerThree.mulInt exp
    let third₂ ← third₁.mulInt (exp - 1)
    let third₃ ← third₂.mulInt (exp - 2)
    let thirdTerm ← third₃.divInt 6
    let sum₁ ← Fraction.one.add firstTerm
    let sum₂ ← sum₁.add secondTerm
    sum₂.add thirdTerm

structure ReferrerTokenState where
  referrer : Pubkey
  mint : Pubkey
  amountUnclaimedSf : Fraction
  amountCumulativeSf : Fraction
deriving DecidableEq, Repr, Inhabited

/-- The rate between collateral tokens and liquidity. -/
structure CollateralExchangeRate where
  collateralSupply : Word 128
  liquidity : Fraction
deriving DecidableEq, Repr

namespace CollateralExchangeRate

def one : CollateralExchangeRate := { collateralSupply := 1, liquidity := Fraction.one }

def fractionCollateralToLiquidity (r : CollateralExchangeRate) (collateralAmount : Fraction) :
    Result Fraction := do
  let scaled ← (BigFraction.ofFraction collateralAmount).mul (BigFraction.ofFraction r.liquidity)
  let amount ← scaled.divInt r.collateralSupply
  amount.toFraction

def collateralToLiquidity (r : CollateralExchangeRate) (collateralAmount : U64) : Result U64 := do
  let amount ← r.fractionCollateralToLiquidity (Fraction.fromNum collateralAmount)
  amount.toFloor

def collateralToLiquidityCeil (r : CollateralExchangeRate) (collateralAmount : U64) :
    Result U64 := do
  let product ← BigFraction.ofBits (collateralAmount * r.liquidity.bits)
  let supplyMinusOne ← Word.sub r.collateralSupply 1
  let sum ← BigFraction.ofBits (product.bits + supplyMinusOne)
  let quotient ← sum.divInt r.collateralSupply
  let liquidityCeilF ← quotient.toFraction
  liquidityCeilF.toCeil

def liquidityToCollateralFraction (r : CollateralExchangeRate) (liquidityAmount : U64) :
    Result Fraction := do
  let product ← Word.mul r.collateralSupply liquidityAmount.widen
  let quotient ← (BigFraction.fromNum product).divFraction r.liquidity
  quotient.toFraction

def liquidityToCollateral (r : CollateralExchangeRate) (liquidityAmount : U64) : Result U64 := do
  let collateralF ← r.liquidityToCollateralFraction liquidityAmount
  collateralF.toFloor

end CollateralExchangeRate

structure ReserveLiquidity where
  mintPubkey : Pubkey
  availableAmount : U64
  borrowedAmountSf : Fraction
  marketPriceSf : Fraction
  marketPriceLastUpdatedTs : U64
  mintDecimals : U64
  depositLimitCrossedTimestamp : U64
  borrowLimitCrossedTimestamp : U64
  cumulativeBorrowRateBsf : BigFraction
  accumulatedProtocolFeesSf : Fraction
  accumulatedReferrerFeesSf : Fraction
  pendingReferrerFeesSf : Fraction
  absoluteReferralRateSf : Fraction
deriving DecidableEq, Repr, Inhabited

namespace ReserveLiquidity

/-- A reserve opens with the market's initial deposit and a cumulative rate of one. -/
def new (mintPubkey : Pubkey) (mintDecimals : U8) (marketPriceSf : Fraction)
    (initialAmountDepositedInReserve : U64) : ReserveLiquidity :=
  { (default : ReserveLiquidity) with
    mintPubkey, marketPriceSf
    mintDecimals := mintDecimals.widen
    availableAmount := initialAmountDepositedInReserve
    cumulativeBorrowRateBsf := BigFraction.ofFraction Fraction.one }

def totalSupply (l : ReserveLiquidity) : Result Fraction := do
  let assets ← (Fraction.fromNum l.availableAmount).add l.borrowedAmountSf
  let lessProtocol ← assets.sub l.accumulatedProtocolFeesSf
  let lessReferrer ← lessProtocol.sub l.accumulatedReferrerFeesSf
  lessReferrer.sub l.pendingReferrerFeesSf

def totalBorrow (l : ReserveLiquidity) : Fraction := l.borrowedAmountSf

def deposit (l : ReserveLiquidity) (liquidityAmount : U64) : Result ReserveLiquidity := do
  let availableAmount ← okOr (Word.checkedAdd l.availableAmount liquidityAmount) .mathOverflow
  pure { l with availableAmount }

def withdraw (l : ReserveLiquidity) (liquidityAmount : U64) : Result ReserveLiquidity := do
  require (liquidityAmount ≤ l.availableAmount) .insufficientLiquidity
  let availableAmount ← okOr (Word.checkedSub l.availableAmount liquidityAmount) .mathOverflow
  pure { l with availableAmount }

def borrow (l : ReserveLiquidity) (borrowF : Fraction) : Result ReserveLiquidity := do
  let borrowAmount ← borrowF.toFloor
  require (borrowAmount ≤ l.availableAmount) .insufficientLiquidity
  let availableAmount ← Word.sub l.availableAmount borrowAmount
  let borrowedAmountSf ← l.borrowedAmountSf.add borrowF
  pure { l with availableAmount, borrowedAmountSf }

def repay (l : ReserveLiquidity) (repayAmount : U64) (settleAmount : Fraction) :
    Result ReserveLiquidity := do
  let availableAmount ← okOr (Word.checkedAdd l.availableAmount repayAmount) .mathOverflow
  let safeSettleAmount := min settleAmount l.borrowedAmountSf
  let borrowedAmountSf ← okOr (l.borrowedAmountSf.checkedSub safeSettleAmount) .mathOverflow
  pure { l with availableAmount, borrowedAmountSf }

def redeemFees (l : ReserveLiquidity) (withdrawAmount : U64) : Result ReserveLiquidity := do
  let availableAmount ← okOr (Word.checkedSub l.availableAmount withdrawAmount) .mathOverflow
  let accumulatedProtocolFeesSf ←
    okOr (l.accumulatedProtocolFeesSf.checkedSub (Fraction.fromNum withdrawAmount)) .mathOverflow
  pure { l with availableAmount, accumulatedProtocolFeesSf }

def utilizationRate (l : ReserveLiquidity) : Result Fraction := do
  let totalSupply ← l.totalSupply
  if totalSupply = Fraction.zero then pure Fraction.zero
  else l.borrowedAmountSf.div totalSupply

def compoundInterest (l : ReserveLiquidity) (currentBorrowRate hostFixedInterestRate : Fraction)
    (slotsElapsed : U64) (protocolTakeRate referralRate : Fraction) :
    Result ReserveLiquidity := do
  let rate ← currentBorrowRate.add hostFixedInterestRate
  let compoundedInterestRate ← approximateCompoundedInterest rate slotsElapsed
  let compoundedFixedRate ← approximateCompoundedInterest hostFixedInterestRate slotsElapsed
  let newCumulativeBorrowRate ←
    l.cumulativeBorrowRateBsf.mul (BigFraction.ofFraction compoundedInterestRate)
  let newDebtF ← l.borrowedAmountSf.mul compoundedInterestRate
  let fixedDebt ← l.borrowedAmountSf.mul compoundedFixedRate
  let fixedHostFee ← fixedDebt.sub l.borrowedAmountSf
  let netNewDebt ← newDebtF.sub l.borrowedAmountSf
  let netNewVariableDebtF ← netNewDebt.sub fixedHostFee
  let variableProtocolFeeF ← netNewVariableDebtF.mul protocolTakeRate
  let absoluteReferralRate ← protocolTakeRate.mul referralRate
  let maxReferrersFeesF ← netNewVariableDebtF.mul absoluteReferralRate
  let fees₁ ← l.accumulatedProtocolFeesSf.add fixedHostFee
  let fees₂ ← fees₁.add variableProtocolFeeF
  let newAccProtocolFeesF ← fees₂.sub maxReferrersFeesF
  let pendingReferrerFeesSf ← l.pendingReferrerFeesSf.add maxReferrersFeesF
  pure { l with
    cumulativeBorrowRateBsf := newCumulativeBorrowRate
    pendingReferrerFeesSf
    accumulatedProtocolFeesSf := newAccProtocolFeesF
    borrowedAmountSf := newDebtF
    absoluteReferralRateSf := absoluteReferralRate }

def forgiveDebt (l : ReserveLiquidity) (liquidityAmount : Fraction) :
    Result ReserveLiquidity := do
  let borrowedAmountSf ← l.borrowedAmountSf.sub liquidityAmount
  pure { l with borrowedAmountSf }

def withdrawReferrerFees (l : ReserveLiquidity) (withdrawAmount : U64)
    (referrerTokenState : ReferrerTokenState) :
    Result (ReserveLiquidity × ReferrerTokenState) := do
  let availableAmount ← okOr (Word.checkedSub l.availableAmount withdrawAmount) .mathOverflow
  let withdrawAmountF := Fraction.fromNum withdrawAmount
  let accumulatedReferrerFeesSf ←
    okOr (l.accumulatedReferrerFeesSf.checkedSub withdrawAmountF) .mathOverflow
  let amountUnclaimedSf ←
    okOr (referrerTokenState.amountUnclaimedSf.checkedSub withdrawAmountF) .mathOverflow
  pure ({ l with availableAmount, accumulatedReferrerFeesSf },
    { referrerTokenState with amountUnclaimedSf })

end ReserveLiquidity

structure ReserveCollateral where
  mintTotalSupply : U64
deriving DecidableEq, Repr, Inhabited

namespace ReserveCollateral

def mint (c : ReserveCollateral) (collateralAmount : U64) : Result ReserveCollateral := do
  let mintTotalSupply ← okOr (Word.checkedAdd c.mintTotalSupply collateralAmount) .mathOverflow
  pure { mintTotalSupply }

def burn (c : ReserveCollateral) (collateralAmount : U64) : Result ReserveCollateral := do
  let mintTotalSupply ← okOr (Word.checkedSub c.mintTotalSupply collateralAmount) .mathOverflow
  pure { mintTotalSupply }

def exchangeRate (c : ReserveCollateral) (totalLiquidity : Fraction) : CollateralExchangeRate :=
  if c.mintTotalSupply = 0 ∨ totalLiquidity = Fraction.zero then
    CollateralExchangeRate.one
  else { collateralSupply := c.mintTotalSupply.widen, liquidity := totalLiquidity }

end ReserveCollateral

structure Reserve where
  version : U64
  lastUpdate : LastUpdate
  lendingMarket : Pubkey
  liquidity : ReserveLiquidity
  collateral : ReserveCollateral
  farmCollateral : Pubkey
  farmDebt : Pubkey
  config : ReserveConfig
  borrowedAmountOutsideElevationGroup : U64
  borrowedAmountsAgainstThisReserveInElevationGroups : Fin 32 → U64
deriving DecidableEq, Inhabited

structure DepositLiquidityResult where
  liquidityAmount : U64
  collateralAmount : U64
deriving DecidableEq, Repr

structure CalculateBorrowResult where
  borrowAmountF : Fraction
  receiveAmount : U64
  borrowFee : U64
  referrerFee : U64
deriving DecidableEq, Repr

structure CalculateRepayResult where
  settleAmountF : Fraction
  repayAmount : U64
deriving DecidableEq, Repr

namespace Reserve

/-- `Reserve::init` as the reserve initialisation handler calls it: the initial deposit is booked
as collateral supply too, and the configuration is all zero but hidden. -/
def init (currentSlot : U64) (lendingMarket mintPubkey : Pubkey) (mintDecimals : U8)
    (minInitialDepositAmount : U64) : Reserve :=
  { (default : Reserve) with
    version := programVersion
    lastUpdate := .new currentSlot
    lendingMarket
    liquidity := .new mintPubkey mintDecimals Fraction.zero minInitialDepositAmount
    collateral := { mintTotalSupply := minInitialDepositAmount }
    config := { (default : ReserveConfig) with
      status := 2
      borrowRateCurve := .newFlat 0
      tokenInfo := { (default : TokenInfo) with
        scopeConfiguration :=
          { priceFeed := nullPubkey
            priceChain := List.replicate 4 (Word.max 16)
            twapChain := List.replicate 4 (Word.max 16) } }
      elevationGroups := List.replicate 20 0 } }

def currentBorrowRate (r : Reserve) : Result Fraction := do
  let utilizationRate ← r.liquidity.utilizationRate
  r.config.borrowRateCurve.getBorrowRate utilizationRate

def borrowFactorF (r : Reserve) (isInElevationGroup : Bool) : Fraction :=
  if isInElevationGroup then Fraction.one else r.config.getBorrowFactor

def collateralExchangeRate (r : Reserve) : Result CollateralExchangeRate := do
  let totalLiquidity ← r.liquidity.totalSupply
  pure (r.collateral.exchangeRate totalLiquidity)

def computeDepositableAmountAndMintedCollateral (r : Reserve) (liquidityAmount : U64) :
    Result DepositLiquidityResult := do
  let rate ← r.collateralExchangeRate
  let collateralAmount ← rate.liquidityToCollateral liquidityAmount
  let liquidityAmountToDeposit ← rate.collateralToLiquidityCeil collateralAmount
  require (liquidityAmountToDeposit ≤ liquidityAmount) .mathOverflow
  pure { liquidityAmount := liquidityAmountToDeposit, collateralAmount }

def depositLiquidity (r : Reserve) (liquidityAmount collateralAmount : U64) : Result Reserve := do
  let liquidity ← r.liquidity.deposit liquidityAmount
  let collateral ← r.collateral.mint collateralAmount
  pure { r with liquidity, collateral }

def redeemCollateral (r : Reserve) (collateralAmount : U64) : Result (Reserve × U64) := do
  let rate ← r.collateralExchangeRate
  let liquidityAmount ← rate.collateralToLiquidity collateralAmount
  let collateral ← r.collateral.burn collateralAmount
  let liquidity ← r.liquidity.withdraw liquidityAmount
  pure ({ r with liquidity, collateral }, liquidityAmount)

def accrueInterest (r : Reserve) (currentSlot : U64) (referralFeeBps : U16) : Result Reserve := do
  let slotsElapsed ← r.lastUpdate.slotsElapsed currentSlot
  if 0 < slotsElapsed then do
    let currentBorrowRate ← r.currentBorrowRate
    let liquidity ← r.liquidity.compoundInterest currentBorrowRate
      (Fraction.fromBps r.config.hostFixedInterestRateBps.widen) slotsElapsed
      (Fraction.fromPercent r.config.protocolTakeRatePct.widen)
      (Fraction.fromBps referralFeeBps.widen)
    pure { r with liquidity }
  else pure r

def depositLimitCrossed (r : Reserve) : Result Bool := do
  let totalSupply ← r.liquidity.totalSupply
  pure (decide (Fraction.fromNum r.config.depositLimit < totalSupply))

def borrowLimitCrossed (r : Reserve) : Bool :=
  decide (Fraction.fromNum r.config.borrowLimit < r.liquidity.totalBorrow)

/-- A running clock keeps its start; a clock starts when its limit is crossed and is cleared
otherwise. -/
def updateCrossedTimestamp (crossed : Bool) (clock timestamp : U64) : U64 :=
  if crossed then (if clock = 0 then timestamp else clock) else 0

def updateDepositLimitCrossedTimestamp (r : Reserve) (timestamp : U64) : Result Reserve := do
  let crossed ← r.depositLimitCrossed
  pure { r with liquidity := { r.liquidity with
    depositLimitCrossedTimestamp :=
      updateCrossedTimestamp crossed r.liquidity.depositLimitCrossedTimestamp timestamp } }

def updateBorrowLimitCrossedTimestamp (r : Reserve) (timestamp : U64) : Reserve :=
  { r with liquidity := { r.liquidity with
    borrowLimitCrossedTimestamp :=
      updateCrossedTimestamp r.borrowLimitCrossed r.liquidity.borrowLimitCrossedTimestamp
        timestamp } }

def calculateBorrow (r : Reserve) (amountToBorrow : U64)
    (maxBorrowFactorAdjustedDebtValue remainingReserveBorrow : Fraction) (referralFeeBps : U16)
    (isInElevationGroup hasReferrer : Bool) : Result CalculateBorrowResult := do
  let decimals ← okOr (Word.checkedFit 64 (10 ^ ((r.liquidity.mintDecimals : ℕ) % 2 ^ 32)))
    .mathOverflow
  let marketPriceF := r.liquidity.marketPriceSf
  if amountToBorrow = Word.max 64 then do
    let scaled ← maxBorrowFactorAdjustedDebtValue.mulInt decimals
    let atPrice ← scaled.div marketPriceF
    let atFactor ← atPrice.div (r.borrowFactorF isInElevationGroup)
    let borrowAmountF := min (min atFactor remainingReserveBorrow)
      (Fraction.fromNum r.liquidity.availableAmount)
    let (borrowFee, referrerFee) ← r.config.fees.calculateBorrowFees borrowAmountF .inclusive
      referralFeeBps hasReferrer
    let borrowAmount ← borrowAmountF.toFloor
    let lessFee ← Word.sub borrowAmount borrowFee
    let receiveAmount ← Word.sub lessFee referrerFee
    pure { borrowAmountF, receiveAmount, borrowFee, referrerFee }
  else do
    let receiveAmount := amountToBorrow
    let (borrowFee, referrerFee) ← r.config.fees.calculateBorrowFees
      (Fraction.fromNum receiveAmount) .exclusive referralFeeBps hasReferrer
    let fees ← Word.add borrowFee referrerFee
    let borrowAmountF ← (Fraction.fromNum receiveAmount).add (Fraction.fromNum fees)
    let value ← borrowAmountF.mul marketPriceF
    let perUnit ← value.divInt decimals
    let borrowFactorAdjustedDebtValue ← perUnit.mul (r.borrowFactorF isInElevationGroup)
    require (borrowFactorAdjustedDebtValue ≤ maxBorrowFactorAdjustedDebtValue) .borrowTooLarge
    pure { borrowAmountF, receiveAmount, borrowFee, referrerFee }

def calculateRepay (amountToRepay : U64) (borrowedAmount : Fraction) :
    Result CalculateRepayResult := do
  let settleAmountF :=
    if amountToRepay = Word.max 64 then borrowedAmount
    else min (Fraction.fromNum amountToRepay) borrowedAmount
  let repayAmount ← settleAmountF.toCeil
  pure { settleAmountF, repayAmount }

def calculateRedeemFees (r : Reserve) : Result U64 := do
  let fees ← r.liquidity.accumulatedProtocolFeesSf.toFloor
  pure (min r.liquidity.availableAmount fees)

def getWithdrawReferrerFees (r : Reserve) (referrerTokenState : ReferrerTokenState) :
    Result U64 := do
  let availableUnclaimed ←
    (min referrerTokenState.amountUnclaimedSf r.liquidity.accumulatedReferrerFeesSf).toFloor
  pure (min availableUnclaimed r.liquidity.availableAmount)

end Reserve

end Klend
