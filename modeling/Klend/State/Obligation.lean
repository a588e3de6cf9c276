import Klend.State.LastUpdate
import Klend.State.LendingMarket

/-! # Obligations

A borrower's position: its collateral slots, its debt slots, and the values
computed at its last refresh. A slot is empty when it names the default reserve.
-/

namespace Klend

structure ObligationCollateral where
  depositReserve : Pubkey
  depositedAmount : U64
  marketValueSf : Fraction
  borrowedAmountAgainstThisCollateralInElevationGroup : U64
deriving DecidableEq, Repr, Inhabited

namespace ObligationCollateral

def new (depositReserve : Pubkey) : ObligationCollateral :=
  { (default : ObligationCollateral) with depositReserve }

def deposit (c : ObligationCollateral) (collateralAmount : U64) :
    Result ObligationCollateral := do
  let depositedAmount ← okOr (Word.checkedAdd c.depositedAmount collateralAmount) .mathOverflow
  pure { c with depositedAmount }

def withdraw (c : ObligationCollateral) (collateralAmount : U64) :
    Result ObligationCollateral := do
  let depositedAmount ← okOr (Word.checkedSub c.depositedAmount collateralAmount) .mathOverflow
  pure { c with depositedAmount }

end ObligationCollateral

structure ObligationLiquidity where
  borrowReserve : Pubkey
  cumulativeBorrowRateBsf : BigFraction
  borrowedAmountSf : Fraction
  marketValueSf : Fraction
  borrowFactorAdjustedMarketValueSf : Fraction
  borrowedAmountOutsideElevationGroups : U64
deriving DecidableEq, Repr, Inhabited

namespace ObligationLiquidity

def new (borrowReserve : Pubkey) (cumulativeBorrowRateBf : BigFraction) : ObligationLiquidity :=
  { (default : ObligationLiquidity) with
    borrowReserve, cumulativeBorrowRateBsf := cumulativeBorrowRateBf }

def repay (l : ObligationLiquidity) (settleAmount : Fraction) : Result ObligationLiquidity := do
  let borrowedAmountSf ← l.borrowedAmountSf.sub settleAmount
  pure { l with borrowedAmountSf }

def borrow (l : ObligationLiquidity) (borrowAmount : Fraction) : Result ObligationLiquidity := do
  let borrowedAmountSf ← l.borrowedAmountSf.add borrowAmount
  pure { l with borrowedAmountSf }

/-- Debt grows by the quotient of the cumulative rates; a falling rate is refused. -/
def accrueInterest (l : ObligationLiquidity) (newCumulativeBorrowRate : BigFraction) :
    Result ObligationLiquidity :=
  if newCumulativeBorrowRate.bits < l.cumulativeBorrowRateBsf.bits then
    err .negativeInterestRate
  else if newCumulativeBorrowRate.bits = l.cumulativeBorrowRateBsf.bits then
    pure l
  else do
    let product ← BigFraction.ofBits (l.borrowedAmountSf.bits * newCumulativeBorrowRate.bits)
    let quotient ← product.divInt l.cumulativeBorrowRateBsf.bits
    if h : quotient.bits < 2 ^ 128 then
      pure { l with
        borrowedAmountSf := ⟨quotient.bits, h⟩
        cumulativeBorrowRateBsf := newCumulativeBorrowRate }
    else err .mathOverflow

end ObligationLiquidity

inductive WithdrawResult where
  | full
  | partial_
deriving DecidableEq, Repr

inductive LtvMaxWithdrawalCheck where
  | maxLtv
  | liquidationThreshold
deriving DecidableEq, Repr

inductive MaxReservesAsCollateralCheck where
  | perform
  | skip
deriving DecidableEq, Repr

structure Obligation where
  tag : U64
  lastUpdate : LastUpdate
  lendingMarket : Pubkey
  owner : Pubkey
  deposits : List ObligationCollateral
  lowestReserveDepositLiquidationLtv : U64
  depositedValueSf : Fraction
  borrows : List ObligationLiquidity
  borrowFactorAdjustedDebtValueSf : Fraction
  borrowedAssetsMarketValueSf : Fraction
  allowedBorrowValueSf : Fraction
  unhealthyBorrowValueSf : Fraction
  depositsAssetTiers : List U8
  borrowsAssetTiers : List U8
  elevationGroup : U8
  numOfObsoleteReserves : U8
  hasDebt : U8
  referrer : Pubkey
  borrowingDisabled : U8
  autodeleverageTargetLtvPct : U8
  lowestReserveDepositMaxLtvPct : U8
  highestBorrowFactorPct : U64
  autodeleverageMarginCallStartedTimestamp : U64
deriving DecidableEq, Repr, Inhabited

namespace Obligation

def init (tag currentSlot : U64) (lendingMarket owner referrer : Pubkey) : Obligation :=
  { (default : Obligation) with
    tag, lendingMarket, owner, referrer
    lastUpdate := .new currentSlot
    deposits := List.replicate 8 default
    borrows := List.replicate 5 default
    depositsAssetTiers := List.replicate 8 (Word.max 8)
    borrowsAssetTiers := List.replicate 5 (Word.max 8) }

def loanToValue (o : Obligation) : Result Fraction :=
  o.borrowFactorAdjustedDebtValueSf.div o.depositedValueSf

def noBfLoanToValue (o : Obligation) : Result Fraction :=
  o.borrowedAssetsMarketValueSf.div o.depositedValueSf

def unhealthyLoanToValue (o : Obligation) : Result Fraction :=
  o.unhealthyBorrowValueSf.div o.depositedValueSf

def repay (o : Obligation) (settleAmount : Fraction) (liquidityIndex : ℕ) :
    Result Obligation := do
  let liquidity ← unwrap o.borrows[liquidityIndex]?
  if settleAmount = liquidity.borrowedAmountSf then
    pure { o with
      borrows := o.borrows.set liquidityIndex default
      borrowsAssetTiers := o.borrowsAssetTiers.set liquidityIndex (Word.max 8) }
  else do
    let liquidity ← liquidity.repay settleAmount
    pure { o with borrows := o.borrows.set liquidityIndex liquidity }

def withdraw (o : Obligation) (withdrawAmount : U64) (collateralIndex : ℕ) :
    Result (Obligation × WithdrawResult) := do
  let collateral ← unwrap o.deposits[collateralIndex]?
  if withdrawAmount = collateral.depositedAmount then
    pure ({ o with
      deposits := o.deposits.set collateralIndex default
      depositsAssetTiers := o.depositsAssetTiers.set collateralIndex (Word.max 8) }, .full)
  else do
    let collateral ← collateral.withdraw withdrawAmount
    pure ({ o with deposits := o.deposits.set collateralIndex collateral }, .partial_)

def maxWithdrawValue (o : Obligation) (obligationCollateral : ObligationCollateral)
    (reserveMaxLtvPct reserveLiqThresholdPct : U8)
    (ltvMaxWithdrawalCheck : LtvMaxWithdrawalCheck) : Result Fraction :=
  let (highestAllowedBorrowValue, withdrawCollateralLtvPct) :=
    if ltvMaxWithdrawalCheck = .liquidationThreshold then
      (o.unhealthyBorrowValueSf.saturatingSub ⟨1, Fraction.one_lt_bound⟩, reserveLiqThresholdPct)
    else (o.allowedBorrowValueSf, reserveMaxLtvPct)
  if highestAllowedBorrowValue ≤ o.borrowFactorAdjustedDebtValueSf then
    pure Fraction.zero
  else if withdrawCollateralLtvPct = 0 then
    pure obligationCollateral.marketValueSf
  else do
    let scaled ←
      (highestAllowedBorrowValue.saturatingSub o.borrowFactorAdjustedDebtValueSf).mulInt 100
    scaled.divInt withdrawCollateralLtvPct

def remainingBorrowValue (o : Obligation) : Fraction :=
  o.allowedBorrowValueSf.saturatingSub o.borrowFactorAdjustedDebtValueSf

def depositsEmpty (o : Obligation) : Bool := o.deposits.all (·.depositReserve = 0)

def borrowsEmpty (o : Obligation) : Bool := o.borrows.all (·.borrowReserve = 0)

def depositsCount (o : Obligation) : ℕ := o.deposits.countP (·.depositReserve ≠ 0)

def borrowsCount (o : Obligation) : ℕ := o.borrows.countP (·.borrowReserve ≠ 0)

/-- The slot of a deposit reserve. A new slot is passed to `initFunction`, which also threads the
state its closure borrows. -/
def findOrAddCollateralToDeposits {α : Type} (o : Obligation) (depositReserve : Pubkey)
    (depositReserveAssetTier : AssetTier)
    (initFunction : ObligationCollateral → Result (ObligationCollateral × α)) (unchanged : α) :
    Result (Obligation × ℕ × α) :=
  match o.deposits.findIdx? (·.depositReserve = depositReserve) with
  | some i => pure (o, i, unchanged)
  | none =>
    match o.deposits.findIdx? (·.depositReserve = 0) with
    | some i => do
      let (collateral, a) ← initFunction (.new depositReserve)
      pure ({ o with
        deposits := o.deposits.set i collateral
        depositsAssetTiers := o.depositsAssetTiers.set i depositReserveAssetTier.toU8 }, i, a)
    | none => err .obligationReserveLimit

def positionOfCollateralInDeposits (o : Obligation) (depositReserve : Pubkey) : Result ℕ := do
  require (o.depositsEmpty = false) .obligationDepositsEmpty
  okOr (o.deposits.findIdx? (·.depositReserve = depositReserve)) .invalidObligationCollateral

def findLiquidityIndexInBorrows (o : Obligation) (borrowReserve : Pubkey) : Option ℕ :=
  o.borrows.findIdx? (·.borrowReserve = borrowReserve)

/-- The slot a borrow of the reserve is recorded in, with its index. -/
def findLiquidityInBorrows (o : Obligation) (borrowReserve : Pubkey) :
    Result (ObligationLiquidity × ℕ) := do
  require (o.borrowsEmpty = false) .obligationBorrowsEmpty
  let i ← okOr (o.findLiquidityIndexInBorrows borrowReserve) .invalidObligationLiquidity
  let liquidity ← unwrap o.borrows[i]?
  pure (liquidity, i)

def findOrAddLiquidityToBorrows (o : Obligation) (borrowReserve : Pubkey)
    (cumulativeBorrowRate : BigFraction) (borrowReserveAssetTier : AssetTier) :
    Result (Obligation × ℕ) :=
  match o.findLiquidityIndexInBorrows borrowReserve with
  | some i => pure (o, i)
  | none =>
    match o.borrows.findIdx? (·.borrowReserve = 0) with
    | some i => pure ({ o with
        borrows := o.borrows.set i (.new borrowReserve cumulativeBorrowRate)
        borrowsAssetTiers := o.borrowsAssetTiers.set i borrowReserveAssetTier.toU8 }, i)
    | none => err .obligationReserveLimit

/-- The tiers of the slots in use, read off the parallel array of tier codes. -/
def tiersInUse {σ : Type} (inUse : σ → Bool) (slots : List σ) (tiers : List U8) :
    Result (List AssetTier) :=
  ((slots.zip tiers).filter fun s ↦ inUse s.1).mapM fun s ↦ unwrap (AssetTier.tryFrom s.2)

def getDepositAssetTiers (o : Obligation) : Result (List AssetTier) :=
  tiersInUse (fun d ↦ d.depositReserve ≠ 0 ∧ 0 < d.depositedAmount) o.deposits
    o.depositsAssetTiers

def getBorrowsAssetTiers (o : Obligation) : Result (List AssetTier) :=
  tiersInUse (fun l ↦ l.borrowReserve ≠ 0 ∧ Fraction.zero < l.borrowedAmountSf) o.borrows
    o.borrowsAssetTiers

/-- The whole debt rounded up, unless it is spread over several reserves. -/
def getBorrowedAmountIfSingleToken (o : Obligation) : Result (Option U64) :=
  if 1 < o.borrowsCount then pure none
  else do
    let sum ← Fraction.ofBits (o.borrows.map (·.borrowedAmountSf.bits)).sum
    let amount ← sum.toCeil
    pure (some amount)

def hasReferrer (o : Obligation) : Bool := o.referrer ≠ 0

def updateHasDebt (o : Obligation) : Obligation :=
  { o with hasDebt := if o.borrowsEmpty then 0 else 1 }

def isMarkedForDeleveraging (o : Obligation) : Bool :=
  o.autodeleverageMarginCallStartedTimestamp ≠ 0

def checkNotMarkedForDeleveraging (o : Obligation) : Result Unit :=
  require (o.isMarkedForDeleveraging = false) .obligationCurrentlyMarkedForDeleveraging

def markStale (o : Obligation) : Obligation := { o with lastUpdate := o.lastUpdate.markStale }

end Obligation

end Klend
