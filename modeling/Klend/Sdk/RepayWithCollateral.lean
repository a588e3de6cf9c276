import Klend.Sdk.ObligationPositions

/-! # Repaying debt with collateral

The client plans a repayment that is paid for by swapping collateral: how much the debt grows
until then, what the flash loan behind it costs, how much collateral can be withdrawn after it.
Decimals are exact, and the roundings of JavaScript numbers are left out; `none` is an exception.
-/

namespace Klend.Sdk

inductive FeeCalculation where
  | inclusive
  | exclusive
deriving DecidableEq, Repr

structure Fees where
  protocolFees : ℚ
  referrerFees : ℚ
deriving DecidableEq, Repr

/-- `toDecimalPlaces` with `ROUND_CEIL`. -/
def ceilPlaces (places : ℕ) (x : ℚ) : ℚ := ⌈x * 10 ^ places⌉ / 10 ^ places

namespace KaminoReserve

variable (r : KaminoReserve)

def getFlashLoanFee : ℚ :=
  if r.state.config.fees.flashLoanFeeSf = Word.max 64 then 0
  else sfToDecimal r.state.config.fees.flashLoanFeeSf

def calculateFees (amountLamports borrowFeeRate : ℚ) (feeCalculation : FeeCalculation)
    (referralFeeBps : ℚ) (hasReferrer : Bool) : Option Fees :=
  let referralFeeRate := referralFeeBps / oneHundredPctInBps
  if 0 < borrowFeeRate ∧ 0 < amountLamports then
    let needToAssessReferralFee := decide (0 < referralFeeRate) && hasReferrer
    let minimumFee : ℚ := 1
    let borrowFeeAmount := match feeCalculation with
      | .exclusive => amountLamports * borrowFeeRate
      | .inclusive => amountLamports * (borrowFeeRate / (borrowFeeRate + 1))
    let borrowFee := max borrowFeeAmount minimumFee
    if amountLamports ≤ borrowFee then none
    else
      let referralFee : ℚ :=
        if needToAssessReferralFee then
          if referralFeeRate = 1 then borrowFee else ⌊borrowFee * referralFeeRate⌋
        else 0
      some { protocolFees := borrowFee - referralFee, referrerFees := referralFee }
  else some { protocolFees := 0, referrerFees := 0 }

def calculateFlashLoanFees (flashLoanAmountLamports referralFeeBps : ℚ) (hasReferrer : Bool) :
    Option Fees :=
  calculateFees flashLoanAmountLamports r.getFlashLoanFee .exclusive referralFeeBps hasReferrer

/-- `stats.decimals` -/
def decimals : ℕ := r.state.liquidity.mintDecimals

end KaminoReserve

def lamportsToDecimal (amount : ℚ) (decimals : ℕ) : ℚ := amount / 10 ^ decimals

def numberToLamportsDecimal (amount : ℚ) (decimals : ℕ) : ℚ := amount * 10 ^ decimals

/-- What `calcRepayAmountWithSlippage` returns. -/
structure RepayAmount where
  repayAmount : ℚ
  repayAmountLamports : ℚ
  flashRepayAmountLamports : ℚ

inductive MaxWithdrawLtvCheck where
  | maxLtv
  | liquidationThreshold
deriving DecidableEq, Repr

/-- What `calcMaxWithdrawCollateral` returns. -/
structure MaxWithdrawCollateral where
  repayAmountLamports : ℚ
  withdrawableCollLamports : Extended
  canWithdrawAllColl : Bool
  repayingAllDebt : Bool

/-- The parameters of `estimateDebtRepaymentWithColl`, with the reserve that its mint has. -/
structure EstimateProps where
  collAmount : ℚ
  priceDebtToColl : ℚ
  slippagePct : ℚ
  flashBorrowReserveFlashLoanFeePercentage : ℚ
  debtTokenMint : Pubkey
  currentSlot : ℕ

namespace KaminoObligation

variable (market : KaminoMarket) (obligation : KaminoObligation)

def estimateObligationInterestRate (reserve : KaminoReserve) (borrow : ObligationLiquidity)
    (currentSlot : ℕ) : Option ℚ := do
  let newCumulativeBorrowRate ←
    reserve.getEstimatedCumulativeBorrowRate currentSlot (market.state.referralFeeBps : ℕ)
  let formerCumulativeBorrowRate ← getCumulativeBorrowRate borrow
  pure (if formerCumulativeBorrowRate < newCumulativeBorrowRate then
    newCumulativeBorrowRate / formerCumulativeBorrowRate
  else 0)

/-- The factor that the debt to a reserve is estimated to grow by, rounded up. -/
def irSlippageBpsForDebt (debtReserve : KaminoReserve) (currentSlot : ℕ) : Option ℚ := do
  let borrow ← obligation.state.borrows.find? (·.borrowReserve = debtReserve.address)
  let rate ← estimateObligationInterestRate market debtReserve borrow currentSlot
  pure (ceilPlaces debtReserve.decimals rate)

def calcFlashRepayAmount (reserve : KaminoReserve) (referralFeeBps : ℚ) (hasReferral : Bool)
    (flashBorrowAmountLamports : ℚ) : Option ℚ := do
  let fees ← reserve.calculateFlashLoanFees flashBorrowAmountLamports referralFeeBps hasReferral
  pure (flashBorrowAmountLamports + fees.referrerFees + fees.protocolFees)

/-- The debt in lamports that the positions record. -/
def recordedDebt (debtReserve : KaminoReserve) : ℚ :=
  ((obligation.borrows.get debtReserve.address).map Position.amount).getD 0

def calcRepayAmountWithSlippage (debtReserve : KaminoReserve) (currentSlot : ℕ) (amount : ℚ)
    (referrer : Pubkey) : Option RepayAmount := do
  let irSlippageBpsForDebt ← irSlippageBpsForDebt market obligation debtReserve currentSlot
  let repayAmountIrAdjusted :=
    ceilPlaces debtReserve.decimals (amount * (irSlippageBpsForDebt * (1001 / 1000)))
  let repayAmount :=
    if lamportsToDecimal (recordedDebt obligation debtReserve) debtReserve.decimals ≤
      repayAmountIrAdjusted then repayAmountIrAdjusted
    else amount
  let repayAmountLamports := numberToLamportsDecimal repayAmount debtReserve.decimals
  let flashRepayAmountLamports ← calcFlashRepayAmount debtReserve
    (market.state.referralFeeBps : ℕ) (referrer ≠ 0) repayAmountLamports
  pure { repayAmount, repayAmountLamports, flashRepayAmountLamports }

/-- `debtAfterFlashLoanRepay.div(irSlippageBpsForDebt.mul('1.01'))`, before it is rounded. -/
def debtBeforeRounding (props : EstimateProps) (irSlippageBpsForDebt : ℚ) : Extended :=
  let slippage := props.slippagePct / 100
  let flashLoanFee := props.flashBorrowReserveFlashLoanFeePercentage / 100
  let debtAfterSwap := props.collAmount / (1 + slippage) / props.priceDebtToColl
  let debtAfterFlashLoanRepay := debtAfterSwap / (1 + flashLoanFee)
  .finite debtAfterFlashLoanRepay / .finite (irSlippageBpsForDebt * (101 / 100))

def estimateDebtRepaymentWithColl (props : EstimateProps) : Option Extended := do
  let debtReserve ← market.getReserveByMint props.debtTokenMint
  let irSlippageBpsForDebt ← irSlippageBpsForDebt market obligation debtReserve props.currentSlot
  pure ((debtBeforeRounding props irSlippageBpsForDebt).map (ceilPlaces debtReserve.decimals))

def estimateCollNeededForDebtRepayment (debtAmount : Extended)
    (priceDebtToColl slippagePct flashBorrowReserveFlashLoanFeePercentage : ℚ) : Extended :=
  let slippage := slippagePct / 100
  let flashLoanFee := flashBorrowReserveFlashLoanFeePercentage / 100
  let debtFlashLoanRepay := debtAmount * .finite (1 + flashLoanFee)
  debtFlashLoanRepay * .finite (1 + slippage) * .finite priceDebtToColl

def getMaxWithdrawLtvCheck : MaxWithdrawLtvCheck :=
  if obligation.refreshedStats.borrowLimit ≤
    obligation.refreshedStats.userTotalBorrowBorrowFactorAdjusted then .liquidationThreshold
  else .maxLtv

/-- The ratio of a reserve that the check is about. -/
def maxWithdrawLtv (reserve : KaminoReserve) : Option ℚ := do
  let ltv ← getLtvForReserve market reserve obligation.state.elevationGroup
  pure (if getMaxWithdrawLtvCheck obligation = .liquidationThreshold then ltv.liquidationLtv
    else ltv.maxLtv)

/-- The deposits of other reserves, each times its ratio. -/
def remainingDepositsValueWithLtv (deposit : Position) : Option ℚ :=
  if 1 < obligation.getDeposits.length then
    (obligation.getDeposits.filter (·.reserveAddress ≠ deposit.reserveAddress)).foldlM
      (fun acc d ↦ do
        let reserve ← market.getReserveByAddress d.reserveAddress
        let ltv ← maxWithdrawLtv market obligation reserve
        pure (acc + d.marketValueRefreshed * ltv)) 0
  else some 0

/-- Of several borrows only the others count. -/
def remainingBorrowsValue (debtReserve : KaminoReserve) (borrow : Position)
    (repayAmountLamports : ℚ) : ℚ :=
  if 1 < obligation.getBorrows.length then
    (obligation.getBorrows.filter (·.reserveAddress ≠ borrow.reserveAddress)).foldl
      (fun acc b ↦ acc + b.marketValueRefreshed) 0
  else
    let remainingBorrowLamports : ℚ := ⌈borrow.amount - repayAmountLamports⌉
    let remainingBorrowAmount := remainingBorrowLamports / debtReserve.getMintFactor
    remainingBorrowAmount * debtReserve.getOracleMarketPrice

def calcMaxWithdrawCollateral (collReserveAddr debtReserveAddr : Pubkey)
    (repayAmountLamports : ℚ) : Option MaxWithdrawCollateral := do
  let deposit ← obligation.getDepositByReserve collReserveAddr
  let borrow ← obligation.getBorrowByReserve debtReserveAddr
  let depositReserve ← market.getReserveByAddress deposit.reserveAddress
  let debtReserve ← market.getReserveByAddress borrow.reserveAddress
  let depositTotalLamports : ℚ := ⌊deposit.amount⌋
  let remainingBorrowsValue :=
    remainingBorrowsValue obligation debtReserve borrow repayAmountLamports
  let remainingDepositsValueWithLtv ← remainingDepositsValueWithLtv market obligation deposit
  let repayingAllDebt := decide (borrow.amount ≤ repayAmountLamports)
  if remainingBorrowsValue ≤ remainingDepositsValueWithLtv then
    pure {
      repayAmountLamports
      withdrawableCollLamports := .finite depositTotalLamports
      canWithdrawAllColl := true
      repayingAllDebt }
  else do
    let maxWithdrawLtv ← maxWithdrawLtv market obligation depositReserve
    let numerator := deposit.marketValueRefreshed * maxWithdrawLtv +
      remainingDepositsValueWithLtv - remainingBorrowsValue
    let denominator := depositReserve.getOracleMarketPrice * maxWithdrawLtv
    let maxCollWithdrawAmount : Extended := .finite numerator / .finite denominator
    let withdrawableCollLamports :=
      (maxCollWithdrawAmount * .finite depositReserve.getMintFactor).map fun x ↦ ⌊x⌋
    pure {
      repayAmountLamports
      withdrawableCollLamports
      canWithdrawAllColl := false
      repayingAllDebt }

end KaminoObligation

end Klend.Sdk
