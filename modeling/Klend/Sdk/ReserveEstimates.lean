import Klend.Machine.Rational
import Klend.Sdk.Encoding
import Klend.Sdk.Numbers
import Klend.State.Reserve

/-! # Estimates of the client

The client estimates what a reserve owes at a later slot, and its cumulative borrow rate
there. Decimals are exact. The rates go through JavaScript numbers, which are rounded after
every operation. `none` is an exception.
-/

namespace Klend.Sdk

def slotsPerSecond : ℕ := 2

def slotsPerYear : ℕ := 63072000

def oneHundredPctInBps : ℕ := 10000

def initialCollateralRate : ℚ := 1

/-- `Fraction.toDecimal` of a rate in 256 bits. -/
def bigToDecimal (x : BigFraction) : ℚ := sfToDecimal x.bits

section Curve

def truncateBorrowCurve : List CurvePoint → List (ℚ × ℚ)
  | [] => []
  | point :: points =>
    (numberOf (((point.utilizationRateBps : ℕ) : ℚ) / oneHundredPctInBps),
      numberOf (((point.borrowRateBps : ℕ) : ℚ) / oneHundredPctInBps)) ::
    if (point.utilizationRateBps : ℕ) = oneHundredPctInBps then []
    else truncateBorrowCurve points

def interpolate (x x0 x1 y0 y1 : ℚ) : Option ℚ :=
  if x1 < x then none
  else
    let product := numberOf (numberOf (x - x0) * numberOf (y1 - y0))
    some (numberOf (y0 + numberOf (product / numberOf (x1 - x0))))

/-- The loop of `getBorrowRate` over the points behind `previous`: the rate of a point that is
met, or the two points around, which stay zero where there are none. -/
def searchPoints (currentUtilization : ℚ) (previous : ℚ × ℚ) :
    List (ℚ × ℚ) → ℚ ⊕ (ℚ × ℚ) × (ℚ × ℚ)
  | [] => .inr ((0, 0), (0, 0))
  | point :: points =>
    if point.1 = currentUtilization then .inl point.2
    else if currentUtilization ≤ point.1 then .inr (previous, point)
    else searchPoints currentUtilization point points

def getBorrowRate (currentUtilization : ℚ) : List (ℚ × ℚ) → Option ℚ
  | first :: second :: rest =>
    let currentUtilization := if 1 < currentUtilization then 1 else currentUtilization
    match searchPoints currentUtilization first (second :: rest) with
    | .inl pointRate => some pointRate
    | .inr ((x0, y0), (x1, y1)) =>
      if x0 = 0 ∧ y0 = 0 ∧ x1 = 0 ∧ y1 = 0 then none
      else if x1 ≤ x0 ∨ y1 < y0 then none
      else interpolate currentUtilization x0 x1 y0 y1
  | _ => none

end Curve

def approximateCompoundedInterest (rate : ℚ) (elapsedSlots : ℕ) : ℚ :=
  let base := rate / slotsPerYear
  match elapsedSlots with
  | 0 => 1
  | 1 => base + 1
  | 2 => (base + 1) * (base + 1)
  | 3 => (base + 1) * (base + 1) * (base + 1)
  | 4 =>
    let pow2 := (base + 1) * (base + 1)
    pow2 * pow2
  | exp =>
    let expMinus1 : ℚ := exp - 1
    let expMinus2 : ℚ := exp - 2
    let basePow2 := base * base
    let basePow3 := basePow2 * base
    let firstTerm := base * exp
    let secondTerm := basePow2 * exp * expMinus1 / 2
    let thirdTerm := basePow3 * exp * expMinus1 * expMinus2 / 6
    1 + firstTerm + secondTerm + thirdTerm

/-- The reserve as the client holds it. The oracle's price is of a whole token. -/
structure KaminoReserve where
  state : Reserve
  address : Pubkey
  tokenOraclePrice : ℚ
  recentSlotDurationMs : ℚ

/-- What `compoundInterest` returns. -/
structure CompoundedInterest where
  newDebt : ℚ
  netNewDebt : ℚ
  variableProtocolFee : ℚ
  fixedHostFee : ℚ
  absoluteReferralFee : ℚ
  maxReferralFees : ℚ
  newAccProtocolFees : ℚ
  pendingReferralFees : ℚ

structure DebtAndSupply where
  totalBorrow : ℚ
  totalSupply : ℚ

namespace KaminoReserve

variable (r : KaminoReserve)

def getBorrowedAmount : ℚ := sfToDecimal r.state.liquidity.borrowedAmountSf.bits

def getLiquidityAvailableAmount : ℚ := (r.state.liquidity.availableAmount : ℕ)

def getAccumulatedProtocolFees : ℚ := sfToDecimal r.state.liquidity.accumulatedProtocolFeesSf.bits

def getAccumulatedReferrerFees : ℚ := sfToDecimal r.state.liquidity.accumulatedReferrerFeesSf.bits

def getPendingReferrerFees : ℚ := sfToDecimal r.state.liquidity.pendingReferrerFeesSf.bits

def getFixedHostInterestRate : ℚ := (r.state.config.hostFixedInterestRateBps : ℕ) / 10000

def getTotalSupply : ℚ :=
  r.getLiquidityAvailableAmount + r.getBorrowedAmount - r.getAccumulatedProtocolFees -
    r.getAccumulatedReferrerFees - r.getPendingReferrerFees

def getCumulativeBorrowRate : ℚ := bigToDecimal r.state.liquidity.cumulativeBorrowRateBsf

def slotAdjustmentFactor : ℚ :=
  numberOf (numberOf (1000 / slotsPerSecond) / r.recentSlotDurationMs)

def calculateUtilizationRatio : ℚ :=
  if r.getTotalSupply = 0 then 0 else numberOf (r.getBorrowedAmount / r.getTotalSupply)

def borrowCurve : List (ℚ × ℚ) := truncateBorrowCurve r.state.config.borrowRateCurve.points

def calculateBorrowRate : Option ℚ := do
  let rate ← getBorrowRate r.calculateUtilizationRatio r.borrowCurve
  pure (numberOf (rate * r.slotAdjustmentFactor))

def slotsElapsed (slot : ℕ) : Option ℕ := do
  let lastSlot ← toNumber r.state.lastUpdate.slot
  pure (slot - lastSlot)

def compoundInterest (slotsElapsed : ℕ) (referralFeeBps : ℚ) : Option CompoundedInterest := do
  let currentBorrowRate ← r.calculateBorrowRate
  let protocolTakeRate : ℚ := (r.state.config.protocolTakeRatePct : ℕ) / 100
  let referralRate := referralFeeBps / 10000
  let fixedHostInterestRate := r.getFixedHostInterestRate
  let compoundedInterestRate :=
    approximateCompoundedInterest (decimalOf currentBorrowRate + fixedHostInterestRate)
      slotsElapsed
  let compoundedFixedRate := approximateCompoundedInterest fixedHostInterestRate slotsElapsed
  let previousDebt := r.getBorrowedAmount
  let newDebt := previousDebt * compoundedInterestRate
  let fixedHostFee := previousDebt * compoundedFixedRate - previousDebt
  let netNewDebt := newDebt - previousDebt - fixedHostFee
  let variableProtocolFee := netNewDebt * protocolTakeRate
  let absoluteReferralFee := protocolTakeRate * referralRate
  let maxReferralFees := netNewDebt * absoluteReferralFee
  pure {
    newDebt, netNewDebt, variableProtocolFee, fixedHostFee, absoluteReferralFee, maxReferralFees
    newAccProtocolFees :=
      variableProtocolFee + fixedHostFee - maxReferralFees + r.getAccumulatedProtocolFees
    pendingReferralFees := r.getPendingReferrerFees + maxReferralFees }

def getEstimatedDebtAndSupply (slot : ℕ) (referralFeeBps : ℚ) : Option DebtAndSupply := do
  let slotsElapsed ← r.slotsElapsed slot
  if slotsElapsed = 0 then
    pure { totalBorrow := r.getBorrowedAmount, totalSupply := r.getTotalSupply }
  else do
    let compounded ← r.compoundInterest slotsElapsed referralFeeBps
    pure {
      totalBorrow := compounded.newDebt
      totalSupply := r.getLiquidityAvailableAmount + compounded.newDebt -
        compounded.newAccProtocolFees - r.getAccumulatedReferrerFees -
        compounded.pendingReferralFees }

def getEstimatedUtilizationRatio (slot : ℕ) (referralFeeBps : ℚ) : Option ℚ := do
  let estimated ← r.getEstimatedDebtAndSupply slot referralFeeBps
  pure (if estimated.totalSupply = 0 then 0
    else numberOf (estimated.totalBorrow / estimated.totalSupply))

def calculateEstimatedBorrowRate (slot : ℕ) (referralFeeBps : ℚ) : Option ℚ := do
  let estimatedCurrentUtilization ← r.getEstimatedUtilizationRatio slot referralFeeBps
  let rate ← getBorrowRate estimatedCurrentUtilization r.borrowCurve
  pure (numberOf (rate * r.slotAdjustmentFactor))

def calculateBorrowAPR (slot : ℕ) (referralFeeBps : ℚ) : Option ℚ := do
  let borrowRate ← r.calculateEstimatedBorrowRate slot referralFeeBps
  pure (numberOf (borrowRate + numberOf r.getFixedHostInterestRate))

def getEstimatedCumulativeBorrowRate (currentSlot : ℕ) (referralFeeBps : ℚ) : Option ℚ := do
  let currentBorrowRate ← r.calculateBorrowAPR currentSlot referralFeeBps
  let slotsElapsed ← r.slotsElapsed currentSlot
  pure (r.getCumulativeBorrowRate *
    approximateCompoundedInterest (decimalOf currentBorrowRate) slotsElapsed)

def getCollateralExchangeRate : ℚ :=
  let mintTotalSupply : ℚ := (r.state.collateral.mintTotalSupply : ℕ)
  if mintTotalSupply = 0 ∨ r.getTotalSupply = 0 then initialCollateralRate
  else mintTotalSupply / r.getTotalSupply

def getEstimatedTotalSupply (slot : ℕ) (referralFeeBps : ℚ) : Option ℚ := do
  let estimated ← r.getEstimatedDebtAndSupply slot referralFeeBps
  pure estimated.totalSupply

def getEstimatedCollateralExchangeRate (slot : ℕ) (referralFeeBps : ℚ) : Option ℚ := do
  let totalSupply ← r.getEstimatedTotalSupply slot referralFeeBps
  let mintTotalSupply : ℚ := (r.state.collateral.mintTotalSupply : ℕ)
  pure (if mintTotalSupply = 0 ∨ totalSupply = 0 then initialCollateralRate
    else mintTotalSupply / totalSupply)

def getOracleMarketPrice : ℚ := r.tokenOraclePrice

def getLiquidityMint : Pubkey := r.state.liquidity.mintPubkey

def getMintFactor : ℚ := 10 ^ (r.state.liquidity.mintDecimals : ℕ)

/-- `stats.loanToValue`, a number of hundredths that decimals read as it is. -/
def loanToValue : ℚ := (r.state.config.loanToValuePct : ℕ) / 100

/-- `stats.liquidationThreshold` -/
def liquidationThreshold : ℚ := (r.state.config.liquidationThresholdPct : ℕ) / 100

/-- `stats.borrowFactor` -/
def borrowFactor : ℚ := (r.state.config.borrowFactorPct : ℕ)

end KaminoReserve

end Klend.Sdk
