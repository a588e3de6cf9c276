import Klend.Machine.Bytes
import Klend.State.BorrowRateCurve
import Klend.State.WithdrawalCaps
import Mathlib.Data.Fintype.Basic

/-! # Reserve configuration

The settings of a reserve, its fee schedule and the price-source settings its
validator reads.
-/

namespace Klend

abbrev Pubkey : Type := Word 256

def programVersion : U64 := 1

def fullBps : U16 := 10000

def slotsPerYear : ℕ := 63072000

def nullPubkey : Pubkey :=
  0x0bc1eed8d074f1c337d44c164bca28d84cce1ba98a40b11c135a9c0000000000

@[ext] structure ScopeConfiguration where
  priceFeed : Pubkey
  priceChain : List U16
  twapChain : List U16
deriving DecidableEq, Repr, Inhabited

@[ext] structure SwitchboardConfiguration where
  priceAggregator : Pubkey
  twapAggregator : Pubkey
deriving DecidableEq, Repr, Inhabited

@[ext] structure PythConfiguration where
  price : Pubkey
deriving DecidableEq, Repr, Inhabited

def isEnabledKey (k : Pubkey) : Bool := k ≠ 0 ∧ k ≠ nullPubkey

/-- A chain of four oracle entries counts as set unless all are `u16::MAX` or all are zero. -/
def isSetChain (chain : List U16) : Bool :=
  chain ≠ List.replicate 4 (Word.max 16) ∧ chain ≠ List.replicate 4 0

def ScopeConfiguration.isEnabled (c : ScopeConfiguration) : Bool := isEnabledKey c.priceFeed

def ScopeConfiguration.isValid (c : ScopeConfiguration) : Bool :=
  ¬ c.isEnabled ∨ isSetChain c.priceChain

def ScopeConfiguration.hasTwap (c : ScopeConfiguration) : Bool := isSetChain c.twapChain

def SwitchboardConfiguration.isEnabled (c : SwitchboardConfiguration) : Bool :=
  isEnabledKey c.priceAggregator

def SwitchboardConfiguration.hasTwap (c : SwitchboardConfiguration) : Bool :=
  isEnabledKey c.twapAggregator

def PythConfiguration.isEnabled (c : PythConfiguration) : Bool := isEnabledKey c.price

@[ext] structure PriceHeuristic where
  lower : U64
  upper : U64
  exp : U64
deriving DecidableEq, Repr, Inhabited

@[ext] structure TokenInfo where
  name : NameBytes
  heuristic : PriceHeuristic
  maxTwapDivergenceBps : U64
  maxAgePriceSeconds : U64
  maxAgeTwapSeconds : U64
  scopeConfiguration : ScopeConfiguration
  switchboardConfiguration : SwitchboardConfiguration
  pythConfiguration : PythConfiguration
  blockPriceUsage : U8
deriving DecidableEq, Repr, Inhabited

namespace TokenInfo

def isValid (t : TokenInfo) : Bool :=
  t.scopeConfiguration.isValid ∧ (t.scopeConfiguration.isEnabled ∨
    t.switchboardConfiguration.isEnabled ∨ t.pythConfiguration.isEnabled)

def isTwapEnabled (t : TokenInfo) : Bool := 0 < t.maxTwapDivergenceBps

def isTwapConfigValid (t : TokenInfo) : Bool :=
  if ¬ t.isTwapEnabled then true
  else if t.maxAgeTwapSeconds = 0 then false
  else if t.scopeConfiguration.isEnabled ∧ ¬ t.scopeConfiguration.hasTwap then false
  else if t.switchboardConfiguration.isEnabled ∧ ¬ t.switchboardConfiguration.hasTwap then false
  else true

end TokenInfo

inductive AssetTier where
  | regular
  | isolatedCollateral
  | isolatedDebt
deriving DecidableEq, Repr

def AssetTier.tryFrom (n : U8) : Option AssetTier :=
  if n = 0 then some .regular
  else if n = 1 then some .isolatedCollateral
  else if n = 2 then some .isolatedDebt
  else none

def AssetTier.toU8 : AssetTier → U8
  | .regular => 0
  | .isolatedCollateral => 1
  | .isolatedDebt => 2

inductive ReserveStatus where
  | active
  | obsolete
  | hidden
deriving DecidableEq, Repr

def ReserveStatus.tryFrom (n : U8) : Option ReserveStatus :=
  if n = 0 then some .active
  else if n = 1 then some .obsolete
  else if n = 2 then some .hidden
  else none

inductive FeeCalculation where
  | exclusive
  | inclusive
deriving DecidableEq, Repr

@[ext] structure ReserveFees where
  borrowFeeSf : U64
  flashLoanFeeSf : U64
deriving DecidableEq, Repr, Inhabited

namespace ReserveFees

def fromBitsU64 (n : U64) : Fraction := ⟨n, n.isLt.trans (by norm_num)⟩

@[simp] theorem bits_fromBitsU64 (n : U64) : (fromBitsU64 n).bits = n := rfl

/-- The protocol's and the referrer's share of the fee on `amount`. -/
def calculateFees (amount : Fraction) (feeSf : U64) (feeCalculation : FeeCalculation)
    (referralFeeBps : U16) (hasReferrer : Bool) : Result (U64 × U64) :=
  let borrowFeeRate := fromBitsU64 feeSf
  let referralFeeRate := Fraction.fromBps referralFeeBps.widen
  if Fraction.zero < borrowFeeRate ∧ Fraction.zero < amount then do
    let borrowFeeAmount ← match feeCalculation with
      | .exclusive => amount.mul borrowFeeRate
      | .inclusive => do
        let onePlus ← borrowFeeRate.add Fraction.one
        let rate ← borrowFeeRate.div onePlus
        amount.mul rate
    let borrowFeeF := max borrowFeeAmount (Fraction.fromNum 1)
    require (borrowFeeF < amount) .borrowTooSmall
    let borrowFee ← borrowFeeF.toRound
    let referralFee ←
      if Fraction.zero < referralFeeRate ∧ hasReferrer then
        if referralFeeBps = fullBps then
          pure borrowFee
        else do
          let referralFeeF ← borrowFeeF.mul referralFeeRate
          referralFeeF.toFloor
      else pure 0
    let protocolFee ← Word.sub borrowFee referralFee
    pure (protocolFee, referralFee)
  else pure (0, 0)

def calculateBorrowFees (f : ReserveFees) (borrowAmount : Fraction)
    (feeCalculation : FeeCalculation) (referralFeeBps : U16) (hasReferrer : Bool) :
    Result (U64 × U64) :=
  calculateFees borrowAmount f.borrowFeeSf feeCalculation referralFeeBps hasReferrer

def calculateFlashLoanFees (f : ReserveFees) (flashLoanAmountF : Fraction)
    (referralFeeBps : U16) (hasReferrer : Bool) : Result (U64 × U64) :=
  calculateFees flashLoanAmountF f.flashLoanFeeSf .exclusive referralFeeBps hasReferrer

end ReserveFees

@[ext] structure ReserveConfig where
  status : U8
  assetTier : U8
  hostFixedInterestRateBps : U16
  protocolTakeRatePct : U8
  protocolLiquidationFeePct : U8
  loanToValuePct : U8
  liquidationThresholdPct : U8
  minLiquidationBonusBps : U16
  maxLiquidationBonusBps : U16
  badDebtLiquidationBonusBps : U16
  deleveragingMarginCallPeriodSecs : U64
  deleveragingThresholdDecreaseBpsPerDay : U64
  fees : ReserveFees
  borrowRateCurve : BorrowRateCurve
  borrowFactorPct : U64
  depositLimit : U64
  borrowLimit : U64
  tokenInfo : TokenInfo
  depositWithdrawalCap : WithdrawalCaps
  debtWithdrawalCap : WithdrawalCaps
  elevationGroups : List U8
  disableUsageAsCollOutsideEmode : U8
  utilizationLimitBlockBorrowingAbovePct : U8
  autodeleverageEnabled : U8
  borrowLimitOutsideElevationGroup : U64
  borrowLimitAgainstThisCollateralInElevationGroup : Fin 32 → U64
  deleveragingBonusIncreaseBpsPerDay : U64
deriving DecidableEq, Inhabited

namespace ReserveConfig

/-- The arrays have the lengths of the stored ones. -/
structure ArraysSized (c : ReserveConfig) : Prop where
  points : c.borrowRateCurve.points.length = 11
  priceChain : c.tokenInfo.scopeConfiguration.priceChain.length = 4
  twapChain : c.tokenInfo.scopeConfiguration.twapChain.length = 4
  elevationGroups : c.elevationGroups.length = 20

def getAssetTier (c : ReserveConfig) : Result AssetTier := unwrap (AssetTier.tryFrom c.assetTier)

def getStatus (c : ReserveConfig) : Result ReserveStatus := unwrap (ReserveStatus.tryFrom c.status)

def getBorrowFactor (c : ReserveConfig) : Fraction :=
  max Fraction.one (Fraction.fromPercent c.borrowFactorPct)

def isAutodeleverageEnabled (c : ReserveConfig) : Bool := c.autodeleverageEnabled ≠ 0

/-- The limits, rates and fees an operation's post-state keeps: everything but the two withdrawal
counters. -/
def SameSettings (c d : ReserveConfig) : Prop :=
  d = { c with
    depositWithdrawalCap := d.depositWithdrawalCap, debtWithdrawalCap := d.debtWithdrawalCap }

end ReserveConfig

end Klend
