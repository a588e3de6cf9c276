import Klend.Lending.ReserveConfigSettings
import Klend.Sdk.Encoding

/-! # Reserve updates of the TypeScript client

The client compares the configuration of a reserve with the one it is to get, field by
field, and sends a mode with a buffer for each difference.
-/

namespace Klend.Sdk

/-- The discriminator of a generated mode class: the classes are numbered from 0. -/
def configDiscriminator (mode : ReserveConfigMode) : ℕ := mode.ctorIdx

/-- The values that the encoder accepts. -/
inductive ConfigValue where
  | number (n : ℤ)
  | numberArray (ns : List ℤ)
  | bigint (n : ℕ)
  | borrowRateCurve (curve : BorrowRateCurve)
  | publicKey (key : Pubkey)
deriving DecidableEq

/-- A big number as a JavaScript number, which holds 53 bits and a sign. -/
def bnToNumber (n : ℤ) : Option ℤ := if n.natAbs < 2 ^ 53 then some n else none

/-- The writers refuse negative numbers. -/
def writeNumberLE (buffer : List U8) (value : ℤ) (offset byteLength : ℕ) : Option (List U8) :=
  match value with
  | .ofNat n => writeUIntLE buffer n offset byteLength
  | .negSucc _ => none

/-- One number after the other, each of `byteLength` bytes. -/
def writeNumbers (byteLength : ℕ) (buffer : List U8) (offset : ℕ) :
    List ℤ → Option (List U8)
  | [] => some buffer
  | value :: rest => do
    let buffer ← writeNumberLE buffer value offset byteLength
    writeNumbers byteLength buffer (offset + byteLength) rest

/-- The number of points is written first, and then overwritten by the first point. -/
def serializeBorrowRateCurve (curve : BorrowRateCurve) : Option (List U8) := do
  let buffer := alloc (8 * curve.points.length)
  let buffer ← writeUIntLE buffer curve.points.length 0 4
  writeNumbers 4 buffer 0 (curve.points.flatMap fun point ↦
    [((point.utilizationRateBps : ℕ) : ℤ), ((point.borrowRateBps : ℕ) : ℤ)])

/-- A big integer in two halves of 32 bits. -/
def writeHalves (n : ℕ) : Option (List U8) := do
  let buffer ← writeUIntLE (alloc 8) (n % 2 ^ 32) 0 4
  writeUIntLE buffer (n / 2 ^ 32) 4 4

namespace ConfigValue

def asNumber : ConfigValue → Option ℤ
  | number n => some n
  | _ => none

def asNumberArray : ConfigValue → Option (List ℤ)
  | numberArray ns => some ns
  | _ => none

def asBorrowRateCurve : ConfigValue → Option BorrowRateCurve
  | borrowRateCurve curve => some curve
  | _ => none

def asPublicKey : ConfigValue → Option Pubkey
  | publicKey key => some key
  | _ => none

/-- `typeof value === 'bigint' ? value : BigInt(value.toString())`; a negative one is refused when
its halves are written. -/
def asBigInt : ConfigValue → Option ℕ
  | bigint n => some n
  | number (.ofNat n) => some n
  | _ => none

end ConfigValue

/-- A value of another kind than the mode's is an exception: a number that is indexed as an array
has no entries to write. -/
def updateReserveConfigEncodedValue (mode : ReserveConfigMode) (value : ConfigValue) :
    Option (List U8) :=
  match mode with
  | .updateLoanToValuePct | .updateLiquidationThresholdPct | .updateProtocolLiquidationFee
  | .updateProtocolTakeRate | .updateAssetTier | .updateReserveStatus
  | .updateDisableUsageAsCollateralOutsideEmode | .updateBlockBorrowingAboveUtilizationPct
  | .updateBlockPriceUsage | .updateAutodeleverageEnabled => do
    let n ← value.asNumber
    writeNumberLE (alloc 1) n 0 1
  | .updateMaxLiquidationBonusBps | .updateBadDebtLiquidationBonusBps
  | .updateMinLiquidationBonusBps => do
    let n ← value.asNumber
    writeNumberLE (alloc 2) n 0 2
  | .updateFeesBorrowFee | .updateFeesFlashLoanFee | .updateTokenInfoLowerHeuristic
  | .updateTokenInfoUpperHeuristic | .updateTokenInfoExpHeuristic | .updateTokenInfoTwapDivergence
  | .updateTokenInfoPriceMaxAge | .updateTokenInfoTwapMaxAge | .updateDebtWithdrawalCapCurrentTotal
  | .updateDepositWithdrawalCapCurrentTotal | .updateDeleveragingMarginCallPeriod
  | .updateBorrowFactor | .updateDeleveragingThresholdDecreaseBpsPerDay
  | .updateDeleveragingBonusIncreaseBpsPerDay => do
    let n ← value.asNumber
    writeNumberLE (alloc 8) n 0 8
  | .updateDepositLimit | .updateBorrowLimit | .updateBorrowLimitOutsideElevationGroup => do
    let n ← value.asBigInt
    writeHalves n
  | .updateTokenInfoScopeChain | .updateTokenInfoScopeTwap => do
    let ns ← value.asNumberArray
    writeNumbers 2 (alloc 8) 0 ns
  | .updateTokenInfoName => do
    let ns ← value.asNumberArray
    writeNumbers 1 (alloc 32) 0 ns
  | .updateScopePriceFeed | .updatePythPrice | .updateSwitchboardFeed | .updateSwitchboardTwapFeed
  | .updateFarmCollateral | .updateFarmDebt => do
    let key ← value.asPublicKey
    some (Pubkey.toBytes key)
  | .updateBorrowRateCurve => do
    let curve ← value.asBorrowRateCurve
    serializeBorrowRateCurve curve
  | .updateDebtWithdrawalCap | .updateDepositWithdrawalCap => do
    let ns ← value.asNumberArray
    let capacity ← ns[0]?
    let interval ← ns[1]?
    writeNumbers 8 (alloc 16) 0 [capacity, interval]
  | .updateElevationGroup => do
    let ns ← value.asNumberArray
    writeNumbers 1 (alloc 20) 0 ns
  | .updateBorrowLimitsInElevationGroupAgainstThisReserve => do
    let ns ← value.asNumberArray
    writeNumbers 8 (alloc 256) 0 ns
  -- the modes that the switch leaves to its default
  | .updateFeesReferralFeeBps | .updateEntireReserveConfig | .deprecatedUpdateMultiplierSideBoost
  | .deprecatedUpdateMultiplierTagBoost | .updateHostFixedInterestRateBps => some []

structure UpdateReserveIxnsArgs where
  mode : ℕ
  value : List U8
deriving DecidableEq, Repr, Inhabited

/-- The keys of a configuration in their order, without the excluded ones. -/
inductive ReserveConfigKey where
  | status
  | assetTier
  | hostFixedInterestRateBps
  | protocolTakeRatePct
  | protocolLiquidationFeePct
  | loanToValuePct
  | liquidationThresholdPct
  | minLiquidationBonusBps
  | maxLiquidationBonusBps
  | badDebtLiquidationBonusBps
  | deleveragingMarginCallPeriodSecs
  | deleveragingThresholdDecreaseBpsPerDay
  | fees
  | borrowRateCurve
  | borrowFactorPct
  | depositLimit
  | borrowLimit
  | tokenInfo
  | depositWithdrawalCap
  | debtWithdrawalCap
  | elevationGroups
  | disableUsageAsCollOutsideEmode
  | utilizationLimitBlockBorrowingAbovePct
  | autodeleverageEnabled
  | borrowLimitOutsideElevationGroup
  | borrowLimitAgainstThisCollateralInElevationGroup
  | deleveragingBonusIncreaseBpsPerDay
deriving DecidableEq, Repr

/-- `sameLengthArrayEquals`, an exception for arrays of different lengths. -/
def sameLengthArrayEquals {α : Type} [DecidableEq α] (left right : List α) : Option Bool :=
  if left.length = right.length then some (decide (left = right)) else none

/-- The loop over the points of the new curve; a point that the old one lacks is an exception. -/
def shouldBorrowCurveBeUpdated : List CurvePoint → List CurvePoint → Option Bool
  | _, [] => some false
  | [], _ :: _ => none
  | old :: olds, new :: news =>
    if old.utilizationRateBps ≠ new.utilizationRateBps ∨ old.borrowRateBps ≠ new.borrowRateBps then
      some true
    else shouldBorrowCurveBeUpdated olds news

section Changes

variable {α : Type} [DecidableEq α]

/-- `reserve === undefined`, or the field differs. -/
def changed (reserve : Option Reserve) (reserveConfig : ReserveConfig)
    (field : ReserveConfig → α) : Bool :=
  match reserve with
  | none => true
  | some reserve => field reserve.config ≠ field reserveConfig

def arrayChanged (reserve : Option Reserve) (reserveConfig : ReserveConfig)
    (field : ReserveConfig → List α) : Option Bool :=
  match reserve with
  | none => some true
  | some reserve => do
    let same ← sameLengthArrayEquals (field reserve.config) (field reserveConfig)
    some (!same)

def curveChanged (reserve : Option Reserve) (reserveConfig : ReserveConfig) : Option Bool :=
  match reserve with
  | none => some true
  | some reserve => shouldBorrowCurveBeUpdated reserve.config.borrowRateCurve.points
      reserveConfig.borrowRateCurve.points

end Changes

/-- Adds 1 to the discriminator, since the program counts the modes from 1. -/
def push (mode : ReserveConfigMode) (value : Option (List U8)) (args : List UpdateReserveIxnsArgs) :
    Option (List UpdateReserveIxnsArgs) := do
  let value ← value
  some (args ++ [{ mode := configDiscriminator mode + 1, value }])

def encode (mode : ReserveConfigMode) (value : Option ConfigValue) : Option (List U8) := do
  let value ← value
  updateReserveConfigEncodedValue mode value

def pushIf (condition : Bool) (mode : ReserveConfigMode) (value : Option ConfigValue)
    (args : List UpdateReserveIxnsArgs) : Option (List UpdateReserveIxnsArgs) :=
  if condition then push mode (encode mode value) args else some args

def pushIfArray (condition : Option Bool) (mode : ReserveConfigMode) (value : Option ConfigValue)
    (args : List UpdateReserveIxnsArgs) : Option (List UpdateReserveIxnsArgs) := do
  let condition ← condition
  pushIf condition mode value args

/-- A field that is a JavaScript number already. -/
def number (n : ℕ) : Option ConfigValue := some (.number n)

/-- `toNumber()` of a big number. -/
def bigNumber (n : ℕ) : Option ConfigValue := do
  let n ← bnToNumber n
  some (.number n)

def numbers {w : ℕ} (ns : List (Word w)) : Option ConfigValue := some (.numberArray (toInts ns))

def bigNumbers {w : ℕ} (ns : List (Word w)) : Option ConfigValue := do
  let ns ← (toInts ns).mapM bnToNumber
  some (.numberArray ns)

/-- A capacity and an interval are sent together, and the current total only if neither of them is;
its buffer is encoded with the discriminator of the other mode. -/
def handleWithdrawalCap (current : Option WithdrawalCaps) (target : WithdrawalCaps)
    (mode currentTotalMode : ReserveConfigMode) (args : List UpdateReserveIxnsArgs) :
    Option (List UpdateReserveIxnsArgs) :=
  let capValue := do
    let capacity ← bnToNumber target.configCapacity.val
    let interval ← bnToNumber (target.configIntervalLengthSeconds : ℕ)
    some (ConfigValue.numberArray [capacity, interval])
  match current with
  | none => push mode (encode mode capValue) args
  | some current =>
    if current.configCapacity ≠ target.configCapacity ∨
        current.configIntervalLengthSeconds ≠ target.configIntervalLengthSeconds then
      push mode (encode mode capValue) args
    else if current.currentTotal ≠ target.currentTotal then
      push currentTotalMode (encode mode ((bnToNumber target.currentTotal.val).map .number)) args
    else some args

/-- The price feed is only sent for a reserve that exists. -/
def handleTokenInfo (reserve : Option Reserve) (c : ReserveConfig)
    (args : List UpdateReserveIxnsArgs) : Option (List UpdateReserveIxnsArgs) := do
  let t := c.tokenInfo
  let args ← pushIfArray (arrayChanged reserve c (·.tokenInfo.name.val)) .updateTokenInfoName
    (numbers t.name.val) args
  let args ← pushIf (changed reserve c (·.tokenInfo.heuristic.lower))
    .updateTokenInfoLowerHeuristic (bigNumber t.heuristic.lower) args
  let args ← pushIf (changed reserve c (·.tokenInfo.heuristic.upper))
    .updateTokenInfoUpperHeuristic (bigNumber t.heuristic.upper) args
  let args ← pushIf (changed reserve c (·.tokenInfo.heuristic.exp))
    .updateTokenInfoExpHeuristic (bigNumber t.heuristic.exp) args
  let args ← pushIf (changed reserve c (·.tokenInfo.maxTwapDivergenceBps))
    .updateTokenInfoTwapDivergence (bigNumber t.maxTwapDivergenceBps) args
  let args ← pushIf (changed reserve c (·.tokenInfo.maxAgePriceSeconds))
    .updateTokenInfoPriceMaxAge (bigNumber t.maxAgePriceSeconds) args
  let args ← pushIf (changed reserve c (·.tokenInfo.maxAgeTwapSeconds))
    .updateTokenInfoTwapMaxAge (bigNumber t.maxAgeTwapSeconds) args
  let args ← pushIfArray (arrayChanged reserve c (·.tokenInfo.scopeConfiguration.priceChain))
    .updateTokenInfoScopeChain (numbers t.scopeConfiguration.priceChain) args
  let args ← pushIfArray (arrayChanged reserve c (·.tokenInfo.scopeConfiguration.twapChain))
    .updateTokenInfoScopeTwap (numbers t.scopeConfiguration.twapChain) args
  let args ← pushIf (changed reserve c (·.tokenInfo.switchboardConfiguration.priceAggregator))
    .updateSwitchboardFeed (some (.publicKey t.switchboardConfiguration.priceAggregator)) args
  let args ← pushIf (changed reserve c (·.tokenInfo.switchboardConfiguration.twapAggregator))
    .updateSwitchboardTwapFeed (some (.publicKey t.switchboardConfiguration.twapAggregator)) args
  let args ← pushIf (changed reserve c (·.tokenInfo.pythConfiguration.price))
    .updatePythPrice (some (.publicKey t.pythConfiguration.price)) args
  let args ← pushIf (changed reserve c (·.tokenInfo.blockPriceUsage))
    .updateBlockPriceUsage (number t.blockPriceUsage) args
  match reserve with
  | none => some args
  | some _ =>
    pushIf (changed reserve c (·.tokenInfo.scopeConfiguration.priceFeed))
      .updateScopePriceFeed (some (.publicKey t.scopeConfiguration.priceFeed)) args

def handleConfigUpdate (key : ReserveConfigKey) (reserve : Option Reserve) (c : ReserveConfig)
    (args : List UpdateReserveIxnsArgs) : Option (List UpdateReserveIxnsArgs) :=
  match key with
  | .status => pushIf (changed reserve c (·.status)) .updateReserveStatus (number c.status) args
  | .assetTier =>
    pushIf (changed reserve c (·.assetTier)) .updateAssetTier (number c.assetTier) args
  | .hostFixedInterestRateBps =>
    pushIf (changed reserve c (·.hostFixedInterestRateBps)) .updateHostFixedInterestRateBps
      (number c.hostFixedInterestRateBps) args
  | .protocolTakeRatePct =>
    pushIf (changed reserve c (·.protocolTakeRatePct)) .updateProtocolTakeRate
      (number c.protocolTakeRatePct) args
  | .protocolLiquidationFeePct =>
    pushIf (changed reserve c (·.protocolLiquidationFeePct)) .updateProtocolLiquidationFee
      (number c.protocolLiquidationFeePct) args
  | .loanToValuePct =>
    pushIf (changed reserve c (·.loanToValuePct)) .updateLoanToValuePct (number c.loanToValuePct)
      args
  | .liquidationThresholdPct =>
    pushIf (changed reserve c (·.liquidationThresholdPct)) .updateLiquidationThresholdPct
      (number c.liquidationThresholdPct) args
  | .minLiquidationBonusBps =>
    pushIf (changed reserve c (·.minLiquidationBonusBps)) .updateMinLiquidationBonusBps
      (number c.minLiquidationBonusBps) args
  | .maxLiquidationBonusBps =>
    pushIf (changed reserve c (·.maxLiquidationBonusBps)) .updateMaxLiquidationBonusBps
      (number c.maxLiquidationBonusBps) args
  | .badDebtLiquidationBonusBps =>
    pushIf (changed reserve c (·.badDebtLiquidationBonusBps)) .updateBadDebtLiquidationBonusBps
      (number c.badDebtLiquidationBonusBps) args
  | .deleveragingMarginCallPeriodSecs =>
    pushIf (changed reserve c (·.deleveragingMarginCallPeriodSecs))
      .updateDeleveragingMarginCallPeriod (bigNumber c.deleveragingMarginCallPeriodSecs) args
  | .deleveragingThresholdDecreaseBpsPerDay =>
    pushIf (changed reserve c (·.deleveragingThresholdDecreaseBpsPerDay))
      .updateDeleveragingThresholdDecreaseBpsPerDay
      (bigNumber c.deleveragingThresholdDecreaseBpsPerDay) args
  | .fees => do
    let args ← pushIf (changed reserve c (·.fees.borrowFeeSf)) .updateFeesBorrowFee
      (bigNumber c.fees.borrowFeeSf) args
    pushIf (changed reserve c (·.fees.flashLoanFeeSf)) .updateFeesFlashLoanFee
      (bigNumber c.fees.flashLoanFeeSf) args
  | .borrowRateCurve =>
    pushIfArray (curveChanged reserve c) .updateBorrowRateCurve
      (some (.borrowRateCurve c.borrowRateCurve)) args
  | .borrowFactorPct =>
    pushIf (changed reserve c (·.borrowFactorPct)) .updateBorrowFactor
      (bigNumber c.borrowFactorPct) args
  | .depositLimit =>
    pushIf (changed reserve c (·.depositLimit)) .updateDepositLimit
      (some (.bigint c.depositLimit)) args
  | .borrowLimit =>
    pushIf (changed reserve c (·.borrowLimit)) .updateBorrowLimit (some (.bigint c.borrowLimit))
      args
  | .tokenInfo => handleTokenInfo reserve c args
  | .depositWithdrawalCap =>
    handleWithdrawalCap (reserve.map (·.config.depositWithdrawalCap)) c.depositWithdrawalCap
      .updateDepositWithdrawalCap .updateDepositWithdrawalCapCurrentTotal args
  | .debtWithdrawalCap =>
    handleWithdrawalCap (reserve.map (·.config.debtWithdrawalCap)) c.debtWithdrawalCap
      .updateDebtWithdrawalCap .updateDebtWithdrawalCapCurrentTotal args
  | .elevationGroups =>
    pushIfArray (arrayChanged reserve c (·.elevationGroups)) .updateElevationGroup
      (numbers c.elevationGroups) args
  | .disableUsageAsCollOutsideEmode =>
    pushIf (changed reserve c (·.disableUsageAsCollOutsideEmode))
      .updateDisableUsageAsCollateralOutsideEmode (number c.disableUsageAsCollOutsideEmode) args
  | .utilizationLimitBlockBorrowingAbovePct =>
    pushIf (changed reserve c (·.utilizationLimitBlockBorrowingAbovePct))
      .updateBlockBorrowingAboveUtilizationPct (number c.utilizationLimitBlockBorrowingAbovePct)
      args
  | .autodeleverageEnabled =>
    pushIf (changed reserve c (·.autodeleverageEnabled)) .updateAutodeleverageEnabled
      (number c.autodeleverageEnabled) args
  | .borrowLimitOutsideElevationGroup =>
    pushIf (changed reserve c (·.borrowLimitOutsideElevationGroup))
      .updateBorrowLimitOutsideElevationGroup (bigNumber c.borrowLimitOutsideElevationGroup) args
  | .borrowLimitAgainstThisCollateralInElevationGroup =>
    pushIfArray
      (arrayChanged reserve c (List.ofFn ·.borrowLimitAgainstThisCollateralInElevationGroup))
      .updateBorrowLimitsInElevationGroupAgainstThisReserve
      (bigNumbers (List.ofFn c.borrowLimitAgainstThisCollateralInElevationGroup)) args
  | .deleveragingBonusIncreaseBpsPerDay =>
    pushIf (changed reserve c (·.deleveragingBonusIncreaseBpsPerDay))
      .updateDeleveragingBonusIncreaseBpsPerDay (bigNumber c.deleveragingBonusIncreaseBpsPerDay)
      args

/-- The fields of `toEncodable` in their order. -/
def reserveConfigKeys : List ReserveConfigKey :=
  [.status, .assetTier, .hostFixedInterestRateBps, .protocolTakeRatePct,
    .protocolLiquidationFeePct, .loanToValuePct, .liquidationThresholdPct,
    .minLiquidationBonusBps, .maxLiquidationBonusBps, .badDebtLiquidationBonusBps,
    .deleveragingMarginCallPeriodSecs, .deleveragingThresholdDecreaseBpsPerDay, .fees,
    .borrowRateCurve, .borrowFactorPct, .depositLimit, .borrowLimit, .tokenInfo,
    .depositWithdrawalCap, .debtWithdrawalCap, .elevationGroups, .disableUsageAsCollOutsideEmode,
    .utilizationLimitBlockBorrowingAbovePct, .autodeleverageEnabled,
    .borrowLimitOutsideElevationGroup, .borrowLimitAgainstThisCollateralInElevationGroup,
    .deleveragingBonusIncreaseBpsPerDay]

def isPriority (args : UpdateReserveIxnsArgs) : Bool := args.mode = 20 ∨ args.mode = 16

/-- What the comparison returns. -/
def compareByPriority (a b : UpdateReserveIxnsArgs) : ℤ :=
  if isPriority a ∧ ¬ isPriority b then -1
  else if isPriority b ∧ ¬ isPriority a then 1
  else 0

/-- A stable sort. -/
def sortIxnsByPriority (args : List UpdateReserveIxnsArgs) : List UpdateReserveIxnsArgs :=
  args.mergeSort fun a b ↦ compareByPriority a b ≤ 0

def minInitialDeposit : ℕ := 100000

def modeMatches (mode : ℕ) : Bool :=
  mode ∈ ([.updateScopePriceFeed, .updateTokenInfoScopeChain, .updateTokenInfoScopeTwap,
    .updateTokenInfoExpHeuristic, .updateTokenInfoTwapDivergence, .updateTokenInfoPriceMaxAge,
    .updateTokenInfoTwapMaxAge] : List ReserveConfigMode).map (configDiscriminator · + 1)

structure UpdateReserveConfigArgs extends UpdateReserveIxnsArgs where
  skipValidation : Bool
deriving DecidableEq, Repr

/-- The instructions that the client sends; a missing reserve is about to be initialised. -/
def parseForChangesReserveConfigAndGetIxs (reserve : Option Reserve)
    (reserveConfig : ReserveConfig) : Option (List UpdateReserveConfigArgs) := do
  let updateReserveIxnsArgs ← reserveConfigKeys.foldlM
    (fun args key ↦ handleConfigUpdate key reserve reserveConfig args) []
  some ((sortIxnsByPriority updateReserveIxnsArgs).map fun args ↦
    { args with
      skipValidation := modeMatches args.mode ∧
        ¬ reserve.any fun reserve ↦ minInitialDeposit ≤ (reserve.liquidity.availableAmount : ℕ) })

end Klend.Sdk
