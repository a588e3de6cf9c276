import Klend.Lending.MarketUpdates
import Klend.Lending.ReserveConfigUpdates

/-! # The bytes of a configuration update

A setting arrives as the number of its mode and the bytes that the mode reads. Too few
bytes abort the program.
-/

namespace Klend

open LendingMarketUpdate (decodeU8 decodeName)

/-- The modes alone, in the order of their numbers. -/
inductive ReserveConfigMode where
  | updateLoanToValuePct
  | updateMaxLiquidationBonusBps
  | updateLiquidationThresholdPct
  | updateProtocolLiquidationFee
  | updateProtocolTakeRate
  | updateFeesBorrowFee
  | updateFeesFlashLoanFee
  | updateFeesReferralFeeBps
  | updateDepositLimit
  | updateBorrowLimit
  | updateTokenInfoLowerHeuristic
  | updateTokenInfoUpperHeuristic
  | updateTokenInfoExpHeuristic
  | updateTokenInfoTwapDivergence
  | updateTokenInfoScopeTwap
  | updateTokenInfoScopeChain
  | updateTokenInfoName
  | updateTokenInfoPriceMaxAge
  | updateTokenInfoTwapMaxAge
  | updateScopePriceFeed
  | updatePythPrice
  | updateSwitchboardFeed
  | updateSwitchboardTwapFeed
  | updateBorrowRateCurve
  | updateEntireReserveConfig
  | updateDebtWithdrawalCap
  | updateDepositWithdrawalCap
  | updateDebtWithdrawalCapCurrentTotal
  | updateDepositWithdrawalCapCurrentTotal
  | updateBadDebtLiquidationBonusBps
  | updateMinLiquidationBonusBps
  | updateDeleveragingMarginCallPeriod
  | updateBorrowFactor
  | updateAssetTier
  | updateElevationGroup
  | updateDeleveragingThresholdDecreaseBpsPerDay
  | deprecatedUpdateMultiplierSideBoost
  | deprecatedUpdateMultiplierTagBoost
  | updateReserveStatus
  | updateFarmCollateral
  | updateFarmDebt
  | updateDisableUsageAsCollateralOutsideEmode
  | updateBlockBorrowingAboveUtilizationPct
  | updateBlockPriceUsage
  | updateBorrowLimitOutsideElevationGroup
  | updateBorrowLimitsInElevationGroupAgainstThisReserve
  | updateHostFixedInterestRateBps
  | updateAutodeleverageEnabled
  | updateDeleveragingBonusIncreaseBpsPerDay
deriving DecidableEq, Repr

namespace ReserveConfigMode

/-- `UpdateConfigMode::try_from`. -/
def tryFrom (n : ℕ) : Option ReserveConfigMode :=
  match n with
  | 1 => some updateLoanToValuePct
  | 2 => some updateMaxLiquidationBonusBps
  | 3 => some updateLiquidationThresholdPct
  | 4 => some updateProtocolLiquidationFee
  | 5 => some updateProtocolTakeRate
  | 6 => some updateFeesBorrowFee
  | 7 => some updateFeesFlashLoanFee
  | 8 => some updateFeesReferralFeeBps
  | 9 => some updateDepositLimit
  | 10 => some updateBorrowLimit
  | 11 => some updateTokenInfoLowerHeuristic
  | 12 => some updateTokenInfoUpperHeuristic
  | 13 => some updateTokenInfoExpHeuristic
  | 14 => some updateTokenInfoTwapDivergence
  | 15 => some updateTokenInfoScopeTwap
  | 16 => some updateTokenInfoScopeChain
  | 17 => some updateTokenInfoName
  | 18 => some updateTokenInfoPriceMaxAge
  | 19 => some updateTokenInfoTwapMaxAge
  | 20 => some updateScopePriceFeed
  | 21 => some updatePythPrice
  | 22 => some updateSwitchboardFeed
  | 23 => some updateSwitchboardTwapFeed
  | 24 => some updateBorrowRateCurve
  | 25 => some updateEntireReserveConfig
  | 26 => some updateDebtWithdrawalCap
  | 27 => some updateDepositWithdrawalCap
  | 28 => some updateDebtWithdrawalCapCurrentTotal
  | 29 => some updateDepositWithdrawalCapCurrentTotal
  | 30 => some updateBadDebtLiquidationBonusBps
  | 31 => some updateMinLiquidationBonusBps
  | 32 => some updateDeleveragingMarginCallPeriod
  | 33 => some updateBorrowFactor
  | 34 => some updateAssetTier
  | 35 => some updateElevationGroup
  | 36 => some updateDeleveragingThresholdDecreaseBpsPerDay
  | 37 => some deprecatedUpdateMultiplierSideBoost
  | 38 => some deprecatedUpdateMultiplierTagBoost
  | 39 => some updateReserveStatus
  | 40 => some updateFarmCollateral
  | 41 => some updateFarmDebt
  | 42 => some updateDisableUsageAsCollateralOutsideEmode
  | 43 => some updateBlockBorrowingAboveUtilizationPct
  | 44 => some updateBlockPriceUsage
  | 45 => some updateBorrowLimitOutsideElevationGroup
  | 46 => some updateBorrowLimitsInElevationGroupAgainstThisReserve
  | 47 => some updateHostFixedInterestRateBps
  | 48 => some updateAutodeleverageEnabled
  | 49 => some updateDeleveragingBonusIncreaseBpsPerDay
  | _ => none

end ReserveConfigMode

/-- `value[..n]`, turned into an array of `n` bytes. -/
def decodeBytes (n : ℕ) (value : List U8) : Result (List U8) :=
  if (value.take n).length = n then pure (value.take n) else abort

def ReserveStatus.decode (value : List U8) : Result ReserveStatus := do
  let status ← decodeU8 value
  unwrap (ReserveStatus.tryFrom status)

/-- The four entries of a chain, packed in one word. -/
def ScopeConfiguration.decodeChain (value : List U8) : Result (List U16) := do
  let packed ← Word.fromLeBytes 64 (value.take 8)
  let (chain, _) ← deserializeArray (Word.deserialize 16) 4 packed.toLeBytes
  pure chain

def CurvePoint.deserialize (bytes : List U8) : Result (CurvePoint × List U8) := do
  let (utilizationRateBps, bytes) ← Word.deserialize 32 bytes
  let (borrowRateBps, bytes) ← Word.deserialize 32 bytes
  pure ({ utilizationRateBps, borrowRateBps }, bytes)

def BorrowRateCurve.deserialize (bytes : List U8) : Result (BorrowRateCurve × List U8) := do
  let (points, bytes) ← deserializeArray CurvePoint.deserialize 11 bytes
  pure ({ points }, bytes)

/-- The limits of the 32 elevation groups. -/
def deserializeLimits (bytes : List U8) : Result ((Fin 32 → U64) × List U8) := do
  let (limits, bytes) ← deserializeArray (Word.deserialize 64) 32 bytes
  pure (fun i ↦ limits.getD i 0, bytes)

/-- `try_from_slice`, which leaves no byte unread. -/
def decodeLimits (value : List U8) : Result (Fin 32 → U64) := do
  let (limits, rest) ← deserializeLimits value
  if rest = [] then pure limits else abort

/-- Two's complement. -/
def I64.deserialize (bytes : List U8) : Result (I64 × List U8) := do
  let (n, bytes) ← Word.deserialize 64 bytes
  pure (I64.saturate (if (n : ℕ) < 2 ^ 63 then (n : ℕ) else (n : ℕ) - 2 ^ 64), bytes)

def WithdrawalCaps.deserialize (bytes : List U8) : Result (WithdrawalCaps × List U8) := do
  let (configCapacity, bytes) ← I64.deserialize bytes
  let (currentTotal, bytes) ← I64.deserialize bytes
  let (lastIntervalStartTimestamp, bytes) ← Word.deserialize 64 bytes
  let (configIntervalLengthSeconds, bytes) ← Word.deserialize 64 bytes
  pure ({ configCapacity, currentTotal, lastIntervalStartTimestamp, configIntervalLengthSeconds },
    bytes)

/-- The reserved bytes are read and dropped. -/
def skip (n : ℕ) (bytes : List U8) : Result (List U8) := do
  let (_, bytes) ← deserializeArray (Word.deserialize 8) n bytes
  pure bytes

def ReserveFees.deserialize (bytes : List U8) : Result (ReserveFees × List U8) := do
  let (borrowFeeSf, bytes) ← Word.deserialize 64 bytes
  let (flashLoanFeeSf, bytes) ← Word.deserialize 64 bytes
  let bytes ← skip 8 bytes
  pure ({ borrowFeeSf, flashLoanFeeSf }, bytes)

def TokenInfo.deserialize (bytes : List U8) : Result (TokenInfo × List U8) := do
  let name ← decodeName bytes
  let bytes ← skip 32 bytes
  let (lower, bytes) ← Word.deserialize 64 bytes
  let (upper, bytes) ← Word.deserialize 64 bytes
  let (exp, bytes) ← Word.deserialize 64 bytes
  let (maxTwapDivergenceBps, bytes) ← Word.deserialize 64 bytes
  let (maxAgePriceSeconds, bytes) ← Word.deserialize 64 bytes
  let (maxAgeTwapSeconds, bytes) ← Word.deserialize 64 bytes
  let (priceFeed, bytes) ← Pubkey.deserialize bytes
  let (priceChain, bytes) ← deserializeArray (Word.deserialize 16) 4 bytes
  let (twapChain, bytes) ← deserializeArray (Word.deserialize 16) 4 bytes
  let (priceAggregator, bytes) ← Pubkey.deserialize bytes
  let (twapAggregator, bytes) ← Pubkey.deserialize bytes
  let (price, bytes) ← Pubkey.deserialize bytes
  let (blockPriceUsage, bytes) ← Word.deserialize 8 bytes
  let bytes ← skip 159 bytes
  pure ({ name, heuristic := { lower, upper, exp }, maxTwapDivergenceBps, maxAgePriceSeconds,
          maxAgeTwapSeconds, scopeConfiguration := { priceFeed, priceChain, twapChain }
          switchboardConfiguration := { priceAggregator, twapAggregator }
          pythConfiguration := { price }, blockPriceUsage }, bytes)

/-- The borsh encoding of a configuration, its fields in their order. -/
def ReserveConfig.deserialize (bytes : List U8) : Result (ReserveConfig × List U8) := do
  let (status, bytes) ← Word.deserialize 8 bytes
  let (assetTier, bytes) ← Word.deserialize 8 bytes
  let (hostFixedInterestRateBps, bytes) ← Word.deserialize 16 bytes
  let bytes ← skip 10 bytes
  let (protocolTakeRatePct, bytes) ← Word.deserialize 8 bytes
  let (protocolLiquidationFeePct, bytes) ← Word.deserialize 8 bytes
  let (loanToValuePct, bytes) ← Word.deserialize 8 bytes
  let (liquidationThresholdPct, bytes) ← Word.deserialize 8 bytes
  let (minLiquidationBonusBps, bytes) ← Word.deserialize 16 bytes
  let (maxLiquidationBonusBps, bytes) ← Word.deserialize 16 bytes
  let (badDebtLiquidationBonusBps, bytes) ← Word.deserialize 16 bytes
  let (deleveragingMarginCallPeriodSecs, bytes) ← Word.deserialize 64 bytes
  let (deleveragingThresholdDecreaseBpsPerDay, bytes) ← Word.deserialize 64 bytes
  let (fees, bytes) ← ReserveFees.deserialize bytes
  let (borrowRateCurve, bytes) ← BorrowRateCurve.deserialize bytes
  let (borrowFactorPct, bytes) ← Word.deserialize 64 bytes
  let (depositLimit, bytes) ← Word.deserialize 64 bytes
  let (borrowLimit, bytes) ← Word.deserialize 64 bytes
  let (tokenInfo, bytes) ← TokenInfo.deserialize bytes
  let (depositWithdrawalCap, bytes) ← WithdrawalCaps.deserialize bytes
  let (debtWithdrawalCap, bytes) ← WithdrawalCaps.deserialize bytes
  let (elevationGroups, bytes) ← deserializeArray (Word.deserialize 8) 20 bytes
  let (disableUsageAsCollOutsideEmode, bytes) ← Word.deserialize 8 bytes
  let (utilizationLimitBlockBorrowingAbovePct, bytes) ← Word.deserialize 8 bytes
  let (autodeleverageEnabled, bytes) ← Word.deserialize 8 bytes
  let bytes ← skip 1 bytes
  let (borrowLimitOutsideElevationGroup, bytes) ← Word.deserialize 64 bytes
  let (borrowLimitAgainstThisCollateralInElevationGroup, bytes) ← deserializeLimits bytes
  let (deleveragingBonusIncreaseBpsPerDay, bytes) ← Word.deserialize 64 bytes
  pure ({ status, assetTier, hostFixedInterestRateBps, protocolTakeRatePct,
          protocolLiquidationFeePct, loanToValuePct, liquidationThresholdPct,
          minLiquidationBonusBps, maxLiquidationBonusBps, badDebtLiquidationBonusBps,
          deleveragingMarginCallPeriodSecs, deleveragingThresholdDecreaseBpsPerDay, fees,
          borrowRateCurve, borrowFactorPct, depositLimit, borrowLimit, tokenInfo,
          depositWithdrawalCap, debtWithdrawalCap, elevationGroups,
          disableUsageAsCollOutsideEmode, utilizationLimitBlockBorrowingAbovePct,
          autodeleverageEnabled, borrowLimitOutsideElevationGroup,
          borrowLimitAgainstThisCollateralInElevationGroup,
          deleveragingBonusIncreaseBpsPerDay }, bytes)

namespace UpdateConfigMode

def decodeWithdrawalCap (f : U64 → U64 → UpdateConfigMode) (value : List U8) :
    Result UpdateConfigMode := do
  let capacity ← Word.fromLeBytes 64 (value.take 8)
  let intervalLengthSeconds ← Word.fromLeBytes 64 ((value.take 16).drop 8)
  pure (f capacity intervalLengthSeconds)

/-- What `update_reserve_config` reads off the bytes. -/
def decode (mode : ReserveConfigMode) (value : List U8) : Result UpdateConfigMode :=
  match mode with
  | .updateLoanToValuePct => updateLoanToValuePct <$> decodeU8 value
  | .updateMaxLiquidationBonusBps =>
    updateMaxLiquidationBonusBps <$> Word.fromLeBytes 16 (value.take 2)
  | .updateLiquidationThresholdPct => updateLiquidationThresholdPct <$> decodeU8 value
  | .updateProtocolLiquidationFee => updateProtocolLiquidationFee <$> decodeU8 value
  | .updateProtocolTakeRate => updateProtocolTakeRate <$> decodeU8 value
  | .updateFeesBorrowFee => updateFeesBorrowFee <$> Word.fromLeBytes 64 (value.take 8)
  | .updateFeesFlashLoanFee => updateFeesFlashLoanFee <$> Word.fromLeBytes 64 (value.take 8)
  | .updateFeesReferralFeeBps => pure updateFeesReferralFeeBps
  | .updateDepositLimit => updateDepositLimit <$> Word.fromLeBytes 64 (value.take 8)
  | .updateBorrowLimit => updateBorrowLimit <$> Word.fromLeBytes 64 (value.take 8)
  | .updateTokenInfoLowerHeuristic =>
    updateTokenInfoLowerHeuristic <$> Word.fromLeBytes 64 (value.take 8)
  | .updateTokenInfoUpperHeuristic =>
    updateTokenInfoUpperHeuristic <$> Word.fromLeBytes 64 (value.take 8)
  | .updateTokenInfoExpHeuristic =>
    updateTokenInfoExpHeuristic <$> Word.fromLeBytes 64 (value.take 8)
  | .updateTokenInfoTwapDivergence =>
    updateTokenInfoTwapDivergence <$> Word.fromLeBytes 64 (value.take 8)
  | .updateTokenInfoScopeTwap => updateTokenInfoScopeTwap <$> ScopeConfiguration.decodeChain value
  | .updateTokenInfoScopeChain => updateTokenInfoScopeChain <$> ScopeConfiguration.decodeChain value
  | .updateTokenInfoName => updateTokenInfoName <$> decodeName value
  | .updateTokenInfoPriceMaxAge => updateTokenInfoPriceMaxAge <$> Word.fromLeBytes 64 (value.take 8)
  | .updateTokenInfoTwapMaxAge => updateTokenInfoTwapMaxAge <$> Word.fromLeBytes 64 (value.take 8)
  | .updateScopePriceFeed => updateScopePriceFeed <$> Pubkey.fromBytes (value.take 32)
  | .updatePythPrice => updatePythPrice <$> Pubkey.fromBytes (value.take 32)
  | .updateSwitchboardFeed => updateSwitchboardFeed <$> Pubkey.fromBytes (value.take 32)
  | .updateSwitchboardTwapFeed => updateSwitchboardTwapFeed <$> Pubkey.fromBytes (value.take 32)
  | .updateBorrowRateCurve =>
    (fun read ↦ updateBorrowRateCurve read.1) <$> BorrowRateCurve.deserialize value
  | .updateEntireReserveConfig =>
    (fun read ↦ updateEntireReserveConfig read.1) <$> ReserveConfig.deserialize value
  | .updateDebtWithdrawalCap => decodeWithdrawalCap updateDebtWithdrawalCap value
  | .updateDepositWithdrawalCap => decodeWithdrawalCap updateDepositWithdrawalCap value
  | .updateDebtWithdrawalCapCurrentTotal =>
    updateDebtWithdrawalCapCurrentTotal <$> Word.fromLeBytes 64 (value.take 8)
  | .updateDepositWithdrawalCapCurrentTotal =>
    updateDepositWithdrawalCapCurrentTotal <$> Word.fromLeBytes 64 (value.take 8)
  | .updateBadDebtLiquidationBonusBps =>
    updateBadDebtLiquidationBonusBps <$> Word.fromLeBytes 16 (value.take 2)
  | .updateMinLiquidationBonusBps =>
    updateMinLiquidationBonusBps <$> Word.fromLeBytes 16 (value.take 2)
  | .updateDeleveragingMarginCallPeriod =>
    updateDeleveragingMarginCallPeriod <$> Word.fromLeBytes 64 (value.take 8)
  | .updateBorrowFactor => updateBorrowFactor <$> Word.fromLeBytes 64 (value.take 8)
  | .updateAssetTier => updateAssetTier <$> decodeU8 value
  | .updateElevationGroup => updateElevationGroup <$> decodeBytes 20 value
  | .updateDeleveragingThresholdDecreaseBpsPerDay =>
    updateDeleveragingThresholdDecreaseBpsPerDay <$> Word.fromLeBytes 64 (value.take 8)
  | .deprecatedUpdateMultiplierSideBoost => pure deprecatedUpdateMultiplierSideBoost
  | .deprecatedUpdateMultiplierTagBoost => pure deprecatedUpdateMultiplierTagBoost
  | .updateReserveStatus => updateReserveStatus <$> ReserveStatus.decode value
  | .updateFarmCollateral => updateFarmCollateral <$> Pubkey.fromBytes (value.take 32)
  | .updateFarmDebt => updateFarmDebt <$> Pubkey.fromBytes (value.take 32)
  | .updateDisableUsageAsCollateralOutsideEmode =>
    updateDisableUsageAsCollateralOutsideEmode <$> decodeU8 value
  | .updateBlockBorrowingAboveUtilizationPct =>
    updateBlockBorrowingAboveUtilizationPct <$> decodeU8 value
  | .updateBlockPriceUsage => updateBlockPriceUsage <$> decodeU8 value
  | .updateBorrowLimitOutsideElevationGroup =>
    updateBorrowLimitOutsideElevationGroup <$> Word.fromLeBytes 64 (value.take 8)
  | .updateBorrowLimitsInElevationGroupAgainstThisReserve =>
    updateBorrowLimitsInElevationGroupAgainstThisReserve <$> decodeLimits value
  | .updateHostFixedInterestRateBps =>
    updateHostFixedInterestRateBps <$> Word.fromLeBytes 16 (value.take 2)
  | .updateAutodeleverageEnabled => updateAutodeleverageEnabled <$> decodeU8 value
  | .updateDeleveragingBonusIncreaseBpsPerDay =>
    updateDeleveragingBonusIncreaseBpsPerDay <$> Word.fromLeBytes 64 (value.take 8)

/-- The arguments of the instruction, whose mode must be known. -/
def readArgs (mode : ℕ) (value : List U8) : Result UpdateConfigMode :=
  match ReserveConfigMode.tryFrom mode with
  | none => .error .anchor
  | some mode => decode mode value

end UpdateConfigMode

/-- `update_reserve_config` on the number of a mode and its bytes. -/
def updateReserveConfigFromBytes (reserve : Reserve) (mode : ℕ) (value : List U8) :
    Result Reserve := do
  let mode ← UpdateConfigMode.readArgs mode value
  updateReserveConfig reserve mode

end Klend
