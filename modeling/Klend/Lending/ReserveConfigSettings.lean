import Klend.Lending.ReserveConfigBytes
import Klend.Library.Settings

/-! # The settings of a configuration

A configuration is seen as its settings, one for each mode that writes it. An update
overwrites the setting of its mode.
-/

namespace Klend

/-- The integers that words stand for. -/
def toInts {w : ℕ} (ns : List (Word w)) : List ℤ := ns.map fun n : Word w ↦ ((n : ℕ) : ℤ)

/-- What a setting can hold. -/
inductive SettingValue where
  | none
  | number (n : ℤ)
  | numbers (ns : List ℤ)
  | key (key : Pubkey)
  | curve (curve : BorrowRateCurve)
deriving DecidableEq

/-- The setting that a mode writes. -/
def ReserveConfig.setting (c : ReserveConfig) : ReserveConfigMode → SettingValue
  | .updateLoanToValuePct => .number (c.loanToValuePct : ℕ)
  | .updateMaxLiquidationBonusBps => .number (c.maxLiquidationBonusBps : ℕ)
  | .updateLiquidationThresholdPct => .number (c.liquidationThresholdPct : ℕ)
  | .updateProtocolLiquidationFee => .number (c.protocolLiquidationFeePct : ℕ)
  | .updateProtocolTakeRate => .number (c.protocolTakeRatePct : ℕ)
  | .updateFeesBorrowFee => .number (c.fees.borrowFeeSf : ℕ)
  | .updateFeesFlashLoanFee => .number (c.fees.flashLoanFeeSf : ℕ)
  | .updateDepositLimit => .number (c.depositLimit : ℕ)
  | .updateBorrowLimit => .number (c.borrowLimit : ℕ)
  | .updateTokenInfoLowerHeuristic => .number (c.tokenInfo.heuristic.lower : ℕ)
  | .updateTokenInfoUpperHeuristic => .number (c.tokenInfo.heuristic.upper : ℕ)
  | .updateTokenInfoExpHeuristic => .number (c.tokenInfo.heuristic.exp : ℕ)
  | .updateTokenInfoTwapDivergence => .number (c.tokenInfo.maxTwapDivergenceBps : ℕ)
  | .updateTokenInfoScopeTwap => .numbers (toInts c.tokenInfo.scopeConfiguration.twapChain)
  | .updateTokenInfoScopeChain => .numbers (toInts c.tokenInfo.scopeConfiguration.priceChain)
  | .updateTokenInfoName => .numbers (toInts c.tokenInfo.name.val)
  | .updateTokenInfoPriceMaxAge => .number (c.tokenInfo.maxAgePriceSeconds : ℕ)
  | .updateTokenInfoTwapMaxAge => .number (c.tokenInfo.maxAgeTwapSeconds : ℕ)
  | .updateScopePriceFeed => .key c.tokenInfo.scopeConfiguration.priceFeed
  | .updatePythPrice => .key c.tokenInfo.pythConfiguration.price
  | .updateSwitchboardFeed => .key c.tokenInfo.switchboardConfiguration.priceAggregator
  | .updateSwitchboardTwapFeed => .key c.tokenInfo.switchboardConfiguration.twapAggregator
  | .updateBorrowRateCurve => .curve c.borrowRateCurve
  | .updateDebtWithdrawalCap => .numbers [c.debtWithdrawalCap.configCapacity.val,
      ((c.debtWithdrawalCap.configIntervalLengthSeconds : ℕ) : ℤ)]
  | .updateDepositWithdrawalCap => .numbers [c.depositWithdrawalCap.configCapacity.val,
      ((c.depositWithdrawalCap.configIntervalLengthSeconds : ℕ) : ℤ)]
  | .updateDebtWithdrawalCapCurrentTotal => .number c.debtWithdrawalCap.currentTotal.val
  | .updateDepositWithdrawalCapCurrentTotal => .number c.depositWithdrawalCap.currentTotal.val
  | .updateBadDebtLiquidationBonusBps => .number (c.badDebtLiquidationBonusBps : ℕ)
  | .updateMinLiquidationBonusBps => .number (c.minLiquidationBonusBps : ℕ)
  | .updateDeleveragingMarginCallPeriod => .number (c.deleveragingMarginCallPeriodSecs : ℕ)
  | .updateBorrowFactor => .number (c.borrowFactorPct : ℕ)
  | .updateAssetTier => .number (c.assetTier : ℕ)
  | .updateElevationGroup => .numbers (toInts c.elevationGroups)
  | .updateDeleveragingThresholdDecreaseBpsPerDay =>
    .number (c.deleveragingThresholdDecreaseBpsPerDay : ℕ)
  | .updateReserveStatus => .number (c.status : ℕ)
  | .updateDisableUsageAsCollateralOutsideEmode => .number (c.disableUsageAsCollOutsideEmode : ℕ)
  | .updateBlockBorrowingAboveUtilizationPct =>
    .number (c.utilizationLimitBlockBorrowingAbovePct : ℕ)
  | .updateBlockPriceUsage => .number (c.tokenInfo.blockPriceUsage : ℕ)
  | .updateBorrowLimitOutsideElevationGroup => .number (c.borrowLimitOutsideElevationGroup : ℕ)
  | .updateBorrowLimitsInElevationGroupAgainstThisReserve =>
    .numbers (toInts (List.ofFn c.borrowLimitAgainstThisCollateralInElevationGroup))
  | .updateHostFixedInterestRateBps => .number (c.hostFixedInterestRateBps : ℕ)
  | .updateAutodeleverageEnabled => .number (c.autodeleverageEnabled : ℕ)
  | .updateDeleveragingBonusIncreaseBpsPerDay => .number (c.deleveragingBonusIncreaseBpsPerDay : ℕ)
  | _ => .none

section Determined

variable {c d : ReserveConfig}

theorem number_inj {w : ℕ} {a b : Word w}
    (h : SettingValue.number ((a : ℕ) : ℤ) = .number ((b : ℕ) : ℤ)) : a = b :=
  Fin.ext (Int.ofNat.inj (SettingValue.number.inj h))

theorem toInts_injective {w : ℕ} : Function.Injective (toInts (w := w)) :=
  List.map_injective_iff.2 fun _ _ h ↦ Fin.ext (Int.ofNat.inj h)

theorem numbers_inj {w : ℕ} {a b : List (Word w)}
    (h : SettingValue.numbers (toInts a) = .numbers (toInts b)) : a = b :=
  toInts_injective (SettingValue.numbers.inj h)

theorem ReserveConfig.tokenInfo_eq (h : c.setting = d.setting) : c.tokenInfo = d.tokenInfo := by
  have key m := congrFun h m
  apply TokenInfo.ext
  case name => exact Subtype.ext (numbers_inj (key .updateTokenInfoName))
  case heuristic =>
    exact PriceHeuristic.ext (number_inj (key .updateTokenInfoLowerHeuristic))
      (number_inj (key .updateTokenInfoUpperHeuristic))
      (number_inj (key .updateTokenInfoExpHeuristic))
  case maxTwapDivergenceBps => exact number_inj (key .updateTokenInfoTwapDivergence)
  case maxAgePriceSeconds => exact number_inj (key .updateTokenInfoPriceMaxAge)
  case maxAgeTwapSeconds => exact number_inj (key .updateTokenInfoTwapMaxAge)
  case scopeConfiguration =>
    exact ScopeConfiguration.ext (SettingValue.key.inj (key .updateScopePriceFeed))
      (numbers_inj (key .updateTokenInfoScopeChain))
      (numbers_inj (key .updateTokenInfoScopeTwap))
  case switchboardConfiguration =>
    exact SwitchboardConfiguration.ext (SettingValue.key.inj (key .updateSwitchboardFeed))
      (SettingValue.key.inj (key .updateSwitchboardTwapFeed))
  case pythConfiguration =>
    exact PythConfiguration.ext (SettingValue.key.inj (key .updatePythPrice))
  case blockPriceUsage => exact number_inj (key .updateBlockPriceUsage)

/-- A cap, up to the start of its interval. -/
def WithdrawalCaps.restarted (caps : WithdrawalCaps) (timestamp : U64) : WithdrawalCaps :=
  { caps with lastIntervalStartTimestamp := timestamp }

theorem WithdrawalCaps.restarted_eq {a b : WithdrawalCaps}
    (hcap : SettingValue.numbers [a.configCapacity.val, ((a.configIntervalLengthSeconds : ℕ) : ℤ)] =
      .numbers [b.configCapacity.val, ((b.configIntervalLengthSeconds : ℕ) : ℤ)])
    (htotal : SettingValue.number a.currentTotal.val = .number b.currentTotal.val) :
    a.restarted b.lastIntervalStartTimestamp = b := by
  obtain ⟨hcapacity, hrest⟩ := List.cons.inj (SettingValue.numbers.inj hcap)
  apply WithdrawalCaps.ext
  case configCapacity => exact Subtype.ext hcapacity
  case currentTotal => exact Subtype.ext (SettingValue.number.inj htotal)
  case lastIntervalStartTimestamp => rfl
  case configIntervalLengthSeconds => exact Fin.ext (Int.ofNat.inj (List.cons.inj hrest).1)

/-- Two configurations agree, up to the interval starts of their caps. -/
def ReserveConfig.InSync (c d : ReserveConfig) : Prop :=
  { c with
    depositWithdrawalCap :=
      c.depositWithdrawalCap.restarted d.depositWithdrawalCap.lastIntervalStartTimestamp
    debtWithdrawalCap :=
      c.debtWithdrawalCap.restarted d.debtWithdrawalCap.lastIntervalStartTimestamp } = d

theorem ReserveConfig.inSync_iff : c.InSync d ↔ c.setting = d.setting := by
  constructor
  · intro h
    rw [← h]
    funext m
    cases m <;> rfl
  · intro h
    have key m := congrFun h m
    have hdeposit := WithdrawalCaps.restarted_eq (key .updateDepositWithdrawalCap)
      (key .updateDepositWithdrawalCapCurrentTotal)
    have hdebt := WithdrawalCaps.restarted_eq (key .updateDebtWithdrawalCap)
      (key .updateDebtWithdrawalCapCurrentTotal)
    apply ReserveConfig.ext
    case status => exact number_inj (key .updateReserveStatus)
    case assetTier => exact number_inj (key .updateAssetTier)
    case hostFixedInterestRateBps => exact number_inj (key .updateHostFixedInterestRateBps)
    case protocolTakeRatePct => exact number_inj (key .updateProtocolTakeRate)
    case protocolLiquidationFeePct => exact number_inj (key .updateProtocolLiquidationFee)
    case loanToValuePct => exact number_inj (key .updateLoanToValuePct)
    case liquidationThresholdPct => exact number_inj (key .updateLiquidationThresholdPct)
    case minLiquidationBonusBps => exact number_inj (key .updateMinLiquidationBonusBps)
    case maxLiquidationBonusBps => exact number_inj (key .updateMaxLiquidationBonusBps)
    case badDebtLiquidationBonusBps => exact number_inj (key .updateBadDebtLiquidationBonusBps)
    case deleveragingMarginCallPeriodSecs =>
      exact number_inj (key .updateDeleveragingMarginCallPeriod)
    case deleveragingThresholdDecreaseBpsPerDay =>
      exact number_inj (key .updateDeleveragingThresholdDecreaseBpsPerDay)
    case fees =>
      exact ReserveFees.ext (number_inj (key .updateFeesBorrowFee))
        (number_inj (key .updateFeesFlashLoanFee))
    case borrowRateCurve => exact SettingValue.curve.inj (key .updateBorrowRateCurve)
    case borrowFactorPct => exact number_inj (key .updateBorrowFactor)
    case depositLimit => exact number_inj (key .updateDepositLimit)
    case borrowLimit => exact number_inj (key .updateBorrowLimit)
    case tokenInfo => exact tokenInfo_eq h
    case depositWithdrawalCap => exact hdeposit
    case debtWithdrawalCap => exact hdebt
    case elevationGroups => exact numbers_inj (key .updateElevationGroup)
    case disableUsageAsCollOutsideEmode =>
      exact number_inj (key .updateDisableUsageAsCollateralOutsideEmode)
    case utilizationLimitBlockBorrowingAbovePct =>
      exact number_inj (key .updateBlockBorrowingAboveUtilizationPct)
    case autodeleverageEnabled => exact number_inj (key .updateAutodeleverageEnabled)
    case borrowLimitOutsideElevationGroup =>
      exact number_inj (key .updateBorrowLimitOutsideElevationGroup)
    case borrowLimitAgainstThisCollateralInElevationGroup =>
      exact List.ofFn_injective
        (numbers_inj (key .updateBorrowLimitsInElevationGroupAgainstThisReserve))
    case deleveragingBonusIncreaseBpsPerDay =>
      exact number_inj (key .updateDeleveragingBonusIncreaseBpsPerDay)

end Determined

namespace UpdateConfigMode

def mode : UpdateConfigMode → ReserveConfigMode
  | .updateLoanToValuePct .. => .updateLoanToValuePct
  | .updateMaxLiquidationBonusBps .. => .updateMaxLiquidationBonusBps
  | .updateLiquidationThresholdPct .. => .updateLiquidationThresholdPct
  | .updateProtocolLiquidationFee .. => .updateProtocolLiquidationFee
  | .updateProtocolTakeRate .. => .updateProtocolTakeRate
  | .updateFeesBorrowFee .. => .updateFeesBorrowFee
  | .updateFeesFlashLoanFee .. => .updateFeesFlashLoanFee
  | .updateFeesReferralFeeBps => .updateFeesReferralFeeBps
  | .updateDepositLimit .. => .updateDepositLimit
  | .updateBorrowLimit .. => .updateBorrowLimit
  | .updateTokenInfoLowerHeuristic .. => .updateTokenInfoLowerHeuristic
  | .updateTokenInfoUpperHeuristic .. => .updateTokenInfoUpperHeuristic
  | .updateTokenInfoExpHeuristic .. => .updateTokenInfoExpHeuristic
  | .updateTokenInfoTwapDivergence .. => .updateTokenInfoTwapDivergence
  | .updateTokenInfoScopeTwap .. => .updateTokenInfoScopeTwap
  | .updateTokenInfoScopeChain .. => .updateTokenInfoScopeChain
  | .updateTokenInfoName .. => .updateTokenInfoName
  | .updateTokenInfoPriceMaxAge .. => .updateTokenInfoPriceMaxAge
  | .updateTokenInfoTwapMaxAge .. => .updateTokenInfoTwapMaxAge
  | .updateScopePriceFeed .. => .updateScopePriceFeed
  | .updatePythPrice .. => .updatePythPrice
  | .updateSwitchboardFeed .. => .updateSwitchboardFeed
  | .updateSwitchboardTwapFeed .. => .updateSwitchboardTwapFeed
  | .updateBorrowRateCurve .. => .updateBorrowRateCurve
  | .updateEntireReserveConfig .. => .updateEntireReserveConfig
  | .updateDebtWithdrawalCap .. => .updateDebtWithdrawalCap
  | .updateDepositWithdrawalCap .. => .updateDepositWithdrawalCap
  | .updateDebtWithdrawalCapCurrentTotal .. => .updateDebtWithdrawalCapCurrentTotal
  | .updateDepositWithdrawalCapCurrentTotal .. => .updateDepositWithdrawalCapCurrentTotal
  | .updateBadDebtLiquidationBonusBps .. => .updateBadDebtLiquidationBonusBps
  | .updateMinLiquidationBonusBps .. => .updateMinLiquidationBonusBps
  | .updateDeleveragingMarginCallPeriod .. => .updateDeleveragingMarginCallPeriod
  | .updateBorrowFactor .. => .updateBorrowFactor
  | .updateAssetTier .. => .updateAssetTier
  | .updateElevationGroup .. => .updateElevationGroup
  | .updateDeleveragingThresholdDecreaseBpsPerDay .. => .updateDeleveragingThresholdDecreaseBpsPerDay
  | .deprecatedUpdateMultiplierSideBoost => .deprecatedUpdateMultiplierSideBoost
  | .deprecatedUpdateMultiplierTagBoost => .deprecatedUpdateMultiplierTagBoost
  | .updateReserveStatus .. => .updateReserveStatus
  | .updateFarmCollateral .. => .updateFarmCollateral
  | .updateFarmDebt .. => .updateFarmDebt
  | .updateDisableUsageAsCollateralOutsideEmode .. => .updateDisableUsageAsCollateralOutsideEmode
  | .updateBlockBorrowingAboveUtilizationPct .. => .updateBlockBorrowingAboveUtilizationPct
  | .updateBlockPriceUsage .. => .updateBlockPriceUsage
  | .updateBorrowLimitOutsideElevationGroup .. => .updateBorrowLimitOutsideElevationGroup
  | .updateBorrowLimitsInElevationGroupAgainstThisReserve .. => .updateBorrowLimitsInElevationGroupAgainstThisReserve
  | .updateHostFixedInterestRateBps .. => .updateHostFixedInterestRateBps
  | .updateAutodeleverageEnabled .. => .updateAutodeleverageEnabled
  | .updateDeleveragingBonusIncreaseBpsPerDay .. => .updateDeleveragingBonusIncreaseBpsPerDay

/-- The value that an update carries. -/
def value : UpdateConfigMode → SettingValue
  | .updateLoanToValuePct new => .number (new : ℕ)
  | .updateMaxLiquidationBonusBps new => .number (new : ℕ)
  | .updateLiquidationThresholdPct new => .number (new : ℕ)
  | .updateProtocolLiquidationFee new => .number (new : ℕ)
  | .updateProtocolTakeRate new => .number (new : ℕ)
  | .updateFeesBorrowFee new => .number (new : ℕ)
  | .updateFeesFlashLoanFee new => .number (new : ℕ)
  | .updateDepositLimit new => .number (new : ℕ)
  | .updateBorrowLimit new => .number (new : ℕ)
  | .updateTokenInfoLowerHeuristic new => .number (new : ℕ)
  | .updateTokenInfoUpperHeuristic new => .number (new : ℕ)
  | .updateTokenInfoExpHeuristic new => .number (new : ℕ)
  | .updateTokenInfoTwapDivergence new => .number (new : ℕ)
  | .updateTokenInfoScopeTwap new => .numbers (toInts new)
  | .updateTokenInfoScopeChain new => .numbers (toInts new)
  | .updateTokenInfoName new => .numbers (toInts new.val)
  | .updateTokenInfoPriceMaxAge new => .number (new : ℕ)
  | .updateTokenInfoTwapMaxAge new => .number (new : ℕ)
  | .updateScopePriceFeed new => .key new
  | .updatePythPrice new => .key new
  | .updateSwitchboardFeed new => .key new
  | .updateSwitchboardTwapFeed new => .key new
  | .updateBorrowRateCurve new => .curve new
  | .updateDebtWithdrawalCap capacity interval =>
    .numbers [((capacity : ℕ) : ℤ), ((interval : ℕ) : ℤ)]
  | .updateDepositWithdrawalCap capacity interval =>
    .numbers [((capacity : ℕ) : ℤ), ((interval : ℕ) : ℤ)]
  | .updateDebtWithdrawalCapCurrentTotal new => .number (new : ℕ)
  | .updateDepositWithdrawalCapCurrentTotal new => .number (new : ℕ)
  | .updateBadDebtLiquidationBonusBps new => .number (new : ℕ)
  | .updateMinLiquidationBonusBps new => .number (new : ℕ)
  | .updateDeleveragingMarginCallPeriod new => .number (new : ℕ)
  | .updateBorrowFactor new => .number (new : ℕ)
  | .updateAssetTier new => .number (new : ℕ)
  | .updateElevationGroup new => .numbers (toInts new)
  | .updateDeleveragingThresholdDecreaseBpsPerDay new => .number (new : ℕ)
  | .updateReserveStatus new => .number (new.toU8 : ℕ)
  | .updateDisableUsageAsCollateralOutsideEmode new => .number (new : ℕ)
  | .updateBlockBorrowingAboveUtilizationPct new => .number (new : ℕ)
  | .updateBlockPriceUsage new => .number (new : ℕ)
  | .updateBorrowLimitOutsideElevationGroup new => .number (new : ℕ)
  | .updateBorrowLimitsInElevationGroupAgainstThisReserve new => .numbers (toInts (List.ofFn new))
  | .updateHostFixedInterestRateBps new => .number (new : ℕ)
  | .updateAutodeleverageEnabled new => .number (new : ℕ)
  | .updateDeleveragingBonusIncreaseBpsPerDay new => .number (new : ℕ)
  | _ => .none

end UpdateConfigMode

theorem WithdrawalCaps.configure_eq_ok {caps caps' : WithdrawalCaps} {capacity interval : U64} :
    caps.configure capacity interval = .ok caps' ↔
      ∃ x : I64, x.val = ((capacity : ℕ) : ℤ) ∧
        caps' = { caps with configCapacity := x, configIntervalLengthSeconds := interval } := by
  simp only [WithdrawalCaps.configure, bind_eq_ok, unwrap_eq_ok, pure_eq_ok,
    I64.checkedFit_eq_some, eq_comm (b := caps')]

theorem WithdrawalCaps.setCurrentTotal_eq_ok {caps caps' : WithdrawalCaps} {new : U64} :
    caps.setCurrentTotal new = .ok caps' ↔
      ∃ x : I64, x.val = ((new : ℕ) : ℤ) ∧ caps' = { caps with currentTotal := x } := by
  simp only [WithdrawalCaps.setCurrentTotal, bind_eq_ok, unwrap_eq_ok, pure_eq_ok,
    I64.checkedFit_eq_some, eq_comm (b := caps')]

theorem ReserveConfig.setting_update {c c' : ReserveConfig} {u : UpdateConfigMode}
    (h : c.update u = .ok c') (hu : u.mode ≠ .updateEntireReserveConfig) :
    c'.setting = Function.update c.setting u.mode u.value := by
  cases u with
  | updateEntireReserveConfig => exact absurd rfl hu
  | deprecatedUpdateMultiplierSideBoost => cases h
  | deprecatedUpdateMultiplierTagBoost => cases h
  | updateDebtWithdrawalCap capacity interval =>
    simp only [ReserveConfig.update, bind_eq_ok, pure_eq_ok, WithdrawalCaps.configure_eq_ok] at h
    obtain ⟨_, ⟨x, hx, rfl⟩, rfl⟩ := h
    rw [UpdateConfigMode.value, ← hx]
    funext m
    cases m <;> rfl
  | updateDepositWithdrawalCap capacity interval =>
    simp only [ReserveConfig.update, bind_eq_ok, pure_eq_ok, WithdrawalCaps.configure_eq_ok] at h
    obtain ⟨_, ⟨x, hx, rfl⟩, rfl⟩ := h
    rw [UpdateConfigMode.value, ← hx]
    funext m
    cases m <;> rfl
  | updateDebtWithdrawalCapCurrentTotal new =>
    simp only [ReserveConfig.update, bind_eq_ok, pure_eq_ok, WithdrawalCaps.setCurrentTotal_eq_ok]
      at h
    obtain ⟨_, ⟨x, hx, rfl⟩, rfl⟩ := h
    rw [UpdateConfigMode.value, ← hx]
    funext m
    cases m <;> rfl
  | updateDepositWithdrawalCapCurrentTotal new =>
    simp only [ReserveConfig.update, bind_eq_ok, pure_eq_ok, WithdrawalCaps.setCurrentTotal_eq_ok]
      at h
    obtain ⟨_, ⟨x, hx, rfl⟩, rfl⟩ := h
    rw [UpdateConfigMode.value, ← hx]
    funext m
    cases m <;> rfl
  | updateReserveStatus =>
    simp only [ReserveConfig.update, bind_eq_ok, pure_eq_ok] at h
    obtain ⟨_, -, rfl⟩ := h
    funext m
    cases m <;> rfl
  | updateTokenInfoName =>
    simp only [ReserveConfig.update, bind_eq_ok, pure_eq_ok] at h
    obtain ⟨_, -, _, -, rfl⟩ := h
    funext m
    cases m <;> rfl
  | _ =>
    obtain rfl := pure_eq_ok.1 h
    funext m
    cases m <;> rfl

/-- An update fails only at a capacity that is no signed word, and where the log reads the old value,
at one that cannot be read. -/
def UpdateConfigMode.Admissible (u : UpdateConfigMode) (c : ReserveConfig) : Prop :=
  match u with
  | .updateDebtWithdrawalCap capacity _ => (capacity : ℕ) < 2 ^ 63
  | .updateDepositWithdrawalCap capacity _ => (capacity : ℕ) < 2 ^ 63
  | .updateDebtWithdrawalCapCurrentTotal new => (new : ℕ) < 2 ^ 63
  | .updateDepositWithdrawalCapCurrentTotal new => (new : ℕ) < 2 ^ 63
  | .deprecatedUpdateMultiplierSideBoost => False
  | .deprecatedUpdateMultiplierTagBoost => False
  | .updateReserveStatus _ => ∃ status, ReserveStatus.tryFrom c.status = some status
  | .updateTokenInfoName new => new.fromUtf8 = .ok () ∧ c.tokenInfo.name.fromUtf8 = .ok ()
  | _ => True

theorem I64.exists_val_eq {n : ℕ} : (∃ x : I64, x.val = (n : ℤ)) ↔ n < 2 ^ 63 := by
  constructor
  · rintro ⟨x, hx⟩
    have := x.property.2
    omega
  · intro h
    exact ⟨⟨n, by omega⟩, rfl⟩

theorem ReserveConfig.update_isOk_iff {c : ReserveConfig} {u : UpdateConfigMode} :
    (∃ c', c.update u = .ok c') ↔ u.Admissible c := by
  cases u with
  | deprecatedUpdateMultiplierSideBoost => exact iff_of_false (fun ⟨_, h⟩ ↦ nomatch h) id
  | deprecatedUpdateMultiplierTagBoost => exact iff_of_false (fun ⟨_, h⟩ ↦ nomatch h) id
  | updateDebtWithdrawalCap | updateDepositWithdrawalCap =>
    simp only [ReserveConfig.update, bind_eq_ok, pure_eq_ok, WithdrawalCaps.configure_eq_ok,
      UpdateConfigMode.Admissible, ← I64.exists_val_eq]
    constructor
    · rintro ⟨_, _, ⟨x, hx, -⟩, -⟩
      exact ⟨x, hx⟩
    · rintro ⟨x, hx⟩
      exact ⟨_, _, ⟨x, hx, rfl⟩, rfl⟩
  | updateDebtWithdrawalCapCurrentTotal | updateDepositWithdrawalCapCurrentTotal =>
    simp only [ReserveConfig.update, bind_eq_ok, pure_eq_ok, WithdrawalCaps.setCurrentTotal_eq_ok,
      UpdateConfigMode.Admissible, ← I64.exists_val_eq]
    constructor
    · rintro ⟨_, _, ⟨x, hx, -⟩, -⟩
      exact ⟨x, hx⟩
    · rintro ⟨x, hx⟩
      exact ⟨_, _, ⟨x, hx, rfl⟩, rfl⟩
  | updateReserveStatus =>
    simp only [ReserveConfig.update, ReserveConfig.getStatus, bind_eq_ok, pure_eq_ok, unwrap_eq_ok,
      UpdateConfigMode.Admissible]
    constructor
    · rintro ⟨_, status, h, -⟩
      exact ⟨status, h⟩
    · rintro ⟨status, h⟩
      exact ⟨_, status, h, rfl⟩
  | updateTokenInfoName =>
    simp only [ReserveConfig.update, bind_eq_ok, pure_eq_ok, UpdateConfigMode.Admissible]
    constructor
    · rintro ⟨_, _, hnew, _, hold, -⟩
      exact ⟨hnew, hold⟩
    · rintro ⟨hnew, hold⟩
      exact ⟨_, _, hnew, _, hold, rfl⟩
  | _ => exact iff_of_true ⟨_, rfl⟩ trivial

theorem UpdateConfigMode.Admissible.congr {u : UpdateConfigMode} {c d : ReserveConfig}
    (h : c.setting u.mode = d.setting u.mode) (hc : u.Admissible c) : u.Admissible d := by
  cases u with
  | updateReserveStatus =>
    have hstatus : c.status = d.status := number_inj h
    rwa [Admissible, hstatus] at hc
  | updateTokenInfoName =>
    have hname : c.tokenInfo.name = d.tokenInfo.name := Subtype.ext (numbers_inj h)
    rwa [Admissible, hname] at hc
  | _ => exact hc

end Klend
