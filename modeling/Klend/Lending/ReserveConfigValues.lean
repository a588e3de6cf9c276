import Klend.Lending.ReserveConfigSettings
import Mathlib.Data.Vector.Basic

/-! # The values of a configuration update

The program's own encoding of the values, and what its update reads off each of them.
-/

namespace Klend

open LendingMarketUpdate (decodeU8 decodeName)

section Encoders

def CurvePoint.serialize (point : CurvePoint) : List U8 :=
  point.utilizationRateBps.toLeBytes ++ point.borrowRateBps.toLeBytes

def BorrowRateCurve.serialize (curve : BorrowRateCurve) : List U8 :=
  curve.points.flatMap CurvePoint.serialize

/-- Two's complement. -/
def I64.toLeBytes (x : I64) : List U8 :=
  Word.toLeBytes (w := 64) ⟨(x.val % 2 ^ 64).toNat, by omega⟩

def WithdrawalCaps.serialize (caps : WithdrawalCaps) : List U8 :=
  caps.configCapacity.toLeBytes ++ caps.currentTotal.toLeBytes ++
    caps.lastIntervalStartTimestamp.toLeBytes ++ caps.configIntervalLengthSeconds.toLeBytes

/-- What a stored configuration holds besides its fields. -/
structure ReservedBytes where
  head : List.Vector U8 10
  fees : List.Vector U8 8
  tokenInfo : List.Vector U8 159
  tail : List.Vector U8 1

def ReserveFees.serialize (f : ReserveFees) (reserved : List.Vector U8 8) : List U8 :=
  f.borrowFeeSf.toLeBytes ++ f.flashLoanFeeSf.toLeBytes ++ reserved.toList

def TokenInfo.serialize (t : TokenInfo) (reserved : List.Vector U8 159) : List U8 :=
  t.name.val ++ t.heuristic.lower.toLeBytes ++ t.heuristic.upper.toLeBytes ++
    t.heuristic.exp.toLeBytes ++ t.maxTwapDivergenceBps.toLeBytes ++
    t.maxAgePriceSeconds.toLeBytes ++ t.maxAgeTwapSeconds.toLeBytes ++
    Pubkey.toBytes t.scopeConfiguration.priceFeed ++
    t.scopeConfiguration.priceChain.flatMap Word.toLeBytes ++
    t.scopeConfiguration.twapChain.flatMap Word.toLeBytes ++
    Pubkey.toBytes t.switchboardConfiguration.priceAggregator ++
    Pubkey.toBytes t.switchboardConfiguration.twapAggregator ++
    Pubkey.toBytes t.pythConfiguration.price ++ t.blockPriceUsage.toLeBytes ++ reserved.toList

/-- The borsh encoding, field by field. -/
def ReserveConfig.serialize (c : ReserveConfig) (reserved : ReservedBytes) : List U8 :=
  c.status.toLeBytes ++ c.assetTier.toLeBytes ++ c.hostFixedInterestRateBps.toLeBytes ++
    reserved.head.toList ++ c.protocolTakeRatePct.toLeBytes ++
    c.protocolLiquidationFeePct.toLeBytes ++ c.loanToValuePct.toLeBytes ++
    c.liquidationThresholdPct.toLeBytes ++ c.minLiquidationBonusBps.toLeBytes ++
    c.maxLiquidationBonusBps.toLeBytes ++ c.badDebtLiquidationBonusBps.toLeBytes ++
    c.deleveragingMarginCallPeriodSecs.toLeBytes ++
    c.deleveragingThresholdDecreaseBpsPerDay.toLeBytes ++ c.fees.serialize reserved.fees ++
    c.borrowRateCurve.serialize ++ c.borrowFactorPct.toLeBytes ++ c.depositLimit.toLeBytes ++
    c.borrowLimit.toLeBytes ++ c.tokenInfo.serialize reserved.tokenInfo ++
    c.depositWithdrawalCap.serialize ++ c.debtWithdrawalCap.serialize ++
    c.elevationGroups.flatMap Word.toLeBytes ++ c.disableUsageAsCollOutsideEmode.toLeBytes ++
    c.utilizationLimitBlockBorrowingAbovePct.toLeBytes ++ c.autodeleverageEnabled.toLeBytes ++
    reserved.tail.toList ++ c.borrowLimitOutsideElevationGroup.toLeBytes ++
    (List.ofFn c.borrowLimitAgainstThisCollateralInElevationGroup).flatMap Word.toLeBytes ++
    c.deleveragingBonusIncreaseBpsPerDay.toLeBytes

end Encoders

inductive UpdateReserveConfigValue where
  | bool (v : Bool)
  | u8 (v : U8)
  | u8Tuple (mode value : U8)
  | u16 (v : U16)
  | u64 (v : U64)
  | pubkey (v : Pubkey)
  | scopeChain (chain : List.Vector U16 4)
  | name (v : NameBytes)
  | borrowRateCurve (curve : {curve : BorrowRateCurve // curve.points.length = 11})
  | full (config : {c : ReserveConfig // c.ArraysSized}) (reserved : ReservedBytes)
  | withdrawalCap (cap interval : U64)
  | elevationGroups (groups : List.Vector U8 20)
  | elevationGroupBorrowLimits (limits : Fin 32 → U64)

def UpdateReserveConfigValue.toRawBytes : UpdateReserveConfigValue → List U8
  | bool v => [if v then 1 else 0]
  | u8 v => [v]
  | u16 v => v.toLeBytes
  | u64 v => v.toLeBytes
  | pubkey v => Pubkey.toBytes v
  | scopeChain chain => chain.toList.flatMap Word.toLeBytes
  | name v => v.val
  | full config reserved => config.val.serialize reserved
  | borrowRateCurve curve => curve.val.serialize
  | withdrawalCap cap interval => cap.toLeBytes ++ interval.toLeBytes
  | elevationGroups groups => groups.toList
  | u8Tuple mode value => [mode, value]
  | elevationGroupBorrowLimits limits => (List.ofFn limits).flatMap Word.toLeBytes

/-- The types of the values; a boolean is a byte. -/
inductive UpdateValueType where
  | u8
  | u8Tuple
  | u16
  | u64
  | pubkey
  | scopeChain
  | name
  | borrowRateCurve
  | full
  | withdrawalCap
  | elevationGroups
  | elevationGroupBorrowLimits
deriving DecidableEq

namespace UpdateReserveConfigValue

def type : UpdateReserveConfigValue → UpdateValueType
  | bool _ | u8 _ => .u8
  | u8Tuple .. => .u8Tuple
  | u16 _ => .u16
  | u64 _ => .u64
  | pubkey _ => .pubkey
  | scopeChain _ => .scopeChain
  | name _ => .name
  | borrowRateCurve _ => .borrowRateCurve
  | full .. => .full
  | withdrawalCap .. => .withdrawalCap
  | elevationGroups _ => .elevationGroups
  | elevationGroupBorrowLimits _ => .elevationGroupBorrowLimits

/-- What a value makes of the setting it is written to. -/
def setting : UpdateReserveConfigValue → SettingValue
  | bool v => .number (if v then 1 else 0)
  | u8 v => .number (v : ℕ)
  | u16 v => .number (v : ℕ)
  | u64 v => .number (v : ℕ)
  | pubkey v => .key v
  | scopeChain chain => .numbers (toInts chain.toList)
  | name v => .numbers (toInts v.val)
  | borrowRateCurve curve => .curve curve.val
  | withdrawalCap cap interval => .numbers [((cap : ℕ) : ℤ), ((interval : ℕ) : ℤ)]
  | elevationGroups groups => .numbers (toInts groups.toList)
  | elevationGroupBorrowLimits limits => .numbers (toInts (List.ofFn limits))
  | u8Tuple .. | full .. => .none

end UpdateReserveConfigValue

/-- The type of a mode's value. The deprecated modes and the referral fee, which is only logged,
have none. -/
def ReserveConfigMode.valueType : ReserveConfigMode → Option UpdateValueType
  | updateLoanToValuePct | updateLiquidationThresholdPct | updateProtocolLiquidationFee
  | updateProtocolTakeRate | updateAssetTier | updateReserveStatus
  | updateDisableUsageAsCollateralOutsideEmode | updateBlockBorrowingAboveUtilizationPct
  | updateBlockPriceUsage | updateAutodeleverageEnabled => some .u8
  | updateMaxLiquidationBonusBps | updateBadDebtLiquidationBonusBps | updateMinLiquidationBonusBps
  | updateHostFixedInterestRateBps => some .u16
  | updateFeesBorrowFee | updateFeesFlashLoanFee | updateDepositLimit | updateBorrowLimit
  | updateTokenInfoLowerHeuristic | updateTokenInfoUpperHeuristic | updateTokenInfoExpHeuristic
  | updateTokenInfoTwapDivergence | updateTokenInfoPriceMaxAge | updateTokenInfoTwapMaxAge
  | updateDebtWithdrawalCapCurrentTotal | updateDepositWithdrawalCapCurrentTotal
  | updateDeleveragingMarginCallPeriod | updateBorrowFactor
  | updateDeleveragingThresholdDecreaseBpsPerDay | updateBorrowLimitOutsideElevationGroup
  | updateDeleveragingBonusIncreaseBpsPerDay => some .u64
  | updateScopePriceFeed | updatePythPrice | updateSwitchboardFeed | updateSwitchboardTwapFeed
  | updateFarmCollateral | updateFarmDebt => some .pubkey
  | updateTokenInfoScopeTwap | updateTokenInfoScopeChain => some .scopeChain
  | updateTokenInfoName => some .name
  | updateBorrowRateCurve => some .borrowRateCurve
  | updateEntireReserveConfig => some .full
  | updateDebtWithdrawalCap | updateDepositWithdrawalCap => some .withdrawalCap
  | updateElevationGroup => some .elevationGroups
  | updateBorrowLimitsInElevationGroupAgainstThisReserve => some .elevationGroupBorrowLimits
  | updateFeesReferralFeeBps | deprecatedUpdateMultiplierSideBoost
  | deprecatedUpdateMultiplierTagBoost => none

section Readers

variable {w n : ℕ} {rest : List U8}

theorem fromLeBytes_take (hw : 8 ∣ w) (n : Word w) :
    Word.fromLeBytes w (n.toLeBytes.take (w / 8)) = .ok n := by
  have h := Word.fromLeBytes_take_append hw n []
  rwa [List.append_nil] at h

theorem fromBytes_take (key : Pubkey) :
    Pubkey.fromBytes ((Pubkey.toBytes key).take 32) = .ok key := by
  rw [List.take_of_length_le Pubkey.length_toBytes.le, Pubkey.fromBytes_toBytes]

theorem toLeBytes_byte (n : U8) : n.toLeBytes = [n] := Digits.digits_value [n]

theorem flatMap_bytes (bytes : List U8) : bytes.flatMap Word.toLeBytes = bytes := by
  have hbyte : (Word.toLeBytes : U8 → List U8) = fun byte ↦ [byte] := funext toLeBytes_byte
  rw [hbyte, List.flatMap_singleton']

theorem decodeU8_byte (n : U8) : decodeU8 n.toLeBytes = .ok n := by
  rw [toLeBytes_byte]
  rfl

theorem decodeBytes_bytes {bytes : List U8} (h : bytes.length = n) :
    decodeBytes n bytes = .ok bytes := by
  have htake : bytes.take n = bytes := List.take_of_length_le h.le
  rw [decodeBytes, htake, if_pos h]
  rfl

theorem decodeName_append (name : NameBytes) : decodeName (name.val ++ rest) = .ok name := by
  have htake : (name.val ++ rest).take 32 = name.val := List.take_left' name.property
  rw [decodeName, dif_pos (by rw [htake]; exact name.property)]
  exact congrArg Except.ok (Subtype.ext htake)

theorem decodeName_bytes (name : NameBytes) : decodeName name.val = .ok name := by
  have h := @decodeName_append [] name
  rwa [List.append_nil] at h

theorem deserializeArray_words (hw : 8 ∣ w) {ns : List (Word w)} (h : ns.length = n) :
    deserializeArray (Word.deserialize w) n (ns.flatMap Word.toLeBytes ++ rest) =
      .ok (ns, rest) := by
  rw [← h]
  exact deserializeArray_append (Word.deserialize_append hw) ns rest

theorem deserialize_words (hw : 8 ∣ w) (ns : List (Word w)) :
    deserializeArray (Word.deserialize w) ns.length (ns.flatMap Word.toLeBytes) = .ok (ns, []) := by
  have h := @deserializeArray_words w _ [] hw ns rfl
  rwa [List.append_nil] at h

theorem skip_append {bytes : List U8} (h : bytes.length = n) :
    skip n (bytes ++ rest) = .ok rest := by
  have hbytes := @deserializeArray_words 8 n rest (by decide) bytes h
  rw [flatMap_bytes] at hbytes
  rw [skip, hbytes]
  rfl

theorem decodeChain_words {chain : List U16} (h : chain.length = 4) :
    ScopeConfiguration.decodeChain (chain.flatMap Word.toLeBytes) = .ok chain := by
  have hlength : (chain.flatMap Word.toLeBytes).length = 8 := by simp [h]
  obtain ⟨packed, hpacked, hbytes⟩ := @Word.exists_fromLeBytes 64 _ (by decide) hlength
  have hwords := deserialize_words (by decide) chain
  rw [h] at hwords
  rw [ScopeConfiguration.decodeChain, List.take_of_length_le hlength.le, hpacked]
  simp only [ok_bind, hbytes, hwords]
  rfl

theorem deserializeLimits_append (limits : Fin 32 → U64) :
    deserializeLimits ((List.ofFn limits).flatMap Word.toLeBytes ++ rest) = .ok (limits, rest) := by
  rw [deserializeLimits, deserializeArray_words (by decide) List.length_ofFn]
  refine congrArg (fun limits ↦ Except.ok (limits, rest)) (funext fun i ↦ ?_)
  rw [List.getD_eq_getElem?_getD, List.getElem?_ofFn, dif_pos i.isLt]
  rfl

theorem decodeLimits_words (limits : Fin 32 → U64) :
    decodeLimits ((List.ofFn limits).flatMap Word.toLeBytes) = .ok limits := by
  have h := @deserializeLimits_append [] limits
  rw [List.append_nil] at h
  rw [decodeLimits, h]
  rfl

theorem decodeWithdrawalCap_words {f : U64 → U64 → UpdateConfigMode} (capacity interval : U64) :
    UpdateConfigMode.decodeWithdrawalCap f (capacity.toLeBytes ++ interval.toLeBytes) =
      .ok (f capacity interval) := by
  have hlength : capacity.toLeBytes.length = 8 := Word.length_toLeBytes
  have hfirst : Word.fromLeBytes 64 ((capacity.toLeBytes ++ interval.toLeBytes).take 8) =
      .ok capacity :=
    Word.fromLeBytes_take_append (by decide) capacity _
  have hsecond : ((capacity.toLeBytes ++ interval.toLeBytes).take 16).drop 8 =
      interval.toLeBytes := by
    rw [List.take_of_length_le (by simp), List.drop_left' hlength]
  rw [UpdateConfigMode.decodeWithdrawalCap, hfirst, hsecond]
  simp only [ok_bind, Word.fromLeBytes_toLeBytes (show 8 ∣ 64 by decide)]
  rfl

end Readers

section Records

variable {rest : List U8}

theorem CurvePoint.deserialize_append (point : CurvePoint) (rest : List U8) :
    deserialize (point.serialize ++ rest) = .ok (point, rest) := by
  rw [deserialize, serialize, List.append_assoc, Word.deserialize_append (by decide)]
  simp only [ok_bind, Word.deserialize_append (show 8 ∣ 32 by decide)]
  rfl

theorem BorrowRateCurve.deserialize_append {curve : BorrowRateCurve}
    (h : curve.points.length = 11) :
    deserialize (curve.serialize ++ rest) = .ok (curve, rest) := by
  have hpoints := deserializeArray_append CurvePoint.deserialize_append curve.points rest
  rw [h] at hpoints
  rw [deserialize, serialize, hpoints]
  rfl

theorem I64.deserialize_append (x : I64) : deserialize (x.toLeBytes ++ rest) = .ok (x, rest) := by
  rw [deserialize, toLeBytes, Word.deserialize_append (by decide)]
  refine congrArg (fun x ↦ Except.ok (x, rest)) (Subtype.ext ?_)
  have := x.property
  simp only [saturate]
  split <;> omega

theorem WithdrawalCaps.deserialize_append (caps : WithdrawalCaps) :
    deserialize (caps.serialize ++ rest) = .ok (caps, rest) := by
  simp only [deserialize, serialize, List.append_assoc, I64.deserialize_append, ok_bind,
    Word.deserialize_append (show 8 ∣ 64 by decide)]
  rfl

theorem ReserveFees.deserialize_append (f : ReserveFees) (reserved : List.Vector U8 8) :
    deserialize (f.serialize reserved ++ rest) = .ok (f, rest) := by
  simp only [deserialize, serialize, List.append_assoc, ok_bind,
    Word.deserialize_append (show 8 ∣ 64 by decide), skip_append reserved.toList_length]
  rfl

theorem TokenInfo.deserialize_append {t : TokenInfo} (reserved : List.Vector U8 159)
    (hprice : t.scopeConfiguration.priceChain.length = 4)
    (htwap : t.scopeConfiguration.twapChain.length = 4) :
    deserialize (t.serialize reserved ++ rest) = .ok (t, rest) := by
  simp only [deserialize, serialize, List.append_assoc, decodeName_append,
    skip_append t.name.property, ok_bind, Word.deserialize_append (show 8 ∣ 64 by decide),
    Pubkey.deserialize_append, deserializeArray_words (show 8 ∣ 16 by decide) hprice,
    deserializeArray_words (show 8 ∣ 16 by decide) htwap,
    Word.deserialize_append (show 8 ∣ 8 by decide), skip_append reserved.toList_length]
  rfl

theorem ReserveConfig.deserialize_append {c : ReserveConfig} (reserved : ReservedBytes)
    (h : c.ArraysSized) : deserialize (c.serialize reserved ++ rest) = .ok (c, rest) := by
  delta serialize
  simp only [List.append_assoc]
  rw [deserialize]
  refine (bind_of_eq_ok (Word.deserialize_append (by decide) _ _)).trans ?_
  refine (bind_of_eq_ok (Word.deserialize_append (by decide) _ _)).trans ?_
  refine (bind_of_eq_ok (Word.deserialize_append (by decide) _ _)).trans ?_
  refine (bind_of_eq_ok (skip_append reserved.head.toList_length)).trans ?_
  refine (bind_of_eq_ok (Word.deserialize_append (by decide) _ _)).trans ?_
  refine (bind_of_eq_ok (Word.deserialize_append (by decide) _ _)).trans ?_
  refine (bind_of_eq_ok (Word.deserialize_append (by decide) _ _)).trans ?_
  refine (bind_of_eq_ok (Word.deserialize_append (by decide) _ _)).trans ?_
  refine (bind_of_eq_ok (Word.deserialize_append (by decide) _ _)).trans ?_
  refine (bind_of_eq_ok (Word.deserialize_append (by decide) _ _)).trans ?_
  refine (bind_of_eq_ok (Word.deserialize_append (by decide) _ _)).trans ?_
  refine (bind_of_eq_ok (Word.deserialize_append (by decide) _ _)).trans ?_
  refine (bind_of_eq_ok (Word.deserialize_append (by decide) _ _)).trans ?_
  refine (bind_of_eq_ok (ReserveFees.deserialize_append _ _)).trans ?_
  refine (bind_of_eq_ok (BorrowRateCurve.deserialize_append h.points)).trans ?_
  refine (bind_of_eq_ok (Word.deserialize_append (by decide) _ _)).trans ?_
  refine (bind_of_eq_ok (Word.deserialize_append (by decide) _ _)).trans ?_
  refine (bind_of_eq_ok (Word.deserialize_append (by decide) _ _)).trans ?_
  refine (bind_of_eq_ok (TokenInfo.deserialize_append _ h.priceChain h.twapChain)).trans ?_
  refine (bind_of_eq_ok (WithdrawalCaps.deserialize_append _)).trans ?_
  refine (bind_of_eq_ok (WithdrawalCaps.deserialize_append _)).trans ?_
  refine (bind_of_eq_ok (deserializeArray_words (by decide) h.elevationGroups)).trans ?_
  refine (bind_of_eq_ok (Word.deserialize_append (by decide) _ _)).trans ?_
  refine (bind_of_eq_ok (Word.deserialize_append (by decide) _ _)).trans ?_
  refine (bind_of_eq_ok (Word.deserialize_append (by decide) _ _)).trans ?_
  refine (bind_of_eq_ok (skip_append reserved.tail.toList_length)).trans ?_
  refine (bind_of_eq_ok (Word.deserialize_append (by decide) _ _)).trans ?_
  refine (bind_of_eq_ok (deserializeLimits_append _)).trans ?_
  refine (bind_of_eq_ok (Word.deserialize_append (by decide) _ _)).trans ?_
  rfl

end Records

section Values

variable {v : UpdateReserveConfigValue} {m : ReserveConfigMode} {u : UpdateConfigMode}

/-- What an update writes, the keys of the farms among it. -/
def UpdateConfigMode.written : UpdateConfigMode → SettingValue
  | .updateFarmCollateral new => .key new
  | .updateFarmDebt new => .key new
  | u => u.value

namespace UpdateReserveConfigValue

theorem of_u8 (h : some UpdateValueType.u8 = some v.type) :
    ∃ n : U8, decodeU8 v.toRawBytes = .ok n ∧ v.setting = .number (n : ℕ) := by
  cases v with
  | bool b => exact ⟨if b then 1 else 0, rfl, by cases b <;> rfl⟩
  | u8 n => exact ⟨n, rfl, rfl⟩
  | _ => cases h

theorem of_u16 (h : some UpdateValueType.u16 = some v.type) :
    ∃ n : U16, Word.fromLeBytes 16 (v.toRawBytes.take 2) = .ok n ∧ v.setting = .number (n : ℕ) := by
  cases v with
  | u16 n => exact ⟨n, fromLeBytes_take (by decide) n, rfl⟩
  | _ => cases h

theorem of_u64 (h : some UpdateValueType.u64 = some v.type) :
    ∃ n : U64, Word.fromLeBytes 64 (v.toRawBytes.take 8) = .ok n ∧ v.setting = .number (n : ℕ) := by
  cases v with
  | u64 n => exact ⟨n, fromLeBytes_take (by decide) n, rfl⟩
  | _ => cases h

theorem of_pubkey (h : some UpdateValueType.pubkey = some v.type) :
    ∃ key, Pubkey.fromBytes (v.toRawBytes.take 32) = .ok key ∧ v.setting = .key key := by
  cases v with
  | pubkey key => exact ⟨key, fromBytes_take key, rfl⟩
  | _ => cases h

theorem of_scopeChain (h : some UpdateValueType.scopeChain = some v.type) :
    ∃ chain, ScopeConfiguration.decodeChain v.toRawBytes = .ok chain ∧
      v.setting = .numbers (toInts chain) := by
  cases v with
  | scopeChain chain => exact ⟨chain.toList, decodeChain_words chain.toList_length, rfl⟩
  | _ => cases h

theorem of_withdrawalCap (h : some UpdateValueType.withdrawalCap = some v.type) :
    ∃ capacity interval : U64,
      (∀ f, UpdateConfigMode.decodeWithdrawalCap f v.toRawBytes = .ok (f capacity interval)) ∧
      v.setting = .numbers [((capacity : ℕ) : ℤ), ((interval : ℕ) : ℤ)] := by
  cases v with
  | withdrawalCap capacity interval =>
    exact ⟨capacity, interval, fun _ ↦ decodeWithdrawalCap_words capacity interval, rfl⟩
  | _ => cases h

theorem of_name (h : some UpdateValueType.name = some v.type) :
    ∃ name : NameBytes, decodeName v.toRawBytes = .ok name ∧
      v.setting = .numbers (toInts name.val) := by
  cases v with
  | name name => exact ⟨name, decodeName_bytes name, rfl⟩
  | _ => cases h

theorem of_borrowRateCurve (h : some UpdateValueType.borrowRateCurve = some v.type) :
    ∃ curve, BorrowRateCurve.deserialize v.toRawBytes = .ok (curve, []) ∧
      v.setting = .curve curve := by
  cases v with
  | borrowRateCurve curve =>
    have hread := @BorrowRateCurve.deserialize_append [] _ curve.property
    rw [List.append_nil] at hread
    exact ⟨curve, hread, rfl⟩
  | _ => cases h

theorem of_full (h : some UpdateValueType.full = some v.type) :
    ∃ config, ReserveConfig.deserialize v.toRawBytes = .ok (config, []) ∧
      v.setting = (UpdateConfigMode.updateEntireReserveConfig config).written := by
  cases v with
  | full config reserved =>
    have hread := @ReserveConfig.deserialize_append [] _ reserved config.property
    rw [List.append_nil] at hread
    exact ⟨config, hread, rfl⟩
  | _ => cases h

theorem of_elevationGroups (h : some UpdateValueType.elevationGroups = some v.type) :
    ∃ groups, decodeBytes 20 v.toRawBytes = .ok groups ∧
      v.setting = .numbers (toInts groups) := by
  cases v with
  | elevationGroups groups =>
    exact ⟨groups.toList, decodeBytes_bytes groups.toList_length, rfl⟩
  | _ => cases h

theorem of_limits (h : some UpdateValueType.elevationGroupBorrowLimits = some v.type) :
    ∃ limits, decodeLimits v.toRawBytes = .ok limits ∧
      v.setting = .numbers (toInts (List.ofFn limits)) := by
  cases v with
  | elevationGroupBorrowLimits limits => exact ⟨limits, decodeLimits_words limits, rfl⟩
  | _ => cases h

end UpdateReserveConfigValue

open UpdateReserveConfigValue

theorem decode_mode {value : List U8} (hu : UpdateConfigMode.decode m value = .ok u) :
    u.mode = m := by
  cases m with
  | updateFeesReferralFeeBps | deprecatedUpdateMultiplierSideBoost
  | deprecatedUpdateMultiplierTagBoost =>
    obtain rfl := pure_eq_ok.1 hu
    rfl
  | updateDebtWithdrawalCap | updateDepositWithdrawalCap =>
    simp only [UpdateConfigMode.decode, UpdateConfigMode.decodeWithdrawalCap, bind_eq_ok,
      pure_eq_ok] at hu
    obtain ⟨_, -, _, -, rfl⟩ := hu
    rfl
  | _ =>
    simp only [UpdateConfigMode.decode, map_eq_ok] at hu
    obtain ⟨_, -, rfl⟩ := hu
    rfl

theorem written_of_read {α : Type} {f : α → UpdateConfigMode} {read : Result α} {x : α}
    (hread : read = .ok x) (hu : f <$> read = .ok u) (hx : v.setting = (f x).written) :
    u.written = v.setting := by
  rw [hread] at hu
  obtain rfl := Except.ok.inj hu
  exact hx.symm

theorem decode_toRawBytes (h : m.valueType = some v.type)
    (hu : UpdateConfigMode.decode m v.toRawBytes = .ok u) : u.mode = m ∧ u.written = v.setting := by
  refine ⟨decode_mode hu, ?_⟩
  cases m with
  | updateLoanToValuePct | updateLiquidationThresholdPct | updateProtocolLiquidationFee
  | updateProtocolTakeRate | updateAssetTier | updateDisableUsageAsCollateralOutsideEmode
  | updateBlockBorrowingAboveUtilizationPct | updateBlockPriceUsage
  | updateAutodeleverageEnabled =>
    obtain ⟨n, hread, hsetting⟩ := of_u8 h
    exact written_of_read hread hu hsetting
  | updateReserveStatus =>
    -- not every byte is a status
    obtain ⟨n, hread, hsetting⟩ := of_u8 h
    obtain ⟨status, hstatus, rfl⟩ := map_eq_ok.1 hu
    rw [ReserveStatus.decode, hread, ok_bind, unwrap_eq_ok] at hstatus
    rw [hsetting, ← ReserveStatus.toU8_tryFrom hstatus]
    rfl
  | updateMaxLiquidationBonusBps | updateBadDebtLiquidationBonusBps | updateMinLiquidationBonusBps
  | updateHostFixedInterestRateBps =>
    obtain ⟨n, hread, hsetting⟩ := of_u16 h
    exact written_of_read hread hu hsetting
  | updateFeesBorrowFee | updateFeesFlashLoanFee | updateDepositLimit | updateBorrowLimit
  | updateTokenInfoLowerHeuristic | updateTokenInfoUpperHeuristic | updateTokenInfoExpHeuristic
  | updateTokenInfoTwapDivergence | updateTokenInfoPriceMaxAge | updateTokenInfoTwapMaxAge
  | updateDebtWithdrawalCapCurrentTotal | updateDepositWithdrawalCapCurrentTotal
  | updateDeleveragingMarginCallPeriod | updateBorrowFactor
  | updateDeleveragingThresholdDecreaseBpsPerDay | updateBorrowLimitOutsideElevationGroup
  | updateDeleveragingBonusIncreaseBpsPerDay =>
    obtain ⟨n, hread, hsetting⟩ := of_u64 h
    exact written_of_read hread hu hsetting
  | updateScopePriceFeed | updatePythPrice | updateSwitchboardFeed | updateSwitchboardTwapFeed
  | updateFarmCollateral | updateFarmDebt =>
    obtain ⟨key, hread, hsetting⟩ := of_pubkey h
    exact written_of_read hread hu hsetting
  | updateTokenInfoScopeTwap | updateTokenInfoScopeChain =>
    obtain ⟨chain, hread, hsetting⟩ := of_scopeChain h
    exact written_of_read hread hu hsetting
  | updateDebtWithdrawalCap | updateDepositWithdrawalCap =>
    obtain ⟨capacity, interval, hread, hsetting⟩ := of_withdrawalCap h
    obtain rfl := Except.ok.inj ((hread _).symm.trans hu)
    exact hsetting.symm
  | updateTokenInfoName =>
    obtain ⟨name, hread, hsetting⟩ := of_name h
    exact written_of_read hread hu hsetting
  | updateBorrowRateCurve =>
    obtain ⟨curve, hread, hsetting⟩ := of_borrowRateCurve h
    exact written_of_read hread hu hsetting
  | updateEntireReserveConfig =>
    obtain ⟨config, hread, hsetting⟩ := of_full h
    exact written_of_read hread hu hsetting
  | updateElevationGroup =>
    obtain ⟨groups, hread, hsetting⟩ := of_elevationGroups h
    exact written_of_read hread hu hsetting
  | updateBorrowLimitsInElevationGroupAgainstThisReserve =>
    obtain ⟨limits, hread, hsetting⟩ := of_limits h
    exact written_of_read hread hu hsetting
  | updateFeesReferralFeeBps | deprecatedUpdateMultiplierSideBoost
  | deprecatedUpdateMultiplierTagBoost => cases h

end Values

end Klend
