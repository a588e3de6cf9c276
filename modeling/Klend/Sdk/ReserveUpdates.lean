import Klend.Sdk.ReserveEncoding

/-! # The updates that the client sends

For each setting of a target configuration, the bytes that the client makes of it and the
update that the program reads off them.
-/

namespace Klend.Sdk.ReserveUpdates

open LendingMarketUpdate (decodeU8 decodeName)

/-- A 64-bit number is one that a JavaScript number holds. -/
def Held (n : U64) : Prop := (n : ℕ) < 2 ^ 53

def CapHeld (caps : WithdrawalCaps) : Prop :=
  0 ≤ caps.configCapacity.val ∧ caps.configCapacity.val < 2 ^ 53 ∧
    Held caps.configIntervalLengthSeconds

/-- The settings that the client sends and the program reads. A 64-bit number passes through a
JavaScript number, the bytes of the host's rate are missing, and a cap's total is encoded as if it
were a pair. -/
def Readable (target : ReserveConfig) : ReserveConfigMode → Prop
  | .updateReserveStatus => ∃ status, ReserveStatus.tryFrom target.status = some status
  | .updateFeesBorrowFee => Held target.fees.borrowFeeSf
  | .updateFeesFlashLoanFee => Held target.fees.flashLoanFeeSf
  | .updateTokenInfoLowerHeuristic => Held target.tokenInfo.heuristic.lower
  | .updateTokenInfoUpperHeuristic => Held target.tokenInfo.heuristic.upper
  | .updateTokenInfoExpHeuristic => Held target.tokenInfo.heuristic.exp
  | .updateTokenInfoTwapDivergence => Held target.tokenInfo.maxTwapDivergenceBps
  | .updateTokenInfoPriceMaxAge => Held target.tokenInfo.maxAgePriceSeconds
  | .updateTokenInfoTwapMaxAge => Held target.tokenInfo.maxAgeTwapSeconds
  | .updateDeleveragingMarginCallPeriod => Held target.deleveragingMarginCallPeriodSecs
  | .updateBorrowFactor => Held target.borrowFactorPct
  | .updateDeleveragingThresholdDecreaseBpsPerDay =>
    Held target.deleveragingThresholdDecreaseBpsPerDay
  | .updateDeleveragingBonusIncreaseBpsPerDay => Held target.deleveragingBonusIncreaseBpsPerDay
  | .updateBorrowLimitOutsideElevationGroup => Held target.borrowLimitOutsideElevationGroup
  | .updateBorrowLimitsInElevationGroupAgainstThisReserve =>
    ∀ i, Held (target.borrowLimitAgainstThisCollateralInElevationGroup i)
  | .updateDebtWithdrawalCap => CapHeld target.debtWithdrawalCap
  | .updateDepositWithdrawalCap => CapHeld target.depositWithdrawalCap
  | .updateDebtWithdrawalCapCurrentTotal => False
  | .updateDepositWithdrawalCapCurrentTotal => False
  | .updateHostFixedInterestRateBps => False
  | _ => True

section Jobs

variable {target : ReserveConfig} {mode : ReserveConfigMode}

/-- What the client hands to its encoder for a setting. -/
def jsValue (mode : ReserveConfigMode) : SettingValue → Option ConfigValue
  | .none => none
  | .number n =>
    if mode = .updateDepositLimit ∨ mode = .updateBorrowLimit then some (.bigint n.toNat)
    else do
      let n ← bnToNumber n
      some (.number n)
  | .numbers ns => do
    let ns ← ns.mapM bnToNumber
    some (.numberArray ns)
  | .key key => some (.publicKey key)
  | .curve curve => some (.borrowRateCurve curve)

/-- The bytes sent for a setting of the target. -/
def job (target : ReserveConfig) (mode : ReserveConfigMode) : Option (List U8) :=
  encode mode (jsValue mode (target.setting mode))

/-- The update that the program reads off them. -/
def sent (target : ReserveConfig) (mode : ReserveConfigMode) : Result UpdateConfigMode := do
  let value ← unwrap (job target mode)
  UpdateConfigMode.decode mode value

/-- The update for the target's setting arrives under a condition, and no other does. -/
def Arrives (target : ReserveConfig) (mode : ReserveConfigMode) (P : Prop) : Prop :=
  (∀ u, sent target mode = .ok u → u.mode = mode ∧ u.value = target.setting mode) ∧
    ((∃ u, sent target mode = .ok u) ↔ P)

theorem arrives_of_eq {u : UpdateConfigMode} (hsent : sent target mode = .ok u)
    (hmode : u.mode = mode) (hvalue : u.value = target.setting mode) :
    Arrives target mode True := by
  constructor
  · intro u' hu'
    obtain rfl := Except.ok.inj (hsent.symm.trans hu')
    exact ⟨hmode, hvalue⟩
  · exact iff_of_true ⟨u, hsent⟩ trivial

theorem arrives_of_error {P : Prop} {e : Failure} (hsent : sent target mode = .error e)
    (hP : ¬ P) : Arrives target mode P := by
  constructor
  · intro u hu
    rw [hsent] at hu
    cases hu
  · refine iff_of_false ?_ hP
    rintro ⟨u, hu⟩
    rw [hsent] at hu
    cases hu

theorem Arrives.of_iff {P Q : Prop} (h : Arrives target mode P) (hPQ : P ↔ Q) :
    Arrives target mode Q :=
  ⟨h.1, h.2.trans hPQ⟩

theorem sent_of_job {value : List U8} (h : job target mode = some value) :
    sent target mode = UpdateConfigMode.decode mode value := by
  rw [sent, h]
  rfl

theorem sent_of_no_job (h : job target mode = none) : sent target mode = .error .panic := by
  rw [sent, h]
  rfl

theorem bnToNumber_of_small {w : ℕ} (hw : w ≤ 53) (n : Word w) :
    bnToNumber ((n : ℕ) : ℤ) = some ((n : ℕ) : ℤ) :=
  if_pos (n.isLt.trans_le (Nat.pow_le_pow_right (by decide) hw))

theorem bnToNumber_word (n : U64) :
    bnToNumber ((n : ℕ) : ℤ) = if (n : ℕ) < 2 ^ 53 then some ((n : ℕ) : ℤ) else none := rfl

theorem bnToNumber_eq_some {n m : ℤ} (h : bnToNumber n = some m) : n = m := by
  unfold bnToNumber at h
  split at h
  · exact Option.some.inj h
  · cases h

theorem mapM_toNumber_eq_some {ns : List U64} (h : ∀ n ∈ ns, Held n) :
    (toInts ns).mapM bnToNumber = some (toInts ns) := by
  induction ns with
  | nil => rfl
  | cons n ns ih =>
    obtain ⟨hn, hns⟩ := List.forall_mem_cons.1 h
    change (((n : ℕ) : ℤ) :: toInts ns).mapM bnToNumber = _
    rw [List.mapM_cons, bnToNumber_word, if_pos (show (n : ℕ) < 2 ^ 53 from hn), ih hns]
    rfl

theorem mapM_toNumber_eq_none {ns : List U64} (h : ∃ n ∈ ns, ¬ Held n) :
    (toInts ns).mapM bnToNumber = none := by
  induction ns with
  | nil => simp at h
  | cons n ns ih =>
    change (((n : ℕ) : ℤ) :: toInts ns).mapM bnToNumber = _
    rw [List.mapM_cons, bnToNumber_word]
    by_cases hn : (n : ℕ) < 2 ^ 53
    · have hns : ∃ n ∈ ns, ¬ Held n := by
        obtain ⟨m, hm, hnot⟩ := h
        rcases List.mem_cons.1 hm with rfl | hm
        · exact absurd hn hnot
        · exact ⟨m, hm, hnot⟩
      rw [if_pos hn, ih hns]
      rfl
    · rw [if_neg hn]
      rfl

theorem mapM_toNumber_of_small {w : ℕ} (hw : w ≤ 53) (ns : List (Word w)) :
    (toInts ns).mapM bnToNumber = some (toInts ns) := by
  induction ns with
  | nil => rfl
  | cons n ns ih =>
    change (((n : ℕ) : ℤ) :: toInts ns).mapM bnToNumber = _
    rw [List.mapM_cons, bnToNumber_of_small hw, ih]
    rfl

theorem encode_number {n : ℤ} (hmode : ¬ (mode = .updateDepositLimit ∨ mode = .updateBorrowLimit)) :
    jsValue mode (.number n) = (bnToNumber n).map .number := by
  rw [jsValue, if_neg hmode]
  cases bnToNumber n with
  | none => rfl
  | some n => rfl

theorem arrives_small {w : ℕ} {f : Word w → UpdateConfigMode} {n : Word w}
    (hw : 8 ∣ w) (hsmall : w ≤ 53)
    (hmode : ¬ (mode = .updateDepositLimit ∨ mode = .updateBorrowLimit))
    (hsetting : target.setting mode = .number (n : ℕ))
    (hencode : ∀ n, updateReserveConfigEncodedValue mode (.number n) =
      writeNumberLE (alloc (w / 8)) n 0 (w / 8))
    (hdecode : UpdateConfigMode.decode mode n.toLeBytes = .ok (f n))
    (hu : (f n).mode = mode ∧ (f n).value = .number (n : ℕ)) : Arrives target mode True := by
  have hjob : job target mode = some n.toLeBytes := by
    rw [job, hsetting, encode_number hmode, bnToNumber_of_small hsmall]
    exact (hencode _).trans (writeNumber_alloc hw n)
  exact arrives_of_eq ((sent_of_job hjob).trans hdecode) hu.1 (hu.2.trans hsetting.symm)

theorem arrives_u8 {f : U8 → UpdateConfigMode} {n : U8}
    (hmode : ¬ (mode = .updateDepositLimit ∨ mode = .updateBorrowLimit))
    (hsetting : target.setting mode = .number (n : ℕ))
    (hencode : ∀ n, updateReserveConfigEncodedValue mode (.number n) =
      writeNumberLE (alloc 1) n 0 1)
    (hdecode : ∀ value, UpdateConfigMode.decode mode value = f <$> decodeU8 value)
    (hu : (f n).mode = mode ∧ (f n).value = .number (n : ℕ)) : Arrives target mode True := by
  refine @arrives_small target mode 8 f n (by decide) (by decide) hmode hsetting hencode ?_ hu
  rw [hdecode, decodeU8_byte]
  rfl

theorem arrives_u16 {f : U16 → UpdateConfigMode} {n : U16}
    (hmode : ¬ (mode = .updateDepositLimit ∨ mode = .updateBorrowLimit))
    (hsetting : target.setting mode = .number (n : ℕ))
    (hencode : ∀ n, updateReserveConfigEncodedValue mode (.number n) =
      writeNumberLE (alloc 2) n 0 2)
    (hdecode : ∀ value, UpdateConfigMode.decode mode value =
      f <$> Word.fromLeBytes 16 (value.take 2))
    (hu : (f n).mode = mode ∧ (f n).value = .number (n : ℕ)) : Arrives target mode True := by
  refine @arrives_small target mode 16 f n (by decide) (by decide) hmode hsetting hencode ?_ hu
  rw [hdecode]
  exact congrArg (f <$> ·) (fromLeBytes_take (by decide) n)

theorem arrives_u64 {f : U64 → UpdateConfigMode} {n : U64}
    (hmode : ¬ (mode = .updateDepositLimit ∨ mode = .updateBorrowLimit))
    (hsetting : target.setting mode = .number (n : ℕ))
    (hencode : updateReserveConfigEncodedValue mode (.number ((n : ℕ) : ℤ)) = some n.toLeBytes)
    (hdecode : ∀ value, UpdateConfigMode.decode mode value =
      f <$> Word.fromLeBytes 64 (value.take 8))
    (hu : (f n).mode = mode ∧ (f n).value = .number (n : ℕ)) : Arrives target mode (Held n) := by
  by_cases hheld : (n : ℕ) < 2 ^ 53
  · have hjob : job target mode = some n.toLeBytes := by
      rw [job, hsetting, encode_number hmode, bnToNumber_word, if_pos hheld]
      exact hencode
    have hdecoded : UpdateConfigMode.decode mode n.toLeBytes = .ok (f n) := by
      rw [hdecode]
      exact congrArg (f <$> ·) (fromLeBytes_take (by decide) n)
    exact (arrives_of_eq ((sent_of_job hjob).trans hdecoded) hu.1
      (hu.2.trans hsetting.symm)).of_iff (iff_of_true trivial hheld)
  · refine arrives_of_error (sent_of_no_job ?_) hheld
    rw [job, hsetting, encode_number hmode, bnToNumber_word, if_neg hheld]
    rfl

theorem arrives_bigint {f : U64 → UpdateConfigMode} {n : U64}
    (hmode : mode = .updateDepositLimit ∨ mode = .updateBorrowLimit)
    (hsetting : target.setting mode = .number (n : ℕ))
    (hencode : ∀ n, updateReserveConfigEncodedValue mode (.bigint n) = writeHalves n)
    (hdecode : ∀ value, UpdateConfigMode.decode mode value =
      f <$> Word.fromLeBytes 64 (value.take 8))
    (hu : (f n).mode = mode ∧ (f n).value = .number (n : ℕ)) : Arrives target mode True := by
  have hjob : job target mode = some n.toLeBytes := by
    rw [job, hsetting, jsValue, if_pos hmode]
    exact (hencode _).trans (writeHalves_eq n)
  have hdecoded : UpdateConfigMode.decode mode n.toLeBytes = .ok (f n) := by
    rw [hdecode]
    exact congrArg (f <$> ·) (fromLeBytes_take (by decide) n)
  exact arrives_of_eq ((sent_of_job hjob).trans hdecoded) hu.1 (hu.2.trans hsetting.symm)

theorem arrives_key {f : Pubkey → UpdateConfigMode} {key : Pubkey}
    (hsetting : target.setting mode = .key key)
    (hencode : updateReserveConfigEncodedValue mode (.publicKey key) =
      some (Pubkey.toBytes key))
    (hdecode : ∀ value, UpdateConfigMode.decode mode value =
      f <$> Pubkey.fromBytes (value.take 32))
    (hu : (f key).mode = mode ∧ (f key).value = .key key) : Arrives target mode True := by
  have hjob : job target mode = some (Pubkey.toBytes key) := by
    rw [job, hsetting]
    exact hencode
  have hdecoded : UpdateConfigMode.decode mode (Pubkey.toBytes key) = .ok (f key) := by
    rw [hdecode, fromBytes_take]
    rfl
  exact arrives_of_eq ((sent_of_job hjob).trans hdecoded) hu.1 (hu.2.trans hsetting.symm)

theorem arrives_array {w m : ℕ} {u : UpdateConfigMode} {ns : List (Word w)} (hw : 8 ∣ w)
    (hsmall : w ≤ 53) (hlength : m = ns.length * (w / 8))
    (hsetting : target.setting mode = .numbers (toInts ns))
    (hencode : ∀ ns, updateReserveConfigEncodedValue mode (.numberArray ns) =
      writeNumbers (w / 8) (alloc m) 0 ns)
    (hdecode : UpdateConfigMode.decode mode (ns.flatMap Word.toLeBytes) = .ok u)
    (hu : u.mode = mode ∧ u.value = .numbers (toInts ns)) : Arrives target mode True := by
  have hjob : job target mode = some (ns.flatMap Word.toLeBytes) := by
    rw [job, hsetting, jsValue, mapM_toNumber_of_small hsmall]
    exact (hencode _).trans (writeNumbers_alloc hw ns hlength)
  exact arrives_of_eq ((sent_of_job hjob).trans hdecode) hu.1 (hu.2.trans hsetting.symm)

theorem arrives_curve (h : target.borrowRateCurve.points.length = 11) :
    Arrives target .updateBorrowRateCurve True := by
  have hjob : job target .updateBorrowRateCurve =
      some target.borrowRateCurve.serialize :=
    serializeBorrowRateCurve_eq h
  refine arrives_of_eq (u := .updateBorrowRateCurve target.borrowRateCurve) ?_ rfl rfl
  have hcurve := @BorrowRateCurve.deserialize_append [] _ h
  rw [List.append_nil] at hcurve
  rw [sent_of_job hjob, UpdateConfigMode.decode, hcurve]
  rfl

/-- The program refuses a status that it does not know. -/
theorem arrives_status : Arrives target .updateReserveStatus
    (∃ status, ReserveStatus.tryFrom target.status = some status) := by
  have hjob : job target .updateReserveStatus = some target.status.toLeBytes := by
    have hvalue : jsValue .updateReserveStatus (target.setting .updateReserveStatus) =
        some (.number (target.status : ℕ)) := by
      change jsValue _ (.number _) = _
      rw [encode_number (by decide), bnToNumber_of_small (by decide)]
      rfl
    rw [job, hvalue]
    exact @writeNumber_alloc 8 (by decide) target.status
  have hsent : sent target .updateReserveStatus =
      UpdateConfigMode.updateReserveStatus <$> unwrap (ReserveStatus.tryFrom target.status) := by
    rw [sent_of_job hjob, UpdateConfigMode.decode, ReserveStatus.decode, decodeU8_byte]
    rfl
  cases hstatus : ReserveStatus.tryFrom target.status with
  | none =>
    rw [hstatus] at hsent
    refine arrives_of_error hsent ?_
    rintro ⟨status, h⟩
    cases h
  | some status =>
    rw [hstatus] at hsent
    refine (arrives_of_eq hsent rfl ?_).of_iff (iff_of_true trivial ⟨status, rfl⟩)
    change SettingValue.number (status.toU8 : ℕ) = .number (target.status : ℕ)
    rw [ReserveStatus.toU8_tryFrom hstatus]

theorem arrives_hostRate : Arrives target .updateHostFixedInterestRateBps False := by
  have hjob : job target .updateHostFixedInterestRateBps = some [] := by
    have hsetting : target.setting .updateHostFixedInterestRateBps =
        .number (target.hostFixedInterestRateBps : ℕ) := rfl
    rw [job, hsetting, encode_number (by decide), bnToNumber_of_small (by decide)]
    rfl
  exact arrives_of_error (sent_of_job hjob) id

theorem arrives_cap {f : U64 → U64 → UpdateConfigMode} {caps : WithdrawalCaps}
    (hsetting : target.setting mode = .numbers [caps.configCapacity.val,
      ((caps.configIntervalLengthSeconds : ℕ) : ℤ)])
    (hencode : ∀ capacity interval, updateReserveConfigEncodedValue mode
      (.numberArray [capacity, interval]) = writeNumbers 8 (alloc 16) 0 [capacity, interval])
    (hdecode : ∀ value, UpdateConfigMode.decode mode value =
      UpdateConfigMode.decodeWithdrawalCap f value)
    (hu : ∀ capacity interval, (f capacity interval).mode = mode ∧
      (f capacity interval).value = .numbers [((capacity : ℕ) : ℤ), ((interval : ℕ) : ℤ)]) :
    Arrives target mode (CapHeld caps) := by
  obtain ⟨capacity, total, timestamp, interval⟩ := caps
  by_cases hcapacity : (0 : ℤ) ≤ capacity.val
  · obtain ⟨n, hn⟩ : ∃ n : U64, ((n : ℕ) : ℤ) = capacity.val := by
      have := capacity.property.2
      exact ⟨⟨capacity.val.toNat, by omega⟩, Int.toNat_of_nonneg hcapacity⟩
    have hpair : target.setting mode = .numbers (toInts [n, interval]) := by
      rw [hsetting, ← hn]
      rfl
    have hfits : CapHeld ⟨capacity, total, timestamp, interval⟩ ↔ Held n ∧ Held interval := by
      simp only [CapHeld, Held, ← hn]
      omega
    by_cases hheld : Held n ∧ Held interval
    · have hjob : job target mode = some (n.toLeBytes ++ interval.toLeBytes) := by
        rw [job, hpair, jsValue, mapM_toNumber_eq_some (by simpa using hheld)]
        refine (hencode _ _).trans ((writeNumbers_alloc (by decide) [n, interval] rfl).trans ?_)
        rw [List.flatMap_cons, List.flatMap_singleton]
      have hdecoded : sent target mode = .ok (f n interval) := by
        rw [sent_of_job hjob, hdecode, decodeWithdrawalCap_words]
      exact (arrives_of_eq hdecoded (hu n interval).1 ((hu n interval).2.trans
        hpair.symm)).of_iff (iff_of_true trivial (hfits.2 hheld))
    · refine arrives_of_error (sent_of_no_job ?_) (mt hfits.1 hheld)
      rw [job, hpair, jsValue, mapM_toNumber_eq_none (by simpa [← not_and_or] using hheld)]
      rfl
  · refine arrives_of_error (sent_of_no_job ?_) fun h ↦ hcapacity h.1
    rw [job, hsetting, jsValue, List.mapM_cons, List.mapM_cons, List.mapM_nil]
    cases hfirst : bnToNumber capacity.val with
    | none => rfl
    | some x =>
      obtain rfl : capacity.val = x := bnToNumber_eq_some hfirst
      cases bnToNumber ((interval : ℕ) : ℤ) with
      | none => rfl
      | some y =>
        refine (hencode _ _).trans ?_
        rw [writeNumbers, writeNumber_negative (not_le.1 hcapacity)]
        rfl

theorem arrives_limits : Arrives target .updateBorrowLimitsInElevationGroupAgainstThisReserve
    (∀ i, Held (target.borrowLimitAgainstThisCollateralInElevationGroup i)) := by
  have hmem : (∀ n ∈ List.ofFn target.borrowLimitAgainstThisCollateralInElevationGroup, Held n) ↔
      ∀ i, Held (target.borrowLimitAgainstThisCollateralInElevationGroup i) :=
    List.forall_mem_ofFn_iff
  have hsetting : target.setting .updateBorrowLimitsInElevationGroupAgainstThisReserve =
      .numbers (toInts (List.ofFn target.borrowLimitAgainstThisCollateralInElevationGroup)) := rfl
  by_cases hheld : ∀ i, Held (target.borrowLimitAgainstThisCollateralInElevationGroup i)
  · have hjob : job target .updateBorrowLimitsInElevationGroupAgainstThisReserve =
        some ((List.ofFn target.borrowLimitAgainstThisCollateralInElevationGroup).flatMap
          Word.toLeBytes) := by
      rw [job, hsetting, jsValue, mapM_toNumber_eq_some (hmem.2 hheld)]
      exact writeNumbers_alloc (w := 64) (by decide) _ (by rw [List.length_ofFn])
    have hdecoded : sent target .updateBorrowLimitsInElevationGroupAgainstThisReserve =
        .ok (.updateBorrowLimitsInElevationGroupAgainstThisReserve
          target.borrowLimitAgainstThisCollateralInElevationGroup) := by
      rw [sent_of_job hjob, UpdateConfigMode.decode, decodeLimits_words]
      rfl
    exact (arrives_of_eq hdecoded rfl rfl).of_iff (iff_of_true trivial hheld)
  · refine arrives_of_error (sent_of_no_job ?_) hheld
    rw [← hmem] at hheld
    rw [job, hsetting, jsValue, mapM_toNumber_eq_none
      (by simpa only [not_forall, exists_prop] using hheld)]
    rfl

/-- The modes that a key stands for. -/
def modes : ReserveConfigKey → List ReserveConfigMode
  | .status => [.updateReserveStatus]
  | .assetTier => [.updateAssetTier]
  | .hostFixedInterestRateBps => [.updateHostFixedInterestRateBps]
  | .protocolTakeRatePct => [.updateProtocolTakeRate]
  | .protocolLiquidationFeePct => [.updateProtocolLiquidationFee]
  | .loanToValuePct => [.updateLoanToValuePct]
  | .liquidationThresholdPct => [.updateLiquidationThresholdPct]
  | .minLiquidationBonusBps => [.updateMinLiquidationBonusBps]
  | .maxLiquidationBonusBps => [.updateMaxLiquidationBonusBps]
  | .badDebtLiquidationBonusBps => [.updateBadDebtLiquidationBonusBps]
  | .deleveragingMarginCallPeriodSecs => [.updateDeleveragingMarginCallPeriod]
  | .deleveragingThresholdDecreaseBpsPerDay => [.updateDeleveragingThresholdDecreaseBpsPerDay]
  | .fees => [.updateFeesBorrowFee, .updateFeesFlashLoanFee]
  | .borrowRateCurve => [.updateBorrowRateCurve]
  | .borrowFactorPct => [.updateBorrowFactor]
  | .depositLimit => [.updateDepositLimit]
  | .borrowLimit => [.updateBorrowLimit]
  | .tokenInfo => [.updateTokenInfoName, .updateTokenInfoLowerHeuristic,
      .updateTokenInfoUpperHeuristic, .updateTokenInfoExpHeuristic, .updateTokenInfoTwapDivergence,
      .updateTokenInfoPriceMaxAge, .updateTokenInfoTwapMaxAge, .updateTokenInfoScopeChain,
      .updateTokenInfoScopeTwap, .updateSwitchboardFeed, .updateSwitchboardTwapFeed,
      .updatePythPrice, .updateBlockPriceUsage, .updateScopePriceFeed]
  | .depositWithdrawalCap => [.updateDepositWithdrawalCap]
  | .debtWithdrawalCap => [.updateDebtWithdrawalCap]
  | .elevationGroups => [.updateElevationGroup]
  | .disableUsageAsCollOutsideEmode => [.updateDisableUsageAsCollateralOutsideEmode]
  | .utilizationLimitBlockBorrowingAbovePct => [.updateBlockBorrowingAboveUtilizationPct]
  | .autodeleverageEnabled => [.updateAutodeleverageEnabled]
  | .borrowLimitOutsideElevationGroup => [.updateBorrowLimitOutsideElevationGroup]
  | .borrowLimitAgainstThisCollateralInElevationGroup =>
    [.updateBorrowLimitsInElevationGroupAgainstThisReserve]
  | .deleveragingBonusIncreaseBpsPerDay => [.updateDeleveragingBonusIncreaseBpsPerDay]

def sentModes : List ReserveConfigMode := reserveConfigKeys.flatMap modes

theorem arrives_iff_readable (hsized : target.ArraysSized) (hmode : mode ∈ sentModes) :
    Arrives target mode (Readable target mode) := by
  cases mode with
  | updateLoanToValuePct | updateLiquidationThresholdPct | updateProtocolLiquidationFee
  | updateProtocolTakeRate | updateAssetTier | updateDisableUsageAsCollateralOutsideEmode
  | updateBlockBorrowingAboveUtilizationPct | updateBlockPriceUsage | updateAutodeleverageEnabled =>
    exact arrives_u8 (by decide) rfl (fun _ ↦ rfl) (fun _ ↦ rfl) ⟨rfl, rfl⟩
  | updateMaxLiquidationBonusBps | updateBadDebtLiquidationBonusBps
  | updateMinLiquidationBonusBps =>
    exact arrives_u16 (by decide) rfl (fun _ ↦ rfl) (fun _ ↦ rfl) ⟨rfl, rfl⟩
  | updateFeesBorrowFee | updateFeesFlashLoanFee | updateTokenInfoLowerHeuristic
  | updateTokenInfoUpperHeuristic | updateTokenInfoExpHeuristic | updateTokenInfoTwapDivergence
  | updateTokenInfoPriceMaxAge | updateTokenInfoTwapMaxAge | updateDeleveragingMarginCallPeriod
  | updateBorrowFactor | updateDeleveragingThresholdDecreaseBpsPerDay
  | updateDeleveragingBonusIncreaseBpsPerDay =>
    exact arrives_u64 (by decide) rfl (writeNumber_alloc (by decide) _) (fun _ ↦ rfl) ⟨rfl, rfl⟩
  | updateBorrowLimitOutsideElevationGroup =>
    exact arrives_u64 (by decide) rfl (writeHalves_eq _) (fun _ ↦ rfl) ⟨rfl, rfl⟩
  | updateDepositLimit | updateBorrowLimit =>
    exact arrives_bigint (by decide) rfl (fun _ ↦ rfl) (fun _ ↦ rfl) ⟨rfl, rfl⟩
  | updateScopePriceFeed | updatePythPrice | updateSwitchboardFeed | updateSwitchboardTwapFeed =>
    exact arrives_key rfl rfl (fun _ ↦ rfl) ⟨rfl, rfl⟩
  | updateTokenInfoScopeChain =>
    refine arrives_array (u := .updateTokenInfoScopeChain _) (by decide) (by decide) ?_ rfl
      (fun _ ↦ rfl) ?_ ⟨rfl, rfl⟩
    · rw [hsized.priceChain]
    · rw [UpdateConfigMode.decode, decodeChain_words hsized.priceChain]
      rfl
  | updateTokenInfoScopeTwap =>
    refine arrives_array (u := .updateTokenInfoScopeTwap _) (by decide) (by decide) ?_ rfl
      (fun _ ↦ rfl) ?_ ⟨rfl, rfl⟩
    · rw [hsized.twapChain]
    · rw [UpdateConfigMode.decode, decodeChain_words hsized.twapChain]
      rfl
  | updateTokenInfoName =>
    refine arrives_array (u := .updateTokenInfoName _) (by decide) (by decide) ?_ rfl
      (fun _ ↦ rfl) ?_ ⟨rfl, rfl⟩
    · rw [target.tokenInfo.name.property]
    · rw [UpdateConfigMode.decode, flatMap_bytes, decodeName_bytes]
      rfl
  | updateElevationGroup =>
    refine arrives_array (u := .updateElevationGroup _) (by decide) (by decide) ?_ rfl
      (fun _ ↦ rfl) ?_ ⟨rfl, rfl⟩
    · rw [hsized.elevationGroups]
    · rw [UpdateConfigMode.decode, flatMap_bytes, decodeBytes_bytes hsized.elevationGroups]
      rfl
  | updateBorrowRateCurve => exact arrives_curve hsized.points
  | updateReserveStatus => exact arrives_status
  | updateHostFixedInterestRateBps => exact arrives_hostRate
  | updateDebtWithdrawalCap =>
    exact arrives_cap rfl (fun _ _ ↦ rfl) (fun _ ↦ rfl) fun _ _ ↦ ⟨rfl, rfl⟩
  | updateDepositWithdrawalCap =>
    exact arrives_cap rfl (fun _ _ ↦ rfl) (fun _ ↦ rfl) fun _ _ ↦ ⟨rfl, rfl⟩
  | updateBorrowLimitsInElevationGroupAgainstThisReserve => exact arrives_limits
  | _ => exact absurd hmode (by decide)

end Jobs

end Klend.Sdk.ReserveUpdates
