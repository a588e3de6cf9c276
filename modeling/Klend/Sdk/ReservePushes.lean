import Klend.Sdk.ReserveUpdates

/-! # What the client pushes

Every key of a configuration comes down to its modes, each pushed if its setting has changed.
-/

namespace Klend.Sdk.ReserveUpdates

section Pushes

variable {reserve : Option Reserve} {target : ReserveConfig} {mode : ReserveConfigMode}
  {args args' : List UpdateReserveIxnsArgs} {key : ReserveConfigKey}

/-- The settings that the client compares and finds changed. -/
def sends (reserve : Option Reserve) (target : ReserveConfig) (mode : ReserveConfigMode) : Bool :=
  match reserve with
  | none => mode ≠ .updateScopePriceFeed
  | some reserve => reserve.config.setting mode ≠ target.setting mode

def pushMode (reserve : Option Reserve) (target : ReserveConfig)
    (args : List UpdateReserveIxnsArgs) (mode : ReserveConfigMode) :
    Option (List UpdateReserveIxnsArgs) :=
  if sends reserve target mode then push mode (job target mode) args else some args

/-- The current total of a cap is only compared when the rest of the cap agrees, and then must
agree. -/
def TotalsKept (reserve : Option Reserve) (target : ReserveConfig)
    (mode total : ReserveConfigMode) : Prop :=
  ∀ r, reserve = some r → r.config.setting mode = target.setting mode →
    r.config.setting total = target.setting total

theorem pushIf_changed {α : Type} [DecidableEq α] {field : ReserveConfig → α}
    {value : Option ConfigValue} (hfeed : mode ≠ .updateScopePriceFeed)
    (hfield : ∀ c : ReserveConfig, c.setting mode = target.setting mode ↔ field c = field target)
    (hvalue : value = jsValue mode (target.setting mode)) :
    pushIf (changed reserve target field) mode value args = pushMode reserve target args mode := by
  have hsends : changed reserve target field = sends reserve target mode := by
    cases reserve with
    | none => exact (decide_eq_true hfeed).symm
    | some r => simp only [changed, sends, ne_eq, hfield]
  rw [pushIf, hsends, hvalue]
  rfl

theorem pushIf_arrayChanged {α : Type} [DecidableEq α] {field : ReserveConfig → List α}
    {value : Option ConfigValue} (hfeed : mode ≠ .updateScopePriceFeed)
    (hfield : ∀ c : ReserveConfig, c.setting mode = target.setting mode ↔ field c = field target)
    (hlength : ∀ r, reserve = some r → (field r.config).length = (field target).length)
    (hvalue : value = jsValue mode (target.setting mode)) :
    pushIfArray (arrayChanged reserve target field) mode value args =
      pushMode reserve target args mode := by
  have hchanged : arrayChanged reserve target field = some (sends reserve target mode) := by
    cases reserve with
    | none => exact congrArg some (decide_eq_true hfeed).symm
    | some r =>
      rw [arrayChanged, sameLengthArrayEquals, if_pos (hlength r rfl)]
      simp [sends, hfield]
  rw [pushIfArray, hchanged, hvalue]
  rfl

theorem foldlM_single : [mode].foldlM (pushMode reserve target) args =
    pushMode reserve target args mode := by
  rw [List.foldlM_cons]
  exact bind_pure _

theorem number_iff {w : ℕ} {a b : Word w} :
    SettingValue.number ((a : ℕ) : ℤ) = .number ((b : ℕ) : ℤ) ↔ a = b :=
  ⟨number_inj, fun h ↦ h ▸ rfl⟩

theorem numbers_iff {w : ℕ} {a b : List (Word w)} :
    SettingValue.numbers (toInts a) = .numbers (toInts b) ↔ a = b :=
  ⟨numbers_inj, fun h ↦ h ▸ rfl⟩

theorem number_eq_jsValue {w : ℕ} (hw : w ≤ 53) (n : Word w)
    (hmode : ¬ (mode = .updateDepositLimit ∨ mode = .updateBorrowLimit)) :
    number n = jsValue mode (.number (n : ℕ)) := by
  rw [encode_number hmode, bnToNumber_of_small hw]
  rfl

theorem bigNumber_eq_jsValue (n : U64)
    (hmode : ¬ (mode = .updateDepositLimit ∨ mode = .updateBorrowLimit)) :
    bigNumber n = jsValue mode (.number (n : ℕ)) := by
  rw [jsValue, if_neg hmode]
  rfl

theorem numbers_eq_jsValue {w : ℕ} (hw : w ≤ 53) (ns : List (Word w)) :
    numbers ns = jsValue mode (.numbers (toInts ns)) := by
  rw [jsValue, mapM_toNumber_of_small hw]
  rfl

theorem push_number {w : ℕ} {field : ReserveConfig → Word w} (hw : w ≤ 53)
    (hfeed : mode ≠ .updateScopePriceFeed)
    (hmode : ¬ (mode = .updateDepositLimit ∨ mode = .updateBorrowLimit))
    (hsetting : ∀ c : ReserveConfig, c.setting mode = .number (field c : ℕ)) :
    pushIf (changed reserve target field) mode (number (field target)) args =
      pushMode reserve target args mode :=
  pushIf_changed hfeed (fun c ↦ by rw [hsetting, hsetting, number_iff])
    (by rw [hsetting, number_eq_jsValue hw _ hmode])

theorem push_bigNumber {field : ReserveConfig → U64} (hfeed : mode ≠ .updateScopePriceFeed)
    (hmode : ¬ (mode = .updateDepositLimit ∨ mode = .updateBorrowLimit))
    (hsetting : ∀ c : ReserveConfig, c.setting mode = .number (field c : ℕ)) :
    pushIf (changed reserve target field) mode (bigNumber (field target)) args =
      pushMode reserve target args mode :=
  pushIf_changed hfeed (fun c ↦ by rw [hsetting, hsetting, number_iff])
    (by rw [hsetting, bigNumber_eq_jsValue _ hmode])

theorem push_bigint {field : ReserveConfig → U64}
    (hmode : mode = .updateDepositLimit ∨ mode = .updateBorrowLimit)
    (hfeed : mode ≠ .updateScopePriceFeed)
    (hsetting : ∀ c : ReserveConfig, c.setting mode = .number (field c : ℕ)) :
    pushIf (changed reserve target field) mode (some (.bigint (field target))) args =
      pushMode reserve target args mode :=
  pushIf_changed hfeed (fun c ↦ by rw [hsetting, hsetting, number_iff])
    (by rw [hsetting, jsValue, if_pos hmode]; rfl)

theorem push_key {field : ReserveConfig → Pubkey} (hfeed : mode ≠ .updateScopePriceFeed)
    (hsetting : ∀ c : ReserveConfig, c.setting mode = .key (field c)) :
    pushIf (changed reserve target field) mode (some (.publicKey (field target))) args =
      pushMode reserve target args mode :=
  pushIf_changed hfeed (fun c ↦ by rw [hsetting, hsetting, SettingValue.key.injEq])
    (by rw [hsetting]; rfl)

theorem push_array {w : ℕ} {field : ReserveConfig → List (Word w)} (hw : w ≤ 53)
    (hfeed : mode ≠ .updateScopePriceFeed)
    (hlength : ∀ r, reserve = some r → (field r.config).length = (field target).length)
    (hsetting : ∀ c : ReserveConfig, c.setting mode = .numbers (toInts (field c))) :
    pushIfArray (arrayChanged reserve target field) mode (numbers (field target)) args =
      pushMode reserve target args mode :=
  pushIf_arrayChanged hfeed (fun c ↦ by rw [hsetting, hsetting, numbers_iff]) hlength
    (by rw [hsetting, numbers_eq_jsValue hw])

theorem push_curve
    (hlength : ∀ r, reserve = some r →
      r.config.borrowRateCurve.points.length = target.borrowRateCurve.points.length) :
    pushIfArray (curveChanged reserve target) .updateBorrowRateCurve
        (some (.borrowRateCurve target.borrowRateCurve)) args =
      pushMode reserve target args .updateBorrowRateCurve := by
  have hloop : ∀ old new : List CurvePoint, old.length = new.length →
      shouldBorrowCurveBeUpdated old new = some (decide (old ≠ new)) := by
    intro old new
    induction old generalizing new with
    | nil =>
      intro h
      rw [List.eq_nil_of_length_eq_zero h.symm]
      rfl
    | cons p ps ih =>
      intro h
      cases new with
      | nil => cases h
      | cons q qs =>
        have hpoint : p = q ↔
            p.utilizationRateBps = q.utilizationRateBps ∧ p.borrowRateBps = q.borrowRateBps :=
          CurvePoint.ext_iff
        rw [shouldBorrowCurveBeUpdated, ih qs (Nat.succ.inj h)]
        split
        · next hne =>
          have : p ≠ q := fun heq ↦ by simp [heq] at hne
          simp [this]
        · next heq =>
          have : p = q := hpoint.2 (by simpa using heq)
          simp [this]
  have hchanged : curveChanged reserve target =
      some (sends reserve target .updateBorrowRateCurve) := by
    cases reserve with
    | none => rfl
    | some r =>
      have hcurve : r.config.borrowRateCurve.points = target.borrowRateCurve.points ↔
          r.config.borrowRateCurve = target.borrowRateCurve := by
        constructor
        · intro h
          cases hr : r.config.borrowRateCurve
          cases ht : target.borrowRateCurve
          rw [hr, ht] at h
          exact congrArg BorrowRateCurve.mk h
        · exact fun h ↦ congrArg BorrowRateCurve.points h
      have hsetting : ∀ c : ReserveConfig,
          c.setting .updateBorrowRateCurve = .curve c.borrowRateCurve := fun _ ↦ rfl
      rw [curveChanged, hloop _ _ (hlength r rfl)]
      simp [sends, hsetting, hcurve]
  rw [pushIfArray, hchanged]
  rfl

theorem push_limits :
    pushIfArray (arrayChanged reserve target
        (List.ofFn ·.borrowLimitAgainstThisCollateralInElevationGroup))
      .updateBorrowLimitsInElevationGroupAgainstThisReserve
      (bigNumbers (List.ofFn target.borrowLimitAgainstThisCollateralInElevationGroup)) args =
      pushMode reserve target args .updateBorrowLimitsInElevationGroupAgainstThisReserve :=
  pushIf_arrayChanged (by decide)
    (fun _ ↦ numbers_iff)
    (fun r _ ↦ by rw [List.length_ofFn, List.length_ofFn]) rfl

/-- The two configurations that are compared have arrays of the stored lengths. -/
def Sized (reserve : Option Reserve) (target : ReserveConfig) : Prop :=
  target.ArraysSized ∧ ∀ r, reserve = some r → r.config.ArraysSized

theorem bind_push {α β : Type} {x y : Option α} {f g : α → Option β} (h : x = y)
    (hrest : ∀ a, f a = g a) : x >>= f = y >>= g :=
  h ▸ bind_congr hrest

theorem handleTokenInfo_eq (hsized : Sized reserve target) :
    handleTokenInfo reserve target args =
      (modes .tokenInfo).foldlM (pushMode reserve target) args := by
  have hchain : ∀ r, reserve = some r →
      r.config.tokenInfo.scopeConfiguration.priceChain.length =
        target.tokenInfo.scopeConfiguration.priceChain.length :=
    fun r hr ↦ (hsized.2 r hr).priceChain.trans hsized.1.priceChain.symm
  have htwap : ∀ r, reserve = some r →
      r.config.tokenInfo.scopeConfiguration.twapChain.length =
        target.tokenInfo.scopeConfiguration.twapChain.length :=
    fun r hr ↦ (hsized.2 r hr).twapChain.trans hsized.1.twapChain.symm
  have hname : ∀ r : Reserve, reserve = some r → r.config.tokenInfo.name.val.length =
      target.tokenInfo.name.val.length :=
    fun r _ ↦ r.config.tokenInfo.name.property.trans target.tokenInfo.name.property.symm
  simp only [handleTokenInfo, modes, List.foldlM_cons, List.foldlM_nil]
  refine bind_push (push_array (by decide) (by decide) hname fun _ ↦ rfl) fun args ↦ ?_
  refine bind_push (push_bigNumber (by decide) (by decide) fun _ ↦ rfl) fun args ↦ ?_
  refine bind_push (push_bigNumber (by decide) (by decide) fun _ ↦ rfl) fun args ↦ ?_
  refine bind_push (push_bigNumber (by decide) (by decide) fun _ ↦ rfl) fun args ↦ ?_
  refine bind_push (push_bigNumber (by decide) (by decide) fun _ ↦ rfl) fun args ↦ ?_
  refine bind_push (push_bigNumber (by decide) (by decide) fun _ ↦ rfl) fun args ↦ ?_
  refine bind_push (push_bigNumber (by decide) (by decide) fun _ ↦ rfl) fun args ↦ ?_
  refine bind_push (push_array (by decide) (by decide) hchain fun _ ↦ rfl) fun args ↦ ?_
  refine bind_push (push_array (by decide) (by decide) htwap fun _ ↦ rfl) fun args ↦ ?_
  refine bind_push (push_key (by decide) fun _ ↦ rfl) fun args ↦ ?_
  refine bind_push (push_key (by decide) fun _ ↦ rfl) fun args ↦ ?_
  refine bind_push (push_key (by decide) fun _ ↦ rfl) fun args ↦ ?_
  refine bind_push (push_number (by decide) (by decide) (by decide) fun _ ↦ rfl) fun args ↦ ?_
  refine Eq.trans ?_ (bind_pure _).symm
  cases reserve with
  | none => rfl
  | some r =>
    have hsends : changed (some r) target (·.tokenInfo.scopeConfiguration.priceFeed) =
        sends (some r) target .updateScopePriceFeed := by
      have hsetting : ∀ c : ReserveConfig, c.setting .updateScopePriceFeed =
          .key c.tokenInfo.scopeConfiguration.priceFeed := fun _ ↦ rfl
      simp [changed, sends, hsetting]
    change pushIf _ _ _ _ = _
    rw [pushIf, hsends]
    rfl

theorem handleWithdrawalCap_eq_some {f : ReserveConfig → WithdrawalCaps}
    {total : ReserveConfigMode} (hfeed : mode ≠ .updateScopePriceFeed)
    (hcap : ∀ c : ReserveConfig, c.setting mode = .numbers [(f c).configCapacity.val,
      (((f c).configIntervalLengthSeconds : ℕ) : ℤ)])
    (htotal : ∀ c : ReserveConfig, c.setting total = .number (f c).currentTotal.val)
    (hencode : ∀ n, updateReserveConfigEncodedValue mode (.number n) = none) :
    handleWithdrawalCap (reserve.map fun r ↦ f r.config) (f target) mode total args =
        some args' ↔
      pushMode reserve target args mode = some args' ∧ TotalsKept reserve target mode total := by
  have hvalue : jsValue mode (target.setting mode) = (do
      let capacity ← bnToNumber (f target).configCapacity.val
      let interval ← bnToNumber ((f target).configIntervalLengthSeconds : ℕ)
      some (ConfigValue.numberArray [capacity, interval])) := by
    rw [hcap, jsValue, List.mapM_cons, List.mapM_cons, List.mapM_nil]
    cases bnToNumber (f target).configCapacity.val with
    | none => rfl
    | some capacity =>
      cases bnToNumber (((f target).configIntervalLengthSeconds : ℕ) : ℤ) with
      | none => rfl
      | some interval => rfl
  cases reserve with
  | none =>
    have hsends : sends none target mode = true := decide_eq_true hfeed
    have hkept : TotalsKept none target mode total := fun r hr ↦ by cases hr
    rw [pushMode, hsends, if_pos rfl, job, hvalue]
    exact (and_iff_left hkept).symm
  | some r =>
    have hsame : r.config.setting mode = target.setting mode ↔
        (f r.config).configCapacity = (f target).configCapacity ∧
          (f r.config).configIntervalLengthSeconds =
            (f target).configIntervalLengthSeconds := by
      rw [hcap, hcap, SettingValue.numbers.injEq, List.cons.injEq, List.cons.injEq,
        and_iff_left rfl, Subtype.ext_iff, Int.natCast_inj, Fin.ext_iff]
    have hsametotal : r.config.setting total = target.setting total ↔
        (f r.config).currentTotal = (f target).currentTotal := by
      rw [htotal, htotal, SettingValue.number.injEq, Subtype.ext_iff]
    have hkept : TotalsKept (some r) target mode total ↔
        (r.config.setting mode = target.setting mode →
          r.config.setting total = target.setting total) := by
      simp [TotalsKept]
    rw [hkept, pushMode, handleWithdrawalCap.eq_def, ← hvalue, Option.map_some]
    dsimp only
    by_cases hmode : r.config.setting mode = target.setting mode
    · have hsends : sends (some r) target mode = false := by simp [sends, hmode]
      obtain ⟨hcapacity, hinterval⟩ := hsame.1 hmode
      rw [if_neg (by simp [hcapacity, hinterval]), hsends, if_neg Bool.false_ne_true]
      by_cases hother : r.config.setting total = target.setting total
      · rw [if_neg (not_not.2 (hsametotal.1 hother)), and_iff_left fun _ ↦ hother]
      · have hnone : encode mode ((bnToNumber (f target).currentTotal.val).map .number) =
            none := by
          cases bnToNumber (f target).currentTotal.val with
          | none => rfl
          | some n => exact hencode n
        rw [if_pos (mt hsametotal.2 hother), hnone]
        refine iff_of_false ?_ fun h ↦ hother (h.2 hmode)
        rintro ⟨⟩
    · have hsends : sends (some r) target mode = true := by simp [sends, hmode]
      have hdiffer := mt hsame.2 hmode
      rw [if_pos (not_and_or.1 hdiffer), hsends, if_pos rfl,
        and_iff_left fun h ↦ absurd h hmode]
      rfl

/-- What a key's current total must not ask for. -/
def KeyKept (reserve : Option Reserve) (target : ReserveConfig) : ReserveConfigKey → Prop
  | .depositWithdrawalCap => TotalsKept reserve target .updateDepositWithdrawalCap
      .updateDepositWithdrawalCapCurrentTotal
  | .debtWithdrawalCap => TotalsKept reserve target .updateDebtWithdrawalCap
      .updateDebtWithdrawalCapCurrentTotal
  | _ => True

theorem handleConfigUpdate_eq_some (hsized : Sized reserve target) :
    handleConfigUpdate key reserve target args = some args' ↔
      (modes key).foldlM (pushMode reserve target) args = some args' ∧
        KeyKept reserve target key := by
  have hpushed {x y : Option (List UpdateReserveIxnsArgs)} (h : x = y) :
      x = some args' ↔ y = some args' ∧ True := by rw [h, and_true]
  cases key with
  | status | assetTier | hostFixedInterestRateBps | protocolTakeRatePct
  | protocolLiquidationFeePct | loanToValuePct | liquidationThresholdPct | minLiquidationBonusBps
  | maxLiquidationBonusBps | badDebtLiquidationBonusBps | disableUsageAsCollOutsideEmode
  | utilizationLimitBlockBorrowingAbovePct | autodeleverageEnabled =>
    exact hpushed ((push_number (by decide) (by decide) (by decide) fun _ ↦ rfl).trans
      foldlM_single.symm)
  | deleveragingMarginCallPeriodSecs | deleveragingThresholdDecreaseBpsPerDay | borrowFactorPct
  | borrowLimitOutsideElevationGroup | deleveragingBonusIncreaseBpsPerDay =>
    exact hpushed ((push_bigNumber (by decide) (by decide) fun _ ↦ rfl).trans foldlM_single.symm)
  | depositLimit | borrowLimit =>
    exact hpushed ((push_bigint (by decide) (by decide) fun _ ↦ rfl).trans foldlM_single.symm)
  | fees =>
    refine hpushed (bind_push (push_bigNumber (by decide) (by decide) fun _ ↦ rfl) fun args ↦ ?_)
    exact (push_bigNumber (by decide) (by decide) fun _ ↦ rfl).trans foldlM_single.symm
  | borrowRateCurve =>
    refine hpushed ((push_curve fun r hr ↦ ?_).trans foldlM_single.symm)
    exact (hsized.2 r hr).points.trans hsized.1.points.symm
  | elevationGroups =>
    refine hpushed ((push_array (by decide) (by decide) (fun r hr ↦ ?_) fun _ ↦ rfl).trans
      foldlM_single.symm)
    exact (hsized.2 r hr).elevationGroups.trans hsized.1.elevationGroups.symm
  | borrowLimitAgainstThisCollateralInElevationGroup =>
    exact hpushed (push_limits.trans foldlM_single.symm)
  | tokenInfo => exact hpushed (handleTokenInfo_eq hsized)
  | depositWithdrawalCap =>
    rw [modes, foldlM_single]
    exact handleWithdrawalCap_eq_some (f := (·.depositWithdrawalCap)) (by decide)
      (fun _ ↦ rfl) (fun _ ↦ rfl) fun _ ↦ rfl
  | debtWithdrawalCap =>
    rw [modes, foldlM_single]
    exact handleWithdrawalCap_eq_some (f := (·.debtWithdrawalCap)) (by decide)
      (fun _ ↦ rfl) (fun _ ↦ rfl) fun _ ↦ rfl

/-- What is pushed for a mode whose bytes exist. -/
def argsOf (target : ReserveConfig) (mode : ReserveConfigMode) : UpdateReserveIxnsArgs where
  mode := configDiscriminator mode + 1
  value := (job target mode).getD []

theorem pushMode_eq_some : pushMode reserve target args mode = some args' ↔
    (sends reserve target mode = true → (job target mode).isSome) ∧
      args' = args ++ ([mode].filter (sends reserve target)).map (argsOf target) := by
  rw [pushMode, List.filter_singleton]
  cases sends reserve target mode with
  | false =>
    have hsame : some args = some args' ↔ args' = args := by rw [Option.some.injEq, eq_comm]
    simpa using hsame
  | true =>
    cases hjob : job target mode with
    | none => simp [push]
    | some value =>
      have hpushed : some (args ++ [⟨configDiscriminator mode + 1, value⟩]) = some args' ↔
          args' = args ++ [⟨configDiscriminator mode + 1, value⟩] := by
        rw [Option.some.injEq, eq_comm]
      simpa [push, argsOf, hjob] using hpushed

theorem foldlM_pushMode {modes : List ReserveConfigMode} :
    modes.foldlM (pushMode reserve target) args = some args' ↔
      (∀ mode ∈ modes.filter (sends reserve target), (job target mode).isSome) ∧
        args' = args ++ (modes.filter (sends reserve target)).map (argsOf target) := by
  induction modes generalizing args with
  | nil =>
    have hsame : some args = some args' ↔ args' = args := by rw [Option.some.injEq, eq_comm]
    simpa using hsame
  | cons mode modes ih =>
    rw [List.foldlM_cons, Option.bind_eq_bind, Option.bind_eq_some_iff]
    simp only [pushMode_eq_some, ih]
    constructor
    · rintro ⟨_, ⟨hmode, rfl⟩, hmodes, rfl⟩
      cases hsends : sends reserve target mode with
      | false => simpa [hsends] using hmodes
      | true => simpa [hsends, hmode hsends] using hmodes
    · rintro ⟨hmodes, rfl⟩
      refine ⟨_, ⟨fun hsends ↦ hmodes mode (by simp [hsends]), rfl⟩, fun m hm ↦ ?_, ?_⟩
      · simp only [List.mem_filter] at hm
        exact hmodes m (by simp [hm])
      · cases hsends : sends reserve target mode <;> simp [hsends]

theorem foldlM_handleConfigUpdate (hsized : Sized reserve target) {keys : List ReserveConfigKey} :
    keys.foldlM (fun args key ↦ handleConfigUpdate key reserve target args) args = some args' ↔
      (keys.flatMap modes).foldlM (pushMode reserve target) args = some args' ∧
        ∀ key ∈ keys, KeyKept reserve target key := by
  induction keys generalizing args with
  | nil => simp
  | cons key keys ih =>
    rw [List.foldlM_cons, List.flatMap_cons, List.foldlM_append, List.forall_mem_cons]
    simp only [Option.bind_eq_bind, Option.bind_eq_some_iff, handleConfigUpdate_eq_some hsized, ih]
    constructor
    · rintro ⟨pushed, ⟨hkey, hkept⟩, hkeys, hrest⟩
      exact ⟨⟨pushed, hkey, hkeys⟩, hkept, hrest⟩
    · rintro ⟨⟨pushed, hkey, hkeys⟩, hkept, hrest⟩
      exact ⟨pushed, ⟨hkey, hkept⟩, hkeys, hrest⟩

/-- The modes that are sent, in the order of their instructions. -/
def sortedModes (reserve : Option Reserve) (target : ReserveConfig) : List ReserveConfigMode :=
  (sentModes.filter (sends reserve target)).mergeSort fun a b ↦
    compareByPriority (argsOf target a) (argsOf target b) ≤ 0

theorem mem_sortedModes :
    mode ∈ sortedModes reserve target ↔ mode ∈ sentModes ∧ sends reserve target mode := by
  rw [sortedModes, (List.mergeSort_perm _ _).mem_iff, List.mem_filter]

theorem sortedModes_nodup : (sortedModes reserve target).Nodup := by
  rw [sortedModes, (List.mergeSort_perm _ _).nodup_iff]
  exact List.Nodup.filter _ (by decide)

/-- The instruction for a mode whose bytes exist. -/
def ixOf (reserve : Option Reserve) (target : ReserveConfig) (mode : ReserveConfigMode) :
    UpdateReserveConfigArgs :=
  { argsOf target mode with
    skipValidation := modeMatches (argsOf target mode).mode ∧
      ¬ reserve.any fun reserve ↦ minInitialDeposit ≤ (reserve.liquidity.availableAmount : ℕ) }

/-- The instructions are made exactly if every changed setting has its bytes and no current total
alone differs; there is one for each changed setting. -/
theorem parseForChanges_eq_some (hsized : Sized reserve target)
    {ixs : List UpdateReserveConfigArgs} :
    parseForChangesReserveConfigAndGetIxs reserve target = some ixs ↔
      (∀ mode ∈ sortedModes reserve target, (job target mode).isSome) ∧
        (∀ key ∈ reserveConfigKeys, KeyKept reserve target key) ∧
        ixs = (sortedModes reserve target).map (ixOf reserve target) := by
  have hsorted : sortIxnsByPriority
      ((sentModes.filter (sends reserve target)).map (argsOf target)) =
        (sortedModes reserve target).map (argsOf target) := by
    rw [sortIxnsByPriority, sortedModes]
    symm
    apply List.map_mergeSort
    intro a _ b _
    rfl
  have hjobs : (∀ mode ∈ sentModes.filter (sends reserve target), (job target mode).isSome) ↔
      ∀ mode ∈ sortedModes reserve target, (job target mode).isSome := by
    simp only [List.mem_filter, mem_sortedModes]
  rw [parseForChangesReserveConfigAndGetIxs, Option.bind_eq_bind, Option.bind_eq_some_iff]
  simp only [foldlM_handleConfigUpdate hsized, ← sentModes.eq_def, foldlM_pushMode, hjobs]
  constructor
  · rintro ⟨_, ⟨⟨hmodes, rfl⟩, hkept⟩, hixs⟩
    refine ⟨hmodes, hkept, ?_⟩
    rw [← Option.some.inj hixs, List.nil_append, hsorted, List.map_map]
    rfl
  · rintro ⟨hmodes, hkept, rfl⟩
    refine ⟨_, ⟨⟨hmodes, rfl⟩, hkept⟩, ?_⟩
    rw [List.nil_append, hsorted, List.map_map]
    rfl

end Pushes

end Klend.Sdk.ReserveUpdates
