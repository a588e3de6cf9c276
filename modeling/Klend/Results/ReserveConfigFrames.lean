import Klend.Lending.ReserveConfigValues

/-! # Updates touch their own setting

An update of a reserve's configuration on the program's own bytes writes the setting of its
mode, leaves the rest of the reserve alone but for its staleness, and commutes with the
updates of other modes.
-/

namespace Klend

/-- `update_reserve_config` as it is called: the mode reads its value off the bytes. -/
def updateReserveConfigOn (reserve : Reserve) (mode : ReserveConfigMode) (value : List U8) :
    Result Reserve := do
  let u ← UpdateConfigMode.decode mode value
  updateReserveConfig reserve u

namespace Reserve

/-- The settings of a reserve, the keys of its farms among them. -/
def setting (r : Reserve) : ReserveConfigMode → SettingValue
  | .updateFarmCollateral => .key r.farmCollateral
  | .updateFarmDebt => .key r.farmDebt
  | mode => r.config.setting mode

/-- Two reserves differ at most in their settings and their last update. -/
structure SameBeside (r r' : Reserve) : Prop where
  reserve : r' = { r with
    config := r'.config, lastUpdate := r'.lastUpdate,
    farmCollateral := r'.farmCollateral, farmDebt := r'.farmDebt }
  depositStart : r'.config.depositWithdrawalCap.lastIntervalStartTimestamp =
    r.config.depositWithdrawalCap.lastIntervalStartTimestamp
  debtStart : r'.config.debtWithdrawalCap.lastIntervalStartTimestamp =
    r.config.debtWithdrawalCap.lastIntervalStartTimestamp

variable {r r' r₁ r₂ : Reserve} {u : UpdateConfigMode}

theorem SameBeside.trans (h : SameBeside r r₁) (h' : SameBeside r₁ r₂) : SameBeside r r₂ := by
  constructor
  · rw [h'.reserve, h.reserve]
  · rw [h'.depositStart, h.depositStart]
  · rw [h'.debtStart, h.debtStart]

theorem SameBeside.symm (h : SameBeside r r') : SameBeside r' r := by
  constructor
  · rw [h.reserve]
  · rw [h.depositStart]
  · rw [h.debtStart]

theorem setting_eq {m : ReserveConfigMode} (hcollateral : m ≠ .updateFarmCollateral)
    (hdebt : m ≠ .updateFarmDebt) : r.setting m = r.config.setting m := by
  unfold setting
  split
  · exact absurd rfl hcollateral
  · exact absurd rfl hdebt
  · rfl

theorem eq_of_setting (hsetting : r.setting = r'.setting) (hsame : SameBeside r r')
    (hupdate : r.lastUpdate = r'.lastUpdate) : r = r' := by
  have hsettings : r.config.setting = r'.config.setting := by
    funext m
    by_cases hcollateral : m = .updateFarmCollateral
    · rw [hcollateral]
      rfl
    · by_cases hdebt : m = .updateFarmDebt
      · rw [hdebt]
        rfl
      · rw [← setting_eq hcollateral hdebt, ← setting_eq hcollateral hdebt, hsetting]
  have hsync := ReserveConfig.inSync_iff.2 hsettings
  rw [ReserveConfig.InSync, hsame.depositStart, hsame.debtStart] at hsync
  have hconfig : r.config = r'.config := hsync
  have hcollateral : r.farmCollateral = r'.farmCollateral :=
    SettingValue.key.inj (congrFun hsetting .updateFarmCollateral)
  have hdebt : r.farmDebt = r'.farmDebt := SettingValue.key.inj (congrFun hsetting .updateFarmDebt)
  rw [hsame.reserve, ← hconfig, ← hcollateral, ← hdebt, ← hupdate]

/-- Only the modes of the farms touch their keys. -/
theorem updateFarms_of_ne (hcollateral : u.mode ≠ .updateFarmCollateral)
    (hdebt : u.mode ≠ .updateFarmDebt) : r.updateFarms u = r := by
  unfold updateFarms
  split
  · exact absurd rfl hcollateral
  · exact absurd rfl hdebt
  · rfl

theorem updateFarms_eq : r.updateFarms u = { r with
    farmCollateral := (r.updateFarms u).farmCollateral,
    farmDebt := (r.updateFarms u).farmDebt } := by
  unfold updateFarms
  split <;> rfl

end Reserve

theorem UpdateConfigMode.written_of_ne {u : UpdateConfigMode}
    (hcollateral : u.mode ≠ .updateFarmCollateral) (hdebt : u.mode ≠ .updateFarmDebt) :
    u.written = u.value := by
  unfold written
  split
  · exact absurd rfl hcollateral
  · exact absurd rfl hdebt
  · rfl

theorem ReserveConfig.update_starts {c c' : ReserveConfig} {u : UpdateConfigMode}
    (h : c.update u = .ok c') (hu : u.mode ≠ .updateEntireReserveConfig) :
    c'.depositWithdrawalCap.lastIntervalStartTimestamp =
        c.depositWithdrawalCap.lastIntervalStartTimestamp ∧
      c'.debtWithdrawalCap.lastIntervalStartTimestamp =
        c.debtWithdrawalCap.lastIntervalStartTimestamp := by
  cases u with
  | updateEntireReserveConfig => exact absurd rfl hu
  | deprecatedUpdateMultiplierSideBoost => cases h
  | deprecatedUpdateMultiplierTagBoost => cases h
  | updateDebtWithdrawalCap | updateDepositWithdrawalCap =>
    simp only [ReserveConfig.update, bind_eq_ok, pure_eq_ok, WithdrawalCaps.configure_eq_ok] at h
    obtain ⟨_, ⟨_, -, rfl⟩, rfl⟩ := h
    exact ⟨rfl, rfl⟩
  | updateDebtWithdrawalCapCurrentTotal | updateDepositWithdrawalCapCurrentTotal =>
    simp only [ReserveConfig.update, bind_eq_ok, pure_eq_ok, WithdrawalCaps.setCurrentTotal_eq_ok]
      at h
    obtain ⟨_, ⟨_, -, rfl⟩, rfl⟩ := h
    exact ⟨rfl, rfl⟩
  | updateReserveStatus =>
    simp only [ReserveConfig.update, bind_eq_ok, pure_eq_ok] at h
    obtain ⟨_, -, rfl⟩ := h
    exact ⟨rfl, rfl⟩
  | updateTokenInfoName =>
    simp only [ReserveConfig.update, bind_eq_ok, pure_eq_ok] at h
    obtain ⟨_, -, _, -, rfl⟩ := h
    exact ⟨rfl, rfl⟩
  | _ =>
    obtain rfl := pure_eq_ok.1 h
    exact ⟨rfl, rfl⟩

theorem setting_updateFarms {r r' : Reserve} {u : UpdateConfigMode}
    (hu : u.mode = .updateFarmCollateral ∨ u.mode = .updateFarmDebt)
    (h : updateReserveConfig r u = .ok r') :
    r'.setting = Function.update r.setting u.mode u.written := by
  cases u with
  | updateFarmCollateral new =>
    have hr' : r' = { r with farmCollateral := new, lastUpdate := r.lastUpdate.markStale } :=
      (pure_eq_ok.1 h).symm
    change r'.setting = Function.update r.setting .updateFarmCollateral (.key new)
    rw [hr']
    funext m
    by_cases hm : m = .updateFarmCollateral
    · rw [hm, Function.update_self]
      rfl
    · rw [Function.update_of_ne hm]
      by_cases hmd : m = .updateFarmDebt
      · rw [hmd]
        rfl
      · rw [Reserve.setting_eq hm hmd, Reserve.setting_eq hm hmd]
  | updateFarmDebt new =>
    have hr' : r' = { r with farmDebt := new, lastUpdate := r.lastUpdate.markStale } :=
      (pure_eq_ok.1 h).symm
    change r'.setting = Function.update r.setting .updateFarmDebt (.key new)
    rw [hr']
    funext m
    by_cases hm : m = .updateFarmDebt
    · rw [hm, Function.update_self]
      rfl
    · rw [Function.update_of_ne hm]
      by_cases hmc : m = .updateFarmCollateral
      · rw [hmc]
        rfl
      · rw [Reserve.setting_eq hmc hm, Reserve.setting_eq hmc hm]
  | _ =>
    rcases hu with hu | hu
    · cases hu
    · cases hu

section Updates

variable {r r' r₁ r₂ : Reserve} {u u₁ u₂ : UpdateConfigMode}

theorem setting_updateReserveConfig (h : updateReserveConfig r u = .ok r')
    (hu : u.mode ≠ .updateEntireReserveConfig) :
    r'.setting = Function.update r.setting u.mode u.written := by
  by_cases hfarms : u.mode = .updateFarmCollateral ∨ u.mode = .updateFarmDebt
  · exact setting_updateFarms hfarms h
  obtain ⟨hcollateral, hdebt⟩ := not_or.1 hfarms
  obtain ⟨c, hc, rfl⟩ := updateReserveConfig_eq_ok.1 h
  have hconfig := ReserveConfig.setting_update hc hu
  rw [Reserve.updateFarms_of_ne hcollateral hdebt, UpdateConfigMode.written_of_ne hcollateral hdebt]
  funext m
  by_cases hmc : m = .updateFarmCollateral
  · rw [hmc, Function.update_of_ne (Ne.symm hcollateral)]
    rfl
  · by_cases hmd : m = .updateFarmDebt
    · rw [hmd, Function.update_of_ne (Ne.symm hdebt)]
      rfl
    · rw [Reserve.setting_eq hmc hmd]
      change c.setting m = _
      rw [hconfig, Function.update_apply, Function.update_apply, Reserve.setting_eq hmc hmd]

theorem sameBeside_updateReserveConfig (h : updateReserveConfig r u = .ok r')
    (hu : u.mode ≠ .updateEntireReserveConfig) : r.SameBeside r' := by
  obtain ⟨c, hc, rfl⟩ := updateReserveConfig_eq_ok.1 h
  obtain ⟨hdeposit, hdebt⟩ := ReserveConfig.update_starts hc hu
  constructor
  case reserve => rw [Reserve.updateFarms_eq]
  case depositStart => exact hdeposit
  case debtStart => exact hdebt

theorem lastUpdate_updateReserveConfig (h : updateReserveConfig r u = .ok r') :
    r'.lastUpdate = r.lastUpdate.markStale := by
  obtain ⟨c, -, rfl⟩ := updateReserveConfig_eq_ok.1 h
  rfl

theorem updateReserveConfig_isOk (h : updateReserveConfig r u = .ok r')
    (hsame : r₁.setting u.mode = r.setting u.mode) : ∃ r₂, updateReserveConfig r₁ u = .ok r₂ := by
  obtain ⟨c, hc, -⟩ := updateReserveConfig_eq_ok.1 h
  have hadmissible := ReserveConfig.update_isOk_iff.1 ⟨c, hc⟩
  have hconfig : r.config.setting u.mode = r₁.config.setting u.mode := by
    by_cases hcollateral : u.mode = .updateFarmCollateral
    · rw [hcollateral]
      rfl
    · by_cases hdebt : u.mode = .updateFarmDebt
      · rw [hdebt]
        rfl
      · rw [← Reserve.setting_eq hcollateral hdebt, ← Reserve.setting_eq hcollateral hdebt, hsame]
  obtain ⟨d, hd⟩ := ReserveConfig.update_isOk_iff.2 (hadmissible.congr hconfig)
  exact ⟨_, updateReserveConfig_eq_ok.2 ⟨d, hd, rfl⟩⟩

theorem updateReserveConfig_comm (hne : u₁.mode ≠ u₂.mode)
    (hentire₁ : u₁.mode ≠ .updateEntireReserveConfig)
    (hentire₂ : u₂.mode ≠ .updateEntireReserveConfig) (h₁ : updateReserveConfig r u₁ = .ok r₁)
    (h₂ : updateReserveConfig r₁ u₂ = .ok r₂) :
    ∃ r', updateReserveConfig r u₂ = .ok r' ∧ updateReserveConfig r' u₁ = .ok r₂ := by
  have hsetting₁ := setting_updateReserveConfig h₁ hentire₁
  have hsetting₂ := setting_updateReserveConfig h₂ hentire₂
  obtain ⟨r', h₂'⟩ : ∃ r', updateReserveConfig r u₂ = .ok r' := by
    apply updateReserveConfig_isOk h₂
    rw [hsetting₁, Function.update_of_ne hne.symm]
  have hsetting₂' := setting_updateReserveConfig h₂' hentire₂
  obtain ⟨r₂', h₁'⟩ : ∃ r₂', updateReserveConfig r' u₁ = .ok r₂' := by
    apply updateReserveConfig_isOk h₁
    rw [hsetting₂', Function.update_of_ne hne]
  have hsetting₁' := setting_updateReserveConfig h₁' hentire₁
  have hsame : r₂'.SameBeside r₂ :=
    ((sameBeside_updateReserveConfig h₂' hentire₂).trans
      (sameBeside_updateReserveConfig h₁' hentire₁)).symm.trans
    ((sameBeside_updateReserveConfig h₁ hentire₁).trans
      (sameBeside_updateReserveConfig h₂ hentire₂))
  have heq : r₂' = r₂ := by
    apply Reserve.eq_of_setting _ hsame
    · rw [lastUpdate_updateReserveConfig h₁', lastUpdate_updateReserveConfig h₂',
        lastUpdate_updateReserveConfig h₂, lastUpdate_updateReserveConfig h₁]
    · rw [hsetting₁', hsetting₂', hsetting₂, hsetting₁, Function.update_comm hne]
  exact ⟨r', h₂', heq ▸ h₁'⟩

end Updates

/-- The update has written a value to the setting of its mode, and marked the reserve stale. -/
structure Reserve.Wrote (r : Reserve) (mode : ReserveConfigMode) (value : SettingValue)
    (r' : Reserve) : Prop where
  setting : r'.setting = Function.update r.setting mode value
  beside : r.SameBeside r'
  stale : r'.lastUpdate = r.lastUpdate.markStale

section Bytes

variable {r r' r₁ r₂ : Reserve} {m m₁ m₂ : ReserveConfigMode} {v : UpdateReserveConfigValue}
  {value₁ value₂ : List U8}

theorem updateReserveConfigOn_eq_ok {value : List U8} :
    updateReserveConfigOn r m value = .ok r' ↔
      ∃ u, UpdateConfigMode.decode m value = .ok u ∧ updateReserveConfig r u = .ok r' := by
  simp only [updateReserveConfigOn, bind_eq_ok]

theorem updateReserveConfigOn_wrote (hm : m ≠ .updateEntireReserveConfig)
    (hv : m.valueType = some v.type) (h : updateReserveConfigOn r m v.toRawBytes = .ok r') :
    r.Wrote m v.setting r' := by
  obtain ⟨u, hu, hr'⟩ := updateReserveConfigOn_eq_ok.1 h
  obtain ⟨rfl, hwritten⟩ := decode_toRawBytes hv hu
  constructor
  case setting => rw [setting_updateReserveConfig hr' hm, hwritten]
  case beside => exact sameBeside_updateReserveConfig hr' hm
  case stale => exact lastUpdate_updateReserveConfig hr'

theorem updateReserveConfigOn_full (config : {c : ReserveConfig // c.ArraysSized})
    (reserved : ReservedBytes) :
    updateReserveConfigOn r .updateEntireReserveConfig
        (UpdateReserveConfigValue.full config reserved).toRawBytes =
      .ok { r with config := config.val, lastUpdate := r.lastUpdate.markStale } := by
  have hread := @ReserveConfig.deserialize_append [] _ reserved config.property
  rw [List.append_nil] at hread
  rw [updateReserveConfigOn, UpdateReserveConfigValue.toRawBytes, UpdateConfigMode.decode, hread]
  rfl

theorem updateReserveConfigOn_comm (hne : m₁ ≠ m₂) (hentire₁ : m₁ ≠ .updateEntireReserveConfig)
    (hentire₂ : m₂ ≠ .updateEntireReserveConfig)
    (h₁ : updateReserveConfigOn r m₁ value₁ = .ok r₁)
    (h₂ : updateReserveConfigOn r₁ m₂ value₂ = .ok r₂) :
    ∃ r', updateReserveConfigOn r m₂ value₂ = .ok r' ∧
      updateReserveConfigOn r' m₁ value₁ = .ok r₂ := by
  obtain ⟨u₁, hu₁, hr₁⟩ := updateReserveConfigOn_eq_ok.1 h₁
  obtain ⟨u₂, hu₂, hr₂⟩ := updateReserveConfigOn_eq_ok.1 h₂
  obtain rfl := decode_mode hu₁
  obtain rfl := decode_mode hu₂
  obtain ⟨r', hr', hr₂'⟩ := updateReserveConfig_comm hne hentire₁ hentire₂ hr₁ hr₂
  exact ⟨r', updateReserveConfigOn_eq_ok.2 ⟨u₂, hu₂, hr'⟩,
    updateReserveConfigOn_eq_ok.2 ⟨u₁, hu₁, hr₂'⟩⟩

end Bytes

/-- An update on the encoder's bytes writes its value to the setting of its mode, or the whole
configuration, and leaves the rest of the reserve as it was but for its staleness; updates of
different single settings commute. -/
theorem updateReserveConfig_framed :
    (∀ (r r' : Reserve) (m : ReserveConfigMode) (v : UpdateReserveConfigValue),
        m ≠ .updateEntireReserveConfig → m.valueType = some v.type →
        updateReserveConfigOn r m v.toRawBytes = .ok r' → r.Wrote m v.setting r') ∧
      (∀ (r r' : Reserve) config reserved,
        updateReserveConfigOn r .updateEntireReserveConfig
          (UpdateReserveConfigValue.full config reserved).toRawBytes = .ok r' →
        r' = { r with config := config.val, lastUpdate := r.lastUpdate.markStale }) ∧
      ∀ (r r₁ r₂ : Reserve) (m₁ m₂ : ReserveConfigMode) (value₁ value₂ : List U8), m₁ ≠ m₂ →
        m₁ ≠ .updateEntireReserveConfig → m₂ ≠ .updateEntireReserveConfig →
        updateReserveConfigOn r m₁ value₁ = .ok r₁ → updateReserveConfigOn r₁ m₂ value₂ = .ok r₂ →
        ∃ r', updateReserveConfigOn r m₂ value₂ = .ok r' ∧
          updateReserveConfigOn r' m₁ value₁ = .ok r₂ := by
  constructor
  · intro r r' m v hm hv h
    exact updateReserveConfigOn_wrote hm hv h
  constructor
  · intro r r' config reserved h
    rw [updateReserveConfigOn_full] at h
    exact (Except.ok.inj h).symm
  · intro r r₁ r₂ m₁ m₂ value₁ value₂ hne hentire₁ hentire₂ h₁ h₂
    exact updateReserveConfigOn_comm hne hentire₁ hentire₂ h₁ h₂

/-- A reserve that has just been refreshed. -/
def freshReserve : Reserve :=
  { Reserve.init 0 1 1 6 100000 with lastUpdate := (LastUpdate.new 0).updateSlot 5 none }

/-- A loan-to-value written to a fresh reserve, and a deposit limit before or after it. -/
theorem updateReserveConfig_framed_fresh :
    ∃ r₁ r₂ r', updateReserveConfigOn freshReserve .updateLoanToValuePct
        (UpdateReserveConfigValue.u8 50).toRawBytes = .ok r₁ ∧
      freshReserve.Wrote .updateLoanToValuePct (.number 50) r₁ ∧
      updateReserveConfigOn r₁ .updateDepositLimit
        (UpdateReserveConfigValue.u64 7).toRawBytes = .ok r₂ ∧
      updateReserveConfigOn freshReserve .updateDepositLimit
        (UpdateReserveConfigValue.u64 7).toRawBytes = .ok r' ∧
      updateReserveConfigOn r' .updateLoanToValuePct
        (UpdateReserveConfigValue.u8 50).toRawBytes = .ok r₂ := by
  obtain ⟨r₁, h₁⟩ : ∃ r₁, updateReserveConfigOn freshReserve .updateLoanToValuePct
      (UpdateReserveConfigValue.u8 50).toRawBytes = .ok r₁ := ⟨_, rfl⟩
  obtain ⟨r₂, h₂⟩ : ∃ r₂, updateReserveConfigOn r₁ .updateDepositLimit
      (UpdateReserveConfigValue.u64 7).toRawBytes = .ok r₂ := ⟨_, rfl⟩
  obtain ⟨hwrote, -, hcomm⟩ := updateReserveConfig_framed
  obtain ⟨r', hr', hr₂⟩ := hcomm freshReserve r₁ r₂ _ _ _ _ (by decide) (by decide) (by decide)
    h₁ h₂
  exact ⟨r₁, r₂, r', h₁, hwrote _ _ _ (.u8 50) (by decide) rfl h₁, h₂, hr', hr₂⟩

/-- The last update is touched, too. -/
theorem updateReserveConfig_marks_stale :
    ¬ ∀ (r r' : Reserve) (m : ReserveConfigMode) (v : UpdateReserveConfigValue),
      m.valueType = some v.type → updateReserveConfigOn r m v.toRawBytes = .ok r' →
      r'.lastUpdate = r.lastUpdate := by
  intro h
  have hfresh := h freshReserve _ .updateLoanToValuePct (.u8 50) rfl rfl
  exact absurd hfresh (by decide)

end Klend
