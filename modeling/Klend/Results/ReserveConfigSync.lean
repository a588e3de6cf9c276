import Klend.Sdk.ReservePushes

/-! # The client brings a reserve to its target configuration

The instructions that the client makes out of two configurations lead from one to the
other exactly if every setting that differs is one that comes through.
-/

namespace Klend.Sdk.ReserveUpdates

/-- What the program asks of the old setting and the new one: a status that it knows, and for its log
both names in UTF-8. -/
def Writable (current target : ReserveConfig) : ReserveConfigMode → Prop
  | .updateReserveStatus => ∃ status, ReserveStatus.tryFrom current.status = some status
  | .updateTokenInfoName =>
    target.tokenInfo.name.fromUtf8 = .ok () ∧ current.tokenInfo.name.fromUtf8 = .ok ()
  | .deprecatedUpdateMultiplierSideBoost => False
  | .deprecatedUpdateMultiplierTagBoost => False
  | _ => True

/-- The settings that come through. -/
def Carried (current target : ReserveConfig) (mode : ReserveConfigMode) : Prop :=
  Readable target mode ∧ Writable current target mode

/-- The instructions run one after the other. -/
def applyIxs (ixs : List UpdateReserveConfigArgs) (reserve : Reserve) : Result Reserve :=
  ixs.foldlM (fun reserve ix ↦ updateReserveConfigFromBytes reserve ix.mode ix.value) reserve

/-- The reserve that the instructions meet: the one the client has read, or a new one. -/
def StartsFrom (reserve : Option Reserve) (start : Reserve) : Prop :=
  match reserve with
  | some reserve => start = reserve
  | none => ∃ slot market mint decimals deposit, start = .init slot market mint decimals deposit

/-- The client makes the instructions, and they bring the reserve to the target. -/
def Converges (reserve : Option Reserve) (start : Reserve) (target : ReserveConfig) : Prop :=
  ∃ ixs final, parseForChangesReserveConfigAndGetIxs reserve target = some ixs ∧
    applyIxs ixs start = .ok final ∧ final.config.InSync target

section Steps

variable {target c : ReserveConfig} {mode : ReserveConfigMode} {r r' : Reserve}

/-- What an instruction for a setting does to the reserve. -/
def updateSetting (target : ReserveConfig) (mode : ReserveConfigMode) (reserve : Reserve) :
    Result Reserve := do
  let u ← sent target mode
  updateReserveConfig reserve u

theorem writable_iff {u : UpdateConfigMode} (h : u.value = target.setting u.mode) :
    u.Admissible c ↔ Writable c target u.mode := by
  cases u with
  | updateDebtWithdrawalCap capacity interval =>
    have hcapacity := (List.cons.inj (SettingValue.numbers.inj h)).1
    have := target.debtWithdrawalCap.configCapacity.property.2
    refine iff_of_true ?_ trivial
    change (capacity : ℕ) < 2 ^ 63
    omega
  | updateDepositWithdrawalCap capacity interval =>
    have hcapacity := (List.cons.inj (SettingValue.numbers.inj h)).1
    have := target.depositWithdrawalCap.configCapacity.property.2
    refine iff_of_true ?_ trivial
    change (capacity : ℕ) < 2 ^ 63
    omega
  | updateDebtWithdrawalCapCurrentTotal new =>
    have htotal := SettingValue.number.inj h
    have := target.debtWithdrawalCap.currentTotal.property.2
    refine iff_of_true ?_ trivial
    change (new : ℕ) < 2 ^ 63
    omega
  | updateDepositWithdrawalCapCurrentTotal new =>
    have htotal := SettingValue.number.inj h
    have := target.depositWithdrawalCap.currentTotal.property.2
    refine iff_of_true ?_ trivial
    change (new : ℕ) < 2 ^ 63
    omega
  | updateTokenInfoName new =>
    have hname : new = target.tokenInfo.name := Subtype.ext (numbers_inj h)
    rw [hname]
    rfl
  | deprecatedUpdateMultiplierSideBoost => exact Iff.rfl
  | deprecatedUpdateMultiplierTagBoost => exact Iff.rfl
  | updateReserveStatus => exact Iff.rfl
  | _ => exact Iff.rfl

theorem updateSetting_isOk_iff (hsized : target.ArraysSized) (hmode : mode ∈ sentModes) :
    (∃ r', updateSetting target mode r = .ok r') ↔ Carried r.config target mode := by
  obtain ⟨hcarried, hreadable⟩ := arrives_iff_readable hsized hmode
  rw [Carried, ← hreadable]
  simp only [updateSetting, bind_eq_ok, updateReserveConfig_eq_ok]
  constructor
  · rintro ⟨_, u, hu, c, hc, -⟩
    obtain ⟨rfl, hvalue⟩ := hcarried u hu
    exact ⟨⟨u, hu⟩, (writable_iff hvalue).1 (ReserveConfig.update_isOk_iff.1 ⟨c, hc⟩)⟩
  · rintro ⟨⟨u, hu⟩, hwritable⟩
    obtain ⟨rfl, hvalue⟩ := hcarried u hu
    obtain ⟨c, hc⟩ := ReserveConfig.update_isOk_iff.2 ((writable_iff hvalue).2 hwritable)
    exact ⟨_, u, hu, c, hc, rfl⟩

theorem updateSetting_overwrites (hsized : target.ArraysSized) (hmode : mode ∈ sentModes) :
    Settings.Overwrites (fun r : Reserve ↦ r.config.setting) target.setting
      (updateSetting target) mode := by
  have hcarried := (arrives_iff_readable hsized hmode).1
  have hentire : mode ≠ .updateEntireReserveConfig := by
    rintro rfl
    exact absurd hmode (by decide)
  constructor
  · intro r r' h
    simp only [updateSetting, bind_eq_ok, updateReserveConfig_eq_ok] at h
    obtain ⟨u, hu, c, hc, rfl⟩ := h
    obtain ⟨rfl, hvalue⟩ := hcarried u hu
    rw [← hvalue]
    exact ReserveConfig.setting_update hc hentire
  · intro r t r' hsame h
    simp only [updateSetting, bind_eq_ok, updateReserveConfig_eq_ok] at h ⊢
    obtain ⟨u, hu, c, hc, -⟩ := h
    obtain ⟨rfl, -⟩ := hcarried u hu
    obtain ⟨d, hd⟩ := ReserveConfig.update_isOk_iff.2
      ((ReserveConfig.update_isOk_iff.1 ⟨c, hc⟩).congr hsame)
    exact ⟨_, u, hu, d, hd, rfl⟩

theorem tryFrom_discriminator (mode : ReserveConfigMode) :
    ReserveConfigMode.tryFrom (configDiscriminator mode + 1) = some mode := by
  cases mode <;> rfl

theorem updateReserveConfigFromBytes_eq (hjob : (job target mode).isSome) :
    updateReserveConfigFromBytes r (argsOf target mode).mode (argsOf target mode).value =
      updateSetting target mode r := by
  obtain ⟨value, hvalue⟩ := Option.isSome_iff_exists.1 hjob
  rw [updateSetting, sent_of_job hvalue, updateReserveConfigFromBytes, UpdateConfigMode.readArgs,
    argsOf, tryFrom_discriminator, hvalue]
  rfl

theorem applyIxs_eq_run {reserve : Option Reserve} {ks : List ReserveConfigMode}
    (hjobs : ∀ mode ∈ ks, (job target mode).isSome) :
    applyIxs (ks.map (ixOf reserve target)) r = Settings.run (updateSetting target) ks r := by
  rw [applyIxs, Settings.run, List.foldlM_map]
  induction ks generalizing r with
  | nil => rfl
  | cons mode ks ih =>
    obtain ⟨hmode, hrest⟩ := List.forall_mem_cons.1 hjobs
    rw [List.foldlM_cons, List.foldlM_cons]
    change updateReserveConfigFromBytes r (argsOf target mode).mode (argsOf target mode).value >>=
      _ = _
    rw [updateReserveConfigFromBytes_eq hmode]
    exact bind_congr fun r ↦ ih hrest

/-- What the client never sends is empty, or the current total of a cap. -/
theorem eq_or_not_readable (hmode : mode ∉ sentModes) :
    c.setting mode = target.setting mode ∨ ¬ Readable target mode := by
  cases mode with
  | updateFeesReferralFeeBps | deprecatedUpdateMultiplierSideBoost
  | deprecatedUpdateMultiplierTagBoost | updateEntireReserveConfig | updateFarmCollateral
  | updateFarmDebt => exact .inl rfl
  | updateDebtWithdrawalCapCurrentTotal | updateDepositWithdrawalCapCurrentTotal => exact .inr id
  | _ => exact absurd (by decide) hmode

end Steps

section Run

variable {reserve : Option Reserve} {target : ReserveConfig} {start r final : Reserve}

theorem overwrites_sorted (hsized : target.ArraysSized) :
    ∀ mode ∈ sortedModes reserve target, Settings.Overwrites (fun r : Reserve ↦ r.config.setting)
      target.setting (updateSetting target) mode :=
  fun _ hmode ↦ updateSetting_overwrites hsized (mem_sortedModes.1 hmode).1

theorem run_isOk_iff_carried (hsized : target.ArraysSized) :
    (∃ final, Settings.run (updateSetting target) (sortedModes reserve target) start = .ok final) ↔
      ∀ mode ∈ sortedModes reserve target, Carried start.config target mode := by
  rw [Settings.run_isOk_iff (overwrites_sorted hsized) sortedModes_nodup]
  refine forall₂_congr fun mode hmode ↦ ?_
  exact updateSetting_isOk_iff hsized (mem_sortedModes.1 hmode).1

theorem run_inSync_iff (hsized : target.ArraysSized)
    (hrun : Settings.run (updateSetting target) (sortedModes reserve target) start = .ok final) :
    final.config.InSync target ↔
      ∀ mode, mode ∈ sortedModes reserve target ∨
        start.config.setting mode = target.setting mode := by
  rw [ReserveConfig.inSync_iff]
  exact @Settings.view_run_eq_iff _ _ _ _ (fun r : Reserve ↦ r.config.setting) target.setting
    (updateSetting target) _ _ _ _ (overwrites_sorted hsized) hrun

theorem keyKept_of_carried {key : ReserveConfigKey}
    (h : ∀ mode, r.config.setting mode = target.setting mode ∨ Carried r.config target mode) :
    KeyKept (some r) target key := by
  have htotal {mode total : ReserveConfigMode} (hnot : ¬ Readable target total) :
      TotalsKept (some r) target mode total := by
    rintro _ ⟨⟩ -
    exact (h total).resolve_right fun hcarried ↦ hnot hcarried.1
  cases key with
  | depositWithdrawalCap => exact htotal id
  | debtWithdrawalCap => exact htotal id
  | _ => trivial

theorem Converges.carried (hsized : Sized reserve target) (hstart : StartsFrom reserve start)
    (h : Converges reserve start target) : ∃ r, reserve = some r ∧
      ∀ mode, r.config.setting mode = target.setting mode ∨ Carried r.config target mode := by
  obtain ⟨ixs, final, hixs, hfinal, hsync⟩ := h
  obtain ⟨hjobs, -, rfl⟩ := (parseForChanges_eq_some hsized).1 hixs
  rw [applyIxs_eq_run hjobs] at hfinal
  have hcarried := (run_isOk_iff_carried hsized.1).1 ⟨final, hfinal⟩
  cases reserve with
  | none =>
    -- a new reserve is always sent the host's rate, without its bytes
    have hhost : Carried start.config target .updateHostFixedInterestRateBps :=
      hcarried _ (mem_sortedModes.2 ⟨by decide, rfl⟩)
    exact absurd hhost.1 id
  | some r =>
    obtain rfl : start = r := hstart
    refine ⟨start, rfl, fun mode ↦ ?_⟩
    exact ((run_inSync_iff hsized.1 hfinal).1 hsync mode).symm.imp_right (hcarried mode)

theorem converges_of_carried (hsized : Sized (some r) target)
    (hall : ∀ mode, r.config.setting mode = target.setting mode ∨ Carried r.config target mode) :
    Converges (some r) r target := by
  have hcarried : ∀ mode ∈ sortedModes (some r) target,
      Carried r.config target mode := by
    intro mode hmode
    have hsends := (mem_sortedModes.1 hmode).2
    exact (hall mode).resolve_left (by simpa [sends] using hsends)
  have hjobs : ∀ mode ∈ sortedModes (some r) target, (job target mode).isSome := by
    intro mode hmode
    obtain ⟨u, hu⟩ := (arrives_iff_readable hsized.1 (mem_sortedModes.1 hmode).1).2.2
      (hcarried mode hmode).1
    simp only [sent, bind_eq_ok, unwrap_eq_ok] at hu
    obtain ⟨value, hvalue, -⟩ := hu
    exact Option.isSome_of_eq_some hvalue
  obtain ⟨final, hfinal⟩ := (run_isOk_iff_carried hsized.1).2 hcarried
  refine ⟨_, final, (parseForChanges_eq_some hsized).2
    ⟨hjobs, fun key _ ↦ keyKept_of_carried hall, rfl⟩, ?_, ?_⟩
  · rw [applyIxs_eq_run hjobs, hfinal]
  · refine (run_inSync_iff hsized.1 hfinal).2 fun mode ↦ ?_
    by_cases hsame : r.config.setting mode = target.setting mode
    · exact .inr hsame
    · have hreadable := ((hall mode).resolve_left hsame).1
      have hsent : mode ∈ sentModes := by
        by_contra hnot
        exact (eq_or_not_readable hnot).elim hsame fun h ↦ h hreadable
      exact .inl (mem_sortedModes.2 ⟨hsent, by simp [sends, hsame]⟩)

/-- The client brings a reserve to its target exactly if the reserve exists and every setting that
differs comes through. -/
theorem converges_iff (hsized : Sized reserve target) (hstart : StartsFrom reserve start) :
    Converges reserve start target ↔ ∃ r, reserve = some r ∧
      ∀ mode, r.config.setting mode = target.setting mode ∨ Carried r.config target mode := by
  constructor
  · exact Converges.carried hsized hstart
  · rintro ⟨r, rfl, hall⟩
    obtain rfl : start = r := hstart
    exact converges_of_carried hsized hall

end Run

section NewReserve

def newReserve : Reserve := .init 0 1 1 6 100000

/-- Two settings of a new reserve changed. -/
def openTarget : ReserveConfig :=
  { newReserve.config with loanToValuePct := 50, depositLimit := 2 ^ 60 }

/-- A new reserve with a fixed rate for its host. -/
def hostTarget : ReserveConfig := { newReserve.config with hostFixedInterestRateBps := 5 }

theorem sized_open : Sized (some newReserve) openTarget :=
  ⟨⟨rfl, rfl, rfl, rfl⟩, by rintro _ ⟨⟩; exact ⟨rfl, rfl, rfl, rfl⟩⟩

theorem sized_host : Sized (some newReserve) hostTarget :=
  ⟨⟨rfl, rfl, rfl, rfl⟩, by rintro _ ⟨⟩; exact ⟨rfl, rfl, rfl, rfl⟩⟩

theorem converges_open : Converges (some newReserve) newReserve openTarget := by
  refine (converges_iff sized_open rfl).2 ⟨newReserve, rfl, fun mode ↦ ?_⟩
  cases mode with
  | updateLoanToValuePct | updateDepositLimit => exact .inr ⟨trivial, trivial⟩
  | _ => exact .inl rfl

/-- A fixed rate of the host does not come through. -/
theorem not_converges_host : Sized (some newReserve) hostTarget ∧
    StartsFrom (some newReserve) newReserve ∧
    ¬ Converges (some newReserve) newReserve hostTarget := by
  refine ⟨sized_host, rfl, fun h ↦ ?_⟩
  obtain ⟨r, ⟨⟩, hall⟩ := h.carried sized_host rfl
  rcases hall .updateHostFixedInterestRateBps with hsame | hcarried
  · exact absurd hsame (by decide)
  · exact hcarried.1

end NewReserve

end Klend.Sdk.ReserveUpdates
