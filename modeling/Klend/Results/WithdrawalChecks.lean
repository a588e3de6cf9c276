import Klend.Lending.ReserveConfigUpdates
import Klend.Results.RepaymentChecks
import Klend.Results.Withdrawals

/-! # The check after a withdrawal

A refresh leaves every collateral as a part of the obligation's totals. As long as its
price, exchange rate and threshold stay, what is withdrawn of it is worth no more than
that part, and the check after the withdrawal does not abort.
-/

namespace Klend

variable {market market' : LendingMarket} {r r' : Reserve} {o o' : Obligation}
  {amount n slot : U64} {key : Pubkey} {mode : LtvMaxWithdrawalCheck} {d : ObligationCollateral}
  {ltvPct thresholdPct : U8} {i : ℕ} {rs rs' : Reserves} {iter iter' : List Pubkey}
  {check : MaxReservesAsCollateralCheck} {states states' : ReferrerTokenStates}
  {stateKeys : List ReferrerTokenStateKey} {group : Option ElevationGroup}
  {value deposited unhealthy removed liquidity : Fraction}

section Values

/-- A number that `to_display` can print. -/
def Fraction.Printable (x : Fraction) : Prop := x.bits + 2 ^ 60 / 20000 < 2 ^ 128

theorem Fraction.Printable.of_le {x y : Fraction} (h : y.Printable) (hle : x ≤ y) :
    x.Printable :=
  (Nat.add_le_add_right hle _).trans_lt h

theorem Fraction.toDisplay_eq_ok {x : Fraction} {u : Unit} :
    x.toDisplay = .ok u ↔ x.Printable := by
  simp only [toDisplay, bind_eq_ok, ofBits_eq_ok, pure_eq_ok, and_true, Printable]
  constructor
  · rintro ⟨y, hy⟩
    exact hy ▸ y.isLt
  · intro h
    exact ⟨⟨_, h⟩, rfl⟩

theorem exists_fractionCollateralToLiquidity_le {rate : CollateralExchangeRate}
    {x x' y : Fraction} (h : rate.fractionCollateralToLiquidity x = .ok y) (hle : x' ≤ x) :
    ∃ y', rate.fractionCollateralToLiquidity x' = .ok y' ∧ y' ≤ y := by
  simp only [CollateralExchangeRate.fractionCollateralToLiquidity, bind_eq_ok,
    BigFraction.mul_eq_ok, BigFraction.bits_ofFraction, BigFraction.divInt_eq_ok,
    BigFraction.toFraction_eq_ok] at h ⊢
  obtain ⟨scaled, ⟨hlt, hscaled⟩, amount, ⟨hne, hamount⟩, hy⟩ := h
  have hproduct : x'.bits * rate.liquidity.bits ≤ x.bits * rate.liquidity.bits :=
    Nat.mul_le_mul_right _ hle
  have hscaledLe : x'.bits * rate.liquidity.bits / 2 ^ 60 ≤ scaled.bits := by
    rw [hscaled]
    exact Nat.div_le_div_right hproduct
  have hamountLe : x'.bits * rate.liquidity.bits / 2 ^ 60 / rate.collateralSupply ≤ y.bits := by
    rw [hy, hamount]
    exact Nat.div_le_div_right hscaledLe
  exact ⟨⟨_, hamountLe.trans_lt y.isLt⟩, ⟨⟨_, hscaledLe.trans_lt scaled.isLt⟩,
    ⟨hproduct.trans_lt hlt, rfl⟩, ⟨_, hamountLe.trans_lt (y.isLt.trans (by norm_num))⟩,
    ⟨hne, rfl⟩, rfl⟩, hamountLe⟩

theorem Fraction.mul_percent_le {x y : Fraction} {pct : U8}
    (h : x.mul (fromPercent pct.widen) = .ok y) : 100 * y.bits ≤ 255 * x.bits := by
  have hpct : (pct : ℕ) ≤ 255 := Nat.le_of_lt_succ pct.isLt
  rw [mul_eq_ok, bits_fromPercent, Word.widen_val] at h
  have hfactor : pct * 2 ^ 60 / 100 * 100 ≤ (255 : ℕ) * 2 ^ 60 :=
    (Nat.div_mul_le_self _ _).trans (Nat.mul_le_mul_right _ hpct)
  have hy : y.bits * 2 ^ 60 ≤ x.bits * (pct * 2 ^ 60 / 100) := h ▸ Nat.div_mul_le_self _ _
  have hscaled : 100 * y.bits * 2 ^ 60 ≤ 255 * x.bits * 2 ^ 60 := by
    calc 100 * y.bits * 2 ^ 60 = 100 * (y.bits * 2 ^ 60) := mul_assoc _ _ _
      _ ≤ 100 * (x.bits * (pct * 2 ^ 60 / 100)) := Nat.mul_le_mul_left _ hy
      _ = x.bits * (pct * 2 ^ 60 / 100 * 100) := by ring
      _ ≤ x.bits * (255 * 2 ^ 60) := Nat.mul_le_mul_left _ hfactor
      _ = 255 * x.bits * 2 ^ 60 := by ring
  exact Nat.le_of_mul_le_mul_right hscaled (by norm_num)

theorem Fraction.mul_percent_rest {x x' y y' : Fraction} {pct : U8}
    (h : x.mul (fromPercent pct.widen) = .ok y) (h' : x'.mul (fromPercent pct.widen) = .ok y')
    (hle : x' ≤ x) : 100 * y.bits ≤ 100 * y'.bits + 255 * (x.bits - x'.bits) + 100 := by
  have hle : x'.bits ≤ x.bits := hle
  obtain ⟨z, hz⟩ : ∃ z : Fraction, z.bits = x.bits - x'.bits :=
    ⟨⟨_, (Nat.sub_le _ _).trans_lt x.isLt⟩, rfl⟩
  obtain ⟨w, hw, -⟩ := Fraction.exists_mul_le h (hz.trans_le (Nat.sub_le _ _)) le_rfl
  have hrest := mul_percent_le hw
  rw [mul_eq_ok] at h h' hw
  have hsplit : x.bits = x'.bits + z.bits := by omega
  have hfloor : y.bits ≤ y'.bits + w.bits + 1 := by
    rw [h, h', hw, hsplit, Nat.add_mul, Nat.add_div (by norm_num)]
    split <;> omega
  omega

end Values

section Refreshed

/-- A collateral that was worth its cached value at the reserve, as a part of the totals. -/
structure ObligationCollateral.PartOf (d : ObligationCollateral) (r : Reserve) (thresholdPct : U8)
    (deposited unhealthy : Fraction) : Prop where
  value : calculateObligationCollateralMarketValue r d = .ok d.marketValueSf
  printable : d.marketValueSf.Printable
  parts : ∃ (removed : Fraction) (restValue restUnhealthy : ℕ),
    d.marketValueSf.mul (Fraction.fromPercent thresholdPct.widen) = .ok removed ∧
      deposited.bits = d.marketValueSf.bits + restValue ∧
      unhealthy.bits = removed.bits + restUnhealthy ∧ 100 * restUnhealthy ≤ 255 * restValue

theorem ObligationCollateral.PartOf.grow {mv un deposited' unhealthy' : Fraction} {pct : U8}
    (h : d.PartOf r thresholdPct deposited unhealthy)
    (hun : mv.mul (Fraction.fromPercent pct.widen) = .ok un)
    (hdeposited : deposited.add mv = .ok deposited')
    (hunhealthy : unhealthy.add un = .ok unhealthy') :
    d.PartOf r thresholdPct deposited' unhealthy' where
  value := h.value
  printable := h.printable
  parts := by
    obtain ⟨removed, restValue, restUnhealthy, hremoved, hvalue, hrest, hle⟩ := h.parts
    rw [Fraction.add_eq_ok] at hdeposited hunhealthy
    have hmore := Fraction.mul_percent_le hun
    exact ⟨removed, restValue + mv.bits, restUnhealthy + un.bits, hremoved, by omega, by omega,
      by omega⟩

theorem refreshDeposit_printable {index : ℕ} {withDebt : Option (ElevationGroup × U64)}
    {s s' : DepositsPass} {d d' : ObligationCollateral}
    (h : refreshDeposit market slot group withDebt index s d key = .ok (s', d')) :
    d'.marketValueSf.Printable := by
  simp only [refreshDeposit, bind_of_ite, bind_eq_ok, pure_eq_ok, Prod.exists, Prod.mk.injEq] at h
  obtain ⟨r, -, -, -, -, -, -, -, r₁, d₁, -, mv, -, dv, -, al, -, abv, -, un, -, ubv, -, -, -, -, -,
    -, -, _, hdisplay, -, rfl⟩ := h
  exact Fraction.toDisplay_eq_ok.1 hdisplay

theorem refreshObligationDeposits_parts {deposits : RefreshObligationDepositsResult}
    {debt : Option U64}
    (h : refreshObligationDeposits o market slot check group rs iter debt =
      .ok (o', rs', deposits)) :
    ∀ d ∈ o'.deposits, d.depositReserve ≠ 0 → ∃ r, rs d.depositReserve = some r ∧
      d.PartOf r (getMaxLtvAndLiquidationThreshold r group).2 deposits.depositedValueF
        deposits.unhealthyBorrowValueF := by
  obtain ⟨-, s, slots, hloop, rfl, rfl, hdeposited, -, hunhealthy, -⟩ :=
    refreshObligationDeposits_spec h
  rw [hdeposited, hunhealthy]
  refine (forOccupied_induct (P := fun l (s : DepositsPass) ↦ Reserves.Retracked rs s.reserves ∧
    100 * s.unhealthyBorrowValue.bits ≤ 255 * s.depositedValue.bits ∧
    ∀ d ∈ l, d.depositReserve ≠ 0 → ∃ r, rs d.depositReserve = some r ∧
      d.PartOf r (getMaxLtvAndLiquidationThreshold r group).2 s.depositedValue
        s.unhealthyBorrowValue)
    ⟨.refl rs, le_rfl, fun _ hd ↦ absurd hd List.not_mem_nil⟩ ?free ?step hloop).2.2
  case free =>
    rintro l s d - hfree ⟨hbook, hsum, hparts⟩
    have hkey : d.depositReserve = 0 := by simpa [ObligationCollateral.occupied] using hfree
    refine ⟨hbook, hsum, fun e he hne ↦ ?_⟩
    rcases List.mem_append.1 he with he | he
    · exact hparts e he hne
    · exact absurd (List.mem_singleton.1 he ▸ hkey) hne
  case step =>
    rintro l s d k s' d' - - hbody ⟨hbook, hsum, hparts⟩
    obtain ⟨r₀, r₁, d₁, mv, al, un, hkey, hr₀, hd, -, -, htrack, hvalue, hdv, -, -, hun, hubv,
      hstore, rfl, -⟩ := refreshDeposit_spec hbody
    have hretrack := trackRefreshedDeposit_retracked htrack
    refine ⟨hstore ▸ hbook.trans (.store hr₀ hretrack), ?_, fun e he hne ↦ ?_⟩
    · have hmore := Fraction.mul_percent_le hun
      rw [Fraction.add_eq_ok] at hdv hubv
      omega
    rcases List.mem_append.1 he with he | he
    · obtain ⟨r, hr, hpart⟩ := hparts e he hne
      exact ⟨r, hr, hpart.grow hun hdv hubv⟩
    · have hkey₁ : d₁.depositReserve = k := by
        obtain ⟨-, -, rfl⟩ | ⟨g, n, j, m, -, -, -, -, -, -, rfl⟩ :=
          trackRefreshedDeposit_spec htrack
        · exact hd
        · exact hd
      obtain rfl := List.mem_singleton.1 he
      obtain ⟨r, hr, hretrack₀⟩ := hbook.value_rev hr₀
      obtain ⟨_, _, rfl⟩ := hretrack₀.trans hretrack
      rw [Fraction.add_eq_ok] at hdv hubv
      refine ⟨r, hkey₁ ▸ hr, hvalue, refreshDeposit_printable hbody, un, s.depositedValue.bits,
        s.unhealthyBorrowValue.bits, hun, ?_, ?_, hsum⟩
      · rw [hdv, Nat.add_comm]
      · rw [hubv, Nat.add_comm]

theorem ReserveConfig.bits_getBorrowFactor_le (c : ReserveConfig) :
    c.getBorrowFactor.bits ≤ 2 ^ 118 := by
  have hpct := c.borrowFactorPct.isLt
  rw [getBorrowFactor, Fraction.bits_max, Fraction.bits_fromPercent, Fraction.bits_one]
  omega

theorem refreshObligationBorrows_factor {borrows : RefreshObligationBorrowsResult}
    (h : refreshObligationBorrows o market slot group rs iter states stateKeys =
      .ok (o', rs', states', borrows)) :
    borrows.borrowFactorAdjustedDebtValueF.bits * 2 ^ 60 ≤
      borrows.borrowedAssetsMarketValueF.bits * 2 ^ 118 := by
  obtain ⟨s, slots, hloop, -, -, -, -, hadjusted, hborrowed, -⟩ := refreshObligationBorrows_spec h
  rw [hadjusted, hborrowed]
  refine forOccupied_induct (P := fun _ (s : BorrowsPass) ↦
    s.borrowFactorAdjustedDebtValue.bits * 2 ^ 60 ≤ s.borrowedAssetsMarketValue.bits * 2 ^ 118)
    (by simp) (fun _ _ _ _ _ hsum ↦ hsum) ?step hloop
  case step =>
    rintro l s b k s' b' - - hbody hsum
    obtain ⟨r₁, b₁, n, r₂, b₂, slots, r₃, mv, bfMv, -, -, -, -, -, -, -, -, -, -, -, -, hmv, hbfMv,
      hadjusted, -⟩ := refreshBorrow_spec hbody
    rw [Fraction.add_eq_ok] at hmv hadjusted
    have hfactor : (r₃.borrowFactorF group.isSome).bits ≤ 2 ^ 118 := by
      unfold Reserve.borrowFactorF
      split
      · rw [Fraction.bits_one]
        norm_num
      · exact r₃.config.bits_getBorrowFactor_le
    have hvalue : bfMv.bits * 2 ^ 60 ≤ mv.bits * 2 ^ 118 := by
      rw [Fraction.mul_eq_ok.1 hbfMv]
      exact (Nat.div_mul_le_self _ _).trans (Nat.mul_le_mul_left _ hfactor)
    rw [hmv, hadjusted, Nat.add_mul, Nat.add_mul]
    exact Nat.add_le_add hsum hvalue

/-- What a refresh leaves: collaterals that are parts of the totals, and a debt that the borrow
factors bound. -/
theorem refreshObligation_parts
    (h : refreshObligation o market slot check rs iter iter' states stateKeys =
      .ok (o', rs', states')) :
    ∃ group, getElevationGroup o'.elevationGroup market = .ok group ∧
      (∀ d ∈ o'.deposits, d.depositReserve ≠ 0 → ∀ r, rs' d.depositReserve = some r →
        d.PartOf r (getMaxLtvAndLiquidationThreshold r group).2 o'.depositedValueSf
          o'.unhealthyBorrowValueSf) ∧
      o'.borrowFactorAdjustedDebtValueSf.bits * 2 ^ 60 ≤
        o'.borrowedAssetsMarketValueSf.bits * 2 ^ 118 := by
  obtain ⟨group, o₁, rs₁, borrows, o₂, deposits, hgroup, hb, hd, rfl⟩ := refreshObligation_spec h
  obtain ⟨-, -, hframe⟩ := refreshObligationBorrows_frame hb
  obtain ⟨hretrack, -, hframe'⟩ := refreshObligationDeposits_frame hd
  have hsame : o₂.elevationGroup = o.elevationGroup := by rw [hframe', hframe]
  refine ⟨group, hsame ▸ hgroup, ?_, refreshObligationBorrows_factor hb⟩
  intro d hmem hne r hr
  obtain ⟨r₀, hr₀, hpart⟩ := refreshObligationDeposits_parts hd d hmem hne
  obtain ⟨r₁, hr₁, hbook⟩ := hretrack.value_rev hr
  obtain rfl := Option.some.inj (hr₀.symm.trans hr₁)
  obtain ⟨_, _, rfl⟩ := hbook
  exact ⟨hpart.value, hpart.printable, hpart.parts⟩

end Refreshed

section Checked

theorem Fraction.exists_sub {x y : Fraction} (h : y ≤ x) :
    ∃ z, x.sub y = .ok z ∧ z.bits = x.bits - y.bits ∧ z ≤ x := by
  have hle : x.bits - y.bits ≤ x.bits := Nat.sub_le _ _
  exact ⟨⟨_, hle.trans_lt x.isLt⟩, sub_eq_ok.2 (Nat.sub_add_cancel h), rfl, hle⟩

theorem Fraction.exists_div {x y : Fraction} {m : ℕ} (hy : y.bits ≠ 0)
    (h : x.bits * 2 ^ 60 ≤ m * y.bits) (hm : m < 2 ^ 128) :
    ∃ z, x.div y = .ok z ∧ z.bits ≤ m := by
  have hle : x.bits * 2 ^ 60 / y.bits ≤ m :=
    Nat.div_le_of_le_mul (mul_comm m y.bits ▸ h)
  exact ⟨⟨_, hle.trans_lt hm⟩, div_eq_ok.2 ⟨hy, rfl⟩, hle⟩

theorem exists_remainingLtvs {left : Fraction} (hcovered : removed ≤ o.unhealthyBorrowValueSf)
    (hrest : 100 * o.unhealthyBorrowValueSf.bits ≤ 100 * removed.bits + 255 * left.bits + 100)
    (hdebt : o.borrowFactorAdjustedDebtValueSf.bits * 2 ^ 60 ≤
      o.borrowedAssetsMarketValueSf.bits * 2 ^ 118)
    (hborrowed : o.borrowedAssetsMarketValueSf < left) :
    ∃ ltv limit limitLtv, o.borrowFactorAdjustedDebtValueSf.div left = .ok ltv ∧ ltv.Printable ∧
      o.unhealthyBorrowValueSf.sub removed = .ok limit ∧ limit.div left = .ok limitLtv := by
  have hborrowed : o.borrowedAssetsMarketValueSf.bits < left.bits := hborrowed
  have hpos : left.bits ≠ 0 := by omega
  have hltvFits : o.borrowFactorAdjustedDebtValueSf.bits * 2 ^ 60 ≤ 2 ^ 118 * left.bits := by
    rw [mul_comm (2 ^ 118)]
    exact hdebt.trans (Nat.mul_le_mul_right _ hborrowed.le)
  obtain ⟨ltv, hltv, hltvLe⟩ := Fraction.exists_div hpos hltvFits (by norm_num)
  obtain ⟨limit, hlimit, hlimitBits, -⟩ := Fraction.exists_sub hcovered
  have hlimitLe : limit.bits ≤ 4 * left.bits := by omega
  have hlimitFits : limit.bits * 2 ^ 60 ≤ 2 ^ 62 * left.bits := by
    calc limit.bits * 2 ^ 60 ≤ 4 * left.bits * 2 ^ 60 := Nat.mul_le_mul_right _ hlimitLe
      _ = 2 ^ 62 * left.bits := by ring
  obtain ⟨limitLtv, hlimitLtv, -⟩ := Fraction.exists_div hpos hlimitFits (by norm_num)
  exact ⟨ltv, limit, limitLtv, hltv, (Nat.add_le_add_right hltvLe _).trans_lt (by norm_num),
    hlimit, hlimitLtv⟩

/-- The end of `postWithdrawObligationInvariants`: what is left must be healthy. -/
def checkRemainingHealth (obligation : Obligation) (newTotalDepositedMv assetMv : Fraction)
    (reserveLiquidationThresholdPct : U8) : Result Unit := do
  let debtValueBf := obligation.borrowFactorAdjustedDebtValueSf
  Fraction.requireDisplaying (¬ (newTotalDepositedMv = Fraction.zero ∧
    Fraction.zero < debtValueBf)) debtValueBf .liabilitiesBiggerThanAssets
  if newTotalDepositedMv ≠ Fraction.zero then do
    Fraction.requireDisplaying (obligation.borrowedAssetsMarketValueSf < newTotalDepositedMv)
      newTotalDepositedMv .liabilitiesBiggerThanAssets
    let newLtv ← debtValueBf.div newTotalDepositedMv
    let removed ← assetMv.mul (Fraction.fromPercent reserveLiquidationThresholdPct.widen)
    let newUnhealthyBorrowValue ← obligation.unhealthyBorrowValueSf.sub removed
    let newUnhealthyLtv ← newUnhealthyBorrowValue.div newTotalDepositedMv
    Fraction.requireDisplaying (¬ (newUnhealthyLtv ≤ newLtv ∧ newLtv ≠ Fraction.zero)) newLtv
      .worseLtvThanUnhealthyLtv
  else pure ()

/-- Where what is withdrawn is a part of the collateral and of the totals, the check does not
abort. -/
theorem postWithdrawObligationInvariants_returns {previous least : Fraction}
    (hvalue : calculateMarketValueFromLiquidityAmount r liquidity = .ok value)
    (htotal : value ≤ o.depositedValueSf)
    (hslot : previous = Fraction.zero ∨ value ≤ previous ∧ previous.Printable)
    (hremoved : value.mul (Fraction.fromPercent thresholdPct.widen) = .ok removed)
    (hcovered : removed ≤ o.unhealthyBorrowValueSf)
    (hrest : 100 * o.unhealthyBorrowValueSf.bits ≤
      100 * removed.bits + 255 * (o.depositedValueSf.bits - value.bits) + 100)
    (hdebt : o.borrowFactorAdjustedDebtValueSf.bits * 2 ^ 60 ≤
      o.borrowedAssetsMarketValueSf.bits * 2 ^ 118)
    (hprintable : o.depositedValueSf.Printable ∧ o.borrowFactorAdjustedDebtValueSf.Printable) :
    Returns (postWithdrawObligationInvariants liquidity o r thresholdPct previous least) := by
  obtain ⟨left, hleft, hleftBits, hleftLe⟩ := Fraction.exists_sub htotal
  simp only [postWithdrawObligationInvariants, hvalue, ok_bind, hleft]
  have hhealth : Returns (checkRemainingHealth o left value thresholdPct) := by
    rw [checkRemainingHealth, returns_bind, Fraction.returns_requireDisplaying]
    apply And.intro (.inr hprintable.2)
    intro _ _
    split
    · rw [returns_bind, Fraction.returns_requireDisplaying]
      apply And.intro (.inr (hprintable.1.of_le hleftLe))
      intro _ hborrowed
      rw [Fraction.requireDisplaying_eq_ok] at hborrowed
      rw [← hleftBits] at hrest
      obtain ⟨ltv, limit, limitLtv, hltv, hshown, hlimit, hlimitLtv⟩ :=
        exists_remainingLtvs hcovered hrest hdebt hborrowed
      rw [hltv, ok_bind, hremoved, ok_bind, hlimit, ok_bind, hlimitLtv, ok_bind,
        Fraction.returns_requireDisplaying]
      exact .inr hshown
    · exact returns_pure
  by_cases hne : previous ≠ Fraction.zero
  · obtain ⟨hle, hshown⟩ := hslot.resolve_left hne
    obtain ⟨rest, hsub, -, hrestLe⟩ := Fraction.exists_sub hle
    rw [if_pos hne, hsub, ok_bind, returns_bind, checkNetValueRemaining,
      Fraction.returns_requireDisplaying]
    exact ⟨.inr (hshown.of_le hrestLe), fun _ _ ↦ hhealth⟩
  · rw [if_neg hne]
    exact hhealth

/-- Price, decimals and exchange rate of a reserve are the same. -/
structure Reserve.SameValue (r r' : Reserve) : Prop where
  decimals : r'.liquidity.mintDecimals = r.liquidity.mintDecimals
  price : r'.liquidity.marketPriceSf = r.liquidity.marketPriceSf
  rate : r'.collateralExchangeRate = r.collateralExchangeRate

/-- A part of a collateral is worth no more than the collateral, and takes no more from the
totals. -/
theorem ObligationCollateral.PartOf.withdrawn (h : d.PartOf r thresholdPct deposited unhealthy)
    (hsame : r.SameValue r') (hn : n ≤ d.depositedAmount) :
    ∃ rate liquidity value removed, r'.collateralExchangeRate = .ok rate ∧
      rate.fractionCollateralToLiquidity (Fraction.fromNum n) = .ok liquidity ∧
      calculateMarketValueFromLiquidityAmount r' liquidity = .ok value ∧
      (value ≤ d.marketValueSf ∧ value ≤ deposited) ∧
      value.mul (Fraction.fromPercent thresholdPct.widen) = .ok removed ∧ removed ≤ unhealthy ∧
      100 * unhealthy.bits ≤ 100 * removed.bits + 255 * (deposited.bits - value.bits) + 100 := by
  have hvalue := h.value
  simp only [calculateObligationCollateralMarketValue, bind_eq_ok] at hvalue
  obtain ⟨rate, hrate, whole, hwhole, hvalue⟩ := hvalue
  have hnum : Fraction.fromNum n ≤ Fraction.fromNum d.depositedAmount := by
    rw [Fraction.le_iff, Fraction.bits_fromNum, Fraction.bits_fromNum]
    exact Nat.mul_le_mul_right _ hn
  obtain ⟨liquidity, hliquidity, hliquidityLe⟩ :=
    exists_fractionCollateralToLiquidity_le hwhole hnum
  obtain ⟨value, hvalue', hvalueLe⟩ :=
    exists_marketValue_le hvalue hsame.decimals hsame.price.le hliquidityLe
  obtain ⟨share, restValue, restUnhealthy, hshare, hdeposited, hunhealthy, hrest⟩ := h.parts
  obtain ⟨removed, hremoved, hremovedLe⟩ := Fraction.exists_mul_le hshare hvalueLe le_rfl
  have hleft := Fraction.mul_percent_rest hshare hremoved hvalueLe
  have hvalueBits : value.bits ≤ d.marketValueSf.bits := hvalueLe
  have hremovedBits : removed.bits ≤ share.bits := hremovedLe
  refine ⟨rate, liquidity, value, removed, hsame.rate.trans hrate, hliquidity, hvalue',
    ⟨hvalueLe, ?_⟩, hremoved, ?_, by omega⟩
  · rw [Fraction.le_iff]
    omega
  · rw [Fraction.le_iff]
    omega

theorem releasedAmount_le (hd : d.depositedAmount ≠ 0)
    (h : releasedAmount o d amount ltvPct thresholdPct mode = .ok n) : n ≤ d.depositedAmount := by
  unfold releasedAmount at h
  split at h
  · split at h
    · rw [pure_eq_ok] at h
      exact h.ge
    · rw [pure_eq_ok] at h
      exact h ▸ min_le_left _ _
  · by_cases hmax : amount = Word.max 64
    · obtain ⟨-, most, -, -, -, -, hn⟩ := withdrawAll_eq_ok.1 (hmax ▸ h)
      rw [Fin.le_def, hn]
      apply Nat.div_le_of_le_mul
      exact Nat.mul_le_mul_right _ (withdrawRate_le_one _ _)
    · obtain ⟨-, most, -, -, -, rfl, -⟩ := (withdrawSome_eq_ok hmax hd).1 h
      exact min_le_right _ _

theorem exists_withdraw (hd : o.deposits[i]? = some d) (hn : n ≤ d.depositedAmount) :
    ∃ o₁ kind, o.withdraw n i = .ok (o₁, kind) ∧
      (∃ ds tiers, o₁ = { o with deposits := ds, depositsAssetTiers := tiers }) ∧
      ∃ s, o₁.deposits[i]? = some s ∧
        (s.marketValueSf = Fraction.zero ∨ s.marketValueSf = d.marketValueSf) := by
  have hi := (List.getElem?_eq_some_iff.1 hd).1
  simp only [Obligation.withdraw, hd, unwrap, ok_bind]
  by_cases hfull : n = d.depositedAmount
  · rw [if_pos hfull]
    exact ⟨_, _, rfl, ⟨_, _, rfl⟩, default, List.getElem?_set_self hi, .inl rfl⟩
  · obtain ⟨rest, hrest⟩ :
        ∃ rest, d.withdraw n = .ok rest ∧ rest.marketValueSf = d.marketValueSf := by
      simp only [ObligationCollateral.withdraw, bind_eq_ok, okOr_eq_ok, Word.checkedSub_eq_some,
        pure_eq_ok]
      exact ⟨_, ⟨⟨_, (Nat.sub_le _ _).trans_lt d.depositedAmount.isLt⟩, Nat.sub_add_cancel hn, rfl⟩,
        rfl⟩
    rw [if_neg hfull, hrest.1, ok_bind]
    exact ⟨_, _, rfl, ⟨_, _, rfl⟩, rest, List.getElem?_set_self hi, .inr hrest.2⟩

theorem exists_trackedOnFullWithdraw {debt : U64}
    (h : getElevationGroup o.elevationGroup market = .ok group) :
    ∃ r', updateElevationGroupDebtTrackersOnFullWithdraw debt o.elevationGroup r = .ok r' ∧
      Reserve.Retracked r r' := by
  unfold updateElevationGroupDebtTrackersOnFullWithdraw
  split
  · next hne =>
    rcases LendingMarket.getElevationGroup_eq_ok.1 (getElevationGroup_market h) with
      ⟨hnone, -⟩ | ⟨j, hj, -⟩
    · exact absurd hnone hne
    · rw [elevationGroupIndex_eq_ok.2 hj, ok_bind]
      exact ⟨_, rfl, .setDebtInGroup _ _ _⟩
  · exact ⟨r, rfl, .refl r⟩

theorem releaseCollateral_returns (hd : o.deposits[i]? = some d)
    (hpart : d.PartOf r thresholdPct o.depositedValueSf o.unhealthyBorrowValueSf)
    (hsame : r.SameValue r') (hn : n ≤ d.depositedAmount)
    (hgroup : getElevationGroup o.elevationGroup market = .ok group)
    (hdebt : o.borrowFactorAdjustedDebtValueSf.bits * 2 ^ 60 ≤
      o.borrowedAssetsMarketValueSf.bits * 2 ^ 118)
    (hprintable : o.depositedValueSf.Printable ∧ o.borrowFactorAdjustedDebtValueSf.Printable) :
    Returns (releaseCollateral market r' o i d n thresholdPct) := by
  obtain ⟨rate, liquidity, value, removed, hrate, hliquidity, hvalue, ⟨hslot, htotal⟩, hremoved,
    hcovered, hrest⟩ := hpart.withdrawn hsame hn
  obtain ⟨o₁, kind, hwithdraw, ⟨ds, tiers, ho₁⟩, s, hs, hmv⟩ := exists_withdraw hd hn
  obtain ⟨r₁, htrack, hretrack⟩ := @exists_trackedOnFullWithdraw market r' o group
    d.borrowedAmountAgainstThisCollateralInElevationGroup hgroup
  obtain ⟨r₂, htracked, outside, groups, hr₂⟩ : ∃ r₂, (if kind = .full then
      updateElevationGroupDebtTrackersOnFullWithdraw
        d.borrowedAmountAgainstThisCollateralInElevationGroup o₁.markStale.elevationGroup r'
    else pure r') = .ok r₂ ∧ Reserve.Retracked r' r₂ := by
    split
    · exact ⟨r₁, ho₁ ▸ htrack, hretrack⟩
    · exact ⟨r', rfl, .refl r'⟩
  have hrate₂ : r₂.collateralExchangeRate = .ok rate := hr₂ ▸ hrate
  -- the check reads nothing that the withdrawal has changed
  have hsamePost : postWithdrawObligationInvariants liquidity o₁.markStale r₂ thresholdPct
      s.marketValueSf market.minNetValueInObligationSf =
        postWithdrawObligationInvariants liquidity o r' thresholdPct s.marketValueSf
          market.minNetValueInObligationSf := by
    rw [ho₁, hr₂]
    rfl
  rw [releaseCollateral, hwithdraw, ok_bind]
  simp only [bind_of_ite]
  rw [bind_of_eq_ok htracked, bind_of_eq_ok hrate₂, hliquidity, ok_bind,
    bind_of_eq_ok (show unwrap o₁.markStale.deposits[i]? = .ok s from unwrap_eq_ok.2 hs),
    hsamePost, returns_bind]
  refine ⟨?_, fun _ _ ↦ returns_pure⟩
  apply postWithdrawObligationInvariants_returns hvalue htotal _ hremoved hcovered hrest hdebt
    hprintable
  rcases hmv with hmv | hmv
  · exact .inl hmv
  · exact .inr ⟨hmv ▸ hslot, hmv ▸ hpart.printable⟩

end Checked

/-- Once an amount is selected from a refreshed obligation, whose reserve has kept its price, its
exchange rate and its threshold, it is a part of the collateral and of the totals, and the
withdrawal does not abort. -/
theorem withdrawObligationCollateral_covered {o₀ : Obligation} {slot' : U64}
    (hrefresh : refreshObligation o₀ market slot check rs iter iter' states stateKeys =
      .ok (o, rs', states'))
    (hreserve : rs' key = some r) (hsame : r.SameValue r')
    (hcheck : checkWithdrawal market' r' o slot' key = .ok (i, d, ltvPct, thresholdPct))
    (hoccupied : d.occupied)
    (hthreshold : ∀ group, getElevationGroup o.elevationGroup market = .ok group →
      (getMaxLtvAndLiquidationThreshold r group).2 = thresholdPct)
    (hreleased : releasedAmount o d amount ltvPct thresholdPct mode = .ok n) :
    (∃ rate liquidity value removed left limit, r'.collateralExchangeRate = .ok rate ∧
      rate.fractionCollateralToLiquidity (Fraction.fromNum n) = .ok liquidity ∧
      calculateMarketValueFromLiquidityAmount r' liquidity = .ok value ∧
      value ≤ d.marketValueSf ∧ o.depositedValueSf.sub value = .ok left ∧
      value.mul (Fraction.fromPercent thresholdPct.widen) = .ok removed ∧
      o.unhealthyBorrowValueSf.sub removed = .ok limit ∧
      (o.borrowedAssetsMarketValueSf < left → ∃ ltv limitLtv,
        o.borrowFactorAdjustedDebtValueSf.div left = .ok ltv ∧ limit.div left = .ok limitLtv)) ∧
    (o.depositedValueSf.Printable → o.borrowFactorAdjustedDebtValueSf.Printable →
      Returns (withdrawObligationCollateral market' r' o amount slot' key mode)) := by
  obtain ⟨hi, hd, hne, group', hgroup', -⟩ := checkWithdrawal_spec hcheck
  obtain ⟨group, hgroup, hparts, hdebt⟩ := refreshObligation_parts hrefresh
  have hkey : d.depositReserve = key := by
    obtain ⟨d', hd', hkey⟩ := positionOfCollateral_spec hi
    exact Option.some.inj (hd'.symm.trans hd) ▸ hkey
  have hoccupied : d.depositReserve ≠ 0 := by simpa [ObligationCollateral.occupied] using hoccupied
  have hpart := hparts d (List.mem_of_getElem? hd) hoccupied r (hkey ▸ hreserve)
  rw [hthreshold group hgroup] at hpart
  have hn := releasedAmount_le hne hreleased
  constructor
  · obtain ⟨rate, liquidity, value, removed, hrate, hliquidity, hvalue, ⟨hslot, htotal⟩, hremoved,
      hcovered, hrest⟩ := hpart.withdrawn hsame hn
    obtain ⟨left, hleft, hleftBits, -⟩ := Fraction.exists_sub htotal
    obtain ⟨limit, hlimit, -⟩ := Fraction.exists_sub hcovered
    refine ⟨rate, liquidity, value, removed, left, limit, hrate, hliquidity, hvalue, hslot, hleft,
      hremoved, hlimit, fun hborrowed ↦ ?_⟩
    rw [← hleftBits] at hrest
    obtain ⟨ltv, limit', limitLtv, hltv, -, hlimit', hlimitLtv⟩ :=
      exists_remainingLtvs hcovered hrest hdebt hborrowed
    obtain rfl := Except.ok.inj (hlimit.symm.trans hlimit')
    exact ⟨ltv, limitLtv, hltv, hlimitLtv⟩
  · intro htotal hadjusted
    have hrelease := releaseCollateral_returns hd hpart hsame hn hgroup' hdebt ⟨htotal, hadjusted⟩
    rw [withdrawObligationCollateral_eq, returns_bind]
    refine ⟨returns_require, fun _ _ ↦ ?_⟩
    rw [hcheck, ok_bind]
    dsimp only
    rw [hreleased, ok_bind, returns_bind]
    exact ⟨hrelease, fun _ _ ↦ returns_pure⟩

instance (r r' : Reserve) : Decidable (r.SameValue r') :=
  decidable_of_iff (r'.liquidity.mintDecimals = r.liquidity.mintDecimals ∧
    r'.liquidity.marketPriceSf = r.liquidity.marketPriceSf ∧
    r'.collateralExchangeRate = r.collateralExchangeRate)
    ⟨fun ⟨hdecimals, hprice, hrate⟩ ↦ ⟨hdecimals, hprice, hrate⟩,
      fun h ↦ ⟨h.decimals, h.price, h.rate⟩⟩

namespace World

/-- The first obligation refreshed, one reserve changed after it, and an amount selected. -/
def selection (w : World) (slot : U64) (deposits borrows : List Pubkey) (key : Pubkey)
    (amount : U64) (change : Reserve → Result Reserve) :
    Result ((Obligation × Reserve × Reserve) × (ℕ × ObligationCollateral × U8 × U8) × U64) := do
  let o ← w.loadObligation 0
  let (o, reserves, _) ← Klend.refreshObligation o w.lendingMarket slot .perform w.reserves deposits
    borrows w.referrerTokenStates []
  let r ← unwrap (reserves key)
  let r' ← change r
  let (i, d, ltvPct, thresholdPct) ← checkWithdrawal w.lendingMarket r' o slot key
  let n ← releasedAmount o d amount ltvPct thresholdPct .maxLtv
  pure ((o, r, r'), (i, d, ltvPct, thresholdPct), n)

theorem selection_eq_ok {w : World} {deposits borrows : List Pubkey}
    {change : Reserve → Result Reserve} :
    w.selection slot deposits borrows key amount change =
        .ok ((o, r, r'), (i, d, ltvPct, thresholdPct), n) ↔
      ∃ o₀ rs' states', w.loadObligation 0 = .ok o₀ ∧
        Klend.refreshObligation o₀ w.lendingMarket slot .perform w.reserves deposits borrows
          w.referrerTokenStates [] = .ok (o, rs', states') ∧
        rs' key = some r ∧ change r = .ok r' ∧
        checkWithdrawal w.lendingMarket r' o slot key = .ok (i, d, ltvPct, thresholdPct) ∧
        releasedAmount o d amount ltvPct thresholdPct .maxLtv = .ok n := by
  simp only [selection, bind_eq_ok, unwrap_eq_ok, pure_eq_ok, Prod.exists, Prod.mk.injEq]
  constructor
  · rintro ⟨o₀, ho₀, o, rs', states', hrefresh, r, hr, r', hr', i, d, _, _, hcheck, n, hn,
      ⟨rfl, rfl, rfl⟩, ⟨rfl, rfl, rfl, rfl⟩, rfl⟩
    exact ⟨o₀, rs', states', ho₀, hrefresh, hr, hr', hcheck, hn⟩
  · rintro ⟨o₀, rs', states', ho₀, hrefresh, hr, hr', hcheck, hn⟩
    exact ⟨o₀, ho₀, o, rs', states', hrefresh, r, hr, r', hr', i, d, _, _, hcheck, n, hn,
      ⟨rfl, rfl, rfl⟩, ⟨rfl, rfl, rfl, rfl⟩, rfl⟩

/-- The loan just before its obligation is refreshed in slot 3. -/
def unrefreshedLoan : World :=
  plainMarket.after (plainLoan ++ [(⟨3, 10⟩, .refreshReserve 5 unitPrice),
    (⟨3, 10⟩, .refreshReserve 6 unitPrice)])

theorem withdrawObligationCollateral_covered_loan : ∃ o r n,
    unrefreshedLoan.selection 3 [6] [5] 6 1000 pure = .ok ((o, r, r), n) ∧
      Returns (Klend.withdrawObligationCollateral unrefreshedLoan.lendingMarket r o 1000 3 6
        .maxLtv) := by
  rcases exists_eq_ok (x := unrefreshedLoan.selection 3 [6] [5] 6 1000 pure)
    (p := fun ⟨(o, r, _), (_, d, _, thresholdPct), _⟩ ↦ d.occupied &&
      decide (getElevationGroup o.elevationGroup unrefreshedLoan.lendingMarket = .ok none ∧
        r.config.liquidationThresholdPct = thresholdPct ∧
        o.depositedValueSf.bits + 2 ^ 60 / 20000 < 2 ^ 128 ∧
        o.borrowFactorAdjustedDebtValueSf.bits + 2 ^ 60 / 20000 < 2 ^ 128)) (by decide)
    with ⟨⟨⟨o, r, r'⟩, ⟨i, d, ltvPct, thresholdPct⟩, n⟩, hselected, hboth⟩
  obtain ⟨hoccupied, hfacts⟩ := (Bool.and_eq_true _ _).mp hboth
  obtain ⟨hgroup, hthreshold, htotal, hadjusted⟩ := of_decide_eq_true hfacts
  obtain ⟨o₀, rs', states', -, hrefresh, hr, hr', hcheck, hn⟩ := selection_eq_ok.1 hselected
  obtain rfl := pure_eq_ok.1 hr'
  refine ⟨o, r, _, hselected, (withdrawObligationCollateral_covered hrefresh hr ⟨rfl, rfl, rfl⟩
    hcheck hoccupied ?_ hn).2 htotal hadjusted⟩
  intro group hgroup'
  obtain rfl := Except.ok.inj (hgroup.symm.trans hgroup')
  exact hthreshold

/-- The collateral of the loan before anything is borrowed. -/
def freeCollateral : World := plainMarket.after (plainLoan.take 8)

/-- The threshold is raised from 80 to 90 percent, and the reserve is refreshed at its price. -/
def raiseThreshold (market : LendingMarket) (r : Reserve) : Result Reserve := do
  let r ← processUpdateReserveConfig r 6 market ⟨2, 10⟩ (.updateLiquidationThresholdPct 90) false
  Klend.refreshReserve r ⟨2, 10⟩ unitPrice market.referralFeeBps

/-- Nine tenths of the collateral cannot be withdrawn any more. -/
theorem raisedThreshold_aborts : ∃ o r r' d,
    freeCollateral.selection 2 [6] [] 6 900000 (raiseThreshold freeCollateral.lendingMarket) =
        .ok ((o, r, r'), (0, d, 75, 90), 900000) ∧ r.SameValue r' ∧
      Klend.withdrawObligationCollateral freeCollateral.lendingMarket r' o 900000 2 6 .maxLtv =
        abort := by
  rcases exists_eq_ok (x := freeCollateral.selection 2 [6] [] 6 900000
      (raiseThreshold freeCollateral.lendingMarket))
    (p := fun ⟨(o, r, r'), (i, d, ltvPct, thresholdPct), n⟩ ↦
      decide (i = 0 ∧ ltvPct = 75 ∧ thresholdPct = 90 ∧ n = 900000 ∧ r.SameValue r' ∧
        Klend.withdrawObligationCollateral freeCollateral.lendingMarket r' o 900000 2 6 .maxLtv =
          abort)) (by decide)
    with ⟨⟨⟨o, r, r'⟩, ⟨i, d, ltvPct, thresholdPct⟩, n⟩, hselected, hfacts⟩
  obtain ⟨rfl, rfl, rfl, rfl, hsame, haborts⟩ := of_decide_eq_true hfacts
  exact ⟨o, r, r', d, hselected, hsame, haborts⟩

end World

end Klend
