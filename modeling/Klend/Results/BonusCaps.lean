import Klend.Lending.LiquidationRoutes
import Klend.Lending.Runs

/-! # Caps on the liquidation bonus

The bonus never exceeds the larger maximum of the two reserves. In an elevation group
the two routes that look at the obligation alone also respect the group's maximum,
where the group's cap is in force; the market-wide route does not consult the group.
-/

namespace Klend

variable {market : LendingMarket} {w r a : Reserve} {o : Obligation} {ts secs : U64}
  {override : Option U64} {params : LiquidationParams} {highest lowest : Bool}
  {bonus noBfLtv : Fraction} {emodeMax : U16} {g : ElevationGroup}

/-- Both reserves list the obligation's group, whose maximum is set and not above theirs. -/
structure GroupCapInForce (market : LendingMarket) (collateral debt : ReserveConfig)
    (o : Obligation) (g : ElevationGroup) : Prop where
  group : market.getElevationGroup o.elevationGroup = .ok (some g)
  listed_collateral : o.elevationGroup ∈ collateral.elevationGroups
  listed_debt : o.elevationGroup ∈ debt.elevationGroups
  set : g.maxLiquidationBonusBps ≠ 0
  le_collateral : g.maxLiquidationBonusBps ≤ collateral.maxLiquidationBonusBps
  le_debt : g.maxLiquidationBonusBps ≤ debt.maxLiquidationBonusBps

theorem GroupCapInForce.getEmodeMaxLiquidationBonus_eq
    (h : GroupCapInForce market w.config r.config o g) :
    getEmodeMaxLiquidationBonus market w.config r.config o = .ok g.maxLiquidationBonusBps := by
  have hne : o.elevationGroup ≠ elevationGroupNone := by
    intro heq
    have hgroup := h.group
    rw [LendingMarket.getElevationGroup, if_pos heq] at hgroup
    cases hgroup
  have hcap : ¬ (w.config.maxLiquidationBonusBps < g.maxLiquidationBonusBps ∨
      r.config.maxLiquidationBonusBps < g.maxLiquidationBonusBps ∨
      g.maxLiquidationBonusBps = 0) := by
    rintro (hlt | hlt | hzero)
    · exact absurd hlt (not_lt_of_ge h.le_collateral)
    · exact absurd hlt (not_lt_of_ge h.le_debt)
    · exact h.set hzero
  rw [getEmodeMaxLiquidationBonus, if_pos ⟨hne, h.listed_collateral, h.listed_debt⟩, h.group]
  show (if _ then pure (Word.max 16) else pure g.maxLiquidationBonusBps) = _
  rw [if_neg hcap]
  rfl

theorem Fraction.fromBps_widen_le {m n : U16} (h : m ≤ n) :
    fromBps m.widen ≤ fromBps n.widen := by
  rw [le_iff, bits_fromBps, bits_fromBps, Word.widen_val, Word.widen_val]
  exact Nat.div_le_div_right (Nat.mul_le_mul_right _ h)

theorem calculateLiquidationBonus_le {collateral debt : ReserveConfig}
    {maxAllowed userLtv : Fraction}
    (h : calculateLiquidationBonus collateral debt maxAllowed userLtv noBfLtv emodeMax = .ok bonus)
    (hfloor : noBfLtv < badDebtLtvFloor) :
    bonus ≤ Fraction.fromBps (min (max collateral.maxLiquidationBonusBps
      debt.maxLiquidationBonusBps) emodeMax).widen := by
  unfold calculateLiquidationBonus at h
  dsimp only at h
  rw [if_neg (not_le.2 hfloor)] at h
  simp only [bind_eq_ok, pure_eq_ok] at h
  obtain ⟨-, -, _, -, rfl⟩ := h
  exact (min_le_left _ _).trans (min_le_right _ _)

theorem calculateAutodeleverageBonus_le {increase : U64} {reserveMax : U16} {days : Fraction}
    (h : calculateAutodeleverageBonus increase reserveMax emodeMax days noBfLtv = .ok bonus) :
    bonus ≤ Fraction.fromBps (min reserveMax emodeMax).widen := by
  simp only [calculateAutodeleverageBonus, bind_eq_ok, pure_eq_ok] at h
  obtain ⟨-, -, _, -, rfl⟩ := h
  split
  · exact min_le_left _ _
  · next hle => exact (not_lt.1 hle).trans (min_le_left _ _)

theorem selectReserveConfig_max (collateral debt : ReserveConfig) :
    (selectReserveConfig collateral debt).maxLiquidationBonusBps =
      max collateral.maxLiquidationBonusBps debt.maxLiquidationBonusBps := by
  unfold selectReserveConfig
  split
  · next h =>
    rcases h with hlt | ⟨heq, -⟩
    · exact (max_eq_left hlt.le).symm
    · exact (max_eq_left heq.le).symm
  · next h =>
    rw [not_or, not_lt] at h
    exact (max_eq_right h.1).symm

theorem bonus_le_emodeMax (hltv : o.noBfLoanToValue = .ok noBfLtv)
    (hfloor : noBfLtv < badDebtLtvFloor)
    (h : checkLiquidateObligation market w r o override = .ok (some params) ∨
      checkIndividualAutodeleverageObligation market w r o ts = .ok (some params)) :
    ∃ emodeMax, getEmodeMaxLiquidationBonus market w.config r.config o = .ok emodeMax ∧
      params.liquidationBonusRate ≤ Fraction.fromBps (min (max w.config.maxLiquidationBonusBps
        r.config.maxLiquidationBonusBps) emodeMax).widen := by
  rcases h with h | h
  · obtain ⟨noBfLtv', unhealthyLtv, emodeMax, -, hltv', -, -, hemode, hbonus⟩ :=
      checkLiquidateObligation_spec h
    obtain rfl : noBfLtv = noBfLtv' := Except.ok.inj (hltv.symm.trans hltv')
    exact ⟨emodeMax, hemode, calculateLiquidationBonus_le hbonus hfloor⟩
  · obtain ⟨days, noBfLtv', emodeMax, -, -, hemode, hbonus⟩ :=
      checkIndividualAutodeleverageObligation_spec h
    exact ⟨emodeMax, hemode, selectReserveConfig_max _ _ ▸ calculateAutodeleverageBonus_le hbonus⟩

theorem bonus_le_marketWide
    (h : checkMarketWideAutodeleverageObligation market w r o ts = .ok (some params)) :
    params.liquidationBonusRate ≤ Fraction.fromBps
      (max w.config.maxLiquidationBonusBps r.config.maxLiquidationBonusBps).widen := by
  obtain ⟨a, secs, ha, h⟩ := checkMarketWideAutodeleverageObligation_spec h
  obtain ⟨days, noBfLtv, -, -, hbonus⟩ := getAutodeleverageLiquidationParams_spec h
  have hle := calculateAutodeleverageBonus_le hbonus
  apply hle.trans
  apply Fraction.fromBps_widen_le
  rcases ha with rfl | rfl
  · exact (min_le_left _ _).trans (le_max_left _ _)
  · exact (min_le_left _ _).trans (le_max_right _ _)

theorem getLiquidationParams_bonus_capped
    (h : getLiquidationParams market w r o ts highest lowest override = .ok params)
    (hltv : o.noBfLoanToValue = .ok noBfLtv) (hfloor : noBfLtv < badDebtLtvFloor) :
    params.liquidationBonusRate ≤ Fraction.fromBps
        (max w.config.maxLiquidationBonusBps r.config.maxLiquidationBonusBps).widen ∧
      ∀ g, GroupCapInForce market w.config r.config o g →
        ¬ TakesMarketWideRoute market w r o ts override →
        params.liquidationBonusRate ≤ Fraction.fromBps g.maxLiquidationBonusBps.widen := by
  have hconsulted (h : checkLiquidateObligation market w r o override = .ok (some params) ∨
      checkIndividualAutodeleverageObligation market w r o ts = .ok (some params)) :
      params.liquidationBonusRate ≤ Fraction.fromBps
        (max w.config.maxLiquidationBonusBps r.config.maxLiquidationBonusBps).widen ∧
      ∀ g, GroupCapInForce market w.config r.config o g →
        params.liquidationBonusRate ≤ Fraction.fromBps g.maxLiquidationBonusBps.widen := by
    obtain ⟨emodeMax, hemode, hle⟩ := bonus_le_emodeMax hltv hfloor h
    constructor
    · exact hle.trans (Fraction.fromBps_widen_le (min_le_left _ _))
    · intro g hg
      obtain rfl : emodeMax = g.maxLiquidationBonusBps :=
        Except.ok.inj (hemode.symm.trans hg.getEmodeMaxLiquidationBonus_eq)
      exact hle.trans (Fraction.fromBps_widen_le (min_le_right _ _))
  rcases getLiquidationParams_routes h with ⟨h, -⟩ | ⟨-, h⟩ | ⟨hroute, h⟩
  · obtain ⟨hreserves, hgroup⟩ := hconsulted (.inl h)
    exact ⟨hreserves, fun g hg _ ↦ hgroup g hg⟩
  · obtain ⟨hreserves, hgroup⟩ := hconsulted (.inr h)
    exact ⟨hreserves, fun g hg _ ↦ hgroup g hg⟩
  · exact ⟨bonus_le_marketWide h, fun g _ hnot ↦ absurd hroute hnot⟩

/-- Deleveraging is enabled; group 1 caps the bonus at 300 basis points. -/
def groupMarket : LendingMarket :=
  { LendingMarket.init with
    autodeleverageEnabled := 1
    elevationGroups := fun i ↦
      if i = 0 then
        { maxLiquidationBonusBps := 300, id := 1, ltvPct := 80, liquidationThresholdPct := 90,
          allowNewLoans := 1, maxReservesAsCollateral := 1, debtReserve := 5 }
      else default }

/-- A reserve of group 1 that crossed its deposit limit in the first second. -/
def groupReserve (maxBonusBps : U16) : Reserve :=
  let r := plainReserve { plainConfig 500 with
    maxLiquidationBonusBps := maxBonusBps
    elevationGroups := 1 :: List.replicate 19 0
    autodeleverageEnabled := 1
    depositLimit := 1000
    deleveragingMarginCallPeriodSecs := 1
    deleveragingThresholdDecreaseBpsPerDay := 100
    deleveragingBonusIncreaseBpsPerDay := 10 }
  { r with liquidity := { r.liquidity with depositLimitCrossedTimestamp := 1 } }

/-- A debt of 85 against a collateral of 100. -/
def groupLoan (unhealthyBorrowValue : U64) : Obligation :=
  { Obligation.init 0 1 1 7 0 with
    elevationGroup := 1
    depositedValueSf := Fraction.fromNum 100
    borrowFactorAdjustedDebtValueSf := Fraction.fromNum 85
    borrowedAssetsMarketValueSf := Fraction.fromNum 85
    unhealthyBorrowValueSf := Fraction.fromNum unhealthyBorrowValue }

theorem groupLoan_noBfLoanToValue (n : U64) :
    (groupLoan n).noBfLoanToValue = (Fraction.fromNum 85).div (Fraction.fromNum 100) := by
  rw [Obligation.noBfLoanToValue, groupLoan]

/-- An unhealthy loan whose group's cap is in force. -/
theorem getLiquidationParams_bonus_capped_groupLoan : ∃ params,
    getLiquidationParams groupMarket (groupReserve 500) (groupReserve 300) (groupLoan 80) 2592002
      true true none = .ok params ∧
    params.liquidationBonusRate ≤ Fraction.fromBps 300 := by
  rcases exists_eq_ok (x := getLiquidationParams groupMarket (groupReserve 500) (groupReserve 300)
    (groupLoan 80) 2592002 true true none) (p := fun _ ↦ true) (by decide)
    with ⟨params, hparams, -⟩
  rcases exists_eq_ok (x := (groupLoan 80).noBfLoanToValue)
    (p := fun ltv ↦ decide (ltv < badDebtLtvFloor)) (by decide) with ⟨ltv, hltv, hfloor⟩
  rcases exists_eq_ok (x := checkLiquidateObligation groupMarket (groupReserve 500)
    (groupReserve 300) (groupLoan 80) none) (p := fun found ↦ decide (found ≠ none))
    (by decide) with ⟨found, hfound, hunhealthy⟩
  obtain ⟨-, hgroup⟩ :=
    getLiquidationParams_bonus_capped hparams hltv (of_decide_eq_true hfloor)
  refine ⟨params, hparams, hgroup (groupMarket.elevationGroups 0) ?_ fun hroute ↦ ?_⟩
  · constructor <;> decide
  · exact of_decide_eq_true hunhealthy (Except.ok.inj (hfound.symm.trans hroute.1))

/-- A bonus above the maximum of the obligation's group, away from bad debt. -/
def ExceedsGroupCap (market : LendingMarket) (w r : Reserve) (o : Obligation) (ts : U64) : Prop :=
  ∃ params g ltv, getLiquidationParams market w r o ts true true none = .ok params ∧
    market.getElevationGroup o.elevationGroup = .ok (some g) ∧
    o.noBfLoanToValue = .ok ltv ∧ ltv < badDebtLtvFloor ∧
    Fraction.fromBps g.maxLiquidationBonusBps.widen < params.liquidationBonusRate

theorem groupLoan_exceeds {w r : Reserve} {n ts : U64}
    (h : (getLiquidationParams groupMarket w r (groupLoan n) ts true true none).toOption.any
      (fun params ↦ decide (Fraction.fromBps 300 < params.liquidationBonusRate)) = true) :
    ExceedsGroupCap groupMarket w r (groupLoan n) ts := by
  rcases exists_eq_ok h with ⟨params, hparams, hmore⟩
  rcases exists_eq_ok (x := (Fraction.fromNum 85).div (Fraction.fromNum 100))
    (p := fun ltv ↦ decide (ltv < badDebtLtvFloor)) (by decide) with ⟨ltv, hltv, hfloor⟩
  exact ⟨params, groupMarket.elevationGroups 0, ltv, hparams, rfl,
    (groupLoan_noBfLoanToValue n).trans hltv, of_decide_eq_true hfloor, of_decide_eq_true hmore⟩

/-- A healthy loan in a deleveraged reserve is liquidated with more than the group's cap, and so is
an unhealthy one whose debt reserve allows less than the group. -/
theorem groupLoan_exceedsCap :
    ExceedsGroupCap groupMarket (groupReserve 500) (groupReserve 300) (groupLoan 90) 2592002 ∧
    ExceedsGroupCap groupMarket (groupReserve 500) (groupReserve 200) (groupLoan 80) 2592002 :=
  ⟨groupLoan_exceeds (by decide), groupLoan_exceeds (by decide)⟩

end Klend
