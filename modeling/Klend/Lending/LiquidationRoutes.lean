import Klend.Lending.LiquidationOperations

/-! # Routes of a liquidation

A liquidation is admitted because the obligation is unhealthy, because it was marked
for deleveraging, or because a reserve is being deleveraged. For each route: what the
obligation met, and how its bonus was computed.
-/

namespace Klend

variable {market : LendingMarket} {w r a : Reserve} {o : Obligation} {ts secs : U64}
  {override : Option U64} {params : LiquidationParams} {highest lowest : Bool}

/-- The loan-to-value from which on an obligation can be liquidated. -/
def maxAllowedLtv (override : Option U64) (unhealthyLtv : Fraction) : Fraction :=
  (override.map Fraction.fromPercent).getD unhealthyLtv

theorem checkLiquidateObligation_spec
    (h : checkLiquidateObligation market w r o override = .ok (some params)) :
    ∃ noBfLtv unhealthyLtv emodeMax, o.loanToValue = .ok params.userLtv ∧
      o.noBfLoanToValue = .ok noBfLtv ∧ o.unhealthyLoanToValue = .ok unhealthyLtv ∧
      maxAllowedLtv override unhealthyLtv ≤ params.userLtv ∧
      getEmodeMaxLiquidationBonus market w.config r.config o = .ok emodeMax ∧
      calculateLiquidationBonus w.config r.config (maxAllowedLtv override unhealthyLtv)
        params.userLtv noBfLtv emodeMax = .ok params.liquidationBonusRate := by
  simp only [checkLiquidateObligation, bind_eq_ok] at h
  obtain ⟨ltv, hltv, noBfLtv, hnoBf, unhealthyLtv, hunhealthy, h⟩ := h
  split at h
  · next hle =>
    simp only [bind_eq_ok, pure_eq_ok, Option.some.injEq] at h
    obtain ⟨-, -, -, -, -, -, -, -, -, -, -, -, -, -, -, -, emodeMax, hemode, bonus, hbonus, rfl⟩ :=
      h
    exact ⟨noBfLtv, unhealthyLtv, emodeMax, hltv, hnoBf, hunhealthy, hle, hemode, hbonus⟩
  · simp at h

theorem checkLiquidateObligation_none
    (h : checkLiquidateObligation market w r o override = .ok none) :
    ∃ ltv unhealthyLtv, o.loanToValue = .ok ltv ∧ o.unhealthyLoanToValue = .ok unhealthyLtv ∧
      ltv < maxAllowedLtv override unhealthyLtv := by
  simp only [checkLiquidateObligation, bind_eq_ok] at h
  obtain ⟨ltv, hltv, noBfLtv, -, unhealthyLtv, hunhealthy, h⟩ := h
  split at h
  · simp only [bind_eq_ok, pure_eq_ok, reduceCtorEq, and_false, exists_false] at h
  · next hlt => exact ⟨ltv, unhealthyLtv, hltv, hunhealthy, not_le.1 hlt⟩

theorem checkIndividualAutodeleverageObligation_spec
    (h : checkIndividualAutodeleverageObligation market w r o ts = .ok (some params)) :
    ∃ days noBfLtv emodeMax, o.loanToValue = .ok params.userLtv ∧
      o.noBfLoanToValue = .ok noBfLtv ∧
      getEmodeMaxLiquidationBonus market w.config r.config o = .ok emodeMax ∧
      calculateAutodeleverageBonus
        (selectReserveConfig w.config r.config).deleveragingBonusIncreaseBpsPerDay
        (selectReserveConfig w.config r.config).maxLiquidationBonusBps emodeMax days noBfLtv =
          .ok params.liquidationBonusRate := by
  unfold checkIndividualAutodeleverageObligation at h
  split at h
  · simp at h
  · rw [bind_eq_ok] at h
    obtain ⟨ltv, hltv, h⟩ := h
    dsimp only at h
    split at h
    · simp at h
    · split at h
      · simp at h
      · simp only [bind_eq_ok, pure_eq_ok, Option.some.injEq] at h
        obtain ⟨days, -, emodeMax, hemode, noBfLtv, hnoBf, bonus, hbonus, rfl⟩ := h
        exact ⟨days, noBfLtv, emodeMax, hltv, hnoBf, hemode, hbonus⟩

theorem getAutodeleverageLiquidationParams_spec
    (h : getAutodeleverageLiquidationParams a o secs = .ok (some params)) :
    ∃ days noBfLtv, o.loanToValue = .ok params.userLtv ∧ o.noBfLoanToValue = .ok noBfLtv ∧
      calculateAutodeleverageBonus a.config.deleveragingBonusIncreaseBpsPerDay
        a.config.maxLiquidationBonusBps (Word.max 16) days noBfLtv =
          .ok params.liquidationBonusRate := by
  simp only [getAutodeleverageLiquidationParams, bind_eq_ok] at h
  obtain ⟨days, -, threshold, -, ltv, hltv, h⟩ := h
  split at h
  · simp only [bind_eq_ok, pure_eq_ok, Option.some.injEq] at h
    obtain ⟨noBfLtv, hnoBf, bonus, hbonus, rfl⟩ := h
    exact ⟨days, noBfLtv, hltv, hnoBf, hbonus⟩
  · simp at h

/-- What the market-wide route asks of the debt reserve. -/
def debtParams (r : Reserve) (o : Obligation) (ts : U64) : Result (Option LiquidationParams) :=
  if r.config.isAutodeleverageEnabled then
    match getSecsSinceAutodeleverageObligationDebtBorrowLimitCrossed r ts with
    | some secs => getAutodeleverageLiquidationParams r o secs
    | none => pure none
  else pure none

theorem checkMarketWideAutodeleverageObligation_spec
    (h : checkMarketWideAutodeleverageObligation market w r o ts = .ok (some params)) :
    ∃ a secs, (a = w ∨ a = r) ∧
      getAutodeleverageLiquidationParams a o secs = .ok (some params) := by
  have hdebt (h : debtParams r o ts = .ok (some params)) : ∃ a secs, (a = w ∨ a = r) ∧
      getAutodeleverageLiquidationParams a o secs = .ok (some params) := by
    unfold debtParams at h
    split at h
    · split at h
      · next secs _ => exact ⟨r, secs, .inr rfl, h⟩
      · simp at h
    · simp at h
  unfold checkMarketWideAutodeleverageObligation at h
  split at h
  · simp at h
  · dsimp only at h
    by_cases hcollateral : w.config.isAutodeleverageEnabled = true
    · rw [if_pos hcollateral] at h
      obtain ⟨secs, -, h⟩ := bind_eq_ok.1 h
      cases secs with
      | some secs =>
        obtain ⟨found, hfound, h⟩ := bind_eq_ok.1 h
        cases found with
        | some params' =>
          rw [pure_eq_ok, Option.some.injEq] at h
          exact ⟨w, secs, .inl rfl, h ▸ hfound⟩
        | none => exact hdebt h
      | none => exact hdebt h
    · rw [if_neg hcollateral] at h
      exact hdebt h

/-- Neither of the routes that look at the obligation alone applies. -/
def TakesMarketWideRoute (market : LendingMarket) (w r : Reserve) (o : Obligation) (ts : U64)
    (override : Option U64) : Prop :=
  checkLiquidateObligation market w r o override = .ok none ∧
    checkIndividualAutodeleverageObligation market w r o ts = .ok none

/-- The routes are tried in order; only the first asks for the priorities of the pair. -/
theorem getLiquidationParams_routes
    (h : getLiquidationParams market w r o ts highest lowest override = .ok params) :
    (checkLiquidateObligation market w r o override = .ok (some params) ∧
      highest = true ∧ lowest = true) ∨
    (checkLiquidateObligation market w r o override = .ok none ∧
      checkIndividualAutodeleverageObligation market w r o ts = .ok (some params)) ∨
    (TakesMarketWideRoute market w r o ts override ∧
      checkMarketWideAutodeleverageObligation market w r o ts = .ok (some params)) := by
  simp only [getLiquidationParams, bind_eq_ok] at h
  obtain ⟨liquidate, hliquidate, h⟩ := h
  cases liquidate with
  | some params' =>
    simp only [bind_eq_ok, require_eq_ok, pure_eq_ok] at h
    obtain ⟨-, hhighest, -, hlowest, -, -, rfl⟩ := h
    exact .inl ⟨hliquidate, hhighest, hlowest⟩
  | none =>
    simp only [bind_eq_ok] at h
    obtain ⟨individual, hindividual, h⟩ := h
    cases individual with
    | some params' =>
      simp only [bind_eq_ok, pure_eq_ok] at h
      obtain ⟨-, -, rfl⟩ := h
      exact .inr (.inl ⟨hliquidate, hindividual⟩)
    | none =>
      simp only [bind_eq_ok] at h
      obtain ⟨marketWide, hwide, h⟩ := h
      cases marketWide with
      | some params' =>
        simp only [bind_eq_ok, pure_eq_ok] at h
        obtain ⟨-, -, rfl⟩ := h
        exact .inr (.inr ⟨⟨hliquidate, hindividual⟩, hwide⟩)
      | none => simp at h

theorem getLiquidationParams_userLtv
    (h : getLiquidationParams market w r o ts highest lowest override = .ok params) :
    o.loanToValue = .ok params.userLtv := by
  rcases getLiquidationParams_routes h with ⟨h, -⟩ | ⟨-, h⟩ | ⟨-, h⟩
  · obtain ⟨-, -, -, hltv, -⟩ := checkLiquidateObligation_spec h
    exact hltv
  · obtain ⟨-, -, -, hltv, -⟩ := checkIndividualAutodeleverageObligation_spec h
    exact hltv
  · obtain ⟨a, secs, -, h⟩ := checkMarketWideAutodeleverageObligation_spec h
    obtain ⟨-, -, hltv, -⟩ := getAutodeleverageLiquidationParams_spec h
    exact hltv

end Klend
