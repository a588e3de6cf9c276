import Klend.Library.Rounding
import Klend.Results.LiquidationBounds
import Klend.Results.BonusCaps

/-! # Liquidations of solvent positions

Away from bad debt the bonus is at most what the debt leaves to the value of the
collateral, whichever route admitted the liquidation. So a liquidation that leaves some
of the collateral takes no more of it than the debt it settles makes room for.
-/

namespace Klend

variable {market : LendingMarket} {w r : Reserve} {o : Obligation} {b : ObligationLiquidity}
  {d : ObligationCollateral} {amount ts secs : U64} {highest lowest : Bool}
  {override : Option U64} {params : LiquidationParams} {result : CalculateLiquidationResult}
  {bonus noBfLtv : Fraction} {emodeMax : U16}

theorem badDebtLtvFloor_bits_le : badDebtLtvFloor.bits ≤ 2 ^ 60 := by decide

theorem badDebtLtvFloor_gap_wide (h : noBfLtv < badDebtLtvFloor) :
    2 * 2 ^ 60 ≤ (2 ^ 60 - noBfLtv.bits) * (2 ^ 60 - noBfLtv.bits) := by
  have hgap : 2 ^ 53 ≤ 2 ^ 60 - noBfLtv.bits := by
    have hlt : noBfLtv.bits < 1141392289560778506 := Fraction.lt_iff.1 h
    omega
  calc 2 * 2 ^ 60 ≤ 2 ^ 53 * 2 ^ 53 := by norm_num
    _ ≤ (2 ^ 60 - noBfLtv.bits) * (2 ^ 60 - noBfLtv.bits) := Nat.mul_le_mul hgap hgap

theorem calculateLiquidationBonus_gap {collateral debt : ReserveConfig}
    {maxAllowed userLtv : Fraction}
    (h : calculateLiquidationBonus collateral debt maxAllowed userLtv noBfLtv emodeMax = .ok bonus)
    (hfloor : noBfLtv < badDebtLtvFloor) : bonus.bits + noBfLtv.bits ≤ 2 ^ 60 := by
  unfold calculateLiquidationBonus at h
  dsimp only at h
  rw [if_neg (not_le.2 hfloor)] at h
  simp only [bind_eq_ok, pure_eq_ok, Fraction.sub_eq_ok] at h
  obtain ⟨unhealthy, -, gap, hgap, rfl⟩ := h
  rw [Fraction.bits_one] at hgap
  rw [← hgap]
  apply Nat.add_le_add_right
  exact Fraction.le_iff.1 (min_le_right _ _)

theorem calculateAutodeleverageBonus_gap {increase : U64} {reserveMax : U16} {days : Fraction}
    (h : calculateAutodeleverageBonus increase reserveMax emodeMax days noBfLtv = .ok bonus)
    (hfloor : noBfLtv < badDebtLtvFloor) : bonus.bits + noBfLtv.bits ≤ 2 ^ 60 := by
  have hltv : noBfLtv.bits ≤ 2 ^ 60 := (Fraction.lt_iff.1 hfloor).le.trans badDebtLtvFloor_bits_le
  have hgap : ∀ x : Fraction, x ≤ Fraction.one.saturatingSub noBfLtv →
      x.bits + noBfLtv.bits ≤ 2 ^ 60 := by
    intro x hx
    rw [Fraction.le_iff, Fraction.bits_saturatingSub, Fraction.bits_one] at hx
    omega
  simp only [calculateAutodeleverageBonus, bind_eq_ok, pure_eq_ok] at h
  obtain ⟨-, -, uncapped, -, rfl⟩ := h
  apply hgap
  split
  · exact min_le_right _ _
  · next hle => exact (not_lt.1 hle).trans (min_le_right _ _)

theorem getLiquidationParams_gap
    (h : getLiquidationParams market w r o ts highest lowest override = .ok params)
    (hltv : o.noBfLoanToValue = .ok noBfLtv) (hfloor : noBfLtv < badDebtLtvFloor) :
    params.liquidationBonusRate.bits + noBfLtv.bits ≤ 2 ^ 60 := by
  rcases getLiquidationParams_routes h with ⟨h, -⟩ | ⟨-, h⟩ | ⟨-, h⟩
  · obtain ⟨noBfLtv', _, _, -, hltv', -, -, -, hbonus⟩ := checkLiquidateObligation_spec h
    obtain rfl : noBfLtv' = noBfLtv := Except.ok.inj (hltv'.symm.trans hltv)
    exact calculateLiquidationBonus_gap hbonus hfloor
  · obtain ⟨_, noBfLtv', _, -, hltv', -, hbonus⟩ := checkIndividualAutodeleverageObligation_spec h
    obtain rfl : noBfLtv' = noBfLtv := Except.ok.inj (hltv'.symm.trans hltv)
    exact calculateAutodeleverageBonus_gap hbonus hfloor
  · obtain ⟨a, secs, -, h⟩ := checkMarketWideAutodeleverageObligation_spec h
    obtain ⟨_, noBfLtv', -, hltv', hbonus⟩ := getAutodeleverageLiquidationParams_spec h
    obtain rfl : noBfLtv' = noBfLtv := Except.ok.inj (hltv'.symm.trans hltv)
    exact calculateAutodeleverageBonus_gap hbonus hfloor

theorem getLiquidationParams_covered
    (h : getLiquidationParams market w r o ts highest lowest override = .ok params)
    (hltv : o.noBfLoanToValue = .ok noBfLtv) (hfloor : noBfLtv < badDebtLtvFloor) :
    (1 + params.liquidationBonusRate.toRat) * o.borrowedAssetsMarketValueSf.toRat ≤
      o.depositedValueSf.toRat := by
  have hgap := getLiquidationParams_gap h hltv hfloor
  have hwide := badDebtLtvFloor_gap_wide hfloor
  rw [Obligation.noBfLoanToValue, Fraction.div_eq_ok] at hltv
  obtain ⟨hne, hltv⟩ := hltv
  rw [hltv] at hgap hwide
  apply Fraction.one_add_mul_toRat_le
  exact Rounding.premium_le (Nat.pos_of_ne_zero hne) (by norm_num) hgap hwide

theorem debt_left_le {debt collateral rate settled taken : ℚ} (hdebt : 0 ≤ debt)
    (hsettled : 0 ≤ settled) (htaken : taken ≤ rate * settled)
    (hcovered : rate * debt ≤ collateral) :
    (debt - settled) * collateral ≤ debt * (collateral - taken) := by
  have hpaid : debt * taken ≤ settled * collateral :=
    calc debt * taken ≤ debt * (rate * settled) := mul_le_mul_of_nonneg_left htaken hdebt
      _ = settled * (rate * debt) := by ring
      _ ≤ settled * collateral := mul_le_mul_of_nonneg_left hcovered hsettled
  rw [sub_mul, mul_sub]
  exact sub_le_sub_left hpaid _

/-- Below 99 percent the collateral covers the debt with the bonus on top. A liquidation that leaves
some of the slot then takes no more than the settled debt and the bonus, and leaves no more debt for
the value of the collateral than before. The unit that a small debt costs may be worth more. -/
theorem liquidation_keepsCovered (hltv : o.noBfLoanToValue = .ok noBfLtv)
    (hfloor : noBfLtv < badDebtLtvFloor) :
    (∀ params, getLiquidationParams market w r o ts highest lowest override = .ok params →
      (1 + params.liquidationBonusRate.toRat) * o.borrowedAssetsMarketValueSf.toRat ≤
        o.depositedValueSf.toRat) ∧
    ∀ result,
      calculateLiquidation w r amount market o b d ts highest lowest override = .ok result →
      result.withdrawAmount < d.depositedAmount →
      d.valueOf result.withdrawAmount ≤
          (1 + result.liquidationBonusRate.toRat) * b.valueOf result.settleAmountF ∧
        (o.borrowedAssetsMarketValueSf.toRat - b.valueOf result.settleAmountF) *
            o.depositedValueSf.toRat ≤
          o.borrowedAssetsMarketValueSf.toRat *
            (o.depositedValueSf.toRat - d.valueOf result.withdrawAmount) ∨
      b.marketValueSf < Fraction.fromNum market.minFullLiquidationValueThreshold ∧
        result.settleAmountF = b.borrowedAmountSf ∧
        result.withdrawAmount = dustLamportThreshold := by
  refine ⟨fun params hparams ↦ getLiquidationParams_covered hparams hltv hfloor,
    fun result h hleft ↦ ?_⟩
  obtain hvalue | hunit := calculateLiquidation_withdraw h hleft
  · have hcovered : (1 + result.liquidationBonusRate.toRat) *
        o.borrowedAssetsMarketValueSf.toRat ≤ o.depositedValueSf.toRat := by
      obtain ⟨params, -, -, -, -, -, -, hparams, -, -, -, -, -, -, -, hrate⟩ :=
        calculateLiquidation_spec h
      rw [hrate]
      exact getLiquidationParams_covered hparams hltv hfloor
    left
    exact ⟨hvalue, debt_left_le (Fraction.toRat_nonneg _) (b.valueOf_nonneg _) hvalue hcovered⟩
  · exact .inr hunit

/-- The debt slot of a loan of 85. -/
def groupDebt : ObligationLiquidity :=
  { ObligationLiquidity.new 6 default with
    borrowedAmountSf := Fraction.fromNum 85
    marketValueSf := Fraction.fromNum 85 }

/-- The collateral slot of a loan against 100. -/
def groupCollateral : ObligationCollateral :=
  { ObligationCollateral.new 5 with
    depositedAmount := 100
    marketValueSf := Fraction.fromNum 100 }

/-- Ten units of the debt are liquidated. -/
theorem liquidation_keepsCovered_groupLoan :
    ∃ result, calculateLiquidation (groupReserve 500) (groupReserve 300) 10 groupMarket
        (groupLoan 80) groupDebt groupCollateral 2592002 true true none = .ok result ∧
      0 < result.withdrawAmount ∧
      groupCollateral.valueOf result.withdrawAmount ≤
        (1 + result.liquidationBonusRate.toRat) * groupDebt.valueOf result.settleAmountF := by
  rcases exists_eq_ok (x := calculateLiquidation (groupReserve 500) (groupReserve 300) 10
    groupMarket (groupLoan 80) groupDebt groupCollateral 2592002 true true none)
    (p := fun result ↦ decide (0 < result.withdrawAmount ∧
      result.withdrawAmount < groupCollateral.depositedAmount)) (by decide)
    with ⟨result, hresult, htaken⟩
  rcases exists_eq_ok (x := (groupLoan 80).noBfLoanToValue)
    (p := fun ltv ↦ decide (ltv < badDebtLtvFloor)) (by decide) with ⟨ltv, hltv, hfloor⟩
  obtain ⟨hpos, hleft⟩ := of_decide_eq_true htaken
  obtain ⟨hvalue, -⟩ | ⟨hbelow, -⟩ :=
    (liquidation_keepsCovered hltv (of_decide_eq_true hfloor)).2 result hresult hleft
  · exact ⟨result, hresult, hpos, hvalue⟩
  · exact absurd hbelow (by decide)

namespace World

/-- A market with two plain reserves beside the one of the collateral. -/
def splitMarket : World :=
  opening .init 1 [(5, plainReserve cautiousConfig), (6, plainReserve (plainConfig 500)),
    (7, plainReserve (plainConfig 500))]

theorem splitMarket_genesis : splitMarket.Genesis := by
  apply opening_genesis LendingMarket.init_validated
  simp only [List.mem_cons, List.not_mem_nil, or_false, forall_eq_or_imp, forall_eq]
  exact ⟨plainReserve_isNew rfl, plainReserve_isNew (plainConfig_validated _ _),
    plainReserve_isNew (plainConfig_validated _ _)⟩

/-- One dollar and 300 dollars are borrowed against twenty units of collateral, whose price then
falls from 100 dollars to 40. -/
def splitLoan : World :=
  splitMarket.after
    [(⟨1, 10⟩, .refreshReserve 5 (dollars 100)), (⟨1, 10⟩, .refreshReserve 6 (dollars 1)),
      (⟨1, 10⟩, .refreshReserve 7 (dollars 1)),
      (⟨1, 10⟩, .depositReserveLiquidity 5 20),
      (⟨1, 10⟩, .initObligation 0 7 0), (⟨1, 10⟩, .refreshObligation 0 [] []),
      (⟨1, 10⟩, .depositObligationCollateral 0 5 20),
      (⟨2, 10⟩, .refreshReserve 5 (dollars 100)), (⟨2, 10⟩, .refreshReserve 6 (dollars 1)),
      (⟨2, 10⟩, .refreshReserve 7 (dollars 1)),
      (⟨2, 10⟩, .refreshObligation 0 [5] []),
      (⟨2, 10⟩, .borrowObligationLiquidity 0 6 1 none []),
      (⟨2, 10⟩, .refreshReserve 6 (dollars 1)), (⟨2, 10⟩, .refreshObligation 0 [5, 6] []),
      (⟨2, 10⟩, .borrowObligationLiquidity 0 7 300 none []),
      (⟨3, 10⟩, .refreshReserve 5 (dollars 40)), (⟨3, 10⟩, .refreshReserve 6 (dollars 1)),
      (⟨3, 10⟩, .refreshReserve 7 (dollars 1)),
      (⟨3, 10⟩, .refreshObligation 0 [5, 6, 7] [])]

/-- The loan is far from bad debt, but a unit worth 40 dollars is paid for the debt of one. -/
theorem splitLoan_worsened :
    splitMarket.Genesis ∧ Run Anything splitMarket splitLoan ∧
    (∃ w, splitLoan.process ⟨3, 10⟩
      (.liquidateObligationAndRedeemReserveCollateral 0 6 5 2 0 none []) = .ok w) ∧
    ∃ o ltv b d result, splitLoan.loadObligation 0 = .ok o ∧ o.noBfLoanToValue = .ok ltv ∧
      ltv < badDebtLtvFloor ∧ splitLoan.liquidationOffer 6 5 = .ok (b, d, result) ∧
      result.withdrawAmount < d.depositedAmount ∧
      (1 + result.liquidationBonusRate.toRat) * b.valueOf result.settleAmountF <
        d.valueOf result.withdrawAmount ∧
      o.borrowedAssetsMarketValueSf.toRat *
          (o.depositedValueSf.toRat - d.valueOf result.withdrawAmount) <
        (o.borrowedAssetsMarketValueSf.toRat - b.valueOf result.settleAmountF) *
          o.depositedValueSf.toRat := by
  refine ⟨splitMarket_genesis, run_after _ _ fun _ _ _ ↦ trivial, ?_, ?_⟩
  · obtain ⟨w, hw, -⟩ := exists_eq_ok (x := splitLoan.process ⟨3, 10⟩
      (.liquidateObligationAndRedeemReserveCollateral 0 6 5 2 0 none [])) (p := fun _ ↦ true)
      (by decide)
    exact ⟨w, hw⟩
  · obtain ⟨o, ho, h⟩ := exists_eq_ok (x := splitLoan.loadObligation 0)
      (p := fun o ↦ o.noBfLoanToValue.toOption.any (fun ltv ↦ ltv < badDebtLtvFloor) ∧
        (splitLoan.liquidationOffer 6 5).toOption.any fun x ↦
          decide (x.2.2.withdrawAmount < x.2.1.depositedAmount ∧
            (1 + x.2.2.liquidationBonusRate.toRat) * x.1.valueOf x.2.2.settleAmountF <
              x.2.1.valueOf x.2.2.withdrawAmount ∧
            o.borrowedAssetsMarketValueSf.toRat *
                (o.depositedValueSf.toRat - x.2.1.valueOf x.2.2.withdrawAmount) <
              (o.borrowedAssetsMarketValueSf.toRat - x.1.valueOf x.2.2.settleAmountF) *
                o.depositedValueSf.toRat)) (by decide +kernel)
    obtain ⟨hltv, hoffer⟩ := of_decide_eq_true h
    obtain ⟨ltv, hltv, hfloor⟩ := exists_eq_ok hltv
    obtain ⟨⟨b, d, result⟩, hoffer, hover⟩ := exists_eq_ok hoffer
    exact ⟨o, ltv, b, d, result, ho, hltv, of_decide_eq_true hfloor, hoffer,
      of_decide_eq_true hover⟩

end World

end Klend
