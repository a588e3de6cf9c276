import Klend.Lending.LiquidationSpecs
import Klend.Lending.RefreshReplay
import Klend.Results.BonusCaps
import Klend.Results.WithdrawalChecks

/-! # Liquidations that abort

The log line of a liquidation prints the loan-to-values in percent, each in 64 bits, so the
liquidation aborts where a loan-to-value is too large for that. Nothing else aborts it: the market
bounds the value liquidated at once in 64 bits, and that value with its bonus fits.
-/

namespace Klend

namespace Fraction

variable {x y : Fraction} {n : ℕ}

theorem exists_ofBits (h : n < 2 ^ 128) : ∃ z, ofBits n = .ok z ∧ z.bits = n :=
  ⟨⟨n, h⟩, ofBits_eq_ok.2 rfl, rfl⟩

theorem exists_quotient (hy : y ≠ zero) (h : x.bits * 2 ^ 60 / y.bits < 2 ^ 128) :
    ∃ z, x.div y = .ok z ∧ z.bits = x.bits * 2 ^ 60 / y.bits :=
  ⟨⟨_, h⟩, div_eq_ok.2 ⟨mt eq_zero_iff.2 hy, rfl⟩, rfl⟩

/-- A quotient that is at most one is not too large. -/
theorem exists_div_le_one (hy : y ≠ zero) (h : x ≤ y) :
    ∃ z, x.div y = .ok z ∧ z.bits ≤ 2 ^ 60 := by
  apply exists_div (mt eq_zero_iff.2 hy) _ (by norm_num)
  rw [mul_comm]
  exact Nat.mul_le_mul_left _ (le_iff.1 h)

theorem mul_bits_le {r : ℕ} (h : r ≤ 2 ^ 60) : x.bits * r / 2 ^ 60 ≤ x.bits :=
  Nat.div_le_of_le_mul (mul_comm (2 ^ 60) x.bits ▸ Nat.mul_le_mul_left _ h)

/-- A product with a factor that is at most one is not too large. -/
theorem exists_mul_le_self (h : y.bits ≤ 2 ^ 60) : ∃ z, x.mul y = .ok z ∧ z ≤ x := by
  obtain ⟨z, hz, hbits⟩ := exists_ofBits ((mul_bits_le h).trans_lt x.isLt)
  exact ⟨z, hz, le_iff.2 (hbits.trans_le (mul_bits_le h))⟩

theorem exists_mul (hx : x.bits * 8 < 2 ^ 128) (hy : y.bits ≤ 8 * 2 ^ 60) :
    ∃ z, x.mul y = .ok z := by
  have hle : x.bits * y.bits / 2 ^ 60 ≤ x.bits * 8 := by
    apply Nat.div_le_of_le_mul
    calc x.bits * y.bits ≤ x.bits * (8 * 2 ^ 60) := Nat.mul_le_mul_left _ hy
      _ = 2 ^ 60 * (x.bits * 8) := by ring
  obtain ⟨z, hz, -⟩ := exists_ofBits (hle.trans_lt hx)
  exact ⟨z, hz⟩

theorem exists_toCeil {m : U64} (h : x.bits ≤ m * 2 ^ 60) : ∃ k, x.toCeil = .ok k := by
  have hm := m.isLt
  exact ⟨⟨(x.bits + (2 ^ 60 - 1)) / 2 ^ 60, by omega⟩, toCeil_eq_ok.2 rfl⟩

theorem exists_toFloor {m : U64} (h : x.bits ≤ m * 2 ^ 60) : ∃ k, x.toFloor = .ok k := by
  have hm := m.isLt
  exact ⟨⟨x.bits / 2 ^ 60, by omega⟩, toFloor_eq_ok.2 rfl⟩

theorem exists_toRound {m : U64} (h : x.bits ≤ m * 2 ^ 60) : ∃ k, x.toRound = .ok k := by
  have hm := m.isLt
  exact ⟨⟨(x.bits + 2 ^ 59) / 2 ^ 60, by omega⟩, toRound_eq_ok.2 rfl⟩

theorem returns_div (hy : y ≠ zero) :
    Returns (x.div y) ↔ x.bits * 2 ^ 60 / y.bits < 2 ^ 128 := by
  rw [div, if_neg hy, returns_ofBits]

theorem returns_toDisplay : Returns x.toDisplay ↔ x.Printable := by
  simp only [toDisplay, returns_bind, returns_ofBits, returns_pure, implies_true, and_true,
    Printable]

instance : Decidable x.Printable := inferInstanceAs (Decidable (_ < _))

theorem exists_toRatio {m w : ℕ} (hw : w ≤ 64) (h : x.bits * m + 2 ^ 59 < 2 ^ (w + 60)) :
    ∃ p, x.toRatio m w = .ok (some p) := by
  have hpow : 2 ^ (w + 60) ≤ 2 ^ 124 := Nat.pow_le_pow_right (by norm_num) (by omega)
  have hscaled : x.bits * m < 2 ^ 128 := by omega
  have hround : (x.bits * m + 2 ^ 59) / 2 ^ 60 * 2 ^ 60 < 2 ^ 128 := by omega
  have hfit : (x.bits * m + 2 ^ 59) / 2 ^ 60 < 2 ^ w := by
    rw [Nat.div_lt_iff_lt_mul (by positivity), ← pow_add]
    exact h
  refine ⟨⟨_, hfit⟩, ?_⟩
  simp only [toRatio, bind_eq_ok, mulInt_eq_ok, round, ofBits_eq_ok, pure_eq_ok]
  refine ⟨⟨_, hscaled⟩, rfl, ⟨_, hround⟩, rfl, Word.checkedFit_eq_some.2 ?_⟩
  exact (Nat.mul_div_cancel _ (by positivity)).symm

theorem exists_toPercent (h : x.bits * 100 + 2 ^ 59 < 2 ^ 124) :
    ∃ p : U64, x.toPercent 64 = .ok (some p) := exists_toRatio le_rfl h

theorem lt_of_returns_percent {α : Type} {f : U64 → Result α}
    (h : Returns (x.toPercent 64 >>= fun p ↦ unwrap p >>= f)) :
    x.bits * 100 + 2 ^ 59 < 2 ^ 124 := by
  have huncoded : Uncoded (x.toPercent 64) :=
    uncoded_ofBits.bind fun _ ↦ uncoded_ofBits.bind fun _ ↦ uncoded_pure
  obtain ⟨a, ha, hrest⟩ := huncoded.returns_bind.1 h
  obtain ⟨p, rfl⟩ := returns_unwrap.1 (returns_bind.1 hrest).1
  simp only [toPercent, toRatio, bind_eq_ok, mulInt_eq_ok, round, ofBits_eq_ok, pure_eq_ok,
    Word.checkedFit_eq_some] at ha
  obtain ⟨scaled, hscaled, rounded, hrounded, hp⟩ := ha
  have hlt := p.isLt
  rw [hp, hrounded, hscaled, Nat.mul_div_cancel _ (by positivity)] at hlt
  omega

theorem fromBps_widen_lt (n : U16) : (fromBps n.widen).bits < 7 * 2 ^ 60 := by
  have hlt := n.isLt
  rw [bits_fromBps, Word.widen_val]
  omega

end Fraction

/-- The loan-to-value, rounded down, is at least the unhealthy one. -/
def Obligation.AtUnhealthyLtv (o : Obligation) : Prop :=
  o.unhealthyBorrowValueSf.bits * 2 ^ 60 / o.depositedValueSf.bits ≤
    o.borrowFactorAdjustedDebtValueSf.bits * 2 ^ 60 / o.depositedValueSf.bits

instance (o : Obligation) : Decidable o.AtUnhealthyLtv := inferInstanceAs (Decidable (_ ≤ _))

/-- The numbers in the log line of a liquidation can be printed. -/
structure Obligation.LtvPrints (o : Obligation) : Prop where
  debt : o.borrowFactorAdjustedDebtValueSf.Printable
  unhealthy : o.unhealthyBorrowValueSf.Printable
  percent : o.borrowFactorAdjustedDebtValueSf.bits * 2 ^ 60 / o.depositedValueSf.bits * 100 +
    2 ^ 59 < 2 ^ 124
  noBf : o.borrowedAssetsMarketValueSf.bits * 2 ^ 60 / o.depositedValueSf.bits < 2 ^ 128

instance (o : Obligation) : Decidable o.LtvPrints :=
  decidable_of_iff (_ ∧ _ ∧ _ ∧ _)
    ⟨fun ⟨hdebt, hunhealthy, hpercent, hnoBf⟩ ↦ ⟨hdebt, hunhealthy, hpercent, hnoBf⟩,
      fun h ↦ ⟨h.debt, h.unhealthy, h.percent, h.noBf⟩⟩

section Bonus

variable {market : LendingMarket} {w r : Reserve} {o : Obligation} {group : Option ElevationGroup}
  {maxAllowed userLtv bonus : Fraction}

theorem exists_calculateLiquidationBonus (collateral debt : ReserveConfig) (noBfLtv : Fraction)
    (emodeMax : U16) (h : maxAllowed ≤ userLtv) :
    ∃ bonus, calculateLiquidationBonus collateral debt maxAllowed userLtv noBfLtv emodeMax =
      .ok bonus ∧ bonus.bits < 7 * 2 ^ 60 := by
  unfold calculateLiquidationBonus
  dsimp only
  split
  · have hbad := Fraction.fromBps_widen_lt
      (min collateral.badDebtLiquidationBonusBps debt.badDebtLiquidationBonusBps)
    split
    · next hlt =>
      obtain ⟨diff, hdiff, -, hle⟩ := Fraction.exists_sub (le_of_lt hlt)
      rw [hdiff, ok_bind]
      refine ⟨_, rfl, ?_⟩
      rw [Fraction.le_iff, Fraction.bits_one] at hle
      rcases max_choice (Fraction.fromBps (min collateral.badDebtLiquidationBonusBps
        debt.badDebtLiquidationBonusBps).widen) diff with heq | heq
      · rw [heq]
        exact hbad
      · rw [heq]
        omega
    · exact ⟨_, rfl, hbad⟩
  · next hfloor =>
    have hone : noBfLtv ≤ Fraction.one := by
      have hlt := Fraction.lt_iff.1 (not_le.1 hfloor)
      rw [Fraction.le_iff, Fraction.bits_one]
      exact hlt.le.trans (by decide)
    obtain ⟨factor, hfactor, -⟩ := Fraction.exists_sub h
    obtain ⟨diff, hdiff, -⟩ := Fraction.exists_sub hone
    rw [hfactor, ok_bind, hdiff, ok_bind]
    refine ⟨_, rfl, ?_⟩
    refine lt_of_le_of_lt (Fraction.le_iff.1 ?_) (Fraction.fromBps_widen_lt
      (min (max collateral.maxLiquidationBonusBps debt.maxLiquidationBonusBps) emodeMax))
    exact (min_le_left _ _).trans (min_le_right _ _)

theorem exists_getEmodeMaxLiquidationBonus
    (hgroup : getElevationGroup o.elevationGroup market = .ok group) :
    ∃ emodeMax, getEmodeMaxLiquidationBonus market w.config r.config o = .ok emodeMax := by
  unfold getEmodeMaxLiquidationBonus
  split
  · next h =>
    have hmarket := getElevationGroup_market hgroup
    cases group with
    | none => exact absurd (LendingMarket.none_of_getElevationGroup hmarket) h.1
    | some g =>
      rw [hmarket]
      show ∃ emodeMax, (if w.config.maxLiquidationBonusBps < g.maxLiquidationBonusBps ∨
        r.config.maxLiquidationBonusBps < g.maxLiquidationBonusBps ∨
        g.maxLiquidationBonusBps = 0 then pure (Word.max 16)
        else pure g.maxLiquidationBonusBps : Result U16) = .ok emodeMax
      split
      · exact ⟨_, rfl⟩
      · exact ⟨_, rfl⟩
  · exact ⟨_, rfl⟩

theorem exists_logBonusBps (width : ℕ) (hwidth : 32 ≤ width) (hwidth' : width ≤ 64)
    (h : bonus.bits < 7 * 2 ^ 60) : logBonusBps width bonus = .ok () := by
  have hpow : 2 ^ 92 ≤ 2 ^ (width + 60) := Nat.pow_le_pow_right (by norm_num) (by omega)
  obtain ⟨p, hp⟩ := Fraction.exists_toRatio (x := bonus) (m := 10000) hwidth' (by omega)
  simp only [logBonusBps, bind_eq_ok, pure_eq_ok, unwrap_eq_ok]
  exact ⟨some p, hp, p, rfl, trivial⟩

end Bonus

section Params

variable {market : LendingMarket} {w r : Reserve} {o : Obligation} {group : Option ElevationGroup}

theorem exists_checkLiquidateObligation
    (hgroup : getElevationGroup o.elevationGroup market = .ok group)
    (hdeposited : o.depositedValueSf ≠ Fraction.zero)
    (hunhealthy : o.AtUnhealthyLtv) (h : o.LtvPrints) :
    ∃ params, checkLiquidateObligation market w r o none = .ok (some params) ∧
      params.liquidationBonusRate.bits < 7 * 2 ^ 60 := by
  have hpercent := h.percent
  unfold Obligation.AtUnhealthyLtv at hunhealthy
  obtain ⟨userLtv, huser, huserBits⟩ :=
    Fraction.exists_quotient (x := o.borrowFactorAdjustedDebtValueSf) hdeposited (by omega)
  obtain ⟨noBfLtv, hnoBf, -⟩ := Fraction.exists_quotient hdeposited h.noBf
  obtain ⟨unhealthyLtv, hunhealthyLtv, hunhealthyBits⟩ :=
    Fraction.exists_quotient (x := o.unhealthyBorrowValueSf) hdeposited (by omega)
  have hle : unhealthyLtv ≤ userLtv := by
    rw [Fraction.le_iff, huserBits, hunhealthyBits]
    exact hunhealthy
  have huserLt : userLtv.bits * 100 + 2 ^ 59 < 2 ^ 124 := by
    rw [huserBits]
    exact hpercent
  have hunhealthyLt : unhealthyLtv.bits * 100 + 2 ^ 59 < 2 ^ 124 := by
    have := Fraction.le_iff.1 hle
    omega
  obtain ⟨p, hp⟩ := Fraction.exists_toPercent huserLt
  obtain ⟨q, hq⟩ := Fraction.exists_toPercent hunhealthyLt
  obtain ⟨emodeMax, hemode⟩ := exists_getEmodeMaxLiquidationBonus (w := w) (r := r) hgroup
  obtain ⟨bonus, hbonus, hlt⟩ := exists_calculateLiquidationBonus w.config r.config
    noBfLtv emodeMax hle
  have hdebtShown : o.borrowFactorAdjustedDebtValueSf.toDisplay = .ok () :=
    Fraction.toDisplay_eq_ok.2 h.debt
  have hunhealthyShown : o.unhealthyBorrowValueSf.toDisplay = .ok () :=
    Fraction.toDisplay_eq_ok.2 h.unhealthy
  refine ⟨⟨userLtv, bonus⟩, ?_, hlt⟩
  simp only [checkLiquidateObligation, Obligation.loanToValue, Obligation.noBfLoanToValue,
    Obligation.unhealthyLoanToValue, huser, hnoBf, hunhealthyLtv, ok_bind, Option.map_none,
    Option.getD_none, if_pos hle, hdebtShown, hunhealthyShown, hp, hq, unwrap, hemode, hbonus]
  rfl

theorem getLiquidationParams_returns {params : LiquidationParams} (ts : U64) (highest lowest : Bool)
    (h : checkLiquidateObligation market w r o none = .ok (some params))
    (hlt : params.liquidationBonusRate.bits < 7 * 2 ^ 60) :
    Returns (getLiquidationParams market w r o ts highest lowest none) ∧
      ∀ params', getLiquidationParams market w r o ts highest lowest none = .ok params' →
        params' = params := by
  unfold getLiquidationParams
  rw [h, ok_bind]
  dsimp only
  constructor
  · rw [exists_logBonusBps 64 (by norm_num) le_rfl hlt]
    simp only [returns_bind, returns_require, returns_pure, ok_bind, implies_true, and_true]
  · intro params' hparams
    simp only [bind_eq_ok, pure_eq_ok] at hparams
    obtain ⟨-, -, -, -, -, -, heq⟩ := hparams
    exact heq.symm

/-- Where the liquidation of an unhealthy obligation does not abort, its numbers could be
printed. -/
theorem ltvPrints_of_returns {ts : U64} {highest lowest : Bool}
    (hdeposited : o.depositedValueSf ≠ Fraction.zero) (hunhealthy : o.AtUnhealthyLtv)
    (h : Returns (getLiquidationParams market w r o ts highest lowest none)) : o.LtvPrints := by
  have hcheck := (returns_bind.1 h).1
  unfold checkLiquidateObligation at hcheck
  obtain ⟨hltv, hcheck⟩ := returns_bind.1 hcheck
  obtain ⟨userLtv, huser, huserBits⟩ :=
    Fraction.exists_quotient hdeposited ((Fraction.returns_div hdeposited).1 hltv)
  obtain ⟨hnoBf, hcheck⟩ := returns_bind.1 (hcheck userLtv huser)
  have hnoBfLt := (Fraction.returns_div hdeposited).1 hnoBf
  obtain ⟨noBfLtv, hnoBf, -⟩ := Fraction.exists_quotient hdeposited hnoBfLt
  obtain ⟨hunhealthyLtv, hcheck⟩ := returns_bind.1 (hcheck noBfLtv hnoBf)
  obtain ⟨unhealthyLtv, hunhealthyLtv, hunhealthyBits⟩ :=
    Fraction.exists_quotient hdeposited ((Fraction.returns_div hdeposited).1 hunhealthyLtv)
  have hle : unhealthyLtv ≤ userLtv := by
    rw [Fraction.le_iff, huserBits, hunhealthyBits]
    exact hunhealthy
  have hbranch := hcheck unhealthyLtv hunhealthyLtv
  dsimp only [Option.map_none, Option.getD_none] at hbranch
  rw [if_pos hle] at hbranch
  obtain ⟨hdebt, hbranch⟩ := returns_bind.1 hbranch
  have hdebtPrints := Fraction.returns_toDisplay.1 hdebt
  obtain ⟨hprinted, hbranch⟩ := returns_bind.1 (hbranch () (Fraction.toDisplay_eq_ok.2 hdebtPrints))
  have hunhealthyPrints := Fraction.returns_toDisplay.1 hprinted
  have hpercent := Fraction.lt_of_returns_percent
    (hbranch () (Fraction.toDisplay_eq_ok.2 hunhealthyPrints))
  rw [huserBits] at hpercent
  exact ⟨hdebtPrints, hunhealthyPrints, hpercent, hnoBfLt⟩

end Params

section Amounts

variable {market : LendingMarket} {w r : Reserve} {o : Obligation} {group : Option ElevationGroup}
  {b : ObligationLiquidity} {d : ObligationCollateral} {amount : U64} {debt : Fraction}

theorem liquidatedValue_le {value owed part most limit : ℕ} (ratio : ℕ)
    (hmost : most * 2 ^ 60 ≤ owed * ratio) (hratio : ratio * value ≤ limit * 2 ^ 60)
    (hpart : part ≤ most) : value * (part * 2 ^ 60 / owed) / 2 ^ 60 ≤ limit := by
  have hle : part * 2 ^ 60 / owed ≤ ratio :=
    Nat.div_le_of_le_mul ((Nat.mul_le_mul_right _ hpart).trans hmost)
  apply Nat.div_le_of_le_mul
  calc value * (part * 2 ^ 60 / owed) ≤ value * ratio := Nat.mul_le_mul_left _ hle
    _ ≤ 2 ^ 60 * limit := by rwa [mul_comm value, mul_comm _ limit]

theorem exists_maxLiquidatableBorrowedAmount {closeFactor : U8} (most : U64) (userLtv : Fraction)
    (insolvency : U8) (hclose : closeFactor ≤ 100) (hbv : b.marketValueSf ≠ Fraction.zero) :
    ∃ debt, maxLiquidatableBorrowedAmount o closeFactor most b userLtv insolvency = .ok debt ∧
      ∀ part ≤ debt.bits,
        b.marketValueSf.bits * (part * 2 ^ 60 / b.borrowedAmountSf.bits) / 2 ^ 60 ≤
          most * 2 ^ 60 := by
  have hrate : (if Fraction.fromPercent insolvency.widen < userLtv then Fraction.one
      else Fraction.fromPercent closeFactor.widen).bits ≤ 2 ^ 60 := by
    split
    · exact Fraction.bits_one.le
    · have hle : (closeFactor : ℕ) ≤ 100 := hclose
      rw [Fraction.bits_fromPercent, Word.widen_val]
      omega
  obtain ⟨value, hmul, -⟩ := Fraction.exists_mul_le_self (x := o.borrowedAssetsMarketValueSf) hrate
  have hvalue : min (min value b.marketValueSf) (Fraction.fromNum most) ≤ b.marketValueSf :=
    (min_le_left _ _).trans (min_le_right _ _)
  obtain ⟨ratio, hratio, hone⟩ := Fraction.exists_div_le_one hbv hvalue
  obtain ⟨debt, hdebt, -⟩ := Fraction.exists_mul_le_self (x := b.borrowedAmountSf) hone
  refine ⟨debt, ?_, fun part hpart ↦ liquidatedValue_le ratio.bits ?_ ?_ hpart⟩
  · rw [maxLiquidatableBorrowedAmount]
    dsimp only
    rw [hmul, ok_bind, hratio, ok_bind, hdebt]
  · rw [Fraction.mul_eq_ok.1 hdebt]
    exact Nat.div_mul_le_self _ _
  · rw [(Fraction.div_eq_ok.1 hratio).2]
    refine (Nat.div_mul_le_self _ _).trans (Nat.mul_le_mul_right _ ?_)
    exact Fraction.le_iff.1 (min_le_right _ _)

theorem exists_calculateLiquidationAmounts (total : Fraction) (below : Bool)
    (hd : d.marketValueSf ≠ Fraction.zero) (hdebt : debt.bits ≤ amount * 2 ^ 60) :
    ∃ settle repay withdraw, calculateLiquidationAmounts total d debt below =
      .ok (settle, repay, withdraw) := by
  obtain ⟨repay, hrepay⟩ := Fraction.exists_toCeil hdebt
  unfold calculateLiquidationAmounts
  dsimp only
  split
  · next hlt =>
    have htotal : total ≠ Fraction.zero := by
      rintro rfl
      exact absurd (Fraction.lt_iff.1 hlt) (Nat.not_lt_zero _)
    obtain ⟨ratio, hratio, hone⟩ := Fraction.exists_div_le_one htotal (le_of_lt hlt)
    obtain ⟨part, hpart, hle⟩ := Fraction.exists_mul_le_self (x := debt) hone
    rw [hratio, ok_bind, hpart, ok_bind]
    cases below with
    | true =>
      rw [if_pos rfl, hrepay]
      exact ⟨_, _, _, rfl⟩
    | false =>
      obtain ⟨repay, hrepay⟩ := Fraction.exists_toCeil ((Fraction.le_iff.1 hle).trans hdebt)
      rw [if_neg (by decide), hrepay]
      exact ⟨_, _, _, rfl⟩
  · next hge =>
    split
    · rw [hrepay]
      exact ⟨_, _, _, rfl⟩
    · obtain ⟨ratio, hratio, hone⟩ := Fraction.exists_div_le_one hd (not_lt.1 hge)
      obtain ⟨part, hpart, hle⟩ :=
        Fraction.exists_mul_le_self (x := Fraction.fromNum d.depositedAmount) hone
      obtain ⟨withdraw, hwithdraw⟩ := Fraction.exists_toFloor (Fraction.le_iff.1 hle)
      rw [hrepay, ok_bind, hratio, ok_bind, hpart, ok_bind]
      split
      · exact ⟨_, _, _, rfl⟩
      · rw [hwithdraw]
        exact ⟨_, _, _, rfl⟩

theorem exists_settlement {bonusRate : Fraction} (below : Bool)
    (hb : b.borrowedAmountSf ≠ Fraction.zero) (hd : d.marketValueSf ≠ Fraction.zero)
    (hvalue : b.marketValueSf.bits * (debt.bits * 2 ^ 60 / b.borrowedAmountSf.bits) / 2 ^ 60 <
      2 ^ 124) (hrate : bonusRate.bits ≤ 8 * 2 ^ 60)
    (hdebt : debt ≤ b.borrowedAmountSf) (hasked : debt ≤ Fraction.fromNum amount) :
    ∃ ratio value total settle repay withdraw rounded, debt.div b.borrowedAmountSf = .ok ratio ∧
      b.marketValueSf.mul ratio = .ok value ∧ value.mul bonusRate = .ok total ∧
      calculateLiquidationAmounts total d debt below = .ok (settle, repay, withdraw) ∧
      settle.toRound = .ok rounded := by
  have hasked := Fraction.le_iff.1 hasked
  obtain ⟨ratio, hratio, hone⟩ := Fraction.exists_div_le_one hb hdebt
  obtain ⟨value, hmul, -⟩ := Fraction.exists_mul_le_self (x := b.marketValueSf) hone
  rw [← (Fraction.div_eq_ok.1 hratio).2, ← Fraction.mul_eq_ok.1 hmul] at hvalue
  obtain ⟨total, htotal⟩ := Fraction.exists_mul (x := value) (by omega) hrate
  obtain ⟨settle, repay, withdraw, hamounts⟩ :=
    exists_calculateLiquidationAmounts total below hd hasked
  obtain ⟨rounded, hround⟩ :=
    Fraction.exists_toRound ((calculateLiquidationAmounts_settle hamounts).2.trans hasked)
  exact ⟨ratio, value, total, settle, repay, withdraw, rounded, hratio, hmul, htotal, hamounts,
    hround⟩

/-- An unhealthy obligation whose numbers can be printed is liquidated or refused with an error
code. -/
theorem calculateLiquidation_returns {ts : U64} {highest lowest : Bool}
    (hgroup : getElevationGroup o.elevationGroup market = .ok group)
    (hdeposited : o.depositedValueSf ≠ Fraction.zero) (hunhealthy : o.AtUnhealthyLtv)
    (hclose : market.liquidationMaxDebtCloseFactorPct ≤ 100)
    (hb : b.borrowedAmountSf ≠ Fraction.zero) (hbv : b.marketValueSf ≠ Fraction.zero)
    (hd : d.marketValueSf ≠ Fraction.zero) (hprints : o.LtvPrints) :
    Returns (calculateLiquidation w r amount market o b d ts highest lowest none) := by
  obtain ⟨params, hparams, hlt⟩ :=
    exists_checkLiquidateObligation (w := w) (r := r) hgroup hdeposited hunhealthy hprints
  obtain ⟨hreturns, hsame⟩ :=
    getLiquidationParams_returns ts highest lowest hparams hlt
  obtain ⟨userLtv, bonus⟩ := params
  dsimp only at hlt
  obtain ⟨bonusRate, hadd, hbits⟩ := Fraction.exists_ofBits
    (show bonus.bits + Fraction.one.bits < 2 ^ 128 by rw [Fraction.bits_one]; omega)
  have hrate : bonusRate.bits ≤ 8 * 2 ^ 60 := by
    rw [hbits, Fraction.bits_one]
    omega
  have hlog := exists_logBonusBps 32 le_rfl (by norm_num) hlt
  unfold calculateLiquidation
  refine returns_bind.2 ⟨returns_require, fun _ _ ↦ returns_bind.2 ⟨hreturns, fun p hp ↦ ?_⟩⟩
  obtain rfl := hsame p hp
  dsimp only
  rw [Fraction.add, hadd, ok_bind]
  split
  · next hbelow =>
    have hslot : b.marketValueSf.bits *
        (b.borrowedAmountSf.bits * 2 ^ 60 / b.borrowedAmountSf.bits) / 2 ^ 60 < 2 ^ 124 := by
      have hlt := market.minFullLiquidationValueThreshold.isLt
      have hle := Fraction.lt_iff.1 (of_decide_eq_true hbelow)
      rw [Fraction.bits_fromNum] at hle
      rw [Nat.mul_div_cancel_left _ (Nat.pos_of_ne_zero (mt Fraction.eq_zero_iff.2 hb)),
        Nat.mul_div_cancel _ (by positivity)]
      omega
    refine returns_bind.2 ⟨returns_require, fun _ hasked ↦ ?_⟩
    have hasked := (le_min_iff.1 (require_eq_ok.1 hasked)).1
    obtain ⟨ratio, value, total, settle, repay, withdraw, rounded, hratio, hmul, htotal, hamounts,
      hround⟩ := exists_settlement
        (b.marketValueSf < Fraction.fromNum market.minFullLiquidationValueThreshold) hb hd hslot
        hrate le_rfl hasked
    rw [pure_bind, hratio, ok_bind, hmul, ok_bind, htotal, ok_bind, hamounts, ok_bind, hlog,
      ok_bind, hround]
    exact .of_ok rfl
  · obtain ⟨most, hmost, hvalue⟩ := exists_maxLiquidatableBorrowedAmount (o := o)
      market.maxLiquidatableDebtMarketValueAtOnce userLtv market.insolvencyRiskUnhealthyLtvPct
      hclose hbv
    have hle := hvalue (min most (min (Fraction.fromNum amount) b.borrowedAmountSf)).bits
      (Fraction.le_iff.1 (min_le_left _ _))
    have hlt := market.maxLiquidatableDebtMarketValueAtOnce.isLt
    have hslot := hle.trans_lt (show _ < 2 ^ 124 by omega)
    obtain ⟨ratio, value, total, settle, repay, withdraw, rounded, hratio, hmul, htotal, hamounts,
      hround⟩ := exists_settlement
        (b.marketValueSf < Fraction.fromNum market.minFullLiquidationValueThreshold) hb hd hslot
        hrate ((min_le_right _ _).trans (min_le_right _ _))
        ((min_le_right _ _).trans (min_le_left _ _))
    rw [hmost, ok_bind, pure_bind, hratio, ok_bind, hmul, ok_bind, htotal, ok_bind, hamounts,
      ok_bind, hlog, ok_bind, hround]
    exact .of_ok rfl

end Amounts

section Refreshed

variable {market : LendingMarket} {w r : Reserve} {o o' : Obligation} {slot : U64}
  {rs rs' : Reserves} {iter iter' : List Pubkey} {check : MaxReservesAsCollateralCheck}
  {states states' : ReferrerTokenStates} {stateKeys : List ReferrerTokenStateKey}
  {b : ObligationLiquidity} {d : ObligationCollateral}

theorem marketValue_of_no_amount {amount value : Fraction} (hamount : amount = Fraction.zero)
    (h : calculateMarketValueFromLiquidityAmount r amount = .ok value) : value = Fraction.zero := by
  simp only [calculateMarketValueFromLiquidityAmount, bind_eq_ok, Fraction.mul_eq_ok,
    Fraction.divInt_eq_ok] at h
  obtain ⟨factor, -, product, hproduct, -, hvalue⟩ := h
  rw [hamount] at hproduct
  rw [Fraction.eq_zero_iff, hvalue, hproduct]
  simp [Fraction.zero]

theorem refreshObligationBorrows_values {group : Option ElevationGroup}
    {borrows : RefreshObligationBorrowsResult}
    (h : refreshObligationBorrows o market slot group rs iter states stateKeys =
      .ok (o', rs', states', borrows)) :
    ∀ b ∈ o'.borrows, b.borrowReserve ≠ 0 →
      b.marketValueSf ≤ borrows.borrowedAssetsMarketValueF ∧
      (b.borrowedAmountSf = Fraction.zero → b.marketValueSf = Fraction.zero) := by
  obtain ⟨s, slots, hloop, -, rfl, -, -, -, hvalue, -⟩ := refreshObligationBorrows_spec h
  rw [hvalue]
  refine forOccupied_induct (P := fun l (s : BorrowsPass) ↦ ∀ b ∈ l, b.borrowReserve ≠ 0 →
    b.marketValueSf ≤ s.borrowedAssetsMarketValue ∧
    (b.borrowedAmountSf = Fraction.zero → b.marketValueSf = Fraction.zero))
    (fun _ hb ↦ absurd hb List.not_mem_nil) ?free ?step hloop
  case free =>
    intro l s b _ hfree hP b' hb' hne
    rcases List.mem_append.1 hb' with hb' | hb'
    · exact hP b' hb' hne
    · obtain rfl := List.mem_singleton.1 hb'
      exact absurd hne (by simpa [ObligationLiquidity.occupied] using hfree)
  case step =>
    intro l s b k s' b' _ _ hbody hP c hc hne
    obtain ⟨-, -, -, -, -, -, -, -, -, -, -, hsum, -⟩ := refreshBorrow_slot hbody
    rcases List.mem_append.1 hc with hc | hc
    · obtain ⟨hle, hzero⟩ := hP c hc hne
      refine ⟨hle.trans (Fraction.le_iff.2 ?_), hzero⟩
      omega
    · obtain rfl := List.mem_singleton.1 hc
      refine ⟨Fraction.le_iff.2 (by omega), fun hamount ↦ ?_⟩
      obtain ⟨r, b₁, n, r₁, b₂, slots, r₂, mv, bfmv, -, -, -, -, -, -, -, -, -, -, -, hmv, -, -, -,
        -, -, rfl, -⟩ := refreshBorrow_spec hbody
      exact marketValue_of_no_amount hamount hmv

theorem refreshObligation_values
    (h : refreshObligation o market slot check rs iter iter' states stateKeys =
      .ok (o', rs', states')) :
    (∃ group, getElevationGroup o'.elevationGroup market = .ok group) ∧
    ∀ b ∈ o'.borrows, b.borrowReserve ≠ 0 → b.marketValueSf ≤ o'.borrowedAssetsMarketValueSf ∧
      (b.borrowedAmountSf = Fraction.zero → b.marketValueSf = Fraction.zero) := by
  obtain ⟨group, o₁, rs₁, borrows, o₂, deposits, hgroup, hb, hd, rfl⟩ := refreshObligation_spec h
  have hframe₁ := (refreshObligationBorrows_frame hb).2.2
  have hframe₂ := (refreshObligationDeposits_frame hd).2.2
  constructor
  · refine ⟨group, ?_⟩
    have hsame : o₂.elevationGroup = o.elevationGroup := by rw [hframe₂, hframe₁]
    rw [← hsame] at hgroup
    exact hgroup
  · have hsame : o₂.borrows = o₁.borrows := by rw [hframe₂]
    show ∀ b ∈ o₂.borrows, _
    rw [hsame]
    exact refreshObligationBorrows_values hb

/-- The liquidation of an unhealthy obligation aborts just where a number in its log line cannot be
printed. -/
theorem liquidation_returns_iff_printed {request : U64} (hm : market.Validated)
    (hrefresh : refreshObligation o market slot check rs iter iter' states stateKeys =
      .ok (o', rs', states'))
    (hassert : assertObligationLiquidatable r w o' request slot = .ok ())
    (hunhealthy : o'.AtUnhealthyLtv)
    (hb : b ∈ o'.borrows) (hkey : b.borrowReserve ≠ 0) (hbv : b.marketValueSf ≠ Fraction.zero)
    (hd : d.marketValueSf ≠ Fraction.zero) :
    (∀ amount ts highest lowest, amount ≠ 0 →
      Returns (calculateLiquidation w r amount market o' b d ts highest lowest none)) ↔
        o'.LtvPrints := by
  simp only [assertObligationLiquidatable, bind_eq_ok, require_eq_ok] at hassert
  obtain ⟨-, hrequest, -, -, -, -, -, -, -, hdeposited, -⟩ := hassert
  constructor
  · intro hreturns
    obtain ⟨-, hrest⟩ := returns_bind.1 (hreturns request 0 true true hrequest)
    exact ltvPrints_of_returns hdeposited hunhealthy
      (returns_bind.1 (hrest () (require_eq_ok.2 hdeposited))).1
  · intro hprints amount ts highest lowest _
    obtain ⟨⟨group, hgroup⟩, hvalues⟩ := refreshObligation_values hrefresh
    obtain ⟨-, hzero⟩ := hvalues b hb hkey
    exact calculateLiquidation_returns hgroup hdeposited hunhealthy hm.closeFactor.2
      (mt hzero hbv) hbv hd hprints

end Refreshed

namespace World

/-- The loan in the risen market is refreshed once more, and its liquidation cannot abort. -/
theorem liquidation_returns_iff_printed_underwaterLoan :
    ∃ o₀ o rs states b d, underwaterLoan.loadObligation 0 = .ok o₀ ∧
      Klend.refreshObligation o₀ underwaterLoan.lendingMarket 3 .perform underwaterLoan.reserves
        [6] [5] underwaterLoan.referrerTokenStates [] = .ok (o, rs, states) ∧
      b ∈ o.borrows ∧ d ∈ o.deposits ∧ o.LtvPrints ∧
      ∀ amount ts highest lowest, amount ≠ 0 → Returns (calculateLiquidation
        (underwaterLoan.reserveAt 6) (underwaterLoan.reserveAt 5) amount
        underwaterLoan.lendingMarket o b d ts highest lowest none) := by
  obtain ⟨o₀, ho₀, h⟩ := exists_eq_ok (x := underwaterLoan.loadObligation 0)
    (p := fun o ↦ (Klend.refreshObligation o underwaterLoan.lendingMarket 3 .perform
      underwaterLoan.reserves [6] [5] underwaterLoan.referrerTokenStates []).toOption.any
        fun (x : Obligation × Reserves × ReferrerTokenStates) ↦ decide (x.1.LtvPrints ∧
          assertObligationLiquidatable (underwaterLoan.reserveAt 5) (underwaterLoan.reserveAt 6)
            x.1 500000 3 = .ok () ∧
          x.1.AtUnhealthyLtv ∧
          (∃ b ∈ x.1.borrows, b.borrowReserve ≠ 0 ∧ b.marketValueSf ≠ Fraction.zero) ∧
          ∃ d ∈ x.1.deposits, d.marketValueSf ≠ Fraction.zero)) (by decide)
  obtain ⟨⟨o, rs, states⟩, hrefresh, hp⟩ := exists_eq_ok h
  obtain ⟨hprints, hassert, hunhealthy, ⟨b, hb, hkey, hbv⟩, d, hd, hdv⟩ :=
    of_decide_eq_true hp
  exact ⟨o₀, o, rs, states, b, d, ho₀, hrefresh, hb, hd, hprints,
    (liquidation_returns_iff_printed LendingMarket.init_validated hrefresh hassert hunhealthy hb
      hkey hbv hdv).2 hprints⟩

/-- The collateral at the least price there is. -/
def leastPrice : Option GetPriceResult :=
  some { price := ⟨1, by decide⟩, status := .allChecks, timestamp := 10 }

/-- A loan whose collateral has lost its price, refreshed. -/
def worthlessLoan : World :=
  plainMarket.after (plainLoan ++
    [(⟨3, 10⟩, .refreshReserve 5 unitPrice), (⟨3, 10⟩, .refreshReserve 6 leastPrice),
      (⟨3, 10⟩, .refreshObligation 0 [6, 5] [])])

/-- The loan is fresh and unhealthy, and its liquidation aborts. -/
theorem worthlessLoan_aborts :
    plainMarket.Genesis ∧ Run Anything plainMarket worthlessLoan ∧
    (∃ o, worthlessLoan.loadObligation 0 = .ok o ∧
      assertObligationLiquidatable (worthlessLoan.reserveAt 5) (worthlessLoan.reserveAt 6) o 500000
        3 = .ok () ∧
      o.AtUnhealthyLtv ∧
      ∃ b ∈ o.borrows, b.borrowReserve = 5 ∧ b.marketValueSf ≠ Fraction.zero ∧
      ∃ d ∈ o.deposits, d.depositReserve = 6 ∧ d.marketValueSf ≠ Fraction.zero ∧
      calculateLiquidation (worthlessLoan.reserveAt 6) (worthlessLoan.reserveAt 5) 500000
        worthlessLoan.lendingMarket o b d 10 true true none = .error .panic) ∧
    worthlessLoan.process ⟨3, 10⟩ (.liquidateObligationAndRedeemReserveCollateral 0 5 6 500000 0
      none [6]) = .error .panic := by
  refine ⟨plainMarket_genesis, run_after _ _ fun _ _ _ ↦ trivial, ?_, ?_⟩
  · obtain ⟨o, ho, h⟩ := exists_eq_ok (x := worthlessLoan.loadObligation 0)
      (p := fun o ↦ decide (assertObligationLiquidatable (worthlessLoan.reserveAt 5)
          (worthlessLoan.reserveAt 6) o 500000 3 = .ok () ∧
        o.AtUnhealthyLtv ∧
        ∃ b ∈ o.borrows, b.borrowReserve = 5 ∧ b.marketValueSf ≠ Fraction.zero ∧
        ∃ d ∈ o.deposits, d.depositReserve = 6 ∧ d.marketValueSf ≠ Fraction.zero ∧
        calculateLiquidation (worthlessLoan.reserveAt 6) (worthlessLoan.reserveAt 5) 500000
          worthlessLoan.lendingMarket o b d 10 true true none = .error .panic)) (by decide)
    exact ⟨o, ho, of_decide_eq_true h⟩
  · exact eq_error_of_failsWith (by decide)

end World

end Klend
