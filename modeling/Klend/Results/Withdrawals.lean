import Klend.Lending.ObligationSpecs
import Klend.Lending.Withdrawals
import Klend.Library.Rounding
import Klend.Results.LiquidationBounds
import Klend.Results.LiquidationPairs
import Klend.Results.RepayAndWithdraw

/-! # Withdrawals of collateral

Asking for everything agrees with asking for an amount, unless the collateral of a
position with debt is worth nothing. What a withdrawal leaves is healthy.
-/

namespace Klend

variable {market : LendingMarket} {r r' : Reserve} {o o' : Obligation} {amount n slot : U64}
  {key : Pubkey} {check : LtvMaxWithdrawalCheck} {d : ObligationCollateral}
  {ltvPct thresholdPct : U8} {most : Fraction} {i : ℕ}

/-- The part of a deposit, rounded up. -/
def ObligationCollateral.rateOf (d : ObligationCollateral) (n : U64) : ℕ :=
  (n * 2 ^ 60 * 2 ^ 60 + (d.depositedAmount * 2 ^ 60 - 1)) / (d.depositedAmount * 2 ^ 60)

theorem ObligationCollateral.rateOf_le_one (hd : d.depositedAmount ≠ 0)
    (h : n ≤ d.depositedAmount) : d.rateOf n ≤ 2 ^ 60 := by
  have hpos : 0 < (d.depositedAmount : ℕ) := Nat.pos_of_ne_zero (mt Fin.val_eq_zero_iff.1 hd)
  apply Rounding.ceil_rate_le hpos (by norm_num)
  rw [Nat.mul_div_cancel_left _ (by norm_num)]
  exact h

theorem ObligationCollateral.rateOf_all (hd : d.depositedAmount ≠ 0) :
    d.rateOf d.depositedAmount = 2 ^ 60 := by
  apply le_antisymm (rateOf_le_one hd le_rfl)
  have hpos : 0 < (d.depositedAmount : ℕ) := Nat.pos_of_ne_zero (mt Fin.val_eq_zero_iff.1 hd)
  have hceil : (d.depositedAmount * 2 ^ 60 * 2 ^ 60 : ℕ) ≤
      d.rateOf d.depositedAmount * (d.depositedAmount * 2 ^ 60) :=
    Rounding.le_add_pred_div_mul (Nat.mul_pos hpos (by norm_num))
  rw [mul_comm (_ * _ : ℕ) (2 ^ 60)] at hceil
  exact Nat.le_of_mul_le_mul_right hceil (Nat.mul_pos hpos (by norm_num))

/-- The largest withdrawal as a part of the collateral's value, rounded down. -/
def withdrawRate (most value : Fraction) : ℕ :=
  min most.bits value.bits * 2 ^ 60 / value.bits

theorem withdrawRate_le_one (most value : Fraction) : withdrawRate most value ≤ 2 ^ 60 :=
  Nat.div_le_of_le_mul (Nat.mul_le_mul_right _ (min_le_right _ _))

/-- Asking for everything releases the part of the deposit that the largest withdrawal is of the
collateral's value. -/
theorem withdrawAll_eq_ok :
    withdrawAmountAgainstDebt o d (Word.max 64) ltvPct thresholdPct check = .ok n ↔
      o.depositedValueSf ≠ Fraction.zero ∧ ∃ most,
        o.maxWithdrawValue d ltvPct thresholdPct check = .ok most ∧ most ≠ Fraction.zero ∧
        d.marketValueSf.bits ≠ 0 ∧ n ≠ 0 ∧
        (n : ℕ) = withdrawRate most d.marketValueSf * d.depositedAmount / 2 ^ 60 := by
  simp only [withdrawAmountAgainstDebt, if_pos, bind_eq_ok, require_eq_ok, pure_eq_ok,
    Fraction.div_eq_ok, Fraction.mulInt_eq_ok, Fraction.toFloor_eq_ok, Fraction.bits_min]
  have hd := d.depositedAmount.isLt
  have hle (most : Fraction) :
      withdrawRate most d.marketValueSf * d.depositedAmount ≤ d.depositedAmount * 2 ^ 60 :=
    mul_comm (2 ^ 60) (d.depositedAmount : ℕ) ▸
      Nat.mul_le_mul_right _ (withdrawRate_le_one most d.marketValueSf)
  have hfloor (most : Fraction) :
      withdrawRate most d.marketValueSf * d.depositedAmount / 2 ^ 60 ≤ d.depositedAmount :=
    Nat.div_le_of_le_mul (mul_comm (2 ^ 60) (d.depositedAmount : ℕ) ▸ hle most)
  constructor
  · rintro ⟨-, hdeposited, most, hmost, -, hne, ratio, ⟨hvalue, hratio⟩, f, hf, a, ha, m, rfl, -,
      hn, rfl⟩
    have hbits : (a : ℕ) = withdrawRate most d.marketValueSf * d.depositedAmount / 2 ^ 60 := by
      rw [ha, hf, hratio, withdrawRate]
    have hmin : min d.depositedAmount a = a := min_eq_right (Fin.le_def.2 (hbits ▸ hfloor most))
    rw [hmin] at hn ⊢
    exact ⟨hdeposited, most, hmost, hne, hvalue, hn, hbits⟩
  · rintro ⟨hdeposited, most, hmost, hne, hvalue, hn, hbits⟩
    have hmin : min d.depositedAmount n = n := min_eq_right (Fin.le_def.2 (hbits ▸ hfloor most))
    have hratio : withdrawRate most d.marketValueSf < 2 ^ 128 :=
      (withdrawRate_le_one _ _).trans_lt (by norm_num)
    exact ⟨(), hdeposited, most, hmost, (), hne, ⟨_, hratio⟩, ⟨hvalue, rfl⟩,
      ⟨_, (hle most).trans_lt (Fraction.natCast_bits_lt hd)⟩, rfl, n, hbits, n, hmin, (), hn, rfl⟩

/-- An explicit amount is released if its value, at the rate rounded up, stays within the largest
withdrawal. -/
theorem withdrawSome_eq_ok (hamount : amount ≠ Word.max 64) (hd : d.depositedAmount ≠ 0) :
    withdrawAmountAgainstDebt o d amount ltvPct thresholdPct check = .ok n ↔
      o.depositedValueSf ≠ Fraction.zero ∧ ∃ most,
        o.maxWithdrawValue d ltvPct thresholdPct check = .ok most ∧ most ≠ Fraction.zero ∧
        n ≠ 0 ∧ n = min amount d.depositedAmount ∧
        (if check = .liquidationThreshold then
            d.marketValueSf.bits * d.rateOf n / 2 ^ 60 < most.bits
          else d.marketValueSf.bits * d.rateOf n / 2 ^ 60 ≤ most.bits) := by
  simp only [withdrawAmountAgainstDebt, if_neg hamount, bind_eq_ok, require_eq_ok, pure_eq_ok,
    Fraction.divCeil_eq_ok, Fraction.mul_eq_ok, Fraction.bits_fromNum, Fraction.lt_iff,
    Fraction.le_iff]
  constructor
  · rintro ⟨-, hdeposited, most, hmost, -, hne, ratio, ⟨-, hratio⟩, value, hvalue, -, hle, m, rfl,
      -, hn, rfl⟩
    rw [hvalue, hratio] at hle
    exact ⟨hdeposited, most, hmost, hne, hn, rfl, hle⟩
  · rintro ⟨hdeposited, most, hmost, hne, hn, rfl, hle⟩
    have hrate : d.rateOf (min amount d.depositedAmount) ≤ 2 ^ 60 :=
      d.rateOf_le_one hd (min_le_right _ _)
    have hvalue : d.marketValueSf.bits * d.rateOf (min amount d.depositedAmount) / 2 ^ 60 ≤
        d.marketValueSf.bits :=
      Nat.div_le_of_le_mul (mul_comm (2 ^ 60) d.marketValueSf.bits ▸ Nat.mul_le_mul_left _ hrate)
    have hpos : (d.depositedAmount * 2 ^ 60 : ℕ) ≠ 0 :=
      Nat.mul_ne_zero (mt Fin.val_eq_zero_iff.1 hd) (by norm_num)
    exact ⟨(), hdeposited, most, hmost, (), hne, ⟨_, hrate.trans_lt (by norm_num)⟩, ⟨hpos, rfl⟩,
      ⟨_, hvalue.trans_lt d.marketValueSf.isLt⟩, rfl, (), hle, _, rfl, (), hn, rfl⟩

theorem value_of_withdrawAll (hd : d.depositedAmount ≠ 0)
    (hn : (n : ℕ) = withdrawRate most d.marketValueSf * d.depositedAmount / 2 ^ 60) :
    d.marketValueSf.bits * d.rateOf n / 2 ^ 60 ≤ most.bits := by
  have hpos : 0 < (d.depositedAmount : ℕ) := Nat.pos_of_ne_zero (mt Fin.val_eq_zero_iff.1 hd)
  have hrate : d.rateOf n ≤ withdrawRate most d.marketValueSf :=
    Rounding.ceil_rate_le hpos (by norm_num) hn.le
  have htaken : withdrawRate most d.marketValueSf * d.marketValueSf.bits ≤
      min most.bits d.marketValueSf.bits * 2 ^ 60 := Nat.div_mul_le_self _ _
  apply Nat.div_le_of_le_mul
  calc d.marketValueSf.bits * d.rateOf n
      ≤ d.marketValueSf.bits * withdrawRate most d.marketValueSf := Nat.mul_le_mul_left _ hrate
    _ = withdrawRate most d.marketValueSf * d.marketValueSf.bits := mul_comm _ _
    _ ≤ min most.bits d.marketValueSf.bits * 2 ^ 60 := htaken
    _ ≤ most.bits * 2 ^ 60 := Nat.mul_le_mul_right _ (min_le_left _ _)
    _ = 2 ^ 60 * most.bits := mul_comm _ _

theorem releasedAmount_ne_zero (hd : d.depositedAmount ≠ 0)
    (h : releasedAmount o d (Word.max 64) ltvPct thresholdPct check = .ok n) : n ≠ 0 := by
  unfold releasedAmount at h
  split at h
  · rw [if_pos rfl, pure_eq_ok] at h
    exact h ▸ hd
  · obtain ⟨-, -, -, -, -, hn, -⟩ := withdrawAll_eq_ok.1 h
    exact hn

theorem releasedAmount_of_all (hd : d.depositedAmount ≠ 0)
    (h : releasedAmount o d (Word.max 64) ltvPct thresholdPct .maxLtv = .ok n) :
    releasedAmount o d n ltvPct thresholdPct .maxLtv = .ok n := by
  by_cases hmax : n = Word.max 64
  · rwa [hmax] at h ⊢
  unfold releasedAmount at h ⊢
  by_cases hempty : o.borrowsEmpty = true
  · rw [if_pos hempty, if_pos rfl, pure_eq_ok] at h
    rw [if_pos hempty, if_neg hmax, h, min_self]
    rfl
  · rw [if_neg hempty] at h ⊢
    obtain ⟨hdeposited, most, hmost, hne, hvalue, hn, hbits⟩ := withdrawAll_eq_ok.1 h
    have hle : n ≤ d.depositedAmount := by
      rw [Fin.le_def, hbits]
      apply Nat.div_le_of_le_mul
      exact Nat.mul_le_mul_right _ (withdrawRate_le_one _ _)
    refine (withdrawSome_eq_ok hmax hd).2
      ⟨hdeposited, most, hmost, hne, hn, (min_eq_left hle).symm, ?_⟩
    rw [if_neg (by decide)]
    exact value_of_withdrawAll hd hbits

/-- A deposit that can be asked for as a whole is released for everything unless it is the worthless
collateral of a position with debt. -/
theorem releasedAmount_all_iff (hd : d.depositedAmount ≠ 0)
    (hmax : d.depositedAmount ≠ Word.max 64)
    (h : releasedAmount o d d.depositedAmount ltvPct thresholdPct .maxLtv = .ok n) :
    n = d.depositedAmount ∧
      (releasedAmount o d (Word.max 64) ltvPct thresholdPct .maxLtv = .ok n ↔
        o.borrowsEmpty = true ∨ d.marketValueSf ≠ Fraction.zero) := by
  unfold releasedAmount at h ⊢
  by_cases hempty : o.borrowsEmpty = true
  · rw [if_pos hempty, if_neg hmax, min_self, pure_eq_ok] at h
    rw [if_pos hempty, if_pos rfl, pure_eq_ok]
    exact ⟨h.symm, fun _ ↦ .inl hempty, fun _ ↦ h⟩
  · rw [if_neg hempty] at h ⊢
    obtain ⟨hdeposited, most, hmost, hne, hn, rfl, hle⟩ := (withdrawSome_eq_ok hmax hd).1 h
    rw [min_self] at hn hle ⊢
    rw [if_neg (by decide), d.rateOf_all hd, Nat.mul_div_cancel _ (by norm_num)] at hle
    refine ⟨rfl, ?_⟩
    constructor
    · intro hall
      obtain ⟨-, -, -, -, hvalue, -⟩ := withdrawAll_eq_ok.1 hall
      exact .inr (mt Fraction.eq_zero_iff.1 hvalue)
    · rintro (hno | hvalue)
      · exact absurd hno hempty
      · have hbits : d.marketValueSf.bits ≠ 0 := mt Fraction.eq_zero_iff.2 hvalue
        refine withdrawAll_eq_ok.2 ⟨hdeposited, most, hmost, hne, hbits, hn, ?_⟩
        rw [withdrawRate, min_eq_right hle, Nat.mul_div_cancel_left _ (Nat.pos_of_ne_zero hbits),
          Nat.mul_div_cancel_left _ (by norm_num)]

/-- In the mode of the plain withdrawal, what is released for everything can be asked for, and a
whole deposit that can be asked for is released for everything unless it is the worthless
collateral of a position with debt. -/
theorem withdrawObligationCollateral_all_agrees :
    (∀ r' o' n,
      withdrawObligationCollateral market r o (Word.max 64) slot key .maxLtv = .ok (r', o', n) →
        withdrawObligationCollateral market r o n slot key .maxLtv = .ok (r', o', n)) ∧
    ∀ i d r' o' n, o.positionOfCollateralInDeposits key = .ok i → o.deposits[i]? = some d →
      d.depositedAmount ≠ Word.max 64 →
      withdrawObligationCollateral market r o d.depositedAmount slot key .maxLtv =
        .ok (r', o', n) →
      n = d.depositedAmount ∧
        (withdrawObligationCollateral market r o (Word.max 64) slot key .maxLtv =
            .ok (r', o', n) ↔
          o.borrowsEmpty = true ∨ d.marketValueSf ≠ Fraction.zero) := by
  constructor
  · intro r' o' n h
    obtain ⟨-, i, d, ltvPct, thresholdPct, hcheck, hreleased, hrest⟩ :=
      withdrawObligationCollateral_eq_ok.1 h
    obtain ⟨-, -, hne, -⟩ := checkWithdrawal_spec hcheck
    exact withdrawObligationCollateral_eq_ok.2 ⟨releasedAmount_ne_zero hne hreleased, i, d, ltvPct,
      thresholdPct, hcheck, releasedAmount_of_all hne hreleased, hrest⟩
  · intro i d r' o' n hi hd hmax h
    obtain ⟨-, i', d', ltvPct, thresholdPct, hcheck, hreleased, hrest⟩ :=
      withdrawObligationCollateral_eq_ok.1 h
    obtain ⟨hi', hd', hne, -⟩ := checkWithdrawal_spec hcheck
    obtain rfl : i = i' := Except.ok.inj (hi.symm.trans hi')
    obtain rfl : d = d' := Option.some.inj (hd.symm.trans hd')
    obtain ⟨hn, hall⟩ := releasedAmount_all_iff hne hmax hreleased
    refine ⟨hn, ?_⟩
    rw [← hall]
    constructor
    · intro hwhole
      obtain ⟨-, i', d', _, _, hcheck', hreleased', -⟩ :=
        withdrawObligationCollateral_eq_ok.1 hwhole
      obtain ⟨rfl, rfl, rfl, rfl⟩ : i = i' ∧ d = d' ∧ ltvPct = _ ∧ thresholdPct = _ := by
        simpa using Except.ok.inj (hcheck.symm.trans hcheck')
      exact hreleased'
    · intro hreleased'
      exact withdrawObligationCollateral_eq_ok.2 ⟨by decide, i, d, ltvPct, thresholdPct, hcheck,
        hreleased', hrest⟩

namespace World

/-- A withdrawal from the first obligation, with the accounts it starts from. -/
def withdrawal (w : World) (slot : U64) (key : Pubkey) (amount : U64)
    (check : LtvMaxWithdrawalCheck) :
    Result (Reserve × Obligation × Reserve × Obligation × U64) := do
  let r ← w.loadReserve key
  let o ← w.loadObligation 0
  let (r', o', n) ← Klend.withdrawObligationCollateral w.lendingMarket r o amount slot key check
  pure (r, o, r', o', n)

theorem withdrawal_eq_ok {w : World} {r r' : Reserve} {o o' : Obligation} {n : U64} :
    w.withdrawal slot key amount check = .ok (r, o, r', o', n) ↔
      w.loadReserve key = .ok r ∧ w.loadObligation 0 = .ok o ∧
        Klend.withdrawObligationCollateral w.lendingMarket r o amount slot key check =
          .ok (r', o', n) := by
  simp only [withdrawal, bind_eq_ok, pure_eq_ok, Prod.exists, Prod.mk.injEq]
  constructor
  · rintro ⟨r, hr, o, ho, r', o', n, h, rfl, rfl, rfl, rfl, rfl⟩
    exact ⟨hr, ho, h⟩
  · rintro ⟨hr, ho, h⟩
    exact ⟨r, hr, o, ho, r', o', n, h, rfl, rfl, rfl, rfl, rfl⟩

/-- As much as the loan allows is withdrawn. -/
theorem withdrawObligationCollateral_all_refreshedLoan : ∃ r o r' o' n,
    refreshedLoan.withdrawal 3 6 (Word.max 64) .maxLtv = .ok (r, o, r', o', n) ∧
      refreshedLoan.withdrawal 3 6 n .maxLtv = .ok (r, o, r', o', n) := by
  rcases exists_eq_ok (x := refreshedLoan.withdrawal 3 6 (Word.max 64) .maxLtv)
    (p := fun _ ↦ true) (by decide) with ⟨⟨r, o, r', o', n⟩, hall, -⟩
  obtain ⟨hr, ho, h⟩ := withdrawal_eq_ok.1 hall
  exact ⟨r, o, r', o', n, hall, withdrawal_eq_ok.2
    ⟨hr, ho, withdrawObligationCollateral_all_agrees.1 r' o' n h⟩⟩

/-- The loan with a worthless unit of a second collateral, refreshed in slot 3. -/
def dustCollateralLoan : World :=
  dustMarket.after (dustCollateral.take 16 ++
    [(⟨3, 10⟩, .refreshReserve 5 unitPrice), (⟨3, 10⟩, .refreshReserve 6 unitPrice),
      (⟨3, 10⟩, .refreshReserve 7 halfPrice), (⟨3, 10⟩, .refreshObligation 0 [6, 7, 5] [])])

/-- The unit can be withdrawn by its amount, but not by asking for everything. -/
theorem dustCollateralLoan_aborts :
    Run Anything dustMarket dustCollateralLoan ∧ ∃ r o r' o' d,
      dustCollateralLoan.withdrawal 3 7 1 .maxLtv = .ok (r, o, r', o', 1) ∧
      o.deposits[1]? = some d ∧ d.depositReserve = 7 ∧ d.depositedAmount = 1 ∧
      dustCollateralLoan.withdrawal 3 7 (Word.max 64) .maxLtv = abort := by
  refine ⟨run_after _ _ fun _ _ _ ↦ trivial, ?_⟩
  rcases exists_eq_ok (x := dustCollateralLoan.withdrawal 3 7 1 .maxLtv)
    (p := fun x ↦ decide (x.2.2.2.2 = 1) &&
      (unwrap x.2.1.deposits[1]?).toOption.any fun d : ObligationCollateral ↦
        decide (d.depositReserve = 7 ∧ d.depositedAmount = 1)) (by decide)
    with ⟨⟨r, o, r', o', n⟩, hsome, hboth⟩
  obtain ⟨hn, hslot⟩ := (Bool.and_eq_true _ _).mp hboth
  rcases exists_eq_ok hslot with ⟨d, hd, hamount⟩
  obtain ⟨hkey, hone⟩ := of_decide_eq_true hamount
  obtain rfl : n = 1 := of_decide_eq_true hn
  exact ⟨r, o, r', o', d, hsome, unwrap_eq_ok.1 hd, hkey, hone,
    eq_error_of_failsWith (by decide)⟩

end World

theorem releasedAmount_bounded (hd : d.depositedAmount ≠ 0) (hdebt : o.borrowsEmpty = false)
    (h : releasedAmount o d amount ltvPct thresholdPct check = .ok n) :
    ∃ most, o.maxWithdrawValue d ltvPct thresholdPct check = .ok most ∧ most ≠ Fraction.zero ∧
      d.marketValueSf.bits * d.rateOf n / 2 ^ 60 ≤ most.bits := by
  rw [releasedAmount, if_neg (by rw [hdebt]; decide)] at h
  by_cases hmax : amount = Word.max 64
  · rw [hmax] at h
    obtain ⟨-, most, hmost, hne, -, -, hbits⟩ := withdrawAll_eq_ok.1 h
    exact ⟨most, hmost, hne, value_of_withdrawAll hd hbits⟩
  · obtain ⟨-, most, hmost, hne, -, -, hle⟩ := (withdrawSome_eq_ok hmax hd).1 h
    refine ⟨most, hmost, hne, ?_⟩
    split at hle
    · exact hle.le
    · exact hle

theorem maxWithdrawValue_maxLtv (h : o.maxWithdrawValue d ltvPct thresholdPct .maxLtv = .ok most)
    (hne : most ≠ Fraction.zero) : o.borrowFactorAdjustedDebtValueSf.bits * 100 +
      most.bits * ltvPct ≤ o.allowedBorrowValueSf.bits * 100 := by
  simp only [Obligation.maxWithdrawValue, if_neg (by decide : ¬ LtvMaxWithdrawalCheck.maxLtv =
    .liquidationThreshold)] at h
  by_cases hdebt : o.allowedBorrowValueSf ≤ o.borrowFactorAdjustedDebtValueSf
  · rw [if_pos hdebt, pure_eq_ok] at h
    exact absurd h.symm hne
  have hlt := Fraction.lt_iff.1 (not_le.1 hdebt)
  rw [if_neg hdebt] at h
  by_cases hltv : ltvPct = 0
  · rw [hltv, Fin.val_zero, Nat.mul_zero, Nat.add_zero]
    exact Nat.mul_le_mul_right _ hlt.le
  rw [if_neg hltv] at h
  simp only [bind_eq_ok, Fraction.mulInt_eq_ok, Fraction.divInt_eq_ok,
    Fraction.bits_saturatingSub] at h
  obtain ⟨scaled, hscaled, -, hmost⟩ := h
  have hle : most.bits * ltvPct ≤ scaled.bits := hmost ▸ Nat.div_mul_le_self _ _
  omega

/-- The value of a part of the collateral, rounded down to a fixed-point number. -/
def ObligationCollateral.roundedValueOf (d : ObligationCollateral) (part : U64) : ℚ :=
  (d.marketValueSf.bits * part / d.depositedAmount : ℕ) / 2 ^ 60

theorem releasedAmount_covered (hd : d.depositedAmount ≠ 0) (hdebt : o.borrowsEmpty = false)
    (h : releasedAmount o d amount ltvPct thresholdPct .maxLtv = .ok n) :
    o.borrowFactorAdjustedDebtValueSf.toRat + d.roundedValueOf n * ((ltvPct : ℕ) / 100) ≤
      o.allowedBorrowValueSf.toRat := by
  obtain ⟨most, hmost, hne, hvalue⟩ := releasedAmount_bounded hd hdebt h
  have hpos : 0 < (d.depositedAmount : ℕ) := Nat.pos_of_ne_zero (mt Fin.val_eq_zero_iff.1 hd)
  have hshare : d.marketValueSf.bits * n / d.depositedAmount ≤ most.bits :=
    (Rounding.share_le_ceil_rate hpos (by norm_num)).trans hvalue
  have hbits : o.borrowFactorAdjustedDebtValueSf.bits * 100 +
      d.marketValueSf.bits * n / d.depositedAmount * ltvPct ≤ o.allowedBorrowValueSf.bits * 100 :=
    (Nat.add_le_add_left (Nat.mul_le_mul_right _ hshare) _).trans
      (maxWithdrawValue_maxLtv hmost hne)
  unfold ObligationCollateral.roundedValueOf Fraction.toRat
  generalize d.marketValueSf.bits * n / d.depositedAmount = value at hbits
  have hcast : (o.borrowFactorAdjustedDebtValueSf.bits : ℚ) * 100 + value * (ltvPct : ℕ) ≤
      o.allowedBorrowValueSf.bits * 100 := by
    exact_mod_cast hbits
  field_simp
  linarith

/-- The sums left after collateral is taken out: if nothing is left there is no debt, and otherwise
the loan-to-value is zero or below the threshold of a liquidation. -/
def Obligation.HealthyWithout (o : Obligation) (value : Fraction) (thresholdPct : U8) : Prop :=
  ∃ deposited, o.depositedValueSf.sub value = .ok deposited ∧
    (deposited = Fraction.zero → o.borrowFactorAdjustedDebtValueSf = Fraction.zero) ∧
    (deposited ≠ Fraction.zero → ∃ ltv removed unhealthy unhealthyLtv,
      o.borrowFactorAdjustedDebtValueSf.div deposited = .ok ltv ∧
      value.mul (Fraction.fromPercent thresholdPct.widen) = .ok removed ∧
      o.unhealthyBorrowValueSf.sub removed = .ok unhealthy ∧
      unhealthy.div deposited = .ok unhealthyLtv ∧
      (ltv ≠ Fraction.zero → ltv < unhealthyLtv))

theorem postWithdrawObligationInvariants_healthy {liquidity previous minimum : Fraction}
    (h : postWithdrawObligationInvariants liquidity o r thresholdPct previous minimum = .ok ()) :
    ∃ value, calculateMarketValueFromLiquidityAmount r liquidity = .ok value ∧
      o.HealthyWithout value thresholdPct := by
  simp only [postWithdrawObligationInvariants, ite_bind_seq_eq_ok, bind_eq_ok,
    Fraction.requireDisplaying_eq_ok] at h
  obtain ⟨value, hvalue, deposited, hdeposited, -, -, hcovered, h⟩ := h
  refine ⟨value, hvalue, deposited, hdeposited, ?_, ?_⟩
  · intro hzero
    by_contra hdebt
    apply hcovered
    exact ⟨hzero, Fraction.lt_iff.2 (Nat.pos_of_ne_zero (mt Fraction.eq_zero_iff.2 hdebt))⟩
  · intro hleft
    rw [if_pos hleft] at h
    simp only [bind_eq_ok, Fraction.requireDisplaying_eq_ok] at h
    obtain ⟨-, -, ltv, hltv, removed, hremoved, unhealthy, hunhealthy, unhealthyLtv, hlimit, hle⟩ :=
      h
    refine ⟨ltv, removed, unhealthy, unhealthyLtv, hltv, hremoved, hunhealthy, hlimit, ?_⟩
    intro hne
    exact not_le.1 fun hworse ↦ hle ⟨hworse, hne⟩

/-- A withdrawal from a position with debt takes out no more than its borrowing power allows, and
leaves it healthy. -/
theorem withdrawObligationCollateral_keepsHealthy
    (h : withdrawObligationCollateral market r o amount slot key check = .ok (r', o', n))
    (hdebt : o.borrowsEmpty = false) :
    ∃ i d group ltvPct thresholdPct, o.positionOfCollateralInDeposits key = .ok i ∧
      o.deposits[i]? = some d ∧ getElevationGroup o.elevationGroup market = .ok group ∧
      getMaxLtvAndLiquidationThreshold r group = (ltvPct, thresholdPct) ∧
      (check = .maxLtv → o.borrowFactorAdjustedDebtValueSf.toRat +
        d.roundedValueOf n * ((ltvPct : ℕ) / 100) ≤ o.allowedBorrowValueSf.toRat) ∧
      ∃ rate liquidity value, r.collateralExchangeRate = .ok rate ∧
        rate.fractionCollateralToLiquidity (Fraction.fromNum n) = .ok liquidity ∧
        calculateMarketValueFromLiquidityAmount r liquidity = .ok value ∧
        o.HealthyWithout value thresholdPct := by
  obtain ⟨-, i, d, ltvPct, thresholdPct, hcheck, hreleased, hrest⟩ :=
    withdrawObligationCollateral_eq_ok.1 h
  obtain ⟨hi, hd, hne, group, hgroup, hpcts⟩ := checkWithdrawal_spec hcheck
  refine ⟨i, d, group, ltvPct, thresholdPct, hi, hd, hgroup, hpcts, ?_, ?_⟩
  · rintro rfl
    exact releasedAmount_covered hne hdebt hreleased
  · simp only [releaseCollateral, bind_of_ite, bind_eq_ok, pure_eq_ok, unwrap_eq_ok,
      Prod.exists, Prod.mk.injEq] at hrest
    obtain ⟨o₁, kind, hwithdraw, r₁, -, rate, hrate, liquidity, hliquidity, s, -, _, hpost, rfl,
      rfl⟩ := hrest
    obtain ⟨_, _, rfl⟩ := withdrawObligationCollateral_retracked h
    obtain ⟨value, hvalue, hhealthy⟩ := postWithdrawObligationInvariants_healthy hpost
    refine ⟨rate, liquidity, value, hrate, hliquidity, hvalue, ?_⟩
    obtain ⟨d', -, ⟨-, -, rfl⟩ | ⟨rest, -, -, -, rfl⟩⟩ := withdraw_spec hwithdraw
    · exact hhealthy
    · exact hhealthy

namespace World

/-- A thousand tokens of collateral leave a loan with a debt. -/
theorem withdrawObligationCollateral_keepsHealthy_refreshedLoan :
    ∃ r o r' o' d rate liquidity value ltvPct thresholdPct,
      refreshedLoan.withdrawal 3 6 1000 .maxLtv = .ok (r, o, r', o', 1000) ∧
      o.deposits[0]? = some d ∧ o.borrowFactorAdjustedDebtValueSf.toRat +
        d.roundedValueOf 1000 * ((ltvPct : U8) / 100 : ℚ) ≤ o.allowedBorrowValueSf.toRat ∧
      r.collateralExchangeRate = .ok rate ∧
      rate.fractionCollateralToLiquidity (Fraction.fromNum 1000) = .ok liquidity ∧
      calculateMarketValueFromLiquidityAmount r liquidity = .ok value ∧
      o.HealthyWithout value thresholdPct := by
  rcases exists_eq_ok (x := refreshedLoan.withdrawal 3 6 1000 .maxLtv)
    (p := fun x ↦ decide (x.2.1.borrowsEmpty = false ∧ x.2.2.2.2 = 1000 ∧
      x.2.1.positionOfCollateralInDeposits 6 = .ok 0)) (by decide)
    with ⟨⟨r, o, r', o', n⟩, hwithdrawn, hstart⟩
  obtain ⟨hdebt, hn, hfirst⟩ := of_decide_eq_true hstart
  change n = 1000 at hn
  subst hn
  obtain ⟨-, -, h⟩ := withdrawal_eq_ok.1 hwithdrawn
  obtain ⟨i, d, -, ltvPct, thresholdPct, hi, hd, -, -, hcovered, rate, liquidity, value, hrate,
    hliquidity, hvalue, hhealthy⟩ := withdrawObligationCollateral_keepsHealthy h hdebt
  obtain rfl := Except.ok.inj (hfirst.symm.trans hi)
  exact ⟨r, o, r', o', d, rate, liquidity, value, ltvPct, thresholdPct, hwithdrawn, hd,
    hcovered rfl, hrate, hliquidity, hvalue, hhealthy⟩

/-- Half of a collateral's value can be borrowed. -/
def halfConfig : ReserveConfig := { plainConfig 500 with loanToValuePct := 50 }

/-- A price of twenty dollars and five of the smallest fractions. -/
def oddPrice : Option GetPriceResult :=
  some { price := ⟨20 * 2 ^ 60 + 5, by norm_num⟩, status := .allChecks, timestamp := 10 }

/-- A market whose second token has a decimal. -/
def decimalMarket : World :=
  opening .init 1 [(5, plainReserve (plainConfig 500)),
    (6, { Reserve.init 0 1 1 1 1000000 with config := halfConfig })]

/-- One dollar is borrowed against two units of collateral. -/
def oddLoan : World :=
  decimalMarket.after
    [(⟨1, 10⟩, .refreshReserve 5 unitPrice), (⟨1, 10⟩, .refreshReserve 6 oddPrice),
      (⟨1, 10⟩, .depositReserveLiquidity 6 2), (⟨1, 10⟩, .initObligation 0 7 0),
      (⟨1, 10⟩, .refreshObligation 0 [] []), (⟨1, 10⟩, .depositObligationCollateral 0 6 2),
      (⟨2, 10⟩, .refreshReserve 5 unitPrice), (⟨2, 10⟩, .refreshReserve 6 oddPrice),
      (⟨2, 10⟩, .refreshObligation 0 [6] []),
      (⟨2, 10⟩, .borrowObligationLiquidity 0 5 1 none []),
      (⟨2, 10⟩, .refreshReserve 5 unitPrice), (⟨2, 10⟩, .refreshObligation 0 [6, 5] [])]

/-- Half of an odd value is withdrawn, a quarter of the smallest fraction more than the debt
leaves unused. -/
theorem oddLoan_uncovered :
    Run Anything decimalMarket oddLoan ∧ ∃ r o r' o' d,
      oddLoan.withdrawal 2 6 1 .maxLtv = .ok (r, o, r', o', 1) ∧ o.deposits[0]? = some d ∧
      o.borrowsEmpty = false ∧ getElevationGroup o.elevationGroup oddLoan.lendingMarket = .ok none ∧
      r.config.loanToValuePct = 50 ∧
      o.allowedBorrowValueSf.toRat <
        o.borrowFactorAdjustedDebtValueSf.toRat + d.valueOf 1 * (50 / 100) := by
  refine ⟨run_after _ _ fun _ _ _ ↦ trivial, ?_⟩
  rcases exists_eq_ok (x := oddLoan.withdrawal 2 6 1 .maxLtv)
    (p := fun x ↦ decide (x.2.2.2.2 = 1 ∧ x.2.1.borrowsEmpty = false ∧
        getElevationGroup x.2.1.elevationGroup oddLoan.lendingMarket = .ok none ∧
        x.1.config.loanToValuePct = 50) &&
      (unwrap x.2.1.deposits[0]?).toOption.any fun d : ObligationCollateral ↦
        decide (x.2.1.allowedBorrowValueSf.toRat <
          x.2.1.borrowFactorAdjustedDebtValueSf.toRat + d.valueOf 1 * (50 / 100)))
    (by decide +kernel) with ⟨⟨r, o, r', o', n⟩, hwithdrawn, hboth⟩
  obtain ⟨hfacts, hslot⟩ := (Bool.and_eq_true _ _).mp hboth
  obtain ⟨rfl, hdebt, hgroup, hltv⟩ := of_decide_eq_true hfacts
  rcases exists_eq_ok hslot with ⟨d, hd, hmore⟩
  exact ⟨r, o, r', o', d, hwithdrawn, unwrap_eq_ok.1 hd, hdebt, hgroup, hltv,
    of_decide_eq_true hmore⟩

end World

end Klend
