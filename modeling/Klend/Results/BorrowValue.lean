import Klend.Lending.BorrowSpecs
import Klend.Results.BorrowLimit

/-! # The value of a borrow

An explicit amount is valued together with its fee; the largest amount is found by
dividing the price and the borrow factor out of the value that is left, and takes its
fee from within. In both cases the added debt stays within the allowed value.
-/

namespace Klend

section

variable {market : LendingMarket} {r r' : Reserve} {o o' : Obligation} {clock : Clock}
  {amount : U64} {key : Pubkey} {ost ost' : Option ReferrerTokenState} {rs rs' : Reserves}
  {iter : List Pubkey} {res : CalculateBorrowResult} {value remaining mv bfMv : Fraction}
  {bps : U16} {inGroup hasReferrer : Bool}

theorem calculateMarketValueFromLiquidityAmount_eq_ok :
    calculateMarketValueFromLiquidityAmount r value = .ok mv ↔
      (r.liquidity.mintDecimals : ℕ) ≤ 19 ∧
      value.bits * r.liquidity.marketPriceSf.bits / 2 ^ 60 < 2 ^ 128 ∧
      mv.bits = value.bits * r.liquidity.marketPriceSf.bits / 2 ^ 60 /
        10 ^ (r.liquidity.mintDecimals : ℕ) := by
  simp only [calculateMarketValueFromLiquidityAmount, bind_eq_ok, tenPow_eq_ok, Fraction.mul_eq_ok,
    Fraction.divInt_eq_ok]
  constructor
  · rintro ⟨_, ⟨hle, rfl⟩, v, hv, -, hmv⟩
    rw [← hv]
    exact ⟨hle, v.isLt, hmv⟩
  · rintro ⟨hle, hlt, hmv⟩
    exact ⟨_, ⟨hle, rfl⟩, ⟨_, hlt⟩, rfl, by positivity, hmv⟩

theorem borrowObligationLiquidity_valued
    (h : borrowObligationLiquidity market r o amount clock key ost rs iter =
      .ok (r', o', ost', rs', res)) :
    ∃ mv bfMv, calculateMarketValueFromLiquidityAmount r res.borrowAmountF = .ok mv ∧
      mv.mul (r.borrowFactorF (o.elevationGroup ≠ elevationGroupNone)) = .ok bfMv := by
  obtain ⟨hgroup, -⟩ := borrowObligationLiquidity_values h
  obtain ⟨available, outside, borrowed, fees, cap, rfl, -⟩ := borrowObligationLiquidity_reserve h
  obtain ⟨-, -, -, -, n, cap', l, tier, o₁, i, b, b₁, r₁, group, b₂, -, -, -, -, -, -, -, -, -,
    hpost, -⟩ := borrowObligationLiquidity_spec h
  simp only [postBorrowObligationInvariants, bind_eq_ok, hgroup] at hpost
  obtain ⟨mv, hmv, bfMv, hbfMv, -⟩ := hpost
  exact ⟨mv, bfMv, hmv, hbfMv⟩

/-- The amount of a borrow, valued as the obligation's debt is, stays within the value that was
left. -/
theorem Reserve.calculateBorrow_value_le
    (h : r.calculateBorrow amount value remaining bps inGroup hasReferrer = .ok res)
    (hmv : calculateMarketValueFromLiquidityAmount r res.borrowAmountF = .ok mv)
    (hbfMv : mv.mul (r.borrowFactorF inGroup) = .ok bfMv) : bfMv ≤ value := by
  obtain ⟨hdecimals, -, hmv⟩ := calculateMarketValueFromLiquidityAmount_eq_ok.1 hmv
  obtain ⟨decimals, hpow, hcases⟩ := calculateBorrow_cases h
  rw [Nat.mod_eq_of_lt (by omega)] at hpow
  rw [Fraction.mul_eq_ok, hmv, ← hpow] at hbfMv
  rcases hcases with ⟨-, scaled, atPrice, atFactor, n, hscaled, hprice, hfactor, hb, -⟩ |
    ⟨-, -, atPrice, perUnit, adjusted, -, -, hprice, hunit, hadjusted, hle⟩
  · -- the largest amount: the value is multiplied back out of what it was divided into
    rw [Fraction.mulInt_eq_ok] at hscaled
    rw [Fraction.div_eq_ok, hscaled] at hprice
    rw [Fraction.div_eq_ok, hprice.2] at hfactor
    have hle : res.borrowAmountF.bits ≤ atFactor.bits := by
      rw [hb, Fraction.bits_min, Fraction.bits_min]
      exact (min_le_left _ _).trans (min_le_left _ _)
    rw [hfactor.2] at hle
    rw [Fraction.le_iff, hbfMv]
    exact Rounding.revalue_le (hpow ▸ by positivity) (by norm_num) hle
  · -- an explicit amount: its value is what the program compares
    rw [Fraction.mul_eq_ok] at hprice hadjusted
    rw [Fraction.divInt_eq_ok, hprice] at hunit
    rw [hunit.2] at hadjusted
    rw [Fraction.le_iff, hbfMv, ← hadjusted]
    exact Fraction.le_iff.1 hle

theorem Reserve.calculateBorrow_leaving_le
    (h : r.calculateBorrow (Word.max 64) value remaining bps inGroup hasReferrer = .ok res) :
    (res.receiveAmount + res.borrowFee + res.referrerFee : ℕ) * 2 ^ 60 ≤ remaining.bits ∧
      (res.receiveAmount + res.borrowFee + res.referrerFee : ℕ) ≤ r.liquidity.availableAmount := by
  obtain ⟨-, -, ⟨-, -, -, atFactor, n, -, -, -, hb, -, hn, hsum⟩ | ⟨hne, -⟩⟩ :=
    calculateBorrow_cases h
  · rw [Fraction.toFloor_eq_ok, hb, Fraction.bits_min, Fraction.bits_min,
      Fraction.bits_fromNum] at hn
    rw [hsum, hn]
    omega
  · exact absurd rfl hne

/-- A borrow stays within the allowed value: the debt before it, with the market value of the whole
debt that it adds, the fee included. The largest amount also stays within the reserve. -/
theorem borrow_within_allowedBorrowValue
    (h : borrowObligationLiquidity market r o amount clock key ost rs iter =
      .ok (r', o', ost', rs', res)) :
    (∃ mv bfMv, calculateMarketValueFromLiquidityAmount r res.borrowAmountF = .ok mv ∧
      mv.mul (r.borrowFactorF (o.elevationGroup ≠ elevationGroupNone)) = .ok bfMv ∧
      o.borrowFactorAdjustedDebtValueSf.bits + bfMv.bits ≤ o.allowedBorrowValueSf.bits) ∧
    (amount = Word.max 64 →
      r.liquidity.totalBorrow.bits +
          (res.receiveAmount + res.borrowFee + res.referrerFee : ℕ) * 2 ^ 60 ≤
        (Fraction.fromNum r.config.borrowLimit).bits ∧
      (res.receiveAmount + res.borrowFee + res.referrerFee : ℕ) ≤ r.liquidity.availableAmount) := by
  obtain ⟨-, -, -, hcalc, n, cap, l, tier, o₁, i, b, b₁, r₁, group, b₂, -, -, -, -, -, -, -, -, -,
    -, -, hcapacity, -, hvalue, -⟩ := borrowObligationLiquidity_spec h
  rw [Ne, Fraction.eq_zero_iff, Fraction.bits_saturatingSub] at hcapacity
  rw [Ne, Obligation.remainingBorrowValue, Fraction.eq_zero_iff, Fraction.bits_saturatingSub]
    at hvalue
  constructor
  · obtain ⟨mv, bfMv, hmv, hbfMv⟩ := borrowObligationLiquidity_valued h
    have hle := Reserve.calculateBorrow_value_le hcalc hmv hbfMv
    rw [Fraction.le_iff, Obligation.remainingBorrowValue, Fraction.bits_saturatingSub] at hle
    exact ⟨mv, bfMv, hmv, hbfMv, by omega⟩
  · rintro rfl
    obtain ⟨hle, havailable⟩ := Reserve.calculateBorrow_leaving_le hcalc
    rw [Fraction.bits_saturatingSub] at hle
    exact ⟨by omega, havailable⟩

end

namespace World

/-- The largest amount, from a reserve that takes its fee from within. -/
theorem borrow_within_allowedBorrowValue_loan :
    ∃ o r r' o' ost' rs' res, beforeLoan.loadObligation 0 = .ok o ∧ beforeLoan.loadReserve 5 = .ok r ∧
      loan (Word.max 64) = .ok (r', o', ost', rs', res) ∧
      (∃ mv bfMv, calculateMarketValueFromLiquidityAmount r res.borrowAmountF = .ok mv ∧
        mv.mul (r.borrowFactorF (o.elevationGroup ≠ elevationGroupNone)) = .ok bfMv ∧
        o.borrowFactorAdjustedDebtValueSf.bits + bfMv.bits ≤ o.allowedBorrowValueSf.bits) ∧
      0 < res.borrowFee ∧
      (res.receiveAmount + res.borrowFee + res.referrerFee : ℕ) ≤ r.liquidity.availableAmount := by
  obtain ⟨⟨r', o', ost', rs', res⟩, hloan, hfee⟩ := exists_eq_ok (x := loan (Word.max 64))
    (p := fun x ↦ decide (0 < x.2.2.2.2.borrowFee)) (by decide)
  have h := hloan
  simp only [loan, bind_eq_ok] at h
  obtain ⟨o, ho, r, hr, h⟩ := h
  obtain ⟨hvalue, hmax⟩ := borrow_within_allowedBorrowValue h
  exact ⟨o, r, r', o', ost', rs', res, ho, hr, hloan, hvalue, of_decide_eq_true hfee,
    (hmax rfl).2⟩

end World

end Klend
