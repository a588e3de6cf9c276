import Klend.Lending.VaultChecks
import Klend.Results.BorrowLimit

/-! # The funds of a borrow

The whole tokens of the debt are what the borrower receives, the fee and the
referrer's share of it. The share stays in the reserve, the rest leaves its vault.
-/

namespace Klend

section

variable {market : LendingMarket} {r r' : Reserve} {o o' : Obligation} {clock : Clock}
  {amount : U64} {key : Pubkey} {ost ost' : Option ReferrerTokenState} {rs rs' : Reserves}
  {iter : List Pubkey} {res : CalculateBorrowResult} {value remaining : Fraction} {bps : U16}
  {inGroup hasReferrer : Bool}

theorem validateReserveConfig_borrowFee {config : ReserveConfig}
    (h : validateReserveConfig config market key = .ok ()) :
    (config.fees.borrowFeeSf : ℕ) < 2 ^ 60 := by
  simp only [validateReserveConfig, bind_eq_ok, require_eq_ok] at h
  obtain ⟨-, -, -, -, -, -, -, -, -, hfee, -⟩ := h
  exact hfee

theorem Reserve.calculateBorrow_floor
    (h : r.calculateBorrow amount value remaining bps inGroup hasReferrer = .ok res) :
    res.borrowAmountF.bits / 2 ^ 60 = res.receiveAmount + res.borrowFee + res.referrerFee := by
  obtain ⟨-, -, ⟨-, -, -, -, n, -, -, -, -, -, hn, hsum⟩ | ⟨-, -, -, -, -, -, hbits, -⟩⟩ :=
    calculateBorrow_cases h
  · rw [Fraction.toFloor_eq_ok] at hn
    rw [hsum, hn]
  · rw [hbits, Nat.mul_div_cancel _ (by norm_num)]

theorem ReserveFees.calculateBorrowFees_parts {f : ReserveFees} {lent : Fraction}
    {mode : FeeCalculation} (hfee : (f.borrowFeeSf : ℕ) < 2 ^ 60) (hbps : bps ≤ fullBps)
    (hlent : lent ≤ Fraction.fromNum (Word.max 64)) :
    f.calculateBorrowFees lent mode bps hasReferrer = err .borrowTooSmall ∨
    ∃ fee referrerFee, f.calculateBorrowFees lent mode bps hasReferrer = .ok (fee, referrerFee) ∧
      (fee + referrerFee : ℕ) < 2 ^ 64 ∧
      (mode = .inclusive → (fee + referrerFee : ℕ) ≤ lent.bits / 2 ^ 60) := by
  rcases calculateFees_total hfee hbps hlent with hsmall | ⟨⟨fee, referrerFee⟩, hok⟩
  · exact .inl hsmall
  · refine .inr ⟨fee, referrerFee, hok, ?_⟩
    rcases calculateFees_spec hok with ⟨-, rfl, rfl⟩ | ⟨-, hless, hsum, -⟩
    · exact ⟨by decide, fun _ ↦ Nat.zero_le _⟩
    · rw [hsum]
      constructor
      · rw [Fraction.le_iff, Fraction.bits_fromNum, Word.max_val] at hlent
        unfold totalFee
        omega
      · rintro rfl
        exact totalFee_inclusive_le hfee hless

/-- The funds of a borrow add up: what is owed is what left the reserve and what stays in it for
the referrer, no fee of a validated configuration fails on the way, and the vault agrees with the
reserve after the transfers if it held the reserve's liquidity before. -/
theorem borrow_funds_addUp
    (h : borrowObligationLiquidity market r o amount clock key ost rs iter =
      .ok (r', o', ost', rs', res)) :
    res.borrowAmountF.bits / 2 ^ 60 = res.receiveAmount + res.borrowFee + res.referrerFee ∧
    (r'.liquidity.availableAmount + (res.receiveAmount + res.borrowFee) : ℕ) =
      r.liquidity.availableAmount ∧
    r'.liquidity.accumulatedReferrerFeesSf.bits =
      r.liquidity.accumulatedReferrerFeesSf.bits + res.referrerFee * 2 ^ 60 ∧
    r'.liquidity.borrowedAmountSf.bits =
      r.liquidity.borrowedAmountSf.bits + res.borrowAmountF.bits ∧
    (validateReserveConfig r.config market key = .ok () → market.Validated →
      ∀ (lent : Fraction) (mode : FeeCalculation) (hasReferrer : Bool),
        lent ≤ Fraction.fromNum (Word.max 64) →
        r.config.fees.calculateBorrowFees lent mode market.referralFeeBps hasReferrer =
          err .borrowTooSmall ∨
        ∃ fee referrerFee, r.config.fees.calculateBorrowFees lent mode market.referralFeeBps
            hasReferrer = .ok (fee, referrerFee) ∧
          (fee + referrerFee : ℕ) < 2 ^ 64 ∧
          (mode = .inclusive → (fee + referrerFee : ℕ) ≤ lent.bits / 2 ^ 60)) ∧
    ∀ vault : U64, r.liquidity.availableAmount ≤ vault ↔
      ∃ vault', borrowAndTransfer market r o amount clock key ost rs iter vault =
        .ok ((r', o', ost', rs', res), vault') := by
  have hfloor : res.borrowAmountF.bits / 2 ^ 60 =
      res.receiveAmount + res.borrowFee + res.referrerFee := by
    obtain ⟨-, -, -, hcalc, -⟩ := borrowObligationLiquidity_spec h
    exact Reserve.calculateBorrow_floor hcalc
  obtain ⟨available, outside, borrowed, fees, cap, hr', hborrowed, havailable, hfees⟩ :=
    borrowObligationLiquidity_reserve h
  have hleft : (r'.liquidity.availableAmount + (res.receiveAmount + res.borrowFee) : ℕ) =
      r.liquidity.availableAmount := by
    rw [hr']
    show (available + (res.receiveAmount + res.borrowFee) : ℕ) = _
    omega
  refine ⟨hfloor, hleft, by rw [hr']; exact hfees, by rw [hr']; exact hborrowed, ?_, fun vault ↦ ?_⟩
  · intro hvalid hmarket lent mode hasReferrer hlent
    exact ReserveFees.calculateBorrowFees_parts (validateReserveConfig_borrowFee hvalid)
      hmarket.referralFee hlent
  · simp only [borrowAndTransfer, h, ok_bind, bind_eq_ok, pure_eq_ok, sendOriginationFees_eq_ok,
      transferOut_eq_ok, Word.add_eq_ok, Prod.mk.injEq, true_and]
    constructor
    · intro hle
      rw [Fin.le_def] at hle
      refine ⟨⟨vault - (res.borrowFee + res.receiveAmount), by omega⟩,
        ⟨vault - res.borrowFee, by omega⟩, by dsimp only; omega,
        ⟨vault - (res.borrowFee + res.receiveAmount), by omega⟩, by dsimp only; omega,
        ⟨res.borrowFee + res.receiveAmount, by omega⟩, rfl, (), ?_, rfl⟩
      exact (subtractiveChecks_eq_ok (by dsimp only; omega) (by dsimp only; omega)).2 hle
    · rintro ⟨vault', paid, hpaid, left, hreceived, total, htotal, u, hchecks, -⟩
      exact (subtractiveChecks_eq_ok (by omega) (by omega)).1 hchecks

end

namespace World

/-- A borrow with a fee, and the accounts it is made with. -/
theorem borrow_funds_addUp_loan :
    ∃ o r r' o' ost' rs' res, beforeLoan.loadObligation 0 = .ok o ∧ beforeLoan.loadReserve 5 = .ok r ∧
      loan 400000 = .ok (r', o', ost', rs', res) ∧ 0 < res.borrowFee ∧
      res.borrowAmountF.bits / 2 ^ 60 = res.receiveAmount + res.borrowFee + res.referrerFee ∧
      (r'.liquidity.availableAmount + (res.receiveAmount + res.borrowFee) : ℕ) =
        r.liquidity.availableAmount ∧
      ∃ vault', borrowAndTransfer beforeLoan.lendingMarket r o 400000 ⟨2, 10⟩ 5 none
        (beforeLoan.reserves.hold 5) [] r.liquidity.availableAmount =
          .ok ((r', o', ost', rs', res), vault') := by
  obtain ⟨⟨r', o', ost', rs', res⟩, hloan, hfee⟩ := exists_eq_ok (x := loan 400000)
    (p := fun x ↦ decide (0 < x.2.2.2.2.borrowFee)) (by decide)
  have h := hloan
  simp only [loan, bind_eq_ok] at h
  obtain ⟨o, ho, r, hr, h⟩ := h
  obtain ⟨hfloor, hleft, -, -, -, hvault⟩ := borrow_funds_addUp h
  exact ⟨o, r, r', o', ost', rs', res, ho, hr, hloan, of_decide_eq_true hfee, hfloor, hleft,
    (hvault r.liquidity.availableAmount).1 le_rfl⟩

end World

end Klend
