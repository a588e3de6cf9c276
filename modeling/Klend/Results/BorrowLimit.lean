import Klend.Accounting.ReserveOperations
import Klend.Lending.Runs

/-! # The borrow limit of a reserve

The limit is compared with the amount a borrower asks for, before the origination
fee is added to the debt. An amount that the program chooses itself stays within it.
-/

namespace Klend

/-- The fee on an explicit amount, added to the debt: at least one token, and rounded to the
nearest. -/
def ReserveFees.originationFee (f : ReserveFees) (amount : U64) : ℕ :=
  if f.borrowFeeSf = 0 then 0 else (max ((amount : ℕ) * f.borrowFeeSf) (2 ^ 60) + 2 ^ 59) / 2 ^ 60

theorem ReserveFees.calculateBorrowFees_exclusive {f : ReserveFees} {amount fee referralFee : U64}
    {bps : U16} {hasReferrer : Bool} (hamount : amount ≠ 0)
    (h : f.calculateBorrowFees (Fraction.fromNum amount) .exclusive bps hasReferrer =
      .ok (fee, referralFee)) : (fee : ℕ) + referralFee = f.originationFee amount := by
  have hpos : (0 : ℕ) < amount := Nat.pos_of_ne_zero fun h0 ↦ hamount (Fin.ext h0)
  unfold calculateBorrowFees calculateFees at h
  dsimp only at h
  split at h
  · next hrate =>
    have hfee : f.borrowFeeSf ≠ 0 := by
      rintro h0
      simp [h0, Fraction.lt_iff] at hrate
    simp only [bind_eq_ok, Fraction.mul_eq_ok, Fraction.toRound_eq_ok, Fraction.bits_max,
      bits_fromBitsU64, Fraction.bits_fromNum] at h
    obtain ⟨raw, hraw, -, -, total, htotal, h⟩ := h
    -- the referrer's share comes out of the total, however it is computed
    have hsplit : (fee : ℕ) + referralFee = total := by
      split at h
      · split at h
        · simp only [bind_eq_ok, pure_eq_ok, Word.sub_eq_ok, Prod.mk.injEq] at h
          obtain ⟨_, _, _, hsub, rfl, rfl⟩ := h
          exact hsub
        · simp only [bind_eq_ok, pure_eq_ok, Word.sub_eq_ok, Prod.mk.injEq] at h
          obtain ⟨_, _, _, _, _, hsub, rfl, rfl⟩ := h
          exact hsub
      · simp only [bind_eq_ok, pure_eq_ok, Word.sub_eq_ok, Prod.mk.injEq] at h
        obtain ⟨_, _, _, hsub, rfl, rfl⟩ := h
        exact hsub
    rw [originationFee, if_neg hfee, hsplit, htotal, hraw]
    have hone : ((1 : U64) : ℕ) = 1 := rfl
    rw [hone, one_mul, mul_right_comm, Nat.mul_div_cancel _ (by norm_num)]
  · next hrate =>
    have hfee : f.borrowFeeSf = 0 := by
      by_contra hne
      have : (0 : ℕ) < f.borrowFeeSf := Nat.pos_of_ne_zero fun h0 ↦ hne (Fin.ext h0)
      exact hrate ⟨by rw [Fraction.lt_iff]; simpa using this,
        by rw [Fraction.lt_iff]; simpa using hpos⟩
    simp only [pure_eq_ok, Prod.mk.injEq] at h
    obtain ⟨rfl, rfl⟩ := h
    rw [originationFee, if_pos hfee]
    rfl

section

variable {r r' : Reserve} {amount : U64}

/-- The amount lent out: within what remains of the limit when the program chooses it, the amount
asked for and its fee otherwise. -/
theorem Reserve.calculateBorrow_spec {value remaining : Fraction} {bps : U16}
    {inGroup hasReferrer : Bool} {res : CalculateBorrowResult} (hamount : amount ≠ 0)
    (h : r.calculateBorrow amount value remaining bps inGroup hasReferrer = .ok res) :
    (amount = Word.max 64 ∧ res.borrowAmountF ≤ remaining) ∨
    (amount ≠ Word.max 64 ∧ res.borrowAmountF.bits =
      (amount + r.config.fees.originationFee amount) * 2 ^ 60) := by
  unfold calculateBorrow at h
  by_cases hmax : amount = Word.max 64
  · simp only [if_pos hmax, bind_eq_ok, pure_eq_ok, Prod.exists] at h
    obtain ⟨-, -, -, -, -, -, f, -, -, -, -, -, -, -, -, -, -, -, rfl⟩ := h
    exact .inl ⟨hmax, (min_le_left _ _).trans (min_le_right _ _)⟩
  · simp only [if_neg hmax, bind_eq_ok, pure_eq_ok, Prod.exists, Word.add_eq_ok,
      Fraction.add_eq_ok, Fraction.bits_fromNum] at h
    obtain ⟨-, -, fee, ref, hfees, total, htotal, f, hf, -, -, -, -, -, -, -, -, rfl⟩ := h
    refine .inr ⟨hmax, ?_⟩
    rw [← ReserveFees.calculateBorrowFees_exclusive hamount hfees, ← htotal, add_mul]
    exact hf

variable {market : LendingMarket} {o o' : Obligation} {clock : Clock} {key : Pubkey}
  {ost ost' : Option ReferrerTokenState} {rs rs' : Reserves} {iter : List Pubkey}
  {res : CalculateBorrowResult}

theorem borrowObligationLiquidity_debt
    (h : borrowObligationLiquidity market r o amount clock key ost rs iter =
      .ok (r', o', ost', rs', res)) :
    r'.liquidity.totalBorrow.bits = r.liquidity.totalBorrow.bits + res.borrowAmountF.bits ∧
      r'.config.borrowLimit = r.config.borrowLimit := by
  obtain ⟨-, -, -, -, n, cap, l, tier, o₁, i, b, b₁, r₁, group, b₂, -, hl, -, -, -, hcredit, -,
    htrack, -, -⟩ := borrowObligationLiquidity_spec h
  obtain ⟨a, d, rfl, -, hd⟩ := Reserve.liquidity_borrow_spec hl
  obtain ⟨outside, rfl⟩ := updateOnBorrow_frame htrack
  obtain ⟨rfl, -⟩ | ⟨st, cu, un, p, a', -, -, rfl, -⟩ := creditReferrer_spec hcredit
  · exact ⟨hd, rfl⟩
  · exact ⟨hd, rfl⟩

/-- The debt of a reserve ends a borrow within the limit exactly when the program chose the amount,
or the amount asked for fits together with its fee. -/
theorem totalBorrow_le_borrowLimit_iff
    (h : borrowObligationLiquidity market r o amount clock key ost rs iter =
      .ok (r', o', ost', rs', res)) :
    r'.liquidity.totalBorrow ≤ Fraction.fromNum r'.config.borrowLimit ↔
      amount = Word.max 64 ∨
      r.liquidity.totalBorrow.bits + (amount + r.config.fees.originationFee amount) * 2 ^ 60 ≤
        (Fraction.fromNum r.config.borrowLimit).bits := by
  obtain ⟨hdebt, hlimit⟩ := borrowObligationLiquidity_debt h
  obtain ⟨-, -, -, hcalc, -, -, -, -, -, -, -, -, -, -, -, -, -, -, -, -, -, -, -, -, -, hamount,
    hremaining, -⟩ := borrowObligationLiquidity_spec h
  rw [Fraction.le_iff, hdebt, hlimit]
  obtain ⟨hmax, hle⟩ | ⟨hmax, hbits⟩ := Reserve.calculateBorrow_spec hamount hcalc
  · refine ⟨fun _ ↦ .inl hmax, fun _ ↦ ?_⟩
    rw [Ne, Fraction.eq_zero_iff, Fraction.bits_saturatingSub] at hremaining
    rw [Fraction.le_iff, Fraction.bits_saturatingSub] at hle
    omega
  · rw [hbits]
    exact ⟨.inr, fun h ↦ h.resolve_left hmax⟩

end

namespace World

/-- A reserve that may lend half a million, at a fee of one percent. -/
def feeConfig : ReserveConfig :=
  { plainConfig 500 with borrowLimit := 500000, fees := ⟨2 ^ 60 / 100, 0⟩ }

/-- The market just before an obligation with collateral borrows from its first reserve. -/
def beforeLoan : World := (plainOpening feeConfig).after (plainLoan.take 9)

/-- The borrow of `amount` that the obligation makes. -/
def loan (amount : U64) : Result (Reserve × Obligation × Option ReferrerTokenState × Reserves ×
    CalculateBorrowResult) := do
  let o ← beforeLoan.loadObligation 0
  let r ← beforeLoan.loadReserve 5
  Klend.borrowObligationLiquidity beforeLoan.lendingMarket r o amount ⟨2, 10⟩ 5 none
    (beforeLoan.reserves.hold 5) []

theorem totalBorrow_le_borrowLimit_iff_loan :
    ∃ r' o' ost' rs' res, loan (Word.max 64) = .ok (r', o', ost', rs', res) ∧
      r'.liquidity.totalBorrow ≤ Fraction.fromNum r'.config.borrowLimit := by
  obtain ⟨⟨r', o', ost', rs', res⟩, hloan, -⟩ :=
    exists_eq_ok (x := loan (Word.max 64)) (p := fun _ ↦ true) (by decide)
  have h := hloan
  simp only [loan, bind_eq_ok] at h
  obtain ⟨o, -, r, -, h⟩ := h
  exact ⟨r', o', ost', rs', res, hloan, (totalBorrow_le_borrowLimit_iff h).2 (.inl rfl)⟩

/-- An explicit amount within the limit, whose fee carries the debt above it. -/
theorem totalBorrow_passes_borrowLimit :
    (plainOpening feeConfig).Genesis ∧ Run Anything (plainOpening feeConfig) beforeLoan ∧
    ∃ r' o' ost' rs' res, loan 500000 = .ok (r', o', ost', rs', res) ∧
      Fraction.fromNum r'.config.borrowLimit < r'.liquidity.totalBorrow := by
  refine ⟨plainOpening_genesis (by rfl), run_after _ _ fun _ _ _ ↦ trivial, ?_⟩
  obtain ⟨⟨r', o', ost', rs', res⟩, h, hlt⟩ := exists_eq_ok (x := loan 500000)
    (p := fun x ↦ decide (Fraction.fromNum x.1.config.borrowLimit < x.1.liquidity.totalBorrow))
    (by decide)
  exact ⟨r', o', ost', rs', res, h, of_decide_eq_true hlt⟩

end World

end Klend
