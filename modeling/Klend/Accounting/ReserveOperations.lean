import Klend.Accounting.Evolution
import Klend.Lending.OperationSpecs

/-! # Operations on a single reserve

Deposits, redemptions, fee withdrawals, flash loans and the two limit clocks, each
as a move of the reserve's books.
-/

namespace Klend

theorem Clock.timestamp_eq_ok {clock : Clock} {ts : U64} (h : clock.timestamp = .ok ts) :
    (ts : ℕ) = clock.unixTimestamp.toNat := by
  unfold timestamp at h
  split at h
  · exact Word.fit_eq_ok.1 h
  · simp at h

namespace Reserve

variable {t : ℕ} {S F : Books → ℕ → Prop} {r r' : Reserve} {c : U64} {ts : U64}

theorem updateCrossedTimestamp_eq {crossed : Bool} {p : Prop} [Decidable p]
    (h : crossed = true ↔ p) (clk ts : U64) :
    (updateCrossedTimestamp crossed clk ts : ℕ) = Books.clockAfter p clk ts := by
  unfold updateCrossedTimestamp Books.clockAfter
  by_cases hp : p
  · rw [if_pos hp, if_pos (h.2 hp)]
    by_cases h0 : clk = 0
    · rw [if_pos h0, if_pos (Fin.val_eq_zero_iff.2 h0)]
    · rw [if_neg h0, if_neg (mt Fin.val_eq_zero_iff.1 h0)]
  · rw [if_neg hp, if_neg (mt h.1 hp)]
    rfl

theorem refreshReserveLimitTimestamps_spec (h : refreshReserveLimitTimestamps r ts = .ok r') :
    ∃ depositClock borrowClock : U64,
      r' = { r with liquidity := { r.liquidity with
        depositLimitCrossedTimestamp := depositClock
        borrowLimitCrossedTimestamp := borrowClock } } ∧
      ∀ c, (depositClock : ℕ) = Books.clockAfter (r.books c).supplyCrossed
          (r.books c).depositClock ts ∧
        (borrowClock : ℕ) = Books.clockAfter (r.books c).debtCrossed (r.books c).borrowClock ts := by
  simp only [refreshReserveLimitTimestamps, updateDepositLimitCrossedTimestamp,
    depositLimitCrossed, bind_eq_ok, pure_eq_ok] at h
  obtain ⟨r₁, ⟨crossed, ⟨x, hx, hcrossed⟩, rfl⟩, rfl⟩ := h
  refine ⟨_, _, rfl, fun c ↦ ⟨?_, ?_⟩⟩
  · refine updateCrossedTimestamp_eq ?_ _ _
    rw [← hcrossed, decide_eq_true_eq, Fraction.lt_iff, Books.supplyCrossed,
      (books_of_totalSupply (n := c) hx).2, Fraction.bits_fromNum, unit_eq]
    rfl
  · refine updateCrossedTimestamp_eq ?_ _ _
    simp only [borrowLimitCrossed, ReserveLiquidity.totalBorrow, decide_eq_true_eq,
      Fraction.lt_iff, Books.debtCrossed, Fraction.bits_fromNum, unit_eq, books]

theorem refreshReserveLimitTimestamps_moves (ht : (ts : ℕ) = t)
    (h : refreshReserveLimitTimestamps r ts = .ok r') : Moves t S F r c r' c := by
  obtain ⟨dc, bc, rfl, hclocks⟩ := refreshReserveLimitTimestamps_spec h
  subst ht
  exact ⟨.of_effect (.clocks _ _ _ ⟨(hclocks c).1, (hclocks c).2⟩) (.refl _) rfl rfl, rfl, rfl⟩

section Deposits

variable {clock : Clock} {amount : U64}

theorem depositReserveLiquidity_spec {result : DepositLiquidityResult}
    (h : Klend.depositReserveLiquidity r clock amount = .ok (r', result)) :
    ∃ (available shares : U64) (cap : WithdrawalCaps),
      r.computeDepositableAmountAndMintedCollateral amount = .ok result ∧
      (available : ℕ) = r.liquidity.availableAmount + result.liquidityAmount ∧
      (shares : ℕ) = r.collateral.mintTotalSupply + result.collateralAmount ∧
      r' = Reserve.markStale { r with
        liquidity := { r.liquidity with availableAmount := available }
        collateral := { mintTotalSupply := shares }
        config := { r.config with depositWithdrawalCap := cap } } := by
  simp only [Klend.depositReserveLiquidity, depositLiquidity, ReserveLiquidity.deposit,
    ReserveCollateral.mint, bind_eq_ok, pure_eq_ok, require_eq_ok, okOr_eq_ok,
    Word.checkedAdd_eq_some, Prod.mk.injEq] at h
  obtain ⟨-, -, -, -, res, hres, -, -, -, -, -, -, -, -, cap, -, r₁,
    ⟨l, ⟨a, ha, rfl⟩, m, ⟨s, hs, rfl⟩, rfl⟩, rfl, rfl⟩ := h
  exact ⟨a, s, cap, hres, ha, hs, rfl⟩

theorem depositReserveLiquidity_moves {result : DepositLiquidityResult} {c' : U64}
    (h : Klend.depositReserveLiquidity r clock amount = .ok (r', result))
    (hc : (c' : ℕ) = c + result.collateralAmount) : Moves t S F r c r' c' := by
  obtain ⟨a, s, cap, hres, ha, hs, rfl⟩ := depositReserveLiquidity_spec h
  obtain ⟨hcov, hprice⟩ := computeDepositable_price hres
  refine ⟨.of_effect ?_ rfl rfl rfl, rfl, rfl⟩
  have heffect := Books.Effect.deposit (t := t) (S := S) (F := F) (r.books c)
    result.liquidityAmount result.collateralAmount hcov hprice
  convert heffect using 1
  ext <;> simp [books, Reserve.markStale, ha, hs, hc]

theorem redeemReserveCollateral_spec {x : U64} {addToCaps : Bool}
    (h : Klend.redeemReserveCollateral r amount clock addToCaps = .ok (r', x)) :
    ∃ (r₁ r₂ : Reserve) (ts : U64) (cap : WithdrawalCaps),
      r.redeemCollateral amount = .ok (r₁, x) ∧ clock.timestamp = .ok ts ∧
      refreshReserveLimitTimestamps r₁ ts = .ok r₂ ∧
      r' = Reserve.markStale { r₂ with
        config := { r₂.config with depositWithdrawalCap := cap } } := by
  simp only [Klend.redeemReserveCollateral, bind_eq_ok, Prod.exists] at h
  obtain ⟨-, -, -, -, r₁, y, hredeem, ts, hts, r₂, htouch, h⟩ := h
  split at h
  · simp only [bind_eq_ok, pure_eq_ok, Prod.mk.injEq] at h
    obtain ⟨cap, -, rfl, rfl⟩ := h
    exact ⟨r₁, r₂, ts, cap, hredeem, hts, htouch, rfl⟩
  · simp only [pure_eq_ok, Prod.mk.injEq] at h
    obtain ⟨rfl, rfl⟩ := h
    exact ⟨r₁, r₂, ts, r₂.config.depositWithdrawalCap, hredeem, hts, htouch, rfl⟩

theorem redeemReserveCollateral_moves {x : U64} {addToCaps : Bool} {c' : U64}
    (ht : t = clock.unixTimestamp.toNat)
    (h : Klend.redeemReserveCollateral r amount clock addToCaps = .ok (r', x))
    (hc : (c' : ℕ) + amount = c) : Moves t S F r c r' c' := by
  obtain ⟨r₁, r₂, ts, cap, hredeem, hts, htouch, rfl⟩ := redeemReserveCollateral_spec h
  obtain ⟨a, s, rfl, ha, hs, hcov, hprice⟩ := redeemCollateral_spec (n := c) hredeem
  obtain ⟨dc, bc, rfl, hclocks⟩ := refreshReserveLimitTimestamps_spec htouch
  have htime : t = ts := by rw [ht, Clock.timestamp_eq_ok hts]
  subst htime
  exact ⟨.of_effect (.redeem _ _ _ _ _ _ x amount hcov ha hs hc hprice
    ⟨(hclocks c').1, (hclocks c').2⟩) rfl rfl rfl, rfl, rfl⟩

end Deposits

section Debt

variable {l l' : ReserveLiquidity} {f : Fraction} {x : U64}

theorem liquidity_borrow_spec (h : l.borrow f = .ok l') :
    ∃ (available : U64) (borrowed : Fraction),
      l' = { l with availableAmount := available, borrowedAmountSf := borrowed } ∧
      (available : ℕ) + f.bits / unit = l.availableAmount ∧
      borrowed.bits = l.borrowedAmountSf.bits + f.bits := by
  simp only [ReserveLiquidity.borrow, bind_eq_ok, pure_eq_ok, require_eq_ok,
    Fraction.toFloor_eq_ok, Word.sub_eq_ok, Fraction.add_eq_ok] at h
  obtain ⟨n, hn, -, -, a, ha, d, hd, rfl⟩ := h
  exact ⟨a, d, rfl, by rw [unit_eq, ← hn]; exact ha, hd⟩

theorem liquidity_repay_spec (h : l.repay x f = .ok l') :
    ∃ (available : U64) (borrowed : Fraction),
      l' = { l with availableAmount := available, borrowedAmountSf := borrowed } ∧
      (available : ℕ) = l.availableAmount + x ∧
      borrowed.bits = l.borrowedAmountSf.bits - f.bits := by
  simp only [ReserveLiquidity.repay, bind_eq_ok, pure_eq_ok, okOr_eq_ok,
    Word.checkedAdd_eq_some, Fraction.checkedSub_eq_some, Fraction.bits_min] at h
  obtain ⟨a, ha, d, hd, rfl⟩ := h
  exact ⟨a, d, rfl, ha, by omega⟩

theorem borrow_moves (cap : WithdrawalCaps) (h : r.liquidity.borrow f = .ok l') :
    Moves t S F r c { r with
      liquidity := l', config := { r.config with debtWithdrawalCap := cap } } c := by
  obtain ⟨a, d, rfl, ha, hd⟩ := liquidity_borrow_spec h
  refine ⟨.of_effect ?_ rfl rfl rfl, rfl, rfl⟩
  have heffect := Books.Effect.borrow (t := t) (S := S) (F := F) (r.books c)
    a f.bits ha
  convert heffect using 1
  ext <;> simp [books, hd]

theorem repay_moves (h : r.liquidity.repay x f = .ok l') (hpaid : f.bits ≤ x * unit)
    (hS : S (r.books c) f.bits) : Moves t S F r c { r with liquidity := l' } c := by
  obtain ⟨a, d, rfl, ha, hd⟩ := liquidity_repay_spec h
  refine ⟨.of_effect ?_ rfl rfl rfl, rfl, rfl⟩
  have heffect := Books.Effect.repay (t := t) (F := F) (r.books c) x f.bits hpaid hS
  convert heffect using 1
  ext <;> simp [books, ha, hd]

end Debt

section Fees

variable {clock : Clock} {slot amount n : U64} {market : LendingMarket}
  {st st' : ReferrerTokenState} {ost ost' : Option ReferrerTokenState} {y : Fraction}

/-- Books that differ only in available tokens and claims, by the same amount. -/
theorem fees_moves {l' : ReserveLiquidity}
    (hframe : l' = { r.liquidity with
      availableAmount := l'.availableAmount
      accumulatedProtocolFeesSf := l'.accumulatedProtocolFeesSf
      accumulatedReferrerFeesSf := l'.accumulatedReferrerFeesSf
      pendingReferrerFeesSf := l'.pendingReferrerFeesSf })
    (hequity : (Reserve.books { r with liquidity := l' } c).available * unit + (r.books c).claims =
      (r.books c).available * unit + (Reserve.books { r with liquidity := l' } c).claims) :
    Moves t S F r c { r with liquidity := l' } c := by
  have heffect := Books.Effect.fees (t := t) (S := S) (F := F) (r.books c)
    _ _ hequity
  refine ⟨.of_effect ?_ (.refl _) rfl (by rw [hframe]), rfl, rfl⟩
  convert heffect using 1
  rw [hframe]
  rfl

theorem redeemFees_moves (h : Klend.redeemFees r slot = .ok (r', n)) :
    Moves t S F r c r' c := by
  simp only [Klend.redeemFees, ReserveLiquidity.redeemFees, bind_eq_ok, pure_eq_ok, okOr_eq_ok,
    Word.checkedSub_eq_some, Fraction.checkedSub_eq_some, Fraction.bits_fromNum,
    Prod.mk.injEq] at h
  obtain ⟨-, -, w, -, -, -, l, ⟨a, ha, p, hp, rfl⟩, rfl, rfl⟩ := h
  refine Moves.markStale (fees_moves rfl ?_)
  simp only [books, unit_eq]
  omega

theorem withdrawReferrerFees_spec (h : Klend.withdrawReferrerFees r slot st = .ok (r', st', n)) :
    ∃ (available : U64) (accumulated unclaimed : Fraction),
      r' = Reserve.markStale { r with liquidity := { r.liquidity with
        availableAmount := available, accumulatedReferrerFeesSf := accumulated } } ∧
      st' = { st with amountUnclaimedSf := unclaimed } ∧
      (available : ℕ) + n = r.liquidity.availableAmount ∧
      accumulated.bits + n * 2 ^ 60 = r.liquidity.accumulatedReferrerFeesSf.bits ∧
      unclaimed.bits + n * 2 ^ 60 = st.amountUnclaimedSf.bits := by
  simp only [Klend.withdrawReferrerFees, ReserveLiquidity.withdrawReferrerFees, bind_eq_ok,
    pure_eq_ok, okOr_eq_ok, Word.checkedSub_eq_some, Fraction.checkedSub_eq_some,
    Fraction.bits_fromNum, Prod.exists, Prod.mk.injEq] at h
  obtain ⟨-, -, w, -, -, -, l, st₁, ⟨a, ha, p, hp, u, hu, rfl, rfl⟩, rfl, rfl, rfl⟩ := h
  exact ⟨a, p, u, rfl, rfl, ha, hp, hu⟩

theorem withdrawReferrerFees_moves
    (h : Klend.withdrawReferrerFees r slot st = .ok (r', st', n)) : Moves t S F r c r' c := by
  obtain ⟨a, p, u, rfl, -, ha, hp, -⟩ := withdrawReferrerFees_spec h
  refine Moves.markStale (fees_moves rfl ?_)
  simp only [books, unit_eq]
  omega

theorem creditReferrer_moves (h : creditReferrer market r ost n = .ok (r', ost')) :
    Moves t S F r c r' c := by
  obtain ⟨rfl, -⟩ | ⟨st, cu, un, p, a, -, -, rfl, -, -, hp, ha⟩ := creditReferrer_spec h
  · exact .refl r' c
  · refine fees_moves rfl ?_
    simp only [books, unit_eq]
    omega

/-- Referral fees only move between the three fee accounts. -/
theorem accumulateReferrerFees_moves {key ref : Pubkey} {bps : U16} {slots : U64}
    {debt prev : Fraction} {hasRef : Bool} {states states' : ReferrerTokenStates}
    {it it' : List ReferrerTokenStateKey}
    (h : accumulateReferrerFees key r ref bps slots debt prev hasRef states it =
      .ok (r', states', it')) : Moves t S F r c r' c := by
  obtain ⟨rfl, -, -⟩ | ⟨fee, pending, hpending, ⟨k, st, c, n, p, -, -, -, -, -, hp, -, rfl⟩ |
    ⟨p, hp, -, -, rfl⟩⟩ := accumulateReferrerFees_spec h
  · exact .refl r' _
  · refine fees_moves rfl ?_
    simp only [books]
    omega
  · refine fees_moves rfl ?_
    simp only [books]
    omega

theorem flashBorrowReserveLiquidity_moves
    (h : Klend.flashBorrowReserveLiquidity r amount = .ok r') : Moves t S F r c r' c := by
  simp only [Klend.flashBorrowReserveLiquidity, bind_eq_ok, pure_eq_ok, require_eq_ok] at h
  obtain ⟨-, -, l, hl, rfl⟩ := h
  exact (borrow_moves r.config.debtWithdrawalCap hl).markStale

theorem flashRepayReserveLiquidity_spec {ts fee₁ fee₂ : U64}
    (h : Klend.flashRepayReserveLiquidity market r amount ts ost = .ok (r', ost', fee₁, fee₂)) :
    ∃ (l : ReserveLiquidity) (r₁ : Reserve) (fee : U64),
      r.liquidity.repay amount (Fraction.fromNum amount) = .ok l ∧
      refreshReserveLimitTimestamps { r with liquidity := l } ts = .ok r₁ ∧
      creditReferrer market r₁.markStale ost fee = .ok (r', ost') := by
  simp only [Klend.flashRepayReserveLiquidity, bind_eq_ok, pure_eq_ok, Prod.exists,
    Prod.mk.injEq] at h
  obtain ⟨fp, fr, -, l, hl, r₁, htouch, r₂, ost₁, hcredit, -, -, rfl, rfl, -⟩ := h
  exact ⟨l, r₁, fr, hl, htouch, hcredit⟩

theorem flashRepayReserveLiquidity_moves {ts fee₁ fee₂ : U64} (ht : t = ts)
    (h : Klend.flashRepayReserveLiquidity market r amount ts ost = .ok (r', ost', fee₁, fee₂)) :
    Moves t S F r c r' c := by
  obtain ⟨l, r₁, fr, hl, htouch, hcredit⟩ := flashRepayReserveLiquidity_spec h
  obtain ⟨a, d, rfl, ha, hd⟩ := liquidity_repay_spec hl
  obtain ⟨dc, bc, rfl, hclocks⟩ := refreshReserveLimitTimestamps_spec htouch
  refine Moves.trans (Moves.markStale ?_) (creditReferrer_moves hcredit)
  subst ht
  refine ⟨.of_effect ?_ (.refl _) rfl rfl, rfl, rfl⟩
  have hbooks : Reserve.books { r with liquidity := { r.liquidity with
      availableAmount := a, borrowedAmountSf := d
      depositLimitCrossedTimestamp := dc, borrowLimitCrossedTimestamp := bc } } c =
      { r.books c with
        available := (r.books c).available + amount
        borrowed := (r.books c).borrowed - amount * unit
        depositClock := dc, borrowClock := bc } := by
    ext <;> simp [books, ha, hd, unit_eq]
  have htouched : Books.Touched ts (r.books c) (Reserve.books { r with liquidity :=
      { r.liquidity with
        availableAmount := a, borrowedAmountSf := d
        depositLimitCrossedTimestamp := dc, borrowLimitCrossedTimestamp := bc } } c) :=
    ⟨(hclocks c).1, (hclocks c).2⟩
  rw [hbooks] at htouched ⊢
  exact .flashRepay _ _ _ _ htouched

end Fees

end Reserve

end Klend
