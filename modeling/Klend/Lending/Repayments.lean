import Klend.Lending.Operations

/-! # The parts of a repayment

A repayment chooses the debt it settles, books it in the reserve and the obligation, and
checks the values that are left.
-/

namespace Klend

/-- The bookings of `repayObligationLiquidity`: the withdrawal cap, the debt trackers, the reserve's
balances and the obligation's slot. -/
def bookRepayment (repayReserve : Reserve) (obligation : Obligation) (clock : Clock)
    (liquidityIndex : ℕ) (settleAmount : Fraction) (repayAmount : U64) (reserves : Reserves)
    (depositReservesIter : List Pubkey) : Result (Reserve × Obligation × Reserves) := do
  let timestamp ← clock.timestamp
  let debtWithdrawalCap ←
    repayReserve.config.debtWithdrawalCap.subFromWithdrawalAccum repayAmount timestamp
  let repayReserve := { repayReserve with
    config := { repayReserve.config with debtWithdrawalCap } }
  let (obligation, repayReserve, reserves) ← updateElevationGroupDebtTrackersOnRepay repayAmount
    obligation liquidityIndex repayReserve reserves depositReservesIter
  let repaid ← repayReserve.liquidity.repay repayAmount settleAmount
  let obligation ← obligation.repay settleAmount liquidityIndex
  pure ({ repayReserve with liquidity := repaid }.markStale, obligation.updateHasDebt.markStale,
    reserves)

variable {market : LendingMarket} {r r' : Reserve} {o o' : Obligation} {amount n : U64}
  {clock : Clock} {key : Pubkey} {rs rs' : Reserves} {iter : List Pubkey}

theorem repayObligationLiquidity_eq_ok :
    repayObligationLiquidity r o clock amount key market rs iter = .ok (r', o', rs', n) ↔
      amount ≠ 0 ∧ (r.lastUpdate.stale = false ∧ r.lastUpdate.slot = clock.slot) ∧
      (o.lastUpdate.stale = false ∧ o.lastUpdate.slot = clock.slot) ∧
      ∃ b i b₁ settle s, o.findLiquidityInBorrows key = .ok (b, i) ∧
        b.borrowedAmountSf ≠ Fraction.zero ∧
        b.accrueInterest r.liquidity.cumulativeBorrowRateBsf = .ok b₁ ∧
        Reserve.calculateRepay amount b₁.borrowedAmountSf = .ok ⟨settle, n⟩ ∧ n ≠ 0 ∧
        bookRepayment r { o with borrows := o.borrows.set i b₁ } clock i settle n rs iter =
          .ok (r', o', rs') ∧
        o'.borrows[i]? = some s ∧
        postRepayObligationInvariants settle o' r' s.marketValueSf
          market.minNetValueInObligationSf = .ok () := by
  simp only [repayObligationLiquidity, bookRepayment, bind_eq_ok, require_eq_ok,
    LastUpdate.requireFresh_eq_ok, PriceStatusFlags.contains_none, pure_eq_ok, unwrap_eq_ok,
    Prod.exists, Prod.mk.injEq]
  constructor
  · rintro ⟨-, hamount, -, ⟨hr1, hr2, -⟩, -, ⟨ho1, ho2, -⟩, b, i, hfind, -, hne, b₁, hb₁,
      ⟨settle, m⟩, hcalc, -, hn, ts, hts, cap, hcap, o₁, r₁, rs₁, htrack, l, hl, o₂, ho₂, s, hs, _,
      hpost, rfl, rfl, rfl, rfl⟩
    exact ⟨hamount, ⟨hr1, hr2⟩, ⟨ho1, ho2⟩, b, i, b₁, settle, s, hfind, hne, hb₁, hcalc, hn,
      ⟨ts, hts, cap, hcap, o₁, r₁, rs₁, htrack, l, hl, o₂, ho₂, rfl, rfl, rfl⟩, hs, hpost⟩
  · rintro ⟨hamount, ⟨hr1, hr2⟩, ⟨ho1, ho2⟩, b, i, b₁, settle, s, hfind, hne, hb₁, hcalc, hn,
      ⟨ts, hts, cap, hcap, o₁, r₁, rs₁, htrack, l, hl, o₂, ho₂, rfl, rfl, rfl⟩, hs, hpost⟩
    exact ⟨(), hamount, (), ⟨hr1, hr2, trivial⟩, (), ⟨ho1, ho2, trivial⟩, b, i, hfind, (), hne, b₁,
      hb₁, ⟨settle, n⟩, hcalc, (), hn, ts, hts, cap, hcap, o₁, r₁, rs₁, htrack, l, hl, o₂, ho₂, s,
      hs, (), hpost, rfl, rfl, rfl, rfl⟩

end Klend
