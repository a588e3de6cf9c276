import Klend.Accounting.ReserveOperations
import Klend.Lending.RefreshSpecs
import Klend.Referrals.Balance

/-! # Operations on referral fees

Only borrowing, repaying a flash loan and refreshing an obligation credit a referrer,
and only a withdrawal pays one; every other operation keeps the accumulated fees.
-/

namespace Klend

section Keeps

variable {market : LendingMarket} {r r' : Reserve} {o o' : Obligation} {amount slot n : U64}
  {clock : Clock} {key : Pubkey} {rs rs' : Reserves} {iter : List Pubkey}

theorem refreshReserve_keeps {price : Option GetPriceResult} {bps : U16}
    (h : refreshReserve r clock price bps = .ok r') : r.KeepsReferrals r' := by
  obtain ⟨r₁, p, ts, status, hr₁, rfl⟩ := Reserve.refreshReserve_spec h
  obtain ⟨-, ⟨-, rfl⟩ | ⟨n, rate, l, -, -, -, hl, rfl⟩⟩ := Reserve.accrueInterest_cases hr₁
  · rfl
  · obtain ⟨_, _, _, _, _, -, -, -, hcompound⟩ := ReserveLiquidity.compoundInterest_spec hl
    show l.accumulatedReferrerFeesSf = _
    rw [hcompound.frame]

theorem refreshReserveLimitTimestamps_keeps {ts : U64}
    (h : refreshReserveLimitTimestamps r ts = .ok r') : r.KeepsReferrals r' := by
  obtain ⟨dc, bc, rfl, -⟩ := Reserve.refreshReserveLimitTimestamps_spec h
  rfl

theorem depositReserveLiquidity_keeps {result : DepositLiquidityResult}
    (h : depositReserveLiquidity r clock amount = .ok (r', result)) : r.KeepsReferrals r' := by
  obtain ⟨a, s, cap, -, -, -, rfl⟩ := Reserve.depositReserveLiquidity_spec h
  rfl

theorem redeemReserveCollateral_keeps {x : U64} {addToCaps : Bool}
    (h : redeemReserveCollateral r amount clock addToCaps = .ok (r', x)) :
    r.KeepsReferrals r' := by
  obtain ⟨r₁, r₂, ts, cap, hredeem, -, htouch, rfl⟩ := Reserve.redeemReserveCollateral_spec h
  obtain ⟨a, s, rfl, -⟩ := Reserve.redeemCollateral_spec (n := 0) hredeem
  obtain ⟨dc, bc, rfl, -⟩ := Reserve.refreshReserveLimitTimestamps_spec htouch
  rfl

theorem flashBorrowReserveLiquidity_keeps
    (h : flashBorrowReserveLiquidity r amount = .ok r') : r.KeepsReferrals r' := by
  simp only [flashBorrowReserveLiquidity, bind_eq_ok, pure_eq_ok] at h
  obtain ⟨-, -, l, hl, rfl⟩ := h
  obtain ⟨a, b, rfl, -⟩ := Reserve.liquidity_borrow_spec hl
  rfl

theorem redeemFees_keeps (h : redeemFees r slot = .ok (r', n)) : r.KeepsReferrals r' := by
  simp only [redeemFees, ReserveLiquidity.redeemFees, bind_eq_ok, pure_eq_ok, Prod.mk.injEq] at h
  obtain ⟨-, -, w, -, -, -, l, ⟨a, -, p, -, rfl⟩, rfl, -⟩ := h
  rfl

theorem repayObligationLiquidity_keeps
    (h : repayObligationLiquidity r o clock amount key market rs iter = .ok (r', o', rs', n)) :
    r.KeepsReferrals r' ∧ rs.Retracked rs' := by
  obtain ⟨-, -, b, i, b₁, settle, cap, o₁, r₁, l, o₂, -, -, -, htrack, hl, rfl, -⟩ :=
    repayObligationLiquidity_spec h
  obtain ⟨-, ⟨outside, groups, rfl⟩, hrs⟩ := updateOnRepay_retracked htrack
  obtain ⟨a, d, rfl, -⟩ := Reserve.liquidity_repay_spec hl
  exact ⟨rfl, hrs⟩

theorem socializeLoss_keeps {f : Fraction}
    (h : socializeLoss r key o amount slot rs iter = .ok (r', o', rs', f)) :
    r.KeepsReferrals r' ∧ rs.Retracked rs' := by
  obtain ⟨-, -, -, b, i, supply, n, o₁, r₁, l, o₂, -, -, -, -, htrack, hl, rfl, -⟩ :=
    socializeLoss_spec h
  obtain ⟨-, ⟨outside, groups, rfl⟩, hrs⟩ := updateOnRepay_retracked htrack
  simp only [ReserveLiquidity.forgiveDebt, bind_eq_ok, pure_eq_ok] at hl
  obtain ⟨d, -, rfl⟩ := hl
  refine ⟨?_, hrs⟩
  show Reserve.KeepsReferrals r (Reserve.markStale _)
  split <;> rfl

end Keeps

section Credits

variable {market : LendingMarket} {r r₀ r' : Reserve} {o o' : Obligation} {amount slot n : U64}
  {key ref : Pubkey} {rs rs' : Reserves} {iter iter' : List Pubkey} {st st' : ReferrerTokenState}
  {states states' : ReferrerTokenStates} {stateKeys stateKeys' : List ReferrerTokenStateKey}
  {withdrawn : ReferrerTokenStateKey → ℕ} {group : Option ElevationGroup}

theorem creditReferrer_referrals (h : Referrals rs states withdrawn) (hr : rs key = some r₀)
    (hkeep : r₀.KeepsReferrals r) (hst : states (ref, key) = some st)
    (hop : creditReferrer market r (some st) n = .ok (r', some st')) :
    Referrals (rs.store key r') (Function.update states (ref, key) (some st')) withdrawn := by
  obtain ⟨rfl, hsame⟩ | ⟨st₁, c, u, p, a, hst₁, hst', rfl, hc, hu, hp, -⟩ := creditReferrer_spec hop
  · rw [Option.some.inj hsame]
    exact h.credit (n := 0) hr hst (by rw [hkeep, Nat.add_zero]) rfl rfl
  · obtain rfl := Option.some.inj hst₁
    obtain rfl := Option.some.inj hst'
    exact h.credit hr hst (by rw [← hkeep]; exact hp) hu hc

theorem accumulateReferrerFees_referrals {bps : U16} {slots : U64} {debt prev : Fraction}
    {hasRef : Bool} (h : Referrals rs states withdrawn) (hr : rs key = some r₀)
    (hkeep : r₀.KeepsReferrals r)
    (hop : accumulateReferrerFees key r ref bps slots debt prev hasRef states stateKeys =
      .ok (r', states', stateKeys')) : Referrals (rs.store key r') states' withdrawn := by
  obtain ⟨rfl, rfl, -⟩ | ⟨fee, pending, -, ⟨k, st, c, u, p, -, hst, hvalid, hc, hu, hp, rfl, rfl⟩ |
    ⟨p, -, rfl, -, rfl⟩⟩ := accumulateReferrerFees_spec hop
  · exact h.keep (.store hr hkeep)
  · simp only [validateReferrerTokenState, bind_eq_ok, require_eq_ok] at hvalid
    obtain ⟨-, -, -, -, -, hkey, -⟩ := hvalid
    subst hkey
    exact h.credit hr hst (by rw [← hkeep]; exact hp) hu hc
  · exact h.keep (.store hr hkeep)

theorem refreshObligationBorrows_referrals {borrows : RefreshObligationBorrowsResult}
    (h : Referrals rs states withdrawn)
    (hop : refreshObligationBorrows o market slot group rs iter states stateKeys =
      .ok (o', rs', states', borrows)) : Referrals rs' states' withdrawn := by
  obtain ⟨s, slots, hloop, -, -, rfl, rfl, -⟩ := refreshObligationBorrows_spec hop
  refine (forOccupied_invariant (Q := fun _ _ ↦ True)
    (P := fun s : BorrowsPass ↦ Referrals s.reserves s.referrerTokenStates withdrawn)
    (fun _ _ _ ↦ trivial) ?_ h hloop).1
  intro _ s b k s' b' _ _ hs hbody
  obtain ⟨r, b₁, m, r₁, b₂, slots', r₂, mv, bfmv, -, hr, -, -, -, -, -, -, htrack, -, hfees, -, -,
    -, -, hstore, -⟩ := refreshBorrow_spec hbody
  refine ⟨?_, trivial⟩
  rw [hstore]
  exact accumulateReferrerFees_referrals hs hr
    (.of_retracked (trackRefreshedBorrow_retracked htrack)) hfees

theorem refreshObligation_referrals {check : MaxReservesAsCollateralCheck}
    (h : Referrals rs states withdrawn)
    (hop : refreshObligation o market slot check rs iter iter' states stateKeys =
      .ok (o', rs', states')) : Referrals rs' states' withdrawn := by
  obtain ⟨group, o₁, rs₁, borrows, o₂, deposits, -, hb, hd, -⟩ := refreshObligation_spec hop
  exact (refreshObligationBorrows_referrals h hb).keep
    (.of_retracked (refreshObligationDeposits_frame hd).1)

theorem requestElevationGroup_referrals {newGroup : U8} (h : Referrals rs states withdrawn)
    (hop : requestElevationGroup o market slot newGroup rs iter iter' states stateKeys =
      .ok (o', rs', states')) : Referrals rs' states' withdrawn := by
  obtain ⟨-, -, oldGroup, group, o₁, rs₁, o₂, rs₂, borrows, o₃, deposits, -, hreset, -, hb, hd, -, -⟩
    := requestElevationGroup_spec hop
  have hreset' := h.keep (.of_retracked (resetElevationGroupDebts_retracked hreset).2)
  exact (refreshObligationBorrows_referrals hreset' hb).keep
    (.of_retracked (refreshObligationDeposits_frame hd).1)

end Credits

end Klend
