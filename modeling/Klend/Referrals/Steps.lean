import Klend.Positions.Steps
import Klend.Referrals.Operations

/-! # Referral fees over instructions

Every instruction keeps the fees of the reserves and the claims of the referrers
together, given what the referrers withdrew so far.
-/

namespace Klend

namespace World

variable {w w' : World} {clock : Clock} {key referrer : Pubkey} {index : ℕ} {amount : U64}
  {withdrawn : ReferrerTokenStateKey → ℕ} {remaining : List Pubkey}

/-- The accumulated fees and the claims stay as they are. -/
def KeepsReferrals (w w' : World) : Prop :=
  w.reserves.KeepReferrals w'.reserves ∧ w'.referrerTokenStates = w.referrerTokenStates

theorem KeepsReferrals.referrals (h : KeepsReferrals w w')
    (hw : Referrals w.reserves w.referrerTokenStates withdrawn) :
    Referrals w'.reserves w'.referrerTokenStates withdrawn := by
  rw [h.2]
  exact hw.keep h.1

section Reserves

theorem refreshReserve_keepsReferrals {price : Option GetPriceResult}
    (h : w.refreshReserve clock key price = .ok w') : KeepsReferrals w w' := by
  simp only [refreshReserve, bind_eq_ok, pure_eq_ok, loadReserve_eq_ok] at h
  obtain ⟨-, -, r, ⟨-, hr, -⟩, -, -, r₁, hr₁, ts, -, r₂, hr₂, -, -, rfl⟩ := h
  exact ⟨.store hr ((refreshReserve_keeps hr₁).trans (refreshReserveLimitTimestamps_keeps hr₂)),
    rfl⟩

theorem depositReserveLiquidity_keepsReferrals
    (h : w.depositReserveLiquidity clock key amount = .ok w') : KeepsReferrals w w' := by
  simp only [depositReserveLiquidity, bind_eq_ok, loadReserve_eq_ok, Prod.exists,
    mintCollateral_eq_ok] at h
  obtain ⟨-, -, r, ⟨-, hr, -⟩, -, -, -, -, r₁, hr₁, r₂, result, hr₂, supply, -, rfl⟩ := h
  exact ⟨.store hr ((refreshReserve_keeps hr₁).trans (depositReserveLiquidity_keeps hr₂)), rfl⟩

theorem redeemReserveCollateral_keepsReferrals
    (h : w.redeemReserveCollateral clock key amount = .ok w') : KeepsReferrals w w' := by
  simp only [redeemReserveCollateral, bind_eq_ok, loadReserve_eq_ok, Prod.exists,
    burnCollateral_eq_ok] at h
  obtain ⟨-, -, r, ⟨-, hr, -⟩, -, -, r₁, hr₁, r₂, x, hr₂, supply, -, rfl⟩ := h
  exact ⟨.store hr ((refreshReserve_keeps hr₁).trans (redeemReserveCollateral_keeps hr₂)), rfl⟩

theorem flashBorrowReserveLiquidity_keepsReferrals
    (h : w.flashBorrowReserveLiquidity clock key amount = .ok w') : KeepsReferrals w w' := by
  simp only [flashBorrowReserveLiquidity, bind_eq_ok, pure_eq_ok, loadReserve_eq_ok] at h
  obtain ⟨-, -, r, ⟨-, hr, -⟩, -, -, -, -, r₁, hr₁, r₂, hr₂, rfl⟩ := h
  exact ⟨.store hr ((refreshReserve_keeps hr₁).trans (flashBorrowReserveLiquidity_keeps hr₂)), rfl⟩

theorem redeemFees_keepsReferrals (h : w.redeemFees clock key = .ok w') :
    KeepsReferrals w w' := by
  simp only [redeemFees, bind_eq_ok, pure_eq_ok, loadReserve_eq_ok, Prod.exists] at h
  obtain ⟨r, ⟨-, hr, -⟩, r', n, hop, rfl⟩ := h
  exact ⟨.store hr (redeemFees_keeps hop), rfl⟩

theorem flashRepayReserveLiquidity_referrals {referrer : Option Pubkey}
    (h : w.flashRepayReserveLiquidity clock key amount referrer = .ok w')
    (hw : Referrals w.reserves w.referrerTokenStates withdrawn) :
    Referrals w'.reserves w'.referrerTokenStates withdrawn := by
  have hkeep : ∀ (r r₁ : Reserve) (l : ReserveLiquidity) (ts : U64),
      r.liquidity.repay amount (Fraction.fromNum amount) = .ok l →
      refreshReserveLimitTimestamps { r with liquidity := l } ts = .ok r₁ →
      r.KeepsReferrals r₁.markStale := by
    intro r r₁ l ts hl hr₁
    obtain ⟨a, d, rfl, -⟩ := Reserve.liquidity_repay_spec hl
    obtain ⟨dc, bc, rfl, -⟩ := Reserve.refreshReserveLimitTimestamps_spec hr₁
    rfl
  simp only [flashRepayReserveLiquidity, bind_eq_ok, loadReserve_eq_ok] at h
  obtain ⟨-, -, r, ⟨-, hr, -⟩, ts, -, h⟩ := h
  cases referrer with
  | none =>
    simp only [bind_eq_ok, pure_eq_ok, Prod.exists] at h
    obtain ⟨r', ost', f₁, f₂, hop, rfl⟩ := h
    obtain ⟨l, r₁, fee, hl, hr₁, hcredit⟩ := Reserve.flashRepayReserveLiquidity_spec hop
    obtain ⟨rfl, -⟩ | ⟨st, _, _, _, _, hnone, -⟩ := creditReferrer_spec hcredit
    · exact hw.keep (.store hr (hkeep r r₁ l ts hl hr₁))
    · cases hnone
  | some ref =>
    simp only [bind_eq_ok, Prod.exists] at h
    obtain ⟨st, hst, r', ost', f₁, f₂, hop, h⟩ := h
    obtain ⟨hloaded, -⟩ := loadReferrerTokenState_spec hst
    obtain ⟨l, r₁, fee, hl, hr₁, hcredit⟩ := Reserve.flashRepayReserveLiquidity_spec hop
    cases ost' with
    | none =>
      obtain ⟨-, hnone⟩ | ⟨_, _, _, _, _, -, hnone, -⟩ := creditReferrer_spec hcredit <;> cases hnone
    | some st' =>
      rw [pure_eq_ok] at h
      subst h
      exact creditReferrer_referrals hw hr (hkeep r r₁ l ts hl hr₁) hloaded hcredit

theorem initReferrerTokenState_referrals (h : w.initReferrerTokenState key referrer = .ok w')
    (hw : Referrals w.reserves w.referrerTokenStates withdrawn) :
    Referrals w'.reserves w'.referrerTokenStates withdrawn := by
  simp only [initReferrerTokenState, bind_eq_ok, pure_eq_ok, loadReserve_eq_ok,
    requireAnchor_eq_ok] at h
  obtain ⟨r, ⟨-, hr, -⟩, -, hnone, rfl⟩ := h
  have hsame : w.reserves.store key r = w.reserves := by
    rw [Reserves.store, ← hr]
    exact Function.update_eq_self key w.reserves
  have hsettle : Referrals (w.reserves.store key r)
      (Function.update w.referrerTokenStates (referrer, key) (some
        { (default : ReferrerTokenState) with referrer, mint := r.liquidity.mintPubkey }))
      withdrawn := by
    refine hw.settle hr ?_ ?_ fun _ _ ↦ rfl
    · rw [ReferrerTokenStates.unclaimed_of_none hnone]
      rfl
    · rw [hw.opened _ hnone]
      rfl
  rwa [hsame] at hsettle

end Reserves

section Obligations

theorem depositObligationCollateral_keepsReferrals
    (h : w.depositObligationCollateral clock index key amount = .ok w') : KeepsReferrals w w' := by
  obtain ⟨o, r, r₁, r', o', -, hr, hr₁, hop, rfl⟩ := depositObligationCollateral_spec h
  obtain ⟨r₂, htrack, rfl⟩ := depositObligationCollateral_retracked hop
  exact ⟨.store (loadReserve_eq_ok.1 hr).2.1
    ((refreshReserve_keeps hr₁).trans (.of_retracked htrack)).markStale, rfl⟩

theorem withdrawObligationCollateral_keepsReferrals
    (h : w.withdrawObligationCollateral clock index key amount = .ok w') : KeepsReferrals w w' := by
  obtain ⟨o, r, r', o', n, -, hr, hop, rfl⟩ := withdrawObligationCollateral_spec h
  exact ⟨.store (loadReserve_eq_ok.1 hr).2.1
    (.of_retracked (withdrawObligationCollateral_retracked hop)), rfl⟩

theorem repayObligationLiquidity_keepsReferrals
    (h : w.repayObligationLiquidity clock index key amount remaining = .ok w') :
    KeepsReferrals w w' := by
  obtain ⟨o, r, r', o', rs, n, -, hr, hop, rfl⟩ := repayObligationLiquidity_spec h
  obtain ⟨hkeep, hrs⟩ := repayObligationLiquidity_keeps hop
  exact ⟨.store_hold (loadReserve_eq_ok.1 hr).2.1 hrs hkeep, rfl⟩

theorem socializeLoss_keepsReferrals
    (h : w.socializeLoss clock index key amount remaining = .ok w') : KeepsReferrals w w' := by
  obtain ⟨o, r, r', o', rs, f, -, hr, hop, rfl⟩ := socializeLoss_spec h
  obtain ⟨hkeep, hrs⟩ := socializeLoss_keeps hop
  exact ⟨.store_hold (loadReserve_eq_ok.1 hr).2.1 hrs hkeep, rfl⟩

theorem borrowObligationLiquidity_referrals {state : Option ReferrerTokenStateKey}
    (h : w.borrowObligationLiquidity clock index key amount state remaining = .ok w')
    (hw : Referrals w.reserves w.referrerTokenStates withdrawn) :
    Referrals w'.reserves w'.referrerTokenStates withdrawn := by
  obtain ⟨o, r, ost, r', o', ost', rs, res, -, hr, hop, hreserves, -, -, -, -, hstates⟩ :=
    borrowObligationLiquidity_spec h
  obtain ⟨-, -, -, -, n, cap, l, tier, o₁, i, b, b₁, r₁, group, b₂, -, hl, -, -, -, hcredit, -,
    htrack, -⟩ := Klend.borrowObligationLiquidity_spec hop
  have hlent : r.KeepsReferrals (Reserve.markStale { r with
      liquidity := l, config := { r.config with debtWithdrawalCap := cap } }) := by
    obtain ⟨a, d, rfl, -⟩ := Reserve.liquidity_borrow_spec hl
    rfl
  obtain ⟨-, hr₁, hrs⟩ := updateOnBorrow_retracked htrack
  have hr := (loadReserve_eq_ok.1 hr).2.1
  rw [hreserves]
  obtain ⟨rfl, hsame⟩ | ⟨ref, st, st', rfl, hloaded, rfl, hstore⟩ := hstates
  · rw [hsame]
    obtain ⟨rfl, -⟩ | ⟨_, _, _, _, _, -, hnone, -⟩ := creditReferrer_spec hcredit
    · exact hw.keep (.store_hold hr hrs (hlent.trans (.of_retracked hr₁)))
    · cases hnone
  · rw [hstore]
    have hcredited := creditReferrer_referrals hw hr hlent hloaded hcredit
    refine hcredited.keep ?_
    have hheld : (w.reserves.store key r₁).hold key = w.reserves.hold key :=
      Function.update_idem _ _ _
    exact .store_hold (Reserves.store_same _ _ _) (hheld ▸ hrs) (.of_retracked hr₁)

theorem Liquidation.keepReferrals {repayKey withdrawKey : Pubkey} {override : Option U64}
    (l : Liquidation w w' clock index repayKey withdrawKey amount override remaining) :
    w.reserves.KeepReferrals w'.reserves := by
  obtain ⟨-, hrepay, hheld⟩ := updateOnRepay_retracked l.tracked_eq
  obtain ⟨a, d, hrepaid, -⟩ := Reserve.liquidity_repay_spec l.repaid_eq
  have hfirst : w.reserves.KeepReferrals (l.held.store repayKey (Reserve.markStale
      { l.trackedReserve with liquidity := l.repaid })) := by
    refine .store_hold (loadReserve_eq_ok.1 l.repayReserve_eq).2.1 hheld ?_
    obtain ⟨outside, groups, htracked⟩ := hrepay
    show l.repaid.accumulatedReferrerFeesSf = _
    rw [hrepaid, htracked]
  have hreleased : l.refreshed.KeepsReferrals l.released := by
    have heq := l.released_eq
    split at heq
    · exact .of_retracked (updateOnFullWithdraw_retracked heq)
    · exact Except.ok.inj heq ▸ .refl _
  have hredeemed : l.released.KeepsReferrals l.redeemed := by
    obtain ⟨c, x, supply, hop, -⟩ | ⟨heq, -⟩ := l.redeemed_eq
    · exact redeemReserveCollateral_keeps hop
    · exact heq ▸ .refl _
  rw [l.reserves_eq]
  exact hfirst.trans (.store (Reserves.load_eq_ok.1 l.loaded_eq).2
    (((refreshReserve_keeps l.refreshed_eq).trans hreleased).trans hredeemed))

theorem liquidate_keepsReferrals {withdrawKey : Pubkey} {least : U64} {override : Option U64}
    (h : w.liquidateObligationAndRedeemReserveCollateral clock index key withdrawKey amount least
      override remaining = .ok w') : KeepsReferrals w w' := by
  obtain ⟨l⟩ := liquidate_spec h
  refine ⟨l.keepReferrals, ?_⟩
  simp only [liquidateObligationAndRedeemReserveCollateral, bind_eq_ok, Prod.exists] at h
  obtain ⟨-, -, -, -, -, -, -, -, -, -, o, -, o', rs, res, -, -, -, h⟩ := h
  split at h
  · obtain ⟨supply, -, rfl⟩ := burnCollateral_eq_ok.1 h
    rfl
  · rw [pure_eq_ok] at h
    subst h
    rfl

end Obligations

/-- What a withdrawal of referral fees pays, and to which state. -/
def withdrawnReferrerFees (w : World) (clock : Clock) :
    Instruction → Option (ReferrerTokenStateKey × U64)
  | .withdrawReferrerFees key referrer =>
    match w.reserves key, w.referrerTokenStates (referrer, key) with
    | some reserve, some state =>
      match Klend.withdrawReferrerFees reserve clock.slot state with
      | .ok (_, _, amount) => some ((referrer, key), amount)
      | .error _ => none
    | _, _ => none
  | _ => none

/-- The amounts withdrawn so far, after another payment. -/
def recordWithdrawal (withdrawn : ReferrerTokenStateKey → ℕ) :
    Option (ReferrerTokenStateKey × U64) → ReferrerTokenStateKey → ℕ
  | some (key, amount) => Function.update withdrawn key (withdrawn key + amount)
  | none => withdrawn

theorem withdrawReferrerFees_spec (h : w.withdrawReferrerFees clock key referrer = .ok w') :
    ∃ (r r' : Reserve) (st st' : ReferrerTokenState) (n : U64), w.reserves key = some r ∧
      w.referrerTokenStates (referrer, key) = some st ∧
      Klend.withdrawReferrerFees r clock.slot st = .ok (r', st', n) ∧
      w.withdrawnReferrerFees clock (.withdrawReferrerFees key referrer) =
        some ((referrer, key), n) ∧
      w' = (w.storeReserve key r').storeReferrerTokenState (referrer, key) st' := by
  simp only [withdrawReferrerFees, bind_eq_ok, loadReserve_eq_ok] at h
  obtain ⟨-, -, r, ⟨-, hr, -⟩, h⟩ := h
  cases hloaded : w.referrerTokenStates (referrer, key) with
  | none => simp [hloaded] at h
  | some st =>
    simp only [hloaded, bind_eq_ok, pure_eq_ok, Prod.exists] at h
    obtain ⟨_, rfl, r', st', n, hop, rfl⟩ := h
    refine ⟨r, r', st, st', n, hr, rfl, hop, ?_, rfl⟩
    rw [withdrawnReferrerFees, hr, hloaded]
    dsimp only
    rw [hop]

theorem withdrawReferrerFees_referrals (h : w.withdrawReferrerFees clock key referrer = .ok w')
    (hw : Referrals w.reserves w.referrerTokenStates withdrawn) :
    Referrals w'.reserves w'.referrerTokenStates (recordWithdrawal withdrawn
      (w.withdrawnReferrerFees clock (.withdrawReferrerFees key referrer))) := by
  obtain ⟨r, r', st, st', n, hr, hst, hop, hpaid, rfl⟩ := withdrawReferrerFees_spec h
  obtain ⟨a, p, u, rfl, rfl, -, hp, hu⟩ := Reserve.withdrawReferrerFees_spec hop
  have hearned := hw.earned (referrer, key) st hst
  rw [hpaid]
  refine hw.settle hr ?_ ?_ fun key' hkey' ↦ Function.update_of_ne hkey' _ _
  · rw [ReferrerTokenStates.unclaimed_eq hst]
    show p.bits + _ = _ + u.bits
    omega
  · rw [recordWithdrawal, Function.update_self]
    show st.amountCumulativeSf.bits = u.bits + _
    omega

theorem process_referrals {ix : Instruction} (h : w.process clock ix = .ok w')
    (hw : Referrals w.reserves w.referrerTokenStates withdrawn) :
    Referrals w'.reserves w'.referrerTokenStates
      (recordWithdrawal withdrawn (w.withdrawnReferrerFees clock ix)) := by
  cases ix with
  | withdrawReferrerFees => exact withdrawReferrerFees_referrals h hw
  | refreshReserve => exact (refreshReserve_keepsReferrals h).referrals hw
  | depositReserveLiquidity => exact (depositReserveLiquidity_keepsReferrals h).referrals hw
  | redeemReserveCollateral => exact (redeemReserveCollateral_keepsReferrals h).referrals hw
  | initObligation =>
    simp only [process, initObligation, pure_eq_ok] at h
    subst h
    exact hw
  | initReferrerTokenState => exact initReferrerTokenState_referrals h hw
  | refreshObligation =>
    obtain ⟨o, ds, bs, o', rs, states, -, hop, rfl⟩ := refreshObligation_spec h
    exact refreshObligation_referrals hw hop
  | requestElevationGroup =>
    obtain ⟨o, ds, bs, o', rs, states, -, hop, rfl⟩ := requestElevationGroup_spec h
    exact requestElevationGroup_referrals hw hop
  | depositObligationCollateral =>
    exact (depositObligationCollateral_keepsReferrals h).referrals hw
  | withdrawObligationCollateral =>
    exact (withdrawObligationCollateral_keepsReferrals h).referrals hw
  | borrowObligationLiquidity => exact borrowObligationLiquidity_referrals h hw
  | repayObligationLiquidity => exact (repayObligationLiquidity_keepsReferrals h).referrals hw
  | liquidateObligationAndRedeemReserveCollateral =>
    exact (liquidate_keepsReferrals h).referrals hw
  | flashBorrowReserveLiquidity => exact (flashBorrowReserveLiquidity_keepsReferrals h).referrals hw
  | flashRepayReserveLiquidity => exact flashRepayReserveLiquidity_referrals h hw
  | redeemFees => exact (redeemFees_keepsReferrals h).referrals hw
  | socializeLoss => exact (socializeLoss_keepsReferrals h).referrals hw
  | markObligationForDeleveraging =>
    simp only [process, markObligationForDeleveraging, bind_eq_ok, pure_eq_ok] at h
    obtain ⟨o, -, ts, -, o', -, rfl⟩ := h
    exact hw

end World

end Klend
