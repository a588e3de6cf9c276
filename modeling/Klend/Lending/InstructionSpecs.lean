import Klend.Lending.LiquidationSpecs
import Klend.Lending.OperationSpecs

/-! # What the instructions do

The accounts an instruction loads, the operation it performs on them, and the
accounts it stores.
-/

namespace Klend.World

variable {w w' : World} {clock : Clock} {k : Pubkey} {r : Reserve}

theorem loadReserve_eq_ok : w.loadReserve k = .ok r ↔
    k ≠ 0 ∧ w.reserves k = some r ∧ r.lendingMarket = w.lendingMarketPk := by
  simp only [loadReserve, bind_eq_ok, Reserves.load_eq_ok, requireAnchor_eq_ok, pure_eq_ok]
  constructor
  · rintro ⟨a, ⟨hk, hr⟩, -, hm, rfl⟩
    exact ⟨hk, hr, hm⟩
  · rintro ⟨hk, hr, hm⟩
    exact ⟨r, ⟨hk, hr⟩, (), hm, rfl⟩

theorem loadObligation_eq_ok {index : ℕ} {o : Obligation} : w.loadObligation index = .ok o ↔
    w.obligations[index]? = some o ∧ o.lendingMarket = w.lendingMarketPk := by
  unfold loadObligation
  cases w.obligations[index]? with
  | none => simp
  | some o' =>
    simp only [bind_eq_ok, requireAnchor_eq_ok, pure_eq_ok, Option.some.injEq]
    constructor
    · rintro ⟨-, hm, rfl⟩
      exact ⟨rfl, hm⟩
    · rintro ⟨rfl, hm⟩
      exact ⟨(), hm, rfl⟩

theorem mintCollateral_eq_ok {n : U64} : w.mintCollateral k n = .ok w' ↔
    ∃ supply : U64, (supply : ℕ) = w.collateralMintSupply k + n ∧
      w' = { w with collateralMintSupply := Function.update w.collateralMintSupply k supply } := by
  simp only [mintCollateral, bind_eq_ok, Word.add_eq_ok, pure_eq_ok, eq_comm (b := w')]

theorem burnCollateral_eq_ok {n : U64} : w.burnCollateral k n = .ok w' ↔
    ∃ supply : U64, (supply : ℕ) + n = w.collateralMintSupply k ∧
      w' = { w with collateralMintSupply := Function.update w.collateralMintSupply k supply } := by
  simp only [burnCollateral, bind_eq_ok, requireAnchor_eq_ok, Word.sub_eq_ok, pure_eq_ok,
    eq_comm (b := w')]
  constructor
  · rintro ⟨-, -, s, hs, rfl⟩
    exact ⟨s, hs, rfl⟩
  · rintro ⟨s, hs, rfl⟩
    exact ⟨(), Fin.le_def.2 (by omega), s, hs, rfl⟩

theorem loadReferrerTokenState_spec {key : ReferrerTokenStateKey} {ref : Pubkey}
    {st : ReferrerTokenState} (h : w.loadReferrerTokenState key r ref k = .ok st) :
    w.referrerTokenStates key = some st ∧ key = (st.referrer, k) := by
  unfold loadReferrerTokenState at h
  cases hst : w.referrerTokenStates key with
  | none => simp [hst] at h
  | some st' =>
    simp only [hst, validateReferrerTokenState, bind_eq_ok, pure_eq_ok, require_eq_ok] at h
    obtain ⟨_, rfl, -, ⟨-, -, -, -, -, hkey, -⟩, rfl⟩ := h
    exact ⟨rfl, hkey⟩

section Obligations

variable {index : ℕ} {key : Pubkey} {amount : U64} {remaining : List Pubkey}
  {referrerStates : List ReferrerTokenStateKey}

theorem refreshObligation_spec
    (h : w.refreshObligation clock index remaining referrerStates = .ok w') :
    ∃ (o : Obligation) (ds bs : List Pubkey) (o' : Obligation) (rs : Reserves)
      (states : ReferrerTokenStates),
      w.loadObligation index = .ok o ∧
      Klend.refreshObligation o w.lendingMarket clock.slot .perform w.reserves ds bs
        w.referrerTokenStates referrerStates = .ok (o', rs, states) ∧
      w' = { w.storeObligation index o' with reserves := rs, referrerTokenStates := states } := by
  simp only [refreshObligation, bind_eq_ok, pure_eq_ok, Prod.exists] at h
  obtain ⟨-, -, o, ho, ds, bs, -, o', rs, states, hrefresh, rfl⟩ := h
  exact ⟨o, ds, bs, o', rs, states, ho, hrefresh, rfl⟩

theorem requestElevationGroup_spec {newGroup : U8}
    (h : w.requestElevationGroup clock index newGroup remaining referrerStates = .ok w') :
    ∃ (o : Obligation) (ds bs : List Pubkey) (o' : Obligation) (rs : Reserves)
      (states : ReferrerTokenStates),
      w.loadObligation index = .ok o ∧
      Klend.requestElevationGroup o w.lendingMarket clock.slot newGroup w.reserves ds bs
        w.referrerTokenStates referrerStates = .ok (o', rs, states) ∧
      w' = { w.storeObligation index o' with reserves := rs, referrerTokenStates := states } := by
  simp only [requestElevationGroup, bind_eq_ok, pure_eq_ok, Prod.exists] at h
  obtain ⟨-, -, o, ho, ds, bs, -, o', rs, states, hrequest, rfl⟩ := h
  exact ⟨o, ds, bs, o', rs, states, ho, hrequest, rfl⟩

theorem depositObligationCollateral_spec
    (h : w.depositObligationCollateral clock index key amount = .ok w') :
    ∃ (o : Obligation) (r r₁ r' : Reserve) (o' : Obligation),
      w.loadObligation index = .ok o ∧ w.loadReserve key = .ok r ∧
      Klend.refreshReserve r clock none w.lendingMarket.referralFeeBps = .ok r₁ ∧
      Klend.depositObligationCollateral w.lendingMarket r₁ o clock.slot amount key .perform =
        .ok (r', o') ∧
      w' = (w.storeReserve key r').storeObligation index o' := by
  simp only [depositObligationCollateral, bind_eq_ok, pure_eq_ok, Prod.exists] at h
  obtain ⟨-, -, o, ho, r, hr, -, -, -, -, r₁, hr₁, r', o', hdeposit, rfl⟩ := h
  exact ⟨o, r, r₁, r', o', ho, hr, hr₁, hdeposit, rfl⟩

theorem withdrawObligationCollateral_spec
    (h : w.withdrawObligationCollateral clock index key amount = .ok w') :
    ∃ (o : Obligation) (r r' : Reserve) (o' : Obligation) (n : U64),
      w.loadObligation index = .ok o ∧ w.loadReserve key = .ok r ∧
      Klend.withdrawObligationCollateral w.lendingMarket r o amount clock.slot key .maxLtv =
        .ok (r', o', n) ∧
      w' = (w.storeReserve key r').storeObligation index o' := by
  simp only [withdrawObligationCollateral, bind_eq_ok, pure_eq_ok, Prod.exists] at h
  obtain ⟨-, -, o, ho, r, hr, -, -, r', o', n, hwithdraw, rfl⟩ := h
  exact ⟨o, r, r', o', n, ho, hr, hwithdraw, rfl⟩

/-- A borrow, whether its obligation has a referrer or not. -/
theorem borrowObligationLiquidity_spec {state : Option ReferrerTokenStateKey}
    (h : w.borrowObligationLiquidity clock index key amount state remaining = .ok w') :
    ∃ (o : Obligation) (r : Reserve) (ost : Option ReferrerTokenState) (r' : Reserve)
      (o' : Obligation) (ost' : Option ReferrerTokenState) (rs' : Reserves)
      (res : CalculateBorrowResult),
      w.loadObligation index = .ok o ∧ w.loadReserve key = .ok r ∧
      Klend.borrowObligationLiquidity w.lendingMarket r o amount clock key ost
        (w.reserves.hold key) remaining = .ok (r', o', ost', rs', res) ∧
      w'.reserves = rs'.store key r' ∧ w'.obligations = w.obligations.set index o' ∧
      w'.collateralMintSupply = w.collateralMintSupply ∧
      w'.lendingMarket = w.lendingMarket ∧ w'.lendingMarketPk = w.lendingMarketPk ∧
      ((ost' = none ∧ w'.referrerTokenStates = w.referrerTokenStates) ∨
        ∃ (ref : Pubkey) (st st' : ReferrerTokenState), ost = some st ∧
          w.referrerTokenStates (ref, key) = some st ∧ ost' = some st' ∧
          w'.referrerTokenStates =
            Function.update w.referrerTokenStates (ref, key) (some st')) := by
  simp only [borrowObligationLiquidity, bind_eq_ok] at h
  obtain ⟨-, -, o, ho, r, hr, -, -, -, -, h⟩ := h
  split at h
  · cases state with
    | none => simp at h
    | some key' =>
      simp only [bind_eq_ok, Prod.exists] at h
      obtain ⟨st, hst, r', o', ost', rs', res, hb, h⟩ := h
      refine ⟨o, r, _, r', o', ost', rs', res, ho, hr, hb, ?_⟩
      obtain ⟨hloaded, hkey⟩ := loadReferrerTokenState_spec hst
      cases ost' with
      | none =>
        rw [pure_eq_ok] at h
        subst h
        exact ⟨rfl, rfl, rfl, rfl, rfl, .inl ⟨rfl, rfl⟩⟩
      | some st' =>
        rw [pure_eq_ok] at h
        subst h hkey
        exact ⟨rfl, rfl, rfl, rfl, rfl, .inr ⟨st.referrer, st, st', rfl, hloaded, rfl, rfl⟩⟩
  · simp only [bind_eq_ok, pure_eq_ok, Prod.exists] at h
    obtain ⟨r', o', ost', rs', res, hb, rfl⟩ := h
    refine ⟨o, r, _, r', o', ost', rs', res, ho, hr, hb, rfl, rfl, rfl, rfl, rfl, .inl ⟨?_, rfl⟩⟩
    obtain ⟨-, -, -, -, _, _, _, _, _, _, _, _, r₁, _, _, -, -, -, -, -, hcredit, -⟩ :=
      Klend.borrowObligationLiquidity_spec hb
    obtain ⟨-, hnone⟩ | ⟨st, _, _, _, _, hnone, -⟩ := creditReferrer_spec hcredit
    · exact hnone
    · cases hnone

theorem repayObligationLiquidity_spec
    (h : w.repayObligationLiquidity clock index key amount remaining = .ok w') :
    ∃ (o : Obligation) (r r' : Reserve) (o' : Obligation) (rs : Reserves) (n : U64),
      w.loadObligation index = .ok o ∧ w.loadReserve key = .ok r ∧
      Klend.repayObligationLiquidity r o clock amount key w.lendingMarket (w.reserves.hold key)
        remaining = .ok (r', o', rs, n) ∧
      w' = { w with
        reserves := rs.store key r', obligations := w.obligations.set index o' } := by
  simp only [repayObligationLiquidity, bind_eq_ok, pure_eq_ok, Prod.exists] at h
  obtain ⟨-, -, o, ho, r, hr, -, -, r', o', rs, n, hrepay, rfl⟩ := h
  exact ⟨o, r, r', o', rs, n, ho, hr, hrepay, rfl⟩

theorem socializeLoss_spec
    (h : w.socializeLoss clock index key amount remaining = .ok w') :
    ∃ (o : Obligation) (r r' : Reserve) (o' : Obligation) (rs : Reserves) (f : Fraction),
      w.loadObligation index = .ok o ∧ w.loadReserve key = .ok r ∧
      Klend.socializeLoss r key o amount clock.slot (w.reserves.hold key) remaining =
        .ok (r', o', rs, f) ∧
      w' = { w with
        reserves := rs.store key r', obligations := w.obligations.set index o' } := by
  simp only [socializeLoss, bind_eq_ok, pure_eq_ok, Prod.exists] at h
  obtain ⟨o, ho, r, hr, r', o', rs, f, hloss, rfl⟩ := h
  exact ⟨o, r, r', o', rs, f, ho, hr, hloss, rfl⟩

/-- The states that a liquidation goes through: the trackers shrink, the repaid reserve is stored,
the withdrawn one is loaded again, refreshed, relieved of a fully withdrawn collateral and then
redeemed from. -/
structure Liquidation (w w' : World) (clock : Clock) (index : ℕ) (repayKey withdrawKey : Pubkey)
    (amount : U64) (override : Option U64) (remaining : List Pubkey) where
  obligation : Obligation
  repayReserve : Reserve
  withdrawReserve : Reserve
  group : Option ElevationGroup
  liquidity : ObligationLiquidity
  liquidityIndex : ℕ
  collateral : ObligationCollateral
  collateralIndex : ℕ
  timestamp : U64
  result : CalculateLiquidationResult
  tracked : Obligation
  trackedReserve : Reserve
  held : Reserves
  trackedCollateral : ObligationCollateral
  repaid : ReserveLiquidity
  settled : Obligation
  withdrawn : Obligation
  kind : WithdrawResult
  loaded : Reserve
  refreshed : Reserve
  released : Reserve
  redeemed : Reserve
  obligation_eq : w.obligations[index]? = some obligation
  repayReserve_eq : w.loadReserve repayKey = .ok repayReserve
  withdrawReserve_eq : w.loadReserve withdrawKey = .ok withdrawReserve
  liquidatable : assertObligationLiquidatable repayReserve withdrawReserve obligation amount
    clock.slot = .ok ()
  group_eq : getElevationGroup obligation.elevationGroup w.lendingMarket = .ok group
  liquidity_eq : obligation.findLiquidityInBorrows repayKey = .ok (liquidity, liquidityIndex)
  collateralIndex_eq : obligation.positionOfCollateralInDeposits withdrawKey = .ok collateralIndex
  collateral_eq : obligation.deposits[collateralIndex]? = some collateral
  result_eq : calculateLiquidation withdrawReserve repayReserve amount w.lendingMarket obligation
    liquidity collateral timestamp
    (obligation.highestBorrowFactorPct ≤ repayReserve.config.borrowFactorPct)
    (((getMaxLtvAndLiquidationThreshold withdrawReserve group).2.widen : U64) ≤
      obligation.lowestReserveDepositLiquidationLtv) override = .ok result
  tracked_eq : updateElevationGroupDebtTrackersOnRepay result.repayAmount obligation liquidityIndex
    repayReserve (w.reserves.hold repayKey) remaining = .ok (tracked, trackedReserve, held)
  trackedCollateral_eq : tracked.deposits[collateralIndex]? = some trackedCollateral
  repaid_eq : trackedReserve.liquidity.repay result.repayAmount result.settleAmountF = .ok repaid
  settled_eq : tracked.repay result.settleAmountF liquidityIndex = .ok settled
  withdrawn_eq : settled.withdraw result.withdrawAmount collateralIndex = .ok (withdrawn, kind)
  loaded_eq : (held.store repayKey (Reserve.markStale
    { trackedReserve with liquidity := repaid })).load withdrawKey = .ok loaded
  refreshed_eq : Klend.refreshReserve loaded clock none w.lendingMarket.referralFeeBps =
    .ok refreshed
  released_eq : (if collateral.depositedAmount = result.withdrawAmount then
      updateElevationGroupDebtTrackersOnFullWithdraw
        trackedCollateral.borrowedAmountAgainstThisCollateralInElevationGroup
        withdrawn.updateHasDebt.markStale.elevationGroup refreshed
    else .ok refreshed) = .ok released
  redeemed_eq : (∃ (c x supply : U64), Klend.redeemReserveCollateral released c clock false =
        .ok (redeemed, x) ∧ (supply : ℕ) + c = w.collateralMintSupply withdrawKey ∧
        w'.collateralMintSupply = Function.update w.collateralMintSupply withdrawKey supply) ∨
      redeemed = released ∧ w'.collateralMintSupply = w.collateralMintSupply
  reserves_eq : w'.reserves = (held.store repayKey (Reserve.markStale
    { trackedReserve with liquidity := repaid })).store withdrawKey redeemed
  obligations_eq : w'.obligations =
    w.obligations.set index withdrawn.updateHasDebt.markStale
  lendingMarket_eq : w'.lendingMarket = w.lendingMarket
  lendingMarketPk_eq : w'.lendingMarketPk = w.lendingMarketPk

theorem store_store_eq {rs : Reserves} {r' : Reserve} :
    (rs.store k r).store k r' = rs.store k r' := by
  simp [Reserves.store]

theorem liquidate_spec {withdrawKey : Pubkey} {least : U64} {override : Option U64}
    (h : w.liquidateObligationAndRedeemReserveCollateral clock index key withdrawKey amount least
      override remaining = .ok w') :
    Nonempty (Liquidation w w' clock index key withdrawKey amount override remaining) := by
  simp only [liquidateObligationAndRedeemReserveCollateral, bind_eq_ok, loadObligation_eq_ok,
    Prod.exists] at h
  obtain ⟨-, -, rr, hrr, -, -, wr, hwr, -, -, o, ⟨ho, -⟩, o', rs', res, hliq, -, -, h⟩ := h
  obtain ⟨rs₁, result, w₃, w₄, hobl, hw₃, hpost, rfl, hcoll, -⟩ := liquidateAndRedeem_spec hliq
  obtain ⟨rr', wr', group, b, i, j, d, ts, amounts, hrr', hwr', hassert, hgroup, hfind, hj, hd, -,
    hcalc, o₁, r₁, held, d₁, l, o₂, o₃, kind, w₁, w₂, w₃', htrack, hd₁, hl, ho₂, ho₃, rfl, hw₁, hw₂,
    hreleased, rfl, -⟩ := liquidateObligation_spec hobl
  obtain rfl : rr' = rr := by
    rw [Reserves.load_eq_ok] at hrr'
    exact Option.some.inj (hrr'.2.symm.trans (loadReserve_eq_ok.1 hrr).2.1)
  obtain rfl : wr' = wr := by
    rw [Reserves.load_eq_ok] at hwr'
    exact Option.some.inj (hwr'.2.symm.trans (loadReserve_eq_ok.1 hwr).2.1)
  obtain rfl : w₃' = w₃ := by
    rw [Reserves.load_eq_ok, Reserves.store_same] at hw₃
    exact Option.some.inj hw₃.2
  rw [store_store_eq] at h
  have hend : ((∃ (c x supply : U64), Klend.redeemReserveCollateral w₃' c clock false =
        .ok (w₄, x) ∧ (supply : ℕ) + c = w.collateralMintSupply withdrawKey ∧
        w'.collateralMintSupply = Function.update w.collateralMintSupply withdrawKey supply) ∨
      w₄ = w₃' ∧ w'.collateralMintSupply = w.collateralMintSupply) ∧
      w'.reserves = (held.store key (Reserve.markStale { r₁ with liquidity := l })).store
        withdrawKey w₄ ∧
      w'.obligations = w.obligations.set index o₃.updateHasDebt.markStale ∧
      w'.lendingMarket = w.lendingMarket ∧ w'.lendingMarketPk = w.lendingMarketPk := by
    rcases postLiquidateRedeem_spec hpost with ⟨x, fee, hredeem, htotal⟩ | ⟨rfl, htotal⟩
    · rw [htotal] at h
      dsimp only at h
      rw [burnCollateral_eq_ok, hcoll] at h
      obtain ⟨supply, hsupply, rfl⟩ := h
      exact ⟨.inl ⟨_, x, supply, hredeem, hsupply, rfl⟩, rfl, rfl, rfl, rfl⟩
    · rw [htotal, pure_eq_ok] at h
      subst h
      exact ⟨.inr ⟨rfl, rfl⟩, rfl, rfl, rfl, rfl⟩
  obtain ⟨hredeemed, hreserves, hobligations, hmarket, hpk⟩ := hend
  exact ⟨{
    obligation := o, repayReserve := rr', withdrawReserve := wr', group, liquidity := b
    liquidityIndex := i, collateral := d, collateralIndex := j, timestamp := ts
    result := amounts, tracked := o₁, trackedReserve := r₁, held, trackedCollateral := d₁
    repaid := l, settled := o₂, withdrawn := o₃, kind, loaded := w₁, refreshed := w₂
    released := w₃', redeemed := w₄, obligation_eq := ho, repayReserve_eq := hrr
    withdrawReserve_eq := hwr, liquidatable := hassert, group_eq := hgroup
    liquidity_eq := hfind, collateralIndex_eq := hj, collateral_eq := hd, result_eq := hcalc
    tracked_eq := htrack, trackedCollateral_eq := hd₁, repaid_eq := hl, settled_eq := ho₂
    withdrawn_eq := ho₃, loaded_eq := hw₁, refreshed_eq := hw₂, released_eq := hreleased
    redeemed_eq := hredeemed, reserves_eq := hreserves, obligations_eq := hobligations
    lendingMarket_eq := hmarket, lendingMarketPk_eq := hpk }⟩

end Obligations

end Klend.World
