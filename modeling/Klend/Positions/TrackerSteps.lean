import Klend.Lending.RefreshReplay
import Klend.Positions.CountedDebts

/-! # The trackers along an instruction

Whatever an instruction changes of an obligation, the trackers of the reserves change by
what it changes in the contributions of that obligation.
-/

namespace Klend

section Trackers

variable {r r' : Reserve} {clock : Clock} {market : LendingMarket} {bps : U16} {n x : U64}
  {ost ost' : Option ReferrerTokenState} {addToCaps : Bool}

theorem tracker_refreshReserve (h : Klend.refreshReserve r clock none bps = .ok r')
    (u : Option (Fin 32)) : r'.tracker u = r.tracker u :=
  (Reserve.refreshReserve_moves (t := 0) (S := fun _ _ ↦ True) (F := fun _ _ ↦ True) (c := 0)
    h).tracker_eq u

theorem tracker_creditReferrer (h : creditReferrer market r ost n = .ok (r', ost'))
    (u : Option (Fin 32)) : r'.tracker u = r.tracker u :=
  (Reserve.creditReferrer_moves (t := 0) (S := fun _ _ ↦ True) (F := fun _ _ ↦ True) (c := 0)
    h).tracker_eq u

theorem tracker_redeem (h : Klend.redeemReserveCollateral r n clock addToCaps = .ok (r', x))
    (u : Option (Fin 32)) : r'.tracker u = r.tracker u := by
  have hmoves : Reserve.Moves clock.unixTimestamp.toNat (fun _ _ ↦ True) (fun _ _ ↦ True) r n r' 0 :=
    Reserve.redeemReserveCollateral_moves rfl h (Nat.zero_add _)
  exact hmoves.tracker_eq u

end Trackers

section Debts

variable {market : LendingMarket} {o o' : Obligation} {r r₀ r' : Reserve} {rs rs' : Reserves}
  {amount : U64} {clock : Clock} {key : Pubkey} {ost ost' : Option ReferrerTokenState}
  {iter : List Pubkey} {res : CalculateBorrowResult}

theorem borrows_set_contribution {b b' : ObligationLiquidity} {i : ℕ} {k : Pubkey}
    {t : Option (Fin 32)} (hk : k ≠ 0) (hb : o.borrows[i]? = some b)
    (hslot : (b'.borrowReserve = b.borrowReserve ∧ b'.count = b.count) ∨
      (b.borrowReserve = 0 ∧ b'.count = 0))
    (hgroup : o'.elevationGroup = o.elevationGroup) (hdeposits : o'.deposits = o.deposits)
    (hborrows : o'.borrows = o.borrows.set i b') :
    o'.contribution k t = o.contribution k t := by
  refine contribution_eq_of_group hgroup (fun _ ↦ ?_) fun _ ↦ ?_
  · rw [Obligation.debtAgainst, hdeposits, Obligation.debtAgainst]
  · have hset := @countedFor_set _ ObligationLiquidity.borrowReserve ObligationLiquidity.count _ _ _
      b' hb k
    rw [Obligation.debtOutside, hborrows]
    rcases hslot with ⟨hkey, hcount⟩ | ⟨hfree, hcount⟩
    · rw [hkey, hcount] at hset
      exact Nat.add_right_cancel hset
    · rw [hcount, if_neg fun h0 ↦ hk (h0.symm.trans hfree)] at hset
      have hnothing : (if b'.borrowReserve = k then ((0 : U64) : ℕ) else 0) = 0 := by
        split <;> rfl
      rw [hnothing] at hset
      exact hset

theorem borrowObligationLiquidity_follows (hm : market.Validated)
    (hr : rs key = some r) (hcovered : o.CoveredBy rs)
    (h : borrowObligationLiquidity market r o amount clock key ost (rs.hold key) iter =
      .ok (r', o', ost', rs', res)) : o.TrackersFollow o' rs (rs'.store key r') := by
  obtain ⟨-, -, -, -, n, cap, l, tier, o₁, i, b, b₁, r₁, group, b₂, -, -, hfind, hb, hb₁, hcredit,
    hgroup, htrack, -⟩ := borrowObligationLiquidity_spec h
  have hgrown : b₁.borrowReserve = b.borrowReserve ∧ b₁.count = b.count := by
    simp only [ObligationLiquidity.borrow, bind_eq_ok, pure_eq_ok] at hb₁
    obtain ⟨x, -, rfl⟩ := hb₁
    exact ⟨rfl, rfl⟩
  have hbkey : b.borrowReserve = key := by
    rcases findOrAddLiquidity_spec hfind hb with ⟨-, hkey⟩ | ⟨-, -, rfl, -⟩
    · exact hkey
    · rfl
  -- neither the slot found or opened nor the amount borrowed changes a contribution
  have hfound : o.TrackersFollow o₁ rs rs := by
    rcases findOrAddLiquidity_spec hfind hb with ⟨rfl, -⟩ | ⟨-, ⟨free, hfree, hfreekey⟩, -, rfl⟩
    · exact .refl _ _
    · exact .of_contribution_eq fun k hk t ↦
        borrows_set_contribution hk hfree (.inr ⟨hfreekey, rfl⟩) rfl rfl rfl
  have howed : o₁.TrackersFollow
      (Obligation.markStale { o₁ with borrows := o₁.borrows.set i b₁, hasDebt := 1 }) rs rs :=
    .of_contribution_eq fun k hk t ↦ borrows_set_contribution hk hb (.inl hgrown) rfl rfl rfl
  have hbefore := hfound.trans howed
  refine hbefore.trans (updateOnBorrow_follows hm hgroup hr (fun u ↦ ?_) (hbefore.coveredBy hcovered)
    (fun b' hb' ↦ ?_) htrack)
  · rw [tracker_creditReferrer hcredit]
    cases u <;> rfl
  · have hset : (o₁.borrows.set i b₁)[i]? = some b₁ :=
      List.getElem?_set_self (List.getElem?_eq_some_iff.1 hb).1
    rw [← Option.some.inj (hset.symm.trans hb'), hgrown.1, hbkey]

theorem borrowObligationLiquidity_oneSided (hsided : o.OneSided)
    (h : borrowObligationLiquidity market r o amount clock key ost rs iter =
      .ok (r', o', ost', rs', res)) : o'.OneSided := by
  obtain ⟨-, -, -, -, n, cap, l, tier, o₁, i, b, b₁, r₁, group, b₂, -, -, hfind, hb, hb₁, hcredit,
    hgroup, htrack, -⟩ := borrowObligationLiquidity_spec h
  simp only [ObligationLiquidity.borrow, bind_eq_ok, pure_eq_ok] at hb₁
  obtain ⟨x, -, rfl⟩ := hb₁
  have hfound := hsided.findOrAddLiquidity hfind hb
  have hset : Obligation.OneSided { o₁ with
      borrows := o₁.borrows.set i { b with borrowedAmountSf := x } } :=
    hfound.setBorrow hb fun _ ↦ ⟨rfl, rfl⟩
  have hmarked : Obligation.OneSided (Obligation.markStale { o₁ with
      borrows := o₁.borrows.set i { b with borrowedAmountSf := x }, hasDebt := 1 }) :=
    ⟨hset.inGroup, hset.outside⟩
  exact hmarked.updateOnBorrow hgroup htrack

theorem accrueInterest_current {b b₁ : ObligationLiquidity} {i : ℕ} (hcurrent : o.RatesCurrent rs)
    (hr : rs key = some r) (hkey : key ≠ 0) (hslot : r.lastUpdate.slot = o.lastUpdate.slot)
    (hfind : o.findLiquidityInBorrows key = .ok (b, i))
    (hb₁ : b.accrueInterest r.liquidity.cumulativeBorrowRateBsf = .ok b₁) :
    { o with borrows := o.borrows.set i b₁ } = o ∧ b₁ = b := by
  obtain ⟨hb, rfl⟩ := findLiquidityInBorrows_spec hfind
  have hrate := hcurrent b (List.mem_of_getElem? hb) hkey r hr hslot
  obtain rfl := Except.ok.inj ((accrueInterest_replay hrate).symm.trans hb₁)
  have hslots : o.borrows.set i b = o.borrows := by
    obtain ⟨hi, rfl⟩ := List.getElem?_eq_some_iff.1 hb
    exact List.set_getElem_self hi
  rw [hslots]
  exact ⟨rfl, rfl⟩

theorem repayObligationLiquidity_follows {n : U64} (hcounts : o.CountsDebts)
    (hcurrent : o.RatesCurrent rs) (hkey : key ≠ 0) (hr : rs key = some r)
    (hcovered : o.CoveredBy rs)
    (h : repayObligationLiquidity r o clock amount key market (rs.hold key) iter =
      .ok (r', o', rs', n)) : o.TrackersFollow o' rs (rs'.store key r') := by
  obtain ⟨⟨-, hrslot⟩, ⟨-, hoslot⟩, b, i, b₁, settle, cap, o₁, r₁, l, o₂, hfind, hb₁, hcalc, htrack,
    -, rfl, hrepay, rfl⟩ := repayObligationLiquidity_spec h
  obtain ⟨hsame, rfl⟩ := accrueInterest_current hcurrent hr hkey (hrslot.trans hoslot.symm) hfind hb₁
  rw [hsame] at htrack
  obtain ⟨hb, hbkey⟩ := findLiquidityInBorrows_spec hfind
  obtain ⟨hn, hle, -⟩ := calculateRepay_spec hcalc
  have hfollows : o.TrackersFollow o₂ rs
      (rs'.store key (Reserve.markStale { r₁ with liquidity := l })) :=
    settle_follows hcounts hkey hb hbkey hr (fun u ↦ by cases u <;> rfl) hcovered hn hle htrack
      hrepay fun u ↦ by cases u <;> rfl
  exact hfollows

theorem repayObligationLiquidity_oneSided {n : U64} (hsided : o.OneSided)
    (h : repayObligationLiquidity r o clock amount key market rs iter = .ok (r', o', rs', n)) :
    o'.OneSided := by
  obtain ⟨-, -, b, i, b₁, settle, cap, o₁, r₁, l, o₂, hfind, hb₁, -, htrack, -, -, hrepay, rfl⟩ :=
    repayObligationLiquidity_spec h
  obtain ⟨hb, -⟩ := findLiquidityInBorrows_spec hfind
  obtain ⟨-, -, -, hframe⟩ := accrueInterest_spec hb₁
  have hset : Obligation.OneSided { o with borrows := o.borrows.set i b₁ } :=
    hsided.setBorrow hb fun _ ↦ ⟨by rw [hframe], by rw [hframe]⟩
  have hrepaid := (hset.updateOnRepay htrack).repay hrepay
  exact ⟨hrepaid.inGroup, hrepaid.outside⟩

theorem socializeLoss_follows {f : Fraction} {slot : U64} (hcounts : o.CountsDebts) (hkey : key ≠ 0)
    (hr : rs key = some r) (hcovered : o.CoveredBy rs)
    (h : socializeLoss r key o amount slot (rs.hold key) iter = .ok (r', o', rs', f)) :
    o.TrackersFollow o' rs (rs'.store key r') := by
  obtain ⟨-, -, -, b, i, supply, n, o₁, r₁, l, o₂, hfind, hf, -, hn, htrack, -, rfl, hrepay, rfl⟩ :=
    socializeLoss_spec h
  obtain ⟨hb, hbkey⟩ := findLiquidityInBorrows_spec hfind
  have hle : f.bits ≤ b.borrowedAmountSf.bits := by
    rw [hf, Fraction.bits_min]
    exact min_le_right _ _
  have hfollows : o.TrackersFollow o₂ rs
      (rs'.store key (Reserve.markStale { r₁ with liquidity := l })) :=
    settle_follows hcounts hkey hb hbkey hr (fun u ↦ by split <;> cases u <;> rfl) hcovered hn hle
      htrack hrepay fun u ↦ by cases u <;> rfl
  exact hfollows

theorem socializeLoss_oneSided {f : Fraction} {slot : U64} (hsided : o.OneSided)
    (h : socializeLoss r key o amount slot rs iter = .ok (r', o', rs', f)) : o'.OneSided := by
  obtain ⟨-, -, -, b, i, supply, n, o₁, r₁, l, o₂, -, -, -, -, htrack, -, -, hrepay, rfl⟩ :=
    socializeLoss_spec h
  have hrepaid := (hsided.updateOnRepay htrack).repay hrepay
  exact ⟨hrepaid.inGroup, hrepaid.outside⟩

end Debts

section Collateral

variable {market : LendingMarket} {o o' : Obligation} {r r₀ r' : Reserve} {rs : Reserves}
  {amount slot n : U64} {key : Pubkey}

theorem withdrawObligationCollateral_follows {check : LtvMaxWithdrawalCheck} (hkey : key ≠ 0)
    (hr : rs key = some r) (hcovered : o.CoveredBy rs)
    (h : withdrawObligationCollateral market r o amount slot key check = .ok (r', o', n)) :
    o.TrackersFollow o' rs (rs.store key r') := by
  obtain ⟨-, -, i, d, o₁, kind, hfind, hd, hop, rfl, hr'⟩ := withdrawObligationCollateral_spec h
  obtain ⟨d₀, hd₀, hdkey⟩ := positionOfCollateral_spec hfind
  obtain rfl := Option.some.inj (hd.symm.trans hd₀)
  -- the slot is cleared just when everything is withdrawn
  have hkind : (if d.depositedAmount = n then updateElevationGroupDebtTrackersOnFullWithdraw d.count
      o.elevationGroup r else .ok r) = .ok r' := by
    obtain ⟨d₁, hd₁, ⟨hn, rfl, rfl⟩ | ⟨rest, hpos, hrest, rfl, rfl⟩⟩ := withdraw_spec hop
    · obtain rfl := Option.some.inj (hd.symm.trans hd₁)
      rw [if_pos hn.symm]
      exact hr'
    · obtain rfl := Option.some.inj (hd.symm.trans hd₁)
      rw [if_neg fun heq ↦ ?_]
      · exact hr'
      · rw [heq] at hrest
        omega
  have hfollows := withdraw_follows hkey hd hdkey hr (fun _ ↦ rfl) hcovered hop hkind
  exact hfollows

theorem withdrawObligationCollateral_oneSided {check : LtvMaxWithdrawalCheck} (hsided : o.OneSided)
    (h : withdrawObligationCollateral market r o amount slot key check = .ok (r', o', n)) :
    o'.OneSided := by
  obtain ⟨-, -, i, d, o₁, kind, -, -, hop, rfl, -⟩ := withdrawObligationCollateral_spec h
  have hwithdrawn := hsided.withdraw hop
  exact ⟨hwithdrawn.inGroup, hwithdrawn.outside⟩

theorem depositObligationCollateral_oneSided {check : MaxReservesAsCollateralCheck}
    (hsided : o.OneSided)
    (h : depositObligationCollateral market r o slot amount key check = .ok (r', o')) :
    o'.OneSided := by
  obtain ⟨-, -, group, total, tier, o₁, i, r₁, d, d₁, hgroup, -, hfind, hd, hd₁, rfl, -⟩ :=
    depositObligationCollateral_spec h
  simp only [ObligationCollateral.deposit, bind_eq_ok, okOr_eq_ok, pure_eq_ok] at hd₁
  obtain ⟨x, -, rfl⟩ := hd₁
  have hfound := hsided.findOrAddCollateral (getElevationGroup_market hgroup) hfind
  have hset : Obligation.OneSided { o₁ with
      deposits := o₁.deposits.set i { d with depositedAmount := x } } :=
    hfound.setDeposit hd fun _ ↦ ⟨rfl, rfl⟩
  exact ⟨hset.inGroup, hset.outside⟩

end Collateral

namespace World

variable {w w' : World} {clock : Clock} {ix : Instruction} {index : ℕ} {o o' : Obligation}

section Liquidation

variable {repayKey withdrawKey : Pubkey} {amount : U64} {override : Option U64}
  {remaining : List Pubkey}

theorem Liquidation.oneSided
    (l : Liquidation w w' clock index repayKey withdrawKey amount override remaining)
    (h : l.obligation.OneSided) : l.withdrawn.updateHasDebt.markStale.OneSided := by
  have hsettled := (h.updateOnRepay l.tracked_eq).repay l.settled_eq
  have hwithdrawn := hsettled.withdraw l.withdrawn_eq
  exact ⟨hwithdrawn.inGroup, hwithdrawn.outside⟩

theorem Liquidation.follows
    (l : Liquidation w w' clock index repayKey withdrawKey amount override remaining)
    (hcounts : l.obligation.CountsDebts) (hcovered : l.obligation.CoveredBy w.reserves) :
    l.obligation.TrackersFollow l.withdrawn.updateHasDebt.markStale w.reserves w'.reserves := by
  obtain ⟨hrepayKey, hrepay, -⟩ := loadReserve_eq_ok.1 l.repayReserve_eq
  obtain ⟨hb, hbkey⟩ := findLiquidityInBorrows_spec l.liquidity_eq
  obtain ⟨hceil, hle, -⟩ := calculateLiquidation_settle l.result_eq
  have hsettle : l.obligation.TrackersFollow l.settled w.reserves (l.held.store repayKey
      (Reserve.markStale { l.trackedReserve with liquidity := l.repaid })) :=
    settle_follows hcounts hrepayKey hb hbkey hrepay (fun _ ↦ rfl) hcovered hceil hle l.tracked_eq
      l.settled_eq fun u ↦ by cases u <;> rfl
  -- the collateral slot is the one found, with a new count
  obtain ⟨d, hd, hdkey⟩ := positionOfCollateral_spec l.collateralIndex_eq
  obtain rfl := Option.some.inj (hd.symm.trans l.collateral_eq)
  have htracked : ∃ n, l.trackedCollateral = { l.collateral with
      borrowedAmountAgainstThisCollateralInElevationGroup := n } := by
    obtain ⟨d₀, hd₀, hsame⟩ := SlotTable.exists_of_forall₂_right
      (updateOnRepay_retracked l.tracked_eq).1.deposits l.trackedCollateral_eq
    obtain rfl := Option.some.inj (hd.symm.trans hd₀)
    exact hsame
  have hslot : l.settled.deposits[l.collateralIndex]? = some l.trackedCollateral := by
    rw [(Obligation.repay_deposits l.settled_eq).1]
    exact l.trackedCollateral_eq
  have hamount : l.trackedCollateral.depositedAmount = l.collateral.depositedAmount := by
    rcases htracked with ⟨n, hn⟩
    rw [hn]
  have hkey : l.trackedCollateral.depositReserve = withdrawKey := by
    rcases htracked with ⟨n, hn⟩
    rw [hn]
    exact hdkey
  have hgroup : l.withdrawn.elevationGroup = l.settled.elevationGroup := by
    obtain ⟨e, -, ⟨-, -, heq⟩ | ⟨rest, -, -, -, heq⟩⟩ := withdraw_spec l.withdrawn_eq <;> rw [heq]
  have hreleased := l.released_eq
  rw [show l.withdrawn.updateHasDebt.markStale.elevationGroup = l.settled.elevationGroup from hgroup,
    ← hamount] at hreleased
  obtain ⟨hwithdrawKey, hloaded⟩ := Reserves.load_eq_ok.1 l.loaded_eq
  have hwithdraw := withdraw_follows hwithdrawKey hslot hkey hloaded
    (tracker_refreshReserve l.refreshed_eq) (hsettle.coveredBy hcovered) l.withdrawn_eq hreleased
  have hboth := hsettle.trans hwithdraw
  have hfollows : l.obligation.TrackersFollow l.withdrawn w.reserves w'.reserves := by
    apply hboth.of_tracker_eq
    intro k u
    have hredeemed : ∀ u, l.redeemed.tracker u = l.released.tracker u := by
      rcases l.redeemed_eq with ⟨c, x, supply, hredeem, -⟩ | ⟨heq, -⟩
      · exact tracker_redeem hredeem
      · rw [heq]
        exact fun _ ↦ rfl
    rw [l.reserves_eq]
    by_cases hk : k = withdrawKey
    · subst hk
      rw [Reserves.tracker_store_same, Reserves.tracker_store_same, hredeemed]
    · rw [Reserves.tracker_store_other hk, Reserves.tracker_store_other hk]
  exact hfollows

end Liquidation

/-- Every change of an obligation counts on one side only, and a fresh obligation right. -/
theorem ChangesObligation.counted (hch : ChangesObligation w w' clock index ix o o')
    (hm : w.lendingMarket.Validated) (hwf : o.WellFormed) (hcovered : o.CoveredBy w.reserves)
    (hcounted : o.Counted) : o'.Counted := by
  have hsided := hcounted.toOneSided
  obtain ⟨remaining, states, rfl⟩ | ⟨pct, rfl⟩ | hstale := hch.stale
  · cases hch with
    | refresh hop => exact refreshObligation_counted hm hwf hsided hop
  · cases hch with
    | mark hop _ =>
      obtain ⟨target, started, rfl⟩ := markObligationForDeleveraging_frame hop
      refine ⟨⟨hsided.inGroup, hsided.outside⟩, fun hfresh ↦ ?_⟩
      exact ⟨(hcounted.fresh hfresh).inGroup, (hcounted.fresh hfresh).outside⟩
  · refine .of_stale ?_ hstale
    cases hch with
    | refresh hop => exact (refreshObligation_counted hm hwf hsided hop).toOneSided
    | request hop => exact requestElevationGroup_oneSided hm hcovered hsided hop
    | deposit hr hr₁ hop _ => exact depositObligationCollateral_oneSided hsided hop
    | withdraw hr hop _ => exact withdrawObligationCollateral_oneSided hsided hop
    | borrow hr hop _ => exact borrowObligationLiquidity_oneSided hsided hop
    | repay hr hop _ => exact repayObligationLiquidity_oneSided hsided hop
    | socialize hr hop _ => exact socializeLoss_oneSided hsided hop
    | liquidate l => exact l.oneSided hsided
    | mark hop _ =>
      obtain ⟨target, started, rfl⟩ := markObligationForDeleveraging_frame hop
      exact ⟨hsided.inGroup, hsided.outside⟩

theorem ChangesObligation.follows (hch : ChangesObligation w w' clock index ix o o')
    (hm : w.lendingMarket.Validated) (hcounted : o.Counted) (hcurrent : o.UpToDate w.reserves)
    (hcovered : o.CoveredBy w.reserves) : o.TrackersFollow o' w.reserves w'.reserves := by
  -- an instruction that changes amounts finds the counts right
  have hcounts {i : ℕ} (hix : ix.changesAmountsOf = some i) : o.CountsDebts :=
    hcounted.fresh (hch.fresh hix).1
  cases hch with
  | refresh hop =>
    obtain ⟨group, o₁, rs₁, borrows, o₂, deposits, hgroup, hb, hd, rfl⟩ :=
      Klend.refreshObligation_spec hop
    have hsame : o₂.elevationGroup = o.elevationGroup := by
      rw [(refreshObligationDeposits_frame hd).2.2, (refreshObligationBorrows_frame hb).2.2]
    have hfollows : o.TrackersFollow { o₂ with elevationGroup := o.elevationGroup } w.reserves
        w'.reserves := refreshPasses_follow hm hgroup hcovered hb hd
    rw [← hsame] at hfollows
    exact hfollows
  | request hop => exact requestElevationGroup_follows hm hcovered hcounted.toOneSided hop
  | deposit hr hr₁ hop hreserves =>
    obtain ⟨hkey, hr, -⟩ := loadReserve_eq_ok.1 hr
    rw [hreserves]
    exact depositObligationCollateral_follows hm hkey hr (tracker_refreshReserve hr₁) hop
  | withdraw hr hop hreserves =>
    obtain ⟨hkey, hr, -⟩ := loadReserve_eq_ok.1 hr
    rw [hreserves]
    exact withdrawObligationCollateral_follows hkey hr hcovered hop
  | borrow hr hop hreserves =>
    obtain ⟨-, hr, -⟩ := loadReserve_eq_ok.1 hr
    rw [hreserves]
    exact borrowObligationLiquidity_follows hm hr hcovered hop
  | repay hr hop hreserves =>
    obtain ⟨hkey, hr, -⟩ := loadReserve_eq_ok.1 hr
    obtain ⟨-, ⟨hfresh, -⟩, -⟩ := Klend.repayObligationLiquidity_spec hop
    rw [hreserves]
    exact repayObligationLiquidity_follows (hcounts rfl) (hcurrent hfresh).2.1 hkey hr hcovered hop
  | socialize hr hop hreserves =>
    obtain ⟨hkey, hr, -⟩ := loadReserve_eq_ok.1 hr
    rw [hreserves]
    exact socializeLoss_follows (hcounts rfl) hkey hr hcovered hop
  | liquidate l => exact l.follows (hcounts rfl) hcovered
  | mark hop hreserves =>
    obtain ⟨target, started, rfl⟩ := markObligationForDeleveraging_frame hop
    rw [hreserves]
    exact .of_contribution_eq fun k hk t ↦ contribution_eq_of_group rfl (fun _ ↦ rfl) fun _ ↦ rfl

end World

end Klend
