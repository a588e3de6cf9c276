import Klend.Positions.Refreshing

/-! # Refreshing without the price status

The price status of a reserve says which checks its price has passed. The refreshes
collect it and decide nothing by it, and without a debt a withdrawal does not ask for it,
so that two markets that differ in the status only go on alike.
-/

namespace Klend

/-- A change of what the loop carries that commutes with its body. -/
theorem forOccupied_map {σ S : Type} {occupied : σ → Bool}
    {body : ℕ → S → σ → Pubkey → Result (S × σ)} {e : S → S}
    (h : ∀ i s x k, body i (e s) x k = Prod.map e id <$> body i s x k) (i : ℕ) (s : S)
    (xs : List σ) (ks : List Pubkey) :
    forOccupied occupied body i (e s) xs ks =
      Prod.map e id <$> forOccupied occupied body i s xs ks := by
  induction xs generalizing i s ks with
  | nil => rfl
  | cons x xs ih =>
    unfold forOccupied
    split
    · cases ks with
      | nil => rfl
      | cons k ks =>
        dsimp only
        simp only [h, bind_map_left, Prod.map_fst, Prod.map_snd, id_eq, ih, map_bind, map_pure]
        rfl
    · rw [ih]
      cases forOccupied occupied body (i + 1) s xs ks <;> rfl

def LastUpdate.unpriced (u : LastUpdate) : LastUpdate := { u with priceStatus := .none }

def Reserve.unpriced (r : Reserve) : Reserve := { r with lastUpdate := r.lastUpdate.unpriced }

def Obligation.unpriced (o : Obligation) : Obligation :=
  { o with lastUpdate := o.lastUpdate.unpriced }

def Reserves.unpriced (rs : Reserves) : Reserves := fun k ↦ (rs k).map Reserve.unpriced

def BorrowsPass.unpriced (s : BorrowsPass) : BorrowsPass :=
  { s with reserves := s.reserves.unpriced, pricesState := .none }

def DepositsPass.unpriced (s : DepositsPass) : DepositsPass :=
  { s with reserves := s.reserves.unpriced, pricesState := .none }

theorem Reserve.eq_of_unpriced {r r' : Reserve} (h : r.unpriced = r'.unpriced) :
    r' = { r with lastUpdate :=
      { r.lastUpdate with priceStatus := r'.lastUpdate.priceStatus } } := by
  calc r' = { r'.unpriced with lastUpdate :=
        { r'.unpriced.lastUpdate with priceStatus := r'.lastUpdate.priceStatus } } := rfl
    _ = _ := by rw [← h]; rfl

theorem Obligation.eq_of_unpriced {o o' : Obligation} (h : o.unpriced = o'.unpriced) :
    o' = { o with lastUpdate :=
      { o.lastUpdate with priceStatus := o'.lastUpdate.priceStatus } } := by
  calc o' = { o'.unpriced with lastUpdate :=
        { o'.unpriced.lastUpdate with priceStatus := o'.lastUpdate.priceStatus } } := rfl
    _ = _ := by rw [← h]; rfl

theorem BorrowsPass.eq_of_unpriced {s s' : BorrowsPass} (h : s.unpriced = s'.unpriced) :
    s' = { s with reserves := s'.reserves, pricesState := s'.pricesState } := by
  calc s' = { s'.unpriced with reserves := s'.reserves, pricesState := s'.pricesState } := rfl
    _ = _ := by rw [← h]; rfl

theorem DepositsPass.eq_of_unpriced {s s' : DepositsPass} (h : s.unpriced = s'.unpriced) :
    s' = { s with reserves := s'.reserves, pricesState := s'.pricesState } := by
  calc s' = { s'.unpriced with reserves := s'.reserves, pricesState := s'.pricesState } := rfl
    _ = _ := by rw [← h]; rfl

theorem Reserve.lastUpdate_unpriced {r : Reserve} :
    r.unpriced.lastUpdate = r.lastUpdate.unpriced := rfl

theorem Obligation.lastUpdate_unpriced {o : Obligation} :
    o.unpriced.lastUpdate = o.lastUpdate.unpriced := rfl

theorem LastUpdate.requireFresh_unpriced {u : LastUpdate} {slot : U64} {e : LendingError} :
    u.unpriced.requireFresh slot .none e = u.requireFresh slot .none e := by
  rw [requireFresh, requireFresh, isStale, isStale]
  simp only [unpriced, PriceStatusFlags.contains_none]
  rfl

theorem Reserves.loadRemaining_unpriced {rs : Reserves} {k : Pubkey} :
    rs.unpriced.loadRemaining k = Reserve.unpriced <$> rs.loadRemaining k := by
  rw [loadRemaining, loadRemaining, unpriced]
  split
  · rfl
  · cases rs k <;> rfl

theorem Reserves.store_unpriced {rs : Reserves} {k : Pubkey} {r : Reserve} :
    rs.unpriced.store k r.unpriced = (rs.store k r).unpriced := by
  funext j
  by_cases hj : j = k
  · subst hj
    rw [unpriced, Reserves.store_same, Reserves.store_same]
    rfl
  · rw [unpriced, Reserves.store_other hj, Reserves.store_other hj]
    rfl

theorem PriceStatusFlags.none_intersection (p : PriceStatusFlags) :
    PriceStatusFlags.none.intersection p = .none :=
  congrArg PriceStatusFlags.mk BitVec.zero_and

theorem BorrowsPass.unpriced_pricesState {s : BorrowsPass} : s.unpriced.pricesState = .none := rfl

theorem DepositsPass.unpriced_pricesState {s : DepositsPass} :
    s.unpriced.pricesState = .none := rfl

theorem BorrowsPass.unpriced_reserves {s : BorrowsPass} :
    s.unpriced.reserves = s.reserves.unpriced := rfl

theorem DepositsPass.unpriced_reserves {s : DepositsPass} :
    s.unpriced.reserves = s.reserves.unpriced := rfl

variable {o : Obligation} {market : LendingMarket} {slot : U64} {group : Option ElevationGroup}

section Calls

variable {r : Reserve} {b : ObligationLiquidity} {d : ObligationCollateral} {k : Pubkey} {n : U64}

theorem checkObligationLiquidityBorrowReserve_unpriced :
    checkObligationLiquidityBorrowReserve b r.unpriced k slot =
      checkObligationLiquidityBorrowReserve b r k slot := by
  rw [checkObligationLiquidityBorrowReserve, checkObligationLiquidityBorrowReserve,
    checkObligationReserve, checkObligationReserve, Reserve.unpriced,
    LastUpdate.requireFresh_unpriced]

theorem checkObligationCollateralDepositReserve_unpriced :
    checkObligationCollateralDepositReserve d r.unpriced k slot =
      checkObligationCollateralDepositReserve d r k slot := by
  rw [checkObligationCollateralDepositReserve, checkObligationCollateralDepositReserve,
    checkObligationReserve, checkObligationReserve, Reserve.unpriced,
    LastUpdate.requireFresh_unpriced]

theorem trackRefreshedBorrow_unpriced :
    trackRefreshedBorrow group k r.unpriced b n =
      Prod.map Reserve.unpriced id <$> trackRefreshedBorrow group k r b n := by
  cases group with
  | none =>
    simp only [trackRefreshedBorrow, map_bind, map_pure]
    rfl
  | some g =>
    simp only [trackRefreshedBorrow, map_bind, map_pure]
    rfl

theorem trackRefreshedDeposit_unpriced {group : Option (ElevationGroup × U64)} :
    trackRefreshedDeposit group k r.unpriced d =
      Prod.map Reserve.unpriced id <$> trackRefreshedDeposit group k r d := by
  cases group with
  | none => rfl
  | some g =>
    simp only [trackRefreshedDeposit, map_bind, map_pure]
    rfl

theorem accumulateReferrerFees_unpriced {referrer : Pubkey} {bps : U16} {elapsed : U64}
    {amount previous : Fraction} {hasReferrer : Bool} {states : ReferrerTokenStates}
    {iter : List ReferrerTokenStateKey} :
    accumulateReferrerFees k r.unpriced referrer bps elapsed amount previous hasReferrer states
        iter =
      Prod.map Reserve.unpriced id <$> accumulateReferrerFees k r referrer bps elapsed amount
        previous hasReferrer states iter := by
  simp only [accumulateReferrerFees]
  by_cases hrate : r.liquidity.absoluteReferralRateSf = Fraction.zero
  · rw [if_pos hrate]
    exact if_pos hrate
  · rw [if_neg hrate]
    refine (if_neg hrate).trans ?_
    by_cases hreferrer : hasReferrer ∧ 0 < bps
    · simp only [if_pos hreferrer, map_bind]
      cases iter with
      | nil => rfl
      | cons key rest =>
        simp only [addReferrerFee, map_bind, bind_assoc, pure_bind, map_pure]
        rfl
    · simp only [if_neg hreferrer, map_bind, map_pure]
      rfl

end Calls

theorem refreshBorrow_unpriced (i : ℕ) (s : BorrowsPass) (b : ObligationLiquidity) (k : Pubkey) :
    refreshBorrow o market slot group i s.unpriced b k =
      Prod.map BorrowsPass.unpriced id <$> refreshBorrow o market slot group i s b k := by
  rw [refreshBorrow, refreshBorrow]
  show (s.reserves.unpriced.loadRemaining k >>= _) = _
  simp only [Reserves.loadRemaining_unpriced, bind_map_left, map_bind, map_pure,
    checkObligationLiquidityBorrowReserve_unpriced, trackRefreshedBorrow_unpriced,
    accumulateReferrerFees_unpriced, Prod.map_fst, Prod.map_snd, id_eq,
    BorrowsPass.unpriced_reserves, BorrowsPass.unpriced_pricesState, Reserves.store_unpriced,
    PriceStatusFlags.none_intersection]
  rfl

theorem refreshDeposit_unpriced {debt : Option (ElevationGroup × U64)} (i : ℕ) (s : DepositsPass)
    (d : ObligationCollateral) (k : Pubkey) :
    refreshDeposit market slot group debt i s.unpriced d k =
      Prod.map DepositsPass.unpriced id <$> refreshDeposit market slot group debt i s d k := by
  simp only [refreshDeposit, bind_of_ite]
  show (s.reserves.unpriced.loadRemaining k >>= _) = _
  simp only [Reserves.loadRemaining_unpriced, bind_map_left, map_bind, map_pure,
    checkObligationCollateralDepositReserve_unpriced, trackRefreshedDeposit_unpriced,
    Prod.map_fst, Prod.map_snd, id_eq, DepositsPass.unpriced_reserves,
    DepositsPass.unpriced_pricesState, Reserves.store_unpriced,
    PriceStatusFlags.none_intersection]
  rfl

@[simp] theorem Reserves.unpriced_unpriced {rs : Reserves} : rs.unpriced.unpriced = rs.unpriced := by
  funext k
  rw [unpriced, unpriced, Option.map_map]
  rfl

section Obligations

variable {rs : Reserves} {iter : List Pubkey} {states : ReferrerTokenStates}
  {stateKeys : List ReferrerTokenStateKey} {check : MaxReservesAsCollateralCheck}

def unpricedBorrows (x : Obligation × Reserves × ReferrerTokenStates ×
    RefreshObligationBorrowsResult) : Obligation × Reserves × ReferrerTokenStates ×
    RefreshObligationBorrowsResult :=
  (x.1.unpriced, x.2.1.unpriced, x.2.2.1, { x.2.2.2 with pricesState := .none })

def unpricedDeposits (x : Obligation × Reserves × RefreshObligationDepositsResult) :
    Obligation × Reserves × RefreshObligationDepositsResult :=
  (x.1.unpriced, x.2.1.unpriced, { x.2.2 with pricesState := .none })

theorem refreshObligationBorrows_unpriced :
    unpricedBorrows <$> refreshObligationBorrows o.unpriced market slot group rs.unpriced iter
        states stateKeys =
      unpricedBorrows <$> refreshObligationBorrows o market slot group rs iter states stateKeys := by
  rw [refreshObligationBorrows, refreshObligationBorrows]
  refine map_bind_congr (e := Prod.map BorrowsPass.unpriced id) ?_ ?_
  · rw [← forOccupied_map refreshBorrow_unpriced, ← forOccupied_map refreshBorrow_unpriced]
    simp only [BorrowsPass.unpriced, Reserves.unpriced_unpriced]
    rfl
  · rintro ⟨s, bs⟩ ⟨s', bs'⟩ - - heq
    obtain ⟨hs, rfl⟩ := Prod.mk.inj heq
    have hreserves : s.reserves.unpriced = s'.reserves.unpriced :=
      (congrArg BorrowsPass.reserves hs :)
    rw [BorrowsPass.eq_of_unpriced hs]
    simp only [map_bind, map_pure, unpricedBorrows, hreserves]
    rfl

theorem forOccupied_refreshDeposit_unpriced {debt : Option (ElevationGroup × U64)}
    {s s' : DepositsPass} (h : s.unpriced = s'.unpriced) {ds : List ObligationCollateral} :
    Prod.map DepositsPass.unpriced id <$> forOccupied ObligationCollateral.occupied
        (refreshDeposit market slot group debt) 0 s ds iter =
      Prod.map DepositsPass.unpriced id <$> forOccupied ObligationCollateral.occupied
        (refreshDeposit market slot group debt) 0 s' ds iter := by
  rw [← forOccupied_map refreshDeposit_unpriced, ← forOccupied_map refreshDeposit_unpriced, h]

theorem refreshObligationDeposits_unpriced {debt : Option U64} :
    unpricedDeposits <$> refreshObligationDeposits o.unpriced market slot check group rs.unpriced
        iter debt =
      unpricedDeposits <$> refreshObligationDeposits o market slot check group rs iter debt := by
  unfold refreshObligationDeposits
  cases group with
  | none =>
    cases debt with
    | some n => rfl
    | none =>
      refine map_bind_congr (e := Prod.map DepositsPass.unpriced id)
        (forOccupied_refreshDeposit_unpriced ?_) ?_
      · simp only [DepositsPass.unpriced, Reserves.unpriced_unpriced]
        rfl
      · rintro ⟨s, ds⟩ ⟨s', ds'⟩ - - heq
        obtain ⟨hs, rfl⟩ := Prod.mk.inj heq
        rw [DepositsPass.eq_of_unpriced hs]
        exact congrArg Except.ok (Prod.ext rfl (Prod.ext (congrArg DepositsPass.reserves hs :) rfl))
  | some g =>
    cases debt with
    | none => rfl
    | some n =>
      refine map_bind_congr (e := Prod.map DepositsPass.unpriced id)
        (forOccupied_refreshDeposit_unpriced ?_) ?_
      · simp only [DepositsPass.unpriced, Reserves.unpriced_unpriced]
        rfl
      · rintro ⟨s, ds⟩ ⟨s', ds'⟩ - - heq
        obtain ⟨hs, rfl⟩ := Prod.mk.inj heq
        rw [DepositsPass.eq_of_unpriced hs]
        refine map_bind_congr (e := id) rfl fun _ _ _ _ _ ↦ ?_
        exact congrArg Except.ok (Prod.ext rfl (Prod.ext (congrArg DepositsPass.reserves hs :) rfl))

theorem refreshObligation_unpriced {iter' : List Pubkey} :
    Prod.map Obligation.unpriced (Prod.map Reserves.unpriced id) <$> refreshObligation o.unpriced
        market slot check rs.unpriced iter iter' states stateKeys =
      Prod.map Obligation.unpriced (Prod.map Reserves.unpriced id) <$> refreshObligation o market
        slot check rs iter iter' states stateKeys := by
  rw [refreshObligation, refreshObligation]
  refine map_bind_congr (e := id) rfl ?_
  rintro group _ - - rfl
  refine map_bind_congr refreshObligationBorrows_unpriced ?_
  rintro ⟨o₁, rs₁, states₁, borrows⟩ ⟨o₁', rs₁', states₁', borrows'⟩ - - heq
  simp only [unpricedBorrows, Prod.mk.injEq] at heq
  obtain ⟨ho, hrs, rfl, hborrows⟩ := heq
  cases borrows
  cases borrows'
  simp only [RefreshObligationBorrowsResult.mk.injEq] at hborrows
  obtain ⟨rfl, rfl, -, rfl, rfl⟩ := hborrows
  refine map_bind_congr (e := unpricedDeposits) ?_ ?_
  · rw [← refreshObligationDeposits_unpriced, ho, hrs, refreshObligationDeposits_unpriced]
    rfl
  · rintro ⟨o₂, rs₂, deposits⟩ ⟨o₂', rs₂', deposits'⟩ - - heq
    simp only [unpricedDeposits, Prod.mk.injEq] at heq
    obtain ⟨ho, hrs, hdeposits⟩ := heq
    cases deposits
    cases deposits'
    simp only [RefreshObligationDepositsResult.mk.injEq] at hdeposits
    obtain ⟨rfl, rfl, rfl, rfl, rfl, rfl, -, rfl⟩ := hdeposits
    rw [Obligation.eq_of_unpriced ho]
    refine congrArg Except.ok (Prod.ext rfl (Prod.ext hrs rfl))

end Obligations

section Operations

variable {r : Reserve} {n : U64} {i : ℕ} {k : Pubkey}

theorem Obligation.withdraw_unpriced :
    o.unpriced.withdraw n i = Prod.map Obligation.unpriced id <$> o.withdraw n i := by
  simp only [Obligation.withdraw, map_bind]
  refine bind_congr fun d ↦ ?_
  split
  · rfl
  · simp only [map_bind, map_pure]
    rfl

theorem updateElevationGroupDebtTrackersOnFullWithdraw_unpriced {g : U8} :
    updateElevationGroupDebtTrackersOnFullWithdraw n g r.unpriced =
      Reserve.unpriced <$> updateElevationGroupDebtTrackersOnFullWithdraw n g r := by
  simp only [updateElevationGroupDebtTrackersOnFullWithdraw]
  split
  · simp only [map_bind, map_pure]
    rfl
  · rfl

/-- Without debt a withdrawal asks for no price check. -/
theorem withdrawObligationCollateral_unpriced {check : LtvMaxWithdrawalCheck}
    (hempty : o.borrowsEmpty = true) :
    withdrawObligationCollateral market r.unpriced o.unpriced n slot k check =
      Prod.map Reserve.unpriced (Prod.map Obligation.unpriced id) <$>
        withdrawObligationCollateral market r o n slot k check := by
  have hempty' : o.unpriced.borrowsEmpty = true := hempty
  have htracked : ∀ (full : Prop) [Decidable full] (g : U8) (m : U64),
      (if full then updateElevationGroupDebtTrackersOnFullWithdraw m g r.unpriced
        else pure r.unpriced) =
      Reserve.unpriced <$>
        if full then updateElevationGroupDebtTrackersOnFullWithdraw m g r else pure r := by
    intro full _ g m
    rw [updateElevationGroupDebtTrackersOnFullWithdraw_unpriced]
    split <;> rfl
  simp only [withdrawObligationCollateral, bind_of_ite, hempty, hempty', if_true,
    Bool.true_eq_false, if_false, map_bind, Reserve.lastUpdate_unpriced, Obligation.lastUpdate_unpriced, LastUpdate.requireFresh_unpriced,
    Obligation.withdraw_unpriced, htracked, bind_map_left, Prod.map_fst, Prod.map_snd, id_eq]
  rfl

theorem redeemCollateral_unpriced :
    r.unpriced.redeemCollateral n = Prod.map Reserve.unpriced id <$> r.redeemCollateral n := by
  simp only [Reserve.redeemCollateral, map_bind, map_pure]
  rfl

theorem refreshReserveLimitTimestamps_unpriced :
    refreshReserveLimitTimestamps r.unpriced n =
      Reserve.unpriced <$> refreshReserveLimitTimestamps r n := by
  simp only [refreshReserveLimitTimestamps, Reserve.updateDepositLimitCrossedTimestamp, map_bind,
    map_pure, bind_assoc, pure_bind]
  rfl

theorem redeemReserveCollateral_unpriced {clock : Clock} {caps : Bool} :
    redeemReserveCollateral r.unpriced n clock caps =
      Prod.map Reserve.unpriced id <$> redeemReserveCollateral r n clock caps := by
  simp only [redeemReserveCollateral, map_bind, Reserve.lastUpdate_unpriced,
    LastUpdate.requireFresh_unpriced, redeemCollateral_unpriced,
    refreshReserveLimitTimestamps_unpriced, bind_map_left, Prod.map_fst, Prod.map_snd, id_eq]
  cases caps with
  | false => rfl
  | true =>
    simp only [if_true, map_bind, map_pure]
    rfl

theorem accrueInterest_unpriced {bps : U16} :
    r.unpriced.accrueInterest slot bps = Reserve.unpriced <$> r.accrueInterest slot bps := by
  simp only [Reserve.accrueInterest, map_bind]
  refine bind_congr fun n ↦ ?_
  split
  · simp only [map_bind, map_pure]
    rfl
  · rfl

/-- Whether a price that is held already comes with the refresh shows in the status only. -/
theorem refreshReserve_unpriced {clock : Clock} {bps : U16} {r' : Reserve} {t : U64}
    (ht : clock.timestamp = .ok t) (hr : r.unpriced = r'.unpriced) :
    Reserve.unpriced <$> refreshReserve r clock none bps =
      Reserve.unpriced <$> refreshReserve r' clock (some r'.savedPrice) bps := by
  rw [refreshReserve_savedPrice, refreshReserve]
  refine map_bind_congr (e := Reserve.unpriced) ?_ fun r₁ r₁' _ _ hr₁ ↦ ?_
  · rw [← accrueInterest_unpriced, ← accrueInterest_unpriced, hr]
  · rw [Reserve.eq_of_unpriced hr₁, isSavedPriceAgeValid, ht]
    rfl

theorem refreshReserve_savedPrice_unpriced {clock : Clock} {bps : U16} {r' : Reserve}
    (hr : r.unpriced = r'.unpriced) :
    Reserve.unpriced <$> refreshReserve r clock (some r.savedPrice) bps =
      Reserve.unpriced <$> refreshReserve r' clock (some r'.savedPrice) bps := by
  rw [refreshReserve_savedPrice, refreshReserve_savedPrice]
  refine map_bind_congr (e := Reserve.unpriced) ?_ fun r₁ r₁' _ _ hr₁ ↦ ?_
  · rw [← accrueInterest_unpriced, ← accrueInterest_unpriced, hr]
  · rw [Reserve.eq_of_unpriced hr₁]
    rfl

end Operations

namespace World

variable {w w' : World} {clock : Clock} {index : ℕ} {k : Pubkey} {r : Reserve} {n : U64}

def unpriced (w : World) : World :=
  { w with reserves := w.reserves.unpriced, obligations := w.obligations.map Obligation.unpriced }

theorem loadReserve_unpriced :
    w.unpriced.loadReserve k = Reserve.unpriced <$> w.loadReserve k := by
  have hload : w.unpriced.reserves.load k = Reserve.unpriced <$> w.reserves.load k := by
    show w.reserves.unpriced.load k = _
    rw [Reserves.load, Reserves.load, Reserves.unpriced]
    split
    · rfl
    · cases w.reserves k <;> rfl
  simp only [loadReserve, hload, bind_map_left, map_bind, map_pure]
  rfl

theorem loadObligation_unpriced :
    w.unpriced.loadObligation index = Obligation.unpriced <$> w.loadObligation index := by
  have hget : w.unpriced.obligations[index]? =
      (w.obligations[index]?).map Obligation.unpriced := List.getElem?_map
  rw [loadObligation, loadObligation, hget]
  cases w.obligations[index]? with
  | none => rfl
  | some o =>
    simp only [Option.map_some, map_bind, map_pure]
    rfl

theorem exists_loadReserve_of_unpriced (hw : w.unpriced = w'.unpriced)
    (hr : w.loadReserve k = .ok r) :
    ∃ r', w'.loadReserve k = .ok r' ∧ r.unpriced = r'.unpriced := by
  refine exists_ok_of_map ?_ hr
  rw [← loadReserve_unpriced, hw, loadReserve_unpriced]

theorem exists_loadObligation_of_unpriced {o : Obligation} (hw : w.unpriced = w'.unpriced)
    (ho : w.loadObligation index = .ok o) :
    ∃ o', w'.loadObligation index = .ok o' ∧ o.unpriced = o'.unpriced := by
  refine exists_ok_of_map ?_ ho
  rw [← loadObligation_unpriced, hw, loadObligation_unpriced]

theorem SettledAt.of_unpriced (h : w.SettledAt clock k) (hw : w.unpriced = w'.unpriced) :
    w'.SettledAt clock k := by
  rcases h with ⟨r, hr, hfresh, hslot⟩
  obtain ⟨r', hr', hsame⟩ := exists_loadReserve_of_unpriced hw hr
  rw [Reserve.eq_of_unpriced hsame] at hr'
  exact ⟨_, hr', hfresh, hslot⟩

theorem storeReserve_unpriced : w.unpriced.storeReserve k r.unpriced =
    (w.storeReserve k r).unpriced := by
  rw [storeReserve, storeReserve, unpriced, unpriced, Reserves.store_unpriced]

theorem storeObligation_unpriced {o : Obligation} :
    w.unpriced.storeObligation index o.unpriced = (w.storeObligation index o).unpriced := by
  rw [storeObligation, storeObligation, unpriced, unpriced, List.map_set]

theorem burnCollateral_unpriced :
    w.unpriced.burnCollateral k n = unpriced <$> w.burnCollateral k n := by
  simp only [burnCollateral, map_bind, map_pure]
  rfl

theorem refreshObligation_unpriced {remaining : List Pubkey}
    {states : List ReferrerTokenStateKey} :
    unpriced <$> w.unpriced.refreshObligation clock index remaining states =
      unpriced <$> w.refreshObligation clock index remaining states := by
  rw [refreshObligation, refreshObligation]
  refine map_bind_congr (e := id) rfl ?_
  rintro ⟨⟩ ⟨⟩ - - -
  rw [loadObligation_unpriced, bind_map_left]
  refine map_bind_congr (e := id) rfl ?_
  rintro o _ - - rfl
  refine map_bind_congr (e := id) rfl ?_
  rintro lists _ - - rfl
  refine map_bind_congr (e := Prod.map Obligation.unpriced (Prod.map Reserves.unpriced id))
    Klend.refreshObligation_unpriced ?_
  rintro ⟨o₁, rs₁, states₁⟩ ⟨o₂, rs₂, states₂⟩ - - heq
  simp only [Prod.map, id_eq, Prod.mk.injEq] at heq
  obtain ⟨ho, hrs, rfl⟩ := heq
  refine congrArg Except.ok ?_
  simp only [unpriced, storeObligation, List.map_set, List.map_map, ho, hrs]
  rfl

theorem refreshObligation_congr {remaining : List Pubkey} {states : List ReferrerTokenStateKey}
    (hw : w.unpriced = w'.unpriced) :
    unpriced <$> w.refreshObligation clock index remaining states =
      unpriced <$> w'.refreshObligation clock index remaining states := by
  rw [← refreshObligation_unpriced, hw, refreshObligation_unpriced]

theorem withdrawAndRedeem_unpriced {o : Obligation} {check : LtvMaxWithdrawalCheck}
    (ho : w.loadObligation index = .ok o) (hempty : o.borrowsEmpty = true) :
    w.unpriced.withdrawObligationCollateralAndRedeemReserveCollateral clock index k n check =
      Prod.map unpriced id <$>
        w.withdrawObligationCollateralAndRedeemReserveCollateral clock index k n check := by
  simp only [withdrawObligationCollateralAndRedeemReserveCollateral, loadObligation_unpriced,
    loadReserve_unpriced, ho, map_bind, bind_map_left, ok_bind, Except.map_ok]
  refine bind_congr fun _ ↦ bind_congr fun r ↦ bind_congr fun _ ↦ ?_
  show (Klend.withdrawObligationCollateral w.lendingMarket r.unpriced o.unpriced n clock.slot k check
    >>= _) = _
  simp only [withdrawObligationCollateral_unpriced hempty, bind_map_left, Prod.map_fst, Prod.map_snd,
    id_eq, redeemReserveCollateral_unpriced, storeReserve_unpriced, storeObligation_unpriced]
  refine bind_congr fun a ↦ bind_congr fun b ↦ ?_
  rw [burnCollateral_unpriced, bind_map_left]
  rfl

theorem withdrawAndRedeem_congr {o : Obligation} {check : LtvMaxWithdrawalCheck}
    (hw : w.unpriced = w'.unpriced) (ho : w.loadObligation index = .ok o)
    (hempty : o.borrowsEmpty = true) :
    Prod.map unpriced id <$>
        w.withdrawObligationCollateralAndRedeemReserveCollateral clock index k n check =
      Prod.map unpriced id <$>
        w'.withdrawObligationCollateralAndRedeemReserveCollateral clock index k n check := by
  obtain ⟨o', ho', hsame⟩ := exists_loadObligation_of_unpriced hw ho
  have hempty' : o'.borrowsEmpty = true := by
    rw [Obligation.eq_of_unpriced hsame]
    exact hempty
  rw [← withdrawAndRedeem_unpriced ho hempty, ← withdrawAndRedeem_unpriced ho' hempty', hw]

/-- Two refreshes of a reserve that differ in the status they save. -/
theorem refreshAt_unpriced {f g : Reserve → U16 → Result Reserve}
    (hw : w.unpriced = w'.unpriced) (hf : ∀ r r' bps, r.unpriced = r'.unpriced →
      Reserve.unpriced <$> f r bps = Reserve.unpriced <$> g r' bps) :
    unpriced <$> (do let r ← w.loadReserve k
                     let r ← f r w.lendingMarket.referralFeeBps
                     pure (w.storeReserve k r)) =
      unpriced <$> (do let r ← w'.loadReserve k
                       let r ← g r w'.lendingMarket.referralFeeBps
                       pure (w'.storeReserve k r)) := by
  have hmarket : w.lendingMarket = w'.lendingMarket := (congrArg World.lendingMarket hw :)
  refine map_bind_congr (e := Reserve.unpriced) ?_ fun r r' _ _ hr ↦ ?_
  · rw [← loadReserve_unpriced, ← loadReserve_unpriced, hw]
  · rw [hmarket]
    refine map_bind_congr (e := Reserve.unpriced) (hf r r' _ hr) fun r₁ r₁' _ _ hr₁ ↦ ?_
    refine congrArg Except.ok ?_
    rw [← storeReserve_unpriced, ← storeReserve_unpriced, hw, hr₁]

theorem refreshReserveAt_unpriced {t : U64} (ht : clock.timestamp = .ok t)
    (hw : w.unpriced = w'.unpriced) :
    unpriced <$> w.refreshReserveAt clock k = unpriced <$> w'.refreshSavedAt clock k :=
  refreshAt_unpriced hw (f := fun r bps ↦ Klend.refreshReserve r clock none bps)
    (g := fun r bps ↦ Klend.refreshReserve r clock (some r.savedPrice) bps)
    fun _ _ _ ↦ refreshReserve_unpriced ht

theorem refreshSavedAt_unpriced (hw : w.unpriced = w'.unpriced) :
    unpriced <$> w.refreshSavedAt clock k = unpriced <$> w'.refreshSavedAt clock k :=
  refreshAt_unpriced hw (f := fun r bps ↦ Klend.refreshReserve r clock (some r.savedPrice) bps)
    fun _ _ _ ↦ refreshReserve_savedPrice_unpriced

theorem refreshReserves_unpriced {ks : List Pubkey} (hw : w.unpriced = w'.unpriced) :
    unpriced <$> w.refreshReserves clock ks = unpriced <$> w'.refreshReserves clock ks := by
  induction ks generalizing w w' with
  | nil => exact congrArg Except.ok hw
  | cons k ks ih =>
    rw [refreshReserves, refreshReserves]
    exact map_bind_congr (refreshSavedAt_unpriced hw) fun _ _ _ _ ↦ ih

end World

end Klend
