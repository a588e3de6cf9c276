import Klend.Positions.Contributions

/-! # What the updates do to both sides

Every update of the debt trackers, and every change of slots that an operation makes
besides, changes the trackers of the reserves by what it changes in the contributions
of the obligation. Nothing is cut off: the slots cover what is repaid, and the
trackers cover the slots.
-/

namespace Klend

section Updates

variable {market : LendingMarket} {o o' : Obligation} {r r₀ r' : Reserve} {rs rs' : Reserves}
  {n : U64} {i : ℕ} {iter iter' : List Pubkey} {key : Pubkey} {group : Option ElevationGroup}

/-- The repaid amount is counted in the slots it is taken out of. -/
structure Obligation.CountsRepay (o : Obligation) (i : ℕ) (n : U64) : Prop where
  inGroup : o.elevationGroup ≠ elevationGroupNone →
    ∀ d ∈ o.deposits, d.depositReserve ≠ 0 → (n : ℕ) ≤ d.count
  outside : o.elevationGroup = elevationGroupNone →
    ∀ b, o.borrows[i]? = some b → (n : ℕ) ≤ b.count

theorem transfers_outside {b b' : ObligationLiquidity} (hb : o.borrows[i]? = some b)
    (hkey : b.borrowReserve = key) (hkey' : b'.borrowReserve = key) (hr : rs key = some r)
    (hmoved : (r'.tracker none : ℕ) + b.count = r.tracker none + b'.count)
    (hother : ∀ u, u ≠ none → r'.tracker u = r.tracker u) :
    Transfers ObligationLiquidity.borrowReserve ObligationLiquidity.count none rs
      (rs.store key r') o.borrows (o.borrows.set i b') := by
  apply Transfers.of_set hb (.inl hkey) (.inl hkey') hr _ hother
  rw [if_pos hkey, if_pos hkey']
  exact hmoved

theorem updateOnBorrow_follows (hm : market.Validated)
    (hgroup : market.getElevationGroup o.elevationGroup = .ok group)
    (hr : rs key = some r₀) (htracker : ∀ u, r.tracker u = r₀.tracker u) (hcovered : o.CoveredBy rs)
    (hb : ∀ b, o.borrows[i]? = some b → b.borrowReserve = key)
    (h : updateElevationGroupDebtTrackersOnBorrow n o i group key r (rs.hold key) iter =
      .ok (o', r', rs')) : o.TrackersFollow o' rs (rs'.store key r') := by
  have hrel := (updateOnBorrow_retracked h).2.2
  cases group with
  | some x =>
    simp only [updateElevationGroupDebtTrackersOnBorrow, bind_eq_ok, pure_eq_ok, Prod.exists,
      Prod.mk.injEq] at h
    obtain ⟨j, hj, -, -, rs₁, ds, hloop, rfl, rfl, rfl⟩ := h
    have hid := hm.getIndex_eq hgroup hj
    refine .of_inGroup hid rfl (Transfers.store hr ?_ htracker ?_)
    · exact hrel.absent (Reserves.hold_same rs key)
    · exact @forOccupied_transfers _ _ _ _ id _ _ _ _ _ _ _ _ _ ObligationCollateral.occupied_iff
        (fun _ _ _ _ _ _ _ _ _ hbody ↦ growGroupDebt_moves hbody)
        ((hcovered.deposits hid).hold key) hloop
  | none =>
    have hnone := LendingMarket.none_of_getElevationGroup hgroup
    simp only [updateElevationGroupDebtTrackersOnBorrow, bind_eq_ok, pure_eq_ok, unwrap_eq_ok,
      okOr_eq_ok, Word.checkedAdd_eq_some, Word.add_eq_ok, Prod.mk.injEq] at h
    obtain ⟨outside, houtside, -, -, b, hbi, m, hcount, rfl, rfl, rfl⟩ := h
    have hkey := hb b hbi
    rw [World.store_hold_eq]
    refine .of_outside hnone rfl (transfers_outside hbi hkey hkey hr ?_ fun u hu ↦ ?_)
    · have h₀ := congrArg Fin.val (htracker none)
      change (r.borrowedAmountOutsideElevationGroup : ℕ) = r₀.tracker none at h₀
      rw [Reserve.tracker_setDebtOutside_same]
      show (outside : ℕ) + b.borrowedAmountOutsideElevationGroups = r₀.tracker none + (m : ℕ)
      omega
    · rw [Reserve.tracker_setDebtOutside_other hu, htracker]

theorem updateOnRepay_follows (hkey : key ≠ 0) (hr : rs key = some r₀)
    (htracker : ∀ u, r.tracker u = r₀.tracker u) (hcovered : o.CoveredBy rs)
    (hb : ∀ b, o.borrows[i]? = some b → b.borrowReserve = key) (hcounts : o.CountsRepay i n)
    (h : updateElevationGroupDebtTrackersOnRepay n o i r (rs.hold key) iter =
      .ok (o', r', rs')) : o.TrackersFollow o' rs (rs'.store key r') := by
  have hrel := (updateOnRepay_retracked h).2.2
  unfold updateElevationGroupDebtTrackersOnRepay at h
  split at h
  · next hgroup =>
    simp only [bind_eq_ok, pure_eq_ok, Prod.exists, Prod.mk.injEq] at h
    obtain ⟨j, hj, rs₁, ds, hloop, rfl, rfl, rfl⟩ := h
    have hid := (elevationGroupIndex_eq_ok.1 hj).symm
    refine .of_inGroup hid rfl (Transfers.store hr ?_ htracker ?_)
    · exact hrel.absent (Reserves.hold_same rs key)
    · exact @forOccupied_transfers _ _ _ _ id _ _ _ _ _ _ _ _ _ ObligationCollateral.occupied_iff
        (fun _ _ d _ _ _ hd hne hle hbody ↦
          shrinkGroupDebt_moves hbody (hcounts.inGroup hgroup d hd hne) hle)
        ((hcovered.deposits hid).hold key) hloop
  · next hgroup =>
    have hnone := not_not.1 hgroup
    simp only [bind_eq_ok, pure_eq_ok, unwrap_eq_ok, Prod.mk.injEq] at h
    obtain ⟨b, hbi, rfl, rfl, rfl⟩ := h
    have hbkey := hb b hbi
    -- the tracker covers the slot, and the slot the repayment
    have hcount := hcounts.outside hnone b hbi
    have hcover : (b.count : ℕ) ≤ r₀.tracker none := by
      have hle := hcovered.borrows hnone key hkey r₀ hr
      subst hbkey
      exact (count_le_countedFor (List.mem_of_getElem? hbi)).trans hle
    rw [World.store_hold_eq]
    refine .of_outside hnone rfl (transfers_outside hbi hbkey hbkey hr ?_ fun u hu ↦ ?_)
    · have h₀ := congrArg Fin.val (htracker none)
      change (r.borrowedAmountOutsideElevationGroup : ℕ) = r₀.tracker none at h₀
      rw [Reserve.tracker_setDebtOutside_same]
      show (r.borrowedAmountOutsideElevationGroup : ℕ) - n + b.count =
        r₀.tracker none + ((b.count : ℕ) - n)
      omega
    · rw [Reserve.tracker_setDebtOutside_other hu, htracker]

theorem contribution_eq_of_group {k : Pubkey} {t : Option (Fin 32)}
    (hgroup : o'.elevationGroup = o.elevationGroup)
    (hdeposits : o.elevationGroup ≠ elevationGroupNone → o'.debtAgainst k = o.debtAgainst k)
    (hborrows : o.elevationGroup = elevationGroupNone → o'.debtOutside k = o.debtOutside k) :
    o'.contribution k t = o.contribution k t := by
  cases t with
  | none =>
    rw [Obligation.contribution, Obligation.contribution, hgroup]
    split
    · next hnone => exact hborrows hnone
    · rfl
  | some j =>
    rw [Obligation.contribution, Obligation.contribution, hgroup]
    split
    · next hid =>
      apply hdeposits
      intro hnone
      rw [hnone] at hid
      exact absurd hid (Nat.succ_ne_zero _).symm
    · rfl

/-- Settling a debt leaves the contributions alone, once a slot that is cleared counts nothing
outside groups. -/
theorem repay_contribution {settle : Fraction} {k : Pubkey} {t : Option (Fin 32)} (hk : k ≠ 0)
    (hcleared : o.elevationGroup = elevationGroupNone → ∀ b, o.borrows[i]? = some b →
      settle = b.borrowedAmountSf → b.count = 0)
    (hop : o.repay settle i = .ok o') : o'.contribution k t = o.contribution k t := by
  obtain ⟨b, hb, ⟨hsettle, rfl⟩ | ⟨rest, -, -, rfl⟩⟩ := repay_spec hop
  · refine contribution_eq_of_group rfl (fun _ ↦ rfl) fun hgroup ↦ ?_
    have hzero := hcleared hgroup b hb hsettle
    have hset := @countedFor_set _ ObligationLiquidity.borrowReserve ObligationLiquidity.count _ _ _
      default hb k
    have hfree : ¬ (default : ObligationLiquidity).borrowReserve = k := fun h0 ↦ hk h0.symm
    rw [hzero, if_neg hfree] at hset
    have hnothing : (if b.borrowReserve = k then ((0 : U64) : ℕ) else 0) = 0 := by
      split <;> rfl
    rw [hnothing] at hset
    exact hset
  · refine contribution_eq_of_group rfl (fun _ ↦ rfl) fun _ ↦ ?_
    have hset := @countedFor_set _ ObligationLiquidity.borrowReserve ObligationLiquidity.count _ _ _
      { b with borrowedAmountSf := rest } hb k
    exact Nat.add_right_cancel hset

theorem withdraw_follows {kind : WithdrawResult} {d : ObligationCollateral} (hkey : key ≠ 0)
    (hd : o.deposits[i]? = some d) (hdkey : d.depositReserve = key) (hr : rs key = some r₀)
    (htracker : ∀ u, r.tracker u = r₀.tracker u) (hcovered : o.CoveredBy rs)
    (hop : o.withdraw n i = .ok (o', kind))
    (hr' : (if d.depositedAmount = n then updateElevationGroupDebtTrackersOnFullWithdraw d.count
      o.elevationGroup r else .ok r) = .ok r') : o.TrackersFollow o' rs (rs.store key r') := by
  obtain ⟨d', hd', hcases⟩ := withdraw_spec hop
  obtain rfl := Option.some.inj (hd.symm.trans hd')
  rcases hcases with ⟨hfull, -, rfl⟩ | ⟨rest, hpos, hrest, -, rfl⟩
  · rw [if_pos hfull.symm, updateElevationGroupDebtTrackersOnFullWithdraw] at hr'
    split at hr'
    · next hgroup =>
      simp only [bind_eq_ok, pure_eq_ok] at hr'
      obtain ⟨j, hj, rfl⟩ := hr'
      have hid := (elevationGroupIndex_eq_ok.1 hj).symm
      have hcover : (d.count : ℕ) ≤ r₀.tracker (some j) := by
        have hle := hcovered.deposits hid key hkey r₀ hr
        subst hdkey
        exact (count_le_countedFor (List.mem_of_getElem? hd)).trans hle
      refine .of_inGroup hid rfl (Transfers.of_set hd (.inl hdkey) (.inr rfl) hr ?_ ?_)
      · have h₀ := congrArg Fin.val (htracker (some j))
        change (r.debtInGroup j : ℕ) = r₀.tracker (some j) at h₀
        rw [Reserve.tracker_setDebtInGroup_same, if_pos hdkey,
          if_neg (show ¬ (default : ObligationCollateral).depositReserve = key from
            fun h0 ↦ hkey h0.symm)]
        show (r.debtInGroup j : ℕ) - d.count + d.count = r₀.tracker (some j) + 0
        omega
      · intro u hu
        rw [Reserve.tracker_setDebtInGroup_other hu, htracker]
    · next hgroup =>
      obtain rfl := Except.ok.inj hr'
      apply Obligation.TrackersFollow.of_tracker_eq _ (Reserves.tracker_store_eq hr htracker)
      apply Obligation.TrackersFollow.of_contribution_eq
      intro k _ t
      exact contribution_eq_of_group rfl (fun hne ↦ absurd hne hgroup) fun _ ↦ rfl
  · have hpartial : d.depositedAmount ≠ n := by
      intro heq
      rw [heq] at hrest
      omega
    rw [if_neg hpartial] at hr'
    obtain rfl := Except.ok.inj hr'
    apply Obligation.TrackersFollow.of_tracker_eq _ (Reserves.tracker_store_eq hr htracker)
    apply Obligation.TrackersFollow.of_contribution_eq
    intro k _ t
    refine contribution_eq_of_group rfl (fun _ ↦ ?_) fun _ ↦ rfl
    have hset := @countedFor_set _ ObligationCollateral.depositReserve ObligationCollateral.count _ _ _
      { d with depositedAmount := rest } hd k
    exact Nat.add_right_cancel hset

theorem deposits_set_contribution {d d' : ObligationCollateral} {k : Pubkey}
    {t : Option (Fin 32)} (hd : o.deposits[i]? = some d) (hkey : d'.depositReserve = d.depositReserve)
    (hcount : d'.count = d.count) (hgroup : o'.elevationGroup = o.elevationGroup)
    (hdeposits : o'.deposits = o.deposits.set i d') (hborrows : o'.borrows = o.borrows) :
    o'.contribution k t = o.contribution k t := by
  refine contribution_eq_of_group hgroup (fun _ ↦ ?_) fun _ ↦ ?_
  · have hset := @countedFor_set _ ObligationCollateral.depositReserve ObligationCollateral.count _ _ _
      d' hd k
    rw [hkey, hcount] at hset
    rw [Obligation.debtAgainst, hdeposits]
    exact Nat.add_right_cancel hset
  · rw [Obligation.debtOutside, hborrows, Obligation.debtOutside]

theorem findOrAddCollateral_follows {total : Option U64} {count : ℕ} {tier : AssetTier}
    {check : MaxReservesAsCollateralCheck} (hm : market.Validated)
    (hgroup : market.getElevationGroup o.elevationGroup = .ok group) (hkey : key ≠ 0)
    (hr : rs key = some r₀) (htracker : ∀ u, r.tracker u = r₀.tracker u)
    (h : o.findOrAddCollateralToDeposits key tier (fun d ↦
      updateElevationGroupDebtTrackersOnNewDeposit total d count group key r check) r =
        .ok (o', i, r')) : o.TrackersFollow o' rs (rs.store key r') := by
  rcases findOrAddCollateral_spec h with ⟨rfl, rfl, -⟩ | ⟨-, ⟨free, hfree, hfreekey⟩, d, hd, rfl⟩
  · exact (Obligation.TrackersFollow.refl _ _).of_tracker_eq (Reserves.tracker_store_eq hr htracker)
  · have hunused : ¬ free.depositReserve = key := fun h0 ↦ hkey (h0.symm.trans hfreekey)
    rcases updateOnNewDeposit_spec hd with ⟨rfl, rfl, rfl⟩ | ⟨g, j, n, m, rfl, -, hj, -, hsum, rfl,
      rfl⟩
    · have hnone := LendingMarket.none_of_getElevationGroup hgroup
      refine (Obligation.TrackersFollow.of_contribution_eq fun k _ t ↦ ?_).of_tracker_eq
        (Reserves.tracker_store_eq hr htracker)
      exact contribution_eq_of_group rfl (fun hne ↦ absurd hnone hne) fun _ ↦ rfl
    · refine .of_inGroup (hm.getIndex_eq hgroup hj) rfl
        (Transfers.of_set hfree (.inr hfreekey) (.inl rfl) hr ?_ fun u hu ↦ ?_)
      · have h₀ := congrArg Fin.val (htracker (some j))
        change (r.debtInGroup j : ℕ) = r₀.tracker (some j) at h₀
        rw [Reserve.tracker_setDebtInGroup_same, if_neg hunused,
          if_pos (show ((ObligationCollateral.new key).setDebtInGroup n).depositReserve = key from
            rfl)]
        show (m : ℕ) + 0 = r₀.tracker (some j) + (n : ℕ)
        omega
      · rw [Reserve.tracker_setDebtInGroup_other hu, htracker]

theorem depositObligationCollateral_follows {slot amount : U64}
    {check : MaxReservesAsCollateralCheck} (hm : market.Validated) (hkey : key ≠ 0)
    (hr : rs key = some r₀) (htracker : ∀ u, r.tracker u = r₀.tracker u)
    (h : depositObligationCollateral market r o slot amount key check = .ok (r', o')) :
    o.TrackersFollow o' rs (rs.store key r') := by
  obtain ⟨-, -, group, total, tier, o₁, j, r₁, d, d₁, hgroup, -, hfind, hd, hd₁, rfl, rfl, -⟩ :=
    depositObligationCollateral_spec h
  have hsame : d₁.depositReserve = d.depositReserve ∧ d₁.count = d.count := by
    simp only [ObligationCollateral.deposit, bind_eq_ok, okOr_eq_ok, pure_eq_ok] at hd₁
    obtain ⟨x, -, rfl⟩ := hd₁
    exact ⟨rfl, rfl⟩
  have hfound := findOrAddCollateral_follows hm (getElevationGroup_market hgroup) hkey hr htracker
    hfind
  refine (hfound.trans (.of_contribution_eq fun k _ t ↦ ?_)).of_tracker_eq fun k t ↦ ?_
  · exact deposits_set_contribution hd hsame.1 hsame.2 rfl rfl rfl
  · rw [Reserves.tracker, Reserves.tracker]
    by_cases hk : k = key
    · subst hk
      rw [Reserves.store_same, Reserves.store_same]
      cases t <;> rfl
    · rw [Reserves.store_other hk, Reserves.store_other hk]

end Updates

end Klend
