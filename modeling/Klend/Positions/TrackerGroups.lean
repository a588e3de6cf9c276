import Klend.Positions.TrackerRefresh

/-! # What a change of group does to both sides

A request takes the contributions out of the trackers of the old group, and the
refresh that follows puts the debts into those of the new one. In between the slots
count nothing, so the group can be exchanged.
-/

namespace Klend

namespace Obligation

/-- No slot counts any debt. -/
structure Uncounted (o : Obligation) : Prop where
  deposits : o.DepositsUncounted
  borrows : o.BorrowsUncounted

/-- The slots of the side that the group does not count hold no counts. -/
structure OneSided (o : Obligation) : Prop where
  inGroup : o.elevationGroup ≠ elevationGroupNone → o.BorrowsUncounted
  outside : o.elevationGroup = elevationGroupNone → o.DepositsUncounted

theorem Uncounted.contribution {o : Obligation} {k : Pubkey} {t : Option (Fin 32)}
    (h : o.Uncounted) (hk : k ≠ 0) : o.contribution k t = 0 := by
  cases t with
  | none =>
    rw [Obligation.contribution, debtOutside, h.borrows.countedFor hk]
    exact ite_self 0
  | some j =>
    rw [Obligation.contribution, debtAgainst, h.deposits.countedFor hk]
    exact ite_self 0

end Obligation

section Reset

variable {market : LendingMarket} {o o₁ : Obligation} {rs rs₁ : Reserves} {g : ElevationGroup}
  {iter iter' : List Pubkey}

theorem resetGroup_follows (hm : market.Validated)
    (hgroup : market.getElevationGroup o.elevationGroup = .ok (some g)) (hcovered : o.CoveredBy rs)
    (h : resetElevationGroupDebts o (some g) rs iter iter' = .ok (o₁, rs₁)) :
    o.TrackersFollow o₁ rs rs₁ ∧ o₁.DepositsUncounted := by
  simp only [resetElevationGroupDebts, bind_eq_ok, pure_eq_ok, Prod.exists, Prod.mk.injEq,
    forOccupiedExact_eq_ok] at h
  obtain ⟨j, hj, rs₁, ds, ⟨hloop, -⟩, rfl, rfl⟩ := h
  have hid := hm.getIndex_eq hgroup hj
  constructor
  · refine .of_inGroup hid rfl ?_
    exact @forOccupied_transfers _ _ _ _ id _ _ _ _ _ _ _ _ _ ObligationCollateral.occupied_iff
      (fun _ _ _ _ _ _ _ _ hle hbody ↦ resetGroupDebt_moves hbody hle)
      (hcovered.deposits hid) hloop
  · have hslots := forOccupied_forall₂ (Q := fun _ d' : ObligationCollateral ↦
      d'.depositReserve ≠ 0 → d'.count = 0) (fun d hfree hne ↦ ?_) ?_ hloop
    · intro d hd hne
      obtain ⟨i, hi⟩ := List.mem_iff_getElem?.1 hd
      obtain ⟨-, -, hcount⟩ := SlotTable.exists_of_forall₂_right hslots hi
      exact hcount hne
    · rw [(ObligationCollateral.occupied_iff d).2 hne] at hfree
      cases hfree
    · intro _ s d k s' d' _ hbody _
      obtain ⟨-, -, -, -, rfl⟩ := resetGroupDebt_spec hbody
      rfl

/-- Entering a group takes every debt's count out of the outside tracker of its own reserve, where
the accounts given are those of the debts. -/
theorem resetOutside_follows (hgroup : o.elevationGroup = elevationGroupNone)
    (hcovered : o.CoveredBy rs)
    (hkeys : (o.borrows.filter ObligationLiquidity.occupied).map ObligationLiquidity.borrowReserve
      <+: iter')
    (h : resetElevationGroupDebts o none rs iter iter' = .ok (o₁, rs₁)) :
    o.TrackersFollow o₁ rs rs₁ ∧ o₁.BorrowsUncounted := by
  simp only [resetElevationGroupDebts, bind_eq_ok, pure_eq_ok, Prod.exists, Prod.mk.injEq,
    forOccupiedExact_eq_ok] at h
  obtain ⟨rs₁, bs, ⟨hloop, -⟩, rfl, rfl⟩ := h
  constructor
  · refine .of_outside hgroup rfl ?_
    refine @forOccupied_transfers _ _ _ _ id _ _ _ _ _ _ _ _ _ ObligationLiquidity.occupied_iff
      (fun _ _ _ _ _ _ _ _ hle hbody ↦ ?_) (hcovered.borrows hgroup)
      (forOccupied_checked hkeys hloop)
    split at hbody
    · next hkey => exact resetOutsideDebt_moves hkey hbody hle
    · cases hbody
  · have hslots := forOccupied_forall₂ (Q := fun _ b' : ObligationLiquidity ↦
      b'.borrowReserve ≠ 0 → b'.count = 0) (fun b hfree hne ↦ ?_) ?_ hloop
    · intro b hb hne
      obtain ⟨i, hi⟩ := List.mem_iff_getElem?.1 hb
      obtain ⟨-, -, hcount⟩ := SlotTable.exists_of_forall₂_right hslots hi
      exact hcount hne
    · rw [(ObligationLiquidity.occupied_iff b).2 hne] at hfree
      cases hfree
    · intro _ s b k s' b' _ hbody _
      obtain ⟨-, -, -, rfl⟩ := resetOutsideDebt_spec hbody
      rfl

end Reset

section Passes

variable {market : LendingMarket} {o o₁ o₂ : Obligation} {slot : U64} {id : U8}
  {group : Option ElevationGroup} {rs rs₁ rs₂ : Reserves} {iter iter' : List Pubkey}
  {states states' : ReferrerTokenStates} {stateKeys : List ReferrerTokenStateKey}
  {check : MaxReservesAsCollateralCheck} {borrows : RefreshObligationBorrowsResult}
  {deposits : RefreshObligationDepositsResult}

theorem refreshPasses_follow (hm : market.Validated)
    (hgroup : getElevationGroup id market = .ok group)
    (hcovered : Obligation.CoveredBy { o with elevationGroup := id } rs)
    (hb : refreshObligationBorrows o market slot group rs iter' states stateKeys =
      .ok (o₁, rs₁, states', borrows))
    (hd : refreshObligationDeposits o₁ market slot check group rs₁ iter
      borrows.borrowedAmountInElevationGroup = .ok (o₂, rs₂, deposits)) :
    Obligation.TrackersFollow { o with elevationGroup := id } { o₂ with elevationGroup := id } rs
      rs₂ := by
  have hdeposits : o₁.deposits = o.deposits := by rw [(refreshObligationBorrows_frame hb).2.2]
  have hborrows : o₂.borrows = o₁.borrows := by rw [(refreshObligationDeposits_frame hd).2.2]
  have hdebt : group.isSome = borrows.borrowedAmountInElevationGroup.isSome :=
    (refreshObligationDeposits_spec hd).1
  cases group with
  | none =>
    have hnone := LendingMarket.none_of_getElevationGroup (getElevationGroup_market hgroup)
    have hundebted : borrows.borrowedAmountInElevationGroup = none := by
      rw [← Option.not_isSome_iff_eq_none, ← hdebt]
      exact Bool.false_ne_true
    rw [hundebted] at hd
    have hcover : Covers ObligationLiquidity.borrowReserve ObligationLiquidity.count none rs
        o.borrows := hcovered.borrows hnone
    have htransfers := refreshObligationBorrows_transfers hcover hb
    refine Obligation.TrackersFollow.of_tracker_eq (.of_outside hnone rfl ?_)
      (refreshObligationDeposits_keeps hd).1
    show Transfers _ _ _ _ _ o.borrows o₂.borrows
    rw [hborrows]
    exact htransfers
  | some g =>
    obtain ⟨n, hn⟩ := Option.isSome_iff_exists.1 hdebt.symm
    rw [hn] at hd
    obtain ⟨j, hj, hid⟩ := hm.exists_index_of_usable hgroup
    have htracker := refreshObligationBorrows_tracker rfl hb
    have hsame : Obligation.TrackersFollow { o with elevationGroup := id }
        { o₁ with elevationGroup := id } rs rs₁ := by
      refine (Obligation.TrackersFollow.of_contribution_eq fun k _ t ↦ ?_).of_tracker_eq htracker
      refine contribution_eq_of_group rfl (fun _ ↦ ?_) fun hnone ↦ ?_
      · rw [Obligation.debtAgainst, Obligation.debtAgainst]
        exact congrArg (countedFor _ _ k) hdeposits
      · rw [show id = elevationGroupNone from hnone] at hid
        exact absurd hid (Nat.succ_ne_zero _).symm
    have hcover : Covers ObligationCollateral.depositReserve ObligationCollateral.count (some j) rs₁
        o₁.deposits := (hsame.coveredBy hcovered).deposits hid
    have htransfers := refreshObligationDeposits_transfers hj hcover hd
    exact hsame.trans (.of_inGroup hid rfl htransfers)

theorem filter_occupied_map {σ : Type} {key : σ → Pubkey} {occupied : σ → Bool} {xs ys : List σ}
    (hocc : ∀ x, occupied x = true ↔ key x ≠ 0)
    (h : List.Forall₂ (fun x y ↦ key y = key x) xs ys) :
    (ys.filter occupied).map key = (xs.filter occupied).map key := by
  induction h with
  | nil => rfl
  | @cons x y xs ys hkey _ ih =>
    have hsame : occupied y = occupied x := by
      rw [Bool.eq_iff_iff, hocc, hocc, hkey]
    cases hx : occupied x with
    | true =>
      rw [List.filter_cons_of_pos (hsame.trans hx), List.filter_cons_of_pos hx, List.map_cons,
        List.map_cons, hkey, ih]
    | false =>
      rw [List.filter_cons_of_neg (by rw [hsame, hx]; exact Bool.false_ne_true),
        List.filter_cons_of_neg (by rw [hx]; exact Bool.false_ne_true), ih]

theorem refreshObligationBorrows_keys
    (h : refreshObligationBorrows o market slot group rs iter' states stateKeys =
      .ok (o₁, rs₁, states', borrows)) :
    (o.borrows.filter ObligationLiquidity.occupied).map ObligationLiquidity.borrowReserve
      <+: iter' := by
  obtain ⟨s, slots, hloop, -⟩ := refreshObligationBorrows_spec h
  refine forOccupied_keys (fun _ s b k s' b' hbody ↦ ?_) hloop
  obtain ⟨-, -, -, -, -, -, -, -, -, -, -, hkey, -⟩ := refreshBorrow_spec hbody
  exact hkey.symm

end Passes

section Request

variable {market : LendingMarket} {o o' : Obligation} {slot : U64} {newGroup : U8}
  {rs rs' : Reserves} {iter iter' : List Pubkey} {states states' : ReferrerTokenStates}
  {stateKeys : List ReferrerTokenStateKey}

theorem resetElevationGroupDebts_follows {oldGroup : Option ElevationGroup} {o₁ : Obligation}
    {rs₁ : Reserves} (hm : market.Validated)
    (hgroup : getElevationGroup o.elevationGroup market = .ok oldGroup) (hcovered : o.CoveredBy rs)
    (hsided : o.OneSided)
    (hkeys : (o₁.borrows.filter ObligationLiquidity.occupied).map ObligationLiquidity.borrowReserve
      <+: iter')
    (h : resetElevationGroupDebts o oldGroup rs iter iter' = .ok (o₁, rs₁)) :
    o.TrackersFollow o₁ rs rs₁ ∧ o₁.Uncounted := by
  have hretracked := (resetElevationGroupDebts_retracked h).1
  have hmarket := getElevationGroup_market hgroup
  cases oldGroup with
  | none =>
    have hnone := LendingMarket.none_of_getElevationGroup hmarket
    have hsame : List.Forall₂ (fun b b' ↦ ObligationLiquidity.borrowReserve b' =
        ObligationLiquidity.borrowReserve b) o.borrows o₁.borrows := by
      apply hretracked.borrows.imp
      rintro b b' ⟨n, rfl⟩
      rfl
    rw [filter_occupied_map ObligationLiquidity.occupied_iff hsame] at hkeys
    obtain ⟨hfollows, hcounts⟩ := resetOutside_follows hnone hcovered hkeys h
    have hdeposits : o₁.deposits = o.deposits := by
      simp only [resetElevationGroupDebts, bind_eq_ok, pure_eq_ok, Prod.exists,
        Prod.mk.injEq] at h
      obtain ⟨-, -, -, rfl, -⟩ := h
      rfl
    refine ⟨hfollows, ?_, hcounts⟩
    rw [Obligation.DepositsUncounted, hdeposits]
    exact hsided.outside hnone
  | some g =>
    obtain ⟨hfollows, hcounts⟩ := resetGroup_follows hm hmarket hcovered h
    have hborrows : o₁.borrows = o.borrows := by
      simp only [resetElevationGroupDebts, bind_eq_ok, pure_eq_ok, Prod.exists,
        Prod.mk.injEq] at h
      obtain ⟨-, -, -, -, -, rfl, -⟩ := h
      rfl
    obtain ⟨j, -, hid⟩ := hm.exists_index_of_usable hgroup
    refine ⟨hfollows, hcounts, ?_⟩
    rw [Obligation.BorrowsUncounted, hborrows]
    refine hsided.inGroup fun hnone ↦ ?_
    rw [hnone] at hid
    exact absurd hid (Nat.succ_ne_zero _).symm

theorem requestElevationGroup_follows (hm : market.Validated) (hcovered : o.CoveredBy rs)
    (hsided : o.OneSided)
    (h : requestElevationGroup o market slot newGroup rs iter iter' states stateKeys =
      .ok (o', rs', states')) : o.TrackersFollow o' rs rs' := by
  obtain ⟨-, -, oldGroup, group, o₁, rs₁, o₂, rs₂, borrows, o₃, deposits, hold, hreset, hgroup, hb,
    hd, rfl, -⟩ := requestElevationGroup_spec h
  obtain ⟨hfollows, huncounted⟩ := resetElevationGroupDebts_follows hm hold hcovered hsided
    (refreshObligationBorrows_keys hb) hreset
  -- counting nothing, the obligation may change its group
  have hswitch : o₁.TrackersFollow { o₁ with elevationGroup := newGroup } rs₁ rs₁ := by
    apply Obligation.TrackersFollow.of_contribution_eq
    intro k hk t
    have hswitched : Obligation.Uncounted { o₁ with elevationGroup := newGroup } :=
      ⟨huncounted.deposits, huncounted.borrows⟩
    rw [hswitched.contribution hk, huncounted.contribution hk]
  have hbefore := hfollows.trans hswitch
  have hafter := refreshPasses_follow hm hgroup (hbefore.coveredBy hcovered) hb hd
  exact hbefore.trans hafter

end Request

end Klend
