import Klend.Accounting.ReserveOperations
import Klend.Lending.OperationSpecs
import Klend.Library.KeyedMap

/-! # Operations on the map of reserves

Reserves related key by key, and what refreshing an obligation or updating its
debt trackers does to every reserve's books.
-/

namespace Klend

/-- Books move in step whatever the circulation is. -/
def Reserve.EvolvesAny (t : ℕ) (S F : Books → ℕ → Prop) (r r' : Reserve) : Prop :=
  ∀ c, Reserve.Evolves t S F r c r' c

section

variable {t : ℕ} {S F : Books → ℕ → Prop}

theorem Reserve.EvolvesAny.refl (r : Reserve) : EvolvesAny t S F r r := fun c ↦ .refl r c

theorem Reserve.EvolvesAny.trans {a b c : Reserve} (h : EvolvesAny t S F a b)
    (h' : EvolvesAny t S F b c) : EvolvesAny t S F a c := fun x ↦ (h x).trans (h' x)

/-- A change of debt trackers and freshness only. -/
theorem Reserve.EvolvesAny.of_trackers {r : Reserve} {outside : U64} {groups : Fin 32 → U64} :
    EvolvesAny t S F r { r with
      borrowedAmountOutsideElevationGroup := outside
      borrowedAmountsAgainstThisReserveInElevationGroups := groups } :=
  fun _ ↦ .of_books_eq rfl (.refl _) rfl rfl

end

variable {t : ℕ} {S F : Pubkey → Books → ℕ → Prop}

namespace Reserves

variable {rs rs' rs'' : Reserves} {k : Pubkey} {r r' : Reserve}

/-- The same accounts, each evolved. -/
def Evolve (t : ℕ) (S F : Pubkey → Books → ℕ → Prop) (rs rs' : Reserves) : Prop :=
  KeyedMap.Related (fun k ↦ Reserve.EvolvesAny t (S k) (F k)) rs rs'

theorem Evolve.refl (rs : Reserves) : Evolve t S F rs rs :=
  KeyedMap.Related.refl (fun _ r ↦ .refl r) rs

theorem Evolve.trans (h : Evolve t S F rs rs') (h' : Evolve t S F rs' rs'') :
    Evolve t S F rs rs'' :=
  KeyedMap.Related.trans (fun _ _ _ _ hab hbc ↦ hab.trans hbc) h h'

theorem Evolve.store (hr : rs k = some r) (h : Reserve.EvolvesAny t (S k) (F k) r r') :
    Evolve t S F rs (rs.store k r') :=
  KeyedMap.Related.update (fun _ r ↦ .refl r) hr h

theorem Evolve.store_hold (hr : rs k = some r) (hmap : Evolve t S F (rs.hold k) rs')
    (h : Reserve.EvolvesAny t (S k) (F k) r r') : Evolve t S F rs (rs'.store k r') :=
  KeyedMap.Related.update_of_erase hr hmap (fun _ _ _ _ h ↦ h) h

end Reserves

open Reserves (Evolve)

section Trackers

variable {o o' : Obligation} {r r' : Reserve} {rs rs' : Reserves} {n : U64} {i : ℕ}
  {iter iter' : List Pubkey} {key : Pubkey} {group : Option ElevationGroup}

theorem updateOnBorrow_evolves
    (h : updateElevationGroupDebtTrackersOnBorrow n o i group key r rs iter =
      .ok (o', r', rs')) :
    Reserve.EvolvesAny t (S key) (F key) r r' ∧ Evolve t S F rs rs' := by
  cases group with
  | none =>
    simp only [updateElevationGroupDebtTrackersOnBorrow, bind_eq_ok, pure_eq_ok,
      Prod.mk.injEq] at h
    obtain ⟨-, -, -, -, -, -, -, -, -, rfl, rfl⟩ := h
    exact ⟨.of_trackers, .refl _⟩
  | some g =>
    simp only [updateElevationGroupDebtTrackersOnBorrow, bind_eq_ok, pure_eq_ok, Prod.exists,
      Prod.mk.injEq] at h
    obtain ⟨j, -, -, -, rs₁, ds, hloop, -, rfl, rfl⟩ := h
    refine ⟨.refl _, forOccupied_relates .refl .trans ?_ hloop⟩
    intro _ s d k s' d' _ hbody
    simp only [growGroupDebt, bind_eq_ok, pure_eq_ok, Reserves.loadRemaining_eq_ok,
      Prod.mk.injEq] at hbody
    obtain ⟨r₁, ⟨-, hr₁⟩, -, -, -, -, -, -, -, -, rfl, -⟩ := hbody
    exact Evolve.store hr₁ .of_trackers

/-- A repayment's tracker update touches nothing of the repaid reserve but its own tracker. -/
theorem updateOnRepay_evolves
    (h : updateElevationGroupDebtTrackersOnRepay n o i r rs iter = .ok (o', r', rs')) :
    (∃ outside, r' = { r with borrowedAmountOutsideElevationGroup := outside }) ∧
      Evolve t S F rs rs' := by
  unfold updateElevationGroupDebtTrackersOnRepay at h
  split at h
  · simp only [bind_eq_ok, pure_eq_ok, Prod.exists, Prod.mk.injEq] at h
    obtain ⟨j, -, rs₁, ds, hloop, -, rfl, rfl⟩ := h
    refine ⟨⟨_, rfl⟩, forOccupied_relates .refl .trans ?_ hloop⟩
    intro _ s d k s' d' _ hbody
    simp only [shrinkGroupDebt, bind_eq_ok, pure_eq_ok, Reserves.loadRemaining_eq_ok,
      Prod.mk.injEq] at hbody
    obtain ⟨r₁, ⟨-, hr₁⟩, -, -, rfl, -⟩ := hbody
    exact Evolve.store hr₁ .of_trackers
  · simp only [bind_eq_ok, pure_eq_ok, Prod.mk.injEq] at h
    obtain ⟨-, -, -, rfl, rfl⟩ := h
    exact ⟨⟨_, rfl⟩, .refl _⟩

theorem updateOnFullWithdraw_evolves {g : U8} {S F : Books → ℕ → Prop}
    (h : updateElevationGroupDebtTrackersOnFullWithdraw n g r = .ok r') :
    Reserve.EvolvesAny t S F r r' := by
  unfold updateElevationGroupDebtTrackersOnFullWithdraw at h
  split at h
  · simp only [bind_eq_ok, pure_eq_ok] at h
    obtain ⟨j, -, rfl⟩ := h
    exact .of_trackers
  · rw [pure_eq_ok] at h
    exact h ▸ .refl r

theorem updateOnNewDeposit_evolves {total : Option U64} {d d' : ObligationCollateral} {count : ℕ}
    {check : MaxReservesAsCollateralCheck}
    (h : updateElevationGroupDebtTrackersOnNewDeposit total d count group key r check =
      .ok (d', r')) : Reserve.EvolvesAny t (S key) (F key) r r' := by
  cases group with
  | none =>
    simp only [updateElevationGroupDebtTrackersOnNewDeposit, pure_eq_ok, Prod.mk.injEq] at h
    exact h.2 ▸ .refl r
  | some g =>
    simp only [updateElevationGroupDebtTrackersOnNewDeposit, bind_eq_ok, pure_eq_ok,
      Prod.mk.injEq] at h
    obtain ⟨-, -, -, -, -, -, -, -, -, -, -, rfl⟩ := h
    exact .of_trackers

theorem findOrAddCollateral_evolves {total : Option U64} {count : ℕ} {S F : Books → ℕ → Prop}
    {check : MaxReservesAsCollateralCheck} {tier : AssetTier}
    (h : o.findOrAddCollateralToDeposits key tier (fun d ↦
      updateElevationGroupDebtTrackersOnNewDeposit total d count group key r check) r =
        .ok (o', i, r')) : Reserve.EvolvesAny t S F r r' := by
  unfold Obligation.findOrAddCollateralToDeposits at h
  split at h
  · simp only [pure_eq_ok, Prod.mk.injEq] at h
    exact h.2.2 ▸ .refl r
  · split at h
    · simp only [bind_eq_ok, pure_eq_ok, Prod.exists, Prod.mk.injEq] at h
      obtain ⟨d, r₁, hnew, -, -, rfl⟩ := h
      exact updateOnNewDeposit_evolves (S := fun _ ↦ S) (F := fun _ ↦ F) hnew
    · simp at h

theorem borrowObligationLiquidity_evolves {market : LendingMarket} {amount : U64} {clock : Clock}
    {ost ost' : Option ReferrerTokenState} {res : CalculateBorrowResult}
    (h : borrowObligationLiquidity market r o amount clock key ost rs iter =
      .ok (r', o', ost', rs', res)) :
    Reserve.EvolvesAny t (S key) (F key) r r' ∧ Evolve t S F rs rs' := by
  obtain ⟨-, -, -, -, n, cap, l, tier, o₁, i, b, b₁, r₁, group, b₂, -, hl, -, -, -, hcredit, -,
    htrack, -, -⟩ := borrowObligationLiquidity_spec h
  obtain ⟨hr, hrs⟩ := updateOnBorrow_evolves (t := t) (S := S) (F := F) htrack
  refine ⟨fun c ↦ ?_, hrs⟩
  exact (((Reserve.borrow_moves _ hl).markStale.trans
    (Reserve.creditReferrer_moves hcredit)).toEvolves).trans (hr c)

theorem resetElevationGroupDebts_evolves
    (h : resetElevationGroupDebts o group rs iter iter' = .ok (o', rs')) :
    Evolve t S F rs rs' := by
  cases group with
  | none =>
    simp only [resetElevationGroupDebts, bind_eq_ok, pure_eq_ok, Prod.exists,
      Prod.mk.injEq, forOccupiedExact_eq_ok] at h
    obtain ⟨rs₁, bs, ⟨hloop, -⟩, -, rfl⟩ := h
    refine forOccupied_relates .refl .trans ?_ hloop
    intro _ s d k s' d' _ hbody
    simp only [resetOutsideDebt, bind_eq_ok, pure_eq_ok, Reserves.loadRemaining_eq_ok,
      Prod.mk.injEq] at hbody
    obtain ⟨r₁, ⟨-, hr₁⟩, rfl, -⟩ := hbody
    exact Evolve.store hr₁ .of_trackers
  | some g =>
    simp only [resetElevationGroupDebts, bind_eq_ok, pure_eq_ok, Prod.exists,
      Prod.mk.injEq, forOccupiedExact_eq_ok] at h
    obtain ⟨j, -, rs₁, ds, ⟨hloop, -⟩, -, rfl⟩ := h
    refine forOccupied_relates .refl .trans ?_ hloop
    intro _ s d k s' d' _ hbody
    simp only [resetGroupDebt, bind_eq_ok, pure_eq_ok, Reserves.loadRemaining_eq_ok,
      Prod.mk.injEq] at hbody
    obtain ⟨r₁, ⟨-, hr₁⟩, -, -, rfl, -⟩ := hbody
    exact Evolve.store hr₁ .of_trackers

end Trackers

section Refresh

variable {o o' : Obligation} {rs rs' : Reserves} {market : LendingMarket} {slot : U64}
  {iter iter' : List Pubkey} {group : Option ElevationGroup}
  {states states' : ReferrerTokenStates} {stateKeys : List ReferrerTokenStateKey}
  {check : MaxReservesAsCollateralCheck}

theorem trackRefreshedBorrow_evolves {key : Pubkey} {r r' : Reserve}
    {b b' : ObligationLiquidity} {n : U64}
    (h : trackRefreshedBorrow group key r b n = .ok (r', b')) :
    Reserve.EvolvesAny t (S key) (F key) r r' := by
  cases group with
  | none =>
    simp only [trackRefreshedBorrow, bind_eq_ok, pure_eq_ok, Prod.mk.injEq] at h
    obtain ⟨-, -, rfl, -⟩ := h
    exact .of_trackers
  | some g =>
    simp only [trackRefreshedBorrow, bind_eq_ok, pure_eq_ok, Prod.mk.injEq] at h
    obtain ⟨-, -, -, -, rfl, -⟩ := h
    exact .refl r

theorem trackRefreshedDeposit_evolves {key : Pubkey} {r r' : Reserve}
    {d d' : ObligationCollateral} {withDebt : Option (ElevationGroup × U64)}
    (h : trackRefreshedDeposit withDebt key r d = .ok (r', d')) :
    Reserve.EvolvesAny t (S key) (F key) r r' := by
  cases withDebt with
  | none =>
    simp only [trackRefreshedDeposit, pure_eq_ok, Prod.mk.injEq] at h
    exact h.1 ▸ .refl r
  | some g =>
    simp only [trackRefreshedDeposit, bind_eq_ok, pure_eq_ok, Prod.mk.injEq] at h
    obtain ⟨-, -, -, -, -, -, -, -, rfl, -⟩ := h
    exact .of_trackers

theorem refreshObligationBorrows_evolves {borrows : RefreshObligationBorrowsResult}
    (h : refreshObligationBorrows o market slot group rs iter states stateKeys =
      .ok (o', rs', states', borrows)) : Evolve t S F rs rs' := by
  obtain ⟨s, slots, hloop, -, -, rfl, -⟩ := refreshObligationBorrows_spec h
  refine forOccupied_relates (R := fun s s' : BorrowsPass ↦
    Evolve t S F s.reserves s'.reserves) (fun _ ↦ .refl _) .trans ?_
    hloop
  intro _ s b k s' b' _ hbody
  obtain ⟨r, b₁, n, r₁, b₂, slots, r₂, mv, bfmv, -, hr, -, -, -, -, -, -, htrack, -, hfees, -, -, -,
    -, hstore, -⟩ := refreshBorrow_spec hbody
  rw [hstore]
  refine Evolve.store hr (.trans (trackRefreshedBorrow_evolves htrack) fun c ↦ ?_)
  exact (Reserve.accumulateReferrerFees_moves hfees).toEvolves

theorem refreshObligationDeposits_evolves {debt : Option U64}
    {deposits : RefreshObligationDepositsResult}
    (h : refreshObligationDeposits o market slot check group rs iter debt =
      .ok (o', rs', deposits)) : Evolve t S F rs rs' := by
  obtain ⟨-, s, slots, hloop, -, rfl, -⟩ := refreshObligationDeposits_spec h
  refine forOccupied_relates (R := fun s s' : DepositsPass ↦
    Evolve t S F s.reserves s'.reserves) (fun _ ↦ .refl _) .trans ?_
    hloop
  intro _ s d k s' d' _ hbody
  obtain ⟨r, r₁, d₁, mv, al, un, -, hr, -, -, -, htrack, -, -, -, -, -, -, hstore, -⟩ :=
    refreshDeposit_spec hbody
  rw [hstore]
  exact Evolve.store hr (trackRefreshedDeposit_evolves htrack)

theorem refreshObligation_evolves
    (h : refreshObligation o market slot check rs iter iter' states stateKeys =
      .ok (o', rs', states')) : Evolve t S F rs rs' := by
  obtain ⟨group, o₁, rs₁, borrows, o₂, deposits, -, hb, hd, -⟩ := refreshObligation_spec h
  exact (refreshObligationBorrows_evolves hb).trans (refreshObligationDeposits_evolves hd)

theorem requestElevationGroup_evolves {newGroup : U8}
    (h : requestElevationGroup o market slot newGroup rs iter iter' states stateKeys =
      .ok (o', rs', states')) : Evolve t S F rs rs' := by
  obtain ⟨-, -, old, group, o₁, rs₁, o₂, rs₂, borrows, o₃, deposits, -, hreset, -, hb, hd, -⟩ :=
    requestElevationGroup_spec h
  exact ((resetElevationGroupDebts_evolves hreset).trans
    (refreshObligationBorrows_evolves hb)).trans (refreshObligationDeposits_evolves hd)

end Refresh

end Klend
