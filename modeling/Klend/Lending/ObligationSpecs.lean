import Klend.Lending.InstructionSpecs
import Klend.Library.KeyedMap

/-! # What happens to an obligation

The slots that an operation finds or opens, what an update of debt trackers or a
refresh leaves alone, and the one obligation that an instruction changes.
-/

namespace Klend

/-- Nothing of a reserve changes but its debt trackers and its fee accounts. -/
def Reserve.Rebooked (r r' : Reserve) : Prop :=
  ∃ (outside : U64) (groups : Fin 32 → U64) (protocolFees referrerFees pendingFees : Fraction),
    r' = { r with
      borrowedAmountOutsideElevationGroup := outside
      borrowedAmountsAgainstThisReserveInElevationGroups := groups
      liquidity := { r.liquidity with
        accumulatedProtocolFeesSf := protocolFees
        accumulatedReferrerFeesSf := referrerFees
        pendingReferrerFeesSf := pendingFees } }

/-- Nothing of a reserve changes but its debt trackers. -/
def Reserve.Retracked (r r' : Reserve) : Prop :=
  ∃ (outside : U64) (groups : Fin 32 → U64), r' = { r with
    borrowedAmountOutsideElevationGroup := outside
    borrowedAmountsAgainstThisReserveInElevationGroups := groups }

/-- Nothing of an obligation changes but the debt trackers of its slots. -/
structure Obligation.Retracked (o o' : Obligation) : Prop where
  deposits : List.Forall₂ (fun d d' ↦ ∃ n, d' = ObligationCollateral.setDebtInGroup d n)
    o.deposits o'.deposits
  borrows : List.Forall₂ (fun b b' ↦ ∃ n, b' = ObligationLiquidity.setDebtOutside b n)
    o.borrows o'.borrows
  frame : o' = { o with deposits := o'.deposits, borrows := o'.borrows }

namespace Reserve.Rebooked

variable {a b c : Reserve}

theorem refl (r : Reserve) : Rebooked r r := ⟨_, _, _, _, _, rfl⟩

theorem trans (h : Rebooked a b) (h' : Rebooked b c) : Rebooked a c := by
  obtain ⟨o₁, g₁, p₁, f₁, q₁, rfl⟩ := h
  obtain ⟨o₂, g₂, p₂, f₂, q₂, rfl⟩ := h'
  exact ⟨o₂, g₂, p₂, f₂, q₂, rfl⟩

end Reserve.Rebooked

namespace Reserve.Retracked

variable {a b c : Reserve}

theorem refl (r : Reserve) : Retracked r r := ⟨_, _, rfl⟩

theorem trans (h : Retracked a b) (h' : Retracked b c) : Retracked a c := by
  obtain ⟨o₁, g₁, rfl⟩ := h
  obtain ⟨o₂, g₂, rfl⟩ := h'
  exact ⟨o₂, g₂, rfl⟩

theorem setDebtInGroup (r : Reserve) (i : Fin 32) (n : U64) : Retracked r (r.setDebtInGroup i n) :=
  ⟨_, _, rfl⟩

theorem setDebtOutside (r : Reserve) (n : U64) : Retracked r (r.setDebtOutside n) := ⟨_, _, rfl⟩

theorem rebooked (h : Retracked a b) : Rebooked a b := by
  obtain ⟨outside, groups, rfl⟩ := h
  exact ⟨_, _, _, _, _, rfl⟩

end Reserve.Retracked

/-- Every reserve of the map is only rebooked. -/
def Reserves.Rebooked : Reserves → Reserves → Prop := KeyedMap.Related fun _ ↦ Reserve.Rebooked

namespace Reserves.Rebooked

variable {rs rs' rs'' : Reserves} {k : Pubkey} {r r' : Reserve}

theorem refl (rs : Reserves) : Rebooked rs rs :=
  KeyedMap.Related.refl (fun _ r ↦ Reserve.Rebooked.refl r) rs

theorem trans (h : Rebooked rs rs') (h' : Rebooked rs' rs'') : Rebooked rs rs'' :=
  KeyedMap.Related.trans (fun _ _ _ _ hab hbc ↦ hab.trans hbc) h h'

theorem store (hr : rs k = some r) (h : Reserve.Rebooked r r') : Rebooked rs (rs.store k r') :=
  KeyedMap.Related.update (fun _ r ↦ Reserve.Rebooked.refl r) hr h

end Reserves.Rebooked

/-- Every reserve of the map keeps everything but its debt trackers. -/
def Reserves.Retracked : Reserves → Reserves → Prop := KeyedMap.Related fun _ ↦ Reserve.Retracked

namespace Reserves.Retracked

variable {rs rs' rs'' : Reserves} {k : Pubkey} {r r' : Reserve}

theorem refl (rs : Reserves) : Retracked rs rs :=
  KeyedMap.Related.refl (fun _ r ↦ Reserve.Retracked.refl r) rs

theorem trans (h : Retracked rs rs') (h' : Retracked rs' rs'') : Retracked rs rs'' :=
  KeyedMap.Related.trans (fun _ _ _ _ hab hbc ↦ hab.trans hbc) h h'

theorem store (hr : rs k = some r) (h : Reserve.Retracked r r') : Retracked rs (rs.store k r') :=
  KeyedMap.Related.update (fun _ r ↦ Reserve.Retracked.refl r) hr h

theorem rebooked (h : Retracked rs rs') : Reserves.Rebooked rs rs' :=
  KeyedMap.Related.mono (fun _ _ _ h ↦ h.rebooked) h

end Reserves.Retracked

namespace Obligation.Retracked

variable {o o' : Obligation}

theorem of_deposits {ds : List ObligationCollateral}
    (h : List.Forall₂ (fun d d' ↦ ∃ n, d' = ObligationCollateral.setDebtInGroup d n)
      o.deposits ds) : Retracked o { o with deposits := ds } :=
  ⟨h, List.forall₂_same.2 fun _ _ ↦ ⟨_, rfl⟩, rfl⟩

theorem of_borrows {bs : List ObligationLiquidity}
    (h : List.Forall₂ (fun b b' ↦ ∃ n, b' = ObligationLiquidity.setDebtOutside b n)
      o.borrows bs) : Retracked o { o with borrows := bs } :=
  ⟨List.forall₂_same.2 fun _ _ ↦ ⟨_, rfl⟩, h, rfl⟩

theorem of_borrow {i : ℕ} {b : ObligationLiquidity} {n : U64} (hb : o.borrows[i]? = some b) :
    Retracked o { o with borrows := o.borrows.set i (b.setDebtOutside n) } := by
  refine of_borrows (List.forall₂_iff_get.2 ⟨by simp, fun j hj hj' ↦ ?_⟩)
  obtain ⟨hi, rfl⟩ := List.getElem?_eq_some_iff.1 hb
  rw [List.get_eq_getElem, List.get_eq_getElem, List.getElem_set]
  by_cases hij : i = j
  · subst hij
    exact ⟨n, if_pos rfl⟩
  · exact ⟨_, if_neg hij⟩

end Obligation.Retracked

section Trackers

variable {o o' : Obligation} {r r' : Reserve} {rs rs' : Reserves} {n : U64} {i : ℕ}
  {iter iter' : List Pubkey} {key : Pubkey} {group : Option ElevationGroup}

theorem growGroupDebt_spec {g : Fin 32} {d d' : ObligationCollateral}
    (h : growGroupDebt g n i rs d key = .ok (rs', d')) :
    ∃ (r : Reserve) (newAmount slotAmount : U64),
      key = d.depositReserve ∧ rs key = some r ∧
      (newAmount : ℕ) = r.debtInGroup g + n ∧ newAmount ≤ r.debtLimitInGroup g ∧
      (slotAmount : ℕ) = d.borrowedAmountAgainstThisCollateralInElevationGroup + n ∧
      rs' = rs.store key (r.setDebtInGroup g newAmount) ∧ d' = d.setDebtInGroup slotAmount := by
  simp only [growGroupDebt, bind_eq_ok, requireAnchor_eq_ok, okOr_eq_ok, require_eq_ok,
    Word.checkedAdd_eq_some, Word.add_eq_ok, pure_eq_ok, Reserves.loadRemaining_eq_ok,
    Prod.mk.injEq] at h
  obtain ⟨r, ⟨-, hr⟩, -, hkey, m, hm, -, hle, x, hx, rfl, rfl⟩ := h
  exact ⟨r, m, x, hkey, hr, hm, hle, hx, rfl, rfl⟩

theorem shrinkGroupDebt_spec {g : Fin 32} {d d' : ObligationCollateral}
    (h : shrinkGroupDebt g n i rs d key = .ok (rs', d')) :
    ∃ r, key = d.depositReserve ∧ rs key = some r ∧
      rs' = rs.store key (r.setDebtInGroup g (Word.saturatingSub (r.debtInGroup g) n)) ∧
      d' = d.setDebtInGroup (Word.saturatingSub
        d.borrowedAmountAgainstThisCollateralInElevationGroup n) := by
  simp only [shrinkGroupDebt, bind_eq_ok, requireAnchor_eq_ok, pure_eq_ok,
    Reserves.loadRemaining_eq_ok, Prod.mk.injEq] at h
  obtain ⟨r, ⟨-, hr⟩, -, hkey, rfl, rfl⟩ := h
  exact ⟨r, hkey, hr, rfl, rfl⟩

theorem resetGroupDebt_spec {g : Fin 32} {d d' : ObligationCollateral}
    (h : resetGroupDebt g i rs d key = .ok (rs', d')) :
    ∃ r, d.depositReserve = key ∧ rs key = some r ∧
      rs' = rs.store key (r.setDebtInGroup g (Word.saturatingSub (r.debtInGroup g)
        d.borrowedAmountAgainstThisCollateralInElevationGroup)) ∧
      d' = d.setDebtInGroup 0 := by
  simp only [resetGroupDebt, bind_eq_ok, require_eq_ok, pure_eq_ok, Reserves.loadRemaining_eq_ok,
    Prod.mk.injEq] at h
  obtain ⟨r, ⟨-, hr⟩, -, hkey, rfl, rfl⟩ := h
  exact ⟨r, hkey, hr, rfl, rfl⟩

theorem resetOutsideDebt_spec {b b' : ObligationLiquidity}
    (h : resetOutsideDebt i rs b key = .ok (rs', b')) :
    ∃ r, rs key = some r ∧
      rs' = rs.store key (r.setDebtOutside (Word.saturatingSub
        r.borrowedAmountOutsideElevationGroup b.borrowedAmountOutsideElevationGroups)) ∧
      b' = b.setDebtOutside 0 := by
  simp only [resetOutsideDebt, bind_eq_ok, pure_eq_ok, Reserves.loadRemaining_eq_ok,
    Prod.mk.injEq] at h
  obtain ⟨r, ⟨-, hr⟩, rfl, rfl⟩ := h
  exact ⟨r, hr, rfl, rfl⟩

theorem updateOnBorrow_retracked
    (h : updateElevationGroupDebtTrackersOnBorrow n o i group key r rs iter = .ok (o', r', rs')) :
    o.Retracked o' ∧ Reserve.Retracked r r' ∧ Reserves.Retracked rs rs' := by
  cases group with
  | none =>
    simp only [updateElevationGroupDebtTrackersOnBorrow, bind_eq_ok, pure_eq_ok, unwrap_eq_ok,
      Prod.mk.injEq] at h
    obtain ⟨outside, -, -, -, b, hb, m, -, rfl, rfl, rfl⟩ := h
    exact ⟨.of_borrow hb, .setDebtOutside _ _, .refl _⟩
  | some g =>
    simp only [updateElevationGroupDebtTrackersOnBorrow, bind_eq_ok, pure_eq_ok, Prod.exists,
      Prod.mk.injEq] at h
    obtain ⟨j, -, -, -, rs₁, ds, hloop, rfl, rfl, rfl⟩ := h
    refine ⟨.of_deposits (forOccupied_forall₂ (fun d _ ↦ ⟨_, rfl⟩) ?_ hloop), .refl _,
      forOccupied_relates .refl .trans ?_ hloop⟩
    · intro _ s d k s' d' _ hbody
      obtain ⟨-, -, x, -, -, -, -, -, -, rfl⟩ := growGroupDebt_spec hbody
      exact ⟨x, rfl⟩
    · intro _ s d k s' d' _ hbody
      obtain ⟨r₁, m, -, -, hr₁, -, -, -, rfl, -⟩ := growGroupDebt_spec hbody
      exact .store hr₁ (.setDebtInGroup _ _ _)

theorem updateOnRepay_retracked
    (h : updateElevationGroupDebtTrackersOnRepay n o i r rs iter = .ok (o', r', rs')) :
    o.Retracked o' ∧ Reserve.Retracked r r' ∧ Reserves.Retracked rs rs' := by
  unfold updateElevationGroupDebtTrackersOnRepay at h
  split at h
  · simp only [bind_eq_ok, pure_eq_ok, Prod.exists, Prod.mk.injEq] at h
    obtain ⟨j, -, rs₁, ds, hloop, rfl, rfl, rfl⟩ := h
    refine ⟨.of_deposits (forOccupied_forall₂ (fun d _ ↦ ⟨_, rfl⟩) ?_ hloop), .refl _,
      forOccupied_relates .refl .trans ?_ hloop⟩
    · intro _ s d k s' d' _ hbody
      obtain ⟨-, -, -, -, rfl⟩ := shrinkGroupDebt_spec hbody
      exact ⟨_, rfl⟩
    · intro _ s d k s' d' _ hbody
      obtain ⟨r₁, -, hr₁, rfl, -⟩ := shrinkGroupDebt_spec hbody
      exact .store hr₁ (.setDebtInGroup _ _ _)
  · simp only [bind_eq_ok, pure_eq_ok, unwrap_eq_ok, Prod.mk.injEq] at h
    obtain ⟨b, hb, rfl, rfl, rfl⟩ := h
    exact ⟨.of_borrow hb, .setDebtOutside _ _, .refl _⟩

theorem resetElevationGroupDebts_retracked
    (h : resetElevationGroupDebts o group rs iter iter' = .ok (o', rs')) :
    o.Retracked o' ∧ Reserves.Retracked rs rs' := by
  cases group with
  | none =>
    simp only [resetElevationGroupDebts, bind_eq_ok, pure_eq_ok, Prod.exists, Prod.mk.injEq,
      forOccupiedExact_eq_ok] at h
    obtain ⟨rs₁, bs, ⟨hloop, -⟩, rfl, rfl⟩ := h
    refine ⟨.of_borrows (forOccupied_forall₂ (fun b _ ↦ ⟨_, rfl⟩) ?_ hloop),
      forOccupied_relates .refl .trans ?_ hloop⟩
    · intro _ s b k s' b' _ hbody
      obtain ⟨-, -, -, rfl⟩ := resetOutsideDebt_spec hbody
      exact ⟨_, rfl⟩
    · intro _ s b k s' b' _ hbody
      obtain ⟨r₁, hr₁, rfl, -⟩ := resetOutsideDebt_spec hbody
      exact .store hr₁ (.setDebtOutside _ _)
  | some g =>
    simp only [resetElevationGroupDebts, bind_eq_ok, pure_eq_ok, Prod.exists, Prod.mk.injEq,
      forOccupiedExact_eq_ok] at h
    obtain ⟨j, -, rs₁, ds, ⟨hloop, -⟩, rfl, rfl⟩ := h
    refine ⟨.of_deposits (forOccupied_forall₂ (fun d _ ↦ ⟨_, rfl⟩) ?_ hloop),
      forOccupied_relates .refl .trans ?_ hloop⟩
    · intro _ s d k s' d' _ hbody
      obtain ⟨-, -, -, -, rfl⟩ := resetGroupDebt_spec hbody
      exact ⟨_, rfl⟩
    · intro _ s d k s' d' _ hbody
      obtain ⟨r₁, -, hr₁, rfl, -⟩ := resetGroupDebt_spec hbody
      exact .store hr₁ (.setDebtInGroup _ _ _)

end Trackers

section Slots

variable {o o' : Obligation} {key : Pubkey} {i : ℕ}

theorem findOrAddLiquidity_spec {rate : BigFraction} {tier : AssetTier} {b : ObligationLiquidity}
    (h : o.findOrAddLiquidityToBorrows key rate tier = .ok (o', i)) (hb : o'.borrows[i]? = some b) :
    (o' = o ∧ b.borrowReserve = key) ∨
    ((∀ b ∈ o.borrows, b.borrowReserve ≠ key) ∧
      (∃ free, o.borrows[i]? = some free ∧ free.borrowReserve = 0) ∧ b = .new key rate ∧
      o' = { o with
        borrows := o.borrows.set i (.new key rate)
        borrowsAssetTiers := o.borrowsAssetTiers.set i tier.toU8 }) := by
  unfold Obligation.findOrAddLiquidityToBorrows Obligation.findLiquidityIndexInBorrows at h
  cases hfind : o.borrows.findIdx? (·.borrowReserve = key) with
  | some j =>
    rw [hfind] at h
    simp only [pure_eq_ok, Prod.mk.injEq] at h
    obtain ⟨rfl, rfl⟩ := h
    obtain ⟨hlt, hp, -⟩ := List.findIdx?_eq_some_iff_getElem.1 hfind
    rw [List.getElem?_eq_getElem hlt, Option.some.injEq] at hb
    exact .inl ⟨rfl, by simpa [hb] using hp⟩
  | none =>
    rw [hfind] at h
    cases hfree : o.borrows.findIdx? (·.borrowReserve = 0) with
    | none => simp [hfree] at h
    | some j =>
      rw [hfree] at h
      simp only [pure_eq_ok, Prod.mk.injEq] at h
      obtain ⟨rfl, rfl⟩ := h
      obtain ⟨hlt, hp, -⟩ := List.findIdx?_eq_some_iff_getElem.1 hfree
      rw [List.getElem?_set_self hlt, Option.some.injEq] at hb
      refine .inr ⟨fun b' hb' ↦ ?_, ⟨_, List.getElem?_eq_getElem hlt, by simpa using hp⟩, hb.symm,
        rfl⟩
      simpa using List.findIdx?_eq_none_iff.1 hfind b' hb'

/-- The slot of a collateral: the one the obligation has for the reserve, or a free one that the
given function fills. -/
theorem findOrAddCollateral_spec {α : Type} {tier : AssetTier} {unchanged a : α}
    {init : ObligationCollateral → Result (ObligationCollateral × α)}
    (h : o.findOrAddCollateralToDeposits key tier init unchanged = .ok (o', i, a)) :
    (o' = o ∧ a = unchanged ∧ ∃ d, o.deposits[i]? = some d ∧ d.depositReserve = key) ∨
    ((∀ d ∈ o.deposits, d.depositReserve ≠ key) ∧
      (∃ free, o.deposits[i]? = some free ∧ free.depositReserve = 0) ∧
      ∃ d, init (.new key) = .ok (d, a) ∧ o' = { o with
        deposits := o.deposits.set i d
        depositsAssetTiers := o.depositsAssetTiers.set i tier.toU8 }) := by
  unfold Obligation.findOrAddCollateralToDeposits at h
  cases hfind : o.deposits.findIdx? (·.depositReserve = key) with
  | some j =>
    rw [hfind] at h
    simp only [pure_eq_ok, Prod.mk.injEq] at h
    obtain ⟨rfl, rfl, rfl⟩ := h
    obtain ⟨hlt, hp, -⟩ := List.findIdx?_eq_some_iff_getElem.1 hfind
    exact .inl ⟨rfl, rfl, _, List.getElem?_eq_getElem hlt, by simpa using hp⟩
  | none =>
    rw [hfind] at h
    cases hfree : o.deposits.findIdx? (·.depositReserve = 0) with
    | none => simp [hfree] at h
    | some j =>
      rw [hfree] at h
      simp only [bind_eq_ok, pure_eq_ok, Prod.exists, Prod.mk.injEq] at h
      obtain ⟨d, a', hinit, rfl, rfl, rfl⟩ := h
      obtain ⟨hlt, hp, -⟩ := List.findIdx?_eq_some_iff_getElem.1 hfree
      refine .inr ⟨fun d' hd' ↦ ?_, ⟨_, List.getElem?_eq_getElem hlt, by simpa using hp⟩, d,
        hinit, rfl⟩
      simpa using List.findIdx?_eq_none_iff.1 hfind d' hd'

/-- A slot opened for a new collateral takes the reserve's key and nothing else but its tracker. -/
theorem updateOnNewDeposit_spec {total : Option U64} {d d' : ObligationCollateral} {count : ℕ}
    {group : Option ElevationGroup} {r r' : Reserve} {check : MaxReservesAsCollateralCheck}
    (h : updateElevationGroupDebtTrackersOnNewDeposit total d count group key r check =
      .ok (d', r')) :
    (group = none ∧ d' = d ∧ r' = r) ∨
    ∃ (g : ElevationGroup) (j : Fin 32) (n m : U64), group = some g ∧ g.debtReserve ≠ key ∧
      g.getIndex = .ok j ∧ total = some n ∧ (m : ℕ) = r.debtInGroup j + n ∧
      d' = d.setDebtInGroup n ∧ r' = r.setDebtInGroup j m := by
  cases group with
  | none =>
    simp only [updateElevationGroupDebtTrackersOnNewDeposit, pure_eq_ok, Prod.mk.injEq] at h
    exact .inl ⟨rfl, h.1.symm, h.2.symm⟩
  | some g =>
    simp only [updateElevationGroupDebtTrackersOnNewDeposit, bind_eq_ok, require_eq_ok, okOr_eq_ok,
      Word.add_eq_ok, pure_eq_ok, Prod.mk.injEq] at h
    obtain ⟨-, hkey, -, -, j, hj, n, hn, m, hm, rfl, rfl⟩ := h
    exact .inr ⟨g, j, n, m, rfl, hkey, hj, hn, hm, rfl, rfl⟩

theorem updateOnFullWithdraw_retracked {n : U64} {g : U8} {r r' : Reserve}
    (h : updateElevationGroupDebtTrackersOnFullWithdraw n g r = .ok r') : r.Retracked r' := by
  unfold updateElevationGroupDebtTrackersOnFullWithdraw at h
  split at h
  · simp only [bind_eq_ok, pure_eq_ok] at h
    obtain ⟨j, -, rfl⟩ := h
    exact .setDebtInGroup _ _ _
  · rw [pure_eq_ok] at h
    exact h ▸ .refl r

/-- The reserve of a deposit or a withdrawal of collateral keeps everything but its trackers. -/
theorem depositObligationCollateral_retracked {market : LendingMarket} {r r' : Reserve}
    {slot amount : U64} {check : MaxReservesAsCollateralCheck}
    (h : depositObligationCollateral market r o slot amount key check = .ok (r', o')) :
    ∃ r₁, r.Retracked r₁ ∧ r' = r₁.markStale := by
  obtain ⟨-, -, group, total, tier, o₁, i, r₁, d, d₁, -, -, hfind, -, -, -, rfl, -⟩ :=
    depositObligationCollateral_spec h
  refine ⟨r₁, ?_, rfl⟩
  obtain ⟨-, rfl, -⟩ | ⟨-, -, d₀, hd₀, -⟩ := findOrAddCollateral_spec hfind
  · exact .refl _
  · obtain ⟨-, -, rfl⟩ | ⟨g, j, n, m, -, -, -, -, -, -, rfl⟩ := updateOnNewDeposit_spec hd₀
    · exact .refl _
    · exact .setDebtInGroup _ _ _

theorem withdrawObligationCollateral_retracked {market : LendingMarket} {r r' : Reserve}
    {slot amount n : U64} {check : LtvMaxWithdrawalCheck}
    (h : withdrawObligationCollateral market r o amount slot key check = .ok (r', o', n)) :
    r.Retracked r' := by
  obtain ⟨-, -, i, d, o₁, kind, -, -, -, -, hr'⟩ := withdrawObligationCollateral_spec h
  split at hr'
  · exact updateOnFullWithdraw_retracked hr'
  · exact Except.ok.inj hr' ▸ .refl r

theorem repay_spec {settle : Fraction} (h : o.repay settle i = .ok o') :
    ∃ b, o.borrows[i]? = some b ∧
      ((settle = b.borrowedAmountSf ∧ o' = { o with
          borrows := o.borrows.set i default
          borrowsAssetTiers := o.borrowsAssetTiers.set i (Word.max 8) }) ∨
        ∃ rest : Fraction, 0 < rest.bits ∧ rest.bits + settle.bits = b.borrowedAmountSf.bits ∧
          o' = { o with borrows := o.borrows.set i { b with borrowedAmountSf := rest } }) := by
  simp only [Obligation.repay, bind_eq_ok, unwrap_eq_ok] at h
  obtain ⟨b, hb, h⟩ := h
  refine ⟨b, hb, ?_⟩
  split at h
  · next heq =>
    rw [pure_eq_ok] at h
    exact .inl ⟨heq, h.symm⟩
  · next hne =>
    simp only [ObligationLiquidity.repay, bind_eq_ok, Fraction.sub_eq_ok, pure_eq_ok] at h
    obtain ⟨-, ⟨rest, hrest, rfl⟩, rfl⟩ := h
    refine .inr ⟨rest, Nat.pos_of_ne_zero fun hz ↦ hne (Fraction.ext ?_), hrest, rfl⟩
    rw [← hrest, hz, Nat.zero_add]

theorem withdraw_spec {n : U64} {kind : WithdrawResult} (h : o.withdraw n i = .ok (o', kind)) :
    ∃ d, o.deposits[i]? = some d ∧
      ((n = d.depositedAmount ∧ kind = .full ∧ o' = { o with
          deposits := o.deposits.set i default
          depositsAssetTiers := o.depositsAssetTiers.set i (Word.max 8) }) ∨
        ∃ rest : U64, 0 < (rest : ℕ) ∧ (rest : ℕ) + n = d.depositedAmount ∧ kind = .partial_ ∧
          o' = { o with deposits := o.deposits.set i { d with depositedAmount := rest } }) := by
  simp only [Obligation.withdraw, bind_eq_ok, unwrap_eq_ok] at h
  obtain ⟨d, hd, h⟩ := h
  refine ⟨d, hd, ?_⟩
  split at h
  · next heq =>
    simp only [pure_eq_ok, Prod.mk.injEq] at h
    exact .inl ⟨heq, h.2.symm, h.1.symm⟩
  · next hne =>
    simp only [ObligationCollateral.withdraw, bind_eq_ok, okOr_eq_ok, Word.checkedSub_eq_some,
      pure_eq_ok, Prod.mk.injEq] at h
    obtain ⟨-, ⟨rest, hrest, rfl⟩, rfl, rfl⟩ := h
    refine .inr ⟨rest, Nat.pos_of_ne_zero fun hz ↦ hne (Fin.ext ?_), hrest, rfl, rfl⟩
    omega

/-- Interest brings a debt to the reserve's rate and never shrinks it. -/
theorem accrueInterest_spec {b b' : ObligationLiquidity} {rate : BigFraction}
    (h : b.accrueInterest rate = .ok b') :
    b'.cumulativeBorrowRateBsf = rate ∧ b.borrowedAmountSf.bits ≤ b'.borrowedAmountSf.bits ∧
      (b.borrowedAmountSf.bits = 0 → b'.borrowedAmountSf.bits = 0) ∧
      b' = { b with
        cumulativeBorrowRateBsf := b'.cumulativeBorrowRateBsf
        borrowedAmountSf := b'.borrowedAmountSf } := by
  unfold ObligationLiquidity.accrueInterest at h
  split at h
  · simp at h
  · next hlt =>
    split at h
    · next heq =>
      rw [pure_eq_ok] at h
      subst h
      exact ⟨BigFraction.ext heq.symm, le_rfl, id, rfl⟩
    · simp only [bind_eq_ok, BigFraction.ofBits_eq_ok, BigFraction.divInt_eq_ok] at h
      obtain ⟨p, hp, q, ⟨hpos, hq⟩, h⟩ := h
      split at h
      · next hfit =>
        rw [pure_eq_ok] at h
        subst h
        refine ⟨rfl, ?_, fun hz ↦ ?_, rfl⟩
        · show b.borrowedAmountSf.bits ≤ q.bits
          rw [hq, hp, Nat.le_div_iff_mul_le (Nat.pos_of_ne_zero hpos)]
          exact Nat.mul_le_mul_left _ (not_lt.1 hlt)
        · show q.bits = 0
          rw [hq, hp, hz, Nat.zero_mul, Nat.zero_div]
      · simp at h

end Slots

end Klend
