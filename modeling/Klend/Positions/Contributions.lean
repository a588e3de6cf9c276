import Klend.Positions.Trackers

/-! # Contributions to the trackers

What an obligation contributes to each debt tracker, and what every update of the
trackers does to both sides: the tracker and the contribution change together.
-/

namespace Klend

namespace ObligationCollateral

abbrev count (d : ObligationCollateral) : U64 := d.borrowedAmountAgainstThisCollateralInElevationGroup

end ObligationCollateral

namespace ObligationLiquidity

abbrev count (b : ObligationLiquidity) : U64 := b.borrowedAmountOutsideElevationGroups

end ObligationLiquidity

namespace Obligation

/-- The debt that an obligation counts against its collateral in a reserve. -/
def debtAgainst (k : Pubkey) (o : Obligation) : ℕ :=
  countedFor ObligationCollateral.depositReserve ObligationCollateral.count k o.deposits

/-- The debt that an obligation counts as borrowed from a reserve outside all groups. -/
def debtOutside (k : Pubkey) (o : Obligation) : ℕ :=
  countedFor ObligationLiquidity.borrowReserve ObligationLiquidity.count k o.borrows

/-- What an obligation contributes to a tracker: that of its own group, and no other. -/
def contribution (o : Obligation) (k : Pubkey) : Option (Fin 32) → ℕ
  | some i => if (o.elevationGroup : ℕ) = i + 1 then o.debtAgainst k else 0
  | none => if o.elevationGroup = elevationGroupNone then o.debtOutside k else 0

abbrev DepositsUncounted (o : Obligation) : Prop :=
  NothingCounted ObligationCollateral.depositReserve ObligationCollateral.count o.deposits

abbrev BorrowsUncounted (o : Obligation) : Prop :=
  NothingCounted ObligationLiquidity.borrowReserve ObligationLiquidity.count o.borrows

variable {o o' o'' : Obligation} {rs rs' rs'' : Reserves} {k key : Pubkey} {i : Fin 32}
  {t : Option (Fin 32)}

theorem contribution_inGroup (h : (o.elevationGroup : ℕ) = i + 1) :
    o.contribution k (some i) = o.debtAgainst k := if_pos h

theorem contribution_outside (h : o.elevationGroup = elevationGroupNone) :
    o.contribution k none = o.debtOutside k := if_pos h

theorem contribution_of_ne_group (h : (o.elevationGroup : ℕ) = i + 1) (ht : t ≠ some i) :
    o.contribution k t = 0 := by
  cases t with
  | none =>
    refine if_neg fun h0 ↦ ?_
    rw [h0] at h
    exact absurd h (Nat.succ_ne_zero _).symm
  | some j =>
    refine if_neg fun hj ↦ ht (congrArg some (Fin.ext ?_))
    omega

theorem contribution_of_ne_outside (h : o.elevationGroup = elevationGroupNone) (ht : t ≠ none) :
    o.contribution k t = 0 := by
  cases t with
  | none => exact absurd rfl ht
  | some j =>
    refine if_neg fun hj ↦ ?_
    rw [h] at hj
    exact absurd hj (Nat.succ_ne_zero _).symm

/-- Each tracker changes by what the obligation's contribution to it changes. -/
def TrackersFollow (o o' : Obligation) (rs rs' : Reserves) : Prop :=
  ∀ k, k ≠ 0 → ∀ t, rs'.tracker k t + o.contribution k t = rs.tracker k t + o'.contribution k t

theorem TrackersFollow.refl (o : Obligation) (rs : Reserves) : TrackersFollow o o rs rs :=
  fun _ _ _ ↦ rfl

theorem TrackersFollow.trans (h : TrackersFollow o o' rs rs') (h' : TrackersFollow o' o'' rs' rs'') :
    TrackersFollow o o'' rs rs'' := by
  intro k hk t
  have h₁ := h k hk t
  have h₂ := h' k hk t
  omega

theorem TrackersFollow.of_inGroup (hgroup : (o.elevationGroup : ℕ) = i + 1)
    (hgroup' : o'.elevationGroup = o.elevationGroup)
    (h : Transfers ObligationCollateral.depositReserve ObligationCollateral.count (some i) rs rs'
      o.deposits o'.deposits) : TrackersFollow o o' rs rs' := by
  intro k hk t
  obtain ⟨hsum, hother⟩ := h k hk
  by_cases ht : t = some i
  · subst ht
    rw [contribution_inGroup hgroup, contribution_inGroup (hgroup' ▸ hgroup)]
    exact hsum
  · rw [contribution_of_ne_group hgroup ht, contribution_of_ne_group (hgroup' ▸ hgroup) ht,
      hother t ht]

theorem TrackersFollow.of_outside (hgroup : o.elevationGroup = elevationGroupNone)
    (hgroup' : o'.elevationGroup = o.elevationGroup)
    (h : Transfers ObligationLiquidity.borrowReserve ObligationLiquidity.count none rs rs'
      o.borrows o'.borrows) : TrackersFollow o o' rs rs' := by
  intro k hk t
  obtain ⟨hsum, hother⟩ := h k hk
  by_cases ht : t = none
  · subst ht
    rw [contribution_outside hgroup, contribution_outside (hgroup'.trans hgroup)]
    exact hsum
  · rw [contribution_of_ne_outside hgroup ht, contribution_of_ne_outside (hgroup'.trans hgroup) ht,
      hother t ht]

/-- The trackers cover the obligation's contributions. -/
def CoveredBy (o : Obligation) (rs : Reserves) : Prop :=
  ∀ k, k ≠ 0 → ∀ t, o.contribution k t ≤ rs.tracker k t

theorem CoveredBy.deposits (h : o.CoveredBy rs) (hgroup : (o.elevationGroup : ℕ) = i + 1) :
    Covers ObligationCollateral.depositReserve ObligationCollateral.count (some i) rs
      o.deposits := by
  intro k hk r hr
  have hle := h k hk (some i)
  rwa [contribution_inGroup hgroup, Reserves.tracker_eq hr] at hle

theorem CoveredBy.borrows (h : o.CoveredBy rs) (hgroup : o.elevationGroup = elevationGroupNone) :
    Covers ObligationLiquidity.borrowReserve ObligationLiquidity.count none rs o.borrows := by
  intro k hk r hr
  have hle := h k hk none
  rwa [contribution_outside hgroup, Reserves.tracker_eq hr] at hle

theorem TrackersFollow.coveredBy (h : TrackersFollow o o' rs rs') (hcovered : o.CoveredBy rs) :
    o'.CoveredBy rs' := by
  intro k hk t
  have hsum := h k hk t
  have hle := hcovered k hk t
  omega

theorem TrackersFollow.of_contribution_eq
    (h : ∀ k, k ≠ 0 → ∀ t, o'.contribution k t = o.contribution k t) :
    TrackersFollow o o' rs rs :=
  fun k hk t ↦ by rw [h k hk t]

theorem TrackersFollow.of_tracker_eq (h : TrackersFollow o o' rs rs')
    (htracker : ∀ k t, rs''.tracker k t = rs'.tracker k t) : TrackersFollow o o' rs rs'' :=
  fun k hk t ↦ by rw [htracker, h k hk t]

end Obligation

theorem Transfers.store {σ : Type} {key : σ → Pubkey} {count : σ → U64} {t : Option (Fin 32)}
    {rs rs' : Reserves} {xs ys : List σ} {k : Pubkey} {r r' : Reserve} (hr : rs k = some r)
    (hnone : rs' k = none) (htracker : ∀ u, r'.tracker u = r.tracker u)
    (h : Transfers key count t (rs.hold k) rs' xs ys) :
    Transfers key count t rs (rs'.store k r') xs ys := by
  intro j hj
  obtain ⟨hsum, hother⟩ := h j hj
  by_cases hk : j = k
  · subst hk
    rw [Reserves.tracker, Reserves.tracker, hnone, Reserves.hold_same] at hsum
    rw [Reserves.tracker_store_same, Reserves.tracker_eq hr, htracker]
    refine ⟨by omega, fun u _ ↦ ?_⟩
    rw [Reserves.tracker_store_same, Reserves.tracker_eq hr, htracker]
  · have hheld : ∀ u, (rs.hold k).tracker j u = rs.tracker j u := by
      intro u
      rw [Reserves.tracker, Reserves.hold_other hk, Reserves.tracker]
    rw [hheld] at hsum
    rw [Reserves.tracker_store_other hk]
    refine ⟨hsum, fun u hu ↦ ?_⟩
    rw [Reserves.tracker_store_other hk, hother u hu, hheld]

theorem Covers.hold {σ : Type} {key : σ → Pubkey} {count : σ → U64} {t : Option (Fin 32)}
    {rs : Reserves} {xs : List σ} (h : Covers key count t rs xs) (k : Pubkey) :
    Covers key count t (rs.hold k) xs := by
  intro j hj r hr
  by_cases hk : j = k
  · rw [hk, Reserves.hold_same] at hr
    cases hr
  · rw [Reserves.hold_other hk] at hr
    exact h j hj r hr

section Updates

variable {o o' : Obligation} {r r₀ r' : Reserve} {rs rs' : Reserves} {n : U64} {i : ℕ}
  {iter iter' : List Pubkey} {key : Pubkey} {group : Option ElevationGroup} {g : Fin 32}

theorem ObligationCollateral.occupied_iff (d : ObligationCollateral) :
    d.occupied = true ↔ d.depositReserve ≠ 0 := by
  rw [occupied, decide_eq_true_eq]

theorem ObligationLiquidity.occupied_iff (b : ObligationLiquidity) :
    b.occupied = true ↔ b.borrowReserve ≠ 0 := by
  rw [occupied, decide_eq_true_eq]

theorem growGroupDebt_moves {d d' : ObligationCollateral}
    (h : growGroupDebt g n i rs d key = .ok (rs', d')) :
    MovesTracker ObligationCollateral.depositReserve ObligationCollateral.count (some g) rs rs'
      d d' := by
  obtain ⟨r, m, x, rfl, hr, hm, -, hx, rfl, rfl⟩ := growGroupDebt_spec h
  refine ⟨rfl, r, _, hr, rfl, ?_, fun u hu ↦ Reserve.tracker_setDebtInGroup_other hu⟩
  rw [Reserve.tracker_setDebtInGroup_same]
  show (m : ℕ) + d.borrowedAmountAgainstThisCollateralInElevationGroup = r.debtInGroup g + (x : ℕ)
  omega

theorem shrinkGroupDebt_moves {d d' : ObligationCollateral}
    (h : shrinkGroupDebt g n i rs d key = .ok (rs', d')) (hn : (n : ℕ) ≤ d.count)
    (hcovered : ∀ r, rs d.depositReserve = some r → (d.count : ℕ) ≤ r.tracker (some g)) :
    MovesTracker ObligationCollateral.depositReserve ObligationCollateral.count (some g) rs rs'
      d d' := by
  obtain ⟨r, rfl, hr, rfl, rfl⟩ := shrinkGroupDebt_spec h
  have hle := hcovered r hr
  refine ⟨rfl, r, _, hr, rfl, ?_, fun u hu ↦ Reserve.tracker_setDebtInGroup_other hu⟩
  rw [Reserve.tracker_setDebtInGroup_same]
  show (r.debtInGroup g : ℕ) - n + d.count = (r.debtInGroup g : ℕ) + ((d.count : ℕ) - n)
  have hle' : (d.count : ℕ) ≤ r.debtInGroup g := hle
  omega

theorem resetGroupDebt_moves {d d' : ObligationCollateral}
    (h : resetGroupDebt g i rs d key = .ok (rs', d'))
    (hcovered : ∀ r, rs d.depositReserve = some r → (d.count : ℕ) ≤ r.tracker (some g)) :
    MovesTracker ObligationCollateral.depositReserve ObligationCollateral.count (some g) rs rs'
      d d' := by
  obtain ⟨r, rfl, hr, rfl, rfl⟩ := resetGroupDebt_spec h
  have hle := hcovered r hr
  refine ⟨rfl, r, _, hr, rfl, ?_, fun u hu ↦ Reserve.tracker_setDebtInGroup_other hu⟩
  rw [Reserve.tracker_setDebtInGroup_same]
  show (r.debtInGroup g : ℕ) - d.count + d.count = (r.debtInGroup g : ℕ) + 0
  have hle' : (d.count : ℕ) ≤ r.debtInGroup g := hle
  omega

theorem resetOutsideDebt_moves {b b' : ObligationLiquidity} (hkey : key = b.borrowReserve)
    (h : resetOutsideDebt i rs b key = .ok (rs', b'))
    (hcovered : ∀ r, rs b.borrowReserve = some r → (b.count : ℕ) ≤ r.tracker none) :
    MovesTracker ObligationLiquidity.borrowReserve ObligationLiquidity.count none rs rs' b b' := by
  subst hkey
  obtain ⟨r, hr, rfl, rfl⟩ := resetOutsideDebt_spec h
  have hle := hcovered r hr
  refine ⟨rfl, r, _, hr, rfl, ?_, fun u hu ↦ Reserve.tracker_setDebtOutside_other hu⟩
  rw [Reserve.tracker_setDebtOutside_same]
  show (r.tracker none : ℕ) - b.count + b.count = (r.tracker none : ℕ) + 0
  omega

theorem trackRefreshedDeposit_moves {d d' : ObligationCollateral} {x : ElevationGroup} {debt : U64}
    (h : trackRefreshedDeposit (some (x, debt)) key r d = .ok (r', d')) (hg : x.getIndex = .ok g)
    (hle : (d.count : ℕ) ≤ r.tracker (some g)) :
    ((r'.tracker (some g) : ℕ) + d.count = r.tracker (some g) + d'.count ∧
      ∀ u, u ≠ some g → r'.tracker u = r.tracker u) ∧ d'.count = debt := by
  obtain ⟨hnone, -⟩ | ⟨y, m', j, m, hsome, hj, -, -, hm, rfl, rfl⟩ := trackRefreshedDeposit_spec h
  · cases hnone
  · obtain ⟨rfl, rfl⟩ := Prod.mk.inj (Option.some.inj hsome)
    obtain rfl := Except.ok.inj (hj.symm.trans hg)
    refine ⟨⟨?_, fun u hu ↦ Reserve.tracker_setDebtInGroup_other hu⟩, rfl⟩
    rw [Reserve.tracker_setDebtInGroup_same, hm]
    show (r.debtInGroup j : ℕ) - d.count + debt + d.count = (r.debtInGroup j : ℕ) + debt
    have hle' : (d.count : ℕ) ≤ r.debtInGroup j := hle
    omega

end Updates

theorem LendingMarket.Validated.getIndex_eq {market : LendingMarket} (hm : market.Validated)
    {id : U8} {g : ElevationGroup} {j : Fin 32} (h : market.getElevationGroup id = .ok (some g))
    (hj : g.getIndex = .ok j) : (id : ℕ) = j + 1 := by
  rw [ElevationGroup.getIndex_eq_ok] at hj
  rcases LendingMarket.getElevationGroup_eq_ok.1 h with ⟨-, hnone⟩ | ⟨i, hi, hg⟩
  · cases hnone
  · obtain rfl := Option.some.inj hg
    rcases hm.group i with hdefault | ⟨hid, -⟩
    · rw [hdefault] at hj
      exact absurd hj (Nat.succ_ne_zero _)
    · omega

theorem LendingMarket.Validated.exists_index_of_usable {market : LendingMarket} (hm : market.Validated)
    {id : U8} {g : ElevationGroup} (h : Klend.getElevationGroup id market = .ok (some g)) :
    ∃ j : Fin 32, g.getIndex = .ok j ∧ (id : ℕ) = j + 1 := by
  have hmarket := getElevationGroup_market h
  have hltv : g.ltvPct ≠ 0 := by
    simp only [Klend.getElevationGroup, bind_eq_ok] at h
    obtain ⟨-, -, found, hfound, h⟩ := h
    obtain rfl := Except.ok.inj (hmarket.symm.trans hfound)
    simp only [bind_eq_ok, require_eq_ok] at h
    obtain ⟨-, -, -, hltv, -⟩ := h
    exact hltv
  rcases LendingMarket.getElevationGroup_eq_ok.1 hmarket with ⟨-, hnone⟩ | ⟨i, hi, hg⟩
  · cases hnone
  · obtain rfl := Option.some.inj hg
    rcases hm.group i with hdefault | ⟨hid, -⟩
    · rw [hdefault] at hltv
      exact absurd rfl hltv
    · exact ⟨i, ElevationGroup.getIndex_eq_ok.2 hid.symm, hi.symm⟩

end Klend
