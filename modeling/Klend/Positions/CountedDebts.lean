import Klend.Positions.TrackerGroups

/-! # What a fresh obligation counts

A refresh leaves every slot counting debt in whole tokens, rounded up: outside groups
each debt its own, inside a group each collateral the whole debt. No operation counts on
the side that the group leaves out.
-/

namespace Klend

namespace Obligation

/-- Every slot counts the debt it stands for. -/
structure CountsDebts (o : Obligation) : Prop where
  inGroup : o.elevationGroup ≠ elevationGroupNone →
    ∀ d ∈ o.deposits, d.depositReserve ≠ 0 → (d.count : ℕ) = o.owed
  outside : o.elevationGroup = elevationGroupNone →
    ∀ b ∈ o.borrows, b.borrowReserve ≠ 0 → (b.count : ℕ) = b.owed

/-- Only one side counts, and what it counts is right while the obligation is fresh. -/
structure Counted (o : Obligation) : Prop extends OneSided o where
  fresh : o.lastUpdate.stale = false → o.CountsDebts

theorem Counted.of_stale {o : Obligation} (h : o.OneSided) (hstale : o.lastUpdate.stale = true) :
    o.Counted where
  toOneSided := h
  fresh hfresh := by
    rw [hstale] at hfresh
    cases hfresh

theorem owed_le {o : Obligation} {b : ObligationLiquidity} (hb : b ∈ o.borrows) :
    b.owed ≤ o.owed := List.le_sum_of_mem (List.mem_map_of_mem hb)

end Obligation

theorem Fraction.ceil_le {x y : Fraction} {n : U64} (h : x.toCeil = .ok n) (hle : x.bits ≤ y.bits) :
    (n : ℕ) ≤ (y.bits + (2 ^ 60 - 1)) / 2 ^ 60 := by
  rw [Fraction.toCeil_eq_ok.1 h]
  exact Nat.div_le_div_right (Nat.add_le_add_right hle _)

namespace Obligation.OneSided

variable {market : LendingMarket} {o o' : Obligation} {r r' : Reserve} {rs rs' : Reserves}
  {n : U64} {i : ℕ} {iter iter' : List Pubkey} {key : Pubkey} {group : Option ElevationGroup}

theorem setDeposits {ds : List ObligationCollateral} (h : o.OneSided)
    (hds : o.elevationGroup = elevationGroupNone →
      NothingCounted ObligationCollateral.depositReserve ObligationCollateral.count ds) :
    Obligation.OneSided { o with deposits := ds } where
  inGroup := h.inGroup
  outside := hds

theorem setBorrows {bs : List ObligationLiquidity} (h : o.OneSided)
    (hbs : o.elevationGroup ≠ elevationGroupNone →
      NothingCounted ObligationLiquidity.borrowReserve ObligationLiquidity.count bs) :
    Obligation.OneSided { o with borrows := bs } where
  inGroup := hbs
  outside := h.outside

theorem setBorrow {b b' : ObligationLiquidity} (h : o.OneSided) (hb : o.borrows[i]? = some b)
    (hcount : b'.borrowReserve ≠ 0 → b'.borrowReserve = b.borrowReserve ∧ b'.count = b.count) :
    Obligation.OneSided { o with borrows := o.borrows.set i b' } := by
  apply h.setBorrows
  intro hgroup
  apply (h.inGroup hgroup).set
  intro hne
  obtain ⟨hkey, hsame⟩ := hcount hne
  rw [hsame]
  exact h.inGroup hgroup b (List.mem_of_getElem? hb) (hkey ▸ hne)

theorem setDeposit {d d' : ObligationCollateral} (h : o.OneSided) (hd : o.deposits[i]? = some d)
    (hcount : d'.depositReserve ≠ 0 → d'.depositReserve = d.depositReserve ∧ d'.count = d.count) :
    Obligation.OneSided { o with deposits := o.deposits.set i d' } := by
  apply h.setDeposits
  intro hgroup
  apply (h.outside hgroup).set
  intro hne
  obtain ⟨hkey, hsame⟩ := hcount hne
  rw [hsame]
  exact h.outside hgroup d (List.mem_of_getElem? hd) (hkey ▸ hne)

theorem updateOnBorrow (h : o.OneSided)
    (hgroup : market.getElevationGroup o.elevationGroup = .ok group)
    (hop : updateElevationGroupDebtTrackersOnBorrow n o i group key r rs iter =
      .ok (o', r', rs')) : o'.OneSided := by
  cases group with
  | none =>
    have hnone := LendingMarket.none_of_getElevationGroup hgroup
    simp only [updateElevationGroupDebtTrackersOnBorrow, bind_eq_ok, pure_eq_ok, unwrap_eq_ok,
      Prod.mk.injEq] at hop
    obtain ⟨-, -, -, -, b, -, m, -, rfl, -, -⟩ := hop
    exact h.setBorrows fun hne ↦ absurd hnone hne
  | some g =>
    simp only [updateElevationGroupDebtTrackersOnBorrow, bind_eq_ok, pure_eq_ok, Prod.exists,
      Prod.mk.injEq] at hop
    obtain ⟨-, -, -, -, -, ds, -, rfl, -, -⟩ := hop
    refine h.setDeposits fun hnone ↦ ?_
    rw [hnone] at hgroup
    rcases LendingMarket.getElevationGroup_eq_ok.1 hgroup with ⟨-, hg⟩ | ⟨j, hj, -⟩
    · cases hg
    · exact absurd hj (Nat.succ_ne_zero _)

theorem updateOnRepay (h : o.OneSided)
    (hop : updateElevationGroupDebtTrackersOnRepay n o i r rs iter = .ok (o', r', rs')) :
    o'.OneSided := by
  unfold updateElevationGroupDebtTrackersOnRepay at hop
  split at hop
  · next hgroup =>
    simp only [bind_eq_ok, pure_eq_ok, Prod.exists, Prod.mk.injEq] at hop
    obtain ⟨-, -, -, ds, -, rfl, -, -⟩ := hop
    exact h.setDeposits fun hnone ↦ absurd hnone hgroup
  · next hgroup =>
    simp only [bind_eq_ok, pure_eq_ok, unwrap_eq_ok, Prod.mk.injEq] at hop
    obtain ⟨b, -, rfl, -, -⟩ := hop
    exact h.setBorrows fun hne ↦ absurd hne hgroup

theorem repay {settle : Fraction} (h : o.OneSided) (hop : o.repay settle i = .ok o') :
    o'.OneSided := by
  obtain ⟨b, hb, ⟨-, rfl⟩ | ⟨rest, -, -, rfl⟩⟩ := repay_spec hop
  · have hset : Obligation.OneSided { o with borrows := o.borrows.set i default } :=
      h.setBorrow hb fun hne ↦ absurd rfl hne
    exact ⟨hset.inGroup, hset.outside⟩
  · exact h.setBorrow hb fun _ ↦ ⟨rfl, rfl⟩

theorem withdraw {kind : WithdrawResult} (h : o.OneSided)
    (hop : o.withdraw n i = .ok (o', kind)) : o'.OneSided := by
  obtain ⟨d, hd, ⟨-, -, rfl⟩ | ⟨rest, -, -, -, rfl⟩⟩ := withdraw_spec hop
  · have hset : Obligation.OneSided { o with deposits := o.deposits.set i default } :=
      h.setDeposit hd fun hne ↦ absurd rfl hne
    exact ⟨hset.inGroup, hset.outside⟩
  · exact h.setDeposit hd fun _ ↦ ⟨rfl, rfl⟩

theorem findOrAddLiquidity {rate : BigFraction} {tier : AssetTier} {b : ObligationLiquidity}
    (h : o.OneSided) (hop : o.findOrAddLiquidityToBorrows key rate tier = .ok (o', i))
    (hb : o'.borrows[i]? = some b) : o'.OneSided := by
  rcases findOrAddLiquidity_spec hop hb with ⟨rfl, -⟩ | ⟨-, -, -, rfl⟩
  · exact h
  · have hset : Obligation.OneSided { o with borrows := o.borrows.set i (.new key rate) } :=
      h.setBorrows fun hgroup ↦ (h.inGroup hgroup).set fun _ ↦ rfl
    exact ⟨hset.inGroup, hset.outside⟩

theorem findOrAddCollateral {total : Option U64} {count : ℕ} {tier : AssetTier}
    {check : MaxReservesAsCollateralCheck} (h : o.OneSided)
    (hgroup : market.getElevationGroup o.elevationGroup = .ok group)
    (hop : o.findOrAddCollateralToDeposits key tier (fun d ↦
      updateElevationGroupDebtTrackersOnNewDeposit total d count group key r check) r =
        .ok (o', i, r')) : o'.OneSided := by
  rcases findOrAddCollateral_spec hop with ⟨rfl, -⟩ | ⟨-, -, d, hd, rfl⟩
  · exact h
  · have hset : Obligation.OneSided { o with deposits := o.deposits.set i d } := by
      apply h.setDeposits
      intro hnone
      apply (h.outside hnone).set
      intro _
      rcases updateOnNewDeposit_spec hd with ⟨-, rfl, -⟩ | ⟨g, j, n, m, rfl, -⟩
      · rfl
      · rw [hnone] at hgroup
        rcases LendingMarket.getElevationGroup_eq_ok.1 hgroup with ⟨-, hg⟩ | ⟨j, hj, -⟩
        · cases hg
        · exact absurd hj (Nat.succ_ne_zero _)
    exact ⟨hset.inGroup, hset.outside⟩

end Obligation.OneSided

theorem NothingCounted.of_forall₂ {σ : Type} {key : σ → Pubkey} {count : σ → U64}
    {xs ys : List σ} (h : NothingCounted key count xs)
    (hrel : List.Forall₂ (fun x y ↦ key y = key x ∧ count y = count x) xs ys) :
    NothingCounted key count ys := by
  intro y hy hne
  obtain ⟨i, hi⟩ := List.mem_iff_getElem?.1 hy
  obtain ⟨x, hx, hkey, hcount⟩ := SlotTable.exists_of_forall₂_right hrel hi
  rw [hcount]
  exact h x (List.mem_of_getElem? hx) (hkey ▸ hne)

section Passes

variable {market : LendingMarket} {o o' o₁ o₂ : Obligation} {slot : U64} {id : U8}
  {group : Option ElevationGroup} {rs rs' rs₁ rs₂ : Reserves} {iter iter' : List Pubkey}
  {states states' : ReferrerTokenStates} {stateKeys : List ReferrerTokenStateKey}
  {check : MaxReservesAsCollateralCheck} {borrows : RefreshObligationBorrowsResult}
  {deposits : RefreshObligationDepositsResult}

/-- A refresh for the group `id` counts on its side only. -/
theorem refreshPasses_oneSided (hgroup : getElevationGroup id market = .ok group)
    (hsided : Obligation.OneSided { o with elevationGroup := id })
    (hb : refreshObligationBorrows o market slot group rs iter' states stateKeys =
      .ok (o₁, rs₁, states', borrows))
    (hd : refreshObligationDeposits o₁ market slot check group rs₁ iter
      borrows.borrowedAmountInElevationGroup = .ok (o₂, rs₂, deposits)) :
    Obligation.OneSided { o₂ with elevationGroup := id } := by
  have hdeposits : o₁.deposits = o.deposits := by rw [(refreshObligationBorrows_frame hb).2.2]
  have hborrows : o₂.borrows = o₁.borrows := by rw [(refreshObligationDeposits_frame hd).2.2]
  have hdebt : group.isSome = borrows.borrowedAmountInElevationGroup.isSome :=
    (refreshObligationDeposits_spec hd).1
  have hmarket := getElevationGroup_market hgroup
  constructor
  · intro hne
    have hsome : group.isSome := by
      cases group with
      | none => exact absurd (LendingMarket.none_of_getElevationGroup hmarket) hne
      | some g => rfl
    show NothingCounted _ _ o₂.borrows
    rw [hborrows]
    apply (hsided.inGroup hne).of_forall₂
    exact (refreshObligationBorrows_recounted hb).imp
      fun _ _ hrecounted ↦ ⟨hrecounted.key_eq, hrecounted.inGroup hsome⟩
  · intro hnone
    obtain rfl : group = none := by
      rw [show id = elevationGroupNone from hnone] at hgroup
      exact getElevationGroup_none hgroup
    have hundebted : borrows.borrowedAmountInElevationGroup = none := by
      rw [← Option.not_isSome_iff_eq_none, ← hdebt]
      exact Bool.false_ne_true
    rw [hundebted] at hd
    have hkeeps := (refreshObligationDeposits_keeps hd).2
    rw [hdeposits] at hkeeps
    exact (hsided.outside hnone).of_forall₂ hkeeps

theorem refreshPasses_count (hm : market.Validated) (hwf : o.WellFormed)
    (hgroup : getElevationGroup id market = .ok group)
    (hb : refreshObligationBorrows o market slot group rs iter' states stateKeys =
      .ok (o₁, rs₁, states', borrows))
    (hd : refreshObligationDeposits o₁ market slot check group rs₁ iter
      borrows.borrowedAmountInElevationGroup = .ok (o₂, rs₂, deposits)) :
    Obligation.CountsDebts { o₂ with elevationGroup := id } := by
  have hborrows : o₂.borrows = o₁.borrows := by rw [(refreshObligationDeposits_frame hd).2.2]
  have hmarket := getElevationGroup_market hgroup
  constructor
  · intro hne
    cases group with
    | none => exact absurd (LendingMarket.none_of_getElevationGroup hmarket) hne
    | some g =>
      obtain ⟨n, hn, howed⟩ := refreshObligationBorrows_owed rfl
        (fun b hmem hz ↦ (hwf.borrows.empty b hmem hz).1) hb
      rw [hn] at hd
      obtain ⟨j, hj, -⟩ := hm.exists_index_of_usable hgroup
      have hcounts := refreshObligationDeposits_counts hj hd
      intro d hmem hkey
      show (d.count : ℕ) = (o₂.borrows.map ObligationLiquidity.owed).sum
      rw [hborrows, hcounts d hmem hkey]
      exact howed
  · intro hnone
    obtain rfl : group = none := by
      rw [show id = elevationGroupNone from hnone] at hgroup
      exact getElevationGroup_none hgroup
    intro b hmem hkey
    change b ∈ o₂.borrows at hmem
    rw [hborrows] at hmem
    obtain ⟨i, hi⟩ := List.mem_iff_getElem?.1 hmem
    obtain ⟨b₀, -, hrecounted⟩ :=
      SlotTable.exists_of_forall₂_right (refreshObligationBorrows_recounted hb) hi
    exact (hrecounted.outside rfl (hrecounted.key_eq ▸ hkey)).symm

theorem refreshObligation_counted (hm : market.Validated) (hwf : o.WellFormed)
    (hsided : o.OneSided)
    (h : refreshObligation o market slot check rs iter iter' states stateKeys =
      .ok (o', rs', states')) : o'.Counted := by
  obtain ⟨group, o₁, rs₁, borrows, o₂, deposits, hgroup, hb, hd, rfl⟩ := refreshObligation_spec h
  have hsame : o₂.elevationGroup = o.elevationGroup := by
    rw [(refreshObligationDeposits_frame hd).2.2, (refreshObligationBorrows_frame hb).2.2]
  have hsided' := refreshPasses_oneSided hgroup hsided hb hd
  have hcounts := refreshPasses_count hm hwf hgroup hb hd
  rw [← hsame] at hsided' hcounts
  exact ⟨⟨hsided'.inGroup, hsided'.outside⟩, fun _ ↦ ⟨hcounts.inGroup, hcounts.outside⟩⟩

theorem requestElevationGroup_oneSided {newGroup : U8} (hm : market.Validated)
    (hcovered : o.CoveredBy rs) (hsided : o.OneSided)
    (h : requestElevationGroup o market slot newGroup rs iter iter' states stateKeys =
      .ok (o', rs', states')) : o'.OneSided := by
  obtain ⟨-, -, oldGroup, group, o₁, rs₁, o₂, rs₂, borrows, o₃, deposits, hold, hreset, hgroup, hb,
    hd, rfl, -⟩ := requestElevationGroup_spec h
  obtain ⟨-, huncounted⟩ := resetElevationGroupDebts_follows hm hold hcovered hsided
    (refreshObligationBorrows_keys hb) hreset
  have hswitched : Obligation.OneSided { o₁ with elevationGroup := newGroup } :=
    ⟨fun _ ↦ huncounted.borrows, fun _ ↦ huncounted.deposits⟩
  have hsided' := refreshPasses_oneSided hgroup hswitched hb hd
  exact ⟨hsided'.inGroup, hsided'.outside⟩

end Passes

section Settlements

variable {o o₁ o₂ : Obligation} {r r₀ r₁ r' : Reserve} {rs held : Reserves} {n : U64} {i : ℕ}
  {iter : List Pubkey} {key : Pubkey} {b : ObligationLiquidity} {settle : Fraction}

theorem Obligation.CountsDebts.countsRepay (h : o.CountsDebts) (hb : o.borrows[i]? = some b)
    (hkey : b.borrowReserve ≠ 0) (hn : (n : ℕ) ≤ b.owed) : o.CountsRepay i n where
  inGroup hgroup d hd hne := by
    rw [h.inGroup hgroup d hd hne]
    exact hn.trans (Obligation.owed_le (List.mem_of_getElem? hb))
  outside hgroup b' hb' := by
    obtain rfl := Option.some.inj (hb.symm.trans hb')
    rw [h.outside hgroup b (List.mem_of_getElem? hb) hkey]
    exact hn

theorem updateOnRepay_count (hgroup : o.elevationGroup = elevationGroupNone)
    (hb : o.borrows[i]? = some b)
    (h : updateElevationGroupDebtTrackersOnRepay n o i r rs iter = .ok (o₁, r₁, held)) :
    ∃ b₁, o₁.borrows[i]? = some b₁ ∧ b₁.borrowedAmountSf = b.borrowedAmountSf ∧
      (b₁.count : ℕ) = b.count - n := by
  rw [updateElevationGroupDebtTrackersOnRepay, if_neg fun hne ↦ hne hgroup] at h
  simp only [bind_eq_ok, pure_eq_ok, unwrap_eq_ok, Prod.mk.injEq] at h
  obtain ⟨b', hb', rfl, -, -⟩ := h
  obtain rfl := Option.some.inj (hb.symm.trans hb')
  exact ⟨_, List.getElem?_set_self (List.getElem?_eq_some_iff.1 hb).1, rfl, rfl⟩

/-- A settlement of a fresh obligation takes out of the trackers what it takes out of the slots,
and a slot it clears counts nothing more. -/
theorem settle_follows (hcounts : o.CountsDebts) (hkey : key ≠ 0) (hb : o.borrows[i]? = some b)
    (hbkey : b.borrowReserve = key) (hr : rs key = some r₀)
    (htracker : ∀ u, r.tracker u = r₀.tracker u) (hcovered : o.CoveredBy rs)
    (hn : settle.toCeil = .ok n) (hle : settle.bits ≤ b.borrowedAmountSf.bits)
    (htrack : updateElevationGroupDebtTrackersOnRepay n o i r (rs.hold key) iter =
      .ok (o₁, r₁, held))
    (hrepay : o₁.repay settle i = .ok o₂) (hr' : ∀ u, r'.tracker u = r₁.tracker u) :
    o.TrackersFollow o₂ rs (held.store key r') := by
  have hne : b.borrowReserve ≠ 0 := hbkey ▸ hkey
  have hrepays := hcounts.countsRepay hb hne (Fraction.ceil_le hn hle)
  have hfollows := updateOnRepay_follows hkey hr htracker hcovered
    (fun b' hb' ↦ by rw [← Option.some.inj (hb.symm.trans hb'), hbkey]) hrepays htrack
  have hgroup₁ : o₁.elevationGroup = o.elevationGroup := by
    rw [(updateOnRepay_retracked htrack).1.frame]
  have hcleared : o₁.elevationGroup = elevationGroupNone → ∀ b₁, o₁.borrows[i]? = some b₁ →
      settle = b₁.borrowedAmountSf → b₁.count = 0 := by
    intro hnone b₁ hb₁ hfull
    rw [hgroup₁] at hnone
    obtain ⟨b₁', hb₁', hamount, hcount⟩ := updateOnRepay_count hnone hb htrack
    obtain rfl := Option.some.inj (hb₁.symm.trans hb₁')
    have howed := hcounts.outside hnone b (List.mem_of_getElem? hb) hne
    have hall : b.owed = n := ObligationLiquidity.owed_eq (by rw [← hamount, ← hfull]; exact hn)
    exact Fin.ext (by rw [hcount, howed, hall]; exact Nat.sub_self _)
  have hslots : o₁.TrackersFollow o₂ (held.store key r₁) (held.store key r₁) :=
    .of_contribution_eq fun k hk t ↦ repay_contribution hk hcleared hrepay
  refine (hfollows.trans hslots).of_tracker_eq fun k t ↦ ?_
  by_cases hk : k = key
  · subst hk
    rw [Reserves.tracker_store_same, Reserves.tracker_store_same, hr']
  · rw [Reserves.tracker_store_other hk, Reserves.tracker_store_other hk]

end Settlements

end Klend
