import Klend.Positions.TrackerSteps

/-! # The limits of the trackers

A borrow and a change of group leave every tracker they raise within its limit. Settling
debt and withdrawing collateral raise none.
-/

namespace Klend

/-- The limit configured for a tracker. -/
def Reserve.trackerLimit (r : Reserve) : Option (Fin 32) → U64
  | some i => r.debtLimitInGroup i
  | none => r.config.borrowLimitOutsideElevationGroup

/-- The tracker of the reserve at the key is within its limit. -/
def Reserves.Within (rs : Reserves) (k : Pubkey) (t : Option (Fin 32)) : Prop :=
  ∃ r, rs k = some r ∧ r.tracker t ≤ r.trackerLimit t

section Checks

variable {market : LendingMarket} {o : Obligation} {rs rs' : Reserves} {i : ℕ} {key : Pubkey}
  {iter iter' : List Pubkey} {group : Option ElevationGroup}

/-- A loop that only checks its slots changes nothing. -/
theorem forOccupied_checks {σ S : Type} {occupied : σ → Bool}
    {body : ℕ → S → σ → Pubkey → Result (S × σ)} {s s' : S} {xs ys : List σ} {C : S → σ → Prop}
    (hbody : ∀ i s x k s' x', body i s x k = .ok (s', x') → s' = s ∧ x' = x ∧ C s x)
    (h : forOccupied occupied body i s xs iter = .ok (s', ys)) :
    ∀ x ∈ xs, occupied x = true → C s x := by
  have hloop := forOccupied_invariant (P := fun t ↦ t = s)
    (Q := fun x _ ↦ occupied x = true → C s x) (fun x _ hfree hocc ↦ ?free) ?step rfl h
  · intro x hx
    obtain ⟨j, hj⟩ := List.mem_iff_getElem?.1 hx
    obtain ⟨-, -, hc⟩ := SlotTable.exists_of_forall₂_left hloop.2 hj
    exact hc
  case free =>
    rw [hfree] at hocc
    cases hocc
  case step =>
    rintro j t x k s' x' - - rfl hcheck
    obtain ⟨rfl, -, hc⟩ := hbody (i + j) t x k s' x' hcheck
    exact ⟨rfl, fun _ ↦ hc⟩

theorem checkBorrowLimit_spec {b b' : ObligationLiquidity}
    (h : checkBorrowLimit group i rs b key = .ok (rs', b')) :
    rs' = rs ∧ b' = b ∧ ∃ r, rs b.borrowReserve = some r ∧
      (∀ g, group = some g → g.id ∈ r.config.elevationGroups ∧ b.borrowReserve = g.debtReserve) ∧
      (group = none → r.tracker none ≤ r.trackerLimit none) := by
  simp only [checkBorrowLimit, bind_eq_ok, require_eq_ok, Reserves.loadRemaining_eq_ok] at h
  obtain ⟨r, ⟨-, hr⟩, -, rfl, h⟩ := h
  cases group with
  | none =>
    simp only [bind_eq_ok, require_eq_ok, pure_eq_ok, Prod.mk.injEq] at h
    obtain ⟨-, hle, rfl, rfl⟩ := h
    exact ⟨rfl, rfl, r, hr, fun _ hg ↦ absurd hg (Option.some_ne_none _).symm, fun _ ↦ hle⟩
  | some g =>
    simp only [bind_eq_ok, require_eq_ok, pure_eq_ok, Prod.mk.injEq] at h
    obtain ⟨-, hlisted, -, hdebt, rfl, rfl⟩ := h
    refine ⟨rfl, rfl, r, hr, fun g' hg ↦ ?_, fun hnone ↦ absurd hnone (Option.some_ne_none _)⟩
    obtain rfl := Option.some.inj hg
    exact ⟨hlisted, hdebt⟩

theorem checkDepositLimit_spec {d d' : ObligationCollateral}
    (h : checkDepositLimit group i rs d key = .ok (rs', d')) :
    rs' = rs ∧ d' = d ∧ ∃ r, rs d.depositReserve = some r ∧
      ∀ g, group = some g → g.id ∈ r.config.elevationGroups ∧ d.depositReserve ≠ g.debtReserve ∧
        ∃ j, g.getIndex = .ok j ∧ r.tracker (some j) ≤ r.trackerLimit (some j) := by
  simp only [checkDepositLimit, bind_eq_ok, require_eq_ok, Reserves.loadRemaining_eq_ok] at h
  obtain ⟨r, ⟨-, hr⟩, -, rfl, h⟩ := h
  cases group with
  | none =>
    simp only [pure_eq_ok, Prod.mk.injEq] at h
    obtain ⟨rfl, rfl⟩ := h
    exact ⟨rfl, rfl, r, hr, fun _ hg ↦ absurd hg (Option.some_ne_none _).symm⟩
  | some g =>
    simp only [bind_eq_ok, require_eq_ok, pure_eq_ok, Prod.mk.injEq] at h
    obtain ⟨j, hj, -, hlisted, -, hdebt, -, hle, rfl, rfl⟩ := h
    refine ⟨rfl, rfl, r, hr, fun g' hg ↦ ?_⟩
    obtain rfl := Option.some.inj hg
    exact ⟨hlisted, hdebt, j, hj, hle⟩

/-- After a change of group every slot is checked against its reserve: in a group both sides
against the group, the collaterals against their limits; outside groups the debts. -/
theorem checkElevationGroupBorrowLimitConstraints_spec
    (h : checkElevationGroupBorrowLimitConstraints o group rs iter iter' = .ok ()) :
    (∀ b ∈ o.borrows, b.borrowReserve ≠ 0 → ∃ r, rs b.borrowReserve = some r ∧
      (∀ g, group = some g → g.id ∈ r.config.elevationGroups ∧ b.borrowReserve = g.debtReserve) ∧
      (group = none → r.tracker none ≤ r.trackerLimit none)) ∧
    ∀ d ∈ o.deposits, d.depositReserve ≠ 0 → ∃ r, rs d.depositReserve = some r ∧
      ∀ g, group = some g → g.id ∈ r.config.elevationGroups ∧ d.depositReserve ≠ g.debtReserve ∧
        ∃ j, g.getIndex = .ok j ∧ r.tracker (some j) ≤ r.trackerLimit (some j) := by
  simp only [checkElevationGroupBorrowLimitConstraints, bind_eq_ok, Prod.exists,
    forOccupiedExact_eq_ok] at h
  obtain ⟨s, bs, ⟨hborrows, -⟩, s', ds, ⟨hdeposits, -⟩, -⟩ := h
  constructor
  · intro b hb hne
    exact forOccupied_checks (fun _ _ _ _ _ _ hcheck ↦ checkBorrowLimit_spec hcheck) hborrows b hb
      ((ObligationLiquidity.occupied_iff b).2 hne)
  · intro d hd hne
    exact forOccupied_checks (fun _ _ _ _ _ _ hcheck ↦ checkDepositLimit_spec hcheck) hdeposits d
      hd ((ObligationCollateral.occupied_iff d).2 hne)

end Checks

section Raises

variable {market : LendingMarket} {o o' o'' : Obligation} {r r' : Reserve} {rs rs' : Reserves}
  {n : U64} {i : ℕ} {k key : Pubkey} {t : Option (Fin 32)} {iter : List Pubkey}
  {group : Option ElevationGroup} {g : Fin 32}

theorem exists_of_countedFor_pos {σ : Type} {κ : σ → Pubkey} {c : σ → U64} {xs : List σ}
    (h : 0 < countedFor κ c k xs) : ∃ x ∈ xs, κ x = k := by
  by_contra hnone
  rw [countedFor_eq_zero] at h
  · exact lt_irrefl _ h
  · intro x hx hkey
    exact absurd ⟨x, hx, hkey⟩ hnone

theorem contribution_pos (h : 0 < o.contribution k t) :
    (∃ j : Fin 32, t = some j ∧ (o.elevationGroup : ℕ) = j + 1 ∧
      ∃ d ∈ o.deposits, d.depositReserve = k) ∨
    (t = none ∧ o.elevationGroup = elevationGroupNone ∧ ∃ b ∈ o.borrows, b.borrowReserve = k) := by
  cases t with
  | none =>
    by_cases hgroup : o.elevationGroup = elevationGroupNone
    · rw [Obligation.contribution_outside hgroup] at h
      exact .inr ⟨rfl, hgroup, exists_of_countedFor_pos h⟩
    · rw [Obligation.contribution, if_neg hgroup] at h
      exact absurd h (lt_irrefl _)
  | some j =>
    by_cases hgroup : (o.elevationGroup : ℕ) = j + 1
    · rw [Obligation.contribution_inGroup hgroup] at h
      exact .inl ⟨j, rfl, hgroup, exists_of_countedFor_pos h⟩
    · rw [Obligation.contribution, if_neg hgroup] at h
      exact absurd h (lt_irrefl _)

theorem Obligation.TrackersFollow.raised (h : o.TrackersFollow o' rs rs') (hk : k ≠ 0)
    (hraised : rs.tracker k t < rs'.tracker k t) : 0 < o'.contribution k t := by
  have hsum := h k hk t
  omega

theorem growGroupDebt_within {ds ds' : List ObligationCollateral}
    (h : forOccupied ObligationCollateral.occupied (growGroupDebt g n) i rs ds iter =
      .ok (rs', ds')) :
    ∀ d ∈ ds', d.depositReserve ≠ 0 → rs'.Within d.depositReserve (some g) := by
  refine forOccupied_induct (P := fun l rs ↦ ∀ d ∈ l, d.depositReserve ≠ 0 →
    Reserves.Within rs d.depositReserve (some g)) (fun _ hd ↦ absurd hd List.not_mem_nil) ?free ?step
    h
  case free =>
    intro l s d _ hfree hwithin e he hne
    rcases List.mem_append.1 he with he | he
    · exact hwithin e he hne
    · obtain rfl := List.mem_singleton.1 he
      rw [(ObligationCollateral.occupied_iff e).2 hne] at hfree
      cases hfree
  case step =>
    intro l s d k s' d' _ _ hbody hwithin e he hne
    obtain ⟨r, m, x, rfl, hr, -, hle, -, rfl, rfl⟩ := growGroupDebt_spec hbody
    have hgrown : Reserves.Within (s.store d.depositReserve (r.setDebtInGroup g m)) d.depositReserve
        (some g) := by
      refine ⟨_, Reserves.store_same _ _ _, ?_⟩
      rw [Reserve.tracker_setDebtInGroup_same]
      exact hle
    rcases List.mem_append.1 he with he | he
    · by_cases hkey : e.depositReserve = d.depositReserve
      · rw [hkey]
        exact hgrown
      · obtain ⟨r₀, hr₀, hle₀⟩ := hwithin e he hne
        exact ⟨r₀, (Reserves.store_other hkey).trans hr₀, hle₀⟩
    · obtain rfl := List.mem_singleton.1 he
      exact hgrown

/-- A borrow leaves within its limit every tracker that its obligation counts for in a group, and
outside groups that of the borrowed reserve. -/
theorem updateOnBorrow_within
    (h : updateElevationGroupDebtTrackersOnBorrow n o i group key r (rs.hold key) iter =
      .ok (o', r', rs')) :
    (∀ x, group = some x → x.debtReserve = key ∧ ∃ j, x.getIndex = .ok j ∧ ∀ d ∈ o'.deposits,
      d.depositReserve ≠ 0 → (rs'.store key r').Within d.depositReserve (some j)) ∧
    (group = none → r'.tracker none ≤ r'.trackerLimit none ∧ rs' = rs.hold key) := by
  have hrel := (updateOnBorrow_retracked h).2.2
  cases group with
  | none =>
    simp only [updateElevationGroupDebtTrackersOnBorrow, bind_eq_ok, pure_eq_ok, require_eq_ok,
      Prod.mk.injEq] at h
    obtain ⟨outside, -, -, hle, b, -, m, -, -, rfl, rfl⟩ := h
    exact ⟨fun _ hx ↦ absurd hx (Option.some_ne_none _).symm, fun _ ↦ ⟨hle, rfl⟩⟩
  | some x =>
    simp only [updateElevationGroupDebtTrackersOnBorrow, bind_eq_ok, pure_eq_ok, require_eq_ok,
      Prod.exists, Prod.mk.injEq] at h
    obtain ⟨j, hj, -, hdebt, rs₁, ds, hloop, rfl, rfl, rfl⟩ := h
    refine ⟨fun x' hx ↦ ?_, fun hnone ↦ absurd hnone (Option.some_ne_none _)⟩
    obtain rfl := Option.some.inj hx
    refine ⟨hdebt, j, hj, fun d hd hne ↦ ?_⟩
    obtain ⟨r₀, hr₀, hle⟩ := growGroupDebt_within hloop d hd hne
    -- the borrowed reserve was kept apart from the loop
    have hother : d.depositReserve ≠ key := by
      rintro rfl
      rw [hrel.absent (Reserves.hold_same rs _)] at hr₀
      cases hr₀
    exact ⟨r₀, (Reserves.store_other hother).trans hr₀, hle⟩

theorem borrowObligationLiquidity_within {amount : U64} {clock : Clock}
    {ost ost' : Option ReferrerTokenState} {res : CalculateBorrowResult} (hm : market.Validated)
    (hr : rs key = some r) (hcovered : o.CoveredBy rs) (hk : k ≠ 0)
    (h : borrowObligationLiquidity market r o amount clock key ost (rs.hold key) iter =
      .ok (r', o', ost', rs', res))
    (hraised : rs.tracker k t < (rs'.store key r').tracker k t) :
    (rs'.store key r').Within k t := by
  have hfollows := borrowObligationLiquidity_follows hm hr hcovered h
  obtain ⟨-, -, -, -, n, cap, l, tier, o₁, i, b, b₁, r₁, group, b₂, -, -, hfind, hb, hb₁, hcredit,
    hgroup, htrack, -⟩ := borrowObligationLiquidity_spec h
  have hframe := (updateOnBorrow_retracked htrack).1.frame
  have hsame : o'.elevationGroup = o₁.elevationGroup := by rw [hframe]; rfl
  obtain ⟨hin, hout⟩ := updateOnBorrow_within htrack
  rcases contribution_pos (hfollows.raised hk hraised) with ⟨j, rfl, hid, d, hd, rfl⟩ |
    ⟨rfl, hnone, -⟩
  · rw [hsame] at hid
    cases group with
    | none =>
      rw [LendingMarket.none_of_getElevationGroup hgroup] at hid
      exact absurd hid (Nat.succ_ne_zero _).symm
    | some x =>
      obtain ⟨-, j', hj', hwithin⟩ := hin x rfl
      have hid' := hm.getIndex_eq hgroup hj'
      obtain rfl : j' = j := Fin.ext (Nat.succ.inj (hid'.symm.trans hid))
      exact hwithin d hd hk
  · rw [← hsame, hnone] at hgroup
    obtain rfl : group = none := by
      rcases LendingMarket.getElevationGroup_eq_ok.1 hgroup with ⟨-, hg⟩ | ⟨j, hj, -⟩
      · exact hg
      · exact absurd hj (Nat.succ_ne_zero _)
    obtain ⟨hle, rfl⟩ := hout rfl
    rw [World.store_hold_eq] at hraised ⊢
    by_cases hkey : k = key
    · subst hkey
      exact ⟨r', Reserves.store_same _ _ _, hle⟩
    · rw [Reserves.tracker_store_other hkey] at hraised
      exact absurd hraised (lt_irrefl _)

theorem requestElevationGroup_within {slot : U64} {newGroup : U8} {iter' : List Pubkey}
    {states states' : ReferrerTokenStates} {stateKeys : List ReferrerTokenStateKey}
    (hm : market.Validated) (hcovered : o.CoveredBy rs) (hsided : o.OneSided) (hk : k ≠ 0)
    (h : requestElevationGroup o market slot newGroup rs iter iter' states stateKeys =
      .ok (o', rs', states'))
    (hraised : rs.tracker k t < rs'.tracker k t) : rs'.Within k t := by
  have hfollows := requestElevationGroup_follows hm hcovered hsided h
  obtain ⟨-, -, oldGroup, group, o₁, rs₁, o₂, rs₂, borrows, o₃, deposits, -, -, hgroup, -, -, ho',
    hcheck⟩ := requestElevationGroup_spec h
  have hnew : o'.elevationGroup = newGroup := by rw [ho']; rfl
  obtain ⟨hborrows, hdeposits⟩ := checkElevationGroupBorrowLimitConstraints_spec hcheck
  rcases contribution_pos (hfollows.raised hk hraised) with ⟨j, rfl, hid, d, hd, rfl⟩ |
    ⟨rfl, hnone, b, hb, rfl⟩
  · rw [hnew] at hid
    cases group with
    | none =>
      rw [LendingMarket.none_of_getElevationGroup (getElevationGroup_market hgroup)] at hid
      exact absurd hid (Nat.succ_ne_zero _).symm
    | some g =>
      obtain ⟨j', hj', hid'⟩ := hm.exists_index_of_usable hgroup
      obtain rfl : j' = j := Fin.ext (Nat.succ.inj (hid'.symm.trans hid))
      obtain ⟨r, hr, hlimits⟩ := hdeposits d hd hk
      obtain ⟨-, -, i, hi, hle⟩ := hlimits g rfl
      obtain rfl := Except.ok.inj (hi.symm.trans hj')
      exact ⟨r, hr, hle⟩
  · rw [← hnew, hnone] at hgroup
    obtain ⟨r, hr, -, hle⟩ := hborrows b hb hk
    exact ⟨r, hr, hle (getElevationGroup_none hgroup)⟩

/-- A deposit of collateral raises no tracker but that of its own reserve in the obligation's
group. -/
theorem depositObligationCollateral_raises {slot amount : U64} {r₀ : Reserve}
    {check : MaxReservesAsCollateralCheck} (hm : market.Validated) (hkey : key ≠ 0) (hk : k ≠ 0)
    (hr : rs key = some r₀) (htracker : ∀ u, r.tracker u = r₀.tracker u)
    (h : depositObligationCollateral market r o slot amount key check = .ok (r', o'))
    (hraised : rs.tracker k t < (rs.store key r').tracker k t) :
    k = key ∧ ∃ j : Fin 32, t = some j ∧ (o.elevationGroup : ℕ) = j + 1 := by
  have hfollows := depositObligationCollateral_follows hm hkey hr htracker h
  have hsame : k = key := by
    by_contra hother
    rw [Reserves.tracker_store_other hother] at hraised
    exact lt_irrefl _ hraised
  have hdebts : o'.borrows = o.borrows ∧ o'.elevationGroup = o.elevationGroup := by
    obtain ⟨-, -, group, total, tier, o₁, i, r₁, d, d₁, -, -, hfind, -, -, rfl, -⟩ :=
      depositObligationCollateral_spec h
    rcases findOrAddCollateral_spec hfind with ⟨rfl, -⟩ | ⟨-, -, e, -, rfl⟩ <;> exact ⟨rfl, rfl⟩
  obtain ⟨hborrows, hgroup⟩ := hdebts
  refine ⟨hsame, ?_⟩
  rcases contribution_pos (hfollows.raised hk hraised) with ⟨j, rfl, hid, -⟩ | ⟨rfl, hnone, -⟩
  · exact ⟨j, rfl, hgroup ▸ hid⟩
  · have hsum := hfollows k hk none
    rw [Obligation.contribution_outside hnone, Obligation.contribution_outside (hgroup ▸ hnone),
      Obligation.debtOutside, Obligation.debtOutside, hborrows] at hsum
    omega

end Raises

section Settlements

variable {market : LendingMarket} {o o' o'' : Obligation} {r r' : Reserve} {rs rs' : Reserves}
  {n : U64} {i : ℕ} {k : Pubkey} {t : Option (Fin 32)} {iter : List Pubkey}

/-- No contribution grows. -/
def Obligation.ContributesLess (o o' : Obligation) : Prop :=
  ∀ k, k ≠ 0 → ∀ t, o'.contribution k t ≤ o.contribution k t

theorem Obligation.ContributesLess.trans (h : o.ContributesLess o') (h' : o'.ContributesLess o'') :
    o.ContributesLess o'' := fun k hk t ↦ (h' k hk t).trans (h k hk t)

theorem Obligation.TrackersFollow.not_raised (h : o.TrackersFollow o' rs rs')
    (hless : o.ContributesLess o') (hk : k ≠ 0) : rs'.tracker k t ≤ rs.tracker k t := by
  have hsum := h k hk t
  have hle := hless k hk t
  omega

theorem Obligation.ContributesLess.of_le (hgroup : o'.elevationGroup = o.elevationGroup)
    (hd : ∀ k, k ≠ 0 → o'.debtAgainst k ≤ o.debtAgainst k)
    (hb : ∀ k, k ≠ 0 → o'.debtOutside k ≤ o.debtOutside k) : o.ContributesLess o' := by
  intro k hk t
  cases t with
  | none =>
    rw [contribution, contribution, hgroup]
    split
    · exact hb k hk
    · exact le_rfl
  | some j =>
    rw [contribution, contribution, hgroup]
    split
    · exact hd k hk
    · exact le_rfl

theorem countedFor_set_le {σ : Type} {κ : σ → Pubkey} {c : σ → U64} {xs : List σ} {x x' : σ}
    (hk : k ≠ 0) (hx : xs[i]? = some x) (hslot : κ x' = 0 ∨ κ x' = κ x ∧ c x' ≤ c x) :
    countedFor κ c k (xs.set i x') ≤ countedFor κ c k xs := by
  have hset := @countedFor_set _ κ c _ _ _ x' hx k
  have hle : (if κ x' = k then (c x' : ℕ) else 0) ≤ if κ x = k then (c x : ℕ) else 0 := by
    rcases hslot with hfree | ⟨hkey, hle⟩
    · rw [if_neg fun heq ↦ hk (heq.symm.trans hfree)]
      exact Nat.zero_le _
    · rw [hkey]
      split
      · exact hle
      · exact le_rfl
  omega

theorem countedFor_le {σ : Type} {κ : σ → Pubkey} {c : σ → U64} {xs ys : List σ}
    (h : List.Forall₂ (fun x y ↦ κ y = κ x ∧ c y ≤ c x) xs ys) :
    countedFor κ c k ys ≤ countedFor κ c k xs := by
  induction h with
  | nil => exact le_rfl
  | @cons x y xs ys hslot _ ih =>
    obtain ⟨hkey, hle⟩ := hslot
    rw [countedFor_cons, countedFor_cons, hkey]
    apply Nat.add_le_add _ ih
    split
    · exact hle
    · exact le_rfl

theorem updateOnRepay_less
    (h : updateElevationGroupDebtTrackersOnRepay n o i r rs iter = .ok (o', r', rs')) :
    o.ContributesLess o' := by
  unfold updateElevationGroupDebtTrackersOnRepay at h
  split at h
  · simp only [bind_eq_ok, pure_eq_ok, Prod.exists, Prod.mk.injEq] at h
    obtain ⟨j, -, rs₁, ds, hloop, rfl, -, -⟩ := h
    refine .of_le rfl (fun k _ ↦ countedFor_le ?_) fun _ _ ↦ le_rfl
    refine forOccupied_forall₂ (fun d _ ↦ ⟨rfl, le_rfl⟩) ?_ hloop
    intro _ s d key s' d' _ hbody
    obtain ⟨-, -, -, -, rfl⟩ := shrinkGroupDebt_spec hbody
    exact ⟨rfl, Nat.sub_le _ _⟩
  · simp only [bind_eq_ok, pure_eq_ok, unwrap_eq_ok, Prod.mk.injEq] at h
    obtain ⟨b, hb, rfl, -, -⟩ := h
    exact .of_le rfl (fun _ _ ↦ le_rfl) fun k hk ↦
      countedFor_set_le hk hb (.inr ⟨rfl, Nat.sub_le _ _⟩)

theorem repay_less {settle : Fraction} (h : o.repay settle i = .ok o') : o.ContributesLess o' := by
  obtain ⟨b, hb, ⟨-, rfl⟩ | ⟨rest, -, -, rfl⟩⟩ := repay_spec h
  · exact .of_le rfl (fun _ _ ↦ le_rfl) fun k hk ↦ countedFor_set_le hk hb (.inl rfl)
  · exact .of_le rfl (fun _ _ ↦ le_rfl) fun k hk ↦ countedFor_set_le hk hb (.inr ⟨rfl, le_rfl⟩)

theorem withdraw_less {kind : WithdrawResult} (h : o.withdraw n i = .ok (o', kind)) :
    o.ContributesLess o' := by
  obtain ⟨d, hd, ⟨-, -, rfl⟩ | ⟨rest, -, -, -, rfl⟩⟩ := withdraw_spec h
  · exact .of_le rfl (fun k hk ↦ countedFor_set_le hk hd (.inl rfl)) fun _ _ ↦ le_rfl
  · exact .of_le rfl (fun k hk ↦ countedFor_set_le hk hd (.inr ⟨rfl, le_rfl⟩)) fun _ _ ↦ le_rfl

end Settlements

/-- The instructions that may raise a tracker within its limit. -/
def Instruction.takesLimit : Instruction → Bool
  | .borrowObligationLiquidity .. => true
  | .requestElevationGroup .. => true
  | _ => false

namespace World

variable {w w' : World} {clock : Clock} {ix : Instruction} {index : ℕ} {o o' : Obligation}
  {k : Pubkey} {t : Option (Fin 32)}

theorem ChangesObligation.less (hch : ChangesObligation w w' clock index ix o o')
    (hix : ix.takesLimit = false)
    (hrefresh : ∀ remaining states, ix ≠ .refreshObligation index remaining states)
    (hdeposit : ∀ key amount, ix ≠ .depositObligationCollateral index key amount) :
    o.ContributesLess o' := by
  cases hch with
  | refresh hop => exact absurd rfl (hrefresh _ _)
  | request hop => cases hix
  | borrow hr hop _ => cases hix
  | deposit hr hr₁ hop _ => exact absurd rfl (hdeposit _ _)
  | withdraw hr hop _ =>
    obtain ⟨-, -, i, d, o₁, kind, -, -, hwithdraw, rfl, -⟩ :=
      Klend.withdrawObligationCollateral_spec hop
    have hless := withdraw_less hwithdraw
    exact hless
  | repay hr hop _ =>
    obtain ⟨-, -, b, i, b₁, settle, cap, o₁, r₁, l, o₂, hfind, hb₁, -, htrack, -, -, hrepay, rfl⟩ :=
      Klend.repayObligationLiquidity_spec hop
    obtain ⟨hb, -⟩ := findLiquidityInBorrows_spec hfind
    obtain ⟨-, -, -, hframe⟩ := accrueInterest_spec hb₁
    have haccrued : o.ContributesLess { o with borrows := o.borrows.set i b₁ } :=
      .of_le rfl (fun _ _ ↦ le_rfl) fun k hk ↦ countedFor_set_le hk hb
        (.inr ⟨by rw [hframe], by rw [hframe]⟩)
    have hless := (haccrued.trans (updateOnRepay_less htrack)).trans (repay_less hrepay)
    exact hless
  | socialize hr hop _ =>
    obtain ⟨-, -, -, b, i, supply, n, o₁, r₁, l, o₂, -, -, -, -, htrack, -, -, hrepay, rfl⟩ :=
      Klend.socializeLoss_spec hop
    have hless := (updateOnRepay_less htrack).trans (repay_less hrepay)
    exact hless
  | liquidate l =>
    have hless := ((updateOnRepay_less l.tracked_eq).trans (repay_less l.settled_eq)).trans
      (withdraw_less l.withdrawn_eq)
    exact hless
  | mark hop _ =>
    obtain ⟨target, started, rfl⟩ := markObligationForDeleveraging_frame hop
    exact .of_le rfl (fun _ _ ↦ le_rfl) fun _ _ ↦ le_rfl

/-- What raises a tracker: within its limit a borrow or a change of group, otherwise only a refresh,
or a deposit that opens a collateral of an obligation in a group. -/
theorem ChangesObligation.raises (hch : ChangesObligation w w' clock index ix o o')
    (hm : w.lendingMarket.Validated) (hcounted : o.Counted) (hcurrent : o.UpToDate w.reserves)
    (hcovered : o.CoveredBy w.reserves) (hk : k ≠ 0)
    (hraised : w.reserves.tracker k t < w'.reserves.tracker k t) :
    (ix.takesLimit = true ∧ w'.reserves.Within k t) ∨
    (∃ remaining states, ix = .refreshObligation index remaining states) ∨
    ∃ (amount : U64) (j : Fin 32), ix = .depositObligationCollateral index k amount ∧ t = some j ∧
      (o.elevationGroup : ℕ) = j + 1 := by
  have hfollows := hch.follows hm hcounted hcurrent hcovered
  have hrest : (∀ key amount, ix ≠ .depositObligationCollateral index key amount) →
      ix.takesLimit = false → ∃ remaining states, ix = .refreshObligation index remaining states := by
    intro hdeposit hix
    by_contra hrefresh
    have hless := hch.less hix (fun _ _ heq ↦ hrefresh ⟨_, _, heq⟩) hdeposit
    exact absurd hraised (not_lt.2 (hfollows.not_raised hless hk))
  cases hch with
  | request hop =>
    exact .inl ⟨rfl, requestElevationGroup_within hm hcovered hcounted.toOneSided hk hop hraised⟩
  | borrow hr hop hreserves =>
    obtain ⟨-, hr, -⟩ := loadReserve_eq_ok.1 hr
    rw [hreserves] at hraised ⊢
    exact .inl ⟨rfl, borrowObligationLiquidity_within hm hr hcovered hk hop hraised⟩
  | deposit hr hr₁ hop hreserves =>
    obtain ⟨hkey, hr, -⟩ := loadReserve_eq_ok.1 hr
    rw [hreserves] at hraised
    obtain ⟨rfl, j, ht, hid⟩ := depositObligationCollateral_raises hm hkey hk hr
      (tracker_refreshReserve hr₁) hop hraised
    exact .inr (.inr ⟨_, j, rfl, ht, hid⟩)
  | refresh => exact .inr (.inl ⟨_, _, rfl⟩)
  | _ => exact .inr (.inl (hrest (fun _ _ heq ↦ Instruction.noConfusion heq) rfl))

end World

end Klend
