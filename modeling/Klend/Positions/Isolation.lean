import Klend.Positions.Slots

/-! # Isolated positions

An asset of an isolated tier is the only one on its side of an obligation, and a
collateral disabled outside elevation groups backs no debt there.
-/

namespace Klend

/-- An isolated asset is alone on its side, and no isolated asset faces another. -/
structure TiersIsolated (deposits borrows : List AssetTier) : Prop where
  collateral_alone : 0 < deposits.count .isolatedCollateral → deposits.length ≤ 1
  debt_alone : 0 < borrows.count .isolatedDebt → borrows.length ≤ 1
  one_side : deposits.count .isolatedCollateral = 0 ∨ borrows.count .isolatedDebt = 0
  no_debt_deposited : deposits.count .isolatedDebt = 0
  no_collateral_borrowed : borrows.count .isolatedCollateral = 0

theorem TiersIsolated.sublist {ds ds' bs bs' : List AssetTier} (h : TiersIsolated ds bs)
    (hd : ds'.Sublist ds) (hb : bs'.Sublist bs) : TiersIsolated ds' bs' := by
  have hdc := fun t ↦ hd.count_le t
  have hbc := fun t ↦ hb.count_le t
  constructor
  · intro hpos
    exact hd.length_le.trans (h.collateral_alone (hpos.trans_le (hdc _)))
  · intro hpos
    exact hb.length_le.trans (h.debt_alone (hpos.trans_le (hbc _)))
  · rcases h.one_side with hz | hz
    · exact .inl (Nat.le_zero.1 (hz ▸ hdc _))
    · exact .inr (Nat.le_zero.1 (hz ▸ hbc _))
  · exact Nat.le_zero.1 (h.no_debt_deposited ▸ hdc _)
  · exact Nat.le_zero.1 (h.no_collateral_borrowed ▸ hbc _)

theorem validateObligationAssetTiers_eq_ok {o : Obligation} :
    validateObligationAssetTiers o = .ok () ↔ ∃ deposits borrows,
      o.getDepositAssetTiers = .ok deposits ∧ o.getBorrowsAssetTiers = .ok borrows ∧
      TiersIsolated deposits borrows := by
  simp only [validateObligationAssetTiers, bind_eq_ok, require_eq_ok]
  constructor
  · rintro ⟨ds, hds, bs, hbs, -, h1, -, h2, -, h3, -, h4, -, h5, -, h6, h7⟩
    refine ⟨ds, bs, hds, hbs, ?_, ?_, by omega, h6, h7⟩
    · intro hpos
      exact not_lt.1 fun hlt ↦ h4 ⟨hlt, hpos⟩
    · intro hpos
      exact not_lt.1 fun hlt ↦ h5 ⟨hlt, hpos⟩
  · rintro ⟨ds, bs, hds, hbs, h⟩
    refine ⟨ds, hds, bs, hbs, (), ?_, (), ?_, (), ?_, (), ?_, (), ?_, (), h.no_debt_deposited,
      h.no_collateral_borrowed⟩
    · rcases Nat.eq_zero_or_pos (ds.count .isolatedCollateral) with hz | hpos
      · omega
      · exact List.count_le_length.trans (h.collateral_alone hpos)
    · rcases Nat.eq_zero_or_pos (bs.count .isolatedDebt) with hz | hpos
      · omega
      · exact List.count_le_length.trans (h.debt_alone hpos)
    · rintro ⟨hd, hb⟩
      rcases h.one_side with hz | hz <;> omega
    · rintro ⟨hlt, hpos⟩
      exact absurd (h.collateral_alone hpos) (not_le.2 hlt)
    · rintro ⟨hlt, hpos⟩
      exact absurd (h.debt_alone hpos) (not_le.2 hlt)

namespace Obligation

section TiersInUse

variable {σ : Type} {inUse : σ → Bool} {key : σ → Pubkey} {s : σ} {slots slots' : List σ} {t : U8}
  {tags tags' : List U8} {tiers : List AssetTier}

theorem tiersInUse_cons_eq_ok : tiersInUse inUse (s :: slots) (t :: tags) = .ok tiers ↔
    (inUse s = true ∧ ∃ tier rest, AssetTier.tryFrom t = some tier ∧
      tiersInUse inUse slots tags = .ok rest ∧ tiers = tier :: rest) ∨
    (inUse s = false ∧ tiersInUse inUse slots tags = .ok tiers) := by
  cases hs : inUse s with
  | false => simp [tiersInUse, hs]
  | true =>
    simp only [tiersInUse, List.zip_cons_cons, List.filter_cons, hs, if_true, List.mapM_cons,
      bind_eq_ok, unwrap_eq_ok, pure_eq_ok, true_and, Bool.true_eq_false, false_and, or_false]
    constructor
    · rintro ⟨tier, htier, rest, hrest, rfl⟩
      exact ⟨tier, rest, htier, hrest, rfl⟩
    · rintro ⟨tier, rest, htier, hrest, rfl⟩
      exact ⟨tier, htier, rest, hrest, rfl⟩

theorem tiersInUse_isOk : (∃ tiers, tiersInUse inUse slots tags = .ok tiers) ↔
    ∀ (i : ℕ) (s : σ) (t : U8), slots[i]? = some s → tags[i]? = some t → inUse s = true →
      ∃ tier, AssetTier.tryFrom t = some tier := by
  induction slots generalizing tags with
  | nil => exact ⟨fun _ _ _ _ hs ↦ (nomatch hs), fun _ ↦ ⟨[], rfl⟩⟩
  | cons s slots ih =>
    cases tags with
    | nil => exact ⟨fun _ _ _ _ _ ht ↦ (nomatch ht), fun _ ↦ ⟨[], rfl⟩⟩
    | cons t tags =>
      constructor
      · rintro ⟨tiers, h⟩ i s' t' hs ht hused
        rcases tiersInUse_cons_eq_ok.1 h with ⟨-, tier, rest, htier, hrest, -⟩ | ⟨hfree, hrest⟩
        · cases i with
          | zero =>
            obtain rfl := Option.some.inj ht
            exact ⟨tier, htier⟩
          | succ i => exact ih.1 ⟨rest, hrest⟩ i s' t' hs ht hused
        · cases i with
          | zero =>
            obtain rfl := Option.some.inj hs
            exact absurd (hfree.symm.trans hused) nofun
          | succ i => exact ih.1 ⟨tiers, hrest⟩ i s' t' hs ht hused
      · intro h
        obtain ⟨rest, hrest⟩ := ih.2 fun i s' t' hs ht ↦ h (i + 1) s' t' hs ht
        cases hs : inUse s with
        | false => exact ⟨rest, tiersInUse_cons_eq_ok.2 (.inr ⟨hs, hrest⟩)⟩
        | true =>
          obtain ⟨tier, htier⟩ := h 0 s t rfl rfl hs
          exact ⟨tier :: rest, tiersInUse_cons_eq_ok.2 (.inl ⟨hs, tier, rest, htier, hrest, rfl⟩)⟩

theorem tiersInUse_shrinks (h : SlotTable.Shrinks key slots tags slots' tags')
    (hused : ∀ s ∈ slots, key s ≠ 0 → inUse s = true)
    (hheld : ∀ s ∈ slots', inUse s = true → key s ≠ 0)
    (hok : tiersInUse inUse slots tags = .ok tiers) :
    ∃ tiers', tiersInUse inUse slots' tags' = .ok tiers' ∧ tiers'.Sublist tiers := by
  induction slots' generalizing slots tags tags' tiers with
  | nil => exact ⟨[], rfl, List.nil_sublist _⟩
  | cons s' slots' ih =>
    cases slots with
    | nil => exact absurd h.slots_length (Nat.succ_ne_zero _)
    | cons s slots =>
      cases tags with
      | nil =>
        obtain rfl := List.eq_nil_of_length_eq_zero h.tags_length
        exact ⟨[], rfl, List.nil_sublist _⟩
      | cons t tags =>
        cases tags' with
        | nil => exact absurd h.tags_length.symm (Nat.succ_ne_zero _)
        | cons t' tags' =>
          have hrec := fun {ts} ↦ @ih slots tags tags' ts h.tail
            (fun s hs ↦ hused s (.tail _ hs)) fun s hs ↦ hheld s (.tail _ hs)
          cases hs' : inUse s' with
          | false =>
            rcases tiersInUse_cons_eq_ok.1 hok with ⟨-, tier, rest, -, hrest, rfl⟩ | ⟨-, hrest⟩
            · rcases hrec hrest with ⟨ts', hts', hsub⟩
              exact ⟨ts', tiersInUse_cons_eq_ok.2 (.inr ⟨hs', hts'⟩), hsub.cons _⟩
            · rcases hrec hrest with ⟨ts', hts', hsub⟩
              exact ⟨ts', tiersInUse_cons_eq_ok.2 (.inr ⟨hs', hts'⟩), hsub⟩
          | true =>
            -- a used slot was held, hence used, and has its tag
            have hne := hheld s' List.mem_cons_self hs'
            rcases h.kept 0 s' rfl hne with ⟨u, hu, hkey, htag⟩
            obtain rfl := Option.some.inj hu
            obtain rfl := Option.some.inj htag
            have hs := hused s List.mem_cons_self (hkey ▸ hne)
            rcases tiersInUse_cons_eq_ok.1 hok with ⟨-, tier, rest, htier, hrest, rfl⟩ | ⟨hfree, -⟩
            · rcases hrec hrest with ⟨ts', hts', hsub⟩
              exact ⟨tier :: ts', tiersInUse_cons_eq_ok.2 (.inl ⟨hs', tier, ts', htier, hts', rfl⟩),
                hsub.cons_cons _⟩
            · rw [hs] at hfree
              cases hfree

end TiersInUse

/-- Every slot of the later obligation was held before, for the same reserve and with the same
tier. -/
structure Shrinks (o o' : Obligation) : Prop where
  deposits : SlotTable.Shrinks ObligationCollateral.depositReserve o.deposits o.depositsAssetTiers
    o'.deposits o'.depositsAssetTiers
  borrows : SlotTable.Shrinks ObligationLiquidity.borrowReserve o.borrows o.borrowsAssetTiers
    o'.borrows o'.borrowsAssetTiers

variable {o o' o'' : Obligation} {i : ℕ} {rs rs' : Reserves}

theorem Shrinks.refl (o : Obligation) : o.Shrinks o := ⟨.refl _ _, .refl _ _⟩

theorem Shrinks.trans (h : o.Shrinks o') (h' : o'.Shrinks o'') : o.Shrinks o'' :=
  ⟨h.deposits.trans h'.deposits, h.borrows.trans h'.borrows⟩

theorem Retracked.shrinks (h : o.Retracked o') : o.Shrinks o' := by
  have htiers : o'.depositsAssetTiers = o.depositsAssetTiers ∧
      o'.borrowsAssetTiers = o.borrowsAssetTiers := by rw [h.frame]; exact ⟨rfl, rfl⟩
  constructor
  · rw [htiers.1]
    apply SlotTable.Shrinks.of_forall₂
    apply h.deposits.imp
    rintro d d' ⟨n, rfl⟩
    rfl
  · rw [htiers.2]
    apply SlotTable.Shrinks.of_forall₂
    apply h.borrows.imp
    rintro b b' ⟨n, rfl⟩
    rfl

theorem repay_shrinks {settle : Fraction} (h : o.repay settle i = .ok o') : o.Shrinks o' := by
  rcases repay_spec h with ⟨b, hb, ⟨-, rfl⟩ | ⟨rest, -, -, rfl⟩⟩
  · exact ⟨.refl _ _, .clear rfl⟩
  · exact ⟨.refl _ _, .set hb rfl⟩

theorem withdraw_shrinks {n : U64} {kind : WithdrawResult} (h : o.withdraw n i = .ok (o', kind)) :
    o.Shrinks o' := by
  rcases withdraw_spec h with ⟨d, hd, ⟨-, -, rfl⟩ | ⟨rest, -, -, -, rfl⟩⟩
  · exact ⟨.clear rfl, .refl _ _⟩
  · exact ⟨.set hd rfl, .refl _ _⟩

theorem WellFormed.validate_shrinks (h : o.WellFormed) (hs : o.Shrinks o')
    (hvalid : validateObligationAssetTiers o = .ok ()) :
    validateObligationAssetTiers o' = .ok () := by
  rcases validateObligationAssetTiers_eq_ok.1 hvalid with ⟨ds, bs, hds, hbs, htiers⟩
  have hd := tiersInUse_shrinks hs.deposits
    (fun d hd hne ↦ decide_eq_true ⟨hne, h.deposits.held d hd hne⟩)
    (fun d _ huse ↦ (of_decide_eq_true huse).1) hds
  have hb := tiersInUse_shrinks hs.borrows
    (fun b hb hne ↦ decide_eq_true ⟨hne, h.borrows.held b hb hne⟩)
    (fun b _ huse ↦ (of_decide_eq_true huse).1) hbs
  rcases hd with ⟨ds', hds', hdsub⟩
  rcases hb with ⟨bs', hbs', hbsub⟩
  exact validateObligationAssetTiers_eq_ok.2 ⟨ds', bs', hds', hbs', htiers.sublist hdsub hbsub⟩

end Obligation

def Reserves.assetTierOf (rs : Reserves) (k : Pubkey) : Option U8 :=
  (rs k).map (·.config.assetTier)

/-- The reserve at the key is not to be used as collateral outside an elevation group. -/
def Reserves.DisabledOutsideEmode (rs : Reserves) (k : Pubkey) : Prop :=
  ∃ r, rs k = some r ∧ 0 < r.config.disableUsageAsCollOutsideEmode

theorem Reserves.Rebooked.assetTierOf {rs rs' : Reserves} (h : Reserves.Rebooked rs rs')
    {k : Pubkey} {t : U8} (ht : rs'.assetTierOf k = some t) : rs.assetTierOf k = some t := by
  rcases Option.map_eq_some_iff.1 ht with ⟨r', hr', rfl⟩
  rcases h.value_rev hr' with ⟨r, hr, _, _, _, _, _, rfl⟩
  exact Option.map_eq_some_iff.2 ⟨r, hr, rfl⟩

/-- Every slot records the tier of its reserve. -/
structure Obligation.TiersOf (rs : Reserves) (o : Obligation) : Prop where
  deposits : SlotTable.TaggedBy ObligationCollateral.depositReserve rs.assetTierOf o.deposits
    o.depositsAssetTiers
  borrows : SlotTable.TaggedBy ObligationLiquidity.borrowReserve rs.assetTierOf o.borrows
    o.borrowsAssetTiers

namespace Obligation.TiersOf

variable {o o' : Obligation} {rs rs' : Reserves}

theorem shrinks (h : o.TiersOf rs) (hs : o.Shrinks o') : o'.TiersOf rs :=
  ⟨h.deposits.shrinks hs.deposits, h.borrows.shrinks hs.borrows⟩

theorem mono (h : o.TiersOf rs)
    (hle : ∀ k t, rs'.assetTierOf k = some t → rs.assetTierOf k = some t) : o.TiersOf rs' :=
  ⟨h.deposits.mono hle, h.borrows.mono hle⟩

end Obligation.TiersOf

section Refresh

variable {market : LendingMarket} {slot : U64} {group : Option ElevationGroup} {o o' : Obligation}
  {rs rs' : Reserves} {iter iter' : List Pubkey} {states states' : ReferrerTokenStates}
  {stateKeys : List ReferrerTokenStateKey} {check : MaxReservesAsCollateralCheck}

theorem refreshObligationBorrows_shrinks {borrows : RefreshObligationBorrowsResult}
    (htiers : o.TiersOf rs) (h : refreshObligationBorrows o market slot group rs iter states
      stateKeys = .ok (o', rs', states', borrows)) : o.Shrinks o' := by
  obtain ⟨-, hslots, hframe⟩ := refreshObligationBorrows_frame h
  obtain ⟨s, slots, hloop, -, rfl, -⟩ := refreshObligationBorrows_spec h
  have hsame := (forOccupied_invariant (Q := fun _ _ ↦ True) (P := fun s : BorrowsPass ↦
    Reserves.Rebooked rs s.reserves ∧ s.borrowsAssetTiers = o.borrowsAssetTiers)
    (fun _ _ _ ↦ trivial) ?step ⟨.refl rs, rfl⟩ hloop).1.2
  · refine ⟨.refl _ _, ?_⟩
    show SlotTable.Shrinks _ _ _ slots s.borrowsAssetTiers
    rw [hsame]
    exact .of_forall₂ (hslots.imp fun _ _ hb ↦ hb.key_eq)
  case step =>
    rintro j s b k s' b' hb - ⟨hrebooked, hsame⟩ hbody
    obtain ⟨r, r', hkey, hk, hr, hbook, hstore, -, -, -, -, -, -, htiers', -⟩ :=
      refreshBorrow_slot hbody
    have hrebooked' : Reserves.Rebooked rs s'.reserves := hstore ▸ hrebooked.trans (.store hr hbook)
    refine ⟨⟨hrebooked', ?_⟩, trivial⟩
    rw [htiers', hsame, Nat.zero_add]
    refine htiers.borrows.set_tag_eq hb (hkey ▸ hk) (hrebooked'.assetTierOf ?_)
    rw [Reserves.assetTierOf, hkey, hstore, Reserves.store_same, Option.map_some]

theorem refreshObligationDeposits_shrinks {debt : Option U64}
    {deposits : RefreshObligationDepositsResult} (htiers : o.TiersOf rs)
    (h : refreshObligationDeposits o market slot check group rs iter debt =
      .ok (o', rs', deposits)) : o.Shrinks o' := by
  obtain ⟨-, hslots, hframe⟩ := refreshObligationDeposits_frame h
  obtain ⟨-, s, slots, hloop, rfl, -⟩ := refreshObligationDeposits_spec h
  have hsame := (forOccupied_invariant (Q := fun _ _ ↦ True) (P := fun s : DepositsPass ↦
    Reserves.Rebooked rs s.reserves ∧ s.depositsAssetTiers = o.depositsAssetTiers)
    (fun _ _ _ ↦ trivial) ?step ⟨.refl rs, rfl⟩ hloop).1.2
  · refine ⟨?_, .refl _ _⟩
    show SlotTable.Shrinks _ _ _ slots s.depositsAssetTiers
    rw [hsame]
    exact .of_forall₂ (hslots.imp fun _ _ hd ↦ hd.key_eq)
  case step =>
    rintro j s d k s' d' hd - ⟨hrebooked, hsame⟩ hbody
    obtain ⟨r, r', hkey, hk, hr, hbook, hstore, -, -, -, htiers'⟩ := refreshDeposit_slot hbody
    have hrebooked' : Reserves.Rebooked rs s'.reserves :=
      hstore ▸ hrebooked.trans (.store hr hbook.rebooked)
    refine ⟨⟨hrebooked', ?_⟩, trivial⟩
    rw [htiers', hsame, Nat.zero_add]
    refine htiers.deposits.set_tag_eq hd (hkey ▸ hk) (hrebooked'.assetTierOf ?_)
    rw [Reserves.assetTierOf, hkey, hstore, Reserves.store_same, Option.map_some]

theorem refreshObligation_shrinks (htiers : o.TiersOf rs)
    (h : refreshObligation o market slot check rs iter iter' states stateKeys =
      .ok (o', rs', states')) : o.Shrinks o' := by
  obtain ⟨group, o₁, rs₁, borrows, o₂, deposits, -, hb, hd, rfl⟩ := refreshObligation_spec h
  have hborrows := refreshObligationBorrows_shrinks htiers hb
  have hbook := (refreshObligationBorrows_frame hb).1
  have hdeposits := refreshObligationDeposits_shrinks
    ((htiers.shrinks hborrows).mono fun _ _ ↦ hbook.assetTierOf) hd
  have hshrinks := hborrows.trans hdeposits
  exact ⟨hshrinks.deposits, hshrinks.borrows⟩

theorem requestElevationGroup_shrinks {newGroup : U8} (htiers : o.TiersOf rs)
    (h : requestElevationGroup o market slot newGroup rs iter iter' states stateKeys =
      .ok (o', rs', states')) : o.Shrinks o' := by
  obtain ⟨-, -, oldGroup, group, o₁, rs₁, o₂, rs₂, borrows, o₃, deposits, -, hreset, -, hb, hd, rfl,
    -⟩ := requestElevationGroup_spec h
  obtain ⟨htrack, hretrack⟩ := resetElevationGroupDebts_retracked hreset
  have htiers₁ : o₁.TiersOf rs₁ :=
    (htiers.shrinks htrack.shrinks).mono fun _ _ ↦ hretrack.rebooked.assetTierOf
  have hborrows := refreshObligationBorrows_shrinks htiers₁ hb
  have hbook := (refreshObligationBorrows_frame hb).1
  have hdeposits := refreshObligationDeposits_shrinks
    ((htiers₁.shrinks hborrows).mono fun _ _ ↦ hbook.assetTierOf) hd
  have hshrinks := (htrack.shrinks.trans hborrows).trans hdeposits
  exact ⟨hshrinks.deposits, hshrinks.borrows⟩

end Refresh

section Openings

variable {market : LendingMarket} {r r' : Reserve} {o o' : Obligation} {amount slot : U64}
  {clock : Clock} {key : Pubkey} {ost ost' : Option ReferrerTokenState} {rs held held' : Reserves}
  {iter : List Pubkey}

theorem getAssetTier_toU8 {c : ReserveConfig} {tier : AssetTier} (h : c.getAssetTier = .ok tier) :
    tier.toU8 = c.assetTier := by
  rw [ReserveConfig.getAssetTier, unwrap_eq_ok, AssetTier.tryFrom] at h
  split at h
  · next hc => cases h; exact hc.symm
  · split at h
    · next hc => cases h; exact hc.symm
    · split at h
      · next hc => cases h; exact hc.symm
      · cases h

theorem borrowObligationLiquidity_positions {res : CalculateBorrowResult} (h : o.WellFormed)
    (hkey : key ≠ 0) (hr : rs key = some r) (htiers : o.TiersOf rs)
    (hop : borrowObligationLiquidity market r o amount clock key ost held iter =
      .ok (r', o', ost', held', res)) :
    SlotTable.Shrinks ObligationCollateral.depositReserve o.deposits o.depositsAssetTiers
      o'.deposits o'.depositsAssetTiers ∧
    o'.elevationGroup = o.elevationGroup ∧ o'.TiersOf rs ∧
    validateObligationAssetTiers o' = .ok () := by
  obtain ⟨-, -, -, hcalc, n, cap, l, tier, o₁, i, b, b₁, r₁, group, b₂, -, -, hfind, hb, hb₁, -, -,
    htrack, -, -, -, -, hreceive, -, -, htier, hvalid⟩ := borrowObligationLiquidity_spec hop
  have hmid := h.borrowed hkey (calculateBorrow_pos hcalc hreceive) hfind hb hb₁
  have hretracked := (updateOnBorrow_retracked htrack).1
  have hkey₁ : b₁.borrowReserve = b.borrowReserve := by
    simp only [ObligationLiquidity.borrow, bind_eq_ok, pure_eq_ok] at hb₁
    obtain ⟨x, -, rfl⟩ := hb₁
    rfl
  have hpositions : o₁.deposits = o.deposits ∧ o₁.depositsAssetTiers = o.depositsAssetTiers ∧
      o₁.elevationGroup = o.elevationGroup ∧ o₁.TiersOf rs := by
    rcases findOrAddLiquidity_spec hfind hb with ⟨rfl, -⟩ | ⟨-, ⟨free, hfree, -⟩, -, rfl⟩
    · exact ⟨rfl, rfl, rfl, htiers⟩
    · refine ⟨rfl, rfl, rfl, htiers.deposits, htiers.borrows.set ?_ ?_⟩
      · rw [h.borrows.tagged.1]
        exact (List.getElem?_eq_some_iff.1 hfree).1
      · intro u hu
        change rs.assetTierOf key = some u at hu
        rw [Reserves.assetTierOf, hr, Option.map_some, Option.some.injEq] at hu
        exact hu.symm.trans (getAssetTier_toU8 htier).symm
  obtain ⟨hds, hdts, hgroup, htiers₁⟩ := hpositions
  have hshrinks := hretracked.shrinks
  refine ⟨?_, ?_, ?_, hmid.validate_shrinks hshrinks hvalid⟩
  · rw [← hds, ← hdts]
    exact hshrinks.deposits
  · rw [hretracked.frame]
    exact hgroup
  · have htiers₂ : Obligation.TiersOf rs (Obligation.markStale { o₁ with
        borrows := o₁.borrows.set i b₁, hasDebt := 1 }) :=
      ⟨htiers₁.deposits, htiers₁.borrows.shrinks (.set hb hkey₁)⟩
    exact htiers₂.shrinks hshrinks

theorem depositObligationCollateral_positions {check : MaxReservesAsCollateralCheck}
    (h : o.WellFormed) (htier : ∀ t, rs.assetTierOf key = some t → t = r.config.assetTier)
    (htiers : o.TiersOf rs)
    (hop : depositObligationCollateral market r o slot amount key check = .ok (r', o')) :
    o'.borrows = o.borrows ∧ o'.elevationGroup = o.elevationGroup ∧
    (∃ d ∈ o'.deposits, d.depositReserve = key) ∧
    (∀ d ∈ o'.deposits, d.depositReserve = key ∨
      ∃ e ∈ o.deposits, d.depositReserve = e.depositReserve) ∧
    o'.TiersOf rs ∧ validateObligationAssetTiers o' = .ok () := by
  obtain ⟨-, -, group, total, tier, o₁, i, r₁, d, d₁, -, -, hfind, hd, hd₁, rfl, -, -, htier', hvalid,
    -⟩ := depositObligationCollateral_spec hop
  have hkey₁ : d₁.depositReserve = d.depositReserve := by
    simp only [ObligationCollateral.deposit, bind_eq_ok, pure_eq_ok] at hd₁
    obtain ⟨x, -, rfl⟩ := hd₁
    rfl
  have hpositions : o₁.borrows = o.borrows ∧ o₁.elevationGroup = o.elevationGroup ∧
      d.depositReserve = key ∧ (∀ e ∈ o₁.deposits, e.depositReserve = key ∨ e ∈ o.deposits) ∧
      o₁.TiersOf rs := by
    rcases findOrAddCollateral_spec hfind with ⟨rfl, -, e, he, hekey⟩ |
      ⟨-, ⟨free, hfree, -⟩, e, he, rfl⟩
    · obtain rfl := Option.some.inj (he.symm.trans hd)
      exact ⟨rfl, rfl, hekey, fun _ he ↦ .inr he, htiers⟩
    · have hlt := (List.getElem?_eq_some_iff.1 hfree).1
      have hekey : e.depositReserve = key := by
        rcases updateOnNewDeposit_spec he with ⟨-, rfl, -⟩ | ⟨g, j, m, m', -, -, -, -, -, rfl, -⟩ <;>
          rfl
      rw [List.getElem?_set_self hlt, Option.some.injEq] at hd
      subst hd
      refine ⟨rfl, rfl, hekey, fun a ha ↦ ?_, htiers.deposits.set ?_ ?_, htiers.borrows⟩
      · rcases List.mem_or_eq_of_mem_set ha with ha | rfl
        · exact .inr ha
        · exact .inl hekey
      · rw [h.deposits.tagged.1]
        exact hlt
      · intro u hu
        rw [hekey] at hu
        rw [htier u hu, getAssetTier_toU8 htier']
  obtain ⟨hborrows, hgroup, hdkey, hmem, htiers₁⟩ := hpositions
  refine ⟨hborrows, hgroup, ⟨d₁, ?_, hkey₁.trans hdkey⟩, fun e he ↦ ?_, ?_, hvalid⟩
  · exact List.mem_set (List.getElem?_eq_some_iff.1 hd).1 d₁
  · rcases List.mem_or_eq_of_mem_set he with he | rfl
    · rcases hmem e he with hekey | he
      · exact .inl hekey
      · exact .inr ⟨e, he, rfl⟩
    · exact .inl (hkey₁.trans hdkey)
  · exact ⟨htiers₁.deposits.shrinks (.set hd hkey₁), htiers₁.borrows⟩

end Openings

end Klend
