import Klend.Positions.Freshness
import Klend.Positions.Isolation

/-! # Instructions keep positions isolated

No instruction opens a position beside an isolated one. Collateral disabled outside
elevation groups comes to back a debt there only where the debt is valued at nothing.
-/

namespace Klend

namespace Obligation

def Owes (o : Obligation) : Prop := ∃ b ∈ o.borrows, Fraction.zero < b.borrowedAmountSf

/-- Some collateral is not to be used outside an elevation group. -/
def HoldsDisabled (rs : Reserves) (o : Obligation) : Prop :=
  ∃ d ∈ o.deposits, d.depositReserve ≠ 0 ∧ rs.DisabledOutsideEmode d.depositReserve

/-- Outside an elevation group no debt stands beside collateral disabled there. -/
def CollateralUsable (rs : Reserves) (o : Obligation) : Prop :=
  o.elevationGroup = elevationGroupNone → o.Owes → ¬ o.HoldsDisabled rs

/-- Where a fresh obligation outside a group may borrow, its collateral is not disabled. -/
def FlagRight (rs : Reserves) (o : Obligation) : Prop :=
  o.lastUpdate.stale = false → o.elevationGroup = elevationGroupNone → o.borrowingDisabled = 0 →
    ¬ o.HoldsDisabled rs

variable {o o' : Obligation} {rs rs' : Reserves}

theorem FlagRight.of_stale (h : o.lastUpdate.stale = true) : o.FlagRight rs := by
  intro hfresh
  rw [h] at hfresh
  cases hfresh

theorem WellFormed.owes_iff (h : o.WellFormed) :
    o.Owes ↔ ∃ b ∈ o.borrows, b.borrowReserve ≠ 0 := by
  constructor
  · rintro ⟨b, hb, hpos⟩
    refine ⟨b, hb, fun hz ↦ ?_⟩
    rw [(h.borrows.empty b hb hz).1] at hpos
    exact lt_irrefl _ hpos
  · rintro ⟨b, hb, hne⟩
    exact ⟨b, hb, h.borrows.held b hb hne⟩

theorem WellFormed.owes_shrinks (h : o.WellFormed) (h' : o'.WellFormed)
    (hs : SlotTable.Shrinks ObligationLiquidity.borrowReserve o.borrows o.borrowsAssetTiers
      o'.borrows o'.borrowsAssetTiers) (ho' : o'.Owes) : o.Owes := by
  rcases h'.owes_iff.1 ho' with ⟨b', hb', hne⟩
  rcases hs.exists_mem hb' hne with ⟨b, hb, hkey⟩
  exact h.owes_iff.2 ⟨b, hb, hkey ▸ hne⟩

theorem HoldsDisabled.of_shrinks (hs : SlotTable.Shrinks ObligationCollateral.depositReserve
    o.deposits o.depositsAssetTiers o'.deposits o'.depositsAssetTiers)
    (h : o'.HoldsDisabled rs) : o.HoldsDisabled rs := by
  rcases h with ⟨d', hd', hne, hdisabled⟩
  rcases hs.exists_mem hd' hne with ⟨d, hd, hkey⟩
  exact ⟨d, hd, hkey ▸ hne, hkey ▸ hdisabled⟩

theorem HoldsDisabled.mono (h : o.HoldsDisabled rs)
    (hle : ∀ k, rs.DisabledOutsideEmode k → rs'.DisabledOutsideEmode k) : o.HoldsDisabled rs' := by
  rcases h with ⟨d, hd, hne, hdisabled⟩
  exact ⟨d, hd, hne, hle _ hdisabled⟩

theorem init_isolated (tag slot : U64) (market owner referrer : Pubkey) :
    (init tag slot market owner referrer).TiersOf rs ∧
      validateObligationAssetTiers (init tag slot market owner referrer) = .ok () := by
  refine ⟨⟨?_, ?_⟩, rfl⟩
  · intro i d t hd hne
    obtain rfl := List.eq_of_mem_replicate (List.mem_of_getElem? hd)
    exact absurd rfl hne
  · intro i b t hb hne
    obtain rfl := List.eq_of_mem_replicate (List.mem_of_getElem? hb)
    exact absurd rfl hne

end Obligation

section Flags

variable {market : LendingMarket} {slot : U64} {o o' : Obligation} {rs rs' : Reserves}
  {iter iter' : List Pubkey} {states states' : ReferrerTokenStates}
  {stateKeys : List ReferrerTokenStateKey} {check : MaxReservesAsCollateralCheck}

theorem Reserves.Rebooked.disabled {k : Pubkey} (h : Reserves.Rebooked rs rs')
    (hd : rs.DisabledOutsideEmode k) : rs'.DisabledOutsideEmode k := by
  rcases hd with ⟨r, hr, hdisabled⟩
  rcases KeyedMap.Related.value h hr with ⟨r', hr', _, _, _, _, _, rfl⟩
  exact ⟨_, hr', hdisabled⟩

theorem refreshObligationDeposits_flag {debt : Option U64}
    {deposits : RefreshObligationDepositsResult}
    (h : refreshObligationDeposits o market slot check none rs iter debt =
      .ok (o', rs', deposits)) (hflag : deposits.borrowingDisabled = false) :
    ¬ o'.HoldsDisabled rs := by
  obtain ⟨-, s, slots, hloop, rfl, rfl, -, -, -, -, hs, -⟩ := refreshObligationDeposits_spec h
  rw [hs] at hflag
  have hinv := forOccupied_induct (P := fun l (s : DepositsPass) ↦
    Reserves.Rebooked rs s.reserves ∧ (s.borrowingDisabled = false →
      ∀ d ∈ l, d.depositReserve ≠ 0 → ¬ rs.DisabledOutsideEmode d.depositReserve))
    ⟨.refl rs, fun _ d hd ↦ absurd hd (List.not_mem_nil)⟩ ?free ?step hloop
  · rintro ⟨d, hd, hne, hdisabled⟩
    exact hinv.2 hflag d hd hne hdisabled
  case free =>
    rintro l s d - hfree ⟨hbook, hnone⟩
    have hkey : d.depositReserve = 0 := by simpa [ObligationCollateral.occupied] using hfree
    refine ⟨hbook, fun hs e he hne ↦ ?_⟩
    rcases List.mem_append.1 he with he | he
    · exact hnone hs e he hne
    · rw [List.mem_singleton.1 he] at hne
      exact absurd hkey hne
  case step =>
    rintro l s d k s' d' - - hbody ⟨hbook, hnone⟩
    obtain ⟨r, r', -, -, hr', hretrack, hstore, hkey', -⟩ := refreshDeposit_slot hbody
    obtain ⟨r₁, r₂, d₁, mv, al, un, -, hr, -, -, -, -, -, -, -, -, -, -, -, -, -, -, hbd, -⟩ :=
      refreshDeposit_spec hbody
    have hbook' : Reserves.Rebooked rs s'.reserves :=
      hstore ▸ hbook.trans (.store hr' hretrack.rebooked)
    refine ⟨hbook', fun hs e he hne ↦ ?_⟩
    rw [hbd, decide_eq_false_iff_not, not_or] at hs
    rcases List.mem_append.1 he with he | he
    · exact hnone (Bool.eq_false_iff.2 hs.1) e he hne
    · rw [List.mem_singleton.1 he, hkey']
      intro hdisabled
      rcases hbook.disabled hdisabled with ⟨r₃, hr₃, hpos⟩
      obtain rfl := Option.some.inj (hr.symm.trans hr₃)
      exact hs.2 ⟨rfl, hpos⟩

end Flags

theorem boolToU8_eq_zero {b : Bool} (h : boolToU8 b = 0) : b = false := by
  cases b with
  | false => rfl
  | true => exact absurd h (by decide)

/-- A change of group that leaves a debt outside groups needs the flag to be clear. -/
theorem borrowingDisabled_eq_zero {o : Obligation} {group : Option ElevationGroup} {rs : Reserves}
    {iter iter' : List Pubkey}
    (h : checkElevationGroupBorrowLimitConstraints o group rs iter iter' = .ok ())
    (hgroup : o.elevationGroup = elevationGroupNone) (howes : ∃ b ∈ o.borrows, b.borrowReserve ≠ 0) :
    o.borrowingDisabled = 0 := by
  have hempty : o.borrowsEmpty = false := by
    rcases howes with ⟨b, hb, hne⟩
    exact List.all_eq_false.2 ⟨b, hb, by simpa using hne⟩
  simp only [checkElevationGroupBorrowLimitConstraints, bind_eq_ok] at h
  obtain ⟨-, -, -, -, h⟩ := h
  rw [if_pos hempty, checkNonElevationGroupBorrowingEnabled, require_eq_ok, not_and] at h
  exact Fin.le_zero_iff.1 (not_lt.1 (h hgroup))

theorem repay_elevationGroup {o o' : Obligation} {i : ℕ} {settle : Fraction}
    (h : o.repay settle i = .ok o') : o'.elevationGroup = o.elevationGroup := by
  obtain ⟨b, -, ⟨-, rfl⟩ | ⟨rest, -, -, rfl⟩⟩ := repay_spec h
  · rfl
  · rfl

/-- Instructions that may open a position. -/
def Instruction.OpensPosition : Instruction → Prop
  | .depositObligationCollateral .. => True
  | .borrowObligationLiquidity .. => True
  | _ => False

namespace World

variable {w w' : World} {clock : Clock} {ix : Instruction} {index : ℕ} {o o' : Obligation}
  {k : Pubkey}

theorem process_assetTierOf (h : w.process clock ix = .ok w') {t : U8}
    (ht : w'.reserves.assetTierOf k = some t) : w.reserves.assetTierOf k = some t := by
  rcases Option.map_eq_some_iff.1 ht with ⟨r', hr', rfl⟩
  rcases (process_evolve h).value_rev hr' with ⟨r, hr, hev⟩
  rw [Reserves.assetTierOf, hr, Option.map_some, hev.settings]

theorem process_disabled (h : w.process clock ix = .ok w') :
    w'.reserves.DisabledOutsideEmode k ↔ w.reserves.DisabledOutsideEmode k := by
  constructor
  · rintro ⟨r', hr', hdisabled⟩
    rcases (process_evolve h).value_rev hr' with ⟨r, hr, hev⟩
    rw [hev.settings] at hdisabled
    exact ⟨r, hr, hdisabled⟩
  · rintro ⟨r, hr, hdisabled⟩
    rcases (process_evolve h).value hr with ⟨r', hr', hev⟩
    refine ⟨r', hr', ?_⟩
    rw [hev.settings]
    exact hdisabled

theorem Liquidation.shrinks {repayKey withdrawKey : Pubkey} {amount : U64}
    {override : Option U64} {remaining : List Pubkey}
    (l : Liquidation w w' clock index repayKey withdrawKey amount override remaining) :
    l.obligation.Shrinks l.withdrawn.updateHasDebt.markStale := by
  have htrack := (updateOnRepay_retracked l.tracked_eq).1.shrinks
  have hsettled := Obligation.repay_shrinks l.settled_eq
  have hwithdrawn := Obligation.withdraw_shrinks l.withdrawn_eq
  have hall := (htrack.trans hsettled).trans hwithdrawn
  exact ⟨hall.deposits, hall.borrows⟩

/-- Only deposits and borrows open a position. -/
theorem ChangesObligation.shrinks (hch : ChangesObligation w w' clock index ix o o')
    (hix : ¬ ix.OpensPosition) (htiers : o.TiersOf w.reserves) : o.Shrinks o' := by
  cases hch with
  | refresh hop => exact refreshObligation_shrinks htiers hop
  | request hop => exact requestElevationGroup_shrinks htiers hop
  | deposit hr _ hop => exact absurd trivial hix
  | borrow hr hop _ => exact absurd trivial hix
  | withdraw hr hop _ =>
    obtain ⟨-, -, i, d, o₁, kind, -, -, hwithdraw, rfl, -⟩ :=
      Klend.withdrawObligationCollateral_spec hop
    have hshrinks := Obligation.withdraw_shrinks hwithdraw
    exact ⟨hshrinks.deposits, hshrinks.borrows⟩
  | repay hr hop _ =>
    obtain ⟨-, -, b, i, b₁, settle, cap, o₁, r₁, l, o₂, hfind, hb₁, -, htrack, -, -, hrepay, rfl⟩ :=
      Klend.repayObligationLiquidity_spec hop
    obtain ⟨hb, -⟩ := findLiquidityInBorrows_spec hfind
    obtain ⟨-, -, -, hframe⟩ := accrueInterest_spec hb₁
    have haccrued : o.Shrinks { o with borrows := o.borrows.set i b₁ } :=
      ⟨.refl _ _, .set hb (by rw [hframe])⟩
    have hshrinks := (haccrued.trans (updateOnRepay_retracked htrack).1.shrinks).trans
      (Obligation.repay_shrinks hrepay)
    exact ⟨hshrinks.deposits, hshrinks.borrows⟩
  | socialize hr hop _ =>
    obtain ⟨-, -, -, b, i, supply, n, o₁, r₁, l, o₂, -, -, -, -, htrack, -, -, hrepay, rfl⟩ :=
      Klend.socializeLoss_spec hop
    have hshrinks := (updateOnRepay_retracked htrack).1.shrinks.trans
      (Obligation.repay_shrinks hrepay)
    exact ⟨hshrinks.deposits, hshrinks.borrows⟩
  | liquidate l => exact l.shrinks
  | mark hop _ =>
    obtain ⟨target, started, rfl⟩ := markObligationForDeleveraging_frame hop
    exact ⟨.refl _ _, .refl _ _⟩

theorem assetTierOf_refreshed {r r₁ : Reserve} {bps : U16} (hr : w.loadReserve k = .ok r)
    (hr₁ : Klend.refreshReserve r clock none bps = .ok r₁) (t : U8)
    (ht : w.reserves.assetTierOf k = some t) : t = r₁.config.assetTier := by
  rw [Reserves.assetTierOf, (loadReserve_eq_ok.1 hr).2.1, Option.map_some, Option.some.injEq] at ht
  rw [Reserve.refreshReserve_settings hr₁]
  exact ht.symm

theorem ChangesObligation.isolated (hch : ChangesObligation w w' clock index ix o o')
    (hwf : o.WellFormed) (htiers : o.TiersOf w.reserves)
    (hvalid : validateObligationAssetTiers o = .ok ()) :
    o'.TiersOf w.reserves ∧ validateObligationAssetTiers o' = .ok () := by
  by_cases hix : ix.OpensPosition
  · cases hch with
    | deposit hr hr₁ hop _ =>
      exact (depositObligationCollateral_positions hwf (assetTierOf_refreshed hr hr₁) htiers
        hop).2.2.2.2
    | borrow hr hop _ =>
      exact (borrowObligationLiquidity_positions hwf (loadReserve_eq_ok.1 hr).1
        (loadReserve_eq_ok.1 hr).2.1 htiers hop).2.2
    | _ => exact absurd hix id
  · have hshrinks := hch.shrinks hix htiers
    exact ⟨htiers.shrinks hshrinks, hwf.validate_shrinks hshrinks hvalid⟩

/-- A fresh obligation may only borrow outside a group when its last refresh found no collateral
disabled there. -/
theorem ChangesObligation.flagRight (hch : ChangesObligation w w' clock index ix o o')
    (hflag : o.FlagRight w.reserves) : o'.FlagRight w.reserves := by
  intro hfresh hgroup hbd
  rcases hch.stale with ⟨remaining, states, rfl⟩ | ⟨pct, rfl⟩ | hstale
  · cases hch with
    | refresh hop =>
      obtain ⟨group, o₁, rs₁, borrows, o₂, deposits, hg, hb, hd, rfl⟩ :=
        Klend.refreshObligation_spec hop
      obtain ⟨hbook, -, hframe₁⟩ := refreshObligationBorrows_frame hb
      obtain ⟨-, -, hframe₂⟩ := refreshObligationDeposits_frame hd
      have hsame : o₂.elevationGroup = o.elevationGroup := by rw [hframe₂, hframe₁]
      have hnone : group = none := by
        rw [← hsame, show o₂.elevationGroup = elevationGroupNone from hgroup] at hg
        exact getElevationGroup_none hg
      subst hnone
      have hclear := refreshObligationDeposits_flag hd (boolToU8_eq_zero hbd)
      exact fun hdisabled ↦ hclear (hdisabled.mono fun _ ↦ hbook.disabled)
  · cases hch with
    | mark hop _ =>
      obtain ⟨target, started, rfl⟩ := markObligationForDeleveraging_frame hop
      exact hflag hfresh hgroup hbd
  · exact Obligation.FlagRight.of_stale hstale hfresh hgroup hbd

/-- Only a request changes the group. -/
theorem ChangesObligation.elevationGroup_eq (hch : ChangesObligation w w' clock index ix o o') :
    (∃ group remaining states, ix = .requestElevationGroup index group remaining states) ∨
      o'.elevationGroup = o.elevationGroup := by
  cases hch with
  | request hop => exact .inl ⟨_, _, _, rfl⟩
  | refresh hop =>
    obtain ⟨group, o₁, rs₁, borrows, o₂, deposits, -, hb, hd, rfl⟩ :=
      Klend.refreshObligation_spec hop
    obtain ⟨-, -, hframe₁⟩ := refreshObligationBorrows_frame hb
    obtain ⟨-, -, hframe₂⟩ := refreshObligationDeposits_frame hd
    refine .inr ?_
    show o₂.elevationGroup = _
    rw [hframe₂, hframe₁]
  | deposit hr _ hop =>
    obtain ⟨-, -, group, total, tier, o₁, i, r₁, d, d₁, -, -, hfind, -, -, rfl, -⟩ :=
      Klend.depositObligationCollateral_spec hop
    rcases findOrAddCollateral_spec hfind with ⟨rfl, -⟩ | ⟨-, -, e, -, rfl⟩
    · exact .inr rfl
    · exact .inr rfl
  | borrow hr hop _ =>
    obtain ⟨-, -, -, -, n, cap, l, tier, o₁, i, b, b₁, r₁, group, b₂, -, -, hfind, hb, -, -, -,
      htrack, -⟩ := Klend.borrowObligationLiquidity_spec hop
    refine .inr ?_
    rw [(updateOnBorrow_retracked htrack).1.frame]
    rcases findOrAddLiquidity_spec hfind hb with ⟨rfl, -⟩ | ⟨-, -, -, rfl⟩
    · rfl
    · rfl
  | withdraw hr hop _ =>
    obtain ⟨-, -, i, d, o₁, kind, -, -, hwithdraw, rfl, -⟩ :=
      Klend.withdrawObligationCollateral_spec hop
    obtain ⟨d, -, ⟨-, -, rfl⟩ | ⟨rest, -, -, -, rfl⟩⟩ := withdraw_spec hwithdraw
    · exact .inr rfl
    · exact .inr rfl
  | repay hr hop _ =>
    obtain ⟨-, -, b, i, b₁, settle, cap, o₁, r₁, l, o₂, -, -, -, htrack, -, -, hrepay, rfl⟩ :=
      Klend.repayObligationLiquidity_spec hop
    exact .inr ((repay_elevationGroup hrepay).trans (by
      rw [(updateOnRepay_retracked htrack).1.frame]))
  | socialize hr hop _ =>
    obtain ⟨-, -, -, b, i, supply, n, o₁, r₁, l, o₂, -, -, -, -, htrack, -, -, hrepay, rfl⟩ :=
      Klend.socializeLoss_spec hop
    exact .inr ((repay_elevationGroup hrepay).trans (by
      rw [(updateOnRepay_retracked htrack).1.frame]))
  | liquidate l =>
    have hsettled := repay_elevationGroup l.settled_eq
    obtain ⟨d, -, ⟨-, -, heq⟩ | ⟨rest, -, -, -, heq⟩⟩ := withdraw_spec l.withdrawn_eq <;>
    · refine .inr ?_
      show l.withdrawn.elevationGroup = _
      rw [heq, hsettled, (updateOnRepay_retracked l.tracked_eq).1.frame]
  | mark hop _ =>
    obtain ⟨target, started, rfl⟩ := markObligationForDeleveraging_frame hop
    exact .inr rfl

/-- No collateral that is disabled outside groups is deposited there beside a debt that the last
refresh valued at nothing. -/
def DebtsValued (w : World) (_ : Clock) : Instruction → Prop
  | .depositObligationCollateral index key _ => ∀ o, w.obligations[index]? = some o →
      o.elevationGroup = elevationGroupNone → w.reserves.DisabledOutsideEmode key → o.Owes →
      o.borrowFactorAdjustedDebtValueSf ≠ Fraction.zero
  | _ => True

theorem requestElevationGroup_usable {newGroup : U8} {states states' : ReferrerTokenStates}
    {stateKeys : List ReferrerTokenStateKey} {rs rs' : Reserves} {iter iter' : List Pubkey}
    {market : LendingMarket} {slot : U64} (hwf : o'.WellFormed)
    (hop : Klend.requestElevationGroup o market slot newGroup rs iter iter' states stateKeys =
      .ok (o', rs', states')) : o'.CollateralUsable rs := by
  obtain ⟨-, -, oldGroup, group, o₁, rs₁, o₂, rs₂, borrows, o₃, deposits, -, hreset, hg, hb, hd, rfl,
    hcheck⟩ := Klend.requestElevationGroup_spec hop
  intro hgroup howes
  have hnone : group = none := by
    rw [show newGroup = elevationGroupNone from hgroup] at hg
    exact getElevationGroup_none hg
  subst hnone
  have hclear : boolToU8 deposits.borrowingDisabled = 0 :=
    borrowingDisabled_eq_zero hcheck hgroup (hwf.owes_iff.1 howes)
  have hdisabled := refreshObligationDeposits_flag hd (boolToU8_eq_zero hclear)
  have hbook₁ := (resetElevationGroupDebts_retracked hreset).2.rebooked
  have hbook₂ := (refreshObligationBorrows_frame hb).1
  exact fun hheld ↦ hdisabled (hheld.mono fun _ ↦ (hbook₁.trans hbook₂).disabled)

theorem ChangesObligation.usable (hch : ChangesObligation w w' clock index ix o o')
    (hcond : w.DebtsValued clock ix) (ho : w.obligations[index]? = some o) (hwf : o.WellFormed)
    (hwf' : o'.WellFormed) (htiers : o.TiersOf w.reserves) (hflag : o.FlagRight w.reserves)
    (husable : o.CollateralUsable w.reserves) : o'.CollateralUsable w.reserves := by
  by_cases hix : ix.OpensPosition
  · intro hgroup howes
    cases hch with
    | deposit hr hr₁ hop _ =>
      obtain ⟨hborrows, hgroup', -, hmem, -⟩ := depositObligationCollateral_positions hwf
        (assetTierOf_refreshed hr hr₁) htiers hop
      rw [hgroup'] at hgroup
      have howes₀ : o.Owes := by
        rw [Obligation.Owes, hborrows] at howes
        exact howes
      rintro ⟨d, hd, hne, hdisabled⟩
      rcases hmem d hd with hkey | ⟨e, he, hkey⟩
      · rw [hkey] at hdisabled
        have hvalue := hcond o ho hgroup hdisabled howes₀
        obtain ⟨-, -, -, -, -, -, -, -, -, -, -, -, -, -, -, -, -, -, -, -, hrefused⟩ :=
          Klend.depositObligationCollateral_spec hop
        rcases hdisabled with ⟨r₀, hr₀, hpos⟩
        obtain rfl := Option.some.inj ((loadReserve_eq_ok.1 hr).2.1.symm.trans hr₀)
        refine hrefused ⟨?_, hgroup, ?_⟩
        · rw [Reserve.refreshReserve_settings hr₁]
          exact hpos
        · exact Nat.pos_of_ne_zero fun hz ↦ hvalue (Fraction.ext hz)
      · exact husable hgroup howes₀ ⟨e, he, hkey ▸ hne, hkey ▸ hdisabled⟩
    | borrow hr hop _ =>
      obtain ⟨hdeposits, hgroup', -⟩ := borrowObligationLiquidity_positions hwf
        (loadReserve_eq_ok.1 hr).1 (loadReserve_eq_ok.1 hr).2.1 htiers hop
      rw [hgroup'] at hgroup
      obtain ⟨-, ⟨hfresh, -⟩, -, -, -, -, -, -, -, -, -, -, -, -, -, -, -, -, -, -, -, -, -, -, -, -,
        -, -, -, henabled, -⟩ := Klend.borrowObligationLiquidity_spec hop
      rw [checkNonElevationGroupBorrowingEnabled, require_eq_ok, not_and] at henabled
      have hbd := Fin.le_zero_iff.1 (not_lt.1 (henabled hgroup))
      exact fun hheld ↦ hflag hfresh hgroup hbd (hheld.of_shrinks hdeposits)
    | _ => exact absurd hix id
  · have hshrinks := hch.shrinks hix htiers
    rcases hch.elevationGroup_eq with ⟨newGroup, remaining, states, rfl⟩ | hgroup
    · cases hch with
      | request hop => exact requestElevationGroup_usable hwf' hop
    · intro hnone howes hheld
      exact husable (hgroup.symm.trans hnone) (hwf.owes_shrinks hwf' hshrinks.borrows howes)
        (hheld.of_shrinks hshrinks.deposits)

/-- Every obligation is well formed, its tiers are its reserves' and valid, and its borrowing flag
is right when fresh. -/
structure Isolated (w : World) : Prop extends WellFormed w where
  tiersOf : ∀ o ∈ w.obligations, o.TiersOf w.reserves
  valid : ∀ o ∈ w.obligations, validateObligationAssetTiers o = .ok ()
  flagRight : ∀ o ∈ w.obligations, o.FlagRight w.reserves

def CollateralUsable (w : World) : Prop := ∀ o ∈ w.obligations, o.CollateralUsable w.reserves

theorem holdsDisabled_process (h : w.process clock ix = .ok w')
    (hheld : o.HoldsDisabled w'.reserves) : o.HoldsDisabled w.reserves :=
  hheld.mono fun _ ↦ (process_disabled h).1

theorem process_isolated (h : w.process clock ix = .ok w') (hw : w.Isolated) : w'.Isolated where
  toWellFormed := process_wellFormed h hw.toWellFormed
  tiersOf := process_forall (P := fun w o ↦ o.TiersOf w.reserves) h
    (fun tag owner referrer ↦ (Obligation.init_isolated tag _ _ owner referrer).1)
    (fun _ _ _ hch hmem ho ↦ (hch.isolated (hw.obligations _ hmem) ho (hw.valid _ hmem)).1.mono
      fun _ _ ↦ process_assetTierOf h)
    (fun _ _ ho ↦ ho.mono fun _ _ ↦ process_assetTierOf h) hw.tiersOf
  valid := process_forall (P := fun _ o ↦ validateObligationAssetTiers o = .ok ()) h
    (fun tag owner referrer ↦ (@Obligation.init_isolated w.reserves tag _ _ owner referrer).2)
    (fun _ _ _ hch hmem ho ↦ (hch.isolated (hw.obligations _ hmem) (hw.tiersOf _ hmem) ho).2)
    (fun _ _ ho ↦ ho) hw.valid
  flagRight := process_forall (P := fun w o ↦ o.FlagRight w.reserves) h
    (fun _ _ _ ↦ .of_stale rfl)
    (fun _ _ _ hch _ ho hfresh hgroup hbd hheld ↦
      hch.flagRight ho hfresh hgroup hbd (holdsDisabled_process h hheld))
    (fun _ _ ho hfresh hgroup hbd hheld ↦ ho hfresh hgroup hbd (holdsDisabled_process h hheld))
    hw.flagRight

end World

end Klend
