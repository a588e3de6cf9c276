import Klend.Lending.RefreshSpecs
import Klend.Positions.Steps

/-! # The slots of an obligation

The two tables of an obligation, its collaterals and its debts, stay well formed
through every operation, and the debt flag tells whether there is debt.
-/

namespace Klend

namespace ObligationCollateral

def Blank (d : ObligationCollateral) : Prop :=
  d.depositedAmount = 0 ∧ d.marketValueSf = Fraction.zero

end ObligationCollateral

namespace ObligationLiquidity

def Blank (b : ObligationLiquidity) : Prop :=
  b.borrowedAmountSf = Fraction.zero ∧ b.marketValueSf = Fraction.zero ∧
    b.borrowFactorAdjustedMarketValueSf = Fraction.zero

end ObligationLiquidity

namespace Obligation

abbrev DepositsWellFormed (o : Obligation) : Prop :=
  SlotTable.WellFormed ObligationCollateral.depositReserve
    (fun d : ObligationCollateral ↦ (d.depositedAmount : ℕ)) ObligationCollateral.Blank (Word.max 8)
    o.deposits o.depositsAssetTiers

abbrev BorrowsWellFormed (o : Obligation) : Prop :=
  SlotTable.WellFormed ObligationLiquidity.borrowReserve
    (fun b : ObligationLiquidity ↦ b.borrowedAmountSf.bits) ObligationLiquidity.Blank (Word.max 8)
    o.borrows o.borrowsAssetTiers

structure TablesWellFormed (o : Obligation) : Prop where
  deposits : o.DepositsWellFormed
  borrows : o.BorrowsWellFormed

structure WellFormed (o : Obligation) : Prop extends TablesWellFormed o where
  hasDebt : o.hasDebt = if o.borrowsEmpty then 0 else 1

variable {o o' : Obligation} {i : ℕ} {key : Pubkey}

theorem init_wellFormed (tag slot : U64) (market owner referrer : Pubkey) :
    (init tag slot market owner referrer).WellFormed where
  deposits := by
    refine SlotTable.wellFormed_replicate (s := (default : ObligationCollateral)) ?_ ?_ 8
    · rfl
    · exact ⟨rfl, rfl⟩
  borrows := by
    refine SlotTable.wellFormed_replicate (s := (default : ObligationLiquidity)) ?_ ?_ 5
    · rfl
    · exact ⟨rfl, rfl, rfl⟩
  hasDebt := rfl

theorem TablesWellFormed.findLiquidity {b : ObligationLiquidity} (h : o.TablesWellFormed)
    (hb : b ∈ o.borrows) (hne : b.borrowReserve ≠ 0) :
    ∃ i, o.findLiquidityInBorrows b.borrowReserve = .ok (b, i) := by
  rcases SlotTable.WellFormed.findIdx?_key h.borrows hb hne with ⟨i, hfind, hi⟩
  refine ⟨i, ?_⟩
  simp only [findLiquidityInBorrows, findLiquidityIndexInBorrows, bind_eq_ok, require_eq_ok,
    okOr_eq_ok, unwrap_eq_ok, pure_eq_ok, Prod.mk.injEq]
  refine ⟨(), ?_, i, hfind, b, hi, rfl, rfl⟩
  rw [borrowsEmpty, List.all_eq_false]
  exact ⟨b, hb, by simpa using hne⟩

theorem TablesWellFormed.positionOfCollateral {d : ObligationCollateral} (h : o.TablesWellFormed)
    (hd : d ∈ o.deposits) (hne : d.depositReserve ≠ 0) :
    ∃ i, o.positionOfCollateralInDeposits d.depositReserve = .ok i ∧ o.deposits[i]? = some d := by
  rcases SlotTable.WellFormed.findIdx?_key h.deposits hd hne with ⟨i, hfind, hi⟩
  refine ⟨i, ?_, hi⟩
  simp only [positionOfCollateralInDeposits, bind_eq_ok, require_eq_ok, okOr_eq_ok]
  refine ⟨(), ?_, hfind⟩
  rw [depositsEmpty, List.all_eq_false]
  exact ⟨d, hd, by simpa using hne⟩

theorem DepositsWellFormed.retracked (h : o.DepositsWellFormed) (htrack : o.Retracked o') :
    o'.DepositsWellFormed := by
  have htiers : o'.depositsAssetTiers = o.depositsAssetTiers := by rw [htrack.frame]
  have hmap := SlotTable.WellFormed.map h (htrack.deposits.imp ?_) h.tagged
  · rwa [← htiers] at hmap
  · rintro d d' ⟨n, rfl⟩
    exact ⟨rfl, id, fun _ h ↦ h⟩

theorem BorrowsWellFormed.retracked (h : o.BorrowsWellFormed) (htrack : o.Retracked o') :
    o'.BorrowsWellFormed := by
  have htiers : o'.borrowsAssetTiers = o.borrowsAssetTiers := by rw [htrack.frame]
  have hmap := SlotTable.WellFormed.map h (htrack.borrows.imp ?_) h.tagged
  · rwa [← htiers] at hmap
  · rintro b b' ⟨n, rfl⟩
    exact ⟨rfl, id, fun _ h ↦ h⟩

theorem Retracked.borrowsEmpty_eq (h : o.Retracked o') : o'.borrowsEmpty = o.borrowsEmpty := by
  have hb := h.borrows
  unfold borrowsEmpty
  generalize o.borrows = l at hb
  generalize o'.borrows = l' at hb
  induction hb with
  | nil => rfl
  | cons hb _ ih =>
    obtain ⟨n, rfl⟩ := hb
    rw [List.all_cons, List.all_cons, ih]
    rfl

theorem BorrowsWellFormed.repay {settle : Fraction} (h : o.BorrowsWellFormed)
    (hheld : ∀ b, o.borrows[i]? = some b → b.borrowReserve ≠ 0) (hop : o.repay settle i = .ok o') :
    o'.BorrowsWellFormed := by
  obtain ⟨b, hb, ⟨-, rfl⟩ | ⟨rest, hrest, -, rfl⟩⟩ := repay_spec hop
  · exact SlotTable.WellFormed.clear h rfl ⟨rfl, rfl, rfl⟩
  · exact SlotTable.WellFormed.set h hb rfl (hheld b hb) hrest

theorem DepositsWellFormed.withdraw {n : U64} {kind : WithdrawResult} (h : o.DepositsWellFormed)
    (hheld : ∀ d, o.deposits[i]? = some d → d.depositReserve ≠ 0)
    (hop : o.withdraw n i = .ok (o', kind)) : o'.DepositsWellFormed := by
  obtain ⟨d, hd, ⟨-, -, rfl⟩ | ⟨rest, hrest, -, -, rfl⟩⟩ := withdraw_spec hop
  · exact SlotTable.WellFormed.clear h rfl ⟨rfl, rfl⟩
  · exact SlotTable.WellFormed.set h hd rfl (hheld d hd) hrest

theorem repay_deposits {settle : Fraction} (hop : o.repay settle i = .ok o') :
    o'.deposits = o.deposits ∧ o'.depositsAssetTiers = o.depositsAssetTiers := by
  obtain ⟨b, -, ⟨-, rfl⟩ | ⟨rest, -, -, rfl⟩⟩ := repay_spec hop <;> exact ⟨rfl, rfl⟩

theorem withdraw_borrows {n : U64} {kind : WithdrawResult} (hop : o.withdraw n i = .ok (o', kind)) :
    o'.borrows = o.borrows ∧ o'.borrowsAssetTiers = o.borrowsAssetTiers ∧
      o'.hasDebt = o.hasDebt := by
  obtain ⟨d, -, ⟨-, -, rfl⟩ | ⟨rest, -, -, -, rfl⟩⟩ := withdraw_spec hop <;> exact ⟨rfl, rfl, rfl⟩

theorem toU8_ne_max (tier : AssetTier) : tier.toU8 ≠ Word.max 8 := by
  cases tier <;> decide

theorem BorrowsWellFormed.borrow {rate : BigFraction} {tier : AssetTier}
    {b b₁ : ObligationLiquidity} {f : Fraction} (h : o.BorrowsWellFormed) (hkey : key ≠ 0)
    (hf : 0 < f.bits) (hfind : o.findOrAddLiquidityToBorrows key rate tier = .ok (o', i))
    (hb : o'.borrows[i]? = some b) (hb₁ : b.borrow f = .ok b₁) :
    Obligation.BorrowsWellFormed { o' with borrows := o'.borrows.set i b₁ } := by
  simp only [ObligationLiquidity.borrow, bind_eq_ok, Fraction.add_eq_ok, pure_eq_ok] at hb₁
  obtain ⟨x, hx, rfl⟩ := hb₁
  obtain ⟨rfl, hbkey⟩ | ⟨hfresh, -, rfl, rfl⟩ := findOrAddLiquidity_spec hfind hb
  · refine SlotTable.WellFormed.set h hb rfl (hbkey ▸ hkey) ?_
    show 0 < x.bits
    omega
  · show SlotTable.WellFormed _ _ _ _ ((o.borrows.set i _).set i _) _
    rw [List.set_set]
    refine SlotTable.WellFormed.occupy h hfresh hkey ?_ (toU8_ne_max tier)
    show 0 < x.bits
    omega

theorem DepositsWellFormed.deposit {tier : AssetTier} {α : Type} {unchanged a : α}
    {init : ObligationCollateral → Result (ObligationCollateral × α)} {n : U64}
    {d d₁ : ObligationCollateral} (h : o.DepositsWellFormed) (hkey : key ≠ 0) (hn : n ≠ 0)
    (hinit : ∀ d d' a, init d = .ok (d', a) → ∃ m, d' = d.setDebtInGroup m)
    (hfind : o.findOrAddCollateralToDeposits key tier init unchanged = .ok (o', i, a))
    (hd : o'.deposits[i]? = some d) (hd₁ : d.deposit n = .ok d₁) :
    Obligation.DepositsWellFormed { o' with deposits := o'.deposits.set i d₁ } := by
  have hpos : 0 < (n : ℕ) := Nat.pos_of_ne_zero fun h0 ↦ hn (Fin.ext h0)
  simp only [ObligationCollateral.deposit, bind_eq_ok, okOr_eq_ok, Word.checkedAdd_eq_some,
    pure_eq_ok] at hd₁
  obtain ⟨x, hx, rfl⟩ := hd₁
  obtain ⟨rfl, -, d₀, hd₀, hdkey⟩ | ⟨hfresh, ⟨free, hfree, -⟩, d₀, hd₀, rfl⟩ :=
    findOrAddCollateral_spec hfind
  · obtain rfl := Option.some.inj (hd₀.symm.trans hd)
    refine SlotTable.WellFormed.set h hd rfl (hdkey ▸ hkey) ?_
    show 0 < (x : ℕ)
    omega
  · obtain ⟨m, rfl⟩ := hinit _ _ _ hd₀
    rw [List.getElem?_set_self (List.getElem?_eq_some_iff.1 hfree).1, Option.some.injEq] at hd
    subst hd
    show SlotTable.WellFormed _ _ _ _ ((o.deposits.set i _).set i _) _
    rw [List.set_set]
    refine SlotTable.WellFormed.occupy h hfresh hkey ?_ (toU8_ne_max tier)
    show 0 < (x : ℕ)
    omega

theorem TablesWellFormed.retracked (h : o.TablesWellFormed) (htrack : o.Retracked o') :
    o'.TablesWellFormed :=
  ⟨h.deposits.retracked htrack, h.borrows.retracked htrack⟩

theorem WellFormed.retracked (h : o.WellFormed) (htrack : o.Retracked o') : o'.WellFormed where
  toTablesWellFormed := h.toTablesWellFormed.retracked htrack
  hasDebt := by
    have hdebt : o'.hasDebt = o.hasDebt := by rw [htrack.frame]
    rw [hdebt, htrack.borrowsEmpty_eq]
    exact h.hasDebt

theorem TablesWellFormed.repay {settle : Fraction} (h : o.TablesWellFormed)
    (hheld : ∀ b, o.borrows[i]? = some b → b.borrowReserve ≠ 0) (hop : o.repay settle i = .ok o') :
    o'.TablesWellFormed where
  deposits := by
    obtain ⟨hd, hdt⟩ := repay_deposits hop
    unfold DepositsWellFormed
    rw [hd, hdt]
    exact h.deposits
  borrows := h.borrows.repay hheld hop

theorem TablesWellFormed.withdraw {n : U64} {kind : WithdrawResult} (h : o.TablesWellFormed)
    (hheld : ∀ d, o.deposits[i]? = some d → d.depositReserve ≠ 0)
    (hop : o.withdraw n i = .ok (o', kind)) : o'.TablesWellFormed where
  deposits := h.deposits.withdraw hheld hop
  borrows := by
    obtain ⟨hb, hbt, -⟩ := withdraw_borrows hop
    unfold BorrowsWellFormed
    rw [hb, hbt]
    exact h.borrows

theorem TablesWellFormed.updateHasDebt (h : o.TablesWellFormed) :
    o.updateHasDebt.markStale.WellFormed :=
  ⟨⟨h.deposits, h.borrows⟩, rfl⟩

end Obligation

section Operations

variable {market : LendingMarket} {r r' : Reserve} {o o' : Obligation} {amount slot : U64}
  {clock : Clock} {key : Pubkey} {rs rs' : Reserves} {iter iter' : List Pubkey}

theorem Obligation.WellFormed.borrowed {o₁ : Obligation} {rate : BigFraction} {tier : AssetTier}
    {i : ℕ} {b b₁ : ObligationLiquidity} {f : Fraction} (h : o.WellFormed) (hkey : key ≠ 0)
    (hf : 0 < f.bits) (hfind : o.findOrAddLiquidityToBorrows key rate tier = .ok (o₁, i))
    (hb : o₁.borrows[i]? = some b) (hb₁ : b.borrow f = .ok b₁) :
    Obligation.WellFormed (Obligation.markStale { o₁ with
      borrows := o₁.borrows.set i b₁, hasDebt := 1 }) := by
  have hborrows := h.borrows.borrow hkey hf hfind hb hb₁
  have hdeposits : o₁.DepositsWellFormed := by
    obtain ⟨rfl, -⟩ | ⟨-, -, -, rfl⟩ := findOrAddLiquidity_spec hfind hb <;> exact h.deposits
  -- the slot just written is held, so the flag is right
  have hkey₁ : b₁.borrowReserve ≠ 0 := by
    simp only [ObligationLiquidity.borrow, bind_eq_ok, pure_eq_ok] at hb₁
    obtain ⟨x, -, rfl⟩ := hb₁
    obtain ⟨-, hbkey⟩ | ⟨-, -, rfl, -⟩ := findOrAddLiquidity_spec hfind hb
    · exact hbkey ▸ hkey
    · exact hkey
  have hempty : (o₁.borrows.set i b₁).all (·.borrowReserve = 0) = false := by
    rw [List.all_eq_false]
    exact ⟨b₁, List.mem_set (List.getElem?_eq_some_iff.1 hb).1 b₁, by simpa using hkey₁⟩
  refine ⟨⟨hdeposits, hborrows⟩, ?_⟩
  show (1 : U8) = if (o₁.borrows.set i b₁).all (·.borrowReserve = 0) then 0 else 1
  rw [hempty]
  rfl

theorem borrowObligationLiquidity_wellFormed {ost ost' : Option ReferrerTokenState}
    {res : CalculateBorrowResult} (h : o.WellFormed) (hkey : key ≠ 0)
    (hop : borrowObligationLiquidity market r o amount clock key ost rs iter =
      .ok (r', o', ost', rs', res)) : o'.WellFormed := by
  obtain ⟨-, -, -, hcalc, n, cap, l, tier, o₁, i, b, b₁, r₁, group, b₂, -, -, hfind, hb, hb₁, -, -,
    htrack, -, -, -, -, hreceive, -⟩ := borrowObligationLiquidity_spec hop
  have hmid := h.borrowed hkey (calculateBorrow_pos hcalc hreceive) hfind hb hb₁
  exact hmid.retracked (updateOnBorrow_retracked htrack).1

theorem repayObligationLiquidity_wellFormed {n : U64} (h : o.WellFormed) (hkey : key ≠ 0)
    (hop : repayObligationLiquidity r o clock amount key market rs iter =
      .ok (r', o', rs', n)) : o'.WellFormed := by
  obtain ⟨-, -, b, i, b₁, settle, cap, o₁, r₁, l, o₂, hfind, hb₁, -, htrack, -, -, hrepay, rfl⟩ :=
    repayObligationLiquidity_spec hop
  obtain ⟨hb, hbkey⟩ := findLiquidityInBorrows_spec hfind
  have hheld : b.borrowReserve ≠ 0 := hbkey ▸ hkey
  obtain ⟨-, hgrown, -, hframe⟩ := accrueInterest_spec hb₁
  have hkey₁ : b₁.borrowReserve = b.borrowReserve := by rw [hframe]
  have haccrued : Obligation.TablesWellFormed { o with borrows := o.borrows.set i b₁ } :=
    ⟨h.deposits, SlotTable.WellFormed.set h.borrows hb hkey₁ hheld
      ((h.borrows.held b (List.mem_of_getElem? hb) hheld).trans_le hgrown)⟩
  have htracked := (updateOnRepay_retracked htrack).1
  refine ((haccrued.retracked htracked).repay (fun b₂ hb₂ ↦ ?_) hrepay).updateHasDebt
  obtain ⟨b₃, hb₃, n, rfl⟩ := SlotTable.exists_of_forall₂_right htracked.borrows hb₂
  rw [List.getElem?_set_self (List.getElem?_eq_some_iff.1 hb).1, Option.some.injEq] at hb₃
  subst hb₃
  exact hkey₁ ▸ hheld

theorem socializeLoss_wellFormed {f : Fraction} (h : o.WellFormed) (hkey : key ≠ 0)
    (hop : socializeLoss r key o amount slot rs iter = .ok (r', o', rs', f)) : o'.WellFormed := by
  obtain ⟨-, -, -, b, i, supply, n, o₁, r₁, l, o₂, hfind, -, -, -, htrack, -, -, hrepay, rfl⟩ :=
    socializeLoss_spec hop
  obtain ⟨hb, hbkey⟩ := findLiquidityInBorrows_spec hfind
  have htracked := (updateOnRepay_retracked htrack).1
  refine ((h.toTablesWellFormed.retracked htracked).repay (fun b₂ hb₂ ↦ ?_) hrepay).updateHasDebt
  obtain ⟨b₃, hb₃, n, rfl⟩ := SlotTable.exists_of_forall₂_right htracked.borrows hb₂
  obtain rfl := Option.some.inj (hb.symm.trans hb₃)
  exact hbkey ▸ hkey

theorem depositObligationCollateral_wellFormed {check : MaxReservesAsCollateralCheck}
    (h : o.WellFormed) (hkey : key ≠ 0)
    (hop : depositObligationCollateral market r o slot amount key check = .ok (r', o')) :
    o'.WellFormed := by
  obtain ⟨-, -, group, total, tier, o₁, i, r₁, d, d₁, -, -, hfind, hd, hd₁, rfl, -, hamount, -⟩ :=
    depositObligationCollateral_spec hop
  have hdeposits := h.deposits.deposit hkey hamount ?init hfind hd hd₁
  case init =>
    intro d d' a hinit
    obtain ⟨-, rfl, -⟩ | ⟨g, j, m, m', -, -, -, -, -, rfl, -⟩ := updateOnNewDeposit_spec hinit
    · exact ⟨_, rfl⟩
    · exact ⟨m, rfl⟩
  obtain ⟨rfl, -⟩ | ⟨-, -, d₀, -, rfl⟩ := findOrAddCollateral_spec hfind <;>
    exact ⟨⟨hdeposits, h.borrows⟩, h.hasDebt⟩

theorem withdrawObligationCollateral_wellFormed {check : LtvMaxWithdrawalCheck} {n : U64}
    (h : o.WellFormed) (hkey : key ≠ 0)
    (hop : withdrawObligationCollateral market r o amount slot key check = .ok (r', o', n)) :
    o'.WellFormed := by
  obtain ⟨-, -, i, d, o₁, kind, hi, hd, hw, rfl, -⟩ := withdrawObligationCollateral_spec hop
  obtain ⟨d', hd', hdkey⟩ := positionOfCollateral_spec hi
  obtain rfl := Option.some.inj (hd.symm.trans hd')
  have htables := h.toTablesWellFormed.withdraw (fun d' hd' ↦ ?_) hw
  · obtain ⟨hb, -, hdebt⟩ := Obligation.withdraw_borrows hw
    refine ⟨⟨htables.deposits, htables.borrows⟩, ?_⟩
    show o₁.hasDebt = if o₁.borrows.all (·.borrowReserve = 0) then 0 else 1
    rw [hb, hdebt]
    exact h.hasDebt
  · obtain rfl := Option.some.inj (hd.symm.trans hd')
    exact hdkey ▸ hkey

theorem refreshObligationBorrows_wellFormed {group : Option ElevationGroup}
    {states states' : ReferrerTokenStates} {stateKeys : List ReferrerTokenStateKey}
    {borrows : RefreshObligationBorrowsResult} (h : o.WellFormed) (htiers : rs.TiersKnown)
    (hop : refreshObligationBorrows o market slot group rs iter states stateKeys =
      .ok (o', rs', states', borrows)) : o'.WellFormed ∧ rs'.TiersKnown := by
  obtain ⟨hbook, hslots, hframe⟩ := refreshObligationBorrows_frame hop
  have hd : o'.deposits = o.deposits ∧ o'.depositsAssetTiers = o.depositsAssetTiers := by
    rw [hframe]
    exact ⟨rfl, rfl⟩
  refine ⟨⟨⟨?_, ?_⟩, refreshObligationBorrows_hasDebt hop h.hasDebt⟩, htiers.of_rebooked hbook⟩
  · unfold Obligation.DepositsWellFormed
    rw [hd.1, hd.2]
    exact h.deposits
  · refine SlotTable.WellFormed.map h.borrows ?_
      (refreshObligationBorrows_tagged hop htiers h.borrows.tagged)
    exact hslots.imp fun b b' hb ↦ ⟨hb.key_eq, fun hpos ↦ hpos.trans_le hb.grown,
      fun hfree hblank ↦ hb.free hfree ▸ hblank⟩

theorem refreshObligationDeposits_wellFormed {group : Option ElevationGroup}
    {check : MaxReservesAsCollateralCheck} {debt : Option U64}
    {deposits : RefreshObligationDepositsResult} (h : o.WellFormed) (htiers : rs.TiersKnown)
    (hop : refreshObligationDeposits o market slot check group rs iter debt =
      .ok (o', rs', deposits)) : o'.WellFormed := by
  obtain ⟨-, hslots, hframe⟩ := refreshObligationDeposits_frame hop
  have hb : o'.borrows = o.borrows ∧ o'.borrowsAssetTiers = o.borrowsAssetTiers ∧
      o'.hasDebt = o.hasDebt := by
    rw [hframe]
    exact ⟨rfl, rfl, rfl⟩
  refine ⟨⟨?_, ?_⟩, ?_⟩
  · refine SlotTable.WellFormed.map h.deposits ?_
      (refreshObligationDeposits_tagged hop htiers h.deposits.tagged)
    exact hslots.imp fun d d' hd ↦ ⟨hd.key_eq, fun hpos ↦ hd.amount_eq ▸ hpos,
      fun hfree hblank ↦ hd.free hfree ▸ hblank⟩
  · unfold Obligation.BorrowsWellFormed
    rw [hb.1, hb.2.1]
    exact h.borrows
  · rw [hb.2.2, Obligation.borrowsEmpty, hb.1]
    exact h.hasDebt

theorem refreshObligation_wellFormed {check : MaxReservesAsCollateralCheck}
    {states states' : ReferrerTokenStates} {stateKeys : List ReferrerTokenStateKey}
    (h : o.WellFormed) (htiers : rs.TiersKnown)
    (hop : refreshObligation o market slot check rs iter iter' states stateKeys =
      .ok (o', rs', states')) : o'.WellFormed := by
  obtain ⟨group, o₁, rs₁, borrows, o₂, deposits, -, hb, hd, rfl⟩ := refreshObligation_spec hop
  obtain ⟨hborrows, htiers₁⟩ := refreshObligationBorrows_wellFormed h htiers hb
  have hdeposits := refreshObligationDeposits_wellFormed hborrows htiers₁ hd
  exact ⟨⟨hdeposits.deposits, hdeposits.borrows⟩, hdeposits.hasDebt⟩

theorem requestElevationGroup_wellFormed {newGroup : U8} {states states' : ReferrerTokenStates}
    {stateKeys : List ReferrerTokenStateKey} (h : o.WellFormed) (htiers : rs.TiersKnown)
    (hop : requestElevationGroup o market slot newGroup rs iter iter' states stateKeys =
      .ok (o', rs', states')) : o'.WellFormed := by
  obtain ⟨-, -, oldGroup, group, o₁, rs₁, o₂, rs₂, borrows, o₃, deposits, -, hreset, -, hb, hd, rfl,
    -⟩ := requestElevationGroup_spec hop
  obtain ⟨htrack, hbook⟩ := resetElevationGroupDebts_retracked hreset
  obtain ⟨hborrows, htiers₂⟩ := refreshObligationBorrows_wellFormed (h.retracked htrack)
    (htiers.of_rebooked hbook.rebooked) hb
  have hdeposits := refreshObligationDeposits_wellFormed hborrows htiers₂ hd
  exact ⟨⟨hdeposits.deposits, hdeposits.borrows⟩, hdeposits.hasDebt⟩

theorem markObligationForDeleveraging_frame {pct : U8} {timestamp : U64}
    (hop : markObligationForDeleveraging market o pct timestamp = .ok o') :
    ∃ target started, o' = { o with
      autodeleverageTargetLtvPct := target
      autodeleverageMarginCallStartedTimestamp := started } := by
  unfold markObligationForDeleveraging at hop
  split at hop
  · split at hop <;> rw [pure_eq_ok] at hop <;> exact ⟨_, _, hop.symm⟩
  · simp only [bind_eq_ok] at hop
    obtain ⟨-, -, -, -, -, -, hop⟩ := hop
    split at hop
    · simp at hop
    · rw [pure_eq_ok] at hop
      exact ⟨_, _, hop.symm⟩

end Operations

namespace World

variable {w w' : World} {clock : Clock} {ix : Instruction} {index : ℕ} {o o' : Obligation}

theorem Liquidation.wellFormed {repayKey withdrawKey : Pubkey} {amount : U64}
    {override : Option U64} {remaining : List Pubkey}
    (l : Liquidation w w' clock index repayKey withdrawKey amount override remaining)
    (h : l.obligation.WellFormed) : l.withdrawn.updateHasDebt.markStale.WellFormed := by
  obtain ⟨hb, hbkey⟩ := findLiquidityInBorrows_spec l.liquidity_eq
  obtain ⟨d, hd, hdkey⟩ := positionOfCollateral_spec l.collateralIndex_eq
  have htrack := (updateOnRepay_retracked l.tracked_eq).1
  refine (((h.toTablesWellFormed.retracked htrack).repay ?debt l.settled_eq).withdraw
    ?collateral l.withdrawn_eq).updateHasDebt
  case debt =>
    intro b' hb'
    obtain ⟨b, hb₀, n, rfl⟩ := SlotTable.exists_of_forall₂_right htrack.borrows hb'
    obtain rfl := Option.some.inj (hb.symm.trans hb₀)
    exact fun hz ↦ (loadReserve_eq_ok.1 l.repayReserve_eq).1 (hbkey.symm.trans hz)
  case collateral =>
    intro d' hd'
    rw [(Obligation.repay_deposits l.settled_eq).1] at hd'
    obtain ⟨d₀, hd₀, n, rfl⟩ := SlotTable.exists_of_forall₂_right htrack.deposits hd'
    obtain rfl := Option.some.inj (hd.symm.trans hd₀)
    exact fun hz ↦ (loadReserve_eq_ok.1 l.withdrawReserve_eq).1 (hdkey.symm.trans hz)

theorem ChangesObligation.wellFormed (hch : ChangesObligation w w' clock index ix o o')
    (htiers : w.reserves.TiersKnown) (h : o.WellFormed) : o'.WellFormed := by
  cases hch with
  | refresh hop => exact refreshObligation_wellFormed h htiers hop
  | request hop => exact requestElevationGroup_wellFormed h htiers hop
  | deposit hr _ hop =>
    exact depositObligationCollateral_wellFormed h (loadReserve_eq_ok.1 hr).1 hop
  | withdraw hr hop _ =>
    exact withdrawObligationCollateral_wellFormed h (loadReserve_eq_ok.1 hr).1 hop
  | borrow hr hop _ => exact borrowObligationLiquidity_wellFormed h (loadReserve_eq_ok.1 hr).1 hop
  | repay hr hop _ => exact repayObligationLiquidity_wellFormed h (loadReserve_eq_ok.1 hr).1 hop
  | socialize hr hop _ => exact socializeLoss_wellFormed h (loadReserve_eq_ok.1 hr).1 hop
  | liquidate l => exact l.wellFormed h
  | mark hop _ =>
    obtain ⟨target, started, rfl⟩ := markObligationForDeleveraging_frame hop
    exact ⟨⟨h.deposits, h.borrows⟩, h.hasDebt⟩

theorem process_tiersKnown (h : w.process clock ix = .ok w') (htiers : w.reserves.TiersKnown) :
    w'.reserves.TiersKnown := by
  intro k r' hr'
  obtain ⟨r, hr, hev⟩ := (process_evolve h).value_rev hr'
  have hsame : r'.config.assetTier = r.config.assetTier := by rw [hev.settings]
  rw [hsame]
  exact htiers k r hr

/-- The tables of every obligation are well formed, over reserves with known tiers. -/
structure WellFormed (w : World) : Prop where
  tiers : w.reserves.TiersKnown
  obligations : ∀ o ∈ w.obligations, o.WellFormed

theorem process_wellFormed (h : w.process clock ix = .ok w') (hw : w.WellFormed) :
    w'.WellFormed where
  tiers := process_tiersKnown h hw.tiers
  obligations := process_forall (P := fun _ o ↦ o.WellFormed) h
    (fun tag owner referrer ↦ Obligation.init_wellFormed tag _ _ owner referrer)
    (fun _ _ _ hch _ ho ↦ hch.wellFormed hw.tiers ho) (fun _ _ ho ↦ ho) hw.obligations

end World

end Klend
