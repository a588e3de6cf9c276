import Klend.Positions.Freshness
import Klend.Positions.LiquidationOrder
import Klend.Positions.PriceStatus
import Klend.Positions.Slots
import Mathlib.Algebra.Order.BigOperators.Group.List

/-! # The parts of repaying and withdrawing

The reserves that an obligation uses before and after a repayment, a refresh and a
withdrawal, and which of them are settled. Between its two operations the handler
refreshes the same reserves as a client that refreshes all of them, with one exception.
-/

namespace Klend

namespace Obligation

def depositKeys (o : Obligation) : List Pubkey :=
  SlotTable.keysInUse ObligationCollateral.depositReserve o.deposits

def borrowKeys (o : Obligation) : List Pubkey :=
  SlotTable.keysInUse ObligationLiquidity.borrowReserve o.borrows

/-- The reserve accounts that refreshing the obligation takes. -/
def reservesInUse (o : Obligation) : List Pubkey := o.depositKeys ++ o.borrowKeys

/-- The referrer token states that refreshing the obligation takes. -/
def referrerStatesInUse (o : Obligation) : List ReferrerTokenStateKey :=
  if o.hasReferrer then o.borrowKeys.map (o.referrer, ·) else []

/-- The same accounts are to be passed for both obligations. -/
structure SameAccounts (o o' : Obligation) : Prop where
  deposits : o'.depositKeys = o.depositKeys
  borrows : o'.borrowKeys = o.borrowKeys
  referrer : o'.referrer = o.referrer

/-- A repayment of the amount settles the whole debt of the reserve. -/
def Clears (o : Obligation) (r : Reserve) (key : Pubkey) (amount : U64) : Prop :=
  ∃ (b : ObligationLiquidity) (i : ℕ) (b₁ : ObligationLiquidity) (n : U64),
    o.findLiquidityInBorrows key = .ok (b, i) ∧
    b.accrueInterest r.liquidity.cumulativeBorrowRateBsf = .ok b₁ ∧
    Reserve.calculateRepay amount b₁.borrowedAmountSf = .ok ⟨b₁.borrowedAmountSf, n⟩

/-- Without debt there is no value of debt. -/
def DebtSummed (o : Obligation) : Prop :=
  o.borrowsEmpty → o.borrowFactorAdjustedDebtValueSf = Fraction.zero

variable {o o' : Obligation} {k : Pubkey}

theorem SameAccounts.reservesInUse_eq (h : o.SameAccounts o') :
    o'.reservesInUse = o.reservesInUse := by
  rw [reservesInUse, reservesInUse, h.deposits, h.borrows]

theorem SameAccounts.referrerStatesInUse_eq (h : o.SameAccounts o') :
    o'.referrerStatesInUse = o.referrerStatesInUse := by
  rw [referrerStatesInUse, referrerStatesInUse, hasReferrer, hasReferrer, h.referrer, h.borrows]

theorem ValuesSummed.debtSummed (h : o.ValuesSummed)
    (hblank : ∀ b ∈ o.borrows, b.borrowReserve = 0 → b.Blank) : o.DebtSummed := by
  intro hempty
  rw [borrowsEmpty, List.all_eq_true] at hempty
  rw [Fraction.eq_zero_iff, h.adjusted, List.sum_eq_zero_iff]
  simp only [List.mem_map]
  rintro _ ⟨b, hb, rfl⟩
  exact congrArg Fraction.bits (hblank b hb (of_decide_eq_true (hempty b hb))).2.2

theorem depositsCount_eq : o.depositsCount = o.depositKeys.length :=
  SlotTable.length_keysInUse.symm

theorem borrowsCount_eq : o.borrowsCount = o.borrowKeys.length :=
  SlotTable.length_keysInUse.symm

theorem borrowsEmpty_iff : o.borrowsEmpty = true ↔ o.borrowKeys = [] := by
  rw [borrowsEmpty, List.all_eq_true, borrowKeys, SlotTable.keysInUse, List.filter_eq_nil_iff]
  simp

theorem ne_zero_of_mem_reservesInUse (h : k ∈ o.reservesInUse) : k ≠ 0 := by
  rcases List.mem_append.1 h with h | h
  · exact (SlotTable.mem_keysInUse.1 h).1
  · exact (SlotTable.mem_keysInUse.1 h).1

theorem TablesWellFormed.nodup_borrowKeys (h : o.TablesWellFormed) : o.borrowKeys.Nodup :=
  SlotTable.nodup_keysInUse (SlotTable.WellFormed.pairwise h.borrows)

theorem TablesWellFormed.nodup_depositKeys (h : o.TablesWellFormed) : o.depositKeys.Nodup :=
  SlotTable.nodup_keysInUse (SlotTable.WellFormed.pairwise h.deposits)

theorem TablesWellFormed.findLiquidity_isSome (h : o.TablesWellFormed) (hk : k ≠ 0) :
    (o.findLiquidityInBorrows k).toOption.isSome ↔ k ∈ o.borrowKeys := by
  constructor
  · intro hsome
    cases hfind : o.findLiquidityInBorrows k with
    | error e => rw [hfind] at hsome; cases hsome
    | ok x =>
      obtain ⟨hb, hbkey⟩ := findLiquidityInBorrows_spec hfind
      exact SlotTable.mem_keysInUse.2 ⟨hk, x.1, List.mem_of_getElem? hb, hbkey⟩
  · intro hmem
    obtain ⟨-, b, hb, rfl⟩ := SlotTable.mem_keysInUse.1 hmem
    obtain ⟨i, hfind⟩ := h.findLiquidity hb hk
    rw [hfind]
    rfl

theorem TablesWellFormed.finalDeposit_eq_zero (h : o.TablesWellFormed) (hk : k ≠ 0) :
    ((o.deposits.find? (·.depositReserve = k)).map (·.depositedAmount)).getD 0 = 0 ↔
      k ∉ o.depositKeys := by
  cases hfind : o.deposits.find? (·.depositReserve = k) with
  | none =>
    refine iff_of_true rfl fun hmem ↦ ?_
    obtain ⟨-, d, hd, hdk⟩ := SlotTable.mem_keysInUse.1 hmem
    exact List.find?_eq_none.1 hfind d hd (decide_eq_true hdk)
  | some d =>
    have hd := List.mem_of_find?_eq_some hfind
    have hdk : d.depositReserve = k := by simpa using List.find?_some hfind
    refine iff_of_false (fun hzero ↦ ?_) (not_not.2 (SlotTable.mem_keysInUse.2 ⟨hk, d, hd, hdk⟩))
    have hpos := h.deposits.held d hd (hdk ▸ hk)
    change d.depositedAmount = 0 at hzero
    rw [hzero] at hpos
    exact absurd hpos (lt_irrefl 0)

theorem Retracked.depositKeys_eq (h : o.Retracked o') : o'.depositKeys = o.depositKeys := by
  refine SlotTable.keysInUse_eq (h.deposits.imp ?_)
  rintro d d' ⟨n, rfl⟩
  rfl

theorem Retracked.borrowKeys_eq (h : o.Retracked o') : o'.borrowKeys = o.borrowKeys := by
  refine SlotTable.keysInUse_eq (h.borrows.imp ?_)
  rintro b b' ⟨n, rfl⟩
  rfl

end Obligation

section Accounts

variable {key : Pubkey} {hasReferrer : Bool} {l ds bs : List Pubkey}

theorem accountsToInclude_found (h : ∀ k ∈ l, k ≠ 0) :
    accountsToInclude key hasReferrer true l = l := by
  induction l with
  | nil => rfl
  | cons k l ih =>
    rw [accountsToInclude, Bool.true_or, ih fun k hk ↦ h k (List.mem_cons_of_mem _ hk),
      if_pos ⟨.inr (h k List.mem_cons_self), .inr rfl⟩]

/-- Only one account is dropped. -/
theorem accountsToInclude_eq (h : ∀ k ∈ l, k ≠ 0) :
    accountsToInclude key hasReferrer false l = l.erase key := by
  induction l with
  | nil => rfl
  | cons k l ih =>
    have hrest : ∀ k ∈ l, k ≠ 0 := fun k hk ↦ h k (List.mem_cons_of_mem _ hk)
    rw [accountsToInclude, Bool.false_or]
    by_cases hk : k = key
    · subst hk
      rw [decide_eq_true rfl, accountsToInclude_found hrest, List.erase_cons_head, if_neg]
      rintro ⟨-, hno | hno⟩ <;> cases hno
    · rw [decide_eq_false hk, ih hrest, List.erase_cons_tail (by simpa using hk),
        if_pos ⟨.inr (h k List.mem_cons_self), .inl rfl⟩]

/-- Going through the accounts from the last one drops the debt and keeps a collateral of the same
reserve. -/
theorem accountsToInclude_remaining (h : ∀ k ∈ ds ++ bs, k ≠ 0) (hbs : bs.Nodup) (hmem : key ∈ bs) :
    (accountsToInclude key hasReferrer false (ds ++ bs).reverse).reverse = ds ++ bs.erase key := by
  rw [accountsToInclude_eq fun k hk ↦ h k (List.mem_reverse.1 hk), List.reverse_append,
    List.erase_append_left _ (List.mem_reverse.2 hmem), List.reverse_append, List.reverse_reverse,
    (List.nodup_reverse.2 hbs).erase_eq_filter, List.filter_reverse, List.reverse_reverse,
    hbs.erase_eq_filter]

end Accounts

namespace World

variable {w w' : World} {clock : Clock} {index : ℕ} {key : Pubkey} {amount : U64}
  {o : Obligation} {remaining : List Pubkey} {states : List ReferrerTokenStateKey}

theorem loadObligation_set {o₁ : Obligation} (ho : w.loadObligation index = .ok o)
    (hset : w'.obligations = w.obligations.set index o₁)
    (hpk : w'.lendingMarketPk = w.lendingMarketPk) (hmarket : o₁.lendingMarket = o.lendingMarket) :
    w'.loadObligation index = .ok o₁ := by
  obtain ⟨hget, hm⟩ := loadObligation_eq_ok.1 ho
  refine loadObligation_eq_ok.2 ⟨?_, by rw [hmarket, hm, hpk]⟩
  rw [hset, List.getElem?_set_self (List.getElem?_eq_some_iff.1 hget).1]

/-- A repayment takes the reserve out of the obligation's debts if it settles the whole debt, and
leaves it stale. -/
theorem repayObligationLiquidity_shape (hw : w.WellFormed) (ho : w.loadObligation index = .ok o)
    (h : w.repayObligationLiquidity clock index key amount remaining = .ok w') :
    ∃ (r : Reserve) (o' : Obligation), w.loadReserve key = .ok r ∧
      w'.loadObligation index = .ok o' ∧ o'.referrer = o.referrer ∧
      o'.depositKeys = o.depositKeys ∧ key ∈ o.borrowKeys ∧
      (o.Clears r key amount ∧ o'.borrowKeys = o.borrowKeys.erase key ∨
        ¬ o.Clears r key amount ∧ o'.borrowKeys = o.borrowKeys) ∧
      (∀ k, k ≠ key → w.SettledAt clock k → w'.SettledAt clock k) ∧
      ∃ r', w'.loadReserve key = .ok r' ∧ r'.lastUpdate.stale = true ∧
        isSavedPriceAgeValid r' clock = isSavedPriceAgeValid r clock := by
  obtain ⟨o₀, r, r', o', rs, n, ho₀, hr, hop, rfl⟩ := World.repayObligationLiquidity_spec h
  obtain rfl : o₀ = o := Except.ok.inj (ho₀.symm.trans ho)
  have hwf := hw.obligations o₀ (List.mem_of_getElem? (loadObligation_eq_ok.1 ho).1)
  obtain ⟨-, -, b, i, b₁, settle, cap, o₁, r₁, l, o₂, hfind, hb₁, hcalc, htrack, hl, rfl, hrepay,
    rfl⟩ := Klend.repayObligationLiquidity_spec hop
  obtain ⟨hb, hbkey⟩ := findLiquidityInBorrows_spec hfind
  obtain ⟨-, hgrown, -, hframe⟩ := accrueInterest_spec hb₁
  obtain ⟨htracked, ⟨_, _, rfl⟩, hheld⟩ := updateOnRepay_retracked htrack
  obtain ⟨_, _, rfl, -⟩ := Reserve.liquidity_repay_spec hl
  obtain ⟨hk, -, hmarket⟩ := loadReserve_eq_ok.1 hr
  have hne : b.borrowReserve ≠ 0 := hbkey ▸ hk
  have hkey₁ : b₁.borrowReserve = b.borrowReserve := by rw [hframe]
  have haccrued : Obligation.TablesWellFormed { o₀ with borrows := o₀.borrows.set i b₁ } :=
    ⟨hwf.deposits, SlotTable.WellFormed.set hwf.borrows hb hkey₁ hne
      ((hwf.borrows.held b (List.mem_of_getElem? hb) hne).trans_le hgrown)⟩
  have hkeys₁ : o₁.borrowKeys = o₀.borrowKeys :=
    htracked.borrowKeys_eq.trans (SlotTable.keysInUse_set hb hkey₁)
  have hwf₁ := (haccrued.retracked htracked).borrows
  have hset : (o₀.borrows.set i b₁)[i]? = some b₁ :=
    List.getElem?_set_self (List.getElem?_eq_some_iff.1 hb).1
  obtain ⟨b₂, hb₂, m, rfl⟩ := SlotTable.exists_of_forall₂_left htracked.borrows hset
  have hstate : o₂.referrer = o₀.referrer ∧ o₂.lendingMarket = o₀.lendingMarket ∧
      o₂.deposits = o₁.deposits := by
    obtain ⟨_, -, ⟨-, rfl⟩ | ⟨_, -, -, rfl⟩⟩ := repay_spec hrepay <;>
      exact ⟨by rw [htracked.frame], by rw [htracked.frame], rfl⟩
  have hcleared : o₀.Clears r key amount ∧ o₂.borrowKeys = o₀.borrowKeys.erase key ∨
      ¬ o₀.Clears r key amount ∧ o₂.borrowKeys = o₀.borrowKeys := by
    obtain ⟨b₃, hb₃, hcases⟩ := repay_spec hrepay
    obtain rfl := Option.some.inj (hb₂.symm.trans hb₃)
    rcases hcases with ⟨hfull, rfl⟩ | ⟨rest, hpos, hrest, rfl⟩
    · refine .inl ⟨⟨b, i, b₁, n, hfind, hb₁, ?_⟩, ?_⟩
      · rw [hcalc, hfull]
        rfl
      · rw [← hkeys₁, ← hbkey, ← hkey₁]
        show _ = o₁.borrowKeys.erase (b₁.setDebtOutside m).borrowReserve
        exact SlotTable.keysInUse_clear (SlotTable.WellFormed.pairwise hwf₁) hb₂ (hkey₁ ▸ hne) rfl
    · refine .inr ⟨?_, ?_⟩
      · rintro ⟨b', i', b₁', n', hfind', hb₁', hcalc'⟩
        obtain ⟨rfl, rfl⟩ := Prod.mk.inj (Except.ok.inj (hfind.symm.trans hfind'))
        obtain rfl := Except.ok.inj (hb₁.symm.trans hb₁')
        have hsettle := (CalculateRepayResult.mk.inj (Except.ok.inj (hcalc.symm.trans hcalc'))).1
        rw [hsettle] at hrest
        have hbits : (b₁.setDebtOutside m).borrowedAmountSf.bits = b₁.borrowedAmountSf.bits := rfl
        omega
      · rw [← hkeys₁]
        exact SlotTable.keysInUse_set hb₂ rfl
  refine ⟨r, o₂.updateHasDebt.markStale, hr, loadObligation_set ho rfl rfl hstate.2.1, hstate.1,
    ?_, ?_, hcleared, fun k hk hsettled ↦ ?_, _,
    loadReserve_eq_ok.2 ⟨hk, Reserves.store_same _ _ _, hmarket⟩, rfl, rfl⟩
  · show SlotTable.keysInUse _ o₂.deposits = _
    rw [hstate.2.2]
    exact htracked.depositKeys_eq
  · exact SlotTable.mem_keysInUse.2 ⟨hbkey ▸ hne, b, List.mem_of_getElem? hb, hbkey⟩
  · refine hsettled.of_rebooked (fun r₀ hr₀ ↦ ?_) rfl
    have hr₁ : w.reserves.hold key k = some r₀ := (Reserves.hold_other hk).trans hr₀
    rcases KeyedMap.Related.value hheld hr₁ with ⟨r₂, hr₂, hretrack⟩
    exact ⟨r₂, (Reserves.store_other hk).trans hr₂, hretrack.rebooked⟩

theorem exists_timestamp_of_repay
    (h : w.repayObligationLiquidity clock index key amount remaining = .ok w') :
    ∃ t, clock.timestamp = .ok t := by
  obtain ⟨o, r, r', o', rs, n, -, -, hop, -⟩ := World.repayObligationLiquidity_spec h
  simp only [Klend.repayObligationLiquidity, bind_eq_ok, Prod.exists] at hop
  obtain ⟨-, -, -, -, -, -, _, _, -, -, -, _, -, _, -, -, -, t, ht, -⟩ := hop
  exact ⟨t, ht⟩

theorem refreshObligation_shape (ho : w.loadObligation index = .ok o)
    (h : w.refreshObligation clock index remaining states = .ok w') :
    ∃ o', w'.loadObligation index = .ok o' ∧ o'.referrer = o.referrer ∧
      o'.depositKeys = o.depositKeys ∧ o'.borrowKeys = o.borrowKeys ∧
      (o.WellFormed → o'.DebtSummed) ∧
      (∀ k, w.SettledAt clock k → w'.SettledAt clock k) ∧
      ∀ checks, o'.lastUpdate.priceStatus.contains checks →
        ∀ k ∈ o.reservesInUse, ∀ r, w.reserves k = some r →
          r.lastUpdate.stale = false ∧ r.lastUpdate.priceStatus.contains checks := by
  obtain ⟨o₀, ds, bs, o', rs, sts, ho₀, hop, rfl⟩ := World.refreshObligation_spec h
  obtain rfl : o₀ = o := Except.ok.inj (ho₀.symm.trans ho)
  obtain ⟨hmarket, href, -, -⟩ := refreshObligation_slots hop
  have hfresh : ∀ checks, o'.lastUpdate.priceStatus.contains checks →
      o'.FreshWith rs clock.slot checks := fun _ ↦ refreshObligation_freshWith hop
  obtain ⟨group, o₁, rs₁, borrows, o₂, deposits, hgroup, hb, hd, rfl⟩ :=
    Klend.refreshObligation_spec hop
  obtain ⟨hbook₁, hborrows, hframe₁⟩ := refreshObligationBorrows_frame hb
  obtain ⟨hbook₂, hdeposits, hframe₂⟩ := refreshObligationDeposits_frame hd
  have hbook := hbook₁.trans hbook₂.rebooked
  have ho₂ : o₂.borrows = o₁.borrows := by rw [hframe₂]
  have hkeys : SlotTable.keysInUse ObligationCollateral.depositReserve o₂.deposits =
      o₀.depositKeys := by
    have ho₁ : o₁.deposits = o₀.deposits := by rw [hframe₁]
    rw [SlotTable.keysInUse_eq (hdeposits.imp fun d d' hd ↦ hd.key_eq), ho₁]
    rfl
  have hborrowKeys : SlotTable.keysInUse ObligationLiquidity.borrowReserve o₂.borrows =
      o₀.borrowKeys := by
    rw [ho₂]
    exact SlotTable.keysInUse_eq (hborrows.imp fun b b' hb ↦ hb.key_eq)
  refine ⟨_, loadObligation_set ho rfl rfl hmarket, href, hkeys, ?_,
    fun hwf ↦ (refreshObligation_upToDate hwf hop rfl).1.debtSummed fun b' hb' hfree ↦ ?_,
    fun k hk ↦ ?_, fun checks hchecks k hk r hr ↦ ?_⟩
  · exact hborrowKeys
  · change b' ∈ o₂.borrows at hb'
    rw [ho₂] at hb'
    obtain ⟨i, hi⟩ := List.mem_iff_getElem?.1 hb'
    obtain ⟨b, hb, hrefreshed⟩ := SlotTable.exists_of_forall₂_right hborrows hi
    have hkey : b.borrowReserve = 0 := hrefreshed.key_eq.symm.trans hfree
    rw [hrefreshed.free hkey]
    exact hwf.borrows.empty b (List.mem_of_getElem? hb) hkey
  · exact hk.of_rebooked (fun r hr ↦ KeyedMap.Related.value hbook hr) rfl
  · have hat : rs.FreshAt clock.slot checks k := by
      rw [Obligation.reservesInUse, ← hkeys, ← hborrowKeys] at hk
      rcases List.mem_append.1 hk with hk | hk
      · obtain ⟨hne, d, hmem, rfl⟩ := SlotTable.mem_keysInUse.1 hk
        exact (hfresh checks hchecks).deposits d hmem hne
      · obtain ⟨hne, b, hmem, rfl⟩ := SlotTable.mem_keysInUse.1 hk
        exact ((hfresh checks hchecks).borrows b hmem hne).1
    rcases hat with ⟨r', hr', hstale, -, hstatus⟩
    rcases KeyedMap.Related.value hbook hr with ⟨r'', hr'', _, _, _, _, _, rfl⟩
    obtain rfl := Option.some.inj (hr'.symm.trans hr'')
    exact ⟨hstale, hstatus⟩

theorem withdraw_shape {check : LtvMaxWithdrawalCheck} {closed : Bool}
    (ho : w.loadObligation index = .ok o) (hwf : o.WellFormed)
    (h : w.withdrawObligationCollateralAndRedeemReserveCollateral clock index key amount check =
      .ok (w', closed)) :
    ∃ o', w'.loadObligation index = .ok o' ∧ o'.WellFormed ∧ o'.referrer = o.referrer ∧
      o'.borrowKeys = o.borrowKeys ∧ key ∈ o.depositKeys ∧
      (o'.depositKeys = o.depositKeys ∨ o'.depositKeys = o.depositKeys.erase key) ∧
      ∀ k, k ≠ key → w.SettledAt clock k → w'.SettledAt clock k := by
  simp only [withdrawObligationCollateralAndRedeemReserveCollateral, bind_eq_ok,
    burnCollateral_eq_ok, pure_eq_ok, Prod.exists, Prod.mk.injEq] at h
  obtain ⟨-, -, o₀, ho₀, r, hr, -, -, r₁, o', n, hop, r₂, m, -, _, ⟨supply, -, rfl⟩, rfl, -⟩ := h
  obtain rfl : o₀ = o := Except.ok.inj (ho₀.symm.trans ho)
  have hkey := (loadReserve_eq_ok.1 hr).1
  have hwf' := withdrawObligationCollateral_wellFormed hwf hkey hop
  obtain ⟨-, -, i, d, o₁, kind, hi, hd, hw, rfl, -⟩ :=
    Klend.withdrawObligationCollateral_spec hop
  obtain ⟨d', hd', hdkey⟩ := positionOfCollateral_spec hi
  obtain rfl := Option.some.inj (hd.symm.trans hd')
  have hne : d.depositReserve ≠ 0 := hdkey ▸ hkey
  have hstate : o₁.lendingMarket = o₀.lendingMarket ∧ o₁.referrer = o₀.referrer := by
    obtain ⟨_, -, ⟨-, -, rfl⟩ | ⟨_, -, -, -, rfl⟩⟩ := withdraw_spec hw <;> exact ⟨rfl, rfl⟩
  refine ⟨o₁.markStale, loadObligation_set ho rfl rfl hstate.1, hwf', hstate.2, ?_, ?_, ?_,
    fun k hk hsettled ↦ ?_⟩
  · exact congrArg (SlotTable.keysInUse _) (Obligation.withdraw_borrows hw).1
  · exact SlotTable.mem_keysInUse.2 ⟨hkey, d, List.mem_of_getElem? hd, hdkey⟩
  · obtain ⟨d₁, hd₁, ⟨-, -, rfl⟩ | ⟨rest, -, -, -, rfl⟩⟩ := withdraw_spec hw
    · refine .inr ?_
      rw [← hdkey]
      exact SlotTable.keysInUse_clear (SlotTable.WellFormed.pairwise hwf.deposits) hd hne rfl
    · refine .inl (SlotTable.keysInUse_set hd₁ rfl)
  · refine hsettled.of_rebooked (fun r hr ↦ ⟨r, ?_, .refl r⟩) rfl
    exact (Reserves.store_other hk).trans hr

/-- While there is debt, the withdrawal asks for all price checks. -/
theorem withdraw_checked {check : LtvMaxWithdrawalCheck} {closed : Bool}
    (ho : w.loadObligation index = .ok o) (hdebt : o.borrowKeys ≠ [])
    (h : w.withdrawObligationCollateralAndRedeemReserveCollateral clock index key amount check =
      .ok (w', closed)) : o.lastUpdate.priceStatus.contains .allChecks := by
  have hborrows : o.borrowsEmpty = false := by
    rw [← Bool.not_eq_true, Obligation.borrowsEmpty_iff]
    exact hdebt
  simp only [withdrawObligationCollateralAndRedeemReserveCollateral, bind_eq_ok, Prod.exists] at h
  obtain ⟨-, -, o₀, ho₀, r, -, -, -, r₁, o', n, hop, -⟩ := h
  obtain rfl : o₀ = o := Except.ok.inj (ho₀.symm.trans ho)
  simp only [Klend.withdrawObligationCollateral, bind_eq_ok, hborrows, Bool.false_eq_true, if_false,
    LastUpdate.requireFresh_eq_ok] at hop
  obtain ⟨-, -, -, -, -, ⟨-, -, hchecks⟩, -⟩ := hop
  exact hchecks

/-- Every reserve that the obligation uses is refreshed, and then the obligation. -/
def refreshInUse (w : World) (clock : Clock) (index : ℕ) : Result World := do
  let obligation ← w.loadObligation index
  let w ← w.refreshReserves clock obligation.reservesInUse
  w.refreshObligation clock index obligation.reservesInUse obligation.referrerStatesInUse

/-- The parts one after the other: repay, refresh all that is in use, withdraw and redeem, refresh
all that is still in use. -/
def repayThenWithdraw (w : World) (clock : Clock) (index : ℕ) (repayKey withdrawKey : Pubkey)
    (repayAmount withdrawAmount : U64) : Result (World × Bool) := do
  let obligation ← w.loadObligation index
  let w ← w.repayObligationLiquidity clock index repayKey repayAmount obligation.depositKeys
  let w ← w.refreshInUse clock index
  let (w, closed) ← w.withdrawObligationCollateralAndRedeemReserveCollateral clock index withdrawKey
    withdrawAmount .liquidationThreshold
  if closed then pure (w, true)
  else do
    let w ← w.refreshInUse clock index
    pure (w, false)

theorem storeRefreshed_keeps {k : Pubkey} {r r' : Reserve} {price : Option GetPriceResult}
    {bps : U16} (hload : w.loadReserve k = .ok r)
    (hr' : Klend.refreshReserve r clock price bps = .ok r') :
    (w.WellFormed → (w.storeReserve k r').WellFormed) ∧
      (w.storeReserve k r').loadObligation index = w.loadObligation index := by
  refine ⟨fun hw ↦ ⟨fun j r₁ hr₁ ↦ ?_, hw.obligations⟩, rfl⟩
  obtain ⟨-, hr, -⟩ := loadReserve_eq_ok.1 hload
  by_cases hjk : j = k
  · subst hjk
    obtain rfl := Option.some.inj ((Reserves.store_same _ _ _).symm.trans hr₁)
    rw [Reserve.refreshReserve_settings hr']
    exact hw.tiers j r hr
  · exact hw.tiers j r₁ ((Reserves.store_other hjk).symm.trans hr₁)

theorem wellFormed_of_repay
    (h : w.repayObligationLiquidity clock index key amount remaining = .ok w') (hw : w.WellFormed) :
    w'.WellFormed := by
  have hproc : w.process clock (.repayObligationLiquidity index key amount remaining) = .ok w' := h
  exact process_wellFormed hproc hw

theorem wellFormed_of_refresh (h : w.refreshObligation clock index remaining states = .ok w')
    (hw : w.WellFormed) : w'.WellFormed := by
  have hproc : w.process clock (.refreshObligation index remaining states) = .ok w' := h
  exact process_wellFormed hproc hw

theorem refreshReserves_keeps {ks : List Pubkey} (h : w.refreshReserves clock ks = .ok w') :
    (w.WellFormed → w'.WellFormed) ∧ w'.loadObligation index = w.loadObligation index := by
  induction ks generalizing w with
  | nil =>
    obtain rfl := pure_eq_ok.1 h
    exact ⟨id, rfl⟩
  | cons k ks ih =>
    obtain ⟨w₁, hstep, hrest⟩ := bind_eq_ok.1 h
    obtain ⟨r, r', hr, hr', rfl⟩ := refreshSavedAt_spec hstep
    obtain ⟨hw, hload⟩ := storeRefreshed_keeps hr hr'
    obtain ⟨hw', hload'⟩ := ih hrest
    exact ⟨fun h ↦ hw' (hw h), hload'.trans hload⟩

section AfterRepay

variable {o₁ : Obligation} {repayKey withdrawKey : Pubkey}

/-- The repaid reserve is left stale: its debt is gone, it is not the one to withdraw from, but
there is collateral of it. -/
def LeavesStale (w : World) (o : Obligation) (repayKey withdrawKey : Pubkey) (amount : U64) :
    Prop :=
  repayKey ≠ withdrawKey ∧ repayKey ∈ o.depositKeys ∧
    ∃ r, w.loadReserve repayKey = .ok r ∧ o.Clears r repayKey amount

theorem remainingPostRepay_eq (hw : w.WellFormed) (ho : w.loadObligation index = .ok o)
    (hrepay : w.repayObligationLiquidity clock index repayKey amount remaining = .ok w')
    (ho₁ : w'.loadObligation index = .ok o₁) :
    (if o.borrowsCount = o₁.borrowsCount then (o.reservesInUse, o.referrerStatesInUse)
      else ((accountsToInclude repayKey o.hasReferrer false o.reservesInUse.reverse).reverse,
        o.referrerStatesInUse.filter (· ≠ (o.referrer, repayKey)))) =
      (o₁.reservesInUse, o₁.referrerStatesInUse) := by
  obtain ⟨_, o₂, -, ho₂, hreferrer, hdeposits, hmem, hborrows, -⟩ :=
    repayObligationLiquidity_shape hw ho hrepay
  obtain rfl : o₂ = o₁ := Except.ok.inj (ho₂.symm.trans ho₁)
  have hwf := hw.obligations o (List.mem_of_getElem? (loadObligation_eq_ok.1 ho).1)
  have hhas : o₂.hasReferrer = o.hasReferrer := by
    rw [Obligation.hasReferrer, Obligation.hasReferrer, hreferrer]
  have hpos := List.length_pos_of_mem hmem
  have hnodup := hwf.toTablesWellFormed.nodup_borrowKeys
  rw [Obligation.borrowsCount_eq, Obligation.borrowsCount_eq, Obligation.reservesInUse,
    Obligation.reservesInUse, Obligation.referrerStatesInUse, Obligation.referrerStatesInUse, hhas,
    hreferrer, hdeposits]
  rcases hborrows with ⟨-, herase⟩ | ⟨-, hsame⟩
  · rw [herase, if_neg (by rw [List.length_erase_of_mem hmem]; omega),
      accountsToInclude_remaining (fun k ↦ Obligation.ne_zero_of_mem_reservesInUse) hnodup hmem]
    congr 1
    cases o.hasReferrer with
    | false => rfl
    | true =>
      rw [if_pos rfl, if_pos rfl, List.filter_map, hnodup.erase_eq_filter]
      congr 2
      funext k
      by_cases hk : k = repayKey <;> simp [hk]
  · rw [hsame, if_pos rfl]

/-- The handler's refreshes between its two operations. -/
def refreshRepaid (w : World) (clock : Clock) (index : ℕ) (repayKey withdrawKey : Pubkey)
    (o o₁ : Obligation) : Result World := do
  let w ← w.refreshRepayReserve clock repayKey withdrawKey o.borrowsCount o₁.borrowsCount
  w.refreshObligation clock index o₁.reservesInUse o₁.referrerStatesInUse

/-- Unless it leaves the repaid reserve stale, the handler refreshes the repaid reserve, without a
price, if it is still in use, and no other one needs a refresh. -/
theorem refreshRepaid_shape (hw : w.WellFormed) (ho : w.loadObligation index = .ok o)
    (hsettled : ∀ k ∈ o.reservesInUse, w.SettledAt clock k)
    (hrepay : w.repayObligationLiquidity clock index repayKey amount remaining = .ok w')
    (ho₁ : w'.loadObligation index = .ok o₁) (hwithdraw : withdrawKey ∈ o.depositKeys)
    (hstale : ¬ w.LeavesStale o repayKey withdrawKey amount) :
    w'.refreshRepaid clock index repayKey withdrawKey o o₁ =
      ((if repayKey ∈ o₁.reservesInUse then w'.refreshReserveAt clock repayKey else .ok w') >>=
        fun w₂ ↦ w₂.refreshObligation clock index o₁.reservesInUse o₁.referrerStatesInUse) ∧
    w'.refreshInUse clock index =
      ((if repayKey ∈ o₁.reservesInUse then w'.refreshSavedAt clock repayKey else .ok w') >>=
        fun w₂ ↦ w₂.refreshObligation clock index o₁.reservesInUse o₁.referrerStatesInUse) := by
  obtain ⟨r, o₂, hr, ho₂, -, hdeposits, hmem, hcleared, hkept, -⟩ :=
    repayObligationLiquidity_shape hw ho hrepay
  obtain rfl : o₂ = o₁ := Except.ok.inj (ho₂.symm.trans ho₁)
  have hwf := hw.obligations o (List.mem_of_getElem? (loadObligation_eq_ok.1 ho).1)
  have hin : ∀ k ∈ o₂.reservesInUse, k ∈ o.reservesInUse := by
    intro k hk
    rcases List.mem_append.1 hk with hk | hk
    · exact List.mem_append_left _ (hdeposits ▸ hk)
    · refine List.mem_append_right _ ?_
      rcases hcleared with ⟨-, herase⟩ | ⟨-, hsame⟩
      · exact List.mem_of_mem_erase (herase ▸ hk)
      · exact hsame ▸ hk
  have hcond : o₂.borrowsCount = o.borrowsCount ∨ repayKey = withdrawKey ↔
      repayKey ∈ o₂.reservesInUse := by
    rw [Obligation.borrowsCount_eq, Obligation.borrowsCount_eq, Obligation.reservesInUse,
      List.mem_append, hdeposits]
    rcases hcleared with ⟨hclears, herase⟩ | ⟨-, hsame⟩
    · have hpos := List.length_pos_of_mem hmem
      have hgone : repayKey ∉ o₂.borrowKeys :=
        herase ▸ hwf.toTablesWellFormed.nodup_borrowKeys.not_mem_erase
      have hfewer : o₂.borrowKeys.length ≠ o.borrowKeys.length := by
        rw [herase, List.length_erase_of_mem hmem]
        omega
      rw [or_iff_right hfewer, or_iff_left hgone]
      constructor
      · rintro rfl
        exact hwithdraw
      · intro hdeposit
        by_contra hne
        exact hstale ⟨hne, hdeposit, r, hr, hclears⟩
    · rw [hsame]
      exact ⟨fun _ ↦ .inr hmem, fun _ ↦ .inl rfl⟩
  constructor
  · unfold refreshRepaid refreshRepayReserve
    simp only [hcond]
    rfl
  · rw [refreshInUse, ho₁, ok_bind,
      refreshReserves_eq (j := repayKey) fun k hk hne ↦ hkept k hne (hsettled k (hin k hk))]

/-- They are those of all reserves in use if the price of the repaid one is not too old. -/
theorem refreshRepaid_eq (hw : w.WellFormed) (ho : w.loadObligation index = .ok o)
    (hsettled : ∀ k ∈ o.reservesInUse, w.SettledAt clock k)
    (hrepay : w.repayObligationLiquidity clock index repayKey amount remaining = .ok w')
    (ho₁ : w'.loadObligation index = .ok o₁) (hwithdraw : withdrawKey ∈ o.depositKeys)
    (hstale : ¬ w.LeavesStale o repayKey withdrawKey amount)
    (hage : repayKey ∈ o₁.reservesInUse → ∀ r, w.loadReserve repayKey = .ok r →
      isSavedPriceAgeValid r clock = .ok true) :
    w'.refreshRepaid clock index repayKey withdrawKey o o₁ = w'.refreshInUse clock index := by
  obtain ⟨hrefresh, hall⟩ := refreshRepaid_shape hw ho hsettled hrepay ho₁ hwithdraw hstale
  obtain ⟨r, -, hr, -, -, -, -, -, -, r', hr', -, hsame⟩ :=
    repayObligationLiquidity_shape hw ho hrepay
  rw [hrefresh, hall]
  by_cases hmem : repayKey ∈ o₁.reservesInUse
  · rw [if_pos hmem, if_pos hmem, refreshReserveAt_eq hr' (hsame.trans (hage hmem r hr))]
  · rw [if_neg hmem, if_neg hmem]

/-- However old the price is, they differ from those in the price status only. -/
theorem refreshRepaid_unpriced (hw : w.WellFormed) (ho : w.loadObligation index = .ok o)
    (hsettled : ∀ k ∈ o.reservesInUse, w.SettledAt clock k)
    (hrepay : w.repayObligationLiquidity clock index repayKey amount remaining = .ok w')
    (ho₁ : w'.loadObligation index = .ok o₁) (hwithdraw : withdrawKey ∈ o.depositKeys)
    (hstale : ¬ w.LeavesStale o repayKey withdrawKey amount) :
    unpriced <$> w'.refreshRepaid clock index repayKey withdrawKey o o₁ =
      unpriced <$> w'.refreshInUse clock index := by
  obtain ⟨hrefresh, hall⟩ := refreshRepaid_shape hw ho hsettled hrepay ho₁ hwithdraw hstale
  obtain ⟨t, ht⟩ := exists_timestamp_of_repay hrepay
  rw [hrefresh, hall]
  by_cases hmem : repayKey ∈ o₁.reservesInUse
  · rw [if_pos hmem, if_pos hmem]
    exact map_bind_congr (refreshReserveAt_unpriced ht rfl) fun _ _ _ _ ↦ refreshObligation_congr
  · rw [if_neg hmem, if_neg hmem]

/-- A debt that is left asks for a price of the repaid reserve that is not too old. -/
theorem refreshRepaid_priced {w₃ : World} {o₃ : Obligation} {r : Reserve} (hw : w.WellFormed)
    (ho : w.loadObligation index = .ok o)
    (hsettled : ∀ k ∈ o.reservesInUse, w.SettledAt clock k)
    (hrepay : w.repayObligationLiquidity clock index repayKey amount remaining = .ok w')
    (ho₁ : w'.loadObligation index = .ok o₁) (hwithdraw : withdrawKey ∈ o.depositKeys)
    (hstale : ¬ w.LeavesStale o repayKey withdrawKey amount)
    (hrefresh : w'.refreshRepaid clock index repayKey withdrawKey o o₁ = .ok w₃)
    (ho₃ : w₃.loadObligation index = .ok o₃)
    (hchecks : o₃.lastUpdate.priceStatus.contains .allChecks) (hmem : repayKey ∈ o₁.reservesInUse)
    (hr : w.loadReserve repayKey = .ok r) : isSavedPriceAgeValid r clock = .ok true := by
  obtain ⟨r₀, -, hr₀, -, -, -, -, -, -, r₁, hr₁, -, hsame⟩ :=
    repayObligationLiquidity_shape hw ho hrepay
  obtain rfl : r₀ = r := Except.ok.inj (hr₀.symm.trans hr)
  rw [(refreshRepaid_shape hw ho hsettled hrepay ho₁ hwithdraw hstale).1, if_pos hmem] at hrefresh
  obtain ⟨w₂, hat, hobligation⟩ := bind_eq_ok.1 hrefresh
  obtain ⟨r₂, r₃, hr₂, hr₃, rfl⟩ := refreshReserveAt_spec hat
  obtain rfl : r₂ = r₁ := Except.ok.inj (hr₂.symm.trans hr₁)
  have hkept : (w'.storeReserve repayKey r₃).loadObligation index = .ok o₁ := ho₁
  obtain ⟨o₄, ho₄, -, -, -, -, -, hchecked⟩ := refreshObligation_shape hkept hobligation
  obtain rfl : o₄ = o₃ := Except.ok.inj (ho₄.symm.trans ho₃)
  obtain ⟨-, hstatus⟩ := hchecked .allChecks hchecks repayKey hmem r₃ (Reserves.store_same _ _ _)
  rw [← hsame]
  exact priceAgeValid_of_refresh hr₃ hstatus

theorem refreshRepaid_stale {w₃ : World} (hw : w.WellFormed) (ho : w.loadObligation index = .ok o)
    (hrepay : w.repayObligationLiquidity clock index repayKey amount remaining = .ok w')
    (ho₁ : w'.loadObligation index = .ok o₁)
    (hstale : w.LeavesStale o repayKey withdrawKey amount) :
    w'.refreshRepaid clock index repayKey withdrawKey o o₁ ≠ .ok w₃ := by
  obtain ⟨hne, hdeposit, r, hr, hclears⟩ := hstale
  obtain ⟨r₀, o₂, hr₀, ho₂, -, hdeposits, hmem, hcleared, -, r', hr', hstale, -⟩ :=
    repayObligationLiquidity_shape hw ho hrepay
  obtain rfl : o₂ = o₁ := Except.ok.inj (ho₂.symm.trans ho₁)
  obtain rfl : r₀ = r := Except.ok.inj (hr₀.symm.trans hr)
  rcases hcleared with ⟨-, herase⟩ | ⟨hkeeps, -⟩
  · have hfewer : o₂.borrowsCount ≠ o.borrowsCount := by
      have hpos := List.length_pos_of_mem hmem
      rw [Obligation.borrowsCount_eq, Obligation.borrowsCount_eq, herase,
        List.length_erase_of_mem hmem]
      omega
    rw [refreshRepaid, refreshRepayReserve, if_neg (not_or.2 ⟨hfewer, hne⟩)]
    intro h
    obtain ⟨_, -, -, -, -, -, -, hfresh⟩ := refreshObligation_shape ho₁ h
    obtain ⟨hfresh, -⟩ := hfresh .none (PriceStatusFlags.contains_none _) repayKey
      (List.mem_append_left _ (hdeposits ▸ hdeposit)) r' (loadReserve_eq_ok.1 hr').2.1
    rw [hfresh] at hstale
    cases hstale
  · exact absurd hclears hkeeps

/-- The repaid reserve is still in use, by an obligation that still owes something. -/
theorem stillOwed_iff {r : Reserve} (hw : w.WellFormed) (ho : w.loadObligation index = .ok o)
    (hrepay : w.repayObligationLiquidity clock index repayKey amount remaining = .ok w')
    (ho₁ : w'.loadObligation index = .ok o₁) (hr : w.loadReserve repayKey = .ok r) :
    (o.Clears r repayKey amount → repayKey ∈ o.depositKeys ∧ o.borrowKeys ≠ [repayKey]) ↔
      repayKey ∈ o₁.reservesInUse ∧ o₁.borrowKeys ≠ [] := by
  obtain ⟨r₀, o₂, hr₀, ho₂, -, hdeposits, hmem, hcleared, -⟩ :=
    repayObligationLiquidity_shape hw ho hrepay
  obtain rfl : o₂ = o₁ := Except.ok.inj (ho₂.symm.trans ho₁)
  obtain rfl : r₀ = r := Except.ok.inj (hr₀.symm.trans hr)
  have hwf := hw.obligations o (List.mem_of_getElem? (loadObligation_eq_ok.1 ho).1)
  rw [Obligation.reservesInUse, List.mem_append, hdeposits]
  rcases hcleared with ⟨hclears, herase⟩ | ⟨hkeeps, hsame⟩
  · have hgone : repayKey ∉ o₂.borrowKeys :=
      herase ▸ hwf.toTablesWellFormed.nodup_borrowKeys.not_mem_erase
    have hnil : o.borrowKeys.erase repayKey = [] ↔ o.borrowKeys = [repayKey] :=
      List.erase_eq_nil_iff.trans (or_iff_right (List.ne_nil_of_mem hmem))
    rw [or_iff_left hgone, herase, ne_eq, ne_eq, hnil]
    exact forall_prop_of_true hclears
  · rw [hsame]
    exact ⟨fun _ ↦ ⟨.inr hmem, List.ne_nil_of_mem hmem⟩, fun _ hclears ↦ absurd hclears hkeeps⟩

end AfterRepay

/-- After the withdrawal the handler refreshes what is in use, but for the price status. -/
theorem refreshPostWithdrawal_unpriced {t : U64} {check : LtvMaxWithdrawalCheck} {closed : Bool}
    (ht : clock.timestamp = .ok t) (ho : w.loadObligation index = .ok o) (hwf : o.WellFormed)
    (hsettled : ∀ k ∈ o.reservesInUse, w.SettledAt clock k)
    (h : w.withdrawObligationCollateralAndRedeemReserveCollateral clock index key amount check =
      .ok (w', closed)) :
    unpriced <$> w'.refreshPostWithdrawal clock index key o.reservesInUse o.referrerStatesInUse =
      unpriced <$> w'.refreshInUse clock index := by
  obtain ⟨o', ho', hwf', hreferrer, hborrows, hmem, hdeposits, hkept⟩ := withdraw_shape ho hwf h
  have hkey := (SlotTable.mem_keysInUse.1 hmem).1
  have hstates : o.referrerStatesInUse = o'.referrerStatesInUse := by
    rw [Obligation.referrerStatesInUse, Obligation.referrerStatesInUse, Obligation.hasReferrer,
      Obligation.hasReferrer, hreferrer, hborrows]
  have hin : ∀ k ∈ o'.reservesInUse, k ∈ o.reservesInUse := by
    intro k hk
    rw [Obligation.reservesInUse, hborrows] at hk
    rcases List.mem_append.1 hk with hk | hk
    · refine List.mem_append_left _ ?_
      rcases hdeposits with hsame | herase
      · exact hsame ▸ hk
      · exact List.mem_of_mem_erase (herase ▸ hk)
    · exact List.mem_append_right _ hk
  have hrefresh := refreshReserves_eq (j := key) fun k hk hne ↦ hkept k hne (hsettled k (hin k hk))
  have hdebt := hwf'.toTablesWellFormed.findLiquidity_isSome hkey
  have hdeposit := hwf'.toTablesWellFormed.finalDeposit_eq_zero hkey
  have hgone : o'.depositKeys = o.depositKeys.erase key → key ∉ o'.depositKeys := fun herase ↦
    herase ▸ hwf.toTablesWellFormed.nodup_depositKeys.not_mem_erase
  have hcond : ((((o'.deposits.find? (·.depositReserve = key)).map (·.depositedAmount)).getD 0 = 0)
      : Bool) = false ∨ (o'.findLiquidityInBorrows key).toOption.isSome = true ↔
      key ∈ o'.reservesInUse := by
    rw [decide_eq_false_iff_not, hdeposit, not_not, hdebt, Obligation.reservesInUse,
      List.mem_append]
  have hstep : ∀ w₂ : World,
      (if ((((o'.deposits.find? (·.depositReserve = key)).map (·.depositedAmount)).getD 0 = 0)
          : Bool) then
        if key ∈ o.reservesInUse then
          w₂.refreshObligation clock index (o.reservesInUse.erase key) o'.referrerStatesInUse
        else abort
      else w₂.refreshObligation clock index o.reservesInUse o'.referrerStatesInUse) =
      w₂.refreshObligation clock index o'.reservesInUse o'.referrerStatesInUse := by
    intro w₂
    simp only [decide_eq_true_eq, hdeposit]
    rcases hdeposits with hsame | herase
    · rw [if_neg (not_not.2 (hsame ▸ hmem)), Obligation.reservesInUse, Obligation.reservesInUse,
        hsame, hborrows]
    · rw [if_pos (hgone herase), if_pos (show key ∈ o.reservesInUse from
        List.mem_append_left _ hmem), Obligation.reservesInUse, Obligation.reservesInUse, List.erase_append_left _ hmem, herase, hborrows]
  unfold refreshInUse refreshPostWithdrawal
  rw [ho', hstates]
  show _ = unpriced <$> do
    let w₂ ← w'.refreshReserves clock o'.reservesInUse
    w₂.refreshObligation clock index o'.reservesInUse o'.referrerStatesInUse
  rw [hrefresh]
  simp only [ok_bind, hcond, hstep]
  by_cases hused : key ∈ o'.reservesInUse
  · simp only [if_pos hused]
    exact map_bind_congr (refreshReserveAt_unpriced ht rfl) fun _ _ _ _ ↦ refreshObligation_congr
  · simp only [if_neg hused]
    rfl

theorem refreshInUse_spec (hw : w.WellFormed) (ho : w.loadObligation index = .ok o)
    (h : w.refreshInUse clock index = .ok w') :
    ∃ o', w'.loadObligation index = .ok o' ∧ o'.WellFormed ∧ o.SameAccounts o' ∧
      ∀ k ∈ o.reservesInUse, w'.SettledAt clock k := by
  rw [refreshInUse, ho, ok_bind] at h
  obtain ⟨w₁, hreserves, hobligation⟩ := bind_eq_ok.1 h
  obtain ⟨hw₁, hload⟩ := refreshReserves_keeps hreserves
  obtain ⟨o', ho', hreferrer, hdeposits, hborrows, -, hkept, -⟩ :=
    refreshObligation_shape (hload.trans ho) hobligation
  have hw' := wellFormed_of_refresh hobligation (hw₁ hw)
  exact ⟨o', ho', hw'.obligations o' (List.mem_of_getElem? (loadObligation_eq_ok.1 ho').1),
    ⟨hdeposits, hborrows, hreferrer⟩,
    fun k hk ↦ hkept k ((refreshReserves_settledAt hreserves).1 k hk)⟩

theorem refreshInUse_debtSummed (ho : w.loadObligation index = .ok o) (hwf : o.WellFormed)
    (h : w.refreshInUse clock index = .ok w') :
    ∃ o', w'.loadObligation index = .ok o' ∧ o'.DebtSummed := by
  rw [refreshInUse, ho, ok_bind] at h
  obtain ⟨w₁, hreserves, hobligation⟩ := bind_eq_ok.1 h
  have ho₁ : w₁.loadObligation index = .ok o := (refreshReserves_keeps hreserves).2.trans ho
  obtain ⟨o', ho', -, -, -, hsummed, -⟩ := refreshObligation_shape ho₁ hobligation
  exact ⟨o', ho', hsummed hwf⟩

theorem refreshInUse_congr (hw : w.unpriced = w'.unpriced) :
    unpriced <$> w.refreshInUse clock index = unpriced <$> w'.refreshInUse clock index := by
  rw [refreshInUse, refreshInUse]
  refine map_bind_congr (e := Obligation.unpriced) ?_ fun o o' _ _ ho ↦ ?_
  · rw [← loadObligation_unpriced, hw, loadObligation_unpriced]
  · rw [Obligation.eq_of_unpriced ho]
    exact map_bind_congr (refreshReserves_unpriced hw) fun _ _ _ _ ↦ refreshObligation_congr

section Withdraw

variable {w₁ w₃ w₄ w₄' : World} {o₁ : Obligation} {repayKey withdrawKey : Pubkey}
  {check : LtvMaxWithdrawalCheck} {closed : Bool}

/-- The refreshes between the operations leave the accounts of the obligation alone. -/
theorem refreshRepaid_spec (hw : w₁.WellFormed) (ho₁ : w₁.loadObligation index = .ok o₁)
    (hrefresh : w₁.refreshRepaid clock index repayKey withdrawKey o o₁ = .ok w₃) :
    ∃ o₃, w₃.loadObligation index = .ok o₃ ∧ o₃.WellFormed ∧ o₁.SameAccounts o₃ := by
  obtain ⟨w₂, hreserve, hobligation⟩ := bind_eq_ok.1 hrefresh
  have hkeeps : (w₁.WellFormed → w₂.WellFormed) ∧
      w₂.loadObligation index = w₁.loadObligation index := by
    unfold refreshRepayReserve at hreserve
    split at hreserve
    · obtain ⟨r, r', hr, hr', rfl⟩ := refreshReserveAt_spec hreserve
      exact storeRefreshed_keeps hr hr'
    · obtain rfl := pure_eq_ok.1 hreserve
      exact ⟨id, rfl⟩
  obtain ⟨o₃, ho₃, hreferrer, hdeposits, hborrows, -⟩ :=
    refreshObligation_shape (hkeeps.2.trans ho₁) hobligation
  have hw₃ := wellFormed_of_refresh hobligation (hkeeps.1 hw)
  exact ⟨o₃, ho₃, hw₃.obligations o₃ (List.mem_of_getElem? (loadObligation_eq_ok.1 ho₃).1),
    ⟨hdeposits, hborrows, hreferrer⟩⟩

/-- A withdrawal that goes through is from a collateral of the obligation. -/
theorem withdrawKey_mem {o₃ : Obligation} {n : U64} (hw : w.WellFormed)
    (ho : w.loadObligation index = .ok o)
    (hrepay : w.repayObligationLiquidity clock index repayKey amount remaining = .ok w₁)
    (ho₁ : w₁.loadObligation index = .ok o₁) (ho₃ : w₃.loadObligation index = .ok o₃)
    (hwf₃ : o₃.WellFormed) (hsame : o₁.SameAccounts o₃)
    (hwithdraw : w₃.withdrawObligationCollateralAndRedeemReserveCollateral clock index withdrawKey
      n check = .ok (w₄, closed)) : withdrawKey ∈ o.depositKeys := by
  obtain ⟨-, o₂, -, ho₂, -, hdeposits, -⟩ := repayObligationLiquidity_shape hw ho hrepay
  obtain rfl : o₂ = o₁ := Except.ok.inj (ho₂.symm.trans ho₁)
  obtain ⟨-, -, -, -, -, hmem, -⟩ := withdraw_shape ho₃ hwf₃ hwithdraw
  exact hdeposits ▸ hsame.deposits ▸ hmem

theorem refreshRepaid_settledAt (hw : w.WellFormed) (ho : w.loadObligation index = .ok o)
    (hsettled : ∀ k ∈ o.reservesInUse, w.SettledAt clock k)
    (hrepay : w.repayObligationLiquidity clock index repayKey amount remaining = .ok w₁)
    (ho₁ : w₁.loadObligation index = .ok o₁) (hwithdraw : withdrawKey ∈ o.depositKeys)
    (hstale : ¬ w.LeavesStale o repayKey withdrawKey amount)
    (hrefresh : w₁.refreshRepaid clock index repayKey withdrawKey o o₁ = .ok w₃) :
    ∀ k ∈ o₁.reservesInUse, w₃.SettledAt clock k := by
  obtain ⟨w₃', hrefresh', heq⟩ := exists_ok_of_map
    (refreshRepaid_unpriced hw ho hsettled hrepay ho₁ hwithdraw hstale) hrefresh
  obtain ⟨-, -, -, -, hin⟩ := refreshInUse_spec (wellFormed_of_repay hrepay hw) ho₁ hrefresh'
  exact fun k hk ↦ (hin k hk).of_unpriced heq.symm

/-- The refreshes of the handler after the withdrawal and those of all that is in use, from states
that differ in the price status only. -/
theorem refreshPostWithdrawal_congr {t : U64} {o₃ : Obligation} (ht : clock.timestamp = .ok t)
    (ho₃ : w₃.loadObligation index = .ok o₃) (hwf₃ : o₃.WellFormed) (hsame : o₁.SameAccounts o₃)
    (hsettled : ∀ k ∈ o₁.reservesInUse, w₃.SettledAt clock k)
    (hwithdraw : w₃.withdrawObligationCollateralAndRedeemReserveCollateral clock index withdrawKey
      amount check = .ok (w₄, closed)) (hw : w₄.unpriced = w₄'.unpriced) :
    unpriced <$> w₄.refreshPostWithdrawal clock index withdrawKey o₁.reservesInUse
      o₁.referrerStatesInUse = unpriced <$> w₄'.refreshInUse clock index := by
  rw [← refreshInUse_congr hw, ← hsame.reservesInUse_eq, ← hsame.referrerStatesInUse_eq]
  refine refreshPostWithdrawal_unpriced ht ho₃ hwf₃ (fun k hk ↦ ?_) hwithdraw
  exact hsettled k (hsame.reservesInUse_eq ▸ hk)

/-- With a price of the repaid reserve that is not too old if it has to pass the checks, the
withdrawal after the handler's refreshes is the one after those of all that is in use. -/
theorem refreshRepaid_withdraw (hw : w.WellFormed) (ho : w.loadObligation index = .ok o)
    (hsettled : ∀ k ∈ o.reservesInUse, w.SettledAt clock k) {n : U64}
    (hrepay : w.repayObligationLiquidity clock index repayKey amount remaining = .ok w₁)
    (ho₁ : w₁.loadObligation index = .ok o₁) (hwithdraw : withdrawKey ∈ o.depositKeys)
    (hstale : ¬ w.LeavesStale o repayKey withdrawKey amount)
    (hage : repayKey ∈ o₁.reservesInUse → o₁.borrowKeys ≠ [] → ∀ r,
      w.loadReserve repayKey = .ok r → isSavedPriceAgeValid r clock = .ok true) :
    Prod.map unpriced id <$> (w₁.refreshRepaid clock index repayKey withdrawKey o o₁ >>=
        fun w₃ ↦ w₃.withdrawObligationCollateralAndRedeemReserveCollateral clock index withdrawKey
          n check) =
      Prod.map unpriced id <$> (w₁.refreshInUse clock index >>=
        fun w₃ ↦ w₃.withdrawObligationCollateralAndRedeemReserveCollateral clock index withdrawKey
          n check) := by
  by_cases hdebt : o₁.borrowKeys = []
  · refine map_bind_congr
      (refreshRepaid_unpriced hw ho hsettled hrepay ho₁ hwithdraw hstale) fun w₃ w₃' h₃ _ heq ↦ ?_
    obtain ⟨o₃, ho₃, -, hsame⟩ := refreshRepaid_spec (wellFormed_of_repay hrepay hw) ho₁ h₃
    exact withdrawAndRedeem_congr heq ho₃ (Obligation.borrowsEmpty_iff.2 (hsame.borrows.trans hdebt))
  · rw [refreshRepaid_eq hw ho hsettled hrepay ho₁ hwithdraw hstale fun hmem ↦ hage hmem hdebt]

end Withdraw

end World

end Klend
