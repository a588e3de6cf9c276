import Klend.Lending.LiquidationRoutes
import Klend.Lending.LiquidationSpecs
import Klend.Positions.Freshness
import Klend.Positions.LiquidationOrder
import Mathlib.Algebra.Order.BigOperators.Group.List

/-! # Pairs open to liquidation

What a liquidation asks of the debt and the collateral it is called with. A pair
passes if the two slots are worth something and no slot goes before them.
-/

namespace Klend

/-- The checks `liquidateObligation` makes on the repaid and the withdrawn reserve of an unhealthy
obligation before it calculates any amount. -/
def checkLiquidationPair (lendingMarket : LendingMarket)
    (repayReservePk withdrawReservePk : Pubkey) (obligation : Obligation)
    (slot liquidityAmount : U64) (reserves : Reserves) : Result Unit := do
  let repayReserve ← reserves.load repayReservePk
  let withdrawReserve ← reserves.load withdrawReservePk
  let elevationGroup ← getElevationGroup obligation.elevationGroup lendingMarket
  let (_, collateralLiquidationThresholdPct) :=
    getMaxLtvAndLiquidationThreshold withdrawReserve elevationGroup
  require (collateralLiquidationThresholdPct ≠ 0) .collateralNonLiquidatable
  assertObligationLiquidatable repayReserve withdrawReserve obligation liquidityAmount slot
  let (liquidity, _) ← obligation.findLiquidityInBorrows repayReservePk
  require (liquidity.borrowFactorAdjustedMarketValueSf ≠ Fraction.zero) .obligationLiquidityEmpty
  let collateralIndex ← obligation.positionOfCollateralInDeposits withdrawReservePk
  let collateral ← unwrap obligation.deposits[collateralIndex]?
  require (collateral.marketValueSf ≠ Fraction.zero) .obligationCollateralEmpty
  -- of `get_liquidation_params`, once the obligation is found unhealthy
  require (obligation.highestBorrowFactorPct ≤ repayReserve.config.borrowFactorPct)
    .liquidationBorrowFactorPriority
  require (collateralLiquidationThresholdPct.widen ≤
    obligation.lowestReserveDepositLiquidationLtv) .liquidationLowestLtvPriority

theorem getLiquidationParams_priorities {market : LendingMarket} {w r : Reserve} {o : Obligation}
    {ts : U64} {highest lowest : Bool} {params : LiquidationParams} {ltv unhealthy : Fraction}
    (h : getLiquidationParams market w r o ts highest lowest none = .ok params)
    (hltv : o.loanToValue = .ok ltv) (hunhealthy : o.unhealthyLoanToValue = .ok unhealthy)
    (hle : unhealthy ≤ ltv) : highest = true ∧ lowest = true := by
  have hunhealthyRoute : checkLiquidateObligation market w r o none ≠ .ok none := by
    intro hnone
    obtain ⟨ltv', unhealthy', hltv', hunhealthy', hlt⟩ := checkLiquidateObligation_none hnone
    obtain rfl : ltv = ltv' := Except.ok.inj (hltv.symm.trans hltv')
    obtain rfl : unhealthy = unhealthy' := Except.ok.inj (hunhealthy.symm.trans hunhealthy')
    exact absurd hlt (not_lt_of_ge hle)
  rcases getLiquidationParams_routes h with ⟨-, hpriorities⟩ | ⟨hnone, -⟩ | ⟨⟨hnone, -⟩, -⟩
  · exact hpriorities
  · exact absurd hnone hunhealthyRoute
  · exact absurd hnone hunhealthyRoute

theorem liquidateObligation_checksPair {market : LendingMarket} {repayKey withdrawKey : Pubkey}
    {o o' : Obligation} {clock : Clock} {amount : U64} {rs rs' : Reserves} {iter : List Pubkey}
    {res : LiquidateObligationResult} {ltv unhealthy : Fraction}
    (h : liquidateObligation market repayKey withdrawKey o clock amount none rs iter =
      .ok (o', rs', res))
    (hltv : o.loanToValue = .ok ltv) (hunhealthy : o.unhealthyLoanToValue = .ok unhealthy)
    (hle : unhealthy ≤ ltv) :
    checkLiquidationPair market repayKey withdrawKey o clock.slot amount rs = .ok () := by
  obtain ⟨r, w, group, b, i, j, d, ts, result, hr, hw, hassert, hgroup, hfind, hj, hd, -, hresult, _,
    _, _, _, _, _, _, _, _, _, _, -, -, -, -, -, -, -, -, -, -, -, -, hthreshold, howed, hworth⟩ :=
    liquidateObligation_spec h
  obtain ⟨params, _, _, _, _, _, -, hparams, -⟩ := calculateLiquidation_spec hresult
  obtain ⟨hhighest, hlowest⟩ := getLiquidationParams_priorities hparams hltv hunhealthy hle
  simp only [checkLiquidationPair, bind_eq_ok, require_eq_ok, unwrap_eq_ok, Prod.exists]
  exact ⟨r, hr, w, hw, group, hgroup, (), hthreshold, (), hassert, b, i, hfind, (), howed, j, hj, d,
    hd, (), hworth, (), of_decide_eq_true hhighest, of_decide_eq_true hlowest⟩

/-- A total of values is zero only if all of them are. -/
theorem Fraction.ne_zero_of_sum {σ : Type*} {slots : List σ} {value : σ → Fraction} {s : σ}
    {total : Fraction} (htotal : total.bits = (slots.map fun s ↦ (value s).bits).sum)
    (hs : s ∈ slots) (hne : value s ≠ zero) : total ≠ zero := by
  rintro rfl
  have hle : (value s).bits ≤ (slots.map fun s ↦ (value s).bits).sum :=
    List.single_le_sum (fun _ _ ↦ Nat.zero_le _) _ (List.mem_map_of_mem hs)
  rw [← htotal, bits_zero, Nat.le_zero] at hle
  exact hne (Fraction.ext hle)

section Pairs

variable {market : LendingMarket} {group : Option ElevationGroup} {o : Obligation}
  {rs : Reserves} {slot amount : U64} {d : ObligationCollateral} {b : ObligationLiquidity}
  {key : Pubkey}

theorem Reserves.liquidationThreshold_eq_some {r : Reserve} {t : U8} (hr : rs key = some r) :
    rs.liquidationThreshold group key = some t ↔
      t = (getMaxLtvAndLiquidationThreshold r group).2 ∧ t ≠ 0 := by
  rw [liquidationThreshold, hr, Option.map_some, Option.filter_eq_some_iff, Option.some.injEq,
    decide_eq_true_eq, Fin.pos_iff_ne_zero]
  constructor
  · rintro ⟨rfl, ht⟩
    exact ⟨rfl, ht⟩
  · rintro ⟨rfl, ht⟩
    exact ⟨rfl, ht⟩

/-- The collateral is worth something, and no counted one has a lower threshold. -/
def Obligation.CollateralFirst (rs : Reserves) (group : Option ElevationGroup) (o : Obligation)
    (d : ObligationCollateral) : Prop :=
  d.marketValueSf ≠ Fraction.zero ∧ ∃ t, rs.liquidationThreshold group d.depositReserve = some t ∧
    (t.widen : U64) ≤ o.lowestReserveDepositLiquidationLtv

/-- The debt is worth something, and no counted one has a higher borrow factor. -/
def Obligation.DebtFirst (rs : Reserves) (o : Obligation) (b : ObligationLiquidity) : Prop :=
  b.borrowFactorAdjustedMarketValueSf ≠ Fraction.zero ∧ ∃ r, rs b.borrowReserve = some r ∧
    o.highestBorrowFactorPct ≤ r.config.borrowFactorPct

/-- What the checks need of the obligation to come down to its two slots. -/
structure Obligation.Refreshed (market : LendingMarket) (rs : Reserves)
    (group : Option ElevationGroup) (slot : U64) (o : Obligation) : Prop where
  tables : o.TablesWellFormed
  sums : o.ValuesSummed
  reserves : o.FreshWith rs slot .liquidationChecks
  group_eq : getElevationGroup o.elevationGroup market = .ok group
  fresh : o.lastUpdate.stale = false ∧ o.lastUpdate.slot = slot ∧
    o.lastUpdate.priceStatus.contains .liquidationChecks

theorem refreshObligation_refreshed {o' : Obligation} {rs' : Reserves} {iter iter' : List Pubkey}
    {states states' : ReferrerTokenStates} {stateKeys : List ReferrerTokenStateKey}
    {check : MaxReservesAsCollateralCheck} (hwf : o.WellFormed) (htiers : rs.TiersKnown)
    (h : refreshObligation o market slot check rs iter iter' states stateKeys =
      .ok (o', rs', states')) (hgroup : getElevationGroup o'.elevationGroup market = .ok group)
    (hchecks : o'.lastUpdate.priceStatus.contains .liquidationChecks) :
    o'.Refreshed market rs' group slot := by
  have hfresh : o'.lastUpdate.stale = false ∧ o'.lastUpdate.slot = slot := by
    obtain ⟨_, _, _, _, _, _, -, -, -, rfl⟩ := refreshObligation_spec h
    exact ⟨rfl, rfl⟩
  constructor
  · exact (refreshObligation_wellFormed hwf htiers h).toTablesWellFormed
  · exact (refreshObligation_upToDate hwf h hfresh.1).1
  · exact refreshObligation_freshWith h hchecks
  · exact hgroup
  · exact ⟨hfresh.1, hfresh.2, hchecks⟩

/-- The pair is open only to an amount, and only if the obligation passed the price checks. -/
theorem checkLiquidationPair_fresh {repayKey withdrawKey : Pubkey}
    (h : checkLiquidationPair market repayKey withdrawKey o slot amount rs = .ok ()) :
    amount ≠ 0 ∧ o.lastUpdate.priceStatus.contains .liquidationChecks := by
  simp only [checkLiquidationPair, assertObligationLiquidatable, bind_eq_ok, require_eq_ok,
    LastUpdate.requireFresh_eq_ok] at h
  obtain ⟨_, -, _, -, _, -, -, -, -, ⟨-, hamount, -, -, -, -, -, hfresh, -⟩, -⟩ := h
  exact ⟨hamount, hfresh.2.2⟩

theorem checkLiquidationPair_eq_ok (h : o.Refreshed market rs group slot) (hd : d ∈ o.deposits)
    (hb : b ∈ o.borrows) (hamount : amount ≠ 0) :
    checkLiquidationPair market b.borrowReserve d.depositReserve o slot amount rs = .ok () ↔
      o.CollateralFirst rs group d ∧ o.DebtFirst rs b := by
  have hdk : d.depositReserve = 0 → d.marketValueSf = Fraction.zero :=
    fun hz ↦ (h.tables.deposits.empty d hd hz).2
  have hbk : b.borrowReserve = 0 → b.borrowFactorAdjustedMarketValueSf = Fraction.zero :=
    fun hz ↦ (h.tables.borrows.empty b hb hz).2.2
  simp only [checkLiquidationPair, assertObligationLiquidatable, bind_eq_ok, require_eq_ok,
    Reserves.load_eq_ok, LastUpdate.requireFresh_eq_ok, unwrap_eq_ok, Prod.exists]
  constructor
  · rintro ⟨r, ⟨hbne, hr⟩, r', ⟨hdne, hr'⟩, group', hgroup', -, hthreshold, -, -, liquidity, i, hfind,
      -, hvalue, j, hfind', collateral, hcollateral, -, hvalue', -, hfactor, hlowest⟩
    rcases h.tables.findLiquidity hb hbne with ⟨i', hi'⟩
    rcases h.tables.positionOfCollateral hd hdne with ⟨j', hj', hdj⟩
    obtain ⟨rfl, rfl⟩ := Prod.mk.inj (Except.ok.inj (hi'.symm.trans hfind))
    obtain rfl := Except.ok.inj (hj'.symm.trans hfind')
    obtain rfl := Option.some.inj (hdj.symm.trans hcollateral)
    obtain rfl := Except.ok.inj (h.group_eq.symm.trans hgroup')
    exact ⟨⟨hvalue', _, (Reserves.liquidationThreshold_eq_some hr').2 ⟨rfl, hthreshold⟩, hlowest⟩,
      hvalue, r, hr, hfactor⟩
  · rintro ⟨⟨hvalue', t, ht, hlowest⟩, hvalue, r, hr, hfactor⟩
    have hdne : d.depositReserve ≠ 0 := fun hz ↦ hvalue' (hdk hz)
    have hbne : b.borrowReserve ≠ 0 := fun hz ↦ hvalue (hbk hz)
    rcases h.reserves.deposits d hd hdne with ⟨r', hr', hfresh'⟩
    rcases (h.reserves.borrows b hb hbne).1 with ⟨r₀, hr₀, hfresh⟩
    obtain rfl := Option.some.inj (hr.symm.trans hr₀)
    obtain ⟨rfl, hthreshold⟩ := (Reserves.liquidationThreshold_eq_some hr').1 ht
    rcases h.tables.findLiquidity hb hbne with ⟨i, hi⟩
    rcases h.tables.positionOfCollateral hd hdne with ⟨j, hj, hdj⟩
    have hdeposited : o.depositedValueSf ≠ Fraction.zero :=
      Fraction.ne_zero_of_sum h.sums.deposited hd hvalue'
    have hadjusted : o.borrowFactorAdjustedDebtValueSf ≠ Fraction.zero :=
      Fraction.ne_zero_of_sum h.sums.adjusted hb hvalue
    exact ⟨r, ⟨hbne, hr⟩, r', ⟨hdne, hr'⟩, group, h.group_eq, (), hthreshold, (),
      ⟨(), hamount, (), hfresh, (), hfresh', (), h.fresh, (), hdeposited, hadjusted⟩, b, i, hi, (),
      hvalue, j, hj, d, hdj, (), hvalue', (), hfactor, hlowest⟩

/-- Where values of zero count, no worthless collateral has a lower threshold than all the others.
-/
def Obligation.CollateralMatched (market : LendingMarket) (rs : Reserves)
    (group : Option ElevationGroup) (o : Obligation) : Prop :=
  market.minValueSkipLiquidationLtvChecks = 0 → ∀ e ∈ o.deposits, e.depositReserve ≠ 0 →
    e.marketValueSf = Fraction.zero → ∀ t, rs.liquidationThreshold group e.depositReserve = some t →
    ∃ d ∈ o.deposits, d.marketValueSf ≠ Fraction.zero ∧
      ∃ u, rs.liquidationThreshold group d.depositReserve = some u ∧ u ≤ t

/-- Where values of zero count, no worthless debt has a higher borrow factor than all the others.
-/
def Obligation.DebtMatched (market : LendingMarket) (rs : Reserves)
    (group : Option ElevationGroup) (o : Obligation) : Prop :=
  market.minValueSkipLiquidationBfChecks = 0 → ∀ c ∈ o.borrows, c.borrowReserve ≠ 0 →
    c.borrowFactorAdjustedMarketValueSf = Fraction.zero →
    ∀ f, rs.borrowFactorF group c.borrowReserve = some f →
    ∃ b ∈ o.borrows, b.borrowFactorAdjustedMarketValueSf ≠ Fraction.zero ∧
      ∃ g, rs.borrowFactorF group b.borrowReserve = some g ∧ f ≤ g

theorem Fraction.fromNum_le_zero {n : U64} : fromNum n ≤ zero ↔ n = 0 := by
  rw [le_iff, bits_fromNum, bits_zero, Fin.ext_iff]
  show (n : ℕ) * 2 ^ 60 ≤ 0 ↔ (n : ℕ) = 0
  omega

theorem exists_collateralFirst_iff (h : o.Prioritised market rs group)
    (hvalued : ∃ d ∈ o.deposits, d.marketValueSf ≠ Fraction.zero ∧
      (rs.liquidationThreshold group d.depositReserve).isSome) :
    (∃ d ∈ o.deposits, o.CollateralFirst rs group d) ↔ o.CollateralMatched market rs group := by
  rcases h.lowest with ⟨low, hleast, hlow⟩
  have hwiden : ∀ t : U8, (t.widen : U64) ≤ o.lowestReserveDepositLiquidationLtv ↔ t ≤ low :=
    fun t ↦ by rw [hlow, Fin.le_def, Fin.le_def, Word.widen_val, Word.widen_val]
  have hiff := SlotTable.exists_le_least_iff
    (fun d : ObligationCollateral ↦ d.marketValueSf ≠ Fraction.zero) hleast
    (hvalued.imp fun d hd ↦ ⟨hd.1, hd.2.1, _, Option.eq_some_of_isSome hd.2.2,
      Fin.le_def.2 (by simp [Word.max]; omega)⟩)
  simp only [Obligation.CollateralFirst, hwiden]
  rw [hiff]
  constructor
  · intro h hskip e he hne hzero
    exact h e he ⟨hne, hzero ▸ Fraction.fromNum_le_zero.2 hskip⟩ (not_not.2 hzero)
  · rintro h e he ⟨hne, hvalue⟩ hzero
    have hzero := not_not.1 hzero
    exact h (Fraction.fromNum_le_zero.1 (hzero ▸ hvalue)) e he hne hzero

theorem Reserve.borrowFactorF_eq {r : Reserve} (h : 100 ≤ r.config.borrowFactorPct)
    (inGroup : Bool) : r.borrowFactorF inGroup =
      Fraction.fromPercent (if inGroup then 100 else r.config.borrowFactorPct) := by
  rw [borrowFactorF]
  cases inGroup with
  | true => rw [if_pos rfl, if_pos rfl, Fraction.fromPercent_hundred]
  | false =>
    rw [if_neg Bool.false_ne_true, if_neg Bool.false_ne_true, ReserveConfig.getBorrowFactor,
      ← Fraction.fromPercent_hundred, max_eq_right (Fraction.fromPercent_le_fromPercent.2 h)]

theorem Obligation.Prioritised.highest_eq (h : o.Prioritised market rs group)
    (hfactors : ∀ k r, rs k = some r → 100 ≤ r.config.borrowFactorPct) :
    IsGreatest (insert Fraction.one (countedFactors market rs group o.borrows))
      (Fraction.fromPercent o.highestBorrowFactorPct) := by
  rcases h.highest with ⟨high, hgreatest, hpct⟩
  obtain ⟨p, rfl⟩ : ∃ p, high = Fraction.fromPercent p := by
    rcases hgreatest.1 with rfl | ⟨c, -, -, hc⟩
    · exact ⟨100, Fraction.fromPercent_hundred.symm⟩
    · rcases Option.map_eq_some_iff.1 hc with ⟨r, hr, rfl⟩
      exact ⟨_, Reserve.borrowFactorF_eq (hfactors _ r hr) _⟩
  rw [Fraction.toPercent_fromPercent] at hpct
  rwa [← Option.some.inj (Except.ok.inj hpct)]

/-- Inside a group every borrow factor is one, and so every debt has the highest. -/
theorem Obligation.Prioritised.highest_le_iff (h : o.Prioritised market rs group)
    (hfactors : ∀ k r, rs k = some r → 100 ≤ r.config.borrowFactorPct) {r : Reserve}
    (hr : rs key = some r) : o.highestBorrowFactorPct ≤ r.config.borrowFactorPct ↔
      Fraction.fromPercent o.highestBorrowFactorPct ≤ r.borrowFactorF group.isSome := by
  have hpct := hfactors key r hr
  rw [Reserve.borrowFactorF_eq hpct, Fraction.fromPercent_le_fromPercent]
  cases group with
  | none => rfl
  | some g =>
    have hhigh : Fraction.fromPercent o.highestBorrowFactorPct = Fraction.one := by
      rcases (h.highest_eq hfactors).1 with hone | ⟨c, -, -, hc⟩
      · exact hone
      · rcases Option.map_eq_some_iff.1 hc with ⟨r, -, hone⟩
        exact hone.symm
    have hle : o.highestBorrowFactorPct ≤ 100 := by
      rw [← Fraction.fromPercent_le_fromPercent, hhigh, Fraction.fromPercent_hundred]
    exact ⟨fun _ ↦ hle, fun _ ↦ hle.trans hpct⟩

theorem exists_debtFirst_iff (h : o.Prioritised market rs group)
    (hr : o.Refreshed market rs group slot)
    (hfactors : ∀ k r, rs k = some r → 100 ≤ r.config.borrowFactorPct)
    (hvalued : ∃ b ∈ o.borrows, b.borrowFactorAdjustedMarketValueSf ≠ Fraction.zero) :
    (∃ b ∈ o.borrows, o.DebtFirst rs b) ↔ o.DebtMatched market rs group := by
  have hone : ∃ b ∈ o.borrows, b.borrowFactorAdjustedMarketValueSf ≠ Fraction.zero ∧
      ∃ f, rs.borrowFactorF group b.borrowReserve = some f ∧ Fraction.one ≤ f := by
    rcases hvalued with ⟨b, hb, hne⟩
    have hkey : b.borrowReserve ≠ 0 := fun hz ↦ hne (hr.tables.borrows.empty b hb hz).2.2
    rcases (hr.reserves.borrows b hb hkey).1 with ⟨r, hrb, -⟩
    refine ⟨b, hb, hne, r.borrowFactorF group.isSome, ?_, r.one_le_borrowFactorF _⟩
    rw [Reserves.borrowFactorF, hrb, Option.map_some]
  have hfirst : ∀ b, o.DebtFirst rs b ↔ b.borrowFactorAdjustedMarketValueSf ≠ Fraction.zero ∧
      ∃ f, rs.borrowFactorF group b.borrowReserve = some f ∧
        Fraction.fromPercent o.highestBorrowFactorPct ≤ f := by
    intro b
    refine and_congr_right fun _ ↦ ?_
    constructor
    · rintro ⟨r, hrb, hpct⟩
      refine ⟨_, ?_, (h.highest_le_iff hfactors hrb).1 hpct⟩
      rw [Reserves.borrowFactorF, hrb, Option.map_some]
    · rintro ⟨f, hf, hle⟩
      rcases Option.map_eq_some_iff.1 hf with ⟨r, hrb, rfl⟩
      exact ⟨r, hrb, (h.highest_le_iff hfactors hrb).2 hle⟩
  simp only [hfirst]
  rw [SlotTable.exists_ge_greatest_iff
    (fun b : ObligationLiquidity ↦ b.borrowFactorAdjustedMarketValueSf ≠ Fraction.zero)
    (h.highest_eq hfactors) hone]
  constructor
  · intro h hskip c hc hne hzero
    have hcounts : Fraction.fromNum market.minValueSkipLiquidationBfChecks ≤ c.marketValueSf :=
      (Fraction.fromNum_le_zero.2 hskip).trans (Nat.zero_le _)
    exact h c hc ⟨hne, hcounts⟩ (not_not.2 hzero)
  · rintro h c hc ⟨hne, hvalue⟩ hzero
    have hzero := not_not.1 hzero
    have hadjusted := (hr.reserves.borrows c hc hne).2
    exact h (Fraction.fromNum_le_zero.1 (hvalue.trans (hzero ▸ hadjusted))) c hc hne hzero

end Pairs

end Klend
