import Klend.Results.Deposits

/-! # The order of an obligation's risk values

A refresh multiplies the value of each collateral by two percentages and the value of
each debt by a borrow factor, and truncates every product. The validators order the
percentages, so the totals come out in the same order.
-/

namespace Klend

namespace Fraction

variable {x y y' z z' : Fraction}

theorem mul_le_mul_right (hy : y ≤ y') (hz : x.mul y = .ok z) (hz' : x.mul y' = .ok z') :
    z ≤ z' := by
  rw [mul_eq_ok] at hz hz'
  rw [le_iff, hz, hz']
  apply Nat.div_le_div_right
  exact Nat.mul_le_mul_left _ hy

theorem mul_le_of_le_one (hy : y ≤ one) (hz : x.mul y = .ok z) : z ≤ x :=
  mul_le_mul_right hy hz (mul_one x)

theorem le_mul_of_one_le (hy : one ≤ y) (hz : x.mul y = .ok z) : x ≤ z :=
  mul_le_mul_right hy (mul_one x) hz

theorem add_le_add {a b : Fraction} (hx : x ≤ y) (ha : a ≤ b) (hz : x.add a = .ok z)
    (hz' : y.add b = .ok z') : z ≤ z' := by
  rw [add_eq_ok] at hz hz'
  rw [le_iff] at hx ha ⊢
  omega

end Fraction

/-- A loan-to-value ratio, a liquidation threshold and the whole value, in this order. -/
def Ranked (ltvPct thresholdPct : U8) : Prop := ltvPct ≤ thresholdPct ∧ thresholdPct ≤ 100

/-- Every group of the market is unset or passes the checks of the market's update handler. -/
def LendingMarket.GroupsValidated (market : LendingMarket) : Prop :=
  ∀ i, market.elevationGroups i = default ∨
    LendingMarket.validateElevationGroup (market.elevationGroups i) = .ok ()

theorem LendingMarket.Validated.groupsValidated {market : LendingMarket} (h : market.Validated) :
    market.GroupsValidated := fun i ↦ (h.group i).imp_right And.right

/-- Every reserve's configuration passes the validator. -/
def Reserves.Validated (rs : Reserves) (market : LendingMarket) : Prop :=
  ∀ k r, rs k = some r → validateReserveConfig r.config market k = .ok ()

variable {market : LendingMarket} {rs rs' : Reserves} {o o' : Obligation} {slot : U64}
  {iter iter' : List Pubkey} {states states' : ReferrerTokenStates}
  {stateKeys : List ReferrerTokenStateKey} {check : MaxReservesAsCollateralCheck}
  {group : Option ElevationGroup} {r : Reserve}

theorem validateReserveConfig_ranked {config : ReserveConfig} {key : Pubkey}
    (h : validateReserveConfig config market key = .ok ()) :
    Ranked config.loanToValuePct config.liquidationThresholdPct := by
  simp only [validateReserveConfig, bind_eq_ok, require_eq_ok] at h
  obtain ⟨-, -, -, -, -, -, -, hranked, -⟩ := h
  exact hranked

theorem validateElevationGroup_ranked {g : ElevationGroup}
    (h : LendingMarket.validateElevationGroup g = .ok ()) :
    Ranked g.ltvPct g.liquidationThresholdPct := by
  simp only [LendingMarket.validateElevationGroup, bind_eq_ok, require_eq_ok, not_or, not_le,
    not_lt] at h
  obtain ⟨-, -, -, -, -, ⟨hthreshold, -, hle, -⟩, -⟩ := h
  exact ⟨hle, hthreshold.le⟩

theorem getElevationGroup_ranked {id : U8} {g : ElevationGroup} (hmarket : market.GroupsValidated)
    (h : getElevationGroup id market = .ok (some g)) :
    Ranked g.ltvPct g.liquidationThresholdPct := by
  rcases LendingMarket.getElevationGroup_eq_ok.1 (getElevationGroup_market h) with
    ⟨-, hnone⟩ | ⟨i, -, hsome⟩
  · exact absurd hnone (Option.some_ne_none g)
  obtain rfl := Option.some.inj hsome
  rcases hmarket i with hdefault | hvalid
  · rw [hdefault]
    exact ⟨le_rfl, by decide⟩
  · exact validateElevationGroup_ranked hvalid

theorem getMaxLtvAndLiquidationThreshold_ranked
    (hgroup : ∀ g, group = some g → Ranked g.ltvPct g.liquidationThresholdPct)
    (hconfig : Ranked r.config.loanToValuePct r.config.liquidationThresholdPct) :
    Ranked (getMaxLtvAndLiquidationThreshold r group).1
      (getMaxLtvAndLiquidationThreshold r group).2 := by
  cases group with
  | none => exact hconfig
  | some g => exact hgroup g rfl

theorem Reserves.Validated.of_rebooked (h : rs.Validated market)
    (hbook : Reserves.Rebooked rs rs') : rs'.Validated market := by
  intro k r' hr'
  obtain ⟨r, hr, _, _, _, _, _, rfl⟩ := hbook.value_rev hr'
  exact h k r hr

theorem refreshObligationDeposits_ordered {debt : Option U64}
    {deposits : RefreshObligationDepositsResult}
    (hgroup : ∀ g, group = some g → Ranked g.ltvPct g.liquidationThresholdPct)
    (hreserves : rs.Validated market)
    (h : refreshObligationDeposits o market slot check group rs iter debt =
      .ok (o', rs', deposits)) :
    deposits.allowedBorrowValueF ≤ deposits.unhealthyBorrowValueF ∧
      deposits.unhealthyBorrowValueF ≤ deposits.depositedValueF := by
  obtain ⟨-, s, slots, hloop, -, -, hdeposited, hallowed, hunhealthy, -⟩ :=
    refreshObligationDeposits_spec h
  rw [hdeposited, hallowed, hunhealthy]
  refine (forOccupied_invariant (Q := fun _ _ ↦ True) (P := fun s : DepositsPass ↦
    s.reserves.Validated market ∧ s.allowedBorrowValue ≤ s.unhealthyBorrowValue ∧
      s.unhealthyBorrowValue ≤ s.depositedValue) (fun _ _ _ ↦ trivial) ?step
    ⟨hreserves, le_rfl, le_rfl⟩ hloop).1.2
  case step =>
    rintro j s d k s' d' - - ⟨hvalid, hle, hle'⟩ hbody
    obtain ⟨r, r₁, d₁, mv, allowed, unhealthy, -, hr, -, -, -, htrack, -, hdv, hal, habv, hun, hubv,
      hstore, -⟩ := refreshDeposit_spec hbody
    have hvalid' : s'.reserves.Validated market :=
      hstore ▸ hvalid.of_rebooked (.store hr (trackRefreshedDeposit_retracked htrack).rebooked)
    have hr₁ : s'.reserves k = some r₁ := by rw [hstore, Reserves.store_same]
    -- the percentages of this slot, from the group or from the reserve
    obtain ⟨hltv, hthreshold⟩ := getMaxLtvAndLiquidationThreshold_ranked hgroup
      (validateReserveConfig_ranked (hvalid' k r₁ hr₁))
    have hwhole : Fraction.fromPercent
        (getMaxLtvAndLiquidationThreshold r₁ group).2.widen ≤ Fraction.one := by
      rw [← Fraction.fromPercent_hundred]
      exact Fraction.fromPercent_le_fromPercent.2 hthreshold
    refine ⟨⟨hvalid', ?_, ?_⟩, trivial⟩
    · have hmono := Fraction.mul_le_mul_right (Fraction.fromPercent_le_fromPercent.2 hltv) hal hun
      exact Fraction.add_le_add hle hmono habv hubv
    · exact Fraction.add_le_add hle' (Fraction.mul_le_of_le_one hwhole hun) hubv hdv

theorem refreshObligationBorrows_ordered {borrows : RefreshObligationBorrowsResult}
    (h : refreshObligationBorrows o market slot group rs iter states stateKeys =
      .ok (o', rs', states', borrows)) :
    borrows.borrowedAssetsMarketValueF ≤ borrows.borrowFactorAdjustedDebtValueF := by
  obtain ⟨s, slots, hloop, -, -, -, -, hadjusted, hborrowed, -⟩ := refreshObligationBorrows_spec h
  rw [hadjusted, hborrowed]
  refine (forOccupied_invariant (Q := fun _ _ ↦ True) (P := fun s : BorrowsPass ↦
    s.borrowedAssetsMarketValue ≤ s.borrowFactorAdjustedDebtValue) (fun _ _ _ ↦ trivial) ?step
    le_rfl hloop).1
  case step =>
    rintro j s b k s' b' - - hle hbody
    obtain ⟨r, b₁, n, r₁, b₂, slots, r₂, mv, bfMv, -, -, -, -, -, -, -, -, -, -, -, -, hmv, hbfMv,
      hadjusted, -⟩ := refreshBorrow_spec hbody
    have hvalue := Fraction.le_mul_of_one_le (r₂.one_le_borrowFactorF group.isSome) hbfMv
    exact ⟨Fraction.add_le_add hle hvalue hmv hadjusted, trivial⟩

/-- With a market and reserves that the validators accept, every refresh leaves an allowed value
(before the market's cap lowers it) within the unhealthy one, this within the value of the
collaterals, and an adjusted debt of at least the market value of the debts. -/
theorem refreshObligation_ordered (hmarket : market.GroupsValidated)
    (hreserves : rs.Validated market)
    (h : refreshObligation o market slot check rs iter iter' states stateKeys =
      .ok (o', rs', states')) :
    ∃ (group : Option ElevationGroup) (o₁ : Obligation) (rs₁ : Reserves)
      (borrows : RefreshObligationBorrowsResult) (o₂ : Obligation)
      (deposits : RefreshObligationDepositsResult),
      getElevationGroup o.elevationGroup market = .ok group ∧
      refreshObligationBorrows o market slot group rs iter' states stateKeys =
        .ok (o₁, rs₁, states', borrows) ∧
      refreshObligationDeposits o₁ market slot check group rs₁ iter
        borrows.borrowedAmountInElevationGroup = .ok (o₂, rs', deposits) ∧
      o'.allowedBorrowValueSf = min deposits.allowedBorrowValueF
        (Fraction.fromNum market.globalAllowedBorrowValue) ∧
      deposits.allowedBorrowValueF ≤ o'.unhealthyBorrowValueSf ∧
      o'.unhealthyBorrowValueSf ≤ o'.depositedValueSf ∧
      o'.borrowedAssetsMarketValueSf ≤ o'.borrowFactorAdjustedDebtValueSf := by
  obtain ⟨group, o₁, rs₁, borrows, o₂, deposits, hgroup, hb, hd, rfl⟩ := refreshObligation_spec h
  have hreserves₁ := hreserves.of_rebooked (refreshObligationBorrows_frame hb).1
  obtain ⟨hallowed, hunhealthy⟩ := refreshObligationDeposits_ordered
    (fun g hg ↦ getElevationGroup_ranked hmarket (hg ▸ hgroup)) hreserves₁ hd
  exact ⟨group, o₁, rs₁, borrows, o₂, deposits, hgroup, hb, hd, rfl, hallowed, hunhealthy,
    refreshObligationBorrows_ordered hb⟩

namespace World

variable {w₀ w w' : World} {clock : Clock} {ix : Instruction}

theorem process_validated (h : w.process clock ix = .ok w') (hw : w.Validated) : w'.Validated := by
  intro k r' hr'
  rcases (process_evolve h).value_rev hr' with ⟨r, hr, hev⟩
  rw [hev.settings, process_lendingMarket h]
  exact hw k r hr

theorem Run.validated {Admitted : World → Clock → Instruction → Prop} (h : Run Admitted w₀ w)
    (hw : w₀.Validated) : w.Validated :=
  Transition.Preserves.run (P := Validated)
    (fun _ _ hw ⟨_, _, _, hproc⟩ ↦ process_validated hproc hw) hw h

/-- The refresh of a loan at 85% of its collateral, whose debt the market's cap does not reach. -/
theorem refreshObligation_ordered_risenLoan :
    ∃ o₀ o' rs' states', risenLoan.loadObligation 0 = .ok o₀ ∧
      Klend.refreshObligation o₀ risenLoan.lendingMarket 3 .perform risenLoan.reserves [6] [5]
        risenLoan.referrerTokenStates [] = .ok (o', rs', states') ∧
      o'.allowedBorrowValueSf ≤ o'.unhealthyBorrowValueSf ∧
      o'.unhealthyBorrowValueSf ≤ o'.depositedValueSf ∧
      o'.borrowedAssetsMarketValueSf ≤ o'.borrowFactorAdjustedDebtValueSf ∧
      o'.borrowedAssetsMarketValueSf ≠ Fraction.zero := by
  obtain ⟨o₀, ho₀, hany⟩ := exists_eq_ok (x := risenLoan.loadObligation 0)
    (p := fun o₀ ↦ (Klend.refreshObligation o₀ risenLoan.lendingMarket 3 .perform
      risenLoan.reserves [6] [5] risenLoan.referrerTokenStates []).toOption.any
        fun x ↦ decide (x.1.borrowedAssetsMarketValueSf ≠ Fraction.zero)) (by decide)
  obtain ⟨⟨o', rs', states'⟩, hrefresh, hdebt⟩ := exists_eq_ok hany
  have hvalid : plainMarket.Validated := opening_validated (by
    simp only [List.mem_cons, List.not_mem_nil, or_false, forall_eq_or_imp, forall_eq]
    exact ⟨plainConfig_validated _ _, plainConfig_validated _ _⟩)
  have hrun : Run Anything plainMarket risenLoan := run_after _ _ fun _ _ _ ↦ trivial
  have hmarket : risenLoan.lendingMarket.GroupsValidated :=
    (hrun.market_validated plainMarket_genesis.market).groupsValidated
  obtain ⟨group, o₁, rs₁, borrows, o₂, deposits, -, -, -, hcap, hallowed, hunhealthy, hadjusted⟩ :=
    refreshObligation_ordered hmarket (hrun.validated hvalid) hrefresh
  refine ⟨o₀, o', rs', states', ho₀, hrefresh, ?_, hunhealthy, hadjusted, of_decide_eq_true hdebt⟩
  rw [hcap]
  exact (min_le_left _ _).trans hallowed

end World

end Klend
