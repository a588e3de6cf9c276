import Klend.Lending.RefreshSpecs
import Mathlib.Order.Bounds.Basic

/-! # The order of liquidation

A refresh records the lowest liquidation threshold of the collaterals it counts and
the highest borrow factor of the debts it counts, and passes on the price checks that
all reserves of the obligation passed.
-/

namespace Klend

namespace Reserves

/-- The liquidation threshold of a reserve's collateral, the group's inside a group, unless it is
zero. -/
def liquidationThreshold (rs : Reserves) (group : Option ElevationGroup) (k : Pubkey) :
    Option U8 :=
  ((rs k).map fun r ↦ (getMaxLtvAndLiquidationThreshold r group).2).filter (0 < ·)

def borrowFactorF (rs : Reserves) (group : Option ElevationGroup) (k : Pubkey) :
    Option Fraction :=
  (rs k).map fun r ↦ r.borrowFactorF group.isSome

/-- The reserve was refreshed in this slot and passed the price checks. -/
def FreshAt (rs : Reserves) (slot : U64) (checks : PriceStatusFlags) (k : Pubkey) : Prop :=
  ∃ r, rs k = some r ∧ r.lastUpdate.stale = false ∧ r.lastUpdate.slot = slot ∧
    r.lastUpdate.priceStatus.contains checks

variable {rs rs' : Reserves} {k : Pubkey} {group : Option ElevationGroup}

theorem Rebooked.liquidationThreshold_eq (h : Reserves.Rebooked rs rs') :
    rs'.liquidationThreshold group k = rs.liquidationThreshold group k := by
  have hk := h k
  unfold liquidationThreshold
  generalize rs k = a at hk ⊢
  generalize rs' k = b at hk ⊢
  cases hk with
  | none => rfl
  | some hab =>
    obtain ⟨_, _, _, _, _, rfl⟩ := hab
    cases group <;> rfl

theorem Rebooked.borrowFactorF_eq (h : Reserves.Rebooked rs rs') :
    rs'.borrowFactorF group k = rs.borrowFactorF group k := by
  have hk := h k
  unfold borrowFactorF
  generalize rs k = a at hk ⊢
  generalize rs' k = b at hk ⊢
  cases hk with
  | none => rfl
  | some hab =>
    obtain ⟨_, _, _, _, _, rfl⟩ := hab
    rfl

theorem Rebooked.freshAt {slot : U64} {checks : PriceStatusFlags} (h : Reserves.Rebooked rs rs')
    (hfresh : rs.FreshAt slot checks k) : rs'.FreshAt slot checks k := by
  rcases hfresh with ⟨r, hr, hstatus⟩
  rcases KeyedMap.Related.value h hr with ⟨r', hr', _, _, _, _, _, rfl⟩
  exact ⟨_, hr', hstatus⟩

end Reserves

theorem Reserve.one_le_borrowFactorF (r : Reserve) (inGroup : Bool) :
    Fraction.one ≤ r.borrowFactorF inGroup := by
  unfold Reserve.borrowFactorF
  split
  · exact le_rfl
  · exact le_max_left _ _

theorem PriceStatusFlags.contains_of_intersection {a b p : PriceStatusFlags}
    (h : (a.intersection b).contains p) : a.contains p ∧ b.contains p := by
  unfold contains intersection at *
  have hbit := fun i : ℕ ↦ congrArg (BitVec.getLsbD · i) h
  simp only [BitVec.getLsbD_and] at hbit
  constructor
  · apply BitVec.eq_of_getLsbD_eq
    intro i _
    have := hbit i
    rw [BitVec.getLsbD_and]
    cases ha : a.bits.getLsbD i <;> simp_all
  · apply BitVec.eq_of_getLsbD_eq
    intro i _
    have := hbit i
    rw [BitVec.getLsbD_and]
    cases hb : b.bits.getLsbD i <;> simp_all

/-- The liquidation thresholds of the collaterals that are worth enough to be counted. -/
def countedThresholds (market : LendingMarket) (rs : Reserves) (group : Option ElevationGroup)
    (ds : List ObligationCollateral) : Set U8 :=
  SlotTable.countedValues (fun d : ObligationCollateral ↦ d.depositReserve ≠ 0 ∧
      Fraction.fromNum market.minValueSkipLiquidationLtvChecks ≤ d.marketValueSf)
    (fun d ↦ rs.liquidationThreshold group d.depositReserve) ds

/-- The borrow factors of the debts that are worth enough to be counted. -/
def countedFactors (market : LendingMarket) (rs : Reserves) (group : Option ElevationGroup)
    (bs : List ObligationLiquidity) : Set Fraction :=
  SlotTable.countedValues (fun b : ObligationLiquidity ↦ b.borrowReserve ≠ 0 ∧
      Fraction.fromNum market.minValueSkipLiquidationBfChecks ≤ b.marketValueSf)
    (fun b ↦ rs.borrowFactorF group b.borrowReserve) bs

section Counted

variable {market : LendingMarket} {rs : Reserves} {group : Option ElevationGroup}
  {ds : List ObligationCollateral} {d : ObligationCollateral} {bs : List ObligationLiquidity}
  {b : ObligationLiquidity}

theorem countedThresholds_concat {t : U8} (hne : d.depositReserve ≠ 0)
    (hvalue : Fraction.fromNum market.minValueSkipLiquidationLtvChecks ≤ d.marketValueSf)
    (ht : rs.liquidationThreshold group d.depositReserve = some t) :
    countedThresholds market rs group (ds ++ [d]) =
      insert t (countedThresholds market rs group ds) :=
  SlotTable.countedValues_concat ⟨hne, hvalue⟩ ht

theorem countedThresholds_concat_of_not (h : ∀ t, d.depositReserve ≠ 0 →
    Fraction.fromNum market.minValueSkipLiquidationLtvChecks ≤ d.marketValueSf →
    rs.liquidationThreshold group d.depositReserve ≠ some t) :
    countedThresholds market rs group (ds ++ [d]) = countedThresholds market rs group ds :=
  SlotTable.countedValues_concat_of_not fun t hcounts ↦ h t hcounts.1 hcounts.2

theorem countedFactors_concat {f : Fraction} (hne : b.borrowReserve ≠ 0)
    (hvalue : Fraction.fromNum market.minValueSkipLiquidationBfChecks ≤ b.marketValueSf)
    (hf : rs.borrowFactorF group b.borrowReserve = some f) :
    countedFactors market rs group (bs ++ [b]) = insert f (countedFactors market rs group bs) :=
  SlotTable.countedValues_concat ⟨hne, hvalue⟩ hf

theorem countedFactors_concat_of_not (h : b.borrowReserve ≠ 0 →
    ¬ Fraction.fromNum market.minValueSkipLiquidationBfChecks ≤ b.marketValueSf) :
    countedFactors market rs group (bs ++ [b]) = countedFactors market rs group bs :=
  SlotTable.countedValues_concat_of_not fun _ hcounts ↦ absurd hcounts.2 (h hcounts.1)

theorem Reserves.Rebooked.countedThresholds_eq {rs' : Reserves} (h : Reserves.Rebooked rs rs') :
    countedThresholds market rs' group ds = countedThresholds market rs group ds := by
  unfold countedThresholds
  congr 1
  funext d
  exact h.liquidationThreshold_eq

theorem Reserves.Rebooked.countedFactors_eq {rs' : Reserves} (h : Reserves.Rebooked rs rs') :
    countedFactors market rs' group bs = countedFactors market rs group bs := by
  unfold countedFactors
  congr 1
  funext b
  exact h.borrowFactorF_eq

end Counted

section Refresh

variable {market : LendingMarket} {slot : U64} {group : Option ElevationGroup} {o o' : Obligation}
  {rs rs' : Reserves} {iter iter' : List Pubkey} {states states' : ReferrerTokenStates}
  {stateKeys : List ReferrerTokenStateKey} {check : MaxReservesAsCollateralCheck}

theorem refreshObligationDeposits_lowest {debt : Option U64}
    {deposits : RefreshObligationDepositsResult}
    (h : refreshObligationDeposits o market slot check group rs iter debt =
      .ok (o', rs', deposits)) :
    IsLeast (insert (Word.max 8) (countedThresholds market rs group o'.deposits))
      deposits.lowestDepositLiquidationLtvThresholdPct := by
  obtain ⟨-, s, slots, hloop, rfl, rfl, -, -, -, hlowest, -⟩ := refreshObligationDeposits_spec h
  rw [hlowest]
  refine (forOccupied_induct (P := fun l (s : DepositsPass) ↦ Reserves.Rebooked rs s.reserves ∧
    IsLeast (insert (Word.max 8) (countedThresholds market rs group l))
      s.lowestDepositLiquidationLtvThresholdPct) ⟨.refl rs, ?_⟩ ?free ?step hloop).2
  · simp [countedThresholds, SlotTable.countedValues]
  case free =>
    rintro l s d - hfree ⟨hbook, hleast⟩
    have hkey : d.depositReserve = 0 := by simpa [ObligationCollateral.occupied] using hfree
    refine ⟨hbook, ?_⟩
    rwa [countedThresholds_concat_of_not fun _ hne ↦ absurd hkey hne]
  case step =>
    rintro l s d k s' d' - - hbody ⟨hbook, hleast⟩
    obtain ⟨r, r', -, hne, hr, hretrack, hstore, hkey', -⟩ := refreshDeposit_slot hbody
    obtain ⟨r₁, r₂, d₁, mv, al, un, -, hr₁, -, -, -, -, -, -, -, -, -, -, hstore', hd', -, hlow, -⟩ :=
      refreshDeposit_spec hbody
    have hbook' : Reserves.Rebooked rs s'.reserves :=
      hstore ▸ hbook.trans (.store hr hretrack.rebooked)
    have hthreshold : rs.liquidationThreshold group d'.depositReserve =
        (some (getMaxLtvAndLiquidationThreshold r₂ group).2).filter (0 < ·) := by
      rw [← hbook'.liquidationThreshold_eq, hkey', hstore', Reserves.liquidationThreshold,
        Reserves.store_same, Option.map_some]
    refine ⟨hbook', ?_⟩
    have hvalue : d'.marketValueSf = mv := by rw [hd']
    rw [hlow]
    split
    · next hcounted =>
      rw [countedThresholds_concat (hkey' ▸ hne) (hvalue ▸ hcounted.1)
        (hthreshold.trans (Option.filter_eq_some_iff.2 ⟨rfl, decide_eq_true hcounted.2⟩)),
        Set.insert_comm, min_comm]
      exact hleast.insert _
    · next hskipped =>
      rw [countedThresholds_concat_of_not]
      · exact hleast
      · intro t _ hcounts ht
        rw [hthreshold, Option.filter_eq_some_iff, decide_eq_true_eq] at ht
        obtain rfl := Option.some.inj ht.1
        exact hskipped ⟨hvalue ▸ hcounts, ht.2⟩

theorem refreshObligationDeposits_fresh {debt : Option U64} {checks : PriceStatusFlags}
    {deposits : RefreshObligationDepositsResult}
    (h : refreshObligationDeposits o market slot check group rs iter debt =
      .ok (o', rs', deposits)) (hchecks : deposits.pricesState.contains checks) :
    ∀ d ∈ o'.deposits, d.depositReserve ≠ 0 → rs'.FreshAt slot checks d.depositReserve := by
  have hretracked := (refreshObligationDeposits_frame h).1
  obtain ⟨-, s, slots, hloop, rfl, rfl, -, -, -, -, -, hprices⟩ := refreshObligationDeposits_spec h
  rw [hprices] at hchecks
  have hinv := forOccupied_induct (P := fun l (s : DepositsPass) ↦
    Reserves.Rebooked rs s.reserves ∧ (s.pricesState.contains checks → ∀ d ∈ l,
      d.depositReserve ≠ 0 → rs.FreshAt slot checks d.depositReserve))
    ⟨.refl rs, fun _ d hd ↦ absurd hd List.not_mem_nil⟩ ?free ?step hloop
  · exact fun d hd hne ↦ hretracked.rebooked.freshAt (hinv.2 hchecks d hd hne)
  case free =>
    rintro l s d - hfree ⟨hbook, hfresh⟩
    have hkey : d.depositReserve = 0 := by simpa [ObligationCollateral.occupied] using hfree
    refine ⟨hbook, fun hs e he hne ↦ ?_⟩
    rcases List.mem_append.1 he with he | he
    · exact hfresh hs e he hne
    · exact absurd (List.mem_singleton.1 he ▸ hkey) hne
  case step =>
    rintro l s d k s' d' - - hbody ⟨hbook, hfresh⟩
    obtain ⟨r, r', -, -, hr, hretrack, hstore, hkey', -⟩ := refreshDeposit_slot hbody
    obtain ⟨r₁, r₂, d₁, mv, al, un, -, hr₁, -, hslot, -, htrack, -, -, -, -, -, -, -, -, -, -, -,
      hstatus⟩ := refreshDeposit_spec hbody
    refine ⟨hstore ▸ hbook.trans (.store hr hretrack.rebooked), fun hs e he hne ↦ ?_⟩
    rw [hstatus] at hs
    obtain ⟨hs₁, hs₂⟩ := PriceStatusFlags.contains_of_intersection hs
    rcases List.mem_append.1 he with he | he
    · exact hfresh hs₁ e he hne
    · rw [List.mem_singleton.1 he, hkey']
      obtain ⟨outside, groups, rfl⟩ := trackRefreshedDeposit_retracked htrack
      obtain ⟨r₀, hr₀, _, _, _, _, _, rfl⟩ := hbook.value_rev hr₁
      exact ⟨r₀, hr₀, hslot.1, hslot.2, hs₂⟩

theorem refreshObligationBorrows_highest {borrows : RefreshObligationBorrowsResult}
    (h : refreshObligationBorrows o market slot group rs iter states stateKeys =
      .ok (o', rs', states', borrows)) :
    ∃ highest, IsGreatest (insert Fraction.one (countedFactors market rs group o'.borrows))
      highest ∧ highest.toPercent 64 = .ok (some borrows.highestBorrowFactorPct) := by
  obtain ⟨s, slots, hloop, -, rfl, rfl, -, -, -, -, hpct, -⟩ := refreshObligationBorrows_spec h
  refine ⟨_, (forOccupied_induct (P := fun l (s : BorrowsPass) ↦ Reserves.Rebooked rs s.reserves ∧
    IsGreatest (insert Fraction.one (countedFactors market rs group l)) s.highestBorrowFactorF)
    ⟨.refl rs, ?_⟩ ?free ?step hloop).2, hpct⟩
  · simp [countedFactors, SlotTable.countedValues]
  case free =>
    rintro l s b - hfree ⟨hbook, hgreatest⟩
    have hkey : b.borrowReserve = 0 := by simpa [ObligationLiquidity.occupied] using hfree
    refine ⟨hbook, ?_⟩
    rwa [countedFactors_concat_of_not fun hne ↦ absurd hkey hne]
  case step =>
    rintro l s b k s' b' - - hbody ⟨hbook, hgreatest⟩
    obtain ⟨r, r', -, hne, hr, hrebook, hstore, -, hkey', -⟩ := refreshBorrow_slot hbody
    obtain ⟨r₁, b₁, n, r₂, b₂, slots, r₃, mv, bfmv, -, -, -, -, -, -, -, -, -, -, -, -, -, -, -,
      hstore', -, hb', -, -, hhigh, -⟩ := refreshBorrow_spec hbody
    have hbook' : Reserves.Rebooked rs s'.reserves := hstore ▸ hbook.trans (.store hr hrebook)
    have hfactor : rs.borrowFactorF group b'.borrowReserve =
        some (r₃.borrowFactorF group.isSome) := by
      rw [← hbook'.borrowFactorF_eq, hkey', hstore', Reserves.borrowFactorF,
        Reserves.store_same, Option.map_some]
    refine ⟨hbook', ?_⟩
    have hvalue : b'.marketValueSf = mv := by rw [hb']
    rw [hhigh]
    split
    · next hcounted =>
      rw [countedFactors_concat (hkey' ▸ hne) (hvalue ▸ hcounted) hfactor, Set.insert_comm,
        max_comm]
      exact hgreatest.insert _
    · next hskipped =>
      rw [countedFactors_concat_of_not fun _ ↦ hvalue ▸ hskipped]
      exact hgreatest

/-- Every debt's reserve passed the price checks that the debts passed together, and no debt is
adjusted below its value. -/
theorem refreshObligationBorrows_fresh {borrows : RefreshObligationBorrowsResult}
    {checks : PriceStatusFlags}
    (h : refreshObligationBorrows o market slot group rs iter states stateKeys =
      .ok (o', rs', states', borrows)) (hchecks : borrows.pricesState.contains checks) :
    ∀ b ∈ o'.borrows, b.borrowReserve ≠ 0 → rs'.FreshAt slot checks b.borrowReserve ∧
      b.marketValueSf ≤ b.borrowFactorAdjustedMarketValueSf := by
  have hrebooked := (refreshObligationBorrows_frame h).1
  obtain ⟨s, slots, hloop, -, rfl, rfl, -, -, -, -, -, hprices⟩ := refreshObligationBorrows_spec h
  rw [hprices] at hchecks
  have hinv := forOccupied_induct (P := fun l (s : BorrowsPass) ↦
    Reserves.Rebooked rs s.reserves ∧ (s.pricesState.contains checks → ∀ b ∈ l,
      b.borrowReserve ≠ 0 → rs.FreshAt slot checks b.borrowReserve ∧
        b.marketValueSf ≤ b.borrowFactorAdjustedMarketValueSf))
    ⟨.refl rs, fun _ d hd ↦ absurd hd List.not_mem_nil⟩ ?free ?step hloop
  · intro b hb hne
    obtain ⟨hfresh, hadjusted⟩ := hinv.2 hchecks b hb hne
    exact ⟨hrebooked.freshAt hfresh, hadjusted⟩
  case free =>
    rintro l s b - hfree ⟨hbook, hfresh⟩
    have hkey : b.borrowReserve = 0 := by simpa [ObligationLiquidity.occupied] using hfree
    refine ⟨hbook, fun hs e he hne ↦ ?_⟩
    rcases List.mem_append.1 he with he | he
    · exact hfresh hs e he hne
    · exact absurd (List.mem_singleton.1 he ▸ hkey) hne
  case step =>
    rintro l s b k s' b' - - hbody ⟨hbook, hfresh⟩
    obtain ⟨r, r', -, -, hr, hrebook, hstore, -, hkey', -⟩ := refreshBorrow_slot hbody
    obtain ⟨r₁, b₁, n, r₂, b₂, slots, r₃, mv, bfmv, -, hr₁, -, hslot, -, -, -, -, htrack, -, hfees,
      -, -, hbfmv, -, -, -, hb', -, -, -, hstatus⟩ := refreshBorrow_spec hbody
    refine ⟨hstore ▸ hbook.trans (.store hr hrebook), fun hs e he hne ↦ ?_⟩
    rw [hstatus] at hs
    obtain ⟨hs₁, hs₂⟩ := PriceStatusFlags.contains_of_intersection hs
    rcases List.mem_append.1 he with he | he
    · exact hfresh hs₁ e he hne
    · rw [List.mem_singleton.1 he, hkey']
      constructor
      · obtain ⟨_, _, _, _, _, rfl⟩ := (trackRefreshedBorrow_retracked htrack).rebooked.trans
          (accumulateReferrerFees_rebooked hfees)
        obtain ⟨r₀, hr₀, _, _, _, _, _, rfl⟩ := hbook.value_rev hr₁
        exact ⟨r₀, hr₀, hslot.1, hslot.2, hs₂⟩
      · rw [Fraction.mul_eq_ok] at hbfmv
        have hone := Reserve.one_le_borrowFactorF r₃ group.isSome
        rw [hb']
        show mv.bits ≤ bfmv.bits
        rw [hbfmv, Nat.le_div_iff_mul_le (by positivity)]
        exact Nat.mul_le_mul_left _ hone

/-- The extremes that the priority checks compare with. -/
structure Obligation.Prioritised (market : LendingMarket) (rs : Reserves)
    (group : Option ElevationGroup) (o : Obligation) : Prop where
  lowest : ∃ low : U8, IsLeast (insert (Word.max 8) (countedThresholds market rs group o.deposits))
    low ∧ o.lowestReserveDepositLiquidationLtv = low.widen
  highest : ∃ high : Fraction, IsGreatest (insert Fraction.one
    (countedFactors market rs group o.borrows)) high ∧
    high.toPercent 64 = .ok (some o.highestBorrowFactorPct)

/-- What the checks on a pair find in an obligation and its reserves that passed price checks. -/
structure Obligation.FreshWith (rs : Reserves) (slot : U64) (checks : PriceStatusFlags)
    (o : Obligation) : Prop where
  deposits : ∀ d ∈ o.deposits, d.depositReserve ≠ 0 → rs.FreshAt slot checks d.depositReserve
  borrows : ∀ b ∈ o.borrows, b.borrowReserve ≠ 0 → rs.FreshAt slot checks b.borrowReserve ∧
    b.marketValueSf ≤ b.borrowFactorAdjustedMarketValueSf

theorem refreshObligation_prioritised
    (h : refreshObligation o market slot check rs iter iter' states stateKeys =
      .ok (o', rs', states')) (hgroup : getElevationGroup o'.elevationGroup market = .ok group) :
    o'.Prioritised market rs' group := by
  obtain ⟨group', o₁, rs₁, borrows, o₂, deposits, hg, hb, hd, rfl⟩ := refreshObligation_spec h
  obtain ⟨hbook₁, -, hframe₁⟩ := refreshObligationBorrows_frame hb
  obtain ⟨hbook₂, -, hframe₂⟩ := refreshObligationDeposits_frame hd
  have hsame : o₂.elevationGroup = o.elevationGroup := by rw [hframe₂, hframe₁]
  have hborrows : o₂.borrows = o₁.borrows := by rw [hframe₂]
  obtain rfl : group' = group := by
    rw [← hsame] at hg
    exact Except.ok.inj (hg.symm.trans hgroup)
  constructor
  · refine ⟨_, ?_, rfl⟩
    show IsLeast (insert _ (countedThresholds market rs' group' o₂.deposits)) _
    rw [hbook₂.rebooked.countedThresholds_eq]
    exact refreshObligationDeposits_lowest hd
  · obtain ⟨high, hhigh, hpct⟩ := refreshObligationBorrows_highest hb
    refine ⟨high, ?_, hpct⟩
    show IsGreatest (insert _ (countedFactors market rs' group' o₂.borrows)) high
    rw [(hbook₁.trans hbook₂.rebooked).countedFactors_eq, hborrows]
    exact hhigh

theorem refreshObligation_freshWith {checks : PriceStatusFlags}
    (h : refreshObligation o market slot check rs iter iter' states stateKeys =
      .ok (o', rs', states')) (hchecks : o'.lastUpdate.priceStatus.contains checks) :
    o'.FreshWith rs' slot checks := by
  obtain ⟨group, o₁, rs₁, borrows, o₂, deposits, -, hb, hd, rfl⟩ := refreshObligation_spec h
  obtain ⟨hbook, -, hframe⟩ := refreshObligationDeposits_frame hd
  have hborrows : o₂.borrows = o₁.borrows := by rw [hframe]
  obtain ⟨hchecks₁, hchecks₂⟩ := PriceStatusFlags.contains_of_intersection hchecks
  constructor
  · exact fun d hmem hne ↦ refreshObligationDeposits_fresh hd hchecks₁ d hmem hne
  · intro b hmem hne
    obtain ⟨hfresh, hadjusted⟩ := refreshObligationBorrows_fresh hb hchecks₂ b (hborrows ▸ hmem) hne
    exact ⟨hbook.rebooked.freshAt hfresh, hadjusted⟩

end Refresh

end Klend
