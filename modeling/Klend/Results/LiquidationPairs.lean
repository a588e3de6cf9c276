import Klend.Positions.LiquidationPairs
import Klend.Results.Isolation
import Klend.Results.LiquidationBounds
import Klend.Results.ObligationFreshness

/-! # Which obligations can be liquidated

After a refresh some pair of slots passes the checks of a liquidation, unless all the
slots that go first are worth nothing.
-/

namespace Klend.World

variable {w₀ w w' : World} {clock : Clock} {ix : Instruction} {o : Obligation} {index : ℕ}
  {remaining : List Pubkey} {states : List ReferrerTokenStateKey} {group : Option ElevationGroup}
  {amount : U64}

/-- Every reserve's configuration passes the validator. -/
def Validated (w : World) : Prop :=
  ∀ k r, w.reserves k = some r → validateReserveConfig r.config w.lendingMarket k = .ok ()

/-- The validator's bound on the borrow factor, in every reserve. -/
def FactorsBounded (w : World) : Prop :=
  ∀ k r, w.reserves k = some r → 100 ≤ r.config.borrowFactorPct

theorem Validated.factorsBounded (h : w.Validated) : w.FactorsBounded := by
  intro k r hr
  have hconfig := h k r hr
  simp only [validateReserveConfig, bind_eq_ok, require_eq_ok] at hconfig
  obtain ⟨-, -, -, -, -, -, -, -, -, -, -, -, -, -, -, -, -, -, -, -, -, -, -, hfactor, -⟩ := hconfig
  exact hfactor

theorem process_factorsBounded (h : w.process clock ix = .ok w') (hw : w.FactorsBounded) :
    w'.FactorsBounded := by
  intro k r' hr'
  rcases (process_evolve h).value_rev hr' with ⟨r, hr, hev⟩
  rw [hev.settings]
  exact hw k r hr

theorem Run.factorsBounded {Admitted : World → Clock → Instruction → Prop}
    (h : Run Admitted w₀ w) (hw : w₀.FactorsBounded) : w.FactorsBounded :=
  Transition.Preserves.run (P := FactorsBounded)
    (fun _ _ hw ⟨_, _, _, hproc⟩ ↦ process_factorsBounded hproc hw) hw h

theorem refreshObligation_at (h : w.process clock (.refreshObligation index remaining states) =
    .ok w') (ho : w'.obligations[index]? = some o) :
    ∃ o₀ ds bs, o₀ ∈ w.obligations ∧
      Klend.refreshObligation o₀ w'.lendingMarket clock.slot .perform w.reserves ds bs
        w.referrerTokenStates states = .ok (o, w'.reserves, w'.referrerTokenStates) := by
  obtain ⟨o₀, ds, bs, o', rs, sts, ho₀, hop, rfl⟩ := World.refreshObligation_spec h
  obtain ⟨ho₀, -⟩ := loadObligation_eq_ok.1 ho₀
  have hlt := (List.getElem?_eq_some_iff.1 ho₀).1
  obtain rfl : o' = o := by
    change (w.obligations.set index o')[index]? = some o at ho
    rw [List.getElem?_set_self hlt] at ho
    exact Option.some.inj ho
  exact ⟨o₀, ds, bs, List.mem_of_getElem? ho₀, hop⟩

/-- After a refresh of a reachable obligation with a debt and a collateral of some value, a pair of
its slots passes the checks of a liquidation exactly if it passed the price checks and, where values
of zero count, no worthless slot goes before all the others. -/
theorem admissiblePair_iff (h₀ : w₀.Genesis) (hvalid : w₀.Validated) (hrun : Run Anything w₀ w)
    (href : w.process clock (.refreshObligation index remaining states) = .ok w')
    (ho : w'.obligations[index]? = some o)
    (hgroup : getElevationGroup o.elevationGroup w'.lendingMarket = .ok group)
    (howes : o.borrowFactorAdjustedDebtValueSf ≠ Fraction.zero)
    (hholds : ∃ d ∈ o.deposits, d.marketValueSf ≠ Fraction.zero ∧
      (w'.reserves.liquidationThreshold group d.depositReserve).isSome)
    (hamount : amount ≠ 0) :
    (∃ d ∈ o.deposits, ∃ b ∈ o.borrows, checkLiquidationPair w'.lendingMarket b.borrowReserve
      d.depositReserve o clock.slot amount w'.reserves = .ok ()) ↔
      o.lastUpdate.priceStatus.contains .liquidationChecks ∧
      o.CollateralMatched w'.lendingMarket w'.reserves group ∧
      o.DebtMatched w'.lendingMarket w'.reserves group := by
  have hwf := (hrun.upToDate h₀.upToDate).toWellFormed
  have hfactors := process_factorsBounded href (hrun.factorsBounded hvalid.factorsBounded)
  obtain ⟨o₀, ds, bs, ho₀, hop⟩ := refreshObligation_at href ho
  by_cases hchecks : o.lastUpdate.priceStatus.contains .liquidationChecks
  · have hrefreshed := refreshObligation_refreshed (hwf.obligations o₀ ho₀) hwf.tiers hop hgroup
      hchecks
    have hprior := refreshObligation_prioritised hop hgroup
    have howed : ∃ b ∈ o.borrows, b.borrowFactorAdjustedMarketValueSf ≠ Fraction.zero := by
      by_contra! hzero
      apply howes
      ext
      rw [hrefreshed.sums.adjusted, Fraction.bits_zero]
      exact List.sum_eq_zero_iff.2 (by simpa using fun b hb ↦ congrArg Fraction.bits (hzero b hb))
    rw [and_iff_right hchecks, ← exists_collateralFirst_iff hprior hholds,
      ← exists_debtFirst_iff hprior hrefreshed hfactors howed]
    constructor
    · rintro ⟨d, hd, b, hb, hpair⟩
      obtain ⟨hfirst, hfirst'⟩ := (checkLiquidationPair_eq_ok hrefreshed hd hb hamount).1 hpair
      exact ⟨⟨d, hd, hfirst⟩, b, hb, hfirst'⟩
    · rintro ⟨⟨d, hd, hfirst⟩, b, hb, hfirst'⟩
      exact ⟨d, hd, b, hb, (checkLiquidationPair_eq_ok hrefreshed hd hb hamount).2
        ⟨hfirst, hfirst'⟩⟩
  · constructor
    · rintro ⟨d, -, b, -, hpair⟩
      exact absurd (checkLiquidationPair_fresh hpair).2 hchecks
    · exact fun h ↦ absurd h.1 hchecks

theorem opening_validated {market : LendingMarket} {pk : Pubkey}
    {reserves : List (Pubkey × Reserve)}
    (h : ∀ p ∈ reserves, validateReserveConfig p.2.config market p.1 = .ok ()) :
    (opening market pk reserves).Validated := by
  intro k r hr
  obtain ⟨l₁, l₂, hl, -⟩ := List.lookup_eq_some_iff.1 hr
  exact h (k, r) (by rw [hl]; simp)

theorem exists_process_at (w : World) (clock : Clock) (ix : Instruction) (index : ℕ)
    {p : World → Obligation → Prop} [∀ w o, Decidable (p w o)]
    (h : (w.process clock ix).toOption.any (fun w' ↦ w'.obligations[index]?.any (p w' ·)) = true) :
    ∃ w' o, w.process clock ix = .ok w' ∧ w'.obligations[index]? = some o ∧ p w' o := by
  rcases exists_eq_ok h with ⟨w', hproc, hany⟩
  rcases (Option.any_eq_true _ _).1 hany with ⟨o, ho, hp⟩
  exact ⟨w', o, hproc, ho, of_decide_eq_true hp⟩

/-- The loan at 85% of its collateral, before the obligation is refreshed. -/
def risenLoan : World :=
  plainMarket.after (plainLoan ++ [(⟨3, 10⟩, .refreshReserve 5 risenPrice),
    (⟨3, 10⟩, .refreshReserve 6 unitPrice)])

/-- The only collateral and the only debt are matched. -/
theorem admissiblePair_iff_risenLoan :
    ∃ w' o, risenLoan.process ⟨3, 10⟩ (.refreshObligation 0 [6, 5] []) = .ok w' ∧
      w'.obligations[0]? = some o ∧ o.CollateralMatched w'.lendingMarket w'.reserves none ∧
      o.DebtMatched w'.lendingMarket w'.reserves none := by
  obtain ⟨w', o, hproc, ho, hgroup, howes, hholds, hpair⟩ := exists_process_at risenLoan ⟨3, 10⟩
    (.refreshObligation 0 [6, 5] []) 0
    (p := fun w' o ↦ getElevationGroup o.elevationGroup w'.lendingMarket = .ok none ∧
      o.borrowFactorAdjustedDebtValueSf ≠ Fraction.zero ∧
      (∃ d ∈ o.deposits, d.marketValueSf ≠ Fraction.zero ∧
        (w'.reserves.liquidationThreshold none d.depositReserve).isSome) ∧
      ∃ d ∈ o.deposits, ∃ b ∈ o.borrows, checkLiquidationPair w'.lendingMarket b.borrowReserve
        d.depositReserve o 3 1000 w'.reserves = .ok ()) (by decide)
  have hvalid : plainMarket.Validated := opening_validated (by
    simp only [List.mem_cons, List.not_mem_nil, or_false, forall_eq_or_imp, forall_eq]
    exact ⟨plainConfig_validated _ _, plainConfig_validated _ _⟩)
  have hmatched := (admissiblePair_iff plainMarket_genesis hvalid
    (run_after _ _ fun _ _ _ ↦ trivial) hproc ho hgroup howes hholds (by decide)).1 hpair
  exact ⟨w', o, hproc, ho, hmatched.2⟩

/-- A market with a token of 18 decimals that is liquidated early. -/
def dustMarket : World :=
  opening .init 1 [(5, plainReserve (plainConfig 500)), (6, plainReserve (plainConfig 500)),
    (7, { Reserve.init 0 1 1 18 1000000 with config := cautiousConfig })]

theorem dustMarket_genesis : dustMarket.Genesis := by
  apply opening_genesis LendingMarket.init_validated
  simp only [List.mem_cons, List.not_mem_nil, or_false, forall_eq_or_imp, forall_eq]
  refine ⟨plainReserve_isNew (plainConfig_validated _ _),
    plainReserve_isNew (plainConfig_validated _ _), ?_⟩
  exact ⟨⟨0, 1, 1, 18, 1000000, by decide, rfl⟩, .inr rfl⟩

/-- A loan as before, with one unit of the third token as a second collateral. -/
def dustCollateral : List (Clock × Instruction) :=
  [(⟨1, 10⟩, .refreshReserve 5 unitPrice), (⟨1, 10⟩, .refreshReserve 6 unitPrice),
    (⟨1, 10⟩, .refreshReserve 7 halfPrice), (⟨1, 10⟩, .depositReserveLiquidity 6 1000000),
    (⟨1, 10⟩, .depositReserveLiquidity 7 1000000), (⟨1, 10⟩, .initObligation 0 7 0),
    (⟨1, 10⟩, .refreshObligation 0 [] []), (⟨1, 10⟩, .depositObligationCollateral 0 6 1000000),
    (⟨1, 10⟩, .refreshReserve 6 unitPrice), (⟨1, 10⟩, .refreshObligation 0 [6] []),
    (⟨1, 10⟩, .depositObligationCollateral 0 7 1),
    (⟨2, 10⟩, .refreshReserve 5 unitPrice), (⟨2, 10⟩, .refreshReserve 6 unitPrice),
    (⟨2, 10⟩, .refreshReserve 7 halfPrice), (⟨2, 10⟩, .refreshObligation 0 [6, 7] []),
    (⟨2, 10⟩, .borrowObligationLiquidity 0 5 500000 none []),
    (⟨3, 10⟩, .refreshReserve 5 risenPrice), (⟨3, 10⟩, .refreshReserve 6 unitPrice),
    (⟨3, 10⟩, .refreshReserve 7 halfPrice)]

/-- The unit of the third token has the lowest threshold and no value. -/
theorem dustCollateral_locked :
    dustMarket.Genesis ∧ dustMarket.Validated ∧
    Run Anything dustMarket (dustMarket.after dustCollateral) ∧
    ∃ w' o, (dustMarket.after dustCollateral).process ⟨3, 10⟩ (.refreshObligation 0 [6, 7, 5] []) =
        .ok w' ∧ w'.obligations[0]? = some o ∧
      (∃ ltv unhealthy, o.loanToValue = .ok ltv ∧ o.unhealthyLoanToValue = .ok unhealthy ∧
        unhealthy ≤ ltv) ∧
      o.lastUpdate.priceStatus.contains .allChecks ∧
      o.borrowFactorAdjustedDebtValueSf ≠ Fraction.zero ∧
      (∃ d ∈ o.deposits, d.marketValueSf ≠ Fraction.zero ∧
        (w'.reserves.liquidationThreshold none d.depositReserve).isSome) ∧
      ∀ d ∈ o.deposits, ∀ b ∈ o.borrows, ∀ amount, checkLiquidationPair w'.lendingMarket
        b.borrowReserve d.depositReserve o 3 amount w'.reserves ≠ .ok () := by
  have hrun : Run Anything dustMarket (dustMarket.after dustCollateral) :=
    run_after _ _ fun _ _ _ ↦ trivial
  obtain ⟨w', o, hproc, ho, hgroup, hltv, hchecks, hchecks', howes, hholds, hlast⟩ :=
    exists_process_at (dustMarket.after dustCollateral) ⟨3, 10⟩
      (.refreshObligation 0 [6, 7, 5] []) 0
      (p := fun w' o ↦ getElevationGroup o.elevationGroup w'.lendingMarket = .ok none ∧
        (o.loanToValue.toOption.any fun ltv ↦ o.unhealthyLoanToValue.toOption.any (· ≤ ltv)) ∧
        o.lastUpdate.priceStatus.contains .allChecks ∧
        o.lastUpdate.priceStatus.contains .liquidationChecks ∧
        o.borrowFactorAdjustedDebtValueSf ≠ Fraction.zero ∧
        (∃ d ∈ o.deposits, d.marketValueSf ≠ Fraction.zero ∧
          (w'.reserves.liquidationThreshold none d.depositReserve).isSome) ∧
        ∀ d ∈ o.deposits, d.marketValueSf ≠ Fraction.zero →
          (w'.reserves.liquidationThreshold none d.depositReserve).all fun t : U8 ↦
            o.lowestReserveDepositLiquidationLtv < (t.widen : U64)) (by decide)
  rcases exists_eq_ok hltv with ⟨ltv, hltv, hunhealthy⟩
  rcases exists_eq_ok hunhealthy with ⟨unhealthy, hunhealthy, hle⟩
  refine ⟨dustMarket_genesis, ?_, hrun, w', o, hproc, ho, ⟨ltv, unhealthy, hltv, hunhealthy,
    of_decide_eq_true hle⟩, hchecks, howes, hholds, fun d hd b hb amount hpair ↦ ?_⟩
  · apply opening_validated
    simp only [List.mem_cons, List.not_mem_nil, or_false, forall_eq_or_imp, forall_eq]
    exact ⟨plainConfig_validated _ _, plainConfig_validated _ _, rfl⟩
  · have hwf := (hrun.upToDate dustMarket_genesis.upToDate).toWellFormed
    obtain ⟨o₀, ds, bs, ho₀, hop⟩ := refreshObligation_at hproc ho
    have hrefreshed := refreshObligation_refreshed (hwf.obligations o₀ ho₀) hwf.tiers hop hgroup
      hchecks'
    obtain ⟨⟨hvalue, t, ht, hle⟩, -⟩ :=
      (checkLiquidationPair_eq_ok hrefreshed hd hb (checkLiquidationPair_fresh hpair).1).1 hpair
    have hlt := hlast d hd hvalue
    rw [ht, Option.all_some, decide_eq_true_eq] at hlt
    exact absurd hle hlt.not_ge

end Klend.World
