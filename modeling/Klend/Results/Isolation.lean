import Klend.Lending.Runs
import Klend.Positions.IsolationSteps
import Klend.Results.ObligationSlots

/-! # Isolation in reachable states

The asset tiers of every reachable obligation are valid. Outside elevation groups no
debt stands beside collateral disabled there, as long as no such collateral is
deposited while the debt is valued at nothing: the deposit asks for the value of the
debt where the borrow and the change of group ask for the debt itself.
-/

namespace Klend.World

variable {w₀ w w' : World} {clock : Clock} {ix : Instruction}

theorem process_usable (h : w.process clock ix = .ok w') (hw : w.Isolated)
    (hcond : w.DebtsValued clock ix) (husable : w.CollateralUsable) : w'.CollateralUsable := by
  intro o ho hgroup howes hheld
  have hwf := (process_wellFormed h hw.toWellFormed).obligations o ho
  have hheld₀ := holdsDisabled_process h hheld
  rcases process_obligations h with ⟨-, heq⟩ | ⟨-, -, tag, owner, referrer, heq⟩ |
    ⟨index, o₁, o', -, ho₁, heq, hch⟩
  · rw [heq] at ho
    exact husable o ho hgroup howes hheld₀
  · rw [heq, List.mem_append, List.mem_singleton] at ho
    rcases ho with ho | rfl
    · exact husable o ho hgroup howes hheld₀
    · rcases hheld with ⟨d, hd, hne, -⟩
      obtain rfl := List.eq_of_mem_replicate hd
      exact hne rfl
  · rw [heq] at ho
    rcases List.mem_or_eq_of_mem_set ho with ho | rfl
    · exact husable o ho hgroup howes hheld₀
    · have hmem := List.mem_of_getElem? ho₁
      exact hch.usable hcond ho₁ (hw.obligations o₁ hmem) hwf (hw.tiersOf o₁ hmem)
        (hw.flagRight o₁ hmem) (husable o₁ hmem) hgroup howes hheld₀

theorem debtsValued_of_usable (h : w.process clock ix = .ok w') (hw : w.Isolated)
    (husable : w'.CollateralUsable) : w.DebtsValued clock ix := by
  cases ix with
  | depositObligationCollateral index key amount =>
    intro o ho hgroup hdisabled howes hzero
    rcases process_obligations h with ⟨hnone, -⟩ | ⟨hnone, -⟩ | ⟨i, o₁, o', hi, ho₁, heq, hch⟩
    · cases hnone
    · cases hnone
    · obtain rfl := Option.some.inj hi
      obtain rfl := Option.some.inj (ho.symm.trans ho₁)
      have hmem := List.mem_of_getElem? ho
      cases hch with
      | deposit hr hr₁ hop _ =>
        obtain ⟨hborrows, hgroup', ⟨d, hd, hkey⟩, -⟩ := depositObligationCollateral_positions
          (hw.obligations o hmem) (assetTierOf_refreshed hr hr₁) (hw.tiersOf o hmem) hop
        have hmem' : o' ∈ w'.obligations := by
          rw [heq]
          exact List.mem_set (List.getElem?_eq_some_iff.1 ho).1 o'
        refine husable o' hmem' (hgroup'.trans hgroup) ?_
          ⟨d, hd, hkey ▸ (loadReserve_eq_ok.1 hr).1, ?_⟩
        · rw [Obligation.Owes, hborrows]
          exact howes
        · rw [hkey]
          exact (process_disabled h).2 hdisabled
  | _ => exact trivial

theorem Genesis.isolated (h : w.Genesis) : w.Isolated where
  toWellFormed := h.wellFormed
  tiersOf := by simp [h.obligations]
  valid := by simp [h.obligations]
  flagRight := by simp [h.obligations]

theorem Run.isolated {Admitted : World → Clock → Instruction → Prop} (h : Run Admitted w₀ w)
    (hw : w₀.Isolated) : w.Isolated :=
  Transition.Preserves.run (P := Isolated)
    (fun _ _ hw ⟨_, _, _, hproc⟩ ↦ process_isolated hproc hw) hw h

theorem Run.usable (h : Run DebtsValued w₀ w) (hw : w₀.Isolated ∧ w₀.CollateralUsable) :
    w.Isolated ∧ w.CollateralUsable := by
  apply Transition.Preserves.run (P := fun w ↦ Isolated w ∧ CollateralUsable w) _ hw h
  rintro w w' ⟨hw, husable⟩ ⟨clock, ix, hcond, hproc⟩
  exact ⟨process_isolated hproc hw, process_usable hproc hw hcond husable⟩

/-- The asset tiers are valid in every reachable state. Disabled collateral backs no debt outside
groups in a run that never deposits it beside a debt valued at nothing, and every such deposit
breaks the rule. -/
theorem isolation_holds (h : w₀.Genesis) :
    (∀ w, Run Anything w₀ w → ∀ o ∈ w.obligations, validateObligationAssetTiers o = .ok ()) ∧
    ∀ w, Run DebtsValued w₀ w → (∀ o ∈ w.obligations, o.CollateralUsable w.reserves) ∧
      ∀ clock ix w', w.process clock ix = .ok w' →
        ((∀ o ∈ w'.obligations, o.CollateralUsable w'.reserves) ↔ w.DebtsValued clock ix) := by
  refine ⟨fun w hrun ↦ (hrun.isolated h.isolated).valid, fun w hrun ↦ ?_⟩
  obtain ⟨hw, husable⟩ := hrun.usable ⟨h.isolated, by simp [CollateralUsable, h.obligations]⟩
  refine ⟨husable, fun clock ix w' hproc ↦ ⟨?_, ?_⟩⟩
  · exact debtsValued_of_usable hproc hw
  · exact fun hcond ↦ process_usable hproc hw hcond husable

/-- A market whose first reserve lends a token of 18 decimals and whose last is disabled as
collateral outside elevation groups. -/
def disablingMarket : World :=
  opening .init 1 [(5, { Reserve.init 0 1 1 18 1000000 with config := plainConfig 500 }),
    (6, plainReserve (plainConfig 500)),
    (7, plainReserve { plainConfig 500 with disableUsageAsCollOutsideEmode := 1 })]

theorem disablingMarket_genesis : disablingMarket.Genesis := by
  apply opening_genesis LendingMarket.init_validated
  simp only [List.mem_cons, List.not_mem_nil, or_false, forall_eq_or_imp, forall_eq]
  refine ⟨⟨⟨0, 1, 1, 18, 1000000, by decide, rfl⟩, .inr (plainConfig_validated _ _)⟩,
    plainReserve_isNew (plainConfig_validated _ _), plainReserve_isNew rfl⟩

def halfPrice : Option GetPriceResult :=
  some { price := ⟨2 ^ 59, by norm_num⟩, status := .allChecks, timestamp := 10 }

/-- One unit of the first token is borrowed, a debt too small to have a value. -/
def dustDebt : List (Clock × Instruction) :=
  [(⟨1, 10⟩, .refreshReserve 5 halfPrice), (⟨1, 10⟩, .refreshReserve 6 unitPrice),
    (⟨1, 10⟩, .refreshReserve 7 unitPrice), (⟨1, 10⟩, .depositReserveLiquidity 6 1000000),
    (⟨1, 10⟩, .depositReserveLiquidity 7 1000000),
    (⟨1, 10⟩, .initObligation 0 7 0), (⟨1, 10⟩, .refreshObligation 0 [] []),
    (⟨1, 10⟩, .depositObligationCollateral 0 6 1000000),
    (⟨2, 10⟩, .refreshReserve 5 halfPrice), (⟨2, 10⟩, .refreshReserve 6 unitPrice),
    (⟨2, 10⟩, .refreshObligation 0 [6] []),
    (⟨2, 10⟩, .borrowObligationLiquidity 0 5 1 none []),
    (⟨3, 10⟩, .refreshReserve 5 halfPrice), (⟨3, 10⟩, .refreshReserve 6 unitPrice),
    (⟨3, 10⟩, .refreshReserve 7 unitPrice), (⟨3, 10⟩, .refreshObligation 0 [6, 5] [])]

def dustDeposit : List (Clock × Instruction) :=
  dustDebt ++ [(⟨3, 10⟩, .depositObligationCollateral 0 7 500000)]

theorem Run.disabled {Admitted : World → Clock → Instruction → Prop} {k : Pubkey}
    (h : Run Admitted w₀ w) (hd : w.reserves.DisabledOutsideEmode k) :
    w₀.reserves.DisabledOutsideEmode k := by
  induction h with
  | refl => exact hd
  | tail _ hstep ih =>
    rcases hstep with ⟨clock, ix, -, hproc⟩
    exact ih ((process_disabled hproc).1 hd)

theorem dustDebt_run : Run DebtsValued disablingMarket (disablingMarket.after dustDebt) := by
  apply run_after_admitted
  intro n ix hix
  have husable : ¬ (disablingMarket.after (dustDebt.take n)).reserves.DisabledOutsideEmode 6 := by
    intro hdisabled
    have hrun : Run Anything disablingMarket (disablingMarket.after (dustDebt.take n)) :=
      run_after _ _ fun _ _ _ ↦ trivial
    rcases hrun.disabled hdisabled with ⟨r, hr, hpos⟩
    obtain rfl : r = plainReserve (plainConfig 500) := Option.some.inj (hr.symm.trans rfl)
    exact absurd hpos (by decide)
  have hmem := List.mem_of_getElem? hix
  simp only [dustDebt, List.mem_cons, List.not_mem_nil, or_false] at hmem
  rcases hmem with rfl | rfl | rfl | rfl | rfl | rfl | rfl | rfl | rfl | rfl | rfl | rfl | rfl |
    rfl | rfl | rfl
  case inr.inr.inr.inr.inr.inr.inr.inl => exact fun _ _ _ hdisabled ↦ absurd hdisabled husable
  all_goals exact trivial

/-- The obligation owes something and holds no disabled collateral before the deposit. -/
theorem isolation_holds_dustDebt :
    ∃ o, (disablingMarket.after dustDebt).obligations = [o] ∧
      validateObligationAssetTiers o = .ok () ∧ o.Owes ∧
      ¬ o.HoldsDisabled (disablingMarket.after dustDebt).reserves := by
  have hlen : (disablingMarket.after dustDebt).obligations.length = 1 := by decide
  obtain ⟨o, ho⟩ := List.length_eq_one_iff.1 hlen
  have hmem : o ∈ (disablingMarket.after dustDebt).obligations := ho ▸ List.mem_singleton_self o
  have howes : ∀ o ∈ (disablingMarket.after dustDebt).obligations,
      o.elevationGroup = elevationGroupNone ∧
        ∃ b ∈ o.borrows, Fraction.zero < b.borrowedAmountSf := by
    decide
  obtain ⟨hgroup, howes⟩ := howes o hmem
  obtain ⟨hvalid, husable⟩ := isolation_holds disablingMarket_genesis
  exact ⟨o, ho, hvalid _ (run_after _ _ fun _ _ _ ↦ trivial) o hmem, howes,
    (husable _ dustDebt_run).1 o hmem hgroup howes⟩

theorem disablingMarket_breaks :
    disablingMarket.Genesis ∧ Run Anything disablingMarket (disablingMarket.after dustDeposit) ∧
      ∃ o ∈ (disablingMarket.after dustDeposit).obligations,
        o.elevationGroup = elevationGroupNone ∧
        (∃ b ∈ o.borrows, Fraction.zero < b.borrowedAmountSf) ∧
        ∃ d ∈ o.deposits, d.depositReserve = 7 ∧ 0 < d.depositedAmount ∧
          ∃ r, (disablingMarket.after dustDeposit).reserves 7 = some r ∧
            0 < r.config.disableUsageAsCollOutsideEmode := by
  refine ⟨disablingMarket_genesis, run_after _ _ fun _ _ _ ↦ trivial, ?_⟩
  have hdisabled : ∃ r, (disablingMarket.after dustDeposit).reserves 7 = some r ∧
      0 < r.config.disableUsageAsCollOutsideEmode :=
    ⟨_, reserves_eq (by decide), by decide⟩
  have hheld : ∃ o ∈ (disablingMarket.after dustDeposit).obligations,
      o.elevationGroup = elevationGroupNone ∧
      (∃ b ∈ o.borrows, Fraction.zero < b.borrowedAmountSf) ∧
      ∃ d ∈ o.deposits, d.depositReserve = 7 ∧ 0 < d.depositedAmount := by
    decide
  obtain ⟨o, ho, hgroup, howes, d, hd, hkey, hpos⟩ := hheld
  exact ⟨o, ho, hgroup, howes, d, hd, hkey, hpos, hdisabled⟩

end Klend.World
