import Klend.Positions.Slots

/-! # Freshness of an obligation

The totals of an obligation are those of its slots as long as it is not stale, and
its debts stand at the rates of their reserves. Whatever changes an amount marks the
obligation stale.
-/

namespace Klend

namespace Obligation

structure ValuesSummed (o : Obligation) : Prop where
  deposited : o.depositedValueSf.bits = (o.deposits.map (·.marketValueSf.bits)).sum
  borrowed : o.borrowedAssetsMarketValueSf.bits = (o.borrows.map (·.marketValueSf.bits)).sum
  adjusted : o.borrowFactorAdjustedDebtValueSf.bits =
    (o.borrows.map (·.borrowFactorAdjustedMarketValueSf.bits)).sum

/-- A debt whose reserve was last refreshed together with the obligation stands at its rate. -/
def RatesCurrent (rs : Reserves) (o : Obligation) : Prop :=
  ∀ b ∈ o.borrows, b.borrowReserve ≠ 0 → ∀ r, rs b.borrowReserve = some r →
    r.lastUpdate.slot = o.lastUpdate.slot →
    b.cumulativeBorrowRateBsf = r.liquidity.cumulativeBorrowRateBsf

/-- No reserve of the obligation's debts is behind it. -/
def ReservesAhead (rs : Reserves) (o : Obligation) : Prop :=
  ∀ b ∈ o.borrows, b.borrowReserve ≠ 0 → ∀ r, rs b.borrowReserve = some r →
    o.lastUpdate.slot ≤ r.lastUpdate.slot

def UpToDate (rs : Reserves) (o : Obligation) : Prop :=
  o.lastUpdate.stale = false → o.ValuesSummed ∧ o.RatesCurrent rs ∧ o.ReservesAhead rs

def depositedAmounts (o : Obligation) : List U64 := o.deposits.map (·.depositedAmount)

def borrowedAmounts (o : Obligation) : List Fraction := o.borrows.map (·.borrowedAmountSf)

theorem UpToDate.of_stale {rs : Reserves} {o : Obligation} (h : o.lastUpdate.stale = true) :
    o.UpToDate rs := by
  intro hfresh
  rw [h] at hfresh
  cases hfresh

end Obligation

/-- The obligation whose amounts an instruction changes. -/
def Instruction.changesAmountsOf : Instruction → Option ℕ
  | .depositObligationCollateral index .. => some index
  | .withdrawObligationCollateral index .. => some index
  | .borrowObligationLiquidity index .. => some index
  | .repayObligationLiquidity index .. => some index
  | .liquidateObligationAndRedeemReserveCollateral index .. => some index
  | .socializeLoss index .. => some index
  | _ => none

variable {o o' : Obligation} {rs rs' : Reserves} {market : LendingMarket} {slot : U64}
  {check : MaxReservesAsCollateralCheck} {iter iter' : List Pubkey}
  {states states' : ReferrerTokenStates} {stateKeys : List ReferrerTokenStateKey}

theorem refreshObligation_upToDate (h : o.WellFormed)
    (hop : refreshObligation o market slot check rs iter iter' states stateKeys =
      .ok (o', rs', states')) : o'.UpToDate rs' := by
  obtain ⟨group, o₁, rs₁, borrows, o₂, deposits, -, hb, hd, rfl⟩ := refreshObligation_spec hop
  obtain ⟨hbook, hslots, hframe₁⟩ := refreshObligationBorrows_frame hb
  obtain ⟨hbook', -, hframe₂⟩ := refreshObligationDeposits_frame hd
  have hborrows : o₂.borrows = o₁.borrows := by rw [hframe₂]
  have hdeposits : o₁.deposits = o.deposits := by rw [hframe₁]
  -- what each debt found in its reserve is still there at the end
  have hreserve : ∀ b' ∈ o₁.borrows, b'.borrowReserve ≠ 0 → ∀ r', rs' b'.borrowReserve = some r' →
      r'.lastUpdate.slot = slot ∧
      b'.cumulativeBorrowRateBsf = r'.liquidity.cumulativeBorrowRateBsf := by
    intro b' hb' hne r' hr'
    obtain ⟨i, hi⟩ := List.mem_iff_getElem?.1 hb'
    obtain ⟨b, -, hrefreshed⟩ := SlotTable.exists_of_forall₂_right hslots hi
    obtain ⟨r, hr, -, hslot, hrate⟩ := hrefreshed.held (hrefreshed.key_eq ▸ hne)
    obtain ⟨r₀, hr₀, _, _, _, _, _, rfl⟩ := (hbook.trans hbook'.rebooked).value_rev hr'
    rw [hrefreshed.key_eq, hr, Option.some.injEq] at hr₀
    subst hr₀
    exact ⟨hslot, hrate⟩
  obtain ⟨hmv, hbf⟩ := refreshObligationBorrows_sums hb fun b hb hz ↦ (h.borrows.empty b hb hz).2
  have hdv := refreshObligationDeposits_sum hd fun d hd hz ↦
    (h.deposits.empty d (hdeposits ▸ hd) hz).2
  refine fun _ ↦ ⟨⟨hdv, ?_, ?_⟩, ?_, ?_⟩
  · show borrows.borrowedAssetsMarketValueF.bits = (o₂.borrows.map _).sum
    rw [hborrows, hmv]
  · show borrows.borrowFactorAdjustedDebtValueF.bits = (o₂.borrows.map _).sum
    rw [hborrows, hbf]
  · intro b hb hne r hr _
    exact (hreserve b (hborrows ▸ hb) hne r hr).2
  · intro b hb hne r hr
    exact (hreserve b (hborrows ▸ hb) hne r hr).1.ge

namespace World

variable {w w' : World} {clock : Clock} {ix : Instruction} {index : ℕ}

/-- Every change but a refresh or a deleveraging mark leaves the obligation stale. -/
theorem ChangesObligation.stale (hch : ChangesObligation w w' clock index ix o o') :
    (∃ remaining states, ix = .refreshObligation index remaining states) ∨
    (∃ pct, ix = .markObligationForDeleveraging index pct) ∨ o'.lastUpdate.stale = true := by
  cases hch with
  | refresh hop => exact .inl ⟨_, _, rfl⟩
  | mark hop _ => exact .inr (.inl ⟨_, rfl⟩)
  | request hop =>
    obtain ⟨-, -, oldGroup, group, o₁, rs₁, o₂, rs₂, borrows, o₃, deposits, -, -, -, -, -, rfl, -⟩ :=
      Klend.requestElevationGroup_spec hop
    exact .inr (.inr rfl)
  | deposit hr hr₁ hop _ =>
    obtain ⟨-, -, group, total, tier, o₁, i, r₁, d, d₁, -, -, -, -, -, rfl, -⟩ :=
      Klend.depositObligationCollateral_spec hop
    exact .inr (.inr rfl)
  | withdraw hr hop _ =>
    obtain ⟨-, -, i, d, o₁, kind, -, -, -, rfl, -⟩ := Klend.withdrawObligationCollateral_spec hop
    exact .inr (.inr rfl)
  | borrow hr hop _ =>
    obtain ⟨-, -, -, -, n, cap, l, tier, o₁, i, b, b₁, r₁, group, b₂, -, -, -, -, -, -, -, htrack,
      -⟩ := Klend.borrowObligationLiquidity_spec hop
    refine .inr (.inr ?_)
    rw [(updateOnBorrow_retracked htrack).1.frame]
    rfl
  | repay hr hop _ =>
    obtain ⟨-, -, b, i, b₁, settle, cap, o₁, r₁, l, o₂, -, -, -, -, -, -, -, rfl⟩ :=
      Klend.repayObligationLiquidity_spec hop
    exact .inr (.inr rfl)
  | socialize hr hop _ =>
    obtain ⟨-, -, -, b, i, supply, n, o₁, r₁, l, o₂, -, -, -, -, -, -, -, -, rfl⟩ :=
      Klend.socializeLoss_spec hop
    exact .inr (.inr rfl)
  | liquidate l => exact .inr (.inr rfl)

theorem ChangesObligation.fresh (hch : ChangesObligation w w' clock index ix o o') {i : ℕ}
    (hix : ix.changesAmountsOf = some i) :
    o.lastUpdate.stale = false ∧ o.lastUpdate.slot = clock.slot := by
  cases hch with
  | refresh => cases hix
  | request => cases hix
  | mark => cases hix
  | deposit hr hr₁ hop _ => exact (Klend.depositObligationCollateral_spec hop).2.1
  | withdraw hr hop _ => exact (Klend.withdrawObligationCollateral_spec hop).2.1
  | borrow hr hop _ =>
    obtain ⟨-, ⟨hstale, hslot, -⟩, -⟩ := Klend.borrowObligationLiquidity_spec hop
    exact ⟨hstale, hslot⟩
  | repay hr hop _ => exact (Klend.repayObligationLiquidity_spec hop).2.1
  | socialize hr hop _ => exact (Klend.socializeLoss_spec hop).2.1
  | liquidate l =>
    have h := l.liquidatable
    simp only [assertObligationLiquidatable, bind_eq_ok, require_eq_ok,
      LastUpdate.requireFresh_eq_ok] at h
    obtain ⟨-, -, -, -, -, -, -, ⟨hstale, hslot, -⟩, -⟩ := h
    exact ⟨hstale, hslot⟩

theorem changesAmountsOf_named {i : ℕ} (h : ix.changesAmountsOf = some i) :
    ix.namedObligation = some i := by
  cases ix <;> first | exact h | cases h

theorem upToDate_evolves (h : w.process clock ix = .ok w') (ho : o.UpToDate w.reserves) :
    o.UpToDate w'.reserves := by
  intro hfresh
  obtain ⟨hsums, hrates, hahead⟩ := ho hfresh
  refine ⟨hsums, fun b hb hne r' hr' hslot ↦ ?_, fun b hb hne r' hr' ↦ ?_⟩
  · obtain ⟨r, hr, hev⟩ := (process_evolve h).value_rev hr'
    have hle := hahead b hb hne r hr
    have hslot_eq : r.lastUpdate.slot = o.lastUpdate.slot :=
      le_antisymm (hslot ▸ hev.slot_le) hle
    rw [hrates b hb hne r hr hslot_eq, hev.rate_eq (hslot.trans hslot_eq.symm)]
  · obtain ⟨r, hr, hev⟩ := (process_evolve h).value_rev hr'
    exact (hahead b hb hne r hr).trans hev.slot_le

theorem ChangesObligation.upToDate (h : w.process clock ix = .ok w')
    (hch : ChangesObligation w w' clock index ix o o') (hwf : o.WellFormed)
    (ho : o.UpToDate w.reserves) : o'.UpToDate w'.reserves := by
  obtain ⟨remaining, states, rfl⟩ | ⟨pct, rfl⟩ | hstale := hch.stale
  · cases hch with
    | refresh hop => exact refreshObligation_upToDate hwf hop
  · cases hch with
    | mark hop hreserves =>
      obtain ⟨target, started, rfl⟩ := markObligationForDeleveraging_frame hop
      intro hfresh
      obtain ⟨hsums, hrates, hahead⟩ := upToDate_evolves h ho hfresh
      exact ⟨⟨hsums.deposited, hsums.borrowed, hsums.adjusted⟩, hrates, hahead⟩
  · exact .of_stale hstale

/-- Every obligation is well formed and up to date. -/
structure UpToDate (w : World) : Prop extends WellFormed w where
  upToDate : ∀ o ∈ w.obligations, o.UpToDate w.reserves

theorem process_upToDate (h : w.process clock ix = .ok w') (hw : w.UpToDate) : w'.UpToDate where
  toWellFormed := process_wellFormed h hw.toWellFormed
  upToDate := process_forall (P := fun w o ↦ o.UpToDate w.reserves) h
    (fun _ _ _ ↦ .of_stale rfl)
    (fun _ _ _ hch hmem ho ↦ hch.upToDate h (hw.obligations _ hmem) ho)
    (fun _ _ ho ↦ upToDate_evolves h ho) hw.upToDate

/-- Where an instruction leaves other amounts behind, it left the obligation stale or refreshed
it. -/
theorem process_amounts (h : w.process clock ix = .ok w') {i : ℕ} (ho : w.obligations[i]? = some o)
    (ho' : w'.obligations[i]? = some o')
    (hne : o'.depositedAmounts ≠ o.depositedAmounts ∨ o'.borrowedAmounts ≠ o.borrowedAmounts) :
    o'.lastUpdate.stale = true ∨ ∃ remaining states, ix = .refreshObligation i remaining states := by
  have hsame : o' = o → False := by
    rintro rfl
    simp at hne
  obtain ⟨-, heq⟩ | ⟨-, -, tag, owner, referrer, heq⟩ | ⟨index, o₁, o₂, -, ho₁, heq, hch⟩ :=
    process_obligations h
  · rw [heq, ho, Option.some.injEq] at ho'
    exact (hsame ho'.symm).elim
  · rw [heq, List.getElem?_append_left (List.getElem?_eq_some_iff.1 ho).1, ho,
      Option.some.injEq] at ho'
    exact (hsame ho'.symm).elim
  · rw [heq] at ho'
    obtain ⟨rfl, rfl⟩ | ⟨-, ho'⟩ := SlotTable.getElem?_set_eq_some ho'
    · obtain rfl := Option.some.inj (ho.symm.trans ho₁)
      obtain hrefresh | ⟨pct, rfl⟩ | hstale := hch.stale
      · exact .inr hrefresh
      · cases hch with
        | mark hop _ =>
          obtain ⟨target, started, rfl⟩ := markObligationForDeleveraging_frame hop
          simp [Obligation.depositedAmounts, Obligation.borrowedAmounts] at hne
      · exact .inl hstale
    · exact (hsame (Option.some.inj (ho'.symm.trans ho))).elim

theorem process_marksStale (h : w.process clock ix = .ok w') {i : ℕ}
    (hix : ix.changesAmountsOf = some i) :
    ∃ o o', w.obligations[i]? = some o ∧ w'.obligations[i]? = some o' ∧
      (o.lastUpdate.stale = false ∧ o.lastUpdate.slot = clock.slot) ∧
      o'.lastUpdate.stale = true := by
  have hnamed := changesAmountsOf_named hix
  obtain ⟨hnone, -⟩ | ⟨hnone, -⟩ | ⟨index, o, o', hsome, ho, heq, hch⟩ := process_obligations h
  · rw [hnone] at hnamed
    cases hnamed
  · rw [hnone] at hnamed
    cases hnamed
  · obtain rfl : index = i := Option.some.inj (hsome.symm.trans hnamed)
    refine ⟨o, o', ho, ?_, hch.fresh hix, ?_⟩
    · rw [heq, List.getElem?_set_self (List.getElem?_eq_some_iff.1 ho).1]
    · obtain ⟨_, _, rfl⟩ | ⟨_, rfl⟩ | hstale := hch.stale
      · cases hix
      · cases hix
      · exact hstale

end World

end Klend
