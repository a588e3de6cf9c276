import Klend.Lending.Runs
import Klend.Positions.RepayAndWithdraw
import Klend.Results.ObligationSlots

/-! # Repaying and withdrawing against its parts

The handler and the sequence of its parts end alike, except where the handler leaves the
repaid reserve stale, drops the status of its price, or tests an obligation without debt
as if it had one.
-/

namespace Klend

variable {o : Obligation} {r : Reserve} {ltv : Fraction}

/-- The end that the handler asks of an obligation with a debt. -/
structure Obligation.EndsWithin (o : Obligation) (withdrawReserve : Reserve)
    (initialLtv : Fraction) : Prop where
  lowest : o.borrowFactorAdjustedDebtValueSf ≠ Fraction.zero →
    o.lowestReserveDepositMaxLtvPct ≠ 0 ∧
      withdrawReserve.config.loanToValuePct ≤ o.lowestReserveDepositMaxLtvPct
  covered : o.depositedValueSf = Fraction.zero →
    o.borrowFactorAdjustedDebtValueSf = Fraction.zero
  healthy : o.depositedValueSf ≠ Fraction.zero →
    ∃ ltv unhealthyLtv, o.loanToValue = .ok ltv ∧ o.unhealthyLoanToValue = .ok unhealthyLtv ∧
      ltv ≤ initialLtv ∧ ltv < unhealthyLtv

theorem Fraction.zero_lt_iff {x : Fraction} : Fraction.zero < x ↔ x ≠ Fraction.zero := by
  rw [Fraction.lt_iff, Fraction.bits_zero, Nat.pos_iff_ne_zero, ne_eq, ne_eq, Fraction.eq_zero_iff]

/-- Without a value of debt only the liquidation threshold can fail. -/
theorem Obligation.EndsWithin.of_no_debt
    (hdebt : o.borrowFactorAdjustedDebtValueSf = Fraction.zero)
    (hthreshold : o.depositedValueSf ≠ Fraction.zero →
      ∃ u, o.unhealthyLoanToValue = .ok u ∧ Fraction.zero < u) : o.EndsWithin r ltv where
  lowest h := absurd hdebt h
  covered _ := hdebt
  healthy hvalue := by
    obtain ⟨u, hu, hpos⟩ := hthreshold hvalue
    have hltv : o.loanToValue = .ok Fraction.zero := by
      rw [loanToValue, hdebt, Fraction.div_eq_ok, Fraction.bits_zero, Nat.zero_mul, Nat.zero_div]
      exact ⟨fun h ↦ hvalue (Fraction.eq_zero_iff.2 h), rfl⟩
    exact ⟨Fraction.zero, u, hltv, hu, Nat.zero_le _, hpos⟩

theorem postRepayAndWithdrawObligationEnforcements_eq_ok :
    postRepayAndWithdrawObligationEnforcements o r ltv = .ok () ↔ o.EndsWithin r ltv := by
  have hdebt : o.borrowFactorAdjustedDebtValueSf ≤ Fraction.zero ↔
      o.borrowFactorAdjustedDebtValueSf = Fraction.zero := by
    rw [← not_lt, Fraction.zero_lt_iff, not_not]
  by_cases hvalue : o.depositedValueSf = Fraction.zero
  · simp only [postRepayAndWithdrawObligationEnforcements, if_neg (not_not.2 hvalue),
      bind_eq_ok, require_eq_ok, not_and, not_lt, hdebt]
    constructor
    · rintro ⟨-, -, -, -, hcovered⟩
      exact ⟨fun h ↦ absurd (hcovered hvalue) h, hcovered, fun h ↦ absurd hvalue h⟩
    · intro h
      exact ⟨(), fun _ ↦ h.covered hvalue, (), fun _ ↦ h.covered hvalue, h.covered⟩
  · simp only [postRepayAndWithdrawObligationEnforcements, if_pos hvalue,
      bind_eq_ok, require_eq_ok, not_and, not_lt, hdebt]
    constructor
    · rintro ⟨-, hzero, -, hlowest, u, hu, l, hl, -, hle, -, hlt, -⟩
      refine ⟨fun h ↦ ⟨fun hz ↦ h (hzero hz), ?_⟩, fun h ↦ absurd h hvalue,
        fun _ ↦ ⟨l, u, hl, hu, hle, hlt⟩⟩
      by_contra hlt
      exact h (hlowest (not_le.1 hlt))
    · rintro ⟨hlowest, -, hhealthy⟩
      obtain ⟨l, u, hl, hu, hle, hlt⟩ := hhealthy hvalue
      refine ⟨(), fun hz ↦ ?_, (), fun hlt ↦ ?_, u, hu, l, hl, (), hle, (), hlt,
        fun h ↦ absurd h hvalue⟩
      · by_contra h
        exact (hlowest h).1 hz
      · by_contra h
        exact absurd (hlowest h).2 (not_le.2 hlt)

namespace World

variable {w w' : World} {clock : Clock} {index : ℕ} {repayKey withdrawKey : Pubkey}
  {repayAmount withdrawAmount : U64}

/-- With the obligation and the reserve at the key marked stale. -/
def leaveStale (w : World) (index : ℕ) (key : Pubkey) : World :=
  { w with
    reserves := fun k ↦ if k = key then (w.reserves k).map Reserve.markStale else w.reserves k
    obligations := w.obligations.modify index Obligation.markStale }

theorem leaveStale_eq {key : Pubkey} (ho : w.loadObligation index = .ok o)
    (hr : w.loadReserve key = .ok r) :
    (w.storeReserve key r.markStale).storeObligation index o.markStale =
      w.leaveStale index key := by
  obtain ⟨hget, -⟩ := loadObligation_eq_ok.1 ho
  obtain ⟨-, hreserve, -⟩ := loadReserve_eq_ok.1 hr
  have hreserves : w.reserves.store key r.markStale =
      fun k ↦ if k = key then (w.reserves k).map Reserve.markStale else w.reserves k := by
    funext k
    by_cases hk : k = key
    · subst hk
      rw [Reserves.store_same, if_pos rfl, hreserve, Option.map_some]
    · rw [Reserves.store_other hk, if_neg hk]
  have hobligations : w.obligations.set index o.markStale =
      w.obligations.modify index Obligation.markStale := by
    obtain ⟨hlt, rfl⟩ := List.getElem?_eq_some_iff.1 hget
    rw [List.modify_eq_take_cons_drop hlt, List.set_eq_take_append_cons_drop, if_pos hlt]
  rw [storeReserve, storeObligation, leaveStale, hreserves, hobligations]

theorem leaveStale_unpriced {key : Pubkey} :
    (w.leaveStale index key).unpriced = w.unpriced.leaveStale index key := by
  have hreserves : (w.leaveStale index key).reserves.unpriced =
      (w.unpriced.leaveStale index key).reserves := by
    funext k
    by_cases hk : k = key
    · simp only [leaveStale, unpriced, Reserves.unpriced, if_pos hk, Option.map_map]
      rfl
    · simp only [leaveStale, unpriced, Reserves.unpriced, if_neg hk]
  have hobligations : (w.obligations.modify index Obligation.markStale).map Obligation.unpriced =
      (w.obligations.map Obligation.unpriced).modify index Obligation.markStale := by
    refine List.ext_getElem? fun j ↦ ?_
    simp only [List.getElem?_map, List.getElem?_modify]
    cases w.obligations[j]? with
    | none => rfl
    | some o =>
      simp only [Option.map_some]
      split <;> rfl
  show ({ (w.leaveStale index key) with
    reserves := (w.leaveStale index key).reserves.unpriced
    obligations := (w.obligations.modify index Obligation.markStale).map Obligation.unpriced } :
      World) = _
  rw [hreserves, hobligations]
  rfl

/-- The price status is no matter to the end. -/
theorem endsWithin_of_unpriced {key : Pubkey} (hw : w.unpriced = w'.unpriced)
    (ho : w.loadObligation index = .ok o) (hr : w.loadReserve key = .ok r)
    (h : o.EndsWithin r ltv) :
    ∃ o' r', w'.loadObligation index = .ok o' ∧ w'.loadReserve key = .ok r' ∧
      o'.EndsWithin r' ltv := by
  obtain ⟨o', ho', hsame⟩ := exists_loadObligation_of_unpriced hw ho
  obtain ⟨r', hr', hsame'⟩ := exists_loadReserve_of_unpriced hw hr
  refine ⟨o', r', ho', hr', ?_⟩
  rw [Obligation.eq_of_unpriced hsame, Reserve.eq_of_unpriced hsame']
  exact ⟨h.lowest, h.covered, h.healthy⟩

theorem enforceRepayAndWithdraw_eq_ok :
    w.enforceRepayAndWithdraw index withdrawKey ltv = .ok w' ↔
      ∃ o r, w.loadObligation index = .ok o ∧ w.loadReserve withdrawKey = .ok r ∧
        o.EndsWithin r ltv ∧ w' = w.leaveStale index withdrawKey := by
  have hstale : ∀ (o : Obligation) (r : Reserve),
      postRepayAndWithdrawObligationEnforcements o.markStale r.markStale ltv = .ok () ↔
        o.EndsWithin r ltv := fun o r ↦
    postRepayAndWithdrawObligationEnforcements_eq_ok.trans
      ⟨fun h ↦ ⟨h.lowest, h.covered, h.healthy⟩, fun h ↦ ⟨h.lowest, h.covered, h.healthy⟩⟩
  simp only [enforceRepayAndWithdraw, bind_eq_ok, pure_eq_ok]
  constructor
  · rintro ⟨o, ho, r, hr, ⟨⟩, hend, rfl⟩
    exact ⟨o, r, ho, hr, (hstale o r).1 hend, leaveStale_eq ho hr⟩
  · rintro ⟨o, r, ho, hr, hend, rfl⟩
    exact ⟨o, ho, r, hr, (), (hstale o r).2 hend, leaveStale_eq ho hr⟩

theorem repayThenWithdraw_eq_ok (ho : w.loadObligation index = .ok o) :
    w.repayThenWithdraw clock index repayKey withdrawKey repayAmount withdrawAmount =
      .ok (w', false) ↔
    ∃ w₁ w₃ w₄, w.repayObligationLiquidity clock index repayKey repayAmount o.depositKeys = .ok w₁ ∧
      w₁.refreshInUse clock index = .ok w₃ ∧
      w₃.withdrawObligationCollateralAndRedeemReserveCollateral clock index withdrawKey
        withdrawAmount .liquidationThreshold = .ok (w₄, false) ∧
      w₄.refreshInUse clock index = .ok w' := by
  simp only [repayThenWithdraw, ho, ok_bind, bind_eq_ok, Prod.exists]
  constructor
  · rintro ⟨w₁, hrepay, w₃, hrefresh, w₄, closed, hwithdraw, h⟩
    cases closed with
    | true => cases h
    | false =>
      obtain ⟨w₆, hrefresh', h⟩ := bind_eq_ok.1 h
      obtain ⟨rfl, -⟩ := Prod.mk.inj (pure_eq_ok.1 h)
      exact ⟨w₁, w₃, w₄, hrepay, hrefresh, hwithdraw, hrefresh'⟩
  · rintro ⟨w₁, w₃, w₄, hrepay, hrefresh, hwithdraw, hrefresh'⟩
    refine ⟨w₁, hrepay, w₃, hrefresh, w₄, false, hwithdraw, ?_⟩
    exact bind_eq_ok.2 ⟨w', hrefresh', rfl⟩

theorem repayAndWithdrawAndRedeem_eq_ok (hw : w.WellFormed) (ho : w.loadObligation index = .ok o) :
    w.repayAndWithdrawAndRedeem clock index repayKey withdrawKey repayAmount withdrawAmount
      o.reservesInUse o.referrerStatesInUse = .ok (w', false) ↔
    ∃ ltv w₁ o₁ w₃ w₄ w₅, o.loanToValue = .ok ltv ∧
      w.repayObligationLiquidity clock index repayKey repayAmount o.depositKeys = .ok w₁ ∧
      w₁.loadObligation index = .ok o₁ ∧
      w₁.refreshRepaid clock index repayKey withdrawKey o o₁ = .ok w₃ ∧
      w₃.withdrawObligationCollateralAndRedeemReserveCollateral clock index withdrawKey
        withdrawAmount .liquidationThreshold = .ok (w₄, false) ∧
      w₄.refreshPostWithdrawal clock index withdrawKey o₁.reservesInUse o₁.referrerStatesInUse =
        .ok w₅ ∧
      w₅.enforceRepayAndWithdraw index withdrawKey ltv = .ok w' := by
  have htake : o.reservesInUse.take o.depositsCount = o.depositKeys := by
    rw [Obligation.depositsCount_eq, Obligation.reservesInUse, List.take_left]
  simp only [repayAndWithdrawAndRedeem, ho, ok_bind, bind_eq_ok, htake, Prod.exists]
  constructor
  · rintro ⟨-, -, ltv, hltv, w₁, hrepay, o₁, ho₁, w₂, hreserve, w₃, hobligation, w₄, closed,
      hwithdraw, h⟩
    rw [remainingPostRepay_eq hw ho hrepay ho₁] at hobligation h
    cases closed with
    | true => cases h
    | false =>
      obtain ⟨w₅, hpost, h⟩ := bind_eq_ok.1 h
      obtain ⟨w₆, hend, h⟩ := bind_eq_ok.1 h
      obtain ⟨rfl, -⟩ := Prod.mk.inj (pure_eq_ok.1 h)
      exact ⟨ltv, w₁, o₁, w₃, w₄, w₅, hltv, hrepay, ho₁,
        bind_eq_ok.2 ⟨w₂, hreserve, hobligation⟩, hwithdraw, hpost, hend⟩
  · rintro ⟨ltv, w₁, o₁, w₃, w₄, w₅, hltv, hrepay, ho₁, hrefresh, hwithdraw, hpost, hend⟩
    obtain ⟨w₂, hreserve, hobligation⟩ := bind_eq_ok.1 hrefresh
    obtain ⟨⟨⟩, hemergency, -⟩ := bind_eq_ok.1 hrepay
    refine ⟨(), hemergency, ltv, hltv, w₁, hrepay, o₁, ho₁, w₂, hreserve, w₃, ?_, w₄, false,
      hwithdraw, ?_⟩
    · rw [remainingPostRepay_eq hw ho hrepay ho₁]
      exact hobligation
    · rw [remainingPostRepay_eq hw ho hrepay ho₁]
      exact bind_eq_ok.2 ⟨w₅, hpost, bind_eq_ok.2 ⟨w', hend, rfl⟩⟩

/-- The handler needs a price of the repaid reserve that is not too old if the reserve is still used
and a debt is left. -/
def Priced (w : World) (clock : Clock) (o : Obligation) (repayKey : Pubkey) (amount : U64) : Prop :=
  ∀ r, w.loadReserve repayKey = .ok r →
    (o.Clears r repayKey amount → repayKey ∈ o.depositKeys ∧ o.borrowKeys ≠ [repayKey]) →
    isSavedPriceAgeValid r clock = .ok true

/-- Where the handler goes through, the parts do as well, with the same state before the end but for
the price status. -/
theorem repayThenWithdraw_of_handler (hw : w.WellFormed) (ho : w.loadObligation index = .ok o)
    (hsettled : ∀ k ∈ o.reservesInUse, w.SettledAt clock k)
    (h : w.repayAndWithdrawAndRedeem clock index repayKey withdrawKey repayAmount withdrawAmount
      o.reservesInUse o.referrerStatesInUse = .ok (w', false)) :
    ¬ w.LeavesStale o repayKey withdrawKey repayAmount ∧ w.Priced clock o repayKey repayAmount ∧
      ∃ (ltv : Fraction) (w₅ w'' : World), o.loanToValue = .ok ltv ∧
        w.repayThenWithdraw clock index repayKey withdrawKey repayAmount withdrawAmount =
          .ok (w'', false) ∧
        w₅.unpriced = w''.unpriced ∧ w₅.enforceRepayAndWithdraw index withdrawKey ltv = .ok w' := by
  obtain ⟨ltv, w₁, o₁, w₃, w₄, w₅, hltv, hrepay, ho₁, hrefresh, hwithdraw, hpost, hend⟩ :=
    (repayAndWithdrawAndRedeem_eq_ok hw ho).1 h
  have hstale : ¬ w.LeavesStale o repayKey withdrawKey repayAmount := fun hstale ↦
    refreshRepaid_stale hw ho hrepay ho₁ hstale hrefresh
  obtain ⟨t, ht⟩ := exists_timestamp_of_repay hrepay
  obtain ⟨o₃, ho₃, hwf₃, hsame⟩ := refreshRepaid_spec (wellFormed_of_repay hrepay hw) ho₁ hrefresh
  have hmem := withdrawKey_mem hw ho hrepay ho₁ ho₃ hwf₃ hsame hwithdraw
  have hage : repayKey ∈ o₁.reservesInUse → o₁.borrowKeys ≠ [] → ∀ r,
      w.loadReserve repayKey = .ok r → isSavedPriceAgeValid r clock = .ok true := by
    intro hin hdebt r hr
    have hchecks := withdraw_checked ho₃ (hsame.borrows.trans_ne hdebt) hwithdraw
    exact refreshRepaid_priced hw ho hsettled hrepay ho₁ hmem hstale hrefresh ho₃ hchecks hin hr
  obtain ⟨⟨w₄', closed⟩, hparts, heq⟩ := exists_ok_of_map
    (refreshRepaid_withdraw hw ho hsettled hrepay ho₁ hmem hstale hage)
    (bind_eq_ok.2 ⟨w₃, hrefresh, hwithdraw⟩)
  obtain ⟨heq₄, rfl⟩ := Prod.mk.inj heq
  obtain ⟨w₃', hrefresh', hwithdraw'⟩ := bind_eq_ok.1 hparts
  have hsettled₃ := refreshRepaid_settledAt hw ho hsettled hrepay ho₁ hmem hstale hrefresh
  obtain ⟨w'', hpost', heq₅⟩ := exists_ok_of_map
    (refreshPostWithdrawal_congr ht ho₃ hwf₃ hsame hsettled₃ hwithdraw heq₄) hpost
  refine ⟨hstale, fun r hr howed ↦ ?_, ltv, w₅, w'', hltv, ?_, heq₅, hend⟩
  · obtain ⟨hin, hdebt⟩ := (stillOwed_iff hw ho hrepay ho₁ hr).1 howed
    exact hage hin hdebt r hr
  · exact (repayThenWithdraw_eq_ok ho).2 ⟨w₁, w₃', w₄', hrepay, hrefresh', hwithdraw', hpost'⟩

/-- Where the parts go through, the handler comes to its test at the end if it leaves no reserve
stale and finds the price it needs. -/
theorem handler_of_repayThenWithdraw {w'' : World} (hw : w.WellFormed)
    (ho : w.loadObligation index = .ok o)
    (hsettled : ∀ k ∈ o.reservesInUse, w.SettledAt clock k)
    (hstale : ¬ w.LeavesStale o repayKey withdrawKey repayAmount)
    (hpriced : w.Priced clock o repayKey repayAmount) (hltv : o.loanToValue = .ok ltv)
    (h : w.repayThenWithdraw clock index repayKey withdrawKey repayAmount withdrawAmount =
      .ok (w'', false)) :
    ∃ w₅ : World, w₅.unpriced = w''.unpriced ∧ ∀ w', w₅.enforceRepayAndWithdraw index withdrawKey ltv =
      .ok w' → w.repayAndWithdrawAndRedeem clock index repayKey withdrawKey repayAmount
        withdrawAmount o.reservesInUse o.referrerStatesInUse = .ok (w', false) := by
  obtain ⟨w₁, w₃', w₄', hrepay, hrefresh', hwithdraw', hpost'⟩ := (repayThenWithdraw_eq_ok ho).1 h
  have hw₁ := wellFormed_of_repay hrepay hw
  obtain ⟨-, o₁, -, ho₁, -⟩ := repayObligationLiquidity_shape hw ho hrepay
  obtain ⟨t, ht⟩ := exists_timestamp_of_repay hrepay
  obtain ⟨o₃', ho₃', hwf₃', hsame', -⟩ := refreshInUse_spec hw₁ ho₁ hrefresh'
  have hmem := withdrawKey_mem hw ho hrepay ho₁ ho₃' hwf₃' hsame' hwithdraw'
  have hage : repayKey ∈ o₁.reservesInUse → o₁.borrowKeys ≠ [] → ∀ r,
      w.loadReserve repayKey = .ok r → isSavedPriceAgeValid r clock = .ok true :=
    fun hin hdebt r hr ↦ hpriced r hr ((stillOwed_iff hw ho hrepay ho₁ hr).2 ⟨hin, hdebt⟩)
  obtain ⟨⟨w₄, closed⟩, hhandler, heq⟩ := exists_ok_of_map
    (refreshRepaid_withdraw hw ho hsettled hrepay ho₁ hmem hstale hage).symm
    (bind_eq_ok.2 ⟨w₃', hrefresh', hwithdraw'⟩)
  obtain ⟨heq₄, rfl⟩ := Prod.mk.inj heq
  obtain ⟨w₃, hrefresh, hwithdraw⟩ := bind_eq_ok.1 hhandler
  obtain ⟨o₃, ho₃, hwf₃, hsame⟩ := refreshRepaid_spec hw₁ ho₁ hrefresh
  have hsettled₃ := refreshRepaid_settledAt hw ho hsettled hrepay ho₁ hmem hstale hrefresh
  obtain ⟨w₅, hpost, heq₅⟩ := exists_ok_of_map
    (refreshPostWithdrawal_congr ht ho₃ hwf₃ hsame hsettled₃ hwithdraw heq₄.symm).symm hpost'
  refine ⟨w₅, heq₅.symm, fun w' hend ↦ (repayAndWithdrawAndRedeem_eq_ok hw ho).2 ?_⟩
  exact ⟨ltv, w₁, o₁, w₃, w₄, w₅, hltv, hrepay, ho₁, hrefresh, hwithdraw, hpost, hend⟩

theorem repayThenWithdraw_debtSummed (hw : w.WellFormed) (ho : w.loadObligation index = .ok o)
    (h : w.repayThenWithdraw clock index repayKey withdrawKey repayAmount withdrawAmount =
      .ok (w', false)) : ∃ o', w'.loadObligation index = .ok o' ∧ o'.DebtSummed := by
  obtain ⟨w₁, w₃, w₄, hrepay, hrefresh, hwithdraw, hpost⟩ := (repayThenWithdraw_eq_ok ho).1 h
  have hw₁ := wellFormed_of_repay hrepay hw
  obtain ⟨-, o₁, -, ho₁, -⟩ := repayObligationLiquidity_shape hw ho hrepay
  obtain ⟨o₃, ho₃, hwf₃, -⟩ := refreshInUse_spec hw₁ ho₁ hrefresh
  obtain ⟨o₄, ho₄, hwf₄, -⟩ := withdraw_shape ho₃ hwf₃ hwithdraw
  exact refreshInUse_debtSummed ho₄ hwf₄ hpost

/-- The end that the handler is to accept: no debt, or a loan-to-value that has not risen and the
other limits of an obligation with a debt. -/
def EndsWell (w : World) (index : ℕ) (withdrawKey : Pubkey) (o : Obligation) : Prop :=
  ∃ o' r, w.loadObligation index = .ok o' ∧ w.loadReserve withdrawKey = .ok r ∧
    (o'.borrowsEmpty ∨ ∃ initialLtv, o.loanToValue = .ok initialLtv ∧ o'.EndsWithin r initialLtv)

/-- Where the handler's end differs from that: it cannot compute the loan-to-value to begin with,
leaves the repaid reserve stale, drops the status of a price that it needs, or tests collateral
without a liquidation threshold against no debt. -/
structure EndsAlike (w w'' : World) (clock : Clock) (index : ℕ) (repayKey withdrawKey : Pubkey)
    (repayAmount : U64) (o : Obligation) : Prop where
  initial : ∃ ltv, o.loanToValue = .ok ltv
  refreshed : ¬ w.LeavesStale o repayKey withdrawKey repayAmount
  priced : w.Priced clock o repayKey repayAmount
  threshold : ∀ o', w''.loadObligation index = .ok o' → o'.borrowsEmpty →
    o'.depositedValueSf ≠ Fraction.zero →
    ∃ u, o'.unhealthyLoanToValue = .ok u ∧ Fraction.zero < u

/-- The handler goes through exactly when the parts do and end well, and then ends like them but for
the price status, with the obligation and the reserve marked stale, exactly if none of the four
differences shows. -/
theorem repayAndWithdrawAndRedeem_agrees_iff (hw : w.WellFormed)
    (ho : w.loadObligation index = .ok o)
    (hsettled : ∀ k ∈ o.reservesInUse, w.SettledAt clock k) :
    (((∃ w', w.repayAndWithdrawAndRedeem clock index repayKey withdrawKey repayAmount withdrawAmount
        o.reservesInUse o.referrerStatesInUse = .ok (w', false)) ↔
      ∃ w'', w.repayThenWithdraw clock index repayKey withdrawKey repayAmount withdrawAmount =
        .ok (w'', false) ∧ w''.EndsWell index withdrawKey o) ∧
    ∀ w' w'', w.repayAndWithdrawAndRedeem clock index repayKey withdrawKey repayAmount
        withdrawAmount o.reservesInUse o.referrerStatesInUse = .ok (w', false) →
      w.repayThenWithdraw clock index repayKey withdrawKey repayAmount withdrawAmount =
        .ok (w'', false) →
      w'.unpriced = (w''.leaveStale index withdrawKey).unpriced) ↔
    ∀ w'', w.repayThenWithdraw clock index repayKey withdrawKey repayAmount withdrawAmount =
      .ok (w'', false) → w''.EndsWell index withdrawKey o →
      EndsAlike w w'' clock index repayKey withdrawKey repayAmount o := by
  constructor
  · rintro ⟨hiff, -⟩ w'' hparts hend
    obtain ⟨w', hhandler⟩ := hiff.2 ⟨w'', hparts, hend⟩
    obtain ⟨hstale, hpriced, ltv, w₅, w₂, hltv, hparts', heq, henforce⟩ :=
      repayThenWithdraw_of_handler hw ho hsettled hhandler
    obtain ⟨rfl, -⟩ := Prod.mk.inj (Except.ok.inj (hparts'.symm.trans hparts))
    obtain ⟨o₁, r, ho₁, hr, hwithin, -⟩ := enforceRepayAndWithdraw_eq_ok.1 henforce
    obtain ⟨o₂, _, ho₂, -, hwithin'⟩ := endsWithin_of_unpriced heq ho₁ hr hwithin
    refine ⟨⟨ltv, hltv⟩, hstale, hpriced, fun o' ho' _ hvalue ↦ ?_⟩
    obtain rfl : o₂ = o' := Except.ok.inj (ho₂.symm.trans ho')
    obtain ⟨l, u, -, hu, -, hlt⟩ := hwithin'.healthy hvalue
    exact ⟨u, hu, (Nat.zero_le l.bits).trans_lt hlt⟩
  · intro h
    refine ⟨⟨?_, ?_⟩, fun w' w'' hhandler hparts ↦ ?_⟩
    · rintro ⟨w', hhandler⟩
      obtain ⟨-, -, ltv, w₅, w'', hltv, hparts, heq, henforce⟩ :=
        repayThenWithdraw_of_handler hw ho hsettled hhandler
      obtain ⟨o₁, r, ho₁, hr, hwithin, -⟩ := enforceRepayAndWithdraw_eq_ok.1 henforce
      obtain ⟨o₂, r₂, ho₂, hr₂, hwithin'⟩ := endsWithin_of_unpriced heq ho₁ hr hwithin
      exact ⟨w'', hparts, o₂, r₂, ho₂, hr₂, .inr ⟨ltv, hltv, hwithin'⟩⟩
    · rintro ⟨w'', hparts, hend⟩
      obtain ⟨⟨ltv, hltv⟩, hstale, hpriced, hthreshold⟩ := h w'' hparts hend
      obtain ⟨w₅, heq, hhandler⟩ :=
        handler_of_repayThenWithdraw hw ho hsettled hstale hpriced hltv hparts
      obtain ⟨o', r, ho', hr, hwithin⟩ : ∃ o' r, w''.loadObligation index = .ok o' ∧
          w''.loadReserve withdrawKey = .ok r ∧ o'.EndsWithin r ltv := by
        obtain ⟨o', r, ho', hr, hempty | ⟨ltv', hltv', hwithin⟩⟩ := hend
        · refine ⟨o', r, ho', hr, ?_⟩
          obtain ⟨o'', ho'', hsummed⟩ := repayThenWithdraw_debtSummed hw ho hparts
          obtain rfl : o'' = o' := Except.ok.inj (ho''.symm.trans ho')
          exact .of_no_debt (hsummed hempty) (hthreshold o'' ho' hempty)
        · obtain rfl := Except.ok.inj (hltv.symm.trans hltv')
          exact ⟨o', r, ho', hr, hwithin⟩
      obtain ⟨o₅, r₅, ho₅, hr₅, hwithin₅⟩ := endsWithin_of_unpriced heq.symm ho' hr hwithin
      exact ⟨_, hhandler _ (enforceRepayAndWithdraw_eq_ok.2 ⟨o₅, r₅, ho₅, hr₅, hwithin₅, rfl⟩)⟩
    · obtain ⟨-, -, ltv, w₅, w₂, -, hparts', heq, henforce⟩ :=
        repayThenWithdraw_of_handler hw ho hsettled hhandler
      obtain ⟨rfl, -⟩ := Prod.mk.inj (Except.ok.inj (hparts'.symm.trans hparts))
      obtain ⟨-, -, -, -, -, rfl⟩ := enforceRepayAndWithdraw_eq_ok.1 henforce
      rw [leaveStale_unpriced, leaveStale_unpriced, heq]

/-- A reserve refreshed in this slot. -/
def isSettledAt (w : World) (clock : Clock) (k : Pubkey) : Bool :=
  (w.loadReserve k).toOption.any fun r ↦
    decide (r.lastUpdate.stale = false ∧ r.lastUpdate.slot = clock.slot)

theorem settledAt_of_isSettledAt {k : Pubkey} (h : w.isSettledAt clock k = true) :
    w.SettledAt clock k := by
  rcases exists_eq_ok h with ⟨r, hr, hfresh⟩
  obtain ⟨hstale, hslot⟩ := of_decide_eq_true hfresh
  exact ⟨r, hr, hstale, hslot⟩

/-- The whole debt is repaid, and some of the collateral withdrawn. -/
theorem repayAndWithdrawAndRedeem_refreshedLoan : ∃ o w' w'',
    refreshedLoan.loadObligation 0 = .ok o ∧
    refreshedLoan.repayAndWithdrawAndRedeem ⟨3, 10⟩ 0 5 6 (Word.max 64) 1000 o.reservesInUse
      o.referrerStatesInUse = .ok (w', false) ∧
    refreshedLoan.repayThenWithdraw ⟨3, 10⟩ 0 5 6 (Word.max 64) 1000 = .ok (w'', false) ∧
    w'.unpriced = (w''.leaveStale 0 6).unpriced := by
  have hrun : Run Anything plainMarket refreshedLoan := run_after _ _ fun _ _ _ ↦ trivial
  have hw := hrun.wellFormed plainMarket_genesis.wellFormed
  rcases exists_eq_ok (x := refreshedLoan.loadObligation 0)
    (p := fun o ↦ decide (o.depositKeys = [6] ∧ o.borrowKeys = [5] ∧
      o.loanToValue.toOption.any fun _ ↦ true)) (by decide) with ⟨o, ho, hstart⟩
  obtain ⟨hdeposits, hborrows, hltv⟩ := of_decide_eq_true hstart
  have hsettled : ∀ k ∈ o.reservesInUse, refreshedLoan.SettledAt ⟨3, 10⟩ k := by
    rw [Obligation.reservesInUse, hdeposits, hborrows]
    simp only [List.cons_append, List.nil_append, List.forall_mem_cons]
    exact ⟨settledAt_of_isSettledAt (by decide), settledAt_of_isSettledAt (by decide),
      fun k hk ↦ absurd hk List.not_mem_nil⟩
  rcases exists_eq_ok
    (x := refreshedLoan.repayThenWithdraw ⟨3, 10⟩ 0 5 6 (Word.max 64) 1000)
    (p := fun p ↦ !p.2 && ((p.1.loadReserve 6).toOption.any fun _ ↦ true) &&
      (p.1.loadObligation 0).toOption.any fun o' ↦ o'.borrowsEmpty &&
        o'.unhealthyLoanToValue.toOption.any (Fraction.zero < ·)) (by decide)
    with ⟨⟨w'', closed⟩, hparts, hend⟩
  rw [Bool.and_eq_true, Bool.and_eq_true, Bool.not_eq_true'] at hend
  obtain ⟨⟨rfl, hreserve⟩, hobligation⟩ := hend
  rcases exists_eq_ok hobligation with ⟨o', ho', hthreshold⟩
  rw [Bool.and_eq_true] at hthreshold
  obtain ⟨hempty, hthreshold⟩ := hthreshold
  rcases exists_eq_ok hthreshold with ⟨u, hu, hpos⟩
  rcases exists_eq_ok hreserve with ⟨r, hr, -⟩
  have hwell : w''.EndsWell 0 6 o := ⟨o', r, ho', hr, .inl hempty⟩
  have halike : ∀ w₁, refreshedLoan.repayThenWithdraw ⟨3, 10⟩ 0 5 6 (Word.max 64) 1000 =
      .ok (w₁, false) → w₁.EndsWell 0 6 o →
      EndsAlike refreshedLoan w₁ ⟨3, 10⟩ 0 5 6 (Word.max 64) o := by
    intro w₁ hparts₁ _
    obtain ⟨rfl, -⟩ := Prod.mk.inj (Except.ok.inj (hparts.symm.trans hparts₁))
    refine ⟨?_, ?_, fun r hr _ ↦ ?_, fun o₁ ho₁ _ _ ↦ ?_⟩
    · rcases exists_eq_ok hltv with ⟨ltv, hltv, -⟩
      exact ⟨ltv, hltv⟩
    · rintro ⟨-, hmem, -⟩
      rw [hdeposits] at hmem
      exact absurd hmem (by decide)
    · rcases exists_eq_ok (x := refreshedLoan.loadReserve 5)
        (p := fun r ↦ decide (isSavedPriceAgeValid r ⟨3, 10⟩ = .ok true)) (by decide)
        with ⟨r₀, hr₀, hage⟩
      obtain rfl : r₀ = r := Except.ok.inj (hr₀.symm.trans hr)
      exact of_decide_eq_true hage
    · obtain rfl : o' = o₁ := Except.ok.inj (ho'.symm.trans ho₁)
      exact ⟨u, hu, of_decide_eq_true hpos⟩
  obtain ⟨hiff, hsame⟩ := (repayAndWithdrawAndRedeem_agrees_iff hw ho hsettled).2 halike
  obtain ⟨w', hhandler⟩ := hiff.2 ⟨w'', hparts, hwell⟩
  exact ⟨o, w', w'', ho, hhandler, hparts, hsame w' w'' hhandler hparts⟩

/-- Some of the borrowed token is collateral as well. -/
def mixedLoan : World :=
  plainMarket.after [(⟨1, 10⟩, .refreshReserve 5 unitPrice), (⟨1, 10⟩, .refreshReserve 6 unitPrice),
    (⟨1, 10⟩, .depositReserveLiquidity 5 1000), (⟨1, 10⟩, .depositReserveLiquidity 6 1000000),
    (⟨1, 10⟩, .initObligation 0 7 0), (⟨1, 10⟩, .refreshObligation 0 [] []),
    (⟨1, 10⟩, .depositObligationCollateral 0 6 1000000),
    (⟨1, 10⟩, .refreshReserve 5 unitPrice), (⟨1, 10⟩, .refreshReserve 6 unitPrice),
    (⟨1, 10⟩, .refreshObligation 0 [6] []), (⟨1, 10⟩, .depositObligationCollateral 0 5 1000),
    (⟨2, 10⟩, .refreshReserve 5 unitPrice), (⟨2, 10⟩, .refreshReserve 6 unitPrice),
    (⟨2, 10⟩, .refreshObligation 0 [6, 5] []),
    (⟨2, 10⟩, .borrowObligationLiquidity 0 5 500000 none [6, 5]),
    (⟨3, 10⟩, .refreshReserve 5 unitPrice), (⟨3, 10⟩, .refreshReserve 6 unitPrice),
    (⟨3, 10⟩, .refreshObligation 0 [6, 5, 5] [])]

/-- The parts repay the debt and withdraw, the handler finds the repaid reserve stale. -/
theorem mixedLoan_leftStale : plainMarket.Genesis ∧ Run Anything plainMarket mixedLoan ∧
    ∃ o, mixedLoan.loadObligation 0 = .ok o ∧
      (∀ k ∈ o.reservesInUse, mixedLoan.SettledAt ⟨3, 10⟩ k) ∧
      (∃ w'', mixedLoan.repayThenWithdraw ⟨3, 10⟩ 0 5 6 (Word.max 64) 1000 = .ok (w'', false) ∧
        w''.EndsWell 0 6 o) ∧
      mixedLoan.repayAndWithdrawAndRedeem ⟨3, 10⟩ 0 5 6 (Word.max 64) 1000 o.reservesInUse
        o.referrerStatesInUse = .error (.lending .reserveStale) := by
  rcases exists_eq_ok (x := mixedLoan.loadObligation 0)
    (p := fun o ↦ decide (o.depositKeys = [6, 5] ∧ o.borrowKeys = [5] ∧
      o.referrerStatesInUse = [])) (by decide) with ⟨o, ho, hstart⟩
  obtain ⟨hdeposits, hborrows, hstates⟩ := of_decide_eq_true hstart
  have hin : o.reservesInUse = [6, 5, 5] := by
    rw [Obligation.reservesInUse, hdeposits, hborrows]
    rfl
  have hsettled₅ : mixedLoan.SettledAt ⟨3, 10⟩ 5 := settledAt_of_isSettledAt (by decide)
  have hsettled₆ : mixedLoan.SettledAt ⟨3, 10⟩ 6 := settledAt_of_isSettledAt (by decide)
  rcases exists_eq_ok (x := mixedLoan.repayThenWithdraw ⟨3, 10⟩ 0 5 6 (Word.max 64) 1000)
    (p := fun p ↦ !p.2 && ((p.1.loadReserve 6).toOption.any fun _ ↦ true) &&
      (p.1.loadObligation 0).toOption.any (·.borrowsEmpty)) (by decide)
    with ⟨⟨w'', closed⟩, hparts, hend⟩
  have hstale : mixedLoan.repayAndWithdrawAndRedeem ⟨3, 10⟩ 0 5 6 (Word.max 64) 1000
      [6, 5, 5] [] = .error (.lending .reserveStale) :=
    eq_error_of_failsWith (by decide)
  rw [Bool.and_eq_true, Bool.and_eq_true, Bool.not_eq_true'] at hend
  obtain ⟨⟨rfl, hreserve⟩, hobligation⟩ := hend
  rcases exists_eq_ok hobligation with ⟨o', ho', hempty⟩
  rcases exists_eq_ok hreserve with ⟨r, hr, -⟩
  refine ⟨plainMarket_genesis, run_after _ _ fun _ _ _ ↦ trivial, o, ho, ?_,
    ⟨w'', hparts, o', r, ho', hr, .inl hempty⟩, ?_⟩
  · rw [hin]
    simp only [List.forall_mem_cons]
    exact ⟨hsettled₆, hsettled₅, hsettled₅, fun k hk ↦ absurd hk List.not_mem_nil⟩
  · rw [hin, hstates]
    exact hstale

end World

end Klend
