import Klend.Results.LoadedPositions
import Klend.Sdk.RepayWithCollateral

/-! # Estimates of repaying with collateral

The factor that a debt is estimated to grow by is zero where no interest accrues, though debts
are multiplied and divided by it. The repayment of a whole debt also fails where the fee of the
flash loan is not below the repayment.
-/

namespace Klend.Sdk

section Rounding

variable {places : ℕ} {x y : ℚ}

theorem le_ceilPlaces : x ≤ ceilPlaces places x := by
  rw [ceilPlaces, le_div_iff₀ (by positivity)]
  exact Int.le_ceil _

@[simp] theorem ceilPlaces_zero : ceilPlaces places 0 = 0 := by
  simp [ceilPlaces]

theorem numberToLamportsDecimal_ceilPlaces :
    numberToLamportsDecimal (ceilPlaces places x) places = ⌈x * 10 ^ places⌉ :=
  div_mul_cancel₀ _ (by positivity)

end Rounding

namespace KaminoReserve

variable {r : KaminoReserve}

theorem getFlashLoanFee_nonneg : 0 ≤ r.getFlashLoanFee := by
  unfold getFlashLoanFee
  split
  · exact le_rfl
  · exact sfToDecimal_nonneg _

theorem exists_calculateFlashLoanFees_iff {amount referralFeeBps : ℚ} {hasReferrer : Bool} :
    (∃ fees, r.calculateFlashLoanFees amount referralFeeBps hasReferrer = some fees) ↔
      r.getFlashLoanFee = 0 ∨ amount ≤ 0 ∨ r.getFlashLoanFee < 1 ∧ 1 < amount := by
  have hnonneg := r.getFlashLoanFee_nonneg
  rw [calculateFlashLoanFees, calculateFees]
  dsimp only
  by_cases hcharged : 0 < r.getFlashLoanFee ∧ 0 < amount
  · obtain ⟨hfee, hamount⟩ := hcharged
    rw [if_pos ⟨hfee, hamount⟩, or_iff_right hfee.ne', or_iff_right (not_le.2 hamount)]
    have hiff : amount ≤ max (amount * r.getFlashLoanFee) 1 ↔
        ¬ (r.getFlashLoanFee < 1 ∧ 1 < amount) := by
      rw [le_max_iff, le_mul_iff_one_le_right hamount, not_and_or, not_lt, not_lt]
    by_cases hpayable : r.getFlashLoanFee < 1 ∧ 1 < amount
    · rw [if_neg (mt hiff.1 (not_not.2 hpayable))]
      exact iff_of_true ⟨_, rfl⟩ hpayable
    · rw [if_pos (hiff.2 hpayable)]
      exact iff_of_false (fun ⟨_, h⟩ ↦ by cases h) hpayable
  · rw [if_neg hcharged]
    apply iff_of_true ⟨_, rfl⟩
    by_cases hfee : r.getFlashLoanFee = 0
    · exact .inl hfee
    · exact .inr (.inl (not_lt.1 fun hamount ↦ hcharged ⟨hnonneg.lt_of_ne' hfee, hamount⟩))

end KaminoReserve

namespace KaminoObligation

section Definitions

variable (market : KaminoMarket) (obligation : KaminoObligation) (reserve : KaminoReserve)
  (b : Klend.ObligationLiquidity) (slot : ℕ) (referrer : Pubkey)

/-- The whole debt in tokens. -/
def wholeDebt : ℚ := lamportsToDecimal (recordedDebt obligation reserve) reserve.decimals

/-- The estimates for a debt of an obligation at a slot are consistent. -/
structure Consistent : Prop where
  grows : ∃ rate, estimateObligationInterestRate market reserve (.decode b) slot = some rate ∧
    1 ≤ rate
  unaccrued : reserve.getEstimatedCumulativeBorrowRate slot (market.state.referralFeeBps : ℕ) =
      some (bigToDecimal b.cumulativeBorrowRateBsf) →
    estimateObligationInterestRate market reserve (.decode b) slot = some 1
  estimate : ∀ props : EstimateProps, market.getReserveByMint props.debtTokenMint = some reserve →
    props.currentSlot = slot → 0 < props.collAmount → 0 < props.priceDebtToColl →
    0 ≤ props.slippagePct → 0 ≤ props.flashBorrowReserveFlashLoanFeePercentage →
    ∃ debt rate coll, estimateDebtRepaymentWithColl market obligation props =
        some (.finite debt) ∧
      irSlippageBpsForDebt market obligation reserve slot = some rate ∧
      estimateCollNeededForDebtRepayment (debtBeforeRounding props rate) props.priceDebtToColl
        props.slippagePct props.flashBorrowReserveFlashLoanFeePercentage = .finite coll ∧
      coll ≤ props.collAmount
  repay : ∃ amount, calcRepayAmountWithSlippage market obligation reserve slot
      (wholeDebt obligation reserve) referrer = some amount ∧
    1001 / 1000 * wholeDebt obligation reserve ≤ amount.repayAmount

/-- Interest accrues on the debt up to the slot. -/
def Accrues : Prop :=
  b.cumulativeBorrowRateBsf.bits < reserve.state.liquidity.cumulativeBorrowRateBsf.bits ∨
  (reserve.state.lastUpdate.slot : ℕ) < slot ∧ ∃ apr,
    reserve.calculateBorrowAPR slot (market.state.referralFeeBps : ℕ) = some apr ∧ 0 < apr

/-- The debt with its growth and the margin is above the fee of a flash loan, which is at least
one lamport. -/
def FlashLoanPayable : Prop :=
  reserve.getFlashLoanFee = 0 ∨ recordedDebt obligation reserve = 0 ∨
  reserve.getFlashLoanFee < 1 ∧ ∃ rate,
    reserve.getEstimatedCumulativeBorrowRate slot (market.state.referralFeeBps : ℕ) = some rate ∧
    1 < recordedDebt obligation reserve * (ceilPlaces reserve.decimals
      (rate / sfToDecimal (limbSum b.cumulativeBorrowRateBsf)) * (1001 / 1000))

end Definitions

section Growth

variable {market : KaminoMarket} {reserve : KaminoReserve} {b : Klend.ObligationLiquidity}
  {slot : ℕ} {rate : ℚ}

theorem getCumulativeBorrowRate_decode :
    getCumulativeBorrowRate (.decode b) =
      some (sfToDecimal (limbSum b.cumulativeBorrowRateBsf)) := by
  rw [getCumulativeBorrowRate, List.sum_reverse]
  exact toDecimal_eq (limbSum_le.trans_lt b.cumulativeBorrowRateBsf.isLt)

theorem limbSum_div_le :
    sfToDecimal (limbSum b.cumulativeBorrowRateBsf) ≤ bigToDecimal b.cumulativeBorrowRateBsf :=
  sfToDecimal_le.2 limbSum_le

theorem estimateObligationInterestRate_eq
    (hrate : reserve.getEstimatedCumulativeBorrowRate slot (market.state.referralFeeBps : ℕ) =
      some rate) :
    estimateObligationInterestRate market reserve (.decode b) slot =
      some (if sfToDecimal (limbSum b.cumulativeBorrowRateBsf) < rate then
        rate / sfToDecimal (limbSum b.cumulativeBorrowRateBsf) else 0) := by
  rw [estimateObligationInterestRate, hrate, Option.bind_eq_bind, Option.bind_some,
    getCumulativeBorrowRate_decode]
  rfl

theorem accrues_iff (hvalid : reserve.Valid)
    (hle : b.cumulativeBorrowRateBsf.bits ≤ reserve.state.liquidity.cumulativeBorrowRateBsf.bits)
    (hrate : reserve.getEstimatedCumulativeBorrowRate slot (market.state.referralFeeBps : ℕ) =
      some rate) :
    Accrues market reserve b slot ↔ bigToDecimal b.cumulativeBorrowRateBsf < rate := by
  obtain ⟨apr, hapr, hapr0, hrate'⟩ :=
    hvalid.exists_calculateBorrowAPR slot (market.state.referralFeeBps : ℕ)
  obtain rfl := Option.some.inj (hrate'.symm.trans hrate)
  have hstored : 0 < reserve.getCumulativeBorrowRate :=
    KaminoReserve.getCumulativeBorrowRate_nonneg.lt_of_ne'
      hvalid.getCumulativeBorrowRate_ne_zero
  have hgrowth := one_le_approximateCompoundedInterest
    (n := slot - reserve.state.lastUpdate.slot) (decimalOf_nonneg hapr0)
  have hleq : bigToDecimal b.cumulativeBorrowRateBsf ≤ reserve.getCumulativeBorrowRate :=
    sfToDecimal_le.2 hle
  have hlt : b.cumulativeBorrowRateBsf.bits < reserve.state.liquidity.cumulativeBorrowRateBsf.bits ↔
      bigToDecimal b.cumulativeBorrowRateBsf < reserve.getCumulativeBorrowRate :=
    sfToDecimal_lt.symm
  have hcharged : reserve.state.lastUpdate.slot < slot ∧
      (∃ apr, reserve.calculateBorrowAPR slot (market.state.referralFeeBps : ℕ) = some apr ∧
        0 < apr) ↔
      1 < approximateCompoundedInterest (decimalOf apr)
        (slot - reserve.state.lastUpdate.slot) := by
    rw [one_lt_approximateCompoundedInterest_iff (decimalOf_nonneg hapr0),
      decimalOf_pos_iff hapr0, hapr]
    constructor
    · rintro ⟨hslot, _, heq, hpos⟩
      obtain rfl := Option.some.inj heq
      exact ⟨Nat.sub_ne_zero_of_lt hslot, hpos⟩
    · rintro ⟨hslot, hpos⟩
      exact ⟨by omega, apr, rfl, hpos⟩
  rw [Accrues, hlt, hcharged]
  constructor
  · rintro (h | h)
    · exact h.trans_le (le_mul_of_one_le_right hstored.le hgrowth)
    · exact hleq.trans_lt (lt_mul_of_one_lt_right hstored h)
  · intro h
    by_cases hone : 1 < approximateCompoundedInterest (decimalOf apr)
        (slot - reserve.state.lastUpdate.slot)
    · exact .inr hone
    · rw [le_antisymm (not_lt.1 hone) hgrowth, mul_one] at h
      exact .inl h

end Growth

section Repayment

variable {market : KaminoMarket} {o : Klend.Obligation} {obligation : KaminoObligation}
  {reserve : KaminoReserve} {b : Klend.ObligationLiquidity} {loadSlot slot : ℕ} {rate : ℚ}
  {referrer : Pubkey}

theorem wholeDebt_nonneg (h : 0 ≤ recordedDebt obligation reserve) :
    0 ≤ wholeDebt obligation reserve := div_nonneg h (by positivity)

/-- The recorded debt of a loaded obligation is not negative. -/
theorem recordedDebt_nonneg (hmarket : market.Valid) (ho : market.Keeps o)
    (hload : load market (.decode o) loadSlot = some obligation) (reserve : KaminoReserve) :
    0 ≤ recordedDebt obligation reserve := by
  obtain ⟨ds, bs, hentries⟩ := exists_entries hmarket ho hload
  rw [recordedDebt]
  rcases hget : obligation.borrows.get reserve.address with - | position
  · exact le_rfl
  · have hmem : (reserve.address, position) ∈ obligation.borrows := by
      obtain ⟨l₁, l₂, hsplit, -⟩ := List.lookup_eq_some_iff.1 hget
      rw [hsplit]
      simp
    rw [hentries.borrows] at hmem
    obtain ⟨entry, hentry, heq⟩ := List.mem_map.1 hmem
    rw [Option.map_some, Option.getD_some, ← (Prod.mk.inj heq).2]
    exact (hentries.borrow hentry).2.2.1

theorem irSlippageBpsForDebt_eq (ho : market.Holds o) (hstate : obligation.state = .decode o)
    (hb : b ∈ o.borrows) (hne : b.borrowReserve ≠ 0) (hkey : b.borrowReserve = reserve.address) :
    irSlippageBpsForDebt market obligation reserve slot =
      (estimateObligationInterestRate market reserve (.decode b) slot).map
        (ceilPlaces reserve.decimals) := by
  have hfind := SlotTable.find?_key_of_pairwise ho.distinct hb hne
  rw [irSlippageBpsForDebt, hstate, find?_decode, ← hkey, hfind, Option.map_some,
    Option.bind_eq_bind, Option.bind_some, Option.map_eq_bind]
  rfl

theorem collNeeded_eq {props : EstimateProps} (hrate : 0 < rate)
    (hprice : 0 < props.priceDebtToColl) (hslippage : 0 ≤ props.slippagePct)
    (hfee : 0 ≤ props.flashBorrowReserveFlashLoanFeePercentage) :
    estimateCollNeededForDebtRepayment (debtBeforeRounding props rate) props.priceDebtToColl
        props.slippagePct props.flashBorrowReserveFlashLoanFeePercentage =
      .finite (props.collAmount / (rate * (101 / 100))) := by
  have hslippage : 1 + props.slippagePct / 100 ≠ 0 := by positivity
  have hfee : 1 + props.flashBorrowReserveFlashLoanFeePercentage / 100 ≠ 0 := by positivity
  have hrate : rate * (101 / 100) ≠ 0 := by positivity
  rw [debtBeforeRounding, Extended.finite_div hrate, estimateCollNeededForDebtRepayment]
  simp only [Extended.finite_mul, Extended.finite_inj]
  field_simp

theorem exists_estimateDebtRepaymentWithColl {props : EstimateProps}
    (hmint : market.getReserveByMint props.debtTokenMint = some reserve)
    (hslippage : irSlippageBpsForDebt market obligation reserve props.currentSlot = some rate)
    (hrate : 0 < rate) :
    ∃ debt, estimateDebtRepaymentWithColl market obligation props = some (.finite debt) := by
  have hmargin : rate * (101 / 100) ≠ 0 := by positivity
  rw [estimateDebtRepaymentWithColl, hmint, Option.bind_eq_bind, Option.bind_some, hslippage,
    Option.bind_eq_bind, Option.bind_some, debtBeforeRounding, Extended.finite_div hmargin]
  exact ⟨_, rfl⟩

theorem repays_iff (hrate : irSlippageBpsForDebt market obligation reserve slot = some rate)
    (hone : 1 ≤ rate) (hdebt : 0 ≤ recordedDebt obligation reserve) :
    (∃ amount, calcRepayAmountWithSlippage market obligation reserve slot
        (wholeDebt obligation reserve) referrer = some amount ∧
      1001 / 1000 * wholeDebt obligation reserve ≤ amount.repayAmount) ↔
    reserve.getFlashLoanFee = 0 ∨ recordedDebt obligation reserve = 0 ∨
      reserve.getFlashLoanFee < 1 ∧
        1 < recordedDebt obligation reserve * (rate * (1001 / 1000)) := by
  have hwhole := wholeDebt_nonneg hdebt
  obtain ⟨adjusted, hadjusted⟩ : ∃ adjusted, adjusted = ceilPlaces reserve.decimals
    (wholeDebt obligation reserve * (rate * (1001 / 1000))) := ⟨_, rfl⟩
  have hmargin : 1001 / 1000 * wholeDebt obligation reserve ≤ adjusted := by
    rw [hadjusted]
    apply le_trans _ le_ceilPlaces
    rw [mul_comm]
    exact mul_le_mul_of_nonneg_left (by linarith) hwhole
  have hcovers : wholeDebt obligation reserve ≤ adjusted := by linarith
  have hlamports : numberToLamportsDecimal adjusted reserve.decimals =
      ⌈recordedDebt obligation reserve * (rate * (1001 / 1000))⌉ := by
    rw [hadjusted, numberToLamportsDecimal_ceilPlaces, wholeDebt, lamportsToDecimal,
      mul_right_comm, div_mul_cancel₀ _ (by positivity)]
  have hfee := @KaminoReserve.exists_calculateFlashLoanFees_iff reserve
    (numberToLamportsDecimal adjusted reserve.decimals) (market.state.referralFeeBps : ℕ)
    (referrer ≠ 0)
  have hnone : ((⌈recordedDebt obligation reserve * (rate * (1001 / 1000))⌉ : ℤ) : ℚ) ≤ 0 ↔
      recordedDebt obligation reserve = 0 := by
    have hfactor : 0 < rate * (1001 / 1000) := by positivity
    rw [← Int.cast_zero, Int.cast_le, Int.ceil_le, Int.cast_zero, ← not_lt,
      mul_pos_iff_of_pos_right hfactor, not_lt]
    exact hdebt.ge_iff_eq'
  have hsome : 1 < ((⌈recordedDebt obligation reserve * (rate * (1001 / 1000))⌉ : ℤ) : ℚ) ↔
      1 < recordedDebt obligation reserve * (rate * (1001 / 1000)) := by
    rw [← Int.cast_one, Int.cast_lt, Int.lt_ceil, Int.cast_one]
  rw [hlamports, hnone, hsome] at hfee
  rw [← hfee, ← hlamports, calcRepayAmountWithSlippage, hrate, Option.bind_eq_bind,
    Option.bind_some]
  dsimp only
  rw [← hadjusted, ← wholeDebt, if_pos hcovers, calcFlashRepayAmount]
  constructor
  · rintro ⟨amount, hamount, -⟩
    simp only [Option.bind_eq_bind, Option.bind_eq_some_iff] at hamount
    obtain ⟨_, ⟨fees, hfees, -⟩, -⟩ := hamount
    exact ⟨fees, hfees⟩
  · rintro ⟨fees, hfees⟩
    rw [hfees]
    exact ⟨_, rfl, hmargin⟩

/-- The estimates are consistent exactly where interest accrues and the flash loan is paid for. -/
theorem repay_estimates_iff (hmarket : market.Valid) (ho : market.Keeps o)
    (hload : load market (.decode o) loadSlot = some obligation) (hb : b ∈ o.borrows)
    (hne : b.borrowReserve ≠ 0)
    (hreserve : market.getReserveByAddress b.borrowReserve = some reserve) :
    Consistent market obligation reserve b slot referrer ↔
      Accrues market reserve b slot ∧ FlashLoanPayable market obligation reserve b slot := by
  obtain ⟨reserve', hreserve', hstored, hle⟩ := ho.borrow b hb hne
  obtain rfl := Option.some.inj (hreserve.symm.trans hreserve')
  have hvalid := (valid_of_getReserveByAddress hmarket hreserve).1
  obtain ⟨ds, bs, hentries⟩ := exists_entries hmarket ho hload
  have hdebt := recordedDebt_nonneg hmarket ho hload reserve
  obtain ⟨rate, hrate, hrateLe⟩ :=
    hvalid.exists_cumulativeBorrowRate slot (market.state.referralFeeBps : ℕ)
  obtain ⟨former, hformer⟩ : ∃ former, former =
    sfToDecimal (limbSum b.cumulativeBorrowRateBsf) := ⟨_, rfl⟩
  have hformer0 : 0 < former := by
    rw [hformer, ← sfToDecimal_zero, sfToDecimal_lt]
    exact limbSum_pos hstored
  have hformerLe : former ≤ bigToDecimal b.cumulativeBorrowRateBsf := hformer ▸ limbSum_div_le
  have hgrowth := estimateObligationInterestRate_eq (b := b) hrate
  have hslippage : irSlippageBpsForDebt market obligation reserve slot = _ :=
    irSlippageBpsForDebt_eq ho.toHolds hentries.state hb hne
      (KaminoMarket.address_of_getReserveByAddress hreserve).symm
  rw [← hformer] at hgrowth
  rw [hgrowth, Option.map_some] at hslippage
  have hfactor (h : former < rate) :
      irSlippageBpsForDebt market obligation reserve slot =
        some (ceilPlaces reserve.decimals (rate / former)) ∧
      1 ≤ ceilPlaces reserve.decimals (rate / former) := by
    rw [if_pos h] at hslippage
    exact ⟨hslippage, ((one_le_div hformer0).2 h.le).trans le_ceilPlaces⟩
  rw [accrues_iff hvalid hle hrate]
  constructor
  · intro h
    have hgrows : former < rate := by
      obtain ⟨factor, hfactor, hone⟩ := h.grows
      rw [hgrowth] at hfactor
      by_contra hnot
      rw [if_neg hnot, Option.some.injEq] at hfactor
      linarith
    constructor
    · have hstoredLe : bigToDecimal b.cumulativeBorrowRateBsf ≤ rate :=
        (sfToDecimal_le.2 hle).trans hrateLe
      apply hstoredLe.lt_of_ne
      intro heq
      have hone := h.unaccrued (hrate.trans (congrArg some heq.symm))
      rw [hgrowth, if_pos hgrows, Option.some.injEq, div_eq_one_iff_eq hformer0.ne'] at hone
      exact hgrows.ne' hone
    · obtain ⟨hrounded, hone⟩ := hfactor hgrows
      have hpayable := (repays_iff hrounded hone hdebt).1 h.repay
      rw [FlashLoanPayable, hrate, ← hformer]
      exact hpayable.imp_right (Or.imp_right (And.imp_right fun h ↦ ⟨rate, rfl, h⟩))
  · rintro ⟨haccrues, hpayable⟩
    have hgrows : former < rate := hformerLe.trans_lt haccrues
    obtain ⟨hrounded, hone⟩ := hfactor hgrows
    exact {
      grows := ⟨_, hgrowth, by
        rw [if_pos hgrows]
        exact (one_le_div hformer0).2 hgrows.le⟩
      unaccrued := by
        intro heq
        exact absurd (Option.some.inj (hrate.symm.trans heq)) haccrues.ne'
      estimate := by
        rintro props hmint rfl hcoll hprice hslip hfee
        have hpos := zero_lt_one.trans_le hone
        obtain ⟨debt, hdebt⟩ := exists_estimateDebtRepaymentWithColl hmint hrounded hpos
        exact ⟨debt, _, _, hdebt, hrounded, collNeeded_eq hpos hprice hslip hfee,
          div_le_self hcoll.le (by linarith)⟩
      repay := by
        rw [repays_iff hrounded hone hdebt]
        rw [FlashLoanPayable, hrate, ← hformer] at hpayable
        apply hpayable.imp_right (Or.imp_right (And.imp_right _))
        rintro ⟨_, heq, h⟩
        rwa [← Option.some.inj heq] at h }

end Repayment

section Current

theorem doubledMarket_keeps {rate : BigFraction} (hne : rate.bits ≠ 0)
    (hle : rate.bits ≤ doubledRate.bits) : doubledMarket.Keeps (owedHundred rate) where
  toHolds := doubledMarket_holds hne hle
  distinctDeposits := .nil

/-- The slot of the debt of 100. -/
def hundredDebt (rate : BigFraction) : Klend.ObligationLiquidity :=
  { (default : Klend.ObligationLiquidity) with
    borrowReserve := 5
    cumulativeBorrowRateBsf := rate
    borrowedAmountSf := KaminoReserve.storedAs 100 }

/-- A debt whose rate has doubled, without a fee for flash loans. -/
theorem repay_estimates_doubled : ∃ obligation,
    load doubledMarket (.decode (owedHundred oldRate)) 0 = some obligation ∧
    Consistent doubledMarket obligation doubledReserve (hundredDebt oldRate) 0 0 := by
  obtain ⟨obligation, hload⟩ :=
    Option.isSome_iff_exists.1 (show
      (load doubledMarket (.decode (owedHundred oldRate)) 0).isSome by decide +kernel)
  refine ⟨obligation, hload, ?_⟩
  exact (repay_estimates_iff doubledMarket_valid (doubledMarket_keeps (by decide) (by decide))
    hload (List.mem_singleton_self (hundredDebt oldRate)) (by decide) rfl).2
      ⟨.inl (by decide), .inl (by decide +kernel)⟩

/-- A swap of one token of collateral at par. -/
def parProps : EstimateProps where
  collAmount := 1
  priceDebtToColl := 1
  slippagePct := 0
  flashBorrowReserveFlashLoanFeePercentage := 0
  debtTokenMint := 1
  currentSlot := 0

/-- In the slot of the last refresh the factor is zero: a token of collateral repays an infinite
debt, and the debt of 100 is repaid with 100. -/
theorem repay_estimates_unaccrued :
    doubledMarket.Valid ∧ doubledMarket.Keeps (owedHundred doubledRate) ∧ ∃ obligation,
    load doubledMarket (.decode (owedHundred doubledRate)) 0 = some obligation ∧
    estimateObligationInterestRate doubledMarket doubledReserve
      (.decode (hundredDebt doubledRate)) 0 = some 0 ∧
    estimateDebtRepaymentWithColl doubledMarket obligation parProps = some (.infinity false) ∧
    (calcRepayAmountWithSlippage doubledMarket obligation doubledReserve 0
      (wholeDebt obligation doubledReserve) 0).map RepayAmount.repayAmount = some 100 ∧
    wholeDebt obligation doubledReserve = 100 ∧
    ¬ Consistent doubledMarket obligation doubledReserve (hundredDebt doubledRate) 0 0 := by
  obtain ⟨obligation, hload⟩ :=
    Option.isSome_iff_exists.1 (show
      (load doubledMarket (.decode (owedHundred doubledRate)) 0).isSome by decide +kernel)
  have hfactor : estimateObligationInterestRate doubledMarket doubledReserve
      (.decode (hundredDebt doubledRate)) 0 = some 0 := by decide +kernel
  have hcoll : ((load doubledMarket (.decode (owedHundred doubledRate)) 0).bind
      (estimateDebtRepaymentWithColl doubledMarket · parProps)) = some (.infinity false) := by
    decide +kernel
  have hrepay : ((load doubledMarket (.decode (owedHundred doubledRate)) 0).bind fun obligation ↦
      (calcRepayAmountWithSlippage doubledMarket obligation doubledReserve 0
        (wholeDebt obligation doubledReserve) 0).map RepayAmount.repayAmount) = some 100 := by
    decide +kernel
  have hdebt : (load doubledMarket (.decode (owedHundred doubledRate)) 0).map
      (wholeDebt · doubledReserve) = some 100 := by
    decide +kernel
  rw [hload] at hcoll hrepay hdebt
  refine ⟨doubledMarket_valid, doubledMarket_keeps (by decide) le_rfl, obligation, hload, hfactor,
    hcoll, hrepay, Option.some.inj hdebt, ?_⟩
  rintro ⟨⟨factor, heq, hone⟩, -, -, -⟩
  rw [← Option.some.inj (hfactor.symm.trans heq)] at hone
  exact absurd hone (by norm_num)

end Current

end KaminoObligation

end Klend.Sdk
