import Klend.Sdk.Leverage
import Mathlib.Tactic.FieldSimp
import Mathlib.Tactic.Linarith
import Mathlib.Tactic.LinearCombination
import Mathlib.Tactic.Positivity
import Mathlib.Tactic.Ring

/-! # What a leverage plan achieves

The plan ends at its target leverage. It borrows the fee of the flash loan on top of what the
deposit takes, and so pays a fee on the fee that no swap output is planned for.
-/

namespace Klend.Sdk.DepositLeverageProps

/-- A positive deposit and price, and a leverage above one. -/
structure Valid (props : DepositLeverageProps) : Prop where
  deposit : 0 < props.depositAmount
  price : 0 < props.priceDebtToColl
  slippage : 0 ≤ props.slippagePct
  fee : 0 ≤ props.flashLoanFee
  leverage : 1 < props.targetLeverage

variable {props : DepositLeverageProps}

/-- The leverage that the plan leaves. -/
def HitsTarget (props : DepositLeverageProps) : Prop :=
  let plan := props.depositLeverageCalcs
  plan.collTokenToDeposit /
    (plan.collTokenToDeposit - plan.debtTokenToBorrow * props.priceDebtToColl) =
      props.targetLeverage

/-- The deposit of the user that is in collateral. -/
def ownCollateral (props : DepositLeverageProps) : ℚ :=
  if props.depositTokenIsCollToken then props.depositAmount else 0

/-- Every swap within the slippage leaves enough collateral to repay the flash loan. -/
def FinancesItself (props : DepositLeverageProps) : Prop :=
  let plan := props.depositLeverageCalcs
  ∀ swapOut, plan.swapDebtTokenIn * props.priceDebtToColl / (1 + props.slippage) ≤ swapOut →
    plan.flashBorrowInCollToken * (1 + props.flashLoanFee) ≤
      props.ownCollateral + plan.flashBorrowInCollToken - plan.collTokenToDeposit + swapOut

namespace Valid

variable (hprops : props.Valid)
include hprops

theorem slippage_nonneg : 0 ≤ props.slippage := div_nonneg hprops.slippage (by norm_num)

theorem y_pos : 0 < props.y :=
  mul_pos (zero_lt_one.trans hprops.leverage) hprops.price

theorem x_mul_price :
    props.x * props.priceDebtToColl = (props.flashLoanFee + 1) * (props.slippage + 1) :=
  div_mul_cancel₀ _ hprops.price.ne'

theorem denominator_pos : 0 < props.x - (props.targetLeverage - 1) / props.y := by
  have hone : 1 ≤ (props.flashLoanFee + 1) * (props.slippage + 1) :=
    one_le_mul_of_one_le_of_one_le (by linarith [hprops.fee]) (by linarith [hprops.slippage_nonneg])
  have hleverage := hprops.leverage
  have hprice := hprops.price
  have hscaled : (props.x - (props.targetLeverage - 1) / props.y) * props.y =
      props.x * props.priceDebtToColl * props.targetLeverage - (props.targetLeverage - 1) := by
    rw [sub_mul, div_mul_cancel₀ _ hprops.y_pos.ne', y]
    ring
  have hpos : 0 < (props.x - (props.targetLeverage - 1) / props.y) * props.y := by
    rw [hscaled, hprops.x_mul_price]
    nlinarith
  exact (mul_pos_iff_of_pos_right hprops.y_pos).1 hpos

/-- What the deposit takes beside the user's own collateral. The plan borrows it with a fee on top,
and swaps what would repay it. -/
theorem exists_needed : ∃ needed, 0 < needed ∧
    props.ownCollateral + needed = props.depositLeverageCalcs.collTokenToDeposit ∧
    props.depositLeverageCalcs.flashBorrowInCollToken = needed * (props.flashLoanFee + 1) ∧
    props.depositLeverageCalcs.swapDebtTokenIn = needed * props.x := by
  have hdenominator := hprops.denominator_pos
  have hratio : 0 < (props.targetLeverage - 1) / props.y :=
    div_pos (sub_pos.2 hprops.leverage) hprops.y_pos
  unfold ownCollateral depositLeverageCalcs
  split
  · apply Exists.intro (props.depositAmount * props.x /
      (props.x - (props.targetLeverage - 1) / props.y) - props.depositAmount)
    refine ⟨?_, add_sub_cancel _ _, rfl, rfl⟩
    rw [sub_pos, lt_div_iff₀ hdenominator]
    exact mul_lt_mul_of_pos_left (sub_lt_self _ hratio) hprops.deposit
  · refine ⟨_, div_pos hprops.deposit hdenominator, zero_add _, rfl, ?_⟩
    dsimp only
    field_simp
    ring

/-- The debt is worth all but one part of the leverage. -/
theorem debt_value : props.depositLeverageCalcs.debtTokenToBorrow * props.priceDebtToColl *
    props.targetLeverage =
      props.depositLeverageCalcs.collTokenToDeposit * (props.targetLeverage - 1) := by
  have hdenominator := hprops.denominator_pos.ne'
  have hy := hprops.y_pos.ne'
  have hvalue (debt : ℚ) :
      debt * props.priceDebtToColl * props.targetLeverage = debt * props.y := by
    rw [y]
    ring
  rw [hvalue]
  by_cases hcoll : props.depositTokenIsCollToken
  · simp only [depositLeverageCalcs, if_pos hcoll]
    have hfinal := div_mul_cancel₀ (props.depositAmount * props.x) hdenominator
    have hratio := div_mul_cancel₀ (props.targetLeverage - 1) hy
    generalize props.depositAmount * props.x / _ = finalColl at hfinal ⊢
    linear_combination props.y * hfinal + finalColl * hratio
  · simp only [depositLeverageCalcs, if_neg hcoll]
    rw [div_mul_cancel₀ _ hy, mul_comm]

theorem hitsTarget : props.HitsTarget := by
  obtain ⟨needed, hneeded, hdeposit, -⟩ := hprops.exists_needed
  have hown : 0 ≤ props.ownCollateral := by
    unfold ownCollateral
    split
    · exact hprops.deposit.le
    · exact le_rfl
  have hpos : 0 < props.depositLeverageCalcs.collTokenToDeposit := by
    rw [← hdeposit]
    exact add_pos_of_nonneg_of_pos hown hneeded
  have hequity : props.targetLeverage * (props.depositLeverageCalcs.collTokenToDeposit -
      props.depositLeverageCalcs.debtTokenToBorrow * props.priceDebtToColl) =
        props.depositLeverageCalcs.collTokenToDeposit := by
    linarith [hprops.debt_value]
  unfold HitsTarget
  dsimp only
  rw [div_eq_iff, hequity]
  intro hzero
  rw [hzero, mul_zero] at hequity
  exact hpos.ne hequity

theorem financesItself_iff : props.FinancesItself ↔ props.flashLoanFee = 0 := by
  obtain ⟨needed, hneeded, hdeposit, hborrow, hswap⟩ := hprops.exists_needed
  have hslippage : 0 < 1 + props.slippage := by linarith [hprops.slippage_nonneg]
  have hswapped : props.depositLeverageCalcs.swapDebtTokenIn * props.priceDebtToColl /
      (1 + props.slippage) = needed * (props.flashLoanFee + 1) := by
    rw [hswap, mul_assoc, hprops.x_mul_price, div_eq_iff hslippage.ne']
    ring
  unfold FinancesItself
  dsimp only
  rw [hswapped, hborrow, ← hdeposit]
  constructor
  · intro h
    have hleast := h _ le_rfl
    have hsquare : needed * props.flashLoanFee ^ 2 ≤ 0 := by linarith
    have hfee : props.flashLoanFee ^ 2 ≤ 0 := by
      by_contra hpos
      exact absurd hsquare (not_le.2 (mul_pos hneeded (not_le.1 hpos)))
    exact pow_eq_zero_iff two_ne_zero |>.1 (le_antisymm hfee (sq_nonneg _))
  · intro h swapOut hout
    rw [h] at hout ⊢
    linarith

end Valid

/-- The plan hits its target leverage, and finances itself exactly where the flash loan is free. -/
theorem depositLeverageCalcs_plan_iff (hprops : props.Valid) :
    props.HitsTarget ∧ (props.FinancesItself ↔ props.flashLoanFee = 0) :=
  ⟨hprops.hitsTarget, hprops.financesItself_iff⟩

/-- A deposit of 10 at leverage 3, equal prices and no slippage. -/
def tripled (flashLoanFee : ℚ) (depositTokenIsCollToken : Bool) : DepositLeverageProps where
  depositAmount := 10
  depositTokenIsCollToken := depositTokenIsCollToken
  depositTokenIsSol := false
  priceDebtToColl := 1
  targetLeverage := 3
  slippagePct := 0
  flashLoanFee := flashLoanFee

theorem tripled_valid {flashLoanFee : ℚ} {depositTokenIsCollToken : Bool}
    (h : 0 ≤ flashLoanFee) : (tripled flashLoanFee depositTokenIsCollToken).Valid where
  deposit := by norm_num [tripled]
  price := by norm_num [tripled]
  slippage := le_rfl
  fee := h
  leverage := by norm_num [tripled]

theorem tripled_free_plan : (tripled 0 true).HitsTarget ∧ (tripled 0 true).FinancesItself := by
  obtain ⟨htarget, hiff⟩ := depositLeverageCalcs_plan_iff (tripled_valid (le_refl (0 : ℚ)))
  exact ⟨htarget, hiff.2 rfl⟩

/-- With a fee, the swap may leave less than the loan, in both modes. -/
theorem tripled_not_financesItself :
    (tripled (1 / 10) true).Valid ∧ ¬ (tripled (1 / 10) true).FinancesItself ∧
    (tripled (1 / 10) false).Valid ∧ ¬ (tripled (1 / 10) false).FinancesItself := by
  have hfee : (1 / 10 : ℚ) ≠ 0 := by norm_num
  have hvalid (depositTokenIsCollToken : Bool) : (tripled (1 / 10) depositTokenIsCollToken).Valid :=
    tripled_valid (by norm_num)
  exact ⟨hvalid true, mt (hvalid true).financesItself_iff.1 hfee, hvalid false,
    mt (hvalid false).financesItself_iff.1 hfee⟩

end Klend.Sdk.DepositLeverageProps
