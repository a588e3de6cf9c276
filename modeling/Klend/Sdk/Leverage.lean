import Mathlib.Algebra.Order.Field.Rat

/-! # Plans of leveraged deposits

The client plans a deposit with leverage: a flash loan of collateral is deposited with the
user's own tokens, debt is borrowed against both and swapped to repay the loan. Decimals are
exact.
-/

namespace Klend.Sdk

/-- The parameters of `depositLeverageCalcs`. -/
structure DepositLeverageProps where
  depositAmount : ℚ
  depositTokenIsCollToken : Bool
  depositTokenIsSol : Bool
  priceDebtToColl : ℚ
  targetLeverage : ℚ
  slippagePct : ℚ
  flashLoanFee : ℚ

structure DepositLeverageCalcsResult where
  flashBorrowInCollToken : ℚ
  initDepositInSol : ℚ
  debtTokenToBorrow : ℚ
  collTokenToDeposit : ℚ
  swapDebtTokenIn : ℚ
  swapCollTokenExpectedOut : ℚ
  flashBorrowInDebtTokenKtokenOnly : ℚ
  singleSidedDepositKtokenOnly : ℚ
  requiredCollateralKtokenOnly : ℚ
deriving DecidableEq, Repr

namespace DepositLeverageProps

variable (props : DepositLeverageProps)

def slippage : ℚ := props.slippagePct / 100

/-- The debt tokens that buy what repays one token of the flash loan. -/
def x : ℚ := (props.flashLoanFee + 1) * (props.slippage + 1) / props.priceDebtToColl

def y : ℚ := props.targetLeverage * props.priceDebtToColl

def depositLeverageCalcs : DepositLeverageCalcsResult :=
  let initDepositInSol := if props.depositTokenIsSol then props.depositAmount else 0
  if props.depositTokenIsCollToken then
    let finalColl :=
      props.depositAmount * props.x / (props.x - (props.targetLeverage - 1) / props.y)
    let debt := (finalColl - props.depositAmount) * props.x
    let flashBorrowColl := (finalColl - props.depositAmount) * (props.flashLoanFee + 1)
    { flashBorrowInCollToken := flashBorrowColl
      initDepositInSol
      debtTokenToBorrow := debt
      collTokenToDeposit := finalColl
      swapDebtTokenIn := debt
      swapCollTokenExpectedOut := finalColl - props.depositAmount
      flashBorrowInDebtTokenKtokenOnly := 0
      singleSidedDepositKtokenOnly := 0
      requiredCollateralKtokenOnly := 0 }
  else
    let finalColl := props.depositAmount / (props.x - (props.targetLeverage - 1) / props.y)
    let flashBorrowColl := finalColl * (props.flashLoanFee + 1)
    let debt := (props.targetLeverage - 1) * finalColl / props.y
    { flashBorrowInCollToken := flashBorrowColl
      initDepositInSol
      debtTokenToBorrow := debt
      collTokenToDeposit := finalColl
      swapDebtTokenIn := debt + props.depositAmount
      swapCollTokenExpectedOut := finalColl
      flashBorrowInDebtTokenKtokenOnly := 0
      singleSidedDepositKtokenOnly := 0
      requiredCollateralKtokenOnly := 0 }

end DepositLeverageProps

end Klend.Sdk
