import Klend.Sdk.ObligationPositions

/-! # Simulated obligations

The client shows what an action would make of an obligation: it changes the slots that the
action touches and recomputes every position. Decimals are exact, and the amounts go through
JavaScript numbers. `none` is an exception.
-/

namespace Klend.Sdk

inductive ActionType where
  | deposit
  | borrow
  | withdraw
  | repay
  | mint
  | redeem
  | depositCollateral
  | liquidate
  | depositAndBorrow
  | repayAndWithdraw
  | refreshObligation
  | requestElevationGroup
  | withdrawReferrerFees
  | repayAndWithdrawV2
  | depositAndWithdraw
deriving DecidableEq, Repr

/-- The parameters of `getSimulatedObligationStats`. -/
structure SimulationParams where
  amountCollateral : Option ℚ
  amountDebt : Option ℚ
  action : ActionType
  mintCollateral : Option Pubkey
  mintDebt : Option Pubkey
  slot : ℕ
  elevationGroupOverride : Option ℕ

namespace KaminoObligation

def simulateDepositChange (obligationDeposits : List ObligationCollateral) (changeInLamports : ℚ)
    (changeReserve : Pubkey) (collateralExchangeRates : PubkeyHashMap ℚ) :
    Option (List ObligationCollateral) :=
  match obligationDeposits.findIdx? (·.depositReserve = changeReserve) with
  | some _ => obligationDeposits.mapM fun deposit ↦
    if deposit.depositReserve = changeReserve then do
      let exchangeRate ← collateralExchangeRates.get changeReserve
      let changeInCollateral := round (decimalOf changeInLamports * exchangeRate)
      let depositedAmount ← toNumber deposit.depositedAmount
      pure { deposit with depositedAmount := (depositedAmount + changeInCollateral).toNat }
    else some deposit
  | none => do
    let firstBorrowIndexAvailable ← obligationDeposits.findIdx? (·.depositReserve = 0)
    let exchangeRate ← collateralExchangeRates.get changeReserve
    let changeInCollateral := round (decimalOf changeInLamports * exchangeRate)
    pure (obligationDeposits.set firstBorrowIndexAvailable
      { depositReserve := changeReserve, depositedAmount := changeInCollateral.toNat })

def simulateBorrowChange (obligationBorrows : List ObligationLiquidity) (changeInLamports : ℚ)
    (changeReserve : Pubkey) (cumulativeBorrowRate : ℚ) : Option (List ObligationLiquidity) :=
  match obligationBorrows.find? (·.borrowReserve = changeReserve) with
  | some borrow => do
    let borrowedAmount ← toDecimal borrow.borrowedAmountSf
    let newBorrowedAmount := borrowedAmount + decimalOf changeInLamports
    let newBorrowedAmountSf ← fromDecimal (positiveOrZero newBorrowedAmount)
    pure (obligationBorrows.map fun unchanged ↦
      if unchanged.borrowReserve = changeReserve then
        { borrow with borrowedAmountSf := newBorrowedAmountSf }
      else unchanged)
  | none => do
    let firstBorrowIndexAvailable ← obligationBorrows.findIdx? (·.borrowReserve = 0)
    let borrowedAmountSf ← fromDecimal (decimalOf changeInLamports)
    let rate ← fromDecimal cumulativeBorrowRate
    pure (obligationBorrows.set firstBorrowIndexAvailable {
      borrowReserve := changeReserve
      cumulativeBorrowRateBsf := [rate, 0, 0, 0]
      borrowedAmountSf })

section Simulation

variable (market : KaminoMarket) (obligation : Obligation) (params : SimulationParams)

/-- The reserve of a mint that may be given, which must be in the market. -/
def reserveOfMint : Option Pubkey → Option (Option KaminoReserve)
  | none => some none
  | some mint => (market.getReserveByMint mint).map some

/-- The slots after the action. -/
def simulateAction (collateralExchangeRates : PubkeyHashMap ℚ)
    (collateralReserve debtReserve : Option KaminoReserve) :
    Option (List ObligationCollateral × List ObligationLiquidity) :=
  let changeDeposits (sign : ℚ) : Option (List ObligationCollateral) := do
    let amountCollateral ← params.amountCollateral
    let reserve ← collateralReserve
    simulateDepositChange obligation.deposits (numberOf (sign * amountCollateral)) reserve.address
      collateralExchangeRates
  let changeBorrows (sign : ℚ) : Option (List ObligationLiquidity) := do
    let amountDebt ← params.amountDebt
    let reserve ← debtReserve
    simulateBorrowChange obligation.borrows (numberOf (sign * amountDebt)) reserve.address
      reserve.getCumulativeBorrowRate
  match params.action with
  | .deposit => do
    let deposits ← changeDeposits 1
    pure (deposits, obligation.borrows)
  | .borrow => do
    let borrows ← changeBorrows 1
    pure (obligation.deposits, borrows)
  | .repay => do
    let borrows ← changeBorrows (-1)
    pure (obligation.deposits, borrows)
  | .withdraw => do
    let deposits ← changeDeposits (-1)
    pure (deposits, obligation.borrows)
  | .depositAndBorrow => do
    let deposits ← changeDeposits 1
    let borrows ← changeBorrows 1
    pure (deposits, borrows)
  | .repayAndWithdraw => do
    let deposits ← changeDeposits (-1)
    let borrows ← changeBorrows (-1)
    pure (deposits, borrows)
  | _ => none

def getSimulatedObligationStats : Option Positions := do
  let collateralReserve ← reserveOfMint market params.mintCollateral
  let debtReserve ← reserveOfMint market params.mintDebt
  let additionalReserves :=
    (collateralReserve.toList ++ debtReserve.toList).map KaminoReserve.address
  let rates ← getRatesForObligation market obligation params.slot additionalReserves
  let elevationGroup := params.elevationGroupOverride.getD obligation.elevationGroup
  let (newObligationDeposits, newObligationBorrows) ←
    simulateAction obligation params rates.collateralExchangeRates collateralReserve debtReserve
  let positions ← calculatePositions market elevationGroup getOraclePx newObligationDeposits
    newObligationBorrows rates.collateralExchangeRates none
  let newStats := positions.refreshedStats
  let netAccountValue := newStats.userTotalDeposit - newStats.userTotalBorrow
  pure { positions with
    refreshedStats := { newStats with
      netAccountValue
      loanToValue := .finite (valueOrZero (.finite newStats.userTotalBorrowBorrowFactorAdjusted /
        .finite newStats.userTotalCollateralDeposit))
      leverage := .finite (valueOrZero
        (.finite newStats.userTotalDeposit / .finite netAccountValue)) } }

end Simulation

end KaminoObligation

end Klend.Sdk
