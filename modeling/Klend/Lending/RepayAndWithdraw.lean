import Klend.Lending.Instructions

/-! # Repaying and withdrawing at once

The handler that repays a debt and withdraws a collateral of the same obligation. It
refreshes the accounts in between itself, with the remaining accounts that are still
needed, and tests the end.
-/

namespace Klend

/-- The remaining accounts after a debt is gone, gone through from the last one: the first account
of the repaid reserve that turns up is dropped. Without a referrer the default key is dropped as
well. -/
def accountsToInclude (repayReserveKey : Pubkey) (hasReferrer : Bool) :
    Bool → List Pubkey → List Pubkey
  | _, [] => []
  | foundRepayReserve, account :: rest =>
    let isRepayReserve : Bool := account = repayReserveKey
    let included := accountsToInclude repayReserveKey hasReferrer
      (foundRepayReserve || isRepayReserve) rest
    if (hasReferrer ∨ account ≠ 0) ∧ (isRepayReserve = false ∨ foundRepayReserve) then
      account :: included
    else included

def postRepayAndWithdrawObligationEnforcements (obligation : Obligation)
    (withdrawReserve : Reserve) (initialLtvBeforeRepay : Fraction) : Result Unit := do
  let debtValue := obligation.borrowFactorAdjustedDebtValueSf
  let newTotalDepositedMv := obligation.depositedValueSf
  require (¬ (obligation.lowestReserveDepositMaxLtvPct = 0 ∧ Fraction.zero < debtValue))
    .zeroMaxLtvAssetsInDeposits
  require (¬ (obligation.lowestReserveDepositMaxLtvPct < withdrawReserve.config.loanToValuePct ∧
    Fraction.zero < debtValue)) .minLtvAssetsPriority
  if newTotalDepositedMv ≠ Fraction.zero then do
    let newUnhealthyLtv ← obligation.unhealthyLoanToValue
    let newLtv ← obligation.loanToValue
    require (newLtv ≤ initialLtvBeforeRepay) .worseLtvBlocked
    require (newLtv < newUnhealthyLtv) .worseLtvThanUnhealthyLtv
  else pure ()
  require (¬ (newTotalDepositedMv = Fraction.zero ∧ Fraction.zero < debtValue))
    .liabilitiesBiggerThanAssets

namespace World

/-- `refresh_reserve` on a reserve account, without a new price. -/
def refreshReserveAt (w : World) (clock : Clock) (key : Pubkey) : Result World := do
  let reserve ← w.loadReserve key
  let reserve ← Klend.refreshReserve reserve clock none w.lendingMarket.referralFeeBps
  pure (w.storeReserve key reserve)

/-- Whether the obligation account is closed comes with the result. -/
def withdrawObligationCollateralAndRedeemReserveCollateral (w : World) (clock : Clock)
    (index : ℕ) (key : Pubkey) (collateralAmount : U64)
    (ltvMaxWithdrawalCheck : LtvMaxWithdrawalCheck) : Result (World × Bool) := do
  w.emergencyModeDisabled
  let obligation ← w.loadObligation index
  let reserve ← w.loadReserve key
  requireNotDeprecated reserve
  let (reserve, obligation, withdrawObligationAmount) ← Klend.withdrawObligationCollateral
    w.lendingMarket reserve obligation collateralAmount clock.slot key ltvMaxWithdrawalCheck
  let (reserve, _) ← Klend.redeemReserveCollateral reserve withdrawObligationAmount clock true
  let w ← ((w.storeReserve key reserve).storeObligation index obligation).burnCollateral key
    withdrawObligationAmount
  pure (w, obligation.depositsEmpty && obligation.borrowsEmpty)

/-- After the repayment the repaid reserve is refreshed if its debt is still there or if it is the
reserve to withdraw from. -/
def refreshRepayReserve (w : World) (clock : Clock) (repayReserveKey withdrawReserveKey : Pubkey)
    (previousBorrowCount borrowCountPostRepay : ℕ) : Result World :=
  if borrowCountPostRepay = previousBorrowCount ∨ repayReserveKey = withdrawReserveKey then
    w.refreshReserveAt clock repayReserveKey
  else pure w

/-- After the withdrawal the withdrawn reserve is refreshed if the obligation still uses it, and the
obligation with the reserves it still uses. -/
def refreshPostWithdrawal (w : World) (clock : Clock) (index : ℕ) (withdrawReserveKey : Pubkey)
    (remainingPostRepay : List Pubkey) (referrerStates : List ReferrerTokenStateKey) :
    Result World := do
  let obligation ← w.loadObligation index
  let finalDepositAmount : U64 :=
    ((obligation.deposits.find? (·.depositReserve = withdrawReserveKey)).map
      (·.depositedAmount)).getD 0
  let withdrawReserveKeyIsRepayReserve : Bool :=
    (obligation.findLiquidityInBorrows withdrawReserveKey).toOption.isSome
  let isFullWithdrawal : Bool := finalDepositAmount = 0
  let w ←
    if isFullWithdrawal = false ∨ withdrawReserveKeyIsRepayReserve then
      w.refreshReserveAt clock withdrawReserveKey
    else pure w
  if isFullWithdrawal then
    if withdrawReserveKey ∈ remainingPostRepay then
      w.refreshObligation clock index (remainingPostRepay.erase withdrawReserveKey) referrerStates
    else abort
  else w.refreshObligation clock index remainingPostRepay referrerStates

/-- The last step marks the obligation and the withdrawn reserve stale and tests the end. -/
def enforceRepayAndWithdraw (w : World) (index : ℕ) (withdrawReserveKey : Pubkey)
    (initialLtv : Fraction) : Result World := do
  let obligation ← w.loadObligation index
  let withdrawReserve ← w.loadReserve withdrawReserveKey
  let obligation := obligation.markStale
  let withdrawReserve := withdrawReserve.markStale
  postRepayAndWithdrawObligationEnforcements obligation withdrawReserve initialLtv
  pure ((w.storeReserve withdrawReserveKey withdrawReserve).storeObligation index obligation)

/-- The whole handler. The two operations check the market's emergency mode again, which has not
changed since the instruction's own check. -/
def repayAndWithdrawAndRedeem (w : World) (clock : Clock) (index : ℕ)
    (repayReserveKey withdrawReserveKey : Pubkey) (repayAmount withdrawCollateralAmount : U64)
    (remaining : List Pubkey) (referrerStates : List ReferrerTokenStateKey) :
    Result (World × Bool) := do
  w.emergencyModeDisabled
  let obligation ← w.loadObligation index
  let depositCount := obligation.depositsCount
  let previousBorrowCount := obligation.borrowsCount
  let referrer := obligation.referrer
  let hasReferrer := obligation.hasReferrer
  let initialLtv ← obligation.loanToValue
  let w ← w.repayObligationLiquidity clock index repayReserveKey repayAmount
    (remaining.take depositCount)
  let obligation ← w.loadObligation index
  let borrowCountPostRepay := obligation.borrowsCount
  let w ← w.refreshRepayReserve clock repayReserveKey withdrawReserveKey previousBorrowCount
    borrowCountPostRepay
  let (remaining, referrerStates) :=
    if previousBorrowCount = borrowCountPostRepay then (remaining, referrerStates)
    else ((accountsToInclude repayReserveKey hasReferrer false remaining.reverse).reverse,
      referrerStates.filter (· ≠ (referrer, repayReserveKey)))
  let w ← w.refreshObligation clock index remaining referrerStates
  let (w, obligationWasClosed) ← w.withdrawObligationCollateralAndRedeemReserveCollateral clock
    index withdrawReserveKey withdrawCollateralAmount .liquidationThreshold
  if obligationWasClosed then pure (w, true)
  else do
    let w ← w.refreshPostWithdrawal clock index withdrawReserveKey remaining referrerStates
    let w ← w.enforceRepayAndWithdraw index withdrawReserveKey initialLtv
    pure (w, false)

end World

end Klend
