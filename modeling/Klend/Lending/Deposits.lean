import Klend.Lending.Operations

/-! # The parts of a deposit

A deposit of collateral checks the accounts, books the amount in the obligation's slots,
and values it at the reserve's price.
-/

namespace Klend

/-- The first checks of `depositObligationCollateral`, with the obligation's group found. -/
def checkDeposit (lendingMarket : LendingMarket) (depositReserve : Reserve)
    (obligation : Obligation) (slot collateralAmount : U64) : Result (Option ElevationGroup) := do
  require (collateralAmount ≠ 0) .invalidAmount
  depositReserve.lastUpdate.requireFresh slot .none .reserveStale
  obligation.lastUpdate.requireFresh slot .none .obligationStale
  require (¬ (0 < depositReserve.config.disableUsageAsCollOutsideEmode ∧
    obligation.elevationGroup = elevationGroupNone ∧
    Fraction.zero < obligation.borrowFactorAdjustedDebtValueSf))
    .depositDisabledOutsideElevationGroup
  checkSameElevationGroup obligation depositReserve
  let elevationGroup ← getElevationGroup obligation.elevationGroup lendingMarket
  require ((getMaxLtvAndLiquidationThreshold depositReserve elevationGroup).2 = 0 →
    obligation.isMarkedForDeleveraging = false) .obligationCurrentlyMarkedForDeleveraging
  pure elevationGroup

/-- The slot of a deposit found or opened, and the amount put into it, with the value the slot had
before. -/
def bookDeposit (depositReserve : Reserve) (obligation : Obligation) (collateralAmount : U64)
    (depositReservePk : Pubkey) (elevationGroup : Option ElevationGroup)
    (maxReservesAsCollateralCheck : MaxReservesAsCollateralCheck) :
    Result (Reserve × Obligation × Fraction) := do
  let totalBorrowedAmount ← obligation.getBorrowedAmountIfSingleToken
  let assetTier ← depositReserve.config.getAssetTier
  let (obligation', index, depositReserve) ← obligation.findOrAddCollateralToDeposits
    depositReservePk assetTier
    (fun obligationCollateral ↦ updateElevationGroupDebtTrackersOnNewDeposit totalBorrowedAmount
      obligationCollateral obligation.depositsCount elevationGroup depositReservePk depositReserve
      maxReservesAsCollateralCheck)
    depositReserve
  let obligationCollateral ← unwrap obligation'.deposits[index]?
  let obligationCollateral ← obligationCollateral.deposit collateralAmount
  let obligation' := { obligation' with
    deposits := obligation'.deposits.set index obligationCollateral }.markStale
  validateObligationAssetTiers obligation'
  pure (depositReserve.markStale, obligation', obligationCollateral.marketValueSf)

/-- What deposited collateral is worth. -/
def depositValue (depositReserve : Reserve) (collateralAmount : U64) : Result Fraction := do
  let rate ← depositReserve.collateralExchangeRate
  let amount ← rate.fractionCollateralToLiquidity (Fraction.fromNum collateralAmount)
  calculateMarketValueFromLiquidityAmount depositReserve amount

/-- The last checks of `depositObligationCollateral`. -/
def acceptDeposit (lendingMarket : LendingMarket) (collateralAmount : U64)
    (booked : Reserve × Obligation × Fraction) : Result (Reserve × Obligation) := do
  let (depositReserve, obligation, preCollateralMarketValueF) := booked
  let rate ← depositReserve.collateralExchangeRate
  let amount ← rate.fractionCollateralToLiquidity (Fraction.fromNum collateralAmount)
  postDepositObligationInvariants amount obligation depositReserve preCollateralMarketValueF
    lendingMarket.minNetValueInObligationSf
  pure (depositReserve, obligation)

variable {market : LendingMarket} {r : Reserve} {o : Obligation} {amount slot : U64}
  {key : Pubkey} {check : MaxReservesAsCollateralCheck}

/-- A check made only under a condition, as one check. -/
theorem ite_require_seq {β : Type} {c d : Prop} [Decidable c] [Decidable d] [Decidable (c → d)]
    {e : LendingError} {y : Result β} :
    (if c then require d e >>= fun _ ↦ y else y) = require (c → d) e >>= fun _ ↦ y := by
  by_cases hc : c
  · by_cases hd : d <;> simp [require, hc, hd]
  · simp [require, hc]

theorem depositObligationCollateral_eq :
    depositObligationCollateral market r o slot amount key check = (do
      let group ← checkDeposit market r o slot amount
      let booked ← bookDeposit r o amount key group check
      acceptDeposit market amount booked) := by
  simp only [depositObligationCollateral, checkDeposit, bookDeposit, acceptDeposit, bind_assoc,
    pure_bind, Obligation.checkNotMarkedForDeleveraging, ite_require_seq]

end Klend
