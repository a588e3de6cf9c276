import Klend.Lending.Checks

/-! # Elevation group debt trackers

A reserve counts the debt borrowed against it in each elevation group, and the
debt borrowed from it outside any group. Every obligation records its own part
of these counters in its slots.
-/

namespace Klend

namespace Reserve

def debtInGroup (r : Reserve) (i : Fin 32) : U64 :=
  r.borrowedAmountsAgainstThisReserveInElevationGroups i

def debtLimitInGroup (r : Reserve) (i : Fin 32) : U64 :=
  r.config.borrowLimitAgainstThisCollateralInElevationGroup i

def setDebtInGroup (r : Reserve) (i : Fin 32) (amount : U64) : Reserve :=
  { r with borrowedAmountsAgainstThisReserveInElevationGroups :=
      Function.update r.borrowedAmountsAgainstThisReserveInElevationGroups i amount }

def setDebtOutside (r : Reserve) (amount : U64) : Reserve :=
  { r with borrowedAmountOutsideElevationGroup := amount }

end Reserve

namespace ObligationCollateral

def setDebtInGroup (d : ObligationCollateral) (amount : U64) : ObligationCollateral :=
  { d with borrowedAmountAgainstThisCollateralInElevationGroup := amount }

end ObligationCollateral

namespace ObligationLiquidity

def setDebtOutside (b : ObligationLiquidity) (amount : U64) : ObligationLiquidity :=
  { b with borrowedAmountOutsideElevationGroups := amount }

end ObligationLiquidity

/-- One collateral of a grouped obligation that borrows `newBorrowedAmount` more. -/
def growGroupDebt (i : Fin 32) (newBorrowedAmount : U64) (_index : ℕ) (reserves : Reserves)
    (deposit : ObligationCollateral) (key : Pubkey) :
    Result (Reserves × ObligationCollateral) := do
  let depositReserve ← reserves.loadRemaining key
  requireAnchor (key = deposit.depositReserve)
  let newAmount ← okOr (Word.checkedAdd (depositReserve.debtInGroup i) newBorrowedAmount)
    .elevationGroupBorrowLimitExceeded
  require (newAmount ≤ depositReserve.debtLimitInGroup i) .elevationGroupBorrowLimitExceeded
  let slotAmount ←
    Word.add deposit.borrowedAmountAgainstThisCollateralInElevationGroup newBorrowedAmount
  pure (reserves.store key (depositReserve.setDebtInGroup i newAmount),
    deposit.setDebtInGroup slotAmount)

def updateElevationGroupDebtTrackersOnBorrow (newBorrowedAmount : U64) (obligation : Obligation)
    (obligationBorrowIndex : ℕ) (elevationGroup : Option ElevationGroup)
    (borrowReservePk : Pubkey) (borrowReserve : Reserve) (reserves : Reserves)
    (depositReservesIter : List Pubkey) : Result (Obligation × Reserve × Reserves) :=
  match elevationGroup with
  | some g => do
    let i ← g.getIndex
    require (g.debtReserve = borrowReservePk) .elevationGroupHasAnotherDebtReserve
    let (reserves, deposits) ← forOccupied ObligationCollateral.occupied
      (growGroupDebt i newBorrowedAmount) 0 reserves obligation.deposits depositReservesIter
    pure ({ obligation with deposits }, borrowReserve, reserves)
  | none => do
    let newTotal ← okOr (Word.checkedAdd borrowReserve.borrowedAmountOutsideElevationGroup
      newBorrowedAmount) .mathOverflow
    require (newTotal ≤ borrowReserve.config.borrowLimitOutsideElevationGroup)
      .borrowLimitExceeded
    let borrow ← unwrap obligation.borrows[obligationBorrowIndex]?
    let slotAmount ← Word.add borrow.borrowedAmountOutsideElevationGroups newBorrowedAmount
    pure ({ obligation with
        borrows := obligation.borrows.set obligationBorrowIndex (borrow.setDebtOutside slotAmount) },
      borrowReserve.setDebtOutside newTotal, reserves)

/-- One collateral of a grouped obligation that repays `repayAmount`. -/
def shrinkGroupDebt (i : Fin 32) (repayAmount : U64) (_index : ℕ) (reserves : Reserves)
    (deposit : ObligationCollateral) (key : Pubkey) :
    Result (Reserves × ObligationCollateral) := do
  let depositReserve ← reserves.loadRemaining key
  requireAnchor (key = deposit.depositReserve)
  pure (reserves.store key (depositReserve.setDebtInGroup i
      (Word.saturatingSub (depositReserve.debtInGroup i) repayAmount)),
    deposit.setDebtInGroup (Word.saturatingSub
      deposit.borrowedAmountAgainstThisCollateralInElevationGroup repayAmount))

/-- `elevation_group as usize - 1`, with the bounds check of the array it indexes. -/
def elevationGroupIndex (elevationGroup : U8) : Result (Fin 32) := do
  let i ← Word.sub (elevationGroup.widen : U64) 1
  arrayIndex i

theorem elevationGroupIndex_eq_ok {g : U8} {i : Fin 32} :
    elevationGroupIndex g = .ok i ↔ (i : ℕ) + 1 = g :=
  ElevationGroup.getIndex_eq_ok (g := { (default : ElevationGroup) with id := g })

def updateElevationGroupDebtTrackersOnRepay (repayAmount : U64) (obligation : Obligation)
    (obligationBorrowIndex : ℕ) (borrowReserve : Reserve) (reserves : Reserves)
    (depositReservesIter : List Pubkey) : Result (Obligation × Reserve × Reserves) :=
  if obligation.elevationGroup ≠ elevationGroupNone then do
    let i ← elevationGroupIndex obligation.elevationGroup
    let (reserves, deposits) ← forOccupied ObligationCollateral.occupied
      (shrinkGroupDebt i repayAmount) 0 reserves obligation.deposits depositReservesIter
    pure ({ obligation with deposits }, borrowReserve, reserves)
  else do
    let borrow ← unwrap obligation.borrows[obligationBorrowIndex]?
    pure ({ obligation with
        borrows := obligation.borrows.set obligationBorrowIndex (borrow.setDebtOutside
          (Word.saturatingSub borrow.borrowedAmountOutsideElevationGroups repayAmount)) },
      borrowReserve.setDebtOutside
        (Word.saturatingSub borrowReserve.borrowedAmountOutsideElevationGroup repayAmount),
      reserves)

def updateElevationGroupDebtTrackersOnNewDeposit (totalBorrowed : Option U64)
    (obligationCollateral : ObligationCollateral) (preDepositCount : ℕ)
    (elevationGroup : Option ElevationGroup) (depositReservePk : Pubkey)
    (depositReserve : Reserve) (maxReservesAsCollateralCheck : MaxReservesAsCollateralCheck) :
    Result (ObligationCollateral × Reserve) :=
  match elevationGroup with
  | some g => do
    require (g.debtReserve ≠ depositReservePk) .elevationGroupDebtReserveAsCollateral
    require (¬ (maxReservesAsCollateralCheck = .perform ∧
      (g.maxReservesAsCollateral : ℕ) < preDepositCount + 1))
      .obligationCollateralExceedsElevationGroupLimit
    let i ← g.getIndex
    let totalBorrowed ← okOr totalBorrowed .obligationElevationGroupMultipleDebtReserve
    let newAmount ← Word.add (depositReserve.debtInGroup i) totalBorrowed
    pure (obligationCollateral.setDebtInGroup totalBorrowed,
      depositReserve.setDebtInGroup i newAmount)
  | none => pure (obligationCollateral, depositReserve)

def updateElevationGroupDebtTrackersOnFullWithdraw (previousDebtInElevationGroup : U64)
    (elevationGroupId : U8) (depositReserve : Reserve) : Result Reserve :=
  if elevationGroupId ≠ elevationGroupNone then do
    let i ← elevationGroupIndex elevationGroupId
    pure (depositReserve.setDebtInGroup i
      (Word.saturatingSub (depositReserve.debtInGroup i) previousDebtInElevationGroup))
  else pure depositReserve

/-- One collateral leaving the obligation's old group. -/
def resetGroupDebt (i : Fin 32) (_index : ℕ) (reserves : Reserves)
    (deposit : ObligationCollateral) (key : Pubkey) :
    Result (Reserves × ObligationCollateral) := do
  let depositReserve ← reserves.loadRemaining key
  require (deposit.depositReserve = key) .invalidAccountInput
  pure (reserves.store key (depositReserve.setDebtInGroup i
      (Word.saturatingSub (depositReserve.debtInGroup i)
        deposit.borrowedAmountAgainstThisCollateralInElevationGroup)),
    deposit.setDebtInGroup 0)

/-- One debt entering a group; the key is not compared with the slot here. -/
def resetOutsideDebt (_index : ℕ) (reserves : Reserves) (borrow : ObligationLiquidity)
    (key : Pubkey) : Result (Reserves × ObligationLiquidity) := do
  let borrowReserve ← reserves.loadRemaining key
  pure (reserves.store key (borrowReserve.setDebtOutside
      (Word.saturatingSub borrowReserve.borrowedAmountOutsideElevationGroup
        borrow.borrowedAmountOutsideElevationGroups)),
    borrow.setDebtOutside 0)

def resetElevationGroupDebts (obligation : Obligation) (elevationGroup : Option ElevationGroup)
    (reserves : Reserves) (depositReservesIter borrowReservesIter : List Pubkey) :
    Result (Obligation × Reserves) :=
  match elevationGroup with
  | some g => do
    let i ← g.getIndex
    let (reserves, deposits) ← forOccupiedExact ObligationCollateral.occupied (resetGroupDebt i)
      reserves obligation.deposits depositReservesIter
    pure ({ obligation with deposits }, reserves)
  | none => do
    let (reserves, borrows) ← forOccupiedExact ObligationLiquidity.occupied resetOutsideDebt
      reserves obligation.borrows borrowReservesIter
    pure ({ obligation with borrows }, reserves)

/-- The checks on one debt after a change of group. -/
def checkBorrowLimit (elevationGroup : Option ElevationGroup) (_index : ℕ) (reserves : Reserves)
    (borrow : ObligationLiquidity) (key : Pubkey) : Result (Reserves × ObligationLiquidity) := do
  let borrowReserve ← reserves.loadRemaining key
  require (borrow.borrowReserve = key) .invalidAccountInput
  match elevationGroup with
  | some g => do
    require (g.id ∈ borrowReserve.config.elevationGroups) .inconsistentElevationGroup
    require (key = g.debtReserve) .elevationGroupHasAnotherDebtReserve
  | none =>
    require (borrowReserve.borrowedAmountOutsideElevationGroup ≤
      borrowReserve.config.borrowLimitOutsideElevationGroup) .elevationGroupBorrowLimitExceeded
  pure (reserves, borrow)

/-- The checks on one collateral after a change of group. -/
def checkDepositLimit (elevationGroup : Option ElevationGroup) (_index : ℕ) (reserves : Reserves)
    (deposit : ObligationCollateral) (key : Pubkey) :
    Result (Reserves × ObligationCollateral) := do
  let depositReserve ← reserves.loadRemaining key
  require (deposit.depositReserve = key) .invalidAccountInput
  match elevationGroup with
  | some g => do
    let i ← g.getIndex
    require (g.id ∈ depositReserve.config.elevationGroups) .inconsistentElevationGroup
    require (key ≠ g.debtReserve) .elevationGroupDebtReserveAsCollateral
    require (depositReserve.debtInGroup i ≤ depositReserve.debtLimitInGroup i)
      .elevationGroupBorrowLimitExceeded
  | none => pure ()
  pure (reserves, deposit)

def checkElevationGroupBorrowLimitConstraints (obligation : Obligation)
    (elevationGroup : Option ElevationGroup) (reserves : Reserves)
    (depositReservesIter borrowReservesIter : List Pubkey) : Result Unit := do
  let _ ← forOccupiedExact ObligationLiquidity.occupied (checkBorrowLimit elevationGroup)
    reserves obligation.borrows borrowReservesIter
  let _ ← forOccupiedExact ObligationCollateral.occupied (checkDepositLimit elevationGroup)
    reserves obligation.deposits depositReservesIter
  if obligation.borrowsEmpty = false then
    checkNonElevationGroupBorrowingEnabled obligation
  else pure ()

end Klend
