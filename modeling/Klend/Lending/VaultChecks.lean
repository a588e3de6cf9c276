import Klend.Lending.BorrowSpecs

/-! # Vault balances and the books

After its transfers a handler compares the supply vault with the liquidity that the
reserve has on its books: neither the difference between the two nor the amount that
moved may be off by a unit.
-/

namespace Klend

/-- The liquidity that a handler moved. -/
inductive LendingAction where
  | additive (amount : U64)
  | subtractive (amount : U64)
  | substractiveSigned (amount : I64)

/-- `as i64`. -/
def Word.asI64 (n : U64) : I64 :=
  if h : (n : ℕ) < 2 ^ 63 then ⟨n, by omega⟩ else ⟨n - 2 ^ 64, by have := n.isLt; omega⟩

/-- A signed difference, read back as an unsigned word. -/
def subSigned (initial : U64) (amount : I64) : Result U64 := do
  let difference ← unwrap (I64.checkedFit ((Word.asI64 initial).val - amount.val))
  require (0 ≤ difference.val) .mathOverflow
  Word.fit 64 difference.val.toNat

def postTransferVaultBalanceLiquidityReserveChecks (finalReserveVaultBalance
    finalReserveAvailableLiquidity initialReserveVaultBalance
    initialReserveAvailableLiquidity : U64) (actionType : LendingAction) : Result Unit := do
  let preTransferReserveDiff ←
    Word.sub initialReserveVaultBalance initialReserveAvailableLiquidity
  let postTransferReserveDiff ← Word.sub finalReserveVaultBalance finalReserveAvailableLiquidity
  require (preTransferReserveDiff = postTransferReserveDiff) .reserveTokenBalanceMismatch
  match actionType with
  | .additive amountTransferred => do
    let expectedReserveVaultBalance ← Word.add initialReserveVaultBalance amountTransferred
    require (expectedReserveVaultBalance = finalReserveVaultBalance) .reserveVaultBalanceMismatch
    let expectedReserveAvailableLiquidity ←
      Word.add initialReserveAvailableLiquidity amountTransferred
    require (expectedReserveAvailableLiquidity = finalReserveAvailableLiquidity)
      .reserveAccountingMismatch
  | .subtractive amountTransferred => do
    let expectedReserveVaultBalance ← Word.sub initialReserveVaultBalance amountTransferred
    require (expectedReserveVaultBalance = finalReserveVaultBalance) .reserveVaultBalanceMismatch
    let expectedReserveAvailableLiquidity ←
      Word.sub initialReserveAvailableLiquidity amountTransferred
    require (expectedReserveAvailableLiquidity = finalReserveAvailableLiquidity)
      .reserveAccountingMismatch
  | .substractiveSigned amountTransferred => do
    let expectedReserveVaultBalance ← subSigned initialReserveVaultBalance amountTransferred
    require (expectedReserveVaultBalance = finalReserveVaultBalance) .reserveVaultBalanceMismatch
    let expectedReserveAvailableLiquidity ←
      subSigned initialReserveAvailableLiquidity amountTransferred
    require (expectedReserveAvailableLiquidity = finalReserveAvailableLiquidity)
      .reserveAccountingMismatch

def postLiquidateRepayAmountCheck (maxRepay actualRepay : U64) : Result Unit :=
  require (actualRepay ≤ maxRepay) .insufficientRepayAmount

/-- The token program takes from a supply vault, at most what is in it. -/
def transferOut (vault amount : U64) : Result U64 := do
  requireAnchor (amount ≤ vault)
  Word.sub vault amount

/-- A fee of nothing is not transferred. -/
def sendOriginationFees (vault fee : U64) : Result U64 :=
  if 0 < fee then transferOut vault fee else pure vault

/-- The handler of a borrow, from the borrow itself on: the supply vault pays the fee receiver and
the borrower, and is compared with the reserve. -/
def borrowAndTransfer (lendingMarket : LendingMarket) (borrowReserve : Reserve)
    (obligation : Obligation) (liquidityAmount : U64) (clock : Clock) (borrowReservePk : Pubkey)
    (referrerTokenState : Option ReferrerTokenState) (reserves : Reserves)
    (depositReservesIter : List Pubkey) (reserveSourceLiquidity : U64) :
    Result ((Reserve × Obligation × Option ReferrerTokenState × Reserves ×
      CalculateBorrowResult) × U64) := do
  let initialReserveTokenBalance := reserveSourceLiquidity
  let initialReserveAvailableLiquidity := borrowReserve.liquidity.availableAmount
  let borrowed ← borrowObligationLiquidity lendingMarket borrowReserve obligation
    liquidityAmount clock borrowReservePk referrerTokenState reserves depositReservesIter
  let result := borrowed.2.2.2.2
  let vault ← sendOriginationFees reserveSourceLiquidity result.borrowFee
  let vault ← transferOut vault result.receiveAmount
  let amountTransferred ← Word.add result.borrowFee result.receiveAmount
  postTransferVaultBalanceLiquidityReserveChecks vault borrowed.1.liquidity.availableAmount
    initialReserveTokenBalance initialReserveAvailableLiquidity (.subtractive amountTransferred)
  pure (borrowed, vault)

variable {vault vault' amount available available' n : U64}

@[simp] theorem transferOut_eq_ok :
    transferOut vault amount = .ok vault' ↔ (vault' : ℕ) + amount = vault := by
  simp only [transferOut, bind_eq_ok, requireAnchor_eq_ok, Word.sub_eq_ok, exists_and_left,
    exists_const, Fin.le_def]
  exact ⟨And.right, fun h ↦ ⟨by omega, h⟩⟩

@[simp] theorem sendOriginationFees_eq_ok :
    sendOriginationFees vault amount = .ok vault' ↔ (vault' : ℕ) + amount = vault := by
  unfold sendOriginationFees
  split
  · exact transferOut_eq_ok
  · next hfee =>
    have h0 : (amount : ℕ) = 0 := by
      rw [Fin.lt_def] at hfee
      exact Nat.eq_zero_of_not_pos hfee
    rw [pure_eq_ok, h0, Nat.add_zero, Fin.ext_iff, eq_comm]

/-- A vault that paid out what the books say passes exactly when it held the books' liquidity
before. -/
theorem subtractiveChecks_eq_ok (hvault : (vault' : ℕ) + n = vault)
    (havailable : (available' : ℕ) + n = available) :
    postTransferVaultBalanceLiquidityReserveChecks vault' available' vault available
      (.subtractive n) = .ok () ↔ available ≤ vault := by
  simp only [postTransferVaultBalanceLiquidityReserveChecks, bind_eq_ok, require_eq_ok,
    Word.sub_eq_ok, Fin.le_def]
  constructor
  · rintro ⟨d, hd, -⟩
    omega
  · intro hle
    refine ⟨⟨vault - available, by omega⟩, by dsimp only; omega, ⟨vault - available, by omega⟩,
      by dsimp only; omega, (), rfl, vault', hvault, (), rfl, available', havailable, rfl⟩

end Klend
