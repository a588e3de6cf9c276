import Klend.Lending.Instructions

/-! # Token vaults

A market together with the token vaults of its reserves, and the instructions that
move collateral, with the transfers they ask of the token programs. Transfers are
exact, no user account is a vault, and the comparison of balances after the
transfers is left out: what it tests is proved.
-/

namespace Klend

structure Custody where
  world : World
  /-- Balances of the collateral supply vaults, by reserve. -/
  collateralSupply : Pubkey → U64
  /-- Balances of the liquidity supply vaults, by reserve. -/
  liquiditySupply : Pubkey → U64

/-- A composite instruction passes another check than the entry point of the instruction itself. -/
inductive CustodyInstruction where
  | depositObligationCollateral (obligation : ℕ) (depositReserve : Pubkey)
      (collateralAmount : U64)
  | depositReserveLiquidityAndObligationCollateral (obligation : ℕ) (reserve : Pubkey)
      (liquidityAmount : U64) (maxReservesAsCollateralCheck : MaxReservesAsCollateralCheck)
  | withdrawObligationCollateral (obligation : ℕ) (withdrawReserve : Pubkey)
      (collateralAmount : U64)
  | withdrawObligationCollateralAndRedeemReserveCollateral (obligation : ℕ)
      (withdrawReserve : Pubkey) (collateralAmount : U64)
      (ltvMaxWithdrawalCheck : LtvMaxWithdrawalCheck)
  | liquidateObligationAndRedeemReserveCollateral (obligation : ℕ)
      (repayReserve withdrawReserve : Pubkey)
      (liquidityAmount minAcceptableReceivedLiquidityAmount : U64)
      (maxAllowedLtvOverridePct : Option U64) (remaining : List Pubkey)

/-- The instructions of the market that `CustodyInstruction` has with their transfers. -/
def Instruction.movesCollateral : Instruction → Bool
  | .depositObligationCollateral .. => true
  | .withdrawObligationCollateral .. => true
  | .liquidateObligationAndRedeemReserveCollateral .. => true
  | _ => false

namespace Custody

/-- The token program adds to a vault. -/
def credit (vault : Pubkey → U64) (key : Pubkey) (amount : U64) : Result (Pubkey → U64) := do
  let balance ← Word.add (vault key) amount
  pure (Function.update vault key balance)

/-- The token program takes from a vault, at most what is in it. -/
def debit (vault : Pubkey → U64) (key : Pubkey) (amount : U64) : Result (Pubkey → U64) := do
  requireAnchor (amount ≤ vault key)
  let balance ← Word.sub (vault key) amount
  pure (Function.update vault key balance)

def depositObligationCollateral (c : Custody) (clock : Clock) (index : ℕ) (key : Pubkey)
    (collateralAmount : U64) : Result Custody := do
  let world ← c.world.depositObligationCollateral clock index key collateralAmount
  let collateralSupply ← credit c.collateralSupply key collateralAmount
  pure { c with world, collateralSupply }

/-- The deposit itself requires the reserve to be fresh already; refreshing it again only unmarks
what the deposit marked stale. -/
def depositReserveLiquidityAndObligationCollateral (c : Custody) (clock : Clock) (index : ℕ)
    (key : Pubkey) (liquidityAmount : U64)
    (maxReservesAsCollateralCheck : MaxReservesAsCollateralCheck) : Result Custody := do
  let w := c.world
  w.emergencyModeDisabled
  let obligation ← w.loadObligation index
  let reserve ← w.loadReserve key
  World.requireNotObsolete reserve
  World.requireNotDeprecated reserve
  let (reserve, result) ← Klend.depositReserveLiquidity reserve clock liquidityAmount
  let reserve ← Klend.refreshReserve reserve clock none w.lendingMarket.referralFeeBps
  let (reserve, obligation) ← Klend.depositObligationCollateral w.lendingMarket reserve
    obligation clock.slot result.collateralAmount key maxReservesAsCollateralCheck
  let w := (w.storeReserve key reserve).storeObligation index obligation
  let liquiditySupply ← credit c.liquiditySupply key result.liquidityAmount
  let world ← w.mintCollateral key result.collateralAmount
  let collateralSupply ← credit c.collateralSupply key result.collateralAmount
  pure { world, collateralSupply, liquiditySupply }

def withdrawObligationCollateral (c : Custody) (clock : Clock) (index : ℕ) (key : Pubkey)
    (collateralAmount : U64) : Result Custody := do
  let w := c.world
  w.emergencyModeDisabled
  let obligation ← w.loadObligation index
  let reserve ← w.loadReserve key
  World.requireNotDeprecated reserve
  let (reserve, obligation, withdrawAmount) ← Klend.withdrawObligationCollateral w.lendingMarket
    reserve obligation collateralAmount clock.slot key .maxLtv
  let collateralSupply ← debit c.collateralSupply key withdrawAmount
  pure { c with
    world := (w.storeReserve key reserve).storeObligation index obligation, collateralSupply }

def withdrawObligationCollateralAndRedeemReserveCollateral (c : Custody) (clock : Clock)
    (index : ℕ) (key : Pubkey) (collateralAmount : U64)
    (ltvMaxWithdrawalCheck : LtvMaxWithdrawalCheck) : Result Custody := do
  let w := c.world
  w.emergencyModeDisabled
  let obligation ← w.loadObligation index
  let reserve ← w.loadReserve key
  World.requireNotDeprecated reserve
  let (reserve, obligation, withdrawObligationAmount) ← Klend.withdrawObligationCollateral
    w.lendingMarket reserve obligation collateralAmount clock.slot key ltvMaxWithdrawalCheck
  let (reserve, withdrawLiquidityAmount) ← Klend.redeemReserveCollateral reserve
    withdrawObligationAmount clock true
  let w := (w.storeReserve key reserve).storeObligation index obligation
  let collateralSupply ← debit c.collateralSupply key withdrawObligationAmount
  let world ← w.burnCollateral key withdrawObligationAmount
  let liquiditySupply ← debit c.liquiditySupply key withdrawLiquidityAmount
  pure { world, collateralSupply, liquiditySupply }

/-- The protocol's fee is paid out of the liquidator's account after the redemption. -/
def liquidateObligationAndRedeemReserveCollateral (c : Custody) (clock : Clock) (index : ℕ)
    (repayKey withdrawKey : Pubkey)
    (liquidityAmount minAcceptableReceivedLiquidityAmount : U64)
    (maxAllowedLtvOverridePct : Option U64) (remaining : List Pubkey) : Result Custody := do
  let w := c.world
  w.emergencyModeDisabled
  let repayReserve ← w.loadReserve repayKey
  World.requireNotDeprecated repayReserve
  let withdrawReserve ← w.loadReserve withdrawKey
  World.requireNotDeprecated withdrawReserve
  let obligation ← w.loadObligation index
  let (obligation, reserves, result) ← liquidateAndRedeem w.lendingMarket repayKey withdrawKey
    obligation clock liquidityAmount minAcceptableReceivedLiquidityAmount
    maxAllowedLtvOverridePct w.reserves remaining
  require (result.repayAmount ≤ liquidityAmount) .insufficientRepayAmount
  let w := { w.storeObligation index obligation with reserves }
  let liquiditySupply ← credit c.liquiditySupply repayKey result.repayAmount
  let collateralSupply ← debit c.collateralSupply withdrawKey result.withdrawAmount
  match result.totalWithdrawLiquidityAmount with
  | some (withdrawLiquidityAmount, _) => do
    let world ← w.burnCollateral withdrawKey result.withdrawCollateralAmount
    let liquiditySupply ← debit liquiditySupply withdrawKey withdrawLiquidityAmount
    pure { world, collateralSupply, liquiditySupply }
  | none => pure { world := w, collateralSupply, liquiditySupply }

def process (c : Custody) (clock : Clock) : CustodyInstruction → Result Custody
  | .depositObligationCollateral index key amount =>
    c.depositObligationCollateral clock index key amount
  | .depositReserveLiquidityAndObligationCollateral index key amount check =>
    c.depositReserveLiquidityAndObligationCollateral clock index key amount check
  | .withdrawObligationCollateral index key amount =>
    c.withdrawObligationCollateral clock index key amount
  | .withdrawObligationCollateralAndRedeemReserveCollateral index key amount check =>
    c.withdrawObligationCollateralAndRedeemReserveCollateral clock index key amount check
  | .liquidateObligationAndRedeemReserveCollateral index repay withdraw amount minReceived
      override remaining =>
    c.liquidateObligationAndRedeemReserveCollateral clock index repay withdraw amount minReceived
      override remaining

/-- An instruction that moves collateral, or any other instruction of the market. The others leave
the collateral vaults alone, and move liquidity as they please. -/
inductive Step : Custody → Custody → Prop
  | moves {c c' : Custody} (clock : Clock) (ix : CustodyInstruction)
      (h : c.process clock ix = .ok c') : Step c c'
  | other {c : Custody} {world : World} (clock : Clock) (ix : Instruction)
      (liquiditySupply : Pubkey → U64) (hix : ix.movesCollateral = false)
      (h : c.world.process clock ix = .ok world) : Step c { c with world, liquiditySupply }

end Custody

end Klend
