import Klend.Lending.Operations

/-! # Instructions

The state of one lending market and the instructions that act on it. Signers,
token accounts and oracle accounts are left out: an instruction takes whatever
price its oracles gave, and only the supply of the collateral tokens is kept.
-/

namespace Klend

structure World where
  lendingMarketPk : Pubkey
  lendingMarket : LendingMarket
  reserves : Reserves
  /-- Collateral tokens in circulation, by reserve. -/
  collateralMintSupply : Pubkey → U64
  obligations : List Obligation
  referrerTokenStates : ReferrerTokenStates

/-- Obligations are named by their position. The LTV override of a liquidation is the one its
handler passes on, which is none outside the staging build. -/
inductive Instruction where
  | refreshReserve (reserve : Pubkey) (price : Option GetPriceResult)
  | depositReserveLiquidity (reserve : Pubkey) (liquidityAmount : U64)
  | redeemReserveCollateral (reserve : Pubkey) (collateralAmount : U64)
  | initObligation (tag : U64) (owner referrer : Pubkey)
  | initReferrerTokenState (reserve referrer : Pubkey)
  | refreshObligation (obligation : ℕ) (remaining : List Pubkey)
      (referrerStates : List ReferrerTokenStateKey)
  | depositObligationCollateral (obligation : ℕ) (depositReserve : Pubkey)
      (collateralAmount : U64)
  | withdrawObligationCollateral (obligation : ℕ) (withdrawReserve : Pubkey)
      (collateralAmount : U64)
  | borrowObligationLiquidity (obligation : ℕ) (borrowReserve : Pubkey) (liquidityAmount : U64)
      (referrerState : Option ReferrerTokenStateKey) (remaining : List Pubkey)
  | repayObligationLiquidity (obligation : ℕ) (repayReserve : Pubkey) (liquidityAmount : U64)
      (remaining : List Pubkey)
  | requestElevationGroup (obligation : ℕ) (newElevationGroup : U8) (remaining : List Pubkey)
      (referrerStates : List ReferrerTokenStateKey)
  | liquidateObligationAndRedeemReserveCollateral (obligation : ℕ)
      (repayReserve withdrawReserve : Pubkey)
      (liquidityAmount minAcceptableReceivedLiquidityAmount : U64)
      (maxAllowedLtvOverridePct : Option U64) (remaining : List Pubkey)
  | flashBorrowReserveLiquidity (reserve : Pubkey) (liquidityAmount : U64)
  | flashRepayReserveLiquidity (reserve : Pubkey) (liquidityAmount : U64)
      (referrer : Option Pubkey)
  | redeemFees (reserve : Pubkey)
  | withdrawReferrerFees (reserve referrer : Pubkey)
  | socializeLoss (obligation : ℕ) (reserve : Pubkey) (liquidityAmount : U64)
      (remaining : List Pubkey)
  | markObligationForDeleveraging (obligation : ℕ) (autodeleverageTargetLtvPct : U8)

namespace World

def emergencyModeDisabled (w : World) : Result Unit :=
  require (w.lendingMarket.emergencyMode = 0) .globalEmergencyMode

/-- A reserve account of this market. -/
def loadReserve (w : World) (key : Pubkey) : Result Reserve := do
  let reserve ← w.reserves.load key
  requireAnchor (reserve.lendingMarket = w.lendingMarketPk)
  pure reserve

/-- An obligation account of this market. -/
def loadObligation (w : World) (index : ℕ) : Result Obligation :=
  match w.obligations[index]? with
  | some obligation => do
    requireAnchor (obligation.lendingMarket = w.lendingMarketPk)
    pure obligation
  | none => .error .anchor

def storeReserve (w : World) (key : Pubkey) (reserve : Reserve) : World :=
  { w with reserves := w.reserves.store key reserve }

def storeObligation (w : World) (index : ℕ) (obligation : Obligation) : World :=
  { w with obligations := w.obligations.set index obligation }

def storeReferrerTokenState (w : World) (key : ReferrerTokenStateKey)
    (state : ReferrerTokenState) : World :=
  { w with referrerTokenStates := Function.update w.referrerTokenStates key (some state) }

def requireNotDeprecated (reserve : Reserve) : Result Unit :=
  require (reserve.version = programVersion) .reserveDeprecated

def requireNotObsolete (reserve : Reserve) : Result Unit := do
  let status ← reserve.config.getStatus
  require (status ≠ .obsolete) .reserveObsolete

/-- The token program mints the collateral of a deposit. -/
def mintCollateral (w : World) (key : Pubkey) (amount : U64) : Result World := do
  let supply ← Word.add (w.collateralMintSupply key) amount
  pure { w with collateralMintSupply := Function.update w.collateralMintSupply key supply }

/-- The token program burns collateral held by the caller, at most what circulates. -/
def burnCollateral (w : World) (key : Pubkey) (amount : U64) : Result World := do
  requireAnchor (amount ≤ w.collateralMintSupply key)
  let supply ← Word.sub (w.collateralMintSupply key) amount
  pure { w with collateralMintSupply := Function.update w.collateralMintSupply key supply }

/-- The referrer token state passed along with an optional key. -/
def loadReferrerTokenState (w : World) (key : ReferrerTokenStateKey) (reserve : Reserve)
    (referrer reservePk : Pubkey) : Result ReferrerTokenState := do
  let state ← match w.referrerTokenStates key with
    | some state => pure state
    | none => .error .anchor
  validateReferrerTokenState state key reserve.liquidity.mintPubkey referrer reservePk
  pure state

/-- Refreshing and group changes split the remaining accounts into deposits and borrows, and
require one referrer state for each debt of a referred obligation. -/
def splitRemaining (obligation : Obligation) (remaining : List Pubkey)
    (referrerStates : List ReferrerTokenStateKey) : Result (List Pubkey × List Pubkey) := do
  require (remaining.length + referrerStates.length =
    if obligation.hasReferrer then
      obligation.borrowsCount + obligation.depositsCount + obligation.borrowsCount
    else obligation.borrowsCount + obligation.depositsCount) .invalidAccountInput
  require (remaining.length = obligation.borrowsCount + obligation.depositsCount)
    .invalidAccountInput
  pure (remaining.take obligation.depositsCount, remaining.drop obligation.depositsCount)

def refreshReserve (w : World) (clock : Clock) (key : Pubkey) (price : Option GetPriceResult) :
    Result World := do
  w.emergencyModeDisabled
  let reserve ← w.loadReserve key
  requireNotDeprecated reserve
  let reserve ← Klend.refreshReserve reserve clock price w.lendingMarket.referralFeeBps
  let timestamp ← clock.timestamp
  let reserve ← refreshReserveLimitTimestamps reserve timestamp
  reserve.liquidity.marketPriceSf.toDisplay
  pure (w.storeReserve key reserve)

def depositReserveLiquidity (w : World) (clock : Clock) (key : Pubkey) (liquidityAmount : U64) :
    Result World := do
  w.emergencyModeDisabled
  let reserve ← w.loadReserve key
  requireNotObsolete reserve
  requireNotDeprecated reserve
  let reserve ← Klend.refreshReserve reserve clock none w.lendingMarket.referralFeeBps
  let (reserve, result) ← Klend.depositReserveLiquidity reserve clock liquidityAmount
  (w.storeReserve key reserve).mintCollateral key result.collateralAmount

def redeemReserveCollateral (w : World) (clock : Clock) (key : Pubkey) (collateralAmount : U64) :
    Result World := do
  w.emergencyModeDisabled
  let reserve ← w.loadReserve key
  requireNotDeprecated reserve
  let reserve ← Klend.refreshReserve reserve clock none w.lendingMarket.referralFeeBps
  let (reserve, _) ← Klend.redeemReserveCollateral reserve collateralAmount clock true
  (w.storeReserve key reserve).burnCollateral key collateralAmount

def initObligation (w : World) (clock : Clock) (tag : U64) (owner referrer : Pubkey) :
    Result World :=
  pure { w with obligations :=
    w.obligations ++ [Obligation.init tag clock.slot w.lendingMarketPk owner referrer] }

def initReferrerTokenState (w : World) (key referrer : Pubkey) : Result World := do
  let reserve ← w.loadReserve key
  requireAnchor (w.referrerTokenStates (referrer, key) = none)
  pure (w.storeReferrerTokenState (referrer, key)
    { (default : ReferrerTokenState) with referrer, mint := reserve.liquidity.mintPubkey })

def refreshObligation (w : World) (clock : Clock) (index : ℕ) (remaining : List Pubkey)
    (referrerStates : List ReferrerTokenStateKey) : Result World := do
  w.emergencyModeDisabled
  let obligation ← w.loadObligation index
  let (deposits, borrows) ← splitRemaining obligation remaining referrerStates
  let (obligation, reserves, referrerTokenStates) ← Klend.refreshObligation obligation
    w.lendingMarket clock.slot .perform w.reserves deposits borrows w.referrerTokenStates
    referrerStates
  pure { w.storeObligation index obligation with reserves, referrerTokenStates }

def depositObligationCollateral (w : World) (clock : Clock) (index : ℕ) (key : Pubkey)
    (collateralAmount : U64) : Result World := do
  w.emergencyModeDisabled
  let obligation ← w.loadObligation index
  let reserve ← w.loadReserve key
  requireNotObsolete reserve
  requireNotDeprecated reserve
  let reserve ← Klend.refreshReserve reserve clock none w.lendingMarket.referralFeeBps
  let (reserve, obligation) ← Klend.depositObligationCollateral w.lendingMarket reserve
    obligation clock.slot collateralAmount key .perform
  pure ((w.storeReserve key reserve).storeObligation index obligation)

def withdrawObligationCollateral (w : World) (clock : Clock) (index : ℕ) (key : Pubkey)
    (collateralAmount : U64) : Result World := do
  w.emergencyModeDisabled
  let obligation ← w.loadObligation index
  let reserve ← w.loadReserve key
  requireNotDeprecated reserve
  let (reserve, obligation, _) ← Klend.withdrawObligationCollateral w.lendingMarket reserve
    obligation collateralAmount clock.slot key .maxLtv
  pure ((w.storeReserve key reserve).storeObligation index obligation)

def borrowObligationLiquidity (w : World) (clock : Clock) (index : ℕ) (key : Pubkey)
    (liquidityAmount : U64) (referrerState : Option ReferrerTokenStateKey)
    (remaining : List Pubkey) : Result World := do
  w.emergencyModeDisabled
  let obligation ← w.loadObligation index
  let reserve ← w.loadReserve key
  requireNotObsolete reserve
  requireNotDeprecated reserve
  if obligation.hasReferrer then
    match referrerState with
    | some stateKey => do
      let state ← w.loadReferrerTokenState stateKey reserve obligation.referrer key
      let (reserve, obligation, state, reserves, _) ← Klend.borrowObligationLiquidity
        w.lendingMarket reserve obligation liquidityAmount clock key (some state)
        (w.reserves.hold key) remaining
      let w := { w with
        reserves := reserves.store key reserve, obligations := w.obligations.set index obligation }
      match state with
      | some state => pure (w.storeReferrerTokenState stateKey state)
      | none => pure w
    | none => err .referrerAccountMissing
  else do
    let (reserve, obligation, _, reserves, _) ← Klend.borrowObligationLiquidity w.lendingMarket
      reserve obligation liquidityAmount clock key none (w.reserves.hold key) remaining
    pure { w with
      reserves := reserves.store key reserve, obligations := w.obligations.set index obligation }

def repayObligationLiquidity (w : World) (clock : Clock) (index : ℕ) (key : Pubkey)
    (liquidityAmount : U64) (remaining : List Pubkey) : Result World := do
  w.emergencyModeDisabled
  let obligation ← w.loadObligation index
  let reserve ← w.loadReserve key
  requireNotDeprecated reserve
  let (reserve, obligation, reserves, _) ← Klend.repayObligationLiquidity reserve obligation clock
    liquidityAmount key w.lendingMarket (w.reserves.hold key) remaining
  pure { w with
    reserves := reserves.store key reserve, obligations := w.obligations.set index obligation }

def requestElevationGroup (w : World) (clock : Clock) (index : ℕ) (newElevationGroup : U8)
    (remaining : List Pubkey) (referrerStates : List ReferrerTokenStateKey) : Result World := do
  w.emergencyModeDisabled
  let obligation ← w.loadObligation index
  let (deposits, borrows) ← splitRemaining obligation remaining referrerStates
  let (obligation, reserves, referrerTokenStates) ← Klend.requestElevationGroup obligation
    w.lendingMarket clock.slot newElevationGroup w.reserves deposits borrows
    w.referrerTokenStates referrerStates
  pure { w.storeObligation index obligation with reserves, referrerTokenStates }

def liquidateObligationAndRedeemReserveCollateral (w : World) (clock : Clock) (index : ℕ)
    (repayKey withdrawKey : Pubkey)
    (liquidityAmount minAcceptableReceivedLiquidityAmount : U64)
    (maxAllowedLtvOverridePct : Option U64) (remaining : List Pubkey) : Result World := do
  w.emergencyModeDisabled
  let repayReserve ← w.loadReserve repayKey
  requireNotDeprecated repayReserve
  let withdrawReserve ← w.loadReserve withdrawKey
  requireNotDeprecated withdrawReserve
  let obligation ← w.loadObligation index
  let (obligation, reserves, result) ← liquidateAndRedeem w.lendingMarket repayKey withdrawKey
    obligation clock liquidityAmount minAcceptableReceivedLiquidityAmount
    maxAllowedLtvOverridePct w.reserves remaining
  require (result.repayAmount ≤ liquidityAmount) .insufficientRepayAmount
  let w := { w.storeObligation index obligation with reserves }
  match result.totalWithdrawLiquidityAmount with
  | some _ => w.burnCollateral withdrawKey result.withdrawCollateralAmount
  | none => pure w

def flashBorrowReserveLiquidity (w : World) (clock : Clock) (key : Pubkey)
    (liquidityAmount : U64) : Result World := do
  w.emergencyModeDisabled
  let reserve ← w.loadReserve key
  requireNotDeprecated reserve
  requireNotObsolete reserve
  let reserve ← Klend.refreshReserve reserve clock none w.lendingMarket.referralFeeBps
  let reserve ← Klend.flashBorrowReserveLiquidity reserve liquidityAmount
  pure (w.storeReserve key reserve)

def flashRepayReserveLiquidity (w : World) (clock : Clock) (key : Pubkey)
    (liquidityAmount : U64) (referrer : Option Pubkey) : Result World := do
  w.emergencyModeDisabled
  let reserve ← w.loadReserve key
  let timestamp ← clock.timestamp
  match referrer with
  | some referrer => do
    let state ← w.loadReferrerTokenState (referrer, key) reserve referrer key
    let (reserve, state, _) ← Klend.flashRepayReserveLiquidity w.lendingMarket reserve
      liquidityAmount timestamp (some state)
    let w := w.storeReserve key reserve
    match state with
    | some state => pure (w.storeReferrerTokenState (referrer, key) state)
    | none => pure w
  | none => do
    let (reserve, _) ← Klend.flashRepayReserveLiquidity w.lendingMarket reserve liquidityAmount
      timestamp none
    pure (w.storeReserve key reserve)

def redeemFees (w : World) (clock : Clock) (key : Pubkey) : Result World := do
  let reserve ← w.loadReserve key
  let (reserve, _) ← Klend.redeemFees reserve clock.slot
  pure (w.storeReserve key reserve)

def withdrawReferrerFees (w : World) (clock : Clock) (key referrer : Pubkey) :
    Result World := do
  w.emergencyModeDisabled
  let reserve ← w.loadReserve key
  let state ← match w.referrerTokenStates (referrer, key) with
    | some state => pure state
    | none => .error .anchor
  let (reserve, state, _) ← Klend.withdrawReferrerFees reserve clock.slot state
  pure ((w.storeReserve key reserve).storeReferrerTokenState (referrer, key) state)

def socializeLoss (w : World) (clock : Clock) (index : ℕ) (key : Pubkey) (liquidityAmount : U64)
    (remaining : List Pubkey) : Result World := do
  let obligation ← w.loadObligation index
  let reserve ← w.loadReserve key
  let (reserve, obligation, reserves, _) ← Klend.socializeLoss reserve key obligation
    liquidityAmount clock.slot (w.reserves.hold key) remaining
  pure { w with
    reserves := reserves.store key reserve, obligations := w.obligations.set index obligation }

def markObligationForDeleveraging (w : World) (clock : Clock) (index : ℕ)
    (autodeleverageTargetLtvPct : U8) : Result World := do
  let obligation ← w.loadObligation index
  let timestamp ← clock.timestamp
  let obligation ← Klend.markObligationForDeleveraging w.lendingMarket obligation
    autodeleverageTargetLtvPct timestamp
  pure (w.storeObligation index obligation)

/-- One instruction executed at the given clock. -/
def process (w : World) (clock : Clock) : Instruction → Result World
  | .refreshReserve key price => w.refreshReserve clock key price
  | .depositReserveLiquidity key amount => w.depositReserveLiquidity clock key amount
  | .redeemReserveCollateral key amount => w.redeemReserveCollateral clock key amount
  | .initObligation tag owner referrer => w.initObligation clock tag owner referrer
  | .initReferrerTokenState key referrer => w.initReferrerTokenState key referrer
  | .refreshObligation index remaining states =>
    w.refreshObligation clock index remaining states
  | .depositObligationCollateral index key amount =>
    w.depositObligationCollateral clock index key amount
  | .withdrawObligationCollateral index key amount =>
    w.withdrawObligationCollateral clock index key amount
  | .borrowObligationLiquidity index key amount state remaining =>
    w.borrowObligationLiquidity clock index key amount state remaining
  | .repayObligationLiquidity index key amount remaining =>
    w.repayObligationLiquidity clock index key amount remaining
  | .requestElevationGroup index group remaining states =>
    w.requestElevationGroup clock index group remaining states
  | .liquidateObligationAndRedeemReserveCollateral index repay withdraw amount minReceived
      override remaining =>
    w.liquidateObligationAndRedeemReserveCollateral clock index repay withdraw amount minReceived
      override remaining
  | .flashBorrowReserveLiquidity key amount => w.flashBorrowReserveLiquidity clock key amount
  | .flashRepayReserveLiquidity key amount referrer =>
    w.flashRepayReserveLiquidity clock key amount referrer
  | .redeemFees key => w.redeemFees clock key
  | .withdrawReferrerFees key referrer => w.withdrawReferrerFees clock key referrer
  | .socializeLoss index key amount remaining =>
    w.socializeLoss clock index key amount remaining
  | .markObligationForDeleveraging index pct => w.markObligationForDeleveraging clock index pct

end World

end Klend
