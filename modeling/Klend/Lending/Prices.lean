import Klend.Lending.Refresh

/-! # Reading prices

The most recent of the configured price sources is validated against the
reserve's token settings; every check that passes sets its flag.
-/

namespace Klend

/-- A price as an oracle account states it; it may fail to load. -/
structure TimestampedPrice where
  priceLoad : Option Fraction
  timestamp : U64
deriving DecidableEq, Repr

structure TimestampedPriceWithTwap where
  price : TimestampedPrice
  twap : Option TimestampedPrice
deriving DecidableEq, Repr

/-- What the oracle accounts of a refresh contain, where they can be read. -/
structure OraclePrices where
  pyth : Option TimestampedPriceWithTwap
  switchboard : Option TimestampedPriceWithTwap
  scope : Option TimestampedPriceWithTwap
deriving DecidableEq, Repr

namespace Prices

def tenPow (exponent : ℕ) : Result ℕ := if exponent ≤ 36 then .ok (10 ^ exponent) else abort

def priceToFraction (value exp : U64) : Result Fraction := do
  let exp : U32 ← Word.fit 32 exp
  let decimal ← tenPow exp
  let price ← (BigFraction.fromNum value).divInt decimal
  price.toFraction

def checkPriceAge (priceTimestamp maxAgeSeconds currentTimestamp : U64) : Bool :=
  Word.saturatingSub currentTimestamp priceTimestamp ≤ maxAgeSeconds

def isWithinTolerance (px twap : Fraction) (acceptableToleranceBps : U64) : Result Bool := do
  let absDiff := max (px.saturatingSub twap) (twap.saturatingSub px)
  let diffBpsScaled ← absDiff.mulInt fullBps
  let toleranceScaled ← px.mulInt acceptableToleranceBps
  pure (decide (diffBpsScaled < toleranceScaled))

def checkTwapInTolerance (price : Fraction) (twap : TimestampedPrice) (tokenInfo : TokenInfo) :
    Result Bool :=
  match twap.priceLoad with
  | some twapDec => isWithinTolerance price twapDec tokenInfo.maxTwapDivergenceBps
  | none => pure false

def checkPriceHeuristics (tokenPrice : Fraction) (heuristic : PriceHeuristic) : Result Bool := do
  let aboveLower ←
    if 0 < heuristic.lower then do
      let lower ← priceToFraction heuristic.lower heuristic.exp
      pure (decide (lower ≤ tokenPrice))
    else pure true
  if aboveLower then
    if 0 < heuristic.upper then do
      let upper ← priceToFraction heuristic.upper heuristic.exp
      pure (decide (tokenPrice ≤ upper))
    else pure true
  else pure false

def setIf (status flag : PriceStatusFlags) (passed : Bool) : PriceStatusFlags :=
  if passed then status.union flag else status

def checkTwap (status : PriceStatusFlags) (price : Fraction) (twap : Option TimestampedPrice)
    (tokenInfo : TokenInfo) (unixTimestamp : U64) : Result PriceStatusFlags :=
  if tokenInfo.isTwapEnabled then
    match twap with
    | some twap => do
      let inTolerance ← checkTwapInTolerance price twap tokenInfo
      pure (setIf (setIf status .twapAgeChecked
        (checkPriceAge twap.timestamp tokenInfo.maxAgeTwapSeconds unixTimestamp))
        .twapChecked inTolerance)
    | none => pure status
  else pure ((status.union .twapChecked).union .twapAgeChecked)

def getValidatedPrice (priceAndTwap : TimestampedPriceWithTwap) (tokenInfo : TokenInfo)
    (clock : Clock) : Result (Option GetPriceResult) := do
  let unixTimestamp ← clock.timestamp
  match priceAndTwap.price.priceLoad with
  | none => pure none
  | some priceDec => do
    let status := setIf .priceLoaded .priceAgeChecked (checkPriceAge priceAndTwap.price.timestamp
      tokenInfo.maxAgePriceSeconds unixTimestamp)
    let status ← checkTwap status priceDec priceAndTwap.twap tokenInfo unixTimestamp
    let inBounds ← checkPriceHeuristics priceDec tokenInfo.heuristic
    let status := setIf status .heuristicChecked inBounds
    let status := setIf status .priceUsageAllowed (tokenInfo.blockPriceUsage = 0)
    pure (some { price := priceDec, status, timestamp := priceAndTwap.price.timestamp })

/-- A later source replaces an earlier one only when its price is newer. -/
def mostRecent (current candidate : TimestampedPriceWithTwap) : TimestampedPriceWithTwap :=
  if current.price.timestamp < candidate.price.timestamp then candidate else current

def getMostRecentPriceAndTwap (tokenInfo : TokenInfo) (oracles : OraclePrices) :
    Result TimestampedPriceWithTwap :=
  let pyth := if tokenInfo.pythConfiguration.isEnabled then oracles.pyth else none
  let switchboard :=
    if tokenInfo.switchboardConfiguration.isEnabled then
      oracles.switchboard.map fun p ↦
        { p with twap := if tokenInfo.isTwapEnabled then p.twap else none }
    else none
  let scope := if tokenInfo.scopeConfiguration.isEnabled then oracles.scope else none
  match [pyth, switchboard, scope].filterMap id with
  | [] => err .priceNotValid
  | p :: ps => pure (ps.foldl mostRecent p)

def getPrice (tokenInfo : TokenInfo) (oracles : OraclePrices) (clock : Clock) :
    Result (Option GetPriceResult) := do
  let price ← getMostRecentPriceAndTwap tokenInfo oracles
  getValidatedPrice price tokenInfo clock

/-- `current_ts as u64` wraps a negative timestamp, which the refresh itself then refuses. -/
def isPriceRefreshNeeded (reserve : Reserve) (market : LendingMarket) (clock : Clock) :
    Result Bool := do
  let currentTs : U64 ← Word.fit 64 (clock.unixTimestamp % 2 ^ 64).toNat
  let scaled ← Word.mul reserve.config.tokenInfo.maxAgePriceSeconds
    market.priceRefreshTriggerToMaxAgePct.widen
  pure (decide ((scaled : ℕ) / 100 ≤
    Word.saturatingSub currentTs reserve.liquidity.marketPriceLastUpdatedTs))

end Prices

open Prices

/-- A refresh, with the price read from the oracles or left as it is. -/
def refreshReserveFrom (reserve : Reserve) (clock : Clock) (oracles : Option OraclePrices)
    (referralFeeBps : U16) : Result Reserve := do
  let price ← match oracles with
    | some oracles => getPrice reserve.config.tokenInfo oracles clock
    | none => pure none
  refreshReserve reserve clock price referralFeeBps

/-- The instruction: the oracles are only read when the saved price is old enough. -/
def processRefreshReserve (reserve : Reserve) (market : LendingMarket) (clock : Clock)
    (oracles : OraclePrices) : Result Reserve := do
  require (reserve.version = programVersion) .reserveDeprecated
  let needed ← isPriceRefreshNeeded reserve market clock
  if needed then do
    require (reserve.config.tokenInfo.isValid = true) .invalidOracleConfig
    require (reserve.config.tokenInfo.isTwapConfigValid = true) .invalidTwapConfig
  else pure ()
  let reserve ← refreshReserveFrom reserve clock (if needed then some oracles else none)
    market.referralFeeBps
  let timestamp ← clock.timestamp
  refreshReserveLimitTimestamps reserve timestamp

end Klend
