import Klend.Lending.Prices
import Klend.Library.Decimals

/-! # Prices of a conversion chain

An oracle price is an integer with a decimal exponent. The price of a token can be the
product of several such prices, computed in 256 bits.
-/

namespace Klend

abbrev U256 : Type := Word 256

def maxPriceDecimalsU256 : U32 := 36

def targetPriceDecimals : U32 := 18

/-- A price whose value has `w` bits. -/
structure Price (w : ℕ) where
  value : Word w
  exp : U32
deriving DecidableEq, Repr

namespace Price

variable {w : ℕ}

def priceToFraction (price : Price w) : Result Fraction := do
  let decimal ← Prices.tenPow price.exp
  let price ← (BigFraction.fromNum price.value).divInt decimal
  price.toFraction

/-- The value for another exponent, rounded down, if it fits. -/
def toAdjustedExp (price : Price w) (targetExp : U32) : Result (Option (Price w)) :=
  if targetExp = price.exp then pure (some price)
  else do
    let value : Option U256 ←
      if targetExp < price.exp then do
        let diff ← Word.sub price.exp targetExp
        let factor ← Prices.tenPow diff
        pure (Word.checkedFit 256 (price.value / factor))
      else do
        let diff ← Word.sub targetExp price.exp
        let factor ← Prices.tenPow diff
        pure (Word.checkedFit 256 (price.value * factor))
    pure do
      let value ← value
      let value ← Word.checkedFit w value
      some { value, exp := targetExp }

def reduceExpLossy (price : Price w) (targetExp : U32) : Result (Option (Price w)) :=
  if price.exp ≤ targetExp then pure (some price) else price.toAdjustedExp targetExp

def sizeUp (price : Price 64) : Price 256 := { value := price.value.widen, exp := price.exp }

/-- A factor of the next product, cut to fewer decimals if that one would have too many. -/
def factor (exp : U32) (price : Price 256) : Result (Option (Price 256)) :=
  if maxPriceDecimalsU256 < exp then price.reduceExpLossy targetPriceDecimals
  else pure (some price)

/-- The step of the fold over a chain; a missing result ends the fold. -/
def multiply (acc x : Price 256) : Result (Option (Price 256)) := do
  let exp ← Word.add acc.exp x.exp
  match ← acc.factor exp with
  | none => pure none
  | some current =>
    match ← x.factor exp with
    | none => pure none
    | some next =>
      match Word.checkedFit 256 (current.value * next.value) with
      | none => pure none
      | some value => do
        let exp ← Word.add current.exp next.exp
        pure (some { value, exp })

/-- `try_fold`. -/
def multiplyAll (acc : Price 256) : List (Price 64) → Result (Option (Price 256))
  | [] => pure (some acc)
  | x :: rest => do
    match ← multiply acc x.sizeUp with
    | none => pure none
    | some acc => multiplyAll acc rest

def init : Price 256 := { value := 1, exp := 0 }

/-- The price of a chain. -/
def chainToFraction (chain : List (Price 64)) : Result Fraction := do
  let product ← multiplyAll init chain
  let basePrice ← okOr product .mathOverflow
  basePrice.priceToFraction

end Price

namespace Scope

/-- A price as the Scope account holds it. -/
structure Price where
  value : U64
  exp : U64
deriving DecidableEq, Repr

structure DatedPrice where
  price : Price
  unixTimestamp : U64
deriving DecidableEq, Repr

/-- The entries of the account. -/
abbrev OraclePrices : Type := List DatedPrice

/-- `From<scope::Price>`. -/
def Price.toPrice (price : Price) : Result (Klend.Price 64) := do
  let exp : U32 ← Word.fit 32 price.exp
  pure { value := price.value, exp }

def getBasePrice (scopePrices : OraclePrices) (token : U16) :
    Result (Option (Klend.Price 64 × U64)) :=
  match scopePrices[(token : ℕ)]? with
  | none => pure none
  | some dated => do
    let price ← dated.price.toPrice
    pure (some (price, dated.unixTimestamp))

/-- The prices before the first entry that is missing; all entries are looked up. -/
def chainPrices (scopePrices : OraclePrices) (tokensChain : List U16) :
    Result (List (Klend.Price 64 × U64)) := do
  let priceChainRaw ← tokensChain.mapM (getBasePrice scopePrices)
  pure ((priceChainRaw.takeWhile Option.isSome).filterMap id)

/-- A price that is only computed when it is asked for. -/
structure TimestampedPrice where
  priceLoad : Result Fraction
  timestamp : U64

def getPriceUsd (scopePrices : OraclePrices) (tokensChain : List U16) :
    Result TimestampedPrice := do
  require (tokensChain ≠ [0, 0, 0, 0]) .priceNotValid
  let priceChain ← chainPrices scopePrices tokensChain
  match priceChain with
  | [] => err .noPriceFound
  | [price] => pure { priceLoad := price.1.priceToFraction, timestamp := price.2 }
  | price :: rest =>
    pure
      { priceLoad := Klend.Price.chainToFraction ((price :: rest).map Prod.fst)
        timestamp := (rest.map Prod.snd).foldl min price.2 }

end Scope

end Klend
