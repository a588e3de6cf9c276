import Klend.Machine.Bytes
import Klend.State.LendingMarket
import Mathlib.Data.Fin.VecNotation

/-! # Updating a lending market

The market's owner sends a mode and 72 bytes. What the bytes say depends on the mode:
they are decoded first, and then checked and stored.
-/

namespace Klend

def minInitialDepositAmount : U64 := 1000

def valueByteMaxArrayLenMarketUpdate : ℕ := 72

/-- The stored form of a group, with its reserved bytes. -/
structure ElevationGroupAccount extends ElevationGroup where
  padding0 : U8
  padding1 : Fin 4 → U64
deriving DecidableEq

/-- The market account: what the program reads of it, and what only its update touches. -/
structure LendingMarketAccount where
  market : LendingMarket
  lendingMarketOwnerCached : Pubkey
  riskCouncil : Pubkey
  name : NameBytes
  reserved0 : U64
  reserved1 : U64

inductive UpdateLendingMarketMode where
  | updateOwner
  | updateEmergencyMode
  | updateLiquidationCloseFactor
  | updateLiquidationMaxValue
  | deprecatedUpdateGlobalUnhealthyBorrow
  | updateGlobalAllowedBorrow
  | updateRiskCouncil
  | updateMinFullLiquidationThreshold
  | updateInsolvencyRiskLtv
  | updateElevationGroup
  | updateReferralFeeBps
  | deprecatedUpdateMultiplierPoints
  | updatePriceRefreshTriggerToMaxAgePct
  | updateAutodeleverageEnabled
  | updateBorrowingDisabled
  | updateMinNetValueObligationPostAction
  | updateMinValueLtvSkipPriorityLiqCheck
  | updateMinValueBfSkipPriorityLiqCheck
  | updatePaddingFields
  | updateName
  | updateIndividualAutodeleverageMarginCallPeriodSecs
  | updateInitialDepositAmount
deriving DecidableEq, Repr

namespace UpdateLendingMarketMode

/-- `UpdateLendingMarketMode::try_from`. -/
def tryFrom (n : ℕ) : Option UpdateLendingMarketMode :=
  match n with
  | 0 => some updateOwner
  | 1 => some updateEmergencyMode
  | 2 => some updateLiquidationCloseFactor
  | 3 => some updateLiquidationMaxValue
  | 4 => some deprecatedUpdateGlobalUnhealthyBorrow
  | 5 => some updateGlobalAllowedBorrow
  | 6 => some updateRiskCouncil
  | 7 => some updateMinFullLiquidationThreshold
  | 8 => some updateInsolvencyRiskLtv
  | 9 => some updateElevationGroup
  | 10 => some updateReferralFeeBps
  | 11 => some deprecatedUpdateMultiplierPoints
  | 12 => some updatePriceRefreshTriggerToMaxAgePct
  | 13 => some updateAutodeleverageEnabled
  | 14 => some updateBorrowingDisabled
  | 15 => some updateMinNetValueObligationPostAction
  | 16 => some updateMinValueLtvSkipPriorityLiqCheck
  | 17 => some updateMinValueBfSkipPriorityLiqCheck
  | 18 => some updatePaddingFields
  | 19 => some updateName
  | 20 => some updateIndividualAutodeleverageMarginCallPeriodSecs
  | 21 => some updateInitialDepositAmount
  | _ => none

end UpdateLendingMarketMode

/-- A mode with the value that its bytes stand for. -/
inductive LendingMarketUpdate where
  | updateOwner (value : Pubkey)
  | updateEmergencyMode (value : U8)
  | updateLiquidationCloseFactor (value : U8)
  | updateLiquidationMaxValue (value : U64)
  | updateGlobalAllowedBorrow (value : U64)
  | updateRiskCouncil (value : Pubkey)
  | updateMinFullLiquidationThreshold (value : U64)
  | updateInsolvencyRiskLtv (value : U8)
  | updateElevationGroup (value : ElevationGroupAccount)
  | updateReferralFeeBps (value : U16)
  | updatePriceRefreshTriggerToMaxAgePct (value : U8)
  | updateAutodeleverageEnabled (value : U8)
  | updateBorrowingDisabled (value : U8)
  | updateMinNetValueObligationPostAction (value : U128)
  | updateMinValueLtvSkipPriorityLiqCheck (value : U64)
  | updateMinValueBfSkipPriorityLiqCheck (value : U64)
  | updatePaddingFields
  | updateName (value : NameBytes)
  | updateIndividualAutodeleverageMarginCallPeriodSecs (value : U64)
  | updateInitialDepositAmount (value : U64)
deriving DecidableEq

/-- The borsh encoding of a group, its fields in their order. -/
def ElevationGroupAccount.deserialize (bytes : List U8) : Result ElevationGroupAccount := do
  let (maxLiquidationBonusBps, bytes) ← Word.deserialize 16 bytes
  let (id, bytes) ← Word.deserialize 8 bytes
  let (ltvPct, bytes) ← Word.deserialize 8 bytes
  let (liquidationThresholdPct, bytes) ← Word.deserialize 8 bytes
  let (allowNewLoans, bytes) ← Word.deserialize 8 bytes
  let (maxReservesAsCollateral, bytes) ← Word.deserialize 8 bytes
  let (padding0, bytes) ← Word.deserialize 8 bytes
  let (debtReserve, bytes) ← Pubkey.deserialize bytes
  let (first, bytes) ← Word.deserialize 64 bytes
  let (second, bytes) ← Word.deserialize 64 bytes
  let (third, bytes) ← Word.deserialize 64 bytes
  let (fourth, _) ← Word.deserialize 64 bytes
  pure { maxLiquidationBonusBps, id, ltvPct, liquidationThresholdPct, allowNewLoans,
         maxReservesAsCollateral, debtReserve, padding0
         padding1 := ![first, second, third, fourth] }

namespace LendingMarketUpdate

/-- `value[0]`. -/
def decodeU8 (value : List U8) : Result U8 := unwrap value[0]?

/-- `value[0..32]` as a name. -/
def decodeName (value : List U8) : Result NameBytes :=
  if h : (value.take 32).length = 32 then pure ⟨value.take 32, h⟩ else abort

/-- What the handler reads off the bytes. The deprecated modes panic. -/
def decode (mode : UpdateLendingMarketMode) (value : List U8) : Result LendingMarketUpdate :=
  match mode with
  | .updateOwner => updateOwner <$> Pubkey.fromBytes (value.take 32)
  | .updateEmergencyMode => updateEmergencyMode <$> decodeU8 value
  | .updateLiquidationCloseFactor => updateLiquidationCloseFactor <$> decodeU8 value
  | .updateLiquidationMaxValue =>
    updateLiquidationMaxValue <$> Word.fromLeBytes 64 (value.take 8)
  | .deprecatedUpdateGlobalUnhealthyBorrow => abort
  | .updateGlobalAllowedBorrow =>
    updateGlobalAllowedBorrow <$> Word.fromLeBytes 64 (value.take 8)
  | .updateRiskCouncil => updateRiskCouncil <$> Pubkey.fromBytes (value.take 32)
  | .updateMinFullLiquidationThreshold =>
    updateMinFullLiquidationThreshold <$> Word.fromLeBytes 64 (value.take 8)
  | .updateInsolvencyRiskLtv => updateInsolvencyRiskLtv <$> decodeU8 value
  | .updateElevationGroup => updateElevationGroup <$> ElevationGroupAccount.deserialize value
  | .updateReferralFeeBps => updateReferralFeeBps <$> Word.fromLeBytes 16 (value.take 2)
  | .deprecatedUpdateMultiplierPoints => abort
  | .updatePriceRefreshTriggerToMaxAgePct =>
    updatePriceRefreshTriggerToMaxAgePct <$> decodeU8 value
  | .updateAutodeleverageEnabled => updateAutodeleverageEnabled <$> decodeU8 value
  | .updateBorrowingDisabled => updateBorrowingDisabled <$> decodeU8 value
  | .updateMinNetValueObligationPostAction =>
    updateMinNetValueObligationPostAction <$> Word.fromLeBytes 128 (value.take 16)
  | .updateMinValueLtvSkipPriorityLiqCheck =>
    updateMinValueLtvSkipPriorityLiqCheck <$> Word.fromLeBytes 64 (value.take 8)
  | .updateMinValueBfSkipPriorityLiqCheck =>
    updateMinValueBfSkipPriorityLiqCheck <$> Word.fromLeBytes 64 (value.take 8)
  | .updatePaddingFields => pure updatePaddingFields
  | .updateName => updateName <$> decodeName value
  | .updateIndividualAutodeleverageMarginCallPeriodSecs =>
    updateIndividualAutodeleverageMarginCallPeriodSecs <$> Word.fromLeBytes 64 (value.take 8)
  | .updateInitialDepositAmount =>
    updateInitialDepositAmount <$> Word.fromLeBytes 64 (value.take 8)

/-- The arguments of the instruction, whose mode must be known. -/
def readArgs (mode : ℕ) (value : List U8) : Result LendingMarketUpdate :=
  match UpdateLendingMarketMode.tryFrom mode with
  | none => .error .anchor
  | some mode => decode mode value

end LendingMarketUpdate

def validateNumericalBool (value : U8) : Result Unit := require (value ≤ 1) .invalidFlag

/-- The checks on a decoded value, and the field it is stored in. -/
def LendingMarketAccount.store (account : LendingMarketAccount) :
    LendingMarketUpdate → Result LendingMarketAccount
  | .updateOwner value => pure { account with lendingMarketOwnerCached := value }
  | .updateEmergencyMode value => do
    require (value ≤ 1) .invalidFlag
    pure { account with market := { account.market with emergencyMode := value } }
  | .updateLiquidationCloseFactor value => do
    require (5 ≤ value ∧ value ≤ 100) .invalidFlag
    pure { account with
      market := { account.market with liquidationMaxDebtCloseFactorPct := value } }
  | .updateLiquidationMaxValue value => do
    require (value ≠ 0) .invalidFlag
    pure { account with
      market := { account.market with maxLiquidatableDebtMarketValueAtOnce := value } }
  | .updateGlobalAllowedBorrow value =>
    pure { account with market := { account.market with globalAllowedBorrowValue := value } }
  | .updateRiskCouncil value => pure { account with riskCouncil := value }
  | .updateMinFullLiquidationThreshold value => do
    require (value ≠ 0) .invalidFlag
    pure { account with
      market := { account.market with minFullLiquidationValueThreshold := value } }
  | .updateInsolvencyRiskLtv value => do
    require (5 ≤ value ∧ value ≤ 100) .invalidFlag
    pure { account with
      market := { account.market with insolvencyRiskUnhealthyLtvPct := value } }
  | .updateElevationGroup value => do
    LendingMarket.validateElevationGroup value.toElevationGroup
    let market ← account.market.setElevationGroup value.toElevationGroup
    pure { account with market }
  | .updateReferralFeeBps value => do
    require (value ≤ fullBps) .invalidConfig
    pure { account with market := { account.market with referralFeeBps := value } }
  | .updatePriceRefreshTriggerToMaxAgePct value => do
    require (value ≤ 100) .invalidConfig
    pure { account with
      market := { account.market with priceRefreshTriggerToMaxAgePct := value } }
  | .updateAutodeleverageEnabled value => do
    require (value ≤ 1) .invalidFlag
    pure { account with market := { account.market with autodeleverageEnabled := value } }
  | .updateBorrowingDisabled value => do
    validateNumericalBool value
    pure { account with market := { account.market with borrowDisabled := value } }
  | .updateMinNetValueObligationPostAction value =>
    pure { account with
      market := { account.market with minNetValueInObligationSf := ⟨value, value.isLt⟩ } }
  | .updateMinValueLtvSkipPriorityLiqCheck value =>
    pure { account with
      market := { account.market with minValueSkipLiquidationLtvChecks := value } }
  | .updateMinValueBfSkipPriorityLiqCheck value =>
    pure { account with
      market := { account.market with minValueSkipLiquidationBfChecks := value } }
  | .updatePaddingFields => pure { account with reserved0 := 0, reserved1 := 0 }
  | .updateName value => do
    value.fromUtf8
    account.name.fromUtf8
    pure { account with name := value }
  | .updateIndividualAutodeleverageMarginCallPeriodSecs value => do
    require (value ≠ 0) .invalidConfig
    pure { account with
      market := { account.market with individualAutodeleverageMarginCallPeriodSecs := value } }
  | .updateInitialDepositAmount value => do
    require (minInitialDepositAmount ≤ value) .invalidConfig
    pure { account with market := { account.market with minInitialDepositAmount := value } }

/-- `update_lending_market`. -/
def LendingMarketAccount.process (account : LendingMarketAccount) (mode : U64)
    (value : List U8) : Result LendingMarketAccount := do
  let update ← LendingMarketUpdate.readArgs mode value
  account.store update

end Klend
