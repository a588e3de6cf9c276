import Klend.Lending.MarketUpdates
import Klend.Sdk.Encoding

/-! # Market updates of the TypeScript client

The client turns a changed field of a market into a mode and a buffer of 72 bytes.
-/

namespace Klend.Sdk

/-- The discriminators of the generated mode classes. -/
def discriminator : UpdateLendingMarketMode → ℕ
  | .updateOwner => 0
  | .updateEmergencyMode => 1
  | .updateLiquidationCloseFactor => 2
  | .updateLiquidationMaxValue => 3
  | .deprecatedUpdateGlobalUnhealthyBorrow => 4
  | .updateGlobalAllowedBorrow => 5
  | .updateRiskCouncil => 6
  | .updateMinFullLiquidationThreshold => 7
  | .updateInsolvencyRiskLtv => 8
  | .updateElevationGroup => 9
  | .updateReferralFeeBps => 10
  | .deprecatedUpdateMultiplierPoints => 11
  | .updatePriceRefreshTriggerToMaxAgePct => 12
  | .updateAutodeleverageEnabled => 13
  | .updateBorrowingDisabled => 14
  | .updateMinNetValueObligationPostAction => 15
  | .updateMinValueLtvSkipPriorityLiqCheck => 16
  | .updateMinValueBfSkipPriorityLiqCheck => 17
  | .updatePaddingFields => 18
  | .updateName => 19
  | .updateIndividualAutodeleverageMarginCallPeriodSecs => 20
  | .updateInitialDepositAmount => 21

theorem tryFrom_discriminator (mode : UpdateLendingMarketMode) :
    UpdateLendingMarketMode.tryFrom (discriminator mode) = some mode := by
  cases mode <;> rfl

/-- The values that the encoder accepts; a string is a number written in decimal. -/
inductive EncodableValue where
  | number (n : ℕ)
  | numberArray (ns : List ℕ)
  | publicKey (key : Pubkey)
  | elevationGroup (group : ElevationGroupAccount)
  | string (n : ℕ)

/-- The reserved words of a group are not written. -/
def serializeElevationGroup (elevationGroup : ElevationGroupAccount) : Option (List U8) := do
  let buffer := alloc 72
  let buffer ← writeUInt16LE buffer elevationGroup.maxLiquidationBonusBps 0
  let buffer ← writeUIntLE buffer elevationGroup.id 2 1
  let buffer ← writeUIntLE buffer elevationGroup.ltvPct 3 1
  let buffer ← writeUIntLE buffer elevationGroup.liquidationThresholdPct 4 1
  let buffer ← writeUIntLE buffer elevationGroup.allowNewLoans 5 1
  let buffer ← writeUIntLE buffer elevationGroup.maxReservesAsCollateral 6 1
  let buffer ← writeUIntLE buffer elevationGroup.padding0 7 1
  pure (copy (Pubkey.toBytes elevationGroup.debtReserve) buffer 8)

/-- The loop over the 16 bytes of a big integer, from the lowest to the highest. -/
def writeBigIntBytes (buffer : List U8) (valueBigInt : ℕ) : List U8 :=
  (List.range 16).foldl
    (fun buffer i ↦ buffer.set (15 - i) (Fin.ofNat (2 ^ 8) (valueBigInt / (2 ^ 8) ^ i))) buffer

/-- A value of another kind than the mode's is an exception. -/
def updateMarketConfigEncodedValue (mode : UpdateLendingMarketMode) (value : EncodableValue) :
    Option (List U8) :=
  let buffer := alloc 72
  match mode, value with
  | .updateEmergencyMode, .number n => writeUIntLE buffer n 0 1
  | .updateLiquidationCloseFactor, .number n => writeUIntLE buffer n 0 1
  | .updateInsolvencyRiskLtv, .number n => writeUIntLE buffer n 0 1
  | .updatePriceRefreshTriggerToMaxAgePct, .number n => writeUIntLE buffer n 0 1
  | .updateAutodeleverageEnabled, .number n => writeUIntLE buffer n 0 1
  | .updateBorrowingDisabled, .number n => writeUIntLE buffer n 0 1
  | .updateReferralFeeBps, .number n => writeUInt16LE buffer n 0
  | .updateLiquidationMaxValue, .number n => writeBigUint64LE buffer n 0
  | .updateGlobalAllowedBorrow, .number n => writeBigUint64LE buffer n 0
  | .updateMinFullLiquidationThreshold, .number n => writeBigUint64LE buffer n 0
  | .updateMinValueBfSkipPriorityLiqCheck, .number n => writeBigUint64LE buffer n 0
  | .updateMinValueLtvSkipPriorityLiqCheck, .number n => writeBigUint64LE buffer n 0
  | .updateIndividualAutodeleverageMarginCallPeriodSecs, .number n => writeBigUint64LE buffer n 0
  | .updateInitialDepositAmount, .number n => writeBigUint64LE buffer n 0
  | .updateOwner, .publicKey key => some (copy (Pubkey.toBytes key) buffer 0)
  | .updateRiskCouncil, .publicKey key => some (copy (Pubkey.toBytes key) buffer 0)
  | .updateElevationGroup, .elevationGroup group => serializeElevationGroup group
  | .updateMinNetValueObligationPostAction, .string n => some (writeBigIntBytes buffer n)
  | .updateName, .numberArray ns => writeBytes buffer 0 ns
  | .updatePaddingFields, _ => some buffer
  | .deprecatedUpdateGlobalUnhealthyBorrow, _ => some buffer
  | .deprecatedUpdateMultiplierPoints, _ => some buffer
  | _, _ => none

/-- The mode of an update and the value that `updateLendingMarketConfig` encodes for it: a 64-bit
number becomes a JavaScript number, the 128-bit one a string. -/
def encodable : LendingMarketUpdate → UpdateLendingMarketMode × Option EncodableValue
  | .updateOwner new => (.updateOwner, some (.publicKey new))
  | .updateEmergencyMode new => (.updateEmergencyMode, some (.number new))
  | .updateLiquidationCloseFactor new => (.updateLiquidationCloseFactor, some (.number new))
  | .updateLiquidationMaxValue new => (.updateLiquidationMaxValue, (toNumber new).map .number)
  | .updateGlobalAllowedBorrow new => (.updateGlobalAllowedBorrow, (toNumber new).map .number)
  | .updateRiskCouncil new => (.updateRiskCouncil, some (.publicKey new))
  | .updateMinFullLiquidationThreshold new =>
    (.updateMinFullLiquidationThreshold, (toNumber new).map .number)
  | .updateInsolvencyRiskLtv new => (.updateInsolvencyRiskLtv, some (.number new))
  | .updateElevationGroup new => (.updateElevationGroup, some (.elevationGroup new))
  | .updateReferralFeeBps new => (.updateReferralFeeBps, some (.number new))
  | .updatePriceRefreshTriggerToMaxAgePct new =>
    (.updatePriceRefreshTriggerToMaxAgePct, some (.number new))
  | .updateAutodeleverageEnabled new => (.updateAutodeleverageEnabled, some (.number new))
  | .updateBorrowingDisabled new => (.updateBorrowingDisabled, some (.number new))
  | .updateMinNetValueObligationPostAction new =>
    (.updateMinNetValueObligationPostAction, some (.string new))
  | .updateMinValueLtvSkipPriorityLiqCheck new =>
    (.updateMinValueLtvSkipPriorityLiqCheck, (toNumber new).map .number)
  | .updateMinValueBfSkipPriorityLiqCheck new =>
    (.updateMinValueBfSkipPriorityLiqCheck, (toNumber new).map .number)
  | .updatePaddingFields => (.updatePaddingFields, some (.number 0))
  | .updateName new => (.updateName, some (.numberArray (new.val.map Fin.val)))
  | .updateIndividualAutodeleverageMarginCallPeriodSecs new =>
    (.updateIndividualAutodeleverageMarginCallPeriodSecs, (toNumber new).map .number)
  | .updateInitialDepositAmount new => (.updateInitialDepositAmount, (toNumber new).map .number)

/-- The arguments of the instruction that the client sends for an update. -/
def updateLendingMarketArgs (update : LendingMarketUpdate) : Option (ℕ × List U8) := do
  let value ← (encodable update).2
  let buffer ← updateMarketConfigEncodedValue (encodable update).1 value
  pure (discriminator (encodable update).1, buffer)

end Klend.Sdk
