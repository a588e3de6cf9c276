import Klend.Machine.Word

/-! # Withdrawal caps

A signed counter of what left a reserve in the current interval. With an
interval of zero seconds the counter is still kept, but never refuses.
-/

namespace Klend

/-- Signed 64-bit words. -/
abbrev I64 : Type := {x : ℤ // -2 ^ 63 ≤ x ∧ x < 2 ^ 63}

namespace I64

instance : Inhabited I64 := ⟨⟨0, by decide⟩⟩

def checkedFit (x : ℤ) : Option I64 :=
  if h : -2 ^ 63 ≤ x ∧ x < 2 ^ 63 then some ⟨x, h⟩ else none

theorem checkedFit_eq_some {x : ℤ} {n : I64} : checkedFit x = some n ↔ n.val = x := by
  unfold checkedFit
  split
  · simp [Subtype.ext_iff, eq_comm]
  · next h =>
    simp only [reduceCtorEq, false_iff]
    rintro rfl
    exact h n.2

/-- The nearest signed word. -/
def saturate (x : ℤ) : I64 :=
  ⟨max (-2 ^ 63) (min x (2 ^ 63 - 1)), by omega⟩

end I64

@[ext] structure WithdrawalCaps where
  configCapacity : I64
  currentTotal : I64
  lastIntervalStartTimestamp : U64
  configIntervalLengthSeconds : U64
deriving DecidableEq, Repr, Inhabited

inductive WithdrawalCapAction where
  | add
  | remove
deriving DecidableEq, Repr

inductive WithdrawalCapOverflowAction where
  | saturatingOverflow
  | errorOnOverflow
deriving DecidableEq, Repr

namespace WithdrawalCaps

/-- What an action adds to the counter. -/
def signedAmount (action : WithdrawalCapAction) (requested : I64) : ℤ :=
  match action with
  | .add => requested.val
  | .remove => -requested.val

def updateCounter (caps : WithdrawalCaps) (requestedAmount : U64) (action : WithdrawalCapAction)
    (overflowAction : WithdrawalCapOverflowAction) : Result WithdrawalCaps :=
  match overflowAction with
  | .saturatingOverflow => do
    let requested ← okOr (I64.checkedFit requestedAmount) .mathOverflow
    pure { caps with
      currentTotal := I64.saturate (caps.currentTotal.val + signedAmount action requested) }
  | .errorOnOverflow => do
    let requested ← okOr (I64.checkedFit requestedAmount) .integerOverflow
    let currentTotal ←
      okOr (I64.checkedFit (caps.currentTotal.val + signedAmount action requested)) .mathOverflow
    pure { caps with currentTotal }

def checkCapacityAllowsWithdrawals (caps : WithdrawalCaps) (requestedAmount : U64) :
    Result Unit := do
  require (0 ≤ caps.configCapacity.val) .withdrawalCapReached
  let requested ← okOr (I64.checkedFit requestedAmount) .mathOverflow
  let total ← okOr (I64.checkedFit (caps.currentTotal.val + requested.val)) .mathOverflow
  require (total.val ≤ caps.configCapacity.val) .withdrawalCapReached

def checkLastIntervalElapsed (caps : WithdrawalCaps) (currTimestamp : U64) : Result Bool := do
  require (caps.lastIntervalStartTimestamp ≤ currTimestamp) .lastTimestampGreaterThanCurrent
  pure (decide (caps.configIntervalLengthSeconds ≤
    Word.saturatingSub currTimestamp caps.lastIntervalStartTimestamp))

def resetCurrentIntervalAndCounter (caps : WithdrawalCaps) (currTimestamp : U64) :
    WithdrawalCaps :=
  { caps with currentTotal := default, lastIntervalStartTimestamp := currTimestamp }

def checkAndUpdateWithdrawalCaps (caps : WithdrawalCaps) (requestedAmount currTimestamp : U64)
    (action : WithdrawalCapAction) : Result WithdrawalCaps :=
  if caps.configIntervalLengthSeconds ≠ 0 then do
    let elapsed ← caps.checkLastIntervalElapsed currTimestamp
    let caps := if elapsed then caps.resetCurrentIntervalAndCounter currTimestamp else caps
    if action = .add then
      caps.checkCapacityAllowsWithdrawals requestedAmount
    caps.updateCounter requestedAmount action .errorOnOverflow
  else
    caps.updateCounter requestedAmount action .saturatingOverflow

def addToWithdrawalAccum (caps : WithdrawalCaps) (requestedAmount currTimestamp : U64) :
    Result WithdrawalCaps :=
  caps.checkAndUpdateWithdrawalCaps requestedAmount currTimestamp .add

def subFromWithdrawalAccum (caps : WithdrawalCaps) (requestedAmount currTimestamp : U64) :
    Result WithdrawalCaps :=
  caps.checkAndUpdateWithdrawalCaps requestedAmount currTimestamp .remove

end WithdrawalCaps

end Klend
