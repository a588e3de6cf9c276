import Klend.Machine.Word
import Mathlib.Data.BitVec

/-! # Freshness of accounts -/

namespace Klend

structure Clock where
  slot : U64
  unixTimestamp : ℤ
deriving DecidableEq, Repr

/-- `u64::try_from(clock.unix_timestamp).unwrap()`. -/
def Clock.timestamp (c : Clock) : Result U64 :=
  if 0 ≤ c.unixTimestamp then Word.fit 64 c.unixTimestamp.toNat else abort

/-- The price checks that passed at the last price update, one bit each. -/
structure PriceStatusFlags where
  bits : BitVec 8
deriving DecidableEq, Repr, Inhabited

namespace PriceStatusFlags

def priceLoaded : PriceStatusFlags := ⟨0b00000001⟩
def priceAgeChecked : PriceStatusFlags := ⟨0b00000010⟩
def twapChecked : PriceStatusFlags := ⟨0b00000100⟩
def twapAgeChecked : PriceStatusFlags := ⟨0b00001000⟩
def heuristicChecked : PriceStatusFlags := ⟨0b00010000⟩
def priceUsageAllowed : PriceStatusFlags := ⟨0b00100000⟩

def union (a b : PriceStatusFlags) : PriceStatusFlags := ⟨a.bits ||| b.bits⟩

def intersection (a b : PriceStatusFlags) : PriceStatusFlags := ⟨a.bits &&& b.bits⟩

def contains (a b : PriceStatusFlags) : Prop := a.bits &&& b.bits = b.bits

instance (a b : PriceStatusFlags) : Decidable (a.contains b) :=
  inferInstanceAs (Decidable (_ = _))

def none : PriceStatusFlags := ⟨0⟩

def allChecks : PriceStatusFlags :=
  priceLoaded.union <| priceAgeChecked.union <| twapChecked.union <| twapAgeChecked.union <|
    heuristicChecked.union priceUsageAllowed

def liquidationChecks : PriceStatusFlags :=
  (priceLoaded.union priceAgeChecked).union priceUsageAllowed

@[simp] theorem contains_none (a : PriceStatusFlags) : a.contains none := by
  simp [contains, none]

end PriceStatusFlags

/-- `priceStatus` holds the stored byte with the undefined bits truncated. -/
structure LastUpdate where
  slot : U64
  stale : Bool
  priceStatus : PriceStatusFlags
deriving DecidableEq, Repr, Inhabited

namespace LastUpdate

def staleAfterSlotsElapsed : ℕ := 1

def new (slot : U64) : LastUpdate := { slot, stale := true, priceStatus := .none }

def slotsElapsed (u : LastUpdate) (slot : U64) : Result U64 :=
  okOr (Word.checkedSub slot u.slot) .mathOverflow

def updateSlot (u : LastUpdate) (slot : U64) (priceStatus : Option PriceStatusFlags) :
    LastUpdate where
  slot := slot
  stale := false
  priceStatus := priceStatus.getD u.priceStatus

def markStale (u : LastUpdate) : LastUpdate := { u with stale := true }

def isStale (u : LastUpdate) (slot : U64) (minPriceStatus : PriceStatusFlags) : Result Bool := do
  if u.stale then
    pure true
  else
    let elapsed ← u.slotsElapsed slot
    pure (decide (staleAfterSlotsElapsed ≤ (elapsed : ℕ) ∨ ¬ u.priceStatus.contains minPriceStatus))

/-- The staleness check before an operation, with the operation's own error. -/
def requireFresh (u : LastUpdate) (slot : U64) (minPriceStatus : PriceStatusFlags)
    (e : LendingError) : Result Unit := do
  let stale ← u.isStale slot minPriceStatus
  require (stale = false) e

@[simp] theorem slotsElapsed_eq_ok {u : LastUpdate} {slot n : U64} :
    u.slotsElapsed slot = .ok n ↔ (n : ℕ) + u.slot = slot := by
  simp [slotsElapsed]

@[simp] theorem updateSlot_slot (u : LastUpdate) (slot : U64) (p : Option PriceStatusFlags) :
    (u.updateSlot slot p).slot = slot := rfl

@[simp] theorem updateSlot_stale (u : LastUpdate) (slot : U64) (p : Option PriceStatusFlags) :
    (u.updateSlot slot p).stale = false := rfl

@[simp] theorem markStale_slot (u : LastUpdate) : u.markStale.slot = u.slot := rfl

@[simp] theorem markStale_stale (u : LastUpdate) : u.markStale.stale = true := rfl

theorem isStale_eq_ok_false {u : LastUpdate} {slot : U64} {p : PriceStatusFlags} :
    u.isStale slot p = .ok false ↔ u.stale = false ∧ u.slot = slot ∧ u.priceStatus.contains p := by
  unfold isStale staleAfterSlotsElapsed
  cases u.stale
  · simp only [Bool.false_eq_true, if_false, bind_eq_ok, slotsElapsed_eq_ok, pure_eq_ok,
      decide_eq_false_iff_not, not_or, not_not, not_le, true_and]
    constructor
    · rintro ⟨n, hn, hlt, hp⟩
      exact ⟨Fin.ext (by omega), hp⟩
    · rintro ⟨rfl, hp⟩
      exact ⟨0, by simp, by simp, hp⟩
  · simp

@[simp] theorem requireFresh_eq_ok {u : LastUpdate} {slot : U64} {p : PriceStatusFlags}
    {e : LendingError} {r : Unit} : u.requireFresh slot p e = .ok r ↔
      u.stale = false ∧ u.slot = slot ∧ u.priceStatus.contains p := by
  simp only [requireFresh, bind_eq_ok, require_eq_ok, ← isStale_eq_ok_false]
  constructor
  · rintro ⟨b, hb, rfl⟩
    exact hb
  · exact fun h ↦ ⟨false, h, rfl⟩

end LastUpdate

end Klend
