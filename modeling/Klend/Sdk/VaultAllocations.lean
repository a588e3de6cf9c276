import Klend.Library.ExtendedRationals
import Klend.Sdk.VaultState

/-! # Allocation of a vault's holdings

The client spreads the holdings of a vault over its reserves by weight. What a cap keeps out
of a reserve is spread in further passes, over the weights of the reserves that have not met
their cap. Decimals are exact; `none` is an exception, or a loop that has not come to its end.
-/

namespace Klend.Sdk

/-- The holdings that the allocation reads. -/
structure VaultHoldings where
  totalAUMIncludingFees : ℚ
  pendingFees : ℚ

/-- The variables of the loop. -/
structure Redistribution where
  totalLeftToInvest : Extended
  currentAllocationSum : Extended
  expectedHoldingsDistribution : PubkeyHashMap Extended

namespace Redistribution

def amountToInvest (s : Redistribution) (totalLeftover : Extended)
    (reserveWithWeight : ReserveAllocationOverview) : Extended :=
  let targetAllocation :=
    .finite reserveWithWeight.targetWeight * totalLeftover / s.currentAllocationSum
  let reserveCap := .finite reserveWithWeight.tokenAllocationCap
  let amountToInvest := Extended.min targetAllocation s.totalLeftToInvest
  if Extended.lt 0 reserveCap then Extended.min amountToInvest reserveCap else amountToInvest

def addToDistribution (expectedHoldingsDistribution : PubkeyHashMap Extended) (reserve : Pubkey)
    (amountToInvest : Extended) : PubkeyHashMap Extended :=
  match expectedHoldingsDistribution.get reserve with
  | some preallocation => expectedHoldingsDistribution.set reserve (preallocation + amountToInvest)
  | none => expectedHoldingsDistribution.set reserve amountToInvest

/-- The body of the loop over the reserves. -/
def visit (allocations : PubkeyHashMap ReserveAllocationOverview) (totalLeftover : Extended)
    (s : Redistribution) (reserve : Pubkey) : Option Redistribution := do
  let reserveWithWeight ← allocations.get reserve
  let reserveCap := .finite reserveWithWeight.tokenAllocationCap
  let amountToInvest := s.amountToInvest totalLeftover reserveWithWeight
  pure {
    totalLeftToInvest := s.totalLeftToInvest - amountToInvest
    currentAllocationSum :=
      if Extended.eq amountToInvest reserveCap && Extended.lt 0 reserveCap then
        s.currentAllocationSum - .finite reserveWithWeight.targetWeight
      else s.currentAllocationSum
    expectedHoldingsDistribution :=
      addToDistribution s.expectedHoldingsDistribution reserve amountToInvest }

def pass (allocations : PubkeyHashMap ReserveAllocationOverview) (allReserves : List Pubkey)
    (s : Redistribution) : Option Redistribution :=
  allReserves.foldlM (visit allocations s.totalLeftToInvest) s

/-- The `while` loop, for as many passes as there is fuel. -/
def run (allocations : PubkeyHashMap ReserveAllocationOverview) (allReserves : List Pubkey) :
    ℕ → Redistribution → Option Redistribution
  | 0, _ => none
  | fuel + 1, s =>
    if Extended.lt 1 s.totalLeftToInvest then
      (pass allocations allReserves s).bind (run allocations allReserves fuel)
    else some s

end Redistribution

namespace VaultState

variable (v : VaultState)

def allReservesHaveWeight0 : Bool :=
  v.getVaultReserves.all fun reserve ↦
    match v.getVaultAllocations.get reserve with
    | some allocation => decide (allocation.targetWeight = 0)
    | none => false

def totalAllocation : ℚ := (v.getVaultAllocations.map fun entry ↦ entry.2.targetWeight).sum

def getVaultComputedReservesAllocation (fuel : ℕ) (holdings : VaultHoldings) :
    Option (PubkeyHashMap Extended) :=
  if v.getVaultReserves = [] ∨ v.allReservesHaveWeight0 then
    some (v.getVaultReserves.foldl
      (fun computedHoldings reserve ↦ computedHoldings.set reserve 0) [])
  else do
    let s ← Redistribution.run v.getVaultAllocations v.getVaultReserves fuel {
      totalLeftToInvest := .finite (holdings.totalAUMIncludingFees - holdings.pendingFees)
      currentAllocationSum := .finite v.totalAllocation
      expectedHoldingsDistribution := [] }
    pure s.expectedHoldingsDistribution

end VaultState

end Klend.Sdk
