import Klend.Sdk.ObligationPositions

/-! # Elevation groups of the client

The client describes the groups of a market that are in use and enters the reserves that list a
group at the place before its id. `none` is an exception.
-/

namespace Klend.Sdk

/-- Keys in the order in which they were added, each of them once. -/
structure PublicKeySet where
  items : List Pubkey
  nodup : items.Nodup

namespace PublicKeySet

def empty : PublicKeySet := ⟨[], .nil⟩

def contains (s : PublicKeySet) (item : Pubkey) : Bool := item ∈ s.items

def add (s : PublicKeySet) (item : Pubkey) : PublicKeySet :=
  if h : item ∈ s.items then s
  else ⟨s.items ++ [item], List.nodup_append_comm.1 (List.nodup_cons.2 ⟨h, s.nodup⟩)⟩

variable {s : PublicKeySet} {item other : Pubkey}

@[simp] theorem contains_empty : empty.contains item = false := rfl

theorem contains_iff : s.contains item ↔ item ∈ s.items := by
  rw [contains, decide_eq_true_eq]

@[simp] theorem contains_add :
    (s.add item).contains other ↔ other = item ∨ s.contains other := by
  rw [contains_iff, contains_iff, add]
  split
  · next h =>
    constructor
    · exact .inr
    · rintro (rfl | hother)
      · exact h
      · exact hother
  · rw [List.mem_append, List.mem_singleton, or_comm]

end PublicKeySet

structure ElevationGroupDescription where
  collateralReserves : PublicKeySet
  collateralLiquidityMints : PublicKeySet
  debtReserve : Pubkey
  debtLiquidityMint : Pubkey
  elevationGroup : ℕ
  maxReservesAsCollateral : ℕ

/-- What is known of a group without the reserves. -/
def describe (elevationGroup : ElevationGroup) : ElevationGroupDescription where
  collateralReserves := .empty
  collateralLiquidityMints := .empty
  debtReserve := elevationGroup.debtReserve
  debtLiquidityMint := 0
  elevationGroup := elevationGroup.id
  maxReservesAsCollateral := elevationGroup.maxReservesAsCollateral

/-- A reserve that lists the group is its debt reserve or collateral in it. -/
def ElevationGroupDescription.enter (description : ElevationGroupDescription)
    (reserve : KaminoReserve) : ElevationGroupDescription :=
  if reserve.address = description.debtReserve then
    { description with debtLiquidityMint := reserve.getLiquidityMint }
  else
    { description with
      collateralReserves := description.collateralReserves.add reserve.address
      collateralLiquidityMints :=
        description.collateralLiquidityMints.add reserve.getLiquidityMint }

/-- The ids that the reserve lists. -/
def KaminoReserve.elevationGroups (reserve : KaminoReserve) : List ℕ :=
  reserve.state.config.elevationGroups.map Fin.val

/-- The body of the loop over the ids of a reserve. -/
def enterGroup (reserve : KaminoReserve) (elevationGroups : List ElevationGroupDescription)
    (elevationGroupId : ℕ) : Option (List ElevationGroupDescription) :=
  if elevationGroupId = 0 then some elevationGroups
  else do
    let elevationGroupDescription ← elevationGroups[elevationGroupId - 1]?
    pure (elevationGroups.set (elevationGroupId - 1) (elevationGroupDescription.enter reserve))

namespace KaminoMarket

variable (market : KaminoMarket)

/-- The reserves without their keys. -/
def getReserves : List KaminoReserve := market.reserves.map Prod.snd

/-- The groups of the market that are in use. -/
def usedElevationGroups : List ElevationGroup :=
  (List.ofFn market.state.elevationGroups).filter (·.id ≠ 0)

def getMarketElevationGroupDescriptions : Option (List ElevationGroupDescription) :=
  market.getReserves.foldlM
    (fun elevationGroups reserve ↦
      reserve.elevationGroups.foldlM (enterGroup reserve) elevationGroups)
    (market.usedElevationGroups.map describe)

end KaminoMarket

end Klend.Sdk
