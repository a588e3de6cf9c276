import Klend.State.ReserveConfig

/-! # Lending markets and elevation groups -/

namespace Klend

def elevationGroupNone : U8 := 0

def maxNumElevationGroups : U8 := 32

structure ElevationGroup where
  maxLiquidationBonusBps : U16
  id : U8
  ltvPct : U8
  liquidationThresholdPct : U8
  allowNewLoans : U8
  maxReservesAsCollateral : U8
  debtReserve : Pubkey
deriving DecidableEq, Repr, Inhabited

/-- The bounds check of indexing one of the 32-entry arrays. -/
def arrayIndex (i : ℕ) : Result (Fin 32) :=
  if h : i < 32 then .ok ⟨i, h⟩ else abort

@[simp] theorem arrayIndex_eq_ok {i : ℕ} {j : Fin 32} : arrayIndex i = .ok j ↔ (j : ℕ) = i := by
  unfold arrayIndex; split
  · simp [Fin.ext_iff, eq_comm]
  · simp; omega

namespace ElevationGroup

def newLoansDisabled (g : ElevationGroup) : Bool := g.allowNewLoans = 0

/-- `get_index`, with the bounds check of the array it then indexes. -/
def getIndex (g : ElevationGroup) : Result (Fin 32) := do
  let i ← Word.sub (g.id.widen : U64) 1
  arrayIndex i

theorem getIndex_eq_ok {g : ElevationGroup} {i : Fin 32} :
    g.getIndex = .ok i ↔ (i : ℕ) + 1 = g.id := by
  simp only [getIndex, bind_eq_ok, Word.sub_eq_ok, arrayIndex_eq_ok, Word.widen_val]
  constructor
  · rintro ⟨a, ha, hi⟩
    rw [hi]; exact ha
  · intro h
    exact ⟨⟨i, by omega⟩, h, rfl⟩

end ElevationGroup

structure LendingMarket where
  version : U64
  referralFeeBps : U16
  emergencyMode : U8
  autodeleverageEnabled : U8
  borrowDisabled : U8
  priceRefreshTriggerToMaxAgePct : U8
  liquidationMaxDebtCloseFactorPct : U8
  insolvencyRiskUnhealthyLtvPct : U8
  minFullLiquidationValueThreshold : U64
  maxLiquidatableDebtMarketValueAtOnce : U64
  globalAllowedBorrowValue : U64
  elevationGroups : Fin 32 → ElevationGroup
  minNetValueInObligationSf : Fraction
  minValueSkipLiquidationLtvChecks : U64
  minValueSkipLiquidationBfChecks : U64
  individualAutodeleverageMarginCallPeriodSecs : U64
  minInitialDepositAmount : U64
deriving DecidableEq, Inhabited

namespace LendingMarket

/-- `LendingMarket::init` over the default market. -/
def init : LendingMarket where
  version := programVersion
  referralFeeBps := 0
  emergencyMode := 0
  autodeleverageEnabled := 0
  borrowDisabled := 0
  priceRefreshTriggerToMaxAgePct := 0
  liquidationMaxDebtCloseFactorPct := 20
  insolvencyRiskUnhealthyLtvPct := 95
  minFullLiquidationValueThreshold := 2
  maxLiquidatableDebtMarketValueAtOnce := 500000
  globalAllowedBorrowValue := 45000000
  elevationGroups := fun _ ↦ default
  minNetValueInObligationSf := ⟨1152921504607, by norm_num⟩
  minValueSkipLiquidationLtvChecks := 0
  minValueSkipLiquidationBfChecks := 0
  individualAutodeleverageMarginCallPeriodSecs := 0
  minInitialDepositAmount := 100000

/-- The group stored for a non-zero id; the id recorded inside it may still be unset. -/
def getElevationGroup (m : LendingMarket) (id : U8) : Result (Option ElevationGroup) :=
  if id = elevationGroupNone then .ok none
  else if h : (id : ℕ) - 1 < 32 then .ok (some (m.elevationGroups ⟨id - 1, h⟩))
  else err .invalidElevationGroup

def isBorrowingDisabled (m : LendingMarket) : Bool := m.borrowDisabled ≠ 0

def isAutodeleverageEnabled (m : LendingMarket) : Bool := m.autodeleverageEnabled ≠ 0

theorem getElevationGroup_eq_ok {m : LendingMarket} {id : U8} {o : Option ElevationGroup} :
    m.getElevationGroup id = .ok o ↔ (id = elevationGroupNone ∧ o = none) ∨
      ∃ i : Fin 32, (i : ℕ) + 1 = id ∧ o = some (m.elevationGroups i) := by
  unfold getElevationGroup elevationGroupNone
  by_cases h0 : id = 0
  · subst h0
    simp only [if_true, Except.ok.injEq, true_and]
    constructor
    · exact fun h ↦ .inl h.symm
    · rintro (h | ⟨i, hi, -⟩)
      · exact h.symm
      · simp at hi
  · have hpos : (id : ℕ) ≠ 0 := fun h ↦ h0 (Fin.ext h)
    simp only [h0, if_false, false_and, false_or]
    split
    · rename_i h
      simp only [Except.ok.injEq]
      constructor
      · rintro rfl
        exact ⟨⟨id - 1, h⟩, by simp; omega, rfl⟩
      · rintro ⟨i, hi, rfl⟩
        congr 2; ext; simp; omega
    · simp only [err_ne_ok, false_iff, not_exists, not_and]
      intro i hi
      omega

/-- The bounds the market's update handler puts on a group before storing it. -/
def validateElevationGroup (g : ElevationGroup) : Result Unit := do
  require (g.id ≤ maxNumElevationGroups) .invalidElevationGroupConfig
  require (¬ (g.id ≠ elevationGroupNone ∧ g.liquidationThresholdPct = 0))
    .invalidElevationGroupConfig
  require (¬ (100 ≤ g.liquidationThresholdPct ∨ 100 ≤ g.ltvPct ∨
    g.liquidationThresholdPct < g.ltvPct ∨ fullBps < g.maxLiquidationBonusBps))
    .invalidElevationGroupConfig
  require (¬ (g.id ≠ elevationGroupNone ∧ (g.debtReserve = 0 ∨ g.maxReservesAsCollateral = 0)))
    .invalidElevationGroupConfig
  let threshold := Fraction.fromPercent g.liquidationThresholdPct.widen
  let bonus ← threshold.mul (Fraction.fromBps g.maxLiquidationBonusBps.widen)
  let withBonus ← threshold.add bonus
  require (withBonus ≤ Fraction.one) .invalidElevationGroupConfig

def setElevationGroup (m : LendingMarket) (g : ElevationGroup) : Result LendingMarket := do
  require (g.id ≠ elevationGroupNone) .invalidElevationGroupConfig
  let i ← g.getIndex
  pure { m with elevationGroups := Function.update m.elevationGroups i g }

/-- A market as its initialisation and its update handler leave it. -/
structure Validated (m : LendingMarket) : Prop where
  group : ∀ i, m.elevationGroups i = default ∨
    ((m.elevationGroups i).id : ℕ) = i + 1 ∧
      validateElevationGroup (m.elevationGroups i) = .ok ()
  referralFee : m.referralFeeBps ≤ fullBps
  closeFactor : 5 ≤ m.liquidationMaxDebtCloseFactorPct ∧ m.liquidationMaxDebtCloseFactorPct ≤ 100
  insolvencyRisk : 5 ≤ m.insolvencyRiskUnhealthyLtvPct ∧ m.insolvencyRiskUnhealthyLtvPct ≤ 100
  maxLiquidatable : m.maxLiquidatableDebtMarketValueAtOnce ≠ 0
  minFullLiquidation : m.minFullLiquidationValueThreshold ≠ 0

theorem init_validated : init.Validated where
  group _ := .inl rfl
  referralFee := by decide
  closeFactor := by decide
  insolvencyRisk := by decide
  maxLiquidatable := by decide
  minFullLiquidation := by decide

theorem Validated.setElevationGroup {m m' : LendingMarket} {g : ElevationGroup}
    (h : m.Validated) (hg : validateElevationGroup g = .ok ())
    (hset : m.setElevationGroup g = .ok m') : m'.Validated := by
  simp only [LendingMarket.setElevationGroup, bind_eq_ok, require_eq_ok, pure_eq_ok,
    ElevationGroup.getIndex_eq_ok] at hset
  obtain ⟨-, -, i, hi, rfl⟩ := hset
  refine { h with group := fun j ↦ ?_ }
  dsimp only
  by_cases hj : j = i
  · subst hj
    rw [Function.update_self]
    exact .inr ⟨hi.symm, hg⟩
  · rw [Function.update_of_ne hj]
    exact h.group j

end LendingMarket

end Klend
