import Klend.Library.Digits
import Klend.Library.ExtendedRationals
import Klend.Sdk.ReserveEstimates
import Klend.Sdk.VaultState
import Klend.State.Obligation
import Mathlib.Data.Rat.Floor

/-! # Positions of the client

The client recomputes what an obligation holds and owes from its slots, at the rates and
prices of the reserves. Decimals are exact, also those that are made of a number of hundredths;
an amount is divided by what the program keeps above zero. `none` is an exception.
-/

namespace Klend.Sdk

def isNotNullPubkey (pubkey : Pubkey) : Bool := pubkey ≠ nullPubkey ∧ pubkey ≠ 0

/-- The nearest whole number, away from zero where two are. -/
def round (x : ℚ) : ℤ := if 0 ≤ x then ⌊x + 1 / 2⌋ else ⌈x - 1 / 2⌉

@[simp] theorem round_intCast (n : ℤ) : round n = n := by
  unfold round
  split
  · rw [Int.floor_eq_iff]
    constructor <;> norm_num
  · rw [Int.ceil_eq_iff]
    constructor <;> norm_num

theorem round_nonneg {x : ℚ} (hx : 0 ≤ x) : 0 ≤ round x := by
  rw [round, if_pos hx, Int.floor_nonneg]
  positivity

theorem round_mono {x y : ℚ} (hxy : x ≤ y) : round x ≤ round y := by
  unfold round
  split
  · next hx =>
    rw [if_pos (hx.trans hxy)]
    exact Int.floor_le_floor (by linarith)
  · next hx =>
    split
    · next hy =>
      have hlow : ⌈x - 1 / 2⌉ ≤ 0 := Int.ceil_le.2 (by push_cast; linarith)
      exact hlow.trans (Int.floor_nonneg.2 (by linarith))
    · exact Int.ceil_le_ceil (by linarith)

@[simp] theorem round_zero : round 0 = 0 := by
  have hzero := round_intCast 0
  rwa [Int.cast_zero] at hzero

theorem round_neg_eq_zero {x : ℚ} (hx : 0 < x) : round (-x) = 0 ↔ x < 1 / 2 := by
  rw [round, if_neg (not_le.2 (neg_lt_zero.2 hx)), Int.ceil_eq_zero_iff, Set.mem_Ioc]
  constructor
  · rintro ⟨hlow, -⟩
    linarith
  · intro hhalf
    constructor <;> linarith

theorem round_natCast_add {x : ℚ} (hx : 0 ≤ x) (n : ℕ) : round (n + x) = n + round x := by
  rw [round, if_pos (add_nonneg n.cast_nonneg hx), round, if_pos hx, add_assoc,
    Int.floor_natCast_add]

section Fraction

/-- `new Fraction`, for a number of 256 bits. -/
def newFraction (valueSf : ℤ) : Option ℕ :=
  if 0 ≤ valueSf ∧ valueSf < 2 ^ 256 then some valueSf.toNat else none

def toDecimal (valueSf : ℕ) : Option ℚ := do
  let valueSf ← newFraction valueSf
  pure (sfToDecimal valueSf)

def fromDecimal (n : ℚ) : Option ℕ := newFraction (round (n * multiplierNumber))

variable {n : ℕ}

theorem newFraction_eq {z : ℤ} (hz : 0 ≤ z) (hlt : z < 2 ^ 256) : newFraction z = some z.toNat :=
  if_pos ⟨hz, hlt⟩

theorem cast_toNat {z : ℤ} (hz : 0 ≤ z) : ((z.toNat : ℕ) : ℚ) = z := by
  exact_mod_cast Int.toNat_of_nonneg hz

theorem newFraction_eq_none {z : ℤ} (h : z < 0 ∨ 2 ^ 256 ≤ z) : newFraction z = none :=
  if_neg (by omega)

theorem newFraction_lt {z : ℤ} (h : newFraction z = some n) : n < 2 ^ 256 := by
  unfold newFraction at h
  split at h
  · have hn := Option.some.inj h
    omega
  · cases h

theorem newFraction_natCast (h : n < 2 ^ 256) : newFraction n = some n := by
  rw [newFraction, if_pos ⟨Int.natCast_nonneg n, by exact_mod_cast h⟩, Int.toNat_natCast]

theorem toDecimal_eq (h : n < 2 ^ 256) : toDecimal n = some (sfToDecimal n) := by
  rw [toDecimal, newFraction_natCast h]
  rfl

theorem fromDecimal_sfToDecimal (h : n < 2 ^ 256) : fromDecimal (sfToDecimal n) = some n := by
  rw [fromDecimal, sfToDecimal, div_mul_cancel₀ _ multiplierNumber_pos.ne',
    ← Int.cast_natCast (R := ℚ) n, round_intCast, newFraction_natCast h]

end Fraction

def positiveOrZero (value : ℚ) : ℚ := max value 0

def valueOrZero : Extended → ℚ
  | .finite value => value
  | _ => 0

/-- The market as the client holds it, its reserves under their addresses. -/
structure KaminoMarket where
  state : LendingMarket
  reserves : PubkeyHashMap KaminoReserve
  reserves_nodup : (reserves.map Prod.fst).Nodup
  address_eq : ∀ entry ∈ reserves, entry.2.address = entry.1

namespace KaminoMarket

variable (market : KaminoMarket)

def getReserveByAddress (address : Pubkey) : Option KaminoReserve := market.reserves.get address

def getReserveByMint (address : Pubkey) : Option KaminoReserve :=
  (market.reserves.map Prod.snd).find? (·.getLiquidityMint = address)

def getElevationGroup (elevationGroup : ℕ) : Option ElevationGroup :=
  match elevationGroup with
  | 0 => none
  | i + 1 => if h : i < 32 then some (market.state.elevationGroups ⟨i, h⟩) else none

variable {market} {key : Pubkey} {reserve : KaminoReserve}

theorem mem_of_getReserveByAddress (h : market.getReserveByAddress key = some reserve) :
    (key, reserve) ∈ market.reserves := by
  obtain ⟨l₁, l₂, hsplit, -⟩ := List.lookup_eq_some_iff.1 h
  rw [hsplit]
  simp

theorem address_of_getReserveByAddress (h : market.getReserveByAddress key = some reserve) :
    reserve.address = key :=
  market.address_eq _ (mem_of_getReserveByAddress h)

theorem getReserveByAddress_of_mint (h : market.getReserveByMint key = some reserve) :
    market.getReserveByAddress reserve.address = some reserve := by
  obtain ⟨entry, hentry, rfl⟩ := List.mem_map.1 (List.mem_of_find?_eq_some h)
  rw [market.address_eq entry hentry]
  exact PubkeyHashMap.get_eq_some market.reserves_nodup hentry

theorem exists_getElevationGroup {elevationGroup : ℕ} (hne : elevationGroup ≠ 0)
    (hle : elevationGroup ≤ 32) :
    ∃ group, market.getElevationGroup elevationGroup = some group := by
  cases elevationGroup with
  | zero => exact absurd rfl hne
  | succ i => exact ⟨_, dif_pos hle⟩

end KaminoMarket

/-- A deposit as the client decodes it. -/
structure ObligationCollateral where
  depositReserve : Pubkey
  depositedAmount : ℕ

/-- A borrow as the client decodes it, with the rate in limbs of 64 bits. -/
structure ObligationLiquidity where
  borrowReserve : Pubkey
  cumulativeBorrowRateBsf : List ℕ
  borrowedAmountSf : ℕ

structure Obligation where
  deposits : List ObligationCollateral
  borrows : List ObligationLiquidity
  elevationGroup : ℕ

def ObligationCollateral.decode (deposit : Klend.ObligationCollateral) : ObligationCollateral where
  depositReserve := deposit.depositReserve
  depositedAmount := deposit.depositedAmount

def ObligationLiquidity.decode (borrow : Klend.ObligationLiquidity) : ObligationLiquidity where
  borrowReserve := borrow.borrowReserve
  cumulativeBorrowRateBsf :=
    (Digits.digits (2 ^ 64) 4 borrow.cumulativeBorrowRateBsf.bits).map Fin.val
  borrowedAmountSf := borrow.borrowedAmountSf.bits

/-- What the client reads of an account. -/
def Obligation.decode (obligation : Klend.Obligation) : Obligation where
  deposits := obligation.deposits.map .decode
  borrows := obligation.borrows.map .decode
  elevationGroup := obligation.elevationGroup

section Decode

variable {o : Klend.Obligation} {key : Pubkey}

theorem find?_decode : (Obligation.decode o).borrows.find? (·.borrowReserve = key) =
    (o.borrows.find? (·.borrowReserve = key)).map .decode := by
  rw [Obligation.decode, List.find?_map]
  rfl

theorem findIdx?_decode : (Obligation.decode o).borrows.findIdx? (·.borrowReserve = key) =
    o.borrows.findIdx? (·.borrowReserve = key) := by
  rw [Obligation.decode, List.findIdx?_map]
  rfl

end Decode

structure Position where
  reserveAddress : Pubkey
  mintAddress : Pubkey
  amount : ℚ
  marketValueRefreshed : ℚ
deriving DecidableEq, Repr

structure ObligationStats where
  userTotalDeposit : ℚ
  userTotalCollateralDeposit : ℚ
  userTotalLiquidatableDeposit : ℚ
  userTotalBorrow : ℚ
  userTotalBorrowBorrowFactorAdjusted : ℚ
  borrowLimit : ℚ
  borrowLiquidationLimit : ℚ
  borrowUtilization : Extended
  netAccountValue : ℚ
  loanToValue : Extended
  liquidationLtv : ℚ
  leverage : Extended
  potentialElevationGroupUpdate : ℕ

structure BorrowStats where
  borrows : PubkeyHashMap Position
  userTotalBorrow : ℚ
  userTotalBorrowBorrowFactorAdjusted : ℚ
  positions : ℕ

structure DepositStats where
  deposits : PubkeyHashMap Position
  userTotalDeposit : ℚ
  userTotalCollateralDeposit : ℚ
  userTotalLiquidatableDeposit : ℚ
  borrowLimit : ℚ
  liquidationLtv : ℚ
  borrowLiquidationLimit : ℚ

/-- The ratios of `getLtvForReserve`. -/
structure ReserveLtv where
  maxLtv : ℚ
  liquidationLtv : ℚ

structure ObligationRates where
  collateralExchangeRates : PubkeyHashMap ℚ
  cumulativeBorrowRates : PubkeyHashMap ℚ

/-- What `calculatePositions` returns. -/
structure Positions where
  borrows : PubkeyHashMap Position
  deposits : PubkeyHashMap Position
  refreshedStats : ObligationStats

structure KaminoObligation where
  state : Obligation
  deposits : PubkeyHashMap Position
  borrows : PubkeyHashMap Position
  refreshedStats : ObligationStats

namespace KaminoObligation

section Rates

variable (market : KaminoMarket) (obligation : Obligation) (slot : ℕ)
  (additionalReserves : List Pubkey)

def addRate (rate : KaminoReserve → Option ℚ) (rates : PubkeyHashMap ℚ) (reserve : Pubkey) :
    Option (PubkeyHashMap ℚ) := do
  let reserveInstance ← market.getReserveByAddress reserve
  let value ← rate reserveInstance
  pure (rates.set reserve value)

/-- The loop that asks each reserve for a rate. The source keeps the keys in a set. -/
def collectRates (rate : KaminoReserve → Option ℚ) (allReserves : List Pubkey) :
    Option (PubkeyHashMap ℚ) :=
  (allReserves.filter (isNotNullPubkey ·)).foldlM (addRate market rate) []

def getCollateralExchangeRatesForObligation : Option (PubkeyHashMap ℚ) :=
  collectRates market
    (·.getEstimatedCollateralExchangeRate slot (market.state.referralFeeBps : ℕ))
    (obligation.deposits.map ObligationCollateral.depositReserve ++ additionalReserves)

def getCumulativeBorrowRatesForObligation : Option (PubkeyHashMap ℚ) :=
  collectRates market
    (·.getEstimatedCumulativeBorrowRate slot (market.state.referralFeeBps : ℕ))
    (obligation.borrows.map ObligationLiquidity.borrowReserve ++ additionalReserves)

def getRatesForObligation : Option ObligationRates := do
  let collateralExchangeRates ←
    getCollateralExchangeRatesForObligation market obligation slot additionalReserves
  let cumulativeBorrowRates ←
    getCumulativeBorrowRatesForObligation market obligation slot additionalReserves
  pure { collateralExchangeRates, cumulativeBorrowRates }

end Rates

def getOraclePx (reserve : KaminoReserve) : ℚ := reserve.getOracleMarketPrice

def getBorrowAmount (borrow : ObligationLiquidity) : Option ℚ := toDecimal borrow.borrowedAmountSf

/-- The limbs are added up: the shift of the sum is not kept. -/
def getCumulativeBorrowRate (borrow : ObligationLiquidity) : Option ℚ :=
  toDecimal borrow.cumulativeBorrowRateBsf.reverse.sum

def elevationGroupActivated (reserve : KaminoReserve) (elevationGroup : ℕ) : Bool :=
  elevationGroup ∈ reserve.state.config.elevationGroups.map Fin.val ∧ elevationGroup ≠ 0

def getBorrowFactorForReserve (reserve : KaminoReserve) (elevationGroup : ℕ) : ℚ :=
  if elevationGroupActivated reserve elevationGroup then 1 else reserve.borrowFactor / 100

def getLtvForReserve (market : KaminoMarket) (reserve : KaminoReserve) (elevationGroup : ℕ) :
    Option ReserveLtv :=
  if elevationGroupActivated reserve elevationGroup then do
    let group ← market.getElevationGroup elevationGroup
    pure {
      maxLtv := (group.ltvPct : ℕ) / 100
      liquidationLtv := (group.liquidationThresholdPct : ℕ) / 100 }
  else pure { maxLtv := reserve.loanToValue, liquidationLtv := reserve.liquidationThreshold }

section Positions

variable (market : KaminoMarket) (elevationGroup : ℕ) (getPx : KaminoReserve → ℚ)

def positionOf (reserve : KaminoReserve) (amount : ℚ) : Position where
  reserveAddress := reserve.address
  mintAddress := reserve.getLiquidityMint
  amount := amount
  marketValueRefreshed := amount * getPx reserve / reserve.getMintFactor

def depositPosition (collateralExchangeRates : Option (PubkeyHashMap ℚ)) (reserve : KaminoReserve)
    (deposit : ObligationCollateral) : Option Position := do
  let exchangeRate ← match collateralExchangeRates with
    | some rates => rates.get reserve.address
    | none => some reserve.getCollateralExchangeRate
  pure (positionOf getPx reserve (deposit.depositedAmount / exchangeRate))

/-- The body of the loop over the deposits. -/
def addDeposit (collateralExchangeRates : Option (PubkeyHashMap ℚ)) (stats : DepositStats)
    (deposit : ObligationCollateral) : Option DepositStats :=
  if isNotNullPubkey deposit.depositReserve then do
    let reserve ← market.getReserveByAddress deposit.depositReserve
    let ltv ← getLtvForReserve market reserve elevationGroup
    let position ← depositPosition getPx collateralExchangeRates reserve deposit
    let depositValueUsd := position.marketValueRefreshed
    pure { stats with
      deposits := stats.deposits.set reserve.address position
      userTotalDeposit := stats.userTotalDeposit + depositValueUsd
      userTotalCollateralDeposit :=
        if ltv.maxLtv = 0 then stats.userTotalCollateralDeposit
        else stats.userTotalCollateralDeposit + depositValueUsd
      userTotalLiquidatableDeposit :=
        if ltv.liquidationLtv = 0 then stats.userTotalLiquidatableDeposit
        else stats.userTotalLiquidatableDeposit + depositValueUsd
      borrowLimit := stats.borrowLimit + depositValueUsd * ltv.maxLtv
      borrowLiquidationLimit :=
        stats.borrowLiquidationLimit + depositValueUsd * ltv.liquidationLtv }
  else pure stats

def calculateObligationDeposits (obligationDeposits : List ObligationCollateral)
    (collateralExchangeRates : Option (PubkeyHashMap ℚ)) : Option DepositStats := do
  let stats ← obligationDeposits.foldlM
    (addDeposit market elevationGroup getPx collateralExchangeRates)
    { deposits := []
      userTotalDeposit := 0
      userTotalCollateralDeposit := 0
      userTotalLiquidatableDeposit := 0
      borrowLimit := 0
      liquidationLtv := 0
      borrowLiquidationLimit := 0 }
  pure { stats with
    liquidationLtv := valueOrZero
      (.finite stats.borrowLiquidationLimit / .finite stats.userTotalLiquidatableDeposit) }

def borrowPosition (cumulativeBorrowRates : Option (PubkeyHashMap ℚ)) (reserve : KaminoReserve)
    (borrow : ObligationLiquidity) : Option Position := do
  let obligationCumulativeBorrowRate ← getCumulativeBorrowRate borrow
  let cumulativeBorrowRate ← match cumulativeBorrowRates with
    | some rates => rates.get reserve.address
    | none => some reserve.getCumulativeBorrowRate
  let borrowAmount ← getBorrowAmount borrow
  pure (positionOf getPx reserve
    (borrowAmount * cumulativeBorrowRate / obligationCumulativeBorrowRate))

/-- The body of the loop over the borrows. -/
def addBorrow (cumulativeBorrowRates : Option (PubkeyHashMap ℚ)) (stats : BorrowStats)
    (borrow : ObligationLiquidity) : Option BorrowStats :=
  if isNotNullPubkey borrow.borrowReserve then do
    let reserve ← market.getReserveByAddress borrow.borrowReserve
    let position ← borrowPosition getPx cumulativeBorrowRates reserve borrow
    let borrowValueUsd := position.marketValueRefreshed
    let borrowFactor := getBorrowFactorForReserve reserve elevationGroup
    pure {
      borrows := stats.borrows.set reserve.address position
      userTotalBorrow := stats.userTotalBorrow + borrowValueUsd
      userTotalBorrowBorrowFactorAdjusted :=
        stats.userTotalBorrowBorrowFactorAdjusted + borrowValueUsd * borrowFactor
      positions := if position.amount = 0 then stats.positions else stats.positions + 1 }
  else pure stats

def calculateObligationBorrows (obligationBorrows : List ObligationLiquidity)
    (cumulativeBorrowRates : Option (PubkeyHashMap ℚ)) : Option BorrowStats :=
  obligationBorrows.foldlM (addBorrow market elevationGroup getPx cumulativeBorrowRates)
    { borrows := []
      userTotalBorrow := 0
      userTotalBorrowBorrowFactorAdjusted := 0
      positions := 0 }

def calculatePositions (obligationDeposits : List ObligationCollateral)
    (obligationBorrows : List ObligationLiquidity) (collateralExchangeRates : PubkeyHashMap ℚ)
    (cumulativeBorrowRates : Option (PubkeyHashMap ℚ)) : Option Positions := do
  let deposited ← calculateObligationDeposits market elevationGroup getPx obligationDeposits
    (some collateralExchangeRates)
  let borrowed ← calculateObligationBorrows market elevationGroup getPx obligationBorrows
    cumulativeBorrowRates
  let netAccountValue := deposited.userTotalDeposit - borrowed.userTotalBorrow
  pure {
    deposits := deposited.deposits
    borrows := borrowed.borrows
    refreshedStats := {
      borrowLimit := deposited.borrowLimit
      borrowLiquidationLimit := deposited.borrowLiquidationLimit
      userTotalBorrow := borrowed.userTotalBorrow
      userTotalBorrowBorrowFactorAdjusted := borrowed.userTotalBorrowBorrowFactorAdjusted
      userTotalDeposit := deposited.userTotalDeposit
      userTotalCollateralDeposit := deposited.userTotalCollateralDeposit
      userTotalLiquidatableDeposit := deposited.userTotalLiquidatableDeposit
      liquidationLtv := deposited.liquidationLtv
      borrowUtilization :=
        .finite borrowed.userTotalBorrowBorrowFactorAdjusted / .finite deposited.borrowLimit
      netAccountValue
      leverage := .finite deposited.userTotalDeposit / .finite netAccountValue
      loanToValue := .finite borrowed.userTotalBorrowBorrowFactorAdjusted /
        .finite deposited.userTotalCollateralDeposit
      potentialElevationGroupUpdate := 0 } }

end Positions

section PositionSpecs

variable {market : KaminoMarket} {elevationGroup : ℕ} {getPx : KaminoReserve → ℚ}
  {rates : Option (PubkeyHashMap ℚ)}

theorem exists_getLtvForReserve (h : elevationGroup ≤ 32) (reserve : KaminoReserve) :
    ∃ ltv, getLtvForReserve market reserve elevationGroup = some ltv := by
  unfold getLtvForReserve
  split
  · next hactive =>
    rw [elevationGroupActivated, decide_eq_true_eq] at hactive
    obtain ⟨group, hgroup⟩ := @KaminoMarket.exists_getElevationGroup market _ hactive.2 h
    rw [hgroup]
    exact ⟨_, rfl⟩
  · exact ⟨_, rfl⟩

theorem addDeposit_of_null {stats : DepositStats} {deposit : ObligationCollateral}
    (h : ¬ isNotNullPubkey deposit.depositReserve) :
    addDeposit market elevationGroup getPx rates stats deposit = some stats := if_neg h

theorem exists_addDeposit {deposit : ObligationCollateral} {reserve : KaminoReserve}
    {position : Position} (hgroup : elevationGroup ≤ 32)
    (hreserve : market.getReserveByAddress deposit.depositReserve = some reserve)
    (hposition : depositPosition getPx rates reserve deposit = some position)
    (stats : DepositStats) :
    ∃ stats', addDeposit market elevationGroup getPx rates stats deposit = some stats' := by
  obtain ⟨ltv, hltv⟩ := @exists_getLtvForReserve market _ hgroup reserve
  unfold addDeposit
  split
  · simp only [hreserve, hltv, hposition, Option.bind_eq_bind, Option.bind_some, Option.pure_def]
    exact ⟨_, rfl⟩
  · exact ⟨_, rfl⟩

theorem exists_calculateObligationDeposits {deposits : List ObligationCollateral}
    (h : ∀ deposit ∈ deposits, isNotNullPubkey deposit.depositReserve →
      elevationGroup ≤ 32 ∧ ∃ reserve position, market.getReserveByAddress deposit.depositReserve = some reserve ∧
        depositPosition getPx rates reserve deposit = some position) :
    ∃ stats, calculateObligationDeposits market elevationGroup getPx deposits rates =
      some stats := by
  suffices hfold : ∀ stats, ∃ stats',
      deposits.foldlM (addDeposit market elevationGroup getPx rates) stats = some stats' by
    obtain ⟨stats, hstats⟩ := hfold _
    rw [calculateObligationDeposits, hstats]
    exact ⟨_, rfl⟩
  induction deposits with
  | nil => exact fun stats ↦ ⟨stats, rfl⟩
  | cons deposit deposits ih =>
    intro stats
    have htail := ih fun d hd ↦ h d (List.mem_cons_of_mem _ hd)
    obtain ⟨stats', hstats'⟩ :
        ∃ stats', addDeposit market elevationGroup getPx rates stats deposit = some stats' := by
      by_cases hkey : isNotNullPubkey deposit.depositReserve
      · obtain ⟨hgroup, reserve, position, hreserve, hposition⟩ :=
          h deposit (List.mem_cons_self ..) hkey
        exact exists_addDeposit hgroup hreserve hposition stats
      · exact ⟨stats, addDeposit_of_null hkey⟩
    rw [List.foldlM_cons, hstats']
    exact htail stats'

theorem addBorrow_of_null {stats : BorrowStats} {borrow : ObligationLiquidity}
    (h : ¬ isNotNullPubkey borrow.borrowReserve) :
    addBorrow market elevationGroup getPx rates stats borrow = some stats := if_neg h

theorem exists_addBorrow {borrow : ObligationLiquidity} {reserve : KaminoReserve}
    {position : Position} (hkey : isNotNullPubkey borrow.borrowReserve)
    (hreserve : market.getReserveByAddress borrow.borrowReserve = some reserve)
    (hposition : borrowPosition getPx rates reserve borrow = some position)
    (stats : BorrowStats) :
    ∃ stats', addBorrow market elevationGroup getPx rates stats borrow = some stats' ∧
      stats'.borrows = stats.borrows.set borrow.borrowReserve position := by
  rw [addBorrow, if_pos hkey, hreserve, Option.bind_eq_bind, Option.bind_some, hposition,
    KaminoMarket.address_of_getReserveByAddress hreserve]
  exact ⟨_, rfl, rfl⟩

theorem calculateObligationBorrows_spec {borrows : List ObligationLiquidity}
    {positions : Pubkey → Option Position}
    (h : ∀ borrow ∈ borrows, isNotNullPubkey borrow.borrowReserve →
      ∃ reserve position, market.getReserveByAddress borrow.borrowReserve = some reserve ∧
        borrowPosition getPx rates reserve borrow = some position ∧
        positions borrow.borrowReserve = some position) :
    ∃ stats, calculateObligationBorrows market elevationGroup getPx borrows rates = some stats ∧
      ∀ key, stats.borrows.get key =
        if isNotNullPubkey key ∧ key ∈ borrows.map ObligationLiquidity.borrowReserve then
          positions key
        else none := by
  suffices hfold : ∀ stats, ∃ stats',
      borrows.foldlM (addBorrow market elevationGroup getPx rates) stats = some stats' ∧
      ∀ key, stats'.borrows.get key =
        if isNotNullPubkey key ∧ key ∈ borrows.map ObligationLiquidity.borrowReserve then
          positions key
        else stats.borrows.get key from hfold _
  induction borrows with
  | nil => exact fun stats ↦ ⟨stats, rfl, fun key ↦ by simp⟩
  | cons borrow borrows ih =>
    intro stats
    have htail := ih fun b hb ↦ h b (List.mem_cons_of_mem _ hb)
    by_cases hkey : isNotNullPubkey borrow.borrowReserve
    · obtain ⟨reserve, position, hreserve, hposition, heq⟩ :=
        h borrow (List.mem_cons_self ..) hkey
      obtain ⟨stats₁, hstats₁, hborrows⟩ :=
        @exists_addBorrow _ elevationGroup _ _ _ _ _ hkey hreserve hposition stats
      obtain ⟨stats', hstats', hget⟩ := htail stats₁
      rw [List.foldlM_cons, hstats₁]
      refine ⟨stats', hstats', fun key ↦ ?_⟩
      rw [hget, hborrows, List.map_cons]
      by_cases hsame : key = borrow.borrowReserve
      · rw [hsame]
        simp [hkey, heq]
      · simp [PubkeyHashMap.get_set_of_ne hsame, hsame]
    · obtain ⟨stats', hstats', hget⟩ := htail stats
      rw [List.foldlM_cons, addBorrow_of_null hkey]
      refine ⟨stats', hstats', fun key ↦ ?_⟩
      rw [hget, List.map_cons]
      by_cases hsame : key = borrow.borrowReserve
      · rw [hsame]
        simp [hkey]
      · simp [hsame]

end PositionSpecs

/-- The constructor, over a decoded account. -/
def new (market : KaminoMarket) (obligation : Obligation)
    (collateralExchangeRates cumulativeBorrowRates : PubkeyHashMap ℚ) :
    Option KaminoObligation := do
  let positions ← calculatePositions market obligation.elevationGroup getOraclePx
    obligation.deposits obligation.borrows collateralExchangeRates (some cumulativeBorrowRates)
  pure {
    state := obligation
    deposits := positions.deposits
    borrows := positions.borrows
    refreshedStats := positions.refreshedStats }

/-- `load`, over the account that it fetches at a slot. -/
def load (market : KaminoMarket) (obligation : Obligation) (slot : ℕ) :
    Option KaminoObligation := do
  let rates ← getRatesForObligation market obligation slot []
  new market obligation rates.collateralExchangeRates rates.cumulativeBorrowRates

variable (obligation : KaminoObligation)

def getBorrows : List Position := obligation.borrows.map Prod.snd

def getDeposits : List Position := obligation.deposits.map Prod.snd

def getBorrowByReserve (reserve : Pubkey) : Option Position := obligation.borrows.get reserve

def getDepositByReserve (reserve : Pubkey) : Option Position := obligation.deposits.get reserve

end KaminoObligation

end Klend.Sdk
