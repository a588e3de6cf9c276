import Klend.Sdk.ReserveEstimates
import Klend.Sdk.VaultState
import Mathlib.Data.List.Sort
import Mathlib.Data.Rat.Floor

/-! # Withdrawals from a vault

The client plans a withdrawal of shares: the tokens that the vault holds are paid first, the
rest comes out of the reserves, those with the most to withdraw first. Decimals are exact,
JavaScript numbers are rounded, and an instruction takes a whole amount of 64 bits; `none` is an
exception.
-/

namespace Klend.Sdk

/-- A withdrawal that is planned from a reserve. `tokens` is `tokensToWithdrawFromReserve`, of
which the plan keeps the shares. -/
structure ReserveWithTokensToWithdraw where
  reserve : Pubkey
  tokens : ℚ
  shares : ℚ

/-- A withdraw instruction. -/
structure WithdrawIxn where
  reserve : Pubkey
  sharesAmount : U64
deriving DecidableEq, Repr

/-- `new BN` of what `toString` writes: neither a point nor an exponent is read, and from 10^21
on there is an exponent. -/
def newBN (x : ℚ) : Option ℤ := if x.den = 1 ∧ |x| < 10 ^ 21 then some x.num else none

/-- A field of 64 bits, to which the magnitude is written. -/
def encodeU64 (n : ℤ) : Option U64 := if h : n.natAbs < 2 ^ 64 then some ⟨n.natAbs, h⟩ else none

namespace VaultState

variable (v : VaultState) (vaultReserves : PubkeyHashMap KaminoReserve) (slot : ℕ)

/-- What can be withdrawn from the reserve of a slot. -/
def availableLiquidityToWithdraw (allocationStrategy : VaultAllocation) : Option ℚ := do
  let reserve ← vaultReserves.get allocationStrategy.reserve
  let denominator := numberOf ((reserve.state.config.protocolTakeRatePct : ℕ) / 100)
  let referralFeeBps :=
    if 0 < denominator then
      numberOf ⌊sfToDecimal reserve.state.liquidity.absoluteReferralRateSf.bits /
        decimalOf denominator⌋
    else 0
  let reserveCollExchangeRate ← reserve.getEstimatedCollateralExchangeRate slot referralFeeBps
  let reserveAllocationLiquidityAmount :=
    ((allocationStrategy.ctokenAllocation : ℕ) : ℚ) / reserveCollExchangeRate
  pure (min reserveAllocationLiquidityAmount reserve.getLiquidityAvailableAmount)

def getReserveAllocationAvailableLiquidityToWithdraw : Option (PubkeyHashMap ℚ) :=
  v.occupied.foldlM (fun liquidity allocationStrategy ↦ do
    let amount ← availableLiquidityToWithdraw vaultReserves slot allocationStrategy
    pure (liquidity.set allocationStrategy.reserve amount)) []

/-- The stable sort by `b[1].sub(a[1])`. -/
def sortByLiquidity (entries : List (Pubkey × ℚ)) : List (Pubkey × ℚ) :=
  entries.insertionSort fun a b ↦ b.2 ≤ a.2

/-- The loop over the sorted reserves. -/
def planReserves (availableTokens sharesPerToken : ℚ) :
    ℚ → Bool → List (Pubkey × ℚ) → List ReserveWithTokensToWithdraw
  | _, _, [] => []
  | tokenLeftToWithdraw, isFirstWithdraw, (key, availableLiquidityToWithdraw) :: rest =>
    if 0 < tokenLeftToWithdraw then
      let tokensToWithdrawFromReserve := min tokenLeftToWithdraw availableLiquidityToWithdraw
      let tokensToWithdrawFromReserve :=
        if isFirstWithdraw then tokensToWithdrawFromReserve + availableTokens
        else tokensToWithdrawFromReserve
      { reserve := key
        tokens := tokensToWithdrawFromReserve
        shares := ⌈tokensToWithdrawFromReserve * sharesPerToken⌉ } ::
      planReserves availableTokens sharesPerToken
        (tokenLeftToWithdraw - tokensToWithdrawFromReserve) false rest
    else planReserves availableTokens sharesPerToken tokenLeftToWithdraw isFirstWithdraw rest

def withdrawIx (reserve : Pubkey) (shareAmountLamports : ℚ) : Option WithdrawIxn := do
  let sharesAmount ← newBN shareAmountLamports
  let sharesAmount ← encodeU64 sharesAmount
  if v.getVaultReserves.all vaultReserves.has then some { reserve, sharesAmount } else none

/-- The loop that builds the instructions. -/
def withdrawIxns (shareAmount : ℚ) : List ReserveWithTokensToWithdraw → Option (List WithdrawIxn)
  | [] => some []
  | reserveWithTokens :: rest => do
    let _ ← vaultReserves.get reserveWithTokens.reserve
    let isLastWithdraw := rest.isEmpty
    let sharesToWithdraw := if isLastWithdraw then reserveWithTokens.shares else shareAmount
    let withdrawFromReserveIx ← v.withdrawIx vaultReserves reserveWithTokens.reserve sharesToWithdraw
    let rest ← withdrawIxns shareAmount rest
    pure (withdrawFromReserveIx :: rest)

/-- `collToLamportsDecimal` of the package that the client uses, at the vault's share mint. -/
def shareLamportsToWithdraw (collToLamportsDecimal : ℚ → ℕ → ℚ) (shareAmount : ℚ) : Option ℚ := do
  let decimals ← toNumber v.sharesMintDecimals
  pure (collToLamportsDecimal shareAmount decimals)

def planWithdrawal (shareLamportsToWithdraw tokensPerShare : ℚ) :
    Option (List ReserveWithTokensToWithdraw) :=
  let sharesPerToken := 1 / tokensPerShare
  let tokensToWithdraw := shareLamportsToWithdraw * tokensPerShare
  let availableTokens : ℚ := (v.tokenAvailable : ℕ)
  let tokenLeftToWithdraw := tokensToWithdraw - availableTokens
  if tokenLeftToWithdraw ≤ 0 then do
    let allocation ← v.vaultAllocationStrategy.head?
    pure [{
      reserve := allocation.reserve
      tokens := tokensToWithdraw
      shares := shareLamportsToWithdraw }]
  else do
    let liquidity ← v.getReserveAllocationAvailableLiquidityToWithdraw vaultReserves slot
    pure (planReserves availableTokens sharesPerToken tokenLeftToWithdraw true
      (sortByLiquidity liquidity))

/-- The plan, and the withdraw instructions behind the one that creates the token account. -/
def wihdrdrawWithReserveIxns (collToLamportsDecimal : ℚ → ℕ → ℚ) (shareAmount tokensPerShare : ℚ) :
    Option (List ReserveWithTokensToWithdraw × List WithdrawIxn) := do
  let shareLamportsToWithdraw ← v.shareLamportsToWithdraw collToLamportsDecimal shareAmount
  let plan ← v.planWithdrawal vaultReserves slot shareLamportsToWithdraw tokensPerShare
  let withdrawIxns ← v.withdrawIxns vaultReserves shareAmount plan
  pure (plan, withdrawIxns)

end VaultState

end Klend.Sdk
