import Klend.Accounting.ExchangeRate
import Klend.Accounting.ReserveOperations
import Klend.Lending.ObligationSpecs
import Klend.Lending.Runs

/-! # The exchange rate in deposits, redemptions and liquidations

The two conversions of a rate are adjoint. A deposit therefore asks for at most the
requested liquidity and mints its collateral in full, redeeming a deposit gives back
at most what it cost, and a liquidation redeems at most what the reserve has available.
-/

namespace Klend

section

variable {r r' r'' : Reserve} {rate : CollateralExchangeRate} {l x y : U64}

theorem Reserve.collateralExchangeRate_supply_pos (h : r.collateralExchangeRate = .ok rate) :
    0 < (rate.collateralSupply : ℕ) := by
  simp only [collateralExchangeRate, bind_eq_ok, pure_eq_ok] at h
  obtain ⟨s, -, rfl⟩ := h
  unfold ReserveCollateral.exchangeRate
  split
  · exact Nat.one_pos
  · next h =>
    rw [not_or] at h
    exact Nat.pos_of_ne_zero fun h0 ↦ h.1 (Fin.ext h0)

/-- The check on the amount to deposit never fails. -/
theorem Reserve.computeDepositable_eq_ok (hrate : r.collateralExchangeRate = .ok rate)
    (hx : rate.liquidityToCollateral l = .ok x) :
    ∃ y, r.computeDepositableAmountAndMintedCollateral l =
      .ok { liquidityAmount := y, collateralAmount := x } ∧ y ≤ l := by
  obtain ⟨y, hy, hle⟩ := CollateralExchangeRate.exists_collateralToLiquidityCeil
    (collateralExchangeRate_supply_pos hrate) hx
  refine ⟨y, ?_, hle⟩
  rw [computeDepositableAmountAndMintedCollateral, hrate, ok_bind, hx, ok_bind, hy, ok_bind,
    require_eq_ok (u := ()).2 hle, ok_bind]
  rfl

theorem Reserve.depositLiquidity_books {c n : U64} (h : r.depositLiquidity l c = .ok r') :
    (r'.books n).shares = (r.books n).shares + c ∧
      (r'.books n).assets = (r.books n).assets + l * unit ∧
      (r'.books n).claims = (r.books n).claims := by
  simp only [depositLiquidity, ReserveLiquidity.deposit, ReserveCollateral.mint, bind_eq_ok,
    pure_eq_ok, okOr_eq_ok, Word.checkedAdd_eq_some] at h
  obtain ⟨liq, ⟨a, ha, rfl⟩, col, ⟨m, hm, rfl⟩, rfl⟩ := h
  refine ⟨hm, ?_, rfl⟩
  show (a : ℕ) * unit + r.liquidity.borrowedAmountSf.bits =
    r.liquidity.availableAmount * unit + r.liquidity.borrowedAmountSf.bits + l * unit
  rw [ha]
  ring

theorem Reserve.redeem_deposited_of_empty {result : DepositLiquidityResult} {n : U64}
    (hequity : (r.books n).equity = 0) (hequity' : (r'.books n).equity = 0)
    (hcompute : r.computeDepositableAmountAndMintedCollateral l = .ok result)
    (hredeem : r'.redeemCollateral result.collateralAmount = .ok (r'', y)) :
    y ≤ result.liquidityAmount := by
  simp only [computeDepositableAmountAndMintedCollateral, collateralExchangeRate, bind_eq_ok,
    pure_eq_ok, require_eq_ok] at hcompute
  simp only [redeemCollateral, collateralExchangeRate, bind_eq_ok, pure_eq_ok,
    Prod.mk.injEq] at hredeem
  obtain ⟨rate, ⟨s, hs, rfl⟩, c, -, d, hd, -, -, rfl⟩ := hcompute
  obtain ⟨rate', ⟨s', hs', rfl⟩, y', hy, -, -, -, -, -, rfl⟩ := hredeem
  have hone {r₁ : Reserve} {s₁ : Fraction} (hs₁ : r₁.liquidity.totalSupply = .ok s₁)
      (h₁ : (r₁.books n).equity = 0) : r₁.collateral.exchangeRate s₁ = .one := by
    rw [(books_of_totalSupply (n := n) hs₁).2, ← Fraction.eq_zero_iff] at h₁
    exact if_pos (.inr h₁)
  rw [hone hs hequity] at hd
  rw [hone hs' hequity'] at hy
  have hup := CollateralExchangeRate.collateralToLiquidityCeil_ge hd
  have hdown := CollateralExchangeRate.collateralToLiquidity_le hy
  refine Fin.le_def.2 (Nat.le_of_mul_le_mul_right ?_ unit_pos)
  have hsupply : (CollateralExchangeRate.one.collateralSupply : ℕ) = 1 := rfl
  rw [hsupply, Nat.mul_one] at hup hdown
  exact hdown.trans hup

theorem Reserve.redeem_deposited_le {result : DepositLiquidityResult}
    (hsupply : r.collateral.mintTotalSupply ≠ 0)
    (hcompute : r.computeDepositableAmountAndMintedCollateral l = .ok result)
    (hdeposit : r.depositLiquidity result.liquidityAmount result.collateralAmount = .ok r')
    (hredeem : r'.redeemCollateral result.collateralAmount = .ok (r'', y)) :
    y ≤ result.liquidityAmount := by
  have hshares : 0 < (r.books 0).shares := Nat.pos_of_ne_zero fun h0 ↦ hsupply (Fin.ext h0)
  obtain ⟨hcovered, hissue⟩ := Reserve.computeDepositable_price (n := 0) hcompute
  obtain ⟨hshares', hassets, hclaims⟩ := Reserve.depositLiquidity_books (n := 0) hdeposit
  obtain ⟨-, -, -, -, -, -, hpaid⟩ := Reserve.redeemCollateral_spec (n := 0) hredeem
  have hequity : (r'.books 0).equity = (r.books 0).equity + result.liquidityAmount * unit := by
    rw [Books.equity, Books.equity, hassets, hclaims]
    omega
  rcases Nat.eq_zero_or_pos (r'.books 0).equity with h0 | hpos
  · exact redeem_deposited_of_empty (by omega) h0 hcompute hredeem
  · have hpaid := hpaid hpos (by omega)
    rw [hshares', hequity] at hpaid
    have hle := Vault.redeem_issued_le hshares (hissue hshares) hpaid
    exact Fin.le_def.2 (Nat.le_of_mul_le_mul_right hle unit_pos)

end

section

variable {market : LendingMarket} {o o' : Obligation} {clock : Clock} {amount : U64}
  {repayKey withdrawKey : Pubkey} {override : Option U64} {rs rs' : Reserves}
  {iter : List Pubkey} {res : LiquidateObligationResult}

theorem liquidateObligation_redeemable
    (h : liquidateObligation market repayKey withdrawKey o clock amount override rs iter =
      .ok (o', rs', res)) :
    ∃ w rate most, rs' withdrawKey = some w ∧ w.collateralExchangeRate = .ok rate ∧
      rate.liquidityToCollateral w.liquidity.availableAmount = .ok most ∧
      res.withdrawCollateralAmount = min res.withdrawAmount most := by
  simp only [liquidateObligation, bind_of_ite] at h
  simp only [bind_eq_ok, pure_eq_ok, Prod.exists, Prod.mk.injEq] at h
  obtain ⟨-, -, -, -, -, -, -, -, -, -, -, -, -, -, -, -, -, d, -, -, -, -, -, result, -, o₁, r₁,
    held, -, d₁, -, o₂, r₂, -, w₁, -, w₂, -, rate, hrate, most, hmost, w₃, hw₃, -, rfl, rfl⟩ := h
  have hkeep : w₃.liquidity = w₂.liquidity ∧ w₃.collateral = w₂.collateral := by
    split at hw₃
    · obtain ⟨outside, groups, rfl⟩ := updateOnFullWithdraw_retracked hw₃
      exact ⟨rfl, rfl⟩
    · rw [pure_eq_ok] at hw₃
      exact hw₃ ▸ ⟨rfl, rfl⟩
  refine ⟨w₃, rate, most, Reserves.store_same _ _ _, ?_, ?_, rfl⟩
  · rw [Reserve.collateralExchangeRate, hkeep.1, hkeep.2]
    exact hrate
  · rw [hkeep.1]
    exact hmost

end

/-- The conversions of a rate are adjoint. Hence a deposit never asks for more than requested and
mints the requested amount's collateral, redeeming it never returns more, and neither does the
collateral that a liquidation redeems from the available liquidity. -/
theorem exchangeRate_adjunction :
    (∀ (rate : CollateralExchangeRate) (c l x y : U64), rate.collateralSupply ≠ 0 →
      rate.liquidity ≠ Fraction.zero → rate.liquidityToCollateral l = .ok x →
      rate.collateralToLiquidityCeil c = .ok y → (c ≤ x ↔ y ≤ l)) ∧
    (∀ (r : Reserve) (rate : CollateralExchangeRate) (l x : U64),
      r.collateralExchangeRate = .ok rate → rate.liquidityToCollateral l = .ok x →
      ∃ y, r.computeDepositableAmountAndMintedCollateral l =
        .ok { liquidityAmount := y, collateralAmount := x } ∧ y ≤ l) ∧
    (∀ (r r' r'' : Reserve) (l y : U64) (result : DepositLiquidityResult),
      r.collateral.mintTotalSupply ≠ 0 →
      r.computeDepositableAmountAndMintedCollateral l = .ok result →
      r.depositLiquidity result.liquidityAmount result.collateralAmount = .ok r' →
      r'.redeemCollateral result.collateralAmount = .ok (r'', y) → y ≤ result.liquidityAmount) ∧
    (∀ (market : LendingMarket) (repayKey withdrawKey : Pubkey) (o o' : Obligation) (clock : Clock)
      (amount : U64) (override : Option U64) (rs rs' : Reserves) (iter : List Pubkey)
      (res : LiquidateObligationResult), liquidateObligation market repayKey withdrawKey o clock
        amount override rs iter = .ok (o', rs', res) →
      ∃ w rate, rs' withdrawKey = some w ∧ w.collateralExchangeRate = .ok rate ∧
        ∀ y, rate.collateralToLiquidity res.withdrawCollateralAmount = .ok y →
          y ≤ w.liquidity.availableAmount) := by
  refine ⟨fun rate c l x y _ _ hx hy ↦ ?_, fun r rate l x hrate hx ↦ ?_,
    fun r r' r'' l y result hsupply hcompute hdeposit hredeem ↦ ?_, ?_⟩
  · exact CollateralExchangeRate.le_liquidityToCollateral_iff hx hy
  · exact Reserve.computeDepositable_eq_ok hrate hx
  · exact Reserve.redeem_deposited_le hsupply hcompute hdeposit hredeem
  · intro market repayKey withdrawKey o o' clock amount override rs rs' iter res h
    obtain ⟨w, rate, most, hw, hrate, hmost, hcut⟩ := liquidateObligation_redeemable h
    refine ⟨w, rate, hw, hrate, fun y hy ↦ ?_⟩
    exact CollateralExchangeRate.collateralToLiquidity_le_of_le
      (Reserve.collateralExchangeRate_supply_pos hrate) hmost (hcut ▸ min_le_right _ _) hy

/-- A reserve with three collateral tokens for seven of liquidity. -/
def threePerSeven : Reserve :=
  { (default : Reserve) with
    liquidity := { (default : ReserveLiquidity) with availableAmount := 7 }
    collateral := { mintTotalSupply := 3 } }

/-- Ten of liquidity are worth four of collateral, and five of collateral cost twelve; the deposit
of ten pays nine at its redemption, and the loan's collateral is available when it is liquidated. -/
theorem exchangeRate_adjunction_threePerSeven :
    (∃ rate, threePerSeven.collateralExchangeRate = .ok rate ∧ ((5 : U64) ≤ 4 ↔ (12 : U64) ≤ 10)) ∧
    (∃ y : U64, threePerSeven.computeDepositableAmountAndMintedCollateral 10 =
      .ok { liquidityAmount := y, collateralAmount := 4 } ∧ y ≤ 10) ∧
    (∃ (r' r'' : Reserve) (y : U64), threePerSeven.depositLiquidity 10 4 = .ok r' ∧
      r'.redeemCollateral 4 = .ok (r'', y) ∧ y ≤ 10) ∧
    ∃ (o o' : Obligation) (rs' : Reserves) (res : LiquidateObligationResult) (w : Reserve),
      liquidateObligation .init 5 6 o ⟨3, 10⟩ 400000 none World.underwaterLoan.reserves [] =
        .ok (o', rs', res) ∧ rs' 6 = some w ∧
      ∃ rate, w.collateralExchangeRate = .ok rate ∧
        ∀ y, rate.collateralToLiquidity res.withdrawCollateralAmount = .ok y →
          y ≤ w.liquidity.availableAmount := by
  obtain ⟨hadjoint, hcompute, hredeem, hliquidate⟩ := exchangeRate_adjunction
  let rate : CollateralExchangeRate := { collateralSupply := 3, liquidity := .fromNum 7 }
  have hrate : threePerSeven.collateralExchangeRate = .ok rate := by decide
  have hten : rate.liquidityToCollateral 10 = .ok 4 := by decide
  refine ⟨⟨rate, hrate, hadjoint rate 5 10 4 12 (by decide) (by decide) hten
    (by decide)⟩, hcompute threePerSeven rate 10 4 hrate hten, ?_, ?_⟩
  · obtain ⟨⟨r', r'', y⟩, h, -⟩ := exists_eq_ok
      (x := (do
        let r' ← threePerSeven.depositLiquidity 10 4
        let redeemed ← r'.redeemCollateral 4
        pure (r', redeemed) : Result (Reserve × Reserve × U64)))
      (p := fun _ ↦ true) (by decide)
    simp only [bind_eq_ok, pure_eq_ok, Prod.mk.injEq] at h
    obtain ⟨r', hdeposit, _, hy, rfl, rfl⟩ := h
    exact ⟨r', r'', y, hdeposit, hy, hredeem threePerSeven r' r'' 10 y ⟨10, 4⟩ (by decide)
      (by decide) hdeposit hy⟩
  · obtain ⟨⟨o, o', rs', res⟩, h, -⟩ := exists_eq_ok
      (x := (do
        let o ← World.underwaterLoan.loadObligation 0
        let liquidated ← liquidateObligation .init 5 6 o ⟨3, 10⟩ 400000 none
          World.underwaterLoan.reserves []
        pure (o, liquidated) :
          Result (Obligation × Obligation × Reserves × LiquidateObligationResult)))
      (p := fun _ ↦ true) (by decide)
    simp only [bind_eq_ok, pure_eq_ok, Prod.mk.injEq] at h
    obtain ⟨o, -, _, hres, rfl, rfl⟩ := h
    obtain ⟨w, rate, hw, hrate, hle⟩ := hliquidate _ _ _ _ _ _ _ _ _ _ _ _ hres
    exact ⟨o, o', rs', res, w, hres, hw, rate, hrate, hle⟩

end Klend
