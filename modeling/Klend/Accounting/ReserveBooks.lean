import Klend.Accounting.BooksInvariants
import Klend.Lending.Instructions
import Klend.Library.Rounding

/-! # Reading the books off a reserve

The books of a stored reserve, and what the total supply and the exchange rate
computed by the program say about them.
-/

namespace Klend

/-- The books of a reserve with this many collateral tokens in circulation. -/
def Reserve.books (r : Reserve) (circulating : U64) : Books where
  version := r.version
  available := r.liquidity.availableAmount
  borrowed := r.liquidity.borrowedAmountSf.bits
  claims := r.liquidity.accumulatedProtocolFeesSf.bits +
    r.liquidity.accumulatedReferrerFeesSf.bits + r.liquidity.pendingReferrerFeesSf.bits
  cumulativeRate := r.liquidity.cumulativeBorrowRateBsf.bits
  shares := r.collateral.mintTotalSupply
  circulating
  depositClock := r.liquidity.depositLimitCrossedTimestamp
  borrowClock := r.liquidity.borrowLimitCrossedTimestamp
  depositLimit := r.config.depositLimit
  borrowLimit := r.config.borrowLimit
  takeRatePct := r.config.protocolTakeRatePct

theorem Fraction.le_toCeil_mul {f : Fraction} {n : U64} (h : f.toCeil = .ok n) :
    f.bits ≤ n * unit := by
  rw [toCeil_eq_ok] at h
  rw [unit_eq]
  omega

namespace ReserveLiquidity

theorem totalSupply_eq_ok {l : ReserveLiquidity} {x : Fraction} :
    l.totalSupply = .ok x ↔
      l.availableAmount * unit + l.borrowedAmountSf.bits < 2 ^ 128 ∧
      x.bits + (l.accumulatedProtocolFeesSf.bits + l.accumulatedReferrerFeesSf.bits +
        l.pendingReferrerFeesSf.bits) = l.availableAmount * unit + l.borrowedAmountSf.bits := by
  simp only [totalSupply, bind_eq_ok, Fraction.add_eq_ok, Fraction.sub_eq_ok,
    Fraction.bits_fromNum, unit_eq]
  constructor
  · rintro ⟨a, ha, p, hp, q, hq, hx⟩
    have := a.isLt
    omega
  · rintro ⟨hlt, hx⟩
    exact ⟨⟨_, hlt⟩, rfl, ⟨x.bits + l.pendingReferrerFeesSf.bits +
      l.accumulatedReferrerFeesSf.bits, by omega⟩, by dsimp only; omega,
      ⟨x.bits + l.pendingReferrerFeesSf.bits, by omega⟩, by dsimp only, rfl⟩

end ReserveLiquidity

namespace Reserve

variable {r : Reserve} {n : U64}

theorem books_of_totalSupply {x : Fraction} (h : r.liquidity.totalSupply = .ok x) :
    (r.books n).claims ≤ (r.books n).assets ∧ (r.books n).equity = x.bits := by
  obtain ⟨-, hx⟩ := ReserveLiquidity.totalSupply_eq_ok.1 h
  simp only [Books.equity, Books.assets, books]
  omega

/-- Once the claims are covered, only an overflow of the assets can stop the computation of the
total supply. -/
theorem totalSupply_of_covered (h : (r.books n).claims ≤ (r.books n).assets)
    (hfits : (r.books n).assets < 2 ^ 128) :
    ∃ x, r.liquidity.totalSupply = .ok x ∧ x.bits = (r.books n).equity := by
  refine ⟨⟨(r.books n).equity, (Nat.sub_le _ _).trans_lt hfits⟩, ?_, rfl⟩
  rw [ReserveLiquidity.totalSupply_eq_ok]
  simp only [Books.equity, Books.assets, books] at h hfits ⊢
  omega

end Reserve

namespace CollateralExchangeRate

variable {rate : CollateralExchangeRate} {c x l : U64}

theorem collateralToLiquidity_le (h : rate.collateralToLiquidity c = .ok x) :
    (x : ℕ) * unit * rate.collateralSupply ≤ c * rate.liquidity.bits := by
  simp only [collateralToLiquidity, fractionCollateralToLiquidity, bind_eq_ok,
    BigFraction.mul_eq_ok, BigFraction.divInt_eq_ok, BigFraction.toFraction_eq_ok,
    Fraction.toFloor_eq_ok, BigFraction.bits_ofFraction, Fraction.bits_fromNum] at h
  obtain ⟨f, ⟨s, ⟨-, hs⟩, q, ⟨-, hq⟩, hf⟩, hx⟩ := h
  have hscaled : s.bits = c * rate.liquidity.bits := by
    rw [hs, mul_assoc, mul_comm (2 ^ 60) rate.liquidity.bits, ← mul_assoc]
    exact Nat.mul_div_cancel _ (by norm_num)
  rw [hx, hf, hq, hscaled, unit_eq]
  exact Rounding.div_div_mul_mul_le

theorem collateralToLiquidityCeil_ge (h : rate.collateralToLiquidityCeil c = .ok x) :
    (c : ℕ) * rate.liquidity.bits ≤ x * unit * rate.collateralSupply := by
  simp only [collateralToLiquidityCeil, bind_eq_ok, BigFraction.ofBits_eq_ok, Word.sub_eq_ok,
    BigFraction.divInt_eq_ok, BigFraction.toFraction_eq_ok, Fraction.toCeil_eq_ok] at h
  obtain ⟨p, hp, m, hm, s, hs, q, ⟨hne, hq⟩, f, hf, hx⟩ := h
  have hpos : 0 < (rate.collateralSupply : ℕ) := Nat.pos_of_ne_zero hne
  have hpred : (m : ℕ) = rate.collateralSupply - 1 := by
    have : ((1 : Word 128) : ℕ) = 1 := rfl
    omega
  have hceil : (c : ℕ) * rate.liquidity.bits ≤ q.bits * rate.collateralSupply := by
    rw [hq, hs, hp, hpred]
    exact Rounding.le_add_pred_div_mul hpos
  refine hceil.trans (Nat.mul_le_mul_right _ ?_)
  rw [unit_eq]
  omega

end CollateralExchangeRate

namespace Reserve

variable {r r' : Reserve} {n : U64}

theorem exchangeRate_of_pos {c : ReserveCollateral} {x : Fraction}
    (hm : 0 < (c.mintTotalSupply : ℕ)) (hx : 0 < x.bits) :
    c.exchangeRate x = { collateralSupply := c.mintTotalSupply.widen, liquidity := x } := by
  have h1 : c.mintTotalSupply ≠ 0 := fun h ↦ by simp [h] at hm
  have h2 : x ≠ Fraction.zero := fun h ↦ by simp [h] at hx
  simp [ReserveCollateral.exchangeRate, h1, h2]

theorem computeDepositable_price {amount : U64} {result : DepositLiquidityResult}
    (h : r.computeDepositableAmountAndMintedCollateral amount = .ok result) :
    (r.books n).claims ≤ (r.books n).assets ∧
    (0 < (r.books n).shares → (result.collateralAmount : ℕ) * (r.books n).equity ≤
      result.liquidityAmount * unit * (r.books n).shares) := by
  simp only [computeDepositableAmountAndMintedCollateral, collateralExchangeRate, bind_eq_ok,
    pure_eq_ok, require_eq_ok] at h
  obtain ⟨rate, ⟨x, hx, rfl⟩, c, -, l, hl, -, -, rfl⟩ := h
  obtain ⟨hcov, heq⟩ := books_of_totalSupply (n := n) hx
  refine ⟨hcov, fun hshares ↦ ?_⟩
  rw [heq]
  rcases Nat.eq_zero_or_pos x.bits with h0 | hpos
  · simp [h0]
  · rw [exchangeRate_of_pos hshares hpos] at hl
    exact CollateralExchangeRate.collateralToLiquidityCeil_ge hl

theorem redeemCollateral_spec {c x : U64} (h : r.redeemCollateral c = .ok (r', x)) :
    ∃ available shares : U64,
      r' = { r with
        liquidity := { r.liquidity with availableAmount := available }
        collateral := { mintTotalSupply := shares } } ∧
      (available : ℕ) + x = r.liquidity.availableAmount ∧
      (shares : ℕ) + c = r.collateral.mintTotalSupply ∧
      (r.books n).claims ≤ (r.books n).assets ∧
      (0 < (r.books n).equity → 0 < (r.books n).shares →
        (x : ℕ) * unit * (r.books n).shares ≤ c * (r.books n).equity) := by
  simp only [redeemCollateral, collateralExchangeRate, ReserveCollateral.burn,
    ReserveLiquidity.withdraw, bind_eq_ok, pure_eq_ok, require_eq_ok, okOr_eq_ok,
    Word.checkedSub_eq_some, Prod.mk.injEq] at h
  obtain ⟨rate, ⟨s, hs, rfl⟩, l, hl, col, ⟨m, hm, rfl⟩, liq, ⟨-, -, a, ha, rfl⟩, rfl, rfl⟩ := h
  obtain ⟨hcov, heq⟩ := books_of_totalSupply (n := n) hs
  refine ⟨a, m, rfl, ha, hm, hcov, fun hpos hshares ↦ ?_⟩
  rw [heq] at hpos ⊢
  rw [exchangeRate_of_pos hshares hpos] at hl
  exact CollateralExchangeRate.collateralToLiquidity_le hl

end Reserve

end Klend
