import Klend.Accounting.ExchangeRate
import Klend.Accounting.ReserveOperations
import Klend.Positions.Refreshing
import Klend.Results.LiquidationBounds

/-! # Redeeming liquidated collateral

A liquidation redeems as much of the withdrawn collateral as the reserve can pay, and
keeps a fee of at least one unit of the redeemed liquidity. The fee is covered exactly
if the redeemed collateral is worth a unit.
-/

namespace Klend

theorem CollateralExchangeRate.exists_collateralToLiquidity {rate : CollateralExchangeRate}
    {c l most : U64} (hpos : 0 < (rate.collateralSupply : ℕ))
    (hmost : rate.liquidityToCollateral l = .ok most) (hc : c ≤ most) :
    ∃ x, rate.collateralToLiquidity c = .ok x ∧ x ≤ l ∧
      (x : ℕ) = c * rate.liquidity.bits / rate.collateralSupply / unit := by
  obtain ⟨-, -, -, hbits⟩ := liquidityToCollateral_eq_ok.1 hmost
  have hworth : (c : ℕ) * rate.liquidity.bits ≤ l * unit * rate.collateralSupply :=
    calc (c : ℕ) * rate.liquidity.bits ≤ most * rate.liquidity.bits := Nat.mul_le_mul_right _ hc
      _ ≤ rate.collateralSupply * l * unit := hbits ▸ Nat.div_mul_le_self _ _
      _ = l * unit * rate.collateralSupply := by ring
  have hvalue : (c : ℕ) * rate.liquidity.bits / rate.collateralSupply ≤ l * unit :=
    Nat.div_le_of_le_mul (mul_comm (l * unit : ℕ) _ ▸ hworth)
  have hle : (c : ℕ) * rate.liquidity.bits / rate.collateralSupply / unit ≤ l :=
    Nat.div_le_of_le_mul (mul_comm (l : ℕ) _ ▸ hvalue)
  have hproduct : (c : ℕ) * 2 ^ 60 * rate.liquidity.bits < 2 ^ 256 :=
    calc (c : ℕ) * 2 ^ 60 * rate.liquidity.bits < 2 ^ 128 * 2 ^ 128 :=
          Nat.mul_lt_mul'' (by have := c.isLt; omega) rate.liquidity.isLt
      _ = 2 ^ 256 := by norm_num
  have hscaled : (c : ℕ) * 2 ^ 60 * rate.liquidity.bits / 2 ^ 60 = c * rate.liquidity.bits := by
    rw [mul_right_comm]
    exact Nat.mul_div_cancel _ (by norm_num)
  have hfits : (c : ℕ) * rate.liquidity.bits / rate.collateralSupply < 2 ^ 128 :=
    hvalue.trans_lt (by rw [unit_eq]; have := l.isLt; omega)
  refine ⟨⟨_, hle.trans_lt l.isLt⟩, ?_, hle, rfl⟩
  simp only [collateralToLiquidity, fractionCollateralToLiquidity, bind_eq_ok,
    BigFraction.mul_eq_ok, BigFraction.divInt_eq_ok, BigFraction.toFraction_eq_ok,
    Fraction.toFloor_eq_ok, BigFraction.bits_ofFraction, Fraction.bits_fromNum]
  refine ⟨⟨_, hfits⟩, ⟨⟨c * rate.liquidity.bits, ?_⟩, ⟨hproduct, hscaled.symm⟩,
    ⟨_, hfits.trans (by norm_num)⟩, ⟨hpos.ne', rfl⟩, rfl⟩, ?_⟩
  · rw [← hscaled]
    exact (Nat.div_le_self _ _).trans_lt hproduct
  · rw [unit_eq]

variable {r r' : Reserve} {clock : Clock} {c n x least : U64} {bonus supply : Fraction}

/-- A fee is charged even on nothing. -/
theorem one_le_protocolLiquidationFee {pct : U8} {fee : U64}
    (h : calculateProtocolLiquidationFee x bonus pct = .ok fee) : 1 ≤ fee := by
  simp only [calculateProtocolLiquidationFee, bind_eq_ok, pure_eq_ok] at h
  obtain ⟨-, -, -, -, -, -, -, -, _, -, rfl⟩ := h
  exact le_max_right _ _

/-- The fee is at most what it is taken from, if that is not nothing. -/
theorem exists_protocolLiquidationFee {pct : U8} (hbonus : bonus.bits + 2 ^ 60 < 2 ^ 128)
    (hpct : pct ≤ 100) :
    ∃ fee, calculateProtocolLiquidationFee x bonus pct = .ok fee ∧ (x ≠ 0 → fee ≤ x) := by
  have hx := x.isLt
  have hrate : (Fraction.fromPercent pct.widen).bits ≤ 2 ^ 60 := by
    rw [Fraction.bits_fromPercent, Word.widen_val]
    have : (pct : ℕ) ≤ 100 := hpct
    omega
  have hwithout : (x : ℕ) * 2 ^ 60 * 2 ^ 60 / (bonus.bits + 2 ^ 60) ≤ x * 2 ^ 60 := by
    apply Nat.div_le_of_le_mul
    rw [mul_comm]
    exact Nat.mul_le_mul_right _ (Nat.le_add_left _ _)
  have hamount : (x : ℕ) * 2 ^ 60 < 2 ^ 128 := Fraction.natCast_bits_lt hx
  generalize hw : (x : ℕ) * 2 ^ 60 * 2 ^ 60 / (bonus.bits + 2 ^ 60) = without at hwithout
  have hfee : (x * 2 ^ 60 - without) * (Fraction.fromPercent pct.widen).bits / 2 ^ 60 ≤
      x * 2 ^ 60 := by
    apply Nat.div_le_of_le_mul
    rw [mul_comm]
    exact Nat.mul_le_mul hrate (Nat.sub_le _ _)
  generalize hf : (x * 2 ^ 60 - without) * (Fraction.fromPercent pct.widen).bits / 2 ^ 60 = f
    at hfee
  have hceil : (f + (2 ^ 60 - 1)) / 2 ^ 60 ≤ x := by omega
  refine ⟨max ⟨_, hceil.trans_lt hx⟩ 1, ?_, fun hne ↦ max_le hceil ?_⟩
  · simp only [calculateProtocolLiquidationFee, bind_eq_ok, pure_eq_ok, Fraction.add_eq_ok,
      Fraction.div_eq_ok, Fraction.sub_eq_ok, Fraction.mul_eq_ok, Fraction.toCeil_eq_ok,
      Fraction.bits_fromNum, Fraction.bits_one]
    have hrate : bonus.bits + 2 ^ 60 ≠ 0 := by omega
    exact ⟨⟨_, hbonus⟩, rfl, ⟨without, by omega⟩, ⟨hrate, hw.symm⟩,
      ⟨x * 2 ^ 60 - without, by omega⟩, Nat.sub_add_cancel hwithout, ⟨f, by omega⟩, hf.symm, _,
      rfl, rfl⟩
  · exact Fin.le_def.2 (Nat.one_le_iff_ne_zero.2 (mt Fin.val_eq_zero_iff.1 hne))

/-- Refreshed in this slot, and able to pay for the collateral. -/
structure Reserve.CanPay (r : Reserve) (clock : Clock) (c : U64) : Prop where
  fresh : r.lastUpdate.stale = false ∧ r.lastUpdate.slot = clock.slot
  timestamp : ∃ ts, clock.timestamp = .ok ts
  redeemable : ∃ rate most, r.collateralExchangeRate = .ok rate ∧
    rate.liquidityToCollateral r.liquidity.availableAmount = .ok most ∧ c ≤ most

/-- The collateral is outstanding, and worth at least one unit of liquidity. -/
def Reserve.PaysAUnit (r : Reserve) (c : U64) : Prop :=
  c ≤ r.collateral.mintTotalSupply ∧ ∃ supply, r.liquidity.totalSupply = .ok supply ∧
    (r.collateral.mintTotalSupply : ℕ) * unit ≤ c * supply.bits

theorem ReserveLiquidity.totalSupply_of_payment {l : ReserveLiquidity} {available : U64}
    (h : l.totalSupply = .ok supply) (havailable : (available : ℕ) + x = l.availableAmount) :
    (∃ left, { l with availableAmount := available }.totalSupply = .ok left) ↔
      x * unit ≤ supply.bits := by
  obtain ⟨hfits, hbits⟩ := totalSupply_eq_ok.1 h
  rw [← havailable, add_mul] at hfits hbits
  constructor
  · rintro ⟨left, hleft⟩
    obtain ⟨-, hleft⟩ := totalSupply_eq_ok.1 hleft
    dsimp only at hleft
    omega
  · intro hle
    refine ⟨⟨supply.bits - x * unit, (Nat.sub_le _ _).trans_lt supply.isLt⟩,
      totalSupply_eq_ok.2 ⟨?_, ?_⟩⟩
    · dsimp only
      omega
    · dsimp only
      omega

theorem refreshReserveLimitTimestamps_of_totalSupply {ts : U64}
    (h : r.liquidity.totalSupply = .ok supply) :
    ∃ r', refreshReserveLimitTimestamps r ts = .ok r' ∧ r'.config = r.config := by
  have hcrossed : r.depositLimitCrossed =
      .ok (decide (Fraction.fromNum r.config.depositLimit < supply)) := by
    rw [Reserve.depositLimitCrossed, bind_eq_ok]
    exact ⟨supply, h, rfl⟩
  have htouched : ∃ r', refreshReserveLimitTimestamps r ts = .ok r' := by
    rw [refreshReserveLimitTimestamps, Reserve.updateDepositLimitCrossedTimestamp, hcrossed]
    exact ⟨_, rfl⟩
  obtain ⟨r', hr'⟩ := htouched
  obtain ⟨_, _, rfl, -⟩ := Reserve.refreshReserveLimitTimestamps_spec hr'
  exact ⟨_, hr', rfl⟩

theorem redeemReserveCollateral_of_canPay (h : r.CanPay clock c) (hc : c ≠ 0)
    (hshares : c ≤ r.collateral.mintTotalSupply) (hsupply : r.liquidity.totalSupply = .ok supply)
    (hpos : 0 < supply.bits) : ∃ r' x, redeemReserveCollateral r c clock false = .ok (r', x) ∧
      r'.config = r.config ∧
      (x : ℕ) = c * supply.bits / r.collateral.mintTotalSupply / unit := by
  obtain ⟨⟨hstale, hslot⟩, ⟨ts, hts⟩, rate, most, hrate, hmost, hle⟩ := h
  have hminted : 0 < (r.collateral.mintTotalSupply : ℕ) :=
    (Nat.pos_of_ne_zero (mt Fin.val_eq_zero_iff.1 hc)).trans_le hshares
  simp only [Reserve.collateralExchangeRate, hsupply, bind_eq_ok, pure_eq_ok,
    Except.ok.injEq, exists_eq_left', Reserve.exchangeRate_of_pos hminted hpos] at hrate
  subst hrate
  obtain ⟨x, hx, havailable, hbits⟩ :=
    CollateralExchangeRate.exists_collateralToLiquidity hminted hmost hle
  have hpaid : x * unit ≤ supply.bits := by
    refine (hbits ▸ Nat.div_mul_le_self _ _ : (x : ℕ) * unit ≤ _).trans ?_
    exact Nat.div_le_of_le_mul (Nat.mul_le_mul_right _ hshares)
  have hleft : ((r.liquidity.availableAmount - x : U64) : ℕ) + x = r.liquidity.availableAmount := by
    rw [Fin.sub_val_of_le havailable]
    exact Nat.sub_add_cancel havailable
  have hburnt : ((r.collateral.mintTotalSupply - c : U64) : ℕ) + c =
      r.collateral.mintTotalSupply := by
    rw [Fin.sub_val_of_le hshares]
    exact Nat.sub_add_cancel hshares
  have hredeem : ∃ r₁, r.redeemCollateral c = .ok (r₁, x) ∧ r₁.config = r.config ∧
      ∃ rest, r₁.liquidity.totalSupply = .ok rest := by
    obtain ⟨rest, hrest⟩ := (ReserveLiquidity.totalSupply_of_payment hsupply hleft).2 hpaid
    refine ⟨{ r with
      liquidity := { r.liquidity with availableAmount := r.liquidity.availableAmount - x }
      collateral := { mintTotalSupply := r.collateral.mintTotalSupply - c } }, ?_, rfl, rest, hrest⟩
    simp only [Reserve.redeemCollateral, Reserve.collateralExchangeRate,
      ReserveCollateral.burn, ReserveLiquidity.withdraw, bind_eq_ok, pure_eq_ok, require_eq_ok,
      okOr_eq_ok, Word.checkedSub_eq_some, Prod.mk.injEq]
    exact ⟨_, ⟨supply, hsupply, Reserve.exchangeRate_of_pos hminted hpos⟩, x, hx, _,
      ⟨_, hburnt, rfl⟩, _, ⟨(), havailable, _, hleft, rfl⟩, rfl, rfl⟩
  obtain ⟨r₁, hr₁, hconfig, rest, hrest⟩ := hredeem
  obtain ⟨r₂, hr₂, hconfig₂⟩ : ∃ r₂, refreshReserveLimitTimestamps r₁ ts = .ok r₂ ∧
      r₂.config = r₁.config := refreshReserveLimitTimestamps_of_totalSupply hrest
  refine ⟨r₂.markStale, x, ?_, hconfig₂.trans hconfig, hbits⟩
  simp only [redeemReserveCollateral, bind_eq_ok, require_eq_ok, LastUpdate.requireFresh_eq_ok,
    hr₁, Except.ok.injEq, exists_eq_left', hts, hr₂, Bool.false_eq_true, if_false, pure_eq_ok]
  exact ⟨(), hc, (), ⟨hstale, hslot, PriceStatusFlags.contains_none _⟩, trivial⟩

theorem totalSupply_of_refreshReserveLimitTimestamps {ts : U64}
    (h : refreshReserveLimitTimestamps r ts = .ok r') :
    ∃ supply, r.liquidity.totalSupply = .ok supply := by
  simp only [refreshReserveLimitTimestamps, Reserve.updateDepositLimitCrossedTimestamp,
    Reserve.depositLimitCrossed, bind_eq_ok] at h
  obtain ⟨-, ⟨-, ⟨supply, hsupply, -⟩, -⟩, -⟩ := h
  exact ⟨supply, hsupply⟩

theorem CollateralExchangeRate.one_collateralToLiquidity (h : one.collateralToLiquidity c = .ok x) :
    x = c := by
  have hone : ((1 : Word 128) : ℕ) = 1 := rfl
  simp only [collateralToLiquidity, fractionCollateralToLiquidity, one, bind_eq_ok,
    BigFraction.mul_eq_ok, BigFraction.divInt_eq_ok, BigFraction.toFraction_eq_ok,
    Fraction.toFloor_eq_ok, BigFraction.bits_ofFraction, Fraction.bits_fromNum,
    Fraction.bits_one, hone, Nat.div_one] at h
  obtain ⟨f, ⟨s, ⟨-, hs⟩, q, ⟨-, hq⟩, hf⟩, hx⟩ := h
  rw [Nat.mul_div_cancel _ (by norm_num)] at hs
  exact Fin.ext (by omega)

theorem redeemReserveCollateral_pays (h : redeemReserveCollateral r c clock false = .ok (r', x)) :
    c ≠ 0 ∧ c ≤ r.collateral.mintTotalSupply ∧
      ∃ supply, r.liquidity.totalSupply = .ok supply ∧ 0 < supply.bits ∧
        (x : ℕ) * unit * r.collateral.mintTotalSupply ≤ c * supply.bits := by
  have hne : c ≠ 0 := by
    rintro rfl
    simp [redeemReserveCollateral] at h
  obtain ⟨r₁, r₂, ts, cap, hredeem, -, htouched, -⟩ := Reserve.redeemReserveCollateral_spec h
  obtain ⟨available, shares, rfl, havailable, hshares, -⟩ :=
    Reserve.redeemCollateral_spec (n := 0) hredeem
  have hle : c ≤ r.collateral.mintTotalSupply := Fin.le_def.2 (by omega)
  have hminted : 0 < (r.collateral.mintTotalSupply : ℕ) :=
    (Nat.pos_of_ne_zero (mt Fin.val_eq_zero_iff.1 hne)).trans_le hle
  simp only [Reserve.redeemCollateral, Reserve.collateralExchangeRate, bind_eq_ok,
    pure_eq_ok, Prod.mk.injEq] at hredeem
  obtain ⟨rate, ⟨supply, hsupply, rfl⟩, x', hx, -, -, -, -, -, rfl⟩ := hredeem
  have hpos : 0 < supply.bits := by
    obtain ⟨left, hleft⟩ := totalSupply_of_refreshReserveLimitTimestamps htouched
    have hcovered := (ReserveLiquidity.totalSupply_of_payment hsupply havailable).1 ⟨left, hleft⟩
    by_contra hzero
    have hempty : supply = Fraction.zero := Fraction.ext (Nat.eq_zero_of_not_pos hzero)
    rw [ReserveCollateral.exchangeRate, if_pos (.inr hempty)] at hx
    obtain rfl := CollateralExchangeRate.one_collateralToLiquidity hx
    rw [hempty, Fraction.bits_zero, Nat.le_zero, unit_eq] at hcovered
    exact hne (Fin.val_eq_zero_iff.1 (by omega))
  rw [Reserve.exchangeRate_of_pos hminted hpos] at hx
  exact ⟨hne, hle, supply, hsupply, hpos, CollateralExchangeRate.collateralToLiquidity_le hx⟩

/-- Whatever the liquidator insists on, the redemption goes through with a fee it covers: only a
reward below the demanded one is refused. -/
def RedeemsWithFee (r : Reserve) (withdrawCollateralAmount : U64) (liquidationBonusRate : Fraction)
    (clock : Clock) : Prop :=
  ∃ (r' : Reserve) (x fee : U64), fee ≤ x ∧ ∀ withdrawAmount least : U64,
    postLiquidateRedeem r withdrawAmount withdrawCollateralAmount liquidationBonusRate least
      clock = if (least + fee : ℕ) ≤ x then .ok (r', some (x, fee))
        else err .liquidationRewardTooSmall

theorem redeemsWithFee_iff (hpay : r.CanPay clock c) (hc : c ≠ 0)
    (hbonus : bonus.bits + 2 ^ 60 < 2 ^ 128) (hpct : r.config.protocolLiquidationFeePct ≤ 100) :
    RedeemsWithFee r c bonus clock ↔ r.PaysAUnit c := by
  constructor
  · rintro ⟨r', x, fee, hle, hall⟩
    have h := hall 0 0
    rw [if_pos (by simpa using hle), postLiquidateRedeem, if_pos hc] at h
    simp only [bind_eq_ok, pure_eq_ok, Prod.exists, Prod.mk.injEq, Option.some.injEq] at h
    obtain ⟨r₁, x', hredeem, fee', hfee', -, -, -, -, -, rfl, rfl⟩ := h
    obtain ⟨-, hshares, supply, hsupply, -, hpaid⟩ := redeemReserveCollateral_pays hredeem
    refine ⟨hshares, supply, hsupply, le_trans ?_ hpaid⟩
    have hone : (1 : ℕ) ≤ x' := (one_le_protocolLiquidationFee hfee').trans hle
    calc (r.collateral.mintTotalSupply : ℕ) * unit = 1 * unit * r.collateral.mintTotalSupply := by
          ring
      _ ≤ x' * unit * r.collateral.mintTotalSupply := by gcongr
  · rintro ⟨hshares, supply, hsupply, hunit⟩
    have hminted : 0 < (r.collateral.mintTotalSupply : ℕ) :=
      (Nat.pos_of_ne_zero (mt Fin.val_eq_zero_iff.1 hc)).trans_le hshares
    have hpos : 0 < supply.bits :=
      Nat.pos_of_mul_pos_left ((Nat.mul_pos hminted unit_pos).trans_le hunit)
    obtain ⟨r', x, hredeem, hconfig, hx⟩ :=
      redeemReserveCollateral_of_canPay hpay hc hshares hsupply hpos
    have hworth : x ≠ 0 := by
      apply mt Fin.val_eq_zero_iff.2
      rw [hx, Nat.div_div_eq_div_mul]
      exact (Nat.div_pos hunit (Nat.mul_pos hminted unit_pos)).ne'
    rw [← hconfig] at hpct
    obtain ⟨fee, hfee, hcovered⟩ := exists_protocolLiquidationFee hbonus hpct
    have hle : fee ≤ x := hcovered hworth
    have hnet : ((x - fee : U64) : ℕ) + fee = x := by
      rw [Fin.sub_val_of_le hle]
      exact Nat.sub_add_cancel hle
    refine ⟨r', x, fee, hle, fun withdrawAmount least ↦ ?_⟩
    rw [postLiquidateRedeem, if_pos hc]
    simp only [hredeem, ok_bind, hfee, Word.sub_eq_ok.2 hnet, require, Fin.le_def]
    by_cases hreward : (least : ℕ) ≤ ((x - fee : U64) : ℕ)
    · rw [if_pos hreward, if_pos (by omega)]
      rfl
    · rw [if_neg hreward, if_neg (by omega)]
      rfl

variable {market : LendingMarket} {repayKey withdrawKey : Pubkey} {o o' : Obligation}
  {amount : U64} {override : Option U64} {rs rs' : Reserves} {iter : List Pubkey}
  {res : LiquidateObligationResult}

theorem Reserve.CanPay.retracked (h : r.CanPay clock c) (hr : r.Retracked r') :
    r'.CanPay clock c := by
  obtain ⟨_, _, rfl⟩ := hr
  exact ⟨h.fresh, h.timestamp, h.redeemable⟩

theorem liquidateObligation_canPay
    (h : liquidateObligation market repayKey withdrawKey o clock amount override rs iter =
      .ok (o', rs', res)) (hr : rs' withdrawKey = some r) :
    r.CanPay clock res.withdrawCollateralAmount ∧
      res.liquidationBonusRate.bits + 2 ^ 60 < 2 ^ 128 := by
  simp only [liquidateObligation, repayAndWithdrawFromObligationPostLiquidation, bind_eq_ok,
    require_eq_ok, pure_eq_ok, unwrap_eq_ok, Prod.exists, Prod.mk.injEq] at h
  obtain ⟨_, -, _, -, _, -, _, -, _, -, _, _, -, _, -, _, -, d, -, _, -, ts, hts, result, hresult, _,
    _, _, -, d₁, -, o₁, _, -, w₁, -, w, hw, rate, hrate, most, hmost, h⟩ := h
  obtain ⟨hfresh, hslot⟩ := (refreshReserve_settled hw).1
  have hbonus : result.liquidationBonusRate.bits + 2 ^ 60 < 2 ^ 128 := by
    obtain ⟨params, bonusRate, _, _, _, _, -, -, hrate, -, -, -, -, -, -, hsame⟩ :=
      calculateLiquidation_spec hresult
    rw [hsame, ← hrate]
    exact bonusRate.isLt
  have hreleased : ∃ w', w.Retracked w' ∧ rs' withdrawKey = some w' ∧
      res.withdrawCollateralAmount = min result.withdrawAmount most ∧
      res.liquidationBonusRate = result.liquidationBonusRate := by
    by_cases hfull : d.depositedAmount = result.withdrawAmount
    · simp only [hfull, decide_true, if_true, bind_eq_ok, pure_eq_ok, Prod.mk.injEq] at h
      obtain ⟨w', hw', -, rfl, rfl⟩ := h
      exact ⟨w', updateOnFullWithdraw_retracked hw', Reserves.store_same _ _ _, rfl, rfl⟩
    · simp only [hfull, decide_false, Bool.false_eq_true, if_false, bind_eq_ok, pure_eq_ok,
        Prod.mk.injEq] at h
      obtain ⟨w', rfl, -, rfl, rfl⟩ := h
      exact ⟨w, .refl w, Reserves.store_same _ _ _, rfl, rfl⟩
  obtain ⟨w', hretracked, hstored, hamount, hsame⟩ := hreleased
  obtain rfl : r = w' := Option.some.inj (hr.symm.trans hstored)
  have hpay : w.CanPay clock res.withdrawCollateralAmount :=
    ⟨⟨hfresh, hslot⟩, ⟨ts, hts⟩, rate, most, hrate, hmost, hamount ▸ min_le_right _ _⟩
  exact ⟨hpay.retracked hretracked, hsame ▸ hbonus⟩

/-- What a liquidation withdraws can be redeemed, fee and all, exactly if it is outstanding and
worth a unit. -/
theorem liquidateObligation_redeems_iff
    (h : liquidateObligation market repayKey withdrawKey o clock amount override rs iter =
      .ok (o', rs', res)) (hr : rs' withdrawKey = some r)
    (hpct : r.config.protocolLiquidationFeePct ≤ 100) (hc : 1 ≤ res.withdrawCollateralAmount) :
    RedeemsWithFee r res.withdrawCollateralAmount res.liquidationBonusRate clock ↔
      r.PaysAUnit res.withdrawCollateralAmount := by
  obtain ⟨hpay, hbonus⟩ := liquidateObligation_canPay h hr
  have hne : res.withdrawCollateralAmount ≠ 0 := by
    intro hzero
    rw [hzero] at hc
    exact absurd hc (by decide)
  exact redeemsWithFee_iff hpay hne hbonus hpct

namespace World

/-- The withdrawn reserve after two units of an obligation's debt were to be liquidated. -/
def liquidated (world : World) (clock : Clock) (index : ℕ) (repayKey withdrawKey : Pubkey) :
    Result (Obligation × Reserves × LiquidateObligationResult × Reserve) := do
  let o ← world.loadObligation index
  let (o', rs, res) ← liquidateObligation world.lendingMarket repayKey withdrawKey o clock 2 none
    world.reserves []
  let r ← unwrap (rs withdrawKey)
  pure (o', rs, res, r)

theorem liquidateObligation_redeems_dustLoan : ∃ o' rs res r,
    dustLoan.liquidated ⟨3, 10⟩ 0 6 5 = .ok (o', rs, res, r) ∧
      RedeemsWithFee r res.withdrawCollateralAmount res.liquidationBonusRate ⟨3, 10⟩ := by
  rcases exists_eq_ok (x := dustLoan.liquidated ⟨3, 10⟩ 0 6 5)
    (p := fun x ↦ decide (1 ≤ x.2.2.1.withdrawCollateralAmount ∧
        x.2.2.2.config.protocolLiquidationFeePct ≤ 100 ∧
        x.2.2.1.withdrawCollateralAmount ≤ x.2.2.2.collateral.mintTotalSupply) &&
      x.2.2.2.liquidity.totalSupply.toOption.any fun supply ↦
        decide ((x.2.2.2.collateral.mintTotalSupply : ℕ) * 2 ^ 60 ≤
          x.2.2.1.withdrawCollateralAmount * supply.bits)) (by decide)
    with ⟨⟨o', rs, res, r⟩, hliquidated, hboth⟩
  obtain ⟨hfacts, hworth⟩ := (Bool.and_eq_true _ _).mp hboth
  obtain ⟨hc, hpct, hshares⟩ := of_decide_eq_true hfacts
  rcases exists_eq_ok hworth with ⟨supply, hsupply, hunit⟩
  have h := hliquidated
  simp only [liquidated, bind_eq_ok, unwrap_eq_ok, pure_eq_ok, Prod.exists, Prod.mk.injEq] at h
  obtain ⟨o, -, o₁, rs₁, res₁, h, r₁, hr, rfl, rfl, rfl, rfl⟩ := h
  refine ⟨o₁, rs₁, res₁, r₁, hliquidated, (liquidateObligation_redeems_iff h hr hpct hc).2 ?_⟩
  exact ⟨hshares, supply, hsupply, unit_eq ▸ of_decide_eq_true hunit⟩

/-- A millionth of a dollar. -/
def cheapPrice : Option GetPriceResult :=
  some { price := ⟨2 ^ 60 / 1000000, by norm_num⟩, status := .allChecks, timestamp := 10 }

/-- Half of a reserve is lost to a loan whose collateral lost its value. Then one dollar is
borrowed against two tokens of that reserve, whose price falls. -/
def lossyLoan : World :=
  (plainOpening cautiousConfig).after (plainLoan ++
    [(⟨3, 10⟩, .refreshReserve 5 unitPrice), (⟨3, 10⟩, .refreshReserve 6 cheapPrice),
      (⟨3, 10⟩, .refreshObligation 0 [6, 5] []),
      (⟨3, 10⟩, .liquidateObligationAndRedeemReserveCollateral 0 5 6 500000 0 none []),
      (⟨3, 10⟩, .refreshReserve 5 unitPrice), (⟨3, 10⟩, .refreshObligation 0 [5] []),
      (⟨3, 10⟩, .socializeLoss 0 5 600000 []),
      (⟨4, 10⟩, .refreshReserve 5 (dollars 20)), (⟨4, 10⟩, .refreshReserve 6 unitPrice),
      (⟨4, 10⟩, .depositReserveLiquidity 5 2),
      (⟨4, 10⟩, .initObligation 1 7 0), (⟨4, 10⟩, .refreshObligation 1 [] []),
      (⟨4, 10⟩, .depositObligationCollateral 1 5 2),
      (⟨5, 10⟩, .refreshReserve 5 (dollars 20)), (⟨5, 10⟩, .refreshReserve 6 unitPrice),
      (⟨5, 10⟩, .refreshObligation 1 [5] []),
      (⟨5, 10⟩, .borrowObligationLiquidity 1 6 1 none []),
      (⟨6, 10⟩, .refreshReserve 5 (dollars 2)), (⟨6, 10⟩, .refreshReserve 6 unitPrice),
      (⟨6, 10⟩, .refreshObligation 1 [5, 6] [])])

/-- The token that is to be redeemed is worth half a unit, and the fee of one unit is subtracted
from nothing. -/
theorem lossyLoan_aborts :
    (plainOpening cautiousConfig).Genesis ∧ Run Anything (plainOpening cautiousConfig) lossyLoan ∧
    (∃ o' rs res r, lossyLoan.liquidated ⟨6, 10⟩ 1 6 5 = .ok (o', rs, res, r) ∧
      1 ≤ res.withdrawCollateralAmount ∧
      postLiquidateRedeem r res.withdrawAmount res.withdrawCollateralAmount
        res.liquidationBonusRate 0 ⟨6, 10⟩ = abort) ∧
    lossyLoan.process ⟨6, 10⟩
      (.liquidateObligationAndRedeemReserveCollateral 1 6 5 2 0 none []) = abort := by
  refine ⟨plainOpening_genesis (by rfl), run_after _ _ fun _ _ _ ↦ trivial, ?_, ?_⟩
  · rcases exists_eq_ok (x := lossyLoan.liquidated ⟨6, 10⟩ 1 6 5)
      (p := fun x ↦ decide (1 ≤ x.2.2.1.withdrawCollateralAmount) &&
        failsWith (postLiquidateRedeem x.2.2.2 x.2.2.1.withdrawAmount
          x.2.2.1.withdrawCollateralAmount x.2.2.1.liquidationBonusRate 0 ⟨6, 10⟩) .panic)
      (by decide) with ⟨⟨o', rs, res, r⟩, hliquidated, hboth⟩
    obtain ⟨hc, haborts⟩ := (Bool.and_eq_true _ _).mp hboth
    exact ⟨o', rs, res, r, hliquidated, of_decide_eq_true hc, eq_error_of_failsWith haborts⟩
  · exact eq_error_of_failsWith (by decide)

end World

end Klend
