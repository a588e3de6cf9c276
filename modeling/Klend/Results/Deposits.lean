import Klend.Lending.Deposits
import Klend.Lending.ObligationSpecs
import Klend.Positions.Isolation
import Klend.Results.BorrowValue
import Klend.Results.Isolation
import Klend.Results.LiquidationPairs

/-! # Deposits of collateral

A deposit returns or is rejected unless a number it computes does not fit, or it leaves
the obligation with deposits that are worth nothing.
-/

namespace Klend

variable {market : LendingMarket} {r r' : Reserve} {o o' : Obligation} {amount slot : U64}
  {key : Pubkey} {check : MaxReservesAsCollateralCheck} {group : Option ElevationGroup}
  {value previous least : Fraction} {d : ObligationCollateral} {e : LendingError}

section Values

theorem uncoded_marketValue : Uncoded (calculateMarketValueFromLiquidityAmount r value) := by
  have hpow (n : ℕ) : Uncoded (tenPow n) := by
    unfold tenPow
    split
    · exact uncoded_pure
    · exact uncoded_abort
  apply (hpow _).bind
  intro n
  apply Fraction.uncoded_ofBits.bind
  intro v
  exact Fraction.uncoded_divInt

theorem uncoded_collateralExchangeRate : Uncoded r.collateralExchangeRate := by
  refine Uncoded.bind ?_ fun _ ↦ uncoded_pure
  apply Fraction.uncoded_ofBits.bind
  intro assets
  apply Fraction.uncoded_sub.bind
  intro lessProtocol
  apply Fraction.uncoded_sub.bind
  intro lessReferrer
  exact Fraction.uncoded_sub

theorem uncoded_fractionCollateralToLiquidity {rate : CollateralExchangeRate} :
    Uncoded (rate.fractionCollateralToLiquidity value) := by
  refine Uncoded.bind (BigFraction.uncoded_ofBits.bind fun _ ↦ BigFraction.uncoded_ofBits) ?_
  intro scaled
  apply BigFraction.uncoded_divInt.bind
  intro x
  exact Fraction.uncoded_ofBits

/-- What the depositors own, in units of 2 ^ -60. -/
def ReserveLiquidity.supplyBits (l : ReserveLiquidity) : ℕ :=
  l.availableAmount * 2 ^ 60 + l.borrowedAmountSf.bits - l.accumulatedProtocolFeesSf.bits -
    l.accumulatedReferrerFeesSf.bits - l.pendingReferrerFeesSf.bits

/-- What collateral stands for, in units of 2 ^ -60: its part of the supply, or its own amount where
there is no rate yet. -/
def Reserve.redeemableBits (r : Reserve) (amount : ℕ) : ℕ :=
  if r.collateral.mintTotalSupply = 0 ∨ r.liquidity.supplyBits = 0 then amount * 2 ^ 60
  else amount * r.liquidity.supplyBits / r.collateral.mintTotalSupply

/-- What collateral is worth at the reserve's price, in units of 2 ^ -60. -/
def Reserve.collateralValueBits (r : Reserve) (amount : ℕ) : ℕ :=
  r.redeemableBits amount * r.liquidity.marketPriceSf.bits / 2 ^ 60 /
    10 ^ (r.liquidity.mintDecimals : ℕ)

/-- The reserve's balances, the amount that the collateral stands for and its product with the price
fit. -/
structure Reserve.ValuesCollateral (r : Reserve) (amount : ℕ) : Prop where
  assets : r.liquidity.availableAmount * 2 ^ 60 + r.liquidity.borrowedAmountSf.bits < 2 ^ 128
  fees : r.liquidity.accumulatedProtocolFeesSf.bits + r.liquidity.accumulatedReferrerFeesSf.bits +
      r.liquidity.pendingReferrerFeesSf.bits ≤
    r.liquidity.availableAmount * 2 ^ 60 + r.liquidity.borrowedAmountSf.bits
  redeemable : r.redeemableBits amount < 2 ^ 128
  decimals : (r.liquidity.mintDecimals : ℕ) ≤ 19
  priced : r.redeemableBits amount * r.liquidity.marketPriceSf.bits / 2 ^ 60 < 2 ^ 128

theorem ReserveLiquidity.totalSupply_iff {l : ReserveLiquidity} {supply : Fraction} :
    l.totalSupply = .ok supply ↔
      l.availableAmount * 2 ^ 60 + l.borrowedAmountSf.bits < 2 ^ 128 ∧
      l.accumulatedProtocolFeesSf.bits + l.accumulatedReferrerFeesSf.bits +
        l.pendingReferrerFeesSf.bits ≤ l.availableAmount * 2 ^ 60 + l.borrowedAmountSf.bits ∧
      supply.bits = l.supplyBits := by
  rw [totalSupply_eq_ok, unit_eq, supplyBits]
  omega

theorem fractionCollateralToLiquidity_eq_ok {rate : CollateralExchangeRate} {amount : U64}
    {liquidity : Fraction} (hsupply : (rate.collateralSupply : ℕ) ≠ 0) :
    rate.fractionCollateralToLiquidity (Fraction.fromNum amount) = .ok liquidity ↔
      liquidity.bits = amount * rate.liquidity.bits / rate.collateralSupply := by
  have hscaled : amount * 2 ^ 60 * rate.liquidity.bits / 2 ^ 60 = amount * rate.liquidity.bits := by
    rw [Nat.mul_right_comm, Nat.mul_div_cancel _ (by positivity)]
  have hfits : amount * 2 ^ 60 * rate.liquidity.bits < 2 ^ 256 := by
    calc (amount : ℕ) * 2 ^ 60 * rate.liquidity.bits ≤ 2 ^ 64 * 2 ^ 60 * 2 ^ 128 :=
          Nat.mul_le_mul (Nat.mul_le_mul_right _ amount.isLt.le) rate.liquidity.isLt.le
      _ < 2 ^ 256 := by norm_num
  simp only [CollateralExchangeRate.fractionCollateralToLiquidity, bind_eq_ok,
    BigFraction.mul_eq_ok, BigFraction.bits_ofFraction, BigFraction.divInt_eq_ok,
    BigFraction.toFraction_eq_ok, Fraction.bits_fromNum]
  constructor
  · rintro ⟨scaled, ⟨-, hbits⟩, quotient, ⟨-, hquotient⟩, hliquidity⟩
    rw [hliquidity, hquotient, hbits, hscaled]
  · intro hliquidity
    have hlt : amount * rate.liquidity.bits < 2 ^ 256 :=
      hscaled ▸ (Nat.div_le_self _ _).trans_lt hfits
    exact ⟨⟨_, hlt⟩, ⟨hfits, hscaled.symm⟩, ⟨_, (Nat.div_le_self _ _).trans_lt hlt⟩,
      ⟨hsupply, rfl⟩, hliquidity⟩

theorem redeemable_iff {amount : U64} {liquidity : Fraction} :
    (∃ rate, r.collateralExchangeRate = .ok rate ∧
      rate.fractionCollateralToLiquidity (Fraction.fromNum amount) = .ok liquidity) ↔
    r.liquidity.availableAmount * 2 ^ 60 + r.liquidity.borrowedAmountSf.bits < 2 ^ 128 ∧
    r.liquidity.accumulatedProtocolFeesSf.bits + r.liquidity.accumulatedReferrerFeesSf.bits +
        r.liquidity.pendingReferrerFeesSf.bits ≤
      r.liquidity.availableAmount * 2 ^ 60 + r.liquidity.borrowedAmountSf.bits ∧
    liquidity.bits = r.redeemableBits amount := by
  have hrate (supply : Fraction) (hsupply : supply.bits = r.liquidity.supplyBits) :
      (r.collateral.exchangeRate supply).fractionCollateralToLiquidity (Fraction.fromNum amount) =
        .ok liquidity ↔ liquidity.bits = r.redeemableBits amount := by
    unfold ReserveCollateral.exchangeRate Reserve.redeemableBits
    simp only [Fraction.eq_zero_iff, hsupply]
    split
    · rw [fractionCollateralToLiquidity_eq_ok (by decide)]
      have hone : ((CollateralExchangeRate.one.collateralSupply : ℕ)) = 1 := rfl
      rw [hone, Nat.div_one]
      rfl
    · next h =>
      have hmint : (r.collateral.mintTotalSupply : ℕ) ≠ 0 :=
        fun h0 ↦ h (.inl (Fin.ext h0))
      rw [fractionCollateralToLiquidity_eq_ok (by rwa [Word.widen_val]), Word.widen_val, hsupply]
  simp only [Reserve.collateralExchangeRate, bind_eq_ok, pure_eq_ok]
  constructor
  · rintro ⟨rate, ⟨supply, hsupply, rfl⟩, hliquidity⟩
    obtain ⟨hlt, hfees, hbits⟩ := ReserveLiquidity.totalSupply_iff.1 hsupply
    exact ⟨hlt, hfees, (hrate supply hbits).1 hliquidity⟩
  · rintro ⟨hlt, hfees, hliquidity⟩
    obtain ⟨supply, hbits⟩ : ∃ supply : Fraction, supply.bits = r.liquidity.supplyBits :=
      ⟨⟨_, (show r.liquidity.supplyBits ≤ _ by unfold ReserveLiquidity.supplyBits; omega).trans_lt
        hlt⟩, rfl⟩
    exact ⟨_, ⟨supply, ReserveLiquidity.totalSupply_iff.2 ⟨hlt, hfees, hbits⟩, rfl⟩,
      (hrate supply hbits).2 hliquidity⟩

theorem depositValue_eq_ok {amount : U64} : depositValue r amount = .ok value ↔
    r.ValuesCollateral amount ∧ value.bits = r.collateralValueBits amount := by
  have hsplit : depositValue r amount = .ok value ↔ ∃ liquidity,
      (∃ rate, r.collateralExchangeRate = .ok rate ∧
        rate.fractionCollateralToLiquidity (Fraction.fromNum amount) = .ok liquidity) ∧
      calculateMarketValueFromLiquidityAmount r liquidity = .ok value := by
    simp only [depositValue, bind_eq_ok]
    constructor
    · rintro ⟨rate, hrate, l, hl, hvalue⟩
      exact ⟨l, ⟨rate, hrate, hl⟩, hvalue⟩
    · rintro ⟨l, ⟨rate, hrate, hl⟩, hvalue⟩
      exact ⟨rate, hrate, l, hl, hvalue⟩
  simp only [hsplit, redeemable_iff, calculateMarketValueFromLiquidityAmount_eq_ok]
  constructor
  · rintro ⟨liquidity, ⟨hassets, hfees, hbits⟩, hdecimals, hpriced, hvalue⟩
    rw [hbits] at hpriced hvalue
    exact ⟨⟨hassets, hfees, hbits ▸ liquidity.isLt, hdecimals, hpriced⟩, hvalue⟩
  · rintro ⟨h, hvalue⟩
    exact ⟨⟨_, h.redeemable⟩, ⟨h.assets, h.fees, rfl⟩, h.decimals, h.priced, hvalue⟩

/-- The values after a deposit fit, and the deposits are worth something. -/
structure DepositFits (deposited debt previous least : Fraction) (value : ℕ) : Prop where
  total : deposited.bits + value < 2 ^ 128
  slot : previous.bits + value < 2 ^ 128
  worth : deposited.bits + value ≠ 0
  newLtv : debt.bits * 2 ^ 60 / (deposited.bits + value) < 2 ^ 128
  printed : 0 < previous.bits + value ∧ previous.bits + value < least.bits →
    previous.bits + value + 2 ^ 60 / 20000 < 2 ^ 128
  oldLtv : ¬ (0 < previous.bits + value ∧ previous.bits + value < least.bits) →
    deposited ≠ Fraction.zero → debt.bits * 2 ^ 60 / deposited.bits < 2 ^ 128

theorem postDepositObligationInvariants_returns :
    Returns (postDepositObligationInvariants value o r previous least) ↔
      ∃ mv, calculateMarketValueFromLiquidityAmount r value = .ok mv ∧
        DepositFits o.depositedValueSf o.borrowFactorAdjustedDebtValueSf previous least
          mv.bits := by
  rw [postDepositObligationInvariants, uncoded_marketValue.returns_bind]
  refine exists_congr fun mv ↦ and_congr_right fun _ ↦ ?_
  simp only [Uncoded.returns_bind, Fraction.uncoded_add, Fraction.uncoded_div,
    Fraction.add_eq_ok, Fraction.div_eq_ok]
  constructor
  · rintro ⟨total, htotal, s, hs, ltv, ⟨hne, hltv⟩, h⟩
    obtain ⟨hleast, hold⟩ := returns_bind.1 h
    rw [checkNetValueRemaining, Fraction.returns_requireDisplaying, Fraction.lt_iff,
      Fraction.lt_iff, Fraction.bits_zero, hs] at hleast
    refine ⟨htotal ▸ total.isLt, hs ▸ s.isLt, htotal ▸ hne, htotal ▸ hltv ▸ ltv.isLt, ?_, ?_⟩
    · exact fun hsmall ↦ hleast.resolve_left (not_not.2 hsmall)
    · intro hpasses hdeposited
      have hold := hold () (Fraction.requireDisplaying_eq_ok.2 (by
        rw [Fraction.lt_iff, Fraction.lt_iff, Fraction.bits_zero, hs]
        exact hpasses))
      rw [if_pos hdeposited, Obligation.loanToValue, Fraction.uncoded_div.returns_bind] at hold
      obtain ⟨previousLtv, hprevious, -⟩ := hold
      obtain ⟨-, hprevious⟩ := Fraction.div_eq_ok.1 hprevious
      exact hprevious ▸ previousLtv.isLt
  · intro h
    refine ⟨⟨_, h.total⟩, rfl, ⟨_, h.slot⟩, rfl, ⟨_, h.newLtv⟩, ⟨h.worth, rfl⟩, ?_⟩
    refine returns_bind.2 ⟨?_, fun _ hleast ↦ ?_⟩
    · rw [checkNetValueRemaining, Fraction.returns_requireDisplaying]
      by_cases hsmall : 0 < previous.bits + mv.bits ∧ previous.bits + mv.bits < least.bits
      · exact .inr (h.printed hsmall)
      · exact .inl hsmall
    · have hpasses : ¬ (0 < previous.bits + mv.bits ∧ previous.bits + mv.bits < least.bits) :=
        Fraction.requireDisplaying_eq_ok.1 hleast
      by_cases hdeposited : o.depositedValueSf = Fraction.zero
      · rw [if_neg (not_not.2 hdeposited)]
        exact returns_pure
      · rw [if_pos hdeposited, Obligation.loanToValue, Fraction.uncoded_div.returns_bind]
        have hbits : o.depositedValueSf.bits ≠ 0 := mt Fraction.eq_zero_iff.2 hdeposited
        refine ⟨⟨_, h.oldLtv hpasses hdeposited⟩, Fraction.div_eq_ok.2 ⟨hbits, rfl⟩, ?_⟩
        -- more deposits make no worse LTV
        apply Fraction.returns_requireDisplaying.2
        exact .inl (Nat.div_le_div_left (Nat.le_add_right _ _) (Nat.pos_of_ne_zero hbits))

end Values

section Booking

/-- A deposit of the collateral opens a slot. -/
def Obligation.OpensSlot (o : Obligation) (key : Pubkey) : Prop :=
  (∀ d ∈ o.deposits, d.depositReserve ≠ key) ∧ ∃ d ∈ o.deposits, d.depositReserve = 0

/-- The group takes one more collateral. -/
def ElevationGroup.TakesCollateral (g : ElevationGroup) (key : Pubkey) (count : ℕ)
    (check : MaxReservesAsCollateralCheck) : Prop :=
  g.debtReserve ≠ key ∧ ¬ (check = .perform ∧ (g.maxReservesAsCollateral : ℕ) < count + 1)

/-- The value the collateral had at the refresh. -/
def Obligation.collateralValue (o : Obligation) (key : Pubkey) : Fraction :=
  (o.deposits.find? (·.depositReserve = key)).elim Fraction.zero (·.marketValueSf)

/-- The debt fits in an amount, and in the reserve's counter of the group if a slot is opened. -/
structure Obligation.DebtFits (o : Obligation) (r : Reserve) (key : Pubkey)
    (group : Option ElevationGroup) (check : MaxReservesAsCollateralCheck) : Prop where
  rounded : ¬ 1 < o.borrowsCount →
    ((o.borrows.map (·.borrowedAmountSf.bits)).sum + (2 ^ 60 - 1)) / 2 ^ 60 < 2 ^ 64
  counted : o.OpensSlot key → ∀ g i n, group = some g →
    g.TakesCollateral key o.depositsCount check → g.getIndex = .ok i →
    o.getBorrowedAmountIfSingleToken = .ok (some n) → (r.debtInGroup i + n : ℕ) < 2 ^ 64

theorem uncoded_getBorrowedAmountIfSingleToken : Uncoded o.getBorrowedAmountIfSingleToken := by
  unfold Obligation.getBorrowedAmountIfSingleToken
  split
  · exact uncoded_pure
  · apply Fraction.uncoded_ofBits.bind
    intro sum
    apply Word.uncoded_fit.bind
    intro n
    exact uncoded_pure

theorem getBorrowedAmountIfSingleToken_isOk :
    (∃ total, o.getBorrowedAmountIfSingleToken = .ok total) ↔ (¬ 1 < o.borrowsCount →
      ((o.borrows.map (·.borrowedAmountSf.bits)).sum + (2 ^ 60 - 1)) / 2 ^ 60 < 2 ^ 64) := by
  unfold Obligation.getBorrowedAmountIfSingleToken
  by_cases hcount : 1 < o.borrowsCount
  · rw [if_pos hcount]
    exact ⟨fun _ h ↦ absurd hcount h, fun _ ↦ ⟨none, rfl⟩⟩
  · simp only [if_neg hcount, bind_eq_ok, Fraction.ofBits_eq_ok, Fraction.toCeil_eq_ok, pure_eq_ok]
    constructor
    · rintro ⟨-, sum, hsum, n, hn, -⟩ -
      exact hsum ▸ hn ▸ n.isLt
    · intro h
      have hsum : (o.borrows.map (·.borrowedAmountSf.bits)).sum < 2 ^ 128 := by
        have := h hcount
        omega
      exact ⟨_, ⟨_, hsum⟩, rfl, ⟨_, h hcount⟩, rfl, rfl⟩

theorem updateOnNewDeposit_returns {total : Option U64} {count : ℕ}
    (hgroup : ∀ g, group = some g → ∃ i, g.getIndex = .ok i) :
    Returns (updateElevationGroupDebtTrackersOnNewDeposit total d count group key r check) ↔
      ∀ g i n, group = some g → g.TakesCollateral key count check → g.getIndex = .ok i →
        total = some n → (r.debtInGroup i + n : ℕ) < 2 ^ 64 := by
  cases group with
  | none =>
    constructor
    · rintro - g i n ⟨⟩
    · exact fun _ ↦ returns_pure
  | some g =>
    obtain ⟨i, hi⟩ := hgroup g rfl
    simp only [updateElevationGroupDebtTrackersOnNewDeposit, returns_bind, returns_require,
      returns_okOr, returns_pure, Word.returns_add, require_eq_ok, okOr_eq_ok, hi, true_and,
      implies_true, and_true]
    constructor
    · rintro h _ _ n ⟨⟩ ⟨hkey, hcount⟩ hi' hn
      obtain rfl := Except.ok.inj (hi.symm.trans hi')
      exact (h () hkey () hcount).2 i rfl n hn
    · intro h _ hkey _ hcount
      exact ⟨.of_ok rfl, fun j hj n hn ↦ h g j n rfl ⟨hkey, hcount⟩ (hi.trans hj) hn⟩

theorem findOrAddCollateral_returns {α : Type} {tier : AssetTier} {unchanged : α}
    {init : ObligationCollateral → Result (ObligationCollateral × α)} :
    Returns (o.findOrAddCollateralToDeposits key tier init unchanged) ↔
      (o.OpensSlot key → Returns (init (.new key))) := by
  unfold Obligation.findOrAddCollateralToDeposits Obligation.OpensSlot
  split
  · next i hi =>
    obtain ⟨hlt, hkey, -⟩ := List.findIdx?_eq_some_iff_getElem.1 hi
    exact ⟨fun _ h ↦ absurd (of_decide_eq_true hkey) (h.1 _ (List.getElem_mem hlt)),
      fun _ ↦ returns_pure⟩
  · next hnone =>
    have hother : ∀ d ∈ o.deposits, d.depositReserve ≠ key := by
      simpa using List.findIdx?_eq_none_iff.1 hnone
    split
    · next i hi =>
      obtain ⟨hlt, hkey, -⟩ := List.findIdx?_eq_some_iff_getElem.1 hi
      rw [returns_bind]
      constructor
      · exact fun h _ ↦ h.1
      · exact fun h ↦ ⟨h ⟨hother, _, List.getElem_mem hlt, of_decide_eq_true hkey⟩,
          fun _ _ ↦ returns_pure⟩
    · next hfull =>
      refine ⟨fun _ h ↦ ?_, fun _ ↦ returns_err⟩
      obtain ⟨-, d, hd, hzero⟩ := h
      have hused : ∀ d ∈ o.deposits, d.depositReserve ≠ 0 := by
        simpa using List.findIdx?_eq_none_iff.1 hfull
      exact absurd hzero (hused d hd)

/-- Accounts as the program keeps them: the market's groups are numbered, the reserve's tier and
those of the obligation's slots are known, and every slot in use holds something. -/
structure DepositAccounts (market : LendingMarket) (r : Reserve) (o : Obligation) : Prop where
  market : market.Validated
  tier : ∃ tier, r.config.getAssetTier = .ok tier
  slots : o.WellFormed
  tiers : validateObligationAssetTiers o = .ok ()

theorem tryFrom_toU8 (tier : AssetTier) : AssetTier.tryFrom tier.toU8 = some tier := by
  cases tier <;> rfl

theorem validateObligationAssetTiers_returns {deposits borrows : List AssetTier}
    (hd : o.getDepositAssetTiers = .ok deposits) (hb : o.getBorrowsAssetTiers = .ok borrows) :
    Returns (validateObligationAssetTiers o) := by
  simp only [validateObligationAssetTiers, hd, hb, ok_bind, returns_bind, returns_require,
    implies_true, and_self]

theorem depositAssetTiers_set {d' : ObligationCollateral} {i : ℕ} {tier : AssetTier}
    {init : ObligationCollateral → Result (ObligationCollateral × Reserve)}
    (hslots : o.DepositsWellFormed)
    (htiers : ∃ tiers, o.getDepositAssetTiers = .ok tiers)
    (hfind : o.findOrAddCollateralToDeposits key tier init r = .ok (o', i, r'))
    (hd : o'.deposits[i]? = some d) (hkey : d'.depositReserve = d.depositReserve) :
    ∃ tiers, Obligation.getDepositAssetTiers { o' with deposits := o'.deposits.set i d' } =
      .ok tiers := by
  have hknown := Obligation.tiersInUse_isOk.1 htiers
  refine Obligation.tiersInUse_isOk.2 fun j s t hs ht hused ↦ ?_
  dsimp only at hs ht
  by_cases hj : i = j
  · subst hj
    rcases findOrAddCollateral_spec hfind with ⟨rfl, -⟩ | ⟨-, ⟨free, hfree, -⟩, _, -, rfl⟩
    · have hlt := (List.getElem?_eq_some_iff.1 hd).1
      rw [List.getElem?_set_self hlt] at hs
      obtain rfl := Option.some.inj hs
      have hne : d.depositReserve ≠ 0 := hkey ▸ (of_decide_eq_true hused).1
      exact hknown i d t hd ht (decide_eq_true
        ⟨hne, hslots.held d (List.mem_of_getElem? hd) hne⟩)
    · rw [List.getElem?_set_self (hslots.tagged.1 ▸ (List.getElem?_eq_some_iff.1 hfree).1)] at ht
      exact Option.some.inj ht ▸ ⟨tier, tryFrom_toU8 tier⟩
  · rw [List.getElem?_set_ne hj] at hs
    rcases findOrAddCollateral_spec hfind with ⟨rfl, -⟩ | ⟨-, -, _, -, rfl⟩
    · exact hknown j s t hs ht hused
    · rw [List.getElem?_set_ne hj] at hs ht
      exact hknown j s t hs ht hused

theorem LendingMarket.Validated.exists_getIndex {id : U8} {g : ElevationGroup}
    (h : market.Validated) (hgroup : Klend.getElevationGroup id market = .ok (some g)) :
    ∃ i, g.getIndex = .ok i := by
  simp only [Klend.getElevationGroup, bind_eq_ok, require_eq_ok] at hgroup
  obtain ⟨-, -, group, hfound, hgroup⟩ := hgroup
  cases group with
  | none => cases hgroup
  | some g' =>
    simp only [bind_eq_ok, require_eq_ok, pure_eq_ok, Option.some.injEq] at hgroup
    obtain ⟨-, hthreshold, -, -, rfl⟩ := hgroup
    rcases LendingMarket.getElevationGroup_eq_ok.1 hfound with ⟨-, hnone⟩ | ⟨i, hi, hg⟩
    · cases hnone
    · obtain rfl := Option.some.inj hg
      rcases h.group i with hdefault | ⟨hid, -⟩
      · rw [hdefault] at hthreshold
        exact absurd rfl hthreshold
      · exact ⟨i, ElevationGroup.getIndex_eq_ok.2 hid.symm⟩

/-- Once the slot is found, only codes are returned. -/
theorem depositInSlot_returns {tier : AssetTier} {i : ℕ}
    {init : ObligationCollateral → Result (ObligationCollateral × Reserve)}
    (hslots : o.DepositsWellFormed) (htiers : validateObligationAssetTiers o = .ok ())
    (hfind : o.findOrAddCollateralToDeposits key tier init r = .ok (o', i, r')) :
    Returns (do
      let d ← unwrap o'.deposits[i]?
      let d ← d.deposit amount
      validateObligationAssetTiers { o' with deposits := o'.deposits.set i d }.markStale
      (pure (r'.markStale, { o' with deposits := o'.deposits.set i d }.markStale, d.marketValueSf) :
        Result (Reserve × Obligation × Fraction))) := by
  obtain ⟨deposits, borrows, hdeposits, hborrows, -⟩ := validateObligationAssetTiers_eq_ok.1 htiers
  have hborrows' : o'.getBorrowsAssetTiers = .ok borrows := by
    rcases findOrAddCollateral_spec hfind with ⟨rfl, -⟩ | ⟨-, -, _, -, rfl⟩ <;> exact hborrows
  obtain ⟨d, hd⟩ : ∃ d, o'.deposits[i]? = some d := by
    rcases findOrAddCollateral_spec hfind with ⟨rfl, -, d, hd, -⟩ |
      ⟨-, ⟨free, hfree, -⟩, d, -, rfl⟩
    · exact ⟨d, hd⟩
    · exact ⟨d, List.getElem?_set_self (List.getElem?_eq_some_iff.1 hfree).1⟩
  rw [hd, unwrap, ok_bind, returns_bind]
  constructor
  · simp only [ObligationCollateral.deposit, returns_bind, returns_okOr, returns_pure,
      implies_true, and_self]
  · intro d' hd'
    have hkey : d'.depositReserve = d.depositReserve := by
      simp only [ObligationCollateral.deposit, bind_eq_ok, pure_eq_ok] at hd'
      obtain ⟨_, -, rfl⟩ := hd'
      rfl
    obtain ⟨tiers, htiers'⟩ := depositAssetTiers_set hslots ⟨_, hdeposits⟩ hfind hd hkey
    rw [returns_bind]
    exact ⟨validateObligationAssetTiers_returns htiers' hborrows', fun _ _ ↦ returns_pure⟩

/-- Only the counters abort, when the debt does not fit. -/
theorem bookDeposit_returns (h : DepositAccounts market r o)
    (hgroup : getElevationGroup o.elevationGroup market = .ok group) :
    Returns (bookDeposit r o amount key group check) ↔ o.DebtFits r key group check := by
  obtain ⟨tier, htier⟩ := h.tier
  have hindex : ∀ g, group = some g → ∃ i, g.getIndex = .ok i :=
    fun g hg ↦ h.market.exists_getIndex (hg ▸ hgroup)
  have hopen (total : Option U64) : Returns (o.findOrAddCollateralToDeposits key tier
      (fun d ↦ updateElevationGroupDebtTrackersOnNewDeposit total d o.depositsCount group key r
        check) r) ↔ (o.OpensSlot key → ∀ g i n, group = some g →
          g.TakesCollateral key o.depositsCount check → g.getIndex = .ok i → total = some n →
          (r.debtInGroup i + n : ℕ) < 2 ^ 64) := by
    rw [findOrAddCollateral_returns, updateOnNewDeposit_returns hindex]
  rw [bookDeposit, uncoded_getBorrowedAmountIfSingleToken.returns_bind]
  simp only [htier, ok_bind]
  constructor
  · rintro ⟨total, htotal, hreturns⟩
    refine ⟨getBorrowedAmountIfSingleToken_isOk.1 ⟨total, htotal⟩, ?_⟩
    intro hopens g i n hg htakes hi hn
    have hcounted := (hopen total).1 (returns_bind.1 hreturns).1
    exact hcounted hopens g i n hg htakes hi (Except.ok.inj (htotal.symm.trans hn))
  · intro hfits
    obtain ⟨total, htotal⟩ := getBorrowedAmountIfSingleToken_isOk.2 hfits.rounded
    refine ⟨total, htotal, returns_bind.2 ⟨(hopen total).2 ?_, ?_⟩⟩
    · intro hopens g i n hg htakes hi hn
      exact hfits.counted hopens g i n hg htakes hi (hn ▸ htotal)
    · rintro ⟨o', i, r'⟩ hfind
      exact depositInSlot_returns h.slots.deposits h.tiers hfind

/-- A deposit finds its slot: one of the reserve with room for the amount, or a free one that the
group and the isolated tiers let it open. -/
def Obligation.TakesDeposit (o : Obligation) (r : Reserve) (amount : U64) (key : Pubkey)
    (group : Option ElevationGroup) (check : MaxReservesAsCollateralCheck) : Prop :=
  (∃ d, o.deposits.find? (·.depositReserve = key) = some d ∧
    (d.depositedAmount + amount : ℕ) < 2 ^ 64) ∨
  (o.OpensSlot key ∧
    (∀ g, group = some g →
      g.TakesCollateral key o.depositsCount check ∧ ¬ 1 < o.borrowsCount) ∧
    ∀ tier deposits borrows, r.config.getAssetTier = .ok tier →
      o.getDepositAssetTiers = .ok deposits → o.getBorrowsAssetTiers = .ok borrows →
      TiersIsolated (tier :: deposits) borrows)

section Tiers

variable {σ : Type} {inUse : σ → Bool} {slots : List σ} {x x' : σ} {tags : List U8} {i : ℕ}

theorem tiersInUse_cons {t : U8} : Obligation.tiersInUse inUse (x :: slots) (t :: tags) =
    if inUse x = true then do
      let tier ← unwrap (AssetTier.tryFrom t)
      let rest ← Obligation.tiersInUse inUse slots tags
      pure (tier :: rest)
    else Obligation.tiersInUse inUse slots tags := by
  cases hx : inUse x <;> simp [Obligation.tiersInUse, hx]

theorem tiersInUse_set_same (hx : slots[i]? = some x) (hsame : inUse x' = inUse x) :
    Obligation.tiersInUse inUse (slots.set i x') tags = Obligation.tiersInUse inUse slots tags := by
  induction slots generalizing i tags with
  | nil => rfl
  | cons y slots ih =>
    cases tags with
    | nil => cases i <;> rfl
    | cons t tags =>
      cases i with
      | zero =>
        obtain rfl := Option.some.inj hx
        rw [List.set_cons_zero, tiersInUse_cons, tiersInUse_cons, hsame]
      | succ i => rw [List.set_cons_succ, tiersInUse_cons, tiersInUse_cons, ih hx]

theorem tiersInUse_open {code : U8} {tier : AssetTier} {tiers : List AssetTier} (y : σ)
    (hx : slots[i]? = some x) (hfree : inUse x = false) (hused : inUse y = true)
    (hcode : AssetTier.tryFrom code = some tier) (hi : i < tags.length)
    (h : Obligation.tiersInUse inUse slots tags = .ok tiers) :
    ∃ tiers', Obligation.tiersInUse inUse (slots.set i y) (tags.set i code) = .ok tiers' ∧
      tiers'.Perm (tier :: tiers) := by
  induction slots generalizing i tags tiers with
  | nil => cases hx
  | cons z slots ih =>
    cases tags with
    | nil => exact absurd hi (Nat.not_lt_zero _)
    | cons t tags =>
      cases i with
      | zero =>
        obtain rfl := Option.some.inj hx
        obtain ⟨hy, -⟩ | ⟨-, hrest⟩ := Obligation.tiersInUse_cons_eq_ok.1 h
        · exact absurd (hfree.symm.trans hy) nofun
        · exact ⟨tier :: tiers, Obligation.tiersInUse_cons_eq_ok.2
            (.inl ⟨hused, tier, tiers, hcode, hrest, rfl⟩), .refl _⟩
      | succ i =>
        obtain ⟨hy, u, rest, hu, hrest, rfl⟩ | ⟨hy, hrest⟩ := Obligation.tiersInUse_cons_eq_ok.1 h
        · obtain ⟨tiers', htiers', hperm⟩ := ih hx (Nat.lt_of_succ_lt_succ hi) hrest
          exact ⟨u :: tiers', Obligation.tiersInUse_cons_eq_ok.2
            (.inl ⟨hy, u, tiers', hu, htiers', rfl⟩), (hperm.cons u).trans (.swap _ _ _)⟩
        · obtain ⟨tiers', htiers', hperm⟩ := ih hx (Nat.lt_of_succ_lt_succ hi) hrest
          exact ⟨tiers', Obligation.tiersInUse_cons_eq_ok.2 (.inr ⟨hy, htiers'⟩), hperm⟩

theorem tiersIsolated_perm {ds ds' bs : List AssetTier} (h : ds.Perm ds') :
    TiersIsolated ds bs ↔ TiersIsolated ds' bs := by
  constructor
  · rintro ⟨h1, h2, h3, h4, h5⟩
    exact ⟨by rwa [← h.count_eq, ← h.length_eq], h2, by rwa [← h.count_eq],
      by rwa [← h.count_eq], h5⟩
  · rintro ⟨h1, h2, h3, h4, h5⟩
    exact ⟨by rwa [h.count_eq, h.length_eq], h2, by rwa [h.count_eq],
      by rwa [h.count_eq], h5⟩

end Tiers

theorem depositInSlot_isOk {i : ℕ} (hd : o'.deposits[i]? = some d) :
    (∃ booked, (do
      let d ← unwrap o'.deposits[i]?
      let d ← d.deposit amount
      validateObligationAssetTiers { o' with deposits := o'.deposits.set i d }.markStale
      (pure (r'.markStale, { o' with deposits := o'.deposits.set i d }.markStale, d.marketValueSf) :
        Result (Reserve × Obligation × Fraction))) = .ok booked) ↔
      ∃ total : U64, (total : ℕ) = d.depositedAmount + amount ∧ validateObligationAssetTiers
        { o' with deposits := o'.deposits.set i { d with depositedAmount := total } } = .ok () := by
  simp only [hd, ObligationCollateral.deposit, bind_eq_ok, unwrap_eq_ok, okOr_eq_ok,
    Word.checkedAdd_eq_some, pure_eq_ok]
  constructor
  · rintro ⟨-, d', hd', d₁, ⟨total, htotal, rfl⟩, _, hvalid, -⟩
    obtain rfl := Option.some.inj hd'
    exact ⟨total, htotal, hvalid⟩
  · rintro ⟨total, htotal, hvalid⟩
    exact ⟨_, d, rfl, _, ⟨total, htotal, rfl⟩, (), hvalid, rfl⟩

theorem updateOnNewDeposit_isOk {total : Option U64} {count : ℕ}
    (hgroup : ∀ g, group = some g → ∃ j, g.getIndex = .ok j)
    (hroom : ∀ g j n, group = some g → g.TakesCollateral key count check → g.getIndex = .ok j →
      total = some n → (r.debtInGroup j + n : ℕ) < 2 ^ 64) :
    (∃ p, updateElevationGroupDebtTrackersOnNewDeposit total d count group key r check = .ok p) ↔
      ∀ g, group = some g → g.TakesCollateral key count check ∧ total.isSome := by
  cases group with
  | none => exact ⟨fun _ _ ↦ nofun, fun _ ↦ ⟨_, rfl⟩⟩
  | some g =>
    obtain ⟨j, hj⟩ := hgroup g rfl
    simp only [updateElevationGroupDebtTrackersOnNewDeposit, bind_eq_ok, require_eq_ok, okOr_eq_ok,
      Word.add_eq_ok, pure_eq_ok]
    constructor
    · rintro ⟨-, -, hkey, -, hcount, j', -, n, rfl, -⟩ _ ⟨⟩
      exact ⟨⟨hkey, hcount⟩, rfl⟩
    · intro h
      obtain ⟨htakes, hsome⟩ := h g rfl
      obtain ⟨n, hn⟩ := Option.isSome_iff_exists.1 hsome
      exact ⟨_, (), htakes.1, (), htakes.2, j, hj, n, hn, ⟨_, hroom g j n rfl htakes hj hn⟩, rfl,
        rfl⟩

theorem getBorrowedAmountIfSingleToken_isSome {total : Option U64}
    (h : o.getBorrowedAmountIfSingleToken = .ok total) : total.isSome ↔ ¬ 1 < o.borrowsCount := by
  unfold Obligation.getBorrowedAmountIfSingleToken at h
  split at h
  · next hcount =>
    obtain rfl := pure_eq_ok.1 h
    exact ⟨nofun, fun hne ↦ absurd hcount hne⟩
  · next hcount =>
    simp only [bind_eq_ok, pure_eq_ok] at h
    obtain ⟨-, -, n, -, rfl⟩ := h
    exact ⟨fun _ ↦ hcount, fun _ ↦ rfl⟩

/-- A slot that is found keeps the tiers, so that only the amount has to fit. -/
theorem validate_addedTo {i : ℕ} {amount' : U64} (h : DepositAccounts market r o)
    (hd : o.deposits[i]? = some d) (hle : d.depositedAmount ≤ amount') :
    validateObligationAssetTiers
      { o with deposits := o.deposits.set i { d with depositedAmount := amount' } } = .ok () := by
  obtain ⟨deposits, borrows, hdeposits, hborrows, hisolated⟩ :=
    validateObligationAssetTiers_eq_ok.1 h.tiers
  refine validateObligationAssetTiers_eq_ok.2 ⟨deposits, borrows, ?_, hborrows, hisolated⟩
  rw [← hdeposits]
  refine tiersInUse_set_same hd (Bool.decide_congr ?_)
  refine and_congr_right fun hne ↦ ?_
  have hheld := h.slots.deposits.held d (List.mem_of_getElem? hd) hne
  exact ⟨fun _ ↦ hheld, fun hpos ↦ lt_of_lt_of_le hpos hle⟩

theorem validate_opened {i : ℕ} {total : U64} {free : ObligationCollateral} (tier : AssetTier)
    (h : DepositAccounts market r o)
    (hfree : o.deposits[i]? = some free) (hzero : free.depositReserve = 0)
    (hkey : d.depositReserve ≠ 0) (hpos : 0 < total) :
    validateObligationAssetTiers { o with
        deposits := o.deposits.set i { d with depositedAmount := total }
        depositsAssetTiers := o.depositsAssetTiers.set i tier.toU8 } = .ok () ↔
      ∀ deposits borrows, o.getDepositAssetTiers = .ok deposits →
        o.getBorrowsAssetTiers = .ok borrows → TiersIsolated (tier :: deposits) borrows := by
  obtain ⟨deposits, borrows, hdeposits, hborrows, -⟩ :=
    validateObligationAssetTiers_eq_ok.1 h.tiers
  obtain ⟨tiers, htiers, hperm⟩ := tiersInUse_open { d with depositedAmount := total }
    hfree (by simp [hzero]) (by simp [hkey, hpos]) (tryFrom_toU8 tier)
    (h.slots.deposits.tagged.1 ▸ (List.getElem?_eq_some_iff.1 hfree).1) hdeposits
  rw [validateObligationAssetTiers_eq_ok]
  constructor
  · rintro ⟨ds, bs, hds, hbs, hisolated⟩ ds' bs' hds' hbs'
    obtain rfl := Except.ok.inj (hdeposits.symm.trans hds')
    obtain rfl := Except.ok.inj (htiers.symm.trans hds)
    obtain rfl := Except.ok.inj (hbs'.symm.trans hbs)
    exact (tiersIsolated_perm hperm).1 hisolated
  · intro hisolated
    exact ⟨tiers, borrows, htiers, hborrows,
      (tiersIsolated_perm hperm).2 (hisolated deposits borrows hdeposits hborrows)⟩

theorem openedSlot_isOk {i : ℕ} {total : Option U64} {count : ℕ}
    {free c : ObligationCollateral} (tier : AssetTier) (h : DepositAccounts market r o)
    (hfree : o.deposits[i]? = some free) (hzero : free.depositReserve = 0) (hkey : key ≠ 0)
    (hamount : amount ≠ 0)
    (hinit : updateElevationGroupDebtTrackersOnNewDeposit total (.new key) count group key r check =
      .ok (c, r')) {opened : Obligation} (hopened : opened = { o with
        deposits := o.deposits.set i c
        depositsAssetTiers := o.depositsAssetTiers.set i tier.toU8 }) :
    (∃ booked, (do
      let d ← unwrap opened.deposits[i]?
      let d ← d.deposit amount
      validateObligationAssetTiers
        { opened with deposits := opened.deposits.set i d }.markStale
      (pure (r'.markStale, { opened with deposits := opened.deposits.set i d }.markStale,
        d.marketValueSf) : Result (Reserve × Obligation × Fraction))) = .ok booked) ↔
      ∀ deposits borrows, o.getDepositAssetTiers = .ok deposits →
        o.getBorrowsAssetTiers = .ok borrows → TiersIsolated (tier :: deposits) borrows := by
  subst hopened
  have hlt := (List.getElem?_eq_some_iff.1 hfree).1
  obtain ⟨hreserve, hempty⟩ : c.depositReserve = key ∧ c.depositedAmount = 0 := by
    rcases updateOnNewDeposit_spec hinit with ⟨-, rfl, -⟩ |
      ⟨_, _, n, _, -, -, -, -, -, rfl, -⟩ <;> exact ⟨rfl, rfl⟩
  rw [depositInSlot_isOk (List.getElem?_set_self hlt)]
  simp only [List.set_set]
  have hpos : 0 < amount := Fin.pos_iff_ne_zero.2 hamount
  have hvalid := validate_opened tier h hfree hzero (hreserve.trans_ne hkey) hpos
  constructor
  · rintro ⟨added, hadded, hok⟩
    obtain rfl : added = amount := by
      rw [hempty] at hadded
      exact Fin.ext (hadded.trans (Nat.zero_add _))
    exact hvalid.1 hok
  · intro hisolated
    refine ⟨amount, ?_, hvalid.2 hisolated⟩
    rw [hempty]
    exact (Nat.zero_add _).symm

theorem bookDeposit_isOk (h : DepositAccounts market r o) (hamount : amount ≠ 0)
    (hgroup : getElevationGroup o.elevationGroup market = .ok group)
    (hfits : o.DebtFits r key group check) :
    (∃ booked, bookDeposit r o amount key group check = .ok booked) ↔
      o.TakesDeposit r amount key group check := by
  obtain ⟨tier, htier⟩ := h.tier
  obtain ⟨total, htotal⟩ := getBorrowedAmountIfSingleToken_isOk.2 hfits.rounded
  have hindex : ∀ g, group = some g → ∃ j, g.getIndex = .ok j :=
    fun g hg ↦ h.market.exists_getIndex (hg ▸ hgroup)
  rw [bookDeposit, htotal, ok_bind, htier, ok_bind]
  unfold Obligation.findOrAddCollateralToDeposits Obligation.TakesDeposit Obligation.OpensSlot
  split
  · next j hj =>
    obtain ⟨hlt, hkey, -⟩ := List.findIdx?_eq_some_iff_getElem.1 hj
    have hd : o.deposits[j]? = some o.deposits[j] := List.getElem?_eq_getElem hlt
    refine (depositInSlot_isOk hd).trans ?_
    rw [List.find?_eq_bind_findIdx?_getElem?, hj, Option.bind_some, hd]
    constructor
    · rintro ⟨added, hadded, -⟩
      exact .inl ⟨_, rfl, hadded ▸ added.isLt⟩
    · rintro (⟨d, hfound, hlt⟩ | ⟨⟨hother, -⟩, -⟩)
      · obtain rfl := Option.some.inj hfound
        refine ⟨⟨_, hlt⟩, rfl, validate_addedTo h hd ?_⟩
        exact Fin.le_def.2 (Nat.le_add_right _ _)
      · exact absurd (of_decide_eq_true hkey) (hother _ (List.getElem_mem hlt))
  · next hnone =>
    have hother : ∀ d ∈ o.deposits, d.depositReserve ≠ key := by
      simpa using List.findIdx?_eq_none_iff.1 hnone
    have hfind : o.deposits.find? (·.depositReserve = key) = none := by
      rw [List.find?_eq_bind_findIdx?_getElem?, hnone, Option.bind_none]
    simp only [hfind, reduceCtorEq, false_and, exists_false, false_or]
    split
    · next j hj =>
      obtain ⟨hlt, hzero, -⟩ := List.findIdx?_eq_some_iff_getElem.1 hj
      have hzero : o.deposits[j].depositReserve = 0 := of_decide_eq_true hzero
      have hfree : o.deposits[j]? = some o.deposits[j] := List.getElem?_eq_getElem hlt
      have hkey : key ≠ 0 := fun h0 ↦ hother _ (List.getElem_mem hlt) (hzero.trans h0.symm)
      have hopens : o.OpensSlot key := ⟨hother, _, List.getElem_mem hlt, hzero⟩
      have hgranted : (∃ p, updateElevationGroupDebtTrackersOnNewDeposit total (.new key)
          o.depositsCount group key r check = .ok p) ↔ _ :=
        updateOnNewDeposit_isOk hindex
          fun g j n hg htakes hj hn ↦ hfits.counted hopens g j n hg htakes hj (hn ▸ htotal)
      rw [getBorrowedAmountIfSingleToken_isSome htotal] at hgranted
      -- the slot once it is opened
      have hslot {c : ObligationCollateral} {r₁ : Reserve}
          (hinit : updateElevationGroupDebtTrackersOnNewDeposit total (.new key) o.depositsCount
            group key r check = .ok (c, r₁)) :=
        openedSlot_isOk tier h hfree hzero hkey hamount hinit rfl
      constructor
      · rintro ⟨booked, hbooked⟩
        obtain ⟨⟨o₁, i, r₁⟩, hopen, hbooked⟩ := bind_eq_ok.1 hbooked
        obtain ⟨⟨c, r₂⟩, hinit, hpure⟩ := bind_eq_ok.1 hopen
        simp only [pure_eq_ok, Prod.mk.injEq] at hpure
        obtain ⟨rfl, rfl, rfl⟩ := hpure
        exact ⟨hopens, hgranted.1 ⟨_, hinit⟩, fun tier' ds bs htier' ↦ by
          obtain rfl := Except.ok.inj (htier.symm.trans htier')
          exact (hslot hinit).1 ⟨booked, hbooked⟩ ds bs⟩
      · rintro ⟨-, hgroups, htiers⟩
        obtain ⟨⟨c, r₁⟩, hinit⟩ := hgranted.2 hgroups
        obtain ⟨booked, hbooked⟩ := (hslot hinit).2 fun ds bs ↦ htiers tier ds bs htier
        exact ⟨booked, bind_eq_ok.2 ⟨_, bind_eq_ok.2 ⟨_, hinit, rfl⟩, hbooked⟩⟩
    · next hfull =>
      have hused : ∀ d ∈ o.deposits, d.depositReserve ≠ 0 := by
        simpa using List.findIdx?_eq_none_iff.1 hfull
      constructor
      · rintro ⟨booked, hbooked⟩
        cases hbooked
      · rintro ⟨⟨-, d, hd, hzero⟩, -⟩
        exact absurd hzero (hused d hd)

end Booking

section Deposits

theorem getElevationGroup_returns {id : U8} : Returns (getElevationGroup id market) := by
  have hfound : Returns (market.getElevationGroup id) := by
    unfold LendingMarket.getElevationGroup
    split
    · exact returns_pure
    · split
      · exact returns_pure
      · exact returns_err
  refine returns_bind.2 ⟨returns_require, fun _ _ ↦ returns_bind.2 ⟨hfound, fun group _ ↦ ?_⟩⟩
  cases group with
  | none => exact returns_pure
  | some g => simp only [returns_bind, returns_require, returns_pure, implies_true, and_self]

theorem requireFresh_returns {u : LastUpdate} {status : PriceStatusFlags} :
    Returns (u.requireFresh slot status e) := by
  refine returns_bind.2 ⟨?_, fun _ _ ↦ returns_require⟩
  unfold LastUpdate.isStale
  split
  · exact returns_pure
  · exact returns_bind.2 ⟨returns_okOr, fun _ _ ↦ returns_pure⟩

theorem checkDeposit_returns : Returns (checkDeposit market r o slot amount) := by
  simp only [checkDeposit, checkSameElevationGroup, returns_bind, returns_require,
    requireFresh_returns, getElevationGroup_returns, returns_pure, implies_true, and_self]

/-- What a deposit passes before it is booked: an amount, fresh accounts, a reserve that the
obligation may use in its group, and no deleveraging of an obligation that takes worthless
collateral. -/
structure PassesDepositChecks (market : LendingMarket) (r : Reserve) (o : Obligation)
    (slot amount : U64) (group : Option ElevationGroup) : Prop where
  amount : amount ≠ 0
  reserve : r.lastUpdate.stale = false ∧ r.lastUpdate.slot = slot
  obligation : o.lastUpdate.stale = false ∧ o.lastUpdate.slot = slot
  usable : ¬ (0 < r.config.disableUsageAsCollOutsideEmode ∧
    o.elevationGroup = elevationGroupNone ∧ Fraction.zero < o.borrowFactorAdjustedDebtValueSf)
  listed : o.elevationGroup = elevationGroupNone ∨ o.elevationGroup ∈ r.config.elevationGroups
  found : getElevationGroup o.elevationGroup market = .ok group
  unmarked : (getMaxLtvAndLiquidationThreshold r group).2 = 0 → o.isMarkedForDeleveraging = false

theorem checkDeposit_eq_ok : checkDeposit market r o slot amount = .ok group ↔
    PassesDepositChecks market r o slot amount group := by
  simp only [checkDeposit, checkSameElevationGroup, bind_eq_ok, require_eq_ok, pure_eq_ok,
    LastUpdate.requireFresh_eq_ok]
  constructor
  · rintro ⟨-, hamount, -, ⟨hstale, hslot, -⟩, -, ⟨hstale', hslot', -⟩, -, husable, -, hlisted, g,
      hgroup, -, hunmarked, rfl⟩
    exact ⟨hamount, ⟨hstale, hslot⟩, ⟨hstale', hslot'⟩, husable, hlisted, hgroup, hunmarked⟩
  · intro h
    exact ⟨(), h.amount, (), ⟨h.reserve.1, h.reserve.2, PriceStatusFlags.contains_none _⟩, (),
      ⟨h.obligation.1, h.obligation.2, PriceStatusFlags.contains_none _⟩, (), h.usable, (),
      h.listed, group, h.found, (), h.unmarked, rfl⟩

theorem checkDeposit_group (h : checkDeposit market r o slot amount = .ok group) :
    getElevationGroup o.elevationGroup market = .ok group := by
  simp only [checkDeposit, bind_eq_ok, pure_eq_ok] at h
  obtain ⟨-, -, -, -, -, -, -, -, -, -, group', hgroup, -, -, rfl⟩ := h
  exact hgroup

theorem findOrAddCollateral_value {tier : AssetTier} {total : Option U64} {count i : ℕ}
    (h : o.findOrAddCollateralToDeposits key tier
      (fun d ↦ updateElevationGroupDebtTrackersOnNewDeposit total d count group key r check) r =
        .ok (o', i, r')) (hd : o'.deposits[i]? = some d) :
    d.marketValueSf = o.collateralValue key := by
  rw [Obligation.collateralValue, List.find?_eq_bind_findIdx?_getElem?]
  unfold Obligation.findOrAddCollateralToDeposits at h
  split at h
  · next j hj =>
    simp only [pure_eq_ok, Prod.mk.injEq] at h
    obtain ⟨rfl, rfl, rfl⟩ := h
    rw [hj, Option.bind_some, hd]
    rfl
  · next hnone =>
    rw [hnone]
    split at h
    · next j hj =>
      simp only [bind_eq_ok, pure_eq_ok, Prod.exists, Prod.mk.injEq] at h
      obtain ⟨d', r₁, hinit, rfl, rfl, rfl⟩ := h
      have hlt := (List.findIdx?_eq_some_iff_getElem.1 hj).1
      rw [List.getElem?_set_self hlt, Option.some.injEq] at hd
      subst hd
      rcases updateOnNewDeposit_spec hinit with ⟨-, rfl, -⟩ |
        ⟨_, _, n, _, -, -, -, -, -, rfl, -⟩ <;> rfl
    · rw [err_ne_ok] at h
      exact h.elim

theorem bookDeposit_spec (h : bookDeposit r o amount key group check = .ok (r', o', previous)) :
    (∃ r₁, r.Retracked r₁ ∧ r' = r₁.markStale) ∧ o'.depositedValueSf = o.depositedValueSf ∧
      o'.borrowFactorAdjustedDebtValueSf = o.borrowFactorAdjustedDebtValueSf ∧
      previous = o.collateralValue key := by
  simp only [bookDeposit, bind_eq_ok, pure_eq_ok, unwrap_eq_ok, ObligationCollateral.deposit,
    okOr_eq_ok, Prod.exists, Prod.mk.injEq] at h
  obtain ⟨total, -, tier, -, o₁, i, r₁, hfind, d, hd, -, ⟨n, -, rfl⟩, -, -, rfl, rfl, rfl⟩ := h
  have hvalue : d.marketValueSf = o.collateralValue key := findOrAddCollateral_value hfind hd
  rcases findOrAddCollateral_spec hfind with ⟨rfl, rfl, -⟩ | ⟨-, -, d₀, hinit, rfl⟩
  · exact ⟨⟨r₁, .refl _, rfl⟩, rfl, rfl, hvalue⟩
  · refine ⟨⟨r₁, ?_, rfl⟩, rfl, rfl, hvalue⟩
    rcases updateOnNewDeposit_spec hinit with ⟨-, -, rfl⟩ | ⟨g, j, _, m, -, -, -, -, -, -, rfl⟩
    · exact .refl _
    · exact .setDebtInGroup _ _ _

theorem acceptDeposit_returns
    (h : bookDeposit r o amount key group check = .ok (r', o', previous)) :
    Returns (acceptDeposit market amount (r', o', previous)) ↔
      r.ValuesCollateral amount ∧ DepositFits o.depositedValueSf o.borrowFactorAdjustedDebtValueSf
        (o.collateralValue key) market.minNetValueInObligationSf
        (r.collateralValueBits amount) := by
  obtain ⟨⟨_, ⟨_, _, rfl⟩, rfl⟩, hdeposited, hdebt, rfl⟩ := bookDeposit_spec h
  have hvalued : (∃ value, depositValue r amount = .ok value ∧
      DepositFits o.depositedValueSf o.borrowFactorAdjustedDebtValueSf (o.collateralValue key)
        market.minNetValueInObligationSf value.bits) ↔
      r.ValuesCollateral amount ∧ DepositFits o.depositedValueSf o.borrowFactorAdjustedDebtValueSf
        (o.collateralValue key) market.minNetValueInObligationSf
        (r.collateralValueBits amount) := by
    simp only [depositValue_eq_ok]
    constructor
    · rintro ⟨value, ⟨hvalues, hbits⟩, hfits⟩
      exact ⟨hvalues, hbits ▸ hfits⟩
    · rintro ⟨hvalues, hfits⟩
      exact ⟨⟨_, (Nat.div_le_self _ _).trans_lt hvalues.priced⟩, ⟨hvalues, rfl⟩, hfits⟩
  rw [← hvalued]
  simp only [acceptDeposit, depositValue, uncoded_collateralExchangeRate.returns_bind,
    uncoded_fractionCollateralToLiquidity.returns_bind, returns_bind, returns_pure, implies_true,
    and_true, postDepositObligationInvariants_returns, hdeposited, hdebt, bind_eq_ok]
  constructor
  · rintro ⟨rate, hrate, liquidity, hliquidity, value, hvalue, hfits⟩
    exact ⟨value, ⟨rate, hrate, liquidity, hliquidity, hvalue⟩, hfits⟩
  · rintro ⟨value, ⟨rate, hrate, liquidity, hliquidity, hvalue⟩, hfits⟩
    exact ⟨rate, hrate, liquidity, hliquidity, value, hvalue, hfits⟩

/-- A deposit returns or is rejected, unless it passes the first checks and its debt does not fit,
or it finds its slot and its values do not. -/
theorem depositObligationCollateral_returns_iff (h : DepositAccounts market r o) :
    Returns (depositObligationCollateral market r o slot amount key check) ↔
      ∀ group, PassesDepositChecks market r o slot amount group →
        o.DebtFits r key group check ∧
        (o.TakesDeposit r amount key group check →
          r.ValuesCollateral amount ∧
          DepositFits o.depositedValueSf o.borrowFactorAdjustedDebtValueSf (o.collateralValue key)
            market.minNetValueInObligationSf (r.collateralValueBits amount)) := by
  rw [depositObligationCollateral_eq, returns_bind]
  simp only [← checkDeposit_eq_ok]
  constructor
  · rintro ⟨-, hreturns⟩ group hgroup
    obtain ⟨hbook, haccept⟩ := returns_bind.1 (hreturns group hgroup)
    have hdebt := (bookDeposit_returns h (checkDeposit_group hgroup)).1 hbook
    refine ⟨hdebt, fun htakes ↦ ?_⟩
    obtain ⟨⟨r', o', previous⟩, hbooked⟩ := (bookDeposit_isOk h (checkDeposit_eq_ok.1 hgroup).amount
      (checkDeposit_group hgroup) hdebt).2 htakes
    exact (acceptDeposit_returns hbooked).1 (haccept _ hbooked)
  · intro hfits
    refine ⟨checkDeposit_returns, fun group hgroup ↦ returns_bind.2 ?_⟩
    obtain ⟨hdebt, hvalue⟩ := hfits group hgroup
    refine ⟨(bookDeposit_returns h (checkDeposit_group hgroup)).2 hdebt, ?_⟩
    rintro ⟨r', o', previous⟩ hbooked
    exact (acceptDeposit_returns hbooked).2
      (hvalue ((bookDeposit_isOk h (checkDeposit_eq_ok.1 hgroup).amount
      (checkDeposit_group hgroup) hdebt).1 ⟨_, hbooked⟩))

end Deposits

namespace World

variable {w₀ w : World} {clock : Clock}

/-- Every reserve's asset tier is one of the program's. -/
def TiersDecoded (w : World) : Prop :=
  ∀ k r, w.reserves k = some r → ∃ tier, r.config.getAssetTier = .ok tier

theorem Genesis.tiersDecoded (h : w.Genesis) : w.TiersDecoded := by
  intro k r hr
  rcases (h.reserve k r hr).config with hconfig | hconfig
  · exact hconfig ▸ ⟨.regular, rfl⟩
  · simp only [validateReserveConfig, bind_eq_ok, require_eq_ok] at hconfig
    obtain ⟨-, -, -, -, -, -, -, -, -, -, -, -, -, -, -, -, -, -, -, -, -, -, -, -, hconfig⟩ :=
      hconfig
    split at hconfig
    · simp only [bind_eq_ok, require_eq_ok] at hconfig
      obtain ⟨-, -, -, -, -, -, tier, htier, -⟩ := hconfig
      exact ⟨tier, htier⟩
    · simp only [bind_eq_ok] at hconfig
      obtain ⟨tier, htier, -⟩ := hconfig
      exact ⟨tier, htier⟩

theorem Run.market_validated {Admitted : World → Clock → Instruction → Prop}
    (h : Run Admitted w₀ w) (hw : w₀.lendingMarket.Validated) : w.lendingMarket.Validated := by
  apply Transition.Preserves.run (P := fun w ↦ LendingMarket.Validated w.lendingMarket) _ hw h
  rintro w w' hw ⟨clock, ix, -, hproc⟩
  exact process_lendingMarket hproc ▸ hw

theorem Run.tiersDecoded {Admitted : World → Clock → Instruction → Prop}
    (h : Run Admitted w₀ w) (hw : w₀.TiersDecoded) : w.TiersDecoded := by
  apply Transition.Preserves.run (P := TiersDecoded) _ hw h
  rintro w w' hw ⟨clock, ix, -, hproc⟩ k r' hr'
  rcases (process_evolve hproc).value_rev hr' with ⟨r, hr, hev⟩
  rw [hev.settings]
  exact hw k r hr

/-- The accounts of a deposit into the first obligation, with the reserve refreshed. -/
def depositAccounts (w : World) (clock : Clock) (key : Pubkey) :
    Result (Reserve × Obligation) := do
  let reserve ← w.loadReserve key
  let obligation ← w.loadObligation 0
  let reserve ← Klend.refreshReserve reserve clock none w.lendingMarket.referralFeeBps
  pure (reserve, obligation)

theorem Run.depositAccounts {Admitted : World → Clock → Instruction → Prop} (hw : w₀.Genesis)
    (hrun : Run Admitted w₀ w) (h : w.depositAccounts clock key = .ok (r, o)) :
    DepositAccounts w.lendingMarket r o := by
  simp only [World.depositAccounts, bind_eq_ok, pure_eq_ok, Prod.mk.injEq] at h
  obtain ⟨r₀, hr₀, o₀, ho₀, r₁, hr₁, rfl, rfl⟩ := h
  have hmem := List.mem_of_getElem? (loadObligation_eq_ok.1 ho₀).1
  have hisolated := hrun.isolated hw.isolated
  constructor
  · exact hrun.market_validated hw.market
  · rw [Reserve.refreshReserve_settings hr₁]
    exact hrun.tiersDecoded hw.tiersDecoded _ _ (loadReserve_eq_ok.1 hr₀).2.1
  · exact hisolated.obligations _ hmem
  · exact hisolated.valid _ hmem

instance {amount : ℕ} : Decidable (r.ValuesCollateral amount) :=
  decidable_of_iff (_ ∧ _ ∧ _ ∧ _ ∧ _)
    ⟨fun ⟨h1, h2, h3, h4, h5⟩ ↦ ⟨h1, h2, h3, h4, h5⟩, fun ⟨h1, h2, h3, h4, h5⟩ ↦
      ⟨h1, h2, h3, h4, h5⟩⟩

instance {deposited debt previous least : Fraction} {value : ℕ} :
    Decidable (DepositFits deposited debt previous least value) :=
  decidable_of_iff (_ ∧ _ ∧ _ ∧ _ ∧ _ ∧ _)
    ⟨fun ⟨h1, h2, h3, h4, h5, h6⟩ ↦ ⟨h1, h2, h3, h4, h5, h6⟩, fun ⟨h1, h2, h3, h4, h5, h6⟩ ↦
      ⟨h1, h2, h3, h4, h5, h6⟩⟩

/-- A borrower adds to the collateral of a loan at 85% of it. -/
theorem depositObligationCollateral_returns_underwaterLoan :
    ∃ r o, underwaterLoan.depositAccounts ⟨3, 10⟩ 6 = .ok (r, o) ∧
      0 < o.borrowFactorAdjustedDebtValueSf.bits ∧ 0 < r.collateralValueBits 1000 ∧
      Returns (Klend.depositObligationCollateral underwaterLoan.lendingMarket r o 3 1000 6
        .perform) := by
  rcases exists_eq_ok (x := underwaterLoan.depositAccounts ⟨3, 10⟩ 6)
    (p := fun x ↦ decide ((0 < x.2.borrowFactorAdjustedDebtValueSf.bits ∧
        0 < x.1.collateralValueBits 1000) ∧ (∃ d ∈ x.2.deposits, d.depositReserve = 6) ∧
      ((x.2.borrows.map (·.borrowedAmountSf.bits)).sum + (2 ^ 60 - 1)) / 2 ^ 60 < 2 ^ 64 ∧
      x.1.ValuesCollateral 1000 ∧
      DepositFits x.2.depositedValueSf x.2.borrowFactorAdjustedDebtValueSf (x.2.collateralValue 6)
        underwaterLoan.lendingMarket.minNetValueInObligationSf (x.1.collateralValueBits 1000)))
    (by decide) with ⟨⟨r, o⟩, haccounts, hfacts⟩
  obtain ⟨⟨hdebt, hworth⟩, ⟨d, hd, hkey⟩, hrounded, hvalues, hfits⟩ := of_decide_eq_true hfacts
  have hrun : Run Anything plainMarket underwaterLoan := run_after _ _ fun _ _ _ ↦ trivial
  have hkept := hrun.depositAccounts plainMarket_genesis haccounts
  refine ⟨r, o, haccounts, hdebt, hworth, (depositObligationCollateral_returns_iff hkept).2 ?_⟩
  intro group _
  exact ⟨⟨fun _ ↦ hrounded, fun hopens ↦ absurd hkey (hopens.1 d hd)⟩, fun _ ↦ ⟨hvalues, hfits⟩⟩

/-- A depositor of a token of 18 decimals. -/
def dustDepositor : World :=
  dustMarket.after [(⟨1, 10⟩, .refreshReserve 7 halfPrice),
    (⟨1, 10⟩, .depositReserveLiquidity 7 1000000), (⟨1, 10⟩, .initObligation 0 7 0),
    (⟨1, 10⟩, .refreshReserve 7 halfPrice), (⟨1, 10⟩, .refreshObligation 0 [] [])]

/-- The first unit deposited is worth nothing, and the debt is divided by it. -/
theorem dustDepositor_aborts : dustMarket.Genesis ∧ Run Anything dustMarket dustDepositor ∧
    ∃ r o, dustDepositor.depositAccounts ⟨1, 10⟩ 7 = .ok (r, o) ∧
      (o.lastUpdate.stale = false ∧ o.lastUpdate.slot = 1) ∧
      (r.lastUpdate.stale = false ∧ r.lastUpdate.slot = 1) ∧
      r.lastUpdate.priceStatus.contains .allChecks ∧
      ¬ Returns (Klend.depositObligationCollateral dustDepositor.lendingMarket r o 1 1 7
        .perform) := by
  refine ⟨dustMarket_genesis, run_after _ _ fun _ _ _ ↦ trivial, ?_⟩
  rcases exists_eq_ok (x := dustDepositor.depositAccounts ⟨1, 10⟩ 7)
    (p := fun x ↦ decide ((x.2.lastUpdate.stale = false ∧ x.2.lastUpdate.slot = 1) ∧
        (x.1.lastUpdate.stale = false ∧ x.1.lastUpdate.slot = 1) ∧
        x.1.lastUpdate.priceStatus.contains .allChecks) &&
      failsWith (Klend.depositObligationCollateral dustDepositor.lendingMarket x.1 x.2 1 1 7
        .perform) .panic) (by decide) with ⟨⟨r, o⟩, haccounts, hboth⟩
  obtain ⟨hfacts, hfails⟩ := (Bool.and_eq_true _ _).mp hboth
  obtain ⟨hobligation, hreserve, hstatus⟩ := of_decide_eq_true hfacts
  exact ⟨r, o, haccounts, hobligation, hreserve, hstatus,
    not_returns_of_panic (eq_error_of_failsWith hfails)⟩

end World

end Klend
