import Klend.Lending.Repayments
import Klend.Results.BorrowValue
import Klend.Results.GroupPositions
import Klend.Results.ObligationFreshness
import Klend.Results.RepayAndWithdraw
import Klend.Results.Repayments
import Klend.Results.WithdrawalCaps

/-! # The checks after a repayment

As long as a debt is worth no more than at the refresh of its obligation, the checks
after a repayment stop it only for the dust it leaves, or for a ratio that does not fit.
-/

namespace Klend

variable {market : LendingMarket} {r r' : Reserve} {o o' : Obligation} {amount n slot : U64}
  {clock : Clock} {key : Pubkey} {rs rs' : Reserves} {iter iter' : List Pubkey} {i : ℕ}
  {b : ObligationLiquidity} {settle debt mv bfMv least : Fraction} {inGroup : Bool}

/-- At the reserve's price and factor the debt is worth no more than at the refresh. -/
def ObligationLiquidity.WorthAtMost (b : ObligationLiquidity) (r : Reserve) (inGroup : Bool) :
    Prop :=
  ∃ mv bfMv, calculateObligationLiquidityMarketValue r b = .ok mv ∧ mv ≤ b.marketValueSf ∧
    mv.mul (r.borrowFactorF inGroup) = .ok bfMv ∧ bfMv ≤ b.borrowFactorAdjustedMarketValueSf

section Values

theorem Fraction.exists_mul_le {x x' y y' z : Fraction} (h : x.mul y = .ok z) (hx : x' ≤ x)
    (hy : y' ≤ y) : ∃ z', x'.mul y' = .ok z' ∧ z' ≤ z := by
  have hbits : x'.bits * y'.bits / 2 ^ 60 ≤ z.bits := by
    rw [Fraction.mul_eq_ok.1 h]
    exact Nat.div_le_div_right (Nat.mul_le_mul hx hy)
  exact ⟨⟨_, hbits.trans_lt z.isLt⟩, Fraction.mul_eq_ok.2 rfl, hbits⟩

theorem exists_marketValue_le (h : calculateMarketValueFromLiquidityAmount r debt = .ok mv)
    (hdecimals : r'.liquidity.mintDecimals = r.liquidity.mintDecimals)
    (hprice : r'.liquidity.marketPriceSf ≤ r.liquidity.marketPriceSf) (hle : settle ≤ debt) :
    ∃ mv', calculateMarketValueFromLiquidityAmount r' settle = .ok mv' ∧ mv' ≤ mv := by
  obtain ⟨hfits, hlt, hmv⟩ := calculateMarketValueFromLiquidityAmount_eq_ok.1 h
  have hscaled : settle.bits * r'.liquidity.marketPriceSf.bits / 2 ^ 60 ≤
      debt.bits * r.liquidity.marketPriceSf.bits / 2 ^ 60 :=
    Nat.div_le_div_right (Nat.mul_le_mul hle hprice)
  have hbits : settle.bits * r'.liquidity.marketPriceSf.bits / 2 ^ 60 /
      10 ^ (r'.liquidity.mintDecimals : ℕ) ≤ mv.bits := by
    rw [hmv, hdecimals]
    exact Nat.div_le_div_right hscaled
  exact ⟨⟨_, hbits.trans_lt mv.isLt⟩, calculateMarketValueFromLiquidityAmount_eq_ok.2
    ⟨hdecimals ▸ hfits, hscaled.trans_lt hlt, rfl⟩, hbits⟩

theorem Fraction.exists_div_le {x x' y z : Fraction} (h : x.div y = .ok z) (hle : x' ≤ x) :
    ∃ z', x'.div y = .ok z' ∧ z' ≤ z := by
  obtain ⟨hne, hz⟩ := Fraction.div_eq_ok.1 h
  have hbits : x'.bits * 2 ^ 60 / y.bits ≤ z.bits := by
    rw [hz]
    exact Nat.div_le_div_right (Nat.mul_le_mul_right _ hle)
  exact ⟨⟨_, hbits.trans_lt z.isLt⟩, Fraction.div_eq_ok.2 ⟨hne, rfl⟩, hbits⟩

/-- Where the value repaid is covered by the totals, the checks stop dust and a ratio that does not
fit. -/
theorem postRepayObligationInvariants_iff {slotMv : Fraction}
    (hmv : calculateMarketValueFromLiquidityAmount r settle = .ok mv)
    (hbfMv : mv.mul (r.borrowFactorF (o.elevationGroup ≠ elevationGroupNone)) = .ok bfMv)
    (hdebt : bfMv ≤ o.borrowFactorAdjustedDebtValueSf)
    (hslot : slotMv = Fraction.zero ∨ mv ≤ slotMv) :
    postRepayObligationInvariants settle o r slotMv least = .ok () ↔
      (mv < slotMv → least.bits ≤ slotMv.bits - mv.bits) ∧
      (o.depositedValueSf = Fraction.zero ∨ ∃ ltv, o.loanToValue = .ok ltv) := by
  simp only [postRepayObligationInvariants, hmv, hbfMv, ok_bind, bind_eq_ok, ite_bind_seq_eq_ok,
    Fraction.sub_eq_ok, checkNetValueRemaining, Fraction.requireDisplaying_eq_ok]
  have hzero : Fraction.zero < o.depositedValueSf ↔ o.depositedValueSf ≠ Fraction.zero := by
    rw [Fraction.lt_iff, ne_eq, Fraction.eq_zero_iff, Fraction.bits_zero, Nat.pos_iff_ne_zero]
  constructor
  · rintro ⟨total, -, hremaining, hltv⟩
    constructor
    · intro hlt
      have hne : slotMv ≠ Fraction.zero := fun hz ↦ absurd (hz ▸ hlt) (Nat.not_lt_zero _)
      obtain ⟨rest, hrest, hdust⟩ := hremaining hne
      rw [Fraction.lt_iff, Fraction.lt_iff, Fraction.bits_zero] at hdust
      rw [Fraction.lt_iff] at hlt
      omega
    · by_cases hdeposited : o.depositedValueSf = Fraction.zero
      · exact .inl hdeposited
      · rw [if_pos (hzero.2 hdeposited)] at hltv
        simp only [bind_eq_ok] at hltv
        obtain ⟨-, -, ltv, hltv, -⟩ := hltv
        exact .inr ⟨ltv, hltv⟩
  · rintro ⟨hdust, hltv⟩
    obtain ⟨total, htotal⟩ : ∃ total : Fraction,
        total.bits + bfMv.bits = o.borrowFactorAdjustedDebtValueSf.bits :=
      ⟨⟨_, (Nat.sub_le _ _).trans_lt (Fraction.isLt _)⟩, Nat.sub_add_cancel hdebt⟩
    refine ⟨total, htotal, ?_, ?_⟩
    · intro hne
      have hle : mv.bits ≤ slotMv.bits := hslot.resolve_left hne
      refine ⟨⟨slotMv.bits - mv.bits, (Nat.sub_le _ _).trans_lt slotMv.isLt⟩,
        Nat.sub_add_cancel hle, ?_⟩
      rintro ⟨hpos, hlt⟩
      rw [Fraction.lt_iff, Fraction.bits_zero] at hpos
      exact absurd (hdust (Nat.lt_of_sub_pos hpos)) (not_le.2 hlt)
    · by_cases hdeposited : o.depositedValueSf = Fraction.zero
      · rw [if_neg (mt hzero.1 (not_not.2 hdeposited))]
        rfl
      · obtain ⟨ltv, hltv⟩ := hltv.resolve_left hdeposited
        rw [if_pos (hzero.2 hdeposited)]
        -- a smaller debt makes no worse LTV
        have hsmaller : total ≤ o.borrowFactorAdjustedDebtValueSf := Nat.le.intro htotal
        obtain ⟨newLtv, hnew, hle⟩ := Fraction.exists_div_le hltv hsmaller
        simp only [bind_eq_ok, require_eq_ok]
        exact ⟨newLtv, hnew, ltv, hltv, hle⟩

end Values

theorem Obligation.loanToValue_isOk :
    (o.depositedValueSf = Fraction.zero ∨ ∃ ltv, o.loanToValue = .ok ltv) ↔
      (o.depositedValueSf ≠ Fraction.zero →
        o.borrowFactorAdjustedDebtValueSf.bits * 2 ^ 60 / o.depositedValueSf.bits < 2 ^ 128) := by
  rw [or_iff_not_imp_left]
  refine imp_congr_right fun hne ↦ ?_
  simp only [Obligation.loanToValue, Fraction.div_eq_ok]
  constructor
  · rintro ⟨ltv, -, hltv⟩
    exact hltv ▸ ltv.isLt
  · intro hlt
    exact ⟨⟨_, hlt⟩, mt Fraction.eq_zero_iff.2 hne, rfl⟩

section Booking

/-- What booking a repayment asks of the clock, the remaining accounts and the reserve's counters:
a time at which the withdrawal cap takes the amount back, for an obligation in a group the reserves
of its collaterals, and room for the amount. -/
structure Reserve.TakesRepayment (r : Reserve) (o : Obligation) (clock : Clock) (n : U64)
    (rs : Reserves) (iter : List Pubkey) : Prop where
  time : ∃ timestamp : U64, ((timestamp : ℕ) : ℤ) = clock.unixTimestamp ∧
    r.config.debtWithdrawalCap.TakesBack n timestamp
  accounts : o.elevationGroup ≠ elevationGroupNone →
    (o.deposits.filter ObligationCollateral.occupied).map (·.depositReserve) <+: iter ∧
    ∀ d ∈ o.deposits, d.depositReserve ≠ 0 → (rs d.depositReserve).isSome
  available : (r.liquidity.availableAmount + n : ℕ) < 2 ^ 64

theorem Clock.timestamp_iff {timestamp : U64} :
    clock.timestamp = .ok timestamp ↔ ((timestamp : ℕ) : ℤ) = clock.unixTimestamp := by
  unfold Clock.timestamp
  split
  · rw [Word.fit_eq_ok]
    omega
  · next hneg =>
    rw [abort_ne_ok, false_iff]
    omega

theorem Reserves.isSome_store (hr : rs key = some r) (k : Pubkey) :
    (rs.store key r' k).isSome = (rs k).isSome := by
  by_cases hk : k = key
  · rw [hk, store_same, hr, Option.isSome_some, Option.isSome_some]
  · rw [store_other hk]

theorem exists_shrinkGroupDebt {g : Fin 32} {ds : List ObligationCollateral} :
    (∃ p, forOccupied ObligationCollateral.occupied (shrinkGroupDebt g n) i rs ds iter = .ok p) ↔
      (ds.filter ObligationCollateral.occupied).map (·.depositReserve) <+: iter ∧
      ∀ d ∈ ds, d.depositReserve ≠ 0 → (rs d.depositReserve).isSome := by
  induction ds generalizing i rs iter with
  | nil => exact ⟨fun _ ↦ ⟨List.nil_prefix, by simp⟩, fun _ ↦ ⟨_, rfl⟩⟩
  | cons d ds ih =>
    constructor
    · rintro ⟨⟨rs', ds'⟩, h⟩
      rcases forOccupied_cons_eq_ok.1 h with ⟨hd, k, ks, rs₁, d₁, ds₁, rfl, hbody, hl, -⟩ |
        ⟨hd, ds₁, hl, -⟩
      · obtain ⟨r, rfl, hr, rfl, -⟩ := shrinkGroupDebt_spec hbody
        obtain ⟨hkeys, hsome⟩ := ih.1 ⟨_, hl⟩
        rw [List.filter_cons_of_pos hd, List.map_cons]
        refine ⟨(List.prefix_cons_inj _).2 hkeys, fun e he hne ↦ ?_⟩
        rcases List.mem_cons.1 he with rfl | he
        · rw [hr, Option.isSome_some]
        · rw [← Reserves.isSome_store hr]
          exact hsome e he hne
      · obtain ⟨hkeys, hsome⟩ := ih.1 ⟨_, hl⟩
        rw [List.filter_cons_of_neg (by simp [hd])]
        refine ⟨hkeys, fun e he hne ↦ ?_⟩
        rcases List.mem_cons.1 he with rfl | he
        · exact absurd hd (by simpa [ObligationCollateral.occupied] using hne)
        · exact hsome e he hne
    · rintro ⟨hkeys, hsome⟩
      have hrest := fun e he ↦ hsome e (List.mem_cons_of_mem d he)
      cases hd : d.occupied with
      | false =>
        rw [List.filter_cons_of_neg (by simp [hd])] at hkeys
        obtain ⟨⟨rs', ds'⟩, hl⟩ := ih.2 ⟨hkeys, hrest⟩
        exact ⟨_, forOccupied_cons_eq_ok.2 (.inr ⟨hd, ds', hl, rfl⟩)⟩
      | true =>
        have hne : d.depositReserve ≠ 0 := by simpa [ObligationCollateral.occupied] using hd
        rw [List.filter_cons_of_pos hd, List.map_cons] at hkeys
        obtain ⟨ks, rfl⟩ := hkeys
        obtain ⟨r, hr⟩ := Option.isSome_iff_exists.1 (hsome d List.mem_cons_self hne)
        have hstored : ∀ e ∈ ds, e.depositReserve ≠ 0 → (rs.store d.depositReserve
            (r.setDebtInGroup g (Word.saturatingSub (r.debtInGroup g) n))
              e.depositReserve).isSome := by
          intro e he hne
          rw [Reserves.isSome_store hr]
          exact hrest e he hne
        obtain ⟨⟨rs', ds'⟩, hl⟩ := ih.2 ⟨List.prefix_append _ ks, hstored⟩
        have hbody : shrinkGroupDebt g n i rs d d.depositReserve =
            .ok (rs.store d.depositReserve
                (r.setDebtInGroup g (Word.saturatingSub (r.debtInGroup g) n)),
              d.setDebtInGroup (Word.saturatingSub
                d.borrowedAmountAgainstThisCollateralInElevationGroup n)) := by
          have hanchor : requireAnchor (d.depositReserve = d.depositReserve) = .ok () :=
            requireAnchor_eq_ok.2 rfl
          rw [shrinkGroupDebt, Reserves.loadRemaining_eq_ok.2 ⟨hne, hr⟩, ok_bind, hanchor]
          rfl
        exact ⟨_, forOccupied_cons_eq_ok.2 (.inl ⟨hd, _, _, _, _, ds', rfl, hbody, hl, rfl⟩)⟩

theorem exists_liquidity_repay {l : ReserveLiquidity} :
    (∃ l', l.repay n settle = .ok l') ↔ (l.availableAmount + n : ℕ) < 2 ^ 64 := by
  simp only [ReserveLiquidity.repay, bind_eq_ok, okOr_eq_ok, Word.checkedAdd_eq_some, pure_eq_ok,
    Fraction.checkedSub_eq_some]
  constructor
  · rintro ⟨-, available, havailable, -⟩
    exact havailable ▸ available.isLt
  · intro hlt
    have hle := Fraction.le_iff.1 (min_le_right settle l.borrowedAmountSf)
    exact ⟨_, ⟨_, hlt⟩, rfl, ⟨_, (Nat.sub_le _ _).trans_lt l.borrowedAmountSf.isLt⟩,
      Nat.sub_add_cancel hle, rfl⟩

theorem exists_repay (hb : o.borrows[i]? = some b) (hsettle : settle ≤ b.borrowedAmountSf) :
    ∃ o', o.repay settle i = .ok o' := by
  rw [Obligation.repay, hb, unwrap, ok_bind]
  split
  · exact ⟨_, rfl⟩
  · have hrest : b.borrowedAmountSf.sub settle =
        .ok ⟨b.borrowedAmountSf.bits - settle.bits,
          (Nat.sub_le _ _).trans_lt b.borrowedAmountSf.isLt⟩ :=
      Fraction.sub_eq_ok.2 (Nat.sub_add_cancel hsettle)
    rw [ObligationLiquidity.repay, hrest]
    exact ⟨_, rfl⟩

theorem exists_updateOnRepay (hgroup : (o.elevationGroup : ℕ) ≤ 32)
    (hb : o.borrows[i]? = some b) :
    (∃ p, updateElevationGroupDebtTrackersOnRepay n o i r rs iter = .ok p) ↔
      (o.elevationGroup ≠ elevationGroupNone →
        (o.deposits.filter ObligationCollateral.occupied).map (·.depositReserve) <+: iter ∧
        ∀ d ∈ o.deposits, d.depositReserve ≠ 0 → (rs d.depositReserve).isSome) := by
  unfold updateElevationGroupDebtTrackersOnRepay
  split
  · next hne =>
    have hpos : 0 < (o.elevationGroup : ℕ) := Nat.pos_of_ne_zero (mt Fin.val_eq_zero_iff.1 hne)
    have hindex : elevationGroupIndex o.elevationGroup = .ok ⟨o.elevationGroup - 1, by omega⟩ :=
      elevationGroupIndex_eq_ok.2 (Nat.sub_add_cancel hpos)
    rw [hindex, ok_bind, imp_iff_right hne, ← exists_shrinkGroupDebt]
    simp only [bind_eq_ok, pure_eq_ok]
    constructor
    · rintro ⟨-, p, hp, -⟩
      exact ⟨p, hp⟩
    · rintro ⟨p, hp⟩
      exact ⟨_, p, hp, rfl⟩
  · next hnone =>
    rw [hb, unwrap, ok_bind]
    exact ⟨fun _ hne ↦ absurd hne hnone, fun _ ↦ ⟨_, rfl⟩⟩

theorem bookRepayment_isOk (hgroup : (o.elevationGroup : ℕ) ≤ 32) (hb : o.borrows[i]? = some b)
    (hsettle : settle ≤ b.borrowedAmountSf) :
    (∃ booked, bookRepayment r o clock i settle n rs iter = .ok booked) ↔
      r.TakesRepayment o clock n rs iter := by
  constructor
  · rintro ⟨booked, h⟩
    simp only [bookRepayment, bind_eq_ok, Prod.exists] at h
    obtain ⟨timestamp, htime, cap, hcap, o₁, r₁, rs₁, htrack, l, hl, -⟩ := h
    obtain ⟨-, ⟨_, _, rfl⟩, -⟩ := updateOnRepay_retracked htrack
    exact {
      time := ⟨timestamp, Clock.timestamp_iff.1 htime,
        WithdrawalCaps.exists_subFromWithdrawalAccum_iff.1 ⟨cap, hcap⟩⟩
      accounts := (exists_updateOnRepay hgroup hb).1 ⟨_, htrack⟩
      available := exists_liquidity_repay.1 ⟨l, hl⟩ }
  · rintro ⟨⟨timestamp, htime, hcap⟩, haccounts, havailable⟩
    obtain ⟨cap, hcap⟩ := WithdrawalCaps.exists_subFromWithdrawalAccum_iff.2 hcap
    obtain ⟨⟨o₁, r₁, rs₁⟩, htrack⟩ := (exists_updateOnRepay (n := n)
      (r := { r with config := { r.config with debtWithdrawalCap := cap } }) hgroup hb).2 haccounts
    obtain ⟨htracked, ⟨_, _, rfl⟩, -⟩ := updateOnRepay_retracked htrack
    obtain ⟨l, hl⟩ := exists_liquidity_repay.2 havailable
    obtain ⟨b₁, hb₁, m, rfl⟩ := SlotTable.exists_of_forall₂_left htracked.borrows hb
    obtain ⟨o₂, ho₂⟩ := exists_repay hb₁ hsettle
    refine ⟨_, bind_eq_ok.2 ⟨timestamp, Clock.timestamp_iff.2 htime, bind_eq_ok.2 ⟨cap, hcap,
      bind_eq_ok.2 ⟨_, htrack, bind_eq_ok.2 ⟨l, hl, bind_eq_ok.2 ⟨o₂, ho₂, rfl⟩⟩⟩⟩⟩⟩

end Booking

theorem bookRepayment_spec
    (h : bookRepayment r o clock i settle n rs iter = .ok (r', o', rs'))
    (hb : o.borrows[i]? = some b) :
    ((∀ x, calculateMarketValueFromLiquidityAmount r' x =
        calculateMarketValueFromLiquidityAmount r x) ∧
      ∀ inGroup, r'.borrowFactorF inGroup = r.borrowFactorF inGroup) ∧
    (o'.depositedValueSf = o.depositedValueSf ∧
      o'.borrowFactorAdjustedDebtValueSf = o.borrowFactorAdjustedDebtValueSf ∧
      o'.elevationGroup = o.elevationGroup) ∧
    ∃ s, o'.borrows[i]? = some s ∧ s.marketValueSf =
      if settle = b.borrowedAmountSf then Fraction.zero else b.marketValueSf := by
  simp only [bookRepayment, bind_eq_ok, pure_eq_ok, Prod.exists, Prod.mk.injEq] at h
  obtain ⟨ts, -, cap, -, o₁, r₁, rs₁, htrack, l, hl, o₂, hrepay, rfl, rfl, -⟩ := h
  obtain ⟨htracked, ⟨_, _, rfl⟩, -⟩ := updateOnRepay_retracked htrack
  obtain ⟨available, borrowed, rfl, -, -⟩ := Reserve.liquidity_repay_spec hl
  obtain ⟨b₁, hb₁, m, rfl⟩ := SlotTable.exists_of_forall₂_left htracked.borrows hb
  have hi := (List.getElem?_eq_some_iff.1 hb₁).1
  have htotals : o₁.depositedValueSf = o.depositedValueSf ∧
      o₁.borrowFactorAdjustedDebtValueSf = o.borrowFactorAdjustedDebtValueSf ∧
      o₁.elevationGroup = o.elevationGroup := by
    rw [htracked.frame]
    exact ⟨rfl, rfl, rfl⟩
  refine ⟨⟨fun x ↦ rfl, fun inGroup ↦ rfl⟩, ?_⟩
  obtain ⟨b₂, hb₂, ⟨hfull, rfl⟩ | ⟨rest, hpos, hrest, rfl⟩⟩ := repay_spec hrepay
  · obtain rfl := Option.some.inj (hb₁.symm.trans hb₂)
    have hfull : settle = b.borrowedAmountSf := hfull
    refine ⟨htotals, default, List.getElem?_set_self hi, ?_⟩
    rw [if_pos hfull]
    rfl
  · obtain rfl := Option.some.inj (hb₁.symm.trans hb₂)
    refine ⟨htotals, _, List.getElem?_set_self hi, ?_⟩
    have hne : settle ≠ b.borrowedAmountSf := by
      rintro rfl
      change rest.bits + b.borrowedAmountSf.bits = b.borrowedAmountSf.bits at hrest
      omega
    rw [if_neg hne]
    rfl

theorem bookRepayment_checks (market : LendingMarket)
    (hbook : bookRepayment r o clock i settle n rs iter = .ok (r', o', rs'))
    (hb : o.borrows[i]? = some b)
    (hmv : calculateMarketValueFromLiquidityAmount r settle = .ok mv) (hle : mv ≤ b.marketValueSf)
    (hbfMv : mv.mul (r.borrowFactorF (o.elevationGroup ≠ elevationGroupNone)) = .ok bfMv)
    (hdebt : bfMv ≤ o.borrowFactorAdjustedDebtValueSf) :
    ∃ s, o'.borrows[i]? = some s ∧ (postRepayObligationInvariants settle o' r' s.marketValueSf
      market.minNetValueInObligationSf = .ok () ↔
        (settle ≠ b.borrowedAmountSf → mv < b.marketValueSf →
          market.minNetValueInObligationSf.bits ≤ b.marketValueSf.bits - mv.bits) ∧
        (o.depositedValueSf = Fraction.zero ∨ ∃ ltv, o.loanToValue = .ok ltv)) := by
  obtain ⟨⟨hvalue, hfactor⟩, ⟨hdeposited, hadjusted, hgroup⟩, s, hs, hslot⟩ :=
    bookRepayment_spec hbook hb
  refine ⟨s, hs, ?_⟩
  rw [← hvalue] at hmv
  rw [← hfactor, ← hgroup] at hbfMv
  rw [← hadjusted] at hdebt
  by_cases hfull : settle = b.borrowedAmountSf
  · rw [if_pos hfull] at hslot
    rw [postRepayObligationInvariants_iff hmv hbfMv hdebt (.inl hslot), Obligation.loanToValue,
      hdeposited, hadjusted, hslot]
    constructor
    · exact fun h ↦ ⟨fun hne ↦ absurd hfull hne, h.2⟩
    · exact fun h ↦ ⟨fun hlt ↦ absurd hlt (Nat.not_lt_zero _), h.2⟩
  · rw [if_neg hfull] at hslot
    rw [postRepayObligationInvariants_iff hmv hbfMv hdebt (.inr (hslot ▸ hle)),
      Obligation.loanToValue, hdeposited, hadjusted, hslot]
    constructor
    · exact fun h ↦ ⟨fun _ ↦ h.1, h.2⟩
    · exact fun h ↦ ⟨h.1 hfull, h.2⟩

theorem calculateRepay_pos (h : Reserve.calculateRepay amount debt = .ok ⟨settle, n⟩)
    (hamount : amount ≠ 0) (hdebt : debt ≠ Fraction.zero) : n ≠ 0 := by
  simp only [Reserve.calculateRepay, bind_eq_ok, pure_eq_ok, Fraction.toCeil_eq_ok,
    CalculateRepayResult.mk.injEq] at h
  obtain ⟨m, hm, rfl, rfl⟩ := h
  have hpos : 0 < debt.bits := Nat.pos_of_ne_zero (mt Fraction.eq_zero_iff.2 hdebt)
  have hsettle : 0 < (if amount = Word.max 64 then debt
      else min (Fraction.fromNum amount) debt).bits := by
    split
    · exact hpos
    · have hnum : 0 < (amount : ℕ) := Nat.pos_of_ne_zero (mt Fin.val_eq_zero_iff.1 hamount)
      rw [Fraction.bits_min, Fraction.bits_fromNum]
      exact lt_min (Nat.mul_pos hnum (by norm_num)) hpos
  rintro rfl
  rw [Fin.val_zero] at hm
  omega

/-- A repayment from a slot whose debt is worth no more than at the refresh goes through, unless it
cannot be booked, leaves dust, or finds a ratio that does not fit. -/
theorem repayObligationLiquidity_isOk
    (hr : r.lastUpdate.stale = false ∧ r.lastUpdate.slot = clock.slot)
    (ho : o.lastUpdate.stale = false ∧ o.lastUpdate.slot = clock.slot)
    (hfind : o.findLiquidityInBorrows key = .ok (b, i)) (hheld : b.borrowedAmountSf ≠ Fraction.zero)
    (hsum : b.borrowFactorAdjustedMarketValueSf ≤ o.borrowFactorAdjustedDebtValueSf)
    (hrate : b.cumulativeBorrowRateBsf = r.liquidity.cumulativeBorrowRateBsf)
    (hworth : b.WorthAtMost r (o.elevationGroup ≠ elevationGroupNone)) (hamount : amount ≠ 0)
    (hcalc : Reserve.calculateRepay amount b.borrowedAmountSf = .ok ⟨settle, n⟩) :
    (∃ p, repayObligationLiquidity r o clock amount key market rs iter = .ok p) ↔
      (∃ booked, bookRepayment r o clock i settle n rs iter = .ok booked) ∧
      (settle ≠ b.borrowedAmountSf →
        ∀ mv, calculateMarketValueFromLiquidityAmount r settle = .ok mv →
          mv < b.marketValueSf →
            market.minNetValueInObligationSf.bits ≤ b.marketValueSf.bits - mv.bits) ∧
      (o.depositedValueSf = Fraction.zero ∨ ∃ ltv, o.loanToValue = .ok ltv) := by
  obtain ⟨value, bfValue, hvalue, hvalueLe, hbfValue, hbfLe⟩ := hworth
  have hb := (findLiquidityInBorrows_spec hfind).1
  have hsettle : settle ≤ b.borrowedAmountSf := (calculateRepay_bounds hcalc).1
  have hn := calculateRepay_pos hcalc hamount hheld
  obtain ⟨mv, hmv, hmvLe⟩ := exists_marketValue_le hvalue rfl le_rfl hsettle
  obtain ⟨bfMv, hbfMv, hbfMvLe⟩ := Fraction.exists_mul_le hbfValue hmvLe le_rfl
  have hslots : o.borrows.set i b = o.borrows := by
    obtain ⟨hi, rfl⟩ := List.getElem?_eq_some_iff.1 hb
    exact List.set_getElem_self hi
  have hdust : (∀ mv, calculateMarketValueFromLiquidityAmount r settle = .ok mv →
      mv < b.marketValueSf →
        market.minNetValueInObligationSf.bits ≤ b.marketValueSf.bits - mv.bits) ↔
      (mv < b.marketValueSf →
        market.minNetValueInObligationSf.bits ≤ b.marketValueSf.bits - mv.bits) := by
    constructor
    · exact fun h ↦ h mv hmv
    · intro h mv' hmv'
      exact Except.ok.inj (hmv.symm.trans hmv') ▸ h
  rw [hdust]
  constructor
  · rintro ⟨⟨r', o', rs', n'⟩, h⟩
    obtain ⟨-, -, -, b', i', b₁, settle', s, hfind', -, hb₁, hcalc', -, hbook, hs, hpost⟩ :=
      repayObligationLiquidity_eq_ok.1 h
    obtain ⟨rfl, rfl⟩ := Prod.mk.inj (Except.ok.inj (hfind.symm.trans hfind'))
    obtain rfl := Except.ok.inj ((accrueInterest_replay hrate).symm.trans hb₁)
    obtain ⟨rfl, rfl⟩ := CalculateRepayResult.mk.inj (Except.ok.inj (hcalc.symm.trans hcalc'))
    rw [hslots] at hbook
    obtain ⟨s', hs', hiff⟩ := bookRepayment_checks market hbook hb hmv
      (hmvLe.trans hvalueLe) hbfMv (hbfMvLe.trans (hbfLe.trans hsum))
    obtain rfl := Option.some.inj (hs.symm.trans hs')
    exact ⟨⟨_, hbook⟩, hiff.1 hpost⟩
  · rintro ⟨⟨⟨r', o', rs'⟩, hbook⟩, hpost⟩
    obtain ⟨s, hs, hiff⟩ := bookRepayment_checks market hbook hb hmv
      (hmvLe.trans hvalueLe) hbfMv (hbfMvLe.trans (hbfLe.trans hsum))
    have hbook' : bookRepayment r { o with borrows := o.borrows.set i b } clock i settle n rs iter =
        .ok (r', o', rs') := by rwa [hslots]
    exact ⟨(r', o', rs', n), repayObligationLiquidity_eq_ok.2 ⟨hamount, hr, ho, b, i, b, settle, s,
      hfind, hheld, accrueInterest_replay hrate, hcalc, hn, hbook', hs, hiff.2 hpost⟩⟩

section Refreshed

variable {check : MaxReservesAsCollateralCheck} {states states' : ReferrerTokenStates}
  {stateKeys : List ReferrerTokenStateKey} {group : Option ElevationGroup}

theorem getElevationGroup_isSome {id : U8} (h : getElevationGroup id market = .ok group) :
    group.isSome = decide (id ≠ elevationGroupNone) := by
  simp only [getElevationGroup, bind_eq_ok] at h
  obtain ⟨-, -, found, hfound, h⟩ := h
  obtain rfl : found = group := by
    cases found with
    | none => exact pure_eq_ok.1 h
    | some g =>
      simp only [bind_eq_ok, pure_eq_ok] at h
      obtain ⟨-, -, -, -, hg⟩ := h
      exact hg
  rcases LendingMarket.getElevationGroup_eq_ok.1 hfound with ⟨rfl, rfl⟩ | ⟨i, hi, rfl⟩
  · rfl
  · have hid : id ≠ elevationGroupNone := by
      rintro rfl
      exact absurd hi (Nat.succ_ne_zero _)
    rw [Option.isSome_some, decide_eq_true hid]

/-- A debt stays worth no more when its reserve's price and factor do not rise. -/
theorem ObligationLiquidity.WorthAtMost.of_le (h : b.WorthAtMost r inGroup)
    (hdecimals : r'.liquidity.mintDecimals = r.liquidity.mintDecimals)
    (hprice : r'.liquidity.marketPriceSf ≤ r.liquidity.marketPriceSf)
    (hfactor : r'.borrowFactorF inGroup ≤ r.borrowFactorF inGroup) : b.WorthAtMost r' inGroup := by
  obtain ⟨mv, bfMv, hmv, hmvLe, hbfMv, hbfMvLe⟩ := h
  obtain ⟨mv', hmv', hle⟩ := exists_marketValue_le hmv hdecimals hprice le_rfl
  obtain ⟨bfMv', hbfMv', hbfLe⟩ := Fraction.exists_mul_le hbfMv hle hfactor
  exact ⟨mv', bfMv', hmv', hle.trans hmvLe, hbfMv', hbfLe.trans hbfMvLe⟩

theorem ObligationLiquidity.WorthAtMost.rebooked (h : b.WorthAtMost r inGroup)
    (hbook : r.Rebooked r') : b.WorthAtMost r' inGroup := by
  obtain ⟨_, _, _, _, _, rfl⟩ := hbook
  exact h

theorem refreshObligationBorrows_worth {borrows : RefreshObligationBorrowsResult}
    (h : refreshObligationBorrows o market slot group rs iter states stateKeys =
      .ok (o', rs', states', borrows)) :
    ∀ b ∈ o'.borrows, b.borrowReserve ≠ 0 → ∃ r, rs b.borrowReserve = some r ∧
      b.WorthAtMost r group.isSome := by
  obtain ⟨s, slots, hloop, -, rfl, rfl, -⟩ := refreshObligationBorrows_spec h
  refine (forOccupied_induct (P := fun l (s : BorrowsPass) ↦ Reserves.Rebooked rs s.reserves ∧
    ∀ b ∈ l, b.borrowReserve ≠ 0 → ∃ r, rs b.borrowReserve = some r ∧
      b.WorthAtMost r group.isSome) ⟨.refl rs, fun _ hb ↦ absurd hb List.not_mem_nil⟩ ?free ?step
    hloop).2
  case free =>
    rintro l s b - hfree ⟨hbook, hworth⟩
    have hkey : b.borrowReserve = 0 := by simpa [ObligationLiquidity.occupied] using hfree
    refine ⟨hbook, fun e he hne ↦ ?_⟩
    rcases List.mem_append.1 he with he | he
    · exact hworth e he hne
    · exact absurd (List.mem_singleton.1 he ▸ hkey) hne
  case step =>
    rintro l s b k s' b' - - hbody ⟨hbook, hworth⟩
    obtain ⟨r, r', -, -, hr, hrebook, hstore, -, hkey, -⟩ := refreshBorrow_slot hbody
    obtain ⟨r₁, b₁, n, r₂, b₂, slots, r₃, mv, bfMv, -, hr₁, -, -, -, -, -, -, htrack, -, hfees, hmv,
      -, hbfMv, -, -, -, hb', -⟩ := refreshBorrow_spec hbody
    refine ⟨hstore ▸ hbook.trans (.store hr hrebook), fun e he hne ↦ ?_⟩
    rcases List.mem_append.1 he with he | he
    · exact hworth e he hne
    · rw [List.mem_singleton.1 he, hkey]
      obtain ⟨r₀, hr₀, hbook₀⟩ := hbook.value_rev hr₁
      have hrebooked : r₀.Rebooked r₃ := hbook₀.trans
        ((trackRefreshedBorrow_retracked htrack).rebooked.trans
          (accumulateReferrerFees_rebooked hfees))
      refine ⟨r₀, hr₀, ?_⟩
      obtain ⟨_, _, _, _, _, rfl⟩ := hrebooked
      exact hb' ▸ ⟨mv, bfMv, hmv, le_rfl, hbfMv, le_rfl⟩

theorem refreshObligation_worth
    (h : refreshObligation o market slot check rs iter iter' states stateKeys =
      .ok (o', rs', states')) :
    ∀ b ∈ o'.borrows, b.borrowReserve ≠ 0 → ∀ r, rs' b.borrowReserve = some r →
      b.WorthAtMost r (o'.elevationGroup ≠ elevationGroupNone) := by
  obtain ⟨group, o₁, rs₁, borrows, o₂, deposits, hgroup, hb, hd, rfl⟩ := refreshObligation_spec h
  obtain ⟨hbook, -, hframe⟩ := refreshObligationBorrows_frame hb
  obtain ⟨hbook', -, hframe'⟩ := refreshObligationDeposits_frame hd
  have hborrows : o₂.borrows = o₁.borrows := by rw [hframe']
  have hsame : o₂.elevationGroup = o.elevationGroup := by rw [hframe', hframe]
  intro b hmem hne r hr
  change b.WorthAtMost r (decide (o₂.elevationGroup ≠ elevationGroupNone))
  obtain ⟨r₀, hr₀, hworth⟩ := refreshObligationBorrows_worth hb b (hborrows ▸ hmem) hne
  obtain ⟨r₁, hr₁, hrebooked⟩ := (hbook.trans hbook'.rebooked).value_rev hr
  obtain rfl := Option.some.inj (hr₀.symm.trans hr₁)
  rw [hsame, ← getElevationGroup_isSome hgroup]
  exact hworth.rebooked hrebooked

end Refreshed

namespace World

variable {w₀ w : World}

theorem Run.elevationGroup_le (hgenesis : w₀.Genesis) (hrun : Run Anything w₀ w)
    (ho : o ∈ w.obligations) : (o.elevationGroup : ℕ) ≤ 32 := by
  rcases (hrun.grouped hgenesis.grouped).inItsGroup o ho with hnone | ⟨g, hg, -⟩
  · rw [hnone]
    decide
  · rcases LendingMarket.getElevationGroup_eq_ok.1 (getElevationGroup_market hg) with
      ⟨hnone, -⟩ | ⟨j, hj, -⟩
    · rw [hnone]
      decide
    · rw [← hj]
      exact j.isLt

/-- The accounts of a repayment of the first obligation. -/
def repaymentAccounts (w : World) (key : Pubkey) :
    Result (Reserve × Obligation × ObligationLiquidity × ℕ) := do
  let reserve ← w.loadReserve key
  let obligation ← w.loadObligation 0
  let (liquidity, liquidityIndex) ← obligation.findLiquidityInBorrows key
  pure (reserve, obligation, liquidity, liquidityIndex)

/-- The accounts are fresh and the amount is accepted. -/
def Repayable (slot amount : U64) (r : Reserve) (o : Obligation) (b : ObligationLiquidity) : Prop :=
  (o.lastUpdate.stale = false ∧ o.lastUpdate.slot = slot) ∧
    (r.lastUpdate.stale = false ∧ r.lastUpdate.slot = slot) ∧
    (Reserve.calculateRepay amount b.borrowedAmountSf).toOption.isSome

instance (slot amount : U64) (r : Reserve) (o : Obligation) (b : ObligationLiquidity) :
    Decidable (Repayable slot amount r o b) := by
  unfold Repayable
  infer_instance

/-- The borrowed token's price falls after the obligation's refresh, in the same slot. -/
def fallenLoan : World := underwaterLoan.after [(⟨3, 10⟩, .refreshReserve 5 unitPrice)]

/-- The borrowed token's price rises after the obligation's refresh, in the same slot. -/
def repricedLoan : World :=
  plainMarket.after (plainLoan ++ [(⟨3, 10⟩, .refreshReserve 5 unitPrice),
    (⟨3, 10⟩, .refreshReserve 6 unitPrice), (⟨3, 10⟩, .refreshObligation 0 [6, 5] []),
    (⟨3, 10⟩, .refreshReserve 5 risenPrice)])

/-- A price of `bits` smallest fractions of a dollar. -/
def priceOf (bits : ℕ) (h : bits < 2 ^ 128 := by norm_num) : Option GetPriceResult :=
  some { price := ⟨bits, h⟩, status := .allChecks, timestamp := 10 }

/-- The collateral loses its value, and the borrowed token gains a million times its own. -/
def crashedLoan : World :=
  plainMarket.after (plainLoan ++ [(⟨3, 10⟩, .refreshReserve 5 (priceOf (2 ^ 80))),
    (⟨3, 10⟩, .refreshReserve 6 (priceOf 1)), (⟨3, 10⟩, .refreshObligation 0 [6, 5] [])])

/-- Two units of a token worth less than the market's minimum are borrowed. -/
def tinyLoan : World :=
  plainMarket.after [(⟨1, 10⟩, .refreshReserve 5 (priceOf (7 * 2 ^ 60 / 10000000))),
    (⟨1, 10⟩, .refreshReserve 6 unitPrice),
    (⟨1, 10⟩, .depositReserveLiquidity 6 1000000), (⟨1, 10⟩, .initObligation 0 7 0),
    (⟨1, 10⟩, .refreshObligation 0 [] []), (⟨1, 10⟩, .depositObligationCollateral 0 6 1000000),
    (⟨1, 10⟩, .refreshReserve 6 unitPrice), (⟨1, 10⟩, .refreshObligation 0 [6] []),
    (⟨1, 10⟩, .borrowObligationLiquidity 0 5 2 none []),
    (⟨1, 10⟩, .refreshReserve 5 (priceOf (7 * 2 ^ 60 / 10000000))),
    (⟨1, 10⟩, .refreshObligation 0 [6, 5] [])]

/-- A market whose first reserve takes deposits and loans of any amount. -/
def uncappedMarket : World :=
  plainOpening { plainConfig 500 with depositLimit := Word.max 64, borrowLimit := Word.max 64 }

/-- Deposits of the given amounts into the first reserve, and a loan from it. -/
def uncappedLoan (deposits : List U64) : List (Clock × Instruction) :=
  deposits.flatMap (fun amount ↦ [(⟨1, 10⟩, .refreshReserve 5 (priceOf (2 ^ 20))),
      (⟨1, 10⟩, .depositReserveLiquidity 5 amount)]) ++
    [(⟨1, 10⟩, .refreshReserve 6 unitPrice), (⟨1, 10⟩, .depositReserveLiquidity 6 900000000000),
      (⟨1, 10⟩, .initObligation 0 7 0), (⟨1, 10⟩, .refreshObligation 0 [] []),
      (⟨1, 10⟩, .refreshReserve 6 unitPrice),
      (⟨1, 10⟩, .depositObligationCollateral 0 6 900000000000),
      (⟨1, 10⟩, .refreshReserve 5 (priceOf (2 ^ 20))), (⟨1, 10⟩, .refreshReserve 6 unitPrice),
      (⟨1, 10⟩, .refreshObligation 0 [6] []),
      (⟨1, 10⟩, .borrowObligationLiquidity 0 5 5000000000000000000 none [])]

/-- Two loans are together more than a withdrawal cap can take back at once. -/
def hugeLoan : World :=
  uncappedMarket.after (uncappedLoan [9000000000000000000, 9000000000000000000] ++
    [(⟨1, 10⟩, .refreshReserve 5 (priceOf (2 ^ 20))), (⟨1, 10⟩, .refreshReserve 6 unitPrice),
      (⟨1, 10⟩, .refreshObligation 0 [6, 5] []),
      (⟨1, 10⟩, .borrowObligationLiquidity 0 5 5000000000000000000 none []),
      (⟨1, 10⟩, .refreshReserve 5 (priceOf (2 ^ 20))), (⟨1, 10⟩, .refreshReserve 6 unitPrice),
      (⟨1, 10⟩, .refreshObligation 0 [6, 5] [])])

/-- The interest on a loan has no room left in its reserve. -/
def overfullLoan : World :=
  uncappedMarket.after (uncappedLoan
      [9000000000000000000, 9000000000000000000, 446000000000000000] ++
    [(⟨1000000, 500⟩, .refreshReserve 5 (priceOf (2 ^ 20))),
      (⟨1000000, 500⟩, .refreshReserve 6 unitPrice),
      (⟨1000000, 500⟩, .refreshObligation 0 [6, 5] [])])

/-- The withdrawal cap of the borrowed token has an interval. -/
def cappedLoan : World :=
  (plainOpening { plainConfig 500 with
      debtWithdrawalCap := { (default : WithdrawalCaps) with
        configCapacity := ⟨1000000, by decide⟩, configIntervalLengthSeconds := 5 } }).after
    (plainLoan ++ [(⟨3, 10⟩, .refreshReserve 5 unitPrice),
      (⟨3, 10⟩, .refreshReserve 6 unitPrice), (⟨3, 10⟩, .refreshObligation 0 [6, 5] [])])

/-- A loan in a group, refreshed in slot 3. -/
def refreshedGroupedLoan : World :=
  groupedMarket.after (groupedLoan ++ [(⟨3, 10⟩, .refreshReserve 5 unitPrice),
    (⟨3, 10⟩, .refreshReserve 6 unitPrice), (⟨3, 10⟩, .refreshObligation 0 [6, 5] [])])

/-- A repayment of the first obligation fails though its accounts are fresh. -/
def RepaymentFails (w : World) (clock : Clock) (amount : U64) (iter : List Pubkey) (f : Failure) :
    Prop :=
  (∃ w₀, w₀.Genesis ∧ Run Anything w₀ w) ∧
  ∃ r o b i, w.repaymentAccounts 5 = .ok (r, o, b, i) ∧ Repayable clock.slot amount r o b ∧
    Klend.repayObligationLiquidity r o clock amount 5 w.lendingMarket (w.reserves.hold 5) iter =
      .error f

theorem repaymentFails_of_eval {w₀ : World} {ixs : List (Clock × Instruction)} {clock : Clock}
    {amount : U64} {iter : List Pubkey} {f : Failure} (hgenesis : w₀.Genesis)
    (h : ((w₀.after ixs).repaymentAccounts 5).toOption.any (fun x ↦
      decide (Repayable clock.slot amount x.1 x.2.1 x.2.2.1) &&
        failsWith (Klend.repayObligationLiquidity x.1 x.2.1 clock amount 5
          (w₀.after ixs).lendingMarket ((w₀.after ixs).reserves.hold 5) iter) f) = true) :
    (w₀.after ixs).RepaymentFails clock amount iter f := by
  rcases exists_eq_ok h with ⟨⟨r, o, b, i⟩, haccounts, hboth⟩
  obtain ⟨hrepayable, hfails⟩ := (Bool.and_eq_true _ _).mp hboth
  exact ⟨⟨w₀, hgenesis, run_after _ _ fun _ _ _ ↦ trivial⟩, r, o, b, i, haccounts,
    of_decide_eq_true hrepayable, eq_error_of_failsWith hfails⟩

end World

end Klend
