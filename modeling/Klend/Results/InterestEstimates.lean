import Klend.Lending.Runs
import Klend.Results.CurveSerialization
import Klend.Sdk.ReserveEstimates
import Mathlib.Tactic.GCongr
import Mathlib.Tactic.Linarith

/-! # The client's estimates of interest

The debt is compounded at the rate of the stored utilization, the cumulative rate at the
rate of the utilization that this debt leads to. The two agree where the borrow curve
has the same rate at both.
-/

namespace Klend.Sdk

section Compounding

variable {a b : ℚ} {n : ℕ}

theorem approximateCompoundedInterest_zero (rate : ℚ) :
    approximateCompoundedInterest rate 0 = 1 := rfl

theorem approximateCompoundedInterest_lt (ha : 0 ≤ a) (hab : a < b) (hn : n ≠ 0) :
    approximateCompoundedInterest a n < approximateCompoundedInterest b n := by
  have hyear : (0 : ℚ) < slotsPerYear := by
    norm_num [slotsPerYear]
  have hbase : a / slotsPerYear < b / slotsPerYear := div_lt_div_of_pos_right hab hyear
  have hnonneg : 0 ≤ a / slotsPerYear := div_nonneg ha hyear.le
  have hone : a / slotsPerYear + 1 < b / slotsPerYear + 1 := by linarith
  have hone0 : 0 ≤ a / slotsPerYear + 1 := by linarith
  have htwo := mul_self_lt_mul_self hone0 hone
  have htwo0 := mul_nonneg hone0 hone0
  match n, hn with
  | 1, _ => exact hone
  | 2, _ => exact htwo
  | 3, _ => exact mul_lt_mul'' htwo hone htwo0 hone0
  | 4, _ => exact mul_lt_mul'' htwo htwo htwo0 htwo0
  | n + 5, _ =>
    have hexp : (0 : ℚ) < ((n + 5 : ℕ) : ℚ) := by positivity
    have hminus1 : (0 : ℚ) ≤ ((n + 5 : ℕ) : ℚ) - 1 := by
      push_cast
      linarith [Nat.cast_nonneg (α := ℚ) n]
    have hminus2 : (0 : ℚ) ≤ ((n + 5 : ℕ) : ℚ) - 2 := by
      push_cast
      linarith [Nat.cast_nonneg (α := ℚ) n]
    have hfirst := mul_lt_mul_of_pos_right hbase hexp
    have hpow2 := (mul_self_lt_mul_self hnonneg hbase).le
    have hpow3 := mul_le_mul hpow2 hbase.le hnonneg (mul_self_nonneg (b / slotsPerYear))
    have hsecond := div_le_div_of_nonneg_right (mul_le_mul_of_nonneg_right
      (mul_le_mul_of_nonneg_right hpow2 hexp.le) hminus1) (zero_le_two (α := ℚ))
    have hthird := div_le_div_of_nonneg_right (mul_le_mul_of_nonneg_right
      (mul_le_mul_of_nonneg_right (mul_le_mul_of_nonneg_right hpow3 hexp.le) hminus1) hminus2)
      (by norm_num : (0 : ℚ) ≤ 6)
    simp only [approximateCompoundedInterest]
    linarith

theorem approximateCompoundedInterest_le (ha : 0 ≤ a) (hab : a ≤ b) :
    approximateCompoundedInterest a n ≤ approximateCompoundedInterest b n := by
  by_cases hn : n = 0
  · subst hn
    exact le_rfl
  · rcases hab.eq_or_lt with rfl | hlt
    · exact le_rfl
    · exact (approximateCompoundedInterest_lt ha hlt hn).le

theorem approximateCompoundedInterest_of_zero (n : ℕ) :
    approximateCompoundedInterest 0 n = 1 := by
  unfold approximateCompoundedInterest
  split <;> simp

theorem one_le_approximateCompoundedInterest (ha : 0 ≤ a) :
    1 ≤ approximateCompoundedInterest a n := by
  have hle := approximateCompoundedInterest_le (n := n) le_rfl ha
  rwa [approximateCompoundedInterest_of_zero] at hle

theorem approximateCompoundedInterest_nonneg (ha : 0 ≤ a) :
    0 ≤ approximateCompoundedInterest a n :=
  zero_le_one.trans (one_le_approximateCompoundedInterest ha)

theorem one_lt_approximateCompoundedInterest_iff (ha : 0 ≤ a) :
    1 < approximateCompoundedInterest a n ↔ n ≠ 0 ∧ 0 < a := by
  constructor
  · intro h
    constructor
    · rintro rfl
      exact lt_irrefl _ h
    · apply ha.lt_of_ne
      rintro rfl
      rw [approximateCompoundedInterest_of_zero] at h
      exact lt_irrefl _ h
  · rintro ⟨hn, ha⟩
    have hlt := approximateCompoundedInterest_lt le_rfl ha hn
    rwa [approximateCompoundedInterest_of_zero] at hlt

theorem approximateCompoundedInterest_inj (ha : 0 ≤ a) (hb : 0 ≤ b) (hn : n ≠ 0) :
    approximateCompoundedInterest a n = approximateCompoundedInterest b n ↔ a = b := by
  constructor
  · intro h
    rcases lt_trichotomy a b with hlt | heq | hgt
    · exact absurd h (approximateCompoundedInterest_lt ha hlt hn).ne
    · exact heq
    · exact absurd h (approximateCompoundedInterest_lt hb hgt hn).ne'
  · rintro rfl
    rfl

end Compounding

section Curve

/-- A point of the curve in parts of one. -/
def toPair (p : CurvePoint) : ℚ × ℚ :=
  (numberOf (((p.utilizationRateBps : ℕ) : ℚ) / oneHundredPctInBps),
    numberOf (((p.borrowRateBps : ℕ) : ℚ) / oneHundredPctInBps))

variable {p q m first : CurvePoint} {points : List CurvePoint} {u : ℚ} {c : BorrowRateCurve}

theorem toPair_nonneg : 0 ≤ (toPair p).1 ∧ 0 ≤ (toPair p).2 :=
  ⟨numberOf_nonneg (div_nonneg (Nat.cast_nonneg _) (Nat.cast_nonneg _)),
    numberOf_nonneg (div_nonneg (Nat.cast_nonneg _) (Nat.cast_nonneg _))⟩

theorem numberOf_bps_lt {a b : ℕ} (hb : b < 2 ^ 32) (hab : a < b) :
    numberOf ((a : ℚ) / oneHundredPctInBps) < numberOf ((b : ℚ) / oneHundredPctInBps) := by
  have hpct : (0 : ℚ) < oneHundredPctInBps := by norm_num [oneHundredPctInBps]
  apply numberOf_lt (div_nonneg (Nat.cast_nonneg _) hpct.le)
  · exact div_lt_div_of_pos_right (by exact_mod_cast hab) hpct
  · rw [← add_div, ← sub_div, div_mul_eq_mul_div, div_lt_div_iff_of_pos_right hpct]
    have hapart : (a : ℚ) + 1 ≤ b := by exact_mod_cast hab
    have hsmall : (b : ℚ) < 2 ^ 32 := by exact_mod_cast hb
    linarith

theorem numberOf_bps_lt_iff {a b : ℕ} (ha : a < 2 ^ 32) (hb : b < 2 ^ 32) :
    numberOf ((a : ℚ) / oneHundredPctInBps) < numberOf ((b : ℚ) / oneHundredPctInBps) ↔ a < b := by
  constructor
  · intro h
    by_contra hle
    rcases (not_lt.1 hle).eq_or_lt with rfl | hlt
    · exact lt_irrefl _ h
    · exact lt_asymm h (numberOf_bps_lt ha hlt)
  · exact numberOf_bps_lt hb

theorem toPair_fst_lt : (toPair p).1 < (toPair q).1 ↔
    p.utilizationRateBps < q.utilizationRateBps :=
  numberOf_bps_lt_iff p.utilizationRateBps.isLt q.utilizationRateBps.isLt

theorem toPair_snd_le : (toPair p).2 ≤ (toPair q).2 ↔ p.borrowRateBps ≤ q.borrowRateBps := by
  rw [← not_lt, ← not_lt, not_iff_not]
  exact numberOf_bps_lt_iff q.borrowRateBps.isLt p.borrowRateBps.isLt

theorem truncateBorrowCurve_eq :
    truncateBorrowCurve points = (BorrowRateCurve.takePoints false points).map toPair := by
  induction points with
  | nil => rfl
  | cons p points ih =>
    have hend : (p.utilizationRateBps : ℕ) = oneHundredPctInBps ↔
        p.utilizationRateBps = BorrowRateCurve.maxUtilizationRateBps :=
      (Fin.ext_iff (a := p.utilizationRateBps)
        (b := BorrowRateCurve.maxUtilizationRateBps)).symm
    rw [truncateBorrowCurve, BorrowRateCurve.takePoints, if_neg Bool.false_ne_true, List.map_cons,
      ← toPair]
    by_cases hmax : p.utilizationRateBps = BorrowRateCurve.maxUtilizationRateBps
    · rw [if_pos (hend.2 hmax), decide_eq_true hmax]
      cases points <;> rfl
    · rw [if_neg (mt hend.1 hmax), decide_eq_false hmax, ih]

theorem searchPoints_spec (hvalid : BorrowRateCurve.validatePoints p points = .ok ())
    (hprevious : p.utilizationRateBps ≠ BorrowRateCurve.maxUtilizationRateBps ∨ (toPair p).1 < u)
    (hp : (toPair p).1 ≤ u) (hlast : ∃ q ∈ points, u ≤ (toPair q).1) :
    (∃ q : CurvePoint, searchPoints u (toPair p) (points.map toPair) = .inl (toPair q).2) ∨
    ∃ p' q' : CurvePoint, searchPoints u (toPair p) (points.map toPair) =
        .inr (toPair p', toPair q') ∧
      (toPair p').1 < (toPair q').1 ∧ (toPair p').2 ≤ (toPair q').2 ∧
      (toPair p').1 ≤ u ∧ u ≤ (toPair q').1 := by
  induction points generalizing p with
  | nil =>
    obtain ⟨q, hq, -⟩ := hlast
    cases hq
  | cons q points ih =>
    obtain ⟨hkeys, hrates, hvalid⟩ := BorrowRateCurve.validatePoints_cons.1 hvalid
    rw [List.map_cons, searchPoints]
    by_cases hmeets : (toPair q).1 = u
    · exact .inl ⟨q, if_pos hmeets⟩
    rw [if_neg hmeets]
    by_cases hle : u ≤ (toPair q).1
    · rw [if_pos hle]
      have hlt : (toPair p).1 < (toPair q).1 := by
        rcases hprevious with hne | hlt
        · rw [if_neg hne] at hkeys
          exact toPair_fst_lt.2 hkeys
        · exact hlt.trans_le hle
      exact .inr ⟨p, q, rfl, hlt, toPair_snd_le.2 hrates, hp, hle⟩
    · rw [if_neg hle]
      apply ih hvalid (.inr (not_le.1 hle)) (not_le.1 hle).le
      obtain ⟨m, hm, hum⟩ := hlast
      rcases List.mem_cons.1 hm with rfl | hm
      · exact absurd hum hle
      · exact ⟨m, hm, hum⟩

theorem interpolate_spec {x x0 x1 y0 y1 : ℚ} (hx : x0 < x1) (hy : y0 ≤ y1) (h0 : x0 ≤ x)
    (h1 : x ≤ x1) (hy0 : 0 ≤ y0) : ∃ y, interpolate x x0 x1 y0 y1 = some y ∧ 0 ≤ y := by
  have hproduct : 0 ≤ numberOf (numberOf (x - x0) * numberOf (y1 - y0)) :=
    numberOf_nonneg (mul_nonneg (numberOf_nonneg (sub_nonneg.2 h0))
      (numberOf_nonneg (sub_nonneg.2 hy)))
  refine ⟨_, if_neg (not_lt.2 h1), numberOf_nonneg (add_nonneg hy0 (numberOf_nonneg ?_))⟩
  exact div_nonneg hproduct (numberOf_nonneg (sub_nonneg.2 hx.le))

theorem exists_getBorrowRate (hcurve : c.validate = .ok ()) (hu : 0 ≤ u) :
    ∃ rate, getBorrowRate u (truncateBorrowCurve c.points) = some rate ∧ 0 ≤ rate := by
  obtain ⟨first, front, m, back, hpoints, htake, hzero, hm, -, hvalid⟩ :=
    BorrowRateCurve.serializePoints_spec hcurve
  have hcurve : truncateBorrowCurve c.points = toPair first :: (front ++ [m]).map toPair := by
    rw [truncateBorrowCurve_eq, ← BorrowRateCurve.serializePoints, htake, List.cons_append,
      List.map_cons]
  have hfirst : (toPair first).1 = 0 := by
    rw [toPair, hzero]
    simp
  have hlast : (toPair m).1 = 1 := by
    have hone : numberOf (((BorrowRateCurve.maxUtilizationRateBps : ℕ) : ℚ) /
        oneHundredPctInBps) = 1 := by decide +kernel
    rw [toPair, hm, hone]
  obtain ⟨v, hv, hv0, hv1⟩ : ∃ v, v = (if 1 < u then 1 else u) ∧ 0 ≤ v ∧ v ≤ 1 := by
    refine ⟨_, rfl, ?_⟩
    split
    · exact ⟨zero_le_one, le_rfl⟩
    · next hle => exact ⟨hu, not_lt.1 hle⟩
  have hsearch := searchPoints_spec (u := v) hvalid (.inl (by rw [hzero]; decide)) (hfirst ▸ hv0)
    ⟨m, by simp, hlast ▸ hv1⟩
  obtain ⟨second, rest, hsecond⟩ : ∃ second rest, (front ++ [m]).map toPair = second :: rest := by
    cases front with
    | nil => exact ⟨_, _, rfl⟩
    | cons a front => exact ⟨_, _, rfl⟩
  rw [hsecond] at hcurve hsearch
  rw [hcurve, getBorrowRate, ← hv]
  obtain ⟨q, hq⟩ | ⟨p, q, hpq, hkeys, hrates, hle, hge⟩ := hsearch
  · rw [hq]
    exact ⟨_, rfl, toPair_nonneg.2⟩
  · have hq : (toPair q).1 ≠ 0 := (toPair_nonneg.1.trans_lt hkeys).ne'
    obtain ⟨rate, hrate, hrate0⟩ := interpolate_spec hkeys hrates hle hge toPair_nonneg.2
    rw [hpq]
    dsimp only
    rw [if_neg fun h ↦ hq h.2.2.1, if_neg (not_or.2 ⟨not_le.2 hkeys, not_lt.2 hrates⟩)]
    exact ⟨rate, hrate, hrate0⟩

end Curve

namespace KaminoReserve

/-- The reserve as the program keeps it, at a slot that a number can hold. -/
structure Valid (r : KaminoReserve) : Prop where
  supply : ∃ supply, r.state.liquidity.totalSupply = .ok supply
  cumulativeRate : r.state.liquidity.cumulativeBorrowRateBsf.bits ≠ 0
  takeRate : r.state.config.protocolTakeRatePct ≤ 100
  curve : r.state.config.borrowRateCurve.validate = .ok ()
  duration : 0 < r.recentSlotDurationMs
  slot : (r.state.lastUpdate.slot : ℕ) < 2 ^ 53

variable {r : KaminoReserve} {slot n : ℕ} {referralFeeBps borrowRate : ℚ}

theorem Valid.totalSupply_nonneg (h : r.Valid) : 0 ≤ r.getTotalSupply := by
  obtain ⟨supply, hsupply⟩ := h.supply
  simp only [ReserveLiquidity.totalSupply, bind_eq_ok] at hsupply
  obtain ⟨assets, hassets, lessProtocol, hprotocol, lessReferrer, hreferrer, hpending⟩ := hsupply
  have hexact := supply.toRat_nonneg
  rw [Fraction.toRat_sub hpending, Fraction.toRat_sub hreferrer, Fraction.toRat_sub hprotocol,
    Fraction.toRat_add hassets, Fraction.toRat_fromNum] at hexact
  have havailable : (0 : ℚ) ≤ (r.state.liquidity.availableAmount : ℕ) := Nat.cast_nonneg _
  simp only [getTotalSupply, getLiquidityAvailableAmount, getBorrowedAmount,
    getAccumulatedProtocolFees, getAccumulatedReferrerFees, getPendingReferrerFees, sfToDecimal,
    multiplierNumber]
  simp only [Fraction.toRat] at hexact
  linarith

theorem Valid.slotsElapsed (h : r.Valid) :
    r.slotsElapsed slot = some (slot - r.state.lastUpdate.slot) := by
  rw [KaminoReserve.slotsElapsed, toNumber, if_pos h.slot]
  rfl

theorem getFixedHostInterestRate_nonneg : 0 ≤ r.getFixedHostInterestRate :=
  div_nonneg (Nat.cast_nonneg _) (by norm_num)

theorem Valid.slotAdjustmentFactor_pos (h : r.Valid) : 0 < r.slotAdjustmentFactor := by
  have hsecond : (0 : ℚ) < 1000 / slotsPerSecond := by norm_num [slotsPerSecond]
  exact numberOf_pos (div_pos (numberOf_pos hsecond) h.duration)

theorem getBorrowedAmount_nonneg : 0 ≤ r.getBorrowedAmount := sfToDecimal_nonneg _

theorem getBorrowedAmount_ne_zero
    (hdebt : r.state.liquidity.borrowedAmountSf ≠ Fraction.zero) : r.getBorrowedAmount ≠ 0 :=
  mt sfToDecimal_eq_zero.1 (mt Fraction.eq_zero_iff.2 hdebt)

theorem getCumulativeBorrowRate_nonneg : 0 ≤ r.getCumulativeBorrowRate := sfToDecimal_nonneg _

theorem Valid.getCumulativeBorrowRate_ne_zero (h : r.Valid) : r.getCumulativeBorrowRate ≠ 0 :=
  mt sfToDecimal_eq_zero.1 h.cumulativeRate

/-- The yearly rate of the curve at a utilization. -/
def borrowRateAt (r : KaminoReserve) (utilization : ℚ) : Option ℚ := do
  let rate ← getBorrowRate utilization r.borrowCurve
  pure (numberOf (rate * r.slotAdjustmentFactor))

/-- The rate that the debt is compounded at, a sum of decimals. -/
def debtRate (r : KaminoReserve) (borrowRate : ℚ) : ℚ :=
  decimalOf borrowRate + r.getFixedHostInterestRate

/-- The rate that the cumulative rate is compounded at, read from a sum of numbers. -/
def cumulativeRate (r : KaminoReserve) (borrowRate : ℚ) : ℚ :=
  decimalOf (numberOf (borrowRate + numberOf r.getFixedHostInterestRate))

/-- The growth of the debt over some slots, at a variable rate. -/
def growth (r : KaminoReserve) (borrowRate : ℚ) (n : ℕ) : ℚ :=
  approximateCompoundedInterest (r.debtRate borrowRate) n

/-- The part of the new debt that goes to the depositors, over the old debt. -/
def depositorGrowth (r : KaminoReserve) (borrowRate : ℚ) (n : ℕ) : ℚ :=
  (r.growth borrowRate n - approximateCompoundedInterest r.getFixedHostInterestRate n) *
    (1 - (r.state.config.protocolTakeRatePct : ℕ) / 100)

/-- The utilization that the growth leads to. -/
def driftedUtilization (r : KaminoReserve) (borrowRate : ℚ) (n : ℕ) : ℚ :=
  let supply := r.getTotalSupply + r.getBorrowedAmount * r.depositorGrowth borrowRate n
  if supply = 0 then 0 else numberOf (r.getBorrowedAmount * r.growth borrowRate n / supply)

/-- The debt and the cumulative rate are compounded at one rate over some slots, whatever the
estimated utilization does to the curve's rate. -/
def SameRate (r : KaminoReserve) (borrowRate : ℚ) (n : ℕ) : Prop :=
  (r.borrowRateAt (r.driftedUtilization borrowRate n)).map r.cumulativeRate =
    some (r.debtRate borrowRate)

instance {n : ℕ} : Decidable (r.SameRate borrowRate n) :=
  inferInstanceAs (Decidable (_ = _))

theorem getEstimatedDebtAndSupply_eq (hslots : r.slotsElapsed slot = some n) (hn : n ≠ 0)
    (hrate : r.calculateBorrowRate = some borrowRate) :
    r.getEstimatedDebtAndSupply slot referralFeeBps = some {
      totalBorrow := r.getBorrowedAmount * r.growth borrowRate n
      totalSupply := r.getTotalSupply + r.getBorrowedAmount * r.depositorGrowth borrowRate n } := by
  simp only [getEstimatedDebtAndSupply, hslots, compoundInterest, hrate, Option.bind_eq_bind,
    Option.bind_some, if_neg hn, Option.pure_def, Option.some.injEq, DebtAndSupply.mk.injEq]
  constructor
  · rfl
  · simp only [getTotalSupply, depositorGrowth, growth, debtRate]
    ring

theorem calculateUtilizationRatio_nonneg (hvalid : r.Valid) : 0 ≤ r.calculateUtilizationRatio := by
  unfold calculateUtilizationRatio
  split
  · exact le_rfl
  · exact numberOf_nonneg (div_nonneg getBorrowedAmount_nonneg hvalid.totalSupply_nonneg)

theorem debtRate_nonneg (hrate : 0 ≤ borrowRate) : 0 ≤ r.debtRate borrowRate :=
  add_nonneg (decimalOf_nonneg hrate) getFixedHostInterestRate_nonneg

theorem cumulativeRate_nonneg (hrate : 0 ≤ borrowRate) : 0 ≤ r.cumulativeRate borrowRate :=
  decimalOf_nonneg (numberOf_nonneg
    (add_nonneg hrate (numberOf_nonneg getFixedHostInterestRate_nonneg)))

theorem depositorGrowth_nonneg (hvalid : r.Valid) (hrate : 0 ≤ borrowRate) :
    0 ≤ r.depositorGrowth borrowRate n := by
  have htake : ((r.state.config.protocolTakeRatePct : ℕ) : ℚ) ≤ 100 := by
    exact_mod_cast Fin.le_def.1 hvalid.takeRate
  apply mul_nonneg
  · apply sub_nonneg.2
    exact approximateCompoundedInterest_le getFixedHostInterestRate_nonneg
      (le_add_of_nonneg_left (decimalOf_nonneg hrate))
  · apply sub_nonneg.2
    exact (div_le_one (by norm_num)).2 htake

theorem driftedUtilization_nonneg (hvalid : r.Valid) (hrate : 0 ≤ borrowRate) :
    0 ≤ r.driftedUtilization borrowRate n := by
  have hgrowth : 0 ≤ r.growth borrowRate n :=
    approximateCompoundedInterest_nonneg (debtRate_nonneg hrate)
  unfold driftedUtilization
  dsimp only
  split
  · exact le_rfl
  · apply numberOf_nonneg
    apply div_nonneg (mul_nonneg getBorrowedAmount_nonneg hgrowth)
    exact add_nonneg hvalid.totalSupply_nonneg
      (mul_nonneg getBorrowedAmount_nonneg (depositorGrowth_nonneg hvalid hrate))

theorem Valid.exists_borrowRateAt {utilization : ℚ} (hvalid : r.Valid) (h : 0 ≤ utilization) :
    ∃ borrowRate, r.borrowRateAt utilization = some borrowRate ∧ 0 ≤ borrowRate := by
  obtain ⟨rate, hrate, hrate0⟩ := exists_getBorrowRate hvalid.curve h
  refine ⟨numberOf (rate * r.slotAdjustmentFactor), ?_,
    numberOf_nonneg (mul_nonneg hrate0 hvalid.slotAdjustmentFactor_pos.le)⟩
  rw [borrowRateAt, borrowCurve, hrate]
  rfl

theorem Valid.calculateBorrowRate (hvalid : r.Valid) :
    ∃ borrowRate, r.calculateBorrowRate = some borrowRate ∧ 0 ≤ borrowRate :=
  hvalid.exists_borrowRateAt (calculateUtilizationRatio_nonneg hvalid)

theorem Valid.exists_estimated (hvalid : r.Valid) (slot : ℕ) (referralFeeBps : ℚ) :
    ∃ estimated, r.getEstimatedDebtAndSupply slot referralFeeBps = some estimated ∧
      0 ≤ estimated.totalBorrow ∧ 0 ≤ estimated.totalSupply := by
  obtain ⟨borrowRate, hrate, hrate0⟩ := hvalid.calculateBorrowRate
  have hslots : r.slotsElapsed slot = some (slot - r.state.lastUpdate.slot) :=
    hvalid.slotsElapsed
  by_cases hn : slot - r.state.lastUpdate.slot = 0
  · rw [hn] at hslots
    refine ⟨⟨r.getBorrowedAmount, r.getTotalSupply⟩, ?_, getBorrowedAmount_nonneg,
      hvalid.totalSupply_nonneg⟩
    simp [getEstimatedDebtAndSupply, hslots]
  · refine ⟨_, getEstimatedDebtAndSupply_eq hslots hn hrate, ?_, ?_⟩
    · exact mul_nonneg getBorrowedAmount_nonneg (approximateCompoundedInterest_nonneg
        (debtRate_nonneg hrate0))
    · exact add_nonneg hvalid.totalSupply_nonneg
        (mul_nonneg getBorrowedAmount_nonneg (depositorGrowth_nonneg hvalid hrate0))

theorem Valid.exists_exchangeRate (hvalid : r.Valid) (slot : ℕ) (referralFeeBps : ℚ) :
    ∃ rate, r.getEstimatedCollateralExchangeRate slot referralFeeBps = some rate ∧ 0 ≤ rate := by
  obtain ⟨estimated, hestimated, -, hsupply⟩ := hvalid.exists_estimated slot referralFeeBps
  rw [getEstimatedCollateralExchangeRate, getEstimatedTotalSupply, hestimated]
  refine ⟨_, rfl, ?_⟩
  split
  · exact zero_le_one
  · exact div_nonneg (Nat.cast_nonneg _) hsupply

/-- The utilization of an estimate. -/
def estimatedUtilization (estimated : DebtAndSupply) : ℚ :=
  if estimated.totalSupply = 0 then 0 else numberOf (estimated.totalBorrow / estimated.totalSupply)

theorem getEstimatedCumulativeBorrowRate_eq {estimated : DebtAndSupply}
    (hslots : r.slotsElapsed slot = some n)
    (hestimated : r.getEstimatedDebtAndSupply slot referralFeeBps = some estimated)
    (hrate : r.borrowRateAt (estimatedUtilization estimated) = some borrowRate) :
    r.calculateBorrowAPR slot referralFeeBps =
        some (numberOf (borrowRate + numberOf r.getFixedHostInterestRate)) ∧
      r.getEstimatedCumulativeBorrowRate slot referralFeeBps =
        some (r.getCumulativeBorrowRate *
          approximateCompoundedInterest (r.cumulativeRate borrowRate) n) := by
  have hestimatedRate : r.calculateEstimatedBorrowRate slot referralFeeBps = some borrowRate := by
    rw [calculateEstimatedBorrowRate, getEstimatedUtilizationRatio, hestimated]
    exact hrate
  have hapr : r.calculateBorrowAPR slot referralFeeBps =
      some (numberOf (borrowRate + numberOf r.getFixedHostInterestRate)) := by
    rw [calculateBorrowAPR, hestimatedRate]
    rfl
  refine ⟨hapr, ?_⟩
  rw [getEstimatedCumulativeBorrowRate, hapr, Option.bind_eq_bind, Option.bind_some, hslots]
  rfl

theorem Valid.exists_calculateBorrowAPR (hvalid : r.Valid) (slot : ℕ) (referralFeeBps : ℚ) :
    ∃ apr, r.calculateBorrowAPR slot referralFeeBps = some apr ∧ 0 ≤ apr ∧
      r.getEstimatedCumulativeBorrowRate slot referralFeeBps =
        some (r.getCumulativeBorrowRate *
          approximateCompoundedInterest (decimalOf apr) (slot - r.state.lastUpdate.slot)) := by
  obtain ⟨estimated, hestimated, hborrow, hsupply⟩ := hvalid.exists_estimated slot referralFeeBps
  have hutilization : 0 ≤ estimatedUtilization estimated := by
    unfold estimatedUtilization
    split
    · exact le_rfl
    · exact numberOf_nonneg (div_nonneg hborrow hsupply)
  obtain ⟨borrowRate, hrate, hrate0⟩ := hvalid.exists_borrowRateAt hutilization
  obtain ⟨hapr, hcumulative⟩ :=
    getEstimatedCumulativeBorrowRate_eq hvalid.slotsElapsed hestimated hrate
  exact ⟨_, hapr, numberOf_nonneg
    (add_nonneg hrate0 (numberOf_nonneg getFixedHostInterestRate_nonneg)), hcumulative⟩

theorem Valid.exists_cumulativeBorrowRate (hvalid : r.Valid) (slot : ℕ) (referralFeeBps : ℚ) :
    ∃ rate, r.getEstimatedCumulativeBorrowRate slot referralFeeBps = some rate ∧
      r.getCumulativeBorrowRate ≤ rate := by
  obtain ⟨apr, -, hapr, hrate⟩ := hvalid.exists_calculateBorrowAPR slot referralFeeBps
  exact ⟨_, hrate, le_mul_of_one_le_right getCumulativeBorrowRate_nonneg
    (one_le_approximateCompoundedInterest (decimalOf_nonneg hapr))⟩

/-- The ratio of the estimates is that of the reserve where no slot has passed, or both are
compounded at one rate. -/
theorem estimates_ratio_iff (hvalid : r.Valid)
    (hdebt : r.state.liquidity.borrowedAmountSf ≠ Fraction.zero) (slot : ℕ) (referralFeeBps : ℚ) :
    ∃ estimated rate borrowRate,
      r.getEstimatedDebtAndSupply slot referralFeeBps = some estimated ∧
      r.getEstimatedCumulativeBorrowRate slot referralFeeBps = some rate ∧
      r.calculateBorrowRate = some borrowRate ∧
      (estimated.totalBorrow / r.getBorrowedAmount = rate / r.getCumulativeBorrowRate ↔
        slot ≤ r.state.lastUpdate.slot ∨
          r.SameRate borrowRate (slot - r.state.lastUpdate.slot)) := by
  have hborrowed := getBorrowedAmount_ne_zero hdebt
  have hcumulative := hvalid.getCumulativeBorrowRate_ne_zero
  obtain ⟨borrowRate, hrate, hrate0⟩ := hvalid.calculateBorrowRate
  have hslots : r.slotsElapsed slot = some (slot - r.state.lastUpdate.slot) := hvalid.slotsElapsed
  by_cases hle : slot ≤ r.state.lastUpdate.slot
  · rw [Nat.sub_eq_zero_of_le hle] at hslots
    have hestimated : r.getEstimatedDebtAndSupply slot referralFeeBps =
        some ⟨r.getBorrowedAmount, r.getTotalSupply⟩ := by
      simp [getEstimatedDebtAndSupply, hslots]
    have hcumulativeRate := (getEstimatedCumulativeBorrowRate_eq hslots hestimated hrate).2
    rw [approximateCompoundedInterest_zero, mul_one] at hcumulativeRate
    refine ⟨_, _, _, hestimated, hcumulativeRate, hrate, iff_of_true ?_ (.inl hle)⟩
    rw [div_self hborrowed, div_self hcumulative]
  · have hn : slot - r.state.lastUpdate.slot ≠ 0 := by omega
    obtain ⟨drifted, hdrifted, hdrifted0⟩ := hvalid.exists_borrowRateAt
      (driftedUtilization_nonneg (n := slot - r.state.lastUpdate.slot) hvalid hrate0)
    have hestimated :=
      @getEstimatedDebtAndSupply_eq r slot _ referralFeeBps _ hslots hn hrate
    refine ⟨_, _, _, hestimated,
      (getEstimatedCumulativeBorrowRate_eq hslots hestimated hdrifted).2, hrate, ?_⟩
    rw [or_iff_right hle, mul_div_cancel_left₀ _ hborrowed, mul_div_cancel_left₀ _ hcumulative,
      growth, approximateCompoundedInterest_inj (debtRate_nonneg hrate0)
        (cumulativeRate_nonneg hdrifted0) hn, SameRate, hdrifted, Option.map_some,
      Option.some.injEq]
    exact eq_comm

/-- Debts with the cumulative rates that they were last accrued to, brought to a rate. -/
def accruedDebts (rate : ℚ) (debts : List (ℚ × ℚ)) : ℚ :=
  (debts.map fun debt ↦ debt.1 * (rate / debt.2)).sum

theorem accruedDebts_eq (rate : ℚ) (debts : List (ℚ × ℚ)) :
    accruedDebts rate debts = rate * accruedDebts 1 debts := by
  unfold accruedDebts
  induction debts with
  | nil => simp
  | cons debt debts ih =>
    rw [List.map_cons, List.sum_cons, List.map_cons, List.sum_cons, ih]
    ring

/-- The estimates of the debt and of the cumulative rate agree, and debts that make up the stored
debt make up the estimated one, exactly where no slot has passed or both are compounded at one
rate. -/
theorem estimates_agree_iff (hvalid : r.Valid)
    (hdebt : r.state.liquidity.borrowedAmountSf ≠ Fraction.zero) (slot : ℕ) (referralFeeBps : ℚ) :
    ∃ estimated rate borrowRate,
      r.getEstimatedDebtAndSupply slot referralFeeBps = some estimated ∧
      r.getEstimatedCumulativeBorrowRate slot referralFeeBps = some rate ∧
      r.calculateBorrowRate = some borrowRate ∧
      let agree := slot ≤ r.state.lastUpdate.slot ∨
        r.SameRate borrowRate (slot - r.state.lastUpdate.slot)
      (estimated.totalBorrow / r.getBorrowedAmount = rate / r.getCumulativeBorrowRate ↔ agree) ∧
      ∀ debts, accruedDebts r.getCumulativeBorrowRate debts = r.getBorrowedAmount →
        (accruedDebts rate debts = estimated.totalBorrow ↔ agree) := by
  obtain ⟨estimated, rate, borrowRate, hestimated, hrate, hborrowRate, hratio⟩ :=
    estimates_ratio_iff hvalid hdebt slot referralFeeBps
  refine ⟨estimated, rate, borrowRate, hestimated, hrate, hborrowRate, hratio, ?_⟩
  intro debts hdebts
  rw [← hratio, div_eq_div_iff (getBorrowedAmount_ne_zero hdebt)
    hvalid.getCumulativeBorrowRate_ne_zero, ← hdebts, accruedDebts_eq rate,
    accruedDebts_eq r.getCumulativeBorrowRate]
  constructor
  · intro h
    rw [← h]
    ring
  · intro h
    apply mul_left_cancel₀ hvalid.getCumulativeBorrowRate_ne_zero
    rw [mul_comm _ estimated.totalBorrow, h]
    ring

/-- The stored amount that the client reads as a whole number. -/
def storedAs (n : U8) : Fraction where
  bits := n * multiplierNumber
  isLt := (Nat.mul_lt_mul_of_pos_right n.isLt (by decide)).trans (by decide)

/-- The liquidity of a reserve of which half is borrowed. -/
def halfBorrowedLiquidity : ReserveLiquidity :=
  { (plainReserve (plainConfig 500)).liquidity with
    availableAmount := 50
    borrowedAmountSf := storedAs 50 }

/-- Such a reserve, last refreshed in slot 0. -/
def halfBorrowed (curve : BorrowRateCurve) : KaminoReserve where
  state := { plainReserve { plainConfig 500 with borrowRateCurve := curve } with
    liquidity := halfBorrowedLiquidity }
  address := 5
  tokenOraclePrice := 1
  recentSlotDurationMs := 500

/-- The rate is the utilization. -/
def diagonalCurve : BorrowRateCurve where
  points := ⟨0, 0⟩ :: List.replicate 10 ⟨10000, 10000⟩

theorem halfBorrowed_valid {curve : BorrowRateCurve} (h : curve.validate = .ok ()) :
    (halfBorrowed curve).Valid where
  supply := by
    obtain ⟨supply, hsupply, -⟩ := exists_eq_ok
      (show halfBorrowedLiquidity.totalSupply.toOption.any (fun _ ↦ true) = true by decide)
    exact ⟨supply, hsupply⟩
  cumulativeRate := by
    show halfBorrowedLiquidity.cumulativeBorrowRateBsf.bits ≠ 0
    decide
  takeRate := by
    show (0 : Word 8) ≤ 100
    decide
  curve := h
  duration := by norm_num [halfBorrowed]
  slot := by
    show ((0 : Word 64) : ℕ) < 2 ^ 53
    decide

theorem estimates_agree_flat : ∃ estimated rate,
    (halfBorrowed (.newFlat 500)).getEstimatedDebtAndSupply 1 0 = some estimated ∧
    (halfBorrowed (.newFlat 500)).getEstimatedCumulativeBorrowRate 1 0 = some rate ∧
    estimated.totalBorrow / (halfBorrowed (.newFlat 500)).getBorrowedAmount =
      rate / (halfBorrowed (.newFlat 500)).getCumulativeBorrowRate := by
  have hvalid : (halfBorrowed (.newFlat 500)).Valid := halfBorrowed_valid (by decide)
  obtain ⟨estimated, rate, borrowRate, hestimated, hrate, hborrowRate, hratio, -⟩ :=
    estimates_agree_iff hvalid (by decide) 1 0
  have hcurve : (halfBorrowed (.newFlat 500)).calculateBorrowRate = some (numberOf (1 / 20)) := by
    decide +kernel
  obtain rfl : numberOf (1 / 20) = borrowRate := Option.some.inj (hcurve.symm.trans hborrowRate)
  exact ⟨estimated, rate, hestimated, hrate, hratio.2 (.inr (by decide +kernel))⟩

theorem estimates_disagree : ∃ estimated rate,
    (halfBorrowed diagonalCurve).Valid ∧
    (halfBorrowed diagonalCurve).state.liquidity.borrowedAmountSf ≠ Fraction.zero ∧
    (halfBorrowed diagonalCurve).getEstimatedDebtAndSupply 1 0 = some estimated ∧
    (halfBorrowed diagonalCurve).getEstimatedCumulativeBorrowRate 1 0 = some rate ∧
    estimated.totalBorrow / (halfBorrowed diagonalCurve).getBorrowedAmount ≠
      rate / (halfBorrowed diagonalCurve).getCumulativeBorrowRate := by
  have hvalid : (halfBorrowed diagonalCurve).Valid := halfBorrowed_valid (by decide)
  obtain ⟨estimated, rate, borrowRate, hestimated, hrate, hborrowRate, hratio⟩ :=
    estimates_ratio_iff hvalid (by decide) 1 0
  have hcurve : (halfBorrowed diagonalCurve).calculateBorrowRate = some (1 / 2) := by decide +kernel
  obtain rfl : 1 / 2 = borrowRate := Option.some.inj (hcurve.symm.trans hborrowRate)
  exact ⟨estimated, rate, hvalid, by decide, hestimated, hrate,
    mt hratio.1 (by decide +kernel)⟩

end KaminoReserve

end Klend.Sdk
