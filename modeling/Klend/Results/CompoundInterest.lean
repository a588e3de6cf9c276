import Klend.Accounting.Interest

/-! # One compounding conserves value

The variable and the fixed debt are compounded apart. Their difference is split by
two percentages, and because every term is rounded down from a larger one, only an
overflow can stop the computation: what the borrowers owe more is owed to the
protocol, to the referrers and to the depositors.
-/

namespace Klend

theorem Fraction.exists_bits {n : ℕ} (h : n < 2 ^ 128) : ∃ x : Fraction, x.bits = n :=
  ⟨⟨n, h⟩, rfl⟩

namespace ReserveLiquidity

section Terms

variable (l : ReserveLiquidity) (rate fixed takeRate referralRate : Fraction)

def newDebt : ℕ := l.borrowedAmountSf.bits * rate.bits / unit

def fixedHostFee : ℕ := l.borrowedAmountSf.bits * fixed.bits / unit - l.borrowedAmountSf.bits

def netNewVariableDebt : ℕ :=
  l.newDebt rate - l.borrowedAmountSf.bits - l.fixedHostFee fixed

def variableProtocolFee : ℕ := l.netNewVariableDebt rate fixed * takeRate.bits / unit

def maxReferrersFees : ℕ :=
  l.netNewVariableDebt rate fixed * (takeRate.bits * referralRate.bits / unit) / unit

/-- None of the sums and products of a compounding overflows, and neither does the total supply
after it. -/
structure CompoundFits (currentBorrowRate hostFixedInterestRate : Fraction) (slotsElapsed : U64) :
    Prop where
  interestRate : ∃ sum, currentBorrowRate.add hostFixedInterestRate = .ok sum ∧
    approximateCompoundedInterest sum slotsElapsed = .ok rate
  fixedRate : approximateCompoundedInterest hostFixedInterestRate slotsElapsed = .ok fixed
  cumulativeRate : l.cumulativeBorrowRateBsf.bits * rate.bits < 2 ^ 256
  debt : l.newDebt rate < 2 ^ 128
  protocolFees : l.accumulatedProtocolFeesSf.bits + l.fixedHostFee fixed +
    l.variableProtocolFee rate fixed takeRate < 2 ^ 128
  referrerFees : l.pendingReferrerFeesSf.bits +
    l.maxReferrersFees rate fixed takeRate referralRate < 2 ^ 128
  assets : l.availableAmount * unit + l.newDebt rate < 2 ^ 128

end Terms

variable {l : ReserveLiquidity} {rate fixed takeRate referralRate : Fraction}
  {currentBorrowRate hostFixedInterestRate : Fraction} {slotsElapsed : U64}

theorem CompoundFits.fixed_le
    (h : l.CompoundFits rate fixed takeRate referralRate currentBorrowRate hostFixedInterestRate
      slotsElapsed) : fixed.bits ≤ rate.bits := by
  obtain ⟨sum, hsum, hrate⟩ := h.interestRate
  rw [approximateCompoundedInterest_eq_ok hrate, approximateCompoundedInterest_eq_ok h.fixedRate]
  refine Compounding.factor_mono (Nat.div_le_div_right ?_)
  rw [Fraction.add_eq_ok] at hsum
  omega

theorem le_newDebt (h : unit ≤ rate.bits) : l.borrowedAmountSf.bits ≤ l.newDebt rate :=
  Compounding.le_mul_div unit_pos h

theorem CompoundFits.growth
    (h : l.CompoundFits rate fixed takeRate referralRate currentBorrowRate hostFixedInterestRate
      slotsElapsed) :
    l.borrowedAmountSf.bits + l.fixedHostFee fixed = l.newDebt fixed ∧
    l.newDebt fixed + l.netNewVariableDebt rate fixed = l.newDebt rate := by
  have hfixed : l.borrowedAmountSf.bits ≤ l.newDebt fixed :=
    le_newDebt (le_approximateCompoundedInterest h.fixedRate)
  have hrate : l.newDebt fixed ≤ l.newDebt rate :=
    Nat.div_le_div_right (Nat.mul_le_mul_left _ h.fixed_le)
  have hfee : l.borrowedAmountSf.bits + l.fixedHostFee fixed = l.newDebt fixed := by
    unfold fixedHostFee newDebt at *
    omega
  refine ⟨hfee, ?_⟩
  unfold netNewVariableDebt
  omega

theorem mul_div_unit_le {x : Fraction} (h : x ≤ Fraction.one) (n : ℕ) : n * x.bits / unit ≤ n := by
  rw [Fraction.le_iff, Fraction.bits_one, ← unit_eq] at h
  exact Nat.div_le_of_le_mul (mul_comm unit n ▸ Nat.mul_le_mul_left n h)

theorem variableProtocolFee_le (h : takeRate ≤ Fraction.one) :
    l.variableProtocolFee rate fixed takeRate ≤ l.netNewVariableDebt rate fixed :=
  mul_div_unit_le h _

theorem maxReferrersFees_le (h : referralRate ≤ Fraction.one) :
    l.maxReferrersFees rate fixed takeRate referralRate ≤
      l.variableProtocolFee rate fixed takeRate :=
  Nat.div_le_div_right (Nat.mul_le_mul_left _ (mul_div_unit_le h takeRate.bits))

theorem CompoundFits.exists_compoundInterest
    (h : l.CompoundFits rate fixed takeRate referralRate currentBorrowRate hostFixedInterestRate
      slotsElapsed) (htake : takeRate ≤ Fraction.one) (hreferral : referralRate ≤ Fraction.one) :
    ∃ l', l.compoundInterest currentBorrowRate hostFixedInterestRate slotsElapsed takeRate
      referralRate = .ok l' := by
  obtain ⟨sum, hsum, hrate⟩ := h.interestRate
  obtain ⟨hfee, hvariable⟩ := h.growth
  have hle : l.variableProtocolFee rate fixed takeRate ≤ l.netNewVariableDebt rate fixed :=
    variableProtocolFee_le htake
  have hle' : l.maxReferrersFees rate fixed takeRate referralRate ≤
      l.variableProtocolFee rate fixed takeRate := maxReferrersFees_le hreferral
  have habsolute : takeRate.bits * referralRate.bits / unit ≤ takeRate.bits :=
    mul_div_unit_le hreferral _
  have htakeLt := takeRate.isLt
  have hdebtLt := h.debt
  have hprotocolLt := h.protocolFees
  have hreferrerLt := h.referrerFees
  obtain ⟨cumulative, hcumulative⟩ : ∃ x : BigFraction,
      x.bits = l.cumulativeBorrowRateBsf.bits * rate.bits / 2 ^ 60 :=
    ⟨⟨_, (Nat.div_le_self _ _).trans_lt h.cumulativeRate⟩, rfl⟩
  obtain ⟨debt, hdebt⟩ : ∃ x : Fraction, x.bits = l.newDebt rate := Fraction.exists_bits h.debt
  obtain ⟨fixedDebt, hfixedDebt⟩ : ∃ x : Fraction, x.bits = l.newDebt fixed :=
    Fraction.exists_bits (by omega)
  obtain ⟨fee, hfeeBits⟩ : ∃ x : Fraction, x.bits = l.fixedHostFee fixed := Fraction.exists_bits (by omega)
  obtain ⟨netNewDebt, hnet⟩ : ∃ x : Fraction,
      x.bits = l.fixedHostFee fixed + l.netNewVariableDebt rate fixed := Fraction.exists_bits (by omega)
  obtain ⟨variableDebt, hvariableBits⟩ : ∃ x : Fraction,
      x.bits = l.netNewVariableDebt rate fixed := Fraction.exists_bits (by omega)
  obtain ⟨protocolFee, hprotocol⟩ : ∃ x : Fraction,
      x.bits = l.variableProtocolFee rate fixed takeRate := Fraction.exists_bits (by omega)
  obtain ⟨absolute, habsoluteBits⟩ : ∃ x : Fraction,
      x.bits = takeRate.bits * referralRate.bits / unit := Fraction.exists_bits (by omega)
  obtain ⟨referrerFee, hreferrer⟩ : ∃ x : Fraction,
      x.bits = l.maxReferrersFees rate fixed takeRate referralRate := Fraction.exists_bits (by omega)
  obtain ⟨fees₁, hfees₁⟩ : ∃ x : Fraction,
      x.bits = l.accumulatedProtocolFeesSf.bits + fee.bits := Fraction.exists_bits (by omega)
  obtain ⟨fees₂, hfees₂⟩ : ∃ x : Fraction, x.bits = fees₁.bits + protocolFee.bits :=
    Fraction.exists_bits (by omega)
  obtain ⟨fees, hfees⟩ : ∃ x : Fraction, x.bits + referrerFee.bits = fees₂.bits :=
    ⟨⟨fees₂.bits - referrerFee.bits, by omega⟩, by dsimp only; omega⟩
  obtain ⟨pending, hpending⟩ : ∃ x : Fraction,
      x.bits = l.pendingReferrerFeesSf.bits + referrerFee.bits := Fraction.exists_bits (by omega)
  simp only [compoundInterest, bind_eq_ok, pure_eq_ok, Fraction.add_eq_ok, Fraction.mul_eq_ok,
    Fraction.sub_eq_ok, BigFraction.mul_eq_ok, BigFraction.bits_ofFraction, ← unit_eq]
  rw [Fraction.add_eq_ok] at hsum
  rw [← unit_eq] at hcumulative
  refine ⟨_, sum, hsum, rate, hrate, fixed, h.fixedRate, cumulative,
    ⟨h.cumulativeRate, hcumulative⟩, debt, hdebt, fixedDebt, hfixedDebt, fee, by omega,
    netNewDebt, by omega, variableDebt, by omega, protocolFee, ?_, absolute, habsoluteBits,
    referrerFee, ?_, fees₁, hfees₁, fees₂, hfees₂, fees, hfees, pending, hpending, rfl⟩
  · rw [hprotocol, hvariableBits]
    rfl
  · rw [hreferrer, hvariableBits, habsoluteBits]
    rfl

/-- A slot whose rate is at most the reserve's is never told that interest is negative: a failure
is a panic, or an overflow of the slot's debt. -/
theorem accrueInterest_ne_negative {b : ObligationLiquidity} {cumulative : BigFraction}
    (h : b.cumulativeBorrowRateBsf.bits ≤ cumulative.bits) :
    b.accrueInterest cumulative ≠ err .negativeInterestRate := by
  have hofBits {n : ℕ} {e : Failure} (hn : BigFraction.ofBits n = .error e) : e = .panic := by
    unfold BigFraction.ofBits at hn
    split at hn
    · cases hn
    · exact abort_eq_error.1 hn
  unfold ObligationLiquidity.accrueInterest
  rw [if_neg (Nat.not_lt.2 h)]
  split
  · intro hneg
    cases hneg
  · intro hneg
    rcases bind_eq_error.1 hneg with hneg | ⟨product, -, hneg⟩
    · cases hofBits hneg
    rcases bind_eq_error.1 hneg with hneg | ⟨quotient, -, hneg⟩
    · unfold BigFraction.divInt at hneg
      split at hneg
      · cases abort_eq_error.1 hneg
      · cases hofBits hneg
    · split at hneg
      · cases hneg
      · cases err_eq_error.1 hneg

theorem Compounded.cumulativeRate_le {l' : ReserveLiquidity} {fixedFee variableDebt : ℕ}
    (h : l.Compounded l' rate fixed takeRate referralRate fixedFee variableDebt)
    (hrate : unit ≤ rate.bits) :
    l.cumulativeBorrowRateBsf.bits ≤ l'.cumulativeBorrowRateBsf.bits := by
  rw [h.cumulativeRate]
  exact Compounding.le_mul_div unit_pos hrate

end ReserveLiquidity

/-- Where nothing overflows a compounding succeeds, and what it adds to the debt it adds to the
protocol's fees, to the referrers' pending fees and to the total supply, none of which falls. -/
theorem compoundInterest_conserves (l : ReserveLiquidity) (supply : Fraction)
    (currentBorrowRate hostFixedInterestRate takeRate referralRate rate fixed : Fraction)
    (slotsElapsed : U64) (hsupply : l.totalSupply = .ok supply) (htake : takeRate ≤ Fraction.one)
    (hreferral : referralRate ≤ Fraction.one)
    (hfits : l.CompoundFits rate fixed takeRate referralRate currentBorrowRate
      hostFixedInterestRate slotsElapsed) :
    ∃ l' supply', l.compoundInterest currentBorrowRate hostFixedInterestRate slotsElapsed takeRate
        referralRate = .ok l' ∧
      l'.totalSupply = .ok supply' ∧
      l.accumulatedProtocolFeesSf ≤ l'.accumulatedProtocolFeesSf ∧
      l.pendingReferrerFeesSf ≤ l'.pendingReferrerFeesSf ∧ supply ≤ supply' ∧
      l'.borrowedAmountSf.bits - l.borrowedAmountSf.bits =
        (l'.accumulatedProtocolFeesSf.bits - l.accumulatedProtocolFeesSf.bits) +
        (l'.pendingReferrerFeesSf.bits - l.pendingReferrerFeesSf.bits) +
        (supply'.bits - supply.bits) ∧
      l.cumulativeBorrowRateBsf.bits ≤ l'.cumulativeBorrowRateBsf.bits ∧
      ∀ b : ObligationLiquidity,
        b.cumulativeBorrowRateBsf.bits ≤ l.cumulativeBorrowRateBsf.bits →
        b.accrueInterest l'.cumulativeBorrowRateBsf ≠ err .negativeInterestRate := by
  obtain ⟨l', hl'⟩ := hfits.exists_compoundInterest htake hreferral
  obtain ⟨sum, rate', fixed', fixedFee, variableDebt, hsum, hrate, hfixed, hcomp⟩ :=
    ReserveLiquidity.compoundInterest_spec hl'
  obtain ⟨sum', hsum', hrate'⟩ := hfits.interestRate
  obtain rfl : sum' = sum := Fraction.ext ((Fraction.add_eq_ok.1 hsum').trans hsum.symm)
  obtain rfl : rate' = rate := Except.ok.inj (hrate.symm.trans hrate')
  have hreferrers : variableDebt * l'.absoluteReferralRateSf.bits / unit ≤
      variableDebt * takeRate.bits / unit := by
    rw [hcomp.absoluteReferralRate]
    exact Nat.div_le_div_right
      (Nat.mul_le_mul_left _ (ReserveLiquidity.mul_div_unit_le hreferral _))
  have hprotocol : variableDebt * takeRate.bits / unit ≤ variableDebt :=
    ReserveLiquidity.mul_div_unit_le htake _
  have hgrowth := hcomp.growth
  have hpending := hcomp.pendingFees
  have hfees := hcomp.protocolFees
  have hdebt : l'.borrowedAmountSf.bits = l.newDebt rate' := hcomp.debt
  have hassets := hfits.assets
  obtain ⟨-, hequity⟩ := ReserveLiquidity.totalSupply_eq_ok.1 hsupply
  have havailable : l'.availableAmount = l.availableAmount := by rw [hcomp.frame]
  have hreferrer : l'.accumulatedReferrerFeesSf = l.accumulatedReferrerFeesSf := by
    rw [hcomp.frame]
  generalize variableDebt * l'.absoluteReferralRateSf.bits / unit = referrersFees at *
  generalize variableDebt * takeRate.bits / unit = protocolFee at *
  obtain ⟨supply', hsupply'⟩ := Fraction.exists_bits
    (n := supply.bits + (variableDebt - protocolFee)) (by omega)
  refine ⟨l', supply', hl', ReserveLiquidity.totalSupply_eq_ok.2 ⟨?_, ?_⟩, ?_, ?_, ?_, ?_,
    hcomp.cumulativeRate_le (le_approximateCompoundedInterest hrate), fun b hb ↦ ?_⟩
  · rw [havailable, hdebt]
    exact hassets
  · rw [havailable, hreferrer]
    omega
  · rw [Fraction.le_iff]
    omega
  · rw [Fraction.le_iff]
    omega
  · rw [Fraction.le_iff]
    omega
  · omega
  · exact ReserveLiquidity.accrueInterest_ne_negative
      (hb.trans (hcomp.cumulativeRate_le (le_approximateCompoundedInterest hrate)))

/-- Half of a reserve's thousand tokens are lent out. -/
def halfLent : ReserveLiquidity :=
  { (default : ReserveLiquidity) with
    availableAmount := 500
    borrowedAmountSf := .fromNum 500
    cumulativeBorrowRateBsf := .ofFraction .one }

/-- A day at ten percent a year and a fixed one percent; a tenth of the variable interest goes to
the protocol and a fifth of that to the referrers. -/
theorem compoundInterest_conserves_halfLent : ∃ l' supply',
    halfLent.compoundInterest (.fromPercent 10) (.fromPercent 1) 172800 (.fromPercent 10)
      (.fromPercent 20) = .ok l' ∧
    l'.totalSupply = .ok supply' ∧ Fraction.fromNum 1000 ≤ supply' := by
  let rate : Fraction := ⟨1153269005192142976, by norm_num⟩
  let fixed : Fraction := ⟨1152953091497310976, by norm_num⟩
  have hfits : halfLent.CompoundFits rate fixed (.fromPercent 10) (.fromPercent 20)
      (.fromPercent 10) (.fromPercent 1) 172800 :=
    ⟨⟨⟨126821365506753166, by norm_num⟩, by decide, by decide⟩,
      by decide +kernel, by decide +kernel, by decide +kernel, by decide +kernel,
      by decide +kernel, by decide +kernel⟩
  obtain ⟨l', supply', h, hsupply', -, -, hle, -⟩ := compoundInterest_conserves halfLent
    (.fromNum 1000) (.fromPercent 10) (.fromPercent 1) (.fromPercent 10) (.fromPercent 20) rate
    fixed 172800 (by decide) (by decide) (by decide) hfits
  exact ⟨l', supply', h, hsupply', hle⟩

end Klend
