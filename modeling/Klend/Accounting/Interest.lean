import Klend.Accounting.ReserveBooks
import Klend.Library.Compounding

/-! # Interest

The program's compounding is the truncated compounding of the library, and one
accrual grows debt and cumulative rate by one factor and splits the growth among
the fees and the supply.
-/

namespace Klend

theorem approximateCompoundedInterest_eq_ok {rate R : Fraction} {n : U64}
    (h : approximateCompoundedInterest rate n = .ok R) :
    R.bits = Compounding.factor (2 ^ 60) (rate.bits / slotsPerYear) n := by
  simp only [approximateCompoundedInterest, bind_eq_ok, Fraction.divInt_eq_ok] at h
  obtain ⟨base, ⟨-, hbase⟩, h⟩ := h
  rw [← hbase]
  split at h
  · next h0 =>
    rw [pure_eq_ok] at h
    rw [← h, h0]
    rfl
  split at h
  · next h1 =>
    rw [Fraction.add_eq_ok] at h
    rw [h, h1]
    rfl
  split at h
  · next h2 =>
    simp only [bind_eq_ok, Fraction.add_eq_ok, Fraction.mul_eq_ok] at h
    obtain ⟨p, hp, h⟩ := h
    rw [h, hp, h2]
    rfl
  split at h
  · next h3 =>
    simp only [bind_eq_ok, Fraction.add_eq_ok, Fraction.mul_eq_ok] at h
    obtain ⟨p, hp, q, hq, h⟩ := h
    rw [h, hq, hp, h3]
    rfl
  split at h
  · next h4 =>
    simp only [bind_eq_ok, Fraction.add_eq_ok, Fraction.mul_eq_ok] at h
    obtain ⟨p, hp, q, hq, h⟩ := h
    rw [h, hq, hp, h4]
    rfl
  · next h0 h1 h2 h3 h4 =>
    have hn : 5 ≤ (n : ℕ) := by
      by_contra hlt
      have : (n : ℕ) = 0 ∨ (n : ℕ) = 1 ∨ (n : ℕ) = 2 ∨ (n : ℕ) = 3 ∨ (n : ℕ) = 4 := by omega
      rcases this with hv | hv | hv | hv | hv
      · exact h0 (Fin.ext hv)
      · exact h1 (Fin.ext hv)
      · exact h2 (Fin.ext hv)
      · exact h3 (Fin.ext hv)
      · exact h4 (Fin.ext hv)
    obtain ⟨m, hm⟩ := Nat.exists_eq_add_of_le' hn
    simp only [bind_eq_ok, Fraction.add_eq_ok, Fraction.mul_eq_ok, Fraction.mulInt_eq_ok,
      Fraction.divInt_eq_ok] at h
    obtain ⟨b2, hb2, b3, hb3, f1, hf1, s1, hs1, s2, hs2, st, ⟨-, hst⟩, t1, ht1, t2, ht2, t3, ht3,
      tt, ⟨-, htt⟩, u1, hu1, u2, hu2, hR⟩ := h
    rw [hR, hu2, hu1, htt, ht3, ht2, ht1, hst, hs2, hs1, hf1, hb3, hb2, hm]
    rfl

theorem le_approximateCompoundedInterest {rate R : Fraction} {n : U64}
    (h : approximateCompoundedInterest rate n = .ok R) : unit ≤ R.bits := by
  rw [approximateCompoundedInterest_eq_ok h, unit_eq]
  exact Compounding.le_factor (by norm_num)

/-- One accrual in terms of the growth factors of the whole rate and of its fixed part. -/
structure ReserveLiquidity.Compounded (l l' : ReserveLiquidity) (rate fixed : Fraction)
    (takeRate referralRate : Fraction) (fixedFee variableDebt : ℕ) : Prop where
  frame : l' = { l with
    cumulativeBorrowRateBsf := l'.cumulativeBorrowRateBsf
    pendingReferrerFeesSf := l'.pendingReferrerFeesSf
    accumulatedProtocolFeesSf := l'.accumulatedProtocolFeesSf
    borrowedAmountSf := l'.borrowedAmountSf
    absoluteReferralRateSf := l'.absoluteReferralRateSf }
  cumulativeRate : l'.cumulativeBorrowRateBsf.bits =
    l.cumulativeBorrowRateBsf.bits * rate.bits / unit
  debt : l'.borrowedAmountSf.bits = l.borrowedAmountSf.bits * rate.bits / unit
  fixedDebt : fixedFee + l.borrowedAmountSf.bits = l.borrowedAmountSf.bits * fixed.bits / unit
  growth : l.borrowedAmountSf.bits + fixedFee + variableDebt = l'.borrowedAmountSf.bits
  absoluteReferralRate : l'.absoluteReferralRateSf.bits = takeRate.bits * referralRate.bits / unit
  pendingFees : l'.pendingReferrerFeesSf.bits = l.pendingReferrerFeesSf.bits +
    variableDebt * l'.absoluteReferralRateSf.bits / unit
  protocolFees : l'.accumulatedProtocolFeesSf.bits +
      variableDebt * l'.absoluteReferralRateSf.bits / unit =
    l.accumulatedProtocolFeesSf.bits + fixedFee + variableDebt * takeRate.bits / unit

theorem ReserveLiquidity.compoundInterest_spec {l l' : ReserveLiquidity}
    {currentRate hostRate takeRate referralRate : Fraction} {n : U64}
    (h : l.compoundInterest currentRate hostRate n takeRate referralRate = .ok l') :
    ∃ sum rate fixed fixedFee variableDebt,
      sum.bits = currentRate.bits + hostRate.bits ∧
      approximateCompoundedInterest sum n = .ok rate ∧
      approximateCompoundedInterest hostRate n = .ok fixed ∧
      l.Compounded l' rate fixed takeRate referralRate fixedFee variableDebt := by
  simp only [compoundInterest, bind_eq_ok, pure_eq_ok, Fraction.add_eq_ok, Fraction.mul_eq_ok,
    Fraction.sub_eq_ok, BigFraction.mul_eq_ok, BigFraction.bits_ofFraction, ← unit_eq] at h
  obtain ⟨sum, hsum, rate, hrate, fixed, hfixed, cum, ⟨-, hcum⟩, debt, hdebt, fd, hfd, fee, hfee,
    nd, hnd, v, hv, vp, hvp, ar, har, mr, hmr, f1, hf1, f2, hf2, pf, hpf, pend, hpend, rfl⟩ := h
  refine ⟨sum, rate, fixed, fee.bits, v.bits, hsum, hrate, hfixed, ?_⟩
  exact {
    frame := rfl
    cumulativeRate := hcum
    debt := hdebt
    fixedDebt := by rw [← hfd, hfee]
    growth := by dsimp only; omega
    absoluteReferralRate := har
    pendingFees := by dsimp only; rw [hpend, hmr]
    protocolFees := by dsimp only; rw [← hmr, ← hvp]; omega }

theorem Reserve.accrueInterest_same {r r' : Reserve} {slot : U64} {bps : U16}
    (h : r.accrueInterest slot bps = .ok r') (hslot : r.lastUpdate.slot = slot) : r' = r := by
  simp only [accrueInterest, bind_eq_ok, LastUpdate.slotsElapsed_eq_ok] at h
  obtain ⟨n, hn, h⟩ := h
  have h0 : n = 0 := by
    rw [hslot] at hn
    exact Fin.ext (by simpa using hn)
  rw [if_neg (by simp [h0]), pure_eq_ok] at h
  exact h.symm

theorem Reserve.accrueInterest_cases {r r' : Reserve} {slot : U64} {bps : U16}
    (h : r.accrueInterest slot bps = .ok r') :
    r.lastUpdate.slot ≤ slot ∧ ((r.lastUpdate.slot = slot ∧ r' = r) ∨
      ∃ (n : U64) (currentRate : Fraction) (l : ReserveLiquidity),
        0 < n ∧ (n : ℕ) + r.lastUpdate.slot = slot ∧ r.currentBorrowRate = .ok currentRate ∧
        r.liquidity.compoundInterest currentRate
          (Fraction.fromBps r.config.hostFixedInterestRateBps.widen) n
          (Fraction.fromPercent r.config.protocolTakeRatePct.widen)
          (Fraction.fromBps bps.widen) = .ok l ∧
        r' = { r with liquidity := l }) := by
  have hcopy := h
  simp only [accrueInterest, bind_eq_ok, LastUpdate.slotsElapsed_eq_ok] at h
  obtain ⟨n, hn, h⟩ := h
  refine ⟨Fin.le_def.2 (by omega), ?_⟩
  by_cases hpos : 0 < n
  · simp only [if_pos hpos, bind_eq_ok, pure_eq_ok] at h
    obtain ⟨rate, hrate, l, hl, rfl⟩ := h
    exact .inr ⟨n, rate, l, hpos, hn, hrate, hl, rfl⟩
  · have h0 : n = 0 := by
      rw [Fin.lt_def] at hpos
      exact Fin.ext (by simpa using hpos)
    have hslot : r.lastUpdate.slot = slot := Fin.ext (by simpa [h0] using hn)
    exact .inl ⟨hslot, Reserve.accrueInterest_same hcopy hslot⟩

theorem Reserve.accrueInterest_keepsPrice {r r' : Reserve} {slot : U64} {bps : U16}
    (h : r.accrueInterest slot bps = .ok r') :
    r'.config = r.config ∧ r'.lastUpdate = r.lastUpdate ∧
      r'.liquidity.marketPriceLastUpdatedTs = r.liquidity.marketPriceLastUpdatedTs ∧
      r'.liquidity.marketPriceSf = r.liquidity.marketPriceSf := by
  obtain ⟨-, ⟨-, rfl⟩ | ⟨n, rate, l, -, -, -, hl, rfl⟩⟩ := accrueInterest_cases h
  · exact ⟨rfl, rfl, rfl, rfl⟩
  · obtain ⟨_, _, _, _, _, -, -, -, hcompound⟩ := ReserveLiquidity.compoundInterest_spec hl
    refine ⟨rfl, rfl, ?_, ?_⟩ <;> rw [hcompound.frame]

end Klend
