import Klend.Accounting.Interest
import Klend.Machine.Rational
import Klend.Results.BorrowRates

/-! # The growth of the approximated interest

The approximated interest lies between simple interest at the truncated rate of a slot and
exact compounding. It grows with the rate and, at every rate that a curve can give, with
the number of slots.
-/

namespace Klend

variable {rate rate' base R S : Fraction} {n m : U64}

/-- Approximated interest is at least simple interest and at most exact compounding. -/
theorem approximateCompoundedInterest_bounded (hbase : rate.divInt slotsPerYear = .ok base)
    (h : approximateCompoundedInterest rate n = .ok R) :
    1 + (n : ℕ) * base.toRat ≤ R.toRat ∧
      R.toRat ≤ (1 + rate.toRat / slotsPerYear) ^ (n : ℕ) := by
  rw [Fraction.divInt_eq_ok] at hbase
  have hR := approximateCompoundedInterest_eq_ok h
  rw [← hbase.2] at hR
  constructor
  · have hsimple := Compounding.simple_le_factor (N := 2 ^ 60) (b := base.bits) (n := n)
      (by norm_num)
    rw [← hR] at hsimple
    have hcast : ((2 ^ 60 + base.bits * n : ℕ) : ℚ) ≤ (R.bits : ℕ) := Nat.cast_le.2 hsimple
    push_cast at hcast
    rw [Fraction.toRat, Fraction.toRat, le_div_iff₀ (by positivity)]
    linarith
  · have hpow := Compounding.factor_le_pow (N := 2 ^ 60) (b := base.bits) (n := n) (by norm_num)
    rw [← hR] at hpow
    refine le_trans (le_of_eq ?_) (hpow.trans (pow_le_pow_left₀ (by positivity) ?_ _))
    · rw [Fraction.toRat, Nat.cast_pow, Nat.cast_ofNat]
    · have htrunc : ((rate.bits / slotsPerYear : ℕ) : ℚ) ≤ rate.bits / slotsPerYear :=
        Nat.cast_div_le
      rw [Fraction.toRat, hbase.2, Nat.cast_pow, Nat.cast_ofNat, div_right_comm]
      gcongr

/-- Half a year at a yearly rate of 50%. -/
theorem approximateCompoundedInterest_halfYear : ∃ base R,
    (Fraction.fromPercent 50).divInt slotsPerYear = .ok base ∧
    approximateCompoundedInterest (Fraction.fromPercent 50) 31536000 = .ok R ∧
    1 + 31536000 * base.toRat ≤ R.toRat ∧
      R.toRat ≤ (1 + (Fraction.fromPercent 50).toRat / slotsPerYear) ^ 31536000 := by
  rcases exists_eq_ok (x := (Fraction.fromPercent 50).divInt slotsPerYear) (p := fun _ ↦ true)
    (by decide) with ⟨base, hbase, -⟩
  rcases exists_eq_ok (x := approximateCompoundedInterest (Fraction.fromPercent 50) 31536000)
    (p := fun _ ↦ true) (by decide) with ⟨R, hR, -⟩
  exact ⟨base, R, hbase, hR, approximateCompoundedInterest_bounded hbase hR⟩

/-- The largest rate of a curve, and the largest fixed rate on top of it. -/
def largestInterestRate : ℕ :=
  (Fraction.fromBps (Word.widen (Word.max 32))).bits +
    (Fraction.fromBps (Word.widen (Word.max 16))).bits

theorem interestRate_le_largest {c : BorrowRateCurve} {u r : Fraction} {bps : U16}
    (hc : c.validate = .ok ()) (hr : c.getBorrowRate u = .ok r) :
    r.bits + (Fraction.fromBps bps.widen).bits ≤ largestInterestRate := by
  obtain ⟨k, hk⟩ := BorrowRateCurve.exists_roundedBps u
  obtain ⟨p, q, r', -, hr', hrate⟩ := BorrowRateCurve.getBorrowRate_spec hc hk
  obtain rfl := Except.ok.inj (hr'.symm.trans hr)
  have hcurve := hrate.upper
  have hq := q.borrowRateBps.isLt
  have hbps := bps.isLt
  rw [Fraction.le_iff, Fraction.bits_fromBps, Word.widen_val] at hcurve
  rw [largestInterestRate, Fraction.bits_fromBps, Fraction.bits_fromBps, Fraction.bits_fromBps,
    Word.widen_val, Word.widen_val, Word.widen_val, Word.max_val, Word.max_val]
  omega

theorem approximateCompoundedInterest_le_of_slots {rate : Fraction} {n m : U64} {R S : Fraction}
    (hrate : rate.bits ≤ largestInterestRate) (hnm : n ≤ m)
    (hR : approximateCompoundedInterest rate n = .ok R)
    (hS : approximateCompoundedInterest rate m = .ok S) : R ≤ S := by
  rw [Fraction.le_iff, approximateCompoundedInterest_eq_ok hR,
    approximateCompoundedInterest_eq_ok hS]
  apply Compounding.factor_le_factor (by norm_num) ?_ (Fin.le_def.1 hnm)
  have hlargest : largestInterestRate / slotsPerYear * 4 ≤ 2 ^ 60 := by decide
  have hbase := Nat.div_le_div_right (c := slotsPerYear) hrate
  omega

theorem BorrowRateCurve.interest_monotone {c : BorrowRateCurve} {u r rate : Fraction} {bps : U16}
    {n m : U64} {R S : Fraction} (hc : c.validate = .ok ()) (hr : c.getBorrowRate u = .ok r)
    (hrate : r.add (Fraction.fromBps bps.widen) = .ok rate) (hnm : n ≤ m)
    (hR : approximateCompoundedInterest rate n = .ok R)
    (hS : approximateCompoundedInterest rate m = .ok S) : R ≤ S := by
  have hlargest := @interestRate_le_largest c u r bps hc hr
  rw [← Fraction.add_eq_ok.1 hrate] at hlargest
  exact approximateCompoundedInterest_le_of_slots hlargest hnm hR hS

/-- More slots and higher rates yield no less interest. -/
theorem approximateCompoundedInterest_monotone :
    (∀ (rate : Fraction) (n m : U64) (R S : Fraction), rate.bits ≤ largestInterestRate → n ≤ m →
      approximateCompoundedInterest rate n = .ok R → approximateCompoundedInterest rate m = .ok S →
      R ≤ S) ∧
    ∀ (rate rate' : Fraction) (n : U64) (R S : Fraction), rate ≤ rate' →
      rate'.bits ≤ largestInterestRate → approximateCompoundedInterest rate n = .ok R →
      approximateCompoundedInterest rate' n = .ok S → R ≤ S := by
  constructor
  · exact fun rate n m R S ↦ approximateCompoundedInterest_le_of_slots
  · intro rate rate' n R S hrate _ hR hS
    rw [Fraction.le_iff, approximateCompoundedInterest_eq_ok hR,
      approximateCompoundedInterest_eq_ok hS]
    exact Compounding.factor_mono (Nat.div_le_div_right (Fraction.le_iff.1 hrate))

/-- From the last exact power to the first expansion, at a yearly rate of 50%. -/
theorem approximateCompoundedInterest_fifthSlot : ∃ R S,
    approximateCompoundedInterest (Fraction.fromPercent 50) 4 = .ok R ∧
    approximateCompoundedInterest (Fraction.fromPercent 50) 5 = .ok S ∧ R ≤ S := by
  rcases exists_eq_ok (x := approximateCompoundedInterest (Fraction.fromPercent 50) 4)
    (p := fun _ ↦ true) (by decide) with ⟨R, hR, -⟩
  rcases exists_eq_ok (x := approximateCompoundedInterest (Fraction.fromPercent 50) 5)
    (p := fun _ ↦ true) (by decide) with ⟨S, hS, -⟩
  exact ⟨R, S, hR, hS, approximateCompoundedInterest_monotone.1 _ 4 5 R S (by decide)
    (by decide) hR hS⟩

end Klend
