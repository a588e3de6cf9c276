import Klend.Accounting.ReserveOperations
import Klend.Lending.ObligationSpecs
import Klend.Library.Rounding

/-! # The amounts of a borrow

How a fee is split, what is lent out in each of the two modes of a borrow, and what
the lent amount is worth.
-/

namespace Klend

namespace ReserveFees

variable {amount : Fraction} {feeSf fee referralFee : U64} {mode : FeeCalculation} {bps : U16}
  {hasReferrer : Bool}

theorem fullBps_val : (fullBps : ℕ) = 10000 := by decide

/-- The fee before its minimum: on top of the amount, or the part of the amount that leaves the
rest at the rate. -/
def chargedFee (feeSf : U64) (amount : Fraction) : FeeCalculation → ℕ
  | .exclusive => amount.bits * feeSf / 2 ^ 60
  | .inclusive => amount.bits * (feeSf * 2 ^ 60 / (feeSf + 2 ^ 60)) / 2 ^ 60

/-- The whole fee in tokens. -/
def totalFee (feeSf : U64) (amount : Fraction) (mode : FeeCalculation) : ℕ :=
  (max (chargedFee feeSf amount mode) (2 ^ 60) + 2 ^ 59) / 2 ^ 60

theorem zero_lt_iff {x : Fraction} : Fraction.zero < x ↔ x.bits ≠ 0 := by
  rw [Fraction.lt_iff, Fraction.bits_zero, Nat.pos_iff_ne_zero]

/-- The referrer's share of a fee. -/
def referralShare (borrowFeeF : Fraction) (borrowFee : U64) (bps : U16) (hasReferrer : Bool) :
    Result U64 :=
  if Fraction.zero < Fraction.fromBps bps.widen ∧ hasReferrer then
    if bps = fullBps then pure borrowFee
    else do
      let referralFeeF ← borrowFeeF.mul (Fraction.fromBps bps.widen)
      referralFeeF.toFloor
  else pure 0

/-- What remains of the computation once the fee before its minimum is known. -/
def splitFee (amount charged : Fraction) (bps : U16) (hasReferrer : Bool) :
    Result (U64 × U64) := do
  let borrowFeeF := max charged (Fraction.fromNum 1)
  require (borrowFeeF < amount) .borrowTooSmall
  let borrowFee ← borrowFeeF.toRound
  let referralFee ← referralShare borrowFeeF borrowFee bps hasReferrer
  let protocolFee ← Word.sub borrowFee referralFee
  pure (protocolFee, referralFee)

theorem referralShare_eq_zero {f : Fraction} {total share : U64}
    (hnot : ¬ (hasReferrer = true ∧ 0 < bps))
    (h : referralShare f total bps hasReferrer = .ok share) : share = 0 := by
  unfold referralShare at h
  rw [if_neg, pure_eq_ok] at h
  · exact h.symm
  · rintro ⟨hbps, href⟩
    refine hnot ⟨href, ?_⟩
    rw [zero_lt_iff, Fraction.bits_fromBps, Word.widen_val] at hbps
    rw [Fin.lt_def]
    exact Nat.pos_of_ne_zero fun h0 ↦ hbps (by rw [h0]; rfl)

theorem calculateFees_eq_splitFee (hfee : feeSf ≠ 0) (hamount : amount.bits ≠ 0) :
    ∃ charge : Result Fraction, (∀ c, charge = .ok c ↔ c.bits = chargedFee feeSf amount mode) ∧
      calculateFees amount feeSf mode bps hasReferrer =
        charge >>= fun c ↦ splitFee amount c bps hasReferrer := by
  have hrate : Fraction.zero < fromBitsU64 feeSf := zero_lt_iff.2 fun h0 ↦ hfee (Fin.ext h0)
  unfold calculateFees
  dsimp only
  rw [if_pos ⟨hrate, zero_lt_iff.2 hamount⟩]
  cases mode with
  | exclusive =>
    refine ⟨amount.mul (fromBitsU64 feeSf), fun c ↦ Fraction.mul_eq_ok, ?_⟩
    simp only [splitFee, referralShare, ← bind_of_ite, bind_assoc]
  | inclusive =>
    refine ⟨(fromBitsU64 feeSf).add Fraction.one >>= fun onePlus ↦
      (fromBitsU64 feeSf).div onePlus >>= amount.mul, fun c ↦ ?_, ?_⟩
    · have hsum : (feeSf : ℕ) + 2 ^ 60 < 2 ^ 128 := by omega
      have hquotient : (feeSf * 2 ^ 60 / (feeSf + 2 ^ 60) : ℕ) < 2 ^ 128 :=
        (Nat.div_le_self _ _).trans_lt (by omega)
      simp only [bind_eq_ok, Fraction.add_eq_ok, Fraction.div_eq_ok, Fraction.mul_eq_ok,
        bits_fromBitsU64, Fraction.bits_one]
      constructor
      · rintro ⟨onePlus, hone, rate, ⟨-, hdiv⟩, hmul⟩
        rw [hmul, hdiv, hone]
        rfl
      · intro hc
        exact ⟨⟨_, hsum⟩, rfl, ⟨_, hquotient⟩, ⟨by dsimp only; omega, rfl⟩, hc⟩
    · simp only [splitFee, referralShare, ← bind_of_ite, bind_assoc]

theorem calculateFees_zero (h : feeSf = 0 ∨ amount.bits = 0) :
    calculateFees amount feeSf mode bps hasReferrer = .ok (0, 0) := by
  have hnot : ¬ (Fraction.zero < fromBitsU64 feeSf ∧ Fraction.zero < amount) := by
    rw [zero_lt_iff, zero_lt_iff, bits_fromBitsU64]
    rintro ⟨hfee, hamount⟩
    exact h.elim (fun h0 ↦ hfee (by rw [h0]; rfl)) hamount
  unfold calculateFees
  exact if_neg hnot

theorem calculateFees_spec
    (h : calculateFees amount feeSf mode bps hasReferrer = .ok (fee, referralFee)) :
    ((feeSf = 0 ∨ amount.bits = 0) ∧ fee = 0 ∧ referralFee = 0) ∨
    (feeSf ≠ 0 ∧ max (chargedFee feeSf amount mode) (2 ^ 60) < amount.bits ∧
      (fee : ℕ) + referralFee = totalFee feeSf amount mode ∧
      (¬ (hasReferrer = true ∧ 0 < bps) → referralFee = 0)) := by
  by_cases hzero : feeSf = 0 ∨ amount.bits = 0
  · rw [calculateFees_zero hzero, Except.ok.injEq, Prod.mk.injEq] at h
    exact .inl ⟨hzero, h.1.symm, h.2.symm⟩
  · rw [not_or] at hzero
    obtain ⟨charge, hcharge, heq⟩ := calculateFees_eq_splitFee hzero.1 hzero.2
    rw [heq] at h
    simp only [splitFee, bind_eq_ok, require_eq_ok, pure_eq_ok, Word.sub_eq_ok, Prod.mk.injEq,
      Fraction.toRound_eq_ok] at h
    obtain ⟨charged, hcharged, -, hless, total, htotal, share, hshare, rest, hrest, rfl, rfl⟩ := h
    have hone : (Fraction.fromNum 1).bits = 2 ^ 60 := by rw [Fraction.bits_fromNum]; rfl
    rw [Fraction.lt_iff, Fraction.bits_max, hone, (hcharge _).1 hcharged] at hless
    rw [Fraction.bits_max, hone, (hcharge _).1 hcharged] at htotal
    refine .inr ⟨hzero.1, hless, hrest.trans htotal, fun hnot ↦ ?_⟩
    exact referralShare_eq_zero hnot hshare

theorem mul_rate_le {n rate : ℕ} (h : rate ≤ 2 ^ 60) : n * rate / 2 ^ 60 ≤ n := by
  refine Nat.div_le_of_le_mul ?_
  rw [mul_comm]
  exact Nat.mul_le_mul_right n h

theorem referralShare_le {f : Fraction} {total share : U64} (hbps : bps ≤ fullBps)
    (htotal : f.toRound = .ok total) (h : referralShare f total bps hasReferrer = .ok share) :
    share ≤ total := by
  rw [Fraction.toRound_eq_ok] at htotal
  unfold referralShare at h
  split at h
  · split at h
    · exact (pure_eq_ok.1 h).symm.le
    · simp only [bind_eq_ok, Fraction.mul_eq_ok, Fraction.toFloor_eq_ok, Fraction.bits_fromBps,
        Word.widen_val] at h
      obtain ⟨part, hpart, hshare⟩ := h
      rw [Fin.le_def, fullBps_val] at hbps
      have hrate : (bps * 2 ^ 60 / 10000 : ℕ) ≤ 2 ^ 60 := by omega
      have hle : part.bits ≤ f.bits := hpart.trans_le (mul_rate_le hrate)
      rw [Fin.le_def]
      omega
  · rw [← pure_eq_ok.1 h]
    exact Nat.zero_le _

theorem exists_referralShare {f : Fraction} {total : U64} (hbps : bps ≤ fullBps)
    (htotal : f.toRound = .ok total) :
    ∃ share, referralShare f total bps hasReferrer = .ok share := by
  rw [Fraction.toRound_eq_ok] at htotal
  have hlt := total.isLt
  rw [Fin.le_def, fullBps_val] at hbps
  unfold referralShare
  split
  · split
    · exact ⟨total, rfl⟩
    · have hle : f.bits * (bps * 2 ^ 60 / 10000) / 2 ^ 60 ≤ f.bits := mul_rate_le (by omega)
      simp only [bind_eq_ok, Fraction.mul_eq_ok, Fraction.toFloor_eq_ok, Fraction.bits_fromBps,
        Word.widen_val]
      refine ⟨⟨f.bits * (bps * 2 ^ 60 / 10000) / 2 ^ 60 / 2 ^ 60, by omega⟩,
        ⟨_, hle.trans_lt f.isLt⟩, rfl, rfl⟩
  · exact ⟨0, rfl⟩

theorem inclusiveRate_le {n : ℕ} (hn : n < 2 ^ 60) : n * 2 ^ 60 / (n + 2 ^ 60) ≤ 2 ^ 59 := by
  refine Nat.div_le_of_le_mul ?_
  omega

theorem chargedFee_lt (hfee : (feeSf : ℕ) < 2 ^ 60) (hamount : amount.bits ≠ 0) :
    chargedFee feeSf amount mode < amount.bits := by
  cases mode with
  | exclusive =>
    rw [chargedFee, Nat.div_lt_iff_lt_mul (by norm_num)]
    exact Nat.mul_lt_mul_of_pos_left hfee (Nat.pos_of_ne_zero hamount)
  | inclusive =>
    rw [chargedFee, Nat.div_lt_iff_lt_mul (by norm_num)]
    exact Nat.mul_lt_mul_of_pos_left ((inclusiveRate_le hfee).trans_lt (by norm_num))
      (Nat.pos_of_ne_zero hamount)

theorem totalFee_inclusive_le (hfee : (feeSf : ℕ) < 2 ^ 60)
    (hless : max (chargedFee feeSf amount .inclusive) (2 ^ 60) < amount.bits) :
    totalFee feeSf amount .inclusive ≤ amount.bits / 2 ^ 60 := by
  have hhalf : chargedFee feeSf amount .inclusive ≤ amount.bits / 2 := by
    have hmul := Nat.mul_le_mul_left amount.bits (inclusiveRate_le hfee)
    show amount.bits * (feeSf * 2 ^ 60 / (feeSf + 2 ^ 60)) / 2 ^ 60 ≤ amount.bits / 2
    omega
  unfold totalFee
  generalize chargedFee feeSf amount .inclusive = charged at *
  omega

/-- A validated fee on a token amount is refused only for leaving nothing to receive. -/
theorem calculateFees_total (hfee : (feeSf : ℕ) < 2 ^ 60) (hbps : bps ≤ fullBps)
    (hamount : amount ≤ Fraction.fromNum (Word.max 64)) :
    calculateFees amount feeSf mode bps hasReferrer = err .borrowTooSmall ∨
      ∃ fees, calculateFees amount feeSf mode bps hasReferrer = .ok fees := by
  by_cases hzero : feeSf = 0 ∨ amount.bits = 0
  · exact .inr ⟨_, calculateFees_zero hzero⟩
  rw [not_or] at hzero
  obtain ⟨charge, hcharge, heq⟩ := calculateFees_eq_splitFee hzero.1 hzero.2
  have hlt : chargedFee feeSf amount mode < amount.bits := chargedFee_lt hfee hzero.2
  obtain ⟨charged, hbits⟩ : ∃ c : Fraction, c.bits = chargedFee feeSf amount mode :=
    ⟨⟨_, hlt.trans amount.isLt⟩, rfl⟩
  rw [heq, (hcharge charged).2 hbits, ok_bind, splitFee]
  by_cases hless : max charged (Fraction.fromNum 1) < amount
  · obtain ⟨total, htotal⟩ : ∃ n, (max charged (Fraction.fromNum 1)).toRound = .ok n := by
      rw [Fraction.le_iff, Fraction.bits_fromNum, Word.max_val] at hamount
      rw [Fraction.lt_iff] at hless
      exact ⟨⟨_, by omega⟩, Fraction.toRound_eq_ok.2 rfl⟩
    obtain ⟨share, hshare⟩ := exists_referralShare hbps htotal
    obtain ⟨rest, hrest⟩ : ∃ n, Word.sub total share = .ok n := by
      have hle := referralShare_le hbps htotal hshare
      rw [Fin.le_def] at hle
      exact ⟨⟨total - share, by omega⟩, Word.sub_eq_ok.2 (by dsimp only; omega)⟩
    right
    exact ⟨(rest, share), by
      rw [require_eq_ok (u := ()).2 hless, ok_bind, htotal, ok_bind, hshare, ok_bind, hrest,
        ok_bind]
      rfl⟩
  · left
    rw [require, if_neg hless]
    rfl

end ReserveFees

namespace Reserve

variable {r : Reserve} {amount : U64} {value remaining : Fraction} {bps : U16}
  {inGroup hasReferrer : Bool} {res : CalculateBorrowResult}

/-- An explicit amount is received whole and its fee is added; otherwise the fee comes out of the
largest amount that the value, the reserve's limit and its liquidity allow. -/
theorem calculateBorrow_cases
    (h : r.calculateBorrow amount value remaining bps inGroup hasReferrer = .ok res) :
    ∃ decimals : U64, (decimals : ℕ) = 10 ^ ((r.liquidity.mintDecimals : ℕ) % 2 ^ 32) ∧
    ((amount = Word.max 64 ∧ ∃ scaled atPrice atFactor borrowAmount,
        value.mulInt decimals = .ok scaled ∧
        scaled.div r.liquidity.marketPriceSf = .ok atPrice ∧
        atPrice.div (r.borrowFactorF inGroup) = .ok atFactor ∧
        res.borrowAmountF = min (min atFactor remaining)
          (Fraction.fromNum r.liquidity.availableAmount) ∧
        r.config.fees.calculateBorrowFees res.borrowAmountF .inclusive bps hasReferrer =
          .ok (res.borrowFee, res.referrerFee) ∧
        res.borrowAmountF.toFloor = .ok borrowAmount ∧
        (res.receiveAmount + res.borrowFee + res.referrerFee : ℕ) = borrowAmount) ∨
      (amount ≠ Word.max 64 ∧ res.receiveAmount = amount ∧ ∃ atPrice perUnit adjusted,
        r.config.fees.calculateBorrowFees (Fraction.fromNum amount) .exclusive bps hasReferrer =
          .ok (res.borrowFee, res.referrerFee) ∧
        res.borrowAmountF.bits =
          (res.receiveAmount + res.borrowFee + res.referrerFee : ℕ) * 2 ^ 60 ∧
        res.borrowAmountF.mul r.liquidity.marketPriceSf = .ok atPrice ∧
        atPrice.divInt decimals = .ok perUnit ∧
        perUnit.mul (r.borrowFactorF inGroup) = .ok adjusted ∧ adjusted ≤ value)) := by
  unfold calculateBorrow at h
  by_cases hmax : amount = Word.max 64
  · simp only [if_pos hmax, bind_eq_ok, pure_eq_ok, okOr_eq_ok, Word.checkedFit_eq_some,
      Prod.exists, Word.sub_eq_ok] at h
    obtain ⟨decimals, hdecimals, scaled, hscaled, atPrice, hprice, atFactor, hfactor, fee, ref,
      hfees, n, hn, less, hless, rest, hrest, rfl⟩ := h
    refine ⟨decimals, hdecimals, .inl ⟨hmax, scaled, atPrice, atFactor, n, hscaled, hprice,
      hfactor, rfl, hfees, hn, ?_⟩⟩
    dsimp only
    omega
  · simp only [if_neg hmax, bind_eq_ok, pure_eq_ok, okOr_eq_ok, Word.checkedFit_eq_some,
      Prod.exists, Word.add_eq_ok, require_eq_ok] at h
    obtain ⟨decimals, hdecimals, fee, ref, hfees, total, htotal, f, hf, atPrice, hprice, perUnit,
      hunit, adjusted, hadjusted, -, hle, rfl⟩ := h
    refine ⟨decimals, hdecimals, .inr ⟨hmax, rfl, atPrice, perUnit, adjusted, hfees, ?_, hprice,
      hunit, hadjusted, hle⟩⟩
    rw [Fraction.add_eq_ok, Fraction.bits_fromNum, Fraction.bits_fromNum, htotal] at hf
    rw [hf]
    ring

end Reserve

section

variable {market : LendingMarket} {r r' : Reserve} {o o' : Obligation} {clock : Clock}
  {amount : U64} {key : Pubkey} {ost ost' : Option ReferrerTokenState} {rs rs' : Reserves}
  {iter : List Pubkey} {res : CalculateBorrowResult}

theorem Reserve.calculateBorrow_referrerFee {value remaining : Fraction} {bps : U16}
    {inGroup hasReferrer : Bool} (hnot : ¬ (hasReferrer = true ∧ 0 < bps))
    (h : r.calculateBorrow amount value remaining bps inGroup hasReferrer = .ok res) :
    res.referrerFee = 0 := by
  obtain ⟨-, -, ⟨-, -, -, -, -, -, -, -, -, hfees, -, -⟩ | ⟨-, -, -, -, -, hfees, -⟩⟩ :=
    calculateBorrow_cases h
  all_goals
    rcases ReserveFees.calculateFees_spec hfees with ⟨-, -, h0⟩ | ⟨-, -, -, h0⟩
    · exact h0
    · exact h0 hnot

/-- What a borrow does to its reserve: it lends out whole tokens, keeps the referrer's share of the
fee, and changes nothing that prices it. -/
theorem borrowObligationLiquidity_reserve
    (h : borrowObligationLiquidity market r o amount clock key ost rs iter =
      .ok (r', o', ost', rs', res)) :
    ∃ (available outside : U64) (borrowed referrerFees : Fraction) (cap : WithdrawalCaps),
      r' = Reserve.markStale { r with
        borrowedAmountOutsideElevationGroup := outside
        liquidity := { r.liquidity with
          availableAmount := available
          borrowedAmountSf := borrowed
          accumulatedReferrerFeesSf := referrerFees }
        config := { r.config with debtWithdrawalCap := cap } } ∧
      borrowed.bits = r.liquidity.borrowedAmountSf.bits + res.borrowAmountF.bits ∧
      (available : ℕ) + res.borrowAmountF.bits / 2 ^ 60 =
        r.liquidity.availableAmount + res.referrerFee ∧
      referrerFees.bits = r.liquidity.accumulatedReferrerFeesSf.bits + res.referrerFee * 2 ^ 60 := by
  obtain ⟨-, -, -, hcalc, n, cap, l, tier, o₁, i, b, b₁, r₁, group, b₂, -, hl, -, -, -, hcredit, -,
    htrack, -⟩ := borrowObligationLiquidity_spec h
  obtain ⟨a, d, rfl, ha, hd⟩ := Reserve.liquidity_borrow_spec hl
  obtain ⟨outside, rfl⟩ := updateOnBorrow_frame htrack
  rw [unit_eq] at ha
  by_cases hreferred : ost.isSome ∧ 0 < market.referralFeeBps
  · obtain ⟨st, cu, un, p, a', -, -, rfl, -, -, hp, ha'⟩ :=
      creditReferrer_credits hreferred.1 hreferred.2 hcredit
    refine ⟨a', outside, d, p, cap, rfl, hd, ?_, hp⟩
    rw [← ha, ha']
    show (a + res.referrerFee : ℕ) + _ = _
    omega
  · obtain ⟨rfl, -⟩ := creditReferrer_of_not hreferred hcredit
    have h0 : res.referrerFee = 0 := Reserve.calculateBorrow_referrerFee hreferred hcalc
    exact ⟨a, outside, d, _, cap, rfl, hd, by rw [h0]; exact ha, by rw [h0]; simp⟩

theorem borrowObligationLiquidity_values
    (h : borrowObligationLiquidity market r o amount clock key ost rs iter =
      .ok (r', o', ost', rs', res)) :
    o'.elevationGroup = o.elevationGroup ∧
      o'.borrowFactorAdjustedDebtValueSf = o.borrowFactorAdjustedDebtValueSf := by
  obtain ⟨-, -, -, -, n, cap, l, tier, o₁, i, b, b₁, r₁, group, b₂, -, -, hfind, hb, -, -, -,
    htrack, -⟩ := borrowObligationLiquidity_spec h
  obtain ⟨⟨-, -, hframe⟩, -⟩ := updateOnBorrow_retracked htrack
  rw [hframe]
  obtain ⟨rfl, -⟩ | ⟨-, -, -, rfl⟩ := findOrAddLiquidity_spec hfind hb
  · exact ⟨rfl, rfl⟩
  · exact ⟨rfl, rfl⟩

end

end Klend
