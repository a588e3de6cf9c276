import Klend.Lending.ScopePrices
import Klend.Machine.Rational
import Mathlib.Algebra.Order.Floor.Semifield
import Mathlib.Data.Rat.Floor

/-! # Oracle prices are exact or refused

A price is converted to the fraction below it, a chain to the fraction below its product,
of which the cuts to eighteen decimals may have taken something. Only the shift of the
conversion loses high bits, from 2^196 on.
-/

namespace Klend

namespace Price

variable {w : ℕ}

def toDecimal (p : Price w) : Decimal := ⟨p.value, p.exp⟩

variable {p p' acc x : Price 256} {chain : List (Price 64)} {f : Fraction}

theorem toDecimal_inj : p.toDecimal = p'.toDecimal ↔ p = p' := by
  cases p
  cases p'
  simp [toDecimal, Fin.ext_iff]

@[simp] theorem toDecimal_sizeUp (x : Price 64) : x.sizeUp.toDecimal = x.toDecimal := rfl

theorem tenPow_eq_ok {n m : ℕ} : Prices.tenPow n = .ok m ↔ n ≤ 36 ∧ 10 ^ n = m := by
  unfold Prices.tenPow
  split
  · next h => simp [h]
  · next h => simp [h, abort]

/-- A price of 256 bits is cut to the kept decimals, unless the power of ten is not at hand. -/
theorem reduceExpLossy_eq_ok : p.reduceExpLossy targetPriceDecimals = .ok (some p') ↔
    (p.exp : ℕ) ≤ 54 ∧ p'.toDecimal = p.toDecimal.cut 18 := by
  have htarget : (targetPriceDecimals : ℕ) = 18 := rfl
  unfold reduceExpLossy
  split
  · next hle =>
    rw [Fin.le_def, htarget] at hle
    rw [pure_eq_ok, Option.some.injEq, Decimal.cut, if_pos (show p.toDecimal.exp ≤ 18 from hle),
      toDecimal_inj, eq_comm]
    exact (and_iff_right (by omega)).symm
  · next hlt =>
    rw [Fin.le_def, htarget] at hlt
    have hne : targetPriceDecimals ≠ p.exp := by
      intro h
      rw [← h, htarget] at hlt
      exact hlt le_rfl
    have hcut : p.toDecimal.cut 18 = ⟨(p.value : ℕ) / 10 ^ ((p.exp : ℕ) - 18), 18⟩ := if_neg hlt
    rw [toAdjustedExp, if_neg hne, if_pos (show targetPriceDecimals < p.exp from by
      rw [Fin.lt_def, htarget]; omega), hcut]
    simp only [bind_eq_ok, Word.sub_eq_ok, pure_eq_ok, htarget, tenPow_eq_ok]
    constructor
    · rintro ⟨diff, hdiff, _, ⟨hsmall, rfl⟩, _, rfl, hp'⟩
      simp only [Option.bind_eq_bind, Option.bind_eq_some_iff, Word.checkedFit_eq_some,
        Option.some.injEq] at hp'
      obtain ⟨value, hvalue, value', hvalue', rfl⟩ := hp'
      refine ⟨by omega, ?_⟩
      rw [toDecimal, hvalue', hvalue, show (diff : ℕ) = (p.exp : ℕ) - 18 by omega]
      rfl
    · rintro ⟨hexp, hp'⟩
      obtain ⟨hvalue, hexp'⟩ := Decimal.mk.inj hp'
      refine ⟨⟨(p.exp : ℕ) - 18, by omega⟩, by dsimp only; omega, _,
        ⟨by dsimp only; omega, rfl⟩, _, rfl, ?_⟩
      simp only [Option.bind_eq_bind, Option.bind_eq_some_iff, Word.checkedFit_eq_some,
        Option.some.injEq]
      refine ⟨p'.value, hvalue, p'.value, rfl, ?_⟩
      rw [← toDecimal_inj, toDecimal, toDecimal, Decimal.mk.injEq, hexp']
      exact ⟨rfl, rfl⟩

theorem factor_eq_ok {exp : U32} : p.factor exp = .ok (some p') ↔
    (36 < (exp : ℕ) → (p.exp : ℕ) ≤ 54) ∧
      p'.toDecimal = if (exp : ℕ) ≤ 36 then p.toDecimal else p.toDecimal.cut 18 := by
  have hmax : (maxPriceDecimalsU256 : ℕ) = 36 := rfl
  unfold factor
  simp only [Fin.lt_def, hmax]
  by_cases hmany : 36 < (exp : ℕ)
  · rw [if_pos hmany, if_neg (not_le.2 hmany), reduceExpLossy_eq_ok, forall_prop_of_true hmany]
  · rw [if_neg hmany, if_pos (not_lt.1 hmany), pure_eq_ok, Option.some.injEq, toDecimal_inj,
      eq_comm]
    exact (and_iff_right fun h ↦ absurd h hmany).symm

theorem exists_toDecimal {d : Decimal} (hmantissa : d.mantissa < 2 ^ 256) (hexp : d.exp < 2 ^ 32) :
    ∃ p : Price 256, p.toDecimal = d :=
  ⟨⟨⟨d.mantissa, hmantissa⟩, ⟨d.exp, hexp⟩⟩, rfl⟩

theorem exists_factor {exp : U32} (h : 36 < (exp : ℕ) → (p.exp : ℕ) ≤ 54) : ∃ p',
    p.factor exp = .ok (some p') ∧
      p'.toDecimal = if (exp : ℕ) ≤ 36 then p.toDecimal else p.toDecimal.cut 18 := by
  have hcut : ∃ p' : Price 256, p'.toDecimal = p.toDecimal.cut 18 := by
    apply exists_toDecimal
    · exact Decimal.mantissa_cut_le.trans_lt p.value.isLt
    · rw [Decimal.exp_cut]
      exact (min_le_left _ _).trans_lt p.exp.isLt
  obtain ⟨cut, hcut⟩ := hcut
  by_cases hmany : (exp : ℕ) ≤ 36
  · exact ⟨p, factor_eq_ok.2 ⟨h, (if_pos hmany).symm⟩, (if_pos hmany).symm⟩
  · rw [if_neg hmany]
    exact ⟨cut, factor_eq_ok.2 ⟨h, by rw [if_neg hmany, hcut]⟩, hcut⟩

theorem multiply_eq_ok_iff : multiply acc x = .ok (some p') ↔
    ∃ (exp : U32) (current next : Price 256), (exp : ℕ) = acc.exp + x.exp ∧
      acc.factor exp = .ok (some current) ∧ x.factor exp = .ok (some next) ∧
      p'.toDecimal = current.toDecimal.mul next.toDecimal := by
  unfold multiply
  simp only [bind_eq_ok, Word.add_eq_ok]
  constructor
  · rintro ⟨exp, hexp, _ | current, hcurrent, h⟩
    · cases h
    simp only [bind_eq_ok] at h
    obtain ⟨_ | next, hnext, h⟩ := h
    · cases h
    dsimp only at h
    split at h
    · cases h
    · next value hvalue =>
      simp only [bind_eq_ok, Word.add_eq_ok, pure_eq_ok, Option.some.injEq,
        Word.checkedFit_eq_some] at h hvalue
      obtain ⟨exp', hexp', rfl⟩ := h
      apply Exists.intro exp
      apply Exists.intro current
      apply Exists.intro next
      exact ⟨hexp, hcurrent, hnext, Decimal.ext hvalue hexp'⟩
  · rintro ⟨exp, current, next, hexp, hcurrent, hnext, hp'⟩
    obtain ⟨hvalue, hexp'⟩ := Decimal.mk.inj hp'
    apply Exists.intro exp
    apply And.intro hexp
    apply Exists.intro (some current)
    apply And.intro hcurrent
    simp only [bind_eq_ok]
    apply Exists.intro (some next)
    apply And.intro hnext
    dsimp only
    rw [show Word.checkedFit 256 (current.value * next.value : ℕ) = some p'.value from
      Word.checkedFit_eq_some.2 hvalue]
    simp only [bind_eq_ok, Word.add_eq_ok, pure_eq_ok]
    exact ⟨p'.exp, hexp', rfl⟩

/-- A step of the chain, which succeeds where the last price has no more decimals than can be
cut and the product fits. -/
theorem multiply_eq_ok (hacc : (acc.exp : ℕ) ≤ 36) :
    multiply acc x = .ok (some p') ↔
      ((acc.exp : ℕ) + x.exp ≤ 36 ∨ (x.exp : ℕ) ≤ 54) ∧
        p'.toDecimal = Decimal.mulCut 36 18 acc.toDecimal x.toDecimal := by
  have hmul : ∀ {exp : ℕ} {current next : Decimal}, exp = acc.exp + x.exp →
      (current = if exp ≤ 36 then acc.toDecimal else acc.toDecimal.cut 18) →
      (next = if exp ≤ 36 then x.toDecimal else x.toDecimal.cut 18) →
      current.mul next = Decimal.mulCut 36 18 acc.toDecimal x.toDecimal := by
    rintro exp current next rfl rfl rfl
    unfold Decimal.mulCut
    by_cases hmany : (acc.exp : ℕ) + x.exp ≤ 36
    · simp [toDecimal, hmany]
    · simp [toDecimal, hmany]
  rw [multiply_eq_ok_iff]
  constructor
  · rintro ⟨exp, current, next, hexp, hcurrent, hnext, hp'⟩
    rw [factor_eq_ok] at hcurrent hnext
    constructor
    · have hsmall := hnext.1
      omega
    · rw [hp', hmul hexp hcurrent.2 hnext.2]
  · rintro ⟨hsmall, hp'⟩
    have hword : (acc.exp : ℕ) + x.exp < 2 ^ 32 := by omega
    obtain ⟨current, hcurrent, hcur⟩ :=
      @exists_factor acc ⟨_, hword⟩ fun _ ↦ by omega
    obtain ⟨next, hnext, hnex⟩ :=
      @exists_factor x ⟨_, hword⟩ fun h ↦ hsmall.resolve_left (not_le.2 h)
    exact ⟨_, current, next, rfl, hcurrent, hnext, by rw [hp', hmul rfl hcur hnex]⟩

/-- No step of a chain aborts, or gives a product that does not fit. -/
def Fits : Decimal → List Decimal → Prop
  | _, [] => True
  | x, y :: ys =>
    (x.exp + y.exp ≤ 36 ∨ y.exp ≤ 54) ∧ (Decimal.mulCut 36 18 x y).mantissa < 2 ^ 256 ∧
      Fits (Decimal.mulCut 36 18 x y) ys

instance decidableFits : ∀ x ys, Decidable (Fits x ys)
  | _, [] => isTrue trivial
  | x, y :: ys =>
    have := decidableFits (Decimal.mulCut 36 18 x y) ys
    inferInstanceAs (Decidable (_ ∧ _ ∧ _))

theorem multiplyAll_eq_ok (hacc : (acc.exp : ℕ) ≤ 36) :
    multiplyAll acc chain = .ok (some p') ↔
      Fits acc.toDecimal (chain.map toDecimal) ∧
        p'.toDecimal = Decimal.product 36 18 acc.toDecimal (chain.map toDecimal) := by
  induction chain generalizing acc with
  | nil =>
    simp only [multiplyAll, pure_eq_ok, Option.some.injEq, List.map_nil, Fits, Decimal.product,
      List.foldl_nil, true_and, toDecimal_inj]
    exact eq_comm
  | cons x rest ih =>
    simp only [multiplyAll, bind_eq_ok, List.map_cons, Fits, Decimal.product, List.foldl_cons]
    have hexp : (Decimal.mulCut 36 18 acc.toDecimal x.toDecimal).exp ≤ 36 :=
      Decimal.exp_mulCut (by norm_num)
    constructor
    · rintro ⟨_ | next, hnext, h⟩
      · cases h
      rw [multiply_eq_ok hacc, toDecimal_sizeUp] at hnext
      obtain ⟨hsmall, hnext⟩ := hnext
      rw [← hnext] at hexp
      rw [ih hexp, hnext] at h
      exact ⟨⟨hsmall, hnext ▸ next.value.isLt, h.1⟩, h.2⟩
    · rintro ⟨⟨hsmall, hfits, hrest⟩, hp'⟩
      obtain ⟨next, hnext⟩ := exists_toDecimal hfits (hexp.trans_lt (by norm_num))
      apply Exists.intro (some next)
      constructor
      · rw [multiply_eq_ok hacc]
        exact ⟨hsmall, hnext⟩
      · rw [← hnext] at hexp hrest hp'
        exact (ih hexp).2 ⟨hrest, hp'⟩

theorem priceToFraction_eq_ok {p : Price w} : p.priceToFraction = .ok f ↔
    (p.exp : ℕ) ≤ 36 ∧ f.bits = p.value * 2 ^ 60 % 2 ^ 256 / 10 ^ (p.exp : ℕ) := by
  unfold priceToFraction
  simp only [bind_eq_ok, tenPow_eq_ok, BigFraction.divInt_eq_ok, BigFraction.toFraction_eq_ok]
  constructor
  · rintro ⟨_, ⟨hexp, rfl⟩, price, ⟨-, hprice⟩, hf⟩
    exact ⟨hexp, hf.trans hprice⟩
  · rintro ⟨hexp, hf⟩
    have hlt : (p.value : ℕ) * 2 ^ 60 % 2 ^ 256 / 10 ^ (p.exp : ℕ) < 2 ^ 256 :=
      (Nat.div_le_self _ _).trans_lt (Nat.mod_lt _ (by norm_num))
    exact ⟨_, ⟨hexp, rfl⟩, ⟨_, hlt⟩, ⟨by positivity, rfl⟩, hf⟩

/-- The shift of the conversion drops high bits, and what is left of the price fits. -/
def Wraps (d : Decimal) : Prop :=
  d.exp ≤ 36 ∧ 2 ^ 196 ≤ d.mantissa ∧ d.mantissa % 2 ^ 196 * 2 ^ 60 / 10 ^ d.exp < 2 ^ 128

instance (d : Decimal) : Decidable (Wraps d) := inferInstanceAs (Decidable (_ ∧ _ ∧ _))

/-- The fraction below the price that is kept, which is at most the exact one, and zero only
if the exact one is not above what may be lost. -/
structure Faithful (f : Fraction) (kept exact loss : ℚ) : Prop where
  bits_eq : f.bits = ⌊kept * 2 ^ 60⌋₊
  le : f.toRat ≤ exact
  zero : f = Fraction.zero → exact < loss + 1 / 2 ^ 60

theorem floor_toRat (d : Decimal) : ⌊d.toRat * 2 ^ 60⌋₊ = d.mantissa * 2 ^ 60 / 10 ^ d.exp := by
  rw [Decimal.toRat, div_mul_eq_mul_div, ← Nat.floor_div_eq_div (K := ℚ)]
  push_cast
  rfl

theorem Faithful.of_bits_eq {kept exact loss : ℚ} (hf : f.bits = ⌊kept * 2 ^ 60⌋₊)
    (hkept : 0 ≤ kept) (hle : kept ≤ exact) (hloss : exact ≤ kept + loss) :
    Faithful f kept exact loss where
  bits_eq := hf
  le := by
    have hfloor := Nat.floor_le (show 0 ≤ kept * 2 ^ 60 by positivity)
    rw [← hf, ← div_le_iff₀ (by positivity)] at hfloor
    exact hfloor.trans hle
  zero := by
    rintro rfl
    have hlt := Nat.lt_floor_add_one (kept * 2 ^ 60)
    rw [← hf, Fraction.bits_zero, Nat.cast_zero, zero_add, ← lt_div_iff₀ (by positivity)] at hlt
    linarith

theorem wrapped_div_lt {v e : ℕ} (he : e ≤ 36) (hv : 2 ^ 196 ≤ v) :
    v % 2 ^ 196 * 2 ^ 60 / 10 ^ e < v * 2 ^ 60 / 10 ^ e := by
  have hpow : 10 ^ e ≤ 2 ^ 256 := (Nat.pow_le_pow_right (by norm_num) he).trans (by norm_num)
  have hstep : v % 2 ^ 196 * 2 ^ 60 + 10 ^ e ≤ v * 2 ^ 60 := by omega
  calc v % 2 ^ 196 * 2 ^ 60 / 10 ^ e < v % 2 ^ 196 * 2 ^ 60 / 10 ^ e + 1 := Nat.lt_succ_self _
    _ = (v % 2 ^ 196 * 2 ^ 60 + 10 ^ e) / 10 ^ e := (Nat.add_div_right _ (by positivity)).symm
    _ ≤ v * 2 ^ 60 / 10 ^ e := Nat.div_le_div_right hstep

theorem bits_eq_iff {p : Price w} : (∀ f, p.priceToFraction = .ok f →
    f.bits = ⌊p.toDecimal.toRat * 2 ^ 60⌋₊) ↔ ¬Wraps p.toDecimal := by
  have hwrap : (p.value : ℕ) * 2 ^ 60 % 2 ^ 256 = p.value % 2 ^ 196 * 2 ^ 60 :=
    Nat.mul_mod_mul_right (2 ^ 60) p.value (2 ^ 196)
  simp only [priceToFraction_eq_ok, floor_toRat, hwrap]
  constructor
  · rintro h ⟨hexp, hvalue, hfits⟩
    have hbits := h ⟨_, hfits⟩ ⟨hexp, rfl⟩
    exact (wrapped_div_lt hexp hvalue).ne hbits
  · rintro hwraps f ⟨hexp, hbits⟩
    have hvalue : (p.value : ℕ) < 2 ^ 196 := by
      by_contra hvalue
      exact hwraps ⟨hexp, not_lt.1 hvalue, hbits ▸ f.isLt⟩
    rw [hbits, Nat.mod_eq_of_lt hvalue]
    rfl

theorem faithful_iff {p : Price w} {d : Decimal} {exact loss : ℚ} (hp : p.toDecimal = d)
    (hle : d.toRat ≤ exact) (hloss : exact ≤ d.toRat + loss) :
    (∀ f, p.priceToFraction = .ok f → Faithful f d.toRat exact loss) ↔ ¬Wraps d := by
  subst hp
  rw [← bits_eq_iff]
  constructor
  · intro h f hf
    exact (h f hf).bits_eq
  · intro h f hf
    exact Faithful.of_bits_eq (h f hf) (Decimal.toRat_nonneg _) hle hloss

/-- The prices of a chain, multiplied. -/
def chainProduct (chain : List (Price 64)) : Decimal :=
  Decimal.product 36 18 Decimal.one (chain.map toDecimal)

/-- The price of a chain is the one of its product, and is zero only below what the cuts lose. -/
def ChainFaithful (f : Fraction) (chain : List (Price 64)) : Prop :=
  Faithful f (chainProduct chain).toRat (Decimal.exact (chain.map toDecimal))
    (Decimal.loss 36 18 0 1 (chain.map toDecimal))

def ChainWraps (chain : List (Price 64)) : Prop :=
  Fits Decimal.one (chain.map toDecimal) ∧ Wraps (chainProduct chain)

instance (chain : List (Price 64)) : Decidable (ChainWraps chain) :=
  inferInstanceAs (Decidable (_ ∧ _))

theorem chainToFraction_eq_ok : chainToFraction chain = .ok f ↔
    Fits Decimal.one (chain.map toDecimal) ∧
      ∃ p : Price 256, p.toDecimal = chainProduct chain ∧ p.priceToFraction = .ok f := by
  have hinit : (init.exp : ℕ) ≤ 36 := Nat.zero_le _
  unfold chainToFraction
  simp only [bind_eq_ok, okOr_eq_ok]
  constructor
  · rintro ⟨_, hproduct, basePrice, rfl, hf⟩
    obtain ⟨hfits, hbase⟩ := (multiplyAll_eq_ok hinit).1 hproduct
    exact ⟨hfits, basePrice, hbase, hf⟩
  · rintro ⟨hfits, basePrice, hbase, hf⟩
    exact ⟨_, (multiplyAll_eq_ok hinit).2 ⟨hfits, hbase⟩, basePrice, rfl, hf⟩

theorem Fits.mantissa_lt {d : Decimal} {ds : List Decimal} (h : Fits d ds)
    (hd : d.mantissa < 2 ^ 256) : (Decimal.product 36 18 d ds).mantissa < 2 ^ 256 := by
  induction ds generalizing d with
  | nil => exact hd
  | cons y ys ih => exact ih h.2.2 h.2.1

theorem chainFaithful_iff :
    (∀ f, chainToFraction chain = .ok f → ChainFaithful f chain) ↔ ¬ChainWraps chain := by
  by_cases hfits : Fits Decimal.one (chain.map toDecimal)
  · have hexp : (chainProduct chain).exp ≤ 36 :=
      Decimal.exp_product (by norm_num) (Nat.zero_le _)
    obtain ⟨p, hp⟩ := exists_toDecimal (hfits.mantissa_lt (by decide))
      (hexp.trans_lt (by norm_num))
    rw [ChainWraps, and_iff_right hfits]
    refine Iff.trans ?_
      (faithful_iff (d := chainProduct chain) hp Decimal.product_one_le
        Decimal.exact_le_product_add)
    constructor
    · intro h f hf
      exact h f (chainToFraction_eq_ok.2 ⟨hfits, p, hp, hf⟩)
    · intro h f hf
      obtain ⟨-, p', hp', hf⟩ := chainToFraction_eq_ok.1 hf
      obtain rfl := toDecimal_inj.1 (hp'.trans hp.symm)
      exact h f hf
  · constructor
    · intro _ hwraps
      exact hfits hwraps.1
    · intro _ f hf
      exact absurd (chainToFraction_eq_ok.1 hf).1 hfits

/-- A chain of one price is the price itself, which has not enough bits to lose any. -/
theorem chainFaithful_single {p : Price 64} :
    (∀ f, p.priceToFraction = .ok f → ChainFaithful f [p]) ↔ ¬ChainWraps [p] := by
  have hvalue : p.toDecimal.mantissa < 2 ^ 196 := p.value.isLt.trans (by norm_num)
  constructor
  · intro _ hwraps
    have hproduct : (chainProduct [p]).mantissa ≤ 1 * p.toDecimal.mantissa :=
      Decimal.mantissa_mulCut_le
    have hlarge := hwraps.2.2.1
    omega
  · intro _ f hf
    have hexp : 0 + p.toDecimal.exp ≤ 36 := by
      rw [zero_add]
      exact (priceToFraction_eq_ok.1 hf).1
    have hproduct : chainProduct [p] = Decimal.one.mul p.toDecimal := if_pos hexp
    have hexact : Decimal.exact ([p].map toDecimal) = p.toDecimal.toRat := by
      simp [Decimal.exact]
    have hloss : Decimal.loss 36 18 0 1 ([p].map toDecimal) = 0 := if_pos hexp
    rw [ChainFaithful, hproduct, Decimal.toRat_mul, Decimal.toRat_one, one_mul, hexact, hloss]
    have hiff := @faithful_iff 64 p p.toDecimal _ 0 rfl le_rfl (le_add_of_nonneg_right le_rfl)
    apply hiff.2 _ f hf
    intro hwraps
    exact hwraps.2.1.not_gt hvalue

end Price

namespace Scope

theorem chainPrices_of_getPriceUsd {scopePrices : OraclePrices} {tokensChain : List U16}
    {t : TimestampedPrice} (h : getPriceUsd scopePrices tokensChain = .ok t) :
    ∃ prices, chainPrices scopePrices tokensChain = .ok prices ∧
      ((∃ price, prices = [price] ∧ t.priceLoad = price.1.priceToFraction) ∨
        t.priceLoad = Klend.Price.chainToFraction (prices.map Prod.fst)) := by
  simp only [getPriceUsd, bind_eq_ok, require_eq_ok] at h
  obtain ⟨_, _, prices, hprices, h⟩ := h
  apply Exists.intro prices
  apply And.intro hprices
  rcases prices with _ | ⟨price, _ | ⟨next, rest⟩⟩
  · cases h
  · obtain rfl := pure_eq_ok.1 h
    exact Or.inl ⟨price, rfl, rfl⟩
  · obtain rfl := pure_eq_ok.1 h
    exact Or.inr rfl

end Scope

open Price in
/-- Every price is the fraction below the exact one, or is refused, unless the conversion drops
high bits; the price of a chain is at most the exact product, and zero only below what the
cuts to eighteen decimals may lose. -/
theorem oraclePrice_faithful_iff {w : ℕ} (p : Price w) (scopePrices : Scope.OraclePrices)
    (tokensChain : List U16) (t : Scope.TimestampedPrice) :
    ((∀ f, p.priceToFraction = .ok f → Faithful f p.toDecimal.toRat p.toDecimal.toRat 0) ↔
      ¬Wraps p.toDecimal) ∧
    (Scope.getPriceUsd scopePrices tokensChain = .ok t →
      ∃ prices, Scope.chainPrices scopePrices tokensChain = .ok prices ∧
        ((∀ f, t.priceLoad = .ok f → ChainFaithful f (prices.map Prod.fst)) ↔
          ¬ChainWraps (prices.map Prod.fst))) := by
  constructor
  · apply faithful_iff rfl le_rfl (le_add_of_nonneg_right le_rfl)
  · intro h
    obtain ⟨prices, hprices, hload⟩ := Scope.chainPrices_of_getPriceUsd h
    apply Exists.intro prices
    apply And.intro hprices
    obtain ⟨price, rfl, hload⟩ | hload := hload
    · rw [hload]
      exact chainFaithful_single
    · rw [hload]
      exact chainFaithful_iff

/-- A price of about nine billion, and one of a third with eighteen decimals. -/
def highScopePrices : Scope.OraclePrices :=
  [⟨⟨2 ^ 63, 9⟩, 1000⟩, ⟨⟨333333333333333333, 18⟩, 1000⟩]

/-- The product of four prices whose exponents add up to 54 is cut to eighteen decimals. -/
theorem oraclePrice_faithful_pair :
    let prices : List (Price 64) :=
      [⟨2 ^ 63, 9⟩, ⟨333333333333333333, 18⟩, ⟨2 ^ 63, 9⟩, ⟨333333333333333333, 18⟩]
    ∃ f, Price.chainToFraction prices = .ok f ∧ f ≠ Fraction.zero ∧
      Price.ChainFaithful f prices := by
  obtain ⟨prices, hprices, h⟩ :=
    (oraclePrice_faithful_iff (⟨2 ^ 63, 9⟩ : Price 64) highScopePrices [0, 1, 0, 1] _).2 rfl
  obtain rfl := Except.ok.inj hprices
  intro prices
  obtain ⟨f, hf, hpos⟩ := exists_eq_ok (x := Price.chainToFraction prices)
    (p := fun f ↦ decide (f ≠ Fraction.zero)) (by decide)
  exact ⟨f, hf, of_decide_eq_true hpos, h.2 (show ¬Price.ChainWraps prices by decide) f hf⟩

/-- The product of four such prices is converted to zero. -/
theorem oraclePrice_not_faithful :
    ¬∀ (scopePrices : Scope.OraclePrices) (tokensChain : List U16) (t : Scope.TimestampedPrice)
      (prices : List (Price 64 × U64)) (f : Fraction),
      Scope.getPriceUsd scopePrices tokensChain = .ok t →
        Scope.chainPrices scopePrices tokensChain = .ok prices →
          t.priceLoad = .ok f → Price.ChainFaithful f (prices.map Prod.fst) := by
  intro h
  have hzero : Price.chainToFraction (List.replicate 4 ⟨2 ^ 63, 9⟩) = .ok Fraction.zero := by
    decide
  have hfaithful : Price.ChainFaithful Fraction.zero (List.replicate 4 ⟨2 ^ 63, 9⟩) :=
    h (List.replicate 2 ⟨⟨2 ^ 63, 9⟩, 1000⟩) [0, 1, 0, 1] _ _ Fraction.zero rfl rfl hzero
  have hlt := hfaithful.zero rfl
  have hmap : (List.replicate 4 ⟨2 ^ 63, 9⟩ : List (Price 64)).map Price.toDecimal =
      List.replicate 4 ⟨2 ^ 63, 9⟩ := rfl
  rw [hmap] at hlt
  norm_num [List.replicate, Decimal.exact, Decimal.loss, Decimal.toRat] at hlt

end Klend
