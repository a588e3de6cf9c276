import Klend.Sdk.ObligationPositions

/-! # The two decoders of cumulative rates

A rate is stored in limbs of 64 bits, the lowest first. The decoder of reserves shifts each
limb to its place. The one of obligations turns the array of the account around and adds the
limbs up as they are, because it drops what `shrn` returns. Both divide by what decimals read
for 2^60, and keep 20 digits of the quotient.
-/

namespace Digits

variable {b : ℕ}

theorem foldl_zipIdx_shift (l : List (Fin b)) (k n : ℕ) :
    (l.zipIdx k).foldl (fun m p ↦ m + p.1 * b ^ p.2) n = n + b ^ k * value l := by
  induction l generalizing k n with
  | nil => simp
  | cons d l ih =>
    rw [List.zipIdx_cons, List.foldl_cons, ih, value_cons, pow_succ]
    ring

end Digits

namespace Klend.Sdk

/-- `Fraction.toDecimal` with the precision that decimals have by default. -/
def toRoundedDecimal (valueSf : ℕ) : Option ℚ :=
  (toDecimal valueSf).map (SignificantDigits.round 10 20 SignificantDigits.halfUp)

theorem toRoundedDecimal_zero : toRoundedDecimal 0 = some 0 := by
  rw [toRoundedDecimal, toDecimal_eq (by norm_num), sfToDecimal_zero, Option.map_some,
    SignificantDigits.round_zero SignificantDigits.nearest_halfUp]

/-- The quotient is never that by 2^60, nor that of a greater number. -/
theorem eq_zero_of_toRoundedDecimal {m n : ℕ} (hmn : m ≤ n)
    (h : toRoundedDecimal m = some ((n : ℚ) / 2 ^ 60)) : n = 0 := by
  obtain ⟨d, hd, hround⟩ := Option.map_eq_some_iff.1 h
  have hquotient : d = sfToDecimal m := by
    simp only [toDecimal, Option.bind_eq_bind, Option.bind_eq_some_iff, Option.pure_def,
      Option.some.injEq] at hd
    obtain ⟨valueSf, hvalueSf, rfl⟩ := hd
    unfold newFraction at hvalueSf
    split at hvalueSf
    · rw [← Option.some.inj hvalueSf, Int.toNat_natCast]
    · cases hvalueSf
  subst hquotient
  have herror : |_ - sfToDecimal m| * (2 * (10 : ℕ) ^ 19) ≤ |sfToDecimal m| :=
    SignificantDigits.abs_round_sub_mul_le (by norm_num) SignificantDigits.nearest_halfUp
  rw [hround, abs_of_nonneg (sfToDecimal_nonneg m)] at herror
  have hnear := mul_le_mul_of_nonneg_right (le_abs_self ((n : ℚ) / 2 ^ 60 - sfToDecimal m))
    (by positivity : (0 : ℚ) ≤ 2 * (10 : ℕ) ^ 19)
  have hle : (m : ℚ) ≤ n := by exact_mod_cast hmn
  have hnonneg : (0 : ℚ) ≤ n := Nat.cast_nonneg n
  have hzero : (n : ℚ) ≤ 0 := by
    rw [sfToDecimal, multiplierNumber] at hnear herror
    push_cast at hnear herror
    linarith
  exact_mod_cast le_antisymm hzero hnonneg

namespace KaminoReserve

/-- `getCumulativeBorrowRate` over the limbs of the account. -/
def decodeRate (value : List ℕ) : Option ℚ :=
  toRoundedDecimal (value.zipIdx.foldl (fun prev p ↦ prev + p.1 * 2 ^ (p.2 * 64)) 0)

theorem decodeRate_eq (limbs : List U64) :
    decodeRate (limbs.map Fin.val) = toRoundedDecimal (Digits.value limbs) := by
  have hshift (i : ℕ) : 2 ^ (i * 64) = (2 ^ 64) ^ i := by
    rw [mul_comm, pow_mul]
  have hfold := Digits.foldl_zipIdx_shift limbs 0 0
  rw [pow_zero, one_mul, zero_add] at hfold
  rw [decodeRate, List.zipIdx_map, List.foldl_map, ← hfold]
  simp only [hshift, Prod.map_fst, Prod.map_snd, id_eq]

end KaminoReserve

namespace KaminoObligation

/-- `getCumulativeBorrowRate` with the array that the account holds behind the call. -/
def decodeRate (value : List ℕ) : Option ℚ × List ℕ :=
  let value := value.reverse
  (toRoundedDecimal (value.foldl (fun accSf limb ↦ accSf + limb) 0), value)

theorem decodeRate_fst (value : List ℕ) : (decodeRate value).1 = toRoundedDecimal value.sum := by
  have hsum (l : List ℕ) (n : ℕ) : l.foldl (fun accSf limb ↦ accSf + limb) n = n + l.sum := by
    induction l generalizing n with
    | nil => simp
    | cons a l ih => rw [List.foldl_cons, ih, List.sum_cons, add_assoc]
  rw [decodeRate]
  dsimp only
  rw [hsum, zero_add, List.sum_reverse]

/-- The array of the account behind some calls. -/
def afterCalls (value : List ℕ) : ℕ → List ℕ
  | 0 => value
  | calls + 1 => (decodeRate (afterCalls value calls)).2

/-- Every call gives the same value, since a sum does not depend on the order. -/
theorem decodeRate_afterCalls (value : List ℕ) (calls : ℕ) :
    (decodeRate (afterCalls value calls)).1 = (decodeRate value).1 := by
  induction calls with
  | zero => rfl
  | succ calls ih =>
    rw [← ih, decodeRate_fst, decodeRate_fst, afterCalls]
    show toRoundedDecimal (afterCalls value calls).reverse.sum = _
    rw [List.sum_reverse]

/-- The obligation's decoder reads the number that the limbs stand for, as the reserve's does, and
leaves the account as it is. -/
structure Decodes (limbs : List U64) : Prop where
  value : (decodeRate (limbs.map Fin.val)).1 = some ((Digits.value limbs : ℚ) / 2 ^ 60)
  agrees : KaminoReserve.decodeRate (limbs.map Fin.val) = (decodeRate (limbs.map Fin.val)).1
  unchanged : (decodeRate (limbs.map Fin.val)).2 = limbs.map Fin.val
  repeated : ∀ calls, (decodeRate (afterCalls (limbs.map Fin.val) calls)).1 =
    some ((Digits.value limbs : ℚ) / 2 ^ 60)

/-- That is so exactly where all limbs are zero. -/
theorem decodes_iff (limbs : List U64) : Decodes limbs ↔ ∀ limb ∈ limbs, limb = 0 := by
  have hvalue_zero : Digits.value limbs = 0 ↔ ∀ limb ∈ limbs, limb = 0 := by
    simp only [Digits.value_eq_zero (Nat.two_pow_pos 64), Fin.val_eq_zero_iff]
  constructor
  · intro h
    have hvalue := h.value
    rw [decodeRate_fst] at hvalue
    exact hvalue_zero.1 (eq_zero_of_toRoundedDecimal (Digits.sum_le_value limbs) hvalue)
  · intro h
    have hzero := hvalue_zero.2 h
    obtain ⟨n, rfl⟩ : ∃ n, limbs = List.replicate n 0 := ⟨_, List.eq_replicate_of_mem h⟩
    have hvalue : (decodeRate ((List.replicate n (0 : U64)).map Fin.val)).1 =
        some ((Digits.value (List.replicate n (0 : U64)) : ℚ) / 2 ^ 60) := by
      rw [decodeRate_fst, hzero, List.map_replicate, Fin.val_zero, List.sum_replicate,
        nsmul_zero, toRoundedDecimal_zero, Nat.cast_zero, zero_div]
    exact {
      value := hvalue
      agrees := by
        rw [KaminoReserve.decodeRate_eq, hvalue, hzero, toRoundedDecimal_zero, Nat.cast_zero,
          zero_div]
      unchanged := by
        rw [List.map_replicate]
        exact List.reverse_replicate
      repeated := fun calls ↦ (decodeRate_afterCalls _ calls).trans hvalue }

/-- The rate sixteen is read as the smallest one above zero, and its limbs are turned around. -/
theorem not_decodes_sixteen :
    (decodeRate [0, 1, 0, 0]).1 = some (86736173798840352915 / 10 ^ 38) ∧
    KaminoReserve.decodeRate [0, 1, 0, 0] = some (15999999999999999667 / 10 ^ 18) ∧
    (decodeRate [0, 1, 0, 0]).2 = [0, 0, 1, 0] ∧
    ¬ Decodes [0, 1, 0, 0] := by
  refine ⟨by decide +kernel, by decide +kernel, rfl, ?_⟩
  rintro ⟨hvalue, -, -, -⟩
  exact absurd hvalue (by decide +kernel)

end KaminoObligation

end Klend.Sdk
