import Klend.Machine.Word
import Mathlib.Order.MinMax
import Mathlib.Order.Basic
import Mathlib.Tactic.NormNum
import Mathlib.Tactic.Ring

/-! # Fixed-point numbers

`Fraction` is the unsigned 128-bit fixed-point type with 60 fractional bits,
`BigFraction` its 256-bit extension. The program's `_sf` fields store the bits
of a `Fraction`; the model stores the number itself.
-/

namespace Klend

/-- `U68F60`: the value is `bits / 2 ^ 60`. -/
@[ext] structure Fraction where
  bits : ℕ
  isLt : bits < 2 ^ 128
deriving DecidableEq, Repr

namespace Fraction

theorem bits_injective : Function.Injective bits := fun _ _ h ↦ Fraction.ext h

instance : LinearOrder Fraction := LinearOrder.lift' bits bits_injective

theorem le_iff {x y : Fraction} : x ≤ y ↔ x.bits ≤ y.bits := Iff.rfl

theorem lt_iff {x y : Fraction} : x < y ↔ x.bits < y.bits := Iff.rfl

theorem bits_min (x y : Fraction) : (min x y).bits = min x.bits y.bits := by
  rcases le_total x y with h | h
  · rw [min_eq_left h, min_eq_left (le_iff.1 h)]
  · rw [min_eq_right h, min_eq_right (le_iff.1 h)]

theorem bits_max (x y : Fraction) : (max x y).bits = max x.bits y.bits := by
  rcases le_total x y with h | h
  · rw [max_eq_right h, max_eq_right (le_iff.1 h)]
  · rw [max_eq_left h, max_eq_left (le_iff.1 h)]

instance : Inhabited Fraction := ⟨⟨0, by norm_num⟩⟩

def zero : Fraction := ⟨0, by norm_num⟩

def one : Fraction := ⟨2 ^ 60, by norm_num⟩

theorem one_lt_bound : 1 < 2 ^ 128 := by norm_num

@[simp] theorem bits_zero : zero.bits = 0 := rfl

@[simp] theorem bits_one : one.bits = 2 ^ 60 := rfl

@[simp] theorem bits_default : (default : Fraction).bits = 0 := rfl

/-- The number with the given bits, or a panic when they do not fit. -/
def ofBits (n : ℕ) : Result Fraction :=
  if h : n < 2 ^ 128 then .ok ⟨n, h⟩ else abort

def add (x y : Fraction) : Result Fraction := ofBits (x.bits + y.bits)

def sub (x y : Fraction) : Result Fraction :=
  if y ≤ x then ofBits (x.bits - y.bits) else abort

def mul (x y : Fraction) : Result Fraction := ofBits (x.bits * y.bits / 2 ^ 60)

def div (x y : Fraction) : Result Fraction :=
  if y = zero then abort else ofBits (x.bits * 2 ^ 60 / y.bits)

def mulInt (x : Fraction) (n : ℕ) : Result Fraction := ofBits (x.bits * n)

def divInt (x : Fraction) (n : ℕ) : Result Fraction :=
  if n = 0 then abort else ofBits (x.bits / n)

def checkedSub (x y : Fraction) : Option Fraction :=
  if y ≤ x then some ⟨x.bits - y.bits, by have := x.isLt; omega⟩ else none

def saturatingSub (x y : Fraction) : Fraction := ⟨x.bits - y.bits, by have := x.isLt; omega⟩

/-- Quotient rounded up, computed in 256 bits. -/
def divCeil (x y : Fraction) : Result Fraction :=
  if y = zero then abort else ofBits ((x.bits * 2 ^ 60 + (y.bits - 1)) / y.bits)

theorem natCast_bits_lt {n : ℕ} (h : n < 2 ^ 64) : n * 2 ^ 60 < 2 ^ 128 := by omega

def fromNum (n : U64) : Fraction := ⟨n * 2 ^ 60, natCast_bits_lt n.isLt⟩

def fromPercent (n : U64) : Fraction :=
  ⟨n * 2 ^ 60 / 100, (Nat.div_le_self _ _).trans_lt (natCast_bits_lt n.isLt)⟩

def fromBps (n : U64) : Fraction :=
  ⟨n * 2 ^ 60 / 10000, (Nat.div_le_self _ _).trans_lt (natCast_bits_lt n.isLt)⟩

def toFloor (x : Fraction) : Result U64 := Word.fit 64 (x.bits / 2 ^ 60)

def toCeil (x : Fraction) : Result U64 := Word.fit 64 ((x.bits + (2 ^ 60 - 1)) / 2 ^ 60)

def toRound (x : Fraction) : Result U64 := Word.fit 64 ((x.bits + 2 ^ 59) / 2 ^ 60)

/-- Rounding to the nearest integer, as a fixed-point number. -/
def round (x : Fraction) : Result Fraction := ofBits ((x.bits + 2 ^ 59) / 2 ^ 60 * 2 ^ 60)

/-- `(self * n).round().checked_to_num()`, the common shape of `to_percent` and `to_bps`. -/
def toRatio (n : ℕ) (w : ℕ) (x : Fraction) : Result (Option (Word w)) := do
  let scaled ← x.mulInt n
  let rounded ← scaled.round
  pure (Word.checkedFit w (rounded.bits / 2 ^ 60))

def toPercent (w : ℕ) (x : Fraction) : Result (Option (Word w)) := toRatio 100 w x

def toBps (w : ℕ) (x : Fraction) : Result (Option (Word w)) := toRatio 10000 w x

/-- Formatting with `to_display` first adds half a unit of the last printed digit. -/
def toDisplay (x : Fraction) : Result Unit := do
  let _ ← ofBits (x.bits + 2 ^ 60 / 20000)
  pure ()

/-- A check whose message prints a number. -/
def requireDisplaying (c : Prop) [Decidable c] (x : Fraction) (e : LendingError) :
    Result Unit :=
  if c then .ok () else do
    x.toDisplay
    err e

@[simp] theorem ofBits_eq_ok {n : ℕ} {x : Fraction} : ofBits n = .ok x ↔ x.bits = n := by
  unfold ofBits; split
  · simp [Fraction.ext_iff, eq_comm]
  · have := x.isLt; simp; omega

@[simp] theorem add_eq_ok {x y z : Fraction} : add x y = .ok z ↔ z.bits = x.bits + y.bits := by
  simp [add]

@[simp] theorem sub_eq_ok {x y z : Fraction} : sub x y = .ok z ↔ z.bits + y.bits = x.bits := by
  unfold sub; simp only [le_iff]; split <;> simp <;> omega

@[simp] theorem mul_eq_ok {x y z : Fraction} :
    mul x y = .ok z ↔ z.bits = x.bits * y.bits / 2 ^ 60 := by
  simp [mul]

theorem eq_zero_iff {x : Fraction} : x = zero ↔ x.bits = 0 := Fraction.ext_iff

@[simp] theorem div_eq_ok {x y z : Fraction} :
    div x y = .ok z ↔ y.bits ≠ 0 ∧ z.bits = x.bits * 2 ^ 60 / y.bits := by
  unfold div; simp only [eq_zero_iff]; split <;> simp_all

@[simp] theorem mulInt_eq_ok {x z : Fraction} {n : ℕ} :
    mulInt x n = .ok z ↔ z.bits = x.bits * n := by
  simp [mulInt]

@[simp] theorem divInt_eq_ok {x z : Fraction} {n : ℕ} :
    divInt x n = .ok z ↔ n ≠ 0 ∧ z.bits = x.bits / n := by
  unfold divInt; split <;> simp_all

@[simp] theorem checkedSub_eq_some {x y z : Fraction} :
    checkedSub x y = some z ↔ z.bits + y.bits = x.bits := by
  unfold checkedSub; simp only [le_iff]
  split <;> simp [Fraction.ext_iff] <;> omega

@[simp] theorem bits_saturatingSub (x y : Fraction) :
    (saturatingSub x y).bits = x.bits - y.bits := rfl

@[simp] theorem divCeil_eq_ok {x y z : Fraction} :
    divCeil x y = .ok z ↔ y.bits ≠ 0 ∧ z.bits = (x.bits * 2 ^ 60 + (y.bits - 1)) / y.bits := by
  unfold divCeil; simp only [eq_zero_iff]; split <;> simp_all

@[simp] theorem bits_fromNum (n : U64) : (fromNum n).bits = n * 2 ^ 60 := rfl

@[simp] theorem bits_fromPercent (n : U64) : (fromPercent n).bits = n * 2 ^ 60 / 100 := rfl

@[simp] theorem bits_fromBps (n : U64) : (fromBps n).bits = n * 2 ^ 60 / 10000 := rfl

@[simp] theorem toFloor_eq_ok {x : Fraction} {n : U64} :
    toFloor x = .ok n ↔ (n : ℕ) = x.bits / 2 ^ 60 := by
  simp [toFloor]

@[simp] theorem toCeil_eq_ok {x : Fraction} {n : U64} :
    toCeil x = .ok n ↔ (n : ℕ) = (x.bits + (2 ^ 60 - 1)) / 2 ^ 60 := by
  simp [toCeil]

@[simp] theorem toRound_eq_ok {x : Fraction} {n : U64} :
    toRound x = .ok n ↔ (n : ℕ) = (x.bits + 2 ^ 59) / 2 ^ 60 := by
  simp [toRound]

@[simp] theorem requireDisplaying_eq_ok {c : Prop} [Decidable c] {x : Fraction}
    {e : LendingError} {u : Unit} : requireDisplaying c x e = .ok u ↔ c := by
  unfold requireDisplaying; split <;> simp_all

section Returns

variable {x y : Fraction} {n : ℕ}

theorem returns_ofBits : Returns (ofBits n) ↔ n < 2 ^ 128 := by
  unfold ofBits
  split
  · next h => exact ⟨fun _ ↦ h, fun _ ↦ .of_ok rfl⟩
  · next h => exact ⟨fun hr ↦ absurd hr (not_returns_of_panic rfl), fun hlt ↦ absurd hlt h⟩

theorem uncoded_ofBits : Uncoded (ofBits n) := by
  unfold ofBits
  split
  · exact uncoded_pure
  · exact uncoded_abort

theorem uncoded_sub : Uncoded (sub x y) := by
  unfold sub
  split
  · exact uncoded_ofBits
  · exact uncoded_abort

theorem uncoded_divInt : Uncoded (divInt x n) := by
  unfold divInt
  split
  · exact uncoded_abort
  · exact uncoded_ofBits

theorem uncoded_add : Uncoded (add x y) := uncoded_ofBits

theorem uncoded_div : Uncoded (div x y) := by
  unfold div
  split
  · exact uncoded_abort
  · exact uncoded_ofBits

theorem returns_requireDisplaying {c : Prop} [Decidable c] {e : LendingError} :
    Returns (requireDisplaying c x e) ↔ c ∨ x.bits + 2 ^ 60 / 20000 < 2 ^ 128 := by
  unfold requireDisplaying
  split
  · next h => exact ⟨fun _ ↦ .inl h, fun _ ↦ .of_ok rfl⟩
  · next h =>
    simp only [toDisplay, returns_bind, returns_ofBits, returns_pure, returns_err, implies_true,
      and_true, h, false_or]

end Returns

theorem fromPercent_le_fromPercent {m n : U64} : fromPercent m ≤ fromPercent n ↔ m ≤ n := by
  rw [le_iff, bits_fromPercent, bits_fromPercent, Fin.le_def]
  omega

theorem fromPercent_hundred : fromPercent 100 = one := by
  ext
  rfl

theorem toPercent_fromPercent (n : U64) : (fromPercent n).toPercent 64 = .ok (some n) := by
  have hn := n.isLt
  have hbits := bits_fromPercent n
  simp only [toPercent, toRatio, round, bind_eq_ok, mulInt_eq_ok, ofBits_eq_ok, pure_eq_ok,
    Word.checkedFit_eq_some]
  refine ⟨⟨n * 2 ^ 60 / 100 * 100, by omega⟩, rfl, ⟨n * 2 ^ 60, by omega⟩, ?_, ?_⟩
  · show (n : ℕ) * 2 ^ 60 = (n * 2 ^ 60 / 100 * 100 + 2 ^ 59) / 2 ^ 60 * 2 ^ 60
    omega
  · show (n : ℕ) = n * 2 ^ 60 / 2 ^ 60
    omega

theorem sub_self (x : Fraction) : x.sub x = .ok zero := by
  rw [sub_eq_ok, bits_zero, Nat.zero_add]

theorem sub_zero (x : Fraction) : x.sub zero = .ok x := by
  rw [sub_eq_ok, bits_zero, Nat.add_zero]

theorem add_zero (x : Fraction) : x.add zero = .ok x := by
  rw [add_eq_ok, bits_zero, Nat.add_zero]

theorem mul_one (x : Fraction) : x.mul one = .ok x := by
  rw [mul_eq_ok, bits_one, Nat.mul_div_cancel _ (by norm_num)]

theorem zero_mul (x : Fraction) : zero.mul x = .ok zero := by
  rw [mul_eq_ok, bits_zero, Nat.zero_mul, Nat.zero_div]

theorem zero_min (x : Fraction) : min zero x = zero :=
  min_eq_left (le_iff.2 (Nat.zero_le _))

end Fraction

/-- The 256-bit companion of `Fraction`, with the same 60 fractional bits. -/
@[ext] structure BigFraction where
  bits : ℕ
  isLt : bits < 2 ^ 256
deriving DecidableEq, Repr

namespace BigFraction

instance : Inhabited BigFraction := ⟨⟨0, by norm_num⟩⟩

@[simp] theorem bits_default : (default : BigFraction).bits = 0 := rfl

def ofFraction (x : Fraction) : BigFraction := ⟨x.bits, x.isLt.trans (by norm_num)⟩

/-- A 256-bit result, or a panic when it does not fit. -/
def ofBits (n : ℕ) : Result BigFraction :=
  if h : n < 2 ^ 256 then .ok ⟨n, h⟩ else abort

/-- `from_num`: the shift drops the bits above the 256th. -/
def fromNum (n : ℕ) : BigFraction :=
  ⟨n * 2 ^ 60 % 2 ^ 256, Nat.mod_lt _ (by norm_num)⟩

def mul (x y : BigFraction) : Result BigFraction := do
  let extraScaled ← ofBits (x.bits * y.bits)
  ofBits (extraScaled.bits / 2 ^ 60)

def mulInt (x : BigFraction) (n : ℕ) : Result BigFraction := ofBits (x.bits * n)

def divInt (x : BigFraction) (n : ℕ) : Result BigFraction :=
  if n = 0 then abort else ofBits (x.bits / n)

/-- Division by a `Fraction`: the dividend is shifted first, which drops its high bits. -/
def divFraction (x : BigFraction) (y : Fraction) : Result BigFraction :=
  if y = Fraction.zero then abort else ofBits (x.bits * 2 ^ 60 % 2 ^ 256 / y.bits)

/-- `try_into` a `Fraction`, with the caller's `expect`. -/
def toFraction (x : BigFraction) : Result Fraction := Fraction.ofBits x.bits

@[simp] theorem ofBits_eq_ok {n : ℕ} {x : BigFraction} : ofBits n = .ok x ↔ x.bits = n := by
  unfold ofBits; split
  · simp [BigFraction.ext_iff, eq_comm]
  · have := x.isLt; simp; omega

@[simp] theorem bits_ofFraction (x : Fraction) : (ofFraction x).bits = x.bits := rfl

@[simp] theorem mul_eq_ok {x y z : BigFraction} :
    mul x y = .ok z ↔ x.bits * y.bits < 2 ^ 256 ∧ z.bits = x.bits * y.bits / 2 ^ 60 := by
  simp only [mul, bind_eq_ok, ofBits_eq_ok]
  constructor
  · rintro ⟨e, he, hz⟩
    exact ⟨he ▸ e.isLt, by rw [hz, he]⟩
  · rintro ⟨h, hz⟩
    exact ⟨⟨_, h⟩, rfl, hz⟩

@[simp] theorem mulInt_eq_ok {x z : BigFraction} {n : ℕ} :
    mulInt x n = .ok z ↔ z.bits = x.bits * n := by
  simp [mulInt]

@[simp] theorem divInt_eq_ok {x z : BigFraction} {n : ℕ} :
    divInt x n = .ok z ↔ n ≠ 0 ∧ z.bits = x.bits / n := by
  unfold divInt; split <;> simp_all

theorem uncoded_ofBits {n : ℕ} : Uncoded (ofBits n) := by
  unfold ofBits
  split
  · exact uncoded_pure
  · exact uncoded_abort

theorem uncoded_divInt {x : BigFraction} {n : ℕ} : Uncoded (divInt x n) := by
  unfold divInt
  split
  · exact uncoded_abort
  · exact uncoded_ofBits

@[simp] theorem divFraction_eq_ok {x z : BigFraction} {y : Fraction} :
    divFraction x y = .ok z ↔ y.bits ≠ 0 ∧ z.bits = x.bits * 2 ^ 60 % 2 ^ 256 / y.bits := by
  unfold divFraction; simp only [Fraction.eq_zero_iff]; split <;> simp_all

@[simp] theorem toFraction_eq_ok {x : BigFraction} {y : Fraction} :
    toFraction x = .ok y ↔ y.bits = x.bits := by
  simp [toFraction]

end BigFraction

end Klend
