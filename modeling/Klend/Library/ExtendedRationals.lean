import Mathlib.Algebra.Order.Field.Rat

/-! # Rational numbers with infinities

Exact arithmetic that never fails: a division by zero gives an infinity or `nan`, and
`nan` goes through every operation behind it. Zero has no sign.
-/

inductive Extended where
  | finite (x : ℚ)
  | infinity (negative : Bool)
  | nan
deriving DecidableEq, Repr

namespace Extended

instance : Zero Extended := ⟨finite 0⟩

instance : One Extended := ⟨finite 1⟩

/-- The infinity of the sign of `x`, and `nan` for zero. -/
def infinityOf (x : ℚ) : Extended := if x = 0 then nan else infinity (decide (x < 0))

def add : Extended → Extended → Extended
  | finite x, finite y => finite (x + y)
  | infinity s, infinity t => if s = t then infinity s else nan
  | infinity s, finite _ => infinity s
  | finite _, infinity t => infinity t
  | _, _ => nan

def neg : Extended → Extended
  | finite x => finite (-x)
  | infinity s => infinity (!s)
  | nan => nan

def mul : Extended → Extended → Extended
  | finite x, finite y => finite (x * y)
  | infinity s, infinity t => infinity (xor s t)
  | infinity s, finite y => infinityOf (if s then -y else y)
  | finite x, infinity t => infinityOf (if t then -x else x)
  | _, _ => nan

def div : Extended → Extended → Extended
  | finite x, finite y => if y = 0 then infinityOf x else finite (x / y)
  | infinity s, finite y => infinity (xor s (decide (y < 0)))
  | finite _, infinity _ => finite 0
  | _, _ => nan

instance : Add Extended := ⟨add⟩

instance : Neg Extended := ⟨neg⟩

instance : Sub Extended := ⟨fun x y ↦ x + -y⟩

instance : Mul Extended := ⟨mul⟩

instance : Div Extended := ⟨div⟩

/-- Less than, which nothing is of `nan`. -/
def lt : Extended → Extended → Bool
  | finite x, finite y => decide (x < y)
  | infinity s, infinity t => s && !t
  | infinity s, finite _ => s
  | finite _, infinity t => !t
  | _, _ => false

def eq : Extended → Extended → Bool
  | nan, nan => false
  | x, y => decide (x = y)

/-- The smaller of two, and `nan` where one of them is. -/
def min : Extended → Extended → Extended
  | nan, _ => nan
  | _, nan => nan
  | x, y => if lt y x then y else x

/-- The larger of two, and `nan` where one of them is. -/
def max : Extended → Extended → Extended
  | nan, _ => nan
  | _, nan => nan
  | x, y => if lt x y then y else x

/-- A function of numbers, which leaves infinities and `nan` as they are. -/
def map (f : ℚ → ℚ) : Extended → Extended
  | finite x => finite (f x)
  | x => x

variable {x y : ℚ}

@[simp] theorem map_finite (f : ℚ → ℚ) : map f (finite x) = finite (f x) := rfl

@[simp] theorem finite_inj : finite x = finite y ↔ x = y := by
  rw [finite.injEq]

@[simp] theorem zero_eq : (0 : Extended) = finite 0 := rfl

@[simp] theorem one_eq : (1 : Extended) = finite 1 := rfl

@[simp] theorem finite_add : finite x + finite y = finite (x + y) := rfl

@[simp] theorem finite_sub : finite x - finite y = finite (x - y) := by
  rw [sub_eq_add_neg]
  rfl

@[simp] theorem finite_mul : finite x * finite y = finite (x * y) := rfl

theorem finite_div (h : y ≠ 0) : finite x / finite y = finite (x / y) := if_neg h

/-- A positive number divided by zero is above every number. -/
theorem finite_div_zero (h : 0 < x) : finite x / finite 0 = infinity false := by
  show infinityOf x = infinity false
  rw [infinityOf, if_neg h.ne', decide_eq_false (not_lt.2 h.le)]

/-- What is divided by zero stays off the numbers. -/
theorem finite_div_zero_mul_ne (f : ℚ → ℚ) {z w : ℚ} :
    map f (finite x / finite 0 * finite z) ≠ finite w := by
  have hinfinity (a : ℚ) : infinityOf a = nan ∨ ∃ s, infinityOf a = infinity s := by
    unfold infinityOf
    split
    · exact .inl rfl
    · exact .inr ⟨_, rfl⟩
  rcases hinfinity x with h | ⟨s, h⟩
  · rw [show finite x / finite 0 = nan from h]
    nofun
  · rw [show finite x / finite 0 = infinity s from h]
    show map f (infinityOf _) ≠ _
    rcases hinfinity (if s then -z else z) with h | ⟨t, h⟩
    · rw [h]
      nofun
    · rw [h]
      nofun

@[simp] theorem finite_lt : lt (finite x) (finite y) = decide (x < y) := rfl

@[simp] theorem finite_eq : eq (finite x) (finite y) = decide (x = y) := by
  simp [eq]

@[simp] theorem finite_min : min (finite x) (finite y) = finite (Min.min x y) := by
  simp only [min, finite_lt, decide_eq_true_eq, min_def]
  split
  · next h => rw [if_neg (not_le.2 h)]
  · next h => rw [if_pos (not_lt.1 h)]

@[simp] theorem finite_max : max (finite x) (finite y) = finite (Max.max x y) := by
  simp only [max, finite_lt, decide_eq_true_eq, max_def]
  split
  · next h => rw [if_pos h.le]
  · next h =>
    split
    · next hle => rw [le_antisymm hle (not_lt.1 h)]
    · rfl

theorem infinity_min : min (infinity false) (finite x) = finite x := rfl

end Extended
