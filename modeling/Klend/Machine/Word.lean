import Klend.Machine.Result
import Mathlib.Algebra.Order.Ring.Int
import Mathlib.Algebra.Order.Ring.Nat
import Mathlib.Data.Nat.Basic
import Mathlib.Order.Fin.Basic
import Mathlib.Tactic.NormNum

/-! # Machine words

Unsigned words of a fixed width. The program is built with overflow checks, so
plain arithmetic aborts when its result does not fit; the checked and the
saturating variants are separate functions.
-/

namespace Klend

abbrev Word (w : ℕ) : Type := Fin (2 ^ w)

abbrev U8 : Type := Word 8
abbrev U16 : Type := Word 16
abbrev U32 : Type := Word 32
abbrev U64 : Type := Word 64

namespace Word

/-! The widths in use. -/

instance neZero_8 : NeZero (2 ^ 8) := ⟨by decide⟩
instance neZero_16 : NeZero (2 ^ 16) := ⟨by decide⟩
instance neZero_32 : NeZero (2 ^ 32) := ⟨by decide⟩
instance neZero_64 : NeZero (2 ^ 64) := ⟨by decide⟩
instance neZero_256 : NeZero (2 ^ 256) := ⟨by norm_num⟩

instance neZero_groups : NeZero 32 := ⟨by decide⟩

instance lawfulBEq_8 : LawfulBEq U8 := inferInstance
instance lawfulBEq_256 : LawfulBEq (Word 256) := inferInstance

theorem le_8_64 : 8 ≤ 64 := by decide
theorem le_16_64 : 16 ≤ 64 := by decide
theorem le_32_64 : 32 ≤ 64 := by decide

variable {w : ℕ}

/-- The word holding `n`, or a panic when `n` does not fit. -/
def fit (w : ℕ) (n : ℕ) : Result (Word w) :=
  if h : n < 2 ^ w then .ok ⟨n, h⟩ else abort

def checkedFit (w : ℕ) (n : ℕ) : Option (Word w) :=
  if h : n < 2 ^ w then some ⟨n, h⟩ else none

def add (a b : Word w) : Result (Word w) := fit w (a + b)

def sub (a b : Word w) : Result (Word w) :=
  if (b : ℕ) ≤ a then fit w (a - b) else abort

def mul (a b : Word w) : Result (Word w) := fit w (a * b)

def checkedAdd (a b : Word w) : Option (Word w) := checkedFit w (a + b)

def checkedSub (a b : Word w) : Option (Word w) :=
  if (b : ℕ) ≤ a then checkedFit w (a - b) else none

def saturatingSub (a b : Word w) : Word w := ⟨a - b, by omega⟩

/-- Lossless conversion to a wider word. -/
def widen {v : ℕ} (a : Word v) (h : v ≤ w := by
    first
    | exact Klend.Word.le_8_64
    | exact Klend.Word.le_16_64
    | exact Klend.Word.le_32_64
    | decide) : Word w :=
  ⟨a, a.isLt.trans_le (Nat.pow_le_pow_right (by omega) h)⟩

def max (w : ℕ) : Word w := ⟨2 ^ w - 1, by have := Nat.two_pow_pos w; omega⟩

@[simp] theorem fit_eq_ok {n : ℕ} {a : Word w} : fit w n = .ok a ↔ (a : ℕ) = n := by
  unfold fit; split
  · simp [Fin.ext_iff, eq_comm]
  · simp; omega

theorem uncoded_fit {n : ℕ} : Uncoded (fit w n) := by
  unfold fit
  split
  · exact uncoded_pure
  · exact uncoded_abort

theorem returns_add {a b : Word w} : Returns (add a b) ↔ (a + b : ℕ) < 2 ^ w := by
  rw [add, uncoded_fit.returns_iff]
  constructor
  · rintro ⟨c, hc⟩
    exact fit_eq_ok.1 hc ▸ c.isLt
  · exact fun h ↦ ⟨⟨_, h⟩, fit_eq_ok.2 rfl⟩

@[simp] theorem checkedFit_eq_some {n : ℕ} {a : Word w} :
    checkedFit w n = some a ↔ (a : ℕ) = n := by
  unfold checkedFit; split
  · simp [Fin.ext_iff, eq_comm]
  · simp; omega

@[simp] theorem add_eq_ok {a b c : Word w} : add a b = .ok c ↔ (c : ℕ) = a + b := by
  simp [add]

@[simp] theorem sub_eq_ok {a b c : Word w} : sub a b = .ok c ↔ (c : ℕ) + b = a := by
  unfold sub; split <;> simp <;> omega

@[simp] theorem mul_eq_ok {a b c : Word w} : mul a b = .ok c ↔ (c : ℕ) = a * b := by
  simp [mul]

@[simp] theorem checkedAdd_eq_some {a b c : Word w} :
    checkedAdd a b = some c ↔ (c : ℕ) = a + b := by
  simp [checkedAdd]

@[simp] theorem checkedSub_eq_some {a b c : Word w} :
    checkedSub a b = some c ↔ (c : ℕ) + b = a := by
  unfold checkedSub; split <;> simp <;> omega

@[simp] theorem saturatingSub_val (a b : Word w) : (saturatingSub a b : ℕ) = a - b := rfl

@[simp] theorem widen_val {v : ℕ} (a : Word v) (h : v ≤ w) : (a.widen h : ℕ) = a := rfl

@[simp] theorem max_val : (max w : ℕ) = 2 ^ w - 1 := rfl

end Word

end Klend
