import Mathlib.Algebra.Order.Floor.Div
import Mathlib.Algebra.Order.Ring.Nat
import Mathlib.Tactic.Ring

/-! # Rounded quotients of natural numbers

Quotients rounded up in the form `(a + (b - 1)) / b`, and quotients of quotients.
-/

namespace Rounding

variable {a b c : ℕ}

theorem add_pred_div_eq_ceilDiv (hb : 0 < b) : (a + (b - 1)) / b = a ⌈/⌉ b := by
  rw [Nat.ceilDiv_eq_add_pred_div, Nat.add_sub_assoc hb]

theorem le_add_pred_div_mul (hb : 0 < b) : a ≤ (a + (b - 1)) / b * b := by
  rw [add_pred_div_eq_ceilDiv hb, mul_comm]
  exact le_smul_ceilDiv hb

theorem add_pred_div_le_iff (hb : 0 < b) : (a + (b - 1)) / b ≤ c ↔ a ≤ c * b := by
  rw [add_pred_div_eq_ceilDiv hb, ceilDiv_le_iff_le_mul hb, mul_comm]

/-- Converting down and converting back up form a Galois connection, with the way back rounded up
in two steps. -/
theorem le_div_iff_ceil_ceil_le {u l : ℕ} (ha : 0 < a) (hb : 0 < b) (hu : 0 < u) :
    c ≤ b * l * u / a ↔ ((c * a + (b - 1)) / b + (u - 1)) / u ≤ l :=
  calc c ≤ b * l * u / a ↔ c * a ≤ b * l * u := Nat.le_div_iff_mul_le ha
    _ ↔ c * a ≤ l * u * b := by rw [mul_assoc, mul_comm b]
    _ ↔ (c * a + (b - 1)) / b ≤ l * u := (add_pred_div_le_iff hb).symm
    _ ↔ ((c * a + (b - 1)) / b + (u - 1)) / u ≤ l := (add_pred_div_le_iff hu).symm

/-- A part taken from a whole at a rate that is rounded down has at most that rate, rounded up. -/
theorem ceil_rate_le {rate n d u : ℕ} (hd : 0 < d) (hu : 0 < u) (h : n ≤ rate * d / u) :
    (n * u * u + (d * u - 1)) / (d * u) ≤ rate := by
  rw [add_pred_div_le_iff (Nat.mul_pos hd hu), ← mul_assoc]
  exact Nat.mul_le_mul_right u (Nat.mul_le_of_le_div _ _ _ h)

/-- The rate of a part, rounded up, values it at no less than its share of the value. -/
theorem share_le_ceil_rate {value n d u : ℕ} (hd : 0 < d) (hu : 0 < u) :
    value * n / d ≤ value * ((n * u * u + (d * u - 1)) / (d * u)) / u := by
  rw [Nat.le_div_iff_mul_le hu]
  have hrate : n * u ≤ (n * u * u + (d * u - 1)) / (d * u) * d := by
    have h : n * u * u ≤ (n * u * u + (d * u - 1)) / (d * u) * (d * u) :=
      le_add_pred_div_mul (Nat.mul_pos hd hu)
    rw [← mul_assoc] at h
    exact Nat.le_of_mul_le_mul_right h hu
  refine Nat.le_of_mul_le_mul_right ?_ hd
  calc value * n / d * u * d = value * n / d * d * u := by ring
    _ ≤ value * n * u := Nat.mul_le_mul_right u (Nat.div_mul_le_self _ _)
    _ = value * (n * u) := mul_assoc _ _ _
    _ ≤ value * ((n * u * u + (d * u - 1)) / (d * u) * d) := Nat.mul_le_mul_left value hrate
    _ = value * ((n * u * u + (d * u - 1)) / (d * u)) * d := (mul_assoc _ _ _).symm

/-- Rounding down twice never gives back more than the dividend. -/
theorem div_div_mul_mul_le : a / b / c * c * b ≤ a :=
  calc a / b / c * c * b ≤ a / b * b := Nat.mul_le_mul_right b (Nat.div_mul_le_self _ _)
    _ ≤ a := Nat.div_mul_le_self _ _

/-- A price and a factor divided out of a value and multiplied back in, each step rounded down, give
back at most the value. -/
theorem revalue_le {value price factor d u : ℕ} (hd : 0 < d) (hu : 0 < u)
    (hb : b ≤ value * d * u / price * u / factor) : b * price / u / d * factor / u ≤ value := by
  have hshare : b * factor ≤ value * d * u / price * u := Nat.mul_le_of_le_div _ _ _ hb
  have hbought : b * price / u / d * d * u ≤ b * price := div_div_mul_mul_le
  refine Nat.div_le_of_le_mul (Nat.le_of_mul_le_mul_right ?_ (Nat.mul_pos hd hu))
  calc b * price / u / d * factor * (d * u)
      = b * price / u / d * d * u * factor := by ring
    _ ≤ b * price * factor := Nat.mul_le_mul_right factor hbought
    _ = b * factor * price := by ring
    _ ≤ value * d * u / price * u * price := Nat.mul_le_mul_right price hshare
    _ = value * d * u / price * price * u := by ring
    _ ≤ value * d * u * u := Nat.mul_le_mul_right u (Nat.div_mul_le_self _ _)
    _ = u * value * (d * u) := by ring

/-- A premium on a part that is no larger than the gap the part leaves to the whole, read off the
rate rounded down, takes the part to at most the whole, if the gap makes up for the rounding. -/
theorem premium_le {part whole premium u : ℕ} (hwhole : 0 < whole) (hu : 0 < u)
    (hpremium : premium + part * u / whole ≤ u)
    (hwide : 2 * u ≤ (u - part * u / whole) * (u - part * u / whole)) :
    (u + premium) * part ≤ u * whole := by
  obtain ⟨rate, hrate⟩ : ∃ rate, rate = part * u / whole := ⟨_, rfl⟩
  rw [← hrate] at hpremium hwide
  have hpart : part * u ≤ (rate + 1) * whole := by
    rw [hrate, mul_comm _ whole]
    exact (Nat.lt_mul_div_succ _ hwhole).le
  obtain ⟨gap, rfl⟩ : ∃ gap, u = rate + gap := ⟨u - rate, by omega⟩
  rw [Nat.add_sub_cancel_left] at hwide
  have hrounded : (rate + gap + gap) * (rate + 1) ≤ (rate + gap) * (rate + gap) := by
    have hsquare : (rate + gap + gap) * (rate + 1) + gap * gap =
        (rate + gap) * (rate + gap) + (rate + gap + gap) := by ring
    omega
  refine Nat.le_of_mul_le_mul_right ?_ hu
  calc (rate + gap + premium) * part * (rate + gap)
      = (rate + gap + premium) * (part * (rate + gap)) := mul_assoc _ _ _
    _ ≤ (rate + gap + gap) * ((rate + 1) * whole) := Nat.mul_le_mul (by omega) hpart
    _ = (rate + gap + gap) * (rate + 1) * whole := (mul_assoc _ _ _).symm
    _ ≤ (rate + gap) * (rate + gap) * whole := Nat.mul_le_mul_right _ hrounded
    _ = (rate + gap) * whole * (rate + gap) := by ring

end Rounding
