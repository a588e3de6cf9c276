import Mathlib.Algebra.Order.Ring.Nat
import Mathlib.Data.Nat.Basic
import Mathlib.Tactic.Linarith
import Mathlib.Tactic.Ring

/-! # Share price of a vault

A vault holds equity for its shares. Prices are compared by cross-multiplication,
and every rule says which way an exchange of shares for equity has to round.
-/

/-- What a vault owes to the holders of its shares, and how many shares there are. -/
@[ext] structure Vault where
  equity : ℕ
  shares : ℕ

namespace Vault

variable {u v w : Vault}

/-- The price of a share of `v` is at most that of `w`. -/
def PriceLE (v w : Vault) : Prop := v.equity * w.shares ≤ w.equity * v.shares

theorem PriceLE.refl (v : Vault) : PriceLE v v := le_rfl

theorem PriceLE.trans (hv : 0 < v.shares) (huv : PriceLE u v) (hvw : PriceLE v w) :
    PriceLE u w := by
  have h : u.equity * w.shares * v.shares ≤ w.equity * u.shares * v.shares :=
    calc u.equity * w.shares * v.shares = u.equity * v.shares * w.shares := by ring
      _ ≤ v.equity * u.shares * w.shares := Nat.mul_le_mul_right _ huv
      _ = v.equity * w.shares * u.shares := by ring
      _ ≤ w.equity * v.shares * u.shares := Nat.mul_le_mul_right _ hvw
      _ = w.equity * u.shares * v.shares := by ring
  exact Nat.le_of_mul_le_mul_right h hv

theorem PriceLE.gain {e e' s : ℕ} (h : e ≤ e') : PriceLE ⟨e, s⟩ ⟨e', s⟩ :=
  Nat.mul_le_mul_right s h

/-- Shares issued at most at the current price. -/
theorem PriceLE.issue {e s x c : ℕ} (h : c * e ≤ x * s) : PriceLE ⟨e, s⟩ ⟨e + x, s + c⟩ := by
  show e * (s + c) ≤ (e + x) * s
  calc e * (s + c) = e * s + c * e := by ring
    _ ≤ e * s + x * s := Nat.add_le_add_left h _
    _ = (e + x) * s := by ring

/-- Shares redeemed at most at the current price. -/
theorem PriceLE.redeem {e s x c : ℕ} (h : x * s ≤ c * e) :
    PriceLE ⟨e + x, s + c⟩ ⟨e, s⟩ := by
  show (e + x) * s ≤ e * (s + c)
  calc (e + x) * s = e * s + x * s := by ring
    _ ≤ e * s + c * e := Nat.add_le_add_left h _
    _ = e * (s + c) := by ring

/-- Shares that are issued and redeemed again never pay more than they cost. -/
theorem redeem_issued_le {e s x y c : ℕ} (hs : 0 < s) (hissue : c * e ≤ x * s)
    (hredeem : y * (s + c) ≤ c * (e + x)) : y ≤ x := by
  have hle : y * (s + c) ≤ x * (s + c) :=
    calc y * (s + c) ≤ c * (e + x) := hredeem
      _ = c * e + x * c := by ring
      _ ≤ x * s + x * c := Nat.add_le_add_right hissue _
      _ = x * (s + c) := by ring
  exact Nat.le_of_mul_le_mul_right hle (Nat.add_pos_left hs c)

/-- A redemption that leaves a share outstanding leaves equity behind it. -/
theorem equity_pos_of_redeem {e s x c : ℕ} (he : 0 < e) (hc : c < s) (h : x * s ≤ c * e) :
    x < e := by
  have hlt : c * e < s * e := Nat.mul_lt_mul_of_pos_right hc he
  have : x * s < e * s := by rw [mul_comm e s]; exact h.trans_lt hlt
  exact Nat.lt_of_mul_lt_mul_right this

end Vault
