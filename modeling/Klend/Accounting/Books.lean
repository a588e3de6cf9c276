import Klend.Library.Transition
import Klend.Library.Vault
import Mathlib.Tactic.NormNum

/-! # The books of a reserve

An abstract account of a reserve: tokens available, debt, fees owed, and shares.
Tokens are counted whole, debt and fees in the units of the program's fixed-point
numbers. The effects are the only changes an instruction makes to the books.
-/

namespace Klend

/-- One token in fixed-point units. -/
@[irreducible] def unit : ℕ := 2 ^ 60

theorem unit_eq : unit = 2 ^ 60 := by unfold unit; rfl

theorem unit_pos : 0 < unit := by rw [unit_eq]; norm_num

@[ext] structure Books where
  version : ℕ
  available : ℕ
  borrowed : ℕ
  /-- Fees of the protocol and of referrers, pending ones included. -/
  claims : ℕ
  cumulativeRate : ℕ
  shares : ℕ
  /-- Shares held outside the reserve's own initial deposit. -/
  circulating : ℕ
  depositClock : ℕ
  borrowClock : ℕ
  depositLimit : ℕ
  borrowLimit : ℕ
  takeRatePct : ℕ

namespace Books

variable {b b' : Books}

def assets (b : Books) : ℕ := b.available * unit + b.borrowed

/-- What belongs to the shares, meaningful when the claims are covered. -/
def equity (b : Books) : ℕ := b.assets - b.claims

def vault (b : Books) : Vault := ⟨b.equity, b.shares⟩

def supplyCrossed (b : Books) : Prop := b.depositLimit * unit < b.equity

def debtCrossed (b : Books) : Prop := b.borrowLimit * unit < b.borrowed

instance (b : Books) : Decidable b.supplyCrossed := inferInstanceAs (Decidable (_ < _))

instance (b : Books) : Decidable b.debtCrossed := inferInstanceAs (Decidable (_ < _))

def clockAfter (crossed : Prop) [Decidable crossed] (clock timestamp : ℕ) : ℕ :=
  if crossed then (if clock = 0 then timestamp else clock) else 0

/-- Both limit clocks of `b'` were started, kept or cleared at `timestamp`. -/
structure Touched (timestamp : ℕ) (b b' : Books) : Prop where
  depositClock : b'.depositClock = clockAfter b'.supplyCrossed b.depositClock timestamp
  borrowClock : b'.borrowClock = clockAfter b'.debtCrossed b.borrowClock timestamp

/-- A change of the books at time `t`. `S` and `F` limit the debt that a repayment settles and that
a socialised loss forgives. -/
inductive Effect (t : ℕ) (S F : Books → ℕ → Prop) : Books → Books → Prop
  | accrue (b : Books) (rate claims : ℕ) (hrate : unit ≤ rate)
      (hclaims : b.takeRatePct ≤ 100 →
        claims + b.borrowed ≤ b.claims + b.borrowed * rate / unit) :
      Effect t S F b { b with
        borrowed := b.borrowed * rate / unit
        cumulativeRate := b.cumulativeRate * rate / unit
        claims }
  | deposit (b : Books) (x c : ℕ) (hcovered : b.claims ≤ b.assets)
      (hprice : 0 < b.shares → c * b.equity ≤ x * unit * b.shares) :
      Effect t S F b { b with
        available := b.available + x
        shares := b.shares + c
        circulating := b.circulating + c }
  | redeem (b : Books) (available shares circulating depositClock borrowClock x c : ℕ)
      (hcovered : b.claims ≤ b.assets) (havailable : available + x = b.available)
      (hshares : shares + c = b.shares) (hcirculating : circulating + c = b.circulating)
      (hprice : 0 < b.equity → 0 < b.shares → x * unit * b.shares ≤ c * b.equity)
      (htouched : Touched t b
        { b with available, shares, circulating, depositClock, borrowClock }) :
      Effect t S F b
        { b with available, shares, circulating, depositClock, borrowClock }
  | borrow (b : Books) (available f : ℕ) (havailable : available + f / unit = b.available) :
      Effect t S F b { b with available, borrowed := b.borrowed + f }
  | repay (b : Books) (x s : ℕ) (hpaid : s ≤ x * unit) (hsettles : S b s) :
      Effect t S F b { b with
        available := b.available + x, borrowed := b.borrowed - s }
  | flashRepay (b : Books) (depositClock borrowClock x : ℕ)
      (htouched : Touched t b { b with
        available := b.available + x, borrowed := b.borrowed - x * unit
        depositClock, borrowClock }) :
      Effect t S F b { b with
        available := b.available + x, borrowed := b.borrowed - x * unit
        depositClock, borrowClock }
  | fees (b : Books) (available claims : ℕ)
      (hequity : available * unit + b.claims = b.available * unit + claims) :
      Effect t S F b { b with available, claims }
  | forgive (b : Books) (version borrowed f : ℕ) (hcovered : b.claims ≤ b.assets)
      (hborrowed : borrowed + f = b.borrowed) (hforgives : F b f)
      (hversion : version = if b.equity ≤ f then 2 ^ 64 - 1 else b.version) :
      Effect t S F b { b with version, borrowed }
  | clocks (b : Books) (depositClock borrowClock : ℕ)
      (htouched : Touched t b { b with depositClock, borrowClock }) :
      Effect t S F b { b with depositClock, borrowClock }

end Books

end Klend
