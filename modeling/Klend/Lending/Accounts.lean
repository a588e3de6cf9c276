import Klend.State.Obligation
import Klend.State.Reserve

/-! # Account access

Instructions reach further reserves through lists of remaining accounts. A
reserve that the instruction already holds for writing is absent from the map,
so loading it a second time fails as it does at run time.
-/

namespace Klend

abbrev Reserves : Type := Pubkey → Option Reserve

/-- A referrer token state lives at an address derived from its referrer and its reserve; the
model uses the two seeds as the address. -/
abbrev ReferrerTokenStateKey : Type := Pubkey × Pubkey

abbrev ReferrerTokenStates : Type := ReferrerTokenStateKey → Option ReferrerTokenState

namespace Reserves

/-- A named account. The default key is the system program's, which is never a reserve. -/
def load (rs : Reserves) (k : Pubkey) : Result Reserve :=
  if k = 0 then .error .anchor
  else match rs k with
    | some r => .ok r
    | none => .error .anchor

/-- A remaining account, unwrapped by the iterator that yields it. -/
def loadRemaining (rs : Reserves) (k : Pubkey) : Result Reserve :=
  if k = 0 then abort else unwrap (rs k)

def store (rs : Reserves) (k : Pubkey) (r : Reserve) : Reserves := Function.update rs k (some r)

/-- The accounts still loadable while `k` is held for writing. -/
def hold (rs : Reserves) (k : Pubkey) : Reserves := Function.update rs k none

@[simp] theorem load_eq_ok {rs : Reserves} {k : Pubkey} {r : Reserve} :
    rs.load k = .ok r ↔ k ≠ 0 ∧ rs k = some r := by
  unfold load
  by_cases hk : k = 0 <;> cases h : rs k <;> simp [hk]

@[simp] theorem loadRemaining_eq_ok {rs : Reserves} {k : Pubkey} {r : Reserve} :
    rs.loadRemaining k = .ok r ↔ k ≠ 0 ∧ rs k = some r := by
  unfold loadRemaining
  by_cases hk : k = 0 <;> simp [hk]

@[simp] theorem store_same (rs : Reserves) (k : Pubkey) (r : Reserve) :
    rs.store k r k = some r := by
  simp [store]

theorem store_other {rs : Reserves} {k j : Pubkey} {r : Reserve} (h : j ≠ k) :
    rs.store k r j = rs j := by
  simp [store, h]

@[simp] theorem hold_same (rs : Reserves) (k : Pubkey) : rs.hold k k = none := by
  simp [hold]

theorem hold_other {rs : Reserves} {k j : Pubkey} (h : j ≠ k) : rs.hold k j = rs j := by
  simp [hold, h]

end Reserves

/-- A loop over the occupied slots of an obligation, each with its index and the next remaining
account; accounts that are left over are ignored. -/
def forOccupied {σ S : Type} (occupied : σ → Bool)
    (body : ℕ → S → σ → Pubkey → Result (S × σ)) (index : ℕ) :
    S → List σ → List Pubkey → Result (S × List σ)
  | s, [], _ => pure (s, [])
  | s, x :: xs, ks =>
    if occupied x then
      match ks with
      | [] => err .invalidAccountInput
      | k :: ks => do
        let (s, x) ← body index s x k
        let (s, xs) ← forOccupied occupied body (index + 1) s xs ks
        pure (s, x :: xs)
    else do
      let (s, xs) ← forOccupied occupied body (index + 1) s xs ks
      pure (s, x :: xs)

/-- The same loop through `zip_and_validate_same_length`: a left-over account is an error too. -/
def forOccupiedExact {σ S : Type} (occupied : σ → Bool)
    (body : ℕ → S → σ → Pubkey → Result (S × σ)) (s : S) (xs : List σ) (ks : List Pubkey) :
    Result (S × List σ) := do
  let r ← forOccupied occupied body 0 s xs ks
  require (ks.length = xs.countP occupied) .invalidAccountInput
  pure r

def ObligationCollateral.occupied (d : ObligationCollateral) : Bool := d.depositReserve ≠ 0

def ObligationLiquidity.occupied (b : ObligationLiquidity) : Bool := b.borrowReserve ≠ 0

end Klend
