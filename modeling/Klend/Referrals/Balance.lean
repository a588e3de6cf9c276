import Klend.Lending.ObligationSpecs
import Klend.Library.Pool

/-! # Referral fees and their claims

The referral fees accumulated in a reserve are a pool of the referrers that may
claim them, and each referrer's total is what was claimed and what still may be.
-/

namespace Klend

/-- What a referrer may still claim of a reserve. -/
def ReferrerTokenStates.unclaimed (states : ReferrerTokenStates) (k referrer : Pubkey) : ℕ :=
  match states (referrer, k) with
  | some st => st.amountUnclaimedSf.bits
  | none => 0

namespace ReferrerTokenStates

variable {states : ReferrerTokenStates} {k ref : Pubkey} {st : ReferrerTokenState}

theorem unclaimed_eq (h : states (ref, k) = some st) :
    states.unclaimed k ref = st.amountUnclaimedSf.bits := by
  rw [unclaimed, h]

theorem unclaimed_of_none (h : states (ref, k) = none) : states.unclaimed k ref = 0 := by
  rw [unclaimed, h]

theorem unclaimed_update_same (states : ReferrerTokenStates) (k ref : Pubkey)
    (st : ReferrerTokenState) :
    unclaimed (Function.update states (ref, k) (some st)) k =
      Function.update (states.unclaimed k) ref st.amountUnclaimedSf.bits := by
  funext ref'
  by_cases href : ref' = ref
  · subst href
    rw [Function.update_self, unclaimed_eq (Function.update_self _ _ _)]
  · have hne : (ref', k) ≠ (ref, k) := fun h ↦ href (Prod.mk.inj h).1
    rw [Function.update_of_ne href, unclaimed, Function.update_of_ne hne, unclaimed]

theorem unclaimed_update_other {j : Pubkey} (hj : j ≠ k) :
    unclaimed (Function.update states (ref, k) (some st)) j = states.unclaimed j := by
  funext ref'
  have hne : (ref', j) ≠ (ref, k) := fun h ↦ hj (Prod.mk.inj h).2
  rw [unclaimed, Function.update_of_ne hne, unclaimed]

end ReferrerTokenStates

/-- Every reserve's accumulated referral fees are what its referrers may claim, and each of them
earned what they withdrew and what they may claim. -/
structure Referrals (rs : Reserves) (states : ReferrerTokenStates)
    (withdrawn : ReferrerTokenStateKey → ℕ) : Prop where
  backed : ∀ k r, rs k = some r →
    Pool.Holds (states.unclaimed k) r.liquidity.accumulatedReferrerFeesSf.bits
  earned : ∀ key st, states key = some st →
    st.amountCumulativeSf.bits = st.amountUnclaimedSf.bits + withdrawn key * 2 ^ 60
  opened : ∀ key, states key = none → withdrawn key = 0

/-- The accumulated referral fees stay as they are. -/
def Reserve.KeepsReferrals (r r' : Reserve) : Prop :=
  r'.liquidity.accumulatedReferrerFeesSf = r.liquidity.accumulatedReferrerFeesSf

def Reserves.KeepReferrals : Reserves → Reserves → Prop :=
  KeyedMap.Related fun _ ↦ Reserve.KeepsReferrals

namespace Reserve.KeepsReferrals

variable {a b c : Reserve}

theorem refl (r : Reserve) : KeepsReferrals r r := rfl

theorem trans (h : KeepsReferrals a b) (h' : KeepsReferrals b c) : KeepsReferrals a c :=
  Eq.trans h' h

theorem markStale (h : KeepsReferrals a b) : KeepsReferrals a b.markStale := h

theorem of_retracked (h : a.Retracked b) : KeepsReferrals a b := by
  obtain ⟨outside, groups, rfl⟩ := h
  rfl

end Reserve.KeepsReferrals

namespace Reserves.KeepReferrals

variable {rs rs' rs'' : Reserves} {k : Pubkey} {r r' : Reserve}

theorem refl (rs : Reserves) : KeepReferrals rs rs :=
  KeyedMap.Related.refl (fun _ r ↦ Reserve.KeepsReferrals.refl r) rs

theorem trans (h : KeepReferrals rs rs') (h' : KeepReferrals rs' rs'') : KeepReferrals rs rs'' :=
  KeyedMap.Related.trans (fun _ _ _ _ hab hbc ↦ hab.trans hbc) h h'

theorem of_retracked (h : rs.Retracked rs') : KeepReferrals rs rs' :=
  KeyedMap.Related.mono (fun _ _ _ h ↦ .of_retracked h) h

theorem store (hr : rs k = some r) (h : Reserve.KeepsReferrals r r') :
    KeepReferrals rs (rs.store k r') :=
  KeyedMap.Related.update (fun _ r ↦ Reserve.KeepsReferrals.refl r) hr h

theorem store_hold (hr : rs k = some r) (hmap : (rs.hold k).Retracked rs')
    (h : Reserve.KeepsReferrals r r') : KeepReferrals rs (rs'.store k r') :=
  KeyedMap.Related.update_of_erase hr hmap (fun _ _ _ _ h ↦ .of_retracked h) h

end Reserves.KeepReferrals

namespace Referrals

variable {rs rs' : Reserves} {states : ReferrerTokenStates}
  {withdrawn withdrawn' : ReferrerTokenStateKey → ℕ} {k ref : Pubkey} {r r' : Reserve}
  {st st' : ReferrerTokenState}

theorem keep (h : Referrals rs states withdrawn) (hkeep : rs.KeepReferrals rs') :
    Referrals rs' states withdrawn where
  backed := by
    intro k r' hr'
    obtain ⟨r, hr, hsame⟩ := hkeep.value_rev hr'
    rw [hsame]
    exact h.backed k r hr
  earned := h.earned
  opened := h.opened

theorem settle (h : Referrals rs states withdrawn) (hr : rs k = some r)
    (hpool : r'.liquidity.accumulatedReferrerFeesSf.bits + states.unclaimed k ref =
      r.liquidity.accumulatedReferrerFeesSf.bits + st'.amountUnclaimedSf.bits)
    (hearned : st'.amountCumulativeSf.bits =
      st'.amountUnclaimedSf.bits + withdrawn' (ref, k) * 2 ^ 60)
    (hother : ∀ key, key ≠ (ref, k) → withdrawn' key = withdrawn key) :
    Referrals (rs.store k r') (Function.update states (ref, k) (some st')) withdrawn' where
  backed := by
    intro j r₁ hr₁
    by_cases hj : j = k
    · subst hj
      rw [Reserves.store_same, Option.some.injEq] at hr₁
      subst hr₁
      rw [ReferrerTokenStates.unclaimed_update_same]
      exact (h.backed j r hr).update hpool
    · rw [Reserves.store_other hj] at hr₁
      rw [ReferrerTokenStates.unclaimed_update_other hj]
      exact h.backed j r₁ hr₁
  earned := by
    intro key st₁ hst₁
    by_cases hkey : key = (ref, k)
    · subst hkey
      rw [Function.update_self, Option.some.injEq] at hst₁
      subst hst₁
      exact hearned
    · rw [Function.update_of_ne hkey] at hst₁
      rw [hother key hkey]
      exact h.earned key st₁ hst₁
  opened := by
    intro key hnone
    by_cases hkey : key = (ref, k)
    · rw [hkey, Function.update_self] at hnone
      cases hnone
    · rw [Function.update_of_ne hkey] at hnone
      rw [hother key hkey]
      exact h.opened key hnone

theorem credit (h : Referrals rs states withdrawn) (hr : rs k = some r)
    (hst : states (ref, k) = some st) {n : ℕ}
    (hpool : r'.liquidity.accumulatedReferrerFeesSf.bits =
      r.liquidity.accumulatedReferrerFeesSf.bits + n)
    (hunclaimed : st'.amountUnclaimedSf.bits = st.amountUnclaimedSf.bits + n)
    (hcumulative : st'.amountCumulativeSf.bits = st.amountCumulativeSf.bits + n) :
    Referrals (rs.store k r') (Function.update states (ref, k) (some st')) withdrawn := by
  refine h.settle hr ?_ ?_ fun _ _ ↦ rfl
  · rw [ReferrerTokenStates.unclaimed_eq hst]
    omega
  · have := h.earned (ref, k) st hst
    omega

end Referrals

end Klend
