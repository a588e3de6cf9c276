import Klend.Lending.Runs
import Klend.Referrals.Steps

/-! # Conservation of referral fees

In every state that a market reaches, the accumulated referral fees of a reserve are
exactly what its referrers may still claim, and a referrer earned exactly what was
withdrawn and what is unclaimed.
-/

namespace Klend

open Relation (ReflTransGen)

theorem totalSupply_of_withdrawal {r : Reserve} {available n : U64} {accumulated supply : Fraction}
    (ha : (available : ℕ) + n = r.liquidity.availableAmount)
    (hp : accumulated.bits + n * 2 ^ 60 = r.liquidity.accumulatedReferrerFeesSf.bits)
    (h : r.liquidity.totalSupply = .ok supply) :
    ReserveLiquidity.totalSupply { r.liquidity with
      availableAmount := available, accumulatedReferrerFeesSf := accumulated } = .ok supply := by
  obtain ⟨hlt, hsum⟩ := ReserveLiquidity.totalSupply_eq_ok.1 h
  rw [← unit_eq] at hp
  rw [← ha, Nat.add_mul] at hlt hsum
  rw [ReserveLiquidity.totalSupply_eq_ok]
  constructor
  · dsimp only
    omega
  · dsimp only
    omega

namespace World

variable {w₀ w : World} {withdrawn : ReferrerTokenStateKey → ℕ}

/-- A step of the market, with what every referrer withdrew since its beginning. -/
def ReferralStep (s s' : World × (ReferrerTokenStateKey → ℕ)) : Prop :=
  ∃ clock ix, s.1.process clock ix = .ok s'.1 ∧
    s'.2 = recordWithdrawal s.2 (s.1.withdrawnReferrerFees clock ix)

theorem Genesis.referrals (h : w.Genesis) :
    Referrals w.reserves w.referrerTokenStates fun _ ↦ 0 where
  backed := by
    intro k r hr
    have hclaims : w.referrerTokenStates.unclaimed k = fun _ ↦ 0 := by
      funext ref
      exact ReferrerTokenStates.unclaimed_of_none (h.referrers _)
    have hfees : r.liquidity.accumulatedReferrerFeesSf.bits = 0 := by
      obtain ⟨slot, market, mint, decimals, deposit, -, heq⟩ := (h.reserve k r hr).init
      rw [heq]
      rfl
    rw [hclaims, hfees]
    exact Pool.holds_zero
  earned := by
    intro key st hst
    rw [h.referrers key] at hst
    cases hst
  opened := fun _ _ ↦ rfl

theorem ReferralStep.referrals : Transition.Preserves ReferralStep
    fun s ↦ Referrals s.1.reserves s.1.referrerTokenStates s.2 := by
  rintro s s' hs ⟨clock, ix, hstep, hrecord⟩
  rw [hrecord]
  exact process_referrals hstep hs

theorem reserves_of_withdrawal (w : World) (key : Pubkey) (r : Reserve)
    (stateKey : ReferrerTokenStateKey) (st : ReferrerTokenState) :
    ((w.storeReserve key r).storeReferrerTokenState stateKey st).reserves key = some r :=
  Reserves.store_same _ _ _

/-- Referral fees are conserved over every run of a market. -/
theorem referralFees_conserved (hgenesis : w₀.Genesis)
    (hrun : ReflTransGen ReferralStep (w₀, fun _ ↦ 0) (w, withdrawn)) :
    (∀ k r, w.reserves k = some r → r.liquidity.accumulatedReferrerFeesSf.bits =
      ∑ referrer, w.referrerTokenStates.unclaimed k referrer) ∧
    (∀ key st, w.referrerTokenStates key = some st → st.amountCumulativeSf.bits =
      st.amountUnclaimedSf.bits + withdrawn key * 2 ^ 60) ∧
    ∀ clock key referrer w', w.process clock (.withdrawReferrerFees key referrer) = .ok w' →
      ∃ (r r' : Reserve) (st st' : ReferrerTokenState) (n : U64),
        w.withdrawnReferrerFees clock (.withdrawReferrerFees key referrer) =
          some ((referrer, key), n) ∧
        w.reserves key = some r ∧ w.referrerTokenStates (referrer, key) = some st ∧
        w' = (w.storeReserve key r').storeReferrerTokenState (referrer, key) st' ∧
        (n : ℕ) * 2 ^ 60 ≤ st.amountUnclaimedSf.bits ∧
        (n : ℕ) ≤ r.liquidity.availableAmount ∧
        st'.amountUnclaimedSf.bits + n * 2 ^ 60 = st.amountUnclaimedSf.bits ∧
        (r'.liquidity.availableAmount : ℕ) + n = r.liquidity.availableAmount ∧
        ∀ supply, r.liquidity.totalSupply = .ok supply →
          r'.liquidity.totalSupply = .ok supply := by
  have hreferrals : Referrals w.reserves w.referrerTokenStates withdrawn :=
    ReferralStep.referrals.run (s := (w₀, fun _ ↦ 0)) (t := (w, withdrawn)) hgenesis.referrals hrun
  refine ⟨fun k r hr ↦ ?_, hreferrals.earned, fun clock key referrer w' h ↦ ?_⟩
  · exact ((hreferrals.backed k r hr).sum_eq Finset.univ fun j hj ↦
      absurd (Finset.mem_univ j) hj).symm
  · obtain ⟨r, r', st, st', n, hr, hst, hop, hpaid, hw'⟩ := withdrawReferrerFees_spec h
    obtain ⟨a, p, u, rfl, rfl, ha, hp, hu⟩ := Reserve.withdrawReferrerFees_spec hop
    exact ⟨r, _, st, _, n, hpaid, hr, hst, hw', by omega, by omega, hu, ha,
      fun supply ↦ totalSupply_of_withdrawal ha hp⟩

theorem Run.exists_withdrawn (h : Run Anything w₀ w) (withdrawn₀ : ReferrerTokenStateKey → ℕ) :
    ∃ withdrawn, ReflTransGen ReferralStep (w₀, withdrawn₀) (w, withdrawn) := by
  induction h with
  | refl => exact ⟨withdrawn₀, .refl⟩
  | tail _ hstep ih =>
    obtain ⟨withdrawn, hrun⟩ := ih
    obtain ⟨clock, ix, -, hstep⟩ := hstep
    exact ⟨_, hrun.tail ⟨clock, ix, hstep, rfl⟩⟩

/-- A market whose first reserve charges for borrowing and shares the fee with referrers. -/
def referralMarket : World :=
  opening { LendingMarket.init with referralFeeBps := 2000 } 1
    [(5, plainReserve { plainConfig 500 with
        fees := { (plainConfig 500).fees with borrowFeeSf := 11529215046068469 } }),
      (6, plainReserve (plainConfig 500))]

theorem referralMarket_genesis : referralMarket.Genesis :=
  opening_genesis { LendingMarket.init_validated with referralFee := by decide } (by
    simp only [List.mem_cons, List.not_mem_nil, or_false, forall_eq_or_imp, forall_eq]
    exact ⟨plainReserve_isNew rfl, plainReserve_isNew (plainConfig_validated _ _)⟩)

/-- A loan taken by an obligation with a referrer. -/
def referredLoan : List (Clock × Instruction) :=
  [(⟨1, 10⟩, .refreshReserve 5 unitPrice), (⟨1, 10⟩, .refreshReserve 6 unitPrice),
    (⟨1, 10⟩, .depositReserveLiquidity 6 1000000), (⟨1, 10⟩, .initObligation 0 7 8),
    (⟨1, 10⟩, .initReferrerTokenState 5 8), (⟨1, 10⟩, .refreshObligation 0 [] []),
    (⟨1, 10⟩, .depositObligationCollateral 0 6 1000000),
    (⟨2, 10⟩, .refreshReserve 5 unitPrice), (⟨2, 10⟩, .refreshReserve 6 unitPrice),
    (⟨2, 10⟩, .refreshObligation 0 [6] []),
    (⟨2, 10⟩, .borrowObligationLiquidity 0 5 500000 (some (8, 5)) []),
    (⟨2, 10⟩, .refreshReserve 5 unitPrice)]

theorem referralFees_conserved_referredLoan :
    ∃ w', (referralMarket.after referredLoan).process ⟨2, 10⟩ (.withdrawReferrerFees 5 8) = .ok w' ∧
      ∃ (r r' : Reserve), (referralMarket.after referredLoan).reserves 5 = some r ∧
        w'.reserves 5 = some r' ∧
        (r'.liquidity.availableAmount : ℕ) + 999 = r.liquidity.availableAmount := by
  obtain ⟨withdrawn, hrun⟩ := (run_after referralMarket referredLoan
    fun _ _ _ ↦ trivial : Run Anything _ _).exists_withdrawn fun _ ↦ 0
  obtain ⟨w', hw', -⟩ := exists_eq_ok
    (x := (referralMarket.after referredLoan).process ⟨2, 10⟩ (.withdrawReferrerFees 5 8))
    (p := fun _ ↦ true) (by decide)
  obtain ⟨r, r', st, st', n, hn, hr, -, rfl, -, -, -, ha, -⟩ :=
    (referralFees_conserved referralMarket_genesis hrun).2.2 _ _ _ _ hw'
  have hamount : (referralMarket.after referredLoan).withdrawnReferrerFees ⟨2, 10⟩
      (.withdrawReferrerFees 5 8) = some ((8, 5), 999) := by decide
  rw [hamount, Option.some.injEq, Prod.mk.injEq] at hn
  obtain ⟨-, rfl⟩ := hn
  exact ⟨_, hw', r, r', hr, reserves_of_withdrawal _ _ _ _ _, ha⟩

end World

end Klend
