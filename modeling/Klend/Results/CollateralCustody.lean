import Klend.Lending.Runs
import Klend.Positions.Vaults

/-! # Custody of collateral

In every state that a market and its vaults reach, a collateral vault holds what the
obligations have deposited, and collateral moves only with the vaults.
-/

namespace Klend.Custody

open Relation (ReflTransGen)

/-- A step of an instruction that moves collateral. -/
def Moves (c c' : Custody) : Prop := ∃ clock ix, c.process clock ix = .ok c'

/-- The collateral vaults hold what is deposited. -/
def Balanced (c : Custody) : Prop :=
  ∀ k, k ≠ 0 → (c.collateralSupply k : ℕ) = c.world.depositedIn k

variable {c₀ c c' : Custody}

theorem Moved.balanced (h : Moved c c') (hc : c.Balanced) : c'.Balanced := by
  intro k hk
  obtain ⟨index, o, o', ho, heq, hmoved⟩ := h.collateral
  have hsum := World.depositedIn_set (k := k) c'.world ho heq
  have hone := hmoved k hk
  have hbefore := hc k hk
  omega

theorem Step.balanced : Transition.Preserves Step Balanced := by
  intro c c' hc hstep
  cases hstep with
  | moves clock ix h => exact (process_moved h).balanced hc
  | other clock ix v hix h =>
    intro k hk
    rw [World.process_depositedIn h hix]
    exact hc k hk

theorem Moves.movesWith (h : ReflTransGen Moves c c') :
    Reserves.MovesWith c.liquiditySupply c'.liquiditySupply c.world.reserves c'.world.reserves := by
  induction h with
  | refl => exact .refl _ _
  | tail _ hstep ih =>
    obtain ⟨clock, ix, hstep⟩ := hstep
    exact ih.trans (process_moved hstep).liquidity

/-- Custody of collateral and of liquidity over every run from an empty market. -/
theorem custody_conserved (hgenesis : c₀.world.Genesis) (hempty : ∀ k, c₀.collateralSupply k = 0)
    (hrun : ReflTransGen Step c₀ c) :
    (∀ k, k ≠ 0 → (c.collateralSupply k : ℕ) =
      (c.world.obligations.map (Obligation.depositedIn k)).sum) ∧
    (∀ clock ix c', c.process clock ix = .ok c' →
      ∃ index o o', c.world.obligations[index]? = some o ∧
        c'.world.obligations = c.world.obligations.set index o' ∧
        ∀ k, k ≠ 0 → o'.depositedIn k + c.collateralSupply k =
          o.depositedIn k + c'.collateralSupply k) ∧
    ∀ c', ReflTransGen Moves c c' → ∀ k r, c.world.reserves k = some r →
      ∃ r', c'.world.reserves k = some r' ∧
        (r'.liquidity.availableAmount : ℕ) + c.liquiditySupply k =
          r.liquidity.availableAmount + c'.liquiditySupply k := by
  have hstart : c₀.Balanced := by
    intro k _
    rw [hempty k, World.depositedIn, hgenesis.obligations]
    rfl
  refine ⟨Step.balanced.run hstart hrun, ?_, ?_⟩
  · exact fun clock ix c' h ↦ (process_moved h).collateral
  · exact fun c' h k r hr ↦ (Moves.movesWith h).value hr

theorem run_others {w w' : World} (v l : Pubkey → U64)
    (h : World.Run (fun _ _ ix ↦ ix.movesCollateral = false) w w') :
    ReflTransGen Step ⟨w, v, l⟩ ⟨w', v, l⟩ := by
  induction h with
  | refl => exact .refl
  | tail _ hstep ih =>
    obtain ⟨clock, ix, hix, hstep⟩ := hstep
    exact ih.tail (.other clock ix l hix hstep)

theorem custody_conserved_plainMarket :
    ∃ c : Custody, (c.collateralSupply 6 : ℕ) = 1000000 ∧
      (c.world.obligations.map (Obligation.depositedIn 6)).sum = 1000000 := by
  have hrun := run_others (fun _ ↦ 0) (fun _ ↦ 0)
    (World.run_after World.plainMarket (World.plainLoan.take 5) (by
      intro ix hix w
      revert ix
      decide))
  obtain ⟨c, hc, hp⟩ := exists_eq_ok
    (x := process ⟨World.plainMarket.after (World.plainLoan.take 5), fun _ ↦ 0, fun _ ↦ 0⟩ ⟨1, 10⟩
      (.depositObligationCollateral 0 6 1000000))
    (p := fun c ↦ decide (c.collateralSupply 6 = 1000000)) (by decide)
  have hsix : (c.collateralSupply 6 : ℕ) = 1000000 := by
    rw [of_decide_eq_true hp]
    rfl
  have hconserved := (custody_conserved World.plainMarket_genesis (fun _ ↦ rfl)
    (hrun.tail (.moves _ _ hc))).1 6 (by decide)
  exact ⟨c, hsix, hconserved ▸ hsix⟩

end Klend.Custody
