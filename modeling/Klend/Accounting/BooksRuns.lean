import Klend.Accounting.Refinement
import Klend.Lending.Runs

/-! # The books along a run

A run of the market is, for each of its reserves, a run of effects on the books,
and the books of a new reserve satisfy what the effects preserve.
-/

namespace Klend

open Relation (ReflTransGen)

namespace Books

variable {b b' : Books} {t : ℕ} {T : ℕ → Prop} {S F S' F' : Books → ℕ → Prop}

theorem Effect.mono (h : Effect t S F b b') (hS : ∀ b s, S b s → S' b s)
    (hF : ∀ b f, F b f → F' b f) : Effect t S' F' b b' := by
  cases h with
  | accrue rate claims hrate hclaims => exact .accrue _ _ _ hrate hclaims
  | deposit x c hcovered hprice => exact .deposit _ _ _ hcovered hprice
  | redeem _ _ _ _ _ x c hcovered havail hshares hcirc hprice htouched =>
    exact .redeem _ _ _ _ _ _ x c hcovered havail hshares hcirc hprice htouched
  | borrow available f havail => exact .borrow _ _ _ havail
  | repay x s hpaid hsettles => exact .repay _ _ _ hpaid (hS _ _ hsettles)
  | flashRepay _ _ x htouched => exact .flashRepay _ _ _ _ htouched
  | fees available claims hequity => exact .fees _ _ _ hequity
  | forgive version borrowed f hcovered hborrowed hforgives hversion =>
    exact .forgive _ _ _ _ hcovered hborrowed (hF _ _ hforgives) hversion
  | clocks _ _ htouched => exact .clocks _ _ _ htouched

/-- An effect at one of the given times. -/
def Change (T : ℕ → Prop) (S F : Books → ℕ → Prop) (b b' : Books) : Prop :=
  ∃ t, T t ∧ Effect t S F b b'

/-- What the books of every reserve of a run satisfy. -/
structure Sound (b : Books) : Prop where
  seeded : b.Seeded
  solvent : b.Solvent
  takeRatePct : b.takeRatePct ≤ 100

theorem Change.sound : Transition.Preserves (Change T S F) Sound := by
  rintro b b' hb ⟨t, -, heffect⟩
  exact ⟨heffect.seeded hb.seeded, heffect.solvent hb.takeRatePct hb.seeded hb.solvent,
    heffect.takeRatePct.trans_le hb.takeRatePct⟩

end Books

namespace World

variable {Admitted : World → Clock → Instruction → Prop} {T : ℕ → Prop}
  {S F : Books → ℕ → Prop} {w w' : World} {k : Pubkey} {r r' : Reserve}

theorem Run.books (h : Run Admitted w w')
    (hT : ∀ w clock ix, Admitted w clock ix → T clock.unixTimestamp.toNat)
    (hS : ∀ w clock ix b s, Admitted w clock ix → w.Settles ix k b s → S b s)
    (hF : ∀ w clock ix b f, Admitted w clock ix → w.Forgives ix k b f → F b f)
    (hr : w.reserves k = some r) : ∃ r', w'.reserves k = some r' ∧
      r.config.SameSettings r'.config ∧
      ReflTransGen (Books.Change T S F) (r.books (w.collateralMintSupply k))
        (r'.books (w'.collateralMintSupply k)) := by
  induction h with
  | refl => exact ⟨r, hr, .refl _, .refl⟩
  | tail _ hstep ih =>
    obtain ⟨r₁, hr₁, hsettings, hpath⟩ := ih
    obtain ⟨clock, ix, hadm, hproc⟩ := hstep
    obtain ⟨r₂, hr₂, hev⟩ := (process_evolve hproc).value hr₁
    refine ⟨r₂, hr₂, hsettings.trans hev.settings, hpath.trans (hev.path.lift id ?_)⟩
    intro b b' heffect
    exact ⟨_, hT _ _ _ hadm, heffect.mono (fun b s ↦ hS _ _ _ b s hadm)
      fun b f ↦ hF _ _ _ b f hadm⟩

theorem Run.reserve_rev (h : Run Admitted w w') (hr : w'.reserves k = some r') :
    ∃ r, w.reserves k = some r := by
  induction h generalizing r' with
  | refl => exact ⟨r', hr⟩
  | tail _ hstep ih =>
    obtain ⟨clock, ix, -, hproc⟩ := hstep
    obtain ⟨r₁, hr₁, -⟩ := (process_evolve hproc).value_rev hr
    exact ih hr₁

end World

theorem validateReserveConfig_takeRate {config : ReserveConfig} {market : LendingMarket}
    {key : Pubkey} (h : validateReserveConfig config market key = .ok ()) :
    config.protocolTakeRatePct ≤ 100 := by
  simp only [validateReserveConfig, bind_eq_ok, require_eq_ok] at h
  obtain ⟨-, -, -, -, -, -, -, -, -, -, -, -, -, htake, -⟩ := h
  exact htake

variable {r : Reserve} {market : LendingMarket} {key : Pubkey}

theorem Reserve.IsNew.sound (h : r.IsNew market key) : (r.books 0).Sound := by
  obtain ⟨⟨slot, lm, mint, decimals, deposit, hdeposit, hr⟩, hconfig⟩ := h
  have hdep : 1000 ≤ (deposit : ℕ) := hdeposit
  refine ⟨?_, ?_, ?_⟩
  · rw [hr]
    show 0 < (deposit : ℕ)
    omega
  · rw [hr]
    intro _
    show 0 < (deposit : ℕ) * unit + 0
    have := Nat.mul_pos (by omega : 0 < (deposit : ℕ)) unit_pos
    omega
  · show (r.config.protocolTakeRatePct : ℕ) ≤ 100
    rcases hconfig with h | h
    · rw [h]; decide
    · exact validateReserveConfig_takeRate h

theorem Reserve.IsNew.clocksIdle (h : r.IsNew market key) : (r.books 0).ClocksIdle := by
  obtain ⟨⟨slot, lm, mint, decimals, deposit, hdeposit, hr⟩, -⟩ := h
  rw [hr]
  exact ⟨fun _ ↦ rfl, fun _ ↦ rfl⟩

theorem Reserve.IsNew.version (h : r.IsNew market key) : (r.books 0).version = 1 := by
  obtain ⟨⟨slot, lm, mint, decimals, deposit, hdeposit, hr⟩, -⟩ := h
  rw [hr]
  rfl

theorem World.Genesis.books {w : World} (h : w.Genesis) (hr : w.reserves key = some r) :
    (r.books (w.collateralMintSupply key)).Sound ∧
      (r.books (w.collateralMintSupply key)).ClocksIdle ∧
      (r.books (w.collateralMintSupply key)).version = 1 := by
  rw [h.circulation key]
  have hnew := h.reserve key r hr
  exact ⟨hnew.sound, hnew.clocksIdle, hnew.version⟩

end Klend
