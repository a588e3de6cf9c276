import Klend.Accounting.BooksRuns

/-! # Solvency and share price

Over every run of a market, fees never eat into the last of what belongs to the
depositors, and without socialised losses a share never loses value.
-/

namespace Klend

namespace Books

variable {b b' : Books} {T : ℕ → Prop} {S : Books → ℕ → Prop}

theorem Change.sound_inUse :
    Transition.Preserves (Change T S fun _ _ ↦ False) fun b ↦ b.Sound ∧ b.version = 1 :=
  Change.sound.inter fun b b' _ hv ⟨_, _, heffect⟩ ↦ by
    cases heffect with
    | forgive _ _ _ _ _ hforgives => exact hforgives.elim
    | _ => exact hv

theorem Change.priceLE (hb : b.Sound ∧ b.version = 1)
    (h : Relation.ReflTransGen (Change T S fun _ _ ↦ False) b b') :
    b.vault.PriceLE b'.vault := by
  refine Change.sound_inUse.relates (R := fun b b' ↦ b.vault.PriceLE b'.vault)
    (fun _ _ ↦ .refl _) ?_ ?_ hb h
  · intro _ c _ hc h₁ h₂
    exact h₁.trans ((Nat.zero_le _).trans_lt hc.1.seeded) h₂
  · rintro b b' ⟨hb, hv⟩ ⟨t, -, heffect⟩
    exact heffect.price_le hb.takeRatePct hb.seeded (hb.solvent hv)

end Books

namespace World

variable {w₀ w w' : World} {k : Pubkey} {r r' : Reserve}

theorem Genesis.run_sound {Admitted : World → Clock → Instruction → Prop} (hg : w₀.Genesis)
    (hrun : Run Admitted w₀ w) (hr : w.reserves k = some r) :
    (r.books (w.collateralMintSupply k)).Sound := by
  obtain ⟨r₀, hr₀⟩ := hrun.reserve_rev hr
  obtain ⟨r₁, hr₁, -, hpath⟩ := hrun.books (T := fun _ ↦ True) (S := fun _ _ ↦ True)
    (F := fun _ _ ↦ True) (fun _ _ _ _ ↦ trivial) (fun _ _ _ _ _ _ _ ↦ trivial)
    (fun _ _ _ _ _ _ _ ↦ trivial) hr₀
  obtain rfl : r₁ = r := Option.some.inj (hr₁.symm.trans hr)
  exact Books.Change.sound.run (hg.books hr₀).1 hpath

/-- In every state a market reaches, the claims on a reserve in use are covered, its total supply
is computed whenever its assets fit, and it is positive while there are shares. -/
theorem totalSupply_covered (hg : w₀.Genesis) (hrun : Run Anything w₀ w)
    (hr : w.reserves k = some r) (hv : r.version = programVersion) :
    r.liquidity.accumulatedProtocolFeesSf.bits + r.liquidity.accumulatedReferrerFeesSf.bits +
        r.liquidity.pendingReferrerFeesSf.bits ≤
      r.liquidity.availableAmount * 2 ^ 60 + r.liquidity.borrowedAmountSf.bits ∧
    ∀ assets, (Fraction.fromNum r.liquidity.availableAmount).add r.liquidity.borrowedAmountSf =
        .ok assets →
      ∃ x, r.liquidity.totalSupply = .ok x ∧
        (0 < r.collateral.mintTotalSupply → Fraction.zero < x) := by
  have hsound := hg.run_sound hrun hr
  have hcov := hsound.solvent (congrArg Fin.val hv)
  have hcov' := hcov.le
  refine ⟨by simpa only [Books.assets, Reserve.books, unit_eq] using hcov', ?_⟩
  intro assets hassets
  rw [Fraction.add_eq_ok, Fraction.bits_fromNum, ← unit_eq] at hassets
  have hfits : (r.books (w.collateralMintSupply k)).assets < 2 ^ 128 :=
    lt_of_eq_of_lt hassets.symm assets.isLt
  obtain ⟨x, hx, heq⟩ := Reserve.totalSupply_of_covered hcov' hfits
  refine ⟨x, hx, fun _ ↦ ?_⟩
  rw [Fraction.lt_iff, heq, Fraction.bits_zero]
  exact Nat.sub_pos_of_lt hcov

theorem totalSupply_covered_plainLoan : ∃ x,
    ((plainMarket.after plainLoan).reserveAt 5).liquidity.totalSupply = .ok x ∧
      Fraction.zero < x := by
  obtain ⟨-, hcomputed⟩ := totalSupply_covered plainMarket_genesis
    (run_after _ plainLoan fun _ _ _ ↦ trivial) (reserves_eq (k := 5) (by decide))
    (by decide)
  obtain ⟨x, hx, hpos⟩ := hcomputed ⟨1000000 * 2 ^ 60, by norm_num⟩ (by decide)
  exact ⟨x, hx, hpos (by decide)⟩

/-- No loss is socialised. -/
def WithoutLosses (_ : World) (_ : Clock) (ix : Instruction) : Prop :=
  ∀ index key amount remaining, ix ≠ .socializeLoss index key amount remaining

/-- Between any two states of a run without socialised losses, the total supply per share does not
fall. -/
theorem totalSupply_per_share_le (hg : w₀.Genesis) (h₀ : Run WithoutLosses w₀ w)
    (h : Run WithoutLosses w w') (hr : w.reserves k = some r) (hr' : w'.reserves k = some r')
    {x x' : Fraction} (hx : r.liquidity.totalSupply = .ok x)
    (hx' : r'.liquidity.totalSupply = .ok x') :
    x.bits * r'.collateral.mintTotalSupply ≤ x'.bits * r.collateral.mintTotalSupply := by
  have hforgives : ∀ w clock ix b f, WithoutLosses w clock ix → w.Forgives ix k b f → False := by
    intro w clock ix b f hadm hf
    cases ix with
    | socializeLoss index key amount remaining => exact hadm index key amount remaining rfl
    | _ => exact hf
  obtain ⟨r₀, hr₀⟩ := h₀.reserve_rev hr
  obtain ⟨r₁, hr₁, -, hpath⟩ := h₀.books (T := fun _ ↦ True) (S := fun _ _ ↦ True)
    (fun _ _ _ _ ↦ trivial) (fun _ _ _ _ _ _ _ ↦ trivial) hforgives hr₀
  obtain rfl : r₁ = r := Option.some.inj (hr₁.symm.trans hr)
  obtain ⟨r₂, hr₂, -, hpath'⟩ := h.books (T := fun _ ↦ True) (S := fun _ _ ↦ True)
    (fun _ _ _ _ ↦ trivial) (fun _ _ _ _ _ _ _ ↦ trivial) hforgives hr
  obtain rfl : r₂ = r' := Option.some.inj (hr₂.symm.trans hr')
  obtain ⟨hsound, -, hversion⟩ := hg.books hr₀
  have hprice := Books.Change.priceLE
    (Books.Change.sound_inUse.run ⟨hsound, hversion⟩ hpath) hpath'
  rw [← (Reserve.books_of_totalSupply hx).2, ← (Reserve.books_of_totalSupply hx').2]
  exact hprice

theorem totalSupply_per_share_le_plainLoan :
    let r := (plainMarket.after plainLoan).reserveAt 5
    let r' := ((plainMarket.after plainLoan).after plainAccrual).reserveAt 5
    ∃ x x', r.liquidity.totalSupply = .ok x ∧ r'.liquidity.totalSupply = .ok x' ∧
      x.bits * r'.collateral.mintTotalSupply ≤ x'.bits * r.collateral.mintTotalSupply := by
  have hx : ((plainMarket.after plainLoan).reserveAt 5).liquidity.totalSupply =
      .ok ⟨1000000 * 2 ^ 60, by norm_num⟩ := by decide
  have hx' : (((plainMarket.after plainLoan).after plainAccrual).reserveAt 5).liquidity.totalSupply =
      .ok ⟨1153378489956374449000000, by norm_num⟩ := by decide
  exact ⟨_, _, hx, hx', totalSupply_per_share_le plainMarket_genesis
    (run_after _ plainLoan (by simp [plainLoan, WithoutLosses]))
    (run_after _ plainAccrual (by simp [plainAccrual, WithoutLosses]))
    (reserves_eq (by decide)) (reserves_eq (by decide)) hx hx'⟩

end World

end Klend
