import Klend.Accounting.Books
import Mathlib.Tactic.Linarith

/-! # Invariants of the books

What every effect preserves: some shares never circulate, the claims stay
covered, the share price does not fall unless a loss is socialised, and a limit
clock runs only while its limit is crossed.
-/

namespace Klend.Books

variable {b b' : Books} {t : ℕ} {S F : Books → ℕ → Prop}

/-- The initial deposit's shares are held by nobody. -/
def Seeded (b : Books) : Prop := b.circulating < b.shares

/-- While the reserve is not retired, its claims leave something to the shares. -/
def Solvent (b : Books) : Prop := b.version = 1 → b.claims < b.assets

theorem le_mul_rate_div {d rate : ℕ} (h : unit ≤ rate) : d ≤ d * rate / unit := by
  rw [Nat.le_div_iff_mul_le unit_pos]
  exact Nat.mul_le_mul_left d h

theorem Effect.seeded (h : Effect t S F b b') (hb : b.Seeded) : b'.Seeded := by
  cases h <;> simp only [Seeded] at * <;> omega

theorem Effect.takeRatePct (h : Effect t S F b b') : b'.takeRatePct = b.takeRatePct := by
  cases h <;> rfl

theorem Effect.solvent (h : Effect t S F b b') (htake : b.takeRatePct ≤ 100) (hseed : b.Seeded)
    (hb : b.Solvent) : b'.Solvent := by
  cases h with
  | accrue rate claims hrate hclaims =>
    intro hv
    have hcov : b.claims < b.assets := hb hv
    have hle := hclaims htake
    simp only [assets] at hcov ⊢
    omega
  | deposit x c hcovered hprice =>
    intro hv
    have hcov : b.claims < b.assets := hb hv
    simp only [assets, Nat.add_mul] at hcov ⊢
    omega
  | redeem available shares circulating _ _ x c hcovered havail hshares hcirc hprice _ =>
    intro hv
    have hcov : b.claims < b.assets := hb hv
    have hpos : 0 < b.equity := Nat.sub_pos_of_lt hcov
    have hleft : c < b.shares := by simp only [Seeded] at hseed; omega
    have hlt := Vault.equity_pos_of_redeem hpos hleft (hprice hpos (by omega))
    simp only [equity, assets, ← havail, Nat.add_mul] at hlt hcov ⊢
    omega
  | borrow available f havail =>
    intro hv
    have hcov : b.claims < b.assets := hb hv
    have hf : f / unit * unit ≤ f := Nat.div_mul_le_self _ _
    simp only [assets, ← havail, Nat.add_mul] at hcov ⊢
    omega
  | repay x s hpaid hsettles =>
    intro hv
    have hcov : b.claims < b.assets := hb hv
    simp only [assets, Nat.add_mul] at hcov ⊢
    omega
  | flashRepay _ _ x _ =>
    intro hv
    have hcov : b.claims < b.assets := hb hv
    simp only [assets, Nat.add_mul] at hcov ⊢
    omega
  | fees available claims hequity =>
    intro hv
    have hcov : b.claims < b.assets := hb hv
    simp only [assets] at hcov ⊢
    omega
  | forgive version borrowed f hcovered hborrowed hforgives hversion =>
    intro hv
    have hlt : f < b.equity := by
      by_contra hle
      rw [hversion, if_pos (not_lt.1 hle)] at hv
      norm_num at hv
    simp only [equity, assets] at hlt ⊢
    omega
  | clocks => exact hb

/-- No effect but a forgiven loss lowers the share price of a solvent reserve. -/
theorem Effect.price_le (h : Effect t S (fun _ _ ↦ False) b b') (htake : b.takeRatePct ≤ 100)
    (hseed : b.Seeded) (hb : b.claims < b.assets) : b.vault.PriceLE b'.vault := by
  have hshares : 0 < b.shares := (Nat.zero_le _).trans_lt hseed
  have hpos : 0 < b.equity := Nat.sub_pos_of_lt hb
  cases h with
  | accrue rate claims hrate hclaims =>
    have hle := hclaims htake
    refine Vault.PriceLE.gain ?_
    simp only [equity, assets]
    omega
  | deposit x c hcovered hprice =>
    have heq : equity { b with
        available := b.available + x
        shares := b.shares + c
        circulating := b.circulating + c } = b.equity + x * unit := by
      simp only [equity, assets, Nat.add_mul] at hcovered ⊢
      omega
    simp only [vault, heq]
    exact Vault.PriceLE.issue (hprice hshares)
  | redeem available shares circulating depositClock borrowClock x c hcovered havail hsh hcirc
      hprice _ =>
    have heq : b.equity = equity { b with
        available, shares, circulating, depositClock, borrowClock } + x * unit := by
      have hleft : c < b.shares := by simp only [Seeded] at hseed; omega
      have hlt := Vault.equity_pos_of_redeem hpos hleft (hprice hpos hshares)
      simp only [equity, assets, ← havail, Nat.add_mul] at hlt ⊢
      omega
    have hleft := hprice hpos hshares
    simp only [vault, heq, ← hsh] at hleft ⊢
    refine Vault.PriceLE.redeem ?_
    rw [Nat.mul_add, Nat.mul_add] at hleft
    rw [Nat.mul_comm (x * unit) c] at hleft
    omega
  | borrow available f havail =>
    have hf : f / unit * unit ≤ f := Nat.div_mul_le_self _ _
    refine Vault.PriceLE.gain ?_
    simp only [equity, assets, ← havail, Nat.add_mul]
    omega
  | repay x s hpaid hsettles =>
    refine Vault.PriceLE.gain ?_
    simp only [equity, assets, Nat.add_mul]
    omega
  | flashRepay _ _ x _ =>
    refine Vault.PriceLE.gain ?_
    simp only [equity, assets, Nat.add_mul]
    omega
  | fees available claims hequity =>
    refine Vault.PriceLE.gain ?_
    simp only [equity, assets]
    omega
  | forgive _ _ _ _ _ hforgives => exact hforgives.elim
  | clocks => exact Vault.PriceLE.refl _

/-- A limit clock runs only while its limit is crossed. -/
structure ClocksIdle (b : Books) : Prop where
  deposit : ¬ b.supplyCrossed → b.depositClock = 0
  borrow : ¬ b.debtCrossed → b.borrowClock = 0

/-- Taking `s` off the debt does not end a crossing whose clock runs. -/
def KeepsDebtCrossed (b : Books) (s : ℕ) : Prop :=
  b.borrowClock = 0 ∨ b.borrowLimit * unit < b.borrowed - s

/-- Taking `f` off the equity does not end a crossing whose clock runs. -/
def KeepsSupplyCrossed (b : Books) (f : ℕ) : Prop :=
  b.depositClock = 0 ∨ b.depositLimit * unit < b.equity - f

theorem clockAfter_of_not {crossed : Prop} [Decidable crossed] (h : ¬ crossed) (c t : ℕ) :
    clockAfter crossed c t = 0 := by
  rw [clockAfter, if_neg h]

theorem clockAfter_cases (crossed : Prop) [Decidable crossed] (c t : ℕ) :
    clockAfter crossed c t = 0 ∨ clockAfter crossed c t = c ∨ clockAfter crossed c t = t := by
  unfold clockAfter
  split
  · split <;> simp
  · simp

theorem Touched.clocksIdle (h : Touched t b b') : b'.ClocksIdle where
  deposit hc := by rw [h.depositClock, clockAfter_of_not hc]
  borrow hc := by rw [h.borrowClock, clockAfter_of_not hc]

/-- Supply and debt that do not fall leave the clocks idle. -/
theorem ClocksIdle.of_le (hb : b.ClocksIdle) (hequity : b.equity ≤ b'.equity)
    (hdebt : b.borrowed ≤ b'.borrowed) (hdl : b'.depositLimit = b.depositLimit)
    (hbl : b'.borrowLimit = b.borrowLimit) (hdc : b'.depositClock = b.depositClock)
    (hbc : b'.borrowClock = b.borrowClock) : b'.ClocksIdle where
  deposit hc := by
    rw [hdc]
    refine hb.deposit fun h ↦ hc ?_
    rw [supplyCrossed, hdl]
    exact h.trans_le hequity
  borrow hc := by
    rw [hbc]
    refine hb.borrow fun h ↦ hc ?_
    rw [debtCrossed, hbl]
    exact h.trans_le hdebt

theorem Effect.clocksIdle (h : Effect t S F b b') (htake : b.takeRatePct ≤ 100)
    (hS : ∀ b s, S b s → b.KeepsDebtCrossed s)
    (hF : ∀ b f, F b f → b.KeepsDebtCrossed f ∧ b.KeepsSupplyCrossed f)
    (hb : b.ClocksIdle) : b'.ClocksIdle := by
  cases h with
  | accrue rate claims hrate hclaims =>
    have hle := hclaims htake
    refine hb.of_le ?_ (le_mul_rate_div hrate) rfl rfl rfl rfl
    simp only [equity, assets]
    omega
  | deposit x c _ _ =>
    refine hb.of_le ?_ le_rfl rfl rfl rfl rfl
    simp only [equity, assets, Nat.add_mul]
    omega
  | redeem _ _ _ _ _ _ _ _ _ _ _ _ htouched => exact htouched.clocksIdle
  | borrow available f havail =>
    have hf : f / unit * unit ≤ f := Nat.div_mul_le_self _ _
    refine hb.of_le ?_ (Nat.le_add_right _ _) rfl rfl rfl rfl
    simp only [equity, assets, ← havail, Nat.add_mul]
    omega
  | repay x s hpaid hsettles =>
    constructor
    · intro hc
      refine hb.deposit fun h ↦ hc ?_
      simp only [supplyCrossed, equity, assets, Nat.add_mul] at h ⊢
      omega
    · intro hc
      rcases hS b s hsettles with h0 | hlt
      · exact h0
      · exact absurd hlt hc
  | flashRepay _ _ _ htouched => exact htouched.clocksIdle
  | fees available claims hequity =>
    refine hb.of_le ?_ le_rfl rfl rfl rfl rfl
    simp only [equity, assets]
    omega
  | forgive version borrowed f hcovered hborrowed hforgives hversion =>
    obtain ⟨hdebt, hsupply⟩ := hF b f hforgives
    constructor
    · intro hc
      rcases hsupply with h0 | hlt
      · exact h0
      · refine absurd ?_ hc
        simp only [supplyCrossed, equity, assets] at hlt ⊢
        omega
    · intro hc
      rcases hdebt with h0 | hlt
      · exact h0
      · refine absurd ?_ hc
        simp only [debtCrossed] at hlt ⊢
        omega
  | clocks _ _ htouched => exact htouched.clocksIdle

theorem Effect.clock_cases (h : Effect t S F b b') :
    (b'.depositClock = 0 ∨ b'.depositClock = b.depositClock ∨ b'.depositClock = t) ∧
      (b'.borrowClock = 0 ∨ b'.borrowClock = b.borrowClock ∨ b'.borrowClock = t) := by
  have touched {b b' : Books} (h : Touched t b b') :
      (b'.depositClock = 0 ∨ b'.depositClock = b.depositClock ∨ b'.depositClock = t) ∧
        (b'.borrowClock = 0 ∨ b'.borrowClock = b.borrowClock ∨ b'.borrowClock = t) :=
    ⟨h.depositClock ▸ clockAfter_cases _ _ _, h.borrowClock ▸ clockAfter_cases _ _ _⟩
  cases h with
  | redeem _ _ _ _ _ _ _ _ _ _ _ _ htouched => exact touched htouched
  | flashRepay _ _ _ htouched => exact touched htouched
  | clocks _ _ htouched => exact touched htouched
  | _ => exact ⟨.inr (.inl rfl), .inr (.inl rfl)⟩

end Klend.Books
