import Klend.Lending.Runs
import Klend.Positions.Slots

/-! # The slots of reachable obligations

In every state that a market reaches, an obligation holds every reserve at most once
on either side, and its tiers and its debt flag say which slots are in use.
-/

namespace Klend

structure Obligation.SlotsConsistent (o : Obligation) : Prop where
  deposits_distinct : ∀ (i j : ℕ) (d e : ObligationCollateral), o.deposits[i]? = some d →
    o.deposits[j]? = some e → d.depositReserve ≠ 0 → d.depositReserve = e.depositReserve → i = j
  borrows_distinct : ∀ (i j : ℕ) (b c : ObligationLiquidity), o.borrows[i]? = some b →
    o.borrows[j]? = some c → b.borrowReserve ≠ 0 → b.borrowReserve = c.borrowReserve → i = j
  deposit_free_iff : ∀ d ∈ o.deposits, d.depositReserve = 0 ↔ d.depositedAmount = 0
  borrow_free_iff : ∀ b ∈ o.borrows, b.borrowReserve = 0 ↔ b.borrowedAmountSf = Fraction.zero
  depositTier_iff : ∀ (i : ℕ) (d : ObligationCollateral), o.deposits[i]? = some d →
    (o.depositsAssetTiers[i]? = some (Word.max 8) ↔ d.depositReserve = 0)
  borrowTier_iff : ∀ (i : ℕ) (b : ObligationLiquidity), o.borrows[i]? = some b →
    (o.borrowsAssetTiers[i]? = some (Word.max 8) ↔ b.borrowReserve = 0)
  hasDebt_iff : o.hasDebt = 1 ↔ ∃ b ∈ o.borrows, b.borrowReserve ≠ 0

theorem Obligation.WellFormed.slotsConsistent {o : Obligation} (h : o.WellFormed) :
    o.SlotsConsistent where
  deposits_distinct := h.deposits.distinct
  borrows_distinct := h.borrows.distinct
  deposit_free_iff d hd := by
    constructor
    · exact fun hz ↦ (h.deposits.empty d hd hz).1
    · intro hz
      by_contra hne
      have hpos := h.deposits.held d hd hne
      rw [hz] at hpos
      exact lt_irrefl _ hpos
  borrow_free_iff b hb := by
    constructor
    · exact fun hz ↦ (h.borrows.empty b hb hz).1
    · intro hz
      by_contra hne
      have hpos := h.borrows.held b hb hne
      rw [hz] at hpos
      exact lt_irrefl _ hpos
  depositTier_iff i d hd := h.deposits.tagged.tag_iff hd
  borrowTier_iff i b hb := h.borrows.tagged.tag_iff hb
  hasDebt_iff := by
    rw [h.hasDebt]
    cases hempty : o.borrowsEmpty with
    | true =>
      rw [Obligation.borrowsEmpty, List.all_eq_true] at hempty
      simp only [decide_eq_true_eq] at hempty
      constructor
      · intro h01
        exact absurd h01 (by decide)
      · rintro ⟨b, hb, hne⟩
        exact absurd (hempty b hb) hne
    | false =>
      rw [Obligation.borrowsEmpty, List.all_eq_false] at hempty
      obtain ⟨b, hb, hne⟩ := hempty
      exact ⟨fun _ ↦ ⟨b, hb, by simpa using hne⟩, fun _ ↦ rfl⟩

theorem AssetTier.tryFrom_max : AssetTier.tryFrom (Word.max 8) = none := by decide

theorem validateReserveConfig_assetTier {config : ReserveConfig} {market : LendingMarket}
    {key : Pubkey} (h : validateReserveConfig config market key = .ok ()) :
    config.assetTier ≠ Word.max 8 := by
  have htier : ∃ tier, config.getAssetTier = .ok tier := by
    simp only [validateReserveConfig, bind_eq_ok, require_eq_ok] at h
    obtain ⟨-, -, -, -, -, -, -, -, -, -, -, -, -, -, -, -, -, -, -, -, -, -, -, -, h⟩ := h
    split at h
    · simp only [bind_eq_ok] at h
      obtain ⟨-, -, -, -, -, -, tier, htier, -⟩ := h
      exact ⟨tier, htier⟩
    · simp only [bind_eq_ok] at h
      obtain ⟨tier, htier, -⟩ := h
      exact ⟨tier, htier⟩
  obtain ⟨tier, htier⟩ := htier
  rw [ReserveConfig.getAssetTier, unwrap_eq_ok] at htier
  rintro hmax
  rw [hmax, AssetTier.tryFrom_max] at htier
  cases htier

namespace World

variable {w₀ w : World} {o : Obligation}

theorem Genesis.wellFormed (h : w.Genesis) : w.WellFormed where
  tiers k r hr := by
    rcases (h.reserve k r hr).config with hconfig | hconfig
    · rw [hconfig]
      decide
    · exact validateReserveConfig_assetTier hconfig
  obligations := by simp [h.obligations]

theorem Run.wellFormed {Admitted : World → Clock → Instruction → Prop} (h : Run Admitted w₀ w)
    (hw : w₀.WellFormed) : w.WellFormed :=
  Transition.Preserves.run (P := WellFormed)
    (fun _ _ hw ⟨_, _, _, hproc⟩ ↦ process_wellFormed hproc hw) hw h

/-- The slots of an obligation are consistent in every reachable state. -/
theorem slots_consistent (h : w₀.Genesis) (hrun : Run Anything w₀ w) (ho : o ∈ w.obligations) :
    o.SlotsConsistent :=
  ((hrun.wellFormed h.wellFormed).obligations o ho).slotsConsistent

theorem slots_consistent_plainLoan :
    ∃ o, (plainMarket.after plainLoan).obligations = [o] ∧ o.SlotsConsistent := by
  have hlen : (plainMarket.after plainLoan).obligations.length = 1 := by decide
  obtain ⟨o, ho⟩ := List.length_eq_one_iff.1 hlen
  exact ⟨o, ho, slots_consistent plainMarket_genesis (run_after _ plainLoan fun _ _ _ ↦ trivial)
    (ho ▸ List.mem_singleton_self o)⟩

end World

end Klend
