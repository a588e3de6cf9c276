import Klend.Accounting.Interest

/-! # How a reserve evolves

What every operation respects on a reserve: its books move by effects, its
settings stay, and its cumulative rate changes only together with its slot.
-/

namespace Klend

open Relation (ReflTransGen)

namespace ReserveConfig

variable {c d e : ReserveConfig}

theorem SameSettings.refl (c : ReserveConfig) : c.SameSettings c := rfl

theorem SameSettings.trans (h : c.SameSettings d) (h' : d.SameSettings e) : c.SameSettings e :=
  calc e = { d with
        depositWithdrawalCap := e.depositWithdrawalCap
        debtWithdrawalCap := e.debtWithdrawalCap } := h'
    _ = { c with
        depositWithdrawalCap := e.depositWithdrawalCap
        debtWithdrawalCap := e.debtWithdrawalCap } := by rw [h]

end ReserveConfig

/-- The run of a reserve during part of an instruction at time `t`, with the collateral tokens in
circulation before and after. -/
structure Reserve.Evolves (t : ℕ) (S F : Books → ℕ → Prop) (r : Reserve) (c : U64) (r' : Reserve)
    (c' : U64) : Prop where
  path : ReflTransGen (Books.Effect t S F) (r.books c) (r'.books c')
  settings : r.config.SameSettings r'.config
  slot_le : r.lastUpdate.slot ≤ r'.lastUpdate.slot
  rate_eq : r'.lastUpdate.slot = r.lastUpdate.slot →
    r'.liquidity.cumulativeBorrowRateBsf = r.liquidity.cumulativeBorrowRateBsf

namespace Reserve

variable {t : ℕ} {S F : Books → ℕ → Prop} {r r' r'' : Reserve} {c c' c'' : U64}

theorem Evolves.refl (r : Reserve) (c : U64) : Evolves t S F r c r c :=
  ⟨.refl, .refl _, le_rfl, fun _ ↦ rfl⟩

theorem Evolves.trans (h : Evolves t S F r c r' c') (h' : Evolves t S F r' c' r'' c'') :
    Evolves t S F r c r'' c'' where
  path := h.path.trans h'.path
  settings := h.settings.trans h'.settings
  slot_le := h.slot_le.trans h'.slot_le
  rate_eq hslot := by
    have h1 : r'.lastUpdate.slot = r.lastUpdate.slot :=
      le_antisymm (hslot ▸ h'.slot_le) h.slot_le
    rw [h'.rate_eq (hslot.trans h1.symm), h.rate_eq h1]

theorem Evolves.of_books_eq (hbooks : r'.books c' = r.books c)
    (hsettings : r.config.SameSettings r'.config)
    (hslot : r'.lastUpdate.slot = r.lastUpdate.slot)
    (hrate : r'.liquidity.cumulativeBorrowRateBsf = r.liquidity.cumulativeBorrowRateBsf) :
    Evolves t S F r c r' c' :=
  ⟨hbooks ▸ .refl, hsettings, hslot.ge, fun _ ↦ hrate⟩

theorem Evolves.of_effect (heffect : Books.Effect t S F (r.books c) (r'.books c'))
    (hsettings : r.config.SameSettings r'.config)
    (hslot : r'.lastUpdate.slot = r.lastUpdate.slot)
    (hrate : r'.liquidity.cumulativeBorrowRateBsf = r.liquidity.cumulativeBorrowRateBsf) :
    Evolves t S F r c r' c' :=
  ⟨.single heffect, hsettings, hslot.ge, fun _ ↦ hrate⟩

@[simp] theorem markStale_books (r : Reserve) (c : U64) : r.markStale.books c = r.books c := rfl

theorem Evolves.markStale (h : Evolves t S F r c r' c') : Evolves t S F r c r'.markStale c' :=
  h.trans (.of_books_eq rfl (.refl _) rfl rfl)

/-- An evolution that leaves the debt trackers alone. -/
structure Moves (t : ℕ) (S F : Books → ℕ → Prop) (r : Reserve) (c : U64) (r' : Reserve)
    (c' : U64) : Prop extends Evolves t S F r c r' c' where
  outside_eq : r'.borrowedAmountOutsideElevationGroup = r.borrowedAmountOutsideElevationGroup
  groups_eq : r'.borrowedAmountsAgainstThisReserveInElevationGroups =
    r.borrowedAmountsAgainstThisReserveInElevationGroups

theorem Moves.refl (r : Reserve) (c : U64) : Moves t S F r c r c := ⟨.refl r c, rfl, rfl⟩

theorem Moves.trans (h : Moves t S F r c r' c') (h' : Moves t S F r' c' r'' c'') :
    Moves t S F r c r'' c'' :=
  ⟨h.toEvolves.trans h'.toEvolves, h'.outside_eq.trans h.outside_eq,
    h'.groups_eq.trans h.groups_eq⟩

theorem Moves.markStale (h : Moves t S F r c r' c') : Moves t S F r c r'.markStale c' :=
  ⟨h.toEvolves.markStale, h.outside_eq, h.groups_eq⟩

section Interest

variable {clock : Clock} {price : Option GetPriceResult} {bps : U16}

theorem compound_effect {l : ReserveLiquidity} {currentRate referralRate : Fraction} {n : U64}
    (h : r.liquidity.compoundInterest currentRate
      (Fraction.fromBps r.config.hostFixedInterestRateBps.widen) n
      (Fraction.fromPercent r.config.protocolTakeRatePct.widen) referralRate = .ok l) :
    Books.Effect t S F (r.books c) (Reserve.books { r with liquidity := l } c) := by
  obtain ⟨sum, rate, fixed, fee, v, -, hrate, -, hc⟩ := ReserveLiquidity.compoundInterest_spec h
  have hbooks : Reserve.books { r with liquidity := l } c = { r.books c with
      borrowed := (r.books c).borrowed * rate.bits / unit
      cumulativeRate := (r.books c).cumulativeRate * rate.bits / unit
      claims := (Reserve.books { r with liquidity := l } c).claims } := by
    rw [hc.frame]
    ext <;> simp only [books, hc.debt, hc.cumulativeRate]
  rw [hbooks]
  refine .accrue _ _ _ (le_approximateCompoundedInterest hrate) fun htake ↦ ?_
  have htake' : (Fraction.fromPercent r.config.protocolTakeRatePct.widen).bits ≤ unit := by
    rw [Fraction.bits_fromPercent, unit_eq]
    have : (r.config.protocolTakeRatePct.widen : U64) = (r.config.protocolTakeRatePct : ℕ) := rfl
    simp only [books] at htake
    omega
  have hcut : v * (Fraction.fromPercent r.config.protocolTakeRatePct.widen).bits / unit ≤ v := by
    rw [Nat.div_le_iff_le_mul_add_pred unit_pos, mul_comm unit v]
    exact (Nat.mul_le_mul_left v htake').trans (Nat.le_add_right _ _)
  have hgrowth := hc.growth
  have hpending := hc.pendingFees
  have hprotocol := hc.protocolFees
  have href : l.accumulatedReferrerFeesSf = r.liquidity.accumulatedReferrerFeesSf := by
    rw [hc.frame]
  simp only [books, ← hc.debt, href]
  omega

theorem accrueInterest_evolves {slot : U64} (h : r.accrueInterest slot bps = .ok r')
    (upd : LastUpdate) (hupd : upd.slot = slot) :
    Evolves t S F r c { r' with lastUpdate := upd } c := by
  obtain ⟨hle, ⟨hslot, rfl⟩ | ⟨n, rate, l, hpos, hn, -, hl, rfl⟩⟩ := accrueInterest_cases h
  · exact .of_books_eq rfl (.refl _) (hupd.trans hslot.symm) rfl
  · refine ⟨.single (compound_effect hl), .refl _, hupd.symm ▸ hle, fun heq ↦ ?_⟩
    have : (slot : ℕ) = r.lastUpdate.slot := by rw [← hupd]; exact congrArg Fin.val heq
    rw [Fin.lt_def] at hpos
    have : ((0 : U64) : ℕ) = 0 := rfl
    omega

/-- A refreshed reserve is fresh, and everything but its accounts, its price and its freshness is
as before. -/
theorem refreshReserve_spec (h : Klend.refreshReserve r clock price bps = .ok r') :
    ∃ (r₁ : Reserve) (marketPriceSf : Fraction) (marketPriceLastUpdatedTs : U64)
      (status : Option PriceStatusFlags),
      r.accrueInterest clock.slot bps = .ok r₁ ∧
      r' = { r₁ with
        liquidity := { r₁.liquidity with marketPriceSf, marketPriceLastUpdatedTs }
        lastUpdate := r₁.lastUpdate.updateSlot clock.slot status } := by
  simp only [Klend.refreshReserve, bind_eq_ok] at h
  obtain ⟨r₁, hr₁, h⟩ := h
  cases price with
  | some p =>
    rw [pure_eq_ok] at h
    exact ⟨r₁, p.price, p.timestamp, _, hr₁, h.symm⟩
  | none =>
    simp only [bind_eq_ok, pure_eq_ok] at h
    obtain ⟨valid, -, rfl⟩ := h
    exact ⟨r₁, _, _, _, hr₁, rfl⟩

theorem refreshReserve_moves (h : Klend.refreshReserve r clock price bps = .ok r') :
    Moves t S F r c r' c := by
  obtain ⟨r₁, p, ts, status, hr₁, rfl⟩ := refreshReserve_spec h
  refine ⟨(accrueInterest_evolves hr₁ (r₁.lastUpdate.updateSlot clock.slot status) rfl).trans
    (.of_books_eq rfl (.refl _) rfl rfl), ?_, ?_⟩ <;>
  · obtain ⟨-, ⟨-, rfl⟩ | ⟨n, rate, l, -, -, -, -, rfl⟩⟩ := accrueInterest_cases hr₁ <;> rfl

theorem refreshReserve_settings (h : Klend.refreshReserve r clock price bps = .ok r') :
    r.config.SameSettings r'.config :=
  (refreshReserve_moves (t := 0) (S := fun _ _ ↦ True) (F := fun _ _ ↦ True) (c := 0) h).settings

end Interest

end Reserve

end Klend
