import Klend.Lending.ObligationSpecs
import Klend.Library.SlotTable

/-! # What a refresh does to the slots

Every held slot is brought up to date with its reserve, and the values of the slots
add up to the totals that the refresh returns. Reserves are only rebooked.
-/

namespace Klend

variable {o o' : Obligation} {r r' : Reserve} {rs rs' : Reserves} {market : LendingMarket}
  {slot n : U64} {key : Pubkey} {group : Option ElevationGroup} {iter : List Pubkey}
  {states states' : ReferrerTokenStates} {stateKeys : List ReferrerTokenStateKey}

/-- A debt slot before and after its refresh with the reserves at hand. -/
structure ObligationLiquidity.Refreshed (rs : Reserves) (slot : U64) (b b' : ObligationLiquidity) :
    Prop where
  key_eq : b'.borrowReserve = b.borrowReserve
  free : b.borrowReserve = 0 → b' = b
  grown : b.borrowedAmountSf.bits ≤ b'.borrowedAmountSf.bits
  held : b.borrowReserve ≠ 0 → ∃ r, rs b.borrowReserve = some r ∧
    r.lastUpdate.stale = false ∧ r.lastUpdate.slot = slot ∧
    b'.cumulativeBorrowRateBsf = r.liquidity.cumulativeBorrowRateBsf

/-- A collateral slot before and after its refresh. -/
structure ObligationCollateral.Refreshed (d d' : ObligationCollateral) : Prop where
  key_eq : d'.depositReserve = d.depositReserve
  free : d.depositReserve = 0 → d' = d
  amount_eq : d'.depositedAmount = d.depositedAmount

section Steps

theorem trackRefreshedBorrow_spec {b b' : ObligationLiquidity}
    (h : trackRefreshedBorrow group key r b n = .ok (r', b')) :
    (∃ g, group = some g ∧ g.id ∈ r.config.elevationGroups ∧ key = g.debtReserve ∧ r' = r ∧
      b' = b) ∨
    ∃ m : U64, group = none ∧
      (m : ℕ) = r.borrowedAmountOutsideElevationGroup - b.borrowedAmountOutsideElevationGroups +
        (n : ℕ) ∧
      r' = r.setDebtOutside m ∧ b' = b.setDebtOutside n := by
  cases group with
  | none =>
    simp only [trackRefreshedBorrow, bind_eq_ok, Word.add_eq_ok, Word.saturatingSub_val,
      pure_eq_ok, Prod.mk.injEq] at h
    obtain ⟨m, hm, rfl, rfl⟩ := h
    exact .inr ⟨m, rfl, hm, rfl, rfl⟩
  | some g =>
    simp only [trackRefreshedBorrow, bind_eq_ok, require_eq_ok, pure_eq_ok, Prod.mk.injEq] at h
    obtain ⟨-, hg, -, hkey, rfl, rfl⟩ := h
    exact .inl ⟨g, rfl, hg, hkey, rfl, rfl⟩

theorem trackRefreshedDeposit_spec {d d' : ObligationCollateral}
    {withDebt : Option (ElevationGroup × U64)}
    (h : trackRefreshedDeposit withDebt key r d = .ok (r', d')) :
    (withDebt = none ∧ r' = r ∧ d' = d) ∨
    ∃ (g : ElevationGroup) (debt : U64) (i : Fin 32) (m : U64), withDebt = some (g, debt) ∧
      g.getIndex = .ok i ∧ g.id ∈ r.config.elevationGroups ∧ key ≠ g.debtReserve ∧
      (m : ℕ) = r.debtInGroup i - d.borrowedAmountAgainstThisCollateralInElevationGroup +
        (debt : ℕ) ∧
      r' = r.setDebtInGroup i m ∧ d' = d.setDebtInGroup debt := by
  cases withDebt with
  | none =>
    simp only [trackRefreshedDeposit, pure_eq_ok, Prod.mk.injEq] at h
    exact .inl ⟨rfl, h.1.symm, h.2.symm⟩
  | some p =>
    simp only [trackRefreshedDeposit, bind_eq_ok, require_eq_ok, Word.add_eq_ok,
      Word.saturatingSub_val, pure_eq_ok, Prod.mk.injEq] at h
    obtain ⟨i, hi, -, hg, -, hkey, m, hm, rfl, rfl⟩ := h
    exact .inr ⟨p.1, p.2, i, m, rfl, hi, hg, hkey, hm, rfl, rfl⟩

theorem accumulateReferrerFees_rebooked {ref : Pubkey} {bps : U16} {slots : U64}
    {debt prev : Fraction} {hasRef : Bool} {it' : List ReferrerTokenStateKey}
    (h : accumulateReferrerFees key r ref bps slots debt prev hasRef states stateKeys =
      .ok (r', states', it')) : Reserve.Rebooked r r' := by
  obtain ⟨rfl, -⟩ | ⟨fee, pending, -, ⟨k, st, c, u, p, -, -, -, -, -, -, -, rfl⟩ |
    ⟨p, -, -, -, rfl⟩⟩ := accumulateReferrerFees_spec h
  · exact .refl r'
  · exact ⟨_, _, _, _, _, rfl⟩
  · exact ⟨_, _, _, _, _, rfl⟩

theorem trackRefreshedBorrow_retracked {b b' : ObligationLiquidity}
    (h : trackRefreshedBorrow group key r b n = .ok (r', b')) : Reserve.Retracked r r' := by
  obtain ⟨g, -, -, -, rfl, -⟩ | ⟨m, -, -, rfl, -⟩ := trackRefreshedBorrow_spec h
  · exact .refl r'
  · exact .setDebtOutside _ _

theorem trackRefreshedDeposit_retracked {d d' : ObligationCollateral}
    {withDebt : Option (ElevationGroup × U64)}
    (h : trackRefreshedDeposit withDebt key r d = .ok (r', d')) : Reserve.Retracked r r' := by
  obtain ⟨-, rfl, -⟩ | ⟨g, debt, i, m, -, -, -, -, -, rfl, -⟩ := trackRefreshedDeposit_spec h
  · exact .refl r'
  · exact .setDebtInGroup _ _ _

theorem refreshBorrow_slot {index : ℕ} {s s' : BorrowsPass} {b b' : ObligationLiquidity}
    (h : refreshBorrow o market slot group index s b key = .ok (s', b')) :
    ∃ r r' : Reserve, b.borrowReserve = key ∧ key ≠ 0 ∧ s.reserves key = some r ∧
      Reserve.Rebooked r r' ∧ s'.reserves = s.reserves.store key r' ∧
      (r.lastUpdate.stale = false ∧ r.lastUpdate.slot = slot) ∧
      b'.borrowReserve = key ∧ b.borrowedAmountSf.bits ≤ b'.borrowedAmountSf.bits ∧
      b'.cumulativeBorrowRateBsf = r.liquidity.cumulativeBorrowRateBsf ∧
      s'.borrowedAssetsMarketValue.bits =
        s.borrowedAssetsMarketValue.bits + b'.marketValueSf.bits ∧
      s'.borrowFactorAdjustedDebtValue.bits =
        s.borrowFactorAdjustedDebtValue.bits + b'.borrowFactorAdjustedMarketValueSf.bits ∧
      s'.borrowsAssetTiers = s.borrowsAssetTiers.set index r'.config.assetTier ∧
      s'.hasDebt = 1 := by
  obtain ⟨r, b₁, m, r₁, b₂, slots, r₂, mv, bfmv, hkey, hr, hb, hfresh, -, hb₁, -, -, htrack, -, hfees,
    -, hmv, -, hbfmv, hstore, -, rfl, htiers, hdebt, -⟩ := refreshBorrow_spec h
  have hslot : b₂.borrowReserve = b₁.borrowReserve ∧ b₂.borrowedAmountSf = b₁.borrowedAmountSf ∧
      b₂.cumulativeBorrowRateBsf = b₁.cumulativeBorrowRateBsf := by
    obtain ⟨g, -, -, -, -, rfl⟩ | ⟨x, -, -, -, rfl⟩ := trackRefreshedBorrow_spec htrack <;>
      exact ⟨rfl, rfl, rfl⟩
  obtain ⟨hrate, hgrown, -, hframe⟩ := accrueInterest_spec hb₁
  have hkey₁ : b₁.borrowReserve = b.borrowReserve := by rw [hframe]
  rw [Fraction.add_eq_ok] at hmv hbfmv
  exact ⟨r, r₂, hb, hkey, hr,
    (trackRefreshedBorrow_retracked htrack).rebooked.trans (accumulateReferrerFees_rebooked hfees),
    hstore,
    hfresh, hslot.1.trans (hkey₁.trans hb), by rw [hslot.2.1]; exact hgrown,
    hslot.2.2.trans hrate, hmv, hbfmv, htiers, hdebt⟩

theorem refreshDeposit_slot {index : ℕ} {withDebt : Option (ElevationGroup × U64)}
    {s s' : DepositsPass} {d d' : ObligationCollateral}
    (h : refreshDeposit market slot group withDebt index s d key = .ok (s', d')) :
    ∃ r r' : Reserve, d.depositReserve = key ∧ key ≠ 0 ∧ s.reserves key = some r ∧
      Reserve.Retracked r r' ∧ s'.reserves = s.reserves.store key r' ∧
      d'.depositReserve = key ∧ d'.depositedAmount = d.depositedAmount ∧
      s'.depositedValue.bits = s.depositedValue.bits + d'.marketValueSf.bits ∧
      s'.depositsAssetTiers = s.depositsAssetTiers.set index r'.config.assetTier := by
  obtain ⟨r, r₁, d₁, mv, al, un, hkey, hr, hd, -, -, htrack, -, hmv, -, -, -, -, hstore, rfl,
    htiers, -⟩ := refreshDeposit_spec h
  have hslot : d₁.depositReserve = d.depositReserve ∧ d₁.depositedAmount = d.depositedAmount := by
    obtain ⟨-, -, rfl⟩ | ⟨g, debt, i, m, -, -, -, -, -, -, rfl⟩ :=
      trackRefreshedDeposit_spec htrack <;> exact ⟨rfl, rfl⟩
  rw [Fraction.add_eq_ok] at hmv
  exact ⟨r, r₁, hd, hkey, hr, trackRefreshedDeposit_retracked htrack, hstore,
    hslot.1.trans hd, hslot.2, hmv, htiers⟩

end Steps

/-- No reserve's asset tier is the code of a free slot. -/
def Reserves.TiersKnown (rs : Reserves) : Prop :=
  ∀ k r, rs k = some r → r.config.assetTier ≠ Word.max 8

theorem Reserves.TiersKnown.store {k : Pubkey} (h : rs.TiersKnown) (hr : rs k = some r)
    (hbook : Reserve.Rebooked r r') : (rs.store k r').TiersKnown := by
  obtain ⟨_, _, _, _, _, rfl⟩ := hbook
  intro j r₁ hr₁
  by_cases hj : j = k
  · subst hj
    rw [Reserves.store_same, Option.some.injEq] at hr₁
    subst hr₁
    have := h j r hr
    exact this
  · rw [Reserves.store_other hj] at hr₁
    exact h _ _ hr₁

theorem Reserves.TiersKnown.of_rebooked (h : rs.TiersKnown) (hbook : Reserves.Rebooked rs rs') :
    rs'.TiersKnown := by
  intro k r' hr'
  obtain ⟨r, hr, _, _, _, _, _, rfl⟩ := hbook.value_rev hr'
  exact h k r hr

section Borrows

variable {borrows : RefreshObligationBorrowsResult}
  (h : refreshObligationBorrows o market slot group rs iter states stateKeys =
    .ok (o', rs', states', borrows))
include h

theorem refreshObligationBorrows_frame :
    Reserves.Rebooked rs rs' ∧
    List.Forall₂ (ObligationLiquidity.Refreshed rs slot) o.borrows o'.borrows ∧
    o' = { o with
      borrows := o'.borrows, borrowsAssetTiers := o'.borrowsAssetTiers, hasDebt := o'.hasDebt } := by
  obtain ⟨s, slots, hloop, -, rfl, rfl, -⟩ := refreshObligationBorrows_spec h
  have hinv := forOccupied_invariant (P := fun s : BorrowsPass ↦ Reserves.Rebooked rs s.reserves)
    (Q := ObligationLiquidity.Refreshed rs slot) ?free ?step (.refl rs) hloop
  · exact ⟨hinv.1, hinv.2, rfl⟩
  case free =>
    intro b _ hfree
    have hkey : b.borrowReserve = 0 := by simpa [ObligationLiquidity.occupied] using hfree
    exact ⟨rfl, fun _ ↦ rfl, le_rfl, fun hne ↦ absurd hkey hne⟩
  case step =>
    intro _ s b k s' b' _ _ hP hbody
    obtain ⟨r, r', hb, hk, hr, hbook, hstore, hfresh, hkey', hgrown, hrate, -⟩ :=
      refreshBorrow_slot hbody
    refine ⟨hstore ▸ hP.trans (.store hr hbook), hkey'.trans hb.symm,
      fun hz ↦ absurd (hb.symm.trans hz) hk, hgrown, fun _ ↦ ?_⟩
    obtain ⟨r₀, hr₀, _, _, _, _, _, rfl⟩ := hP.value_rev hr
    exact ⟨r₀, hb ▸ hr₀, hfresh.1, hfresh.2, hrate⟩

theorem refreshObligationBorrows_sums
    (hempty : ∀ b ∈ o.borrows, b.borrowReserve = 0 →
      b.marketValueSf = Fraction.zero ∧ b.borrowFactorAdjustedMarketValueSf = Fraction.zero) :
    borrows.borrowedAssetsMarketValueF.bits = (o'.borrows.map (·.marketValueSf.bits)).sum ∧
      borrows.borrowFactorAdjustedDebtValueF.bits =
        (o'.borrows.map (·.borrowFactorAdjustedMarketValueSf.bits)).sum := by
  obtain ⟨s, slots, hloop, -, rfl, rfl, -, hbf, hmv, -⟩ := refreshObligationBorrows_spec h
  rw [hbf, hmv]
  refine forOccupied_induct (P := fun l s ↦
    s.borrowedAssetsMarketValue.bits = (l.map (·.marketValueSf.bits)).sum ∧
      s.borrowFactorAdjustedDebtValue.bits =
        (l.map (·.borrowFactorAdjustedMarketValueSf.bits)).sum) ⟨rfl, rfl⟩ ?free ?step hloop
  case free =>
    rintro l s b hb hfree ⟨h1, h2⟩
    have hkey : b.borrowReserve = 0 := by simpa [ObligationLiquidity.occupied] using hfree
    obtain ⟨hm, hf⟩ := hempty b (List.mem_of_getElem? hb) hkey
    simp only [List.map_append, List.sum_append, List.map_cons, List.map_nil, List.sum_singleton,
      hm, hf]
    exact ⟨h1, h2⟩
  case step =>
    rintro l s b k s' b' - - hbody ⟨h1, h2⟩
    obtain ⟨r, r', -, -, -, -, -, -, -, -, -, hmv', hbf', -⟩ := refreshBorrow_slot hbody
    simp only [List.map_append, List.sum_append, List.map_cons, List.map_nil, List.sum_singleton]
    exact ⟨by rw [hmv', h1], by rw [hbf', h2]⟩

theorem refreshObligationBorrows_tagged (htiers : rs.TiersKnown)
    (htagged : SlotTable.Tagged ObligationLiquidity.borrowReserve (Word.max 8) o.borrows
      o.borrowsAssetTiers) :
    SlotTable.Tagged ObligationLiquidity.borrowReserve (Word.max 8) o.borrows
      o'.borrowsAssetTiers := by
  obtain ⟨s, slots, hloop, -, rfl, -⟩ := refreshObligationBorrows_spec h
  have hinv := forOccupied_invariant (Q := fun _ _ ↦ True) (P := fun s : BorrowsPass ↦
    s.reserves.TiersKnown ∧ SlotTable.Tagged ObligationLiquidity.borrowReserve (Word.max 8)
      o.borrows s.borrowsAssetTiers) (fun _ _ _ ↦ trivial) ?step ⟨htiers, htagged⟩ hloop
  · exact hinv.1.2
  case step =>
    rintro j s b k s' b' hb - ⟨hknown, htag⟩ hbody
    obtain ⟨r, r', hkey, hk, hr, hbook, hstore, -, -, -, -, -, -, htiers', -⟩ :=
      refreshBorrow_slot hbody
    have hknown' : s'.reserves.TiersKnown := hstore ▸ hknown.store hr hbook
    refine ⟨⟨hknown', ?_⟩, trivial⟩
    rw [htiers', Nat.zero_add]
    refine htag.retag hb ⟨fun ht ↦ ?_, fun hz ↦ absurd (hkey.symm.trans hz) hk⟩
    exact absurd ht (hknown' k r' (by rw [hstore, Reserves.store_same]))

theorem refreshObligationBorrows_hasDebt
    (hdebt : o.hasDebt = if o.borrowsEmpty then 0 else 1) :
    o'.hasDebt = if o'.borrowsEmpty then 0 else 1 := by
  have hforall := (refreshObligationBorrows_frame h).2.1
  have hempty : o'.borrowsEmpty = o.borrowsEmpty := by
    unfold Obligation.borrowsEmpty
    generalize o.borrows = l at hforall
    generalize o'.borrows = l' at hforall
    induction hforall with
    | nil => rfl
    | cons hb _ ih => rw [List.all_cons, List.all_cons, hb.key_eq, ih]
  rw [hempty]
  obtain ⟨s, slots, hloop, -, rfl, -⟩ := refreshObligationBorrows_spec h
  refine (forOccupied_invariant (Q := fun _ _ ↦ True) (P := fun s : BorrowsPass ↦
    s.hasDebt = if o.borrowsEmpty then 0 else 1) (fun _ _ _ ↦ trivial) ?_ hdebt hloop).1
  intro j s b k s' b' hb hocc _ hbody
  obtain ⟨r, r', hkey, hk, -, -, -, -, -, -, -, -, -, -, hdebt'⟩ := refreshBorrow_slot hbody
  refine ⟨?_, trivial⟩
  have : o.borrowsEmpty = false := by
    rw [Obligation.borrowsEmpty, List.all_eq_false]
    exact ⟨b, List.mem_of_getElem? hb, by simpa [ObligationLiquidity.occupied] using hocc⟩
  rw [hdebt', this]
  rfl

end Borrows

section Deposits

variable {check : MaxReservesAsCollateralCheck} {debt : Option U64}
  {deposits : RefreshObligationDepositsResult}
  (h : refreshObligationDeposits o market slot check group rs iter debt = .ok (o', rs', deposits))
include h

theorem refreshObligationDeposits_frame :
    Reserves.Retracked rs rs' ∧
    List.Forall₂ ObligationCollateral.Refreshed o.deposits o'.deposits ∧
    o' = { o with
      deposits := o'.deposits, depositsAssetTiers := o'.depositsAssetTiers } := by
  obtain ⟨-, s, slots, hloop, rfl, rfl, -⟩ := refreshObligationDeposits_spec h
  have hinv := forOccupied_invariant (P := fun s : DepositsPass ↦ Reserves.Retracked rs s.reserves)
    (Q := ObligationCollateral.Refreshed) ?free ?step (.refl rs) hloop
  · exact ⟨hinv.1, hinv.2, rfl⟩
  case free => exact fun _ _ _ ↦ ⟨rfl, fun _ ↦ rfl, rfl⟩
  case step =>
    intro _ s d k s' d' _ _ hP hbody
    obtain ⟨r, r', hd, hk, hr, hbook, hstore, hkey', hamount, -⟩ := refreshDeposit_slot hbody
    exact ⟨hstore ▸ hP.trans (.store hr hbook), hkey'.trans hd.symm,
      fun hz ↦ absurd (hd.symm.trans hz) hk, hamount⟩

theorem refreshObligationDeposits_sum
    (hempty : ∀ d ∈ o.deposits, d.depositReserve = 0 → d.marketValueSf = Fraction.zero) :
    deposits.depositedValueF.bits = (o'.deposits.map (·.marketValueSf.bits)).sum := by
  obtain ⟨-, s, slots, hloop, rfl, -, hdv, -⟩ := refreshObligationDeposits_spec h
  rw [hdv]
  refine forOccupied_induct (P := fun l s ↦
    s.depositedValue.bits = (l.map (·.marketValueSf.bits)).sum) rfl ?free ?step hloop
  case free =>
    intro l s d hd hfree h1
    have hkey : d.depositReserve = 0 := by simpa [ObligationCollateral.occupied] using hfree
    simp only [List.map_append, List.sum_append, List.map_cons, List.map_nil, List.sum_singleton,
      hempty d (List.mem_of_getElem? hd) hkey]
    exact h1
  case step =>
    intro l s d k s' d' _ _ hbody h1
    obtain ⟨r, r', -, -, -, -, -, -, -, hmv, -⟩ := refreshDeposit_slot hbody
    simp only [List.map_append, List.sum_append, List.map_cons, List.map_nil, List.sum_singleton]
    rw [hmv, h1]

theorem refreshObligationDeposits_tagged (htiers : rs.TiersKnown)
    (htagged : SlotTable.Tagged ObligationCollateral.depositReserve (Word.max 8) o.deposits
      o.depositsAssetTiers) :
    SlotTable.Tagged ObligationCollateral.depositReserve (Word.max 8) o.deposits
      o'.depositsAssetTiers := by
  obtain ⟨-, s, slots, hloop, rfl, -⟩ := refreshObligationDeposits_spec h
  have hinv := forOccupied_invariant (Q := fun _ _ ↦ True) (P := fun s : DepositsPass ↦
    s.reserves.TiersKnown ∧ SlotTable.Tagged ObligationCollateral.depositReserve (Word.max 8)
      o.deposits s.depositsAssetTiers) (fun _ _ _ ↦ trivial) ?step ⟨htiers, htagged⟩ hloop
  · exact hinv.1.2
  case step =>
    rintro j s d k s' d' hd - ⟨hknown, htag⟩ hbody
    obtain ⟨r, r', hkey, hk, hr, hbook, hstore, -, -, -, htiers'⟩ := refreshDeposit_slot hbody
    have hknown' : s'.reserves.TiersKnown := hstore ▸ hknown.store hr hbook.rebooked
    refine ⟨⟨hknown', ?_⟩, trivial⟩
    rw [htiers', Nat.zero_add]
    refine htag.retag hd ⟨fun ht ↦ ?_, fun hz ↦ absurd (hkey.symm.trans hz) hk⟩
    exact absurd ht (hknown' k r' (by rw [hstore, Reserves.store_same]))

end Deposits

end Klend
